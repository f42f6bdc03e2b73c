import StateAddress.Value
import StateAddress.Text.Quoted

/-!
# Written forms of values

Messages show a value in one of two forms.  The quoted form tells values of different kinds
apart; the displayed form is the same except that a text stands as it is.

## Main definitions

* `Value.quoted` : the form with quotation marks and brackets.
* `Value.displayed` : the form that shows a text as it is.
* `Value.isWritable` : whether a value has these forms.
-/

namespace StateAddress

namespace Value

/-- A sequence of written items between brackets, separated by commas. -/
def bracketed (left right : Text) (items : List Text) : Text :=
  left ++ List.intercalate ", " items ++ right

mutual

/-- The form of a value with quotation marks and brackets.  A view is shown without its place in
memory. -/
def quoted : Value → Text
  | null => "None"
  | bool b => if b then "True" else "False"
  | int n => Text.ofInt n
  | decimal d => d.numeral
  | text t => Quoted.text t
  | octets .fixed b => Quoted.bytes b
  | octets .growable b => Quoted.growableBytes b
  | octets .view _ => "<memory>"
  | view _ => "<memory>"
  | list items => bracketed "[" "]" (quotedItems items)
  | tuple items => bracketed "(" (if items.length = 1 then ",)" else ")") (quotedItems items)
  | dict entries => bracketed "\x7b" "\x7d" (quotedEntries entries)

/-- The quoted forms of the items of a sequence. -/
def quotedItems : List Value → List Text
  | [] => []
  | v :: rest => v.quoted :: quotedItems rest

/-- The entries of a table, each key before its value. -/
def quotedEntries : List (Value × Value) → List Text
  | [] => []
  | (key, v) :: rest => (key.quoted ++ ": " ++ v.quoted) :: quotedEntries rest

end

/-! ### Values that cannot be written -/

/-- The number of decimal digits that a numeral may have. -/
def digitLimit : Nat := 4300

mutual

/-- Whether a value has written forms.  Integers with too many digits have none, and so have the
sequences and tables that hold one. -/
def isWritable : Value → Bool
  | int n => n.natAbs < Nat.pow 10 digitLimit
  | list items => areWritable items
  | tuple items => areWritable items
  | dict entries => haveWritable entries
  | _ => true

/-- Whether all items of a sequence have written forms. -/
def areWritable : List Value → Bool
  | [] => true
  | v :: rest => v.isWritable && areWritable rest

/-- Whether all keys and values of a table have written forms. -/
def haveWritable : List (Value × Value) → Bool
  | [] => true
  | (key, v) :: rest => key.isWritable && v.isWritable && haveWritable rest

end

/-- The form of a value that shows a text as it is. -/
def displayed : Value → Text
  | text t => t
  | v => v.quoted

@[simp] theorem isWritable_text (t : Text) : (text t).isWritable = true := by
  rw [isWritable]
  all_goals simp

@[simp] theorem displayed_text (t : Text) : (text t).displayed = t := rfl

@[simp] theorem displayed_int (n : Int) : (int n).displayed = Text.ofInt n := by
  simp [displayed, quoted]

end Value

end StateAddress
