import StateAddress.Decimal
import StateAddress.Value.View

/-!
# Values

What callers may pass where an identifier, a length, a digest or a constant is expected.  The
operations accept any value and answer an unsuitable one with a fault, so the values are one
type with a name for each of its kinds.  Left out are numbers that are not finite, values with
conversions of their own, and what the items of a view are beyond their size.

## Main definitions

* `Value` : the values.
* `Value.typeName` : the name of a value's kind in messages.
* `Value.number?` : the number of a value that is one.
* `Value.content?` : the bytes of a value that holds bytes.
-/

namespace StateAddress

/-- The three kinds of byte string: fixed, growable, and a view of a plain row of bytes. -/
inductive OctetKind where
  | fixed
  | growable
  | view
  deriving DecidableEq, Repr

/-- The name of a kind of byte string in messages. -/
def OctetKind.typeName : OctetKind → String
  | fixed => "bytes"
  | growable => "bytearray"
  | view => "memoryview"

/-- A value of any kind. -/
inductive Value where
  | null
  | bool (b : Bool)
  | int (n : Int)
  | decimal (d : Decimal)
  | text (t : Text)
  | octets (kind : OctetKind) (b : Bytes)
  /-- A view of items that are not single bytes in a row. -/
  | view (w : View)
  | list (items : List Value)
  | tuple (items : List Value)
  | dict (entries : List (Value × Value))
  deriving Repr

namespace Value

instance : Inhabited Value := ⟨null⟩

/-- A fixed byte string. -/
abbrev bytes (b : Bytes) : Value := octets .fixed b

/-- The text of a string. -/
abbrev ofString (s : String) : Value := text (Text.ofString s)

/-- The name of a value's kind in messages. -/
def typeName : Value → String
  | null => "NoneType"
  | bool _ => "bool"
  | int _ => "int"
  | decimal _ => "float"
  | text _ => "str"
  | octets kind _ => kind.typeName
  | view _ => OctetKind.view.typeName
  | list _ => "list"
  | tuple _ => "tuple"
  | dict _ => "dict"

/-- The integer of a value that counts as one; the truth values count as zero and one. -/
def int? : Value → Option Int
  | bool b => some (if b then 1 else 0)
  | int n => some n
  | _ => none

/-- The number of a value that is one. -/
def number? : Value → Option Decimal.Scaled
  | bool b => some (.ofInt (if b then 1 else 0))
  | int n => some (.ofInt n)
  | decimal d => some d.toScaled
  | _ => none

/-- The bytes of a value that holds bytes, in the order of its items. -/
def content? : Value → Option Bytes
  | octets _ b => some b
  | view w => some w.content
  | _ => none

/-- Whether a value is the number of a count. -/
def isCount (v : Value) (n : Nat) : Bool :=
  match v.number? with
  | some x => x.eq (.ofInt n)
  | none => false

@[simp] theorem number?_int (n : Int) : (int n).number? = some (.ofInt n) := rfl

theorem number?_of_int? {v : Value} {n : Int} (h : v.int? = some n) :
    v.number? = some (.ofInt n) := by
  cases v <;> cases h <;> rfl

@[simp] theorem isCount_int (m : Int) (n : Nat) : (int m).isCount n = decide (m = n) := by
  simp [isCount]

end Value

end StateAddress
