import StateAddress.Text.DecimalDigit
import StateAddress.Text.Quoted

/-!
# Words of a command line

A word is an operand, an option or a separator.  Which it is depends on the options that are
known where it stands: a word that begins with a dash is an option, unless it is a single dash,
a negative number or holds a space.  Long options may be shortened as long as one option fits,
and take a value after an equals sign; short ones may be written together.

## Main definitions

* `Flag` : the options, and `FlagTable` : the names of those that are known.
* `Reading` : what a word is.
* `Word.read`, `Word.readAll` : what a word is, and what the words of a command line are.
* `UsageError` : why a command line is refused.
* `Flag.cluster` : short options written together.

## Main results

* `Word.readAll_separator` : after a separator all words are operands.
-/

namespace StateAddress

/-! ### Options -/

/-- The options. -/
inductive Flag where
  | help
  | verbose
  | hash
  deriving DecidableEq, Repr

/-- The names of the options that are known in a place, in order. -/
abbrev FlagTable := List (Text × Flag)

namespace Flag

/-- How messages name an option. -/
def title : Flag → String
  | help => "-h/--help"
  | verbose => "-v/--verbose"
  | hash => "--hash"

/-- Whether an option takes a value. -/
def takesValue : Flag → Bool
  | hash => true
  | _ => false

end Flag

/-- The option of a name. -/
def FlagTable.lookup (table : FlagTable) (name : Text) : Option Flag :=
  (List.find? (fun entry => entry.1 = name) table).map (·.2)

/-! ### Usage errors -/

/-- Why a command line is refused. -/
inductive UsageError where
  /-- A shortened option that several options fit. -/
  | ambiguous (word : Text) (names : List Text)
  /-- A value that is not among the choices of an argument. -/
  | invalidChoice (argument : String) (given : Text) (choices : List String)
  /-- An option without its value. -/
  | missingValue (argument : String)
  /-- A value for an option that takes none. -/
  | ignoredValue (argument : String) (value : Text)
  /-- Arguments that are required and were not given. -/
  | missingArguments (names : List String)
  /-- Words that are left over. -/
  | unrecognized (words : List Text)
  deriving Repr

/-- The message of a usage error. -/
def UsageError.message : UsageError → Text
  | ambiguous word names =>
      "ambiguous option: " ++ word ++ " could match " ++ List.intercalate ", " names
  | invalidChoice argument given choices =>
      "argument " ++ argument ++ ": invalid choice: " ++ Quoted.text given ++ " (choose from " ++
        List.intercalate ", " (choices.map fun c => Quoted.text (Text.ofString c)) ++ ")"
  | missingValue argument => "argument " ++ argument ++ ": expected one argument"
  | ignoredValue argument value =>
      "argument " ++ argument ++ ": ignored explicit argument " ++ Quoted.text value
  | missingArguments names =>
      "the following arguments are required: " ++
        List.intercalate ", " (names.map Text.ofString)
  | unrecognized words => "unrecognized arguments: " ++ List.intercalate " " words

/-! ### Readings -/

/-- What a word is. -/
inductive Reading where
  /-- An argument of its own. -/
  | operand
  /-- The mark after which all words are operands. -/
  | separator
  /-- An option under one of its names, with the value attached to it. -/
  | flag (f : Flag) (name : Text) (attached : Option Text)
  /-- An option that is not known. -/
  | unknown
  deriving DecidableEq, Repr

namespace Word

/-- The dash. -/
def dash : CodePoint := .scalar '-'

/-- The mark after which all words are operands. -/
def separator : Text := [dash, dash]

/-- What stands before and after the first equals sign. -/
def cutAtEquals (w : Text) : Text × Option Text :=
  (w.takeWhile (· ≠ .scalar '='), (w.dropWhile (· ≠ .scalar '=')).tail?)

/-- Whether digits make up a text, which is not empty. -/
def isNumeral (t : Text) : Bool := !t.isEmpty && t.all CodePoint.isDecimalDigit

/-- A text without a line feed at its end. -/
def dropLineFeed (t : Text) : Text :=
  if t.getLast? = some (.scalar '\n') then t.dropLast else t

/-- Whether what follows a dash makes it a negative number: digits, with a point among or before
them. -/
def isMagnitude (t : Text) : Bool :=
  let whole := t.takeWhile (· ≠ .scalar '.')
  match t.dropWhile (· ≠ .scalar '.') with
  | [] => isNumeral whole
  | _ :: fraction => whole.all CodePoint.isDecimalDigit && isNumeral fraction

/-- Whether a word that begins with a dash is an operand all the same. -/
def isDashedOperand (w : Text) : Bool :=
  isMagnitude (dropLineFeed w.tail) || w.contains (.scalar ' ')

/-- The options that a shortened word may stand for. -/
def candidates (table : FlagTable) (w : Text) : List (Flag × Text × Option Text) :=
  if w.tail.head? = some dash then
    let (stem, value) := cutAtEquals w
    table.filterMap fun (name, f) => if stem.isPrefixOf name then some (f, name, value) else none
  else
    table.filterMap fun (name, f) =>
      if name = w.take 2 then some (f, name, some (w.drop 2))
      else if w.isPrefixOf name then some (f, name, none)
      else none

/-- What a word is that begins with a dash and is no option by name. -/
def readDashed (table : FlagTable) (w : Text) : Except UsageError Reading :=
  let (name, value) := cutAtEquals w
  match value, table.lookup name with
  | some v, some f => .ok (.flag f name (some v))
  | _, _ =>
      match candidates table w with
      | [] => .ok (if isDashedOperand w then .operand else .unknown)
      | [(f, name, value)] => .ok (.flag f name value)
      | several => .error (.ambiguous w (several.map (·.2.1)))

/-- What a word is, other than the separator. -/
def read (table : FlagTable) (w : Text) : Except UsageError Reading :=
  if w.head? ≠ some dash then .ok .operand
  else match table.lookup w with
    | some f => .ok (.flag f w none)
    | none => if w.length = 1 then .ok .operand else readDashed table w

/-- What the words of a command line are. -/
def readAll (table : FlagTable) : List Text → Except UsageError (List (Text × Reading))
  | [] => .ok []
  | w :: rest =>
      if w = separator then .ok ((w, .separator) :: rest.map fun v => (v, .operand))
      else do
        let reading ← read table w
        let readings ← readAll table rest
        return (w, reading) :: readings

/-- After a separator all words are operands. -/
@[simp] theorem readAll_separator (table : FlagTable) (rest : List Text) :
    readAll table (separator :: rest) =
      .ok ((separator, .separator) :: rest.map fun v => (v, .operand)) := by
  simp [readAll]

end Word

/-! ### Short options written together -/

/-- The options that a short option with further letters stands for. -/
def Flag.cluster (table : FlagTable) : (f : Flag) → (letters : Text) →
    Except UsageError (List Flag)
  | f, [] => .ok [f]
  | f, letter :: rest =>
      match table.lookup [Word.dash, letter] with
      | some g => (cluster table g rest).map (f :: ·)
      | none => .error (.ignoredValue f.title (letter :: rest))

/-- The options that one word with a value attached stands for, where none of them takes it. -/
def Flag.withValue (table : FlagTable) (f : Flag) (name value : Text) :
    Except UsageError (List Flag) :=
  if name.tail.head? = some Word.dash || value.isEmpty then
    .error (.ignoredValue f.title value)
  else f.cluster table value

end StateAddress
