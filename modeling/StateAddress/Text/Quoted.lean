import StateAddress.Text.Utf8
import StateAddress.Text.Printable

/-!
# Quoted texts and byte strings

The unambiguous written form of a text or of a byte string, in which messages show a value
that is not simply printed.

## Main definitions

* `Quoted.quote` : the quotation mark in use.
* `Quoted.escape` : the written form of one code point between quotation marks.
* `Quoted.text`, `Quoted.bytes`, `Quoted.growableBytes` : the written forms.

## Main results

* `Quoted.isWellFormed_text` : a quoted text has a UTF-8 form, whatever it quotes.
-/

namespace StateAddress

namespace Quoted

/-- The apostrophe, which is the usual quotation mark. -/
def apostrophe : Char := '\x27'

/-- The double quotation mark, taken where the apostrophe occurs and this one does not. -/
def doubleMark : Char := '\x22'

/-- The quotation mark in use, given which of the two occur inside. -/
def quote (hasApostrophe hasDoubleMark : Bool) : Char :=
  if hasApostrophe && !hasDoubleMark then doubleMark else apostrophe

/-- The characters with an escape of two characters whatever the quotation mark is. -/
def shortEscape? (c : Char) : Option Char :=
  if c = '\\' then some '\\'
  else if c = '\n' then some 'n'
  else if c = '\r' then some 'r'
  else if c = '\t' then some 't'
  else none

/-- A code point by number: two, four or eight digits in base sixteen. -/
def numeric (n : Nat) : Text :=
  if n < 0x100 then "\\x" ++ Text.hexNumeral 2 n
  else if n < 0x10000 then "\\u" ++ Text.hexNumeral 4 n
  else "\\U" ++ Text.hexNumeral 8 n

/-- The written form of one code point between two marks `mark`. -/
def escape (mark : Char) : CodePoint → Text
  | .surrogate offset => numeric (CodePoint.surrogate offset).value
  | .scalar c =>
      if c = mark then [.scalar '\\', .scalar c]
      else match shortEscape? c with
        | some e => [.scalar '\\', .scalar e]
        | none => if isPrintable c then [.scalar c] else numeric c.toNat

/-- A text between quotation marks. -/
def text (t : Text) : Text :=
  let mark := quote (t.contains (.scalar apostrophe)) (t.contains (.scalar doubleMark))
  .scalar mark :: t.flatMap (escape mark) ++ [.scalar mark]

/-- The written form of one byte between two marks `mark`: as the character of that number
inside ASCII, by number above. -/
def escapeByte (mark : Char) (b : UInt8) : Text :=
  if b.toNat < 0x80 then escape mark (.scalar (Char.ofNat b.toNat)) else numeric b.toNat

/-- The quotation mark around a byte string. -/
def byteQuote (s : Bytes) : Char := quote (s.contains 0x27) (s.contains 0x22)

/-- A byte string between quotation marks `mark`, after the letter `b`, the mark `escaped` being
escaped inside. -/
def between (mark escaped : Char) (s : Bytes) : Text :=
  .scalar 'b' :: .scalar mark :: s.flatMap (escapeByte escaped) ++ [.scalar mark]

/-- A fixed byte string: the marks around it are escaped inside. -/
def bytes (s : Bytes) : Text := between (byteQuote s) (byteQuote s) s

/-- A growable byte string: the apostrophe is escaped inside, whatever marks are around it. -/
def growableBytes (s : Bytes) : Text :=
  "bytearray(" ++ between (byteQuote s) apostrophe s ++ ")"

/-! ### Quoted forms hold no surrogates -/

theorem isWellFormed_append (s t : Text) :
    Text.isWellFormed (s ++ t) = (s.isWellFormed && t.isWellFormed) := by
  simp [Text.isWellFormed]

theorem isWellFormed_numeric (n : Nat) : (numeric n).isWellFormed = true := by
  rw [numeric]
  split
  · rw [isWellFormed_append, Text.isWellFormed_hexNumeral]
    rfl
  · split <;> rw [isWellFormed_append, Text.isWellFormed_hexNumeral] <;> rfl

theorem isWellFormed_escape (mark : Char) (p : CodePoint) :
    (escape mark p).isWellFormed = true := by
  cases p with
  | surrogate offset => exact isWellFormed_numeric _
  | scalar c =>
      rw [escape]
      split
      · rfl
      · split
        · rfl
        · split
          · rfl
          · exact isWellFormed_numeric _

/-- A quoted text has a UTF-8 form, whatever it quotes. -/
theorem isWellFormed_text (t : Text) : (text t).isWellFormed = true := by
  have h : ∀ mark, Text.isWellFormed (t.flatMap (escape mark)) = true := fun mark => by
    simp only [Text.isWellFormed, List.all_flatMap, List.all_eq_true]
    intro p _
    simpa [Text.isWellFormed] using isWellFormed_escape mark p
  rw [text, List.cons_append, ← List.singleton_append, isWellFormed_append,
    isWellFormed_append, h]
  rfl

end Quoted

end StateAddress
