/-!
# Texts

A text is a sequence of Unicode code points in which lone surrogates may occur, as they do in
words that a shell hands over undecoded.  Texts without surrogates are the ones that have a
UTF-8 form (`StateAddress.Text.Utf8`) and that come from a `String`.

## Main definitions

* `CodePoint` : a Unicode scalar value or a lone surrogate.
* `Text` : a list of code points, with `Text.ofString` and `Text.toString?`.
* `Text.ofNat`, `Text.ofInt` : decimal numerals.
* `Text.escapeSurrogates` : a text with each surrogate spelled out, for an output that cannot
  hold one.

## Main results

* `Text.map_scalar_scalars` : a text without lone surrogates is the text of its characters.
-/

namespace StateAddress

/-- One element of a text: a Unicode scalar value, or the surrogate `0xD800 + offset`. -/
inductive CodePoint where
  | scalar (c : Char)
  | surrogate (offset : Fin 2048)
  deriving DecidableEq, Repr

namespace CodePoint

/-- The number of a code point. -/
def value : CodePoint → Nat
  | scalar c => c.toNat
  | surrogate offset => 0xD800 + offset.val

/-- Whether a code point is a lone surrogate. -/
def isSurrogate : CodePoint → Bool
  | scalar _ => false
  | surrogate _ => true

/-- The code point of a number below `0x110000`. -/
def ofNat? (n : Nat) : Option CodePoint :=
  if h : n.isValidChar then some (.scalar (Char.ofNatAux n h))
  else if h : 0xD800 ≤ n ∧ n < 0xE000 then some (.surrogate ⟨n - 0xD800, by omega⟩)
  else none

@[simp] theorem isSurrogate_scalar (c : Char) : (scalar c).isSurrogate = false := rfl

@[simp] theorem isSurrogate_surrogate (offset : Fin 2048) :
    (surrogate offset).isSurrogate = true := rfl

end CodePoint

/-- A sequence of code points. -/
abbrev Text := List CodePoint

namespace Text

/-! ### Strings -/

/-- The text of a string. -/
def ofString (s : String) : Text := s.toList.map .scalar

instance : Coe String Text := ⟨ofString⟩

/-- Whether no lone surrogate occurs. -/
def isWellFormed (t : Text) : Bool := t.all (!·.isSurrogate)

/-- The characters of a text, each surrogate left out. -/
def scalars (t : Text) : List Char :=
  t.filterMap fun
    | .scalar c => some c
    | .surrogate _ => none

/-- The string of a text without lone surrogates. -/
def toString? (t : Text) : Option String :=
  if t.isWellFormed then some (String.ofList t.scalars) else none

@[simp] theorem scalars_map_scalar : (cs : List Char) → scalars (cs.map .scalar) = cs
  | [] => rfl
  | c :: cs => congrArg (c :: ·) (scalars_map_scalar cs)

@[simp] theorem isWellFormed_map_scalar (cs : List Char) :
    isWellFormed (cs.map .scalar) = true := by
  simp [isWellFormed]

/-- A text without lone surrogates is the text of its characters. -/
theorem map_scalar_scalars : (t : Text) → t.isWellFormed = true → t.scalars.map .scalar = t
  | [], _ => rfl
  | .scalar c :: t, h => by
      have ht : isWellFormed t = true := by simpa [isWellFormed] using h
      simpa [scalars] using map_scalar_scalars t ht
  | .surrogate _ :: _, h => by simp [isWellFormed] at h

/-! ### Numerals -/

/-- The decimal numeral of a natural number. -/
def ofNat (n : Nat) : Text := (Nat.toDigits 10 n).map .scalar

/-- The decimal numeral of an integer, with a minus sign below zero. -/
def ofInt : Int → Text
  | .ofNat n => ofNat n
  | .negSucc n => "-" ++ ofNat (n + 1)

/-! ### Digits -/

/-- The sixteen digits in lower case. -/
def hexAlphabet : List Char :=
  ['0', '1', '2', '3', '4', '5', '6', '7', '8', '9', 'a', 'b', 'c', 'd', 'e', 'f']

/-- The lower-case digit of a number below sixteen. -/
def hexDigit (n : Nat) : Char := hexAlphabet.getD n '0'

/-- The last `width` digits of a number in base sixteen. -/
def hexNumeral : (width : Nat) → (n : Nat) → Text
  | 0, _ => []
  | width + 1, n => hexNumeral width (n / 16) ++ [.scalar (hexDigit (n % 16))]

@[simp] theorem length_hexNumeral : (width n : Nat) → (hexNumeral width n).length = width
  | 0, _ => rfl
  | width + 1, n => by simp [hexNumeral, length_hexNumeral width]

/-! ### Surrogates spelled out -/

/-- A backslash, a `u` and the four digits of a code point below `0x10000`. -/
def escapedUnit (n : Nat) : Text := "\\u" ++ hexNumeral 4 n

/-- Each lone surrogate written as `\u` and four digits, all else kept. -/
def escapeSurrogates (t : Text) : Text :=
  t.flatMap fun p => if p.isSurrogate then escapedUnit p.value else [p]

theorem isWellFormed_hexNumeral : (width n : Nat) → (hexNumeral width n).isWellFormed = true
  | 0, _ => rfl
  | width + 1, n => by
      have ih := isWellFormed_hexNumeral width (n / 16)
      simp only [isWellFormed] at ih
      simp [hexNumeral, isWellFormed, ih]

end Text

end StateAddress
