import StateAddress.Text

/-!
# The UTF-8 form of a text

A text has a UTF-8 form exactly if no lone surrogate occurs in it.  A refusal names the first
run of adjacent surrogates.  Reading back is only asked of byte strings that were cut out of a
UTF-8 form, where the one question is whether the cut fell between two characters.

## Main definitions

* `Bytes` : byte strings.
* `Utf8.encode` : the UTF-8 form of a text, or the surrogates that stand in the way.
* `Utf8.isComplete` : whether a byte string is the UTF-8 form of some characters.

## Main results

* `Utf8.encode_eq_ok_iff` : success is well-formedness.
* `Utf8.isComplete_iff` : the complete byte strings are the images of `Utf8.ofChars`.
* `Utf8.ofChars_injective` : different characters have different forms.
-/

namespace StateAddress

/-- A byte string. -/
abbrev Bytes := List UInt8

namespace Utf8

/-- The UTF-8 form of a sequence of characters. -/
def ofChars (cs : List Char) : Bytes := cs.flatMap String.utf8EncodeChar

/-- The bytes of one code point; a surrogate has none. -/
def ofCodePoint : CodePoint → Bytes
  | .scalar c => String.utf8EncodeChar c
  | .surrogate _ => []

/-- A run of adjacent surrogates: the first of them, its position in the text and their number. -/
structure SurrogateRun where
  first : CodePoint
  position : Nat
  count : Nat
  deriving DecidableEq, Repr

/-- The first run of adjacent surrogates of a text. -/
def firstSurrogates (t : Text) : Option SurrogateRun :=
  match t.dropWhile (!·.isSurrogate) with
  | [] => none
  | p :: rest =>
      some ⟨p, (t.takeWhile (!·.isSurrogate)).length, (rest.takeWhile (·.isSurrogate)).length + 1⟩

/-- The UTF-8 form of a text. -/
def encode (t : Text) : Except SurrogateRun Bytes :=
  match firstSurrogates t with
  | some run => .error run
  | none => .ok (t.flatMap ofCodePoint)

/-- Whether a byte string is the UTF-8 form of a sequence of characters. -/
def isComplete (b : Bytes) : Bool := b.toByteArray.validateUTF8

/-! ### Success and refusal -/

theorem dropWhile_isScalar_eq_nil_iff {t : Text} :
    t.dropWhile (!·.isSurrogate) = [] ↔ t.isWellFormed = true := by
  induction t with
  | nil => simp [Text.isWellFormed]
  | cons p t ih =>
      rw [Text.isWellFormed] at ih ⊢
      cases p <;> simp_all

theorem firstSurrogates_eq_none_iff {t : Text} :
    firstSurrogates t = none ↔ t.isWellFormed = true := by
  rw [← dropWhile_isScalar_eq_nil_iff, firstSurrogates]
  split <;> simp_all

theorem encode_eq_ok_iff {t : Text} {b : Bytes} :
    encode t = .ok b ↔ t.isWellFormed = true ∧ b = t.flatMap ofCodePoint := by
  rw [encode]
  cases h : firstSurrogates t with
  | none => simp [firstSurrogates_eq_none_iff.1 h, eq_comm]
  | some run =>
      have : t.isWellFormed ≠ true := fun hw => by
        rw [firstSurrogates_eq_none_iff.2 hw] at h
        cases h
      simp [this]

@[simp] theorem encode_map_scalar (cs : List Char) :
    encode (cs.map .scalar) = .ok (ofChars cs) := by
  rw [encode_eq_ok_iff]
  refine ⟨Text.isWellFormed_map_scalar cs, ?_⟩
  simp [ofChars, List.flatMap_map, ofCodePoint]

@[simp] theorem encode_ofString (s : String) : encode (Text.ofString s) = .ok (ofChars s.toList) :=
  encode_map_scalar s.toList

/-! ### Reading back -/

@[simp] theorem ofChars_append (cs ds : List Char) :
    ofChars (cs ++ ds) = ofChars cs ++ ofChars ds := by
  simp [ofChars]

/-- The complete byte strings are the UTF-8 forms of sequences of characters. -/
theorem isComplete_iff {b : Bytes} : isComplete b = true ↔ ∃ cs, b = ofChars cs := by
  rw [isComplete, ByteArray.validateUTF8_eq_true_iff]
  constructor
  · rintro ⟨cs, h⟩
    refine ⟨cs, ?_⟩
    have h' := congrArg (fun a : ByteArray => a.data.toList) h
    simpa [List.utf8Encode, ofChars] using h'
  · rintro ⟨cs, rfl⟩
    exact ⟨cs, by simp [List.utf8Encode, ofChars]⟩

/-- Different sequences of characters have different UTF-8 forms. -/
theorem ofChars_injective {cs ds : List Char} (h : ofChars cs = ofChars ds) : cs = ds := by
  have h' : String.ofList cs = String.ofList ds := by
    rw [← String.toByteArray_inj]
    simpa [List.utf8Encode, ofChars] using congrArg List.toByteArray h
  simpa using congrArg String.toList h'

end Utf8

end StateAddress
