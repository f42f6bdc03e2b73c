import StateAddress.Proofs.Classification

/-!
# Reading hexadecimal texts

The hexadecimal texts are those made of pairs of digits in either case, and each pair stands for a
byte (`Hex.Reads`).  Reading accepts exactly these texts, gives exactly these bytes, and says of
every other value why it is refused.  The checks before the reading are strong enough for a reader
that is lenient about blanks: on a text that has passed them it never fails, and it finds nothing to
skip.

## Main definitions

* `Hex.IsDigitOf`, `Hex.Reads`, `Hex.IsText` : digits, and the texts that stand for byte strings.
* `Hex.lenient` : the reading that skips blanks between the pairs.
* `Text.upper` : a text with its small letters made capital.
* `Hex.IsExactReader` : what it means to read the hexadecimal texts, and them only.

## Main results

* `Hex.decode_eq_ok_iff` : the bytes that are read are those that the text stands for.
* `Hex.Reads.encode_eq` : written again, they are the text in small letters.
* `Hex.Reads.lenient_eq` : a lenient reader finds the same.
* `Hex.isExactReader_ofValue` : the reader of values is exact.
-/

namespace StateAddress

/-! ### Capital letters -/

/-- A code point, a small letter of the Latin alphabet made capital. -/
def CodePoint.upper : CodePoint → CodePoint
  | scalar c => scalar c.toUpper
  | surrogate offset => surrogate offset

/-- A text with its small letters made capital. -/
def Text.upper (t : Text) : Text := t.map CodePoint.upper

namespace Hex

/-! ### Digits -/

/-- The sixteen digits in upper case. -/
def capitalAlphabet : List Char :=
  ['0', '1', '2', '3', '4', '5', '6', '7', '8', '9', 'A', 'B', 'C', 'D', 'E', 'F']

/-- Whether a code point is the digit of a number, in one of the two cases. -/
def IsDigitOf (p : CodePoint) (n : Nat) : Prop :=
  ∃ c, p = .scalar c ∧ (Text.hexAlphabet[n]? = some c ∨ capitalAlphabet[n]? = some c)

theorem IsDigitOf.lt {p : CodePoint} {n : Nat} (h : IsDigitOf p n) : n < 16 := by
  obtain ⟨c, -, hc | hc⟩ := h
  · exact (List.getElem?_eq_some_iff.mp hc).1
  · exact (List.getElem?_eq_some_iff.mp hc).1

theorem toNat_lt_of_charValue? {c : Char} {n : Nat} (h : charValue? c = some n) :
    c.toNat < 128 := by
  have hle (d : Char) (hd : d.toNat < 128) (hc : c ≤ d) : c.toNat < 128 :=
    Nat.lt_of_le_of_lt (Char.le_def.mp hc) hd
  rw [charValue?] at h
  split at h
  · next hc => exact hle '9' (by decide) hc.2
  · split at h
    · next hc => exact hle 'f' (by decide) hc.2
    · split at h
      · next hc => exact hle 'F' (by decide) hc.2
      · cases h

/-- The characters with a number are the digits of that number. -/
theorem charValue?_eq_some_iff {c : Char} {n : Nat} :
    charValue? c = some n ↔ Text.hexAlphabet[n]? = some c ∨ capitalAlphabet[n]? = some c := by
  constructor
  · intro h
    have hascii : ∀ k < 128, (charValue? (Char.ofNat k)).all (fun m =>
        Text.hexAlphabet[m]? = some (Char.ofNat k) ∨ capitalAlphabet[m]? = some (Char.ofNat k)) =
          true := by decide
    have hc := hascii c.toNat (toNat_lt_of_charValue? h)
    rw [Char.ofNat_toNat, h] at hc
    exact of_decide_eq_true hc
  · intro h
    have hsmall : ∀ m < 16, charValue? (Text.hexAlphabet.getD m '0') = some m := by decide
    have hcapital : ∀ m < 16, charValue? (capitalAlphabet.getD m '0') = some m := by decide
    rcases h with h | h
    · have hn := hsmall n (List.getElem?_eq_some_iff.mp h).1
      rwa [List.getD_eq_getElem?_getD, h] at hn
    · have hn := hcapital n (List.getElem?_eq_some_iff.mp h).1
      rwa [List.getD_eq_getElem?_getD, h] at hn

theorem digitValue?_eq_some_iff {p : CodePoint} {n : Nat} :
    digitValue? p = some n ↔ IsDigitOf p n := by
  cases p with
  | scalar c =>
      refine charValue?_eq_some_iff.trans ⟨fun h => ⟨c, rfl, h⟩, ?_⟩
      rintro ⟨d, hd, h⟩
      cases hd
      exact h
  | surrogate offset => exact ⟨nofun, nofun⟩

theorem isDigit_iff {p : CodePoint} : isDigit p = true ↔ ∃ n, IsDigitOf p n := by
  rw [isDigit, Option.isSome_iff_exists]
  exact exists_congr fun n => digitValue?_eq_some_iff

theorem IsDigitOf.digitValue_eq {p : CodePoint} {n : Nat} (h : IsDigitOf p n) :
    digitValue p = n := by
  rw [digitValue, digitValue?_eq_some_iff.mpr h]
  rfl

theorem IsDigitOf.lower_eq {p : CodePoint} {n : Nat} (h : IsDigitOf p n) :
    p.lower = .scalar (Text.hexDigit n) := by
  have hlt := h.lt
  obtain ⟨c, rfl, hc | hc⟩ := h
  · have hsmall : Text.hexDigit n = c := by
      rw [Text.hexDigit, List.getD_eq_getElem?_getD, hc]
      rfl
    rw [← hsmall, lower_hexDigit n hlt]
  · have hcapital : ∀ m < 16, (capitalAlphabet.getD m '0').toLower = Text.hexDigit m := by decide
    have hn := hcapital n hlt
    rw [List.getD_eq_getElem?_getD, hc] at hn
    exact congrArg CodePoint.scalar hn

/-! ### Hexadecimal texts -/

/-- A text *reads* as a byte string when it is made of a pair of digits for each byte. -/
inductive Reads : Text → Bytes → Prop
  | nil : Reads [] []
  | pair {high low : CodePoint} {m n : Nat} {rest : Text} {b : Bytes} (hhigh : IsDigitOf high m)
      (hlow : IsDigitOf low n) (hrest : Reads rest b) :
      Reads (high :: low :: rest) (UInt8.ofNat (16 * m + n) :: b)

/-- Whether a value is a text of an even number of code points, all of which are digits. -/
def IsText : Value → Prop
  | .text t => t.length % 2 = 0 ∧ ∀ p ∈ t, ∃ n, IsDigitOf p n
  | _ => False

theorem all_isDigit_iff {t : Text} :
    t.all isDigit = true ↔ ∀ p ∈ t, ∃ n, IsDigitOf p n :=
  List.all_eq_true.trans (forall₂_congr fun _ _ => isDigit_iff)

theorem reads_pairs : (t : Text) → IsText (.text t) → Reads t (pairs t)
  | [], _ => .nil
  | [_], h => absurd h.1 Nat.one_ne_zero
  | high :: low :: rest, ⟨heven, hdigits⟩ => by
      obtain ⟨m, hm⟩ := hdigits high List.mem_cons_self
      obtain ⟨n, hn⟩ := hdigits low (List.mem_cons_of_mem _ List.mem_cons_self)
      have hrest : IsText (.text rest) := by
        refine ⟨?_, fun p hp => hdigits p (List.mem_cons_of_mem _ (List.mem_cons_of_mem _ hp))⟩
        rw [List.length_cons, List.length_cons] at heven
        omega
      rw [pairs, hm.digitValue_eq, hn.digitValue_eq]
      exact .pair hm hn (reads_pairs rest hrest)

namespace Reads

variable {s t : Text} {a b : Bytes}

theorem length_eq (h : Reads t b) : t.length = 2 * b.length := by
  induction h with
  | nil => rfl
  | pair hhigh hlow hrest ih =>
      rw [List.length_cons, List.length_cons, List.length_cons, ih]
      omega

theorem isText (h : Reads t b) : IsText (.text t) := by
  refine ⟨by rw [h.length_eq]; omega, ?_⟩
  induction h with
  | nil => nofun
  | @pair high low m n rest b hhigh hlow hrest ih =>
      intro p hp
      rcases List.mem_cons.mp hp with rfl | hp
      · exact ⟨m, hhigh⟩
      · rcases List.mem_cons.mp hp with rfl | hp
        · exact ⟨n, hlow⟩
        · exact ih p hp

theorem pairs_eq (h : Reads t b) : pairs t = b := by
  induction h with
  | nil => rfl
  | pair hhigh hlow hrest ih => rw [pairs, hhigh.digitValue_eq, hlow.digitValue_eq, ih]

theorem toNat_pair {high low : CodePoint} {m n : Nat} (hhigh : IsDigitOf high m)
    (hlow : IsDigitOf low n) : (UInt8.ofNat (16 * m + n)).toNat = 16 * m + n := by
  have hm := hhigh.lt
  have hn := hlow.lt
  exact UInt8.toNat_ofNat_of_lt' (by
    change 16 * m + n < 256
    omega)

theorem exists_pair (h : Reads t b) {i : Nat} {x : UInt8} (hx : b[i]? = some x) :
    ∃ high low m n, t[2 * i]? = some high ∧ t[2 * i + 1]? = some low ∧ IsDigitOf high m ∧
      IsDigitOf low n ∧ x.toNat = 16 * m + n := by
  induction h generalizing i with
  | nil => cases hx
  | @pair high low m n rest b hhigh hlow hrest ih =>
      cases i with
      | zero =>
          cases hx
          exact ⟨high, low, m, n, rfl, rfl, hhigh, hlow, toNat_pair hhigh hlow⟩
      | succ i => exact ih hx

/-- Written again, the bytes of a text are the text in small letters. -/
theorem encode_eq (h : Reads t b) : encode b = t.lower := by
  induction h with
  | nil => rfl
  | @pair high low m n rest b hhigh hlow hrest ih =>
      have hn := hlow.lt
      have hdiv : (16 * m + n) / 16 = m := by omega
      have hmod : (16 * m + n) % 16 = n := by omega
      rw [encode_cons, toNat_pair hhigh hlow, hdiv, hmod, ih, ← hhigh.lower_eq, ← hlow.lower_eq]
      rfl

theorem append (hs : Reads s a) (ht : Reads t b) : Reads (s ++ t) (a ++ b) := by
  induction hs with
  | nil => exact ht
  | pair hhigh hlow hrest ih => exact .pair hhigh hlow ih

end Reads

/-- The bytes that are read are those that the text reads as. -/
theorem decode_eq_ok_iff {t : Text} {b : Bytes} : decode t = .ok b ↔ Reads t b := by
  rw [decode]
  constructor
  · intro h
    split at h
    · cases h
    · next heven =>
        split at h
        · next hdigits =>
            cases h
            exact reads_pairs t ⟨Decidable.not_not.mp heven, all_isDigit_iff.mp hdigits⟩
        · cases h
  · intro h
    obtain ⟨heven, hdigits⟩ := h.isText
    rw [if_neg (Decidable.not_not.mpr heven), if_pos (all_isDigit_iff.mpr hdigits), h.pairs_eq]

theorem ofValue_text_eq_ok_iff {t : Text} {b : Bytes} :
    ofValue (.text t) = .ok b ↔ Reads t b := by
  rw [← decode_eq_ok_iff, ofValue]
  cases decode t with
  | ok c => exact ⟨fun h => congrArg _ (Except.ok.inj h), fun h => congrArg _ (Except.ok.inj h)⟩
  | error r => exact ⟨nofun, nofun⟩

/-- The values that are read are the hexadecimal texts. -/
theorem exists_ofValue_iff {v : Value} : (∃ b, ofValue v = .ok b) ↔ IsText v := by
  cases v with
  | text t =>
      constructor
      · rintro ⟨b, hb⟩
        exact (ofValue_text_eq_ok_iff.mp hb).isText
      · exact fun h => ⟨pairs t, ofValue_text_eq_ok_iff.mpr (reads_pairs t h)⟩
  | _ => exact ⟨nofun, False.elim⟩

/-! ### Lenient reading -/

/-- Whether a code point is a blank of ASCII. -/
def isBlank : CodePoint → Bool
  | .scalar c => [' ', '\t', '\n', '\x0b', '\x0c', '\r'].contains c
  | .surrogate _ => false

/-- The bytes of pairs of digits with blanks before, between and after the pairs, or the position of
the first code point that does not fit, where the text begins at a position. -/
def lenientFrom : (position : Nat) → Text → Except Nat Bytes
  | _, [] => .ok []
  | position, [p] =>
      if isBlank p then .ok []
      else if isDigit p then .error (position + 1)
      else .error position
  | position, high :: low :: rest =>
      if isBlank high then lenientFrom (position + 1) (low :: rest)
      else if !isDigit high then .error position
      else if !isDigit low then .error (position + 1)
      else
        (lenientFrom (position + 2) rest).map
          (UInt8.ofNat (16 * digitValue high + digitValue low) :: ·)

/-- The lenient reading of a text.  A character beyond ASCII is found before anything else. -/
def lenient (t : Text) : Except Nat Bytes :=
  match t.findIdx? fun p => 128 ≤ p.value with
  | some position => .error position
  | none => lenientFrom 0 t

theorem IsDigitOf.value_lt {p : CodePoint} {n : Nat} (h : IsDigitOf p n) : p.value < 128 := by
  have hn := digitValue?_eq_some_iff.mpr h
  cases p with
  | scalar c => exact toNat_lt_of_charValue? hn
  | surrogate offset => cases hn

theorem IsDigitOf.isBlank_eq {p : CodePoint} {n : Nat} (h : IsDigitOf p n) :
    isBlank p = false := by
  have hblank : ∀ c ∈ [' ', '\t', '\n', '\x0b', '\x0c', '\r'], charValue? c = none := by
    simp [charValue?]
  obtain ⟨c, rfl, hc⟩ := h
  refine Bool.eq_false_iff.mpr fun hmem => ?_
  have hnone := hblank c (List.contains_iff_mem.mp hmem)
  cases hnone.symm.trans (charValue?_eq_some_iff.mpr hc)

namespace Reads

variable {t : Text} {b : Bytes}

theorem lenientFrom_eq (h : Reads t b) (position : Nat) : lenientFrom position t = .ok b := by
  induction h generalizing position with
  | nil => rfl
  | @pair high low m n rest b hhigh hlow hrest ih =>
      have hdigit (p : CodePoint) (k : Nat) (hp : IsDigitOf p k) : (!isDigit p) = false := by
        rw [isDigit_iff.mpr ⟨k, hp⟩]
        rfl
      rw [lenientFrom, hhigh.isBlank_eq, hdigit high m hhigh, hdigit low n hlow, ih,
        hhigh.digitValue_eq, hlow.digitValue_eq]
      rfl

/-- A lenient reader reads a hexadecimal text as the bytes that it stands for. -/
theorem lenient_eq (h : Reads t b) : lenient t = .ok b := by
  have hascii : t.findIdx? (fun p => 128 ≤ p.value) = none := by
    refine List.findIdx?_eq_none_iff.mpr fun p hp => decide_eq_false ?_
    obtain ⟨n, hn⟩ := h.isText.2 p hp
    exact Nat.not_le.mpr hn.value_lt
  rw [lenient, hascii]
  exact h.lenientFrom_eq 0

end Reads

/-- Without the check of the digits, a blank in front of a pair would be skipped. -/
example : lenient " 0a " = .ok [0x0a] ∧ decode " 0a " = .error (.notHexDigits " 0a ") := ⟨rfl, rfl⟩

/-! ### Exact reading -/

/-- A code point that is a small form and has been made capital is the same small form again. -/
theorem lower_upper_hexDigit : ∀ n < 16,
    (CodePoint.scalar (Text.hexDigit n)).upper.lower = .scalar (Text.hexDigit n) := by
  decide

theorem lower_upper_encode (b : Bytes) : (encode b).upper.lower = encode b := by
  induction b with
  | nil => rfl
  | cons x b ih =>
      have hx := x.toNat_lt
      rw [Text.upper, Text.lower] at ih ⊢
      rw [encode_cons, List.map_cons, List.map_cons, List.map_cons, List.map_cons, ih,
        lower_upper_hexDigit (x.toNat / 16) (by omega),
        lower_upper_hexDigit (x.toNat % 16) (by omega)]

/-- A reader is *exact* when it reads the hexadecimal texts as what they stand for, and refuses all
other values for a reason. -/
structure IsExactReader (read : Value → Except Fault Bytes) : Prop where
  /-- The hexadecimal texts are read, and nothing else is. -/
  accepts_iff : ∀ v, (∃ b, read v = .ok b) ↔ IsText v
  /-- Nothing but a text is read. -/
  of_not_text : ∀ v, (∀ t, v ≠ .text t) → read v = .error (.rejected (.notHexText v))
  /-- An odd number of code points is refused, whatever they are. -/
  of_odd : ∀ t, t.length % 2 = 1 → read (.text t) = .error (.rejected (.oddHexDigits t))
  /-- So is a code point that is no digit. -/
  of_not_digits : ∀ t, t.length % 2 = 0 → (∃ p ∈ t, ∀ n, ¬ IsDigitOf p n) →
    read (.text t) = .error (.rejected (.notHexDigits t))
  /-- There is a byte for each two digits. -/
  length_eq : ∀ t b, read (.text t) = .ok b → t.length = 2 * b.length
  /-- The byte is 16 times the first digit and the second. -/
  exists_pair : ∀ t b, read (.text t) = .ok b → ∀ i x, b[i]? = some x →
    ∃ high low m n, t[2 * i]? = some high ∧ t[2 * i + 1]? = some low ∧ IsDigitOf high m ∧
      IsDigitOf low n ∧ x.toNat = 16 * m + n
  /-- The written form of a byte string is read, in small and in capital letters. -/
  of_written : ∀ b, read (.text (encode b)) = .ok b ∧ read (.text (encode b).upper) = .ok b
  /-- Texts one after the other are read as their bytes one after the other. -/
  append : ∀ s t a b, read (.text s) = .ok a → read (.text t) = .ok b →
    read (.text (s ++ t)) = .ok (a ++ b)
  /-- A lenient reader never fails on what has been accepted, and reads it as the same. -/
  lenient_eq : ∀ t b, read (.text t) = .ok b → lenient t = .ok b

/-- **Hexadecimal texts are read exactly.**  A value is read exactly if it is a text of an even
number of digits, in any mix of cases, and else it is refused: for its kind, then for its length,
then for its digits.  A byte is read from each pair of digits, written forms are read back, texts
may be read piece by piece, and a lenient reader has nothing left to refuse or to skip. -/
theorem isExactReader_ofValue : IsExactReader ofValue where
  accepts_iff _ := exists_ofValue_iff
  of_not_text v hv := by
    cases v with
    | text t => exact absurd rfl (hv t)
    | _ => rfl
  of_odd t ht := by
    have hdecode : decode t = .error (.oddHexDigits t) := if_pos (by omega)
    rw [ofValue, hdecode, mapError_error]
  of_not_digits t ht hdigits := by
    have hall : ¬ t.all isDigit = true := by
      obtain ⟨p, hp, hnone⟩ := hdigits
      intro hall
      obtain ⟨n, hn⟩ := all_isDigit_iff.mp hall p hp
      exact hnone n hn
    have hdecode : decode t = .error (.notHexDigits t) := by
      rw [decode, if_neg (by omega), if_neg hall]
    rw [ofValue, hdecode, mapError_error]
  length_eq _ _ h := (ofValue_text_eq_ok_iff.mp h).length_eq
  exists_pair _ _ h _ _ hx := (ofValue_text_eq_ok_iff.mp h).exists_pair hx
  of_written b := by
    refine ⟨ofValue_text_eq_ok_iff.mpr (decode_eq_ok_iff.mp (decode_encode b)), ?_⟩
    exact ofValue_text_eq_ok_iff.mpr (decode_eq_ok_iff.mp (decode_of_lower (lower_upper_encode b)))
  append _ _ _ _ hs ht :=
    ofValue_text_eq_ok_iff.mpr
      ((ofValue_text_eq_ok_iff.mp hs).append (ofValue_text_eq_ok_iff.mp ht))
  lenient_eq _ _ h := (ofValue_text_eq_ok_iff.mp h).lenient_eq

end Hex

end StateAddress
