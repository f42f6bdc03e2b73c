import StateAddress.Address

/-!
# Hexadecimal forms in either letter case

A hexadecimal form may be written with capital letters, small ones or both.  Which of them are
used is forgotten by `Text.lower`, and reading a form does not depend on it: two texts that
differ in letter case only are read alike (`Hex.decode_of_lower`).

## Main definitions

* `CodePoint.lower`, `Text.lower` : a text with its capital letters made small.

## Main results

* `Hex.charValue?_toLower` : a digit has one value in either case.
* `Hex.lower_encode` : forms are written with small letters.
* `Hex.decode_of_lower` : a form is read alike in any mix of cases.
-/

namespace StateAddress

/-! ### Letter case -/

/-- A code point, a capital letter of the Latin alphabet made small. -/
def CodePoint.lower : CodePoint → CodePoint
  | scalar c => scalar c.toLower
  | surrogate offset => surrogate offset

/-- A text with its capital letters made small. -/
def Text.lower (t : Text) : Text := t.map CodePoint.lower

@[simp] theorem Text.length_lower (t : Text) : t.lower.length = t.length := List.length_map ..

namespace Hex

theorem toLower_of_not_capital {c : Char} (h : ¬ ('A' ≤ c ∧ c ≤ 'Z')) : c.toLower = c :=
  dif_neg h

/-- A digit has one value in either case, and what is no digit is none in either case. -/
theorem charValue?_toLower (c : Char) : charValue? c.toLower = charValue? c := by
  by_cases h : 'A' ≤ c ∧ c ≤ 'Z'
  · have hcapital : ∀ n < 26, charValue? (Char.ofNat (65 + n)).toLower =
        charValue? (Char.ofNat (65 + n)) := by decide
    have hlow : 65 ≤ c.toNat := Char.le_def.mp h.1
    have hhigh : c.toNat ≤ 90 := Char.le_def.mp h.2
    have hc := hcapital (c.toNat - 65) (by omega)
    rwa [Nat.add_sub_cancel' hlow, Char.ofNat_toNat] at hc
  · rw [toLower_of_not_capital h]

theorem digitValue?_lower (p : CodePoint) : digitValue? p.lower = digitValue? p := by
  cases p with
  | scalar c => exact charValue?_toLower c
  | surrogate offset => rfl

theorem isDigit_lower (p : CodePoint) : isDigit p.lower = isDigit p := by
  rw [isDigit, isDigit, digitValue?_lower]

theorem pairs_lower : (t : Text) → pairs t.lower = pairs t
  | [] => rfl
  | [_] => rfl
  | high :: low :: rest => by
      have ih := pairs_lower rest
      rw [Text.lower] at ih
      simp only [Text.lower, List.map_cons, pairs, digitValue, digitValue?_lower, ih]

theorem lower_hexDigit : (n : Nat) → n < 16 →
    CodePoint.lower (.scalar (Text.hexDigit n)) = .scalar (Text.hexDigit n)
  | 0, _ | 1, _ | 2, _ | 3, _ | 4, _ | 5, _ | 6, _ | 7, _ | 8, _ | 9, _ | 10, _ | 11, _
  | 12, _ | 13, _ | 14, _ | 15, _ => by decide
  | n + 16, h => by omega

/-- A byte string is written with small letters. -/
theorem lower_encode (b : Bytes) : (encode b).lower = encode b := by
  induction b with
  | nil => rfl
  | cons x b ih =>
      have hx := x.toNat_lt
      rw [Text.lower] at ih
      simp [encode_cons, Text.lower, ih, lower_hexDigit (x.toNat / 16) (by omega),
        lower_hexDigit (x.toNat % 16) (by omega)]

theorem exists_of_mem_encode {b : Bytes} {p : CodePoint} (h : p ∈ encode b) :
    ∃ d ∈ Text.hexAlphabet, p = .scalar d := by
  have hdigit : ∀ n < 16, Text.hexDigit n ∈ Text.hexAlphabet := by decide
  obtain ⟨x, -, hp⟩ := List.mem_flatMap.mp h
  have hx := x.toNat_lt
  rcases List.mem_cons.mp hp with rfl | hp
  · exact ⟨_, hdigit _ (by omega), rfl⟩
  · cases List.mem_singleton.mp hp
    exact ⟨_, hdigit _ (by omega), rfl⟩

/-- **Reading in any mix of letter cases.** A text that becomes the written form of a byte string
when its capital letters are made small is read as that byte string. -/
theorem decode_of_lower {t : Text} {b : Bytes} (h : t.lower = encode b) : decode t = .ok b := by
  have hlength : t.length = 2 * b.length := by rw [← Text.length_lower, h, length_encode]
  have hdigits : t.all isDigit = true := by
    have hall := all_isDigit_encode b
    rw [← h, Text.lower, List.all_map] at hall
    simpa only [Function.comp_def, isDigit_lower] using hall
  have hpairs : pairs t = b := by rw [← pairs_lower, h, pairs_encode]
  rw [decode, if_neg (by omega), if_pos hdigits, hpairs]

end Hex

end StateAddress
