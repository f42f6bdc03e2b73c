import StateAddress.Proofs.HexReading

/-!
# The two forms of an address

In the standard scheme an address is a byte string of 35 bytes, fixed or growable, and it is written
with 70 digits.  Writing and reading are inverse to each other: what is written is read back, and
what is read is written in small letters.  So the written forms of one address differ in letter case
only, and all other values are refused by both.

## Main definitions

* `Address.IsInBytes`, `Address.IsInHex` : the addresses among the values, and their written forms.
* `Address.AreInverse` : what it means that addresses are written and read inversely.

## Main results

* `Address.isForm_iff` : the forms of addresses are those in bytes and those that are written.
* `Address.toHex_isDecidedBy`, `Address.ofHex_isDecidedBy` : what is written, and what is read.
* `Address.ofHex_text_eq_ok_iff` : the address of a written form.
* `Address.areInverse_toHex_ofHex` : addresses are written and read inversely.
-/

namespace StateAddress

namespace Address

/-! ### Bytes and digits -/

/-- Whether a value is a fixed or growable byte string of 35 bytes. -/
def IsInBytes : Value → Prop
  | .octets .fixed b => b.length = 35
  | .octets .growable b => b.length = 35
  | _ => False

/-- Whether a value is a text of 70 code points, all of which are digits. -/
def IsInHex : Value → Prop
  | .text t => t.length = 70 ∧ ∀ p ∈ t, ∃ n, Hex.IsDigitOf p n
  | _ => False

/-- The forms of addresses are those in bytes and those that are written. -/
theorem isForm_iff (v : Value) : IsForm v ↔ IsInBytes v ∨ IsInHex v := by
  rcases v with _ | _ | _ | _ | t | ⟨_ | _ | _, b⟩ | _ | _ | _
  case text => exact (and_congr_right' Hex.all_isDigit_iff).trans (Iff.of_eq (false_or _)).symm
  case octets.fixed => exact (Iff.of_eq (or_false _)).symm
  case octets.growable => exact (Iff.of_eq (or_false _)).symm
  all_goals exact (or_self_iff).symm

/-! ### Writing -/

theorem toHex_octets {kind : OctetKind} {b : Bytes} (hkind : kind ≠ .view) (hb : b.length = 35) :
    toHex Scheme.standard (.octets kind b) = .ok (Hex.encode b) := by
  have hcheck : check Scheme.standard (.octets kind b) = .ok b := by
    cases kind with
    | fixed => exact checkLength_standard hb
    | growable => exact checkLength_standard hb
    | view => exact absurd rfl hkind
  rw [toHex, hcheck]
  rfl

/-- The values that are written are the addresses in bytes. -/
theorem toHex_isDecidedBy (v : Value) : IsDecidedBy (toHex Scheme.standard v) (IsInBytes v) := by
  rcases v with _ | _ | _ | _ | t | ⟨_ | _ | _, b⟩ | _ | _ | _
  case octets.fixed => exact (checkLength_isDecidedBy b).map Hex.encode
  case octets.growable => exact (checkLength_isDecidedBy b).map Hex.encode
  all_goals exact .inr ⟨id, _, rfl⟩

/-! ### Reading -/

/-- The values that are read are the written forms. -/
theorem ofHex_isDecidedBy (v : Value) :
    IsDecidedBy (ofHex Scheme.standard v) (IsInHex v) := by
  cases v with
  | text t => exact (ofHex_text_isDecidedBy t).congr (and_congr_right' Hex.all_isDigit_iff)
  | _ => exact .inr ⟨id, _, rfl⟩

/-- The address of a written form is what it reads as. -/
theorem ofHex_text_eq_ok_iff {t : Text} {b : Bytes} :
    ofHex Scheme.standard (.text t) = .ok b ↔ Hex.Reads t b ∧ b.length = 35 := by
  constructor
  · intro h
    obtain ⟨c, hread, hcheck⟩ := exists_of_bind_eq_ok h
    obtain ⟨hlength, -⟩ | ⟨-, r, hr⟩ := checkLength_isDecidedBy c
    · rw [checkLength_standard hlength] at hcheck
      cases hcheck
      exact ⟨Hex.ofValue_text_eq_ok_iff.mp hread, hlength⟩
    · cases hr.symm.trans hcheck
  · rintro ⟨hread, hlength⟩
    rw [ofHex, Hex.ofValue_text_eq_ok_iff.mpr hread]
    exact checkLength_standard hlength

end Address

/-- Two texts read as the same bytes exactly if they differ in letter case only. -/
theorem Hex.Reads.eq_iff {s t : Text} {a b : Bytes} (hs : Reads s a) (ht : Reads t b) :
    a = b ↔ s.lower = t.lower := by
  constructor
  · rintro rfl
    rw [← hs.encode_eq, ← ht.encode_eq]
  · intro hlower
    rw [← hs.pairs_eq, ← ht.pairs_eq, ← pairs_lower s, ← pairs_lower t, hlower]

namespace Address

/-! ### Both ways -/

/-- Addresses are written and read *inversely* when the digits of an address are read back as its
bytes, what is read is written in small letters, and nothing else is written or read. -/
structure AreInverse (write : Value → Except Fault Text) (read : Value → Except Fault Bytes) :
    Prop where
  /-- An address is written with 70 digits in small letters, which are read back. -/
  read_write : ∀ kind b, kind ≠ OctetKind.view → b.length = 35 →
    ∃ t, write (.octets kind b) = .ok t ∧ t.length = 70 ∧
      (∀ p ∈ t, ∃ d ∈ Text.hexAlphabet, p = .scalar d) ∧ read (.text t) = .ok b
  /-- Nothing else is written. -/
  not_written : ∀ v, ¬ IsInBytes v → ∃ r, write v = .error (.rejected r)
  /-- The written forms are read, in any mix of cases. -/
  read_iff : ∀ v, (∃ b, read v = .ok b) ↔ IsInHex v
  /-- Nothing else is read. -/
  not_read : ∀ v, ¬ IsInHex v → ∃ r, read v = .error (.rejected r)
  /-- What has been read is written in small letters. -/
  write_read : ∀ t b, read (.text t) = .ok b → write (.bytes b) = .ok t.lower
  /-- Two forms of one address differ in letter case only. -/
  read_eq_iff : ∀ s t a b, read (.text s) = .ok a → read (.text t) = .ok b →
    (a = b ↔ s.lower = t.lower)

/-- **The two forms of an address are inverse.**  In the standard scheme byte strings of 35 bytes
are written with 70 digits in small letters and read back from them; the texts of 70 digits, in any
mix of cases, are read and written again in small letters, and two of them are the same address
exactly if they differ in letter case only.  All other values are refused. -/
theorem areInverse_toHex_ofHex :
    AreInverse (toHex Scheme.standard) (ofHex Scheme.standard) where
  read_write kind b hkind hb := by
    have hread : Hex.Reads (Hex.encode b) b := Hex.decode_eq_ok_iff.mp (Hex.decode_encode b)
    refine ⟨Hex.encode b, toHex_octets hkind hb, ?_, fun p hp => Hex.exists_of_mem_encode hp,
      ofHex_text_eq_ok_iff.mpr ⟨hread, hb⟩⟩
    rw [Hex.length_encode, hb]
  not_written v hv := (toHex_isDecidedBy v).exists_rejected_of_not hv
  read_iff v := (ofHex_isDecidedBy v).exists_ok_iff
  not_read v hv := (ofHex_isDecidedBy v).exists_rejected_of_not hv
  write_read t b h := by
    obtain ⟨hread, hlength⟩ := ofHex_text_eq_ok_iff.mp h
    have hkind : OctetKind.fixed ≠ .view := by decide
    rw [toHex_octets hkind hlength, hread.encode_eq]
  read_eq_iff s t a b hs ht :=
    (ofHex_text_eq_ok_iff.mp hs).1.eq_iff (ofHex_text_eq_ok_iff.mp ht).1

end Address

end StateAddress
