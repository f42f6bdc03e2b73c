import StateAddress.Derivation

/-!
# Acceptable identifiers

An identifier is acceptable if it is a byte string, or a text without lone surrogates.  A
namespace also has to be long enough, and if it is a text, its significant bytes have to end
where a character ends.  In the standard scheme these are exactly the identifiers that have bytes
to hash, and all others are refused.

## Main definitions

* `Utf8.IsBoundary` : a position in the UTF-8 form of a text that lies between characters.
* `Identifier.IsAcceptable`, `Identifier.IsAcceptableNamespace`, `Subject.IsAcceptable` :
  acceptable identifiers.
* `IsDecidedBy` : a result that is given under a condition, and refused otherwise.
* `Scheme.ReadsAsStandard` : the schemes under which identifiers are read as in the standard one.

## Main results

* `Utf8.isComplete_take_iff` : the leading bytes of a form are complete exactly up to a boundary.
* `Identifier.registry_standard` : the bytes of a namespace in the standard scheme.
* `Subject.isAcceptable_iff` : the acceptable identifiers are those with bytes to hash.
* `Subject.exists_rejected_of_payload` : all others are refused.
-/

namespace StateAddress

/-! ### Boundaries of characters -/

namespace Utf8

/-- Whether a number of bytes is that of some leading characters of a text. -/
def IsBoundary (t : Text) (n : Nat) : Prop :=
  ∃ k lead, encode (t.take k) = .ok lead ∧ lead.length = n

theorem isPrefix_of_ofChars_isPrefix {cs ds : List Char} (h : ofChars cs <+: ofChars ds) :
    cs <+: ds := by
  obtain ⟨rest, hrest⟩ := h
  refine List.isPrefix_of_utf8Encode_append_eq_utf8Encode rest.toByteArray ?_
  have harray := congrArg List.toByteArray hrest
  simpa [List.utf8Encode, ofChars] using harray

theorem exists_chars_of_encode {t : Text} {b : Bytes} (h : encode t = .ok b) :
    ∃ cs : List Char, t = cs.map .scalar ∧ b = ofChars cs := by
  have hchars := Text.map_scalar_scalars t (encode_eq_ok_iff.mp h).1
  refine ⟨t.scalars, hchars.symm, ?_⟩
  rw [← hchars, encode_map_scalar] at h
  exact (Except.ok.inj h).symm

/-- The leading bytes of the form of a text are complete exactly up to a boundary. -/
theorem isComplete_take_iff {t : Text} {b : Bytes} {n : Nat} (ht : encode t = .ok b)
    (hn : n ≤ b.length) : isComplete (b.take n) = true ↔ IsBoundary t n := by
  obtain ⟨cs, rfl, rfl⟩ := exists_chars_of_encode ht
  rw [isComplete_iff]
  constructor
  · rintro ⟨ds, hds⟩
    have hprefix : ofChars ds <+: ofChars cs := hds ▸ List.take_prefix n (ofChars cs)
    have htake := List.prefix_iff_eq_take.mp (isPrefix_of_ofChars_isPrefix hprefix)
    refine ⟨ds.length, ofChars ds, ?_, ?_⟩
    · rw [← List.map_take, ← htake, encode_map_scalar]
    · rw [← hds, List.length_take, Nat.min_eq_left hn]
  · rintro ⟨k, lead, hlead, hlength⟩
    rw [← List.map_take, encode_map_scalar] at hlead
    cases hlead
    refine ⟨cs.take k, ?_⟩
    have happend : ofChars cs = ofChars (cs.take k) ++ ofChars (cs.drop k) := by
      rw [← ofChars_append, List.take_append_drop]
    rw [happend, ← hlength, List.take_left]

end Utf8

/-! ### Conditions for a result -/

section Decided

variable {α β : Type}

/-- A result is *decided by* a condition when it is given under the condition, and the input is
refused without it. -/
def IsDecidedBy (x : Except Fault α) (P : Prop) : Prop :=
  (P ∧ ∃ a, x = .ok a) ∨ (¬ P ∧ ∃ r, x = .error (.rejected r))

namespace IsDecidedBy

variable {x : Except Fault α} {P Q : Prop}

theorem exists_ok_iff (h : IsDecidedBy x P) : (∃ a, x = .ok a) ↔ P := by
  rcases h with ⟨hP, ha⟩ | ⟨hP, r, rfl⟩
  · exact ⟨fun _ => hP, fun _ => ha⟩
  · exact ⟨fun ⟨a, ha⟩ => (by cases ha), fun h => absurd h hP⟩

theorem exists_rejected (h : IsDecidedBy x P) {fault : Fault} (hx : x = .error fault) :
    ∃ r, fault = .rejected r := by
  rcases h with ⟨-, a, rfl⟩ | ⟨-, r, rfl⟩
  · cases hx
  · cases hx
    exact ⟨r, rfl⟩

theorem exists_rejected_of_not (h : IsDecidedBy x P) (hP : ¬ P) :
    ∃ r, x = .error (.rejected r) := by
  rcases h with ⟨hholds, -⟩ | ⟨-, hr⟩
  · exact absurd hholds hP
  · exact hr

theorem congr (h : IsDecidedBy x P) (hPQ : P ↔ Q) : IsDecidedBy x Q := by
  rwa [← propext hPQ]

theorem ok (a : α) : IsDecidedBy (.ok a) True := .inl ⟨trivial, a, rfl⟩

theorem map (h : IsDecidedBy x P) (f : α → β) : IsDecidedBy (x.map f) P := by
  rcases h with ⟨hP, a, rfl⟩ | ⟨hP, r, rfl⟩
  · exact .inl ⟨hP, f a, rfl⟩
  · exact .inr ⟨hP, r, rfl⟩

theorem bind {f : α → Except Fault β} (hx : IsDecidedBy x P)
    (hf : ∀ a, x = .ok a → IsDecidedBy (f a) Q) : IsDecidedBy (x >>= f) (P ∧ Q) := by
  rcases hx with ⟨hP, a, rfl⟩ | ⟨hP, r, rfl⟩
  · rcases hf a rfl with ⟨hQ, b, hb⟩ | ⟨hQ, r, hr⟩
    · exact .inl ⟨⟨hP, hQ⟩, b, hb⟩
    · exact .inr ⟨fun h => hQ h.2, r, hr⟩
  · exact .inr ⟨fun h => hP h.1, r, rfl⟩

end IsDecidedBy

end Decided

/-! ### Identifiers -/

namespace Identifier

/-- Whether a value is an identifier: a byte string, or a text without lone surrogates. -/
def IsAcceptable : Value → Prop
  | .text t => t.isWellFormed = true
  | .octets .fixed _ => True
  | .octets .growable _ => True
  | _ => False

/-- Whether a value is a namespace of which `n` bytes are significant: an identifier of at least
so many bytes, and as a text one in which they end where a character ends. -/
def IsAcceptableNamespace (n : Nat) : Value → Prop
  | .text t => ∃ b, Utf8.encode t = .ok b ∧ n ≤ b.length ∧ Utf8.IsBoundary t n
  | .octets .fixed b => n ≤ b.length
  | .octets .growable b => n ≤ b.length
  | _ => False

theorem encode_isDecidedBy (field : String) (v : Value) :
    IsDecidedBy (encode field v) (IsAcceptable v) := by
  rcases v with _ | _ | _ | _ | t | ⟨_ | _ | _, b⟩ | _ | _ | _ | _
  case text =>
    rw [encode, IsAcceptable]
    cases h : Utf8.encode t with
    | ok b => exact .inl ⟨(Utf8.encode_eq_ok_iff.mp h).1, b, rfl⟩
    | error run =>
        refine .inr ⟨fun hw => ?_, .notUtf8 field t, rfl⟩
        rw [Utf8.encode_eq_ok_iff.mpr ⟨hw, rfl⟩] at h
        cases h
  case octets.fixed => exact .inl ⟨trivial, b, rfl⟩
  case octets.growable => exact .inl ⟨trivial, b, rfl⟩
  all_goals exact .inr ⟨id, _, rfl⟩

/-- The six significant bytes of a namespace that is encoded as `b`, after the checks of its length
and of the place where they end. -/
def significant (given : Value) (b : Bytes) : Except Fault Bytes :=
  if b.length < 6 then .error (.rejected (.namespaceTooShort given (.int 6)))
  else if isText given && !Utf8.isComplete (b.take 6) then
    .error (.rejected (.namespaceCut given (.int 6)))
  else .ok (b.take 6)

theorem registry_standard (given : Value) :
    registry Scheme.standard given = encode "namespace" given >>= significant given := by
  have hneeded : Scheme.standard .namespaceLength = .int 6 := rfl
  rw [registry, hneeded]
  refine bind_congr fun b => ?_
  rw [significant]
  have hlt : (Value.int b.length).lt (.int 6) = .ok (decide (b.length < 6)) := by
    rw [Value.lt_int]
    exact congrArg Except.ok (decide_eq_decide.mpr (by omega))
  rw [hlt]
  by_cases hlength : b.length < 6
  · rw [if_pos hlength, decide_eq_true hlength]
    rfl
  · rw [if_neg hlength, decide_eq_false hlength]
    by_cases hcut : (isText given && !Utf8.isComplete (b.take 6)) = true
    · rw [if_pos hcut]
      change (if (isText given && !Utf8.isComplete (b.take 6)) = true then _ else _) = _
      rw [if_pos hcut]
      rfl
    · rw [if_neg hcut]
      change (if (isText given && !Utf8.isComplete (b.take 6)) = true then _ else _) = _
      rw [if_neg hcut]
      rfl

/-- The significant bytes are given exactly if there are six of them and, in a text, they end where
a character ends. -/
theorem significant_isDecidedBy (given : Value) (b : Bytes) :
    IsDecidedBy (significant given b)
      (6 ≤ b.length ∧ (isText given = true → Utf8.isComplete (b.take 6) = true)) := by
  rw [significant]
  split
  · next hlength => exact .inr ⟨fun h => by omega, _, rfl⟩
  · next hlength =>
      split
      · next hcut =>
          rw [Bool.and_eq_true, Bool.not_eq_true'] at hcut
          refine .inr ⟨fun h => ?_, _, rfl⟩
          rw [h.2 hcut.1] at hcut
          cases hcut.2
      · next hcut =>
          refine .inl ⟨⟨by omega, fun htext => ?_⟩, _, rfl⟩
          simpa [htext] using hcut

/-- The bytes that identify the registry of a namespace are given exactly if the namespace is
acceptable. -/
theorem registry_isDecidedBy (given : Value) :
    IsDecidedBy (registry Scheme.standard given) (IsAcceptableNamespace 6 given) := by
  rw [registry_standard]
  rcases given with _ | _ | _ | _ | t | ⟨_ | _ | _, b⟩ | _ | _ | _ | _
  case text =>
    cases h : Utf8.encode t with
    | error run =>
        refine .inr ⟨fun hb => ?_, .notUtf8 "namespace" t, ?_⟩
        · obtain ⟨b, hb, -⟩ := hb
          rw [h] at hb
          cases hb
        · rw [encode, h]
          rfl
    | ok b =>
        rw [encode, h]
        refine (significant_isDecidedBy (.text t) b).congr ⟨?_, ?_⟩
        · rintro ⟨hlength, hcomplete⟩
          exact ⟨b, h, hlength, (Utf8.isComplete_take_iff h hlength).mp (hcomplete rfl)⟩
        · rintro ⟨c, hc, hlength, hboundary⟩
          cases h.symm.trans hc
          exact ⟨hlength, fun _ => (Utf8.isComplete_take_iff h hlength).mpr hboundary⟩
  case octets.fixed =>
    exact (significant_isDecidedBy (.bytes b) b).congr
      ⟨fun h => h.1, fun h => ⟨h, fun htext => by cases htext⟩⟩
  case octets.growable =>
    exact (significant_isDecidedBy (.octets .growable b) b).congr
      ⟨fun h => h.1, fun h => ⟨h, fun htext => by cases htext⟩⟩
  all_goals exact .inr ⟨id, _, rfl⟩

theorem contract_isDecidedBy (name version : Value) :
    IsDecidedBy (contract Scheme.standard name version)
      (IsAcceptable name ∧ IsAcceptable version) := by
  rw [contract, separator_standard]
  refine (encode_isDecidedBy "contract name" name).bind fun left _ => ?_
  refine ((encode_isDecidedBy "contract version" version).bind fun right _ =>
    .ok (left ++ [0x2c] ++ right)).congr ?_
  rw [and_true]

end Identifier

/-! ### Subjects -/

namespace Subject

/-- Whether all identifiers of a subject are acceptable. -/
def IsAcceptable : Subject → Prop
  | namespaceRegistry given => Identifier.IsAcceptableNamespace 6 given
  | contractRegistry name => Identifier.IsAcceptable name
  | contract name version => Identifier.IsAcceptable name ∧ Identifier.IsAcceptable version
  | smartPermission owner name => Identifier.IsAcceptable owner ∧ Identifier.IsAcceptable name
  | agent name => Identifier.IsAcceptable name
  | organization id => Identifier.IsAcceptable id

/-- The identifiers of a subject are acceptable exactly if all of its slices have bytes. -/
theorem isAcceptable_iff (subject : Subject) :
    subject.IsAcceptable ↔
      ∀ slice ∈ subject.slices Scheme.standard, ∃ b, slice.payload = .ok b := by
  cases subject <;>
    simp [IsAcceptable, slices, (Identifier.registry_isDecidedBy _).exists_ok_iff,
      (Identifier.encode_isDecidedBy _ _).exists_ok_iff,
      (Identifier.contract_isDecidedBy _ _).exists_ok_iff]

/-- A slice has no bytes only because an identifier is refused. -/
theorem exists_rejected_of_payload (subject : Subject) {slice : Slice}
    (hslice : slice ∈ subject.slices Scheme.standard) {fault : Fault}
    (h : slice.payload = .error fault) : ∃ r, fault = .rejected r := by
  cases subject with
  | namespaceRegistry given =>
      cases List.mem_singleton.mp hslice
      exact (Identifier.registry_isDecidedBy given).exists_rejected h
  | contract name version =>
      cases List.mem_singleton.mp hslice
      exact (Identifier.contract_isDecidedBy name version).exists_rejected h
  | smartPermission owner name =>
      rcases List.mem_cons.mp hslice with rfl | hslice
      · exact (Identifier.encode_isDecidedBy _ owner).exists_rejected h
      · cases List.mem_singleton.mp hslice
        exact (Identifier.encode_isDecidedBy _ name).exists_rejected h
  | contractRegistry id | agent id | organization id =>
      cases List.mem_singleton.mp hslice
      exact (Identifier.encode_isDecidedBy _ id).exists_rejected h

end Subject

/-! ### Schemes that read identifiers alike -/

/-- A scheme *reads as the standard one* when it has the standard values for the constants that
identifiers are read with. -/
structure Scheme.ReadsAsStandard (s : Scheme) : Prop where
  namespaceLength : s .namespaceLength = standard .namespaceLength
  contractSeparator : s .contractSeparator = standard .contractSeparator

theorem Scheme.readsAsStandard_standard : standard.ReadsAsStandard := ⟨rfl, rfl⟩

theorem Scheme.ReadsAsStandard.slices_eq {s : Scheme} (h : s.ReadsAsStandard)
    (subject : Subject) : subject.slices s = subject.slices standard := by
  cases subject <;>
    simp only [Subject.slices, Identifier.registry, Identifier.contract, Identifier.separator,
      h.namespaceLength, h.contractSeparator]

end StateAddress
