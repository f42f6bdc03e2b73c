import StateAddress.Proofs.ErrorContract
import StateAddress.Proofs.SettingKey

/-!
# Computations with a built-in provider

A built-in provider answers every byte string that it is asked for, as long as the other library
does what is expected of it, so that a computation with it fails only because of its identifiers.
Lone surrogates have no bytes, and wherever they occur there is no address: a subject with one is
refused, and in the key of a setting they are reported for themselves.

## Main definitions

* `Subject.identifiers`, `Computation.identifiers` : the identifiers given.
* `Computation.Escapes` : the computations that end in a report of surrogates.

## Main results

* `Subject.derive_isDecidedBy` : a subject has an address exactly if its identifiers are
  acceptable.
* `Computation.result_cases` : how a computation ends.
-/

namespace StateAddress

variable {σ : Type} {library : Pycryptodome} (hlibrary : library.IsSha512)

/-! ### Answers -/

namespace Provider

include hlibrary

theorem hash_builtin (b : Builtin) :
    (builtin library b : Provider σ).hash = (sha512 : Provider σ).hash := by
  rw [builtin_of_isSha512 hlibrary b]

theorem isReliable_builtin (b : Builtin) (s : σ) : (builtin library b).IsReliable s := by
  intro earlier data
  rw [hash_builtin hlibrary b]
  change IsAmple ((data.hashInput.bind fun m => .ok (.bytes (StateAddress.sha512 m))).map
    Digest.value)
  cases hinput : data.hashInput with
  | ok m => exact ⟨.fixed, _, rfl, by rw [length_sha512]; omega⟩
  | error fault =>
      obtain ⟨given, rfl⟩ := Value.exists_notHashable_of_hashInput hinput
      exact ⟨rfl, _, rfl⟩

theorem answers_builtin (b : Builtin) (asked : List Value) (s : σ)
    (h : ∀ v ∈ asked, ∃ m, v = .bytes m) :
    ∀ a ∈ (builtin library b).answers s asked, ∃ digest, a = .ok digest := by
  induction asked generalizing s with
  | nil => simp
  | cons v rest ih =>
      obtain ⟨⟨m, rfl⟩, hrest⟩ := List.forall_mem_cons.mp h
      refine List.forall_mem_cons.mpr ⟨⟨.bytes (StateAddress.sha512 m), ?_⟩, ih _ hrest⟩
      rw [hash_builtin hlibrary b, hash_sha512_bytes]

end Provider

/-! ### Subjects -/

namespace Subject

/-- The identifiers of a subject. -/
def identifiers : Subject → List Value
  | namespaceRegistry given => [given]
  | contractRegistry name => [name]
  | contract name version => [name, version]
  | smartPermission owner name => [owner, name]
  | agent name => [name]
  | organization id => [id]

theorem isWellFormed_of_isAcceptable {subject : Subject} (h : subject.IsAcceptable) {t : Text}
    (ht : .text t ∈ subject.identifiers) : t.isWellFormed = true := by
  cases subject with
  | namespaceRegistry given =>
      cases List.mem_singleton.mp ht
      obtain ⟨b, hb, -⟩ := h
      exact (Utf8.encode_eq_ok_iff.mp hb).1
  | contract name version | smartPermission owner name =>
      rcases List.mem_cons.mp ht with rfl | ht
      · exact h.1
      · cases List.mem_singleton.mp ht
        exact h.2
  | contractRegistry name | agent name | organization id =>
      cases List.mem_singleton.mp ht
      exact h

include hlibrary in
/-- With a built-in provider, a subject has an address if its identifiers are acceptable, and is
refused otherwise. -/
theorem derive_isDecidedBy (b : Provider.Builtin) (subject : Subject) (level : Level) (s : σ) :
    IsDecidedBy ((subject.derive (.builtin library b)).run ⟨Scheme.standard, level⟩ s).result
      subject.IsAcceptable := by
  have hasked := asked_takeSlices (.builtin library b) Scheme.standard ⟨Scheme.standard, level⟩ s
    (subject.slices Scheme.standard)
  have hanswers := Provider.answers_builtin hlibrary b _ s hasked
  rcases subject.derive_cases (.builtin library b) (Provider.isReliable_builtin hlibrary b s)
      level with
    ⟨hacceptable, -, a, ha, -⟩ | ⟨hnot, -, r, hr⟩ | ⟨message, fault, hmem, -⟩
  · exact .inl ⟨hacceptable, a, ha⟩
  · exact .inr ⟨hnot, r, hr⟩
  · rw [run_derive] at hmem
    obtain ⟨digest, hdigest⟩ := hanswers _ hmem
    cases hdigest

end Subject

/-! ### Computations -/

namespace Computation

/-- The identifiers of a computation. -/
def identifiers : Computation → List Value
  | ofSubject subject => subject.identifiers
  | ofSetting key => [key]

/-- Whether a computation is that of a setting whose key has a surrogate. -/
def Escapes (c : Computation) : Prop :=
  ∃ t : Text, c = .ofSetting (.text t) ∧ t.isWellFormed = false

include hlibrary in
/-- How a computation with a built-in provider ends: with an address, where no identifier has a
surrogate, with a refused input or with the report of a surrogate. -/
theorem result_cases (b : Provider.Builtin) (c : Computation) (level : Level) (s : σ) :
    let result := ((c.address (.builtin library b)).run ⟨Scheme.standard, level⟩ s).result
    (¬ c.Escapes ∧ (∀ t : Text, .text t ∈ c.identifiers → t.isWellFormed = true) ∧
        ∃ a, result = .ok a) ∨
      (¬ c.Escapes ∧ ∃ r, result = .error (.rejected r)) ∨
      (c.Escapes ∧ ∃ run, result = .error (.unencodable run)) := by
  cases c with
  | ofSubject subject =>
      have hnot : ¬ (ofSubject subject).Escapes := by
        rintro ⟨t, ht, -⟩
        cases ht
      rcases subject.derive_isDecidedBy hlibrary b level s with ⟨hacceptable, ha⟩ | ⟨-, hr⟩
      · exact .inl ⟨hnot, fun t ht => Subject.isWellFormed_of_isAcceptable hacceptable ht, ha⟩
      · exact .inr (.inl ⟨hnot, hr⟩)
  | ofSetting key =>
      rcases SettingKey.address_cases key level s with
        ⟨t, a, rfl, hwell, ha⟩ | ⟨t, run, rfl, hill, hrun⟩ | ⟨hnot, hr⟩
      · refine .inl ⟨?_, ?_, a, ha⟩
        · rintro ⟨u, hu, hill⟩
          cases hu
          rw [hwell] at hill
          cases hill
        · intro u hu
          cases List.mem_singleton.mp hu
          exact hwell
      · exact .inr (.inr ⟨⟨t, rfl, hill⟩, run, hrun⟩)
      · refine .inr (.inl ⟨?_, _, hr⟩)
        rintro ⟨t, ht, hill⟩
        cases ht
        exact hnot ⟨t, rfl, hill⟩

end Computation

end StateAddress
