import StateAddress.Proofs.BuiltinProvider
import StateAddress.Proofs.SlicesRun

/-!
# The messages of refused texts

A text is refused for a lone surrogate, for being too short or for being cut inside a character.
The message quotes a text that has a surrogate and shows the others as they are, so that no message
holds a surrogate, and each can be printed as it is.

## Main definitions

* `Fault.IsPrintable` : the faults with a text that can be printed as it is.
* `Computation.IsOfTexts` : the computations whose identifiers are texts.

## Main results

* `Subject.exists_payload_of_error` : a derivation with a built-in provider fails only for want of
  the bytes of a slice.
* `Computation.isPrintable` : the messages of refused texts hold no surrogates.
-/

namespace StateAddress

variable {σ : Type} {library : Pycryptodome} (hlibrary : library.IsSha512)

/-! ### Identifiers -/

theorem Text.isWellFormed_ofString (s : String) : (ofString s).isWellFormed = true :=
  isWellFormed_map_scalar _

namespace Rejection

variable {t : Text}

theorem isWellFormed_message_notUtf8 (field : String) (t : Text) :
    (notUtf8 field t).message.isWellFormed = true := by
  simp only [message, Quoted.isWellFormed_append, Text.isWellFormed_ofString,
    Quoted.isWellFormed_text, Bool.and_self]

theorem isWellFormed_message_namespaceTooShort (h : t.isWellFormed = true) :
    (namespaceTooShort (.text t) (.int 6)).message.isWellFormed = true := by
  have hneeded : (Text.ofInt 6).isWellFormed = true := rfl
  simp only [message, Value.displayed_text, Value.displayed_int, Quoted.isWellFormed_append,
    Text.isWellFormed_ofString, h, hneeded, Bool.and_self]

theorem isWellFormed_message_namespaceCut (h : t.isWellFormed = true) :
    (namespaceCut (.text t) (.int 6)).message.isWellFormed = true := by
  have hneeded : (Text.ofInt 6).isWellFormed = true := rfl
  simp only [message, Value.displayed_text, Value.displayed_int, Quoted.isWellFormed_append,
    Text.isWellFormed_ofString, h, hneeded, Bool.and_self]

theorem isWellFormed_message_notSettingKey (t : Text) :
    (notSettingKey (.text t)).message.isWellFormed = true := by
  simp only [message, Value.quoted, Quoted.isWellFormed_append, Text.isWellFormed_ofString,
    Quoted.isWellFormed_text, Bool.and_self]

end Rejection

/-- The faults with a text that can be printed as it is. -/
def Fault.IsPrintable (fault : Fault) : Prop :=
  ∃ text, fault.text = .ok text ∧ text.isWellFormed = true

theorem Fault.isPrintable_rejected {reason : Rejection} (h : reason.message.isWellFormed = true) :
    (rejected reason).IsPrintable := by
  refine ⟨_, rfl, ?_⟩
  rw [Quoted.isWellFormed_append, Text.isWellFormed_ofString, h, Bool.and_self]

namespace Identifier

variable {t : Text} {fault : Fault}

theorem isPrintable_of_encode {field : String}
    (h : encode field (.text t) = .error fault) : fault.IsPrintable := by
  rw [encode] at h
  cases hencode : Utf8.encode t with
  | ok b =>
      rw [hencode] at h
      cases h
  | error run =>
      rw [hencode] at h
      cases h
      exact Fault.isPrintable_rejected (Rejection.isWellFormed_message_notUtf8 field t)

theorem isPrintable_of_registry
    (h : registry Scheme.standard (.text t) = .error fault) :
    fault.IsPrintable := by
  rw [registry_standard] at h
  cases hencode : Utf8.encode t with
  | error run =>
      have hfault : encode "namespace" (.text t) = .error (.rejected (.notUtf8 "namespace" t)) := by
        rw [encode, hencode]
      rw [hfault] at h
      cases h
      exact isPrintable_of_encode hfault
  | ok b =>
      have hbytes : encode "namespace" (.text t) = .ok b := by rw [encode, hencode]
      have hwell := (Utf8.encode_eq_ok_iff.mp hencode).1
      rw [hbytes] at h
      change significant (.text t) b = .error fault at h
      rw [significant] at h
      split at h
      · cases h
        exact Fault.isPrintable_rejected
          (Rejection.isWellFormed_message_namespaceTooShort hwell)
      · split at h
        · cases h
          exact Fault.isPrintable_rejected
            (Rejection.isWellFormed_message_namespaceCut hwell)
        · cases h

theorem isPrintable_of_contract {u : Text}
    (h : contract Scheme.standard (.text t) (.text u) = .error fault) :
    fault.IsPrintable := by
  rw [contract, separator_standard] at h
  cases hname : encode "contract name" (.text t) with
  | error fault' =>
      rw [hname] at h
      cases h
      exact isPrintable_of_encode hname
  | ok left =>
      rw [hname] at h
      cases hversion : encode "contract version" (.text u) with
      | error fault' =>
          rw [hversion] at h
          cases h
          exact isPrintable_of_encode hversion
      | ok right =>
          rw [hversion] at h
          cases h

end Identifier

/-! ### Subjects -/

namespace Subject

/-- A slice of texts has no bytes only with a message that holds no surrogates. -/
theorem isPrintable_of_payload (subject : Subject)
    (htexts : ∀ v ∈ subject.identifiers, ∃ t : Text, v = .text t) {slice : Slice}
    (hslice : slice ∈ subject.slices Scheme.standard) {fault : Fault}
    (h : slice.payload = .error fault) : fault.IsPrintable := by
  cases subject with
  | namespaceRegistry given =>
      obtain ⟨t, rfl⟩ := htexts given List.mem_cons_self
      cases List.mem_singleton.mp hslice
      exact Identifier.isPrintable_of_registry h
  | contract name version =>
      obtain ⟨⟨t, rfl⟩, hversion⟩ := List.forall_mem_cons.mp htexts
      obtain ⟨u, rfl⟩ := hversion version List.mem_cons_self
      cases List.mem_singleton.mp hslice
      exact Identifier.isPrintable_of_contract h
  | smartPermission owner name =>
      obtain ⟨⟨t, rfl⟩, hname⟩ := List.forall_mem_cons.mp htexts
      obtain ⟨u, rfl⟩ := hname name List.mem_cons_self
      rcases List.mem_cons.mp hslice with rfl | hslice
      · exact Identifier.isPrintable_of_encode h
      · cases List.mem_singleton.mp hslice
        exact Identifier.isPrintable_of_encode h
  | contractRegistry id | agent id | organization id =>
      obtain ⟨t, rfl⟩ := htexts id List.mem_cons_self
      cases List.mem_singleton.mp hslice
      exact Identifier.isPrintable_of_encode h

include hlibrary in
/-- With a built-in provider, a derivation fails only for want of the bytes of a slice. -/
theorem exists_payload_of_error (b : Provider.Builtin) (subject : Subject) (level : Level) (s : σ)
    {fault : Fault}
    (h : ((subject.derive (.builtin library b)).run ⟨Scheme.standard, level⟩ s).result =
      .error fault) :
    ∃ slice ∈ subject.slices Scheme.standard, slice.payload = .error fault := by
  obtain ⟨reason, rfl⟩ := (subject.derive_isDecidedBy hlibrary b level s).exists_rejected h
  have hrun := subject.slicesRun_taken (.builtin library b) ⟨Scheme.standard, level⟩ s
  have hasked := asked_takeSlices (.builtin library b) Scheme.standard ⟨Scheme.standard, level⟩ s
    (subject.slices Scheme.standard)
  rw [result_derive] at h
  cases htaken : (subject.taken (.builtin library b) ⟨Scheme.standard, level⟩ s).result with
  | ok parts =>
      rw [htaken] at h
      rcases Address.compose_eq_error rfl h with ⟨_, hother⟩ | ⟨_, hother⟩ <;> cases hother
  | error fault =>
      rw [htaken] at h
      cases h
      have hanswers := Provider.answers_builtin hlibrary b _ s hasked
      rcases hrun.addressError?_of_answersAll hanswers htaken with hnone | hslice
      · cases hnone
      · exact hslice

end Subject

/-! ### Computations -/

namespace Computation

/-- Whether the identifiers of a computation are texts. -/
def IsOfTexts (c : Computation) : Prop := ∀ v ∈ c.identifiers, ∃ t : Text, v = .text t

include hlibrary

/-- The message of a refused text holds no surrogates. -/
theorem isPrintable_of_rejected (b : Provider.Builtin) {c : Computation}
    (hc : c.IsOfTexts) (level : Level) (s : σ) {reason : Rejection}
    (h : ((c.address (.builtin library b)).run ⟨Scheme.standard, level⟩ s).result =
      .error (.rejected reason)) :
    (Fault.rejected reason).IsPrintable := by
  cases c with
  | ofSubject subject =>
      obtain ⟨slice, hslice, hpayload⟩ := subject.exists_payload_of_error hlibrary b level s h
      exact subject.isPrintable_of_payload hc hslice hpayload
  | ofSetting key =>
      obtain ⟨t, rfl⟩ := hc key List.mem_cons_self
      rcases SettingKey.address_cases (.text t) level s with
        ⟨_, _, -, -, hok⟩ | ⟨_, run, -, -, hrun⟩ | ⟨-, hrefused⟩
      · cases hok.symm.trans h
      · cases hrun.symm.trans h
      · cases hrefused.symm.trans h
        exact Fault.isPrintable_rejected (Rejection.isWellFormed_message_notSettingKey t)

/-- With a built-in provider, texts end in no other address errors than refusals, and their messages
hold no surrogates. -/
theorem isPrintable (b : Provider.Builtin) {c : Computation} (hc : c.IsOfTexts)
    (level : Level) (s : σ) {fault : Fault}
    (h : ((c.address (.builtin library b)).run ⟨Scheme.standard, level⟩ s).result = .error fault)
    (hfault : fault.addressError?.isSome = true) : fault.IsPrintable := by
  rcases c.result_cases hlibrary b level s with
    ⟨-, -, a, ha⟩ | ⟨-, reason, hreason⟩ | ⟨-, run, hrun⟩
  · cases ha.symm.trans h
  · cases hreason.symm.trans h
    exact isPrintable_of_rejected hlibrary b hc level s h
  · cases hrun.symm.trans h
    cases hfault

end Computation

end StateAddress
