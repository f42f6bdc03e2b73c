import StateAddress.Proofs.Acceptance
import StateAddress.Proofs.SlicesRun

/-!
# Refusals before questions

An identifier that is not acceptable is refused, and in general before the provider is asked for
anything, so that neither the state of the provider nor a failure of it plays a part.  The two
identifiers of a smart permission are an exception: each is read just before it is hashed.  If the
owner is acceptable and the name is not, the provider has been asked for the owner by then, and what
it does decides whether the name is refused.

## Main definitions

* `Subject.AsksBeforeRefusal` : the subjects for which the provider is asked before an identifier is
  refused.
* `Subject.IsRefusedAfterOwner` : how the derivations for these subjects end.

## Main results

* `Subject.exists_withheld_first` : otherwise the first slice has no bytes.
* `Subject.refused_unasked_iff` : when an unacceptable identifier is refused without a question.
-/

namespace StateAddress

variable {σ : Type}

namespace Subject

/-- Whether a subject is a smart permission with an acceptable owner and a name that is not. -/
def AsksBeforeRefusal : Subject → Prop
  | smartPermission owner name =>
      Identifier.IsAcceptable owner ∧ ¬ Identifier.IsAcceptable name
  | _ => False

/-- Unless the owner of a smart permission comes first, an identifier that is not acceptable leaves
the first slice without bytes. -/
theorem exists_withheld_first {subject : Subject} (h : ¬ subject.IsAcceptable)
    (hfirst : ¬ subject.AsksBeforeRefusal) :
    ∃ slice rest r, subject.slices Scheme.standard = slice :: rest ∧
      slice.payload = .error (.rejected r) := by
  cases subject with
  | namespaceRegistry given =>
      obtain ⟨r, hr⟩ := (Identifier.registry_isDecidedBy given).exists_rejected_of_not h
      exact ⟨_, _, r, rfl, hr⟩
  | contract name version =>
      obtain ⟨r, hr⟩ := (Identifier.contract_isDecidedBy name version).exists_rejected_of_not h
      exact ⟨_, _, r, rfl, hr⟩
  | smartPermission owner name =>
      have howner : ¬ Identifier.IsAcceptable owner :=
        fun howner => hfirst ⟨howner, fun hname => h ⟨howner, hname⟩⟩
      obtain ⟨r, hr⟩ := (Identifier.encode_isDecidedBy _ owner).exists_rejected_of_not howner
      exact ⟨_, _, r, rfl, hr⟩
  | contractRegistry id | agent id | organization id =>
      obtain ⟨r, hr⟩ := (Identifier.encode_isDecidedBy _ id).exists_rejected_of_not h
      exact ⟨_, _, r, rfl, hr⟩

end Subject

/-- A run over two slices of which the second has no bytes asks for the first one.  If the provider
fails on it, this is reported; if its part is taken, the want of bytes is. -/
theorem SlicesRun.of_second_withheld {p : Provider σ} {scheme : Scheme} {s : σ}
    {first second : Slice} {asked : List Value} {result : Except Fault (List Value)} {b : Bytes}
    {fault : Fault} (h : SlicesRun p scheme s [first, second] asked result)
    (hfirst : first.payload = .ok b) (hsecond : second.payload = .error fault) :
    asked = [.bytes b] ∧
      (∀ failure, (p.hash (.bytes b) s).1 = .error failure →
        result = .error (failure.whileHashing (.ofString first.purpose))) ∧
      ∀ digest part, (p.hash (.bytes b) s).1 = .ok digest →
        digest.toValue.take (scheme.portion first.portion) = .ok part →
          result = .error fault := by
  cases hanswer : (p.hash (.bytes b) s).1 with
  | error failure =>
      obtain ⟨rfl, rfl⟩ := h.of_failed hfirst hanswer
      refine ⟨rfl, fun failure' hfailure => ?_, fun digest part hdigest => ?_⟩
      · cases hfailure
        rfl
      · cases hdigest
  | ok digest =>
      refine ⟨?_, fun failure hfailure => (by cases hfailure), fun digest' part hdigest hpart => ?_⟩
      · rcases h.of_answered hfirst hanswer with ⟨_, -, hasked, -⟩ | ⟨_, _, _, -, others, rfl, -⟩
        · exact hasked
        · rw [(others.of_withheld hsecond).1]
      · cases hdigest
        rcases h.of_answered hfirst hanswer with
          ⟨_, hunfit, -, -⟩ | ⟨_, _, _, -, others, -, rfl⟩
        · cases hpart.symm.trans hunfit
        · rw [(others.of_withheld hsecond).2]
          rfl

namespace Subject

theorem run_derive_of_withheld (p : Provider σ) {setup : Setup} (s : σ) {subject : Subject}
    {slice : Slice} {rest : List Slice} {fault : Fault}
    (hslices : subject.slices setup.scheme = slice :: rest) (h : slice.payload = .error fault) :
    (subject.derive p).run setup s = ⟨.error fault, [], [], s⟩ := by
  have htaken : subject.taken p setup s = ⟨.error fault, [], [], s⟩ := by
    rw [taken, hslices, run_takeSlices_of_error p _ _ s rest h]
  rw [run_derive, htaken]
  rfl

/-- What is left behind by the derivation for a smart permission with the acceptable owner `b` and a
name that is not acceptable: the provider has been asked for the owner.  If it failed, this is
reported; if it gave a digest of which the part can be taken, the name is refused. -/
structure IsRefusedAfterOwner (p : Provider σ) (scheme : Scheme) (s : σ) (b : Bytes)
    (o : Outcome σ Bytes) : Prop where
  asked_eq : o.asked = [.bytes b]
  state_eq : o.state = (p.hash (.bytes b) s).2
  failed : ∀ fault, (p.hash (.bytes b) s).1 = .error fault →
    o.result = .error (fault.whileHashing (.ofString "pike org id"))
  rejected : ∀ digest part, (p.hash (.bytes b) s).1 = .ok digest →
    digest.toValue.take (scheme.portion .permissionOrganization) = .ok part →
      ∃ r, o.result = .error (.rejected r)

theorem isRefusedAfterOwner_derive (p : Provider σ) (setup : Setup) (s : σ) {owner name : Value}
    {b : Bytes} (howner : Identifier.encode "organization id" owner = .ok b)
    (hname : ¬ Identifier.IsAcceptable name) :
    IsRefusedAfterOwner p setup.scheme s b
      (((smartPermission owner name).derive p).run setup s) := by
  obtain ⟨r, hr⟩ :=
    (Identifier.encode_isDecidedBy "smart permission name" name).exists_rejected_of_not hname
  obtain ⟨hasked, hfailed, hrejected⟩ :=
    ((smartPermission owner name).slicesRun_taken p setup s).of_second_withheld howner hr
  have hstate := consults_derive p (smartPermission owner name) setup s
  rw [asked_derive, hasked] at hstate
  refine ⟨?_, hstate, fun fault hfault => ?_, fun digest part hdigest hpart => ⟨r, ?_⟩⟩
  · rw [asked_derive, hasked]
  · exact result_derive_of_error p _ setup s (hfailed fault hfault)
  · exact result_derive_of_error p _ setup s (hrejected digest part hdigest hpart)

/-- **When an unacceptable identifier is refused without a question.** Under a scheme that reads as
the standard one, and with any provider in any state, a derivation with an identifier that is not
acceptable is refused without a question and without an effect on the provider, exactly unless the
identifier is the name of a smart permission with an acceptable owner.  Then the provider is asked
for the owner first, and a failure of it is reported in place of the refusal. -/
theorem refused_unasked_iff {scheme : Scheme} (hscheme : scheme.ReadsAsStandard) (p : Provider σ)
    (s : σ) (subject : Subject) (h : ¬ subject.IsAcceptable) (level : Level) :
    let outcome := (subject.derive p).run ⟨scheme, level⟩ s
    (((∃ r, outcome.result = .error (.rejected r)) ∧ outcome.asked = [] ∧ outcome.state = s) ↔
        ¬ subject.AsksBeforeRefusal) ∧
      (subject.AsksBeforeRefusal → ∃ owner name b, subject = .smartPermission owner name ∧
        Identifier.encode "organization id" owner = .ok b ∧
          IsRefusedAfterOwner p scheme s b outcome) := by
  intro outcome
  have hasking (hasks : subject.AsksBeforeRefusal) : ∃ owner name b,
      subject = .smartPermission owner name ∧ Identifier.encode "organization id" owner = .ok b ∧
        IsRefusedAfterOwner p scheme s b outcome := by
    cases subject with
    | smartPermission owner name =>
        obtain ⟨b, hb⟩ :=
          (Identifier.encode_isDecidedBy "organization id" owner).exists_ok_iff.mpr hasks.1
        exact ⟨owner, name, b, rfl, hb, isRefusedAfterOwner_derive p ⟨scheme, level⟩ s hb hasks.2⟩
    | _ => exact hasks.elim
  refine ⟨⟨fun ⟨_, hunasked, _⟩ hasks => ?_, fun hasks => ?_⟩, hasking⟩
  · obtain ⟨owner, name, b, -, -, hrefused⟩ := hasking hasks
    cases hunasked.symm.trans hrefused.asked_eq
  · obtain ⟨slice, rest, r, hslices, hr⟩ := exists_withheld_first h hasks
    have hrun : outcome = ⟨.error (.rejected r), [], [], s⟩ :=
      run_derive_of_withheld p s ((hscheme.slices_eq subject).trans hslices) hr
    rw [hrun]
    exact ⟨⟨r, rfl⟩, rfl, rfl⟩

/-- With a provider that fails on its next call, a contract without a version is refused and the
provider is not asked.  A smart permission without a name is not refused: the failure on its owner
is reported. -/
theorem refused_unasked_iff_of_failing :
    let version := ((contract (.bytes [0x61]) .null).derive (Provider.counting 32 [1])).run
      ⟨Scheme.standard, 0⟩ 0
    let name := ((smartPermission (.bytes [0x61]) .null).derive (Provider.counting 32 [1])).run
      ⟨Scheme.standard, 0⟩ 0
    (∃ r, version.result = .error (.rejected r)) ∧ version.asked = [] ∧ version.state = 0 ∧
      name.asked = [.bytes [0x61]] ∧ name.state = 1 ∧
        ∃ fault, name.result = .error (.hashFailed "failed to hash pike org id: " fault) := by
  obtain ⟨⟨-, hversion⟩, -⟩ := refused_unasked_iff Scheme.readsAsStandard_standard
    (Provider.counting 32 [1]) 0 (contract (.bytes [0x61]) .null) (fun h => h.2) 0
  obtain ⟨-, hname⟩ := refused_unasked_iff Scheme.readsAsStandard_standard
    (Provider.counting 32 [1]) 0 (smartPermission (.bytes [0x61]) .null) (fun h => h.2) 0
  obtain ⟨hrejected, hasked, hstate⟩ := hversion id
  obtain ⟨owner, name, b, hsubject, hb, hrefused⟩ := hname ⟨trivial, id⟩
  cases hsubject
  cases hb
  exact ⟨hrejected, hasked, hstate, hrefused.asked_eq, hrefused.state_eq, _,
    hrefused.failed _ rfl⟩

/-- Not every unacceptable identifier is refused without a question: the name of a smart permission
is read after the provider has been asked for the owner. -/
theorem not_forall_refused_unasked :
    ¬ ∀ (p : Provider Nat) (s : Nat) (subject : Subject) (level : Level),
      ¬ subject.IsAcceptable →
        let outcome := (subject.derive p).run ⟨Scheme.standard, level⟩ s
        (∃ r, outcome.result = .error (.rejected r)) ∧ outcome.asked = [] ∧ outcome.state = s := by
  intro h
  obtain ⟨⟨r, hr⟩, -⟩ := h (Provider.counting 32 [1]) 0 (smartPermission (.bytes [0x61]) .null) 0
    (fun hacceptable => hacceptable.2)
  cases hr

end Subject

end StateAddress
