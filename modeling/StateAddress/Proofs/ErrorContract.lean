import Mathlib.Algebra.GroupWithZero.Nat
import StateAddress.Proofs.Acceptance
import StateAddress.Proofs.Classification
import StateAddress.Proofs.Report

/-!
# The two kinds of errors

With a hash provider that fails by exceptions with a text only and whose digests are long enough
byte strings, a derivation in the standard scheme ends in one of three ways: with an address, with a
refused input, or with a failed provider.  Which of them it is can be told from the identifiers and
from the provider's answers alone.  The proof follows the slices of the address: each is refused,
fails or adds the number of bytes that the scheme gives to it.

A digest that is a view of another kind holds bytes as well, but is counted and cut by its items and
not always joined, so that such digests are left out.

## Main definitions

* `Provider.IsAmple`, `Provider.IsReliable` : long enough digests, or failures by exceptions.
* `SlicesEnding` : the three ways in which the taking of slices ends.
* `Outcome.FailsWith` : an operation that ends in an address error of a kind.

## Main results

* `slicesEnding_of_isReliable` : there are no other ways.
* `Subject.derive_isContractual` : how a derivation ends, and when.
* `Subject.not_forall_derive_isContractual` : it does not suffice that digests hold bytes enough.
-/

namespace StateAddress

variable {σ α : Type}

/-! ### Reliable providers -/

namespace Provider

/-- An answer of which every part of an address can be taken, or a failure that can be reported. -/
def IsAmple : Except Fault Digest → Prop
  | .ok digest => ∃ kind b, digest.toValue = .octets kind b ∧ 32 ≤ b.length
  | .error fault => fault.IsReportable

/-- A provider is *reliable* from a state on when all its answers are ample, whatever it has been
asked before. -/
def IsReliable (p : Provider σ) (s : σ) : Prop :=
  ∀ earlier data, IsAmple (p.hash data (p.after s earlier)).1

theorem IsReliable.isAmple {p : Provider σ} {s : σ} (hp : p.IsReliable s) (data : Value) :
    IsAmple (p.hash data s).1 := hp [] data

theorem IsReliable.hash {p : Provider σ} {s : σ} (hp : p.IsReliable s) (data : Value) :
    p.IsReliable (p.hash data s).2 := fun earlier => hp (data :: earlier)

/-- A counting provider is reliable if its digests are long enough, whichever calls fail. -/
theorem isReliable_counting {length : Nat} (h : 32 ≤ length) (failures : List Nat) (s : Nat) :
    (counting length failures).IsReliable s := by
  intro earlier data
  generalize (counting length failures).after s earlier = calls
  change IsAmple (Except.map Digest.value
    (if calls + 1 ∈ failures then Except.error (.raised ⟨.runtime, []⟩) else _))
  split
  · exact ⟨rfl, [], rfl⟩
  · exact ⟨.growable, _, rfl, by rwa [List.length_replicate]⟩

end Provider

/-! ### Parts of an address -/

theorem Portion.standardLength_le (p : Portion) : p.standardLength ≤ 32 := by
  cases p <;> decide

theorem Subject.sum_standardLength (subject : Subject) (s : Scheme) :
    subject.entity.tag.length +
      ((subject.slices s).map fun slice => slice.portion.standardLength).sum = 35 := by
  cases subject <;> rfl

/-! ### Taking slices -/

/-- The ways in which the taking of slices ends, given the answers of the provider: all are taken
and have their lengths, an input is refused, or the provider has failed. -/
inductive SlicesEnding (answers : List (Except Fault Digest)) (slices : List Slice) :
    Except Fault (List Value) → Prop
  | taken {parts : List Value} {rest : Bytes}
      (joined : ∀ position, joinOctets position parts = .ok rest)
      (length : rest.length = (slices.map fun slice => slice.portion.standardLength).sum)
      (payloads : ∀ slice ∈ slices, ∃ b, slice.payload = .ok b)
      (answered : ∀ a ∈ answers, ∃ digest, a = .ok digest) :
      SlicesEnding answers slices (.ok parts)
  | refused {fault : Fault} (payload : ∃ slice ∈ slices, slice.payload = .error fault)
      (answered : ∀ a ∈ answers, ∃ digest, a = .ok digest) :
      SlicesEnding answers slices (.error fault)
  | failed {message : Text} {fault : Fault} (unanswered : .error fault ∈ answers) :
      SlicesEnding answers slices (.error (.hashFailed message fault))

namespace SlicesEnding

variable {answers : List (Except Fault Digest)} {slices : List Slice}

/-- One more slice in front, of which a part has been taken. -/
theorem cons {slice : Slice} {b c : Bytes} {digest : Digest} {kind : OctetKind}
    {result : Except Fault (List Value)} (h : SlicesEnding answers slices result)
    (hpayload : slice.payload = .ok b) (hlength : c.length = slice.portion.standardLength) :
    SlicesEnding (.ok digest :: answers) (slice :: slices)
      (result.map (.octets kind c :: ·)) := by
  have hanswers (h : ∀ a ∈ answers, ∃ digest, a = .ok digest) :
      ∀ a ∈ .ok digest :: answers, ∃ digest, a = (.ok digest : Except Fault Digest) := by
    intro a ha
    rcases List.mem_cons.mp ha with rfl | ha
    · exact ⟨digest, rfl⟩
    · exact h a ha
  cases h with
  | @taken parts rest joined length payloads answered =>
      have hjoined (position : Nat) :
          joinOctets position (.octets kind c :: parts) = .ok (c ++ rest) := by
        rw [joinOctets, joined]
        rfl
      refine .taken hjoined ?_ ?_ (hanswers answered)
      · rw [List.length_append, hlength, length]
        rfl
      · intro x hx
        rcases List.mem_cons.mp hx with rfl | hx
        · exact ⟨b, hpayload⟩
        · exact payloads x hx
  | refused payload answered =>
      obtain ⟨x, hx, hfault⟩ := payload
      exact .refused ⟨x, List.mem_cons_of_mem _ hx, hfault⟩ (hanswers answered)
  | failed unanswered => exact .failed (List.mem_cons_of_mem _ unanswered)

end SlicesEnding

/-- In the standard scheme and with a reliable provider, there are no other ways in which the
taking of slices ends. -/
theorem slicesEnding_of_isReliable (p : Provider σ) (level : Level) (slices : List Slice) {s : σ}
    (hp : p.IsReliable s) :
    let outcome := (takeSlices p Scheme.standard slices).run ⟨Scheme.standard, level⟩ s
    SlicesEnding (p.answers s outcome.asked) slices outcome.result := by
  induction slices generalizing s with
  | nil =>
      exact .taken (fun _ => rfl) rfl (by simp) (by simp [run_takeSlices_nil])
  | cons slice rest ih =>
      intro outcome
      cases hpayload : slice.payload with
      | error fault =>
          have hrun : outcome = ⟨.error fault, [], [], s⟩ :=
            run_takeSlices_of_error p _ _ s rest hpayload
          rw [hrun]
          exact .refused ⟨slice, List.mem_cons_self, hpayload⟩ (by simp)
      | ok b =>
          have hrun := run_takeSlices_of_ok p Scheme.standard ⟨Scheme.standard, level⟩ s rest
            hpayload
          have hample := hp.isAmple (.bytes b)
          cases hanswer : (p.hash (.bytes b) s).1 with
          | error fault =>
              rw [hanswer] at hrun hample
              obtain ⟨hinterrupt, text, htext⟩ := hample
              obtain ⟨message, hwhile⟩ : ∃ message,
                  fault.whileHashing (.ofString slice.purpose) = .hashFailed message fault :=
                ⟨_, Fault.whileHashing_of_text hinterrupt (Value.isWritable_text _) htext⟩
              have houtcome : outcome = ⟨.error (.hashFailed message fault), [.bytes b], [],
                  (p.hash (.bytes b) s).2⟩ := hwhile ▸ hrun
              rw [houtcome]
              exact .failed (by simp [hanswer])
          | ok digest =>
              rw [hanswer] at hrun hample
              obtain ⟨kind, c, hdigest, hlength⟩ := hample
              have hle : slice.portion.standardLength ≤ c.length :=
                Nat.le_trans slice.portion.standardLength_le hlength
              have htake : digest.toValue.take (Scheme.standard.portion slice.portion) =
                  .ok (.octets kind (c.take slice.portion.standardLength)) := by
                rw [hdigest]
                exact (Value.take_octets kind c _).trans (if_pos hle)
              simp only [mapError_ok, Except.bind, htake] at hrun
              change SlicesEnding (p.answers s outcome.asked) _ outcome.result
              rw [show outcome = _ from hrun, Provider.answers_cons, hanswer]
              exact (ih (hp.hash (.bytes b))).cons hpayload (List.length_take_of_le hle)

/-! ### Derivations -/

/-- Whether an operation ended in an address error of a kind. -/
def Outcome.FailsWith (o : Outcome σ α) (kind : AddressError.Kind) : Prop :=
  ∃ fault, o.result = .error fault ∧ fault.addressError? = some kind

theorem Outcome.not_failsWith_of_ok {o : Outcome σ α} {a : α} (h : o.result = .ok a)
    (kind : AddressError.Kind) : ¬ o.FailsWith kind := by
  rintro ⟨fault, hfault, -⟩
  cases h.symm.trans hfault

theorem Outcome.failsWith_iff {o : Outcome σ α} {fault : Fault} (h : o.result = .error fault)
    {kind : AddressError.Kind} : o.FailsWith kind ↔ fault.addressError? = some kind := by
  refine ⟨?_, fun hkind => ⟨fault, h, hkind⟩⟩
  rintro ⟨other, hother, hkind⟩
  cases h.symm.trans hother
  exact hkind

/-- In the standard scheme and with a reliable provider, a derivation ends with an address, with a
refused input or with a failed provider. -/
theorem Subject.derive_cases (p : Provider σ) {s : σ} (hp : p.IsReliable s) (subject : Subject)
    (level : Level) :
    let outcome := (subject.derive p).run ⟨Scheme.standard, level⟩ s
    let answers := p.answers s outcome.asked
    (subject.IsAcceptable ∧ (∀ a ∈ answers, ∃ digest, a = .ok digest) ∧
        ∃ b, outcome.result = .ok b ∧ b.length = 35) ∨
      (¬ subject.IsAcceptable ∧ (∀ a ∈ answers, ∃ digest, a = .ok digest) ∧
        ∃ r, outcome.result = .error (.rejected r)) ∨
      ∃ message fault, .error fault ∈ answers ∧
        outcome.result = .error (.hashFailed message fault) := by
  intro outcome answers
  have hrun : outcome = _ := subject.run_derive p ⟨Scheme.standard, level⟩ s
  have hasked : outcome.asked = (subject.taken p ⟨Scheme.standard, level⟩ s).asked := by
    rw [hrun]
  have hresult : outcome.result = (subject.taken p ⟨Scheme.standard, level⟩ s).result.bind
      (Address.compose Scheme.standard subject.entity) := by rw [hrun]
  have hending := slicesEnding_of_isReliable p level (subject.slices Scheme.standard) hp
  change SlicesEnding (p.answers s (subject.taken p ⟨Scheme.standard, level⟩ s).asked) _
    (subject.taken p ⟨Scheme.standard, level⟩ s).result at hending
  rw [← hasked] at hending
  cases htaken : (subject.taken p ⟨Scheme.standard, level⟩ s).result with
  | ok parts =>
      rw [htaken] at hending hresult
      cases hending with
      | taken joined length payloads answered =>
          have hsum := subject.sum_standardLength Scheme.standard
          rw [← length] at hsum
          refine .inl ⟨subject.isAcceptable_iff.mpr payloads, answered, _,
            hresult.trans (Address.compose_standard (joined 1) hsum), ?_⟩
          rw [List.length_append, hsum]
  | error fault =>
      rw [htaken] at hending hresult
      cases hending with
      | refused payload answered =>
          obtain ⟨slice, hslice, hfault⟩ := payload
          obtain ⟨r, rfl⟩ := subject.exists_rejected_of_payload hslice hfault
          refine .inr (.inl ⟨fun hacceptable => ?_, answered, r, hresult⟩)
          obtain ⟨b, hb⟩ := subject.isAcceptable_iff.mp hacceptable slice hslice
          rw [hfault] at hb
          cases hb
      | failed unanswered => exact .inr (.inr ⟨_, _, unanswered, hresult⟩)

/-- **The error contract of the derivations.** In the standard scheme and with a reliable
provider, a derivation consults the provider and ends with an address of 35 bytes, with a refused
input or with a failed provider.  It ends with an address exactly if all identifiers are
acceptable and the provider has answered each question; an input is refused only if some
identifier is not acceptable, and the provider is reported only if one of its answers was a
failure. -/
theorem Subject.derive_isContractual (p : Provider σ) {s : σ} (hp : p.IsReliable s)
    (subject : Subject) (level : Level) :
    let outcome := (subject.derive p).run ⟨Scheme.standard, level⟩ s
    let answers := p.answers s outcome.asked
    outcome.state = p.after s outcome.asked ∧
      ((∃ b, outcome.result = .ok b ∧ b.length = 35) ∨ outcome.FailsWith .refusedInput ∨
        outcome.FailsWith .failedHash) ∧
      ((∃ b, outcome.result = .ok b) ↔
        subject.IsAcceptable ∧ ∀ a ∈ answers, ∃ digest, a = .ok digest) ∧
      (outcome.FailsWith .refusedInput → ¬ subject.IsAcceptable) ∧
      (outcome.FailsWith .failedHash → ∃ a ∈ answers, ∃ fault, a = .error fault) := by
  intro outcome answers
  refine ⟨consults_derive p subject _ s, ?_⟩
  rcases subject.derive_cases p hp level with
    ⟨hacceptable, hanswered, b, hb, hlength⟩ | ⟨hnot, hanswered, r, hr⟩ |
      ⟨message, fault, hmem, hfailed⟩
  · exact ⟨.inl ⟨b, hb, hlength⟩, ⟨fun _ => ⟨hacceptable, hanswered⟩, fun _ => ⟨b, hb⟩⟩,
      fun hrefused => absurd hrefused (Outcome.not_failsWith_of_ok hb _),
      fun hfailed => absurd hfailed (Outcome.not_failsWith_of_ok hb _)⟩
  · refine ⟨.inr (.inl ⟨_, hr, rfl⟩), ⟨?_, fun h => absurd h.1 hnot⟩, fun _ => hnot, ?_⟩
    · rintro ⟨b, hb⟩
      cases hr.symm.trans hb
    · intro hfailed
      cases (Outcome.failsWith_iff hr).mp hfailed
  · refine ⟨.inr (.inr ⟨_, hfailed, rfl⟩), ⟨?_, ?_⟩, ?_, fun _ => ⟨_, hmem, fault, rfl⟩⟩
    · rintro ⟨b, hb⟩
      cases hfailed.symm.trans hb
    · rintro ⟨-, hanswered⟩
      obtain ⟨digest, hdigest⟩ := hanswered _ hmem
      cases hdigest
    · intro hrefused
      cases (Outcome.failsWith_iff hfailed).mp hrefused

/-- A smart permission whose name is hashed by a failing call: the provider is reported, although
its first answer was long enough. -/
theorem Subject.derive_isContractual_of_second_failure :
    (Provider.counting 32 [2]).IsReliable 0 ∧
      let outcome := ((smartPermission (.bytes [0x61]) (.octets .growable [])).derive
        (Provider.counting 32 [2])).run ⟨Scheme.standard, 0⟩ 0
      outcome.asked = [.bytes [0x61], .bytes []] ∧ outcome.FailsWith .failedHash ∧
        ∃ a ∈ (Provider.counting 32 [2]).answers 0 outcome.asked, ∃ fault, a = .error fault := by
  have hp := Provider.isReliable_counting (Nat.le_refl 32) [2] 0
  obtain ⟨-, -, -, -, hfailed⟩ := derive_isContractual (Provider.counting 32 [2]) hp
    (smartPermission (.bytes [0x61]) (.octets .growable [])) 0
  exact ⟨hp, rfl, ⟨_, rfl, rfl⟩, hfailed ⟨_, rfl, rfl⟩⟩

/-! ### Digests that are not rows of bytes -/

/-- An answer that holds bytes enough for every part of an address, in whatever way they are viewed,
or a failure that does not end the program. -/
def Provider.HoldsEnough : Except Fault Digest → Prop
  | .ok digest => ∃ b, digest.toValue.content? = some b ∧ 32 ≤ b.length
  | .error fault => fault.isInterrupt = false

/-- The bytes of a byte string viewed from the last to the first. -/
def View.backwards (b : Bytes) : View where
  itemSize := 1
  dimensions := [⟨b.length, -1⟩]
  content := b.reverse
  length_content := by simp [Dimension.volume]
  not_plain := rfl

/-- A provider that gives one answer to everything. -/
def Provider.constant (answer : Except Fault Value) : Provider σ :=
  .bare (fun _ s => (answer, s)) none (.missing "ConstantProvider")

/-- Bytes enough do not suffice for the error contract: a digest that is viewed backwards has no
part that is joined with the tag of the address. -/
theorem Subject.not_forall_derive_isContractual :
    ¬ ∀ (p : Provider Unit), (∀ data, Provider.HoldsEnough (p.hash data ()).1) →
      ∀ subject : Subject,
        let outcome := (subject.derive p).run ⟨Scheme.standard, 0⟩ ()
        (∃ b, outcome.result = .ok b ∧ b.length = 35) ∨ outcome.FailsWith .refusedInput ∨
          outcome.FailsWith .failedHash := by
  intro h
  let p : Provider Unit := .constant (.ok (.view (.backwards (List.replicate 64 0))))
  have hresult : (((agent (.bytes [0x61])).derive p).run ⟨Scheme.standard, 0⟩ ()).result =
      .error (.misused (.notOctets 1 "memoryview")) := rfl
  have hp : ∀ data, Provider.HoldsEnough (p.hash data ()).1 := fun _ => ⟨_, rfl, by decide⟩
  rcases h p hp (agent (.bytes [0x61])) with ⟨b, hb, -⟩ | ⟨fault, hfault, hkind⟩ |
    ⟨fault, hfault, hkind⟩
  · cases hresult.symm.trans hb
  · cases hresult.symm.trans hfault
    cases hkind
  · cases hresult.symm.trans hfault
    cases hkind

end StateAddress
