import StateAddress.Proofs.Consultation

/-!
# Runs over the slices of an address

The slices of an address are taken one by one, and each of them can go on in four ways: it has no
bytes, so that nothing is asked for it; the provider fails on its bytes; its part cannot be taken of
the digest; or its part is taken and the next slice follows.  The relation `SlicesRun` has a rule
for each of these ways, and what holds of every run is proved by induction over the rules.

## Main definitions

* `SlicesRun` : the runs over slices, with the questions asked and the result.

## Main results

* `slicesRun_takeSlices`, `Subject.slicesRun_taken` : the taking of slices is a run over them.
* `SlicesRun.of_withheld`, `SlicesRun.of_failed`, `SlicesRun.of_answered` : how a run begins.
* `SlicesRun.exists_of_unanswered` : a failure of the provider ends a run, and it is reported with
  the purpose of the slice that it occurred at.
* `SlicesRun.addressError?_of_answersAll` : a run without a failure of the provider ends in an
  address error only for want of bytes.
-/

namespace StateAddress

variable {σ : Type}

/-- The runs over slices with a provider under a scheme, from a state of the provider: the questions
that are asked, and the parts that are taken or the fault that ends the run. -/
inductive SlicesRun (p : Provider σ) (scheme : Scheme) :
    σ → List Slice → List Value → Except Fault (List Value) → Prop
  | done (s : σ) : SlicesRun p scheme s [] [] (.ok [])
  | withheld {s : σ} {slice : Slice} {rest : List Slice} {fault : Fault}
      (payload : slice.payload = .error fault) :
      SlicesRun p scheme s (slice :: rest) [] (.error fault)
  | failed {s : σ} {slice : Slice} {rest : List Slice} {b : Bytes} {fault : Fault}
      (payload : slice.payload = .ok b) (answer : (p.hash (.bytes b) s).1 = .error fault) :
      SlicesRun p scheme s (slice :: rest) [.bytes b]
        (.error (fault.whileHashing (.ofString slice.purpose)))
  | unfit {s : σ} {slice : Slice} {rest : List Slice} {b : Bytes} {digest : Digest}
      {fault : Fault} (payload : slice.payload = .ok b)
      (answer : (p.hash (.bytes b) s).1 = .ok digest)
      (part : digest.toValue.take (scheme.portion slice.portion) = .error fault) :
      SlicesRun p scheme s (slice :: rest) [.bytes b] (.error fault)
  | taken {s : σ} {slice : Slice} {rest : List Slice} {b : Bytes} {digest : Digest} {v : Value}
      {asked : List Value} {result : Except Fault (List Value)} (payload : slice.payload = .ok b)
      (answer : (p.hash (.bytes b) s).1 = .ok digest)
      (part : digest.toValue.take (scheme.portion slice.portion) = .ok v)
      (others : SlicesRun p scheme (p.hash (.bytes b) s).2 rest asked result) :
      SlicesRun p scheme s (slice :: rest) (.bytes b :: asked) (result.map (v :: ·))

/-- The taking of slices is a run over them. -/
theorem slicesRun_takeSlices (p : Provider σ) (scheme : Scheme) (setup : Setup) (s : σ)
    (slices : List Slice) :
    SlicesRun p scheme s slices ((takeSlices p scheme slices).run setup s).asked
      ((takeSlices p scheme slices).run setup s).result := by
  induction slices generalizing s with
  | nil => exact .done s
  | cons slice rest ih =>
      cases hpayload : slice.payload with
      | error fault =>
          rw [run_takeSlices_of_error p scheme setup s rest hpayload]
          exact .withheld hpayload
      | ok b =>
          rw [run_takeSlices_of_ok p scheme setup s rest hpayload]
          cases hanswer : (p.hash (.bytes b) s).1 with
          | error fault => exact .failed hpayload hanswer
          | ok digest =>
              simp only [mapError_ok, Except.bind]
              cases hpart : digest.toValue.take (scheme.portion slice.portion) with
              | error fault => exact .unfit hpayload hanswer hpart
              | ok v => exact .taken hpayload hanswer hpart (ih _)

/-- What is taken for a subject is taken by a run over its slices. -/
theorem Subject.slicesRun_taken (p : Provider σ) (subject : Subject) (setup : Setup) (s : σ) :
    SlicesRun p setup.scheme s (subject.slices setup.scheme) (subject.taken p setup s).asked
      (subject.taken p setup s).result :=
  slicesRun_takeSlices p setup.scheme setup s _

/-! ### Faults of parts -/

theorem Value.addressError?_of_take {v bound : Value} {fault : Fault}
    (h : v.take bound = .error fault) : fault.addressError? = none := by
  rcases Value.take_eq_error h with ⟨reason, rfl⟩ | ⟨size, -, -, rfl⟩ <;> rfl

namespace SlicesRun

variable {p : Provider σ} {scheme : Scheme} {s : σ} {slices : List Slice} {asked : List Value}
  {result : Except Fault (List Value)}

/-! ### How a run begins -/

section First

variable {slice : Slice} {rest : List Slice}

/-- Without the bytes of its first slice, a run ends at once. -/
theorem of_withheld (h : SlicesRun p scheme s (slice :: rest) asked result) {fault : Fault}
    (hpayload : slice.payload = .error fault) : asked = [] ∧ result = .error fault := by
  cases h with
  | withheld payload =>
      cases hpayload.symm.trans payload
      exact ⟨rfl, rfl⟩
  | failed payload | unfit payload | taken payload => cases hpayload.symm.trans payload

/-- With the bytes of its first slice and a failure on them, a run ends in the report of the
failure. -/
theorem of_failed (h : SlicesRun p scheme s (slice :: rest) asked result) {b : Bytes}
    {fault : Fault} (hpayload : slice.payload = .ok b)
    (hanswer : (p.hash (.bytes b) s).1 = .error fault) :
    asked = [.bytes b] ∧ result = .error (fault.whileHashing (.ofString slice.purpose)) := by
  cases h with
  | withheld payload => cases hpayload.symm.trans payload
  | failed payload answer =>
      cases hpayload.symm.trans payload
      cases hanswer.symm.trans answer
      exact ⟨rfl, rfl⟩
  | unfit payload answer | taken payload answer =>
      cases hpayload.symm.trans payload
      cases hanswer.symm.trans answer

/-- With the bytes of its first slice and a digest of them, a run ends if the part of the slice
cannot be taken, and otherwise goes on with the other slices. -/
theorem of_answered (h : SlicesRun p scheme s (slice :: rest) asked result) {b : Bytes}
    {digest : Digest} (hpayload : slice.payload = .ok b)
    (hanswer : (p.hash (.bytes b) s).1 = .ok digest) :
    (∃ fault, digest.toValue.take (scheme.portion slice.portion) = .error fault ∧
      asked = [.bytes b] ∧ result = .error fault) ∨
    ∃ v others left, digest.toValue.take (scheme.portion slice.portion) = .ok v ∧
      SlicesRun p scheme (p.hash (.bytes b) s).2 rest others left ∧
      asked = .bytes b :: others ∧ result = left.map (v :: ·) := by
  cases h with
  | withheld payload => cases hpayload.symm.trans payload
  | failed payload answer =>
      cases hpayload.symm.trans payload
      cases hanswer.symm.trans answer
  | unfit payload answer part =>
      cases hpayload.symm.trans payload
      cases hanswer.symm.trans answer
      exact .inl ⟨_, part, rfl, rfl⟩
  | taken payload answer part others =>
      cases hpayload.symm.trans payload
      cases hanswer.symm.trans answer
      exact .inr ⟨_, _, _, part, others, rfl, rfl⟩

end First

/-! ### How a run ends -/

/-- A failure of the provider ends a run.  It is the answer to the last question, which is that for
the bytes of a slice, and it is reported with the purpose of this slice. -/
theorem exists_of_unanswered (h : SlicesRun p scheme s slices asked result) {fault : Fault}
    (hfault : .error fault ∈ p.answers s asked) :
    ∃ earlier slice b, asked = earlier ++ [.bytes b] ∧ slices[earlier.length]? = some slice ∧
      slice.payload = .ok b ∧ p.AnswersAll s earlier ∧
      (p.hash (.bytes b) (p.after s earlier)).1 = .error fault ∧
      result = .error (fault.whileHashing (.ofString slice.purpose)) := by
  induction h with
  | done s => cases hfault
  | withheld payload => cases hfault
  | @failed s slice rest b fault' payload answer =>
      obtain rfl : fault = fault' := by simpa [answer] using hfault
      exact ⟨[], slice, b, rfl, rfl, payload, p.answersAll_nil s, answer, rfl⟩
  | unfit payload answer part => simp [answer] at hfault
  | @taken s slice rest b digest v asked result payload answer part others ih =>
      rw [Provider.answers_cons, answer] at hfault
      obtain ⟨earlier, last, c, hasked, hlast, hc, hanswered, hfailed, hresult⟩ :=
        ih (by simpa using hfault)
      refine ⟨.bytes b :: earlier, last, c, by rw [hasked]; rfl, hlast, hc, ?_, hfailed, ?_⟩
      · exact (p.answersAll_cons s).mpr ⟨⟨digest, answer⟩, hanswered⟩
      · rw [hresult]
        rfl

/-- Without a failure of the provider, a run ends in an address error only if a slice has no
bytes. -/
theorem addressError?_of_answersAll (h : SlicesRun p scheme s slices asked result)
    (hanswered : p.AnswersAll s asked) {fault : Fault} (hfault : result = .error fault) :
    fault.addressError? = none ∨ ∃ slice ∈ slices, slice.payload = .error fault := by
  induction h with
  | done s => cases hfault
  | withheld payload =>
      cases hfault
      exact .inr ⟨_, List.mem_cons_self, payload⟩
  | failed payload answer =>
      obtain ⟨⟨digest, hdigest⟩, -⟩ := (p.answersAll_cons _).mp hanswered
      cases answer.symm.trans hdigest
  | unfit payload answer part =>
      cases hfault
      exact .inl (Value.addressError?_of_take part)
  | @taken s slice rest b digest v asked result payload answer part others ih =>
      obtain ⟨-, hrest⟩ := (p.answersAll_cons _).mp hanswered
      cases result with
      | ok parts => cases hfault
      | error fault' =>
          cases hfault
          rcases ih hrest rfl with hnone | ⟨other, hmem, hother⟩
          · exact .inl hnone
          · exact .inr ⟨other, List.mem_cons_of_mem _ hmem, hother⟩

end SlicesRun

end StateAddress
