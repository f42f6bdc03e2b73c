import StateAddress.Derivation

/-!
# Consulting a provider

An operation leaves behind the questions that it put to the provider.  Put again in the same
order and from the same state, they have the same answers and take the provider to the state in
which the operation left it (`Operation.Consults`).  So what the provider did during an operation
can be read off the questions, and statements about its failures are statements about
`Provider.answers`.

## Main definitions

* `Provider.after`, `Provider.answers` : the state after questions, and the answers to them.
* `Provider.AnswersAll` : no question is answered by a failure.
* `Operation.Consults` : the operation moves the provider by its questions only.
* `Subject.taken` : what the taking of a subject's slices leaves behind.

## Main results

* `run_takeSlices_of_error`, `run_takeSlices_of_ok` : what the first of several slices leaves
  behind.
* `Subject.run_derive` : the derivation of an address is the taking of its slices, and their
  composition.
* `consults_derive` : the derivation of an address moves the provider by its questions only.
* `asked_takeSlices` : each question is a fixed byte string.
-/

namespace StateAddress

variable {σ α β : Type}

/-! ### Questions in order -/

namespace Provider

/-- The state of a provider after questions in order. -/
def after (p : Provider σ) : σ → List Value → σ
  | s, [] => s
  | s, data :: rest => p.after (p.hash data s).2 rest

/-- The answers of a provider to questions in order. -/
def answers (p : Provider σ) : σ → List Value → List (Except Fault Digest)
  | _, [] => []
  | s, data :: rest => (p.hash data s).1 :: p.answers (p.hash data s).2 rest

variable (p : Provider σ) (s : σ)

@[simp] theorem after_nil : p.after s [] = s := rfl

@[simp] theorem answers_nil : p.answers s [] = [] := rfl

@[simp] theorem answers_cons (data : Value) (rest : List Value) :
    p.answers s (data :: rest) = (p.hash data s).1 :: p.answers (p.hash data s).2 rest := rfl

@[simp] theorem length_answers (asked : List Value) :
    (p.answers s asked).length = asked.length := by
  induction asked generalizing s with
  | nil => rfl
  | cons data rest ih => exact congrArg (· + 1) (ih (p.hash data s).2)

/-- A provider that counts its calls.  It fails at the calls of some numbers, and answers the
others with growable byte strings of one length, each byte being the number of the call. -/
def counting (length : Nat) (failures : List Nat) : Provider Nat :=
  .bare (fun _ calls =>
    (if calls + 1 ∈ failures then .error (.raised ⟨.runtime, []⟩)
      else .ok (.octets .growable (List.replicate length (UInt8.ofNat (calls + 1)))),
      calls + 1))
    none (.missing "CountingProvider")

theorem after_append (first second : List Value) :
    p.after s (first ++ second) = p.after (p.after s first) second := by
  induction first generalizing s with
  | nil => rfl
  | cons data rest ih => exact ih (p.hash data s).2

theorem answers_append (first second : List Value) :
    p.answers s (first ++ second) = p.answers s first ++ p.answers (p.after s first) second := by
  induction first generalizing s with
  | nil => rfl
  | cons data rest ih => exact congrArg ((p.hash data s).1 :: ·) (ih (p.hash data s).2)

/-- Whether all of several questions in order are answered by a digest. -/
def AnswersAll (asked : List Value) : Prop :=
  ∀ a ∈ p.answers s asked, ∃ digest, a = .ok digest

theorem answersAll_nil : p.AnswersAll s [] := by simp [AnswersAll]

theorem answersAll_cons {data : Value} {rest : List Value} :
    p.AnswersAll s (data :: rest) ↔
      (∃ digest, (p.hash data s).1 = .ok digest) ∧ p.AnswersAll (p.hash data s).2 rest :=
  List.forall_mem_cons

/-- If not all questions are answered by a digest, the provider has failed on one. -/
theorem exists_error_of_not_answersAll {asked : List Value} (h : ¬ p.AnswersAll s asked) :
    ∃ fault, .error fault ∈ p.answers s asked := by
  refine Classical.byContradiction fun hnone => h fun a ha => ?_
  cases a with
  | ok digest => exact ⟨digest, rfl⟩
  | error fault => exact absurd ⟨fault, ha⟩ hnone

end Provider

/-! ### Operations that consult a provider -/

namespace Operation

/-- An operation *consults* a provider when it moves the provider's state by its questions only. -/
def Consults (p : Provider σ) (o : Operation σ α) : Prop :=
  ∀ setup s, (o.run setup s).state = p.after s (o.run setup s).asked

section Sequence

variable (setup : Setup) (s : σ)

@[simp] theorem run_ofExcept_ok_bind (a : α) (f : α → Operation σ β) :
    (ofExcept (.ok a) >>= f).run setup s = (f a).run setup s := rfl

@[simp] theorem run_ofExcept_error_bind (fault : Fault) (f : α → Operation σ β) :
    (ofExcept (.error fault) >>= f).run setup s = ⟨.error fault, [], [], s⟩ := rfl

@[simp] theorem run_scheme_bind (f : Scheme → Operation σ β) :
    (scheme >>= f).run setup s = (f setup.scheme).run setup s := rfl

end Sequence

variable {p : Provider σ}

theorem consults_pure (a : α) : (Pure.pure a : Operation σ α).Consults p := fun _ _ => rfl

theorem consults_ofExcept (r : Except Fault α) : (ofExcept r).Consults p := fun setup s => by
  simp

theorem consults_scheme : (scheme : Operation σ Scheme).Consults p := fun _ _ => rfl

theorem consults_record (e : Event) : (record e).Consults p := fun _ _ => rfl

theorem consults_ask (data : Value) : (ask p data).Consults p := fun _ _ => rfl

theorem Consults.mapFault {o : Operation σ α} (ho : o.Consults p) (f : Fault → Fault) :
    (o.mapFault f).Consults p := fun setup s => by
  simpa using ho setup s

theorem Consults.bind {o : Operation σ α} {f : α → Operation σ β} (ho : o.Consults p)
    (hf : ∀ a, (f a).Consults p) : (o >>= f).Consults p := fun setup s => by
  cases h : (o.run setup s).result with
  | error fault =>
      rw [run_bind_error h]
      exact ho setup s
  | ok a =>
      rw [run_bind_ok h]
      change ((f a).run setup (o.run setup s).state).state = p.after s (_ ++ _)
      rw [Provider.after_append, ← ho setup s]
      exact hf a setup _

end Operation

/-! ### The slices of an address -/

section Slices

open Operation

variable (p : Provider σ) (scheme : Scheme) (setup : Setup) (s : σ)

@[simp] theorem run_takeSlices_nil :
    (takeSlices p scheme []).run setup s = ⟨.ok [], [], [], s⟩ := rfl

/-- Without its bytes, the first slice ends the taking before anything is asked. -/
theorem run_takeSlices_of_error {slice : Slice} {fault : Fault} (rest : List Slice)
    (h : slice.payload = .error fault) :
    (takeSlices p scheme (slice :: rest)).run setup s = ⟨.error fault, [], [], s⟩ := by
  rw [takeSlices, h, run_ofExcept_error_bind]

/-- With its bytes, the first slice is asked for, and the others are taken after an answer from
which its part can be taken. -/
theorem run_takeSlices_of_ok {slice : Slice} {b : Bytes} (rest : List Slice)
    (h : slice.payload = .ok b) :
    (takeSlices p scheme (slice :: rest)).run setup s =
      match ((p.hash (.bytes b) s).1.mapError
          (Fault.whileHashing (.ofString slice.purpose))).bind
            (·.toValue.take (scheme.portion slice.portion)) with
      | .error fault => ⟨.error fault, [.bytes b], [], (p.hash (.bytes b) s).2⟩
      | .ok part =>
          let others := (takeSlices p scheme rest).run setup (p.hash (.bytes b) s).2
          ⟨others.result.map (part :: ·), .bytes b :: others.asked, others.events,
            others.state⟩ := by
  rw [takeSlices, h, run_ofExcept_ok_bind]
  have hrun := run_takeDigest p (.bytes b) (scheme.portion slice.portion) (.ofString slice.purpose)
    setup s
  cases hpart : ((p.hash (.bytes b) s).1.mapError
      (Fault.whileHashing (.ofString slice.purpose))).bind
        (·.toValue.take (scheme.portion slice.portion)) with
  | error fault =>
      rw [hpart] at hrun
      rw [run_bind_error (congrArg Outcome.result hrun), hrun]
  | ok part =>
      rw [hpart] at hrun
      rw [run_bind_ok (congrArg Outcome.result hrun), hrun]
      cases hothers : ((takeSlices p scheme rest).run setup (p.hash (.bytes b) s).2).result with
      | error fault => simp [run_bind_error hothers, hothers, Except.map]
      | ok parts => simp [run_bind_ok hothers, hothers, Except.map]

/-- Each question is a fixed byte string. -/
theorem asked_takeSlices (slices : List Slice) :
    ∀ v ∈ ((takeSlices p scheme slices).run setup s).asked, ∃ b, v = .bytes b := by
  induction slices generalizing s with
  | nil => simp
  | cons slice rest ih =>
      cases h : slice.payload with
      | error fault => simp [run_takeSlices_of_error p scheme setup s rest h]
      | ok b =>
          rw [run_takeSlices_of_ok p scheme setup s rest h]
          split
          · simp
          · intro v hv
            rcases List.mem_cons.mp hv with rfl | hv
            · exact ⟨b, rfl⟩
            · exact ih _ v hv

theorem consults_takeSlices (slices : List Slice) : (takeSlices p scheme slices).Consults p := by
  induction slices with
  | nil => exact consults_pure []
  | cons slice rest ih =>
      refine (consults_ofExcept _).bind fun b => ?_
      refine Consults.bind ?_ fun part => ih.bind fun parts => consults_pure _
      exact ((consults_ask _).mapFault _).bind fun digest => consults_ofExcept _

theorem events_takeSlices (slices : List Slice) :
    ((takeSlices p scheme slices).run setup s).events = [] := by
  induction slices generalizing s with
  | nil => rfl
  | cons slice rest ih =>
      cases h : slice.payload with
      | error fault => rw [run_takeSlices_of_error p scheme setup s rest h]
      | ok b =>
          rw [run_takeSlices_of_ok p scheme setup s rest h]
          split
          · rfl
          · exact ih _

end Slices

/-! ### Derivations -/

/-- The report of an address that has been composed, as far as it is recorded at a level. -/
def Event.ofComposed (e : Entity) (level : Level) : Except Fault Bytes → List Event
  | .ok b => if (Event.derived e b).isRecorded level then [.derived e b] else []
  | .error _ => []

/-- What the composition of an address leaves behind: the address, and a report of it. -/
theorem run_composed (e : Entity) (parts : List Value) (setup : Setup) (s : σ) :
    (composed e parts).run setup s =
      ⟨Address.compose setup.scheme e parts, [],
        Event.ofComposed e setup.level (Address.compose setup.scheme e parts), s⟩ := by
  rw [composed, Operation.run_scheme_bind]
  cases h : Address.compose setup.scheme e parts with
  | error fault => rfl
  | ok b =>
      rw [Operation.run_ofExcept_ok_bind, Operation.run_bind_ok (a := ()) rfl]
      simp [Event.ofComposed]

namespace Subject

variable (p : Provider σ) (subject : Subject) (setup : Setup) (s : σ)

/-- What the taking of a subject's slices leaves behind. -/
def taken : Outcome σ (List Value) :=
  (takeSlices p setup.scheme (subject.slices setup.scheme)).run setup s

/-- The derivation of an address is the taking of its slices, and their composition. -/
theorem run_derive :
    (subject.derive p).run setup s =
      let result := (subject.taken p setup s).result.bind
        (Address.compose setup.scheme subject.entity)
      ⟨result, (subject.taken p setup s).asked,
        Event.ofComposed subject.entity setup.level result, (subject.taken p setup s).state⟩ := by
  rw [derive, Operation.run_scheme_bind]
  have hevents : (subject.taken p setup s).events = [] := events_takeSlices ..
  cases h : (subject.taken p setup s).result with
  | error fault =>
      rw [Operation.run_bind_error h]
      exact congrArg (Outcome.mk _ _ · _) hevents
  | ok parts =>
      rw [Operation.run_bind_ok h, run_composed]
      change Outcome.mk _ (_ ++ []) ((subject.taken p setup s).events ++ _) _ = _
      rw [hevents, List.append_nil]
      rfl

theorem asked_derive :
    ((subject.derive p).run setup s).asked = (subject.taken p setup s).asked := by
  rw [run_derive]

theorem result_derive :
    ((subject.derive p).run setup s).result =
      (subject.taken p setup s).result.bind (Address.compose setup.scheme subject.entity) := by
  rw [run_derive]

theorem exists_parts_of_derive {a : Bytes} (h : ((subject.derive p).run setup s).result = .ok a) :
    ∃ parts, (subject.taken p setup s).result = .ok parts ∧
      Address.compose setup.scheme subject.entity parts = .ok a := by
  rw [result_derive] at h
  exact exists_of_bind_eq_ok h

theorem result_derive_of_error {fault : Fault}
    (h : (subject.taken p setup s).result = .error fault) :
    ((subject.derive p).run setup s).result = .error fault := by
  rw [result_derive, h]
  rfl

end Subject

/-- The derivation of an address moves the provider by its questions only. -/
theorem consults_derive (p : Provider σ) (subject : Subject) : (subject.derive p).Consults p := by
  refine Operation.consults_scheme.bind fun scheme => ?_
  refine (consults_takeSlices p scheme _).bind fun parts => ?_
  refine Operation.consults_scheme.bind fun _ => ?_
  refine (Operation.consults_ofExcept _).bind fun b => ?_
  exact (Operation.consults_record _).bind fun _ => Operation.consults_pure b

end StateAddress
