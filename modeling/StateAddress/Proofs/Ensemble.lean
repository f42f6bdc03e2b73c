import StateAddress.Proofs.Shape
import StateAddress.Session

/-!
# Runs of several derivers

Several derivers are at work under one scheme, each move being a step with one of them.  Their
providers share one state, which holds whatever each of them keeps, so that nothing is assumed
about what they have to do with one another.  Constants may be reassigned and derivers replaced
by any move.

## Main definitions

* `Ensemble`, `Ensemble.Move` : several derivers, and a step with one of them.
* `Ensemble.trace` : the moves of a run, each with the scheme it was made under and what it left
  behind.
* `Step.computation?` : the computation of an address that a step is.

## Main results

* `Ensemble.belongs_of_perform` : an address that a move derives has the shape of its kind.
* `Ensemble.belongs_of_mem_trace` : so has each address that is derived in a run.
-/

namespace StateAddress

variable {ι σ : Type}

/-- The computation of an address that a step is, if it is one. -/
def Step.computation? : Step σ → Option Computation
  | .derive subject => some (.ofSubject subject)
  | .setting key => some (.ofSetting key)
  | _ => none

/-- Derivers at work under one scheme, by name.  Where a name has no deriver, the one that the
library starts with is used. -/
structure Ensemble (ι σ : Type) where
  /-- The scheme in force. -/
  scheme : Scheme
  /-- The derivers that have been made. -/
  derivers : ι → Option (Deriver σ)
  /-- The state of all providers. -/
  state : σ

namespace Ensemble

/-- A step with the deriver of a name, at a level of recording. -/
structure Move (ι σ : Type) where
  deriver : ι
  level : Level
  step : Step σ

/-- A move that has been made. -/
structure Entry (σ : Type) where
  /-- The scheme that was in force when the move was made. -/
  scheme : Scheme
  /-- The step. -/
  step : Step σ
  /-- What the step left behind. -/
  outcome : Outcome σ Answer

variable [DecidableEq ι]

/-- The session of the deriver of a name. -/
def session (e : Ensemble ι σ) (i : ι) : Session σ := ⟨e.scheme, e.derivers i, e.state⟩

/-- What a move leaves behind. -/
def outcome (e : Ensemble ι σ) (m : Move ι σ) : Outcome σ Answer :=
  ((e.session m.deriver).perform m.level m.step).1

/-- The derivers after a move. -/
def next (e : Ensemble ι σ) (m : Move ι σ) : Ensemble ι σ :=
  let after := ((e.session m.deriver).perform m.level m.step).2
  ⟨after.scheme, fun i => if i = m.deriver then after.deriver else e.derivers i, after.state⟩

/-- The moves of a run, each with what it left behind. -/
def trace : Ensemble ι σ → List (Move ι σ) → List (Entry σ)
  | _, [] => []
  | e, m :: rest => ⟨e.scheme, m.step, e.outcome m⟩ :: (e.next m).trace rest

omit [DecidableEq ι] in
theorem outcome_of_computation (e : Ensemble ι σ) (m : Move ι σ) {c : Computation}
    (h : m.step.computation? = some c) :
    (e.outcome m).result =
      ((c.address (e.session m.deriver).current.provider).run ⟨e.scheme, m.level⟩
        e.state).result.map fun b => .value (.bytes b) := by
  rw [outcome]
  cases hstep : m.step with
  | derive subject =>
      rw [hstep] at h
      cases h
      rfl
  | setting key =>
      rw [hstep] at h
      cases h
      rfl
  | _ =>
      rw [hstep] at h
      cases h

omit [DecidableEq ι] in
/-- An address that a move derives has the shape of its kind under the scheme in force. -/
theorem belongs_of_perform (e : Ensemble ι σ) (m : Move ι σ) {c : Computation} {a : Answer}
    (h : m.step.computation? = some c) (ha : (e.outcome m).result = .ok a) :
    ∃ b, a = .value (.bytes b) ∧ Address.Belongs e.scheme c.entity b := by
  rw [outcome_of_computation e m h] at ha
  cases hb : ((c.address (e.session m.deriver).current.provider).run ⟨e.scheme, m.level⟩
      e.state).result with
  | error fault =>
      rw [hb] at ha
      cases ha
  | ok b =>
      rw [hb] at ha
      cases ha
      exact ⟨b, rfl, c.belongs_of_result _ _ _ hb⟩

/-- Each entry of a trace is a move that was made in some state of the run. -/
theorem exists_of_mem_trace (e : Ensemble ι σ) (moves : List (Move ι σ)) {entry : Entry σ}
    (h : entry ∈ e.trace moves) :
    ∃ (before : Ensemble ι σ) (m : Move ι σ),
      entry = ⟨before.scheme, m.step, before.outcome m⟩ := by
  induction moves generalizing e with
  | nil => cases h
  | cons m rest ih =>
      rcases List.mem_cons.mp h with rfl | h
      · exact ⟨e, m, rfl⟩
      · exact ih (e.next m) h

/-- **The shape of addresses in every run.** Whatever the derivers, their providers and the steps
are, and whatever is reassigned in between, an address that is derived is a fixed byte string of
the address length in force that begins with the tag in force of its kind.  Under the standard
scheme it has 35 bytes and begins with the tag of its kind. -/
theorem belongs_of_mem_trace (e : Ensemble ι σ) (moves : List (Move ι σ)) {entry : Entry σ}
    {c : Computation} {a : Answer} (hentry : entry ∈ e.trace moves)
    (hc : entry.step.computation? = some c) (ha : entry.outcome.result = .ok a) :
    ∃ b, a = .value (.bytes b) ∧ Address.Belongs entry.scheme c.entity b ∧
      (entry.scheme = Scheme.standard → b.length = 35 ∧ c.entity.tag <+: b) := by
  obtain ⟨before, m, rfl⟩ := e.exists_of_mem_trace moves hentry
  obtain ⟨b, rfl, hb⟩ := before.belongs_of_perform m hc ha
  refine ⟨b, rfl, hb, fun hscheme => ?_⟩
  change before.scheme = Scheme.standard at hscheme
  rw [hscheme] at hb
  exact Address.belongs_standard_iff.mp hb

/-- A run with two names.  One of them gets a deriver whose provider answers with 40 growable
bytes; with the other, the bytes of an agent's digest are reassigned to all but the last 7 and
the address length to 37. -/
def reassigningRun : List (Move Bool Nat) :=
  [⟨true, 0, .replace (some (.counting 40 [])) 0⟩,
    ⟨false, 0, .reassign (.portionLength .agent) (.int (-7))⟩,
    ⟨false, 0, .reassign .addressLength (.int 37)⟩,
    ⟨true, 0, .derive (.agent (.bytes [0x61]))⟩]

/-- The last move of the run derives an address of 37 bytes. -/
theorem belongs_of_reassigningRun :
    ∃ entry ∈ (⟨Scheme.standard, fun _ => none, 0⟩ : Ensemble Bool Nat).trace reassigningRun,
      ∃ a b, entry.step.computation? = some (.ofSubject (.agent (.bytes [0x61]))) ∧
        entry.outcome.result = .ok a ∧ a = .value (.bytes b) ∧
          Address.Belongs entry.scheme .agent b ∧ b.length = 37 := by
  have hmem := List.mem_of_getElem? (i := 3)
    (rfl : ((⟨Scheme.standard, fun _ => none, 0⟩ : Ensemble Bool Nat).trace
      reassigningRun)[3]? = some _)
  obtain ⟨b, hb, hbelongs, -⟩ := belongs_of_mem_trace _ _ hmem rfl rfl
  refine ⟨_, hmem, _, b, rfl, rfl, hb, hbelongs, ?_⟩
  cases hb
  rfl

end Ensemble

end StateAddress
