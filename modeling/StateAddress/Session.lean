import StateAddress.Request

/-!
# Sessions

A session is a run of steps in which constants may be given new values and the deriver may be
replaced.  A step answers with a value or a fault; a fault does not end the session.  The state
of the provider in use goes on from step to step, and a new provider brings its own.

## Main definitions

* `Step` : what is done in a session.
* `Answer` : what a step answers.
* `Session` : the scheme, the deriver and the provider's state.
* `Session.perform` : a step in a session.
* `Session.run` : several steps in order.

## Main results

* `Session.run_cons` : the first of several steps.
* `Session.perform_reassign` : what giving a constant a value changes.
-/

namespace StateAddress

/-- What is done in a session. -/
inductive Step (σ : Type) where
  /-- Derive the address of a subject. -/
  | derive (subject : Subject)
  /-- Derive the address of a setting. -/
  | setting (key : Value)
  /-- Take the leading part of the digest of a value. -/
  | takeDigest (data bound purpose : Value)
  /-- Read a hexadecimal text. -/
  | readHex (given : Value)
  /-- Write an address in hexadecimal form. -/
  | addressToHex (given : Value)
  /-- Read an address in hexadecimal form. -/
  | hexToAddress (given : Value)
  /-- Tell the kind of entity of an address. -/
  | classify (given : Value)
  /-- Answer a request, with the other library that hashes at hand. -/
  | request (library : Pycryptodome) (r : Request)
  /-- Describe the provider in use. -/
  | describeProvider
  /-- Ask the provider in use. -/
  | askProvider (data : Value)
  /-- Look up a built-in provider. -/
  | lookUp (name : Value)
  /-- Replace the deriver; the new provider starts in a state of its own. -/
  | replace (given : Option (Provider σ)) (start : σ)
  /-- Read a constant. -/
  | read (c : Constant)
  /-- Give a constant a new value. -/
  | reassign (c : Constant) (v : Value)

/-- What a step answers. -/
inductive Answer where
  | value (v : Value)
  | entity (e : Option Entity)
  | provider (name : Provider.Name) (digestSize : Option Value)
  | builtin (b : Provider.Builtin)
  deriving Repr

/-- The scheme and the deriver in force, and the state of its provider. -/
structure Session (σ : Type) where
  /-- The scheme in force. -/
  scheme : Scheme
  /-- The deriver in use, where one has been made. -/
  deriver : Option (Deriver σ)
  /-- The state of the provider. -/
  state : σ

namespace Session

variable {σ : Type}

/-- The session that begins with a state, in the standard scheme and without a deriver. -/
def start (s : σ) : Session σ := ⟨Scheme.standard, none, s⟩

/-- The deriver of addresses: the one in use, or the one that the library starts with. -/
def current (session : Session σ) : Deriver σ := session.deriver.getD .standard

/-- The deriver that is looked at itself: the one in use, or one made for the occasion. -/
def inspected (session : Session σ) : Except Fault (Deriver σ) :=
  match session.deriver with
  | some d => .ok d
  | none => Deriver.ofGiven session.scheme none

/-- A session after an operation of its provider. -/
def after {α : Type} (session : Session σ) (o : Outcome σ α) : Session σ :=
  { session with state := o.state }

/-- An operation in a session, and its answer. -/
def operate {α : Type} (level : Level) (session : Session σ) (answer : α → Answer)
    (o : Operation σ α) : Outcome σ Answer × Session σ :=
  let outcome := o.run ⟨session.scheme, level⟩ session.state
  ({ outcome with result := outcome.result.map answer }, session.after outcome)

/-- A result that takes no operation. -/
def reply (session : Session σ) (result : Except Fault Answer) : Outcome σ Answer × Session σ :=
  (⟨result, [], [], session.state⟩, session)

/-- A step in a session, at a level of recording. -/
def perform (level : Level) (session : Session σ) : Step σ → Outcome σ Answer × Session σ
  | .derive subject =>
      session.operate level (fun b => .value (.bytes b))
        (subject.derive session.current.provider)
  | .setting key =>
      session.operate level (fun b => .value (.bytes b)) (SettingKey.address key)
  | .takeDigest data bound purpose =>
      session.operate level .value do
        let d ← Operation.ofExcept session.inspected
        StateAddress.takeDigest d.provider data bound purpose
  | .readHex given => session.reply ((Hex.ofValue given).map fun b => .value (.bytes b))
  | .addressToHex given =>
      session.reply ((Address.toHex session.scheme given).map fun t => .value (.text t))
  | .hexToAddress given =>
      session.reply ((Address.ofHex session.scheme given).map fun b => .value (.bytes b))
  | .classify given => session.reply ((Address.entity? session.scheme given).map .entity)
  | .request library r => session.operate level (fun t => .value (.text t)) (r.answer library)
  | .describeProvider =>
      session.reply (session.inspected.map fun d =>
        .provider d.provider.name d.provider.digestSize)
  | .askProvider data =>
      session.operate level (fun digest => .value digest.toValue) do
        let d ← Operation.ofExcept session.inspected
        Operation.ask d.provider data
  | .lookUp name =>
      session.reply ((Provider.Builtin.ofName name).map .builtin)
  | .replace given start =>
      match Deriver.ofGiven session.scheme given with
      | .ok d =>
          (⟨.ok (.value .null), [], [], start⟩, { session with deriver := some d, state := start })
      | .error fault => session.reply (.error fault)
  | .read c => session.reply (.ok (.value (session.scheme c)))
  | .reassign c v =>
      (⟨.ok (.value .null), [], [], session.state⟩,
        { session with scheme := session.scheme.assign c v })

/-- Several steps in order, and what each leaves behind. -/
def run (level : Level) (session : Session σ) :
    List (Step σ) → List (Outcome σ Answer) × Session σ
  | [] => ([], session)
  | step :: rest =>
      let (outcome, next) := session.perform level step
      let (outcomes, last) := run level next rest
      (outcome :: outcomes, last)

/-- The steps after the first one are done in the session that it leaves. -/
theorem run_cons (level : Level) (session : Session σ) (step : Step σ) (rest : List (Step σ)) :
    session.run level (step :: rest) =
      ((session.perform level step).1 :: ((session.perform level step).2.run level rest).1,
        ((session.perform level step).2.run level rest).2) := rfl

/-! ### What a step changes -/

/-- Giving a constant a value changes the scheme only. -/
@[simp] theorem perform_reassign (level : Level) (session : Session σ) (c : Constant)
    (v : Value) :
    (session.perform level (.reassign c v)).2 =
      ⟨session.scheme.assign c v, session.deriver, session.state⟩ := rfl

end Session

end StateAddress
