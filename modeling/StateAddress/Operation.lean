import StateAddress.Event
import StateAddress.Provider
import StateAddress.Scheme

/-!
# Operations

An operation may ask a hash provider, record events and fail.  It reads the scheme and the
level in force, and it leaves behind what it asked, what it recorded and the state of the
provider, also when it fails.

## Main definitions

* `Outcome` : what an operation leaves behind.
* `Operation` : an operation that gives a result of some type.
* `Operation.ask`, `Operation.record`, `Operation.fail` : its three effects.
* `Operation.mapFault` : an operation whose faults are reported otherwise.

## Main results

* `Operation.run_bind_ok`, `Operation.run_bind_error` : a failure ends an operation.
-/

namespace StateAddress

/-- What an operation leaves behind. -/
structure Outcome (σ α : Type) where
  /-- The result, or why there is none. -/
  result : Except Fault α
  /-- The values that the provider was asked to hash, in order. -/
  asked : List Value
  /-- The events recorded, in order. -/
  events : List Event
  /-- The state of the provider. -/
  state : σ

/-- What an operation reads. -/
structure Setup where
  /-- The scheme in force. -/
  scheme : Scheme
  /-- The level from which on events are recorded. -/
  level : Level

/-- An operation that gives a result of some type. -/
def Operation (σ α : Type) : Type := Setup → σ → Outcome σ α

namespace Operation

variable {σ α β : Type}

/-- What an operation leaves behind, from a setup and a state of the provider. -/
def run (o : Operation σ α) (setup : Setup) (s : σ) : Outcome σ α := o setup s

/-- The operation that gives a result and has no effect. -/
def pure (a : α) : Operation σ α := fun _ s => ⟨.ok a, [], [], s⟩

/-- The operation that fails. -/
def fail (fault : Fault) : Operation σ α := fun _ s => ⟨.error fault, [], [], s⟩

/-- An operation followed by one that depends on its result. -/
def bind (o : Operation σ α) (f : α → Operation σ β) : Operation σ β := fun setup s =>
  let first := o setup s
  match first.result with
  | .error fault => ⟨.error fault, first.asked, first.events, first.state⟩
  | .ok a =>
      let second := f a setup first.state
      ⟨second.result, first.asked ++ second.asked, first.events ++ second.events, second.state⟩

instance : Monad (Operation σ) where
  pure := pure
  bind := bind

/-- The operation that gives a result known beforehand, or fails. -/
def ofExcept : Except Fault α → Operation σ α
  | .ok a => pure a
  | .error fault => fail fault

/-- The scheme in force. -/
def scheme : Operation σ Scheme := fun setup s => ⟨.ok setup.scheme, [], [], s⟩

/-- The answer of a provider to a value. -/
def ask (p : Provider σ) (data : Value) : Operation σ Digest := fun _ s =>
  ⟨(p.hash data s).1, [data], [], (p.hash data s).2⟩

/-- An event, recorded if the level in force is not above its severity. -/
def record (e : Event) : Operation σ Unit := fun setup s =>
  ⟨.ok (), [], if e.isRecorded setup.level then [e] else [], s⟩

/-- An operation whose faults are reported otherwise. -/
def mapFault (f : Fault → Fault) (o : Operation σ α) : Operation σ α := fun setup s =>
  let first := o setup s
  ⟨first.result.mapError f, first.asked, first.events, first.state⟩

/-! ### Equations -/

variable (setup : Setup) (s : σ)

@[simp] theorem run_pure (a : α) :
    (Pure.pure a : Operation σ α).run setup s = ⟨.ok a, [], [], s⟩ := rfl

@[simp] theorem run_fail (fault : Fault) :
    (fail fault : Operation σ α).run setup s = ⟨.error fault, [], [], s⟩ := rfl

@[simp] theorem run_ofExcept (r : Except Fault α) :
    (ofExcept r : Operation σ α).run setup s = ⟨r, [], [], s⟩ := by
  cases r <;> rfl

@[simp] theorem run_scheme :
    (scheme : Operation σ Scheme).run setup s = ⟨.ok setup.scheme, [], [], s⟩ := rfl

@[simp] theorem run_ask (p : Provider σ) (data : Value) :
    (ask p data).run setup s = ⟨(p.hash data s).1, [data], [], (p.hash data s).2⟩ := rfl

@[simp] theorem run_record (e : Event) :
    (record e : Operation σ Unit).run setup s =
      ⟨.ok (), [], if e.isRecorded setup.level then [e] else [], s⟩ := rfl

@[simp] theorem run_mapFault (f : Fault → Fault) (o : Operation σ α) :
    (o.mapFault f).run setup s =
      ⟨(o.run setup s).result.mapError f, (o.run setup s).asked, (o.run setup s).events,
        (o.run setup s).state⟩ := rfl

theorem run_bind (o : Operation σ α) (f : α → Operation σ β) :
    (o >>= f).run setup s =
      match (o.run setup s).result with
      | .error fault =>
          ⟨.error fault, (o.run setup s).asked, (o.run setup s).events, (o.run setup s).state⟩
      | .ok a =>
          let second := (f a).run setup (o.run setup s).state
          ⟨second.result, (o.run setup s).asked ++ second.asked,
            (o.run setup s).events ++ second.events, second.state⟩ := rfl

/-- After a result, the second operation goes on from the state of the first. -/
theorem run_bind_ok {o : Operation σ α} {f : α → Operation σ β} {setup : Setup} {s : σ} {a : α}
    (h : (o.run setup s).result = .ok a) :
    (o >>= f).run setup s =
      ⟨((f a).run setup (o.run setup s).state).result,
        (o.run setup s).asked ++ ((f a).run setup (o.run setup s).state).asked,
        (o.run setup s).events ++ ((f a).run setup (o.run setup s).state).events,
        ((f a).run setup (o.run setup s).state).state⟩ := by
  rw [run_bind, h]

/-- After a failure, the second operation does not take place. -/
theorem run_bind_error {o : Operation σ α} {f : α → Operation σ β} {setup : Setup} {s : σ}
    {fault : Fault} (h : (o.run setup s).result = .error fault) :
    (o >>= f).run setup s =
      ⟨.error fault, (o.run setup s).asked, (o.run setup s).events, (o.run setup s).state⟩ := by
  rw [run_bind, h]

end Operation

end StateAddress
