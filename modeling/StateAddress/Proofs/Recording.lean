import StateAddress.Proofs.Ensemble

/-!
# What is recorded

Events are recorded from a level on, and nothing else depends on that level: at any two levels a
step ends alike, asks the same of its provider and leaves the same session.  What is recorded is
told by the level and by how the step ends.  A derived address is reported once, after it has been
composed; a request is reported once, before its line is worked out; all else records nothing.

## Main definitions

* `Outcome.unrecorded`, `Operation.IgnoresLevel` : what is left behind apart from records, and the
  operations for which it is the same at all levels.
* `Record`, `Outcome.records` : an event as it is written, and those of an outcome.
* `Outcome.Reports` : the records of an address that is derived.
* `Request.IsAdmitted`, `Outcome.ReportsRequest` : the requests that are worked on, and their
  records.

## Main results

* `Session.unrecorded_run` : at any two levels the steps of a session leave the same behind.
* `Session.recording_observes` : the level has no influence, and what is recorded.
-/

namespace StateAddress

variable {σ α β : Type}

/-! ### The level has no influence -/

/-- What is left behind apart from records. -/
def Outcome.unrecorded (o : Outcome σ α) : Outcome σ α := { o with events := [] }

theorem Outcome.unrecorded_eq_iff {o o' : Outcome σ α} :
    o.unrecorded = o'.unrecorded ↔
      o.result = o'.result ∧ o.asked = o'.asked ∧ o.state = o'.state := by
  simp [unrecorded]

namespace Operation

/-- An operation *ignores the level* when all it leaves behind apart from records is the same at
all levels. -/
def IgnoresLevel (o : Operation σ α) : Prop :=
  ∀ scheme s level level',
    (o.run ⟨scheme, level⟩ s).unrecorded = (o.run ⟨scheme, level'⟩ s).unrecorded

theorem ignoresLevel_pure (a : α) : (Pure.pure a : Operation σ α).IgnoresLevel :=
  fun _ _ _ _ => rfl

theorem ignoresLevel_fail (fault : Fault) : (fail fault : Operation σ α).IgnoresLevel :=
  fun _ _ _ _ => rfl

theorem ignoresLevel_ofExcept (r : Except Fault α) : (ofExcept r : Operation σ α).IgnoresLevel :=
  fun _ _ _ _ => by rw [run_ofExcept, run_ofExcept]

theorem ignoresLevel_scheme : (scheme : Operation σ Scheme).IgnoresLevel := fun _ _ _ _ => rfl

theorem ignoresLevel_ask (p : Provider σ) (data : Value) : (ask p data).IgnoresLevel :=
  fun _ _ _ _ => rfl

theorem ignoresLevel_record (e : Event) : (record e : Operation σ Unit).IgnoresLevel :=
  fun _ _ _ _ => rfl

theorem IgnoresLevel.mapFault {o : Operation σ α} (ho : o.IgnoresLevel) (f : Fault → Fault) :
    (o.mapFault f).IgnoresLevel := fun scheme s level level' => by
  obtain ⟨hresult, hasked, hstate⟩ := Outcome.unrecorded_eq_iff.mp (ho scheme s level level')
  simp only [run_mapFault, Outcome.unrecorded, hresult, hasked, hstate]

/-- One operation after another: the second one begins in the same state at both levels. -/
theorem IgnoresLevel.bind {o : Operation σ α} {f : α → Operation σ β} (ho : o.IgnoresLevel)
    (hf : ∀ a, (f a).IgnoresLevel) : (o >>= f).IgnoresLevel := fun scheme s level level' => by
  obtain ⟨hresult, hasked, hstate⟩ := Outcome.unrecorded_eq_iff.mp (ho scheme s level level')
  cases h : (o.run ⟨scheme, level⟩ s).result with
  | error fault =>
      rw [run_bind_error h, run_bind_error (hresult.symm.trans h)]
      exact Outcome.unrecorded_eq_iff.mpr ⟨rfl, hasked, hstate⟩
  | ok a =>
      rw [run_bind_ok h, run_bind_ok (hresult.symm.trans h), ← hasked, ← hstate]
      obtain ⟨hsecond, hmore, hend⟩ := Outcome.unrecorded_eq_iff.mp
        (hf a scheme (o.run ⟨scheme, level⟩ s).state level level')
      exact Outcome.unrecorded_eq_iff.mpr ⟨hsecond, congrArg (_ ++ ·) hmore, hend⟩

end Operation

section Ignoring

open Operation

theorem ignoresLevel_takeDigest (p : Provider σ) (data bound purpose : Value) :
    (takeDigest p data bound purpose).IgnoresLevel :=
  ((ignoresLevel_ask p data).mapFault _).bind fun _ => ignoresLevel_ofExcept _

theorem ignoresLevel_takeSlices (p : Provider σ) (scheme : Scheme) (slices : List Slice) :
    (takeSlices p scheme slices).IgnoresLevel := by
  induction slices with
  | nil => exact ignoresLevel_pure []
  | cons slice rest ih =>
      refine (ignoresLevel_ofExcept _).bind fun b => ?_
      refine (ignoresLevel_takeDigest p _ _ _).bind fun part => ?_
      exact ih.bind fun parts => ignoresLevel_pure _

theorem ignoresLevel_composed (e : Entity) (parts : List Value) :
    (composed e parts : Operation σ Bytes).IgnoresLevel := by
  refine ignoresLevel_scheme.bind fun _ => (ignoresLevel_ofExcept _).bind fun b => ?_
  exact (ignoresLevel_record _).bind fun _ => ignoresLevel_pure b

theorem Subject.ignoresLevel_derive (p : Provider σ) (subject : Subject) :
    (subject.derive p).IgnoresLevel := by
  refine ignoresLevel_scheme.bind fun scheme => ?_
  exact (ignoresLevel_takeSlices p scheme _).bind fun parts => ignoresLevel_composed _ parts

theorem SettingKey.ignoresLevel_address (key : Value) :
    (SettingKey.address key : Operation σ Bytes).IgnoresLevel := by
  refine ignoresLevel_scheme.bind fun _ => (ignoresLevel_ofExcept _).bind fun found => ?_
  exact ignoresLevel_composed .setting found

namespace Request

theorem ignoresLevel_derived (d : Deriver σ) (subject : Except Fault Subject) :
    (derived d subject).IgnoresLevel := by
  refine (ignoresLevel_ofExcept _).bind fun found => ?_
  refine (found.ignoresLevel_derive d.provider).bind fun address => ?_
  exact ignoresLevel_scheme.bind fun _ => ignoresLevel_ofExcept _

theorem ignoresLevel_line (r : Request) (d : Deriver σ) (topic : Topic) :
    (r.line d topic).IgnoresLevel := by
  cases topic with
  | setting =>
      refine (ignoresLevel_ofExcept _).bind fun key => ?_
      refine (SettingKey.ignoresLevel_address key).bind fun address => ?_
      exact ignoresLevel_scheme.bind fun _ => ignoresLevel_ofExcept _
  | classification =>
      refine (ignoresLevel_ofExcept _).bind fun address => ?_
      refine ignoresLevel_scheme.bind fun _ => (ignoresLevel_ofExcept _).bind fun entity => ?_
      exact ignoresLevel_pure _
  | _ => exact ignoresLevel_derived d _

theorem ignoresLevel_answer (library : Pycryptodome) (r : Request) :
    (r.answer library : Operation σ Text).IgnoresLevel := by
  refine ignoresLevel_scheme.bind fun _ => (ignoresLevel_ofExcept _).bind fun hash => ?_
  refine (ignoresLevel_ofExcept _).bind fun builtin => ?_
  refine (ignoresLevel_ofExcept _).bind fun deriver => ?_
  refine (ignoresLevel_ofExcept _).bind fun entity => (ignoresLevel_record _).bind fun _ => ?_
  cases topic? entity with
  | none => exact ignoresLevel_fail _
  | some topic => exact r.ignoresLevel_line deriver topic

end Request

end Ignoring

namespace Session

variable (session : Session σ) (level level' : Level)

theorem unrecorded_operate (answer : α → Answer) {o : Operation σ α} (ho : o.IgnoresLevel) :
    (session.operate level answer o).1.unrecorded =
        (session.operate level' answer o).1.unrecorded ∧
      (session.operate level answer o).2 = (session.operate level' answer o).2 := by
  obtain ⟨hresult, hasked, hstate⟩ := Outcome.unrecorded_eq_iff.mp
    (ho session.scheme session.state level level')
  refine ⟨Outcome.unrecorded_eq_iff.mpr ⟨congrArg (Except.map answer) hresult, hasked, hstate⟩, ?_⟩
  exact congrArg (Session.mk session.scheme session.deriver) hstate

/-- At any two levels a step leaves the same behind, and the same session. -/
theorem unrecorded_perform (step : Step σ) :
    (session.perform level step).1.unrecorded = (session.perform level' step).1.unrecorded ∧
      (session.perform level step).2 = (session.perform level' step).2 := by
  cases step with
  | derive subject =>
      exact session.unrecorded_operate level level' _ (subject.ignoresLevel_derive _)
  | setting key =>
      exact session.unrecorded_operate level level' _ (SettingKey.ignoresLevel_address key)
  | takeDigest data bound purpose =>
      refine session.unrecorded_operate level level' _ ?_
      refine (Operation.ignoresLevel_ofExcept _).bind fun d => ?_
      exact ignoresLevel_takeDigest d.provider data bound purpose
  | request library r =>
      exact session.unrecorded_operate level level' _ (r.ignoresLevel_answer library)
  | askProvider data =>
      refine session.unrecorded_operate level level' _ ?_
      refine (Operation.ignoresLevel_ofExcept _).bind fun d => ?_
      exact Operation.ignoresLevel_ask d.provider data
  | _ => exact ⟨rfl, rfl⟩

/-- At any two levels the steps of a session leave the same behind, and the same session. -/
theorem unrecorded_run (steps : List (Step σ)) :
    (session.run level steps).1.map Outcome.unrecorded =
        (session.run level' steps).1.map Outcome.unrecorded ∧
      (session.run level steps).2 = (session.run level' steps).2 := by
  induction steps generalizing session with
  | nil => exact ⟨rfl, rfl⟩
  | cons step rest ih =>
      obtain ⟨houtcome, hnext⟩ := session.unrecorded_perform level level' step
      obtain ⟨houtcomes, hlast⟩ := ih (session.perform level step).2
      rw [run_cons, run_cons, List.map_cons, List.map_cons, houtcome, houtcomes, hlast, hnext]
      exact ⟨rfl, rfl⟩

end Session

/-! ### Records -/

/-- An event as it is written. -/
structure Record where
  /-- The name of the severity. -/
  severity : String
  /-- The name of what the event is recorded by. -/
  logger : String
  /-- The text. -/
  text : Text
  deriving DecidableEq, Repr

/-- How an event is written. -/
def Event.written (e : Event) : Record := ⟨e.severityName, "addressing." ++ e.source, e.message⟩

/-- The records of an outcome, in order. -/
def Outcome.records (o : Outcome σ α) : List Record := o.events.map Event.written

namespace Record

/-- The record that an address has been derived, from the level of details on. -/
def derived (level : Level) (e : Entity) (b : Bytes) : List Record :=
  if level.inForce ≤ Level.debug then
    [⟨"DEBUG", "addressing.addresser", "derived " ++ e.label ++ " address " ++ Hex.encode b⟩]
  else []

/-- The record that a request is worked on, from the level of information on. -/
def started (level : Level) (entity hash : Value) : List Record :=
  if level.inForce ≤ Level.info then
    [⟨"INFO", "addressing.cli", "deriving " ++ entity.displayed ++ " address with " ++
      hash.displayed⟩]
  else []

end Record

/-- The records of an outcome are those made before and, exactly if an address is given, the one
that this address has been derived.  The address is given in some form. -/
structure Outcome.Reports (o : Outcome σ α) (level : Level) (before : List Record) (e : Entity)
    (form : Bytes → α) : Prop where
  derived : ∀ a, o.result = .ok a →
    ∃ b, a = form b ∧ o.records = before ++ Record.derived level e b
  failed : ∀ fault, o.result = .error fault → o.records = before

section Reports

variable {level : Level} {before : List Record} {e : Entity}

theorem Event.map_written_recorded (event : Event) (level : Level) :
    (if event.isRecorded level then [event] else []).map Event.written =
      if level.inForce ≤ event.severity then [event.written] else [] := by
  by_cases h : level.inForce ≤ event.severity <;> simp [Event.isRecorded, h]

theorem Record.map_ofComposed (level : Level) (e : Entity) (b : Bytes) :
    (Event.ofComposed e level (.ok b)).map Event.written = Record.derived level e b := by
  rw [Event.ofComposed, Event.map_written_recorded]
  rfl

theorem Record.map_started (level : Level) (entity hash : Value) :
    (if (Event.started entity hash).isRecorded level then [Event.started entity hash]
      else []).map Event.written = Record.started level entity hash := by
  rw [Event.map_written_recorded]
  rfl

/-- Events that come first are recorded first. -/
theorem Outcome.Reports.after {o : Outcome σ α} {form : Bytes → α}
    (h : o.Reports level [] e form) (events : List Event) :
    ({ o with events := events ++ o.events } : Outcome σ α).Reports level
      (events.map Event.written) e form := by
  refine ⟨fun a ha => ?_, fun fault hfault => ?_⟩
  · obtain ⟨b, hform, hrecords⟩ := h.derived a ha
    exact ⟨b, hform, (List.map_append ..).trans (congrArg (_ ++ ·) hrecords)⟩
  · exact (List.map_append ..).trans ((congrArg (_ ++ ·) (h.failed fault hfault)).trans
      (List.append_nil _))

theorem Outcome.Reports.map {o : Outcome σ α} {form : Bytes → α}
    (h : o.Reports level before e form) (f : α → β) :
    ({ o with result := o.result.map f } : Outcome σ β).Reports level before e (f ∘ form) := by
  cases hresult : o.result with
  | error fault => exact ⟨nofun, fun _ _ => h.failed fault hresult⟩
  | ok a =>
      obtain ⟨b, rfl, hrecords⟩ := h.derived a hresult
      refine ⟨fun _ ha => ?_, nofun⟩
      cases ha
      exact ⟨b, rfl, hrecords⟩

theorem Outcome.reports_of_error {form : Bytes → α} {fault : Fault} {asked : List Value} {s : σ} :
    (⟨.error fault, asked, [], s⟩ : Outcome σ α).Reports level [] e form :=
  ⟨nofun, fun _ _ => rfl⟩

theorem Outcome.reports_ofComposed (result : Except Fault Bytes) (asked : List Value) (s : σ) :
    (⟨result, asked, Event.ofComposed e level result, s⟩ : Outcome σ Bytes).Reports level [] e
      id := by
  cases result with
  | error fault => exact reports_of_error
  | ok b =>
      refine ⟨fun a ha => ?_, nofun⟩
      cases ha
      exact ⟨b, rfl, Record.map_ofComposed level e b⟩

end Reports

/-! ### Derivations -/

section Derivations

variable (scheme : Scheme) (level : Level) (s : σ)

theorem Subject.reports_derive (p : Provider σ) (subject : Subject) :
    ((subject.derive p).run ⟨scheme, level⟩ s).Reports level [] subject.entity id := by
  rw [run_derive]
  exact Outcome.reports_ofComposed _ _ _

theorem SettingKey.reports_address (key : Value) :
    ((SettingKey.address key).run ⟨scheme, level⟩ s).Reports level [] .setting id := by
  rw [run_address]
  cases hashed scheme key with
  | error fault => exact Outcome.reports_of_error
  | ok found =>
      change ((composed .setting found).run ⟨scheme, level⟩ s).Reports level [] .setting id
      rw [run_composed]
      exact Outcome.reports_ofComposed _ _ _

end Derivations

/-! ### Requests -/

/-- The kind of entity that a topic asks for the address of, if it does. -/
def Topic.entity? : Topic → Option Entity
  | namespaceRegistry => some .namespaceRegistry
  | contractRegistry => some .contractRegistry
  | contract => some .contract
  | smartPermission => some .smartPermission
  | agent => some .agent
  | organization => some .organization
  | setting => some .setting
  | classification => none

/-- A request *is admitted* when it names what it is for and a hash provider, and a deriver is made
of that provider. -/
structure Request.IsAdmitted (scheme : Scheme) (library : Pycryptodome) (r : Request)
    (entity hash : Value) (d : Deriver σ) : Prop where
  field_entity : r.field "entity" = .ok entity
  field_hash : r.field "hash" = .ok hash
  accepted : ∃ b, Provider.Builtin.ofName hash = .ok b ∧
    Deriver.accept scheme (.builtin library b) = .ok d

/-- What a request records: that it is worked on, if it is admitted, and then, if it is for an
address, that this has been derived. -/
structure Outcome.ReportsRequest (o : Outcome σ Answer) (scheme : Scheme) (level : Level)
    (library : Pycryptodome) (r : Request) : Prop where
  onEntity : ∀ (entity hash : Value) (d : Deriver σ) (topic : Topic) (e : Entity),
    r.IsAdmitted scheme library entity hash d → Request.topic? entity = some topic →
      topic.entity? = some e →
        o.Reports level (Record.started level entity hash) e fun b => .value (.text (Hex.encode b))
  otherwise : ∀ (entity hash : Value) (d : Deriver σ), r.IsAdmitted scheme library entity hash d →
    (∀ topic, Request.topic? entity = some topic → topic.entity? = none) →
      o.records = Record.started level entity hash
  notAdmitted :
    (∀ (entity hash : Value) (d : Deriver σ), ¬ r.IsAdmitted scheme library entity hash d) →
      (∃ fault, o.result = .error fault) ∧ o.records = []

namespace Request

variable {scheme : Scheme} {library : Pycryptodome} {r : Request} {entity hash : Value}
  {d : Deriver σ} {level : Level} {s : σ}

/-- The work on a request that is admitted. -/
def work (r : Request) (entity : Value) (d : Deriver σ) : Operation σ Text :=
  match topic? entity with
  | some topic => r.line d topic
  | none => Operation.fail (.unknownEntity entity)

theorem run_answer_of_isAdmitted (h : r.IsAdmitted scheme library entity hash d) :
    (r.answer library).run ⟨scheme, level⟩ s =
      let work := (r.work entity d).run ⟨scheme, level⟩ s
      { work with
        events := (if (Event.started entity hash).isRecorded level then [.started entity hash]
          else []) ++ work.events } := by
  obtain ⟨b, hb, hd⟩ := h.accepted
  rw [answer, Operation.run_scheme_bind, h.field_hash, Operation.run_ofExcept_ok_bind, hb,
    Operation.run_ofExcept_ok_bind, hd, Operation.run_ofExcept_ok_bind, h.field_entity,
    Operation.run_ofExcept_ok_bind, Operation.run_bind_ok (a := ()) rfl]
  rfl

/-- A request that is not admitted ends before anything is recorded. -/
theorem exists_run_answer_of_not_isAdmitted
    (h : ∀ (entity hash : Value) (d : Deriver σ), ¬ r.IsAdmitted scheme library entity hash d) :
    ∃ fault, (r.answer library).run ⟨scheme, level⟩ s = ⟨.error fault, [], [], s⟩ := by
  rw [answer, Operation.run_scheme_bind]
  cases hhash : r.field "hash" with
  | error fault => exact ⟨fault, rfl⟩
  | ok hash =>
      rw [Operation.run_ofExcept_ok_bind]
      cases hb : Provider.Builtin.ofName hash with
      | error fault => exact ⟨fault, rfl⟩
      | ok b =>
          rw [Operation.run_ofExcept_ok_bind]
          cases hd : Deriver.accept scheme (.builtin library b : Provider σ) with
          | error fault => exact ⟨fault, rfl⟩
          | ok d =>
              rw [Operation.run_ofExcept_ok_bind]
              cases hentity : r.field "entity" with
              | error fault => exact ⟨fault, rfl⟩
              | ok entity => exact absurd ⟨hentity, hhash, b, hb, hd⟩ (h entity hash d)

theorem reports_derived {subject : Except Fault Subject} {e : Entity}
    (h : ∀ found, subject = .ok found → found.entity = e) :
    ((derived d subject).run ⟨scheme, level⟩ s).Reports level [] e Hex.encode := by
  cases subject with
  | error fault => exact Outcome.reports_of_error
  | ok found =>
      rw [← h found rfl, derived, Operation.run_ofExcept_ok_bind,
        run_toHex_of_belongs ⟨scheme, level⟩ s fun b =>
          found.belongs_of_derive ⟨scheme, level⟩ s d.provider]
      exact (found.reports_derive scheme level s d.provider).map Hex.encode

theorem reports_derived_field (name : String) {subject : Value → Subject} {e : Entity}
    (h : ∀ given, (subject given).entity = e) :
    ((derived d (subject <$> r.field name)).run ⟨scheme, level⟩ s).Reports level [] e
      Hex.encode := by
  refine reports_derived fun found hfound => ?_
  cases hgiven : r.field name with
  | error fault =>
      rw [hgiven] at hfound
      cases hfound
  | ok given =>
      rw [hgiven] at hfound
      cases hfound
      exact h given

theorem reports_derived_fields (first second : String) {subject : Value → Value → Subject}
    {e : Entity} (h : ∀ v w, (subject v w).entity = e) :
    let found : Except Fault Subject := do
      let v ← r.field first
      let w ← r.field second
      return subject v w
    ((derived d found).run ⟨scheme, level⟩ s).Reports level [] e Hex.encode := by
  refine reports_derived fun found hfound => ?_
  cases hfirst : r.field first <;> cases hsecond : r.field second <;>
    rw [hfirst, hsecond] at hfound <;> cases hfound
  exact h _ _

/-- The line on the address of a kind of entity reports it. -/
theorem reports_line {topic : Topic} {e : Entity} (h : topic.entity? = some e) :
    ((r.line d topic).run ⟨scheme, level⟩ s).Reports level [] e Hex.encode := by
  cases topic with
  | classification => cases h
  | setting =>
      cases h
      rw [line]
      cases r.field "key" with
      | error fault => exact Outcome.reports_of_error
      | ok key =>
          rw [Operation.run_ofExcept_ok_bind, run_toHex_of_belongs ⟨scheme, level⟩ s fun b =>
            SettingKey.belongs_of_address ⟨scheme, level⟩ s key]
          exact (SettingKey.reports_address scheme level s key).map Hex.encode
  | contract | smartPermission =>
      cases h
      exact reports_derived_fields _ _ fun _ _ => rfl
  | _ =>
      cases h
      exact reports_derived_field _ fun _ => rfl

theorem events_work (h : ∀ topic, topic? entity = some topic → topic.entity? = none) :
    ((r.work entity d).run ⟨scheme, level⟩ s).events = [] := by
  rw [work]
  cases htopic : topic? entity with
  | none => rfl
  | some topic =>
      cases topic with
      | classification =>
          change ((r.line d .classification).run ⟨scheme, level⟩ s).events = []
          rw [line]
          cases r.field "address" with
          | error fault => rfl
          | ok address =>
              rw [Operation.run_ofExcept_ok_bind, Operation.run_scheme_bind]
              cases Address.entity? scheme address <;> rfl
      | _ => cases h _ htopic

end Request

/-! ### Steps -/

/-- Whether a step derives an address or answers a request. -/
def Step.isReported : Step σ → Bool
  | .derive _ | .setting _ | .request .. => true
  | _ => false

namespace Session

variable (session : Session σ) (level : Level)

/-- What a request records in a session. -/
theorem reportsRequest_perform (library : Pycryptodome) (r : Request) :
    (session.perform level (.request library r)).1.ReportsRequest session.scheme level library
      r := by
  have hperform : (session.perform level (.request library r)).1 =
      { (r.answer library).run ⟨session.scheme, level⟩ session.state with
        result := ((r.answer library).run ⟨session.scheme, level⟩ session.state).result.map
          fun t => .value (.text t) } := rfl
  rw [hperform]
  refine ⟨fun entity hash d topic e hadmitted htopic he => ?_,
    fun entity hash d hadmitted hother => ?_, fun hnone => ?_⟩
  · have hwork : r.work entity d = r.line d topic := by rw [Request.work, htopic]
    rw [Request.run_answer_of_isAdmitted hadmitted, hwork, ← Record.map_started]
    exact ((Request.reports_line he).after _).map _
  · rw [Request.run_answer_of_isAdmitted hadmitted]
    change (_ ++ ((r.work entity d).run _ _).events).map Event.written = _
    rw [Request.events_work hother, List.append_nil, Record.map_started]
  · obtain ⟨fault, hrun⟩ := Request.exists_run_answer_of_not_isAdmitted hnone
    rw [hrun]
    exact ⟨⟨fault, rfl⟩, rfl⟩

/-- The other steps record nothing. -/
theorem records_perform_of_not_isReported {step : Step σ} (h : step.isReported = false) :
    (session.perform level step).1.records = [] := by
  cases step with
  | derive _ | setting _ | request _ _ => cases h
  | takeDigest data bound purpose =>
      change (((Operation.ofExcept session.inspected >>= fun d =>
        StateAddress.takeDigest d.provider data bound purpose).run _ _).events).map _ = []
      cases session.inspected with
      | error fault => rfl
      | ok d => rw [Operation.run_ofExcept_ok_bind, run_takeDigest]; rfl
  | askProvider data =>
      change (((Operation.ofExcept session.inspected >>= fun d =>
        Operation.ask d.provider data).run _ _).events).map _ = []
      cases session.inspected <;> rfl
  | replace given start =>
      rw [perform]
      cases Deriver.ofGiven session.scheme given <;> rfl
  | _ => rfl

/-- **Recording observes.** In any session, whatever its constants, its provider and the state of
it are, a step ends alike at any two levels, asks the same of the provider and leaves the same
session.  A derivation records nothing but that an address has been derived, with the digits of
the address that is given, if one is given and the level is not above that of details.  A request
records before that what it is for, if it is admitted, however it ends.  All other steps record
nothing. -/
theorem recording_observes (session : Session σ) (level level' : Level) :
    (∀ step : Step σ,
      (session.perform level step).1.unrecorded = (session.perform level' step).1.unrecorded ∧
        (session.perform level step).2 = (session.perform level' step).2) ∧
      (∀ subject : Subject, (session.perform level (.derive subject)).1.Reports level []
        subject.entity fun b => .value (.bytes b)) ∧
      (∀ key : Value, (session.perform level (.setting key)).1.Reports level [] .setting
        fun b => .value (.bytes b)) ∧
      (∀ (library : Pycryptodome) (r : Request),
        (session.perform level (.request library r)).1.ReportsRequest session.scheme level library
          r) ∧
      (∀ step : Step σ, step.isReported = false →
        (session.perform level step).1.records = []) := by
  refine ⟨session.unrecorded_perform level level', fun subject => ?_, fun key => ?_,
    session.reportsRequest_perform level,
    fun _ => session.records_perform_of_not_isReported level⟩
  · exact (subject.reports_derive session.scheme level session.state
      session.current.provider).map fun b => Answer.value (.bytes b)
  · exact (SettingKey.reports_address session.scheme level session.state key).map
      fun b => Answer.value (.bytes b)

/-- A session with a provider that fails on its second call. -/
def failingSecond : Session Nat := ⟨Scheme.standard, some ⟨.counting 40 [2]⟩, 0⟩

/-- At the level of details, a smart permission whose second digest fails records nothing, an
organization without a UTF-8 form only that it was requested, and an agent its address. -/
theorem recording_observes_of_failingSecond :
    let perform := failingSecond.perform Level.debug
    let permission := (perform (.derive (.smartPermission (.bytes [0x61]) (.bytes [0x62])))).1
    let organization := (perform (.request .expected
      (Request.ofTopic .organization (.ofString "sha512") [.text [.surrogate 0]]))).1
    let agent := (perform (.derive (.agent (.bytes [0x61])))).1
    permission.asked.length = 2 ∧ permission.records = [] ∧
      organization.records =
        [⟨"INFO", "addressing.cli", "deriving org address with sha512"⟩] ∧
      ∃ b : Bytes, agent.result = .ok (.value (.bytes b)) ∧
        agent.records =
          [⟨"DEBUG", "addressing.addresser", "derived agent address " ++ Hex.encode b⟩] := by
  intro perform permission organization agent
  obtain ⟨-, hderive, -, hrequest, -⟩ := recording_observes failingSecond Level.debug Level.warning
  have hadmitted : (Request.ofTopic .organization (.ofString "sha512")
      [.text [.surrogate 0]]).IsAdmitted Scheme.standard .expected (.ofString "org")
        (.ofString "sha512") (.standard : Deriver Nat) := ⟨rfl, rfl, .sha512, rfl, rfl⟩
  obtain ⟨b, hb, hagent⟩ := (hderive (.agent (.bytes [0x61]))).derived _ rfl
  refine ⟨rfl, (hderive (.smartPermission _ _)).failed _ rfl, ?_, b, congrArg Except.ok hb, hagent⟩
  exact ((hrequest _ _).onEntity _ _ _ _ _ hadmitted rfl rfl).failed _ rfl

end Session

end StateAddress
