import StateAddress.Proofs.Consultation
import StateAddress.Session

/-!
# The constants that a step reads

Each step of a session reads a few constants of the scheme, and two schemes that agree on these are
alike to it.  A derivation reads the address length, the tag and the lengths of its kind, and what
its identifiers are read with; the conversions of addresses and their classification read the
address length, and hexadecimal texts are read without any constant.  So a new value of a constant
makes no difference to the steps that do not read it, whatever the value is, and in whatever session
they are done.

## Main definitions

* `Scheme.AgreeOn` : schemes with the same values of some constants.
* `Operation.ReadsOnly` : operations that are alike under schemes that agree.
* `Entity.constants`, `Step.constants` : the constants that derivations and steps read.
* `Round`, `Session.runAmid` : a step after changes of constants, and a run of several.
* `Round.AreForeign` : changes of constants that no step after them reads.

## Main results

* `Subject.readsOnly_derive`, `SettingKey.readsOnly_address` : what derivations read.
* `Session.perform_congr` : under schemes that agree on what it reads, a step is done alike.
* `Session.runAmid_of_areForeign` : changes of constants that are not read change nothing.
-/

namespace StateAddress

variable {σ α β : Type}

/-! ### Schemes that agree -/

namespace Scheme

/-- Whether two schemes give the same values to some constants. -/
def AgreeOn (own : List Constant) (s s' : Scheme) : Prop := ∀ c ∈ own, s c = s' c

variable {own : List Constant} {s s' s'' : Scheme}

theorem AgreeOn.refl (own : List Constant) (s : Scheme) : AgreeOn own s s := fun _ _ => rfl

theorem AgreeOn.trans (h : AgreeOn own s s') (h' : AgreeOn own s' s'') : AgreeOn own s s'' :=
  fun c hc => (h c hc).trans (h' c hc)

theorem AgreeOn.assign (h : AgreeOn own s s') (c : Constant) (v : Value) :
    AgreeOn own (s.assign c v) (s'.assign c v) := fun d hd => by
  by_cases hdc : d = c
  · rw [hdc, assign_self, assign_self]
  · rw [assign_of_ne s v hdc, assign_of_ne s' v hdc, h d hd]

theorem agreeOn_assign_of_not_mem {c : Constant} (hc : c ∉ own) (s : Scheme) (v : Value) :
    AgreeOn own s (s.assign c v) := fun d hd => by
  have hdc : d ≠ c := fun h => hc (h ▸ hd)
  rw [assign_of_ne s v hdc]

theorem AgreeOn.eq (h : AgreeOn Constant.all s s') : s = s' := by
  have hall (c : Constant) : c ∈ Constant.all := by
    cases c with
    | tag e => cases e <;> decide
    | portionLength p => cases p <;> decide
    | _ => decide
  exact funext fun c => h c (hall c)

end Scheme

/-! ### Operations that read only some constants -/

namespace Operation

/-- An operation *reads only* some constants when it leaves the same behind under any two schemes
that agree on them. -/
def ReadsOnly (o : Operation σ α) (own : List Constant) : Prop :=
  ∀ s s', Scheme.AgreeOn own s s' →
    ∀ level state, o.run ⟨s, level⟩ state = o.run ⟨s', level⟩ state

variable {own : List Constant}

theorem readsOnly_pure (a : α) : (Pure.pure a : Operation σ α).ReadsOnly own :=
  fun _ _ _ _ _ => rfl

theorem readsOnly_ofExcept (r : Except Fault α) : (ofExcept r : Operation σ α).ReadsOnly own :=
  fun _ _ _ _ _ => by rw [run_ofExcept, run_ofExcept]

theorem readsOnly_ask (p : Provider σ) (data : Value) : (ask p data).ReadsOnly own :=
  fun _ _ _ _ _ => rfl

theorem readsOnly_record (e : Event) : (record e : Operation σ Unit).ReadsOnly own :=
  fun _ _ _ _ _ => rfl

theorem ReadsOnly.mapFault {o : Operation σ α} (ho : o.ReadsOnly own) (f : Fault → Fault) :
    (o.mapFault f).ReadsOnly own := fun s s' h level state => by
  rw [run_mapFault, run_mapFault, ho s s' h level state]

theorem ReadsOnly.bind {o : Operation σ α} {f : α → Operation σ β} (ho : o.ReadsOnly own)
    (hf : ∀ a, (f a).ReadsOnly own) : (o >>= f).ReadsOnly own := fun s s' h level state => by
  have hfirst := ho s s' h level state
  cases hresult : (o.run ⟨s, level⟩ state).result with
  | error fault => rw [run_bind_error hresult, run_bind_error (hfirst ▸ hresult), hfirst]
  | ok a =>
      rw [run_bind_ok hresult, run_bind_ok (hfirst ▸ hresult), hfirst,
        hf a s s' h level (o.run ⟨s', level⟩ state).state]

/-- An operation that looks at the scheme in force goes on alike under schemes that agree. -/
theorem readsOnly_scheme_bind {f : Scheme → Operation σ β}
    (hcongr : ∀ s s', Scheme.AgreeOn own s s' → f s = f s') (hf : ∀ s, (f s).ReadsOnly own) :
    (scheme >>= f).ReadsOnly own := fun s s' h level state => by
  rw [run_scheme_bind, run_scheme_bind, hcongr s s' h]
  exact hf s' s s' h level state

end Operation

/-! ### Lengths and tags -/

section Congruence

variable {s s' : Scheme}

theorem Address.checkLength_congr (h : s .addressLength = s' .addressLength) :
    checkLength s = checkLength s' := by
  funext b
  rw [checkLength, checkLength, hasLength, hasLength, h]

theorem Address.check_congr (h : s .addressLength = s' .addressLength) : check s = check s' := by
  funext v
  rw [check.eq_def, check.eq_def, checkLength_congr h]

theorem Address.bytes_congr (h : s .addressLength = s' .addressLength) : bytes s = bytes s' := by
  funext v
  rw [bytes.eq_def, bytes.eq_def, check_congr h]
  simp only [ofHex, checkLength_congr h]

theorem Address.compose_congr {e : Entity} (hlength : s .addressLength = s' .addressLength)
    (htag : s (.tag e) = s' (.tag e)) : compose s e = compose s' e := by
  funext parts
  rw [compose, compose, htag]
  refine bind_congr fun tag => bind_congr fun rest => ?_
  rw [hasLength, hasLength, hlength]

theorem takeSlices_congr (p : Provider σ) {slices : List Slice}
    (h : ∀ slice ∈ slices, s.portion slice.portion = s'.portion slice.portion) :
    takeSlices p s slices = takeSlices p s' slices := by
  induction slices with
  | nil => rfl
  | cons slice rest ih =>
      rw [takeSlices, takeSlices, h slice List.mem_cons_self,
        ih fun x hx => h x (List.mem_cons_of_mem _ hx)]

theorem SettingKey.hashed_congr (hparts : s .settingParts = s' .settingParts)
    (hlength : s .settingPartLength = s' .settingPartLength) : hashed s = hashed s' := by
  funext given
  rw [hashed, hashed, hparts, hlength]

theorem Scheme.longestPortion_congr (h : s.portion = s'.portion) :
    s.longestPortion = s'.longestPortion := by
  rw [longestPortion, longestPortion, h]

theorem Deriver.ofGiven_congr (h : s.portion = s'.portion) :
    (ofGiven s : Option (Provider σ) → _) = ofGiven s' := by
  funext given
  rw [ofGiven, ofGiven, accept, accept, Scheme.longestPortion_congr h]

end Congruence

/-! ### Derivations -/

/-- The constants that the derivation of an address reads, by the kind of entity. -/
def Entity.constants : Entity → List Constant
  | namespaceRegistry =>
      [.addressLength, .tag .namespaceRegistry, .portionLength .namespaceRegistry, .namespaceLength]
  | contractRegistry =>
      [.addressLength, .tag .contractRegistry, .portionLength .contractRegistry]
  | contract => [.addressLength, .tag .contract, .portionLength .contract, .contractSeparator]
  | smartPermission =>
      [.addressLength, .tag .smartPermission, .portionLength .permissionOrganization,
        .portionLength .permissionName]
  | agent => [.addressLength, .tag .agent, .portionLength .agent]
  | organization => [.addressLength, .tag .organization, .portionLength .organization]
  | setting => [.addressLength, .tag .setting, .settingParts, .settingPartLength]

theorem Entity.addressLength_mem_constants (e : Entity) : .addressLength ∈ e.constants := by
  cases e <;> exact List.mem_cons_self

theorem Entity.tag_mem_constants (e : Entity) : .tag e ∈ e.constants := by
  cases e <;> exact List.mem_cons_of_mem _ List.mem_cons_self

namespace Subject

theorem portionLength_mem_constants (subject : Subject) (s : Scheme) :
    ∀ slice ∈ subject.slices s, .portionLength slice.portion ∈ subject.entity.constants := by
  cases subject <;> simp [slices, entity, Entity.constants]

theorem slices_congr (subject : Subject) {s s' : Scheme}
    (h : Scheme.AgreeOn subject.entity.constants s s') : subject.slices s = subject.slices s' := by
  cases subject with
  | namespaceRegistry given =>
      have hlength := h .namespaceLength (by simp [entity, Entity.constants])
      rw [slices, slices, Identifier.registry, Identifier.registry, hlength]
  | contract name version =>
      have hseparator := h .contractSeparator (by simp [entity, Entity.constants])
      rw [slices, slices, Identifier.contract, Identifier.contract, Identifier.separator,
        Identifier.separator, hseparator]
  | _ => rfl

end Subject

theorem readsOnly_takeDigest (p : Provider σ) (data bound purpose : Value) (own : List Constant) :
    (takeDigest p data bound purpose).ReadsOnly own :=
  ((Operation.readsOnly_ask p data).mapFault _).bind fun _ => Operation.readsOnly_ofExcept _

/-- With the lengths given, slices are taken without a look at the scheme in force. -/
theorem readsOnly_takeSlices (p : Provider σ) (s : Scheme) (slices : List Slice)
    (own : List Constant) : (takeSlices p s slices).ReadsOnly own := by
  induction slices with
  | nil => exact Operation.readsOnly_pure []
  | cons slice rest ih =>
      refine (Operation.readsOnly_ofExcept _).bind fun b => ?_
      refine (readsOnly_takeDigest p _ _ _ own).bind fun part => ?_
      exact ih.bind fun parts => Operation.readsOnly_pure _

theorem readsOnly_composed (e : Entity) (parts : List Value) :
    (composed e parts : Operation σ Bytes).ReadsOnly e.constants := by
  refine Operation.readsOnly_scheme_bind (fun s s' h => ?_) fun s => ?_
  · rw [Address.compose_congr (h _ e.addressLength_mem_constants) (h _ e.tag_mem_constants)]
  · refine (Operation.readsOnly_ofExcept _).bind fun b => ?_
    exact (Operation.readsOnly_record _).bind fun _ => Operation.readsOnly_pure b

/-- A derivation reads the constants of its kind only. -/
theorem Subject.readsOnly_derive (p : Provider σ) (subject : Subject) :
    (subject.derive p).ReadsOnly subject.entity.constants := by
  refine Operation.readsOnly_scheme_bind (fun s s' h => ?_) fun s => ?_
  · have hportions : ∀ slice ∈ subject.slices s',
        s.portion slice.portion = s'.portion slice.portion := fun slice hslice =>
      h _ (subject.portionLength_mem_constants s' slice hslice)
    rw [subject.slices_congr h, takeSlices_congr p hportions]
  · exact (readsOnly_takeSlices p s _ _).bind fun parts => readsOnly_composed _ parts

/-- So does the derivation of a setting's address. -/
theorem SettingKey.readsOnly_address (key : Value) :
    (SettingKey.address key : Operation σ Bytes).ReadsOnly Entity.setting.constants := by
  refine Operation.readsOnly_scheme_bind (fun s s' h => ?_) fun s => ?_
  · rw [SettingKey.hashed_congr (h .settingParts (by decide)) (h .settingPartLength (by decide))]
  · exact (Operation.readsOnly_ofExcept _).bind fun found => readsOnly_composed .setting found

/-! ### Steps -/

/-- The constants that a step may read.  Of the steps that are no derivation, no conversion and no
classification, those that may make a deriver look at the lengths of all parts, and a request may
be for anything. -/
def Step.constants : Step σ → List Constant
  | .derive subject => subject.entity.constants
  | .setting _ => Entity.setting.constants
  | .addressToHex _ | .hexToAddress _ | .classify _ => [.addressLength]
  | .readHex _ | .lookUp _ | .reassign .. => []
  | .takeDigest .. | .askProvider _ | .describeProvider | .replace .. =>
      Portion.all.map .portionLength
  | .read c => [c]
  | .request .. => Constant.all

/-- The scheme after a step. -/
def Step.schemeAfter : Step σ → Scheme → Scheme
  | .reassign c v, s => s.assign c v
  | _, s => s

theorem Scheme.AgreeOn.schemeAfter {own : List Constant} {s s' : Scheme} (h : AgreeOn own s s')
    (step : Step σ) : AgreeOn own (step.schemeAfter s) (step.schemeAfter s') := by
  cases step with
  | reassign c v => exact h.assign c v
  | _ => exact h

theorem Scheme.AgreeOn.portion_eq {s s' : Scheme}
    (h : AgreeOn (Portion.all.map .portionLength) s s') : s.portion = s'.portion := by
  funext p
  refine h _ (List.mem_map_of_mem ?_)
  cases p <;> decide

namespace Session

/-- A session in another scheme. -/
def under (session : Session σ) (s : Scheme) : Session σ := { session with scheme := s }

@[simp] theorem under_scheme (session : Session σ) (s : Scheme) :
    (session.under s).scheme = s := rfl

@[simp] theorem under_deriver (session : Session σ) (s : Scheme) :
    (session.under s).deriver = session.deriver := rfl

variable (level : Level) (session : Session σ) {s' : Scheme}

theorem operate_congr {own : List Constant} {o : Operation σ α} (ho : o.ReadsOnly own)
    (h : Scheme.AgreeOn own session.scheme s') (answer : α → Answer) :
    (session.under s').operate level answer o =
      ((session.operate level answer o).1, (session.operate level answer o).2.under s') := by
  have hrun := ho session.scheme s' h level session.state
  rw [operate, operate, hrun]
  rfl

/-- The deriver that is looked at depends on the lengths of the parts at most. -/
theorem inspected_congr (h : Scheme.AgreeOn (Portion.all.map .portionLength) session.scheme s') :
    (session.under s').inspected = session.inspected := by
  rw [inspected, inspected, under_deriver, under_scheme, Deriver.ofGiven_congr h.portion_eq]

/-- A step is done alike in a scheme that agrees on what it reads. -/
theorem perform_congr {step : Step σ} (h : Scheme.AgreeOn step.constants session.scheme s') :
    (session.under s').perform level step =
      ((session.perform level step).1,
        (session.perform level step).2.under (step.schemeAfter s')) := by
  cases step with
  | derive subject => exact operate_congr level session (subject.readsOnly_derive _) h _
  | setting key => exact operate_congr level session (SettingKey.readsOnly_address key) h _
  | takeDigest data bound purpose =>
      rw [perform, inspected_congr session h]
      refine operate_congr level session ?_ h _
      refine (Operation.readsOnly_ofExcept _).bind fun d => ?_
      exact readsOnly_takeDigest d.provider data bound purpose _
  | readHex given => rfl
  | addressToHex given =>
      have hcheck := Address.check_congr (h .addressLength List.mem_cons_self)
      rw [perform, perform, Address.toHex, Address.toHex, under_scheme, hcheck]
      rfl
  | hexToAddress given =>
      have hcheck := Address.checkLength_congr (h .addressLength List.mem_cons_self)
      rw [perform, perform, Address.ofHex, Address.ofHex, under_scheme, hcheck]
      rfl
  | classify given =>
      have hbytes := Address.bytes_congr (h .addressLength List.mem_cons_self)
      rw [perform, perform, Address.entity?, Address.entity?, under_scheme, hbytes]
      rfl
  | request library r =>
      cases h.eq
      rfl
  | describeProvider =>
      rw [perform, perform, inspected_congr session h]
      rfl
  | askProvider data =>
      rw [perform, inspected_congr session h]
      refine operate_congr level session ?_ h _
      refine (Operation.readsOnly_ofExcept _).bind fun d => ?_
      exact Operation.readsOnly_ask d.provider data
  | lookUp name => rfl
  | replace given start =>
      rw [perform, perform, under_scheme, Deriver.ofGiven_congr h.portion_eq]
      cases Deriver.ofGiven s' given <;> rfl
  | read c =>
      have hvalue : session.scheme c = s' c := h c List.mem_cons_self
      rw [perform, perform, under_scheme, hvalue]
      rfl
  | reassign c v => rfl

theorem scheme_perform (step : Step σ) :
    (session.perform level step).2.scheme = step.schemeAfter session.scheme := by
  cases step with
  | replace given start =>
      rw [perform]
      cases Deriver.ofGiven session.scheme given <;> rfl
  | _ => rfl

end Session

/-! ### Runs with changes of other constants -/

/-- A step, and the changes of constants that are made before it. -/
structure Round (σ : Type) where
  /-- The constants that are changed, and the values that they are given. -/
  changes : List (Constant × Value)
  /-- The step that is done then. -/
  step : Step σ

/-- Whether the constants that are changed in some rounds are read neither by the step of the round
nor by any later one. -/
def Round.AreForeign : List (Round σ) → Prop
  | [] => True
  | round :: rest =>
      (∀ change ∈ round.changes, ∀ r ∈ round :: rest, change.1 ∉ r.step.constants) ∧
        AreForeign rest

instance Round.decidableAreForeign : (rounds : List (Round σ)) → Decidable (AreForeign rounds)
  | [] => .isTrue trivial
  | _ :: rest =>
      have : Decidable (AreForeign rest) := decidableAreForeign rest
      inferInstanceAs (Decidable (_ ∧ _))

namespace Session

/-- A session after several changes of constants. -/
def reassigned (level : Level) (session : Session σ) (changes : List (Constant × Value)) :
    Session σ :=
  (session.run level (changes.map fun change => .reassign change.1 change.2)).2

theorem reassigned_cons (level : Level) (session : Session σ) (change : Constant × Value)
    (rest : List (Constant × Value)) :
    session.reassigned level (change :: rest) =
      (session.under (session.scheme.assign change.1 change.2)).reassigned level rest := rfl

/-- Changes of constants lead to a scheme that agrees on the others, and leave the rest of the
session as it is. -/
theorem exists_reassigned_eq (level : Level) (session : Session σ)
    (changes : List (Constant × Value)) :
    ∃ s', session.reassigned level changes = session.under s' ∧
      ∀ own : List Constant, (∀ change ∈ changes, change.1 ∉ own) →
        Scheme.AgreeOn own session.scheme s' := by
  induction changes generalizing session with
  | nil => exact ⟨session.scheme, rfl, fun own _ => Scheme.AgreeOn.refl own _⟩
  | cons change rest ih =>
      obtain ⟨s', hs', hagree⟩ := ih (session.under (session.scheme.assign change.1 change.2))
      refine ⟨s', (reassigned_cons level session change rest).trans hs', fun own hown => ?_⟩
      have hfirst := hown change List.mem_cons_self
      exact (Scheme.agreeOn_assign_of_not_mem hfirst _ _).trans
        (hagree own fun c hc => hown c (List.mem_cons_of_mem _ hc))

/-- The steps of several rounds in order, each after the changes of its round: what the steps leave
behind, and the session at the end. -/
def runAmid (level : Level) (session : Session σ) :
    List (Round σ) → List (Outcome σ Answer) × Session σ
  | [] => ([], session)
  | round :: rest =>
      let (outcome, next) := (session.reassigned level round.changes).perform level round.step
      let (outcomes, last) := runAmid level next rest
      (outcome :: outcomes, last)

theorem runAmid_cons (level : Level) (session : Session σ) (round : Round σ)
    (rest : List (Round σ)) :
    session.runAmid level (round :: rest) =
      let done := (session.reassigned level round.changes).perform level round.step
      (done.1 :: (done.2.runAmid level rest).1, (done.2.runAmid level rest).2) := rfl

/-- Rounds whose changes are foreign go as their steps do in a session whose scheme agrees on what
the steps read. -/
theorem exists_runAmid_eq (level : Level) (session : Session σ) {rounds : List (Round σ)}
    (h : Round.AreForeign rounds) {s' : Scheme}
    (hagree : ∀ r ∈ rounds, Scheme.AgreeOn r.step.constants session.scheme s') :
    ∃ last, (session.under s').runAmid level rounds =
      ((session.run level (rounds.map Round.step)).1,
        (session.run level (rounds.map Round.step)).2.under last) := by
  -- After each round the two schemes agree on what the steps of the rounds that are left read.
  induction rounds generalizing session s' with
  | nil => exact ⟨s', rfl⟩
  | cons round rest ih =>
      obtain ⟨hchanges, hrest⟩ := h
      obtain ⟨changed, hchanged, hforeign⟩ :=
        exists_reassigned_eq level (session.under s') round.changes
      have hafter : ∀ r ∈ round :: rest,
          Scheme.AgreeOn r.step.constants session.scheme changed := fun r hr =>
        (hagree r hr).trans (hforeign _ fun change hchange => hchanges change hchange r hr)
      have hperform : ((session.under s').reassigned level round.changes).perform level round.step =
          ((session.perform level round.step).1,
            (session.perform level round.step).2.under (round.step.schemeAfter changed)) := by
        rw [hchanged]
        exact perform_congr level session (hafter round List.mem_cons_self)
      have hnext : ∀ r ∈ rest, Scheme.AgreeOn r.step.constants
          (session.perform level round.step).2.scheme (round.step.schemeAfter changed) :=
        fun r hr => by
          rw [scheme_perform]
          exact (hafter r (List.mem_cons_of_mem _ hr)).schemeAfter round.step
      obtain ⟨last, hlast⟩ := ih (session.perform level round.step).2 hrest hnext
      refine ⟨last, ?_⟩
      simp only [runAmid_cons, hperform, hlast, List.map_cons, run_cons]

/-- **Own constants.** Whatever the scheme, the deriver and the state of its provider are when a run
begins, and whatever is done in it: if constants are changed in between, to any values, which
neither the step after the change nor any later one reads, each step answers, fails, asks the
provider and reports as it does without the changes, and the deriver and the state of the provider
are the same at the end.  Derivations read the address length, the tag and the lengths of their
kind, and the length, separator or number of parts of their identifiers where there is one;
conversions and the classification of addresses read the address length only, and the reader of
hexadecimal texts nothing. -/
theorem runAmid_of_areForeign (level : Level) (session : Session σ) (rounds : List (Round σ))
    (h : Round.AreForeign rounds) :
    (session.runAmid level rounds).1 = (session.run level (rounds.map Round.step)).1 ∧
      (session.runAmid level rounds).2.deriver =
        (session.run level (rounds.map Round.step)).2.deriver ∧
      (session.runAmid level rounds).2.state =
        (session.run level (rounds.map Round.step)).2.state := by
  obtain ⟨last, hlast⟩ := exists_runAmid_eq level session h fun r _ => Scheme.AgreeOn.refl _ _
  have hsame : session.under session.scheme = session := rfl
  rw [hsame] at hlast
  rw [hlast]
  exact ⟨rfl, rfl, rfl⟩

/-- Four rounds for a provider that fails at its third call: an agent whose address is derived, a
permission that fails, a text that is no address, and a hexadecimal text.  Before each, some
constants are changed, also to values that cannot be used. -/
def foreignRounds : List (Round Nat) :=
  [⟨[(.portionLength .organization, .int (-1)), (.tag .contract, .null), (.settingParts, .int 0)],
      .derive (.agent (.bytes [0x61]))⟩,
    ⟨[(.tag .agent, .text []), (.contractSeparator, .int 7), (.portionLength .agent, .int 30)],
      .derive (.smartPermission (.bytes [0x61]) (.bytes [0x62]))⟩,
    ⟨[(.tag .smartPermission, .text (.ofString "00")), (.pikeTag, .null)],
      .classify (.text (.ofString "cad11d00"))⟩,
    ⟨[(.addressLength, .null)], .readHex (.text (.ofString "0A"))⟩]

/-- In these rounds the agent has the address, the permission the failure, and the text the refusal
that they have in the standard scheme. -/
theorem runAmid_of_foreignRounds :
    let session : Session Nat := ⟨Scheme.standard, some ⟨.counting 32 [3]⟩, 0⟩
    Round.AreForeign foreignRounds ∧
      ∃ agent permission text bytes,
        (session.runAmid 0 foreignRounds).1 = [agent, permission, text, bytes] ∧
        (∃ b, agent.result = .ok (.value (.bytes b))) ∧
        (∃ fault, permission.result =
          .error (.hashFailed "failed to hash smart permission name: " fault)) ∧
        permission.asked.length = 2 ∧
        (∃ r, text.result = .error (.rejected r)) ∧
        bytes.result = .ok (.value (.bytes [0x0a])) ∧
        (session.runAmid 0 foreignRounds).2.state = 3 := by
  intro session
  have hforeign : Round.AreForeign foreignRounds := by decide
  obtain ⟨houtcomes, -, hstate⟩ := runAmid_of_areForeign 0 session foreignRounds hforeign
  refine ⟨hforeign, _, _, _, _, houtcomes, ?_⟩
  rw [hstate]
  exact ⟨⟨_, rfl⟩, ⟨_, rfl⟩, by decide +kernel, ⟨_, rfl⟩, rfl, by decide +kernel⟩

end Session

end StateAddress
