import StateAddress.CommandLine
import StateAddress.Proofs.BuiltinProvider
import StateAddress.Proofs.CommandLine.Accepted

/-!
# How the program ends

The program ends with a fault in place of an exit code in two cases only: the key of a setting has a
lone surrogate, or nothing is left of the hash provider.  On all other accepted command lines it
prints a line, or an address error that refuses an input.  A surrogate anywhere else is such an
input.  This is so for every console that leaves the output alone, and with every hash library that
gives SHA-512 digests.

## Main definitions

* `Topic.computation?` : the computation that a topic asks for.
* `Request.Escapes`, `Request.EscapesWith` : the requests that end with a fault, and these faults.
* `Request.Ending` : the ways in which a request is answered.

## Main results

* `Request.result_ofTopic` : the answer to a request is the line on its topic.
* `Request.ending_of_isWritten` : there are no other ways for the requests of command lines.
* `CommandLine.ending_of_parse` : when the program ends with a fault, and how it ends otherwise.
-/

namespace StateAddress

variable {σ : Type} {library : Pycryptodome} (hlibrary : library.IsSha512)

/-! ### Computations on a topic -/

namespace Topic

/-- The computation that a topic asks for with the values of its fields, if it is an address. -/
def computation? : Topic → List Value → Option Computation
  | namespaceRegistry, [given] => some (.ofSubject (.namespaceRegistry given))
  | contractRegistry, [name] => some (.ofSubject (.contractRegistry name))
  | contract, [name, version] => some (.ofSubject (.contract name version))
  | smartPermission, [owner, name] => some (.ofSubject (.smartPermission owner name))
  | agent, [name] => some (.ofSubject (.agent name))
  | organization, [id] => some (.ofSubject (.organization id))
  | setting, [key] => some (.ofSetting key)
  | _, _ => none

theorem computation?_cases {topic : Topic} {values : List Value}
    (h : values.length = topic.fields.length) :
    (∃ c, topic.computation? values = some c ∧ c.identifiers = values) ∨
      (topic = classification ∧ ∃ v, values = [v]) := by
  cases topic with
  | classification =>
      obtain ⟨v, rfl⟩ := List.length_eq_one_iff.mp h
      exact .inr ⟨rfl, v, rfl⟩
  | contract | smartPermission =>
      match values, h with
      | [v, w], _ => exact .inl ⟨_, rfl, rfl⟩
  | _ =>
      obtain ⟨v, rfl⟩ := List.length_eq_one_iff.mp h
      exact .inl ⟨_, rfl, rfl⟩

end Topic

/-! ### Answers to requests -/

namespace Request

section Answers

variable (provider : Value) (level : Level) (s : σ)

theorem field_hash (topic : Topic) (values : List Value) :
    (ofTopic topic provider values).field "hash" = .ok provider := rfl

theorem field_entity (topic : Topic) (values : List Value) :
    (ofTopic topic provider values).field "entity" = .ok (.ofString topic.name) := rfl

theorem result_line {topic : Topic} {values : List Value} {c : Computation}
    (h : topic.computation? values = some c) (d : Deriver σ) :
    (((ofTopic topic provider values).line d topic).run ⟨Scheme.standard, level⟩ s).result =
      ((c.address d.provider).run ⟨Scheme.standard, level⟩ s).result.map Hex.encode := by
  have hline : (ofTopic topic provider values).line d topic =
      (c.address d.provider >>= fun a => Operation.scheme >>= fun scheme =>
        Operation.ofExcept (Address.toHex scheme (.bytes a))) := by
    rw [Topic.computation?.eq_def] at h
    split at h
    all_goals cases h
    all_goals rfl
  rw [hline, run_toHex_of_belongs _ s fun a => c.belongs_of_result _ s d.provider]

include hlibrary in
/-- With a built-in provider, the answer to a request is the line on its topic. -/
theorem result_ofTopic (topic : Topic) (b : Provider.Builtin) (values : List Value) :
    let r := ofTopic topic (.ofString b.name) values
    ((r.answer library).run ⟨Scheme.standard, level⟩ s).result =
      ((r.line ⟨.builtin library b⟩ topic).run ⟨Scheme.standard, level⟩ s).result := by
  intro r
  have hname : Provider.Builtin.ofName (.ofString b.name) = .ok b := by
    cases b <;> rfl
  have haccept : Deriver.accept Scheme.standard (.builtin library b) =
      .ok (⟨.builtin library b⟩ : Deriver σ) := by
    rw [Provider.builtin_of_isSha512 hlibrary b]
    rfl
  have htopic : topic? (.ofString topic.name) = some topic := topic.ofName?_name
  rw [answer, Operation.run_scheme_bind, field_hash, Operation.run_ofExcept_ok_bind, hname,
    Operation.run_ofExcept_ok_bind, haccept, Operation.run_ofExcept_ok_bind, field_entity,
    Operation.run_ofExcept_ok_bind, Operation.run_bind_ok (a := ()) rfl, htopic]
  rfl

theorem result_classification (v : Value) (d : Deriver σ) :
    (((ofTopic .classification provider [v]).line d .classification).run
        ⟨Scheme.standard, level⟩ s).result =
      (Address.entity? Scheme.standard v).map fun entity =>
        Text.ofString ((entity.map Entity.identifier).getD "unknown") := by
  change ((Operation.ofExcept (Address.entity? Scheme.standard v) >>= _).run _ s).result = _
  cases Address.entity? Scheme.standard v <;> rfl

theorem line_isDecidedBy (v : Value) (d : Deriver σ) :
    let r := ofTopic .classification provider [v]
    IsDecidedBy ((r.line d .classification).run ⟨Scheme.standard, level⟩ s).result
      (Address.IsForm v) := by
  intro r
  rw [result_classification]
  exact (Address.entity?_isDecidedBy v).map _

end Answers

/-! ### Requests that escape -/

/-- Whether a request ends with a fault: nothing is left of its hash provider, or it is on a setting
whose key has a surrogate. -/
def Escapes (r : Request) : Prop :=
  r.field "hash" = .ok (.list []) ∨
    (r.field "entity" = .ok (.ofString Topic.setting.name) ∧
      ∃ t : Text, r.field "key" = .ok (.text t) ∧ t.isWellFormed = false)

/-- With a hash provider that is known, these are the requests for an address that is not
computed. -/
theorem escapes_ofTopic_iff {topic : Topic} {values : List Value}
    (hvalues : values.length = topic.fields.length) (name : String) :
    (ofTopic topic (.ofString name) values).Escapes ↔
      ∃ c, topic.computation? values = some c ∧ c.Escapes := by
  constructor
  · rintro (hhash | ⟨hentity, t, hkey, hill⟩)
    · cases hhash
    · have htopic : Text.ofString topic.name = Text.ofString Topic.setting.name :=
        Value.text.inj (Except.ok.inj hentity)
      have hsome := topic.ofName?_name
      rw [htopic, Topic.ofName?_name] at hsome
      cases hsome
      obtain ⟨key, rfl⟩ := List.length_eq_one_iff.mp hvalues
      cases hkey
      exact ⟨_, rfl, t, rfl, hill⟩
  · rintro ⟨c, hc, t, rfl, hill⟩
    rw [Topic.computation?.eq_def] at hc
    split at hc
    all_goals cases hc
    exact .inr ⟨rfl, t, rfl, hill⟩

theorem isWellFormed_of_mem_fields {topic : Topic} {name : String} {values : List Value}
    (hvalues : ∀ t : Text, .text t ∈ values → t.isWellFormed = true) {e : Text × Value}
    (he : e ∈ (ofTopic topic (.ofString name) values).fields) {t : Text} (ht : e.2 = .text t) :
    t.isWellFormed = true := by
  rcases List.mem_cons.mp he with rfl | he
  · cases ht
    exact Text.isWellFormed_map_scalar _
  · rcases List.mem_cons.mp he with rfl | he
    · cases ht
      exact Text.isWellFormed_map_scalar _
    · have hmem := (List.of_mem_zip he).2
      rw [ht] at hmem
      exact hvalues t hmem

/-- Whether a fault is one that requests escape with: nothing is left of the hash provider, or a
text has no UTF-8 form. -/
def EscapesWith (fault : Fault) : Prop :=
  fault = .misused (.unhashable "list") ∨ ∃ run, fault = .unencodable run

theorem EscapesWith.addressError?_eq_none {fault : Fault} (h : EscapesWith fault) :
    fault.addressError? = none := by
  rcases h with rfl | ⟨run, rfl⟩
  · rfl
  · rfl

/-- The ways in which the request of a command line is answered: with a line, where no field has a
surrogate, with a refused input or, where it escapes, with another fault. -/
inductive Ending (r : Request) : Except Fault Text → Prop
  | answered {line : Text} (kept : ¬ r.Escapes)
      (wellFormed : ∀ e ∈ r.fields, ∀ t : Text, e.2 = .text t → t.isWellFormed = true) :
      Ending r (.ok line)
  | refused {reason : Rejection} (kept : ¬ r.Escapes) : Ending r (.error (.rejected reason))
  | escaped {fault : Fault} (escapes : r.Escapes) (other : EscapesWith fault) :
      Ending r (.error fault)

section Endings

variable (level : Level) (s : σ)

include hlibrary

/-- A request for an address is answered as the computation ends. -/
theorem ending_of_computation {topic : Topic} (b : Provider.Builtin) {values : List Value}
    (hvalues : values.length = topic.fields.length) {c : Computation}
    (hc : topic.computation? values = some c) (hidentifiers : c.identifiers = values) :
    let r := ofTopic topic (.ofString b.name) values
    r.Ending ((r.answer library).run ⟨Scheme.standard, level⟩ s).result := by
  intro r
  have hescapes : r.Escapes ↔ c.Escapes := by
    rw [escapes_ofTopic_iff hvalues, hc]
    exact ⟨fun ⟨d, hd, hill⟩ => Option.some.inj hd ▸ hill, fun hill => ⟨c, rfl, hill⟩⟩
  rw [result_ofTopic hlibrary, result_line _ _ _ hc]
  rcases c.result_cases hlibrary b level s with
    ⟨hnot, hwell, a, ha⟩ | ⟨hnot, reason, hreason⟩ | ⟨hill, run, hrun⟩
  · rw [hidentifiers] at hwell
    rw [ha]
    refine .answered (fun h => hnot (hescapes.mp h)) fun e he t ht => ?_
    exact isWellFormed_of_mem_fields hwell he ht
  · rw [hreason]
    exact .refused (fun h => hnot (hescapes.mp h))
  · rw [hrun]
    exact .escaped (hescapes.mpr hill) (.inr ⟨run, rfl⟩)

/-- A request for the kind of an address never escapes. -/
theorem ending_of_classification (b : Provider.Builtin) (v : Value) :
    let r := ofTopic .classification (.ofString b.name) [v]
    r.Ending ((r.answer library).run ⟨Scheme.standard, level⟩ s).result := by
  intro r
  have hkept : ¬ r.Escapes := by
    rw [escapes_ofTopic_iff rfl]
    rintro ⟨c, hc, -⟩
    cases hc
  rw [result_ofTopic hlibrary]
  rcases line_isDecidedBy (.ofString b.name) level s v ⟨.builtin library b⟩ with
    ⟨hform, line, hline⟩ | ⟨-, reason, hreason⟩
  · rw [hline]
    refine .answered hkept fun e he t ht => isWellFormed_of_mem_fields (fun u hu => ?_) he ht
    cases List.mem_singleton.mp hu
    exact Address.isWellFormed_of_isForm hform
  · rw [hreason]
    exact .refused hkept

/-- How the request of a command line is answered. -/
theorem ending_of_isWritten {r : Request} (h : r.IsWritten) :
    r.Ending ((r.answer library).run ⟨Scheme.standard, level⟩ s).result := by
  obtain ⟨topic, known, length⟩ := h
  rcases known with ⟨b, hb⟩ | hnone
  · rw [hb]
    rcases topic.computation?_cases length with ⟨c, hc, hidentifiers⟩ | ⟨rfl, v, rfl⟩
    · exact ending_of_computation hlibrary level s b length hc hidentifiers
    · exact ending_of_classification hlibrary level s b v
  · rw [hnone]
    exact .escaped (.inl rfl) (.inl rfl)

end Endings

end Request

/-! ### Transcripts -/

namespace CommandLine

section Serving

variable (library : Pycryptodome) {console : Console} (hconsole : console.PrintsOnErrors)
  (scheme : Scheme) (level : Level) (inv : Invocation)

/-- What answering the request of an invocation leaves behind. -/
def served : Outcome Unit Text := (inv.request.answer library).run ⟨scheme, level⟩ ()

variable {library inv}

/-- An address error with a text is printed as such, and gives the exit code 1. -/
theorem report_of_addressError {fault : Fault} (h : fault.addressError?.isSome = true) {text : Text}
    (htext : fault.text = .ok text) :
    report (.error fault) = (.ok 1, ⟨[], "error: " ++ text ++ "\n"⟩) := by
  rw [report, if_pos h, htext]

theorem report_of_fault {fault : Fault} (h : fault.addressError? = none) :
    report (.error fault) = (.error fault, ⟨[], []⟩) := by
  rw [report, h]
  rfl

theorem report_of_rejected (reason : Rejection) :
    report (.error (.rejected reason)) =
      (.ok 1, ⟨[], "error: addressing input is invalid: " ++ reason.message ++ "\n"⟩) :=
  report_of_addressError rfl rfl

include hconsole in
/-- What the program does with a command line that is accepted: the report of the answer decides how
it ends and what it puts out, and comes after what the console prints among the errors. -/
theorem run_of_parse {ws : List Text} (h : Invocation.parse ws = .ok inv)
    {result : Except Fault Text}
    (hresult : (served library scheme level inv).result = result) :
    let t := run library console scheme level ws
    t.ending = (report result).1 ∧ t.output = (report result).2.output ∧
      ∃ print, console.setUp inv.verbosity = .ok print ∧
        t.errors =
          Text.escapeSurrogates ((print t.events).errors ++ (report result).2.errors) := by
  intro t
  obtain ⟨print, hprint, hsilent⟩ := hconsole inv.verbosity
  have ht : t = ⟨(report (served library scheme level inv).result).1,
      (print (served library scheme level inv).events).output ++
        (report (served library scheme level inv).result).2.output,
      Text.escapeSurrogates ((print (served library scheme level inv).events).errors ++
        (report (served library scheme level inv).result).2.errors),
      (served library scheme level inv).events⟩ := by
    change run library console scheme level ws = _
    rw [run, h]
    simp only [serve, hprint]
    rfl
  rw [hresult, hsilent, List.nil_append] at ht
  rw [ht]
  exact ⟨rfl, rfl, print, hprint, rfl⟩

end Serving

/-- **How the program ends.** On a command line that is accepted, the program ends with a fault
exactly if the request escapes, and then with a hash provider that is no name or with a key that
has no UTF-8 form.  Otherwise its exit code is 0 or 1.  If any field holds a surrogate then, the
exit code is 1, nothing is put out, and the input is refused under what the console has printed. -/
theorem ending_of_parse {library : Pycryptodome} (hlibrary : library.IsSha512) {console : Console}
    (hconsole : console.PrintsOnErrors) (level : Level) {ws : List Text} {inv : Invocation}
    (h : Invocation.parse ws = .ok inv) :
    let t := run library console Scheme.standard level ws
    ((∃ fault, t.ending = .error fault) ↔ inv.request.Escapes) ∧
      (∀ fault, t.ending = .error fault → Request.EscapesWith fault) ∧
      (¬ inv.request.Escapes → t.ending = .ok 0 ∨ t.ending = .ok 1) ∧
      (¬ inv.request.Escapes → ∀ e ∈ inv.request.fields, ∀ w : Text, e.2 = .text w →
        w.isWellFormed = false →
          t.ending = .ok 1 ∧ t.output = [] ∧ ∃ (print : List Event → Printed) (reason : Rejection),
            console.setUp inv.verbosity = .ok print ∧
              t.errors = Text.escapeSurrogates ((print t.events).errors ++
                ("error: addressing input is invalid: " ++ reason.message ++ "\n"))) := by
  intro t
  have hending := Request.ending_of_isWritten hlibrary level () (Invocation.isWritten_of_parse h)
  change inv.request.Ending (served library Scheme.standard level inv).result at hending
  generalize hresult : (served library Scheme.standard level inv).result = result at hending
  obtain ⟨hcode, houtput, print, hprint, herrors⟩ :=
    run_of_parse hconsole Scheme.standard level h hresult
  cases hending with
  | answered kept wellFormed =>
      refine ⟨⟨fun ⟨_, hfault⟩ => absurd hfault (ne_error_of_eq_ok hcode),
        fun escapes => absurd escapes kept⟩,
        fun _ hfault => absurd hfault (ne_error_of_eq_ok hcode), fun _ => .inl hcode, ?_⟩
      intro _ e he w hw hill
      rw [wellFormed e he w hw] at hill
      cases hill
  | @refused reason kept =>
      rw [report_of_rejected] at hcode houtput herrors
      refine ⟨⟨fun ⟨_, hfault⟩ => absurd hfault (ne_error_of_eq_ok hcode),
        fun escapes => absurd escapes kept⟩,
        fun _ hfault => absurd hfault (ne_error_of_eq_ok hcode), fun _ => .inr hcode, ?_⟩
      intro _ e he w hw hill
      exact ⟨hcode, houtput, print, reason, hprint, herrors⟩
  | @escaped fault escapes other =>
      rw [report_of_fault other.addressError?_eq_none] at hcode
      refine ⟨⟨fun _ => escapes, fun _ => ⟨fault, hcode⟩⟩, ?_, fun kept => absurd escapes kept,
        fun kept => absurd escapes kept⟩
      intro fault' hfault
      cases hcode.symm.trans hfault
      exact other

/-- A word that was handed over undecoded: the byte `0xff`. -/
def undecoded : Text := [.surrogate 0x4ff]

/-- An organization with an undecoded name: the input is refused, with the other provider in use and
with the report of the request in front. -/
theorem ending_of_undecoded_organization :
    ∃ inv, Invocation.parse ["-v", "--hash=pycryptodome", "org", undecoded] = .ok inv ∧
      Pycryptodome.expected.IsSha512 ∧ (Console.stamped "12:00:00").PrintsOnErrors ∧
      inv.verbosity = 1 ∧ ¬ inv.request.Escapes ∧
      let t := run .expected (.stamped "12:00:00") Scheme.standard Level.debug
        ["-v", "--hash=pycryptodome", "org", undecoded]
      t.ending = .ok 1 ∧ t.output = [] ∧ ∃ (print : List Event → Printed) (reason : Rejection),
        (Console.stamped "12:00:00").setUp 1 = .ok print ∧
          t.errors = Text.escapeSurrogates ((print t.events).errors ++
            ("error: addressing input is invalid: " ++ reason.message ++ "\n")) := by
  have hparse : Invocation.parse ["-v", "--hash=pycryptodome", "org", undecoded] = .ok
      ⟨1, .ofTopic .organization (.ofString "pycryptodome") [.text undecoded]⟩ := rfl
  have hkept : ¬ (Request.ofTopic .organization (.ofString "pycryptodome")
      [.text undecoded]).Escapes := by
    rintro (hhash | ⟨hentity, -⟩)
    · cases hhash
    · exact absurd (Value.text.inj (Except.ok.inj hentity)) (by decide)
  have hlibrary := Pycryptodome.isSha512_expected
  have hconsole := Console.printsOnErrors_stamped "12:00:00"
  obtain ⟨-, -, -, hsurrogate⟩ := ending_of_parse hlibrary hconsole Level.debug hparse
  have hmem : (Text.ofString "org_id", .text undecoded) ∈
      (Request.ofTopic .organization (.ofString "pycryptodome") [.text undecoded]).fields :=
    .tail _ (.tail _ (.head _))
  exact ⟨_, hparse, hlibrary, hconsole, rfl, hkept, hsurrogate hkept _ hmem undecoded rfl rfl⟩

/-- Not every accepted command line ends with an exit code: the key of a setting may have been
handed over undecoded. -/
theorem not_forall_ending_of_parse :
    ¬ ∀ (library : Pycryptodome) (console : Console), library.IsSha512 → console.PrintsOnErrors →
      ∀ (level : Level) (ws : List Text) (inv : Invocation), Invocation.parse ws = .ok inv →
        ∃ code, (run library console Scheme.standard level ws).ending = .ok code := by
  intro h
  obtain ⟨code, hcode⟩ := h .expected (.stamped []) Pycryptodome.isSha512_expected
    (Console.printsOnErrors_stamped []) 0 ["setting", undecoded] _ rfl
  cases hcode

end CommandLine

end StateAddress
