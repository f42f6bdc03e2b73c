import StateAddress.Proofs.CommandLine.Ending
import StateAddress.Proofs.CommandLine.Plain
import StateAddress.Proofs.RefusalMessage
import StateAddress.Proofs.SameDigests

/-!
# The program and the library

On a plain command line for an address, the program prints what the library computes with its
standard deriver: the address in hexadecimal form, or the refusal of an input.  A printed line can
be given back in any mix of letter cases, and tells the kind of the address.  The options make no
difference to the output and to the exit code, as long as the console leaves the output alone and
the other hash library gives SHA-512 digests.

## Main definitions

* `CommandLine.Agrees` : how the program agrees with the result of a computation.

## Main results

* `CommandLine.ending_output_of_result` : the answer to a request decides how the program ends and
  what it puts out.
* `CommandLine.agrees_of_computation` : the program agrees with the library.
-/

namespace StateAddress

variable {σ : Type} {library : Pycryptodome} (hlibrary : library.IsSha512) {console : Console}
  (hconsole : console.PrintsOnErrors)

/-! ### Texts without surrogates -/

namespace Text

theorem escapeSurrogates_append (s t : Text) :
    (s ++ t).escapeSurrogates = s.escapeSurrogates ++ t.escapeSurrogates := List.flatMap_append

theorem escapeSurrogates_of_isWellFormed {t : Text} (h : t.isWellFormed = true) :
    t.escapeSurrogates = t := by
  induction t with
  | nil => rfl
  | cons p t ih =>
      rw [← List.singleton_append] at h ⊢
      obtain ⟨hp, ht⟩ := isWellFormed_append_iff.mp h
      rw [escapeSurrogates_append, ih ht]
      cases p with
      | scalar c => rfl
      | surrogate offset => cases hp

end Text

/-! ### Printed addresses -/

namespace Hex

theorem isUndashed_of_lower {t : Text} {b : Bytes} (h : t.lower = encode b) :
    Word.IsUndashed t := by
  intro hdash
  obtain ⟨rest, rfl⟩ := List.head?_eq_some_iff.mp hdash
  have hmem : Word.dash ∈ encode b := by
    rw [← h]
    exact List.mem_cons_self
  obtain ⟨d, hd, heq⟩ := exists_of_mem_encode hmem
  cases heq
  exact absurd hd (by decide)

end Hex

/-! ### Kinds of entities -/

theorem Entity.ofString_identifier (e : Entity) :
    Text.ofString e.identifier = (Text.ofString e.memberName).lower := by
  simp [identifier, Text.ofString, Text.lower, CodePoint.lower]

/-! ### Computations on a topic -/

namespace Topic

variable {topic : Topic} {values : List Value} {c : Computation}

theorem length_of_computation? (h : topic.computation? values = some c) :
    values.length = topic.fields.length := by
  rw [computation?.eq_def] at h
  split at h
  all_goals cases h
  all_goals rfl

theorem identifiers_of_computation? (h : topic.computation? values = some c) :
    c.identifiers = values := by
  rcases computation?_cases (length_of_computation? h) with ⟨d, hd, hvalues⟩ | ⟨rfl, v, rfl⟩
  · rw [h] at hd
    cases hd
    exact hvalues
  · cases h

end Topic

/-! ### Lines of a console -/

/-- Without verbosity no line is printed, since no event is as severe as a warning. -/
theorem Console.lines_zero (stamp : Text) (events : List Event) :
    Console.lines stamp 0 events = [] := by
  have hnone : ∀ e ∈ events, ¬ e.isRecorded (Console.levelOf 0) = true := fun e _ => by
    cases e with
    | started entity provider => exact Bool.false_ne_true
    | derived entity address => exact Bool.false_ne_true
  rw [Console.lines, List.filter_eq_nil_iff.mpr hnone, List.flatMap_nil]

namespace CommandLine

/-! ### How the answer decides -/

include hconsole in
/-- The answer to a request decides how the program ends and what it puts out, whatever is
recorded and printed of it. -/
theorem ending_output_of_result {scheme : Scheme} {level level' : Level} {ws ws' : List Text}
    {inv inv' : Invocation} (hws : Invocation.parse ws = .ok inv)
    (hws' : Invocation.parse ws' = .ok inv')
    (h : (served library scheme level inv).result = (served library scheme level' inv').result) :
    (run library console scheme level ws).ending = (run library console scheme level' ws').ending ∧
      (run library console scheme level ws).output =
        (run library console scheme level' ws').output := by
  obtain ⟨hending, houtput, -⟩ := run_of_parse hconsole scheme level hws h
  obtain ⟨hending', houtput', -⟩ := run_of_parse hconsole scheme level' hws' rfl
  exact ⟨hending.trans hending'.symm, houtput.trans houtput'.symm⟩

/-! ### The program and the library -/

/-- How the program *agrees* with the result of a computation for a kind of entity, on the plain
command lines for a topic with some values. -/
structure Agrees (library : Pycryptodome) (console : Console) (result : Except Fault Bytes)
    (e : Entity) (topic : Topic) (values : List Text) : Prop where
  /-- An address is printed in hexadecimal form. -/
  answered : ∀ a, result = .ok a → ∀ switches level,
    let t := run library console Scheme.standard level (plain switches topic values)
    t.ending = .ok 0 ∧ t.output = Hex.encode a ++ "\n"
  /-- That is a single line, of 70 digits in lower case. -/
  digits : ∀ a, result = .ok a →
    (Hex.encode a).length = 70 ∧ ∀ p ∈ Hex.encode a, ∃ d ∈ Text.hexAlphabet, p = .scalar d
  /-- The line is read back as an address of the kind, whose name is printed in lower case. -/
  readBack : ∀ a, result = .ok a → ∀ line : Text, line.lower = Hex.encode a → ∀ switches level,
    let t := run library console Scheme.standard level (plain switches .classification [line])
    t.ending = .ok 0 ∧ t.output = (Text.ofString e.memberName).lower ++ "\n"
  /-- An address error is printed as such, after what the console prints, and nothing is put out. -/
  refused : ∀ fault, result = .error fault → fault.addressError?.isSome = true →
    ∃ text, fault.text = .ok text ∧ ∀ switches level,
      let t := run library console Scheme.standard level (plain switches topic values)
      t.ending = .ok 1 ∧ t.output = [] ∧ ∃ print, console.setUp (verbosity switches) = .ok print ∧
        t.errors = (print t.events).errors.escapeSurrogates ++ ("error: " ++ text ++ "\n")
  /-- The options make no difference to the exit code and to the output. -/
  independent : ∀ switches switches' level level',
    let t := run library console Scheme.standard level (plain switches topic values)
    let t' := run library console Scheme.standard level' (plain switches' topic values)
    t.ending = t'.ending ∧ t.output = t'.output

section Computations

variable {topic : Topic} {values : List Text} (hvalues : ∀ w ∈ values, Word.IsUndashed w)
  {c : Computation} (hc : topic.computation? (values.map .text) = some c) (switches : List Switch)
  (level level' : Level) (s : σ)

include hlibrary hc in
/-- The request of a plain command line is answered as the library computes. -/
theorem result_served :
    (served library Scheme.standard level (invocation switches topic values)).result =
      ((c.address Deriver.standard.provider).run ⟨Scheme.standard, level'⟩ s).result.map
        Hex.encode := by
  rw [← c.result_builtin hlibrary (provider switches) Scheme.standard level level' () s]
  exact (Request.result_ofTopic hlibrary level () topic (provider switches)
    (values.map .text)).trans (Request.result_line _ level () hc _)

include hvalues hc in
theorem parse_plain_of_computation? :
    Invocation.parse (plain switches topic values) = .ok (invocation switches topic values) := by
  have hlength := Topic.length_of_computation? hc
  rw [List.length_map] at hlength
  exact Invocation.parse_plain switches topic hlength hvalues

include hlibrary hconsole hvalues hc

theorem run_plain_of_ok {a : Bytes}
    (h : ((c.address Deriver.standard.provider).run ⟨Scheme.standard, level'⟩ s).result =
      .ok a) :
    let t := run library console Scheme.standard level (plain switches topic values)
    t.ending = .ok 0 ∧ t.output = Hex.encode a ++ "\n" := by
  have hserved := result_served hlibrary hc switches level level' s
  rw [h] at hserved
  obtain ⟨hending, houtput, -⟩ := run_of_parse hconsole Scheme.standard level
    (parse_plain_of_computation? hvalues hc switches) hserved
  exact ⟨hending, houtput⟩

theorem run_plain_of_addressError {fault : Fault}
    (h : ((c.address Deriver.standard.provider).run ⟨Scheme.standard, level'⟩ s).result =
      .error fault) (hfault : fault.addressError?.isSome = true) {text : Text}
    (htext : fault.text = .ok text) (hwell : text.isWellFormed = true) :
    let t := run library console Scheme.standard level (plain switches topic values)
    t.ending = .ok 1 ∧ t.output = [] ∧ ∃ print, console.setUp (verbosity switches) = .ok print ∧
      t.errors = (print t.events).errors.escapeSurrogates ++ ("error: " ++ text ++ "\n") := by
  have hserved := result_served hlibrary hc switches level level' s
  rw [h] at hserved
  obtain ⟨hending, houtput, print, hprint, herrors⟩ := run_of_parse hconsole Scheme.standard level
    (parse_plain_of_computation? hvalues hc switches) hserved
  have hreport : report (Except.map Hex.encode (.error fault)) = _ :=
    report_of_addressError hfault htext
  rw [hreport] at hending houtput herrors
  refine ⟨hending, houtput, print, hprint, herrors.trans ?_⟩
  have hpreamble : (Text.ofString "error: ").isWellFormed = true := Text.isWellFormed_ofString _
  have hend : (Text.ofString "\n").isWellFormed = true := Text.isWellFormed_ofString _
  simp only [Text.escapeSurrogates_append, Text.escapeSurrogates_of_isWellFormed hwell,
    Text.escapeSurrogates_of_isWellFormed hpreamble, Text.escapeSurrogates_of_isWellFormed hend]

end Computations

include hlibrary hconsole in
/-- A printed address is read back in any mix of letter cases. -/
theorem run_plain_classification {e : Entity} {a : Bytes}
    (h : Address.Belongs Scheme.standard e a) {line : Text} (hline : line.lower = Hex.encode a)
    (switches : List Switch) (level : Level) :
    let t := run library console Scheme.standard level (plain switches .classification [line])
    t.ending = .ok 0 ∧ t.output = (Text.ofString e.memberName).lower ++ "\n" := by
  have hundashed : ∀ w ∈ [line], Word.IsUndashed w := fun w hw => by
    cases List.mem_singleton.mp hw
    exact Hex.isUndashed_of_lower hline
  have hserved :
      (served library Scheme.standard level (invocation switches .classification [line])).result =
        .ok (Text.ofString e.identifier) := by
    have hanswer :=
      Request.result_ofTopic hlibrary level () .classification (provider switches) [.text line]
    refine hanswer.trans ?_
    rw [Request.result_classification, Address.entity?_of_lower h hline]
    rfl
  obtain ⟨hending, houtput, -⟩ := run_of_parse hconsole Scheme.standard level
    (Invocation.parse_plain switches .classification rfl hundashed) hserved
  rw [← e.ofString_identifier]
  exact ⟨hending, houtput⟩

/-- **The program agrees with the library.** Let the console leave the output alone, and let the
other hash library give SHA-512 digests.  Let a plain command line give a topic that asks for an
address, with values none of which begins with a dash, and whatever options.  If the library
computes the address with its standard deriver, the program prints its 70 digits and gives the exit
code 0, and the line is read back as an address of its kind in any mix of letter cases; if the
library ends in an address error, the program prints that and gives the exit code 1.  The options
make no difference to the exit code and to the output. -/
theorem agrees_of_computation {library : Pycryptodome} (hlibrary : library.IsSha512)
    {console : Console} (hconsole : console.PrintsOnErrors) {topic : Topic} {values : List Text}
    (hvalues : ∀ w ∈ values, Word.IsUndashed w) {c : Computation}
    (hc : topic.computation? (values.map .text) = some c) (level : Level) (s : σ) :
    Agrees library console
      ((c.address Deriver.standard.provider).run ⟨Scheme.standard, level⟩ s).result c.entity
      topic values where
  answered _ h switches level' :=
    run_plain_of_ok hlibrary hconsole hvalues hc switches level' level s h
  digits a h := by
    have hbelongs := c.belongs_of_result _ s _ h
    refine ⟨?_, fun p hp => Hex.exists_of_mem_encode hp⟩
    rw [Hex.length_encode, (Address.belongs_standard_iff.mp hbelongs).1]
  readBack _ h _ hline switches level' :=
    run_plain_classification hlibrary hconsole (c.belongs_of_result _ s _ h) hline switches level'
  refused fault h hfault := by
    have htexts : c.IsOfTexts := by
      rw [Computation.IsOfTexts, Topic.identifiers_of_computation? hc]
      exact fun v hv => (List.mem_map.mp hv).imp fun w hw => hw.2.symm
    obtain ⟨text, htext, hwell⟩ := Computation.isPrintable Pycryptodome.isSha512_expected .sha512
      htexts level s h hfault
    exact ⟨text, htext, fun switches level' => run_plain_of_addressError hlibrary hconsole hvalues
      hc switches level' level s h hfault htext hwell⟩
  independent switches switches' level₁ level₂ :=
    ending_output_of_result hconsole (parse_plain_of_computation? hvalues hc switches)
      (parse_plain_of_computation? hvalues hc switches')
      ((result_served hlibrary hc switches level₁ level s).trans
        (result_served hlibrary hc switches' level₂ level s).symm)

/-- With more verbosity and the other hash provider, the address of an agent is printed and read
back; a namespace of three characters is refused. -/
theorem agrees_of_computation_of_alice :
    let console := Console.stamped "12:00:00"
    let t := run .expected console Scheme.standard Level.debug
      ["-v", "--hash", "pycryptodome", "agent", "alice"]
    let u := run .expected console Scheme.standard Level.debug ["namespace-registry", "abc"]
    Pycryptodome.expected.IsSha512 ∧ console.PrintsOnErrors ∧
    (∃ a, (((Subject.agent (.ofString "alice")).derive Deriver.standard.provider).run
        ⟨Scheme.standard, Level.debug⟩ ()).result = .ok a ∧
      t.ending = .ok 0 ∧ t.output = Hex.encode a ++ "\n" ∧
      (run .expected console Scheme.standard Level.debug ["type", Hex.encode a]).output =
        "agent\n") ∧
    u.ending = .ok 1 ∧ u.output = [] ∧ u.errors = Text.ofString
      "error: addressing input is invalid: namespace 'abc' is less than 6 characters long\n" := by
  intro console t u
  have hlibrary := Pycryptodome.isSha512_expected
  have hconsole := Console.printsOnErrors_stamped "12:00:00"
  have halice : ∀ w ∈ [Text.ofString "alice"], Word.IsUndashed w := by decide
  have habc : ∀ w ∈ [Text.ofString "abc"], Word.IsUndashed w := by decide
  have hagent : Topic.agent.computation? [.ofString "alice"] =
      some (.ofSubject (.agent (.ofString "alice"))) := rfl
  have hnamespace : Topic.namespaceRegistry.computation? [.ofString "abc"] =
      some (.ofSubject (.namespaceRegistry (.ofString "abc"))) := rfl
  have hdecided :=
    (Subject.agent (.ofString "alice")).derive_isDecidedBy hlibrary .sha512 Level.debug ()
  obtain ⟨a, ha⟩ := hdecided.exists_ok_iff.mpr rfl
  have hanswered := agrees_of_computation hlibrary hconsole halice hagent Level.debug ()
  have hrefused := agrees_of_computation hlibrary hconsole habc hnamespace Level.debug ()
  obtain ⟨hending, houtput⟩ :=
    hanswered.answered a ha [.verbose, .choice .pycryptodome] Level.debug
  obtain ⟨text, htext, hrun⟩ := hrefused.refused
    (.rejected (.namespaceTooShort (.ofString "abc") (.int 6))) rfl rfl
  obtain ⟨hcode, hnothing, print, hprint, herrors⟩ := hrun [] Level.debug
  refine ⟨hlibrary, hconsole, ⟨a, ha, hending, houtput, ?_⟩, hcode, hnothing, herrors.trans ?_⟩
  · exact (hanswered.readBack a ha _ (Hex.lower_encode a) [] Level.debug).2
  · cases hprint
    cases htext
    change Text.escapeSurrogates (Console.lines _ 0 _) ++ _ = _
    rw [Console.lines_zero]
    rfl

end CommandLine

end StateAddress
