import StateAddress.CommandLine.Invocation

/-!
# Plain command lines

A plain command line gives options, each in words of its own, then a topic and a value for each of
its fields, none of which begins with a dash.  It is accepted and means what it says: the verbosity
is the number of times that it was raised, and the hash provider is the one that was chosen last.

## Main definitions

* `CommandLine.Switch` : an option that is given before a topic.
* `CommandLine.plain` : the words of a plain command line.
* `CommandLine.verbosity`, `CommandLine.provider`, `CommandLine.invocation` : what it says.

## Main results

* `Word.readAll_of_undashed` : words that begin with no dash are operands.
* `Invocation.parse_plain` : a plain command line means what it says.
-/

namespace StateAddress

/-! ### Words without a dash -/

namespace Word

/-- A word is *undashed* when it does not begin with a dash. -/
def IsUndashed (w : Text) : Prop := w.head? ≠ some dash

instance (w : Text) : Decidable (IsUndashed w) := inferInstanceAs (Decidable (_ ≠ _))

/-- Words that begin with no dash are operands, whatever options are known. -/
theorem readAll_of_undashed (table : FlagTable) (ws : List Text) (h : ∀ w ∈ ws, IsUndashed w) :
    readAll table ws = .ok (ws.map fun w => (w, .operand)) := by
  induction ws with
  | nil => rfl
  | cons w ws ih =>
      obtain ⟨hw, hws⟩ := List.forall_mem_cons.mp h
      have hseparator : w ≠ separator := by
        rintro rfl
        exact hw rfl
      have hread : read table w = .ok .operand := if_pos hw
      rw [readAll, if_neg hseparator, hread, ih hws]
      rfl

theorem operandValue_of_undashed {w : Text} (h : IsUndashed w) :
    Fields.operandValue w = .text w := by
  refine if_neg ?_
  rintro rfl
  exact h rfl

end Word

/-! ### Options -/

namespace CommandLine

/-- An option that is given before a topic. -/
inductive Switch where
  /-- One more step of verbosity. -/
  | verbose
  /-- The choice of a hash provider. -/
  | choice (b : Provider.Builtin)
  deriving DecidableEq, Repr

namespace Switch

/-- The words of an option. -/
def words : Switch → List Text
  | verbose => ["-v"]
  | choice b => ["--hash", b.name]

/-- What the words of an option are. -/
def readings : Switch → List (Text × Reading)
  | verbose => [(Text.ofString "-v", .flag .verbose (Text.ofString "-v") none)]
  | choice b =>
      [(Text.ofString "--hash", .flag .hash (Text.ofString "--hash") none),
        (Text.ofString b.name, .operand)]

/-- The hash provider that an option chooses, if it does. -/
def chosen? : Switch → Option Provider.Builtin
  | verbose => none
  | choice b => some b

/-- The options after one more of them. -/
def apply (o : Options) : Switch → Options
  | verbose => { o with verbosity := o.verbosity + 1 }
  | choice b => { o with provider := .ofString b.name }

end Switch

/-- The words of a plain command line: options, a topic and the values of its fields. -/
def plain (switches : List Switch) (topic : Topic) (values : List Text) : List Text :=
  switches.flatMap Switch.words ++ Text.ofString topic.name :: values

/-- The number of times that the verbosity is raised. -/
def verbosity (switches : List Switch) : Nat := switches.count .verbose

/-- The hash provider that is chosen last, or the one that is in use where none is chosen. -/
def provider (switches : List Switch) : Provider.Builtin :=
  (switches.filterMap Switch.chosen?).getLastD .sha512

/-- What a plain command line says: its verbosity, its topic, its hash provider and its values. -/
def invocation (switches : List Switch) (topic : Topic) (values : List Text) : Invocation :=
  ⟨verbosity switches,
    Request.ofTopic topic (.ofString (provider switches).name) (values.map .text)⟩

theorem foldl_apply (switches : List Switch) (raised : Nat) (b : Provider.Builtin)
    (strays : List Text) :
    switches.foldl Switch.apply ⟨raised, .ofString b.name, strays⟩ =
      ⟨raised + verbosity switches,
        .ofString ((switches.filterMap Switch.chosen?).getLastD b).name, strays⟩ := by
  induction switches generalizing raised b with
  | nil => rfl
  | cons switch rest ih =>
      rw [List.foldl_cons]
      cases switch with
      | verbose =>
          have hcount : raised + verbosity (.verbose :: rest) = raised + 1 + verbosity rest := by
            rw [verbosity, verbosity, List.count_cons_self]
            omega
          rw [Switch.apply, ih, hcount]
          rfl
      | choice chosen =>
          have hne : Switch.choice chosen ≠ .verbose := nofun
          have hchosen : (Switch.choice chosen).chosen? = some chosen := rfl
          rw [Switch.apply, ih, verbosity, verbosity, List.count_cons_of_ne hne,
            List.filterMap_cons_some hchosen, List.getLastD_cons]

end CommandLine

/-! ### What is read -/

open CommandLine

/-- The words of options are read as these options, and those after them as operands. -/
theorem Word.readAll_switches (switches : List Switch) {ws : List Text}
    (h : ∀ w ∈ ws, IsUndashed w) :
    readAll Options.table (switches.flatMap Switch.words ++ ws) =
      .ok (switches.flatMap Switch.readings ++ ws.map fun w => (w, .operand)) := by
  induction switches with
  | nil => exact readAll_of_undashed _ ws h
  | cons switch rest ih =>
      rw [List.flatMap_cons, List.flatMap_cons, List.append_assoc, List.append_assoc]
      cases switch with
      | verbose =>
          have hread : read Options.table "-v" =
              .ok (.flag .verbose (Text.ofString "-v") none) := rfl
          rw [Switch.words, List.singleton_append, readAll, if_neg (by decide), hread, ih]
          rfl
      | choice b =>
          have hread : read Options.table "--hash" =
              .ok (.flag .hash (Text.ofString "--hash") none) := rfl
          have hname : Text.ofString b.name ≠ separator ∧
              read Options.table (Text.ofString b.name) = .ok .operand := by
            cases b <;> exact ⟨by decide, rfl⟩
          rw [Switch.words, List.cons_append, List.singleton_append, readAll,
            if_neg (by decide), hread, readAll, if_neg hname.1, hname.2, ih]
          rfl

namespace Invocation

/-- After options, the next operand is the topic, and what follows it is left to the topic. -/
theorem ofReadings_switches (switches : List Switch) (o : Options) (w : Text) (ws : List Text) :
    ofReadings (switches.flatMap Switch.readings ++
        (w, .operand) :: ws.map fun w => (w, .operand)) o =
      onTopic (switches.foldl Switch.apply o) w ws := by
  induction switches generalizing o with
  | nil =>
      have hwords : (ws.map fun w => (w, Reading.operand)).map (·.1) = ws :=
        (List.map_map ..).trans (List.map_id ws)
      rw [List.flatMap_nil, List.nil_append, ofReadings, hwords]
      rfl
  | cons switch rest ih =>
      rw [List.flatMap_cons, List.append_assoc, List.foldl_cons, ← ih]
      cases switch with
      | verbose => rfl
      | choice b => cases b <;> rfl

theorem onTopic_undashed {o : Options} (ho : o.strays = []) (topic : Topic) {values : List Text}
    (hlength : values.length = topic.fields.length) (hvalues : ∀ w ∈ values, Word.IsUndashed w) :
    onTopic o (Text.ofString topic.name) values =
      .ok ⟨o.verbosity, Request.ofTopic topic o.provider (values.map .text)⟩ := by
  have hoperands : values.map Fields.operandValue = values.map .text :=
    List.map_congr_left fun w hw => Word.operandValue_of_undashed (hvalues w hw)
  rw [onTopic, Topic.ofName?_name]
  simp only [Word.readAll_of_undashed _ values hvalues]
  rw [Fields.fill_operands topic topic.fields values hlength, hoperands]
  simp [bind, Except.bind, ho, pure, Except.pure]

/-- **Plain command lines.** A plain command line with a value for each field is accepted and means
what it says. -/
theorem parse_plain (switches : List Switch) (topic : Topic) {values : List Text}
    (hlength : values.length = topic.fields.length) (hvalues : ∀ w ∈ values, Word.IsUndashed w) :
    parse (plain switches topic values) = .ok (invocation switches topic values) := by
  have htopic : Word.IsUndashed (Text.ofString topic.name) := by cases topic <;> decide
  rw [parse, plain, Word.readAll_switches switches (List.forall_mem_cons.mpr ⟨htopic, hvalues⟩)]
  change ofReadings (_ ++ (_, .operand) :: _) Options.standard = _
  rw [ofReadings_switches, Options.standard, foldl_apply,
    onTopic_undashed rfl topic hlength hvalues, Nat.zero_add]
  rfl

end Invocation

end StateAddress
