import StateAddress.CommandLine.Usage

/-!
# Invocations

A command line that is accepted asks for one request, at a verbosity.  Options of the program
stand before the topic; the first operand names it, and all later words belong to the topic,
which knows the option for help only.  Operands fill the fields of the topic from left to right.
What is left over is refused at the end, after anything that is missing.

## Main definitions

* `Invocation` : a verbosity and a request.
* `Stop` : an early end, with a help text or a usage error.
* `Fields.fill` : the fields of a topic from the words after it.
* `Invocation.parse` : the invocation of a command line.

## Main results

* `Fields.fill_operands` : as many operands as there are fields fill them in order.
-/

namespace StateAddress

/-- An early end of a command line, at the program or at a topic. -/
inductive Stop where
  | help (place : Option Topic)
  | refused (place : Option Topic) (e : UsageError)
  deriving Repr

/-! ### Fields of a topic -/

/-- The values of fields so far, and the words that are left over. -/
structure Fields where
  values : List Value
  strays : List Text
  deriving Repr

namespace Fields

/-- The options that are known after a topic. -/
def table : FlagTable := [(Text.ofString "-h", .help), (Text.ofString "--help", .help)]

/-- The value of a lone operand.  One that is written as the separator disappears, and nothing
is left of it. -/
def operandValue (w : Text) : Value := if w = Word.separator then .list [] else .text w

/-- One more value in front. -/
def withValue (v : Value) (f : Fields) : Fields := { f with values := v :: f.values }

/-- More words in front that are left over. -/
def withStrays (ws : List Text) (f : Fields) : Fields := { f with strays := ws ++ f.strays }

/-- The end at a topic that an option brings about. -/
def stop (topic : Topic) (f : Flag) (name : Text) : Option Text → Stop
  | none => .help topic
  | some value =>
      match f.withValue table name value with
      | .ok _ => .help topic
      | .error e => .refused topic e

/-- The fields of a topic, of which those of the given names are still open. -/
def fill (topic : Topic) : (names : List String) → List (Text × Reading) → Except Stop Fields
  | names, [] =>
      if names.isEmpty then .ok ⟨[], []⟩ else .error (.refused topic (.missingArguments names))
  | names, (w, .unknown) :: rest => (fill topic names rest).map (withStrays [w])
  | _, (_, .flag f name attached) :: _ => .error (stop topic f name attached)
  | [], (w, _) :: rest => (fill topic [] rest).map (withStrays [w])
  | _ :: names, (w, .operand) :: (_, .separator) :: rest =>
      (fill topic names rest).map (withValue (operandValue w))
  | _ :: names, (w, .operand) :: rest =>
      (fill topic names rest).map (withValue (operandValue w))
  | _ :: names, (_, .separator) :: (w, .operand) :: rest =>
      (fill topic names rest).map (withValue (.text w))
  | names, (w, .separator) :: rest => (fill topic names rest).map (withStrays [w])

/-- As many operands as there are fields fill them in order. -/
theorem fill_operands (topic : Topic) : (names : List String) → (ws : List Text) →
    ws.length = names.length →
    fill topic names (ws.map fun w => (w, .operand)) = .ok ⟨ws.map operandValue, []⟩
  | [], [], _ => rfl
  | [], _ :: _, h => by simp at h
  | _ :: _, [], h => by simp at h
  | _ :: names, [w], h => by
      have hn : names = [] := by simpa using h
      subst hn
      rfl
  | name :: names, w :: v :: ws, h => by
      have ih := fill_operands topic names (v :: ws) (by simpa using h)
      have step : fill topic (name :: names)
          ((w, .operand) :: (v, .operand) :: ws.map fun u => (u, .operand)) =
          (fill topic names ((v, .operand) :: ws.map fun u => (u, .operand))).map
            (withValue (operandValue w)) := by
        rw [fill]
        simp
      simp only [List.map_cons] at ih ⊢
      rw [step, ih]
      rfl

end Fields

/-! ### The program -/

/-- A request at a verbosity. -/
structure Invocation where
  verbosity : Nat
  request : Request
  deriving Repr

/-- The options seen so far. -/
structure Options where
  verbosity : Nat
  provider : Value
  strays : List Text
  deriving Repr

namespace Options

/-- The options that are known before a topic. -/
def table : FlagTable :=
  [(Text.ofString "-h", .help), (Text.ofString "--help", .help),
    (Text.ofString "-v", .verbose), (Text.ofString "--verbose", .verbose),
    (Text.ofString "--hash", .hash)]

/-- The options where none is given. -/
def standard : Options := ⟨0, .ofString Provider.Builtin.sha512.name, []⟩

/-- An error in the options of the program. -/
def refuse {α : Type} (e : UsageError) : Except Stop α := .error (.refused none e)

/-- The options after flags without a value, in order. -/
def switch : List Flag → Options → Except Stop Options
  | [], o => .ok o
  | .verbose :: rest, o => switch rest { o with verbosity := o.verbosity + 1 }
  | .help :: _, _ => .error (.help none)
  | .hash :: _, _ => refuse (.missingValue Flag.hash.title)

/-- The options after the choice of a hash provider. -/
def choose (name : Text) (o : Options) : Except Stop Options :=
  if Provider.Builtin.names.any fun p => Text.ofString p = name then
    .ok { o with provider := .text name }
  else refuse (.invalidChoice Flag.hash.title name Provider.Builtin.names)

/-- The options after a choice written behind an equals sign.  One that is written as the
separator disappears, and nothing is left of it. -/
def chooseAttached (name : Text) (o : Options) : Except Stop Options :=
  if name = Word.separator then .ok { o with provider := .list [] } else choose name o

/-- The options after a word with a value attached. -/
def attach (f : Flag) (name value : Text) (o : Options) : Except Stop Options :=
  if f.takesValue then o.chooseAttached value
  else match f.withValue table name value with
    | .ok flags => switch flags o
    | .error e => refuse e

end Options

namespace Invocation

/-- The name of the argument that names the topic. -/
def topicArgument : String := "entity"

/-- The invocation on the topic of a name, with the words after it. -/
def onTopic (o : Options) (name : Text) (rest : List Text) : Except Stop Invocation :=
  match Topic.ofName? name with
  | none => Options.refuse (.invalidChoice topicArgument name (Topic.all.map Topic.name))
  | some topic =>
      match Word.readAll Fields.table rest with
      | .error e => .error (.refused topic e)
      | .ok readings => do
          let fields ← Fields.fill topic topic.fields readings
          let strays := o.strays ++ fields.strays
          if strays.isEmpty then
            return ⟨o.verbosity, Request.ofTopic topic o.provider fields.values⟩
          else
            Options.refuse (.unrecognized strays)

/-- The invocation of words that have been read, with the options seen before them. -/
def ofReadings : List (Text × Reading) → Options → Except Stop Invocation
  | [], _ => Options.refuse (.missingArguments [topicArgument])
  | (w, .operand) :: rest, o => onTopic o w (rest.map (·.1))
  | [(_, .separator)], _ => Options.refuse (.missingArguments [topicArgument])
  | (w, .separator) :: rest, o => onTopic o w (rest.map (·.1))
  | (w, .unknown) :: rest, o => ofReadings rest { o with strays := o.strays ++ [w] }
  | (_, .flag f name (some value)) :: rest, o => do
      let o' ← o.attach f name value
      ofReadings rest o'
  | (_, .flag .hash _ none) :: (w, .operand) :: rest, o => do
      let o' ← o.choose w
      ofReadings rest o'
  | (_, .flag f _ none) :: rest, o => do
      let o' ← Options.switch [f] o
      ofReadings rest o'

/-- The invocation of a command line. -/
def parse (ws : List Text) : Except Stop Invocation :=
  match Word.readAll Options.table ws with
  | .error e => Options.refuse e
  | .ok readings => ofReadings readings Options.standard

end Invocation

end StateAddress
