import StateAddress.CommandLine.Word
import StateAddress.Request

/-!
# Help texts

What the command line prints about itself: one text for the program and one for each topic.
The usage lines at the head of a help text also stand before every usage error.

## Main definitions

* `Usage.lines`, `Usage.help` : the usage and the whole help text of a topic, or of the program.
* `Usage.refusal` : a usage error as it is printed.
-/

namespace StateAddress

namespace Usage

/-- The name of the program. -/
def program : String := "sabre-address"

/-- Lines of text, each with its end. -/
def unlines (ls : List Text) : Text := ls.flatMap fun l => l ++ [.scalar '\n']

/-- A text filled up with spaces to a width. -/
def padded (width : Nat) (t : Text) : Text :=
  t ++ List.replicate (width - t.length) (.scalar ' ')

/-- Names as alternatives: between braces, separated by commas. -/
def choice (names : List String) : Text :=
  "\x7b" ++ List.intercalate "," (names.map Text.ofString) ++ "\x7d"

/-- The names of the topics as alternatives. -/
def topicChoice : Text := choice (Topic.all.map Topic.name)

/-- The names of the hash providers as alternatives. -/
def providerChoice : Text := choice Provider.Builtin.names

/-- What a topic is about. -/
def summary : Topic → String
  | .namespaceRegistry => "namespace registry address"
  | .contractRegistry => "contract registry address"
  | .contract => "contract address"
  | .smartPermission => "smart permission address"
  | .agent => "pike agent address"
  | .organization => "pike organization address"
  | .setting => "on-chain setting address"
  | .classification => "identify the entity type of an address"

/-- What the fields of a topic hold. -/
def fieldSummaries (s : Scheme) : Topic → List Text
  | .namespaceRegistry => ["namespace, at least 6 characters"]
  | .contractRegistry => ["contract name"]
  | .contract => ["contract name", "contract version"]
  | .smartPermission => ["organization id", "smart permission name"]
  | .agent => ["agent's name, usually its public key"]
  | .organization => ["organization id"]
  | .setting => ["setting key, e.g. '" ++ (s .administratorsKey).displayed ++ "'"]
  | .classification => ["70 character hex address"]

/-- The name that a parser goes by. -/
def programOf : Option Topic → Text
  | none => program
  | some topic => program ++ " " ++ topic.name

/-- The usage lines of the program or of a topic. -/
def lines : Option Topic → List Text
  | none =>
      ["usage: " ++ program ++ " [-h] [-v] [--hash " ++ providerChoice ++ "]",
        "                     " ++ topicChoice,
        "                     ..."]
  | some topic =>
      ["usage: " ++ programOf (some topic) ++ " [-h] " ++
        List.intercalate " " (topic.fields.map Text.ofString)]

/-- The lines that introduce the topics and the options of the program. -/
def programIntroduction : List Text :=
  ["", "Compute state addresses for Sabre and Pike entities.", "", "options:",
    "  -h, --help            show this help message and exit",
    "  -v, --verbose         enable more verbose output",
    "  --hash " ++ providerChoice,
    "                        hash provider used to derive the address",
    "", "entities:", "  " ++ topicChoice]

/-- The help text of the program after its usage. -/
def programHelp : List Text :=
  programIntroduction ++
    Topic.all.map fun topic => "    " ++ padded 20 topic.name ++ summary topic

/-- The lines on the fields of a topic. -/
def fieldLines (s : Scheme) (topic : Topic) : List Text :=
  (topic.fields.zip (fieldSummaries s topic)).map fun entry =>
    "  " ++ padded 10 entry.1 ++ "  " ++ entry.2

/-- The lines on the one option of a topic. -/
def topicOptions : List Text :=
  ["", "options:", "  -h, --help  show this help message and exit"]

/-- The lines that introduce the fields of a topic. -/
def topicIntroduction : List Text := ["", "positional arguments:"]

/-- The help text of a topic after its usage. -/
def topicHelp (s : Scheme) (topic : Topic) : List Text :=
  topicIntroduction ++ fieldLines s topic ++ topicOptions

/-- The help text of the program or of a topic. -/
def help (s : Scheme) : Option Topic → Text
  | none => unlines (lines none ++ programHelp)
  | some topic => unlines (lines (some topic) ++ topicHelp s topic)

/-- A usage error as it is printed. -/
def refusal (place : Option Topic) (e : UsageError) : Text :=
  unlines (lines place ++ [programOf place ++ ": error: " ++ e.message])

end Usage

end StateAddress
