import StateAddress.CommandLine.Usage
import StateAddress.Fault

/-!
# Consoles

The events of the work are printed by a console, which another library sets up for the program.
Nothing about it is fixed here: it is set up at a verbosity, which may fail, and prints something
of the events on either output.  What is expected of it is a hypothesis,
`Console.PrintsOnErrors`.

## Main definitions

* `Console` : what prints the events of the work, and `Console.PrintsOnErrors` : what is expected.
* `Console.stamped` : a console that prints each event on a line of its own.
-/

namespace StateAddress

/-- What is printed on the two outputs. -/
structure Printed where
  output : Text
  errors : Text
  deriving Repr

/-- What prints the events of the work. -/
structure Console where
  /-- What is printed of events after the console has been set up at a verbosity, or how that
  fails. -/
  setUp : (verbosity : Nat) → Except Fault (List Event → Printed)

namespace Console

/-- What is expected of a console: it is set up at any verbosity, and it leaves the output alone. -/
def PrintsOnErrors (console : Console) : Prop :=
  ∀ verbosity, ∃ print, console.setUp verbosity = .ok print ∧ ∀ events, (print events).output = []

/-! ### Lines under a time stamp -/

/-- The level from which on events are printed at a verbosity. -/
def levelOf : (verbosity : Nat) → Level
  | 0 => Level.warning
  | 1 => Level.info
  | _ => Level.debug

/-- The line of an event, under a time stamp. -/
def eventLine (stamp : Text) (e : Event) : Text :=
  "[" ++ stamp ++ " " ++ Usage.padded 8 e.severityName ++ " " ++ e.source ++ "] " ++ e.message ++
    "\n"

/-- The lines of the events that are severe enough for a verbosity. -/
def lines (stamp : Text) (verbosity : Nat) (events : List Event) : Text :=
  (events.filter (·.isRecorded (levelOf verbosity))).flatMap (eventLine stamp)

/-- The console that prints each event on a line of its own, under a time stamp, on the errors. -/
def stamped (stamp : Text) : Console :=
  ⟨fun verbosity => .ok fun events => ⟨[], lines stamp verbosity events⟩⟩

theorem printsOnErrors_stamped (stamp : Text) : (stamped stamp).PrintsOnErrors :=
  fun _ => ⟨_, rfl, fun _ => rfl⟩

end Console

end StateAddress
