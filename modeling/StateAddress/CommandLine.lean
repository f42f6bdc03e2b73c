import StateAddress.CommandLine.Console
import StateAddress.CommandLine.Invocation

/-!
# The command line

The program prints the line that answers the request of its command line.  An address error is
printed as such and gives the exit code 1; a refused command line gives 2.  The events of the
work are printed before that, by a console that is set up when the command line has been read.

## Main definitions

* `Transcript` : the exit code, the two outputs and the events recorded.
* `CommandLine.report` : what the program says about the answer to a request.
* `CommandLine.run` : what the program does with a command line.
-/

namespace StateAddress

/-- What the program leaves behind.  A fault that is no address error leaves the program in place
of an exit code. -/
structure Transcript where
  ending : Except Fault Nat
  output : Text
  errors : Text
  /-- The events recorded, whether they are printed or not. -/
  events : List Event
  deriving Repr

namespace CommandLine

variable (library : Pycryptodome) (console : Console)

/-- The exit code for the answer to a request, and what is printed about it. -/
def report : Except Fault Text → Except Fault Nat × Printed
  | .ok line => (.ok 0, ⟨line ++ "\n", []⟩)
  | .error fault =>
      if fault.addressError?.isSome then
        match fault.text with
        | .ok text => (.ok 1, ⟨[], "error: " ++ text ++ "\n"⟩)
        | .error failure => (.error (.raised failure), ⟨[], []⟩)
      else (.error fault, ⟨[], []⟩)

/-- What the program does about a request. -/
def serve (s : Scheme) (level : Level) (invocation : Invocation) : Transcript :=
  match console.setUp invocation.verbosity with
  | .error fault => ⟨.error fault, [], [], []⟩
  | .ok print =>
      let outcome := (invocation.request.answer library : Operation Unit Text).run ⟨s, level⟩ ()
      let printed := print outcome.events
      let (ending, reported) := report outcome.result
      ⟨ending, printed.output ++ reported.output, printed.errors ++ reported.errors,
        outcome.events⟩

/-- What the program does about an early end. -/
def conclude (s : Scheme) : Stop → Transcript
  | .help place => ⟨.ok 0, Usage.help s place, [], []⟩
  | .refused place e => ⟨.ok 2, [], Usage.refusal place e, []⟩

/-- What the program does with a command line, under a scheme and with a level of recording.
Surrogates are spelled out among the errors. -/
def run (s : Scheme) (level : Level) (ws : List Text) : Transcript :=
  let transcript :=
    match Invocation.parse ws with
    | .ok invocation => serve library console s level invocation
    | .error stop => conclude s stop
  { transcript with errors := transcript.errors.escapeSurrogates }

end CommandLine

end StateAddress
