import StateAddress.CommandLine

/-!
# The program

Prints the state address of an entity, or the kind of entity of an address, as the command line
asks.
-/

namespace StateAddress

/-- A text on an output, which holds no surrogates. -/
def emit (stream : IO.FS.Stream) (t : Text) : IO Unit :=
  stream.putStr ((t.escapeSurrogates.toString?).getD "")

end StateAddress

open StateAddress

/-- Runs the program on a command line. -/
def main (args : List String) : IO UInt32 := do
  let clock ← IO.monoMsNow
  let transcript := CommandLine.run .expected (.stamped (Text.ofNat clock)) Scheme.standard
    Level.debug (args.map Text.ofString)
  emit (← IO.getStderr) transcript.errors
  emit (← IO.getStdout) transcript.output
  match transcript.ending with
  | .ok code => return UInt32.ofNat code
  | .error fault => do
      match fault.text with
      | .ok text => emit (← IO.getStderr) (fault.className ++ ": " ++ text ++ "\n")
      | .error _ => emit (← IO.getStderr) (fault.className ++ "\n")
      return 1
