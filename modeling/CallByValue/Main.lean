import CallByValue.CommandLine

/-!
# The program

Reads the command line, writes what the run wrote, and ends with its exit code.
-/

namespace CallByValue

/-- The exit code that a fault asks for, if it does. -/
def Fault.exitCode? : Fault → Option UInt32
  | .exit code => some (code.toNat?.getD 1).toUInt32
  | .derived _ base => base.exitCode?
  | _ => none

/-- The exit code of a run: zero when it ended well, the code it asked for, or else one. -/
def exitCode {α : Type} : Except Fault α → UInt32
  | .ok _ => 0
  | .error fault => fault.exitCode?.getD 1

end CallByValue

/-- Runs the program; reports are in colour on a terminal unless the user asks otherwise. -/
def main (arguments : List String) : IO UInt32 := do
  let color := (← IO.getEnv "NO_COLOR").isNone && (← (← IO.getStdout).isTty)
  let execution := CallByValue.CommandLine.execute color arguments
  IO.print (CallByValue.Event.output execution.run.notes)
  IO.eprint (CallByValue.Event.complaints execution.run.notes)
  return CallByValue.exitCode execution.run.outcome
