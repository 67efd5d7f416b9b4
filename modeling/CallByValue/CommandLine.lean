import CallByValue.CommandLine.Options
import CallByValue.Text.Terminal

/-!
# The command line

The program takes the name of a sample, a limit on the depth of evaluation, and a switch that turns
colour off.

* `usage`, `helpText` — how the program is used;
* `execute` — reads the arguments, applies the options and runs the sample under a fatal handler.
-/

namespace CallByValue.CommandLine

/-! ## Texts -/

/-- How the program is used. -/
def usage : String :=
  "usage: lceval [-h] [--recursion-limit RECURSION_LIMIT] [--no-color]\n" ++
  "              [\x7barith,const,identity,unbound\x7d]"

/-- The answer to a call for help. -/
def helpText : String :=
  usage ++ "\n\n" ++
  "Evaluate a sample untyped lambda calculus program.\n\n" ++
  "positional arguments:\n" ++
  "  \x7barith,const,identity,unbound\x7d\n" ++
  "                        sample program to evaluate (default: identity)\n\n" ++
  "options:\n" ++
  "  -h, --help            show this help message and exit\n" ++
  "  --recursion-limit RECURSION_LIMIT\n" ++
  "                        python recursion limit to evaluate under\n" ++
  "  --no-color            disable colored error output"

/-- What is done about arguments that were not accepted. -/
def refuse {α : Type} : Refusal → Run Event α
  | .help => ⟨[.line helpText], .error (.exit "0")⟩
  | .misuse complaint =>
    ⟨[.complaint usage, .complaint ("lceval: error: " ++ complaint)], .error (.exit "2")⟩

/-! ## Execution -/

/-- The first number that is too large for a limit: two to the power of 31. -/
def limitBound : Int := 2147483648

/-- The calls that are under way when the limit is set; a limit has to exceed them. -/
def callsUnderWay : Int := 1

/-- The depth of evaluation that a limit allows. -/
def Limit.depth : Limit → Except Fault Nat
  | .dropped => .error (.host .limitNotANumber)
  | .number n =>
    if n < -limitBound || limitBound ≤ n then .error (.host .limitTooLarge)
    else if n < 1 then .error (.host .limitNotPositive)
    else if n ≤ callsUnderWay then .error .depthExceeded
    else .ok n.toNat

/-- What came of a call of the program. -/
structure Execution where
  /-- what it wrote, and how it ended -/
  run : Run Event (Option Value)
  /-- the limit on the depth of evaluation, if one was set -/
  limit : Option Nat
  /-- is colour still on? -/
  color : Bool

/-- Applies the options, colour first and then the limit, and runs the sample they ask for. -/
def executeOptions (color : Bool) (options : Options) : Execution :=
  let color := color && !options.noColor
  let handler : Handler := ⟨Text.terminal color, true⟩
  let found := Sample.find (options.sample.getD "identity")
  match options.limit.map Limit.depth with
  | none => ⟨Sample.runUnder defaultDepth handler found, none, color⟩
  | some (.ok depth) => ⟨Sample.runUnder depth handler found, some depth, color⟩
  | some (.error fault) => ⟨handler.guard (.fail fault), none, color⟩

/-- Runs the program on its arguments; `color` tells whether the terminal shows colour. -/
def execute (color : Bool) (arguments : List String) : Execution :=
  match parse arguments with
  | .error refusal => ⟨Handler.guard ⟨Text.terminal color, true⟩ (refuse refusal), none, color⟩
  | .ok options => executeOptions color options

end CallByValue.CommandLine
