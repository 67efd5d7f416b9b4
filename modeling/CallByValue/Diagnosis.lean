import CallByValue.Fault
import CallByValue.Text.Slice

/-!
# Pointing at the offending span

A report is shown as a line with its message and, where there is something to point at, two more
lines: the offending text with the **span** set off, and an underline of a caret and tildes below
it. Warnings and errors differ in their colour only. The underline is as long as the offsets of the
span say, so that there may be no room for it.

* `repeated` — a character so many times, if the count and the room for it allow that;
* `Report.diagnose` — the two lines that point at the span;
* `Report.print` — all that is printed for a report, and `Report.printWarning`, `Report.printError`.
-/

namespace CallByValue

/-- A character repeated; not at all when the count is negative. The count has to fit a machine
word, whatever its sign, and there has to be room for the characters. -/
def repeated (host : Text.Host) (count : Int) (c : Char) : Except HostError String :=
  if count < -Text.wordLimit ∨ Text.wordLimit ≤ count then .error .countTooLarge
  else if host.room < count.toNat then .error .noRoom
  else .ok (String.ofList (List.replicate count.toNat c))

namespace Report

/-- The column after the span that is pointed at: at least one character counts as the span. -/
def spanStop (r : Report) : Int := max r.stop 1

/-- The offending text with the span set off. -/
def textLine (host : Text.Host) (ink : Text.Ink) (r : Report) : String :=
  "  " ++ Text.upTo r.snippet r.start ++
    host.colored ink (Text.between r.snippet r.start r.spanStop) ++
    Text.onward r.snippet r.spanStop

/-- Without colour the offending text is shown as it is, if its span is not crossed. -/
theorem textLine_of_plain {host : Text.Host} (hoff : ∀ ink text, host.colored ink text = text)
    (ink : Text.Ink) {r : Report}
    (h : Text.place r.snippet.length r.start ≤ Text.place r.snippet.length r.spanStop) :
    r.textLine host ink = "  " ++ r.snippet := by
  have hparts := Text.upTo_between_onward h
  rw [String.append_assoc] at hparts
  rw [textLine, hoff, String.append_assoc, String.append_assoc, hparts]

/-- The underline: a caret at the start of the span, and tildes up to its end. -/
def underline (host : Text.Host) (ink : Text.Ink) (r : Report) : Except HostError String := do
  let blanks ← repeated host r.start ' '
  let tildes ← repeated host (r.spanStop - r.start - 1) '~'
  return "  " ++ blanks ++ host.colored ink ("^" ++ tildes)

/-- The offending text, and the underline below it. -/
def diagnose (host : Text.Host) (ink : Text.Ink) (r : Report) : Except HostError String := do
  let below ← r.underline host ink
  return r.textLine host ink ++ "\n" ++ below

/-- Is there something to point at? -/
def isPointed (r : Report) : Bool := !r.internal && r.snippet ≠ "" && r.diagnosis

/-- What is printed for a report behind a `label`: the message first, and then the lines that point
at the span. -/
def print (host : Text.Host) (ink : Text.Ink) (label : String) (r : Report) : Run Event Unit := do
  Event.print [label ++ r.message host]
  if r.isPointed then
    let lines ← .ofExcept (r.diagnose host ink)
    Event.print [lines]

/-- Prints a warning. -/
def printWarning (host : Text.Host) (r : Report) : Run Event Unit :=
  r.print host .magenta (host.colored .magenta "warning: ")

/-- Prints an error. -/
def printError (host : Text.Host) (r : Report) : Run Event Unit :=
  let origin := if r.internal then host.colored .red "[internal] " else ""
  r.print host .red (origin ++ host.colored .red "error: ")

end Report

/-- The lines that point at the span of a fault, in the colour of a warning or of an error. Only a
fault that is reported in words of the calculus has a span. -/
def Fault.diagnose (host : Text.Host) (warning : Bool) (fault : Fault) :
    Except HostError String :=
  match fault.report? with
  | some r => r.diagnose host (if warning then .magenta else .red)
  | none => .error (.notAReport fault.className "expr")

end CallByValue
