import CallByValue.Diagnosis
import CallByValue.Evaluator

/-!
# Handlers of faults

A **handler** stands around a piece of a program and reports the faults that reach it. A fatal
handler then ends the program; any other one lets it go on behind the handler, unless the fault is
one that the handler does not know, which is passed on. A program that was told to end is not held
up. What goes wrong in reporting leaves the handler, whatever it is.

* `Handler.warn`, `Handler.throw` — report a warning or an error on the spot;
* `Handler.guard` — runs a program under a handler;
* `Script` — programs of printing, warning, raising, evaluating and **nested** handlers.
-/

namespace CallByValue

/-- A handler of faults. -/
structure Handler where
  /-- by whose means are reports shown? -/
  host : Text.Host
  /-- does an error end the program? -/
  fatal : Bool

namespace Handler

/-- Reports a warning, whose snippets may nest `depth` deep. -/
def warn (depth : Nat) (h : Handler) (notice : Notice) : Run Event Unit := do
  let r ← .ofText (notice.report h.host depth)
  r.printWarning h.host

/-- Reports an error, and ends the program if the handler is fatal. -/
def report (h : Handler) (r : Report) : Run Event Unit := do
  r.printError h.host
  if h.fatal then .fail (.exit "1")

/-- Reports a fault in words of the calculus. Others cannot be reported so, which is an error of
the host. -/
def throw (h : Handler) (fault : Fault) : Run Event Unit :=
  match fault.report? with
  | some r => h.report r
  | none => .fail (.host (.notAReport fault.className "internal"))

/-- The notice of an interruption. -/
def interruptNotice : Notice := { template := "keyboard interrupt" }

/-- The notice that the limit on depth was reached. -/
def depthNotice : Notice := { template := "maximum recursion depth exceeded (term may diverge)" }

/-- The notice of any other fault. -/
def unknownNotice : Notice := { template := "unknown error: '{}'", internal := true }

/-- The report of a fault that is none of the calculus, with its class and its words. -/
def unknownError (fault : Fault) (words : String) : Report :=
  unknownNotice.reportOf (fault.className ++ ": " ++ words) []

/-- Reports a fault that is none of the calculus and passes it on, unless the handler is fatal.
Asking the fault for its words can end in another one. -/
def passOn (h : Handler) (fault : Fault) : Run Event Unit :=
  match fault.words h.host with
  | .error instead => .fail instead
  | .ok words => do
    h.report (unknownError fault words)
    .fail fault

/-- What a handler does about a fault. It ends well when the program goes on behind the handler.
Only the very classes of an exit, an interruption and the limit on depth are told apart from others,
but any class that was derived from one of the calculus is reported like that. -/
def answer (h : Handler) : Fault → Run Event Unit
  | .exit code => .fail (.exit code)
  | .interrupted _ => h.report (interruptNotice.reportOf "" [])
  | .depthExceeded => h.report (depthNotice.reportOf "" [])
  | fault => match fault.report? with
    | some r => h.report r
    | none => h.passOn fault

/-- Runs a program under a handler. The result is missing when the program ended in a fault and the
handler lets things go on. -/
def guard {α : Type} (h : Handler) (program : Run Event α) : Run Event (Option α) :=
  match program.outcome with
  | .ok a => ⟨program.notes, .ok (some a)⟩
  | .error fault =>
    let answered := h.answer fault
    ⟨program.notes ++ answered.notes, answered.outcome.map fun _ => none⟩

end Handler

/-! ## Scripts -/

/-- One step of a script. -/
inductive Act where
  /-- prints a line -/
  | print (text : String)
  /-- reports a warning through the handler -/
  | warn (notice : Notice)
  /-- reports a fault through the handler -/
  | throw (cause : Cause)
  /-- raises a fault -/
  | raise (cause : Cause)
  /-- evaluates a term and prints its value -/
  | evaluate (env : Env) (term : Term)

/-- What a step does under a handler, where evaluation and texts may nest `depth` deep. What keeps a
report from being built is raised in its place. -/
def Act.run (depth : Nat) (h : Handler) : Act → Run Event Unit
  | .print text => Event.print [text]
  | .warn notice => h.warn depth notice
  | .throw cause => do
    let fault ← .ofText (cause.build h.host depth)
    h.throw fault
  | .raise cause => .fail (cause.outcome h.host depth)
  | .evaluate env term => do
    let value ← ((CallByValue.evaluate depth env term).mapNotes .call).worded depth
    let shown ← .ofText (value.renderWithin depth)
    Event.print [shown]

/-- A program of steps and nested handlers. -/
inductive Script where
  /-- nothing more -/
  | done
  /-- a step, and what follows it -/
  | step (act : Act) (rest : Script)
  /-- a script under a handler of its own, and what follows that handler -/
  | guarded (fatal : Bool) (body : Script) (rest : Script)

/-- What a script does under a handler, where evaluation may nest `depth` deep. A step that ends in
a fault ends the script. -/
def Script.run (depth : Nat) (h : Handler) : Script → Run Event Unit
  | .done => pure ()
  | .step act rest => do
    act.run depth h
    rest.run depth h
  | .guarded fatal body rest => do
    let inner : Handler := { h with fatal := fatal }
    let _ ← inner.guard (body.run depth inner)
    rest.run depth h

end CallByValue
