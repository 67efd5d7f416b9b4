import CallByValue.Run

/-!
# Faults

What is known about a **fault**: its class, what it says, and its report if it is one that is told
to the user in words of the calculus. Whoever raises a fault gives a **cause**, which is the fault
itself or a notice to build it from. A fault has to be put into words when it is raised; where that
cannot be done, the obstacle is raised in its place.

* `Fault.report?`, `Fault.className`, `Fault.message` — what is known about a fault;
* `Fault.words` — its words, or the fault that asking for them ends in;
* `Fault.worded` — what is raised when a fault has to be put into words;
* `Cause.build`, `Cause.outcome` — the fault that comes of a cause.
-/

namespace CallByValue

namespace Fault

/-! ## Reports -/

/-- The notice of a variable without a binding. -/
def unboundNotice : Notice := { template := "unbound variable '{}'", diagnosis := false }

/-- The notice of something applied that is not a function. -/
def notApplicableNotice : Notice :=
  { template := "'{}' is not a function and cannot be applied", diagnosis := false }

/-- The report of a fault that is reported to the user in words of the calculus. A derived class
keeps the report of the class that it was derived from. -/
def report? : Fault → Option Report
  | .unbound name => some (unboundNotice.reportOf name [])
  | .notApplicable value =>
    some { notApplicableNotice.reportOf value.display [] with obstacle? := value.obstacle? }
  | .report r => some r
  | .derived _ base => base.report?
  | _ => none

/-! ## Classes and words -/

/-- The name under which a fault's class is known. -/
def className : Fault → String
  | .unbound _ => "UnboundVariable"
  | .notApplicable _ => "NotApplicable"
  | .report _ => "GenericException"
  | .depthExceeded => "RecursionError"
  | .interrupted _ => "KeyboardInterrupt"
  | .exit _ => "SystemExit"
  | .host error => error.errorClass.name
  | .unspeakable errorClass _ => errorClass.name
  | .derived name _ => name

/-- What a fault says that is no report. -/
def detail : Fault → String
  | .interrupted detail => detail
  | .exit code => code
  | .host error => error.message
  | .derived _ base => base.detail
  | _ => ""

/-- What a fault says, without colour. -/
def message (host : Text.Host) (fault : Fault) : String :=
  match fault.report? with
  | some r => r.message host.uncolored
  | none => fault.detail

/-- The words of a fault, or the fault that asking for them ends in. -/
def words (host : Text.Host) : Fault → Except Fault String
  | .unspeakable _ instead => .error instead
  | .derived _ base => base.words host
  | fault => .ok (fault.message host)

/-! ## Raising -/

/-- The end of the program with a datum as its exit code, if one is given. -/
def ofExitCode : Option (Datum Term) → Fault
  | none => .exit ""
  | some datum => .exit datum.display

/-- The error of a class that a host function raises with an argument, if it gives one. A missing
key is shown in quotes. The argument may nest `depth` deep where it is shown. -/
def ofArgument (depth : Nat) (errorClass : ErrorClass) : Option (Datum Term) → Fault
  | none => .host (.raised errorClass "")
  | some datum =>
    let shown :=
      if errorClass = .keyError then datum.dumpWithin depth else datum.displayWithin depth
    match shown with
    | .ok text => .host (.raised errorClass text)
    | .error limit => .unspeakable errorClass (Obstacle.ofLimit limit).fault

/-- What keeps a fault from being put into words when it is raised, where nesting may go `depth`
deep. -/
def obstacle? (depth : Nat) (fault : Fault) : Option Obstacle :=
  match fault.report?, fault with
  | some r, _ => r.obstacle? depth
  | none, .host (.notATerm datum) => match datum.dumpWithin depth with
    | .ok _ => none
    | .error limit => some (.ofLimit limit)
  | none, _ => none

/-- What is raised when a fault has to be put into words, where nesting may go `depth` deep: the
fault, or else what keeps it from that. -/
def worded (depth : Nat) (fault : Fault) : Fault :=
  match fault.obstacle? depth with
  | none => fault
  | some obstacle => obstacle.fault

end Fault

/-- The run with its fault put into words, where nesting may go `depth` deep. -/
def Run.worded {ω α : Type} (depth : Nat) (run : Run ω α) : Run ω α :=
  ⟨run.notes, run.outcome.mapError (Fault.worded depth)⟩

/-! ## Causes -/

/-- Why something is raised. -/
inductive Cause where
  /-- a fault that is known -/
  | fault (f : Fault)
  /-- a report that is still to be built -/
  | notice (n : Notice)

/-- The fault that a cause describes, where texts may nest `depth` deep and are shown by the means
of a host. -/
def Cause.build (host : Text.Host) (depth : Nat) : Cause → Except Obstacle Fault
  | .fault f => match f.obstacle? depth with
    | none => .ok f
    | some obstacle => .error obstacle
  | .notice n => (n.report host depth).map .report

/-- The fault that comes of a cause: the one it describes, or what keeps that from being built. -/
def Cause.outcome (host : Text.Host) (depth : Nat) (cause : Cause) : Fault :=
  match cause.build host depth with
  | .ok f => f
  | .error obstacle => obstacle.fault

end CallByValue
