import CallByValue.Report

/-!
# Values, environments and faults

Evaluation turns terms into **values** under an **environment**, or ends in a **fault**. The four
types below know each other: a closure keeps the environment it was made in, an environment binds
names to values, a host function does an action, and an action may raise a fault that holds a value.

* `Look` — what a host function can see of its argument;
* `Env.bindings`, `Env.lookup` — an environment as a list, newest binding first, and the search in
  it; a name that is bound to nothing counts as **unbound**;
* `Value.display` — the text of a value, and `Value.render` the short form that hides captured
  environments; with a limit on depth these are `Value.displayWithin` and `Value.renderWithin`;
* `Obstacle.fault` — the fault that comes of an obstacle to a text;
* `Value.beq`, `Env.beq` — equality, where host functions are told apart by their names alone.
-/

namespace CallByValue

/-- What a host function can see of its argument. -/
inductive Look where
  /-- a closure, of this parameter and this body -/
  | closure (param : String) (body : Term)
  /-- a function of the host that has this name -/
  | primitive (name : String)
  /-- a constant with this datum -/
  | constant (datum : Datum Term)
  /-- an object that is no value -/
  | foreign (datum : Datum Term)

mutual

/-- What evaluation produces, and what a host may bind to a name. -/
inductive Value where
  /-- a function: the body of an abstraction and the environment it was met in -/
  | closure (env : Env) (param : String) (body : Term)
  /-- a function of the host -/
  | primitive (name : String) (action : Action)
  /-- a datum of the host, which cannot be applied -/
  | constant (datum : Datum Term)
  /-- an object of the host that is no value at all -/
  | foreign (datum : Datum Term)

/-- Bindings of names to values, each layered on those before it. -/
inductive Env where
  /-- no bindings -/
  | empty
  /-- one more binding, which hides those of the same name -/
  | extend (parent : Env) (name : String) (value : Value)

/-- What a host function does with its argument. -/
inductive Action where
  /-- adds one to an integer constant -/
  | successor
  /-- notes the argument and gives it back -/
  | spy
  /-- gives the same result whatever the argument -/
  | always (result : Value)
  /-- applies the argument to a value -/
  | callWith (value : Value)
  /-- raises a fault -/
  | fail (fault : Fault)
  /-- does whatever it chooses to, after a look at the argument -/
  | inspect (choose : Look → Action)
  /-- does one thing, and another one with the result of that -/
  | andThen (first next : Action)

/-- How evaluation can fail. -/
inductive Fault where
  /-- a variable without a binding -/
  | unbound (name : String)
  /-- something applied that is not a function -/
  | notApplicable (value : Value)
  /-- any other failure that is reported to the user -/
  | report (report : Report)
  /-- evaluation nested deeper than its limit -/
  | depthExceeded
  /-- the user interrupted the program -/
  | interrupted (detail : String)
  /-- the program was told to end, with this exit code -/
  | exit (code : String)
  /-- an error of the host -/
  | host (error : HostError)
  /-- an error of the host that cannot be put into words, and the fault that trying to ends in -/
  | unspeakable (errorClass : ErrorClass) (instead : Fault)
  /-- a fault like another one, of a class of its own that was derived from that one's class -/
  | derived (name : String) (base : Fault)

end

/-! ## Environments -/

namespace Env

/-- The bindings from newest to oldest, hidden ones included. -/
def bindings : Env → List (String × Value)
  | .empty => []
  | .extend parent name value => (name, value) :: parent.bindings

/-- The bound names from newest to oldest. -/
def names (env : Env) : List String := env.bindings.map Prod.fst

/-- The environment that binds the given names, oldest first. -/
def ofBindings (bindings : List (String × Value)) : Env :=
  bindings.foldl (fun env (name, value) => env.extend name value) .empty

/-- The environment below the newest binding. -/
def parent? : Env → Option Env
  | .empty => none
  | .extend parent _ _ => some parent

/-- Are there no bindings? -/
def isEmpty : Env → Bool
  | .empty => true
  | .extend .. => false

/-- The newest binding of a name. -/
def find? (name : String) : Env → Option Value
  | .empty => none
  | .extend parent bound value => if bound = name then some value else parent.find? name

/-- The value of a name: that of its newest binding, unless that binds it to nothing. -/
def lookup (env : Env) (name : String) : Option Value :=
  match env.find? name with
  | some (.foreign .null) => none
  | found => found

/-- The text of an environment, which shows the names only. -/
def display (env : Env) : String :=
  "Environment([" ++ String.intercalate ", " env.names ++ "])"

@[simp] theorem bindings_empty : empty.bindings = [] := rfl

@[simp] theorem bindings_extend (env : Env) (name : String) (value : Value) :
    (env.extend name value).bindings = (name, value) :: env.bindings := rfl

@[simp] theorem lookup_empty (name : String) : empty.lookup name = none := rfl

/-- The newest binding is found first. -/
theorem find?_extend_self (env : Env) (name : String) (value : Value) :
    (env.extend name value).find? name = some value := by
  simp [find?]

/-- A binding does not disturb the other names. -/
@[simp] theorem lookup_extend_ne (env : Env) {name other : String} (value : Value) (h : name ≠ other) :
    (env.extend name value).lookup other = env.lookup other := by
  simp [lookup, find?, h]

end Env

/-! ## Texts of values -/

namespace Value

/-- Is it a value of the calculus, and not a foreign object? -/
def isProper : Value → Bool
  | .foreign _ => false
  | _ => true

/-- The full text of a value. Captured environments show their names. -/
def display : Value → String
  | .closure env param body =>
    "Closure(env=" ++ env.display ++ ", var=" ++ Text.quote param ++ ", body=" ++ body.dump ++ ")"
  | .primitive name _ => "<primitive " ++ name ++ ">"
  | .constant datum => datum.display
  | .foreign datum => datum.display

/-- The short text of a value, in which captured environments are not shown. -/
def render : Value → Except HostError String
  | .closure _ param body => do
    return "Closure(λ" ++ param ++ ". " ++ (← body.render) ++ ")"
  | value => .ok value.display

/-- The full text of a value, where nesting may go `depth` deep. -/
def displayWithin (depth : Nat) : Value → Except Text.Limit String
  | .closure env param body => match depth with
    | 0 => .error .depth
    | depth + 1 => do
      return "Closure(env=" ++ env.display ++ ", var=" ++ Text.quote param ++ ", body=" ++
        (← body.dumpWithin depth) ++ ")"
  | .primitive name _ => .ok ("<primitive " ++ name ++ ">")
  | .constant datum => datum.displayWithin depth
  | .foreign datum => datum.displayWithin depth

/-- Within the limits, the full text is that of the value. -/
theorem eq_display {depth : Nat} {value : Value} {s : String}
    (h : value.displayWithin depth = .ok s) : s = value.display := by
  cases value with
  | closure env param body =>
    cases depth with
    | zero => cases h
    | succ depth =>
      obtain ⟨shown, hb, h⟩ := ok_of_bind h
      obtain rfl := Term.eq_dump hb
      exact (Except.ok.inj h).symm
  | primitive name action => exact (Except.ok.inj h).symm
  | constant datum => exact Datum.eq_display h
  | foreign datum => exact Datum.eq_display h

/-- The short text of a value, where nesting may go `depth` deep. -/
def renderWithin : (depth : Nat) → Value → Except Obstacle String
  | 0, _ => .error .tooDeep
  | depth + 1, .closure _ param body => do
    return "Closure(λ" ++ param ++ ". " ++ (← body.renderWithin depth) ++ ")"
  | depth + 1, value => (value.displayWithin depth).mapError Obstacle.ofLimit

/-- What keeps a value from being shown in full, where nesting may go `depth` deep. -/
def obstacle? (value : Value) (depth : Nat) : Option Obstacle :=
  match value.displayWithin depth with
  | .ok _ => none
  | .error limit => some (.ofLimit limit)

/-- What a host function can see of a value. -/
def look : Value → Look
  | .closure _ param body => .closure param body
  | .primitive name _ => .primitive name
  | .constant datum => .constant datum
  | .foreign datum => .foreign datum

/-- The name of a value's kind. -/
def kindName : Value → String
  | .closure .. => "Closure"
  | .primitive .. => "Primitive"
  | .constant _ => "Constant"
  | .foreign datum => datum.kindName

/-- The environment that a closure captured. -/
def captured : Value → Except HostError Env
  | .closure env _ _ => .ok env
  | value => .error (.noEnvironment value.kindName)

end Value

/-- The fault that comes of something that cannot be put into words. -/
def Obstacle.fault : Obstacle → Fault
  | .tooDeep => .depthExceeded
  | .host error => .host error

/-! ## Equality -/

mutual

/-- Equality of values: of the same kind, with equal parts. Host functions are compared by name. -/
def Value.beq : Value → Value → Bool
  | .closure env param body, .closure env' param' body' =>
    env.beq env' && param == param' && body == body'
  | .primitive name _, .primitive name' _ => name == name'
  | .constant datum, .constant datum' => datum == datum'
  | .foreign datum, .foreign datum' => datum == datum'
  | _, _ => false

/-- Equality of environments: the same names bound to equal values, layer by layer. -/
def Env.beq : Env → Env → Bool
  | .empty, .empty => true
  | .extend parent name value, .extend parent' name' value' =>
    name == name' && value.beq value' && parent.beq parent'
  | _, _ => false

end

instance : BEq Value := ⟨Value.beq⟩

instance : BEq Env := ⟨Env.beq⟩

end CallByValue
