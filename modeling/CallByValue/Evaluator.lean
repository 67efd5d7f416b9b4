import CallByValue.Run

/-!
# The evaluator

Terms are evaluated **by value**, in an environment and without substitution. Two procedures call
each other:

* `evaluate` — the value of a term: a variable is looked up, an abstraction captures the environment
  in a closure, and an application evaluates its function, then its argument, and applies the one to
  the other;
* `apply` — a closure evaluates its body in the environment it captured, with the parameter bound to
  the argument; a host function performs its action, whose result must be a value.

Both take a bound on the **depth** to which they may nest, and reaching it is a fault. A run notes
the arguments of spies.
-/

namespace CallByValue

/-! ## Host functions -/

namespace Value

/-- The integer that a constant holds; a truth value counts as one or zero. -/
def integer? : Value → Option Int
  | .constant (.int i) => some i
  | .constant (.bool b) => some (if b then 1 else 0)
  | _ => none

/-- The notice of something that was taken for a numeral. -/
def notANumeralNotice : Notice := { template := "'{}' is not a Church numeral" }

/-- The fault of something that was taken for a numeral. -/
def notANumeral (value : Value) : Fault :=
  .report { notANumeralNotice.reportOf value.display [] with obstacle? := value.obstacle? }

/-- The constant that holds the next integer. -/
def successor (value : Value) : Run Value Value :=
  match value.integer? with
  | some i => pure (.constant (.int (i + 1)))
  | none => .fail value.notANumeral

theorem successor_of_some {value : Value} {i : Int} (h : value.integer? = some i) :
    value.successor = pure (.constant (.int (i + 1))) := by
  rw [successor, h]

theorem successor_of_none {value : Value} (h : value.integer? = none) :
    value.successor = .fail value.notANumeral := by
  rw [successor, h]

end Value

/-- What a host function does with its argument. `call` applies one value to another. -/
def Action.perform (call : Value → Value → Run Value Value) : Action → Value → Run Value Value
  | .successor, argument => argument.successor
  | .spy, argument => ⟨[argument], .ok argument⟩
  | .always result, _ => pure result
  | .callWith value, argument => call argument value
  | .fail fault, _ => .fail fault
  | .inspect choose, argument => (choose argument.look).perform call argument
  | .andThen first next, argument => do
    let result ← first.perform call argument
    next.perform call result

/-- The notice of a host function whose result is no value. -/
def Fault.notAValueNotice : Notice :=
  { template := "primitive '{}' returned '{}', which is not a value", internal := true }

/-- The fault of a host function whose result is no value. -/
def Fault.notAValue (name : String) (datum : Datum Term) : Fault :=
  .report { notAValueNotice.reportOf name [datum.dump] with
    obstacle? := fun depth => match datum.dumpWithin depth with
      | .ok _ => none
      | .error limit => some (.ofLimit limit) }

/-- The result of a host function, if it is a value. -/
def Value.accept (name : String) : Value → Run Value Value
  | .foreign datum => .fail (.notAValue name datum)
  | value => pure value

/-- What the successor gives is a constant, which is accepted. -/
theorem Value.successor_bind_accept (value : Value) (name : String) :
    value.successor >>= Value.accept name = value.successor := by
  cases h : value.integer? with
  | some i =>
    rw [successor_of_some h]
    rfl
  | none =>
    rw [successor_of_none h]
    rfl

/-! ## Evaluation -/

mutual

/-- The value of a term in an environment, where evaluation may nest `depth` deep. -/
def evaluate : (depth : Nat) → Env → Term → Run Value Value
  | 0, _, _ => .fail .depthExceeded
  | _ + 1, env, .var x => match env.lookup x with
    | some value => pure value
    | none => .fail (.unbound x)
  | _ + 1, env, .abs param body => pure (.closure env param body)
  | depth + 1, env, .app fn arg => do
    let function ← evaluate depth env fn
    let argument ← evaluate depth env arg
    apply depth function argument
  | _ + 1, _, .foreign datum => .fail (.host (.notATerm datum))

/-- The result of applying a value to another, where evaluation may nest `depth` deep. -/
def apply : (depth : Nat) → Value → Value → Run Value Value
  | 0, _, _ => .fail .depthExceeded
  | depth + 1, .closure env param body, argument =>
    evaluate depth (env.extend param argument) body
  | depth + 1, .primitive name action, argument => do
    let result ← action.perform (apply depth) argument
    result.accept name
  | _ + 1, function, _ => .fail (.notApplicable function)

end

/-- The depth to which evaluation may nest when nothing else is asked for. -/
def defaultDepth : Nat := 4000

/-! ## One equation for each case -/

@[simp] theorem evaluate_zero (env : Env) (t : Term) :
    evaluate 0 env t = .fail .depthExceeded := by
  cases t <;> rfl

/-- A variable denotes the value that it is bound to. -/
theorem evaluate_var (n : Nat) (env : Env) (x : String) :
    evaluate (n + 1) env (.var x) =
      match env.lookup x with
      | some value => pure value
      | none => .fail (.unbound x) := rfl

/-- An abstraction is a value already: it captures the environment. -/
theorem evaluate_abs (n : Nat) (env : Env) (param : String) (body : Term) :
    evaluate (n + 1) env (.abs param body) = pure (.closure env param body) := rfl

/-- An application evaluates the function, then the argument, and applies the one to the other. -/
theorem evaluate_app (n : Nat) (env : Env) (fn arg : Term) :
    evaluate (n + 1) env (.app fn arg) =
      evaluate n env fn >>= fun function =>
        evaluate n env arg >>= fun argument => apply n function argument := rfl

/-- Host data are no term. -/
theorem evaluate_foreign (n : Nat) (env : Env) (datum : Datum Empty) :
    evaluate (n + 1) env (.foreign datum) = .fail (.host (.notATerm datum)) := rfl

@[simp] theorem apply_zero (function argument : Value) :
    apply 0 function argument = .fail .depthExceeded := by
  cases function <;> rfl

/-- A closure evaluates its body with the parameter bound to the argument. -/
theorem apply_closure (n : Nat) (env : Env) (param : String) (body : Term) (argument : Value) :
    apply (n + 1) (.closure env param body) argument =
      evaluate n (env.extend param argument) body := rfl

/-- A host function performs its action, and its result must be a value. -/
theorem apply_primitive (n : Nat) (name : String) (action : Action) (argument : Value) :
    apply (n + 1) (.primitive name action) argument =
      action.perform (apply n) argument >>= Value.accept name := rfl

/-- A host function of its own kind, which doubles integers. -/
example (n : Nat) (i : Int) :
    let double : Action := .inspect fun
      | .constant (.int i) => .always (.constant (.int (2 * i)))
      | _ => .fail (.host (.raised .typeError ""))
    apply (n + 1) (.primitive "double" double) (.constant (.int i)) =
      pure (.constant (.int (2 * i))) := rfl

/-- A constant is not a function. -/
theorem apply_constant (n : Nat) (datum : Datum Term) (argument : Value) :
    apply (n + 1) (.constant datum) argument = .fail (.notApplicable (.constant datum)) := rfl

/-- A foreign object is not a function. -/
theorem apply_foreign (n : Nat) (datum : Datum Term) (argument : Value) :
    apply (n + 1) (.foreign datum) argument = .fail (.notApplicable (.foreign datum)) := rfl

/-! ## What has to happen for a result -/

theorem evaluate_zero_ne_ok {env : Env} {t : Term} {v : Value} :
    (evaluate 0 env t).outcome ≠ .ok v := by
  rw [evaluate_zero]
  exact nofun

theorem apply_zero_ne_ok {function argument v : Value} :
    (apply 0 function argument).outcome ≠ .ok v := by
  rw [apply_zero]
  exact nofun

/-- A variable that has a result is bound to it. -/
theorem lookup_of_evaluate_var {n : Nat} {env : Env} {x : String} {v : Value}
    (h : (evaluate n env (.var x)).outcome = .ok v) : env.lookup x = some v := by
  cases n with
  | zero => exact absurd h evaluate_zero_ne_ok
  | succ n =>
    rw [evaluate_var] at h
    cases hl : env.lookup x with
    | none =>
      rw [hl] at h
      cases h
    | some value =>
      rw [hl] at h
      rw [Except.ok.inj h]

/-- An application that has a result goes through a function and an argument. -/
theorem evaluate_app_ok {n : Nat} {env : Env} {fn arg : Term} {v : Value}
    (h : (evaluate (n + 1) env (.app fn arg)).outcome = .ok v) :
    ∃ f a, (evaluate n env fn).outcome = .ok f ∧ (evaluate n env arg).outcome = .ok a ∧
      (apply n f a).outcome = .ok v := by
  rw [evaluate_app] at h
  obtain ⟨f, hf, h⟩ := Run.outcome_bind_eq_ok h
  obtain ⟨a, ha, h⟩ := Run.outcome_bind_eq_ok h
  exact ⟨f, a, hf, ha, h⟩

end CallByValue
