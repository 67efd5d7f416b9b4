import CallByValue.Church
import CallByValue.Proofs.Invariant

/-!
# No foreign object gets in

A host function may give back anything, a foreign object too, and a name that is bound to nothing
counts as unbound. Where only **clean** values are bound at the start, no foreign object is ever
bound, passed on or given back, so a name is blamed only if it has no binding at all.

* `Value.Clean`, `Env.Clean`, `Action.Clean` — no foreign object at any depth of captured
  environments, or of what host functions hold;
* `Value.Reaches` — the environments that can be got at from a value;
* `cleanliness` — the invariant, and `evaluate_apply_clean` what it says of results.
-/

namespace CallByValue

/-! ## Clean values -/

/-- The action gives back a value, if what it holds and what it is called with are values. -/
def Action.GivesValue : Action → Prop
  | .successor => True
  | .spy => True
  | .always result => result.isProper = true
  | .callWith _ => True
  | .fail _ => True
  | .inspect choose => ∀ look, (choose look).GivesValue
  | .andThen _ next => next.GivesValue

mutual

/-- The value is a closure over clean values, a constant, or a host function with a clean action. Of
host functions that count, only the successor of the host is clean. -/
def Value.Clean : Value → Prop
  | .closure env _ _ => env.Clean
  | .primitive name action => action.Clean ∧ (action = .successor → name = "succ")
  | .constant _ => True
  | .foreign _ => False

/-- The environment binds clean values only, hidden ones included. -/
def Env.Clean : Env → Prop
  | .empty => True
  | .extend parent _ value => value.Clean ∧ parent.Clean

/-- What the action holds is clean, whatever it chooses to do. It may give back a foreign object,
which will not be accepted, and raise any fault; but it does not go on with a foreign object. -/
def Action.Clean : Action → Prop
  | .successor => True
  | .spy => True
  | .always result => result.Clean ∨ ∃ datum, result = .foreign datum
  | .callWith value => value.Clean
  | .fail _ => True
  | .inspect choose => ∀ look, (choose look).Clean
  | .andThen first next => first.Clean ∧ first.GivesValue ∧ next.Clean

end

/-- Clean values are no foreign objects. -/
theorem Value.Clean.isProper {value : Value} (h : value.Clean) : value.isProper = true := by
  cases value with
  | foreign datum => exact h.elim
  | _ => rfl

/-! ## The invariant -/

/-- A run that notes and gives back clean values only. -/
abbrev Run.IsClean (run : Run Value Value) : Prop :=
  run.Meets Value.Clean Value.Clean fun _ => True

/-- A clean result is accepted as it is. -/
theorem Value.Clean.accept {v : Value} (h : v.Clean) (name : String) :
    (v.accept name).IsClean := by
  cases v with
  | foreign datum => exact h.elim
  | _ => exact .pure h

theorem Value.successor_clean (v : Value) : v.successor.IsClean := by
  rw [Value.successor]
  cases v.integer? with
  | none => exact .fail trivial
  | some i => exact .pure trivial

section Perform

variable {call : Value → Value → Run Value Value}
  (hc : ∀ f a : Value, f.Clean → a.Clean → (call f a).IsClean)
include hc

/-- A clean action that gives back values gives back clean ones. -/
theorem Action.Clean.perform_of_givesValue : ∀ (action : Action) {argument : Value}, action.Clean →
    action.GivesValue → argument.Clean → (action.perform call argument).IsClean
  | .successor, argument, _, _, _ => argument.successor_clean
  | .spy, _, _, _, ha => .noted ha ha
  | .always _, _, .inl hr, _, _ => .pure hr
  | .always _, _, .inr ⟨_, rfl⟩, hv, _ => nomatch hv
  | .callWith value, argument, h, _, ha => hc argument value ha h
  | .fail _, _, _, _, _ => .fail trivial
  | .inspect choose, argument, h, hv, ha =>
    Action.Clean.perform_of_givesValue (choose argument.look) (h _) (hv _) ha
  | .andThen first next, _, h, hv, ha =>
    (Action.Clean.perform_of_givesValue first h.1 h.2.1 ha).bind fun _ hr =>
      Action.Clean.perform_of_givesValue next h.2.2 hv hr

/-- A host function with a clean action gives back a clean value, or what it gives back is
refused. -/
theorem Action.Clean.perform {name : String} : ∀ (action : Action) {argument : Value},
    action.Clean → argument.Clean → (action.perform call argument >>= Value.accept name).IsClean
  | .successor, argument, _, _ => argument.successor_clean.bind fun _ hv => hv.accept name
  | .spy, _, _, ha => (Run.Meets.noted ha ha).bind fun _ hv => hv.accept name
  | .always _, _, .inl hr, _ => (Run.Meets.pure hr).bind fun _ hv => hv.accept name
  | .always _, _, .inr ⟨_, rfl⟩, _ => .fail trivial
  | .callWith value, argument, h, ha => (hc argument value ha h).bind fun _ hv => hv.accept name
  | .fail _, _, _, _ => .fail trivial
  | .inspect choose, argument, h, ha => Action.Clean.perform (choose argument.look) (h _) ha
  | .andThen first next, _, h, ha => by
    rw [Action.perform, bind_assoc]
    exact (Action.Clean.perform_of_givesValue hc first h.1 h.2.1 ha).bind fun _ hr =>
      Action.Clean.perform next h.2.2 hr

end Perform

/-- Evaluation keeps values clean, whatever terms are evaluated. -/
def cleanliness : Invariant where
  value := Value.Clean
  env := Env.Clean
  term _ := True
  fault _ := True
  bound h := h
  capture he _ := he
  parts _ := ⟨trivial, trivial⟩
  enter hf ha := ⟨⟨ha, hf⟩, trivial⟩
  perform hp ha hc := Action.Clean.perform hc _ hp.1 ha
  unbound _ := trivial
  notATerm _ := trivial
  notApplicable _ := trivial
  depthExceeded := trivial

/-- In a clean environment only names without a binding are unbound. -/
theorem Env.Clean.lookup_eq_none_iff {env : Env} (h : env.Clean) (x : String) :
    env.lookup x = none ↔ x ∉ env.names := by
  rw [← Env.find?_eq_none_iff]
  cases hf : env.find? x with
  | none => simp [Env.lookup, hf]
  | some value =>
    have hv : value.Present := .of_isProper (cleanliness.find? h hf).isProper
    simp [Env.lookup_of_find? hf hv]

/-! ## What can be got at from a value -/

/-- The action holds the value, to give it back or to apply its argument to it, in one of the cases
that it chooses from. -/
inductive Action.Holds : Action → Value → Prop where
  /-- what it gives back -/
  | result (w : Value) : Action.Holds (.always w) w
  /-- what it applies its argument to -/
  | operand (w : Value) : Action.Holds (.callWith w) w
  /-- what it holds in one of the cases -/
  | case {choose : Look → Action} {w : Value} (look : Look) (h : (choose look).Holds w) :
    Action.Holds (.inspect choose) w
  /-- what it holds to begin with -/
  | first {first : Action} {w : Value} (next : Action) (h : first.Holds w) :
    Action.Holds (.andThen first next) w
  /-- what it holds to go on with -/
  | next {next : Action} {w : Value} (first : Action) (h : next.Holds w) :
    Action.Holds (.andThen first next) w

/-- What a clean action holds is clean, or a foreign object that will not be accepted. -/
theorem Action.Holds.clean_or_foreign {action : Action} {w : Value} (h : action.Holds w)
    (hc : action.Clean) : w.Clean ∨ ∃ datum, w = .foreign datum := by
  induction h with
  | result w => exact hc
  | operand w => exact .inl hc
  | case look h ih => exact ih (hc look)
  | first next h ih => exact ih hc.1
  | next first h ih => exact ih hc.2.2

/-- The environment can be got at from the value: it was captured, or lies below such an
environment, or can be got at from a value that is bound there or that a host function holds. -/
inductive Value.Reaches : Value → Env → Prop where
  /-- the environment that a closure captured -/
  | captured (env : Env) (param : String) (body : Term) :
    Value.Reaches (.closure env param body) env
  /-- from what a host function holds -/
  | held {action : Action} {w : Value} {env : Env} (name : String) (hw : action.Holds w)
    (h : w.Reaches env) : Value.Reaches (.primitive name action) env
  /-- the environment below the newest binding -/
  | parent {v w : Value} {env : Env} {name : String} (h : v.Reaches (env.extend name w)) :
    Value.Reaches v env
  /-- from a value that is bound -/
  | bound {v w : Value} {env env' : Env} {name : String} (h : v.Reaches (env.extend name w))
    (hw : w.Reaches env') : Value.Reaches v env'

/-- From a foreign object no environment can be got at. -/
theorem Value.Reaches.isProper {v : Value} {env : Env} (h : v.Reaches env) :
    v.isProper = true := by
  induction h with
  | parent h ih => exact ih
  | bound h hw ih ihw => exact ih
  | _ => rfl

/-- All environments that can be got at from a clean value are clean. -/
theorem Value.Clean.of_reaches {v : Value} {env : Env} (h : v.Reaches env) (hv : v.Clean) :
    env.Clean := by
  induction h with
  | captured env param body => exact hv
  | held name hw h ih =>
    obtain hw | ⟨datum, rfl⟩ := hw.clean_or_foreign hv.1
    · exact ih hw
    · cases h.isProper
  | parent h ih => exact (ih hv).2
  | bound h hw ih ihw => exact ihw (ih hv).1

/-! ## Results -/

/-- What a clean value is and what it leads to: it is no foreign object, and in every environment
that can be got at from it a name is unbound just when it has no binding. -/
theorem Value.Clean.reaches {v : Value} (h : v.Clean) :
    v.isProper = true ∧ ∀ env, v.Reaches env → ∀ x, env.lookup x = none ↔ x ∉ env.names :=
  ⟨h.isProper, fun _ hr => (h.of_reaches hr).lookup_eq_none_iff⟩

/-- **No foreign object gets in**: in a clean environment every term, and applied to a clean
argument every clean function, raises a fault or gives a clean value. That is no foreign object, and
wherever one gets from it a name is unbound only if it has no binding. Host functions are called
with clean arguments only. -/
theorem evaluate_apply_clean (n : Nat) :
    (∀ (env : Env) (t : Term), env.Clean →
      (∀ v ∈ (evaluate n env t).notes, v.Clean) ∧
      ((∃ fault, (evaluate n env t).outcome = .error fault) ∨
        ∃ v, (evaluate n env t).outcome = .ok v ∧ v.Clean ∧ v.isProper = true ∧
          ∀ env', v.Reaches env' → ∀ x, env'.lookup x = none ↔ x ∉ env'.names)) ∧
    (∀ function argument : Value, function.Clean → argument.Clean →
      (∀ v ∈ (apply n function argument).notes, v.Clean) ∧
      ((∃ fault, (apply n function argument).outcome = .error fault) ∨
        ∃ v, (apply n function argument).outcome = .ok v ∧ v.Clean ∧ v.isProper = true ∧
          ∀ env', v.Reaches env' → ∀ x, env'.lookup x = none ↔ x ∉ env'.names)) := by
  have hends : ∀ {run : Run Value Value}, run.IsClean → (∀ v ∈ run.notes, v.Clean) ∧
      ((∃ fault, run.outcome = .error fault) ∨
        ∃ v, run.outcome = .ok v ∧ v.Clean ∧ v.isProper = true ∧
          ∀ env', v.Reaches env' → ∀ x, env'.lookup x = none ↔ x ∉ env'.names) := by
    intro run h
    refine ⟨h.notes, ?_⟩
    cases ho : run.outcome with
    | error fault => exact .inl ⟨fault, rfl⟩
    | ok v => exact .inr ⟨v, rfl, h.result v ho, (h.result v ho).reaches⟩
  obtain ⟨hev, hap⟩ := cleanliness.evaluate_apply n
  exact ⟨fun env t henv => hends (hev env t henv trivial),
    fun f a hf ha => hends (hap f a hf ha)⟩

/-- Host functions that call back, that note what they are called with, and that give back
nothing. -/
def hosts : Env :=
  ((Env.empty.extend "none" (.primitive "none" (.always (.foreign .null)))).extend "note"
    (.primitive "note" .spy)).extend "call" (.primitive "call" (.callWith (.constant .null)))

/-- A function that notes its argument and captures it, for a host function to call back. -/
def capturing : Term :=
  .app (.var "call")
    (.abs "x" (.app (.abs "z" (.abs "y" (.var "z"))) (.app (.var "note") (.var "x"))))

/-- The closure that the call back gives captured clean values, and the nothing that a host function
gives back is refused. -/
theorem hosts_clean :
    hosts.Clean ∧ (Value.primitive "none" (.always (.foreign .null))).Clean ∧
      (Value.constant .null).Clean ∧
      (∃ v, evaluate 7 hosts capturing = ⟨[.constant .null], .ok v⟩ ∧ v.Clean ∧
        ∀ env', v.Reaches env' → ∀ x, env'.lookup x = none ↔ x ∉ env'.names) ∧
      ∃ fault, (apply 1 (.primitive "none" (.always (.foreign .null))) (.constant .null)).outcome =
        .error fault := by
  have hnone : (Value.primitive "none" (.always (.foreign .null))).Clean :=
    ⟨.inr ⟨.null, rfl⟩, nofun⟩
  have hnull : (Value.constant .null).Clean := trivial
  have hhosts : hosts.Clean := ⟨⟨hnull, nofun⟩, ⟨trivial, nofun⟩, hnone, trivial⟩
  refine ⟨hhosts, hnone, hnull, ?_, ?_⟩
  · obtain ⟨-, ⟨fault, h⟩ | ⟨v, hv, hclean, -, hreach⟩⟩ :=
      (evaluate_apply_clean 7).1 hosts capturing hhosts
    · cases h
    · exact ⟨v, Run.ext rfl hv, hclean, hreach⟩
  · obtain ⟨-, h | ⟨v, hv, -⟩⟩ := (evaluate_apply_clean 1).2 _ _ hnone hnull
    · exact h
    · cases hv

end CallByValue
