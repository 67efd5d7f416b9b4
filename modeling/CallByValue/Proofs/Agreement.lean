import CallByValue.Church
import CallByValue.Fault
import CallByValue.Proofs.Lockstep
import CallByValue.Proofs.Native

/-!
# What evaluation sees of an environment

A term looks up its free names and nothing else, and a closure looks up what is free in its
abstraction. So an environment matters by its visible bindings of free names only, and two
environments that **agree** on those are as good as each other, whatever else they bind.

* `Value.Agrees`, `Env.AgreesOn` — values that are the same as far as they can be seen, and
  environments that bind some names to such values, or both leave them unbound;
* `Fault.SameKind` — faults of one class that blame the same name or the same value;
* `evaluate_apply_agree` — the invariant: under every limit the two evaluations run in lockstep.
-/

namespace CallByValue

/-! ## Agreement -/

/-- The values are the same as far as they can be seen: the same constant, the successor of the
host, or closures with one parameter and body that captured the same for what is free in them. -/
inductive Value.Agrees : Value → Value → Prop where
  /-- the same constant -/
  | constant (datum : Datum Term) : Value.Agrees (.constant datum) (.constant datum)
  /-- the successor of the host -/
  | successor : Value.Agrees Church.successor Church.successor
  /-- closures of one abstraction, over environments that agree on its free names -/
  | closure {env env' : Env} (param : String) (body : Term)
    (h : ∀ x ∈ (Term.abs param body).freeNames,
      Option.Rel Value.Agrees (env.lookup x) (env'.lookup x)) :
    Value.Agrees (.closure env param body) (.closure env' param body)

/-- Each of the names is unbound in both environments, or bound to values that agree. -/
def Env.AgreesOn (names : List String) (env env' : Env) : Prop :=
  ∀ x ∈ names, Option.Rel Value.Agrees (env.lookup x) (env'.lookup x)

namespace Value.Agrees

variable {v w : Value}

/-- What agrees with something is no foreign object, so it can be looked up. -/
theorem present (h : v.Agrees w) : v.Present ∧ w.Present := by
  cases h with
  | constant datum => exact ⟨nofun, nofun⟩
  | successor => exact ⟨nofun, nofun⟩
  | closure param body h => exact ⟨nofun, nofun⟩

/-- Values that agree hold the same integer, or both hold none. -/
theorem integer? (h : v.Agrees w) : v.integer? = w.integer? := by
  cases h with
  | constant datum => rfl
  | successor => rfl
  | closure param body h => rfl

end Value.Agrees

namespace Env.AgreesOn

variable {names names' : List String} {env env' : Env}

theorem mono (h : env.AgreesOn names env') (hsub : names' ⊆ names) : env.AgreesOn names' env' :=
  fun x hx => h x (hsub hx)

/-- What is free in the body is the parameter, or free in the abstraction. -/
theorem extend {param : String} {body : Term} {v w : Value}
    (h : env.AgreesOn (Term.abs param body).freeNames env') (hv : v.Agrees w) :
    (env.extend param v).AgreesOn body.freeNames (env'.extend param w) := by
  intro x hx
  by_cases hp : param = x
  · subst hp
    rw [Env.lookup_extend_self _ _ hv.present.1, Env.lookup_extend_self _ _ hv.present.2]
    exact .some hv
  · rw [Env.lookup_extend_ne _ _ hp, Env.lookup_extend_ne _ _ hp]
    exact h x (Term.mem_freeNames_abs.mpr ⟨hx, Ne.symm hp⟩)

end Env.AgreesOn

/-! ## Faults -/

/-- The same fault, or the complaint that something is no numeral about values that agree. The
texts of closures show the names of the environments they captured, so these need not be the
same. -/
inductive Fault.Agrees : Fault → Fault → Prop where
  /-- the same fault -/
  | same (fault : Fault) : Fault.Agrees fault fault
  /-- values that agree were taken for numerals -/
  | notANumeral {v w : Value} (h : v.Agrees w) : Fault.Agrees v.notANumeral w.notANumeral

/-- Faults of one class. If a variable is blamed it is the same one, and if something was applied
that is no function the message is the same. -/
structure Fault.SameKind (f g : Fault) : Prop where
  /-- the limit on depth, too, is a class of its own -/
  className_eq : f.className = g.className
  /-- the same variable is blamed -/
  unbound : ∀ x, f = .unbound x → g = .unbound x
  /-- the same is said about what cannot be applied -/
  message_eq : ∀ v, f = .notApplicable v → f.message = g.message

theorem Fault.Agrees.sameKind {f g : Fault} (h : f.Agrees g) : f.SameKind g := by
  cases h with
  | same => exact ⟨rfl, fun _ hx => hx, fun _ _ => rfl⟩
  | notANumeral h => exact ⟨rfl, nofun, nofun⟩

/-! ## The invariant -/

/-- A name that is bound alike is looked up alike. -/
theorem evaluate_var_lockstep (n : Nat) {env env' : Env} {x : String}
    (h : Option.Rel Value.Agrees (env.lookup x) (env'.lookup x)) :
    Run.Lockstep Value.Agrees Fault.Agrees (evaluate (n + 1) env (.var x))
      (evaluate (n + 1) env' (.var x)) := by
  rw [evaluate_var, evaluate_var]
  generalize env.lookup x = found, env'.lookup x = found' at h ⊢
  cases h with
  | some hv => exact .pure hv
  | none => exact .fail (.same _)

/-- The successor of the host cannot tell apart values that agree. -/
theorem Value.Agrees.successor_lockstep {a a' : Value} (h : a.Agrees a') :
    Run.Lockstep Value.Agrees Fault.Agrees a.successor a'.successor := by
  rw [Value.successor, Value.successor, h.integer?]
  cases a'.integer? with
  | some i => exact .pure (.constant _)
  | none => exact .fail (.notANumeral h)

theorem Value.Agrees.accept_lockstep {v w : Value} (h : v.Agrees w) (name : String) :
    Run.Lockstep Value.Agrees Fault.Agrees (v.accept name) (w.accept name) := by
  cases h with
  | constant datum => exact .pure (.constant datum)
  | successor => exact .pure .successor
  | closure param body h => exact .pure (.closure param body h)

/-- Both halves of the invariant, by induction on the limit: what agrees going in agrees coming
out. -/
theorem evaluate_apply_agree (n : Nat) :
    (∀ {env env' : Env} {t : Term}, env.AgreesOn t.freeNames env' →
      Run.Lockstep Value.Agrees Fault.Agrees (evaluate n env t) (evaluate n env' t)) ∧
    (∀ {f f' a a' : Value}, f.Agrees f' → a.Agrees a' →
      Run.Lockstep Value.Agrees Fault.Agrees (apply n f a) (apply n f' a')) := by
  induction n with
  | zero =>
    refine ⟨fun {env env' t} _ => ?_, fun {f f' a a'} _ _ => ?_⟩
    · rw [evaluate_zero, evaluate_zero]
      exact .fail (.same _)
    · rw [apply_zero, apply_zero]
      exact .fail (.same _)
  | succ n ih =>
    obtain ⟨hev, hap⟩ := ih
    refine ⟨fun {env env' t} henv => ?_, fun {f f' a a'} hf ha => ?_⟩
    · cases t with
      | var x => exact evaluate_var_lockstep n (henv x (List.mem_singleton.mpr rfl))
      | abs param body => exact .pure (.closure param body henv)
      | app fn arg =>
        -- each part sees no more names than the application does
        rw [evaluate_app, evaluate_app]
        refine (hev (henv.mono (List.subset_append_left _ _))).bind fun f f' hf => ?_
        refine (hev (henv.mono (List.subset_append_right _ _))).bind fun a a' ha => ?_
        exact hap hf ha
      | foreign datum => exact .fail (.same _)
    · cases hf with
      | constant datum => exact .fail (.same _)
      | successor => exact ha.successor_lockstep.bind fun v w h => h.accept_lockstep "succ"
      | closure param body h =>
        -- the environment of the call plays no part: the body sees what was captured
        rw [apply_closure, apply_closure]
        exact hev (Env.AgreesOn.extend h ha)

/-! ## Agreement with itself -/

/-- Closures, constants and the successor of the host, at all depths of captured environments. -/
def Value.Plain (value : Value) : Prop :=
  value.BuiltFrom (fun _ => True) fun v => (∃ datum, v = .constant datum) ∨ v = Church.successor

/-- An environment that binds plain values only. -/
def Env.Plain (env : Env) : Prop :=
  env.BuiltFrom (fun _ => True) fun v => (∃ datum, v = .constant datum) ∨ v = Church.successor

mutual

/-- A plain value agrees with itself. -/
theorem Value.Plain.agrees_self : ∀ {v : Value}, v.Plain → v.Agrees v
  | .closure _ param body, hv => .closure param body fun x _ => Env.Plain.lookup_agrees hv.2 x
  | .constant datum, _ => .constant datum
  | .primitive _ _, hv => by
    obtain ⟨_, h⟩ | h := hv
    · cases h
    · rw [h]
      exact .successor
  | .foreign _, hv => by
    obtain ⟨_, h⟩ | h := hv
    · cases h
    · cases h

/-- What is looked up in a plain environment agrees with itself. -/
theorem Env.Plain.lookup_agrees : ∀ {env : Env}, env.Plain → ∀ x : String,
    Option.Rel Value.Agrees (env.lookup x) (env.lookup x)
  | .empty, _, _ => .none
  | .extend parent bound value, henv, x => by
    have hv := Value.Plain.agrees_self henv.1
    by_cases h : bound = x
    · subst h
      rw [Env.lookup_extend_self parent bound hv.present.1]
      exact .some hv
    · rw [Env.lookup_extend_ne parent value h]
      exact Env.Plain.lookup_agrees henv.2 x

end

/-- A plain environment agrees with every other one in which the same values are looked up. -/
theorem Env.Plain.agreesOn {env env' : Env} {names : List String} (h : env.Plain)
    (hl : ∀ x ∈ names, env.lookup x = env'.lookup x) : env.AgreesOn names env' := by
  intro x hx
  rw [← hl x hx]
  exact h.lookup_agrees x

/-! ## Only visible bindings matter -/

/-- **Only the visible bindings of free names matter**: in environments that agree on the free
names of a term, whatever else they bind, the term gives values that agree, or faults of the same
kind. So it does when the environments have the same values for its free names, and bind other
names, or hidden ones, or bind in another order. And what an application ends in depends on the two
values alone. -/
theorem evaluate_agrees_on_free_names (t : Term) (n : Nat) :
    (∀ env env' : Env, env.AgreesOn t.freeNames env' →
      Run.Lockstep Value.Agrees Fault.SameKind (evaluate n env t) (evaluate n env' t)) ∧
    (∀ env env' : Env, env.Plain → (∀ x ∈ t.freeNames, env.lookup x = env'.lookup x) →
      Run.Lockstep Value.Agrees Fault.SameKind (evaluate n env t) (evaluate n env' t)) ∧
    (∀ f f' a a' : Value, f.Agrees f' → a.Agrees a' →
      Run.Lockstep Value.Agrees Fault.SameKind (apply n f a) (apply n f' a')) := by
  obtain ⟨hev, hap⟩ := evaluate_apply_agree n
  have heval : ∀ env env' : Env, env.AgreesOn t.freeNames env' →
      Run.Lockstep Value.Agrees Fault.SameKind (evaluate n env t) (evaluate n env' t) :=
    fun _ _ henv => (hev henv).mono (fun _ _ h => h) fun _ _ => Fault.Agrees.sameKind
  refine ⟨heval, fun env env' hp hl => heval env env' (hp.agreesOn hl), ?_⟩
  intro f f' a a' hf ha
  exact (hap hf ha).mono (fun _ _ h => h) fun _ _ => Fault.Agrees.sameKind

/-- The call site of a closure that captured a value for `x`; the site has another one. -/
def site : Env :=
  (Env.empty.extend "x" (.constant (.text "outer"))).extend "f"
    (.closure (Env.empty.extend "x" (.constant (.text "inner"))) "y" (.var "x"))

/-- The same for a term that sees `f` and `x`, with more bindings, in another order, and some of
them hidden. -/
def crowdedSite : Env :=
  (((Env.empty.extend "f" (.constant .null)).extend "z" Church.successor).extend "f"
    (.closure ((Env.empty.extend "x" (.constant (.text "inner"))).extend "z" Church.successor)
      "y" (.var "x"))).extend "x" (.constant (.text "outer"))

/-- The closure does the same at both sites. -/
theorem crowdedSite_agrees :
    site.AgreesOn (Term.app (.var "f") (.var "x")).freeNames crowdedSite ∧
      Run.Lockstep Value.Agrees Fault.SameKind (evaluate 3 site (.app (.var "f") (.var "x")))
        (evaluate 3 crowdedSite (.app (.var "f") (.var "x"))) ∧
      evaluate 3 crowdedSite (.app (.var "f") (.var "x")) = pure (.constant (.text "inner")) := by
  have hagree : site.AgreesOn (Term.app (.var "f") (.var "x")).freeNames crowdedSite := by
    intro x hx
    obtain rfl | rfl : x = "f" ∨ x = "x" := by simpa using hx
    · refine .some (.closure "y" (.var "x") fun y hy => ?_)
      obtain rfl : y = "x" := (List.mem_singleton.mp (Term.mem_freeNames_abs.mp hy).1)
      exact .some (.constant _)
    · exact .some (.constant _)
  exact ⟨hagree, (evaluate_agrees_on_free_names _ 3).1 _ _ hagree, rfl⟩

end CallByValue
