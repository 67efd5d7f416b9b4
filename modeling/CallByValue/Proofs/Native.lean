import CallByValue.Evaluator

/-!
# What values are built from

A host can put its own data into terms, and its own functions and data into environments. What a
program can do depends on what was put there, since evaluation only builds closures: from bodies
that occur in the program, and over environments that were bound before.

* `Term.Native` — the term has no foreign leaf;
* `Value.BuiltFrom`, `Env.BuiltFrom` — all closure bodies, and all host values, that a value or an
  environment holds at any depth of captured environments satisfy given predicates;
* `Value.Native`, `Env.Native` — **native** values are closures of native bodies all the way down;
* `Value.Present` — the value is not the nothing that makes a name count as unbound.
-/

namespace CallByValue

/-! ## Native terms -/

namespace Term

/-- The term has no foreign leaf. -/
def Native : Term → Prop
  | .var _ => True
  | .abs _ body => body.Native
  | .app fn arg => fn.Native ∧ arg.Native
  | .foreign _ => False

/-- A term is native when no leftmost foreign leaf is found in it. -/
theorem native_iff (t : Term) : t.Native ↔ t.firstForeign? = none := by
  induction t with
  | var x => simp [Native, firstForeign?]
  | abs x body ih => exact ih
  | app fn arg ihf iha => simp [Native, firstForeign?, ihf, iha]
  | foreign d => simp [Native, firstForeign?]

instance : DecidablePred Native := fun t =>
  decidable_of_iff (t.firstForeign?.isNone = true) (by rw [native_iff, Option.isNone_iff_eq_none])

end Term

/-! ## Values and environments -/

mutual

/-- All closure bodies in a value satisfy `body`, and all that is no closure satisfies `host`. -/
def Value.BuiltFrom (body : Term → Prop) (host : Value → Prop) : Value → Prop
  | .closure env _ b => body b ∧ env.BuiltFrom body host
  | value => host value

/-- All values that an environment binds, hidden ones included, are built in this way. -/
def Env.BuiltFrom (body : Term → Prop) (host : Value → Prop) : Env → Prop
  | .empty => True
  | .extend parent _ value => value.BuiltFrom body host ∧ parent.BuiltFrom body host

end

/-- A closure of a native body over a native environment. -/
def Value.Native (value : Value) : Prop := value.BuiltFrom Term.Native fun _ => False

/-- An environment that binds native values only. -/
def Env.Native (env : Env) : Prop := env.BuiltFrom Term.Native fun _ => False

/-- The value is not the nothing that makes a name count as unbound. -/
def Value.Present (value : Value) : Prop := value ≠ .foreign .null

theorem Value.Present.of_isProper {value : Value} (h : value.isProper = true) : value.Present := by
  rintro rfl
  cases h

@[simp] theorem Value.native_closure {env : Env} {param : String} {body : Term} :
    (Value.closure env param body).Native ↔ body.Native ∧ env.Native := Iff.rfl

@[simp] theorem Env.native_empty : Env.empty.Native := trivial

@[simp] theorem Env.native_extend {env : Env} {name : String} {value : Value} :
    (env.extend name value).Native ↔ value.Native ∧ env.Native := Iff.rfl

/-- A native value is a closure. -/
theorem Value.Native.exists_closure {value : Value} (h : value.Native) :
    ∃ env param body, value = .closure env param body := by
  cases value with
  | closure env param body => exact ⟨env, param, body, rfl⟩
  | _ => exact h.elim

theorem Value.Native.present {value : Value} (h : value.Native) : value.Present := by
  rintro rfl
  exact h

/-! ## Look-up -/

namespace Env

@[simp] theorem names_empty : empty.names = [] := rfl

@[simp] theorem names_extend (env : Env) (name : String) (value : Value) :
    (env.extend name value).names = name :: env.names := rfl

/-- A name is found when it is bound. -/
theorem find?_eq_none_iff (x : String) : ∀ env : Env, env.find? x = none ↔ x ∉ env.names
  | empty => by simp [find?]
  | extend parent bound value => by
    by_cases h : bound = x
    · simp [find?, h]
    · simp [find?, h, Ne.symm h, find?_eq_none_iff x parent]

/-- What is found was built as the environment was. -/
theorem BuiltFrom.find? {body : Term → Prop} {host : Value → Prop} {x : String} {value : Value} :
    ∀ {env : Env}, env.BuiltFrom body host → env.find? x = some value →
      value.BuiltFrom body host
  | .empty, _, h => by cases h
  | .extend parent bound v, ⟨hv, hp⟩, h => by
    rw [Env.find?] at h
    split at h
    · obtain rfl := Option.some.inj h
      exact hv
    · exact BuiltFrom.find? hp h

/-- A present value that is found is looked up. -/
theorem lookup_of_find? {env : Env} {x : String} {value : Value} (h : env.find? x = some value)
    (hv : value.Present) : env.lookup x = some value := by
  rw [lookup, h]
  split
  · rename_i heq
    exact absurd (Option.some.inj heq) hv
  · rfl

/-- What is looked up is present, and was found. -/
theorem find?_of_lookup {env : Env} {x : String} {value : Value} (h : env.lookup x = some value) :
    env.find? x = some value ∧ value.Present := by
  rw [lookup] at h
  split at h
  · cases h
  · rename_i hne
    refine ⟨h, ?_⟩
    rintro rfl
    exact hne h

@[simp] theorem lookup_extend_self (env : Env) (x : String) {value : Value} (hv : value.Present) :
    (env.extend x value).lookup x = some value :=
  lookup_of_find? (find?_extend_self env x value) hv

/-- In a native environment a name has a native value, or is not bound at all. -/
theorem Native.lookup {env : Env} (h : env.Native) (x : String) :
    (∃ value, env.lookup x = some value ∧ env.find? x = some value ∧ value.Native) ∨
    (env.lookup x = none ∧ x ∉ env.names) := by
  cases hf : env.find? x with
  | none => exact .inr ⟨by rw [Env.lookup, hf], (find?_eq_none_iff x env).mp hf⟩
  | some value =>
    have hv : value.Native := BuiltFrom.find? h hf
    exact .inl ⟨value, lookup_of_find? hf hv.present, rfl, hv⟩

end Env

/-! ## Results are present -/

/-- Both halves: evaluation and application never result in nothing, whatever is bound or applied.
A name that is bound to nothing is blamed, and a host function that gives nothing is refused. -/
theorem evaluate_apply_present (n : Nat) :
    (∀ {env : Env} {t : Term} {v : Value}, (evaluate n env t).outcome = .ok v → v.Present) ∧
    (∀ {function argument v : Value}, (apply n function argument).outcome = .ok v →
      v.Present) := by
  induction n with
  | zero =>
    exact ⟨fun hv => absurd hv evaluate_zero_ne_ok, fun hv => absurd hv apply_zero_ne_ok⟩
  | succ n ih =>
    obtain ⟨hev, hap⟩ := ih
    refine ⟨fun {env t v} hv => ?_, fun {function argument v} hv => ?_⟩
    · cases t with
      | var x => exact (Env.find?_of_lookup (lookup_of_evaluate_var hv)).2
      | abs param body =>
        obtain rfl := Except.ok.inj hv
        exact nofun
      | app fn arg =>
        obtain ⟨f, a, -, -, hv⟩ := evaluate_app_ok hv
        exact hap hv
      | foreign datum => cases hv
    · cases function with
      | closure env param body => exact hev hv
      | primitive name action =>
        rw [apply_primitive] at hv
        obtain ⟨result, -, hv⟩ := Run.outcome_bind_eq_ok hv
        -- nothing is foreign, and foreign results are not accepted
        rintro rfl
        cases result <;> cases hv
      | constant datum => cases hv
      | foreign datum => cases hv

end CallByValue
