import CallByValue.Proofs.Native

/-!
# Scope

Which names can evaluation ask for in vain? Those that are free in the term and not bound in the
environment; but the environment holds closures, and a closure can be applied, so the names that
*its* body leaves open count as well, and so on through captured environments.

* `Value.openNames`, `Env.openNames`, `Env.openNamesOf` — the **open names** of a value, of all
  values that an environment binds, and of a term in an environment;
* `ScopedRun` — a run that gives a native value with open names among the given ones, blames one of
  them, or reaches the limit on depth, and does nothing else;
* `evaluate_apply_scoped` — the invariant: evaluation and application are scoped by the open names
  that go in.
-/

namespace CallByValue

/-! ## Open names -/

mutual

/-- The names that a value may ask for in vain when it is applied: those that are free in the
function and not bound where it was made, and those of the captured values. -/
def Value.openNames : Value → List String
  | .closure env param body =>
    (Term.abs param body).freeNames.filter (· ∉ env.names) ++ env.openNames
  | _ => []

/-- The open names of all values that an environment binds, hidden ones included. -/
def Env.openNames : Env → List String
  | .empty => []
  | .extend parent _ value => value.openNames ++ parent.openNames

end

/-- The names that evaluating a term in an environment may ask for in vain. -/
def Env.openNamesOf (env : Env) (t : Term) : List String :=
  t.freeNames.filter (· ∉ env.names) ++ env.openNames

@[simp] theorem Env.openNames_empty : Env.empty.openNames = [] := rfl

@[simp] theorem Env.openNames_extend (env : Env) (name : String) (value : Value) :
    (env.extend name value).openNames = value.openNames ++ env.openNames := rfl

/-- A closure leaves open what its abstraction leaves open where it was made. -/
theorem Value.openNames_closure (env : Env) (param : String) (body : Term) :
    (Value.closure env param body).openNames = env.openNamesOf (.abs param body) := rfl

theorem Env.mem_openNamesOf {env : Env} {t : Term} {x : String} :
    x ∈ env.openNamesOf t ↔ (x ∈ t.freeNames ∧ x ∉ env.names) ∨ x ∈ env.openNames := by
  simp [openNamesOf]

/-- In the empty environment the open names of a term are its free names. -/
@[simp] theorem Env.openNamesOf_empty (t : Term) : Env.empty.openNamesOf t = t.freeNames := by
  simp [openNamesOf]

/-- A bound value leaves nothing open that its environment does not. -/
theorem Env.openNames_of_find? {x : String} {value : Value} :
    ∀ {env : Env}, env.find? x = some value → value.openNames ⊆ env.openNames
  | .empty, h => by cases h
  | .extend parent bound v, h => by
    rw [Env.find?] at h
    rw [Env.openNames_extend]
    split at h
    · obtain rfl := Option.some.inj h
      exact List.subset_append_left _ _
    · exact List.Subset.trans (Env.openNames_of_find? h) (List.subset_append_right _ _)

theorem Env.openNamesOf_fn (env : Env) (fn arg : Term) :
    env.openNamesOf fn ⊆ env.openNamesOf (.app fn arg) := by
  intro x
  rw [mem_openNamesOf, mem_openNamesOf, Term.freeNames_app, List.mem_append]
  rintro (⟨hf, hn⟩ | ho)
  · exact .inl ⟨.inl hf, hn⟩
  · exact .inr ho

theorem Env.openNamesOf_arg (env : Env) (fn arg : Term) :
    env.openNamesOf arg ⊆ env.openNamesOf (.app fn arg) := by
  intro x
  rw [mem_openNamesOf, mem_openNamesOf, Term.freeNames_app, List.mem_append]
  rintro (⟨ha, hn⟩ | ho)
  · exact .inl ⟨.inr ha, hn⟩
  · exact .inr ho

/-- Entering a closure opens no name: the parameter is bound, and what else is free in the body was
free in the closure. -/
theorem Env.openNamesOf_body (env : Env) (param : String) (body : Term) (argument : Value) :
    (env.extend param argument).openNamesOf body ⊆
      (Value.closure env param body).openNames ++ argument.openNames := by
  intro x
  rw [mem_openNamesOf, names_extend, openNames_extend, Value.openNames_closure, List.mem_append,
    List.mem_append, mem_openNamesOf, Term.mem_freeNames_abs, List.mem_cons, not_or]
  rintro (⟨hb, hne, hn⟩ | ha | ho)
  · exact .inl (.inl ⟨⟨hb, hne⟩, hn⟩)
  · exact .inr ha
  · exact .inl (.inr ho)

/-! ## Scoped runs -/

/-- The run stays within these names: it notes nothing, and it gives a native value that leaves open
some of them, or blames one of them, or reaches the limit on depth. -/
inductive ScopedRun (names : List String) : Run Value Value → Prop
  /-- a native value -/
  | value (v : Value) (native : v.Native) (sub : v.openNames ⊆ names) : ScopedRun names (pure v)
  /-- one of the names is blamed -/
  | unbound (x : String) (mem : x ∈ names) : ScopedRun names (.fail (.unbound x))
  /-- the limit is reached -/
  | depthExceeded : ScopedRun names (.fail .depthExceeded)

namespace ScopedRun

variable {names names' : List String} {run : Run Value Value}

theorem mono (h : ScopedRun names run) (hsub : names ⊆ names') : ScopedRun names' run := by
  cases h with
  | value v hv hs => exact .value v hv (List.Subset.trans hs hsub)
  | unbound x hx => exact .unbound x (hsub hx)
  | depthExceeded => exact .depthExceeded

theorem bind {next : Value → Run Value Value} (h : ScopedRun names run)
    (hn : ∀ v, v.Native → v.openNames ⊆ names → ScopedRun names (next v)) :
    ScopedRun names (run >>= next) := by
  cases h with
  | value v hv hs =>
    rw [Run.pure_bind']
    exact hn v hv hs
  | unbound x hx => exact .unbound x hx
  | depthExceeded => exact .depthExceeded

/-- A scoped run ends in one of three ways. -/
theorem outcomes (h : ScopedRun names run) :
    (∃ v : Value, run = pure v ∧ v.Native ∧ v.openNames ⊆ names) ∨
    (∃ x ∈ names, run = .fail (.unbound x)) ∨ run = .fail .depthExceeded := by
  cases h with
  | value v hv hs => exact .inl ⟨v, rfl, hv, hs⟩
  | unbound x hx => exact .inr (.inl ⟨x, hx, rfl⟩)
  | depthExceeded => exact .inr (.inr rfl)

/-- A result of a scoped run is native, and leaves open some of the names. -/
theorem of_ok (h : ScopedRun names run) {v : Value} (hv : run.outcome = .ok v) :
    run = pure v ∧ v.Native ∧ v.openNames ⊆ names := by
  cases h with
  | value w hw hs =>
    obtain rfl := Except.ok.inj hv
    exact ⟨rfl, hw, hs⟩
  | unbound x hx => cases hv
  | depthExceeded => cases hv

/-- A variable that a scoped run blames is one of the names. -/
theorem mem_of_unbound (h : ScopedRun names run) {x : String}
    (hx : run.outcome = .error (.unbound x)) : x ∈ names := by
  cases h with
  | value v hv hs => cases hx
  | unbound y hy =>
    obtain rfl := Fault.unbound.inj (Except.error.inj hx)
    exact hy
  | depthExceeded => cases hx

end ScopedRun

/-! ## The invariant -/

/-- A variable is looked up within scope. -/
theorem evaluate_var_scoped (n : Nat) {env : Env} (henv : env.Native) (x : String) :
    ScopedRun (env.openNamesOf (.var x)) (evaluate (n + 1) env (.var x)) := by
  rw [evaluate_var]
  rcases henv.lookup x with ⟨value, hl, hf, hv⟩ | ⟨hl, hx⟩
  · rw [hl]
    have hsub : value.openNames ⊆ env.openNames := Env.openNames_of_find? hf
    exact .value value hv (List.Subset.trans hsub (List.subset_append_right _ _))
  · rw [hl]
    exact .unbound x (Env.mem_openNamesOf.mpr (.inl ⟨List.mem_singleton.mpr rfl, hx⟩))

/-- Both halves of the invariant, by induction on the limit: evaluation and application stay within
the open names that go in. -/
theorem evaluate_apply_scoped (n : Nat) :
    (∀ env t, env.Native → t.Native → ScopedRun (env.openNamesOf t) (evaluate n env t)) ∧
    (∀ function argument : Value, function.Native → argument.Native →
      ScopedRun (function.openNames ++ argument.openNames) (apply n function argument)) := by
  induction n with
  | zero =>
    refine ⟨fun env t _ _ => ?_, fun function argument _ _ => ?_⟩
    · rw [evaluate_zero]
      exact .depthExceeded
    · rw [apply_zero]
      exact .depthExceeded
  | succ n ih =>
    obtain ⟨hev, hap⟩ := ih
    refine ⟨fun env t henv ht => ?_, fun function argument hf ha => ?_⟩
    · cases t with
      | var x => exact evaluate_var_scoped n henv x
      | abs param body =>
        rw [evaluate_abs]
        exact .value _ ⟨ht, henv⟩ (List.Subset.refl _)
      | app fn arg =>
        rw [evaluate_app]
        refine ((hev env fn henv ht.1).mono (env.openNamesOf_fn fn arg)).bind fun f hf hfs => ?_
        refine ((hev env arg henv ht.2).mono (env.openNamesOf_arg fn arg)).bind fun a ha has => ?_
        exact (hap f a hf ha).mono (List.append_subset.mpr ⟨hfs, has⟩)
      | foreign datum => exact ht.elim
    · obtain ⟨env, param, body, rfl⟩ := hf.exists_closure
      rw [apply_closure]
      have henv : (env.extend param argument).Native := Env.native_extend.mpr ⟨ha, hf.2⟩
      exact (hev _ body henv hf.1).mono (env.openNamesOf_body param body argument)

/-- Evaluation stays within the open names of the term in its environment. -/
theorem evaluate_scoped (n : Nat) {env : Env} {t : Term} (henv : env.Native) (ht : t.Native) :
    ScopedRun (env.openNamesOf t) (evaluate n env t) :=
  (evaluate_apply_scoped n).1 env t henv ht

/-- Evaluation on its own stays within the free names of the term. -/
theorem evaluate_empty_scoped (n : Nat) {t : Term} (ht : t.Native) :
    ScopedRun t.freeNames (evaluate n .empty t) := by
  rw [← Env.openNamesOf_empty]
  exact evaluate_scoped n Env.native_empty ht

/-- **Scope safety and blame**: in a native environment a native term gives a native value that
leaves open no more than went in, or blames an open name, or reaches the limit on depth. On its own,
a closed term blames nothing, and an open one only its own free names. -/
theorem evaluate_blames_open_names {t : Term} (ht : t.Native) :
    (∀ (n : Nat) (env : Env), env.Native →
      (∃ v : Value, evaluate n env t = pure v ∧ v.Native ∧ v.openNames ⊆ env.openNamesOf t) ∨
      (∃ x ∈ env.openNamesOf t, evaluate n env t = .fail (.unbound x)) ∨
      evaluate n env t = .fail .depthExceeded) ∧
    (t.isClosed = true → ∀ n x, (evaluate n .empty t).outcome ≠ .error (.unbound x)) ∧
    (∀ n x, (evaluate n .empty t).outcome = .error (.unbound x) → x ∈ t.freeNames) := by
  have hblame : ∀ n x, (evaluate n .empty t).outcome = .error (.unbound x) → x ∈ t.freeNames :=
    fun n _ hx => (evaluate_empty_scoped n ht).mem_of_unbound hx
  refine ⟨fun n env henv => ?_, fun hc n x hx => ?_, hblame⟩
  · exact (evaluate_scoped n henv ht).outcomes
  · have hmem := hblame n x hx
    rw [Term.isClosed_iff.mp hc] at hmem
    cases hmem

/-- An environment with a closure that captured a closure, whose body asks for `q`. -/
def leaky : Env :=
  Env.empty.extend "f"
    (.closure (Env.empty.extend "g" (.closure .empty "y" (.var "q"))) "x"
      (.app (.var "g") (.var "x")))

/-- A name is blamed that is not free in the term: the captured closure left it open. -/
theorem captured_name_is_blamed :
    (Term.app (.var "f") (.abs "z" (.var "w"))).Native ∧ leaky.Native ∧
      evaluate 6 leaky (.app (.var "f") (.abs "z" (.var "w"))) = .fail (.unbound "q") ∧
      "q" ∈ leaky.openNamesOf (.app (.var "f") (.abs "z" (.var "w"))) := by
  have ht : (Term.app (.var "f") (.abs "z" (.var "w"))).Native := by decide
  have henv : leaky.Native := ⟨⟨⟨trivial, trivial⟩, ⟨trivial, trivial⟩, trivial⟩, trivial⟩
  have hrun : evaluate 6 leaky (.app (.var "f") (.abs "z" (.var "w"))) = .fail (.unbound "q") := rfl
  refine ⟨ht, henv, hrun, ?_⟩
  rcases (evaluate_blames_open_names ht).1 6 leaky henv with ⟨v, hv, -⟩ | ⟨x, hx, hxr⟩ | hd
  · rw [hrun] at hv
    cases hv
  · rw [hrun] at hxr
    cases hxr
    exact hx
  · rw [hrun] at hd
    cases hd

end CallByValue
