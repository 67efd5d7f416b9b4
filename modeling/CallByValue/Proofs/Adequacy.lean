import CallByValue.Proofs.Depth
import CallByValue.Proofs.Reduction
import CallByValue.Proofs.Scope
import Mathlib.Logic.Function.Basic

/-!
# Environments against substitution

The evaluator never substitutes: it leaves a name in the body and looks it up later. **Reading
back** a closure does what was left undone, and turns it into the abstraction that it stands for.
Then both accounts of evaluation agree on closed terms.

* `Term.instantiate` — several names replaced at once;
* `Value.readback`, `Env.readback` — the term of a value, and of each name of an environment;
* `Value.Closed`, `ClosedIn` — values and terms of which no name is left open;
* `bigStep_of_evaluate` — **soundness**: what evaluation returns, reduction reaches;
* `evaluation_of_bigStep` — **completeness**: what reduction reaches, evaluation returns.
-/

namespace CallByValue

/-! ## Simultaneous substitution -/

namespace Term

/-- The term with each free name replaced by what `σ` gives for it, if it gives anything. Binders
are not renamed. -/
def instantiate : Term → (σ : String → Option Term) → Term
  | var x, σ => (σ x).getD (var x)
  | abs x body, σ => abs x (body.instantiate (Function.update σ x none))
  | app fn arg, σ => app (fn.instantiate σ) (arg.instantiate σ)
  | foreign d, _ => foreign d

/-- Nothing is replaced by nothing. -/
theorem instantiate_none (t : Term) : t.instantiate (fun _ => none) = t := by
  induction t with
  | var x => rfl
  | abs x body ih => rw [instantiate, Function.update_eq_self, ih]
  | app fn arg ihf iha => rw [instantiate, ihf, iha]
  | foreign d => rfl

/-- What is free after a replacement was free and is not replaced, or came in with a replacement. -/
theorem mem_freeNames_instantiate {z : String} {t : Term} {σ : String → Option Term}
    (h : z ∈ (t.instantiate σ).freeNames) :
    (z ∈ t.freeNames ∧ σ z = none) ∨ ∃ y w, σ y = some w ∧ z ∈ w.freeNames := by
  induction t generalizing σ with
  | var x =>
    rw [instantiate] at h
    cases hx : σ x with
    | none =>
      rw [hx] at h
      obtain rfl := List.mem_singleton.mp h
      exact .inl ⟨h, hx⟩
    | some w =>
      rw [hx] at h
      exact .inr ⟨x, w, hx, h⟩
  | abs x body ih =>
    obtain ⟨hb, hne⟩ := mem_freeNames_abs.mp h
    rcases ih hb with ⟨hm, hz⟩ | ⟨y, w, hy, hw⟩
    · rw [Function.update_of_ne hne] at hz
      exact .inl ⟨mem_freeNames_abs.mpr ⟨hm, hne⟩, hz⟩
    · by_cases hyx : y = x
      · rw [hyx, Function.update_self] at hy
        cases hy
      · rw [Function.update_of_ne hyx] at hy
        exact .inr ⟨y, w, hy, hw⟩
  | app fn arg ihf iha =>
    rw [instantiate, freeNames_app, List.mem_append] at h
    rw [freeNames_app, List.mem_append]
    rcases h with hf | ha
    · exact (ihf hf).imp_left fun ⟨hm, hz⟩ => ⟨.inl hm, hz⟩
    · exact (iha ha).imp_left fun ⟨hm, hz⟩ => ⟨.inr hm, hz⟩
  | foreign d => cases h

/-- **Substitution lemma**: what was held back for `x` can be put in afterwards, if all other
replacements are closed. -/
theorem subst_instantiate (t : Term) {σ : String → Option Term} (x : String) (w : Term)
    (hσ : ∀ y u, σ y = some u → u.freeNames = []) :
    (t.instantiate (Function.update σ x none)).subst x w =
      t.instantiate (Function.update σ x (some w)) := by
  induction t generalizing σ with
  | var y =>
    rw [instantiate, instantiate]
    by_cases hy : y = x
    · rw [hy, Function.update_self, Function.update_self]
      exact if_pos rfl
    · rw [Function.update_of_ne hy, Function.update_of_ne hy]
      cases hu : σ y with
      | none => exact if_neg hy
      | some u =>
        refine subst_of_not_mem ?_
        rw [Option.getD_some, hσ y u hu]
        exact List.not_mem_nil
  | abs y body ih =>
    rw [instantiate, instantiate]
    by_cases hy : y = x
    · rw [hy, subst_abs_self, Function.update_idem, Function.update_idem]
    · -- under a binder of another name, that name is held back too
      rw [subst_abs_ne hy, Function.update_comm (Ne.symm hy), Function.update_comm (Ne.symm hy), ih]
      intro z u hz
      by_cases hzy : z = y
      · rw [hzy, Function.update_self] at hz
        cases hz
      · rw [Function.update_of_ne hzy] at hz
        exact hσ z u hz
  | app fn arg ihf iha => rw [instantiate, instantiate, subst, ihf hσ, iha hσ]
  | foreign d => rfl

end Term

/-! ## Reading back -/

mutual

/-- The term that a value stands for. Host values have none, and are read back as a foreign leaf. -/
def Value.readback : Value → Term
  | .closure env param body => (Term.abs param body).instantiate env.readback
  | _ => .foreign .null

/-- The term that each bound name stands for. -/
def Env.readback : Env → String → Option Term
  | .empty => fun _ => none
  | .extend parent name value => Function.update parent.readback name (some value.readback)

end

theorem Value.readback_closure (env : Env) (param : String) (body : Term) :
    (Value.closure env param body).readback =
      .abs param (body.instantiate (Function.update env.readback param none)) := rfl

theorem Env.readback_extend (env : Env) (name : String) (value : Value) :
    (env.extend name value).readback =
      Function.update env.readback name (some value.readback) := rfl

/-- A name is read back as the value that is found for it. -/
theorem Env.readback_eq_find? (x : String) :
    ∀ env : Env, env.readback x = (env.find? x).map Value.readback
  | .empty => rfl
  | .extend parent bound value => by
    rw [Env.readback_extend, Env.find?]
    by_cases h : bound = x
    · rw [if_pos h, ← h, Function.update_self, Option.map_some]
    · rw [if_neg h, Function.update_of_ne (Ne.symm h), Env.readback_eq_find? x parent]

/-- In a native environment a name is read back as the value that is looked up for it. -/
theorem Env.Native.readback_eq_lookup {env : Env} (h : env.Native) (x : String) :
    env.readback x = (env.lookup x).map Value.readback := by
  rw [Env.readback_eq_find?]
  rcases h.lookup x with ⟨value, hl, hf, -⟩ | ⟨hl, hx⟩
  · rw [hl, hf]
  · rw [hl, (Env.find?_eq_none_iff x env).mpr hx]

/-- A native value is read back as an abstraction. -/
theorem Value.Native.readback_eq_abs {value : Value} (h : value.Native) :
    ∃ x b, value.readback = .abs x b := by
  obtain ⟨env, param, body, rfl⟩ := h.exists_closure
  exact ⟨param, _, rfl⟩

mutual

/-- Nothing is free in the term of a native value but its open names. -/
theorem Value.mem_openNames_of_readback {z : String} :
    ∀ {value : Value}, value.Native → z ∈ value.readback.freeNames → z ∈ value.openNames
  | .closure env param body, hv, hz => by
    rw [Value.openNames_closure, Env.mem_openNamesOf]
    rcases Term.mem_freeNames_instantiate hz with ⟨hm, hnone⟩ | ⟨y, w, hy, hw⟩
    · rw [Env.readback_eq_find?, Option.map_eq_none_iff, Env.find?_eq_none_iff] at hnone
      exact .inl ⟨hm, hnone⟩
    · exact .inr (Env.mem_openNames_of_readback hv.2 hy hw)
  | .primitive _ _, hv, _ => hv.elim
  | .constant _, hv, _ => hv.elim
  | .foreign _, hv, _ => hv.elim

/-- Nothing is free in the terms of a native environment but its open names. -/
theorem Env.mem_openNames_of_readback {y z : String} {w : Term} :
    ∀ {env : Env}, env.Native → env.readback y = some w → z ∈ w.freeNames → z ∈ env.openNames
  | .empty, _, hy, _ => by cases hy
  | .extend parent bound value, henv, hy, hz => by
    rw [Env.openNames_extend, List.mem_append]
    rw [Env.readback_extend] at hy
    by_cases h : y = bound
    · rw [h, Function.update_self] at hy
      obtain rfl := Option.some.inj hy
      exact .inl (Value.mem_openNames_of_readback henv.1 hz)
    · rw [Function.update_of_ne h] at hy
      exact .inr (Env.mem_openNames_of_readback henv.2 hy hz)

end

/-! ## Closed values -/

/-- A native value of which no name is left open. -/
def Value.Closed (value : Value) : Prop := value.Native ∧ value.openNames = []

/-- A native term in a native environment that leaves no name open. -/
structure ClosedIn (env : Env) (t : Term) : Prop where
  env_native : env.Native
  term_native : t.Native
  no_open_names : env.openNamesOf t = []

/-- The terms that a closed environment binds are closed. -/
theorem Env.readback_closed {env : Env} (h : env.Native) (ho : env.openNames = []) (y : String)
    (w : Term) (hy : env.readback y = some w) : w.freeNames = [] := by
  refine List.eq_nil_iff_forall_not_mem.mpr fun z hz => ?_
  have hmem := Env.mem_openNames_of_readback h hy hz
  rw [ho] at hmem
  cases hmem

namespace ClosedIn

variable {env : Env}

theorem empty {t : Term} (ht : t.Native) (hc : t.isClosed = true) : ClosedIn .empty t :=
  ⟨Env.native_empty, ht, by rw [Env.openNamesOf_empty, Term.isClosed_iff.mp hc]⟩

theorem fn {fn arg : Term} (h : ClosedIn env (.app fn arg)) : ClosedIn env fn := by
  refine ⟨h.env_native, h.term_native.1, List.eq_nil_of_subset_nil ?_⟩
  rw [← h.no_open_names]
  exact env.openNamesOf_fn fn arg

theorem arg {fn arg : Term} (h : ClosedIn env (.app fn arg)) : ClosedIn env arg := by
  refine ⟨h.env_native, h.term_native.2, List.eq_nil_of_subset_nil ?_⟩
  rw [← h.no_open_names]
  exact env.openNamesOf_arg fn arg

/-- Entering a closed closure with a closed argument. -/
theorem body {param : String} {body : Term} {argument : Value}
    (hf : (Value.closure env param body).Closed) (ha : argument.Closed) :
    ClosedIn (env.extend param argument) body := by
  refine ⟨Env.native_extend.mpr ⟨ha.1, hf.1.2⟩, hf.1.1, List.eq_nil_of_subset_nil ?_⟩
  have hsub := env.openNamesOf_body param body argument
  rwa [hf.2, ha.2, List.append_nil] at hsub

/-- What is evaluated in closed surroundings is closed. -/
theorem of_ok {t : Term} (h : ClosedIn env t) {n : Nat} {v : Value}
    (hv : (evaluate n env t).outcome = .ok v) : v.Closed := by
  have hs := evaluate_scoped n h.env_native h.term_native
  rw [h.no_open_names] at hs
  obtain ⟨-, hn, ho⟩ := hs.of_ok hv
  exact ⟨hn, List.eq_nil_of_subset_nil ho⟩

theorem of_equiv {t : Term} (h : ClosedIn env t) {v : Value} (hv : evaluation env t ≈ pure v) :
    v.Closed := by
  obtain ⟨n, hn⟩ := Limited.eventually_pure hv
  have hrun : evaluate n env t = pure v := hn n (Nat.le_refl n)
  exact h.of_ok (by rw [hrun]; rfl)

end ClosedIn

/-- Reading back a closed environment that was extended is substituting for the new name. -/
theorem Value.Closed.subst_readback {env : Env} {param : String} {body : Term}
    (hf : (Value.closure env param body).Closed) (argument : Value) :
    (body.instantiate (Function.update env.readback param none)).subst param argument.readback =
      body.instantiate (env.extend param argument).readback := by
  have ho : env.openNames = [] := (List.append_eq_nil_iff.mp hf.2).2
  rw [Env.readback_extend]
  exact Term.subst_instantiate body param _ (Env.readback_closed hf.1.2 ho)

/-! ## Soundness -/

/-- Both halves of soundness, by induction on the limit: a value that comes out is read back as what
reduction makes of the term, or of the body with the argument put in. -/
theorem bigStep_of_evaluate_apply (n : Nat) :
    (∀ {env : Env} {t : Term} {v : Value}, ClosedIn env t → (evaluate n env t).outcome = .ok v →
      (t.instantiate env.readback).BigStep v.readback) ∧
    (∀ {env : Env} {param : String} {body : Term} {argument v : Value},
      (Value.closure env param body).Closed → argument.Closed →
      (apply n (.closure env param body) argument).outcome = .ok v →
      ((body.instantiate (Function.update env.readback param none)).subst param
        argument.readback).BigStep v.readback) := by
  induction n with
  | zero =>
    exact ⟨fun _ hv => absurd hv evaluate_zero_ne_ok, fun _ _ hv => absurd hv apply_zero_ne_ok⟩
  | succ n ih =>
    obtain ⟨hev, hap⟩ := ih
    refine ⟨fun {env t v} h hv => ?_, fun {env param body argument v} hf ha hv => ?_⟩
    · cases t with
      | var x =>
        obtain ⟨y, c, hr⟩ := (h.of_ok hv).1.readback_eq_abs
        rw [Term.instantiate, h.env_native.readback_eq_lookup, lookup_of_evaluate_var hv,
          Option.map_some, Option.getD_some, hr]
        exact .abs y c
      | abs param body =>
        obtain rfl := Except.ok.inj hv
        exact .abs param _
      | app fn arg =>
        obtain ⟨f, a, hf, ha, hv⟩ := evaluate_app_ok hv
        have hfc := h.fn.of_ok hf
        have hac := h.arg.of_ok ha
        obtain ⟨env', param, body, rfl⟩ := hfc.1.exists_closure
        exact .app (hev h.fn hf) (hev h.arg ha) (hap hfc hac hv)
      | foreign datum => exact h.term_native.elim
    · rw [apply_closure] at hv
      rw [hf.subst_readback]
      exact hev (ClosedIn.body hf ha) hv

/-- **Soundness**: what evaluation returns is read back as what reduction reaches. -/
theorem bigStep_of_evaluate {n : Nat} {env : Env} {t : Term} {v : Value} (h : ClosedIn env t)
    (hv : (evaluate n env t).outcome = .ok v) : (t.instantiate env.readback).BigStep v.readback :=
  (bigStep_of_evaluate_apply n).1 h hv

/-! ## Completeness -/

/-- **Completeness**: what reduction reaches, evaluation returns under every deep enough limit. The
induction is on the reduction of the term that is read back, whatever environment it comes from. -/
theorem evaluation_of_bigStep {u w : Term} (hb : u.BigStep w) :
    ∀ {env : Env} {t : Term}, ClosedIn env t → t.instantiate env.readback = u →
      ∃ v : Value, evaluation env t ≈ pure v ∧ v.readback = w := by
  induction hb with
  | abs y c =>
    intro env t h ht
    cases t with
    | var x =>
      rw [Term.instantiate, h.env_native.readback_eq_lookup] at ht
      rcases h.env_native.lookup x with ⟨value, hl, -, -⟩ | ⟨hl, -⟩
      · rw [hl] at ht
        exact ⟨value, evaluation_var hl, ht⟩
      · rw [hl] at ht
        cases ht
    | abs param body => exact ⟨_, evaluation_abs env param body, ht⟩
    | app fn arg => cases ht
    | foreign datum => exact h.term_native.elim
  | app _ _ _ ihf iha ihb =>
    intro env t h ht
    cases t with
    | var x =>
      -- what a name stands for is a value, and no application
      rw [Term.instantiate, h.env_native.readback_eq_lookup] at ht
      rcases h.env_native.lookup x with ⟨value, hl, -, hn⟩ | ⟨hl, -⟩
      · obtain ⟨y, c, hr⟩ := hn.readback_eq_abs
        rw [hl, Option.map_some, Option.getD_some, hr] at ht
        cases ht
      · rw [hl] at ht
        cases ht
    | abs param body => cases ht
    | app fn arg =>
      obtain ⟨hfn, harg⟩ := Term.app.inj ht
      obtain ⟨f, hf, hfr⟩ := ihf h.fn hfn
      obtain ⟨a, ha, har⟩ := iha h.arg harg
      have hfc := h.fn.of_equiv hf
      obtain ⟨env', param, body, rfl⟩ := hfc.1.exists_closure
      obtain ⟨rfl, rfl⟩ := Term.abs.inj hfr
      subst har
      obtain ⟨v, hv, hvr⟩ := ihb (ClosedIn.body hfc (h.arg.of_equiv ha))
        (hfc.subst_readback a).symm
      refine ⟨v, ?_, hvr⟩
      calc evaluation env (.app fn arg)
        _ ≈ application (.closure env' param body) a := evaluation_app_of_values hf ha
        _ ≈ evaluation (env'.extend param a) body := application_closure env' param body a
        _ ≈ pure v := hv
    | foreign datum => exact h.term_native.elim

/-! ## Adequacy -/

/-- **Adequacy**: on its own, a closed term returns only closures that are read back as the
abstraction it reduces to, and it returns one whenever it reduces to an abstraction. So it has a
normal form exactly when it returns a closure. -/
theorem evaluate_adequate {t : Term} (ht : t.Native) (hc : t.isClosed = true) :
    (∀ n env param body, (evaluate n .empty t).outcome = .ok (.closure env param body) →
      t.Reduces (Value.closure env param body).readback) ∧
    (∀ y c, t.Reduces (.abs y c) →
      ∃ env param body, (Value.closure env param body).readback = .abs y c ∧
        ∃ n, ∀ m, n ≤ m → evaluate m .empty t = pure (.closure env param body)) ∧
    ((∃ w, t.Reduces w ∧ w.IsNormal) ↔
      ∃ n env param body, (evaluate n .empty t).outcome = .ok (.closure env param body)) := by
  have h : ClosedIn .empty t := ClosedIn.empty ht hc
  have hinst : t.instantiate Env.empty.readback = t := t.instantiate_none
  have hsound : ∀ n env param body, (evaluate n .empty t).outcome = .ok (.closure env param body) →
      t.Reduces (Value.closure env param body).readback := by
    intro n env param body hv
    have hb := bigStep_of_evaluate h hv
    rw [hinst] at hb
    exact hb.reduces
  have hcomplete : ∀ y c, t.Reduces (.abs y c) →
      ∃ env param body, (Value.closure env param body).readback = .abs y c ∧
        ∃ n, ∀ m, n ≤ m → evaluate m .empty t = pure (.closure env param body) := by
    intro y c hr
    have hb : t.BigStep (.abs y c) := .of_reduces hr ⟨y, c, rfl⟩
    obtain ⟨v, hv, hvr⟩ := evaluation_of_bigStep hb h hinst
    obtain ⟨env, param, body, rfl⟩ := (h.of_equiv hv).1.exists_closure
    exact ⟨env, param, body, hvr, Limited.eventually_pure hv⟩
  refine ⟨hsound, hcomplete, ?_, ?_⟩
  · rintro ⟨w, hr, hn⟩
    obtain ⟨hw, hwc⟩ := hr.closed ht (Term.isClosed_iff.mp hc)
    obtain ⟨y, c, rfl⟩ := (Term.isNormal_iff hw hwc).mp hn
    obtain ⟨env, param, body, -, n, hrun⟩ := hcomplete y c hr
    exact ⟨n, env, param, body, by rw [hrun n (Nat.le_refl n)]; rfl⟩
  · rintro ⟨n, env, param, body, hv⟩
    exact ⟨_, hsound n env param body hv, Term.isNormal_abs _ _⟩

/-- A parameter that hides another one, bound to a closure that captured the other one:
`(λx. (λx. λy. x y) (λz. x)) (λa. a)`. -/
def hidden : Term :=
  .app (.abs "x" (.app (.abs "x" (.abs "y" (.app (.var "x") (.var "y")))) (.abs "z" (.var "x"))))
    (.abs "a" (.var "a"))

/-- The outer parameter is read back inside of the inner one. -/
theorem hidden_reduces : hidden.Native ∧ hidden.isClosed = true ∧
    hidden.Reduces (.abs "y" (.app (.abs "z" (.abs "a" (.var "a"))) (.var "y"))) := by
  have ht : hidden.Native := by decide
  have hc : hidden.isClosed = true := by decide
  exact ⟨ht, hc, (evaluate_adequate ht hc).1 6 _ _ _ rfl⟩

end CallByValue
