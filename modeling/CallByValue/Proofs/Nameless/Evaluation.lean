import CallByValue.Proofs.Depth
import CallByValue.Proofs.Lockstep
import CallByValue.Proofs.Nameless.Basic
import CallByValue.Proofs.Scope

/-!
# Evaluation of nameless terms

Nameless terms are evaluated by **substitution**: without environments, and with a limit on depth
that is used up at the same places as that of the evaluator. Reading back turns the one evaluation
into the other, under every limit. So what a term ends in depends on its nameless form only.

* `Nameless.evaluate`, `Nameless.apply` — evaluation and application, under a limit;
* `Nameless.evaluation`, `Nameless.application` — the same without a limit;
* `evaluate_nameless` — the evaluator, read back, evaluates what its term is read back as;
* `evaluate_nameless_ne_stuck` — which is never stuck.
-/

namespace CallByValue

namespace Nameless

/-! ## Evaluation under a limit -/

/-- The fault of evaluation that is **stuck**, which is not the limit on depth: there is no value
for a loose index, nor for something applied that is no function. -/
def stuck : Fault := .host (.raised ⟨"Stuck"⟩ "")

mutual

/-- The value of a nameless term, where evaluation may nest `depth` deep. A loose index is stuck. -/
def evaluate : (depth : Nat) → Nameless → Run Value Nameless
  | 0, _ => .fail .depthExceeded
  | _ + 1, .free x => .fail (.unbound x)
  | _ + 1, .abs body => pure (.abs body)
  | depth + 1, .app fn arg => do
    let function ← evaluate depth fn
    let argument ← evaluate depth arg
    apply depth function argument
  | _ + 1, .foreign datum => .fail (.host (.notATerm datum))
  | _ + 1, .bound _ => .fail stuck

/-- The result of applying a function to a value. What is no function is stuck. -/
def apply : (depth : Nat) → Nameless → Nameless → Run Value Nameless
  | 0, _, _ => .fail .depthExceeded
  | depth + 1, .abs body, argument => evaluate depth (body.openAt 0 argument)
  | _ + 1, _, _ => .fail stuck

end

@[simp] theorem evaluate_zero (t : Nameless) : evaluate 0 t = .fail .depthExceeded := by
  cases t <;> rfl

/-- An application evaluates the function, then the argument, and applies the one to the other. -/
theorem evaluate_app (n : Nat) (fn arg : Nameless) :
    evaluate (n + 1) (.app fn arg) =
      evaluate n fn >>= fun function =>
        evaluate n arg >>= fun argument => apply n function argument := rfl

@[simp] theorem apply_zero (function argument : Nameless) :
    apply 0 function argument = .fail .depthExceeded := by
  cases function <;> rfl

/-- A function is opened with its argument. -/
theorem apply_abs (n : Nat) (body argument : Nameless) :
    apply (n + 1) (.abs body) argument = evaluate n (body.openAt 0 argument) := rfl

/-! ## Evaluation without a limit -/

/-- Both halves of depth monotonicity, by induction on the smaller limit. -/
theorem evaluate_apply_refines (m : Nat) : ∀ n, m ≤ n →
    (∀ t, (evaluate m t).Refines (evaluate n t)) ∧
    (∀ function argument, (apply m function argument).Refines (apply n function argument)) := by
  induction m with
  | zero =>
    intro n _
    refine ⟨fun t => ?_, fun function argument => ?_⟩
    · rw [evaluate_zero]
      exact .of_depthExceeded _
    · rw [apply_zero]
      exact .of_depthExceeded _
  | succ m ih =>
    intro n hmn
    obtain ⟨n, rfl⟩ : ∃ k, n = k + 1 := ⟨n - 1, by omega⟩
    obtain ⟨hev, hap⟩ := ih n (by omega)
    refine ⟨fun t => ?_, fun function argument => ?_⟩
    · cases t with
      | app fn arg =>
        rw [evaluate_app, evaluate_app]
        exact (hev fn).bind fun _ => (hev arg).bind fun _ => hap _ _
      | _ => exact .refl _
    · cases function with
      | abs body => exact hev _
      | _ => exact .refl _

/-- The evaluation of a nameless term, under each limit. -/
def evaluation (t : Nameless) : Limited Nameless :=
  ⟨fun n => evaluate n t, fun h => (evaluate_apply_refines _ _ h).1 t⟩

/-- The application of a nameless term to another, under each limit. -/
def application (function argument : Nameless) : Limited Nameless :=
  ⟨fun n => apply n function argument,
    fun h => (evaluate_apply_refines _ _ h).2 function argument⟩

theorem evaluation_abs (body : Nameless) : evaluation (.abs body) ≈ pure (.abs body) :=
  Limited.equiv_of_succ fun _ => rfl

theorem evaluation_app (fn arg : Nameless) :
    evaluation (.app fn arg) ≈
      (evaluation fn >>= fun function =>
        evaluation arg >>= fun argument => application function argument) :=
  Limited.equiv_of_succ fun _ => rfl

/-- An application whose function is an abstraction goes on with the argument. -/
theorem evaluation_app_abs (body arg : Nameless) :
    evaluation (.app (.abs body) arg) ≈
      (evaluation arg >>= fun argument => application (.abs body) argument) :=
  Setoid.trans (evaluation_app _ arg) (Limited.bind_of_pure (evaluation_abs body) _)

theorem application_abs (body argument : Nameless) :
    application (.abs body) argument ≈ evaluation (body.openAt 0 argument) :=
  Limited.equiv_of_succ fun _ => rfl

end Nameless

/-! ## The evaluator read back -/

/-- The value is native and is read back as the nameless term. -/
def Value.ReadsAs (value : Value) (t : Nameless) : Prop := value.Native ∧ value.nameless = t

/-- A native value is read back as a function. -/
theorem Value.Native.nameless_eq_abs {value : Value} (h : value.Native) :
    ∃ body, value.nameless = .abs body := by
  obtain ⟨env, param, body, rfl⟩ := h.exists_closure
  exact ⟨_, Value.nameless_closure env param body⟩

/-- A variable gives the value that it is read back as, or is blamed. -/
theorem evaluate_var_nameless (n : Nat) {env : Env} (henv : env.Native) (x : String) :
    Run.Lockstep Value.ReadsAs Eq (evaluate (n + 1) env (.var x))
      (Nameless.evaluate (n + 1) ((Term.var x).resolve [] env.nameless)) := by
  rw [evaluate_var, Term.resolve_var_of_none List.idxOf?_nil, Env.nameless_eq_find?]
  rcases henv.lookup x with ⟨value, hl, hf, hv⟩ | ⟨hl, hx⟩
  · -- what a name is bound to is read back as a function, and that evaluates to itself
    obtain ⟨body, hb⟩ := hv.nameless_eq_abs
    rw [hl, hf, Option.map_some, Option.getD_some, hb]
    exact .pure ⟨hv, hb⟩
  · rw [hl, (Env.find?_eq_none_iff x env).mpr hx]
    exact .fail rfl

/-- Both halves, by induction on the limit, which is the same on both sides: the evaluator goes
through the steps that evaluation of nameless terms goes through. -/
theorem evaluate_apply_nameless (n : Nat) :
    (∀ {env : Env} {t : Term}, env.Native → t.Native →
      Run.Lockstep Value.ReadsAs Eq (evaluate n env t)
        (Nameless.evaluate n (t.resolve [] env.nameless))) ∧
    (∀ {f a : Value} {f' a' : Nameless}, f.ReadsAs f' → a.ReadsAs a' →
      Run.Lockstep Value.ReadsAs Eq (apply n f a) (Nameless.apply n f' a')) := by
  induction n with
  | zero =>
    refine ⟨fun {env t} _ _ => ?_, fun {f a f' a'} _ _ => ?_⟩
    · rw [evaluate_zero, Nameless.evaluate_zero]
      exact .fail rfl
    · rw [apply_zero, Nameless.apply_zero]
      exact .fail rfl
  | succ n ih =>
    obtain ⟨hev, hap⟩ := ih
    refine ⟨fun {env t} henv ht => ?_, fun {f a f' a'} hf ha => ?_⟩
    · cases t with
      | var x => exact evaluate_var_nameless n henv x
      | abs param body => exact .pure ⟨⟨ht, henv⟩, rfl⟩
      | app fn arg =>
        rw [evaluate_app, Term.resolve, Nameless.evaluate_app]
        exact (hev henv ht.1).bind fun f f' hf => (hev henv ht.2).bind fun a a' ha => hap hf ha
      | foreign datum => exact ht.elim
    · -- binding the parameter on the one side is substituting for it on the other
      obtain ⟨hfn, rfl⟩ := hf
      obtain ⟨han, rfl⟩ := ha
      obtain ⟨env, param, body, rfl⟩ := hfn.exists_closure
      rw [apply_closure, Value.nameless_closure, Nameless.apply_abs, Value.nameless_openAt]
      exact hev (Env.native_extend.mpr ⟨han, hfn.2⟩) hfn.1

/-- **Evaluation reads back**: on its own, a native term gives a value that is read back as what its
nameless form gives, or the same fault. -/
theorem evaluate_nameless (n : Nat) {t : Term} (ht : t.Native) :
    Run.Lockstep Value.ReadsAs Eq (evaluate n .empty t) (Nameless.evaluate n t.nameless) :=
  (evaluate_apply_nameless n).1 Env.native_empty ht

/-- The nameless form of a native term is never stuck. -/
theorem evaluate_nameless_ne_stuck (n : Nat) {t : Term} (ht : t.Native) :
    (Nameless.evaluate n t.nameless).outcome ≠ .error Nameless.stuck := by
  intro hstuck
  have hfault := (evaluate_nameless n ht).outcome_eq_error_iff.mpr hstuck
  rcases (evaluate_empty_scoped n ht).outcomes with ⟨v, hv, -⟩ | ⟨x, -, hx⟩ | hd
  · rw [hv] at hfault
    cases hfault
  · rw [hx] at hfault
    cases hfault
  · rw [hd] at hfault
    cases hfault

end CallByValue
