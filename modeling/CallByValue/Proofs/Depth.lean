import CallByValue.Evaluator

/-!
# The limit on depth

Evaluation takes a limit on its depth, and reaching it is a fault. A run that **finished**, that is,
ended in any other way, is the same under every deeper limit. So the limit can be forgotten:

* `Run.Refines` — a run stays as it is once it has finished; `evaluate` and `apply` refine as the
  limit grows (`evaluate_refines`, `apply_refines`);
* `Limited` — a run for each limit, with that guarantee. Limited computations form a monad, and
  `Limited.Ends` is what they do under all deep enough limits;
* `evaluation`, `application` — the evaluator as limited computations, with one equation up to `≈`
  for each rule. Here the equations do not count depth.
-/

namespace CallByValue

/-! ## Finished runs -/

namespace Run

variable {ω α β : Type}

/-- The run ended otherwise than by reaching the limit on depth. -/
def Finished (run : Run ω α) : Prop := run.outcome ≠ .error .depthExceeded

/-- The second run is the first one, if that has finished. -/
def Refines (run deeper : Run ω α) : Prop := run.Finished → deeper = run

theorem finished_of_ok {run : Run ω α} {a : α} (h : run.outcome = .ok a) : run.Finished := by
  rw [Finished, h]
  exact nofun

/-- A run that ended in a fault finished, unless that is the fault of the limit. -/
theorem finished_error_iff {notes : List ω} {fault : Fault} :
    (⟨notes, .error fault⟩ : Run ω α).Finished ↔ fault ≠ .depthExceeded := by
  constructor
  · rintro h rfl
    exact h rfl
  · intro h ho
    exact h (Except.error.inj ho)

theorem not_finished_depthExceeded : ¬ (fail .depthExceeded : Run ω α).Finished :=
  fun h => h rfl

theorem Refines.refl (run : Run ω α) : run.Refines run := fun _ => rfl

/-- A run that reached the limit refines to any other. -/
theorem Refines.of_depthExceeded (deeper : Run ω α) :
    (fail .depthExceeded : Run ω α).Refines deeper :=
  fun h => absurd h not_finished_depthExceeded

/-- A run has finished when all that follows it has. -/
theorem Finished.of_bind {run : Run ω α} {next : α → Run ω β} (h : (run >>= next).Finished) :
    run.Finished := by
  intro ho
  rw [bind_of_error ho] at h
  exact h rfl

/-- Lift refinement along what follows. -/
theorem Refines.bind {run deeper : Run ω α} {next next' : α → Run ω β} (hr : run.Refines deeper)
    (hn : ∀ a, (next a).Refines (next' a)) : (run >>= next).Refines (deeper >>= next') := by
  intro h
  rw [hr h.of_bind]
  cases ho : run.outcome with
  | error fault => rw [bind_of_error ho, bind_of_error ho]
  | ok a =>
    rw [bind_of_ok ho] at h
    rw [bind_of_ok ho, bind_of_ok ho, hn a h]

end Run

/-! ## The evaluator under deeper limits -/

/-- A host function makes the same of a call that refines. -/
theorem Action.perform_refines {call call' : Value → Value → Run Value Value}
    (hc : ∀ function argument, (call function argument).Refines (call' function argument)) :
    ∀ (action : Action) (argument : Value),
      (action.perform call argument).Refines (action.perform call' argument)
  | .callWith value, argument => hc argument value
  | .inspect choose, argument => Action.perform_refines hc (choose argument.look) argument
  | .andThen first next, argument =>
    (Action.perform_refines hc first argument).bind fun result =>
      Action.perform_refines hc next result
  | .successor, _ => .refl _
  | .spy, _ => .refl _
  | .always _, _ => .refl _
  | .fail _, _ => .refl _

/-- Both halves of depth monotonicity, by induction on the smaller limit. -/
theorem evaluate_apply_refines (m : Nat) : ∀ n, m ≤ n →
    (∀ env t, (evaluate m env t).Refines (evaluate n env t)) ∧
    (∀ function argument, (apply m function argument).Refines (apply n function argument)) := by
  induction m with
  | zero =>
    intro n _
    refine ⟨fun env t => ?_, fun function argument => ?_⟩
    · rw [evaluate_zero]
      exact .of_depthExceeded _
    · rw [apply_zero]
      exact .of_depthExceeded _
  | succ m ih =>
    intro n hmn
    obtain ⟨n, rfl⟩ : ∃ k, n = k + 1 := ⟨n - 1, by omega⟩
    obtain ⟨hev, hap⟩ := ih n (by omega)
    refine ⟨fun env t => ?_, fun function argument => ?_⟩
    -- only applications nest; in all other cases the limit is not looked at again
    · cases t with
      | app fn arg =>
        rw [evaluate_app, evaluate_app]
        exact (hev env fn).bind fun _ => (hev env arg).bind fun _ => hap _ _
      | _ => exact .refl _
    · cases function with
      | closure env param body => exact hev _ body
      | primitive name action =>
        rw [apply_primitive, apply_primitive]
        exact (Action.perform_refines hap action argument).bind fun _ => .refl _
      | _ => exact .refl _

/-- **Depth monotonicity** of evaluation: a finished run is the same under every deeper limit. -/
theorem evaluate_refines {m n : Nat} (h : m ≤ n) (env : Env) (t : Term) :
    (evaluate m env t).Refines (evaluate n env t) :=
  (evaluate_apply_refines m n h).1 env t

/-- **Depth monotonicity** of application. -/
theorem apply_refines {m n : Nat} (h : m ≤ n) (function argument : Value) :
    (apply m function argument).Refines (apply n function argument) :=
  (evaluate_apply_refines m n h).2 function argument

/-- **Results do not depend on the limit**: whatever an evaluation or an application ends in, other
than the fault of the limit, it ends in under every deeper limit, with the same notes. -/
theorem evaluate_apply_eq_of_le {m n : Nat} (h : m ≤ n) :
    (∀ env t, (evaluate m env t).outcome ≠ .error .depthExceeded →
      evaluate n env t = evaluate m env t) ∧
    (∀ function argument, (apply m function argument).outcome ≠ .error .depthExceeded →
      apply n function argument = apply m function argument) :=
  ⟨fun env t => evaluate_refines h env t, fun function argument => apply_refines h function argument⟩

/-- A host function that calls its argument back, and one that notes what it is called with. -/
def hostSite : Env :=
  (Env.empty.extend "note" (.primitive "note" .spy)).extend "call"
    (.primitive "call" (.callWith (.constant .null)))

/-- A call back that takes three levels, and a host function that raises an error of its own after
one, do the same under a thousand. -/
theorem call_back_eq_of_le :
    3 ≤ 1000 ∧
      evaluate 1000 hostSite (.app (.var "call") (.var "note")) =
        ⟨[.constant .null], .ok (.constant .null)⟩ ∧
      apply 1000 (.primitive "raise" (.fail (.host (.raised .valueError "no")))) (.constant .null) =
        .fail (.host (.raised .valueError "no")) := by
  have hle : 3 ≤ 1000 := by decide
  obtain ⟨hev, hap⟩ := evaluate_apply_eq_of_le hle
  exact ⟨hle, hev hostSite (.app (.var "call") (.var "note")) nofun,
    hap (.primitive "raise" (.fail (.host (.raised .valueError "no")))) (.constant .null) nofun⟩

/-! ## Limited computations -/

/-- A run for each limit on depth, of which a finished one is the same under every deeper limit. -/
structure Limited (α : Type) where
  /-- the run under a limit -/
  run : (depth : Nat) → Run Value α
  /-- a deeper limit changes only a run that reached the limit -/
  refines : ∀ {m n : Nat}, m ≤ n → (run m).Refines (run n)

namespace Limited

variable {α β : Type}

instance : Monad Limited where
  pure a := ⟨fun _ => pure a, fun _ => .refl _⟩
  bind c next := ⟨fun n => c.run n >>= fun a => (next a).run n,
    fun h => (c.refines h).bind fun a => (next a).refines h⟩

@[ext] theorem ext {c d : Limited α} (h : ∀ n, c.run n = d.run n) : c = d := by
  cases c; cases d
  congr
  exact funext h

@[simp] theorem run_pure (a : α) (n : Nat) : (pure a : Limited α).run n = pure a := rfl

@[simp] theorem run_bind (c : Limited α) (next : α → Limited β) (n : Nat) :
    (c >>= next).run n = c.run n >>= fun a => (next a).run n := rfl

instance : LawfulMonad Limited := LawfulMonad.mk' _
  (fun c => Limited.ext fun n => bind_pure (c.run n))
  (fun a next => Limited.ext fun n => Run.pure_bind' a fun b => (next b).run n)
  (fun c next after => Limited.ext fun n =>
    bind_assoc (c.run n) (fun a => (next a).run n) fun b => (after b).run n)

/-- Under some limit the computation finishes with this run. -/
def Ends (c : Limited α) (r : Run Value α) : Prop := r.Finished ∧ ∃ n, c.run n = r

/-- Under some limit the computation ends with this result, whatever it notes. -/
def Returns (c : Limited α) (a : α) : Prop := ∃ n, (c.run n).outcome = .ok a

/-- Two computations are equivalent when they finish with the same runs. -/
instance : Setoid (Limited α) where
  r c d := ∀ r, c.Ends r ↔ d.Ends r
  iseqv :=
    ⟨fun _ _ => Iff.rfl, fun h r => (h r).symm, fun h₁ h₂ r => (h₁ r).trans (h₂ r)⟩

instance : Trans (α := Limited α) (β := Limited α) (γ := Limited α) (· ≈ ·) (· ≈ ·) (· ≈ ·) :=
  ⟨Setoid.trans⟩

/-- A computation ends in the same way under every deep enough limit. -/
theorem Ends.eventually {c : Limited α} {r : Run Value α} (h : c.Ends r) :
    ∃ n, ∀ m, n ≤ m → c.run m = r := by
  obtain ⟨hf, n, rfl⟩ := h
  exact ⟨n, fun m hnm => c.refines hnm hf⟩

/-- A computation ends in one way only. -/
theorem Ends.unique {c : Limited α} {r s : Run Value α} (hr : c.Ends r) (hs : c.Ends s) :
    r = s := by
  obtain ⟨n, hn⟩ := hr.eventually
  obtain ⟨m, hm⟩ := hs.eventually
  rw [← hn (max n m) (Nat.le_max_left n m), ← hm (max n m) (Nat.le_max_right n m)]

theorem ends_pure (a : α) : (pure a : Limited α).Ends (pure a) :=
  ⟨Run.finished_of_ok rfl, 0, rfl⟩

/-- A computation returns when it ends with a result. -/
theorem returns_iff {c : Limited α} {a : α} :
    c.Returns a ↔ ∃ notes, c.Ends ⟨notes, .ok a⟩ := by
  constructor
  · rintro ⟨n, hn⟩
    exact ⟨(c.run n).notes, Run.finished_of_ok rfl, n, Run.ext rfl hn⟩
  · rintro ⟨notes, -, n, hn⟩
    exact ⟨n, by rw [hn]⟩

theorem Returns.eventually {c : Limited α} {a : α} (h : c.Returns a) :
    ∃ n, ∀ m, n ≤ m → (c.run m).outcome = .ok a := by
  obtain ⟨notes, hc⟩ := returns_iff.mp h
  obtain ⟨n, hn⟩ := hc.eventually
  exact ⟨n, fun m hnm => by rw [hn m hnm]⟩

/-- A computation returns one result only. -/
theorem Returns.unique {c : Limited α} {a b : α} (ha : c.Returns a) (hb : c.Returns b) : a = b := by
  obtain ⟨n, hn⟩ := ha.eventually
  obtain ⟨m, hm⟩ := hb.eventually
  have h₁ := hn (max n m) (Nat.le_max_left n m)
  have h₂ := hm (max n m) (Nat.le_max_right n m)
  exact Except.ok.inj (h₁.symm.trans h₂)

/-- A computation that is equivalent to a result is that result under every deep enough limit. -/
theorem eventually_pure {c : Limited α} {a : α} (h : c ≈ pure a) :
    ∃ n, ∀ m, n ≤ m → c.run m = pure a :=
  ((h _).mpr (ends_pure a)).eventually

theorem returns_of_pure {c : Limited α} {a : α} (h : c ≈ pure a) : c.Returns a :=
  returns_iff.mpr ⟨[], (h _).mpr (ends_pure a)⟩

/-! ### Sequences -/

theorem Ends.bind_ok {c : Limited α} {next : α → Limited β} {notes : List Value} {a : α}
    {r : Run Value β} (hc : c.Ends ⟨notes, .ok a⟩) (hn : (next a).Ends r) :
    (c >>= next).Ends ⟨notes ++ r.notes, r.outcome⟩ := by
  -- both parts end in their way under the larger of their limits
  obtain ⟨m, hm⟩ := hc.eventually
  obtain ⟨n, hn'⟩ := hn.eventually
  refine ⟨hn.1, max m n, ?_⟩
  rw [run_bind, hm _ (Nat.le_max_left m n), Run.bind_ok, hn' _ (Nat.le_max_right m n)]

theorem Ends.bind_error {c : Limited α} {notes : List Value} {fault : Fault}
    (hc : c.Ends ⟨notes, .error fault⟩) (next : α → Limited β) :
    (c >>= next).Ends ⟨notes, .error fault⟩ := by
  obtain ⟨hf, n, hn⟩ := hc
  have hfault : fault ≠ .depthExceeded := Run.finished_error_iff.mp hf
  refine ⟨Run.finished_error_iff.mpr hfault, n, ?_⟩
  rw [run_bind, hn, Run.bind_error]

/-- Inversion for sequences. -/
theorem Ends.bind_inv {c : Limited α} {next : α → Limited β} {r : Run Value β}
    (h : (c >>= next).Ends r) :
    (∃ notes a s, c.Ends ⟨notes, .ok a⟩ ∧ (next a).Ends s ∧ r = ⟨notes ++ s.notes, s.outcome⟩) ∨
    (∃ notes fault, c.Ends ⟨notes, .error fault⟩ ∧ r = ⟨notes, .error fault⟩) := by
  obtain ⟨hf, n, hn⟩ := h
  rw [run_bind] at hn
  cases ho : (c.run n).outcome with
  | ok a =>
    rw [Run.bind_of_ok ho] at hn
    subst hn
    exact .inl ⟨_, a, (next a).run n, ⟨Run.finished_of_ok rfl, n, Run.ext rfl ho⟩,
      ⟨hf, n, rfl⟩, rfl⟩
  | error fault =>
    rw [Run.bind_of_error ho] at hn
    subst hn
    have hfault : fault ≠ .depthExceeded := Run.finished_error_iff.mp hf
    exact .inr ⟨_, fault, ⟨Run.finished_error_iff.mpr hfault, n, Run.ext rfl ho⟩, rfl⟩

theorem Returns.bind {c : Limited α} {next : α → Limited β} {a : α} {b : β} (hc : c.Returns a)
    (hn : (next a).Returns b) : (c >>= next).Returns b := by
  obtain ⟨m, hm⟩ := hc.eventually
  obtain ⟨n, hn'⟩ := hn.eventually
  refine ⟨max m n, ?_⟩
  rw [run_bind, Run.bind_of_ok (hm _ (Nat.le_max_left m n))]
  exact hn' _ (Nat.le_max_right m n)

/-- Equivalent computations return the same results. -/
theorem returns_congr {c d : Limited α} (h : c ≈ d) (a : α) : c.Returns a ↔ d.Returns a := by
  rw [returns_iff, returns_iff]
  exact exists_congr fun notes => h _

/-- Half of `bind_congr`: only what the first computation returns has to be looked at. -/
theorem ends_bind_imp {c d : Limited α} {next next' : α → Limited β} (hc : c ≈ d)
    (hn : ∀ a, c.Returns a → next a ≈ next' a) {r : Run Value β} (h : (c >>= next).Ends r) :
    (d >>= next').Ends r := by
  rcases h.bind_inv with ⟨notes, a, s, hca, hs, rfl⟩ | ⟨notes, fault, hcf, rfl⟩
  · exact ((hc _).mp hca).bind_ok ((hn a (returns_iff.mpr ⟨notes, hca⟩) s).mp hs)
  · exact ((hc _).mp hcf).bind_error next'

/-- Equivalence is kept by sequences. -/
theorem bind_congr {c d : Limited α} {next next' : α → Limited β} (hc : c ≈ d)
    (hn : ∀ a, c.Returns a → next a ≈ next' a) : (c >>= next) ≈ (d >>= next') := by
  intro r
  exact ⟨fun h => ends_bind_imp hc hn h,
    fun h => ends_bind_imp (Setoid.symm hc)
      (fun a ha => Setoid.symm (hn a ((returns_congr hc a).mpr ha))) h⟩

/-- A first computation that is just a result can be left out. -/
theorem bind_of_pure {c : Limited α} {a : α} (hc : c ≈ pure a) (next : α → Limited β) :
    (c >>= next) ≈ next a := by
  have h : (c >>= next) ≈ (pure a >>= next) := bind_congr hc fun _ _ => Setoid.refl _
  rwa [pure_bind] at h

/-- A computation that takes one more level of depth is equivalent. -/
theorem equiv_of_succ {c d : Limited α} (h : ∀ n, c.run (n + 1) = d.run n) : c ≈ d := by
  intro r
  constructor
  · intro hc
    obtain ⟨n, hn⟩ := hc.eventually
    exact ⟨hc.1, n, by rw [← h n, hn (n + 1) (by omega)]⟩
  · rintro ⟨hf, n, hn⟩
    exact ⟨hf, n + 1, by rw [h n, hn]⟩

end Limited

/-! ## The evaluator without a limit -/

/-- The evaluation of a term, under each limit. -/
def evaluation (env : Env) (t : Term) : Limited Value :=
  ⟨fun n => evaluate n env t, fun h => evaluate_refines h env t⟩

/-- The application of a value to another, under each limit. -/
def application (function argument : Value) : Limited Value :=
  ⟨fun n => apply n function argument, fun h => apply_refines h function argument⟩

@[simp] theorem run_evaluation (env : Env) (t : Term) (n : Nat) :
    (evaluation env t).run n = evaluate n env t := rfl

@[simp] theorem run_application (function argument : Value) (n : Nat) :
    (application function argument).run n = apply n function argument := rfl

theorem evaluation_var {env : Env} {x : String} {value : Value} (h : env.lookup x = some value) :
    evaluation env (.var x) ≈ pure value :=
  Limited.equiv_of_succ fun n => by
    rw [run_evaluation, evaluate_var, h]
    rfl

theorem evaluation_abs (env : Env) (param : String) (body : Term) :
    evaluation env (.abs param body) ≈ pure (.closure env param body) :=
  Limited.equiv_of_succ fun _ => rfl

theorem evaluation_app (env : Env) (fn arg : Term) :
    evaluation env (.app fn arg) ≈
      (evaluation env fn >>= fun function =>
        evaluation env arg >>= fun argument => application function argument) :=
  Limited.equiv_of_succ fun _ => rfl

/-- An application whose function denotes a value goes on with the argument. -/
theorem evaluation_app_of_fn {env : Env} {fn : Term} {function : Value}
    (hf : evaluation env fn ≈ pure function) (arg : Term) :
    evaluation env (.app fn arg) ≈ (evaluation env arg >>= fun a => application function a) :=
  Setoid.trans (evaluation_app env fn arg) (Limited.bind_of_pure hf _)

/-- An application of which both parts denote values applies the one to the other. -/
theorem evaluation_app_of_values {env : Env} {fn arg : Term} {function argument : Value}
    (hf : evaluation env fn ≈ pure function) (ha : evaluation env arg ≈ pure argument) :
    evaluation env (.app fn arg) ≈ application function argument :=
  Setoid.trans (evaluation_app_of_fn hf arg) (Limited.bind_of_pure ha _)

theorem application_closure (env : Env) (param : String) (body : Term) (argument : Value) :
    application (.closure env param body) argument ≈ evaluation (env.extend param argument) body :=
  Limited.equiv_of_succ fun _ => rfl

end CallByValue
