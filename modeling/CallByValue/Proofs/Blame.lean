import CallByValue.Proofs.Nameless.Evaluation
import CallByValue.Proofs.Renaming
import Mathlib.Logic.Relation

/-!
# The variable that is blamed

An open term can get **stuck**: what is to be reduced next is a free variable, which is no value and
takes no step. Reduction of open terms needs substitution that avoids capture, while the evaluator
looks names up where a closure was made. Both agree on which variable is to blame, and neither looks
at the arguments that were still to come.

* `Term.OpenStep`, `Term.OpenReduces` — reduction by value, from left to right, of open terms;
* `Term.Next` — the part of a term that is to be reduced next;
* `Term.follows_evaluate` — **soundness**: reduction goes where evaluation of the nameless form
  goes, to a function or to the same stuck variable;
* `Term.OpenStep.evaluation_equiv` — **completeness**: a step does not change what evaluation of the
  nameless form ends in;
* `evaluate_blames_iff_stuck` — evaluation blames the variable that reduction gets stuck on.
-/

namespace CallByValue

namespace Term

/-! ## Reduction of open terms -/

/-- One step of reduction by value, from left to right. Only abstractions are values. -/
inductive OpenStep : Term → Term → Prop where
  /-- a step of the function -/
  | fn {fn fn' arg : Term} (h : OpenStep fn fn') : OpenStep (app fn arg) (app fn' arg)
  /-- a step of the argument of an abstraction -/
  | arg {x : String} {b arg arg' : Term} (h : OpenStep arg arg') :
    OpenStep (app (abs x b) arg) (app (abs x b) arg')
  /-- the application of an abstraction to an abstraction -/
  | beta {x y : String} {b c : Term} :
    OpenStep (app (abs x b) (abs y c)) (b.substAvoid x (abs y c))

/-- Finitely many steps. -/
abbrev OpenReduces : Term → Term → Prop := Relation.ReflTransGen OpenStep

/-- In the second term the first one is to be reduced next: it is the whole term, or the next part
of the function, or of the argument if the function is an abstraction. -/
inductive Next (s : Term) : Term → Prop where
  /-- the whole term -/
  | here : Next s s
  /-- part of the function, with the argument still to come -/
  | fn {fn : Term} (h : Next s fn) (arg : Term) : Next s (app fn arg)
  /-- part of the argument of an abstraction -/
  | arg (x : String) (b : Term) {arg : Term} (h : Next s arg) : Next s (app (abs x b) arg)

theorem OpenReduces.fn {fn fn' : Term} (h : OpenReduces fn fn') (arg : Term) :
    OpenReduces (app fn arg) (app fn' arg) :=
  Relation.ReflTransGen.lift (app · arg) (fun _ _ => OpenStep.fn) _ _ h

theorem OpenReduces.arg (x : String) (b : Term) {arg arg' : Term} (h : OpenReduces arg arg') :
    OpenReduces (app (abs x b) arg) (app (abs x b) arg') :=
  Relation.ReflTransGen.lift (app (abs x b)) (fun _ _ => OpenStep.arg) _ _ h

/-! ## Soundness -/

/-- The term reduces to where its nameless form evaluates: to a function, or to a term that is stuck
on the variable that is blamed. -/
def Follows (t : Term) : Except Fault Nameless → Prop
  | .ok w => ∃ x b, t.OpenReduces (abs x b) ∧ (abs x b).nameless = w
  | .error (.unbound x) => ∃ u, t.OpenReduces u ∧ (var x).Next u
  | .error _ => True

namespace Follows

variable {t u fn arg : Term} {r : Except Fault Nameless} {fault : Fault}

/-- Steps that lead to a term can be put in front. -/
theorem of_reduces (h : t.OpenReduces u) (hu : u.Follows r) : t.Follows r := by
  cases r with
  | ok w =>
    obtain ⟨x, b, hv, hw⟩ := hu
    exact ⟨x, b, h.trans hv, hw⟩
  | error fault =>
    cases fault with
    | unbound x =>
      obtain ⟨v, hv, hx⟩ := hu
      exact ⟨v, h.trans hv, hx⟩
    | _ => trivial

/-- An application is stuck where its function is. -/
theorem fn_error (h : fn.Follows (.error fault)) (arg : Term) :
    (app fn arg).Follows (.error fault) := by
  cases fault with
  | unbound x =>
    obtain ⟨u, hu, hx⟩ := h
    exact ⟨app u arg, hu.fn arg, hx.fn arg⟩
  | _ => trivial

/-- The application of an abstraction is stuck where its argument is. -/
theorem arg_error (h : arg.Follows (.error fault)) (x : String) (b : Term) :
    (app (abs x b) arg).Follows (.error fault) := by
  cases fault with
  | unbound y =>
    obtain ⟨u, hu, hy⟩ := h
    exact ⟨app (abs x b) u, hu.arg x b, hy.arg x b⟩
  | _ => trivial

end Follows

/-- An application follows its parts and what comes of them. -/
theorem follows_app {n : Nat}
    (hev : ∀ t : Term, t.Follows (Nameless.evaluate n t.nameless).outcome)
    (hap : ∀ x b y c, (app (abs x b) (abs y c)).Follows
      (Nameless.apply n (abs x b).nameless (abs y c).nameless).outcome) (fn arg : Term) :
    (app fn arg).Follows (Nameless.evaluate (n + 1) (app fn arg).nameless).outcome := by
  have hfn := hev fn
  have harg := hev arg
  rw [nameless_app, Nameless.evaluate_app]
  cases hf : (Nameless.evaluate n fn.nameless).outcome with
  | error fault =>
    rw [hf] at hfn
    rw [Run.bind_of_error hf]
    exact hfn.fn_error arg
  | ok f =>
    rw [hf] at hfn
    obtain ⟨x, b, hfr, rfl⟩ := hfn
    refine Follows.of_reduces (hfr.fn arg) ?_
    rw [Run.bind_of_ok hf]
    cases ha : (Nameless.evaluate n arg.nameless).outcome with
    | error fault =>
      rw [ha] at harg
      rw [Run.bind_of_error ha]
      exact harg.arg_error x b
    | ok a =>
      rw [ha] at harg
      obtain ⟨y, c, har, rfl⟩ := harg
      rw [Run.bind_of_ok ha]
      exact Follows.of_reduces (har.arg x b) (hap x b y c)

/-- Both halves of soundness, by induction on the limit. -/
theorem follows_evaluate_apply (n : Nat) :
    (∀ t : Term, t.Follows (Nameless.evaluate n t.nameless).outcome) ∧
    (∀ x b y c, (app (abs x b) (abs y c)).Follows
      (Nameless.apply n (abs x b).nameless (abs y c).nameless).outcome) := by
  induction n with
  | zero =>
    refine ⟨fun t => ?_, fun x b y c => ?_⟩
    · rw [Nameless.evaluate_zero]
      trivial
    · rw [Nameless.apply_zero]
      trivial
  | succ n ih =>
    obtain ⟨hev, hap⟩ := ih
    refine ⟨fun t => ?_, fun x b y c => ?_⟩
    · cases t with
      | var x => exact ⟨var x, .refl, .here⟩
      | abs x b => exact ⟨x, b, .refl, rfl⟩
      | app fn arg => exact follows_app hev hap fn arg
      | foreign datum => trivial
    · -- the nameless form is opened where the term is substituted into
      have hbody := hev (b.substAvoid x (abs y c))
      rw [nameless_substAvoid] at hbody
      exact Follows.of_reduces (.single .beta) hbody

/-- **Soundness**: a term reduces to where its nameless form evaluates. -/
theorem follows_evaluate (n : Nat) (t : Term) :
    t.Follows (Nameless.evaluate n t.nameless).outcome :=
  (follows_evaluate_apply n).1 t

/-! ## Completeness -/

/-- **A step does not change** what evaluation of the nameless form ends in. -/
theorem OpenStep.evaluation_equiv {t u : Term} (h : OpenStep t u) :
    t.nameless.evaluation ≈ u.nameless.evaluation := by
  induction h with
  | @fn fn fn' arg _ ih =>
    calc (app fn arg).nameless.evaluation
      _ ≈ (fn.nameless.evaluation >>= fun f => arg.nameless.evaluation >>= f.application) :=
          Nameless.evaluation_app fn.nameless arg.nameless
      _ ≈ (fn'.nameless.evaluation >>= fun f => arg.nameless.evaluation >>= f.application) :=
          Limited.bind_congr ih fun _ _ => Setoid.refl _
      _ ≈ (app fn' arg).nameless.evaluation :=
          Setoid.symm (Nameless.evaluation_app fn'.nameless arg.nameless)
  | @arg x b arg arg' _ ih =>
    calc (app (abs x b) arg).nameless.evaluation
      _ ≈ (arg.nameless.evaluation >>= (abs x b).nameless.application) :=
          Nameless.evaluation_app_abs _ arg.nameless
      _ ≈ (arg'.nameless.evaluation >>= (abs x b).nameless.application) :=
          Limited.bind_congr ih fun _ _ => Setoid.refl _
      _ ≈ (app (abs x b) arg').nameless.evaluation :=
          Setoid.symm (Nameless.evaluation_app_abs _ arg'.nameless)
  | @beta x y b c =>
    calc (app (abs x b) (abs y c)).nameless.evaluation
      _ ≈ ((abs y c).nameless.evaluation >>= (abs x b).nameless.application) :=
          Nameless.evaluation_app_abs _ (abs y c).nameless
      _ ≈ (abs x b).nameless.application (abs y c).nameless :=
          Limited.bind_of_pure (Nameless.evaluation_abs _) _
      _ ≈ ((b.resolve [x] .free).openAt 0 (abs y c).nameless).evaluation :=
          Nameless.application_abs _ _
      _ = (b.substAvoid x (abs y c)).nameless.evaluation := by rw [nameless_substAvoid]

theorem OpenReduces.evaluation_equiv {t u : Term} (h : OpenReduces t u) :
    t.nameless.evaluation ≈ u.nameless.evaluation := by
  induction h with
  | refl => exact Setoid.refl _
  | tail _ hs ih => exact Setoid.trans ih hs.evaluation_equiv

/-- A term that is stuck on a variable ends in blaming it. -/
theorem Next.evaluation_ends {x : String} {u : Term} (h : (var x).Next u) :
    u.nameless.evaluation.Ends (.fail (.unbound x)) := by
  induction h with
  | here => exact ⟨Run.finished_error_iff.mpr nofun, 1, rfl⟩
  | fn _ arg ih =>
    exact (Nameless.evaluation_app _ arg.nameless _).mpr (Limited.Ends.bind_error ih _)
  | arg y b _ ih =>
    exact (Nameless.evaluation_app_abs _ _ _).mpr (Limited.Ends.bind_error ih _)

/-- A part that is to be reduced next and fails is all that is evaluated: the run of the whole term
is its run, whatever the arguments are that were still to come. -/
theorem Next.evaluation_error {s t : Term} (h : s.Next t) {env : Env} {notes : List Value}
    {fault : Fault} (hs : (CallByValue.evaluation env s).Ends ⟨notes, .error fault⟩) :
    (CallByValue.evaluation env t).Ends ⟨notes, .error fault⟩ := by
  induction h with
  | here => exact hs
  | fn _ arg ih => exact (evaluation_app env _ arg _).mpr (ih.bind_error _)
  | arg x b _ ih =>
    exact (evaluation_app_of_fn (evaluation_abs env x b) _ _).mpr (ih.bind_error _)

end Term

/-! ## Blame -/

/-- **Blame**: on its own, a term blames a variable under some limit exactly when reduction gets
stuck on that variable. In every environment, a part that is to be reduced next and blames a
variable makes the whole term do just what the part does, with the same calls noted: the arguments
to the right of it, whatever they are, are not evaluated. -/
theorem evaluate_blames_iff_stuck {t : Term} (ht : t.Native) (x : String) :
    ((∃ n, (evaluate n .empty t).outcome = .error (.unbound x)) ↔
      ∃ u, t.OpenReduces u ∧ (Term.var x).Next u) ∧
    (∀ part whole : Term, part.Next whole → ∀ env n notes,
      evaluate n env part = ⟨notes, .error (.unbound x)⟩ →
        ∃ m, ∀ k, m ≤ k → evaluate k env whole = ⟨notes, .error (.unbound x)⟩) := by
  refine ⟨⟨?_, ?_⟩, ?_⟩
  · rintro ⟨n, hn⟩
    have hfollows := t.follows_evaluate n
    rwa [(evaluate_nameless n ht).outcome_eq_error_iff.mp hn] at hfollows
  · rintro ⟨u, hu, hx⟩
    obtain ⟨-, n, hn⟩ := (hu.evaluation_equiv _).mpr hx.evaluation_ends
    refine ⟨n, (evaluate_nameless n ht).outcome_eq_error_iff.mpr ?_⟩
    exact congrArg Run.outcome hn
  · intro part whole hnext env n notes hpart
    have hfinished : (⟨notes, .error (.unbound x)⟩ : Run Value Value).Finished :=
      Run.finished_error_iff.mpr nofun
    exact (hnext.evaluation_error ⟨hfinished, n, hpart⟩).eventually

/-- A variable that comes under a binder of its own name, `(λx. λy. x) (λz. y)` applied to two
identities: renaming keeps the one from capturing the other. -/
def escaping : Term :=
  .app (.app (.app (.abs "x" (.abs "y" (.var "x"))) (.abs "z" (.var "y"))) (.abs "a" (.var "a")))
    (.abs "b" (.var "b"))

/-- The free variable is blamed, so reduction gets stuck on it. An application of a name that is not
bound notes no call in its argument. -/
theorem escaping_stuck :
    escaping.Native ∧ (∃ u, escaping.OpenReduces u ∧ (Term.var "y").Next u) ∧
      ∃ m, ∀ k, m ≤ k → evaluate k hostSite
        (.app (.var "missing") (.app (.var "note") (.abs "a" (.var "a")))) =
          .fail (.unbound "missing") := by
  have ht : escaping.Native := by decide
  have hstuck := (evaluate_blames_iff_stuck ht "y").1.mp ⟨6, rfl⟩
  have hnext : (Term.var "missing").Next
      (.app (.var "missing") (.app (.var "note") (.abs "a" (.var "a")))) := .fn .here _
  exact ⟨ht, hstuck, (evaluate_blames_iff_stuck ht "missing").2 _ _ hnext hostSite 1 [] rfl⟩

end CallByValue
