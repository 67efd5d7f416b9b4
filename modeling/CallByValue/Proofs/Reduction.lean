import CallByValue.Proofs.Native
import Mathlib.Logic.Relation

/-!
# Reduction by substitution

The textbook account of evaluation by value, without environments: an application of one abstraction
to another is replaced by the body with the argument substituted for the parameter. Reduction goes
from left to right, and not under binders.

* `Term.subst` — substitution of a closed term for a name;
* `Term.Step`, `Term.Reduces`, `Term.IsNormal` — one step, finitely many steps, and no step;
* `Term.BigStep` — reduction to an abstraction in one go. It is what `Reduces` comes to
  (`BigStep.reduces`, `BigStep.of_reduces`), and it follows the rules of the evaluator;
* `Term.isNormal_iff` — a closed term is **normal** only if it is an abstraction.
-/

namespace CallByValue.Term

/-! ## Substitution -/

/-- The term with `w` in place of the free occurrences of `x`. Binders are not renamed: `w` is meant
to be closed, so that they capture nothing. -/
def subst : Term → (x : String) → (w : Term) → Term
  | var y, x, w => if y = x then w else var y
  | abs y body, x, w => if y = x then abs y body else abs y (body.subst x w)
  | app fn arg, x, w => app (fn.subst x w) (arg.subst x w)
  | foreign d, _, _ => foreign d

theorem subst_abs_self (x : String) (w body : Term) :
    (abs x body).subst x w = abs x body := by
  rw [subst, if_pos rfl]

theorem subst_abs_ne {x y : String} (h : y ≠ x) (w body : Term) :
    (abs y body).subst x w = abs y (body.subst x w) := by
  rw [subst, if_neg h]

/-- Substitution for a name that is not free changes nothing. -/
theorem subst_of_not_mem {x : String} {w t : Term} (h : x ∉ t.freeNames) : t.subst x w = t := by
  induction t with
  | var y =>
    rw [freeNames_var, List.mem_singleton] at h
    rw [subst, if_neg (Ne.symm h)]
  | abs y body ih =>
    by_cases hy : y = x
    · subst hy
      exact subst_abs_self y w body
    · rw [subst_abs_ne hy, ih fun hb => h (mem_freeNames_abs.mpr ⟨hb, Ne.symm hy⟩)]
  | app fn arg ihf iha =>
    rw [freeNames_app, List.mem_append, not_or] at h
    rw [subst, ihf h.1, iha h.2]
  | foreign d => rfl

/-- What is free after a substitution was free before, or came in with it. -/
theorem mem_freeNames_subst {x z : String} {w t : Term} (h : z ∈ (t.subst x w).freeNames) :
    (z ∈ t.freeNames ∧ z ≠ x) ∨ z ∈ w.freeNames := by
  induction t with
  | var y =>
    by_cases hy : y = x
    · rw [subst, if_pos hy] at h
      exact .inr h
    · rw [subst, if_neg hy] at h
      obtain rfl := List.mem_singleton.mp h
      exact .inl ⟨h, hy⟩
  | abs y body ih =>
    by_cases hy : y = x
    · subst hy
      rw [subst_abs_self] at h
      exact .inl ⟨h, (mem_freeNames_abs.mp h).2⟩
    · rw [subst_abs_ne hy, mem_freeNames_abs] at h
      rcases ih h.1 with ⟨hb, hz⟩ | hw
      · exact .inl ⟨mem_freeNames_abs.mpr ⟨hb, h.2⟩, hz⟩
      · exact .inr hw
  | app fn arg ihf iha =>
    rw [subst, freeNames_app, List.mem_append] at h
    rw [freeNames_app, List.mem_append]
    rcases h with hf | ha
    · exact (ihf hf).imp_left fun ⟨hm, hz⟩ => ⟨.inl hm, hz⟩
    · exact (iha ha).imp_left fun ⟨hm, hz⟩ => ⟨.inr hm, hz⟩
  | foreign d => cases h

theorem Native.subst {x : String} {w t : Term} (ht : t.Native) (hw : w.Native) :
    (t.subst x w).Native := by
  induction t with
  | var y =>
    rw [Term.subst]
    split
    · exact hw
    · exact ht
  | abs y body ih =>
    rw [Term.subst]
    split
    · exact ht
    · exact ih ht
  | app fn arg ihf iha => exact ⟨ihf ht.1, iha ht.2⟩
  | foreign d => exact ht

/-! ## Steps -/

/-- One step of reduction by value, from left to right. -/
inductive Step : Term → Term → Prop where
  /-- a step of the function -/
  | fn {fn fn' arg : Term} (h : Step fn fn') : Step (app fn arg) (app fn' arg)
  /-- a step of the argument of an abstraction -/
  | arg {x : String} {b arg arg' : Term} (h : Step arg arg') :
    Step (app (abs x b) arg) (app (abs x b) arg')
  /-- the application of an abstraction to an abstraction -/
  | beta {x y : String} {b c : Term} : Step (app (abs x b) (abs y c)) (b.subst x (abs y c))

/-- Finitely many steps. -/
abbrev Reduces : Term → Term → Prop := Relation.ReflTransGen Step

/-- No step is possible. -/
def IsNormal (t : Term) : Prop := ∀ u, ¬ Step t u

theorem isNormal_abs (x : String) (b : Term) : IsNormal (abs x b) := fun _ h => by cases h

theorem Reduces.fn {fn fn' : Term} (h : Reduces fn fn') (arg : Term) :
    Reduces (app fn arg) (app fn' arg) :=
  Relation.ReflTransGen.lift (app · arg) (fun _ _ => Step.fn) _ _ h

theorem Reduces.arg (x : String) (b : Term) {arg arg' : Term} (h : Reduces arg arg') :
    Reduces (app (abs x b) arg) (app (abs x b) arg') :=
  Relation.ReflTransGen.lift (app (abs x b)) (fun _ _ => Step.arg) _ _ h

/-- A step frees no name. -/
theorem Step.freeNames_subset {t u : Term} (h : Step t u) : u.freeNames ⊆ t.freeNames := by
  induction h with
  | fn _ ih =>
    rw [freeNames_app, freeNames_app]
    exact List.append_subset.mpr ⟨List.Subset.trans ih (List.subset_append_left _ _),
      List.subset_append_right _ _⟩
  | arg _ ih =>
    rw [freeNames_app, freeNames_app]
    exact List.append_subset.mpr ⟨List.subset_append_left _ _,
      List.Subset.trans ih (List.subset_append_right _ _)⟩
  | beta =>
    intro z hz
    rw [freeNames_app, List.mem_append]
    exact (mem_freeNames_subst hz).imp_left fun ⟨hb, hx⟩ => mem_freeNames_abs.mpr ⟨hb, hx⟩

theorem Step.native {t u : Term} (h : Step t u) (ht : t.Native) : u.Native := by
  induction h with
  | fn _ ih => exact ⟨ih ht.1, ht.2⟩
  | arg _ ih => exact ⟨ht.1, ih ht.2⟩
  | beta => exact Native.subst ht.1 ht.2

/-- A closed native term reduces to closed native terms only. -/
theorem Reduces.closed {t u : Term} (h : Reduces t u) (ht : t.Native) (hc : t.freeNames = []) :
    u.Native ∧ u.freeNames = [] := by
  induction h with
  | refl => exact ⟨ht, hc⟩
  | tail _ hs ih =>
    refine ⟨hs.native ih.1, List.eq_nil_of_subset_nil ?_⟩
    rw [← ih.2]
    exact hs.freeNames_subset

/-- **Progress**: a closed native term is an abstraction, or takes a step. -/
theorem progress {t : Term} (ht : t.Native) (hc : t.freeNames = []) :
    (∃ x b, t = abs x b) ∨ ∃ u, Step t u := by
  induction t with
  | var x => cases hc
  | abs x b _ => exact .inl ⟨x, b, rfl⟩
  | app fn arg ihf iha =>
    obtain ⟨hcf, hca⟩ := List.append_eq_nil_iff.mp hc
    right
    rcases ihf ht.1 hcf with ⟨x, b, rfl⟩ | ⟨fn', hf⟩
    · rcases iha ht.2 hca with ⟨y, c, rfl⟩ | ⟨arg', ha⟩
      · exact ⟨_, .beta⟩
      · exact ⟨_, .arg ha⟩
    · exact ⟨_, .fn hf⟩
  | foreign d => exact ht.elim

/-- A closed native term is normal when it is an abstraction. -/
theorem isNormal_iff {t : Term} (ht : t.Native) (hc : t.freeNames = []) :
    IsNormal t ↔ ∃ x b, t = abs x b := by
  constructor
  · intro hn
    exact (progress ht hc).resolve_right fun ⟨u, hu⟩ => hn u hu
  · rintro ⟨x, b, rfl⟩
    exact isNormal_abs x b

/-! ## Reduction in one go -/

/-- The term reduces to this abstraction: one rule for each kind of term that is not stuck. -/
inductive BigStep : Term → Term → Prop where
  /-- an abstraction is its own result -/
  | abs (x : String) (b : Term) : BigStep (abs x b) (abs x b)
  /-- the function, the argument and the body give their results in this order -/
  | app {fn arg b w u : Term} {x : String} (hf : BigStep fn (Term.abs x b)) (ha : BigStep arg w)
    (hb : BigStep (b.subst x w) u) : BigStep (app fn arg) u

namespace BigStep

theorem exists_abs {t w : Term} (h : BigStep t w) : ∃ x b, w = Term.abs x b := by
  induction h with
  | abs x b => exact ⟨x, b, rfl⟩
  | app _ _ _ _ _ ihb => exact ihb

/-- The steps that one go is made of. -/
theorem reduces {t w : Term} (h : BigStep t w) : Reduces t w := by
  induction h with
  | abs x b => exact .refl
  | @app fn arg b w u x _ ha _ ihf iha ihb =>
    obtain ⟨y, c, rfl⟩ := ha.exists_abs
    exact ((ihf.fn arg).trans (iha.arg x b)).trans (.head .beta ihb)

/-- A first step can be put in front. -/
theorem of_step {t u w : Term} (hs : Step t u) (h : BigStep u w) : BigStep t w := by
  induction hs generalizing w with
  | fn _ ih =>
    cases h with
    | app hf ha hb => exact .app (ih hf) ha hb
  | arg _ ih =>
    cases h with
    | app hf ha hb => exact .app hf (ih ha) hb
  | beta => exact .app (.abs _ _) (.abs _ _) h

/-- Steps that lead to an abstraction, in one go. -/
theorem of_reduces {t w : Term} (h : Reduces t w) (hw : ∃ x b, w = Term.abs x b) : BigStep t w := by
  induction h using Relation.ReflTransGen.head_induction_on with
  | refl =>
    obtain ⟨x, b, rfl⟩ := hw
    exact .abs x b
  | head hs _ ih => exact of_step hs ih

end BigStep

end CallByValue.Term
