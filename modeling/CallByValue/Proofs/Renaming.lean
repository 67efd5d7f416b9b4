import CallByValue.Proofs.Nameless.Basic

/-!
# Substitution that avoids capture

When a term with free names is put under a binder of one of these names, the binder has to be
renamed first. **Simultaneous substitution** takes each free name to a term of its own, so that
renaming a parameter is no extra pass but one more replacement.

* `freshName` — a name that is none of the given ones;
* `Term.substAll`, `Term.substAvoid` — substitution for all free names at once, and for one name;
* `Term.nameless_substAvoid` — on nameless forms, substitution is opening; so it does not matter
  which names the renamed parameters get.
-/

namespace CallByValue

/-! ## Fresh names -/

/-- The name `x`, unless it is one of the given names; else a name that is longer than all of
these. -/
def freshName (names : List String) (x : String) : String :=
  if x ∈ names then
    String.ofList (List.replicate ((names.map String.length).max?.getD 0 + 1) '_')
  else x

theorem freshName_not_mem (names : List String) (x : String) : freshName names x ∉ names := by
  rw [freshName]
  split
  · intro hmem
    have hle := List.le_max?_getD_of_mem (k := 0) (List.mem_map_of_mem (f := String.length) hmem)
    rw [String.length_ofList, List.length_replicate] at hle
    omega
  · assumption

namespace Term

/-! ## Substitution -/

/-- The term with each free name replaced by what `σ` has for it. A parameter is renamed if its name
is free in what comes in under it. -/
def substAll : Term → (σ : String → Term) → Term
  | var x, σ => σ x
  | abs x body, σ =>
    let y := freshName ((abs x body).freeNames.flatMap fun z => (σ z).freeNames) x
    abs y (body.substAll (Function.update σ x (var y)))
  | app fn arg, σ => app (fn.substAll σ) (arg.substAll σ)
  | foreign d, _ => foreign d

/-- The term with `w` in place of the free occurrences of `x`, where no parameter captures what is
free in `w`. -/
def substAvoid (t : Term) (x : String) (w : Term) : Term := t.substAll (Function.update var x w)

/-! ## Nameless forms -/

/-- The name `z` of a term under binders for the names in `bound` is carried over by `σ` to the
outside of binders for the names in `renamed`: if it is bound, to a variable of the same index, and
else to a term that is not captured and has the nameless form that `ρ` gives. -/
inductive Carried (bound renamed : List String) (σ : String → Term) (ρ : String → Nameless)
    (z : String) : Prop
  /-- a bound name goes with its binder -/
  | bound {i : Nat} {y : String} (hz : bound.idxOf? z = some i) (hσ : σ z = var y)
    (hy : renamed.idxOf? y = some i) : Carried bound renamed σ ρ z
  /-- a free name is replaced -/
  | free (hz : bound.idxOf? z = none) (hσ : ∀ y ∈ (σ z).freeNames, y ∉ renamed)
    (hρ : (σ z).nameless = ρ z) : Carried bound renamed σ ρ z

namespace Carried

variable {bound renamed : List String} {σ : String → Term} {ρ : String → Nameless} {x y z : String}

/-- What is carried over has the same nameless form on either side. -/
theorem resolve (h : Carried bound renamed σ ρ z) :
    (σ z).resolve renamed .free = (var z).resolve bound ρ := by
  cases h with
  | bound hz hσ hy => rw [hσ, resolve_var_of_some hy, resolve_var_of_some hz]
  | free hz hσ hρ =>
    rw [resolve_var_of_none hz, ← hρ]
    exact resolve_append (σ z) [] (fun y hy hr => absurd hr (hσ y hy)) .free

/-- Under one more binder `x`, renamed to `y`, its name is carried over. -/
theorem self : Carried (x :: bound) (y :: renamed) (Function.update σ x (var y)) ρ x :=
  .bound (i := 0) (by simp [List.idxOf?_cons]) (Function.update_self ..)
    (by simp [List.idxOf?_cons])

/-- Under one more binder `x`, renamed to `y`, the other names are carried over as before, if `y`
captures nothing. -/
theorem enter (h : Carried bound renamed σ ρ z) (hzx : z ≠ x) (hy : y ∉ (σ z).freeNames) :
    Carried (x :: bound) (y :: renamed) (Function.update σ x (var y)) ρ z := by
  have hupdate : Function.update σ x (var y) z = σ z := Function.update_of_ne hzx _ _
  cases h with
  | @bound i u hz hσ hu =>
    have huy : y ≠ u := by
      rintro rfl
      rw [hσ] at hy
      exact hy (List.mem_singleton.mpr rfl)
    -- the new binder moves the index by one on both sides
    refine .bound (i := i + 1) ?_ (hupdate.trans hσ) ?_
    · simp [List.idxOf?_cons, Ne.symm hzx, hz]
    · simp [List.idxOf?_cons, huy, hu]
  | free hz hσ hρ =>
    refine .free ?_ ?_ (by rw [hupdate, hρ])
    · simp [List.idxOf?_cons, Ne.symm hzx, hz]
    · rw [hupdate]
      intro u hu hmem
      rcases List.mem_cons.mp hmem with rfl | hr
      · exact hy hu
      · exact hσ u hu hr

end Carried

/-- Substitution does to the nameless form what `ρ` does to it, if all free names are carried over.
The induction is on the term, through binders on both sides. -/
theorem resolve_substAll (t : Term) {bound renamed : List String} {σ : String → Term}
    {ρ : String → Nameless} (h : ∀ z ∈ t.freeNames, Carried bound renamed σ ρ z) :
    (t.substAll σ).resolve renamed .free = t.resolve bound ρ := by
  induction t generalizing bound renamed σ with
  | var x => exact (h x (List.mem_singleton.mpr rfl)).resolve
  | abs x body ih =>
    have hfresh := freshName_not_mem ((abs x body).freeNames.flatMap fun z => (σ z).freeNames) x
    refine congrArg Nameless.abs (ih fun z hz => ?_)
    by_cases hzx : z = x
    · rw [hzx]
      exact .self
    · have hz' : z ∈ (abs x body).freeNames := mem_freeNames_abs.mpr ⟨hz, hzx⟩
      exact (h z hz').enter hzx fun hy => hfresh (List.mem_flatMap.mpr ⟨z, hz', hy⟩)
  | app fn arg ihf iha =>
    exact congrArg₂ Nameless.app (ihf fun z hz => h z (List.mem_append_left _ hz))
      (iha fun z hz => h z (List.mem_append_right _ hz))
  | foreign d => rfl

/-- **Substitution is opening**: it puts the nameless form of `w` in for the index of `x`. -/
theorem nameless_substAvoid (t : Term) (x : String) (w : Term) :
    (t.substAvoid x w).nameless = (t.resolve [x] .free).openAt 0 w.nameless := by
  have hopen := t.resolve_openAt [] x (σ := .free) (fun _ => trivial) w.nameless
  refine Eq.trans ?_ hopen.symm
  refine t.resolve_substAll fun z _ => .free List.idxOf?_nil (fun _ _ => List.not_mem_nil) ?_
  by_cases hz : z = x
  · rw [hz, Function.update_self, Function.update_self]
  · rw [Function.update_of_ne hz, Function.update_of_ne hz]
    rfl

end Term

end CallByValue
