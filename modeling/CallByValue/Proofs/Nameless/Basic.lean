import CallByValue.Proofs.Native
import Mathlib.Logic.Function.Basic

/-!
# Terms without bound names

The name of a parameter is of no account; which binder a variable belongs to is. In a **nameless**
term a bound variable is the number of binders between it and its own one, and free variables keep
their names, so that nothing can be captured when a term without loose indices is put under binders.

* `Nameless`, `Nameless.openAt` — nameless terms, and a term put in for a loose index;
* `Term.resolve` — the nameless form of a term, where its free names may stand for nameless terms;
* `Value.nameless`, `Env.nameless` — closures and environments **read back**: what a closure
  captured is put in for the names that are free in it;
* `Term.resolve_openAt` — putting a term in for the index of a name is letting the name stand for
  it.
-/

namespace CallByValue

/-- Terms in which bound variables are indices. -/
inductive Nameless where
  /-- the variable of the binder that so many binders stand in front of -/
  | bound (index : Nat)
  /-- a variable without a binder -/
  | free (name : String)
  /-- a function -/
  | abs (body : Nameless)
  /-- application of `fn` to `arg` -/
  | app (fn : Nameless) (arg : Nameless)
  /-- host data where a term belongs -/
  | foreign (datum : Datum Empty)

namespace Nameless

/-! ## Loose indices -/

/-- Every index has its binder, if `k` binders stand around the term. -/
def ClosedAt : Nameless → (k : Nat) → Prop
  | bound i, k => i < k
  | free _, _ => True
  | abs body, k => body.ClosedAt (k + 1)
  | app fn arg, k => fn.ClosedAt k ∧ arg.ClosedAt k
  | foreign _, _ => True

/-- The term with `w` in place of the loose index `k`. Other indices stay as they are: `w` is meant
to have no loose ones. -/
def openAt : Nameless → (k : Nat) → (w : Nameless) → Nameless
  | bound i, k, w => if i = k then w else bound i
  | free x, _, _ => free x
  | abs body, k, w => abs (body.openAt (k + 1) w)
  | app fn arg, k, w => app (fn.openAt k w) (arg.openAt k w)
  | foreign d, _, _ => foreign d

theorem ClosedAt.mono {t : Nameless} {j k : Nat} (h : t.ClosedAt j) (hjk : j ≤ k) :
    t.ClosedAt k := by
  induction t generalizing j k with
  | bound i => exact Nat.lt_of_lt_of_le h hjk
  | free x => exact h
  | abs body ih => exact ih h (Nat.add_le_add_right hjk 1)
  | app fn arg ihf iha => exact ⟨ihf h.1 hjk, iha h.2 hjk⟩
  | foreign d => exact h

/-- Nothing is put in for an index that does not occur loose. -/
theorem ClosedAt.openAt {t : Nameless} {k : Nat} (h : t.ClosedAt k) (w : Nameless) :
    t.openAt k w = t := by
  induction t generalizing k with
  | bound i => exact if_neg (Nat.ne_of_lt h)
  | free x => rfl
  | abs body ih => rw [Nameless.openAt, ih h]
  | app fn arg ihf iha => rw [Nameless.openAt, ihf h.1, iha h.2]
  | foreign d => rfl

end Nameless

/-! ## Nameless forms -/

namespace Term

/-- The nameless form of a term under binders for the names in `bound`, innermost first. A name
without a binder stands for what `σ` has for it. -/
def resolve : Term → (bound : List String) → (σ : String → Nameless) → Nameless
  | var x, bound, σ => match bound.idxOf? x with
    | some i => .bound i
    | none => σ x
  | abs x body, bound, σ => .abs (body.resolve (x :: bound) σ)
  | app fn arg, bound, σ => .app (fn.resolve bound σ) (arg.resolve bound σ)
  | foreign d, _, _ => .foreign d

/-- The nameless form of a term on its own, where free names stand for themselves. -/
def nameless (t : Term) : Nameless := t.resolve [] .free

@[simp] theorem nameless_app (fn arg : Term) :
    (app fn arg).nameless = .app fn.nameless arg.nameless := rfl

theorem resolve_var_of_some {x : String} {bound : List String} {i : Nat}
    (h : bound.idxOf? x = some i) (σ : String → Nameless) :
    (var x).resolve bound σ = .bound i := by
  rw [resolve, h]

theorem resolve_var_of_none {x : String} {bound : List String} (h : bound.idxOf? x = none)
    (σ : String → Nameless) : (var x).resolve bound σ = σ x := by
  rw [resolve, h]

/-- The index of a name does not exceed the binders there are. -/
theorem idxOf?_lt {x : String} {bound : List String} {i : Nat} (h : bound.idxOf? x = some i) :
    i < bound.length :=
  (List.idxOf?_eq_some_iff.mp h).1

/-- Names of outer binders are found after all others. -/
theorem idxOf?_append (bound outer : List String) (x : String) :
    (bound ++ outer).idxOf? x =
      (bound.idxOf? x).or ((outer.idxOf? x).map (· + bound.length)) :=
  List.findIdx?_append

/-- Outer binders do not matter for a term in which none of their names is free, unless it is that
of an inner binder as well. -/
theorem resolve_append (t : Term) (bound : List String) {outer : List String}
    (h : ∀ x ∈ t.freeNames, x ∈ outer → x ∈ bound) (σ : String → Nameless) :
    t.resolve (bound ++ outer) σ = t.resolve bound σ := by
  induction t generalizing bound with
  | var x =>
    have hidx := idxOf?_append bound outer x
    cases hb : bound.idxOf? x with
    | some i =>
      rw [hb, Option.some_or] at hidx
      rw [resolve_var_of_some hidx, resolve_var_of_some hb]
    | none =>
      have hx : x ∉ bound := List.idxOf?_eq_none_iff.mp hb
      have ho : outer.idxOf? x = none :=
        List.idxOf?_eq_none_iff.mpr fun ho => hx (h x (List.mem_singleton.mpr rfl) ho)
      rw [hb, ho] at hidx
      rw [resolve_var_of_none hidx, resolve_var_of_none hb]
  | abs y body ih =>
    -- the parameter may be an outer name as well, but now it has an inner binder
    refine congrArg Nameless.abs (ih (y :: bound) fun x hx ho => ?_)
    by_cases hxy : x = y
    · exact List.mem_cons.mpr (.inl hxy)
    · exact List.mem_cons_of_mem y (h x (mem_freeNames_abs.mpr ⟨hx, hxy⟩) ho)
  | app fn arg ihf iha =>
    exact congrArg₂ Nameless.app
      (ihf bound fun x hx => h x (List.mem_append_left _ hx))
      (iha bound fun x hx => h x (List.mem_append_right _ hx))
  | foreign d => rfl

/-- A nameless form has no loose index but those of the names that are bound around it. -/
theorem resolve_closedAt (t : Term) (bound : List String) {σ : String → Nameless}
    (hσ : ∀ x, (σ x).ClosedAt 0) : (t.resolve bound σ).ClosedAt bound.length := by
  induction t generalizing bound with
  | var x =>
    cases h : bound.idxOf? x with
    | some i =>
      rw [resolve_var_of_some h]
      exact idxOf?_lt h
    | none =>
      rw [resolve_var_of_none h]
      exact (hσ x).mono (Nat.zero_le _)
  | abs x body ih => exact ih (x :: bound)
  | app fn arg ihf iha => exact ⟨ihf bound, iha bound⟩
  | foreign d => trivial

/-- **Opening**: putting `w` in for the index of the outermost name is letting that name stand for
`w`, if what the other names stand for has no loose indices. -/
theorem resolve_openAt (t : Term) (bound : List String) (x : String) {σ : String → Nameless}
    (hσ : ∀ y, (σ y).ClosedAt 0) (w : Nameless) :
    (t.resolve (bound ++ [x]) σ).openAt bound.length w =
      t.resolve bound (Function.update σ x w) := by
  induction t generalizing bound with
  | var y =>
    have hidx := idxOf?_append bound [x] y
    cases h : bound.idxOf? y with
    | some i =>
      -- a name with an inner binder is not that of the outermost one, even if it is called so
      rw [h, Option.some_or] at hidx
      rw [resolve_var_of_some hidx, resolve_var_of_some h]
      exact if_neg (Nat.ne_of_lt (idxOf?_lt h))
    | none =>
      rw [h, Option.none_or] at hidx
      rw [resolve_var_of_none h]
      by_cases hxy : y = x
      · have hlast : (bound ++ [x]).idxOf? y = some bound.length := by
          rw [hidx, hxy]
          simp [List.idxOf?_cons]
        rw [resolve_var_of_some hlast, hxy, Function.update_self]
        exact if_pos rfl
      · have hnone : (bound ++ [x]).idxOf? y = none := by
          rw [hidx]
          simp [List.idxOf?_cons, Ne.symm hxy]
        rw [resolve_var_of_none hnone, Function.update_of_ne hxy]
        exact ((hσ y).mono (Nat.zero_le _)).openAt w
  | abs y body ih => exact congrArg Nameless.abs (ih (y :: bound))
  | app fn arg ihf iha => exact congrArg₂ Nameless.app (ihf bound) (iha bound)
  | foreign d => rfl

end Term

/-! ## Reading back -/

mutual

/-- The nameless term that a value stands for. Host values have none, and are read back as a foreign
leaf. -/
def Value.nameless : Value → Nameless
  | .closure env param body => (Term.abs param body).resolve [] env.nameless
  | _ => .foreign .null

/-- The nameless term that each name stands for. Names that are not bound stand for themselves. -/
def Env.nameless : Env → String → Nameless
  | .empty => .free
  | .extend parent name value => Function.update parent.nameless name value.nameless

end

theorem Value.nameless_closure (env : Env) (param : String) (body : Term) :
    (Value.closure env param body).nameless = .abs (body.resolve [param] env.nameless) := rfl

theorem Env.nameless_extend (env : Env) (name : String) (value : Value) :
    (env.extend name value).nameless = Function.update env.nameless name value.nameless := rfl

mutual

/-- A value is read back without loose indices. -/
theorem Value.nameless_closedAt : ∀ v : Value, v.nameless.ClosedAt 0
  | .closure env param body => Term.resolve_closedAt (.abs param body) [] env.nameless_closedAt
  | .primitive _ _ => trivial
  | .constant _ => trivial
  | .foreign _ => trivial

/-- No name stands for a term with loose indices. -/
theorem Env.nameless_closedAt : ∀ (env : Env) (x : String), (env.nameless x).ClosedAt 0
  | .empty, _ => trivial
  | .extend parent name value, x => by
    rw [Env.nameless_extend]
    by_cases h : x = name
    · rw [h, Function.update_self]
      exact value.nameless_closedAt
    · rw [Function.update_of_ne h]
      exact parent.nameless_closedAt x

end

/-- A name is read back as the value that is found for it, or stands for itself. -/
theorem Env.nameless_eq_find? (x : String) :
    ∀ env : Env, env.nameless x = ((env.find? x).map Value.nameless).getD (.free x)
  | .empty => rfl
  | .extend parent bound value => by
    rw [Env.nameless_extend, Env.find?]
    by_cases h : bound = x
    · rw [if_pos h, ← h, Function.update_self, Option.map_some, Option.getD_some]
    · rw [if_neg h, Function.update_of_ne (Ne.symm h), Env.nameless_eq_find? x parent]

/-- Entering a closure with an argument is opening what it stands for with what that stands for. -/
theorem Value.nameless_openAt (env : Env) (param : String) (body : Term) (argument : Value) :
    (body.resolve [param] env.nameless).openAt 0 argument.nameless =
      body.resolve [] (env.extend param argument).nameless :=
  body.resolve_openAt [] param env.nameless_closedAt argument.nameless

end CallByValue
