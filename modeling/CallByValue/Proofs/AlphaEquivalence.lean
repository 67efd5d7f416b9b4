import CallByValue.Proofs.Nameless.Evaluation
import CallByValue.Proofs.Renaming
import CallByValue.Proofs.Scope

/-!
# Renaming of bound names

Two terms are **alpha-equivalent** when they are the same but for the names of their parameters.
Environments are keyed by names, so renaming a parameter changes which bindings there are and which
of them hide others. Still nothing can be told apart from outside: alpha-equivalent terms have one
nameless form, and evaluation reads back to the evaluation of that.

* `Matched`, `Term.AlphaEq` — names that belong to one binder, and terms that are the same up to
  the names of parameters;
* `Term.alphaEq_iff` — these are the terms with one nameless form;
* `Term.alphaEq_rename` — renaming a parameter is an instance;
* `evaluate_alphaEq` — under every limit alpha-equivalent terms end alike.
-/

namespace CallByValue

/-! ## Alpha-equivalence -/

/-- The name `x` in one term belongs to the same binder as `y` in the other one, where binders of
these pairs of names stand around, innermost first. Names without a binder have to be the same. -/
inductive Matched : List (String × String) → (x y : String) → Prop
  /-- a free name -/
  | free (x : String) : Matched [] x x
  /-- the names of the innermost binder -/
  | here (x y : String) (outer : List (String × String)) : Matched ((x, y) :: outer) x y
  /-- names that the innermost binder does not hide on either side -/
  | there {x y x' y' : String} {outer : List (String × String)} (hx : x ≠ x') (hy : y ≠ y')
    (h : Matched outer x y) : Matched ((x', y') :: outer) x y

namespace Term

/-- The terms are the same but for names of parameters, and names that are matched stand at the same
places. -/
inductive AlphaEqUnder : List (String × String) → Term → Term → Prop
  /-- names that belong to the same binder -/
  | var {pairs : List (String × String)} {x y : String} (h : Matched pairs x y) :
    AlphaEqUnder pairs (var x) (var y)
  /-- one more binder around the bodies -/
  | abs {pairs : List (String × String)} {x y : String} {b c : Term}
    (h : AlphaEqUnder ((x, y) :: pairs) b c) : AlphaEqUnder pairs (abs x b) (abs y c)
  /-- part by part -/
  | app {pairs : List (String × String)} {fn fn' arg arg' : Term} (hf : AlphaEqUnder pairs fn fn')
    (ha : AlphaEqUnder pairs arg arg') : AlphaEqUnder pairs (app fn arg) (app fn' arg')
  /-- the same host data -/
  | foreign {pairs : List (String × String)} (datum : Datum Empty) :
    AlphaEqUnder pairs (foreign datum) (foreign datum)

/-- **Alpha-equivalence**: the terms are equal after renaming of parameters, and their free names
are unchanged. -/
def AlphaEq (t u : Term) : Prop := AlphaEqUnder [] t u

/-- Alpha-equivalent terms have foreign leaves at the same places. -/
theorem AlphaEqUnder.native_iff {pairs : List (String × String)} {t u : Term}
    (h : AlphaEqUnder pairs t u) : t.Native ↔ u.Native := by
  induction h with
  | var h => exact Iff.rfl
  | abs h ih => exact ih
  | app hf ha ihf iha => exact and_congr ihf iha
  | foreign datum => exact Iff.rfl

/-! ## Alpha-equivalence is having one nameless form -/

/-- The binder of a name is counted from the innermost one. -/
theorem resolve_var_cons_ne {x y : String} (h : x ≠ y) (bound : List String)
    (σ : String → Nameless) :
    (var x).resolve (y :: bound) σ =
      match bound.idxOf? x with
      | some i => .bound (i + 1)
      | none => σ x := by
  rw [resolve, List.idxOf?_cons, if_neg (by simpa using h.symm)]
  cases bound.idxOf? x <;> rfl

theorem resolve_var_cons_self (x : String) (bound : List String) (σ : String → Nameless) :
    (var x).resolve (x :: bound) σ = .bound 0 := by
  rw [resolve, List.idxOf?_cons, if_pos (by simp)]

/-- Under one more binder that hides neither, two names are the same variable just when they were
before. -/
theorem resolve_var_cons_eq_iff {x y x' y' : String} (hx : x ≠ x') (hy : y ≠ y')
    (bound bound' : List String) :
    (var x).resolve (x' :: bound) .free = (var y).resolve (y' :: bound') .free ↔
      (var x).resolve bound .free = (var y).resolve bound' .free := by
  rw [resolve_var_cons_ne hx, resolve_var_cons_ne hy, resolve, resolve]
  cases bound.idxOf? x <;> cases bound'.idxOf? y <;> simp

/-- The innermost binder is that of its own name only. -/
theorem resolve_var_cons_eq_zero_iff (x y : String) (bound : List String) :
    (var x).resolve (y :: bound) .free = .bound 0 ↔ x = y := by
  by_cases h : x = y
  · subst h
    simp [resolve_var_cons_self]
  · rw [resolve_var_cons_ne h]
    cases bound.idxOf? x <;> simp [h]

/-- Names are matched when they are the same variable. -/
theorem matched_iff (x y : String) (pairs : List (String × String)) :
    Matched pairs x y ↔
      (var x).resolve (pairs.map Prod.fst) .free = (var y).resolve (pairs.map Prod.snd) .free := by
  induction pairs with
  | nil =>
    constructor
    · intro h
      cases h with
      | free => rfl
    · intro h
      obtain rfl := Nameless.free.inj h
      exact .free x
  | cons pair outer ih =>
    obtain ⟨x', y'⟩ := pair
    rw [List.map_cons, List.map_cons]
    by_cases hx : x = x'
    · subst hx
      rw [resolve_var_cons_self, eq_comm, resolve_var_cons_eq_zero_iff]
      constructor
      · intro h
        cases h with
        | here => rfl
        | there hx _ _ => exact absurd rfl hx
      · rintro rfl
        exact .here x y outer
    · by_cases hy : y = y'
      · subst hy
        rw [resolve_var_cons_self, resolve_var_cons_eq_zero_iff]
        constructor
        · intro h
          cases h with
          | here => rfl
          | there _ hy _ => exact absurd rfl hy
        · exact fun h => absurd h hx
      · rw [resolve_var_cons_eq_iff hx hy, ← ih]
        constructor
        · intro h
          cases h with
          | here => exact absurd rfl hx
          | there _ _ h => exact h
        · exact .there hx hy

/-- Only a variable has the nameless form of a variable. -/
theorem exists_var_of_resolve {t : Term} {y : String} {bound bound' : List String}
    (h : t.resolve bound .free = (var y).resolve bound' .free) : ∃ x, t = var x := by
  have hy : (∃ i, (var y).resolve bound' .free = .bound i) ∨
      (var y).resolve bound' .free = .free y := by
    cases hi : bound'.idxOf? y with
    | some i => exact .inl ⟨i, resolve_var_of_some hi _⟩
    | none => exact .inr (resolve_var_of_none hi _)
  cases t with
  | var x => exact ⟨x, rfl⟩
  | _ =>
    rcases hy with ⟨i, hi⟩ | hi
    · rw [hi] at h
      cases h
    · rw [hi] at h
      cases h

/-- Terms are the same up to names when they have one nameless form, under the names of the binders
on either side. -/
theorem alphaEqUnder_iff (t u : Term) (pairs : List (String × String)) :
    AlphaEqUnder pairs t u ↔
      t.resolve (pairs.map Prod.fst) .free = u.resolve (pairs.map Prod.snd) .free := by
  constructor
  · intro h
    induction h with
    | var h => exact (matched_iff _ _ _).mp h
    | abs _ ih => exact congrArg Nameless.abs ih
    | app _ _ ihf iha => exact congrArg₂ Nameless.app ihf iha
    | foreign datum => rfl
  · intro h
    induction t generalizing u pairs with
    | var x =>
      obtain ⟨y, rfl⟩ := exists_var_of_resolve h.symm
      exact .var ((matched_iff x y pairs).mpr h)
    | abs x b ih =>
      cases u with
      | var y => exact absurd (exists_var_of_resolve h) nofun
      | abs y c => exact .abs (ih c ((x, y) :: pairs) (Nameless.abs.inj h))
      | app fn arg => cases h
      | foreign datum => cases h
    | app fn arg ihf iha =>
      cases u with
      | var y => exact absurd (exists_var_of_resolve h) nofun
      | abs y c => cases h
      | app fn' arg' =>
        obtain ⟨hf, ha⟩ := Nameless.app.inj h
        exact .app (ihf fn' pairs hf) (iha arg' pairs ha)
      | foreign datum => cases h
    | foreign datum =>
      cases u with
      | var y => exact absurd (exists_var_of_resolve h) nofun
      | abs y c => cases h
      | app fn arg => cases h
      | foreign datum' =>
        obtain rfl := Nameless.foreign.inj h
        exact .foreign datum

/-- Terms are alpha-equivalent when they have one nameless form. -/
theorem alphaEq_iff {t u : Term} : t.AlphaEq u ↔ t.nameless = u.nameless :=
  alphaEqUnder_iff t u []

/-- A parameter may be renamed to every name that is not free in the function. -/
theorem alphaEq_rename {x y : String} {body : Term} (hy : y ∉ (abs x body).freeNames) :
    (abs x body).AlphaEq (abs y (body.substAvoid x (var y))) := by
  rw [alphaEq_iff]
  refine congrArg Nameless.abs (body.resolve_substAll fun z hz => ?_).symm
  by_cases hzx : z = x
  · rw [hzx]
    exact .self
  · have hfree : Carried [] [] var .free z :=
      .free List.idxOf?_nil (fun _ _ => List.not_mem_nil) rfl
    refine hfree.enter hzx fun hyz => ?_
    rw [List.mem_singleton.mp hyz] at hy
    exact hy (mem_freeNames_abs.mpr ⟨hz, hzx⟩)

end Term

/-! ## Evaluation of alpha-equivalent terms -/

/-- Alpha-equivalent terms give native values with one nameless form, or the same fault. -/
theorem evaluate_lockstep_of_alphaEq {t u : Term} (ht : t.Native) (h : t.AlphaEq u) (n : Nat) :
    Run.Lockstep (fun v w : Value => v.Native ∧ w.Native ∧ v.nameless = w.nameless) Eq
      (evaluate n .empty t) (evaluate n .empty u) := by
  have hstep := evaluate_nameless n ht
  have hstep' := evaluate_nameless n (h.native_iff.mp ht)
  rw [← Term.alphaEq_iff.mp h] at hstep'
  refine (hstep.comp hstep').mono ?_ fun _ _ hf => hf
  rintro v w ⟨_, ⟨hv, rfl⟩, hw, hvw⟩
  exact ⟨hv, hw, hvw.symm⟩

/-- **Evaluation respects alpha-equivalence**: under every limit, alpha-equivalent terms both reach
it, or both blame the same variable, or both give closures that are read back as one nameless
term. -/
theorem evaluate_alphaEq {t u : Term} (ht : t.Native) (h : t.AlphaEq u) (n : Nat) :
    (evaluate n .empty t = .fail .depthExceeded ∧ evaluate n .empty u = .fail .depthExceeded) ∨
    (∃ x, evaluate n .empty t = .fail (.unbound x) ∧ evaluate n .empty u = .fail (.unbound x)) ∨
    (∃ env param body env' param' body',
      evaluate n .empty t = pure (.closure env param body) ∧
      evaluate n .empty u = pure (.closure env' param' body') ∧
      (Value.closure env param body).nameless = (Value.closure env' param' body').nameless) := by
  have hstep := evaluate_lockstep_of_alphaEq ht h n
  rcases (evaluate_empty_scoped n ht).outcomes with ⟨v, hv, -⟩ | ⟨x, -, hx⟩ | hd
  · rw [hv] at hstep ⊢
    obtain ⟨w, hw, hvn, hwn, hvw⟩ := hstep.of_pure
    obtain ⟨env, param, body, rfl⟩ := hvn.exists_closure
    obtain ⟨env', param', body', rfl⟩ := hwn.exists_closure
    exact .inr (.inr ⟨env, param, body, env', param', body', rfl, hw, hvw⟩)
  · rw [hx] at hstep ⊢
    obtain ⟨_, hu, rfl⟩ := hstep.of_fail
    exact .inr (.inl ⟨x, rfl, hu⟩)
  · rw [hd] at hstep ⊢
    obtain ⟨_, hu, rfl⟩ := hstep.of_fail
    exact .inl ⟨rfl, hu⟩

/-- A parameter that hides another one: `(λx. (λx. λy. x y w) (λz. x)) (λa. a)`. -/
def shadowing : Term :=
  .app (.abs "x" (.app
      (.abs "x" (.abs "y" (.app (.app (.var "x") (.var "y")) (.var "w"))))
      (.abs "z" (.var "x"))))
    (.abs "a" (.var "a"))

/-- The same with parameters that hide nothing: `(λp. (λq. λr. q r w) (λs. p)) (λa. a)`. -/
def unshadowing : Term :=
  .app (.abs "p" (.app
      (.abs "q" (.abs "r" (.app (.app (.var "q") (.var "r")) (.var "w"))))
      (.abs "s" (.var "p"))))
    (.abs "a" (.var "a"))

/-- Both give closures, with other names bound in what they captured, that are read back alike. -/
theorem shadowing_unshadowing :
    shadowing.Native ∧ shadowing.AlphaEq unshadowing ∧
      ∃ env param body env' param' body',
        evaluate 6 .empty shadowing = pure (.closure env param body) ∧
        evaluate 6 .empty unshadowing = pure (.closure env' param' body') ∧
        (Value.closure env param body).nameless = (Value.closure env' param' body').nameless := by
  have ht : shadowing.Native := by decide
  have halpha : shadowing.AlphaEq unshadowing := Term.alphaEq_iff.mpr rfl
  refine ⟨ht, halpha, ?_⟩
  rcases evaluate_alphaEq ht halpha 6 with ⟨hd, -⟩ | ⟨x, hx, -⟩ | h
  · cases congrArg Run.outcome hd
  · cases congrArg Run.outcome hx
  · exact h

end CallByValue
