import CallByValue.Proofs.FreeNames
import Mathlib.Data.List.Sort

/-!
# Terms under a limit on depth

The procedures that show a term and look for its names go down to its leaves. So a term of the
calculus that is no higher than the limit on depth is shown, and its names are found, as if there
were no limit; and a higher one ends in the limit.

* `withinDepth` — what comes of a procedure that nests so deep, and how two of them follow each
  other;
* `Term.Native.renderWithin_eq`, `Term.Native.freeSet_eq`, `Term.Native.isClosedWithin_eq` — the
  text of a term, its free names and whether there are any;
* `Term.Native.freePosition_eq` — the position of a name, where minus one stands for none;
* `Value.Native.exists_renderWithin_eq` — the short text of a value.
-/

namespace CallByValue

/-! ## Procedures that nest -/

section

variable {α β : Type}

/-- What comes of a procedure that nests `height` deep, where nesting may go `depth` deep. -/
def withinDepth (depth height : Nat) (result : α) : Except Obstacle α :=
  if height ≤ depth then .ok result else .error .tooDeep

variable {depth height : Nat}

theorem withinDepth_of_le (h : height ≤ depth) (result : α) :
    withinDepth depth height result = .ok result := if_pos h

theorem withinDepth_of_lt (h : depth < height) (result : α) :
    withinDepth depth height result = .error .tooDeep := if_neg (Nat.not_le_of_lt h)

/-- Nothing nests less than one deep. -/
theorem withinDepth_zero (height : Nat) (result : α) :
    withinDepth 0 (height + 1) result = .error .tooDeep := withinDepth_of_lt height.succ_pos result

/-- One level more on both sides makes no difference. -/
theorem withinDepth_succ (depth height : Nat) (result : α) :
    withinDepth (depth + 1) (height + 1) result = withinDepth depth height result := by
  simp only [withinDepth, Nat.add_le_add_iff_right]

/-- A result that is made into another one. -/
theorem withinDepth_bind_pure (depth height : Nat) (result : α) (f : α → β) :
    (withinDepth depth height result >>= fun a => pure (f a)) =
      withinDepth depth height (f result) := by
  rw [withinDepth, withinDepth]
  split <;> rfl

/-- Of two procedures that follow each other, the one that nests deeper matters. -/
theorem withinDepth_bind (depth first second : Nat) (a : α) (f : α → β) :
    (withinDepth depth first a >>= fun a => withinDepth depth second (f a)) =
      withinDepth depth (max first second) (f a) := by
  rcases Nat.lt_or_ge depth first with hlt | hge
  · rw [withinDepth_of_lt hlt, withinDepth_of_lt (Nat.lt_of_lt_of_le hlt (Nat.le_max_left ..))]
    rfl
  · rw [withinDepth_of_le hge]
    simp only [withinDepth, Nat.max_le, hge, true_and]
    rfl

end

namespace Term

variable {t : Term}

theorem height_pos (t : Term) : 0 < t.height := by
  cases t <;> exact Nat.succ_pos _

/-! ## Texts -/

/-- A term of the calculus is shown by its text, if it is no higher than the limit. -/
theorem Native.renderWithin_eq (ht : t.Native) (depth : Nat) :
    t.renderWithin depth = withinDepth depth t.height t.text := by
  induction depth generalizing t with
  | zero => exact (withinDepth_of_lt t.height_pos t.text).symm
  | succ depth ih =>
    cases t with
    | var x => rfl
    | abs x body =>
      have hb : body.Native := ht
      rw [renderWithin, ih hb, height, withinDepth_succ, withinDepth_bind_pure]
      rfl
    | app fn arg =>
      simp only [renderWithin, ih ht.1, ih ht.2, withinDepth_bind_pure, withinDepth_bind]
      rw [height, withinDepth_succ]
      rfl
    | foreign d => exact ht.elim

/-! ## Free names -/

/-- Names are left out before sorting or after it. -/
theorem filter_sortNames (p : String → Bool) (names : List String) :
    (sortNames names).filter p = sortNames (names.filter p) :=
  ((sortNames_pairwise names).filter p).eq_of_mem_iff (sortNames_pairwise _) fun x => by
    rw [List.mem_filter, mem_sortNames, mem_sortNames, List.mem_filter]

/-- Lists that are sorted before they are joined are sorted again. -/
theorem sortNames_append (names others : List String) :
    sortNames (sortNames names ++ sortNames others) = sortNames (names ++ others) :=
  (sortNames_pairwise _).eq_of_mem_iff (sortNames_pairwise _) fun x => by
    simp only [mem_sortNames, List.mem_append]

/-- The free names of a term of the calculus are found in their order, if the term is no higher than
the limit. -/
theorem Native.freeSet_eq (ht : t.Native) (depth : Nat) :
    t.freeSet depth = withinDepth depth t.height (sortNames t.freeNames) := by
  induction depth generalizing t with
  | zero => exact (withinDepth_of_lt t.height_pos _).symm
  | succ depth ih =>
    cases t with
    | var x => rfl
    | abs x body =>
      have hb : body.Native := ht
      rw [freeSet, ih hb, height, withinDepth_succ, withinDepth_bind_pure, filter_sortNames]
      rfl
    | app fn arg =>
      simp only [freeSet, ih ht.1, ih ht.2, withinDepth_bind_pure, withinDepth_bind]
      rw [height, withinDepth_succ, sortNames_append]
      rfl
    | foreign d => exact ht.elim

/-- A term without free names has none to sort. -/
theorem isEmpty_sortNames (t : Term) : (sortNames t.freeNames).isEmpty = t.isClosed := by
  rw [isClosed, Bool.eq_iff_iff, List.isEmpty_iff, List.isEmpty_iff, List.eq_nil_iff_forall_not_mem,
    List.eq_nil_iff_forall_not_mem]
  simp only [mem_sortNames]

/-- Whether there are free names is found where there is one level to spare. -/
theorem Native.isClosedWithin_eq (ht : t.Native) (depth : Nat) :
    t.isClosedWithin depth = withinDepth depth (t.height + 1) t.isClosed := by
  cases depth with
  | zero => exact (withinDepth_zero t.height _).symm
  | succ depth =>
    rw [isClosedWithin, ht.freeSet_eq, withinDepth_bind_pure, withinDepth_succ, isEmpty_sortNames]

/-! ## Positions -/

/-- A position as a number: minus one stands for none. -/
def ofPosition : Option Nat → Int
  | none => -1
  | some offset => offset

/-- A position is no negative number. -/
theorem ofPosition_ne (offset : Nat) : ofPosition (some offset) ≠ -1 := by
  rw [ofPosition]
  omega

/-- In a term of the calculus that is no higher than the limit, a name is found where it is, and
minus one if it is not free. -/
theorem Native.freePosition_eq (ht : t.Native) (name : String) {depth : Nat}
    (h : t.height ≤ depth) :
    ∃ found, t.position name = .ok found ∧ t.freePosition name depth = .ok (ofPosition found) := by
  induction t generalizing depth with
  | var x =>
    obtain ⟨depth, rfl⟩ := Nat.exists_eq_add_of_le' (Nat.lt_of_lt_of_le (height_pos _) h)
    by_cases hx : x = name
    · exact ⟨some 0, by rw [position, if_pos hx], by rw [freePosition, if_pos hx]; rfl⟩
    · exact ⟨none, by rw [position, if_neg hx], by rw [freePosition, if_neg hx]; rfl⟩
  | abs x body ih =>
    obtain ⟨depth, rfl⟩ := Nat.exists_eq_add_of_le' (Nat.lt_of_lt_of_le (height_pos _) h)
    rw [position, freePosition]
    by_cases hx : x = name
    · rw [if_pos hx, if_pos hx]
      exact ⟨none, rfl, rfl⟩
    · obtain ⟨found, hp, hf⟩ := ih ht (Nat.le_of_succ_le_succ h)
      rw [if_neg hx, if_neg hx, hp, hf]
      refine ⟨_, rfl, ?_⟩
      cases found with
      | none => rfl
      | some offset =>
        simp only [bind, Except.bind, if_neg (ofPosition_ne offset)]
        rfl
  | app fn arg ihf iha =>
    obtain ⟨depth, rfl⟩ := Nat.exists_eq_add_of_le' (Nat.lt_of_lt_of_le (height_pos _) h)
    have hmax : max fn.height arg.height ≤ depth := Nat.le_of_succ_le_succ h
    have hfn : fn.height ≤ depth := Nat.le_trans (Nat.le_max_left ..) hmax
    obtain ⟨found, hp, hf⟩ := ihf ht.1 hfn
    obtain ⟨found', hp', hf'⟩ := iha ht.2 (Nat.le_trans (Nat.le_max_right ..) hmax)
    rw [position, freePosition, hp, hf]
    -- an occurrence in the function ends the search; the text of the function is made only behind
    -- one in the argument
    cases found with
    | some offset =>
      refine ⟨some (1 + offset), rfl, ?_⟩
      simp only [bind, Except.bind, if_pos (ofPosition_ne offset)]
      rfl
    | none =>
      rw [hp', hf', ht.1.render, ht.1.renderWithin_eq, withinDepth_of_le hfn]
      cases found' with
      | none => exact ⟨none, rfl, rfl⟩
      | some offset =>
        refine ⟨_, rfl, ?_⟩
        simp only [bind, Except.bind, if_neg (ofPosition_ne offset)]
        rfl
  | foreign d => exact ht.elim

end Term

/-! ## Values -/

/-- The short text of a native value takes one level more than the body of the closure. -/
theorem Value.Native.exists_renderWithin_eq {v : Value} (h : v.Native) :
    ∃ height text, v.render = .ok text ∧
      ∀ depth, v.renderWithin depth = withinDepth depth height text := by
  obtain ⟨env, param, body, rfl⟩ := h.exists_closure
  refine ⟨body.height + 1, _, by rw [render, h.1.render]; rfl, fun depth => ?_⟩
  cases depth with
  | zero => exact (withinDepth_zero body.height _).symm
  | succ depth =>
    rw [renderWithin, h.1.renderWithin_eq, withinDepth_bind_pure, withinDepth_succ]

end CallByValue
