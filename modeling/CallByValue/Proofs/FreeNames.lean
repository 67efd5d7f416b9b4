import CallByValue.Proofs.Native
import CallByValue.Term.Display
import CallByValue.Text.Slice

/-!
# Free names and where they stand

The free names of a term are sorted to point at the smallest one, and searched for in the text of
the term. The search skips occurrences that are bound, and finds the place where the leftmost free
occurrence is written. A name may be any text, so the place is told by a path down the term and not
by what is written there.

* `Term.mem_sortNames`, `Term.sortNames_pairwise` — sorting keeps the names and puts them in
  ascending order, so that the first one is the smallest (`Term.sortNames_head`);
* `Term.FreeAt`, `Term.offset` — the free occurrences of a name as paths down the term, and the
  offset at which the leaf at a path is written;
* `Term.position_of_not_mem`, `Term.position_of_mem` — the search finds just the free names, and
  what stands at the place is the name;
* `Term.position_exact` — the search finds the leftmost free occurrence.
-/

namespace CallByValue

namespace Term

/-! ## Sorted names -/

theorem mem_insertName {name x : String} {names : List String} :
    x ∈ insertName name names ↔ x = name ∨ x ∈ names := by
  induction names with
  | nil => simp [insertName]
  | cons other rest ih =>
    rw [insertName]
    split
    · simp
    · split
      · rename_i heq
        simp [heq]
      · simp only [List.mem_cons, ih]
        exact or_left_comm

/-- A name is put into its place. -/
theorem insertName_pairwise {name : String} {names : List String} (h : names.Pairwise (· < ·)) :
    (insertName name names).Pairwise (· < ·) := by
  induction names with
  | nil => simp [insertName]
  | cons other rest ih =>
    obtain ⟨hother, hrest⟩ := List.pairwise_cons.mp h
    rw [insertName]
    split
    · rename_i hlt
      refine List.pairwise_cons.mpr ⟨fun x hx => ?_, h⟩
      rcases List.mem_cons.mp hx with rfl | hx
      · exact hlt
      · exact Std.lt_trans hlt (hother x hx)
    · rename_i hnlt
      split
      · exact h
      · rename_i hne
        refine List.pairwise_cons.mpr ⟨fun x hx => ?_, ih hrest⟩
        rcases mem_insertName.mp hx with rfl | hx
        · exact Std.lt_of_le_of_ne (String.not_lt.mp hnlt) (Ne.symm hne)
        · exact hother x hx

theorem mem_sortNames {x : String} (names : List String) : x ∈ sortNames names ↔ x ∈ names := by
  induction names with
  | nil => rfl
  | cons name names ih => rw [sortNames, List.foldr_cons, mem_insertName, List.mem_cons, ← ih]; rfl

theorem sortNames_pairwise (names : List String) : (sortNames names).Pairwise (· < ·) := by
  induction names with
  | nil => exact .nil
  | cons name names ih => exact insertName_pairwise ih

/-- The first of the sorted names is the smallest one. -/
theorem sortNames_head {names : List String} {x : String} {rest : List String}
    (h : sortNames names = x :: rest) : x ∈ names ∧ ∀ y ∈ names, x ≤ y := by
  have hsorted := sortNames_pairwise names
  rw [h] at hsorted
  refine ⟨(mem_sortNames names).mp (h ▸ List.mem_cons_self ..), fun y hy => ?_⟩
  rw [← mem_sortNames, h] at hy
  rcases List.mem_cons.mp hy with rfl | hy
  · exact String.le_refl y
  · exact Std.le_of_lt ((List.pairwise_cons.mp hsorted).1 y hy)

/-! ## Occurrences -/

/-- A step down a term. -/
inductive Branch where
  /-- to the body of an abstraction -/
  | body
  /-- to the function of an application -/
  | fn
  /-- to the argument of an application -/
  | arg
deriving Repr, DecidableEq

/-- A path from the root of a term down to a leaf. -/
abbrev Path := List Branch

/-- The variable `name` stands at a path, and no abstraction on the path binds it. -/
inductive FreeAt (name : String) : Term → Path → Prop where
  /-- the variable itself -/
  | var : FreeAt name (.var name) []
  /-- below a binder of another name -/
  | body {x : String} {body : Term} {path : Path} (hx : x ≠ name) (h : FreeAt name body path) :
    FreeAt name (.abs x body) (.body :: path)
  /-- in the function -/
  | fn {fn arg : Term} {path : Path} (h : FreeAt name fn path) :
    FreeAt name (.app fn arg) (.fn :: path)
  /-- in the argument -/
  | arg {fn arg : Term} {path : Path} (h : FreeAt name arg path) :
    FreeAt name (.app fn arg) (.arg :: path)

/-- The first path branches off to the left of the second. -/
inductive LeftOf : Path → Path → Prop where
  /-- one path goes to the function and the other to the argument -/
  | split (path other : Path) : LeftOf (.fn :: path) (.arg :: other)
  /-- after a common step -/
  | down (branch : Branch) {path other : Path} (h : LeftOf path other) :
    LeftOf (branch :: path) (branch :: other)

/-- What is written to the left of the leaf at a path. -/
def textBefore : Term → Path → String
  | .abs x body, .body :: path => "(λ" ++ x ++ ". " ++ body.textBefore path
  | .app fn _, .fn :: path => "(" ++ fn.textBefore path
  | .app fn arg, .arg :: path => "(" ++ fn.text ++ " " ++ arg.textBefore path
  | _, _ => ""

/-- What is written to the right of the leaf at a path. -/
def textAfter : Term → Path → String
  | .abs _ body, .body :: path => body.textAfter path ++ ")"
  | .app fn arg, .fn :: path => fn.textAfter path ++ " " ++ arg.text ++ ")"
  | .app _ arg, .arg :: path => arg.textAfter path ++ ")"
  | _, _ => ""

/-- The offset at which the leaf at a path is written. -/
def offset (t : Term) (path : Path) : Nat := (t.textBefore path).length

theorem offset_body (x : String) (body : Term) (path : Path) :
    (abs x body).offset (.body :: path) = (binderText x).length + body.offset path := by
  rw [offset, textBefore, String.length_append]
  rfl

theorem offset_fn (fn arg : Term) (path : Path) :
    (app fn arg).offset (.fn :: path) = 1 + fn.offset path := by
  rw [offset, textBefore, String.length_append]
  rfl

theorem offset_arg (fn arg : Term) (path : Path) :
    (app fn arg).offset (.arg :: path) = ("(" ++ fn.text ++ " ").length + arg.offset path := by
  rw [offset, textBefore, String.length_append]
  rfl

variable {t : Term} {x y : String} {path other : Path}

/-- The name of an occurrence is written between the texts on its two sides. -/
theorem FreeAt.text_eq (h : t.FreeAt x path) :
    t.text = t.textBefore path ++ x ++ t.textAfter path := by
  induction h with
  | var => simp [text, textBefore, textAfter]
  | body hx h ih => simp only [text, textBefore, textAfter, ih, String.append_assoc]
  | fn h ih => simp only [text, textBefore, textAfter, ih, String.append_assoc]
  | arg h ih => simp only [text, textBefore, textAfter, ih, String.append_assoc]

/-- A name that occurs free is one of the free names. -/
theorem FreeAt.mem_freeNames (h : t.FreeAt x path) : x ∈ t.freeNames := by
  induction h with
  | var => exact List.mem_singleton.mpr rfl
  | body hx h ih => exact mem_freeNames_abs.mpr ⟨ih, Ne.symm hx⟩
  | fn h ih => exact List.mem_append_left _ ih
  | arg h ih => exact List.mem_append_right _ ih

theorem FreeAt.offset_le (h : t.FreeAt x path) : t.offset path ≤ t.text.length := by
  rw [h.text_eq, String.length_append, String.length_append, offset]
  omega

/-- What is further to the left is written at a smaller offset, even if the names are empty. -/
theorem FreeAt.offset_lt (h : t.FreeAt x path) (h' : t.FreeAt y other)
    (hleft : LeftOf path other) : t.offset path < t.offset other := by
  induction hleft generalizing t with
  | split path other =>
    cases h with
    | fn h =>
      -- the function is written in full before the argument
      have hle := h.offset_le
      rw [offset_fn, offset_arg, String.length_append, String.length_append]
      have hopen : "(".length = 1 := rfl
      have hblank : " ".length = 1 := rfl
      omega
  | down branch hleft ih =>
    cases h with
    | body hx h =>
      cases h' with
      | body hx' h' =>
        rw [offset_body, offset_body]
        exact Nat.add_lt_add_left (ih h h') _
    | fn h =>
      cases h' with
      | fn h' =>
        rw [offset_fn, offset_fn]
        exact Nat.add_lt_add_left (ih h h') _
    | arg h =>
      cases h' with
      | arg h' =>
        rw [offset_arg, offset_arg]
        exact Nat.add_lt_add_left (ih h h') _

/-! ## Positions -/

/-- A native term is shown by its text. -/
theorem Native.render {t : Term} (ht : t.Native) : t.render = .ok t.text := by
  rw [Term.render, (native_iff t).mp ht]

/-- The search skips the parts that do not have the name free. -/
theorem position_of_not_mem {t : Term} (ht : t.Native) {x : String} (hx : x ∉ t.freeNames) :
    t.position x = .ok none := by
  induction t with
  | var y =>
    have hne : y ≠ x := fun h => hx (List.mem_singleton.mpr h.symm)
    rw [position, if_neg hne]
  | abs y body ih =>
    rw [position]
    by_cases hy : y = x
    · rw [if_pos hy]
    · have hb : x ∉ body.freeNames := fun h => hx (mem_freeNames_abs.mpr ⟨h, Ne.symm hy⟩)
      rw [if_neg hy, ih ht hb]
      rfl
  | app fn arg ihf iha =>
    rw [freeNames_app, List.mem_append, not_or] at hx
    have hf := ihf ht.1 hx.1
    have ha := iha ht.2 hx.2
    simp only [position, hf, ha, bind, Except.bind]
    rfl
  | foreign datum => exact ht.elim

/-- A name that is free is found at its leftmost free occurrence. -/
theorem exists_leftmost (ht : t.Native) (hx : x ∈ t.freeNames) :
    ∃ path, t.FreeAt x path ∧ t.position x = .ok (some (t.offset path)) ∧
      ∀ other, t.FreeAt x other → other ≠ path → LeftOf path other := by
  induction t with
  | var y =>
    obtain rfl := List.mem_singleton.mp hx
    refine ⟨[], .var, by rw [position, if_pos rfl]; rfl, fun other h hne => ?_⟩
    cases h with
    | var => exact absurd rfl hne
  | abs y body ih =>
    obtain ⟨hb, hne⟩ := mem_freeNames_abs.mp hx
    obtain ⟨path, hpath, hp, hleft⟩ := ih ht hb
    refine ⟨.body :: path, .body (Ne.symm hne) hpath, ?_, fun other h hother => ?_⟩
    · rw [position, if_neg (Ne.symm hne), hp, offset_body]
      rfl
    · cases h with
      | body _ h => exact .down _ (hleft _ h fun heq => hother (congrArg _ heq))
  | app fn arg ihf iha =>
    by_cases hf : x ∈ fn.freeNames
    · obtain ⟨path, hpath, hp, hleft⟩ := ihf ht.1 hf
      refine ⟨.fn :: path, .fn hpath, ?_, fun other h hother => ?_⟩
      · rw [position, hp, offset_fn]
        rfl
      · cases h with
        | fn h => exact .down _ (hleft _ h fun heq => hother (congrArg _ heq))
        | arg h => exact .split _ _
    · -- the function does not have the name free, so its text is skipped
      have ha : x ∈ arg.freeNames := (List.mem_append.mp hx).resolve_left hf
      obtain ⟨path, hpath, hp, hleft⟩ := iha ht.2 ha
      refine ⟨.arg :: path, .arg hpath, ?_, fun other h hother => ?_⟩
      · rw [position, position_of_not_mem ht.1 hf, hp, ht.1.render, offset_arg]
        rfl
      · cases h with
        | fn h => exact absurd h.mem_freeNames hf
        | arg h => exact .down _ (hleft _ h fun heq => hother (congrArg _ heq))
  | foreign datum => exact ht.elim

/-- A name that is free is found, and it stands at the place that was found. -/
theorem position_of_mem {t : Term} (ht : t.Native) {x : String} (hx : x ∈ t.freeNames) :
    ∃ before after : String, t.position x = .ok (some before.length) ∧
      t.text = before ++ x ++ after := by
  obtain ⟨path, hpath, hp, -⟩ := exists_leftmost ht hx
  exact ⟨t.textBefore path, t.textAfter path, hp, hpath.text_eq⟩

/-- **The search for a name is exact**, in a term without foreign leaves and for any names. It finds
nothing just when the name is not free. Otherwise it finds the offset at which the leftmost free
occurrence is written: the name stands there in the text, and all other free occurrences of it lie
further to the right and are written at greater offsets. -/
theorem position_exact {t : Term} (ht : t.Native) (name : String) :
    ∃ shown, t.render = .ok shown ∧
      (t.position name = .ok none ↔ name ∉ t.freeNames) ∧
      (name ∈ t.freeNames → ∃ path, t.FreeAt name path ∧
        t.position name = .ok (some (t.offset path)) ∧
        shown = t.textBefore path ++ name ++ t.textAfter path ∧
        Text.between shown (t.offset path) (t.offset path + name.length) = name ∧
        ∀ other, t.FreeAt name other → other ≠ path →
          LeftOf path other ∧ t.offset path < t.offset other) := by
  refine ⟨t.text, ht.render, ⟨fun hnone hmem => ?_, position_of_not_mem ht⟩, fun hmem => ?_⟩
  · obtain ⟨path, -, hp, -⟩ := exists_leftmost ht hmem
    cases hnone.symm.trans hp
  · obtain ⟨path, hpath, hp, hleft⟩ := exists_leftmost ht hmem
    refine ⟨path, hpath, hp, hpath.text_eq, ?_, fun other hother hne => ?_⟩
    · rw [hpath.text_eq]
      exact Text.between_append _ _ _
    · have hother' := hleft other hother hne
      exact ⟨hother', hpath.offset_lt hother hother'⟩

/-- A term in which `x` is bound first, then stands in a longer name, and then occurs free twice. -/
def misleading : Term :=
  .app (.abs "x" (.var "x")) (.app (.var "(x ") (.app (.var "x") (.var "x")))

/-- The search finds the fourth `x` of the text, which is written at offset 15. -/
theorem misleading_position :
    misleading.Native ∧ "x" ∈ misleading.freeNames ∧
      misleading.render = .ok "((λx. x) ((x  (x x)))" ∧
      ∃ path, misleading.FreeAt "x" path ∧ misleading.offset path = 15 ∧
        ∀ other, misleading.FreeAt "x" other → other ≠ path → 15 < misleading.offset other := by
  have hnative : misleading.Native := by decide
  have hfree : "x" ∈ misleading.freeNames := by decide
  obtain ⟨shown, hs, -, hfound⟩ := position_exact hnative "x"
  obtain ⟨path, hpath, hp, -, -, hleft⟩ := hfound hfree
  have hoffset : misleading.offset path = 15 :=
    (Option.some.inj (Except.ok.inj (hp.symm.trans rfl)))
  refine ⟨hnative, hfree, rfl, path, hpath, hoffset, fun other hother hne => ?_⟩
  rw [← hoffset]
  exact (hleft other hother hne).2

end Term

end CallByValue
