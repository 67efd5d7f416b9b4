import CallByValue.Proofs.FreeNames

/-!
# Reading a term off its text

The text of a term is parenthesized throughout, so the term can be read off it as long as no name
holds a character that the notation needs for itself. Where a function ends and its argument begins
is then told by the brackets alone, however deep the two nest. Names may be empty, and they may hold
dots, although a dot ends the parameter of an abstraction.

* `LegibleName`, `Term.Legible` — names without characters of the notation, and the terms with such
  names only;
* `Term.text_append_inj` — the text of a term cannot be continued to that of another term: it is
  told apart from whatever delimits it;
* `render_unambiguous` — terms that are shown alike are the same, and closures that are shown alike
  have the same parameter and the same body.
-/

namespace CallByValue

/-! ## Names and delimiters -/

/-- The characters that open a term or a parameter. -/
def openers : List Char := ['(', 'λ']

/-- The characters that end a term. -/
def closers : List Char := [' ', ')']

/-- A name without brackets, blanks and lambdas. -/
def LegibleName (name : String) : Prop := ∀ c ∈ name.toList, c ∉ openers ∧ c ∉ closers

/-- What may follow a term in a text: nothing, or a character that ends it. -/
def Delimits (rest : List Char) : Prop := ∀ c ∈ rest.head?, c ∈ closers

/-- Terms without foreign leaves in which all names are legible, those of variables and those of
parameters. -/
def Term.Legible : Term → Prop
  | .var x => LegibleName x
  | .abs x body => LegibleName x ∧ body.Legible
  | .app fn arg => fn.Legible ∧ arg.Legible
  | .foreign _ => False

instance : DecidablePred LegibleName := fun name =>
  decidable_of_iff (name.toList.all fun c => !openers.contains c && !closers.contains c)
    (by simp [LegibleName])

/-- Legible terms can be told from others. -/
def Term.decideLegible : (t : Term) → Decidable t.Legible
  | .var x => inferInstanceAs (Decidable (LegibleName x))
  | .abs x body =>
    have := body.decideLegible
    inferInstanceAs (Decidable (LegibleName x ∧ body.Legible))
  | .app fn arg =>
    have := fn.decideLegible
    have := arg.decideLegible
    inferInstanceAs (Decidable (fn.Legible ∧ arg.Legible))
  | .foreign _ => inferInstanceAs (Decidable False)

instance : DecidablePred Term.Legible := Term.decideLegible

theorem delimits_nil : Delimits [] := nofun

theorem delimits_blank (rest : List Char) : Delimits (' ' :: rest) := by
  intro c hc
  obtain rfl := Option.some.inj hc
  decide

theorem delimits_bracket (rest : List Char) : Delimits (')' :: rest) := by
  intro c hc
  obtain rfl := Option.some.inj hc
  decide

/-- What delimits a term does not open one. -/
theorem Delimits.ne_opener {c : Char} {rest : List Char} (h : Delimits (c :: rest)) :
    c ∉ openers := by
  have hc : c = ' ' ∨ c = ')' := by simpa [closers] using h c rfl
  rcases hc with rfl | rfl
  · decide
  · decide

namespace LegibleName

variable {x y : String} {rest rest' : List Char}

/-- A name may end in a dot. -/
theorem dotted (hx : LegibleName x) : LegibleName (x ++ ".") := by
  intro c hc
  rw [String.toList_append, List.mem_append] at hc
  rcases hc with hc | hc
  · exact hx c hc
  · obtain rfl : c = '.' := List.mem_singleton.mp hc
    decide

/-- Half of `append_inj`: of two names that stand at the start of one text, the first does not go on
where the second ends. -/
theorem extension_eq_nil {xs more : List Char} (hx : ∀ c ∈ xs ++ more, c ∉ openers ∧ c ∉ closers)
    (h : Delimits (more ++ rest)) : more = [] := by
  cases more with
  | nil => rfl
  | cons c more =>
    have hc : c ∉ closers := (hx c (List.mem_append_right _ (List.mem_cons_self ..))).2
    exact absurd (h c rfl) hc

/-- A name is told apart from what delimits it. -/
theorem append_inj (hx : LegibleName x) (hy : LegibleName y) (h : Delimits rest)
    (h' : Delimits rest') (heq : x.toList ++ rest = y.toList ++ rest') : x = y ∧ rest = rest' := by
  rcases List.append_eq_append_iff.mp heq with ⟨more, hmore, hrest⟩ | ⟨more, hmore, hrest⟩
  · rw [LegibleName, hmore] at hy
    obtain rfl := extension_eq_nil hy (hrest ▸ h)
    exact ⟨(String.toList_inj.mp (hmore.trans (List.append_nil _))).symm, hrest⟩
  · rw [LegibleName, hmore] at hx
    obtain rfl := extension_eq_nil hx (hrest ▸ h')
    exact ⟨String.toList_inj.mp (hmore.trans (List.append_nil _)), hrest.symm⟩

/-- A name and what delimits it do not look like the start of a term in brackets. -/
theorem append_ne_cons (hx : LegibleName x) (h : Delimits rest) {c : Char} (hc : c ∈ openers)
    (more : List Char) : x.toList ++ rest ≠ c :: more := by
  intro heq
  cases hxs : x.toList with
  | nil =>
    rw [hxs, List.nil_append] at heq
    rw [heq] at h
    exact h.ne_opener hc
  | cons d xs =>
    rw [hxs, List.cons_append] at heq
    obtain rfl := (List.cons.inj heq).1
    have hd : d ∈ x.toList := by
      rw [hxs]
      exact List.mem_cons_self ..
    exact (hx d hd).1 hc

end LegibleName

/-! ## Texts of terms -/

namespace Term

/-- The characters of an abstraction and what follows it: the dot is taken together with the
parameter. -/
theorem text_abs_append (x : String) (body : Term) (rest : List Char) :
    (abs x body).text.toList ++ rest =
      '(' :: 'λ' :: ((x ++ ".").toList ++ ' ' :: (body.text.toList ++ ')' :: rest)) := by
  simp [text]

/-- The characters of an application and what follows it. -/
theorem text_app_append (fn arg : Term) (rest : List Char) :
    (app fn arg).text.toList ++ rest =
      '(' :: (fn.text.toList ++ ' ' :: (arg.text.toList ++ ')' :: rest)) := by
  simp [text]

theorem Legible.native : ∀ {t : Term}, t.Legible → t.Native
  | .var _, _ => trivial
  | .abs _ _, h => h.2.native
  | .app _ _, h => ⟨h.1.native, h.2.native⟩

variable {x y : String} {s t body other fn arg : Term} {rest rest' : List Char}

/-! ### Terms of different kinds -/

theorem text_var_ne_text_abs (hx : LegibleName x) (h : Delimits rest) :
    (var x).text.toList ++ rest ≠ (abs y other).text.toList ++ rest' := by
  rw [text_abs_append]
  exact hx.append_ne_cons h (by decide) _

theorem text_var_ne_text_app (hx : LegibleName x) (h : Delimits rest) :
    (var x).text.toList ++ rest ≠ (app fn arg).text.toList ++ rest' := by
  rw [text_app_append]
  exact hx.append_ne_cons h (by decide) _

/-- No term starts as the inside of an abstraction does. -/
theorem text_ne_lambda (ht : t.Legible) (h : Delimits rest) (more : List Char) :
    t.text.toList ++ rest ≠ 'λ' :: more := by
  cases t with
  | var x => exact LegibleName.append_ne_cons ht h (by decide) more
  | abs x body =>
    rw [text_abs_append]
    exact fun heq => absurd (List.cons.inj heq).1 (by decide)
  | app fn arg =>
    rw [text_app_append]
    exact fun heq => absurd (List.cons.inj heq).1 (by decide)
  | foreign datum => exact ht.elim

theorem text_abs_ne_text_app (hfn : fn.Legible) :
    (abs x body).text.toList ++ rest ≠ (app fn arg).text.toList ++ rest' := by
  intro heq
  rw [text_abs_append, text_app_append] at heq
  exact text_ne_lambda hfn (delimits_blank _) _ (List.cons.inj heq).2.symm

/-! ### Terms of one kind -/

/-- The parameter ends at the first blank, with a dot that is not its own. -/
theorem text_abs_append_inj (hx : LegibleName x) (hy : LegibleName y)
    (heq : (abs x body).text.toList ++ rest = (abs y other).text.toList ++ rest') :
    x = y ∧ body.text.toList ++ ')' :: rest = other.text.toList ++ ')' :: rest' := by
  rw [text_abs_append, text_abs_append] at heq
  have hinside := (List.cons.inj (List.cons.inj heq).2).2
  obtain ⟨hdotted, hbody⟩ :=
    hx.dotted.append_inj hy.dotted (delimits_blank _) (delimits_blank _) hinside
  exact ⟨(String.append_left_inj ".").mp hdotted, (List.cons.inj hbody).2⟩

/-- **The text of a term is told apart from what delimits it**: no text of a term can be continued
to the text of another one. By induction on the first term, for all that may follow. -/
theorem text_append_inj (hs : s.Legible) (ht : t.Legible) (h : Delimits rest)
    (h' : Delimits rest') (heq : s.text.toList ++ rest = t.text.toList ++ rest') :
    s = t ∧ rest = rest' := by
  induction s generalizing t rest rest' with
  | var x =>
    cases t with
    | var y =>
      obtain ⟨rfl, hrest⟩ := LegibleName.append_inj hs ht h h' heq
      exact ⟨rfl, hrest⟩
    | abs y other => exact absurd heq (text_var_ne_text_abs hs h)
    | app fn' arg' => exact absurd heq (text_var_ne_text_app hs h)
    | foreign datum => exact ht.elim
  | abs x body ih =>
    cases t with
    | var y => exact absurd heq.symm (text_var_ne_text_abs ht h')
    | abs y other =>
      obtain ⟨rfl, hbody⟩ := text_abs_append_inj hs.1 ht.1 heq
      obtain ⟨rfl, hrest⟩ := ih hs.2 ht.2 (delimits_bracket _) (delimits_bracket _) hbody
      exact ⟨rfl, (List.cons.inj hrest).2⟩
    | app fn' arg' => exact absurd heq (text_abs_ne_text_app ht.1)
    | foreign datum => exact ht.elim
  | app fn arg ihf iha =>
    cases t with
    | var y => exact absurd heq.symm (text_var_ne_text_app ht h')
    | abs y other => exact absurd heq.symm (text_abs_ne_text_app hs.1)
    | app fn' arg' =>
      rw [text_app_append, text_app_append] at heq
      -- the function ends where its brackets are balanced, and so does the argument
      obtain ⟨hfn, hblank⟩ := ihf hs.1 ht.1 (delimits_blank _) (delimits_blank _)
        (List.cons.inj heq).2
      obtain ⟨harg, hrest⟩ := iha hs.2 ht.2 (delimits_bracket _) (delimits_bracket _)
        (List.cons.inj hblank).2
      exact ⟨by rw [hfn, harg], (List.cons.inj hrest).2⟩
    | foreign datum => exact ht.elim
  | foreign datum => exact hs.elim

/-- Legible terms with the same text are the same. -/
theorem Legible.text_inj (hs : s.Legible) (ht : t.Legible) (h : s.text = t.text) : s = t := by
  refine (text_append_inj hs ht delimits_nil delimits_nil ?_).1
  rw [h]

end Term

/-- A closure is shown as its abstraction. -/
theorem Value.render_closure {body : Term} (hb : body.Native) (env : Env) (x : String) :
    (Value.closure env x body).render = .ok ("Closure" ++ (Term.abs x body).text) := by
  have htext : "Closure(λ" ++ x ++ ". " ++ body.text ++ ")" = "Closure" ++ (Term.abs x body).text := by
    rw [← String.toList_inj]
    simp [Term.text]
  rw [Value.render, hb.render, ← htext]
  rfl

/-- **What is shown is unambiguous**, as long as no name holds a bracket, a blank or a lambda. Terms
that are shown alike are the same. Closures that are shown alike have the same parameter and the
same body, although they may have captured different environments. -/
theorem render_unambiguous :
    (∀ {s t : Term}, s.Legible → t.Legible → s.render = t.render → s = t) ∧
    (∀ {env env' : Env} {x y : String} {b c : Term}, LegibleName x → b.Legible → LegibleName y →
      c.Legible → (Value.closure env x b).render = (Value.closure env' y c).render →
        x = y ∧ b = c) := by
  refine ⟨fun {s t} hs ht h => ?_, fun {env env' x y b c} hx hb hy hc h => ?_⟩
  · rw [hs.native.render, ht.native.render] at h
    exact hs.text_inj ht (Except.ok.inj h)
  · rw [Value.render_closure hb.native, Value.render_closure hc.native] at h
    have htext : (Term.abs x b).text = (Term.abs y c).text :=
      (String.append_right_inj _).mp (Except.ok.inj h)
    have habs : Term.abs x b = Term.abs y c := Term.Legible.text_inj ⟨hx, hb⟩ ⟨hy, hc⟩ htext
    cases habs
    exact ⟨rfl, rfl⟩

/-- An application whose names are empty or a dot. -/
def dotted : Term := .app (.var "") (.abs "" (.var "."))

/-- The same application, to a list of one argument. -/
def dottedAgain : Term := Term.applyAll (.var "") [.abs "" (.var ".")]

/-- An abstraction over it, with a parameter that ends in a dot, can be read off its text, and so
can a closure, whatever it captured. -/
theorem dotted_unambiguous :
    (Term.abs "x." dotted).Legible ∧ (Term.abs "x." dottedAgain).Legible ∧
      (Term.abs "x." dotted).render = .ok "(λx.. ( (λ. .)))" ∧
      (Term.abs "x." dotted).render = (Term.abs "x." dottedAgain).render ∧
      Term.abs "x." dotted = Term.abs "x." dottedAgain ∧
      LegibleName "x." ∧ dotted.Legible ∧ dottedAgain.Legible ∧
      (Value.closure .empty "x." dotted).render =
        (Value.closure (Env.empty.extend "y" (.constant .null)) "x." dottedAgain).render ∧
      dotted = dottedAgain := by
  have hname : LegibleName "x." := by decide
  have hbody : dotted.Legible := by decide
  have hagain : dottedAgain.Legible := by decide
  have hclosures : (Value.closure .empty "x." dotted).render =
      (Value.closure (Env.empty.extend "y" (.constant .null)) "x." dottedAgain).render := rfl
  obtain ⟨hread, hclosure⟩ := render_unambiguous
  exact ⟨⟨hname, hbody⟩, ⟨hname, hagain⟩, rfl, rfl,
    hread ⟨hname, hbody⟩ ⟨hname, hagain⟩ rfl,
    hname, hbody, hagain, hclosures, (hclosure hname hbody hname hagain hclosures).2⟩

end CallByValue
