import CallByValue.Datum

/-!
# Terms of the untyped lambda calculus

A term is a **variable**, an **abstraction** or an **application**, with names for variables. A
host program can also put a piece of its own data where a term belongs; such a **foreign** leaf is
no term of the calculus, and is refused wherever it is reached.

* `Term.freeNames`, `Term.isClosed` — the names that occur free;
* `Term.height` — how deep the parts of a term nest;
* `Term.text` — the fully parenthesized text: `x`, `(λx. e)`, `(e₁ e₂)`;
* `Term.dump` — the text that spells out the constructors, and `Term.dumpWithin` the same for terms
  that nest only so deep;
* `Term.firstForeign?` — the leftmost foreign leaf.
-/

namespace CallByValue

/-- Terms with named variables. -/
inductive Term where
  /-- reference to the variable called `name` -/
  | var (name : String)
  /-- function that binds `param` in `body` -/
  | abs (param : String) (body : Term)
  /-- application of `fn` to `arg` -/
  | app (fn : Term) (arg : Term)
  /-- host data where a term belongs -/
  | foreign (datum : Datum Empty)

namespace Term

/-! ## Building terms -/

/-- The function of several parameters, one after the other. -/
def abstractAll (params : List String) (body : Term) : Term := params.foldr abs body

/-- The application to several arguments, one after the other. -/
def applyAll (fn : Term) (args : List Term) : Term := args.foldl app fn

/-! ## Names -/

/-- The names that occur free, from left to right; a name occurs once for every free occurrence.
Foreign data have no names. -/
def freeNames : Term → List String
  | .var x => [x]
  | .abs x body => body.freeNames.filter (· ≠ x)
  | .app fn arg => fn.freeNames ++ arg.freeNames
  | .foreign _ => []

/-- Is the term **closed**, that is, without free names? -/
def isClosed (t : Term) : Bool := t.freeNames.isEmpty

/-- How deep the parts of a term nest. -/
def height : Term → Nat
  | .var _ => 1
  | .abs _ body => body.height + 1
  | .app fn arg => max fn.height arg.height + 1
  | .foreign _ => 1

/-- The leftmost foreign leaf. -/
def firstForeign? : Term → Option (Datum Empty)
  | .var _ => none
  | .abs _ body => body.firstForeign?
  | .app fn arg => fn.firstForeign?.or arg.firstForeign?
  | .foreign d => some d

@[simp] theorem freeNames_var (x : String) : (var x).freeNames = [x] := rfl

@[simp] theorem freeNames_abs (x : String) (body : Term) :
    (abs x body).freeNames = body.freeNames.filter (· ≠ x) := rfl

@[simp] theorem freeNames_app (fn arg : Term) :
    (app fn arg).freeNames = fn.freeNames ++ arg.freeNames := rfl

/-- A name is free in an abstraction when it is free in the body and is not the parameter. -/
theorem mem_freeNames_abs {x y : String} {body : Term} :
    y ∈ (abs x body).freeNames ↔ y ∈ body.freeNames ∧ y ≠ x := by
  simp [List.mem_filter]

/-- A term is closed when no name is free in it. -/
theorem isClosed_iff {t : Term} : t.isClosed = true ↔ t.freeNames = [] := by
  simp [isClosed]

/-! ## Texts -/

/-- The fully parenthesized text of a term. -/
def text : Term → String
  | .var x => x
  | .abs x body => "(λ" ++ x ++ ". " ++ body.text ++ ")"
  | .app fn arg => "(" ++ fn.text ++ " " ++ arg.text ++ ")"
  | .foreign d => d.dump

/-- The text of a term that spells out its constructors, with the names in quotes. -/
def dump : Term → String
  | .var x => "Var(name=" ++ Text.quote x ++ ")"
  | .abs x body => "Abs(param=" ++ Text.quote x ++ ", body=" ++ body.dump ++ ")"
  | .app fn arg => "App(fn=" ++ fn.dump ++ ", arg=" ++ arg.dump ++ ")"
  | .foreign d => d.dump

/-- The text of a term on its own: foreign data are shown without quotes. -/
def display : Term → String
  | .foreign d => d.display
  | t => t.dump

/-- The text that spells out the constructors, where terms nest only so deep. -/
def dumpWithin : (depth : Nat) → Term → Except Text.Limit String
  | 0, _ => .error .depth
  | _ + 1, .var x => .ok ("Var(name=" ++ Text.quote x ++ ")")
  | depth + 1, .abs x body => do
    return "Abs(param=" ++ Text.quote x ++ ", body=" ++ (← body.dumpWithin depth) ++ ")"
  | depth + 1, .app fn arg => do
    return "App(fn=" ++ (← fn.dumpWithin depth) ++ ", arg=" ++ (← arg.dumpWithin depth) ++ ")"
  | depth + 1, .foreign d => d.dumpWithin (depth + 1)

/-- The text of a term on its own, where terms nest only so deep. -/
def displayWithin (depth : Nat) : Term → Except Text.Limit String
  | .foreign d => d.displayWithin depth
  | t => t.dumpWithin depth

/-- Within the limits, the text is that of the term. -/
theorem eq_dump {depth : Nat} {t : Term} {s : String} (h : t.dumpWithin depth = .ok s) :
    s = t.dump := by
  induction depth generalizing t s with
  | zero => cases h
  | succ depth ih =>
    cases t with
    | var x => exact (Except.ok.inj h).symm
    | abs x body =>
      obtain ⟨shown, hb, h⟩ := ok_of_bind h
      obtain rfl := ih hb
      exact (Except.ok.inj h).symm
    | app fn arg =>
      obtain ⟨shown, hf, h⟩ := ok_of_bind h
      obtain ⟨shown', ha, h⟩ := ok_of_bind h
      obtain rfl := ih hf
      obtain rfl := ih ha
      exact (Except.ok.inj h).symm
    | foreign d => exact Datum.eq_dump h

/-! ## Terms as host objects -/

/-- Equality of terms: the same shape with the same names, and equal data at foreign leaves. -/
def beq : Term → Term → Bool
  | .var x, .var y => x == y
  | .abs x body, .abs y other => x == y && body.beq other
  | .app fn arg, .app fn' arg' => fn.beq fn' && arg.beq arg'
  | .foreign d, .foreign e => d == e
  | _, _ => false

/-- The name of a term's kind. -/
def kindName : Term → String
  | .var _ => "Var"
  | .abs _ _ => "Abs"
  | .app _ _ => "App"
  | .foreign d => d.kindName

instance : Embedded Term where
  beq := beq
  dump := dump
  dumpWithin := dumpWithin
  eq_dump := eq_dump
  kindName := kindName

end Term

end CallByValue
