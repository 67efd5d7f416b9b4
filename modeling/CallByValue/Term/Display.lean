import CallByValue.HostError

/-!
# Showing terms, and pointing into them

Terms are shown only when they are terms throughout: a foreign leaf is an error.

* `Term.render` — the text of a term, or the error of its leftmost foreign leaf;
* `Term.position` — where in the text the **first free occurrence** of a name stands.

The procedures of the program go through a term by recursion, and there is a limit on how deep they
may nest. They meet the parts of a term from left to right, and end at the first obstacle:

* `Term.renderWithin` — the text;
* `Term.freeSet` — the free names, each once, in the order of their code points;
* `Term.freePosition` — the position of a name, where minus one stands for none.
-/

namespace CallByValue.Term

/-- The fully parenthesized text of a term without foreign leaves. -/
def render (t : Term) : Except HostError String :=
  match t.firstForeign? with
  | some d => .error (.notATerm d)
  | none => .ok t.text

/-- Puts a name into its place in an ascending list, unless it is there already. -/
def insertName (name : String) : List String → List String
  | [] => [name]
  | other :: rest =>
    if name < other then name :: other :: rest
    else if name = other then other :: rest
    else other :: insertName name rest

/-- Names in the order of their code points, each once. -/
def sortNames (names : List String) : List String := names.foldr insertName []

/-- What stands in front of the body in the text of an abstraction. -/
def binderText (param : String) : String := "(λ" ++ param ++ ". "

/-- The offset, in the text of a term, of the first free occurrence of `name`; `none` when it is
not free. Only what lies to the left of that occurrence is looked at. -/
def position (name : String) : Term → Except HostError (Option Nat)
  | .var x => .ok (if x = name then some 0 else none)
  | .abs x body =>
    if x = name then .ok none
    else do
      let offset ← body.position name
      return offset.map ((binderText x).length + ·)
  | .app fn arg => do
    match ← fn.position name with
    | some offset => return some (1 + offset)
    | none =>
      match ← arg.position name with
      | none => return none
      | some offset =>
        let shown ← fn.render
        return some (("(" ++ shown ++ " ").length + offset)
  | .foreign d => .error (.noFunctionPart d)

/-! ## Under a limit on depth -/

/-- The text of a term, where nesting may go `depth` deep. -/
def renderWithin : (depth : Nat) → Term → Except Obstacle String
  | 0, _ => .error .tooDeep
  | _ + 1, .var x => .ok x
  | depth + 1, .abs x body => do
    return binderText x ++ (← body.renderWithin depth) ++ ")"
  | depth + 1, .app fn arg => do
    return "(" ++ (← fn.renderWithin depth) ++ " " ++ (← arg.renderWithin depth) ++ ")"
  | depth + 1, .foreign d => do
    let _ ← (d.dumpWithin depth).mapError Obstacle.ofLimit
    throw (.host (.notATerm d))

/-- The free names of a term, in the order of their code points, each once, where nesting may go
`depth` deep. -/
def freeSet : (depth : Nat) → Term → Except Obstacle (List String)
  | 0, _ => .error .tooDeep
  | _ + 1, .var x => .ok [x]
  | depth + 1, .abs x body => do
    return (← body.freeSet depth).filter (· ≠ x)
  | depth + 1, .app fn arg => do
    return sortNames ((← fn.freeSet depth) ++ (← arg.freeSet depth))
  | _ + 1, .foreign d => .error (.host (.noFunctionPart d))

/-- Is the term without free names? The question takes one level by itself. -/
def isClosedWithin : (depth : Nat) → Term → Except Obstacle Bool
  | 0, _ => .error .tooDeep
  | depth + 1, t => do
    return (← t.freeSet depth).isEmpty

/-- The offset of the first free occurrence of `name` in the text of a term, or minus one when it is
not free, where nesting may go `depth` deep. -/
def freePosition (name : String) : (depth : Nat) → Term → Except Obstacle Int
  | 0, _ => .error .tooDeep
  | _ + 1, .var x => .ok (if x = name then 0 else -1)
  | depth + 1, .abs x body =>
    if x = name then .ok (-1)
    else do
      let offset ← body.freePosition name depth
      return if offset = -1 then offset else (binderText x).length + offset
  | depth + 1, .app fn arg => do
    let offset ← fn.freePosition name depth
    if offset ≠ -1 then return 1 + offset
    let offset ← arg.freePosition name depth
    if offset = -1 then return offset
    let shown ← fn.renderWithin depth
    return ("(" ++ shown ++ " ").length + offset
  | _ + 1, .foreign d => .error (.host (.noFunctionPart d))

end CallByValue.Term
