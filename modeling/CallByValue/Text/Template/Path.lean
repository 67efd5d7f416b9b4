import CallByValue.Text.Host
import CallByValue.Text.Template.Piece

/-!
# The names of fields

The name of a field is a **path**. It starts at a snippet, given by its number or by standing in
order, and takes steps from there: `.name` to a part, and `[number]` to an item. The steps are taken
one after the other, so a step that cannot be taken is reported before one that cannot be read.

* `steps` — the steps that are written behind the snippet, and `follow` — what they lead to;
* `number` — the number of the snippet, and the **numbering** of the fields that follow;
* `locate` — the subject that a name leads to.
-/

namespace CallByValue.Text.Template

/-! ## Numbers -/

/-- The number that digits write: `none` when a character is no digit. -/
def readIndex : Nat → List Char → Except Error (Option Nat)
  | number, [] => .ok (some number)
  | number, c :: rest => match digitValue? c with
    | none => .ok none
    | some digit =>
      if 10 * number + digit < wordLimit then readIndex (10 * number + digit) rest
      else .error .tooManyDigits

/-! ## Steps -/

/-- A step from a subject, as it is written. -/
inductive Step where
  /-- to a part -/
  | part (name : List Char)
  /-- to an item -/
  | item (index : List Char)
  /-- the place from which the name cannot be read -/
  | broken (error : Error)
deriving Repr, DecidableEq

/-- May the character begin a step? -/
def isStep (c : Char) : Bool := c = '.' || c = '['

mutual

/-- The steps that are written in a text. -/
def steps : List Char → List Step
  | [] => []
  | c :: rest =>
    if c = '.' then partSteps [] rest
    else if c = '[' then itemSteps [] rest
    else [.broken .strayAfterItem]
termination_by structural text => text

/-- The steps from inside the name of a part on; `name` is what was read of it, backwards. -/
def partSteps (name : List Char) : List Char → List Step
  | [] => [.part name.reverse]
  | c :: rest =>
    if c = '.' then .part name.reverse :: partSteps [] rest
    else if c = '[' then .part name.reverse :: itemSteps [] rest
    else partSteps (c :: name) rest
termination_by structural text => text

/-- The steps from inside the square brackets of an item on; `index` is what was read of it,
backwards. -/
def itemSteps (index : List Char) : List Char → List Step
  | [] => [.broken .unclosedItem]
  | c :: rest =>
    if c = ']' then .item index.reverse :: steps rest else itemSteps (c :: index) rest
termination_by structural text => text

end

/-- What a step that is written leads to. -/
def Step.read : Step → Except Error Access
  | .part [] => .error .emptyStep
  | .part name => .ok (.part (String.ofList name))
  | .item [] => .error .emptyStep
  | .item index => do
    match ← readIndex 0 index with
    | some number => return .item number
    | none => return .itemNamed (String.ofList index)
  | .broken error => .error error

/-- What the steps lead to from a snippet; `taken` are the steps that were taken before, backwards.
Where a step cannot be read, the steps before it are taken first. -/
def follow (host : Host) (snippet : String) (taken : List Access) :
    List Step → Except Error Subject
  | [] => (host.subject snippet taken.reverse).mapError .subject
  | step :: rest => match step.read with
    | .ok access => follow host snippet (access :: taken) rest
    | .error error => do
      let _ ← (host.subject snippet taken.reverse).mapError Error.subject
      throw error

/-! ## Numbering -/

/-- How the fields seen so far were numbered. The two ways cannot be mixed. -/
inductive Numbering where
  /-- no numbered field was seen yet -/
  | undecided
  /-- fields stand in order, and this is the number of the next one -/
  | automatic (next : Nat)
  /-- fields have their numbers written out -/
  | manual
deriving Repr, DecidableEq

/-- The number of the snippet at which a path starts, and the numbering after it. -/
def number (numbering : Numbering) : List Char → Except Error (Nat × Numbering)
  | [] => match numbering with
    | .undecided => .ok (0, .automatic 1)
    | .automatic next => .ok (next, .automatic (next + 1))
    | .manual => .error .automaticAfterManual
  | first => do
    match ← readIndex 0 first with
    | none => throw (.named (String.ofList first))
    | some index => match numbering with
      | .automatic _ => throw .manualAfterAutomatic
      | _ => return (index, .manual)

/-- The subject that the name of a field leads to, and the numbering after it. -/
def locate (host : Host) (snippets : List String) (numbering : Numbering) (name : List Char) :
    Except Error (Subject × Numbering) := do
  let (index, numbering) ← number numbering (name.takeWhile fun c => !isStep c)
  match snippets[index]? with
  | none => throw (.noSuchSnippet index)
  | some snippet =>
    let subject ← follow host snippet [] (steps (name.dropWhile fun c => !isStep c))
    return (subject, numbering)

end CallByValue.Text.Template
