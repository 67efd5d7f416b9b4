import CallByValue.Church
import CallByValue.Handler

/-!
# Sample programs

A **sample** is a term that is shown, evaluated in the empty environment and shown again as the
value it denotes; if it stands for a number, that is decoded too. Under a handler, an open sample is
warned about first, with the smallest of its free names pointed at.
-/

namespace CallByValue

/-- A program to evaluate. -/
structure Sample where
  /-- the program -/
  term : Term
  /-- does its value stand for a number? -/
  numeric : Bool

namespace Sample

open Term (var abs app)

/-- The samples that have a name. -/
def named : List (String × Sample) :=
  [("identity", ⟨app (abs "x" (var "x")) (abs "y" (var "y")), false⟩),
   ("const", ⟨app (app Church.const (abs "a" (var "a"))) (abs "b" (var "b")), false⟩),
   ("arith", ⟨app (app Church.plus (Church.numeral 2)) (Church.numeral 3), true⟩),
   ("unbound", ⟨app (abs "x" (var "z")) (abs "y" (var "y")), false⟩)]

/-- The names of the samples, in the order of their code points. -/
def names : List String := Term.sortNames (named.map Prod.fst)

/-- The sample of a name. -/
def find (name : String) : Except HostError Sample :=
  match named.lookup name with
  | some sample => .ok sample
  | none => .error (.unknownSample name)

/-- The notice of a free `name` at an `offset` in the text of a term. -/
def openNotice (shown name : String) (offset : Int) : Notice where
  template := "'{}' has free variable '{}'"
  snippets := .list [.text shown, .text name]
  start := offset
  stop := offset + name.length

/-- Warns about the smallest free name of an open term, where nesting may go `depth` deep. -/
def warnIfOpen (depth : Nat) (h : Handler) (shown : String) (t : Term) : Run Event Unit := do
  if ← .ofText (t.isClosedWithin depth) then return
  match ← .ofText (t.freeSet depth) with
  | [] => return
  | name :: _ =>
    let offset ← .ofText (t.freePosition name depth)
    h.warn depth (openNotice shown name offset)

/-- Shows a sample, evaluates it and shows its value, where nesting may go `depth` deep throughout.
A handler, if there is one, is told about an open sample. -/
def run (depth : Nat) (handler? : Option Handler) (sample : Sample) : Run Event Value := do
  let shown ← .ofText (sample.term.renderWithin depth)
  Event.print ["Evaluating expression: " ++ shown]
  match handler? with
  | some h => warnIfOpen depth h shown sample.term
  | none => pure ()
  let value ← ((evaluate depth .empty sample.term).mapNotes .call).worded depth
  let result ← .ofText (value.renderWithin depth)
  Event.print ["Result: " ++ result]
  if sample.numeric then
    let number ← ((Church.decodeNumeral depth value).mapNotes .call).worded depth
    let decoded ← .ofText ((Text.writeInt number).mapError Obstacle.ofLimit)
    Event.print ["Decoded: " ++ decoded]
  return value

/-- Runs a sample, if there is one, without a handler. -/
def runBare (depth : Nat) (found : Except HostError Sample) : Run Event Value := do
  let sample ← .ofExcept found
  sample.run depth none

/-- Runs a sample under a handler, which also hears of a sample that does not exist. -/
def runUnder (depth : Nat) (h : Handler) (found : Except HostError Sample) :
    Run Event (Option Value) :=
  h.guard do
    let sample ← .ofExcept found
    sample.run depth (some h)

end Sample

end CallByValue
