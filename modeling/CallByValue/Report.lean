import CallByValue.Term.Display
import CallByValue.Text.Template

/-!
# Reports

A **report** is a message about a term: some wording around snippets, of which the first is the
offending text, and a span of that text to point at. Reports are built from **notices**, whose
wording is a template for the snippets and may be ill formed; once built, a report can be shown by
the means of any host.

* `Report.message` — the message, with the snippets in bold where the host shows them so;
* `Notice.reportOf` — the report that a notice makes of some snippets;
* `Notice.report` — builds a report, or gives what keeps it from being built.
-/

namespace CallByValue

/-- A message about an offending text. -/
structure Report where
  /-- the message, in which the snippets are in bold if the host shows them so -/
  message : Text.Host → String
  /-- the offending text, which is the first snippet -/
  snippet : String
  /-- the offset at which the offending span starts -/
  start : Int
  /-- the offset at which the offending span stops -/
  stop : Int
  /-- may the span be pointed at? -/
  diagnosis : Bool
  /-- is the host to blame, and not the term? -/
  internal : Bool
  /-- what keeps the snippets from being put into words, where nesting may go so deep -/
  obstacle? : (depth : Nat) → Option Obstacle := fun _ => none

/-- What a report is built from. -/
structure Notice where
  /-- the message, as a template for the snippets -/
  template : String
  /-- the snippets: one text, a list, or nothing, which is one empty text -/
  snippets : Datum Term := .null
  /-- the offset at which the offending span starts -/
  start : Int := 0
  /-- the offset at which the offending span stops; minus one stands for the end of the text -/
  stop : Int := -1
  /-- may the span be pointed at? -/
  diagnosis : Bool := true
  /-- is the host to blame, and not the term? -/
  internal : Bool := false

namespace Notice

/-- The texts of the items of a list of snippets. -/
def itemTexts (depth : Nat) : List (Datum Term) → Except Obstacle (List String)
  | [] => .ok []
  | item :: items => do
    let text ← (item.displayWithin depth).mapError Obstacle.ofLimit
    return text :: (← itemTexts depth items)

/-- The texts of the snippets, which may nest `depth` deep. -/
def snippetTexts (depth : Nat) (n : Notice) : Except Obstacle (List String) :=
  match n.snippets with
  | .null => .ok [""]
  | .text s => .ok [s]
  | .list items => itemTexts depth items
  | other => .error (.host (.notIterable other.kindName))

/-- The message with the given snippets, in bold if the host shows them so. -/
def message (host : Text.Host) (n : Notice) (texts : List String) : Except HostError String :=
  (Text.Template.fill host n.template (texts.map (host.colored .plain))).mapError .template

/-- The report that the notice makes of its snippets, of which the first is the offending text. -/
def reportOf (n : Notice) (first : String) (rest : List String) : Report where
  message host := (n.message host (first :: rest)).toOption.getD ""
  snippet := first
  start := n.start
  stop := if n.stop = -1 then (first.length : Int) else n.stop
  diagnosis := n.diagnosis
  internal := n.internal

/-- The report that a notice describes, where snippets may nest `depth` deep and are shown by the
means of a host. The snippets are read first; then the message is made as it will be shown, the
offending text is taken, and last the message is made without colour. Snippets in bold are longer,
so that the one can fail where the other does not. -/
def report (host : Text.Host) (depth : Nat) (n : Notice) : Except Obstacle Report := do
  let texts ← n.snippetTexts depth
  let _ ← (n.message host texts).mapError Obstacle.host
  match texts with
  | [] => throw (.host .noSnippet)
  | first :: rest =>
    let _ ← (n.message host.uncolored texts).mapError Obstacle.host
    return n.reportOf first rest

end Notice

end CallByValue
