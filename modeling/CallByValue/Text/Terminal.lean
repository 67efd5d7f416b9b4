import CallByValue.Text.Host

/-!
# The terminal

The host that the program runs on. Its terminal sets texts off with codes when colour is on. Behind
a snippet it knows the kind of the text, and the parts of a kind, which are its names and the kinds
that it specialises; other objects have no text that could be shown.

* `Object.part`, `Object.item` — one step further from an object;
* `Object.subject` — an object as the subject of a field;
* `terminal` — the host.
-/

namespace CallByValue.Text

/-- The kinds of things that a field can lead to. -/
inductive Kind where
  /-- texts -/
  | text
  /-- kinds -/
  | kind
  /-- things of any kind -/
  | thing
deriving Repr, DecidableEq

namespace Kind

/-- The name of a kind. -/
def name : Kind → String
  | .text => "str"
  | .kind => "type"
  | .thing => "object"

/-- The text of a kind. -/
def display (k : Kind) : String := "<class '" ++ k.name ++ "'>"

/-- A kind, and the kinds that it specialises, from near to far. -/
def lineage : Kind → List Kind
  | .thing => [.thing]
  | k => [k, .thing]

end Kind

/-- What the terminal knows behind a snippet. -/
inductive Object where
  /-- a text -/
  | text (s : String)
  /-- a kind -/
  | kind (k : Kind)
  /-- some kinds, in order -/
  | kinds (ks : List Kind)
deriving Repr, DecidableEq

namespace Object

/-- The text of an object. A single kind in a list is followed by a comma. -/
def display : Object → String
  | .text s => s
  | .kind k => k.display
  | .kinds [k] => "(" ++ k.display ++ ",)"
  | .kinds ks => "(" ++ String.intercalate ", " (ks.map Kind.display) ++ ")"

/-- The name of an object's kind. -/
def kindName : Object → String
  | .text _ => Kind.text.name
  | .kind _ => Kind.kind.name
  | .kinds _ => "tuple"

/-! ## Going on from an object -/

/-- The error that an object has no such part. -/
def noPart : Object → String → Subject.Error
  | .kind k, name =>
    .raised "AttributeError" ("type object '" ++ k.name ++ "' has no attribute '" ++ name ++ "'")
  | object, name =>
    .raised "AttributeError"
      ("'" ++ object.kindName ++ "' object has no attribute '" ++ name ++ "'")

/-- The error that an object has fewer items. -/
def noItem : Object → Subject.Error
  | .text _ => .raised "IndexError" "string index out of range"
  | object => .raised "IndexError" (object.kindName ++ " index out of range")

/-- The error that an object has no items at all. -/
def noItems : Object → Subject.Error
  | .kind k => .raised "TypeError" ("type '" ++ k.name ++ "' is not subscriptable")
  | object => .raised "TypeError" ("'" ++ object.kindName ++ "' object is not subscriptable")

/-- The error of asking for an item by something that is no number. -/
def notANumber : Object → Subject.Error
  | .text _ => .raised "TypeError" "string indices must be integers, not 'str'"
  | .kind k => noItems (.kind k)
  | object =>
    .raised "TypeError" (object.kindName ++ " indices must be integers or slices, not str")

/-- The parts of a kind. -/
def kindPart? (k : Kind) : String → Option Object
  | "__class__" => some (.kind .kind)
  | "__name__" => some (.text k.name)
  | "__qualname__" => some (.text k.name)
  | "__module__" => some (.text "builtins")
  | "__mro__" => some (.kinds k.lineage)
  | "__bases__" => some (.kinds (k.lineage.drop 1))
  | "__base__" => (k.lineage[1]?).map .kind
  | _ => none

/-- The part of an object that has a name. -/
def part (object : Object) (name : String) : Except Subject.Error Object :=
  let found := match object with
    | .text _ => if name = "__class__" then some (.kind .text) else none
    | .kind k => kindPart? k name
    | .kinds _ => none
  match found with
  | some reached => .ok reached
  | none => .error (object.noPart name)

/-- The item of an object that has a number; the items of a text are its characters. -/
def item (object : Object) (index : Nat) : Except Subject.Error Object :=
  match object with
  | .text s => match s.toList[index]? with
    | some c => .ok (.text c.toString)
    | none => .error object.noItem
  | .kinds ks => match ks[index]? with
    | some k => .ok (.kind k)
    | none => .error object.noItem
  | .kind _ => .error object.noItems

/-- Takes a step. -/
def take (object : Object) : Access → Except Subject.Error Object
  | .part name => object.part name
  | .item index => object.item index
  | .itemNamed _ => .error object.notANumber

/-- The object as the subject of a field. Only a text can have a layout that is not empty. -/
def subject (room : Nat) : Object → Subject
  | .text s => .ofText room s
  | object => {
      shown := object.display
      quoted := object.display
      quotedAscii := object.display
      layOut := fun written =>
        if written.isEmpty then .ok object.display.toList
        else .error (.raised "TypeError"
          ("unsupported format string passed to " ++ object.kindName ++ ".__format__")) }

end Object

/-- The host that the program runs on, with colour on or off. -/
def terminal (color : Bool) : Host where
  colored := bold color
  room := 4294967295
  room_lt := by decide
  reach snippet first rest :=
    ((first :: rest).foldlM Object.take (.text snippet)).map (Object.subject 4294967295)

end CallByValue.Text
