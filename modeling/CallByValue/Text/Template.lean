import CallByValue.Text.Template.Path

/-!
# Filling message templates

A template is filled with **snippets**: each field is replaced by its subject, converted and laid
out. A layout may hold fields of its own, which are filled first and share the numbering of the
others. Snippets are inserted as they are: brackets in them have no meaning.

* `expand` — fills a template, where layouts may nest to a `level`;
* `fill` — fills a whole template;
* `Error.message` — what is said about a template that cannot be filled.
-/

namespace CallByValue.Text.Template

/-! ## Filling -/

/-- The filled text and the numbering after it, or the first thing that is wrong. -/
abbrev Filled := Except Error (List Char × Numbering)

/-- The subject converted by the conversion that a letter stands for. The null character stands for
none. -/
def convert (room : Nat) (subject : Subject) : Option Char → Except Error Subject
  | none => .ok subject
  | some 's' => .ok (.ofText room (Conversion.shown.apply subject))
  | some 'r' => .ok (.ofText room (Conversion.quoted.apply subject))
  | some 'a' => .ok (.ofText room (Conversion.quotedAscii.apply subject))
  | some '\x00' => .ok subject
  | some c => .error (.unknownConversion c)

/-- What replaces a field. Its subject is found and converted, then its layout is filled by
`expandLayout` if it holds a bracket, and then the subject is laid out. -/
def replace (host : Host) (expandLayout : Numbering → List Char → Filled) (snippets : List String)
    (numbering : Numbering) (field : Field) : Filled := do
  let (subject, numbering) ← locate host snippets numbering field.name
  let subject ← convert host.room subject field.conversion
  let (layout, numbering) ←
    if field.layout.contains '{' then expandLayout numbering field.layout
    else pure (field.layout, numbering)
  let inserted ← (subject.layOut layout).mapError .subject
  return (inserted, numbering)

/-- The pieces with every field replaced. -/
def fillPieces (host : Host) (expandLayout : Numbering → List Char → Filled)
    (snippets : List String) : Numbering → List Piece → Filled
  | numbering, [] => .ok ([], numbering)
  | numbering, .literal c :: rest => do
    let (text, numbering) ← fillPieces host expandLayout snippets numbering rest
    return (c :: text, numbering)
  | numbering, .field field :: rest => do
    let (inserted, numbering) ← replace host expandLayout snippets numbering field
    let (text, numbering) ← fillPieces host expandLayout snippets numbering rest
    return (inserted ++ text, numbering)
  | _, .broken error :: _ => .error error

/-- Fills a template, where layouts may nest to a `level`. -/
def expand (host : Host) (snippets : List String) :
    (level : Nat) → Numbering → List Char → Filled
  | 0, _, _ => .error .nestedTooDeep
  | level + 1, numbering, text =>
    fillPieces host (expand host snippets level) snippets numbering (scan text)

/-- The level to which layouts nest: a layout may hold fields, but not fields whose layouts hold
fields again. -/
def maxLevel : Nat := 2

/-- The template filled with the snippets, by the means of a host. -/
def fill (host : Host) (template : String) (snippets : List String) : Except Error String := do
  let (text, _) ← expand host snippets maxLevel .undecided template.toList
  return String.ofList text

/-! ## Wording -/

/-- What an error says. -/
def Error.message : Error → String
  | .strayClose => "Single '\x7d' encountered in format string"
  | .strayOpen => "Single '\x7b' encountered in format string"
  | .unclosedField => "expected '\x7d' before end of string"
  | .nestedOpen => "unexpected '\x7b' in field name"
  | .missingConversion => "end of string while looking for conversion specifier"
  | .strayAfterConversion => "expected ':' after conversion specifier"
  | .unclosedLayout => "unmatched '\x7b' in format spec"
  | .nestedTooDeep => "Max string recursion exceeded"
  | .unknownConversion c => "Unknown conversion specifier " ++ nameOf 127 c
  | .tooManyDigits => "Too many decimal digits in format string"
  | .manualAfterAutomatic =>
    "cannot switch from automatic field numbering to manual field specification"
  | .automaticAfterManual =>
    "cannot switch from manual field specification to automatic field numbering"
  | .noSuchSnippet index =>
    "Replacement index " ++ ofNat index ++ " out of range for positional args tuple"
  | .named name => quote name
  | .emptyStep => "Empty attribute in format string"
  | .unclosedItem => "Missing ']' in format string"
  | .strayAfterItem => "Only '.' or '[' may follow ']' in format field specifier"
  | .subject error => error.message

end CallByValue.Text.Template
