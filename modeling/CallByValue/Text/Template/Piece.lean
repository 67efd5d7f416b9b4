import CallByValue.Text.Subject

/-!
# The pieces of a message template

A **template** is a text with replacement fields in curly brackets. A bracket that is text is
written twice. `scan` cuts a template into **pieces**; where it cannot be read any further, the last
piece says why, so that the first thing wrong from left to right is the one that is reported.

A field is written `name!conversion:layout`, where the last two may be left out. Square brackets in
the name hide every other mark up to the bracket that closes them. Curly brackets in the layout come
in pairs: the layout is itself a template.
-/

namespace CallByValue.Text.Template

/-- What can be wrong with a template. -/
inductive Error where
  /-- a closing bracket that closes nothing -/
  | strayClose
  /-- an opening bracket at the very end -/
  | strayOpen
  /-- a field that is not closed -/
  | unclosedField
  /-- an opening bracket in the name of a field -/
  | nestedOpen
  /-- a conversion mark at the very end -/
  | missingConversion
  /-- something other than a layout after a conversion -/
  | strayAfterConversion
  /-- a layout that is not closed -/
  | unclosedLayout
  /-- layouts with fields nested too deep -/
  | nestedTooDeep
  /-- a conversion that does not exist -/
  | unknownConversion (conversion : Char)
  /-- a number that does not fit a machine word -/
  | tooManyDigits
  /-- a numbered field after one that stands in order -/
  | manualAfterAutomatic
  /-- a field that stands in order after a numbered one -/
  | automaticAfterManual
  /-- a number that no snippet has -/
  | noSuchSnippet (index : Nat)
  /-- a name, where snippets have numbers only -/
  | named (name : String)
  /-- a part or an item without a name -/
  | emptyStep
  /-- an item whose bracket is not closed -/
  | unclosedItem
  /-- something behind an item that is no further step -/
  | strayAfterItem
  /-- something wrong with the subject of a field -/
  | subject (error : Subject.Error)
deriving Repr, DecidableEq

/-- A replacement field as it is written. -/
structure Field where
  /-- what names the subject -/
  name : List Char := []
  /-- the letter of the conversion -/
  conversion : Option Char := none
  /-- the layout -/
  layout : List Char := []
deriving Repr, DecidableEq

/-- A piece of a template. -/
inductive Piece where
  /-- one character of text -/
  | literal (c : Char)
  /-- a replacement field -/
  | field (field : Field)
  /-- the place from which the template cannot be read -/
  | broken (error : Error)
deriving Repr, DecidableEq

mutual

/-- The pieces of a template. -/
def scan : List Char → List Piece
  | [] => []
  | ['{'] => [.broken .strayOpen]
  | '{' :: '{' :: rest => .literal '{' :: scan rest
  | '{' :: rest => scanName [] rest
  | '}' :: '}' :: rest => .literal '}' :: scan rest
  | '}' :: _ => [.broken .strayClose]
  | c :: rest => .literal c :: scan rest
termination_by structural text => text

/-- The pieces from inside the name of a field on; `name` is what was read of it, backwards. -/
def scanName (name : List Char) : List Char → List Piece
  | [] => [.broken .unclosedField]
  | c :: rest =>
    if c = '}' then .field ⟨name.reverse, none, []⟩ :: scan rest
    else if c = ':' then scanLayout name none 0 [] rest
    else if c = '!' then scanConversion name rest
    else if c = '{' then [.broken .nestedOpen]
    else if c = '[' then scanItem (c :: name) rest
    else scanName (c :: name) rest
termination_by structural text => text

/-- The pieces from inside the square brackets of a name on. -/
def scanItem (name : List Char) : List Char → List Piece
  | [] => [.broken .unclosedField]
  | c :: rest => if c = ']' then scanName (c :: name) rest else scanItem (c :: name) rest
termination_by structural text => text

/-- The pieces from behind a conversion mark on. -/
def scanConversion (name : List Char) : List Char → List Piece
  | [] => [.broken .missingConversion]
  | [_] => [.broken .unclosedLayout]
  | conversion :: c :: rest =>
    if c = '}' then .field ⟨name.reverse, some conversion, []⟩ :: scan rest
    else if c = ':' then scanLayout name (some conversion) 0 [] rest
    else [.broken .strayAfterConversion]
termination_by structural text => text

/-- The pieces from inside a layout on; `depth` counts the brackets that are open in it, and
`layout` is what was read of it, backwards. -/
def scanLayout (name : List Char) (conversion : Option Char) (depth : Nat) (layout : List Char) :
    List Char → List Piece
  | [] => [.broken .unclosedLayout]
  | c :: rest =>
    if c = '}' then
      match depth with
      | 0 => .field ⟨name.reverse, conversion, layout.reverse⟩ :: scan rest
      | depth + 1 => scanLayout name conversion depth (c :: layout) rest
    else if c = '{' then scanLayout name conversion (depth + 1) (c :: layout) rest
    else scanLayout name conversion depth (c :: layout) rest
termination_by structural text => text

end

end CallByValue.Text.Template
