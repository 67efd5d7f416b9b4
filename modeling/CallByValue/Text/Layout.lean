import CallByValue.Text.Digit
import CallByValue.Text.Quoted

/-!
# Laying out an inserted text

A text that is inserted into a message may be **cut** to a number of characters and **padded** to a
width. A `Layout` says how, and is written as
`[[fill]align][sign][z][#][0][width][separator][.precision][code]`. Sign, `z`, `#` and separator
belong to numbers: they can be written, and are refused afterwards.

* `Layout.apply` — the text as it is inserted;
* `Layout.Written.read` — takes a written layout apart;
* `Layout.parse` — reads a layout for texts, or says what is wrong with it.
-/

namespace CallByValue.Text

/-- Where a text stands in the width given to it. -/
inductive Align where
  | left
  | right
  | center
deriving Repr, DecidableEq

/-- How an inserted text is laid out. -/
structure Layout where
  /-- the character that fills the room left over -/
  fill : Char
  /-- where the text stands in its room -/
  align : Align
  /-- the least number of characters that are written -/
  width : Nat
  /-- the most characters of the text that are written -/
  precision : Option Nat
deriving Repr, DecidableEq

namespace Layout

/-- The layout that inserts a text as it is. -/
def plain : Layout := ⟨' ', .left, 0, none⟩

/-! ## Applying a layout -/

/-- The text with `missing` fill characters around it. In the centre the odd one goes to the
right. -/
def pad (fill : Char) (align : Align) (missing : Nat) (text : List Char) : List Char :=
  match align with
  | .left => text ++ List.replicate missing fill
  | .right => List.replicate missing fill ++ text
  | .center =>
    List.replicate (missing / 2) fill ++ text ++ List.replicate (missing - missing / 2) fill

/-- The text as it is inserted: first cut, then padded. -/
def apply (layout : Layout) (text : List Char) : List Char :=
  let cut := match layout.precision with
    | none => text
    | some most => text.take most
  pad layout.fill layout.align (layout.width - cut.length) cut

/-- The plain layout changes nothing. -/
@[simp] theorem apply_plain (text : List Char) : plain.apply text = text := by
  simp [apply, pad, plain]

/-! ## Errors -/

/-- What can be wrong with a written layout. -/
inductive Error where
  /-- a width or precision that does not fit a machine word -/
  | tooManyDigits
  /-- two different separators -/
  | bothSeparators
  /-- a point with no digit after it -/
  | missingPrecision
  /-- more than a code letter is left over -/
  | invalid (written : String)
  /-- a separator beside a code letter that does not go with it -/
  | misplacedSeparator (separator code : Char)
  /-- a code letter that is not for texts -/
  | unknownCode (code : Char)
  /-- a blank in the place of a sign -/
  | blankSign
  /-- a sign -/
  | sign
  /-- the mark that drops the sign of a zero -/
  | zeroMark
  /-- the mark of the alternate form -/
  | alternateMark
  /-- the alignment between a sign and its digits -/
  | signAlign
  /-- a width for which there is no room -/
  | noRoom
deriving Repr, DecidableEq

/-- What an error in a layout says. Of the lack of room nothing is said. -/
def Error.message : Error → String
  | .tooManyDigits => "Too many decimal digits in format string"
  | .bothSeparators => "Cannot specify both ',' and '_'."
  | .missingPrecision => "Format specifier missing precision"
  | .invalid written => "Invalid format specifier '" ++ written ++ "' for object of type 'str'"
  | .misplacedSeparator separator code =>
    "Cannot specify '" ++ separator.toString ++ "' with '" ++ nameOf 128 code ++ "'."
  | .unknownCode code =>
    "Unknown format code '" ++ nameOf 128 code ++ "' for object of type 'str'"
  | .blankSign => "Space not allowed in string format specifier"
  | .sign => "Sign not allowed in string format specifier"
  | .zeroMark => "Negative zero coercion (z) not allowed in string format specifier"
  | .alternateMark => "Alternate form (#) not allowed in string format specifier"
  | .signAlign => "'=' alignment not allowed in string format specifier"
  | .noRoom => ""

/-! ## Written layouts -/

/-- The parts of a written layout, whether or not they are for texts. -/
structure Written where
  /-- the fill character, given before the alignment or as a leading zero -/
  fill : Option Char
  /-- the character that stands for the alignment -/
  align : Option Char
  /-- the sign -/
  sign : Option Char
  /-- is there the mark that drops the sign of a zero? -/
  zeroMark : Bool
  /-- is there the mark of the alternate form? -/
  alternateMark : Bool
  /-- the least number of characters that are written -/
  width : Option Nat
  /-- the separator between groups of digits -/
  separator : Option Char
  /-- the most characters of the text that are written -/
  precision : Option Nat
  /-- the code letter -/
  code : Char
deriving Repr, DecidableEq

namespace Written

/-- Does the character stand for an alignment? -/
def isAlign (c : Char) : Bool := c = '<' || c = '>' || c = '^' || c = '='

/-- Is the character a sign? -/
def isSign (c : Char) : Bool := c = '+' || c = '-' || c = ' '

/-- Splits off the fill character and the alignment. -/
def splitAlign : List Char → Option Char × Option Char × List Char
  | c :: d :: rest =>
    if isAlign d then (some c, some d, rest)
    else if isAlign c then (none, some c, d :: rest)
    else (none, none, c :: d :: rest)
  | [c] => if isAlign c then (none, some c, []) else (none, none, [c])
  | [] => (none, none, [])

/-- Splits off one character of a class, if there is one in front. -/
def splitMark (isMark : Char → Bool) : List Char → Option Char × List Char
  | [] => (none, [])
  | c :: rest => if isMark c then (some c, rest) else (none, c :: rest)

/-- Splits off the zero that may lead the width, and is the fill character if no other is given. -/
def splitZero : Option Char → List Char → Option Char × List Char
  | some fill, rest => (some fill, rest)
  | none, rest => splitMark (· = '0') rest

/-- Splits off the digits in front and gives their number, if there are any. -/
def splitNumber (text : List Char) : Except Error (Option Nat × List Char) :=
  let digits := text.takeWhile fun c => (digitValue? c).isSome
  let rest := text.dropWhile fun c => (digitValue? c).isSome
  if digits.isEmpty then .ok (none, rest)
  else match readDigits? digits with
    | some n => if n < wordLimit then .ok (some n, rest) else .error .tooManyDigits
    | none => .ok (none, rest)

/-- Splits off the separator. There are two, and they exclude each other. -/
def splitSeparator : List Char → Except Error (Option Char × List Char)
  | ',' :: '_' :: _ => .error .bothSeparators
  | '_' :: ',' :: _ => .error .bothSeparators
  | rest => .ok (splitMark (fun c => c = ',' || c = '_') rest)

/-- Splits off the precision, a point followed by a number. -/
def splitPrecision : List Char → Except Error (Option Nat × List Char)
  | '.' :: rest => do
    match ← splitNumber rest with
    | (some n, rest) => return (some n, rest)
    | (none, _) => throw .missingPrecision
  | rest => return (none, rest)

/-- Takes a written layout apart. Without a code letter it is one for texts, and the letter is
`s`. -/
def read (written : List Char) : Except Error Written := do
  let (fill, align, rest) := splitAlign written
  let (sign, rest) := splitMark isSign rest
  let (zeroMark, rest) := splitMark (· = 'z') rest
  let (alternateMark, rest) := splitMark (· = '#') rest
  let (fill, rest) := splitZero fill rest
  let (width, rest) ← splitNumber rest
  let (separator, rest) ← splitSeparator rest
  let (precision, rest) ← splitPrecision rest
  let code ← match rest with
    | [] => pure 's'
    | [code] => pure code
    | _ => throw (.invalid (String.ofList written))
  return { fill, align, sign, zeroMark := zeroMark.isSome, alternateMark := alternateMark.isSome,
           width, separator, precision, code }

/-- Does a separator go with a code letter? Both go with decimal numbers, the low line also with
numbers to the base of two, eight and sixteen. -/
def fits (separator code : Char) : Bool :=
  ['d', 'e', 'f', 'g', 'E', 'G', '%', 'F', '\x00'].contains code ||
    separator = '_' && ['b', 'o', 'x', 'X'].contains code

/-- The layout of a text that is written so, where there is room for so many characters. All that
belongs to numbers is refused. -/
def layout (room : Nat) (w : Written) : Except Error Layout := do
  if let some separator := w.separator then
    if !fits separator w.code then throw (.misplacedSeparator separator w.code)
  if w.code ≠ 's' then throw (.unknownCode w.code)
  if let some sign := w.sign then
    throw (if sign = ' ' then .blankSign else .sign)
  if w.zeroMark then throw .zeroMark
  if w.alternateMark then throw .alternateMark
  let align ← match w.align with
    | some '=' => throw .signAlign
    | some '>' => pure .right
    | some '^' => pure .center
    | _ => pure .left
  let width := w.width.getD 0
  if room < width then throw .noRoom
  return ⟨w.fill.getD ' ', align, width, w.precision⟩

end Written

/-- Reads a layout for texts, where there is room for so many characters; the empty one is plain. -/
def parse (room : Nat) (written : List Char) : Except Error Layout := do
  (← Written.read written).layout room

/-- Nothing written is the plain layout, for which there is always room. -/
theorem parse_nil (room : Nat) : parse room [] = .ok plain := rfl

end Layout

end CallByValue.Text
