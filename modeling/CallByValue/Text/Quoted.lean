import CallByValue.Text.Printable

/-!
# Quoted texts

A text is shown between **quotes**: single ones, or double ones when it holds a single quote and no
double one. Inside, the backslash and the quote in use are escaped, the common line controls have a
letter, and a character without a visible form is written by its number.

* `quote` — leaves every printable character as it is;
* `quoteAscii` — writes every character beyond ASCII by its number;
* `nameOf` — a single character as a message names it.
-/

namespace CallByValue.Text

/-- The lower-case hexadecimal digits of a number, padded with zeros to `width`. -/
def hexadecimal (width n : Nat) : List Char :=
  let digits := Nat.toDigits 16 n
  List.replicate (width - digits.length) '0' ++ digits

/-- A character by its number: two, four or eight hexadecimal digits, whichever suffice first. -/
def escapeByNumber (c : Char) : List Char :=
  let n := c.toNat
  if n < 0x100 then '\\' :: 'x' :: hexadecimal 2 n
  else if n < 0x10000 then '\\' :: 'u' :: hexadecimal 4 n
  else '\\' :: 'U' :: hexadecimal 8 n

/-- How one character is written between quotes, where `visible` characters stay as they are. -/
def escape (visible : Char → Bool) (mark c : Char) : List Char :=
  if c = mark || c = '\\' then ['\\', c]
  else if c = '\n' then ['\\', 'n']
  else if c = '\r' then ['\\', 'r']
  else if c = '\t' then ['\\', 't']
  else if visible c then [c]
  else escapeByNumber c

/-- The quote to use: double when the text holds a single quote and no double one. -/
def quoteMark (text : List Char) : Char :=
  if text.contains '\'' && !text.contains '"' then '"' else '\''

/-- The text between quotes, where `visible` characters stay as they are. -/
def quoteWith (visible : Char → Bool) (text : String) : String :=
  let mark := quoteMark text.toList
  String.ofList (mark :: text.toList.flatMap (escape visible mark) ++ [mark])

/-- The text between quotes. -/
def quote : String → String := quoteWith fun c =>
  if c.toNat < 0x7F then 0x20 ≤ c.toNat else isPrintable c

/-- The text between quotes, in ASCII throughout. -/
def quoteAscii : String → String := quoteWith fun c => 0x20 ≤ c.toNat && c.toNat < 0x7F

/-- A single character as a message names it, without quotes: itself if it stands between the blank
and `limit`, its number otherwise. -/
def nameOf (limit : Nat) (c : Char) : String :=
  if 32 < c.toNat && c.toNat < limit then c.toString
  else "\\x" ++ String.ofList (Nat.toDigits 16 c.toNat)

end CallByValue.Text
