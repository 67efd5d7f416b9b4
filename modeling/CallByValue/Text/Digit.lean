/-!
# Decimal digits of every script, and the numbers written with them

* `digitValue?` — the value of a decimal digit, whichever script it belongs to;
* `readDigits?` — the number that a run of digits writes;
* `writeInt` — the text of an integer, which has only so many digits;
* `readInteger?` — a **signed integer** as a person types it: blanks around it, a sign, leading
  zeros and single low lines between the digits are all fine.
-/

namespace CallByValue.Text

/-! ## Digits -/

/-- The zeros of the scripts that have decimal digits; each is followed by its one to nine. -/
def decimalZeros : List Nat :=
  [0x30, 0x660, 0x6F0, 0x7C0, 0x966, 0x9E6, 0xA66, 0xAE6, 0xB66, 0xBE6, 0xC66, 0xCE6, 0xD66,
   0xDE6, 0xE50, 0xED0, 0xF20, 0x1040, 0x1090, 0x17E0, 0x1810, 0x1946, 0x19D0, 0x1A80, 0x1A90,
   0x1B50, 0x1BB0, 0x1C40, 0x1C50, 0xA620, 0xA8D0, 0xA900, 0xA9D0, 0xA9F0, 0xAA50, 0xABF0,
   0xFF10, 0x104A0, 0x10D30, 0x11066, 0x110F0, 0x11136, 0x111D0, 0x112F0, 0x11450, 0x114D0,
   0x11650, 0x116C0, 0x11730, 0x118E0, 0x11950, 0x11C50, 0x11D50, 0x11DA0, 0x16A60, 0x16AC0,
   0x16B50, 0x1D7CE, 0x1D7D8, 0x1D7E2, 0x1D7EC, 0x1D7F6, 0x1E140, 0x1E2F0, 0x1E950, 0x1FBF0]

/-- The value of a decimal digit of any script. -/
def digitValue? (c : Char) : Option Nat :=
  (decimalZeros.find? fun first => first ≤ c.toNat && c.toNat < first + 10).map (c.toNat - ·)

/-- The number that a run of digits writes; `none` when a character is no digit. The empty run
writes zero. -/
def readDigits? (digits : List Char) : Option Nat :=
  digits.foldl (fun number c => do return 10 * (← number) + (← digitValue? c)) (some 0)

/-- The first number that does not fit a signed machine word: two to the power of 63. -/
def wordLimit : Nat := 9223372036854775808

/-- The text in decimal notation. -/
def ofNat (n : Nat) : String := String.ofList (Nat.toDigits 10 n)

/-- The text in decimal notation, with a minus sign in front of a negative number. -/
def ofInt (i : Int) : String :=
  if i < 0 then "-" ++ ofNat i.natAbs else ofNat i.natAbs

/-! ## Limits on texts -/

/-- What keeps a text from being made. -/
inductive Limit where
  /-- the things that are shown nest too deep -/
  | depth
  /-- an integer has too many digits -/
  | digits
deriving Repr, DecidableEq

/-- The most digits that a number may have where it is written or read. -/
def maxDigits : Nat := 4300

/-- The text of an integer in decimal notation, unless it has too many digits. -/
def writeInt (i : Int) : Except Limit String :=
  if (Nat.toDigits 10 i.natAbs).length ≤ maxDigits then .ok (ofInt i) else .error .digits

/-- An integer is written in decimal notation. -/
theorem eq_of_writeInt {i : Int} {s : String} (h : writeInt i = .ok s) : s = ofInt i := by
  rw [writeInt] at h
  split at h
  · exact (Except.ok.inj h).symm
  · cases h

/-! ## Integers as they are typed -/

/-- The blanks that may surround a typed number: the blank, the tabulators and line ends of ASCII,
and the blanks beyond ASCII. -/
def isBlank (c : Char) : Bool :=
  let n := c.toNat
  (0x09 ≤ n && n ≤ 0x0D) || n == 0x20 || n == 0x85 || n == 0xA0 || n == 0x1680 ||
    (0x2000 ≤ n && n ≤ 0x200A) || n == 0x2028 || n == 0x2029 || n == 0x202F || n == 0x205F ||
    n == 0x3000

/-- The text without the blanks at its two ends. -/
def trimBlanks (text : List Char) : List Char :=
  ((text.dropWhile isBlank).reverse.dropWhile isBlank).reverse

/-- The digits of a grouped number, where a **low line** may stand between two digits; `none` when
one stands elsewhere. `afterDigit` tells whether the character before was a digit. -/
def ungroup? (afterDigit : Bool) : List Char → Option (List Char)
  | [] => if afterDigit then some [] else none
  | c :: rest =>
    if c = '_' then
      if afterDigit then ungroup? false rest else none
    else (ungroup? true rest).map (c :: ·)


/-- The natural number that a non-empty group of digits writes. -/
def readNatural? (text : List Char) : Option Nat := do
  let digits ← ungroup? false text
  if digits.length ≤ maxDigits then readDigits? digits else none

/-- A signed integer as it is typed: blanks around it are dropped, one sign may lead, and single
low lines may group its digits. -/
def readInteger? (text : String) : Option Int :=
  match trimBlanks text.toList with
  | '-' :: digits => (readNatural? digits).map fun n => -(n : Int)
  | '+' :: digits => (readNatural? digits).map fun n => (n : Int)
  | digits => (readNatural? digits).map fun n => (n : Int)

end CallByValue.Text
