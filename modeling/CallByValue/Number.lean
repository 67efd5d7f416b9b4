import CallByValue.Text.Digit

/-!
# Numbers as equality sees them

Integers of any size and floating-point numbers are compared by **value**. A floating-point number
is given by the shortest decimal text that reads back as it; the text of a large one writes an
integer that need not be its value, so the integer is first taken to the nearest number that a
significand of 53 bits can hold.

* `nearestFloat` — the floating-point number nearest to a natural number;
* `wholeValue?` — the integer that a floating-point number equals, if there is one;
* `Number.same` — equality by value.
-/

namespace CallByValue

/-- A number by its value. -/
inductive Number where
  /-- an integer -/
  | whole (i : Int)
  /-- a number that equals no integer, by its shortest decimal text -/
  | other (decimal : String)
deriving Repr, DecidableEq

namespace Number

/-! ## Floating-point numbers -/

/-- The bits in the significand of a floating-point number. -/
def significandBits : Nat := 53

/-- The floating-point number nearest to a natural number; a tie goes to the even significand. -/
def nearestFloat (n : Nat) : Nat :=
  if n < Nat.pow 2 significandBits then n
  else
    let unit := Nat.pow 2 (n.log2 + 1 - significandBits)
    let floor := n / unit
    let twice := 2 * (n % unit)
    if twice < unit || (twice = unit && floor % 2 = 0) then floor * unit
    else (floor + 1) * unit

/-- The digits before and after the point, and what follows them. -/
def splitPoint (text : List Char) : List Char × List Char × List Char :=
  let rest := text.dropWhile Char.isDigit
  match rest with
  | '.' :: rest =>
    (text.takeWhile Char.isDigit, rest.takeWhile Char.isDigit, rest.dropWhile Char.isDigit)
  | rest => (text.takeWhile Char.isDigit, [], rest)

/-- The exponent written behind the digits; `none` when something else is. -/
def readExponent? : List Char → Option Int
  | [] => some 0
  | 'e' :: '+' :: digits => (Text.readDigits? digits).map fun n => (n : Int)
  | 'e' :: '-' :: digits => (Text.readDigits? digits).map fun n => -(n : Int)
  | _ => none

/-- The natural number that an unsigned decimal text writes; `none` when it is not whole. -/
def readWhole? (text : List Char) : Option Nat := do
  let (digits, fraction, rest) := splitPoint text
  if digits.isEmpty then none
  let significand ← Text.readDigits? (digits ++ fraction)
  let exponent := (← readExponent? rest) - fraction.length
  if 0 ≤ exponent then return significand * Nat.pow 10 exponent.toNat
  else
    let scale := Nat.pow 10 (-exponent).toNat
    if significand % scale = 0 then return significand / scale else none

/-- The integer that a floating-point number equals, if there is one. -/
def wholeValue? (decimal : String) : Option Int :=
  match decimal.toList with
  | '-' :: digits => (readWhole? digits).map fun n => -(nearestFloat n : Int)
  | digits => (readWhole? digits).map fun n => (nearestFloat n : Int)

/-- The number that a decimal text writes. -/
def ofDecimal (decimal : String) : Number :=
  match wholeValue? decimal with
  | some i => .whole i
  | none => .other decimal

/-! ## Equality -/

/-- Equality of numbers. The number that is not a number differs from itself. -/
def same (a b : Number) : Bool := a = b && a ≠ .other "nan"

end Number

end CallByValue
