import CallByValue.Evaluator

/-!
# Church numerals and truth values

Numbers and truth values are **encoded** as terms of the calculus, and **decoded** from values: a
numeral is applied to the successor of the host and to zero, a truth value to the two truth values
of the host, and the constant that comes out is read.

* `numeral`, `tt`, `ff` and the combinators `succ`, `plus`, `mult`;
* `encode` — the numeral of a host datum that is a natural number;
* `decodeNumeral`, `decodeBool` — the number or truth value that a value stands for.
-/

namespace CallByValue.Church

open Term (var abs app)

/-! ## Encoding -/

/-- The identity, `λx. x`. -/
def identity : Term := abs "x" (var "x")

/-- The function that drops its second argument, `λx. λy. x`. -/
def const : Term := abs "x" (abs "y" (var "x"))

/-- Truth: of two arguments the first, `λt. λf. t`. -/
def tt : Term := abs "t" (abs "f" (var "t"))

/-- Falsehood: of two arguments the second, `λt. λf. f`. -/
def ff : Term := abs "t" (abs "f" (var "f"))

/-- The next numeral, `λn. λf. λx. f (n f x)`. -/
def succ : Term :=
  abs "n" (abs "f" (abs "x" (app (var "f") (app (app (var "n") (var "f")) (var "x")))))

/-- The sum of two numerals, `λm. λn. λf. λx. m f (n f x)`. -/
def plus : Term :=
  abs "m" (abs "n" (abs "f" (abs "x"
    (app (app (var "m") (var "f")) (app (app (var "n") (var "f")) (var "x"))))))

/-- The product of two numerals, `λm. λn. λf. m (n f)`. -/
def mult : Term :=
  abs "m" (abs "n" (abs "f" (app (var "m") (app (var "n") (var "f")))))

/-- The variable `f` applied `n` times to the variable `x`. -/
def iterated : Nat → Term
  | 0 => var "x"
  | n + 1 => app (var "f") (iterated n)

/-- The numeral of `n`: the function that applies its first argument `n` times to its second. -/
def numeral (n : Nat) : Term := abs "f" (abs "x" (iterated n))

/-- The notice of a datum that is no natural number. -/
def notNaturalNotice : Notice :=
  { template := "expected natural number, got '{}'", internal := true }

/-- The fault of a datum that is no natural number. -/
def notNatural (datum : Datum Term) : Fault :=
  .report { notNaturalNotice.reportOf datum.display [] with
    obstacle? := (Value.constant datum).obstacle? }

/-- The numeral of a datum that is a natural number. A truth value is none. -/
def encode : Datum Term → Except Fault Term
  | .int (.ofNat n) => .ok (numeral n)
  | datum => .error (notNatural datum)

/-! ## Decoding -/

/-- The successor function of the host. -/
def successor : Value := .primitive "succ" .successor

/-- Applying it takes the successor of the argument. -/
theorem apply_successor (n : Nat) (argument : Value) :
    apply (n + 1) successor argument = argument.successor :=
  argument.successor_bind_accept "succ"

/-- The integer that a value stands for as a numeral. -/
def decodeNumeral (depth : Nat) (value : Value) : Run Value Int := do
  let function ← apply depth value successor
  let result ← apply depth function (.constant (.int 0))
  match result with
  | .constant (.int i) => return i
  | _ => .fail result.notANumeral

/-- The notice of something that was taken for a truth value. -/
def notABoolNotice : Notice := { template := "'{}' is not a Church boolean" }

/-- The fault of something that was taken for a truth value. -/
def notABool (value : Value) : Fault :=
  .report { notABoolNotice.reportOf value.display [] with obstacle? := value.obstacle? }

/-- The truth value that a value stands for. -/
def decodeBool (depth : Nat) (value : Value) : Run Value Bool := do
  let function ← apply depth value (.constant (.bool true))
  let result ← apply depth function (.constant (.bool false))
  match result with
  | .constant (.bool b) => return b
  | _ => .fail (notABool result)

end CallByValue.Church
