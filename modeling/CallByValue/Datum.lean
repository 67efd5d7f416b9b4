import CallByValue.Number
import CallByValue.Text.Quoted

/-!
# Host data

Terms and values of the calculus may carry data of the **host** that embeds it: nothing, truth
values, integers, floating-point numbers, texts and lists of these, and also other objects, whose
type is a parameter.

* `Datum.display` and `Datum.dump` — the text of a datum, and its text in quotes;
* `Datum.displayWithin` and `Datum.dumpWithin` — the same where data nest only so deep and integers
  have only so many digits;
* `Datum.number?` and `Datum.beq` — **equality** of host data, under which a truth value equals the
  integer one or zero, and a floating-point number equals the integer of the same value.
-/

namespace CallByValue

/-! ## Computations that can fail -/

section Bind

variable {ε α β : Type} {x : Except ε α} {next : α → Except ε β}

/-- Inversion: what is put together succeeds when both parts do. -/
theorem ok_of_bind {b : β} (h : x >>= next = .ok b) : ∃ a, x = .ok a ∧ next a = .ok b := by
  cases x with
  | error e => cases h
  | ok a => exact ⟨a, rfl, h⟩

end Bind

/-! ## Data -/

/-- Host data, with embedded objects of type `τ`. -/
inductive Datum (τ : Type) where
  /-- nothing -/
  | null
  /-- a truth value -/
  | bool (b : Bool)
  /-- an integer of any size -/
  | int (i : Int)
  /-- a floating-point number, given by the shortest decimal text that reads back as it -/
  | float (decimal : String)
  /-- a text -/
  | text (s : String)
  /-- a list -/
  | list (items : List (Datum τ))
  /-- an embedded object -/
  | object (o : τ)

instance {τ : Type} : Inhabited (Datum τ) := ⟨.null⟩

/-- What an embedded object must offer: an equality, a text and the name of its kind. -/
class Embedded (τ : Type) extends BEq τ where
  /-- the text of an object -/
  dump : τ → String
  /-- the text of an object that nests only so deep -/
  dumpWithin : (depth : Nat) → τ → Except Text.Limit String
  /-- within the limits, the text is that of the object -/
  eq_dump : ∀ {depth : Nat} {o : τ} {s : String}, dumpWithin depth o = .ok s → s = dump o
  /-- the name of an object's kind -/
  kindName : τ → String

instance : Embedded Empty where
  beq a _ := nomatch a
  dump a := nomatch a
  dumpWithin _ a := nomatch a
  eq_dump {_ a _} _ := nomatch a
  kindName a := nomatch a

namespace Datum

variable {τ : Type} [Embedded τ]

/-! ## Texts -/

mutual

/-- The text of a datum in which texts stand in quotes. -/
def dump : Datum τ → String
  | .null => "None"
  | .bool true => "True"
  | .bool false => "False"
  | .int i => Text.ofInt i
  | .float decimal => decimal
  | .text s => Text.quote s
  | .list items => "[" ++ String.intercalate ", " (dumpAll items) ++ "]"
  | .object o => Embedded.dump o

/-- The texts of the items of a list. -/
def dumpAll : List (Datum τ) → List String
  | [] => []
  | item :: items => dump item :: dumpAll items

end

/-- The text of a datum; a text is its own text. -/
def display : Datum τ → String
  | .text s => s
  | d => d.dump

/-! ### Limits -/

mutual

/-- The text of a datum in which texts stand in quotes, where data nest only so deep. -/
def dumpWithin : (depth : Nat) → Datum τ → Except Text.Limit String
  | 0, _ => .error .depth
  | _ + 1, .int i => Text.writeInt i
  | depth + 1, .list items => do
    return "[" ++ String.intercalate ", " (← dumpAllWithin depth items) ++ "]"
  | depth + 1, .object o => Embedded.dumpWithin (depth + 1) o
  | _ + 1, d => .ok d.dump

/-- The texts of the items of a list, where they nest only so deep. -/
def dumpAllWithin (depth : Nat) : List (Datum τ) → Except Text.Limit (List String)
  | [] => .ok []
  | item :: items => do
    let text ← dumpWithin depth item
    return text :: (← dumpAllWithin depth items)

end

/-- The text of a datum, where data nest only so deep; a text is its own text. -/
def displayWithin (depth : Nat) : Datum τ → Except Text.Limit String
  | .text s => .ok s
  | d => d.dumpWithin depth

mutual

/-- Within the limits, the text is that of the datum. -/
theorem eq_dump : ∀ {depth : Nat} {d : Datum τ} {s : String},
    d.dumpWithin depth = .ok s → s = d.dump
  | 0, _, _, h => by
    rw [dumpWithin] at h
    cases h
  | _ + 1, .null, _, h => (Except.ok.inj h).symm
  | _ + 1, .bool _, _, h => (Except.ok.inj h).symm
  | _ + 1, .float _, _, h => (Except.ok.inj h).symm
  | _ + 1, .text _, _, h => (Except.ok.inj h).symm
  | _ + 1, .int _, _, h => Text.eq_of_writeInt h
  | _ + 1, .object _, _, h => Embedded.eq_dump h
  | depth + 1, .list items, s, h => by
    rw [dumpWithin] at h
    obtain ⟨texts, htexts, h⟩ := ok_of_bind h
    rw [dump, ← eq_dumpAll htexts]
    exact (Except.ok.inj h).symm

/-- Within the limits, the texts are those of the items. -/
theorem eq_dumpAll : ∀ {depth : Nat} {items : List (Datum τ)} {texts : List String},
    dumpAllWithin depth items = .ok texts → texts = dumpAll items
  | _, [], _, h => (Except.ok.inj h).symm
  | depth, item :: items, texts, h => by
    rw [dumpAllWithin] at h
    obtain ⟨text, htext, h⟩ := ok_of_bind h
    obtain ⟨rest, hrest, h⟩ := ok_of_bind h
    rw [dumpAll, ← eq_dump htext, ← eq_dumpAll hrest]
    exact (Except.ok.inj h).symm

end

/-- Within the limits, the text on its own is that of the datum. -/
theorem eq_display {depth : Nat} {d : Datum τ} {s : String} (h : d.displayWithin depth = .ok s) :
    s = d.display := by
  cases d with
  | text t => exact (Except.ok.inj h).symm
  | _ => exact eq_dump h

/-! ### Kinds -/

/-- The name of a datum's kind. -/
def kindName : Datum τ → String
  | .null => "NoneType"
  | .bool _ => "bool"
  | .int _ => "int"
  | .float _ => "float"
  | .text _ => "str"
  | .list _ => "list"
  | .object o => Embedded.kindName o

/-! ## Equality -/

/-- The number that a datum stands for. A truth value counts as one or zero. -/
def number? : Datum τ → Option Number
  | .bool b => some (.whole (if b then 1 else 0))
  | .int i => some (.whole i)
  | .float decimal => some (.ofDecimal decimal)
  | _ => none

mutual

/-- Equality of host data: numbers by value whatever their kind, lists item by item. -/
def beq : Datum τ → Datum τ → Bool
  | .null, .null => true
  | .text s, .text t => s == t
  | .list items, .list others => beqAll items others
  | .object o, .object p => o == p
  | d, e => match d.number?, e.number? with
    | some m, some n => m.same n
    | _, _ => false

/-- Equality of lists, item by item. -/
def beqAll : List (Datum τ) → List (Datum τ) → Bool
  | [], [] => true
  | item :: items, other :: others => beq item other && beqAll items others
  | _, _ => false

end

instance : BEq (Datum τ) := ⟨beq⟩

end Datum

end CallByValue
