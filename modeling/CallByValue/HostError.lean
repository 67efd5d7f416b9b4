import CallByValue.Term.Basic
import CallByValue.Text.Template

/-!
# Errors of the host

What goes wrong outside the calculus itself: host data where a term, a list or a closure is
expected, templates that cannot be filled, numbers and settings out of range, and whatever a host
function chooses to raise. Each error has a **cause**; its class and its wording are functions of
the cause.

* `ErrorClass` — the classes of errors, of which a host may have any;
* `HostError` — the causes, with their classes and what they say;
* `Obstacle` — what keeps a text from being made.
-/

namespace CallByValue

/-- A class of errors, which is known by its name. A host may have any classes. -/
structure ErrorClass where
  /-- the name under which errors of the class are reported -/
  name : String
deriving Repr, DecidableEq

namespace ErrorClass

/-- A part of an object that it does not have. -/
def attributeError : ErrorClass := ⟨"AttributeError"⟩

/-- An item of a list that it does not have. -/
def indexError : ErrorClass := ⟨"IndexError"⟩

/-- A name that stands for nothing. -/
def keyError : ErrorClass := ⟨"KeyError"⟩

/-- No room in memory. -/
def memoryError : ErrorClass := ⟨"MemoryError"⟩

/-- A number that is too large. -/
def overflowError : ErrorClass := ⟨"OverflowError"⟩

/-- An object of the wrong kind. -/
def typeError : ErrorClass := ⟨"TypeError"⟩

/-- An object of the right kind with the wrong value. -/
def valueError : ErrorClass := ⟨"ValueError"⟩

/-- A division by zero. -/
def zeroDivisionError : ErrorClass := ⟨"ZeroDivisionError"⟩

end ErrorClass

/-- The causes of host errors. -/
inductive HostError where
  /-- a host function raised an error of its own -/
  | raised (errorClass : ErrorClass) (detail : String)
  /-- host data where a term belongs, where a term is to be read -/
  | notATerm (datum : Datum Empty)
  /-- host data where a term belongs, where an application is to be taken apart -/
  | noFunctionPart (datum : Datum Empty)
  /-- an object of this kind where a list of snippets belongs -/
  | notIterable (kindName : String)
  /-- no snippet, where a report needs at least one -/
  | noSnippet
  /-- a template that cannot be filled -/
  | template (error : Text.Template.Error)
  /-- an integer with more digits than are written -/
  | tooManyDigits
  /-- so many repetitions that they do not fit a machine word -/
  | countTooLarge
  /-- a text for which there is no room in memory -/
  | noRoom
  /-- an object of this kind where a closure belongs -/
  | noEnvironment (kindName : String)
  /-- an error of this class where a report belongs, and the part of a report that was asked for -/
  | notAReport (className : String) (part : String)
  /-- a sample program that does not exist -/
  | unknownSample (name : String)
  /-- a limit on the depth of evaluation below one -/
  | limitNotPositive
  /-- a limit on the depth of evaluation that does not fit a machine integer -/
  | limitTooLarge
  /-- a limit on the depth of evaluation that is an empty list -/
  | limitNotANumber

namespace HostError

/-- The class of an error with the subject of a field. -/
def subjectClass : Text.Subject.Error → ErrorClass
  | .raised className _ => ⟨className⟩
  | .layout .noRoom => .memoryError
  | .layout _ => .valueError

/-- The class of an error in a template. -/
def templateClass : Text.Template.Error → ErrorClass
  | .noSuchSnippet _ => .indexError
  | .named _ => .keyError
  | .subject error => subjectClass error
  | _ => .valueError

/-- The class of an error. -/
def errorClass : HostError → ErrorClass
  | .raised errorClass _ => errorClass
  | .notATerm _ => .typeError
  | .noFunctionPart _ => .attributeError
  | .notIterable _ => .typeError
  | .noSnippet => .indexError
  | .template error => templateClass error
  | .tooManyDigits => .valueError
  | .countTooLarge => .overflowError
  | .noRoom => .memoryError
  | .noEnvironment _ => .attributeError
  | .notAReport _ _ => .attributeError
  | .unknownSample _ => .keyError
  | .limitNotPositive => .valueError
  | .limitTooLarge => .overflowError
  | .limitNotANumber => .typeError

/-- The wording for an object that lacks a part. -/
def lacking (kindName part : String) : String :=
  "'" ++ kindName ++ "' object has no attribute '" ++ part ++ "'"

/-- What an error says. -/
def message : HostError → String
  | .raised _ detail => detail
  | .notATerm datum => "not an expression: " ++ datum.dump
  | .noFunctionPart datum => lacking datum.kindName "fn"
  | .notIterable kindName => "'" ++ kindName ++ "' object is not iterable"
  | .noSnippet => "list index out of range"
  | .template error => error.message
  | .tooManyDigits =>
    "Exceeds the limit (" ++ Text.ofNat Text.maxDigits ++
      " digits) for integer string conversion; " ++
      "use sys.set_int_max_str_digits() to increase the limit"
  | .countTooLarge => "cannot fit 'int' into an index-sized integer"
  | .noRoom => ""
  | .noEnvironment kindName => lacking kindName "env"
  | .notAReport className part => lacking className part
  | .unknownSample name => Text.quote name
  | .limitNotPositive => "recursion limit must be greater or equal than 1"
  | .limitTooLarge => "Python int too large to convert to C int"
  | .limitNotANumber => "'list' object cannot be interpreted as an integer"

end HostError

/-! ## Texts that cannot be made -/

/-- What keeps something from being put into words. -/
inductive Obstacle where
  /-- it nests deeper than the limit -/
  | tooDeep
  /-- an error of the host -/
  | host (error : HostError)

/-- The obstacle that a limit on texts is. -/
def Obstacle.ofLimit : Text.Limit → Obstacle
  | .depth => .tooDeep
  | .digits => .host .tooManyDigits

end CallByValue
