import CallByValue.CommandLine.Argument
import CallByValue.Sample

/-!
# Options of the command line

The arguments are taken **from left to right**; the first thing wrong with them, or a call for help,
ends the program. Arguments that nobody asked for are collected, and complained about only when
everything else was in order.

* `Options` — what the arguments say;
* `parse` — reads the arguments, or gives the reason for refusing them.
-/

namespace CallByValue.CommandLine

/-- A limit on the depth of evaluation, as it was given. -/
inductive Limit where
  /-- a number -/
  | number (n : Int)
  /-- nothing: a separator given as the value is dropped -/
  | dropped
deriving Repr, DecidableEq

/-- What the arguments say. -/
structure Options where
  /-- the sample to run, if one is named -/
  sample : Option String := none
  /-- the limit on the depth of evaluation, if one is given -/
  limit : Option Limit := none
  /-- is colour to be turned off? -/
  noColor : Bool := false
  /-- the arguments that nobody asked for -/
  extras : List String := []

/-- A complaint about an argument. -/
def complain {α : Type} (title complaint : String) : Except Refusal α :=
  .error (.misuse ("argument " ++ title ++ ": " ++ complaint))

/-- A complaint about a value attached to a flag that takes none. -/
def ignored {α : Type} (flag : Flag) (value : String) : Except Refusal α :=
  complain flag.title ("ignored explicit argument " ++ Text.quote value)

/-- The outcome of the short flag: a call for help, also when it is repeated behind one dash. -/
def consumeShort (attached : Option String) : Refusal :=
  match attached with
  | none => .help
  | some text =>
    let rest := String.ofList (text.toList.dropWhile (· = 'h'))
    if text ≠ "" && rest = "" then .help
    else .misuse ("argument " ++ Flag.help.title ++ ": ignored explicit argument " ++
      Text.quote rest)

/-- The limit that a value of its flag gives. -/
def readLimit (value : String) : Except Refusal Limit :=
  if value = "--" then .ok .dropped
  else match Text.readInteger? value with
    | some n => .ok (.number n)
    | none => complain Flag.limit.title ("invalid int value: " ++ Text.quote value)

/-- The name of a sample, if there is such a sample. -/
def readSample (name : String) : Except Refusal String :=
  if name ∈ Sample.names then .ok name
  else complain "program" ("invalid choice: " ++ Text.quote name ++ " (choose from " ++
    String.intercalate ", " (Sample.names.map Text.quote) ++ ")")

/-- Takes the arguments from left to right. The first plain argument names the sample; a separator
next to it is dropped. -/
def consume (options : Options) : List Argument → Except Refusal Options
  | [] => .ok options
  | .short attached :: _ => .error (consumeShort attached)
  | .flag .help none :: _ => .error .help
  | .flag .help (some value) :: _ => ignored .help value
  | .flag .noColor none :: rest => consume { options with noColor := true } rest
  | .flag .noColor (some value) :: _ => ignored .noColor value
  | .flag .limit (some value) :: rest => do
    let limit ← readLimit value
    consume { options with limit := some limit } rest
  | .flag .limit none :: .plain value :: rest => do
    let limit ← readLimit value
    consume { options with limit := some limit } rest
  | .flag .limit none :: _ => complain Flag.limit.title "expected one argument"
  | .unknown text :: rest => consume { options with extras := options.extras ++ [text] } rest
  | .plain text :: .separator :: rest =>
    match options.sample with
    | none => do
      let name ← readSample text
      consume { options with sample := some name } rest
    | some _ => consume { options with extras := options.extras ++ [text, "--"] } rest
  | .plain text :: rest =>
    match options.sample with
    | none => do
      let name ← readSample text
      consume { options with sample := some name } rest
    | some _ => consume { options with extras := options.extras ++ [text] } rest
  | .separator :: rest =>
    match options.sample with
    | none => consume options rest
    | some _ => consume { options with extras := options.extras ++ ["--"] } rest

/-- The options that the arguments give. -/
def parse (arguments : List String) : Except Refusal Options := do
  let options ← consume {} (← classify arguments)
  if options.extras = [] then return options
  else throw (.misuse ("unrecognized arguments: " ++ String.intercalate " " options.extras))

end CallByValue.CommandLine
