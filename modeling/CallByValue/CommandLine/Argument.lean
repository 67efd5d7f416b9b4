import CallByValue.Text.Digit

/-!
# Arguments of the command line

Each argument plays a **role**: it is plain, a flag, something that only looks like a flag, or the
separator `--`, behind which all arguments are plain. A long flag may be cut short as long as it is
unique, and may carry a value behind an equals sign.

* `Argument` — the roles;
* `classify` — tells the arguments apart.
-/

namespace CallByValue.CommandLine

/-- The flags of the program. -/
inductive Flag where
  | help
  | limit
  | noColor
deriving Repr, DecidableEq

/-- The spellings of the flags. -/
def spellings : List (String × Flag) :=
  [("-h", .help), ("--help", .help), ("--recursion-limit", .limit), ("--no-color", .noColor)]

/-- The name by which complaints call a flag. -/
def Flag.title : Flag → String
  | .help => "-h/--help"
  | .limit => "--recursion-limit"
  | .noColor => "--no-color"

/-- An argument by the role it plays. -/
inductive Argument where
  /-- the name of a sample, or the value of the flag before it -/
  | plain (text : String)
  /-- a flag spelled with two dashes, and the value attached to it -/
  | flag (flag : Flag) (value : Option String)
  /-- the flag spelled with one dash, and what is attached to it -/
  | short (attached : Option String)
  /-- something that looks like a flag and is none -/
  | unknown (text : String)
  /-- the mark behind which all arguments are plain -/
  | separator
deriving Repr, DecidableEq

/-- Why the arguments were not accepted. -/
inductive Refusal where
  /-- help was asked for -/
  | help
  /-- something is wrong with the arguments -/
  | misuse (complaint : String)
deriving Repr, DecidableEq

/-- The text before the first equals sign, and the text behind it if there is one. -/
def splitValue (text : List Char) : List Char × Option String :=
  match text.dropWhile (· ≠ '=') with
  | [] => (text, none)
  | _ :: value => (text.takeWhile (· ≠ '='), some (String.ofList value))

/-- Is the text a negative number, which is plain although it starts with a dash? It has digits,
or digits behind a point, and may end in a line break. -/
def isNegativeNumber (text : List Char) : Bool :=
  let isDigit c := (Text.digitValue? c).isSome
  let isEnd rest := rest = [] || rest = ['\n']
  match text with
  | '-' :: rest =>
    let whole := rest.takeWhile isDigit
    match rest.dropWhile isDigit with
    | '.' :: fraction =>
      !(fraction.takeWhile isDigit).isEmpty && isEnd (fraction.dropWhile isDigit)
    | rest => !whole.isEmpty && isEnd rest
  | _ => false

/-- An argument that starts with a dash and names no flag: a negative number or a text with a blank
in it is plain. -/
def classifyStray (text : List Char) : Argument :=
  if isNegativeNumber text || text.contains ' ' then .plain (String.ofList text)
  else .unknown (String.ofList text)

/-- The role of an argument that starts with two dashes. -/
def classifyLong (text : List Char) : Except Refusal Argument :=
  let (name, value) := splitValue text
  match spellings.lookup (String.ofList name) with
  | some flag => .ok (.flag flag value)
  | none =>
    match spellings.filter fun (spelling, _) => name.isPrefixOf spelling.toList with
    | [] => .ok (classifyStray text)
    | [(_, flag)] => .ok (.flag flag value)
    | several => .error (.misuse ("ambiguous option: " ++ String.ofList text ++
        " could match " ++ String.intercalate ", " (several.map Prod.fst)))

/-- The role of an argument in front of the separator. -/
def classifyOne (text : String) : Except Refusal Argument :=
  match text.toList with
  | '-' :: '-' :: rest => classifyLong ('-' :: '-' :: rest)
  | ['-', 'h'] => .ok (.short none)
  | '-' :: 'h' :: '=' :: value => .ok (.short (some (String.ofList value)))
  | '-' :: 'h' :: attached => .ok (.short (some (String.ofList attached)))
  | ['-'] => .ok (.plain text)
  | '-' :: rest => .ok (classifyStray ('-' :: rest))
  | _ => .ok (.plain text)

/-- The roles of the arguments. -/
def classify : List String → Except Refusal (List Argument)
  | [] => .ok []
  | text :: rest =>
    if text = "--" then .ok (.separator :: rest.map .plain)
    else do return (← classifyOne text) :: (← classify rest)

end CallByValue.CommandLine
