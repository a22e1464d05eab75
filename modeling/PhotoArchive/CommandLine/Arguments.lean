import PhotoArchive.Text.Digit
import PhotoArchive.Text.Quoted

/-!
# Arguments of the command line

A command line names a company and has options. An option has a name of one letter behind one dash
or a word behind two dashes, of which the beginning is enough. Its value is the next argument, or
stands in the same one. Behind a lone `--` there are no options.

## Main definitions

- `Switch` — the options
- `Word` — what a single argument is
- `Request` — what a command line asks for
- `UsageError` — what can be wrong with it
- `readArguments` — what some arguments ask for

## Design notes

All arguments are told apart before the first one takes effect. From then on they take effect one by
one: a request for help ends the reading even if something is wrong further on.
-/

namespace PhotoArchive.CommandLine

/-! ## Options -/

/-- The options. -/
inductive Switch where
  | help
  | output
  | environment
  deriving DecidableEq, Repr

namespace Switch

/-- The names of an option. -/
def names : Switch → List String
  | help => ["-h", "--help"]
  | output => ["-o", "--output"]
  | environment => ["--env"]

/-- Whether an option has a value. -/
def hasValue : Switch → Bool
  | help => false
  | output | environment => true

/-- The options in the order in which they are listed. -/
def inOrder : List Switch := [help, output, environment]

/-- All names of options. -/
def all : List (String × Switch) := inOrder.flatMap fun s => s.names.map fun name => (name, s)

/-- The option with a name. -/
def named? (name : String) : Option Switch := all.lookup name

end Switch

/-- What can be wrong with a command line. -/
inductive UsageError where
  /-- The beginning of a name fits more than one. -/
  | ambiguous (text : String) (candidates : List String)
  | missingValue (option : Switch)
  /-- A value is given to an option without one. -/
  | unwantedValue (option : Switch) (value : String)
  | missingCompany
  | unrecognized (arguments : List String)
  deriving DecidableEq, Repr

namespace UsageError

/-- What is wrong with an option. -/
def about (option : Switch) (problem : String) : String :=
  "argument " ++ "/".intercalate option.names ++ ": " ++ problem

/-- The error in words. -/
def message : UsageError → String
  | ambiguous text candidates =>
    "ambiguous option: " ++ text ++ " could match " ++ ", ".intercalate candidates
  | missingValue option => about option "expected one argument"
  | unwantedValue option value => about option ("ignored explicit argument " ++ Text.quoted value)
  | missingCompany => "the following arguments are required: company_id"
  | unrecognized arguments => "unrecognized arguments: " ++ " ".intercalate arguments

end UsageError

/-! ## Words -/

/-- An option as it is named in an argument, with the value that stands behind the name. -/
structure Naming where
  name : String
  option : Switch
  value : Option String := none
  deriving DecidableEq, Repr

/-- Whether an option is named by a single letter. -/
def Naming.isLetter (n : Naming) : Bool := n.name.toList[1]? != some '-'

/-- What a single argument is. -/
inductive Word where
  /-- The lone `--`. -/
  | separator
  | operand (text : String)
  | option (naming : Naming)
  /-- It looks like an option, but there is no such option. -/
  | unknown (text : String)
  deriving DecidableEq, Repr

/-- The parts of a text in front of the first sign `=` and behind it. -/
def atEquals? (cs : List Char) : Option (String × String) :=
  match cs.dropWhile (· ≠ '=') with
  | [] => none
  | _ :: value => some (String.ofList (cs.takeWhile (· ≠ '=')), String.ofList value)

/-- The option whose name stands in front of the sign `=`. -/
def assigned? (cs : List Char) : Option Naming := do
  let (name, value) ← atEquals? cs
  let option ← Switch.named? name
  return { name, option, value := some value }

/-- The options whose names begin with what stands in front of a sign `=`. -/
def abbreviated (cs : List Char) : List Naming :=
  let (start, value) := match atEquals? cs with
    | some (start, value) => (start, some value)
    | none => (String.ofList cs, none)
  (Switch.all.filter fun s => start.toList.isPrefixOf s.1.toList).map fun (name, option) =>
    { name, option, value }

/-- The option of one letter that a text begins with; what follows is its value. -/
def attached (cs : List Char) : List Naming :=
  let name := String.ofList (cs.take 2)
  (Switch.named? name).toList.map fun option =>
    { name, option, value := some (String.ofList (cs.drop 2)) }

/-- Whether a text is a negative number, up to a newline at its end: a dash and digits, of which the
last ones may stand behind a point. -/
def isNegativeNumber (text : String) : Bool :=
  match text.toList with
  | '-' :: rest =>
    let rest := if rest.getLast? = some '\n' then rest.dropLast else rest
    match rest.dropWhile Text.isDecimalDigit with
    | [] => !rest.isEmpty
    | '.' :: decimals => !decimals.isEmpty && decimals.all Text.isDecimalDigit
    | _ => false
  | _ => false

/-- What an argument is that begins with a dash and more, but is not the name of an option. -/
def optionLike (text : String) : Except UsageError Word :=
  let cs := text.toList
  match assigned? cs with
  | some naming => .ok (.option naming)
  | none =>
    match if cs[1]? = some '-' then abbreviated cs else attached cs with
    | [naming] => .ok (.option naming)
    | [] => .ok (if isNegativeNumber text || cs.contains ' ' then .operand text else .unknown text)
    | namings => .error (.ambiguous text (namings.map Naming.name))

/-- What an argument is. -/
def Word.ofString (text : String) : Except UsageError Word :=
  match Switch.named? text with
  | some switch => .ok (.option { name := text, option := switch })
  | none =>
    if text.toList.head? = some '-' ∧ text ≠ "-" then optionLike text else .ok (.operand text)

/-- What the arguments are. -/
def words : List String → Except UsageError (List Word)
  | [] => .ok []
  | text :: rest =>
    if text = "--" then .ok (.separator :: rest.map .operand)
    else do
      let word ← Word.ofString text
      return word :: (← words rest)

/-! ## Requests -/

/-- What a command line asks for. -/
structure Request where
  company : String
  output : Option String := none
  environmentFile : String := ".env"
  deriving DecidableEq, Repr

/-- What a command line comes to. -/
inductive Order where
  | help
  | export (request : Request)
  deriving DecidableEq, Repr

/-- What has been read of a request so far. -/
structure Draft where
  company : Option String := none
  output : Option String := none
  environmentFile : String := ".env"
  /-- Arguments for which there is no use. -/
  unused : List String := []
  deriving DecidableEq, Repr

namespace Draft

/-- Take an operand: the company, or else an argument for which there is no use. -/
def operand (d : Draft) (text : String) : Draft :=
  match d.company with
  | none => { d with company := some text }
  | some _ => { d with unused := d.unused ++ [text] }

/-- Give an option a value. The separator counts as an empty one. -/
def set (d : Draft) (value : String) (option : Switch) : Draft :=
  let value := if value = "--" then "" else value
  match option with
  | .help => d
  | .output => { d with output := some value }
  | .environment => { d with environmentFile := value }

/-- The request, if it is complete and all arguments were of use. -/
def finish (d : Draft) : Except UsageError Order :=
  match d.company, d.unused with
  | none, _ => .error .missingCompany
  | some company, [] =>
    .ok (.export { company, output := d.output, environmentFile := d.environmentFile })
  | some _, unused => .error (.unrecognized unused)

end Draft

/-- Letters behind the one for help are further options, of which help is asked for in any case. An
option with a value ends them; the value is the rest, or else the next argument. -/
def checkLetters (next : Option Word) : List Char → Except UsageError Unit
  | [] => .ok ()
  | c :: rest =>
    match Switch.named? (String.ofList ['-', c]) with
    | none => .error (.unwantedValue .help (String.ofList (c :: rest)))
    | some option =>
      if !option.hasValue then checkLetters next rest
      else if rest.isEmpty then
        match next with
        | some (.operand _) => .ok ()
        | _ => .error (.missingValue option)
      else .ok ()

/-- A request for help. What stands behind its name can only be further options, and these only
behind a letter. -/
def askForHelp (naming : Naming) (next : Option Word) : Except UsageError Order := do
  match naming.value with
  | none => return .help
  | some value =>
    if !naming.isLetter || value.isEmpty then throw (.unwantedValue naming.option value)
    checkLetters next value.toList
    return .help

/-- Read words one by one into a draft. A separator is passed in front of the company and behind
it. -/
def readWords (d : Draft) : List Word → Except UsageError Order
  | [] => d.finish
  | .operand text :: .separator :: rest =>
    if d.company.isNone then readWords (d.operand text) rest
    else readWords { d with unused := d.unused ++ [text, "--"] } rest
  | .operand text :: rest => readWords (d.operand text) rest
  | .separator :: rest =>
    if d.company.isNone then readWords d rest
    else readWords { d with unused := d.unused ++ ["--"] } rest
  | .unknown text :: rest => readWords { d with unused := d.unused ++ [text] } rest
  | .option naming :: rest =>
    if !naming.option.hasValue then askForHelp naming rest.head?
    else
      match naming.value with
      | some value => readWords (d.set value naming.option) rest
      | none =>
        match rest with
        | .operand value :: rest => readWords (d.set value naming.option) rest
        | _ => .error (.missingValue naming.option)

/-- What some arguments ask for. -/
def readArguments (arguments : List String) : Except UsageError Order := do
  readWords {} (← words arguments)

example : (readArguments ["c", "--out", "a.zip"]).toOption =
    some (.export { company := "c", output := some "a.zip" }) := by
  decide

end PhotoArchive.CommandLine
