import PhotoArchive.Settings.Environment
import PhotoArchive.Text.Blank
import PhotoArchive.Text.Reader
import PhotoArchive.Text.Utf8

/-!
# Environment files

An environment file is a list of assignments `NAME=value`, one after the other. A value is the rest
of its line or stands in quotes; then it may go on over many lines. Values can refer to names with
`$`, for which the values are put that were assigned before or that the environment has.

## Main definitions

- `EnvironmentFile.Assignment`, `EnvironmentFile.assignments` — what a file assigns
- `EnvironmentFile.expand` — put values for the references in a text
- `Environment.withFile` — an environment after a file was read
- `Settings.load` — the settings in an environment and a file

## Design notes

A statement that cannot be read is dropped with the rest of the line on which it stops making sense,
and reading goes on behind that line. The last assignment to a name counts, even if it is one
without a value, which gives the name nothing.
-/

namespace PhotoArchive

namespace EnvironmentFile

open Text (Reader)

/-! ## Lines -/

/-- A text in which all line ends are newlines. -/
def withNewlines : List Char → List Char
  | '\r' :: '\n' :: rest => '\n' :: withNewlines rest
  | '\r' :: rest => '\n' :: withNewlines rest
  | c :: rest => c :: withNewlines rest
  | [] => []

/-- The text of a file in UTF-8, without the mark that may stand in front of it. -/
def text? (data : Bytes) : Option (List Char) :=
  (Text.ofUtf8? data).map fun s =>
    match s.toList with
    | '\uFEFF' :: rest => withNewlines rest
    | cs => withNewlines cs

/-- A blank that does not end a line. -/
def isSpace (c : Char) : Bool := Text.isBlank c && c != '\n'

/-- A character that does not end a line. -/
def isInLine (c : Char) : Bool := c != '\n'

/-- What follows behind the end of the line. -/
def nextLine (cs : List Char) : List Char := (cs.dropWhile isInLine).drop 1

/-! ## Statements -/

/-- The assignment of a value to a name, or of no value. -/
structure Assignment where
  name : String
  value : Option String
  deriving DecidableEq, Repr

/-- Pass the word `export` with the blanks behind it, if both are there. -/
def skipExport : Reader Unit := fun cs =>
  let word := "export".toList
  let rest := cs.drop word.length
  if word.isPrefixOf cs && rest.head?.any isSpace then .ok ((), rest.dropWhile isSpace)
  else .ok ((), cs)

/-- A name in single quotes. -/
def quotedName? : List Char → Option (String × List Char)
  | '\'' :: cs =>
    let isInside (c : Char) : Bool := c != '\''
    match cs.takeWhile isInside, cs.dropWhile isInside with
    | [], _ => none
    | _, [] => none
    | name, _ :: rest => some (String.ofList name, rest)
  | _ => none

/-- A character of a name without quotes. -/
def isOfName (c : Char) : Bool := c != '=' && c != '#' && !Text.isBlank c

/-- A name, or none in front of a comment. -/
def name : Reader (Option String) := do
  match ← Reader.peek with
  | some '#' => return none
  | some '\'' => some <$> Reader.ofOption quotedName?
  | _ => return some (String.ofList (← Reader.takeSome isOfName))

/-- What a character behind a backslash stands for between single quotes. -/
def singleEscapes : List (Char × Char) := [('\\', '\\'), ('\'', '\'')]

/-- What a character behind a backslash stands for between double quotes. -/
def doubleEscapes : List (Char × Char) :=
  [('\\', '\\'), ('\'', '\''), ('"', '"'), ('a', '\x07'), ('b', '\x08'), ('f', '\x0c'),
    ('n', '\n'), ('r', '\r'), ('t', '\t'), ('v', '\x0b')]

/-- A backslash and the character behind it, or what they stand for. -/
def unescape (escapes : List (Char × Char)) (c : Char) : List Char :=
  match escapes.lookup c with
  | some meant => [meant]
  | none => ['\\', c]

/-- The text up to the next quote that no backslash protects, and what is behind that quote. -/
def untilQuote? (quote : Char) (escapes : List (Char × Char)) :
    List Char → Option (List Char × List Char)
  | [] => none
  | '\\' :: c :: rest =>
    (untilQuote? quote escapes rest).map fun (text, rest) => (unescape escapes c ++ text, rest)
  | c :: rest =>
    if c = quote then some ([], rest)
    else (untilQuote? quote escapes rest).map fun (text, rest) => (c :: text, rest)

/-- A value in quotes. -/
def quotedValue? : List Char → Option (List Char × List Char)
  | '\'' :: rest => untilQuote? '\'' singleEscapes rest
  | '"' :: rest => untilQuote? '"' doubleEscapes rest
  | _ => none

/-- A line up to the first blanks that have a `#` behind them. -/
def withoutComment : List Char → List Char
  | [] => []
  | c :: cs =>
    if Text.isBlank c && (cs.dropWhile Text.isBlank).head? == some '#' then []
    else c :: withoutComment cs

/-- A value without quotes: the rest of the line without a comment and blanks at its end. -/
def plainValue : Reader (List Char) :=
  (fun line => Text.dropRightWhile Text.isBlank (withoutComment line)) <$> Reader.take isInLine

/-- The value behind the sign `=`. Blanks in front of it do not count, and when only a comment
follows them it is empty. -/
def assignedValue : Reader (List Char) := do
  Reader.drop 1
  let blanks ← Reader.take isSpace
  match ← Reader.peek with
  | some '\'' | some '"' => Reader.ofOption quotedValue?
  | some '#' => if blanks.isEmpty then plainValue else return []
  | _ => plainValue

/-- Pass the rest of a line: blanks, and a comment. -/
def lineEnd : Reader Unit := fun cs =>
  let rest := cs.dropWhile isSpace
  match if rest.head? = some '#' then rest.dropWhile isInLine else rest with
  | [] => .ok ((), [])
  | '\n' :: rest => .ok ((), rest)
  | _ => .error cs

/-- One statement: an assignment, or only a comment. -/
def statement : Reader (Option Assignment) := do
  Reader.skip Text.isBlank
  skipExport
  let name ← name
  Reader.skip isSpace
  let value ← match ← Reader.peek with
    | some '=' => some <$> assignedValue
    | _ => pure none
  lineEnd
  return name.map fun name => { name, value := value.map String.ofList }

/-- The assignments in a text. A statement takes something as long as there is something. -/
def assignments (cs : List Char) : List Assignment :=
  match statement cs with
  | .ok (assignment, rest) =>
    assignment.toList ++ if rest.length < cs.length then assignments rest else []
  | .error stuck =>
    if (nextLine stuck).length < cs.length then assignments (nextLine stuck) else []
termination_by cs.length

/-! ## References -/

/-- A reference to a name, with the text that takes its place when the name has no value. -/
structure Reference where
  name : String
  default : String := ""
  deriving DecidableEq, Repr

/-- The part of a reference behind its name. -/
def referenceEnd? (name : String) : List Char → Option (Reference × List Char)
  | '}' :: rest => some ({ name }, rest)
  | ':' :: '-' :: rest =>
    match rest.dropWhile (· ≠ '}') with
    | [] => none
    | _ :: behind =>
      some ({ name, default := String.ofList (rest.takeWhile (· ≠ '}')) }, behind)
  | _ => none

/-- A character of a name in a reference. -/
def isOfReference (c : Char) : Bool := c != '}' && c != ':'

/-- The reference at the beginning of a text: a name in braces behind a dollar sign, or a name and a
default with `:-` in between. -/
def reference? : List Char → Option (Reference × List Char)
  | '$' :: '{' :: rest =>
    referenceEnd? (String.ofList (rest.takeWhile isOfReference)) (rest.dropWhile isOfReference)
  | _ => none

theorem length_dropWhile_le (p : Char → Bool) (cs : List Char) :
    (cs.dropWhile p).length ≤ cs.length :=
  (List.dropWhile_sublist p).length_le

theorem length_of_referenceEnd? {name : String} {cs rest : List Char} {r : Reference}
    (h : referenceEnd? name cs = some (r, rest)) : rest.length < cs.length := by
  unfold referenceEnd? at h
  split at h
  · cases h
    simp
  · rename_i inner
    split at h
    · cases h
    · rename_i hd
      cases h
      have := length_dropWhile_le (· ≠ '}') inner
      rw [hd] at this
      simp at this ⊢
      omega
  · cases h

/-- A reference takes something. -/
theorem length_of_reference? {cs rest : List Char} {r : Reference}
    (h : reference? cs = some (r, rest)) : rest.length < cs.length := by
  unfold reference? at h
  split at h
  · rename_i inner
    have := length_of_referenceEnd? h
    have := length_dropWhile_le isOfReference inner
    simp
    omega
  · cases h

/-- A text with values in the places of its references. -/
def expand (value? : String → Option String) (cs : List Char) : List Char :=
  match _h : reference? cs with
  | some (r, rest) => ((value? r.name).getD r.default).toList ++ expand value? rest
  | none =>
    match cs with
    | [] => []
    | c :: rest => c :: expand value? rest
termination_by cs.length
decreasing_by
  · exact length_of_reference? _h
  · simp

/-! ## Values -/

/-- The values that names have been assigned, of which some may be none. -/
abbrev Values := List (String × Option String)

/-- The value for a reference: the one that was assigned, or else the one in the environment. A name
to which no value was assigned has the empty one. -/
def Values.lookup? (values : Values) (env : Environment) (name : String) : Option String :=
  match values.lookup name with
  | some value => some (value.getD "")
  | none => env.value? name

/-- The values after another assignment. -/
def Values.assign (env : Environment) (values : Values) (a : Assignment) : Values :=
  let value := a.value.map fun text =>
    String.ofList (expand (fun name => values.lookup? env name) text.toList)
  (a.name, value) :: values.filter (·.1 ≠ a.name)

end EnvironmentFile

/-! ## Reading a file into an environment -/

/-- Why there are no settings. -/
inductive SettingsError where
  /-- No file can have the name of the environment file. -/
  | unusableName (name : String)
  /-- The environment file is not in UTF-8. -/
  | notText
  /-- The environment file assigns to a name that no environment can have, or a value. -/
  | notAssignable (name : String)
  | invalid (error : ValidationError)
  deriving DecidableEq, Repr

namespace Environment

/-- A text without the character NUL, which neither the names and values of an environment nor the
names of files can have. -/
def isPlain (s : String) : Bool := !s.toList.contains '\x00'

/-- Define the names that have values. -/
def defineAll (env : Environment) : EnvironmentFile.Values → Except SettingsError Environment
  | [] => .ok env
  | (_, none) :: rest => defineAll env rest
  | (name, some value) :: rest =>
    if isPlain name && isPlain value && !name.toList.contains '=' then
      defineAll (env.define name value) rest
    else .error (.notAssignable name)

/-- A letter as it counts in an answer. -/
def foldCase (c : Char) : Char := if c = 'ſ' then 's' else c.toLower

/-- Whether the environment says that environment files are not read. -/
def ignoresFile (env : Environment) : Bool :=
  match env.value? "PYTHON_DOTENV_DISABLED" with
  | some answer =>
    ["1", "true", "t", "yes", "y"].contains (String.ofList (answer.toList.map foldCase))
  | none => false

/-- The environment after the environment file with a name was read, if there is one. -/
def withFile (env : Environment) (name : String) (file : Option Bytes) :
    Except SettingsError Environment :=
  if env.ignoresFile then .ok env
  else if !isPlain name || (Text.nameFault? name).isSome then .error (.unusableName name)
  else
    match file with
    | none => .ok env
    | some data =>
      match EnvironmentFile.text? data with
      | none => .error .notText
      | some cs =>
        env.defineAll
          ((EnvironmentFile.assignments cs).foldl (EnvironmentFile.Values.assign env) [])

end Environment

/-- The settings in an environment and in the environment file with a name, if there is one, and the
environment after that. -/
def Settings.load (env : Environment) (name : String) (file : Option Bytes) :
    Except SettingsError (Settings × Environment) := do
  let env ← env.withFile name file
  let settings ← (Settings.ofEnvironment env).mapError .invalid
  return (settings, env)

end PhotoArchive
