import PhotoArchive.CommandLine.Arguments
import PhotoArchive.Settings.Environment
import PhotoArchive.Text.Wrapped

/-!
# Help for the command line

How the program is called, and what its options are for, set for a width. The width is two characters
less than the environment sets in `COLUMNS`; words of an explanation still have eleven characters of
room where that is too narrow.

## Main definitions

- `CommandLine.textWidth` — the width for which texts are set
- `CommandLine.usage` — how the program is called, line by line
- `CommandLine.help` — the help text, line by line
-/

namespace PhotoArchive.CommandLine

/-- The name of the program. -/
def program : String := "photo-export"

/-- The width for which texts are set in an environment. It is that of 80 columns if the environment
does not set a positive number of them. -/
def textWidth (env : Environment) : Nat :=
  let columns := ((env.value? "COLUMNS").bind Text.wholeNumber?).getD 0
  (if 0 < columns then columns.toNat else 80) - 2

/-- As many blanks. -/
def blanks (n : Nat) : String := String.ofList (List.replicate n ' ')

/-! ## Options -/

namespace Switch

/-- A name of an option, with the name of its value. -/
def withValue (s : Switch) (name : String) : String :=
  match s with
  | help => name
  | output => name ++ " OUTPUT"
  | environment => name ++ " ENV"

/-- What an option is for. -/
def purpose : Switch → String
  | help => "show this help message and exit"
  | output => "archive path, defaults to EXPORT_FILENAME"
  | environment => "dotenv file with settings"

/-- All names of an option, as they stand in front of its purpose. -/
def label (s : Switch) : String := ", ".intercalate (s.names.map s.withValue)

/-- An option as it stands in a call of the program. -/
def inCall (s : Switch) : String := "[" ++ s.withValue (s.names.headD "") ++ "]"

end Switch

/-! ## Calls -/

/-- The operand of a call. -/
def operandName : String := "company_id"

/-- Parts of a call on a line that has begun, and on lines with a margin behind it. -/
def callLines (width : Nat) (margin line : String) : List String → List String
  | [] => [line]
  | part :: parts =>
    if line.length + 1 + part.length ≤ width then
      callLines width margin (line ++ " " ++ part) parts
    else line :: callLines width margin (margin ++ part) parts

/-- How the program is called. What does not fit one line is set behind the name of the program if
there is room, or else below it; the operand then has a line of its own. -/
def usage (width : Nat) : List String :=
  let start := "usage: " ++ program
  let options := Switch.inOrder.map Switch.inCall
  let whole := " ".intercalate (start :: options ++ [operandName])
  if whole.length ≤ width then [whole]
  else if 4 * start.length ≤ 3 * width then
    let margin := blanks (start.length + 1)
    callLines width margin start options ++ [margin ++ operandName]
  else
    let margin := blanks 7
    let below := match options with
      | [] => []
      | part :: parts => callLines width margin (margin ++ part) parts
    start :: below ++ [margin ++ operandName]

/-! ## The help text -/

/-- A sentence set in lines of a width, or of eleven characters if that is more. -/
def sentence (width : Nat) (text : String) : List String :=
  (Text.wrapped (max width 11 - 1) (text.toList.splitOn ' ')).map String.ofList

/-- An option with its purpose. The purposes of all options begin in one column; that of an option
whose names go up to there is set below them. -/
def explanation (width : Nat) (s : Switch) : List String :=
  let column := min 24 (max (width - 20) 4)
  let lines := sentence (width - column) s.purpose
  let names := "  " ++ s.label
  match lines with
  | first :: rest =>
    if names.length + 2 ≤ column then
      (names ++ blanks (column - names.length) ++ first) :: rest.map (blanks column ++ ·)
    else names :: lines.map (blanks column ++ ·)
  | [] => [names]

/-- The help text. -/
def help (width : Nat) : List String :=
  usage width ++ [""] ++ sentence width "Export a company's product photos as zip"
    ++ ["", "positional arguments:", "  " ++ operandName, "", "options:"]
    ++ Switch.inOrder.flatMap (explanation width)

example : usage 38 =
    ["usage: photo-export [-h] [-o OUTPUT]", "                    [--env ENV]",
      "                    company_id"] := by
  decide +kernel

end PhotoArchive.CommandLine
