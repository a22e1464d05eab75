import PhotoArchive.CommandLine
import Std.Time

/-!
# The program

A run of the program in the surroundings of its process. Neither a database nor an object store can
be reached from here: a run goes as far as the query for the products, and reports that it failed.

## Main definitions

- `Program.surroundings` — what the process finds
- `main` — the program
-/

namespace PhotoArchive.Program

/-- The variables in a list that separates them by the character NUL. -/
def entries (data : Bytes) : Environment :=
  (data.splitOnP (· = 0)).filterMap fun entry =>
    match entry.dropWhile (· ≠ 61) with
    | [] => none
    | _ :: value => do
      return (← Text.ofUtf8? (entry.takeWhile (· ≠ 61)), ← Text.ofUtf8? value)

/-- What a file holds, if it can be read. -/
def read? (name : String) : IO (Option Bytes) := do
  try
    return some (← IO.FS.readBinFile name).toList
  catch _ => return none

/-- The environment file that the arguments name. -/
def environmentFile? (arguments : List String) : Option String :=
  match CommandLine.readArguments arguments with
  | .ok (.export request) => some request.environmentFile
  | _ => none

/-- What the process finds. -/
def surroundings (arguments : List String) :
    IO (CommandLine.Surroundings ScriptedStore) := do
  let environment := entries ((← read? "/proc/self/environ").getD [])
  let file ← match environmentFile? arguments with
    | some name => read? name
    | none => pure none
  return {
    environment
    tree := {}
    readFile := fun _ => file
    catalog := .ofTable [] (some (.database "there is no way to the database"))
    objectStore := ScriptedStore.store
    objects := { script := { objects := [], enterFault := some (.connection .unspecified) } } }

/-- The time, as it stands in front of a record of the log. -/
def timestamp : IO String := do
  return (← Std.Time.PlainDateTime.now).format "uuuu-MM-dd HH:mm:ss,SSS"

end PhotoArchive.Program

open PhotoArchive

/-- Run the program. -/
def main (arguments : List String) : IO UInt32 := do
  let conclusion := CommandLine.run (← Program.surroundings arguments) arguments
  for record in conclusion.log do
    IO.eprintln ((← Program.timestamp) ++ " " ++ record.entry)
  for line in conclusion.complaints do
    IO.eprintln line
  for line in conclusion.printed do
    IO.println line
  match conclusion.ending with
  | .ok code => return code.toUInt32
  | .error breakdown =>
    for line in breakdown.lines do
      IO.eprintln line
    return 1
