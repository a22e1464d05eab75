import PhotoArchive.CommandLine.Help
import PhotoArchive.Dispatch
import PhotoArchive.Settings.EnvironmentFile
import PhotoArchive.Setup
import PhotoArchive.Storage.Directory

/-!
# The command line

What the program does when it is called: it reads its arguments, then its settings, exports the photos
of one company, writes the archive to a file and reports on it.

## Main definitions

- `CommandLine.Surroundings` — what a run of the program finds
- `CommandLine.Conclusion` — what it leaves behind
- `CommandLine.Depot` — a storage with photos, in a directory or in a bucket
- `CommandLine.exportPhotos` — the export of the photos of a company
- `CommandLine.run` — a run of the program

## Design notes

A run ends with an exit code, or it breaks off: wrong settings and failures that the program does not
expect are left to the caller to show.

What is printed always comes out: a terminal that is gone, or one that cannot show some code point, is
left out. Arguments and the values of variables are given as texts, and those that came from a system as
bytes which are no text are left out as well.
-/

namespace PhotoArchive.CommandLine

/-- What a run of the program finds; the objects in the object store are of type `χ`. -/
structure Surroundings (χ : Type) where
  environment : Environment
  /-- The files below the working directory. -/
  tree : FileTree
  /-- What the file with a name holds, if there is such a file. -/
  readFile : String → Option Bytes := fun name => (tree.openFile name).toOption.map tree.content
  catalog : Catalog
  objectStore : ObjectStore χ
  objects : χ
  memory : Memory := .largest
  /-- Which writes to output files are accepted, as on a `Disk`. -/
  accepts : Nat → Nat → Bool := fun _ _ => true
  /-- What is lost when an output file cannot be closed, as on a `Disk`. -/
  heldBack : Option Nat := none
  teardown : Teardown := {}

/-- Why a run breaks off. -/
inductive Breakdown where
  | settings (error : SettingsError)
  /-- There is no such log level. -/
  | logLevel (name : String)
  | setup (error : SetupError)
  | failure (failure : Failure)
  deriving DecidableEq

/-- A breakdown in words, line by line. -/
def Breakdown.lines : Breakdown → List String
  | settings (.unusableName name) => ["no file can have the name " ++ Text.quoted name]
  | settings .notText => ["the environment file is not in UTF-8"]
  | settings (.notAssignable name) => ["no value can be assigned to " ++ Text.quoted name]
  | settings (.invalid e) =>
    ("wrong settings in " ++ e.title) :: e.errors.map fun error =>
      "  " ++ ".".intercalate error.location ++ ": " ++ error.problem.message
  | logLevel name => ["there is no log level " ++ Text.quoted name]
  | setup e => [e.message]
  | failure f => [f.message]

/-- What a run of the program leaves behind. -/
structure Conclusion (χ : Type) where
  /-- The exit code, or why the run broke off. -/
  ending : Except Breakdown Nat
  /-- The settings, once they are known. -/
  settings : Option Settings := none
  /-- The lines that were printed. -/
  printed : List String := []
  /-- The records that were shown of the log. -/
  log : Log := []
  /-- The lines that were printed as errors, behind the log. -/
  complaints : List String := []
  /-- The file of the archive, if there came to be one. -/
  archive : Option File := none
  tree : FileTree
  objects : χ

variable {χ : Type}

/-- A conclusion that leaves everything as it was. -/
def Surroundings.unchanged (s : Surroundings χ) (ending : Except Breakdown Nat) : Conclusion χ :=
  { ending, tree := s.tree, objects := s.objects }

/-- The threshold that an environment sets for the log. -/
def threshold? (env : Environment) : Except Breakdown Nat :=
  let name := (env.value? "LOG_LEVEL").getD "INFO"
  match Log.thresholds.lookup name with
  | some threshold => .ok threshold
  | none => .error (.logLevel name)

/-- What is known when an export is asked for. -/
structure Preparation where
  settings : Settings
  threshold : Nat

/-- Read the settings. -/
def prepare (s : Surroundings χ) (r : Request) : Except Breakdown Preparation := do
  let file := s.readFile r.environmentFile
  let (settings, env) ← (Settings.load s.environment r.environmentFile file).mapError .settings
  return { settings, threshold := ← threshold? env }

/-- The output file that is asked for; the settings have a name for it if none is given. -/
def outputName (settings : Settings) (r : Request) : String :=
  match r.output with
  | some name => if name.isEmpty then settings.archive.filename else name
  | none => settings.archive.filename

/-! ## Exports -/

/-- A storage with photos, and what it leaves of the objects in the object store. -/
structure Depot (χ : Type) where
  Storage : Type
  source : BlobSource Storage
  storage : Storage
  objects : Storage → χ

/-- The storage at a location. -/
def Surroundings.depot (s : Surroundings χ) : Location → Depot χ
  | .directory root =>
    { Storage := Directory.State
      source := Directory.source root
      storage := { tree := s.tree }
      objects := fun _ => s.objects }
  | .bucket bucket =>
    { Storage := Bucket.State χ
      source := Bucket.source s.objectStore bucket
      storage := { store := s.objects }
      objects := Bucket.State.store }

/-- The workshop in which an export from a storage begins. -/
def Depot.workshop (depot : Depot χ) (setup : Setup) (company : String) :
    Workshop depot.Storage Zip.Writer :=
  { storage := depot.storage, pool := setup.pool, ledger := { company } }

/-- The disk on which output files are written. -/
def Surroundings.disk (s : Surroundings χ) : Disk :=
  { tree := s.tree, accepts := s.accepts, heldBack := s.heldBack }

/-- Dispatch the archive of a company from a storage. -/
def dispatch (s : Surroundings χ) (setup : Setup) (depot : Depot χ) (company output : String) :
    Except Failure Dispatch.Verdict × Dispatch depot.Storage Zip.Writer Disk :=
  (Dispatch.run (setup.exporter s.catalog depot.source) Disk.outputs s.teardown company output).run
    { workshop := depot.workshop setup company, outputs := s.disk }

/-- The conclusion of a dispatch. -/
def conclude (depot : Depot χ)
    (ending : Except Failure Dispatch.Verdict × Dispatch depot.Storage Zip.Writer Disk) :
    Conclusion χ where
  ending := (ending.1.map Dispatch.Verdict.code).mapError .failure
  printed := (ending.1.toOption.map Dispatch.Verdict.lines).getD []
  log := ending.2.workshop.log
  complaints := ending.2.complaints
  archive := ending.2.archive
  tree := ending.2.outputs.tree
  objects := depot.objects ending.2.workshop.storage

/-- Set up what the settings ask for, and export the photos of a company. -/
def exportPhotos (s : Surroundings χ) (settings : Settings) (company output : String) :
    Conclusion χ :=
  match Setup.ofSettings settings s.memory with
  | .error error => s.unchanged (.error (.setup error))
  | .ok setup =>
    let depot := s.depot setup.location
    conclude depot (dispatch s setup depot company output)

/-! ## The program -/

/-- Do what a request asks for. -/
def serve (s : Surroundings χ) (r : Request) : Conclusion χ :=
  match prepare s r with
  | .error breakdown => s.unchanged (.error breakdown)
  | .ok p =>
    let conclusion := exportPhotos s p.settings r.company (outputName p.settings r)
    { conclusion with settings := some p.settings, log := conclusion.log.above p.threshold }

/-- A run of the program. -/
def run (s : Surroundings χ) (arguments : List String) : Conclusion χ :=
  let width := textWidth s.environment
  match readArguments arguments with
  | .error e =>
    { s.unchanged (.ok 2) with
      complaints := usage width ++ [program ++ ": error: " ++ e.message] }
  | .ok .help => { s.unchanged (.ok 0) with printed := help width }
  | .ok (.export request) => serve s request

end PhotoArchive.CommandLine
