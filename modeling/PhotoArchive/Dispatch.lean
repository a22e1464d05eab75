import PhotoArchive.Exporter
import PhotoArchive.Output
import PhotoArchive.Text.Blank

/-!
# Dispatching an archive

An export whose archive is written to an output file and reported on. An export that fails as a whole
leaves the output file alone and ends with a refusal.

## Main definitions

- `Dispatch` — what a dispatch works with and leaves behind
- `Teardown` — how it ends when what was set up for it is given up again
- `Dispatch.writeOut`, `Dispatch.handOut` — write the archive to an output file
- `Dispatch.request` — the export of the photos
- `Dispatch.Verdict` — how a dispatch ends
- `Dispatch.run` — the whole of it

## Design notes

Once the request has been given up, the file of the archive is closed however the dispatch ends: when
the output file cannot be opened, when a write fails, and when all is well. A request that cannot be
given up leaves it as it is.
-/

namespace PhotoArchive

/-- What a dispatch works with and leaves behind. -/
structure Dispatch (σ τ ω : Type) where
  workshop : Workshop σ τ
  outputs : ω
  /-- The file of the archive, once there is one. -/
  archive : Option File := none
  /-- The lines that were printed as errors. -/
  complaints : List String := []

/-- How it ends when what was set up for an export is given up again. -/
structure Teardown where
  /-- What belongs to the request, with its connection to the database. -/
  request : Except Failure Unit := .ok ()
  /-- What belongs to the program as a whole. -/
  program : Except Failure Unit := .ok ()

namespace Dispatch

variable {σ τ ω : Type} {α : Type}

/-- Take an action in the workshop. -/
def inWorkshop (a : Action (Workshop σ τ) α) : Action (Dispatch σ τ ω) α :=
  a.within (·.workshop) fun workshop d => { d with workshop }

/-! ## The output file -/

/-- The length of the pieces in which an archive is written. -/
def pieceLength : Nat := 65536

/-- Take an action on the output files, beside the file of an archive. -/
def onOutputs (a : Action ω α) : Action (File × ω) α :=
  a.within Prod.snd fun outputs s => (s.1, outputs)

/-- Write an archive to the output file with a name, and close the output file. -/
def writeOut (outputs : Outputs ω) (name : String) : Action (File × ω) Unit := do
  let file ← onOutputs (outputs.create name)
  Action.ensuring (File.deliver pieceLength (outputs.receiver file)) (onOutputs (outputs.close file))

/-- Write an archive to the output file with a name, and close the file of the archive. -/
def handOut (outputs : Outputs ω) (name : String) : Action (File × ω) Unit :=
  (writeOut outputs name).ensuring (.modify fun s => (s.1.close, s.2))

/-! ## The report -/

/-- A line about a photo that is not in the archive. -/
def skipLine (s : SkipRecord) : String :=
  Text.trimRight ("  " ++ s.entryName ++ ": " ++ s.reason.text ++ " " ++ s.detail)

/-- What is reported about an export: how many photos were copied and skipped, and a line for each
of the latter. -/
def report (output : String) (result : ExportResult) : List String :=
  (output ++ ": " ++ toString result.written ++ " photos, " ++ toString result.skips.length
    ++ " skipped") :: result.skips.map skipLine

/-- How a dispatch ends. -/
inductive Verdict where
  /-- The export failed as a whole. -/
  | refused
  /-- The archive was written, with a report. -/
  | dispatched (report : List String)
  deriving DecidableEq, Repr

/-- The exit code of a program that ends with a dispatch. -/
def Verdict.code : Verdict → Nat
  | refused => 1
  | dispatched _ => 0

/-- The lines that such a program prints. -/
def Verdict.lines : Verdict → List String
  | refused => []
  | dispatched report => report

/-! ## The whole dispatch -/

/-- Export the photos of a company, and give the request up. An export that fails as a whole is
complained of and gives nothing. -/
def request (exporter : Exporter σ τ) (teardown : Teardown) (company : String) :
    Action (Dispatch σ τ ω) (Option ExportResult) :=
  Action.ensuring
    (do
      match ← (inWorkshop (exporter.exportPhotos company)).attempt Failure.IsExportError with
      | .error failure =>
        .modify fun d => { d with complaints := d.complaints ++ [failure.message] }
        return none
      | .ok result =>
        .modify fun d => { d with archive := some result.archive.file }
        return some result)
    (.ofExcept teardown.request)

/-- Export the photos of a company and write the archive to the output file with a name. -/
def run (exporter : Exporter σ τ) (outputs : Outputs ω) (teardown : Teardown)
    (company output : String) : Action (Dispatch σ τ ω) Verdict :=
  Action.ensuring
    (do
      match ← request exporter teardown company with
      | none => return .refused
      | some result =>
        (handOut outputs output).within (fun d => (result.archive.file, d.outputs))
          fun s d => { d with archive := some s.1, outputs := s.2 }
        return .dispatched (report output result))
    (.ofExcept teardown.program)

end Dispatch

end PhotoArchive
