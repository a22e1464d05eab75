import PhotoArchive.Assembly
import PhotoArchive.Locator

/-!
# Exporting the photos of a company

An export asks the catalog for the products of a company, locates their photos and assembles them
into an archive. An export that fails as a whole says so with the reason and the name of the company.

## Main definitions

- `Exporter` — what all exports have in common
- `Exporter.exportPhotos` — the export of one company
-/

namespace PhotoArchive

/-- What the exports of all companies have in common: where products, photos and archives come from
and go to. -/
structure Exporter (σ τ : Type) where
  catalog : Catalog
  locator : Locator
  source : BlobSource σ
  gateway : ArchiveGateway τ

namespace Exporter

variable {σ τ : Type}

/-- Log a record. -/
def note (level : Log.Level) (message : String) : Action (Workshop σ τ) Unit :=
  .modify fun w => { w with log := w.log ++ [{ level, component := .exporter, message }] }

/-- The beginning of a record about a company. -/
def about (company : String) : String := "company=" ++ company ++ " "

/-- Enter the places without a usable photo name into the ledger. -/
def enterSkips (records : List SkipRecord) : Action (Workshop σ τ) Unit :=
  .modify fun w =>
    { w with
      ledger := records.foldl SkipLedger.add w.ledger
      log := w.log ++ records.map w.ledger.warning }

/-- Fail as a whole, for a reason at a stage. -/
def failExport (company : String) (stage : FatalStage) (reason : String) :
    Action (Workshop σ τ) α := do
  let what := match stage with
    | .products => "product query failed: "
    | .session | .finalize => "export failed: "
  note .error (about company ++ what ++ reason)
  .fail (.exportFailed company reason (some stage))

/-- The references to the photos of a company. -/
def locate (e : Exporter σ τ) (company : String) : Action (Workshop σ τ) (List PhotoReference) :=
  match e.catalog.listByCompany company with
  | .ok products => do
    let slots := e.locator.slots products
    enterSkips (Locator.skips slots)
    return Locator.references slots
  | .error refusal => do
    .modify fun w => { w with log := w.log ++ refusal.records .products }
    match refusal.failure with
    | .productQuery _ => failExport company .products refusal.failure.message
    | failure => .fail failure

/-- The stage at which a failure of the assembly makes the export fail as a whole. -/
def fatalStage? : Failure → Option FatalStage
  | .storageSession _ => some .session
  | .archiveFinalize _ => some .finalize
  | _ => none

/-- Failures of the assembly that make the export fail as a whole. -/
def IsFatal (e : Failure) : Prop := (fatalStage? e).isSome

instance : DecidablePred IsFatal := fun _ => by
  unfold IsFatal
  infer_instance

/-- Assemble the archive of a company. -/
def assemble (e : Exporter σ τ) (company : String) (references : List PhotoReference) :
    Action (Workshop σ τ) ExportResult := do
  match ← (Assembly.assemble e.source e.gateway references).attempt IsFatal with
  | .ok result => return result
  | .error failure => failExport company ((fatalStage? failure).getD .finalize) failure.message

/-- Export the photos of a company. -/
def exportPhotos (e : Exporter σ τ) (company : String) : Action (Workshop σ τ) ExportResult := do
  .modify fun w => { w with ledger := { company }, writer := none }
  let references ← e.locate company
  let result ← e.assemble company references
  note .info (about company ++ "exported " ++ toString result.written ++ " photos, "
    ++ toString result.skips.length ++ " skipped, " ++ toString result.archive.size ++ " bytes")
  return result

end Exporter

end PhotoArchive
