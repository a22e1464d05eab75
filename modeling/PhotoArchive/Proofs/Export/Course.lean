import PhotoArchive.Proofs.Export.Accounts

/-!
# The course of an export

An export is an assembly between two steps of its own: it finds the references to the photos, and
behind the assembly it says how it has ended. A failure that is fatal to the export is put into the
words of the export and logged; any other failure is passed on as it is.

## Main definitions

- `Exporter.completion`, `Exporter.surrender` — the records that an export logs itself
- `Exporter.verdict` — what becomes of a failure, and what is logged about it
- `Exporter.located` — the workshop in which an assembly begins

## Main statements

- `Exporter.run_exportPhotos_of_refusal` — an export whose products cannot be listed
- `Exporter.run_exportPhotos_of_result`, `Exporter.run_exportPhotos_of_failure` — an export ends as
  its assembly does, with what it has to say about that
-/

namespace PhotoArchive.Exporter

open PhotoArchive.Action

variable {σ τ : Type}

/-- The record about an export that has a result. -/
def completion (company : String) (result : ExportResult) : Log.Record where
  level := .info
  component := .exporter
  message := about company ++ "exported " ++ toString result.written ++ " photos, "
    ++ toString result.skips.length ++ " skipped, " ++ toString result.archive.size ++ " bytes"

/-- The record about an export that fails as a whole, for a reason at a stage. -/
def surrender (company : String) (stage : FatalStage) (reason : String) : Log.Record where
  level := .error
  component := .exporter
  message :=
    about company
      ++ (match stage with
          | .products => "product query failed: "
          | .session | .finalize => "export failed: ")
      ++ reason

/-- The stage at which a failure of the catalog makes the export fail as a whole. -/
def queryStage? : Failure → Option FatalStage
  | .productQuery _ => some .products
  | _ => none

/-- What an export makes of a failure, and what it logs about that: at a stage the failure is fatal,
and otherwise it is passed on. -/
def verdict (company : String) (e : Failure) : Option FatalStage → Failure × Log
  | some stage =>
    (.exportFailed company e.message (some stage), [surrender company stage e.message])
  | none => (e, [])

/-- The workshop in which the photos of some products have been located. -/
def located (e : Exporter σ τ) (company : String) (products : List Product) (w : Workshop σ τ) :
    Workshop σ τ :=
  { w with
    ledger := { company, records := Locator.skips (e.locator.slots products) }
    log := w.log ++ (Locator.skips (e.locator.slots products)).map (SkipLedger.warning { company })
    writer := none }

theorem located_recorded (e : Exporter σ τ) (company : String) (products : List Product)
    (w : Workshop σ τ) :
    e.recorded.located company products w.recording = (e.located company products w).recording := rfl

theorem run_failExport {α : Type} (company : String) (stage : FatalStage) (reason : String)
    (w : Workshop σ τ) :
    (failExport company stage reason : Action (Workshop σ τ) α).run w =
      (.error (.exportFailed company reason (some stage)),
        { w with log := w.log ++ [surrender company stage reason] }) := by
  cases stage <;> rfl

variable {e : Exporter σ τ} {company : String} {w w' : Workshop σ τ}

/-- Without products there is nothing to assemble. -/
theorem run_exportPhotos_of_refusal {refusal : Refusal}
    (h : e.catalog.listByCompany company = .error refusal) :
    (e.exportPhotos company).run w =
      (.error (verdict company refusal.failure (queryStage? refusal.failure)).1,
        { w with
          ledger := { company }
          writer := none
          log := w.log ++ refusal.records .products
            ++ (verdict company refusal.failure (queryStage? refusal.failure)).2 }) := by
  have hlocate (w : Workshop σ τ) : (e.locate company).run w =
      (.error (verdict company refusal.failure (queryStage? refusal.failure)).1,
        { w with
          log := w.log ++ refusal.records .products
            ++ (verdict company refusal.failure (queryStage? refusal.failure)).2 }) := by
    unfold locate
    rw [h]
    refine (run_bind_ok (run_modify _ _)).trans ?_
    cases refusal.failure <;> simp [queryStage?, verdict, run_failExport]
  exact (run_bind_ok (run_modify _ _)).trans (run_bind_error (hlocate _))

section Assembled

variable {products : List Product}

/-- Between the beginning of an export and its assembly the photos are located. -/
theorem run_exportPhotos_of_products (h : e.catalog.listByCompany company = .ok products) :
    (e.exportPhotos company).run w =
      (do
        let result ← e.assemble company (Locator.references (e.locator.slots products))
        note .info (completion company result).message
        return result : Action (Workshop σ τ) ExportResult).run (e.located company products w) := by
  have hlocate : (e.locate company).run { w with ledger := { company }, writer := none } =
      (.ok (Locator.references (e.locator.slots products)), e.located company products w) := by
    unfold locate
    rw [h]
    refine (run_bind_ok (run_modify _ _)).trans ?_
    simp [located, foldl_add]
  exact (run_bind_ok (run_modify _ _)).trans (run_bind_ok hlocate)

/-- Behind an assembly with a result an export ends with a record about it. -/
theorem run_exportPhotos_of_result (h : e.catalog.listByCompany company = .ok products)
    {result : ExportResult}
    (hrun : (Assembly.assemble e.source e.gateway
      (Locator.references (e.locator.slots products))).run (e.located company products w)
        = (.ok result, w')) :
    (e.exportPhotos company).run w =
      (.ok result, { w' with log := w'.log ++ [completion company result] }) := by
  have hattempt := run_attempt (Assembly.assemble e.source e.gateway
    (Locator.references (e.locator.slots products))) IsFatal (e.located company products w)
  rw [hrun] at hattempt
  rw [run_exportPhotos_of_products h]
  exact run_bind_ok (run_bind_ok hattempt)

/-- Behind an assembly that has failed an export says whether that is fatal. -/
theorem run_exportPhotos_of_failure (h : e.catalog.listByCompany company = .ok products)
    {failure : Failure}
    (hrun : (Assembly.assemble e.source e.gateway
      (Locator.references (e.locator.slots products))).run (e.located company products w)
        = (.error failure, w')) :
    (e.exportPhotos company).run w =
      (.error (verdict company failure (fatalStage? failure)).1,
        { w' with log := w'.log ++ (verdict company failure (fatalStage? failure)).2 }) := by
  have hattempt := run_attempt (Assembly.assemble e.source e.gateway
    (Locator.references (e.locator.slots products))) IsFatal (e.located company products w)
  rw [hrun] at hattempt
  rw [run_exportPhotos_of_products h]
  refine run_bind_error ?_
  cases hstage : fatalStage? failure with
  | none =>
    have hfatal : ¬ IsFatal failure := by simp [IsFatal, hstage]
    simp only [hfatal, if_false] at hattempt
    exact (run_bind_error hattempt).trans (by simp [verdict])
  | some stage =>
    have hfatal : IsFatal failure := by simp [IsFatal, hstage]
    simp only [hfatal, if_true] at hattempt
    refine (run_bind_ok hattempt).trans ?_
    simp [hstage, verdict, run_failExport]

end Assembled

end PhotoArchive.Exporter
