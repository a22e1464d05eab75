import Mathlib.Algebra.Group.Int.Defs
import Mathlib.Algebra.GroupWithZero.Nat
import PhotoArchive.Proofs.Assembly.Release
import PhotoArchive.Storage.Scripted
import PhotoArchive.Zip.Gateway

/-!
# Every photo is accounted for

Each place in the photo lists of a company's products ends in one of two ways: its photo is in the
archive and counted, or there is one record about it among the skips.

## Main definitions

- `fates` — what became of each slot

## Main statements

- `fates_perm`, `count_fates` — the skips and the count agree with what became of the slots
- `Exporter.exportPhotos_accounts` — so do those of every export that gives a result

## Design notes

A result tells the skips in the order in which they are found: first those that the locator finds in
the lists, then those of the assembly. What became of the slots is told in the order of the slots.
-/

namespace PhotoArchive

open PhotoArchive.Action

variable {σ τ : Type}

/-! ## Slots -/

open Assembly

/-- What became of each slot, given the visits of the references among them: the record that was
entered about it, or none. -/
def fates : List (Except SkipRecord PhotoReference) → List Visit → List (Option SkipRecord)
  | [], _ => []
  | .error record :: slots, visits => some record :: fates slots visits
  | .ok _ :: slots, v :: visits => v.skip? :: fates slots visits
  | .ok _ :: slots, [] => none :: fates slots []

theorem length_fates (slots : List (Except SkipRecord PhotoReference)) (visits : List Visit) :
    (fates slots visits).length = slots.length := by
  fun_induction fates slots visits <;> simp_all

/-- Records about slots are those of the locator and those of the visits. -/
theorem fates_perm {slots : List (Except SkipRecord PhotoReference)} {visits : List Visit}
    (h : visits.map Visit.reference = Locator.references slots) :
    (Locator.skips slots ++ visits.filterMap Visit.skip?).Perm
      ((fates slots visits).filterMap id) := by
  induction slots generalizing visits with
  | nil =>
    obtain rfl : visits = [] := List.map_eq_nil_iff.1 h
    exact .nil
  | cons slot rest ih =>
    cases slot with
    | error record => exact (ih h).cons record
    | ok reference =>
      obtain ⟨v, visits, rfl, -, hrest⟩ := List.map_eq_cons_iff.1 h
      cases hskip : v.skip? with
      | none => simpa [fates, hskip, Locator.skips] using ih hrest
      | some record =>
        -- The record of the visit comes behind those of the locator.
        rw [fates, hskip, List.filterMap_cons_some hskip]
        exact List.perm_middle.trans ((ih hrest).cons record)

/-- Without a record are the slots whose visits have none. -/
theorem count_fates {slots : List (Except SkipRecord PhotoReference)} {visits : List Visit}
    (h : visits.map Visit.reference = Locator.references slots) :
    (fates slots visits).count none = (visits.map Visit.skip?).count none := by
  induction slots generalizing visits with
  | nil =>
    obtain rfl : visits = [] := List.map_eq_nil_iff.1 h
    rfl
  | cons slot rest ih =>
    cases slot with
    | error record => simpa [fates] using ih h
    | ok reference =>
      -- The slot takes the first visit, the rest of the slots the rest of the visits.
      obtain ⟨v, visits, rfl, -, hrest⟩ := List.map_eq_cons_iff.1 h
      rw [fates, List.map_cons, List.count_cons, List.count_cons, ih hrest]

theorem length_slots (locator : Locator) (products : List Product) :
    (locator.slots products).length = (products.map fun p => p.photoNames.length).sum := by
  simp [Locator.slots, List.length_flatMap, Locator.productSlots]

/-! ## Exports -/

theorem foldl_add (records : List SkipRecord) (ledger : SkipLedger) :
    records.foldl SkipLedger.add ledger
      = { ledger with records := ledger.records ++ records } := by
  induction records generalizing ledger with
  | nil => simp
  | cons record rest ih => simp [ih, SkipLedger.add]

namespace Exporter

/-- References are only found if the catalog lists the products of the company. -/
theorem of_run_locate {e : Exporter σ τ} {company : String} {w w' : Workshop σ τ}
    {references : List PhotoReference} (h : (e.locate company).run w = (.ok references, w')) :
    ∃ products, e.catalog.listByCompany company = .ok products ∧
      references = Locator.references (e.locator.slots products) ∧
      w' = { w with
        ledger := { w.ledger with
          records := w.ledger.records ++ Locator.skips (e.locator.slots products) }
        log := w.log ++ (Locator.skips (e.locator.slots products)).map w.ledger.warning } := by
  unfold locate at h
  cases hlist : e.catalog.listByCompany company with
  | error refusal =>
    rw [hlist] at h
    obtain ⟨_, w₁, -, hfail⟩ := of_run_bind_ok h
    split at hfail
    · obtain ⟨_, _, -, hend⟩ := of_run_bind_ok hfail
      cases hend
    · cases hfail
  | ok products =>
    rw [hlist] at h
    obtain ⟨_, w₁, henter, hend⟩ := of_run_bind_ok h
    cases henter
    cases hend
    exact ⟨products, rfl, rfl, by simp only [foldl_add]⟩

theorem of_run_assemble {e : Exporter σ τ} {company : String} {w w' : Workshop σ τ}
    {references : List PhotoReference} {result : ExportResult}
    (h : (e.assemble company references).run w = (.ok result, w')) :
    (Assembly.assemble e.source e.gateway references).run w = (.ok result, w') := by
  obtain ⟨outcome, w₁, hattempt, hend⟩ := of_run_bind_ok h
  cases outcome with
  | ok result' =>
    cases hend
    rw [run_attempt] at hattempt
    split at hattempt
    · next hrun =>
      cases hattempt
      exact hrun
    · next failure _ _ =>
      split at hattempt <;> cases hattempt
  | error failure =>
    obtain ⟨_, _, -, hfail⟩ := of_run_bind_ok hend
    cases hfail

/-- Every place in the lists of the products has one outcome: its photo is counted, or there is one
record about it, those of the locator before those of the assembly. -/
theorem exportPhotos_accounts {e : Exporter σ τ} {company : String} {w w' : Workshop σ τ}
    {result : ExportResult} (h : (e.exportPhotos company).run w = (.ok result, w')) :
    ∃ (products : List Product) (s : Session)
      (w'' : Workshop (Recorded σ StorageCall) (Recorded τ WriterCall)),
      e.catalog.listByCompany company = .ok products ∧
      (e.recorded.exportPhotos company).run w.recording = (.ok result, w'') ∧
      w''.forget = w' ∧ s.IsKept w'' ∧
      s.visits.map Visit.reference = Locator.references (e.locator.slots products) ∧
      result.skips
        = Locator.skips (e.locator.slots products) ++ s.visits.filterMap Visit.skip? ∧
      result.skips.Perm ((fates (e.locator.slots products) s.visits).filterMap id) ∧
      result.written = (fates (e.locator.slots products) s.visits).count none ∧
      (fates (e.locator.slots products) s.visits).length
        = (products.map fun p => p.photoNames.length).sum ∧
      result.written + result.skips.length
        = (products.map fun p => p.photoNames.length).sum := by
  have hfollows := exportPhotos_follows e company w.recording
  rw [Workshop.forget_recording, h] at hfollows
  rcases hrun : (e.recorded.exportPhotos company).run w.recording with ⟨outcome, w''⟩
  rw [hrun, Prod.mk.injEq] at hfollows
  obtain ⟨rfl, hforget⟩ := hfollows
  -- The export is an assembly between two notes.
  obtain ⟨_, w₁, hstart, h₁⟩ := of_run_bind_ok hrun
  obtain ⟨references, w₂, hlocate, h₂⟩ := of_run_bind_ok h₁
  obtain ⟨result', w₃, hassemble, h₃⟩ := of_run_bind_ok h₂
  obtain ⟨_, w₄, hnote, hend⟩ := of_run_bind_ok h₃
  cases hstart
  cases hnote
  cases hend
  obtain ⟨products, hlist, rfl, rfl⟩ := of_run_locate hlocate
  obtain ⟨_, _, hsame, -, hcase⟩ := assemble_recorded e.source e.gateway
    (Locator.references (e.locator.slots products))
    { w with
      ledger := { company, records := Locator.skips (e.locator.slots products) }
      log := w.log ++ (Locator.skips (e.locator.slots products)).map
        (SkipLedger.warning { company })
      writer := none }
  cases hsame.symm.trans (of_run_assemble hassemble)
  rcases hcase with ⟨_, _, -, -, -, -, hrefused⟩ |
    ⟨_, _, _, closing, -, -, -, -, -, -, -, hfailed⟩ |
    ⟨s, storage, _, -, -, -, htour, hfollows, hkept, hmarks, hresult⟩
  · cases hrefused
  · cases closing <;> cases hfailed
  -- With a result all references were visited, so each slot with a reference has its visit.
  obtain ⟨hvisits, -, -, hwritten, hskips⟩ := Session.of_result hresult.symm hfollows
  have hvisited := htour.complete hvisits
  have hrecords := hmarks.records
  rw [skips_footprint] at hrecords
  have hskips := hskips.trans hrecords
  rw [written_footprint hvisits, ← count_fates hvisited] at hwritten
  have hperm := fates_perm hvisited
  have hlength := (length_fates (e.locator.slots products) s.visits).trans
    (length_slots e.locator products)
  refine ⟨products, s, _, hlist, rfl, hforget.symm, ⟨hkept.storage, hkept.writer⟩, hvisited, hskips,
    hskips ▸ hperm, hwritten, hlength, ?_⟩
  rw [hwritten, hskips, hperm.length_eq, ← hlength]
  exact count_none_add (fates (e.locator.slots products) s.visits)

/-- An exporter for two products, one with a photo that can be read, an empty name, an unsafe name
and a photo that is missing, and one without a list of photos. -/
def sample : Exporter Scripted.Storage Zip.Writer where
  catalog :=
    { listByCompany := fun company =>
        .ok [{ id := "p", company, photos := some [some "a.jpg", none, some "..", some "b.jpg"] },
          { id := "q", company, photos := none }] }
  locator := { collection := ⟨"photos/", by decide⟩ }
  source := Scripted.source
  gateway := Zip.gateway {} .stored Zip.standardLimit

/-- A workshop in which one of these photos is stored. -/
def sampleWorkshop : Workshop Scripted.Storage Zip.Writer where
  storage :=
    { script :=
        { blobs := [("photos/p/a.jpg", { delivery := { rest := [1, 2, 3] }, size := some 3 })] } }
  pool := { bufferSize := 8, bufferSize_pos := by decide, maxRetained := 1 }
  ledger := { company := "c" }

theorem exportPhotos_accounts_sample :
    ∃ (result : ExportResult) (w' : Workshop Scripted.Storage Zip.Writer),
      (sample.exportPhotos "c").run sampleWorkshop = (.ok result, w') ∧
      result.written = 1 ∧ result.written + result.skips.length = 4 := by
  have hwritten : ((sample.exportPhotos "c").run sampleWorkshop).1.toOption.map
      ExportResult.written = some 1 := by
    decide +kernel
  rcases hrun : (sample.exportPhotos "c").run sampleWorkshop with ⟨failure | result, w'⟩
  · rw [hrun] at hwritten
    cases hwritten
  · rw [hrun] at hwritten
    obtain ⟨products, _, _, hproducts, -, -, -, -, -, -, -, -, htotal⟩ := exportPhotos_accounts hrun
    cases hproducts
    exact ⟨result, w', rfl, Option.some.inj hwritten, htotal⟩

end Exporter

end PhotoArchive
