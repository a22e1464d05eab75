import PhotoArchive.Proofs.Assembly.Contents
import PhotoArchive.Proofs.Assembly.Draining
import PhotoArchive.Proofs.Export.Accounts
import PhotoArchive.Proofs.Export.Agreement
import PhotoArchive.Proofs.Storage.Phases

/-!
# Exports behind other exports

The exports of one service share a storage and a pool of buffers. What an export leaves behind there
does not show in the ones behind it, whether it was successful, failed or was cancelled: sessions are
closed, and buffers, whatever is in them, have the right length.

## Main definitions

- `Workshop.IsSettled` — no session is open, and buffers can be taken
- `Exporter.afterExports` — what a row of exports leaves behind
- `Assembly.SameOutcome`, `Assembly.Indistinct` — outcomes and archives that cannot be told apart

## Main statements

- `Exporter.isSettled_afterExports` — behind any exports a workshop is settled
- `Assembly.assemble_history` — buffers, pieces and earlier exports do not show in the outcome
- `Assembly.not_forall_sameOutcome` — that no buffer of a size can be made does show

## Design notes

A pool is ready if its free buffers have its size; what is in them, and how many there are, is open.
The earlier exports may have had other catalogs and other archives.
-/

namespace PhotoArchive

open PhotoArchive.Action

variable {σ σ₁ σ₂ τ : Type}

/-! ## What exports leave behind -/

/-- No session is open, and buffers can be taken. -/
structure Workshop.IsSettled (P : BlobSource.Phases σ) (w : Workshop σ τ) : Prop where
  storage : P.Closed w.storage
  pool : w.pool.IsReady

namespace Exporter

variable {P : BlobSource.Phases σ} {w : Workshop σ τ}

/-- However an export ends, it leaves a settled workshop settled. -/
theorem isSettled_exportPhotos {e : Exporter σ τ} (h : P.KeptBy e.source) (company : String)
    (hw : w.IsSettled P) : ((e.exportPhotos company).run w).2.IsSettled P := by
  have hstart : Workshop.Linked h.agreement.Closed BufferPool.ready.Shared .same (fun _ _ => True)
      w w :=
    { storage := ⟨rfl, hw.storage⟩, pool := ⟨rfl, hw.pool⟩, accounts := ⟨rfl, rfl⟩
      writer := trivial }
  have hkeys : ∀ products, e.catalog.listByCompany company = .ok products →
      ∀ reference ∈ Locator.references (e.locator.slots products),
        reference.blobKey.value ∈ Set.univ := fun _ _ _ _ => trivial
  have hends := exportPhotos_lockstep e e h.agreement (.refl e.gateway) BufferPool.ready rfl rfl
    hkeys w w hstart
  have hlinked := hends.fst_eq.2
  exact ⟨hlinked.storage.2, hlinked.pool.2⟩

/-- What is left behind when some exports were done for some companies, one after the other. -/
def afterExports : List (Exporter σ τ × String) → Workshop σ τ → Workshop σ τ
  | [], w => w
  | (e, company) :: rest, w => afterExports rest ((e.exportPhotos company).run w).2

theorem isSettled_afterExports {exports : List (Exporter σ τ × String)}
    (h : ∀ past ∈ exports, P.KeptBy past.1.source) (hw : w.IsSettled P) :
    (afterExports exports w).IsSettled P := by
  induction exports generalizing w with
  | nil => exact hw
  | cons first rest ih =>
    refine ih (fun other hother => h other (List.mem_cons_of_mem _ hother)) ?_
    exact isSettled_exportPhotos (h first List.mem_cons_self) first.2 hw

end Exporter

/-! ## Outcomes that cannot be told apart -/

/-- The same ledger, whatever has been logged. -/
def Accounts.sameLedger : Accounts where
  Fit ledger₁ _ ledger₂ _ := ledger₁ = ledger₂
  skip record h := congrArg (·.add record) h
  note _ h := h

namespace Assembly

open Zip (Writer)

/-- The same failure, or results with the same numbers, the same skips and the same bytes. -/
inductive SameOutcome : Except Failure ExportResult → Except Failure ExportResult → Prop
  | failure (e : Failure) : SameOutcome (.error e) (.error e)
  | result {result₁ result₂ : ExportResult} (hcompany : result₁.company = result₂.company)
    (hwritten : result₁.written = result₂.written) (hskips : result₁.skips = result₂.skips)
    (hsize : result₁.archive.size = result₂.archive.size)
    (hcontent : result₁.archive.file.content = result₂.archive.file.content)
    (hread : (File.readAll.run result₁.archive.file).1 = (File.readAll.run result₂.archive.file).1) :
    SameOutcome (.ok result₁) (.ok result₂)

theorem SameOutcome.isOk_eq {outcome₁ outcome₂ : Except Failure ExportResult}
    (h : SameOutcome outcome₁ outcome₂) : outcome₁.isOk = outcome₂.isOk := by
  cases h <;> rfl

/-- Archives that cannot be told apart, whether their bytes are looked at or read. -/
structure Indistinct (a b : ArchiveFile) : Prop where
  size : a.size = b.size
  content : a.file.content = b.file.content
  read : (File.readAll.run a.file).1 = (File.readAll.run b.file).1

theorem indistinct_of_eq {a b : ArchiveFile} (h : a = b) : Indistinct a b := by
  subst h
  exact ⟨rfl, rfl, rfl⟩

/-- Archives to which the same was written cannot be told apart. -/
theorem indistinct_of_twins {a b : ArchiveFile} (h : a.file.Twins b.file ∧ a.size = b.size) :
    Indistinct a b :=
  ⟨h.2, h.1.content_eq, (File.readAll_twins _ _ h.1).fst_eq.1⟩

/-- Assemblies have the same outcome if they end alike with the same ledger, and with archives that
cannot be told apart. -/
theorem SameOutcome.of_alike {storages : σ₁ → σ₂ → Prop} {pools : BufferPool → BufferPool → Prop}
    {writers : Option Writer → Option Writer → Prop} {archives : ArchiveFile → ArchiveFile → Prop}
    {err : Workshop σ₁ Writer → Workshop σ₂ Writer → Prop}
    {x : Except Failure ExportResult × Workshop σ₁ Writer}
    {y : Except Failure ExportResult × Workshop σ₂ Writer}
    (h : Alike
      (fun result₁ result₂ w₁ w₂ =>
        ExportResult.Linked archives w₁.ledger w₂.ledger result₁ result₂ ∧
        Workshop.Linked storages pools .sameLedger writers w₁ w₂) err x y)
    (harchives : ∀ {a b}, archives a b → Indistinct a b) : SameOutcome x.1 y.1 := by
  obtain ⟨result₁, result₂, w₁, w₂, rfl, rfl, hresult, hend⟩ | ⟨e, w₁, w₂, rfl, rfl, -⟩ := h.cases
  · have hledger : w₁.ledger = w₂.ledger := hend.accounts
    have hsame := harchives hresult.archive
    refine .result ?_ hresult.written ?_ hsame.size hsame.content hsame.read
    · rw [hresult.company₁, hresult.company₂, hledger]
    · rw [hresult.skips₁, hresult.skips₂, hledger]
  · exact .failure e

variable {source₁ : BlobSource σ₁} {source₂ : BlobSource σ₂}
  {openBlob : Path → Except Failure (Stock.Blob Remains)} {closing : Except Failure Unit}
  {opening : Except Refusal Unit} {S₁ : source₁.Serves (.ofRemains openBlob closing)}
  {S₂ : source₂.Serves (.ofRemains openBlob closing)} {w₁ : Workshop σ₁ Writer}
  {w₂ : Workshop σ₂ Writer}

/-- From settled workshops, with sources that have the same stock and the same ledger, assemblies of
stored archives end alike. -/
theorem assemble_settled (hopens₁ : S₁.Opens opening) (hopens₂ : S₂.Opens opening)
    (hcomponent : source₁.component = source₂.component) {file : File} (haccepts : file.AcceptsAll)
    (limit : Int) (references : List PhotoReference) (hw₁ : w₁.IsSettled S₁.phases)
    (hw₂ : w₂.IsSettled S₂.phases) (hledger : w₁.ledger = w₂.ledger) :
    SameOutcome
      ((assemble source₁ (Zip.gateway file .stored limit) references).run w₁).1
      ((assemble source₂ (Zip.gateway file .stored limit) references).run w₂).1 := by
  have hagree := Stock.AgreesOn.refl (.ofRemains openBlob closing) Set.univ
  have hstart : Workshop.Linked (S₁.correspondenceOn S₂ hagree).Closed LendAlike .sameLedger
      (fun _ _ => True) w₁ w₂ :=
    { storage := ⟨hw₁.storage, hw₂.storage⟩, pool := .inl ⟨hw₁.pool, hw₂.pool⟩
      accounts := hledger, writer := trivial }
  have hkeys : ∀ reference ∈ references, reference.blobKey.value ∈ Set.univ := fun _ _ => trivial
  have hends := assemble_linked (anyPieces file limit S₁ S₂ hagree haccepts) hcomponent
    (fun _ _ h => BlobSource.Serves.newSession_alike hopens₁ hopens₂ h.1 h.2) hkeys w₁ w₂ hstart
  exact .of_alike hends indistinct_of_twins

/-- Neither buffers nor pieces nor earlier exports show in the outcome of an assembly: behind any
exports, sources with the same stock give the same outcome, through pools of any size. -/
theorem assemble_history (hopens₁ : S₁.Opens opening) (hopens₂ : S₂.Opens opening)
    (hcomponent : source₁.component = source₂.component) {file : File} (haccepts : file.AcceptsAll)
    (limit : Int) (references : List PhotoReference) (ledger : SkipLedger)
    {exports₁ : List (Exporter σ₁ Writer × String)} {exports₂ : List (Exporter σ₂ Writer × String)}
    (hexports₁ : ∀ past ∈ exports₁, S₁.phases.KeptBy past.1.source)
    (hexports₂ : ∀ past ∈ exports₂, S₂.phases.KeptBy past.1.source)
    (hw₁ : w₁.IsSettled S₁.phases) (hw₂ : w₂.IsSettled S₂.phases) :
    SameOutcome
      ((assemble source₁ (Zip.gateway file .stored limit) references).run
        { Exporter.afterExports exports₁ w₁ with ledger }).1
      ((assemble source₂ (Zip.gateway file .stored limit) references).run
        { Exporter.afterExports exports₂ w₂ with ledger }).1 := by
  have hsettled₁ := Exporter.isSettled_afterExports hexports₁ hw₁
  have hsettled₂ := Exporter.isSettled_afterExports hexports₂ hw₂
  exact assemble_settled hopens₁ hopens₂ hcomponent haccepts limit references
    ⟨hsettled₁.storage, hsettled₁.pool⟩ ⟨hsettled₂.storage, hsettled₂.pool⟩ rfl

/-- The blobs of the sample byte by byte, through a buffer that has been used before. -/
def slowWorkshop : Workshop Scripted.Storage Writer :=
  { sampleWorkshop with
    storage := { script := sampleWorkshop.storage.script.inPieces fun _ => some 1 }
    pool :=
      { bufferSize := 5, bufferSize_pos := by decide, maxRetained := 2, free := [0]
        buffers := [{ written := [9, 9, 9, 9, 9] }] } }

/-- The blobs of the sample in pieces as large as a new buffer. -/
def quickWorkshop : Workshop Scripted.Storage Writer :=
  { sampleWorkshop with
    storage := { script := sampleWorkshop.storage.script.inPieces fun _ => none }
    pool := { bufferSize := 7, bufferSize_pos := by decide, maxRetained := 0 } }

/-- An export that is cancelled as soon as a blob is open. -/
def cancelledExporter : Exporter Scripted.Storage Writer :=
  { Exporter.sample with
    source := Scripted.source.interrupted fun s => if s.readers.isEmpty then none else some "stop" }

theorem assemble_history_sample :
    ((cancelledExporter.exportPhotos "c").run slowWorkshop).1.isOk = false ∧
    ((assemble Scripted.source (Zip.gateway {} .stored Zip.standardLimit) sampleReferences).run
      { Exporter.afterExports [(cancelledExporter, "c")] slowWorkshop with
        ledger := { company := "c" } }).1.isOk = true ∧
    SameOutcome
      ((assemble Scripted.source (Zip.gateway {} .stored Zip.standardLimit) sampleReferences).run
        { Exporter.afterExports [(cancelledExporter, "c")] slowWorkshop with
          ledger := { company := "c" } }).1
      ((assemble Scripted.source (Zip.gateway {} .stored Zip.standardLimit) sampleReferences).run
        { Exporter.afterExports [(Exporter.sample, "c"), (Exporter.sample, "d")] quickWorkshop with
          ledger := { company := "c" } }).1 := by
  refine ⟨by decide +kernel, by decide +kernel, ?_⟩
  have hslow : ∀ key : String, (fun _ => some 1 : String → Option Nat) key ≠ some 0 := by simp
  have hquick : ∀ key : String, (fun _ => none : String → Option Nat) key ≠ some 0 := by simp
  have hopens₁ := Scripted.servesInPieces_opens sampleWorkshop.storage.script hslow
  have hopens₂ := Scripted.servesInPieces_opens sampleWorkshop.storage.script hquick
  -- There is room for buffers of five and of seven bytes in the largest memory.
  have hroom₁ := BufferPool.roomFault?_eq_none_iff.2
    (show slowWorkshop.pool.memory.hasRoom slowWorkshop.pool.bufferSize = true by decide)
  have hroom₂ := BufferPool.roomFault?_eq_none_iff.2
    (show quickWorkshop.pool.memory.hasRoom quickWorkshop.pool.bufferSize = true by decide)
  refine assemble_history hopens₁ hopens₂ rfl (fun _ _ _ => rfl) Zip.standardLimit sampleReferences
    { company := "c" } ?_ ?_ ⟨rfl, by decide, hroom₁⟩ ⟨rfl, by decide, hroom₂⟩
  · rintro past (_ | ⟨_, ⟨⟩⟩)
    exact hopens₁.keptBy.interrupted _
  · rintro past (_ | ⟨_, _ | ⟨_, ⟨⟩⟩⟩)
    · exact hopens₂.keptBy
    · exact hopens₂.keptBy

/-- A buffer whose length is no machine word cannot be made, so the size of the pool shows. -/
theorem not_forall_sameOutcome :
    ¬ ∀ pool₁ pool₂ : BufferPool, pool₁.free = [] → pool₂.free = [] →
      SameOutcome
        ((assemble Scripted.source (Zip.gateway {} .stored Zip.standardLimit) sampleReferences).run
          { sampleWorkshop with pool := pool₁ }).1
        ((assemble Scripted.source (Zip.gateway {} .stored Zip.standardLimit) sampleReferences).run
          { sampleWorkshop with pool := pool₂ }).1 := by
  intro h
  have hsame := (h { bufferSize := 4, bufferSize_pos := by decide, maxRetained := 1 }
    { bufferSize := 2 ^ 63, bufferSize_pos := by decide, maxRetained := 1 } rfl rfl).isOk_eq
  revert hsame
  decide +kernel

end Assembly

end PhotoArchive
