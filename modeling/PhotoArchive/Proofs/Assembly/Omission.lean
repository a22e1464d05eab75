import PhotoArchive.Proofs.Assembly.Agreement
import PhotoArchive.Proofs.Assembly.Contents
import PhotoArchive.Proofs.Endings
import PhotoArchive.Proofs.Storage.Stock

/-!
# Photos that cannot be opened

A photo that cannot be opened leaves a record in the ledger and no other trace. Its name is not taken,
nothing is written to the archive, and the photos behind it are added as if it had not been there.

## Main definitions

- `Accounts.shifted` — one record has been entered on one side only
- `SameBut` — outcomes that are the same but for one record

## Main statements

- `run_assembleIn_append`, `run_assembleIn_missed` — references that have been dealt with
- `assemble_omission` — a reference whose blob cannot be opened may as well be left out

## Design notes

Up to the reference both assemblies are the same run. Behind it their storages may differ, in what was
asked of them, so the rest is two runs from storages that serve the same stock.
-/

namespace PhotoArchive

open PhotoArchive.Action

/-- On the left side a record has been entered that is missing on the right side. -/
def Accounts.shifted (before : List SkipRecord) (record : SkipRecord) : Accounts where
  Fit ledger₁ _ ledger₂ _ := ledger₁.company = ledger₂.company ∧
    ∃ after, ledger₁.records = before ++ record :: after ∧ ledger₂.records = before ++ after
  skip := by
    rintro ledger₁ _ ledger₂ _ new ⟨hcompany, after, hleft, hright⟩
    exact ⟨hcompany, after ++ [new], by simp [hleft], by simp [hright]⟩
  note _ h := h

namespace Assembly

variable {σ τ ρ : Type} {source : BlobSource σ} {gateway : ArchiveGateway τ} {session : SessionId}
  {b b' : Bench σ τ}

/-! ## References that have been dealt with -/

theorem addEntries_append (xs ys : List PhotoReference) :
    addEntries source gateway session (xs ++ ys)
      = (addEntries source gateway session xs >>= fun _ => addEntries source gateway session ys) := by
  induction xs with
  | nil => rfl
  | cons x xs ih =>
    simp only [List.cons_append, addEntries, ih, bind_assoc]

/-- Only what comes of the references matters. -/
theorem run_assembleIn_congr {xs ys : List PhotoReference}
    (h : (addEntries source gateway session xs).run b
      = (addEntries source gateway session ys).run b') :
    (assembleIn source gateway session xs).run b = (assembleIn source gateway session ys).run b' := by
  simp only [assembleIn, run_ensuring, run_bind, run_onFailure, h]

/-- References that were dealt with are not looked at again. -/
theorem run_assembleIn_append {xs : List PhotoReference} (ys : List PhotoReference)
    (h : (addEntries source gateway session xs).run b = (.ok (), b')) :
    (assembleIn source gateway session (xs ++ ys)).run b
      = (assembleIn source gateway session ys).run b' := by
  apply run_assembleIn_congr
  rw [addEntries_append, run_bind_ok h]

/-- Behind a failure that ends the work no reference is looked at. -/
theorem run_assembleIn_append_of_error {xs : List PhotoReference} (ys : List PhotoReference)
    {e : Failure} (h : (addEntries source gateway session xs).run b = (.error e, b')) :
    (assembleIn source gateway session (xs ++ ys)).run b
      = (assembleIn source gateway session xs).run b := by
  apply run_assembleIn_congr
  rw [addEntries_append, run_bind_error h, h]

/-- An assembly whose references end in a failure fails. -/
theorem run_assembleIn_of_error {references : List PhotoReference} {e : Failure}
    (h : (addEntries source gateway session references).run b = (.error e, b')) :
    ∃ e' b'', (assembleIn source gateway session references).run b = (.error e', b'') := by
  obtain ⟨e', b₁, hwork⟩ : ∃ e' b₁, ((addEntries source gateway session references).onFailure
      (discardArchive gateway)).run b = (.error e', b₁) := by
    rw [run_onFailure, h]
    rcases hdiscard : (discardArchive gateway).run b' with ⟨e' | _, b₁⟩
    · exact ⟨e', b₁, by simp only [hdiscard]⟩
    · exact ⟨e, b₁, by simp only [hdiscard]⟩
  rcases hclose : (onStorage (source.closeSession session)).run b₁ with ⟨e'' | _, b₂⟩
  · exact ⟨e'', b₂, ensuring_error (run_bind_error hwork) hclose⟩
  · exact ⟨e', b₂, ensuring_ok (run_bind_error hwork) hclose⟩

/-- Completing an archive and closing a session enters nothing into the ledger. -/
theorem preserves_ledger_assembleIn_nil (ledger : SkipLedger) :
    Preserves (fun b : Bench σ τ => b.ledger = ledger) (assembleIn source gateway session []) := by
  refine Preserves.ensuring (Preserves.bind (fun b h => h) fun _ b h => ?_)
    (preserves_within _ fun _ _ h => h)
  rcases hend : gateway.finalize b.writer with ⟨refusal | archive, writer⟩ <;>
    simpa [run, finalizeArchive, hend] using h

/-- The ledger behind an assembly is the one behind its references. -/
theorem ledger_assembleIn {references : List PhotoReference}
    (h : (addEntries source gateway session references).run b = (.ok (), b')) :
    ((assembleIn source gateway session references).run b).2.ledger = b'.ledger := by
  have hrun := run_assembleIn_append [] h
  rw [List.append_nil] at hrun
  rw [hrun]
  exact preserves_ledger_assembleIn_nil b'.ledger b' rfl

theorem ledger_assemble {references : List PhotoReference} {w : Workshop σ τ} {storage : σ}
    {start : τ} (hnew : source.newSession w.storage = (.ok session, storage))
    (hcreate : gateway.create = .ok start) :
    ((assemble source gateway references).run w).2.ledger
      = ((assembleIn source gateway session references).run
          (bench { w with storage } start)).2.ledger := by
  rw [run_assemble_of_session hnew hcreate]
  rcases (assembleIn source gateway session references).run
    (bench { w with storage } start) with ⟨_ | _, b⟩ <;> rfl

/-! ## A photo that cannot be opened -/

/-- The record of a photo that cannot be opened. -/
def missedRecord (reference : PhotoReference) (e : Failure) : SkipRecord :=
  { entryName := reference.entryName.value, reason := .openFailed, detail := e.message }

/-- The bench when a photo could not be opened. -/
def Bench.missed (b : Bench σ τ) (storage : σ) (record : SkipRecord) : Bench σ τ :=
  { b with storage, ledger := b.ledger.add record, log := b.log ++ [b.ledger.warning record] }

theorem run_addEntry_missed {reference : PhotoReference} {e : Failure} {storage : σ}
    (hopen : (source.openBlob session reference.blobKey).run b.storage = (.error e, storage))
    (he : e.IsBlobError) :
    (addEntry source gateway session reference).run b
      = (.ok (), b.missed storage (missedRecord reference e)) := by
  have hstorage : (onStorage (source.openBlob session reference.blobKey)).run b
      = (.error e, { b with storage }) := run_within hopen
  simp only [addEntry, run_bind, run_attempt, hstorage, if_pos he]
  rfl

/-- A photo that cannot be opened leaves a record behind, and the work goes on. -/
theorem run_assembleIn_missed {reference : PhotoReference} {e : Failure} {storage : σ}
    (rest : List PhotoReference)
    (hopen : (source.openBlob session reference.blobKey).run b.storage = (.error e, storage))
    (he : e.IsBlobError) :
    (assembleIn source gateway session (reference :: rest)).run b
      = (assembleIn source gateway session rest).run
          (b.missed storage (missedRecord reference e)) := by
  apply run_assembleIn_congr
  rw [addEntries, run_bind_ok (run_addEntry_missed hopen he)]

/-! ## Leaving a reference out -/

/-- The same failure, or results that are the same but for a record behind some others, which only the
first one has. -/
inductive SameBut (before : List SkipRecord) (record : SkipRecord) :
    Except Failure ExportResult → Except Failure ExportResult → Prop
  | failure (e : Failure) : SameBut before record (.error e) (.error e)
  | result (company : String) (archive : ArchiveFile) (written : Nat) (after : List SkipRecord) :
    SameBut before record (.ok ⟨company, archive, written, before ++ record :: after⟩)
      (.ok ⟨company, archive, written, before ++ after⟩)

variable {stock : Stock ρ}

/-- Two sessions, on the left one of which a record was entered last, go on alike. -/
theorem assembleIn_shifted (S : source.Serves stock) (hexact : stock.IsExact)
    (gateway : ArchiveGateway τ) {storage : σ} (record : SkipRecord)
    (references : List PhotoReference) (hidle : S.Idle session b.storage)
    (hidle' : S.Idle session storage) :
    Alike
      (fun archive archive' b₁ b₂ => archive = archive' ∧ b₁.written = b₂.written ∧
        (Accounts.shifted b.ledger.records record).Fit b₁.ledger b₁.log b₂.ledger b₂.log)
      (fun _ _ => True)
      ((assembleIn source gateway session references).run (b.missed storage record))
      ((assembleIn source gateway session references).run b) := by
  let L := lockstep (S.isInStep S hexact) (.refl gateway) .trivial
  have hstart : Bench.Linked (L.sources.Idle session session) L.Pools
      (.shifted b.ledger.records record) L.archives.Fits (b.missed storage record) b :=
    { storage := ⟨hidle', hidle⟩, pool := ⟨rfl, trivial⟩, accounts := ⟨rfl, [], rfl, by simp⟩
      writer := rfl, taken := rfl, written := rfl }
  have hkeys : ∀ reference ∈ references, reference.blobKey.value ∈ Set.univ := fun _ _ => trivial
  have hlinked := assembleIn_linked L hkeys _ _ hstart
  exact hlinked.map id id (fun _ _ _ _ h => ⟨h.1, h.2.written, h.2.accounts⟩) fun _ _ _ => trivial

/-- Whatever comes of the references, the session waits for the next blob. -/
theorem idle_addEntries (S : source.Serves stock) (hexact : stock.IsExact)
    {references : List PhotoReference} (hidle : S.Idle session b.storage)
    (hrun : (addEntries source gateway session references).run b = (.ok (), b')) :
    S.Idle session b'.storage := by
  let L := lockstep (S.isInStep S hexact) (.refl gateway) .trivial
  have hstart : Bench.Linked (L.sources.Idle session session) L.Pools .same L.archives.Fits b b :=
    { storage := ⟨hidle, hidle⟩, pool := ⟨rfl, trivial⟩, accounts := ⟨rfl, rfl⟩, writer := rfl
      taken := rfl, written := rfl }
  have hkeys : ∀ reference ∈ references, reference.blobKey.value ∈ Set.univ := fun _ _ => trivial
  have hlinked := addEntries_linked L hkeys _ _ hstart
  rw [hrun] at hlinked
  obtain ⟨_, _, -, -, hend⟩ := hlinked.of_ok
  exact hend.storage.1

/-- A reference whose blob cannot be opened may as well be left out: the outcome is the same but for
its record, which stands behind those of the references in front of it. -/
theorem assemble_omission (S : source.Serves stock) (hexact : stock.IsExact)
    (gateway : ArchiveGateway τ) {reference : PhotoReference} {e : Failure}
    (hmissed : stock.openBlob reference.blobKey = .error e) (he : e.IsBlobError)
    (xs ys : List PhotoReference) {w : Workshop σ τ}
    (hsession : ∀ session storage, source.newSession w.storage = (.ok session, storage) →
      S.Idle session storage) :
    SameBut ((assemble source gateway xs).run w).2.ledger.records (missedRecord reference e)
      ((assemble source gateway (xs ++ reference :: ys)).run w).1
      ((assemble source gateway (xs ++ ys)).run w).1 := by
  rcases hnew : source.newSession w.storage with ⟨refusal | session, storage⟩
  · simp only [run_assemble_of_refusal hnew]
    exact .failure _
  have hidle := hsession session storage hnew
  rcases hcreate : gateway.create with e' | start
  · -- Without a writer no reference is looked at.
    rcases hclose : (source.closeSession session).run storage with ⟨e'' | _, storage'⟩ <;>
      simp only [run_assemble_of_no_writer hnew hcreate hclose] <;> exact .failure _
  rw [ledger_assemble hnew hcreate]
  simp only [run_assemble_of_session hnew hcreate]
  rcases hxs : (addEntries source gateway session xs).run
    (bench { w with storage } start) with ⟨e' | _, b⟩
  · -- The work has ended in front of the reference.
    obtain ⟨e'', b'', hrun⟩ := run_assembleIn_of_error hxs
    rw [run_assembleIn_append_of_error _ hxs, run_assembleIn_append_of_error _ hxs, hrun]
    exact .failure e''
  · have hidle : S.Idle session b.storage := idle_addEntries S hexact hidle hxs
    obtain ⟨storage', hopen, hidle'⟩ := S.openBlob_refused hmissed hidle
    rw [run_assembleIn_append _ hxs, run_assembleIn_append _ hxs, run_assembleIn_missed ys hopen he,
      ledger_assembleIn hxs]
    obtain ⟨archive, _, b₁, b₂, hrun₁, hrun₂, rfl, hwritten, hcompany, after, hleft, hright⟩ |
      ⟨e', b₁, b₂, hrun₁, hrun₂, -⟩ := (assembleIn_shifted S hexact gateway
        (missedRecord reference e) ys hidle hidle').cases
    · rw [hrun₁, hrun₂]
      simp only [hcompany, hwritten, hleft, hright]
      exact .result _ _ _ _
    · rw [hrun₁, hrun₂]
      exact .failure e'

/-- The second of three photos is missing; the third one has the name of the first one. -/
theorem assemble_omission_sample :
    ∃ (a b c : PhotoReference) (e : Failure), sampleReferences = [a, b, c] ∧
      ((assemble Scripted.source (Zip.gateway {} .stored Zip.standardLimit) [a, b, c]).run
        sampleWorkshop).1.isOk = true ∧
      SameBut [] (missedRecord b e)
        ((assemble Scripted.source (Zip.gateway {} .stored Zip.standardLimit) [a, b, c]).run
          sampleWorkshop).1
        ((assemble Scripted.source (Zip.gateway {} .stored Zip.standardLimit) [a, c]).run
          sampleWorkshop).1 := by
  have hok : ((assemble Scripted.source (Zip.gateway {} .stored Zip.standardLimit)
      sampleReferences).run sampleWorkshop).1.isOk = true := by
    decide +kernel
  have hbefore : ((assemble Scripted.source (Zip.gateway {} .stored Zip.standardLimit)
      (sampleReferences.take 1)).run sampleWorkshop).2.ledger.records = [] := by
    decide +kernel
  have hmissed : sampleWorkshop.storage.script.stock.openBlob sampleReferences[1].blobKey
      = .error (.blobNotFound "photos/p/b.jpg") := rfl
  have hsession : ∀ session storage, Scripted.source.newSession sampleWorkshop.storage
      = (.ok session, storage) → storage.script = sampleWorkshop.storage.script := by
    rintro session storage ⟨⟩
    rfl
  have homission := assemble_omission (Scripted.serves sampleWorkshop.storage.script)
    (Scripted.Script.isExact_stock _) (Zip.gateway {} .stored Zip.standardLimit) hmissed (by decide)
    (sampleReferences.take 1) (sampleReferences.drop 2) hsession
  rw [hbefore] at homission
  exact ⟨_, _, _, _, rfl, hok, homission⟩

/-- A session that cannot be closed once a missing blob was asked for. -/
def closeUnlessMissed (_ : SessionId) : Action Scripted.Storage Unit := fun s =>
  if .openBlob "photos/p/b.jpg" ∈ s.events then (.error (.runtime "lost"), s) else (.ok (), s)

theorem SameBut.isOk_eq {before : List SkipRecord} {record : SkipRecord}
    {outcome outcome' : Except Failure ExportResult} (h : SameBut before record outcome outcome') :
    outcome.isOk = outcome'.isOk := by
  cases h <;> rfl

/-- Where closing a session depends on what was asked for before, a reference that cannot be opened
cannot be left out, even if all other answers come from a script. -/
theorem not_forall_sameBut :
    ¬ ∀ (closeSession : SessionId → Action Scripted.Storage Unit) (xs ys : List PhotoReference)
      (reference : PhotoReference) (e : Failure) (w : Workshop Scripted.Storage Zip.Writer),
      w.storage.script.stock.openBlob reference.blobKey = .error e → e.IsBlobError →
      ∃ before, SameBut before (missedRecord reference e)
        ((assemble { Scripted.source with closeSession } (Zip.gateway {} .stored Zip.standardLimit)
          (xs ++ reference :: ys)).run w).1
        ((assemble { Scripted.source with closeSession } (Zip.gateway {} .stored Zip.standardLimit)
          (xs ++ ys)).run w).1 := by
  intro h
  obtain ⟨before, hsame⟩ := h closeUnlessMissed (sampleReferences.take 1) (sampleReferences.drop 2)
    sampleReferences[1] (.blobNotFound "photos/p/b.jpg") sampleWorkshop rfl (by decide)
  have hequal := hsame.isOk_eq
  revert hequal
  decide +kernel

end Assembly

end PhotoArchive
