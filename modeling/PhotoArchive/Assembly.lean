import PhotoArchive.ArchiveGateway
import PhotoArchive.BufferPool
import PhotoArchive.Ledger
import PhotoArchive.Storage.Source

/-!
# Assembling an archive

Photos are copied from a storage into an archive, one after the other in the order of their
references. A photo that cannot be opened or copied is entered into the ledger and the next one is
taken; any other failure ends the work, and the archive is given up.

## Main definitions

- `Workshop` — what an assembly works with and leaves behind
- `ExportResult` — what an assembly ends with
- `uniqueName` — the name of an entry among names that are taken
- `Assembly.copy` — copy a blob through a buffer into an entry
- `Assembly.addEntry` — what is done for one reference
- `Assembly.assemble` — what is done for all of them

## Design notes

Whatever is opened is closed again, however the work in between ends: the buffer is given back, the
entry closed, the reader closed, the session closed, from the inside out. A failure in closing takes
the place of the failure before it. An archive is given up only if there is a writer for it.
-/

namespace PhotoArchive

/-! ## Names -/

/-- The first name beside `name` that is not taken, from an index on, looking at no more than so many
names that are. -/
def firstFreeName (name : Path) (taken : List Path) : Nat → Nat → Except Violation Path
  | 0, index => name.numbered index
  | fuel + 1, index => do
    let candidate ← name.numbered index
    if candidate ∈ taken then firstFreeName name taken fuel (index + 1) else return candidate

/-- The name itself if it is not taken, and otherwise the first name beside it that is not. Among
more names than are taken there is one. -/
def uniqueName (name : Path) (taken : List Path) : Except Violation Path :=
  if name ∈ taken then firstFreeName name taken taken.length 1 else .ok name

/-! ## The workshop -/

/-- What an assembly works with and leaves behind. -/
structure Workshop (σ τ : Type) where
  storage : σ
  pool : BufferPool
  ledger : SkipLedger
  log : Log := []
  /-- The writer of the archive, once there is one. -/
  writer : Option τ := none

/-- What an assembly ends with. -/
structure ExportResult where
  company : String
  archive : ArchiveFile
  /-- How many photos were copied to their end. -/
  written : Nat
  skips : List SkipRecord

namespace Assembly

/-- What is at hand while entries are added to an archive. -/
structure Bench (σ τ : Type) where
  storage : σ
  pool : BufferPool
  ledger : SkipLedger
  log : Log
  writer : τ
  /-- The names that are taken. -/
  taken : List Path := []
  /-- How many photos were copied to their end. -/
  written : Nat := 0

variable {σ τ : Type} {α : Type}

/-- Take an action on the storage. -/
def onStorage (a : Action σ α) : Action (Bench σ τ) α :=
  a.within (·.storage) fun storage b => { b with storage }

/-- Take an action on the writer. -/
def onWriter (a : Action τ α) : Action (Bench σ τ) α :=
  a.within (·.writer) fun writer b => { b with writer }

/-- Take an action on the pool. -/
def onPool (a : Action BufferPool α) : Action (Bench σ τ) α :=
  a.within (·.pool) fun pool b => { b with pool }

/-- Log a record. -/
def note (level : Log.Level) (component : Log.Component) (message : String) :
    Action (Bench σ τ) Unit :=
  .modify fun b => { b with log := b.log ++ [{ level, component, message }] }

/-- Enter a photo into the ledger. -/
def skip (record : SkipRecord) : Action (Bench σ τ) Unit :=
  .modify fun b =>
    { b with ledger := b.ledger.add record, log := b.log ++ [b.ledger.warning record] }

/-! ## Copying a blob -/

/-- Work with a buffer from the pool and give it back. -/
def borrowing (work : BufferId → Action (Bench σ τ) α) : Action (Bench σ τ) α := do
  let buffer ← onPool BufferPool.acquire
  (work buffer).ensuring (.modify fun b => { b with pool := b.pool.release buffer })

/-- Copy what is left of a blob through a buffer into an entry, piece by piece. Gives the number of
bytes copied, `copied` included. A piece that does not fit the buffer is a failure. -/
def copy (source : BlobSource σ) (gateway : ArchiveGateway τ) (reader : ReaderId) (handle : Nat)
    (buffer : BufferId) (copied : Nat) (b : Bench σ τ) : Except Failure Nat × Bench σ τ :=
  let room := (b.pool.buffer buffer).length
  match _h : (source.read reader room).run b.storage with
  | (.error e, storage) => (.error e, { b with storage })
  | (.ok data, storage) =>
    if _hd : data = [] then (.ok copied, { b with storage })
    else if room < data.length then (.error .bufferExceeded, { b with storage })
    else
      let filled := (b.pool.buffer buffer).fill data
      let pool := b.pool.put buffer filled
      match (gateway.write handle (filled.front data.length)).run b.writer with
      | (.error e, writer) => (.error e, { b with storage, pool, writer })
      | (.ok _, writer) =>
        copy source gateway reader handle buffer (copied + data.length)
          { b with storage, pool, writer }
termination_by source.pending reader b.storage
decreasing_by exact source.pending_read _ _ _ _ _ _h _hd

section Copy

variable {source : BlobSource σ} {gateway : ArchiveGateway τ} {reader : ReaderId} {handle : Nat}
  {buffer : BufferId} {copied : Nat} {b : Bench σ τ} {storage : σ} {writer : τ} {data : Bytes}
  {e : Failure}

/-- Copying stops at a read that fails. -/
theorem copy_of_error
    (hread : (source.read reader (b.pool.buffer buffer).length).run b.storage
      = (.error e, storage)) :
    copy source gateway reader handle buffer copied b = (.error e, { b with storage }) := by
  rw [copy]
  simp only
  split <;> simp_all

/-- Copying ends when nothing more is delivered. -/
theorem copy_of_end
    (hread : (source.read reader (b.pool.buffer buffer).length).run b.storage
      = (.ok [], storage)) :
    copy source gateway reader handle buffer copied b = (.ok copied, { b with storage }) := by
  rw [copy]
  simp only
  split <;> simp_all

/-- Copying stops at a piece that does not fit the buffer. -/
theorem copy_of_exceeded
    (hread : (source.read reader (b.pool.buffer buffer).length).run b.storage
      = (.ok data, storage))
    (hroom : (b.pool.buffer buffer).length < data.length) :
    copy source gateway reader handle buffer copied b
      = (.error .bufferExceeded, { b with storage }) := by
  have hne : data ≠ [] := by
    rintro rfl
    simp at hroom
  rw [copy]
  simp only
  split <;> simp_all

/-- Copying stops at a piece that the archive refuses. -/
theorem copy_of_refused
    (hread : (source.read reader (b.pool.buffer buffer).length).run b.storage
      = (.ok data, storage))
    (hne : data ≠ []) (hroom : data.length ≤ (b.pool.buffer buffer).length)
    (hwrite : (gateway.write handle data).run b.writer = (.error e, writer)) :
    copy source gateway reader handle buffer copied b =
      (.error e,
        { b with storage, pool := b.pool.put buffer ((b.pool.buffer buffer).fill data), writer }) := by
  rw [copy]
  simp only [Buffer.front_fill]
  split
  · simp_all
  · next data' storage' h =>
    rw [hread] at h
    cases h
    rw [dif_neg hne, if_neg (Nat.not_lt.2 hroom), hwrite]

/-- Copying goes on behind a piece that was written. -/
theorem copy_of_written
    (hread : (source.read reader (b.pool.buffer buffer).length).run b.storage
      = (.ok data, storage))
    (hne : data ≠ []) (hroom : data.length ≤ (b.pool.buffer buffer).length)
    (hwrite : (gateway.write handle data).run b.writer = (.ok (), writer)) :
    copy source gateway reader handle buffer copied b =
      copy source gateway reader handle buffer (copied + data.length)
        { b with storage, pool := b.pool.put buffer ((b.pool.buffer buffer).fill data), writer } := by
  rw [copy]
  simp only [Buffer.front_fill]
  split
  · simp_all
  · next data' storage' h =>
    rw [hread] at h
    cases h
    rw [dif_neg hne, if_neg (Nat.not_lt.2 hroom), hwrite]

end Copy

/-- Write a blob into an entry of its own and close the entry. Gives the number of bytes copied. -/
def writeEntry (source : BlobSource σ) (gateway : ArchiveGateway τ) (name : Path)
    (blob : OpenedBlob) : Action (Bench σ τ) Nat := do
  let handle ← onWriter (gateway.openEntry name blob.size)
  (borrowing fun buffer => copy source gateway blob.reader handle buffer 0).ensuring
    (onWriter (gateway.closeEntry handle))

/-! ## Adding entries -/

/-- Failures that end the work on one photo only. -/
def IsCopyFailure (e : Failure) : Prop := e.IsReadError ∨ e.IsSystemError ∨ e.IsValueError

instance : DecidablePred IsCopyFailure := fun _ => by
  unfold IsCopyFailure
  infer_instance

/-- Give an entry a name that is not taken, and take it. -/
def takeName (name : Path) : Action (Bench σ τ) Path := do
  match uniqueName name (← Action.ask (·.taken)) with
  | .error violation => .fail (.domain violation.message)
  | .ok name =>
    .modify fun b => { b with taken := name :: b.taken }
    return name

/-- Write a blob into an entry, or enter the photo into the ledger. Gives the number of bytes copied,
if all were. -/
def copyOrSkip (source : BlobSource σ) (gateway : ArchiveGateway τ) (name : Path)
    (blob : OpenedBlob) : Action (Bench σ τ) (Option Nat) := do
  match ← (writeEntry source gateway name blob).attempt IsCopyFailure with
  | .ok copied => return some copied
  | .error e =>
    skip { entryName := name.value, reason := .copyFailed, detail := e.message }
    return none

/-- Add the photo of one reference to the archive, or enter it into the ledger. -/
def addEntry (source : BlobSource σ) (gateway : ArchiveGateway τ) (session : SessionId)
    (reference : PhotoReference) : Action (Bench σ τ) Unit := do
  match ← (onStorage (source.openBlob session reference.blobKey)).attempt Failure.IsBlobError with
  | .error e =>
    skip { entryName := reference.entryName.value, reason := .openFailed, detail := e.message }
  | .ok blob =>
    let name ← takeName reference.entryName
    let copied ← (copyOrSkip source gateway name blob).ensuring
      (onStorage (source.closeReader blob.reader))
    match copied with
    | none => return ()
    | some copied =>
      note .debug .assembly
        ("entry " ++ name.value ++ " written, " ++ toString copied ++ " bytes")
      .modify fun b => { b with written := b.written + 1 }

/-- Add the photos of references in their order. -/
def addEntries (source : BlobSource σ) (gateway : ArchiveGateway τ) (session : SessionId) :
    List PhotoReference → Action (Bench σ τ) Unit
  | [] => .done ()
  | reference :: rest => do
    addEntry source gateway session reference
    addEntries source gateway session rest

/-! ## The whole archive -/

/-- Give the archive up. -/
def discardArchive (gateway : ArchiveGateway τ) : Action (Bench σ τ) Unit := do
  match ← onWriter gateway.discard with
  | none => return ()
  | some message => note .debug .archive message

/-- Complete the archive. -/
def finalizeArchive (gateway : ArchiveGateway τ) : Action (Bench σ τ) ArchiveFile := fun b =>
  match gateway.finalize b.writer with
  | (.ok archive, writer) => (.ok archive, { b with writer })
  | (.error refusal, writer) =>
    (.error refusal.failure,
      { b with writer, log := b.log ++ refusal.records .archive })

/-- Add all entries and complete the archive, or give it up, and close the session. -/
def assembleIn (source : BlobSource σ) (gateway : ArchiveGateway τ) (session : SessionId)
    (references : List PhotoReference) : Action (Bench σ τ) ArchiveFile :=
  Action.ensuring
    (do
      (addEntries source gateway session references).onFailure (discardArchive gateway)
      finalizeArchive gateway)
    (onStorage (source.closeSession session))

/-- The workshop with a new writer. -/
def bench (w : Workshop σ τ) (writer : τ) : Bench σ τ :=
  { storage := w.storage, pool := w.pool, ledger := w.ledger, log := w.log, writer }

/-- What is left on a bench. -/
def Bench.workshop (b : Bench σ τ) : Workshop σ τ :=
  { storage := b.storage, pool := b.pool, ledger := b.ledger, log := b.log
    writer := some b.writer }

/-- Close the session of an assembly that has got no writer. A failure in closing it takes the place
of the first one. -/
def abandon (source : BlobSource σ) (session : SessionId) (e : Failure) :
    Action (Workshop σ τ) ExportResult :=
  (Action.fail e).ensuring
    ((source.closeSession session).within (·.storage) fun storage w => { w with storage })

/-- Assemble the archive of the photos of some references. -/
def assemble (source : BlobSource σ) (gateway : ArchiveGateway τ)
    (references : List PhotoReference) : Action (Workshop σ τ) ExportResult := fun w =>
  match source.newSession w.storage with
  | (.error refusal, storage) =>
    (.error refusal.failure,
      { w with storage, writer := none, log := w.log ++ refusal.records source.component })
  | (.ok session, storage) =>
    match gateway.create with
    | .error e => (abandon source session e).run { w with storage, writer := none }
    | .ok writer =>
      match (assembleIn source gateway session references).run (bench { w with storage } writer) with
      | (.error e, b) => (.error e, b.workshop)
      | (.ok archive, b) =>
        (.ok
          { company := b.ledger.company, archive, written := b.written
            skips := b.ledger.records },
          b.workshop)

section Run

variable {source : BlobSource σ} {gateway : ArchiveGateway τ} {references : List PhotoReference}
  {w : Workshop σ τ} {storage : σ} {session : SessionId}

/-- Without a session nothing is assembled. -/
theorem run_assemble_of_refusal {refusal : Refusal}
    (h : source.newSession w.storage = (.error refusal, storage)) :
    (assemble source gateway references).run w =
      (.error refusal.failure,
        { w with storage, writer := none, log := w.log ++ refusal.records source.component }) := by
  simp [Action.run, assemble, h]

/-- Without a writer the session is closed, and nothing else is done. -/
theorem run_assemble_of_no_writer {e : Failure} {closing : Except Failure Unit} {storage' : σ}
    (h : source.newSession w.storage = (.ok session, storage)) (hcreate : gateway.create = .error e)
    (hclose : (source.closeSession session).run storage = (closing, storage')) :
    (assemble source gateway references).run w =
      (closing.bind fun _ => .error e, { w with storage := storage', writer := none }) := by
  have hend : (abandon (τ := τ) source session e).run { w with storage, writer := none } =
      (closing.bind fun _ => .error e, { w with storage := storage', writer := none }) := by
    cases closing with
    | ok u => exact Action.ensuring_ok rfl (Action.run_within hclose)
    | error e' => exact Action.ensuring_error rfl (Action.run_within hclose)
  rw [← hend]
  simp [Action.run, assemble, h, hcreate]

/-- In a session, an assembly ends as the work in the session does. -/
theorem run_assemble_of_session {writer : τ}
    (h : source.newSession w.storage = (.ok session, storage))
    (hcreate : gateway.create = .ok writer) :
    (assemble source gateway references).run w =
      match (assembleIn source gateway session references).run
        (bench { w with storage } writer) with
      | (.error e, b) => (.error e, b.workshop)
      | (.ok archive, b) =>
        (.ok
          { company := b.ledger.company, archive, written := b.written
            skips := b.ledger.records },
          b.workshop) := by
  simp [Action.run, assemble, h, hcreate]

end Run

end Assembly

end PhotoArchive
