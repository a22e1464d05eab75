import PhotoArchive.Proofs.Recording

/-!
# Visits

All that happens to the photo of one reference is a *visit*: its blob is opened or not, an entry is
opened for it or not, pieces are copied until something ends that, and what was opened is closed
again. A visit tells which calls were made with which answers, which buffer was borrowed, what was
entered into the ledger, and whether the work goes on.

## Main definitions

- `Loan`, `Borrowing` — a buffer that is borrowed and given back, or one that is asked for in vain
- `CopyEnd`, `Copying` — how a blob is copied, and what ends that
- `EntryWork` — what happens to the entry of a blob
- `Visit` — what happens to the photo of a reference
- `Footprint` — what a step leaves behind on a bench
- `Footprint.Marks` — it leads from one bench to another

## Design notes

The types follow the program: a `Copying` is what `Assembly.copy` does, an `EntryWork` what
`Assembly.writeEntry` does and a `Visit` what `Assembly.addEntry` does. That a reader is closed once
and a buffer is given back once is part of their form: there is one place for each.
-/

namespace PhotoArchive.Assembly

/-! ## Copying -/

/-- A buffer that is borrowed and given back, with the length that it has. -/
structure Loan where
  buffer : BufferId
  length : Nat

/-- What comes of asking the pool for a buffer. -/
inductive Borrowing where
  /-- There is none. -/
  | refused
  | lent (loan : Loan)

/-- What the pool remembers of that: a buffer that it lends comes back as long as it was. -/
def Borrowing.events : Borrowing → List BufferPool.Event
  | refused => [.refused]
  | lent loan => [.taken loan.buffer loan.length, .returned loan.buffer loan.length]

/-- What ends copying. -/
inductive CopyEnd where
  /-- Nothing more is delivered. -/
  | finished
  /-- A read fails. -/
  | failed (failure : Failure)
  /-- A piece does not fit the buffer. -/
  | exceeded (piece : Bytes)
  /-- The archive refuses a piece. -/
  | refused (piece : Bytes) (failure : Failure)

namespace CopyEnd

/-- The answer to the last read. -/
def answer : CopyEnd → Except Failure Bytes
  | finished => .ok []
  | failed e => .error e
  | exceeded piece => .ok piece
  | refused piece _ => .ok piece

/-- The call with which an entry refuses a piece. -/
def writes (handle : Nat) : CopyEnd → List WriterCall
  | refused piece e => [.write handle piece (.error e)]
  | _ => []

/-- How copying ends, given how much was copied. -/
def outcome (copied : Nat) : CopyEnd → Except Failure Nat
  | finished => .ok copied
  | failed e => .error e
  | exceeded _ => .error .bufferExceeded
  | refused _ e => .error e

/-- Only a piece that is longer than the buffer does not fit it. -/
def Fits (room : Nat) : CopyEnd → Prop
  | exceeded piece => room < piece.length
  | refused piece _ => piece ≠ [] ∧ piece.length ≤ room
  | _ => True

end CopyEnd

/-- How a blob is copied into an entry that is open. -/
inductive Copying where
  /-- There is no buffer to copy through. -/
  | unbuffered (fault : RoomFault)
  /-- Pieces are copied through a buffer. -/
  | through (loan : Loan) (pieces : List Bytes) (ending : CopyEnd)
      (pieces_fit : ∀ piece ∈ pieces, piece ≠ [] ∧ piece.length ≤ loan.length)
      (ending_fits : ending.Fits loan.length)

namespace Copying

def reads (reader : ReaderId) : Copying → List StorageCall
  | unbuffered _ => []
  | through loan pieces ending _ _ =>
    pieces.map (fun piece => .read reader loan.length (.ok piece))
      ++ [.read reader loan.length ending.answer]

def writes (handle : Nat) : Copying → List WriterCall
  | unbuffered _ => []
  | through _ pieces ending _ _ =>
    pieces.map (fun piece => .write handle piece (.ok ())) ++ ending.writes handle

def borrowing : Copying → Borrowing
  | unbuffered _ => .refused
  | through loan _ _ _ _ => .lent loan

def outcome : Copying → Except Failure Nat
  | unbuffered fault => .error (.length (.noRoom fault))
  | through _ pieces ending _ _ => ending.outcome pieces.flatten.length

/-- Only where no buffer can be made there is none. -/
def IsBuffered (fault? : Option RoomFault) : Copying → Prop
  | unbuffered fault => fault? = some fault
  | through _ _ _ _ _ => True

end Copying

/-! ## Entries -/

/-- What happens to the entry of a blob. -/
inductive EntryWork where
  /-- The archive opens no entry. -/
  | refused (failure : Failure)
  /-- An entry is opened, filled and closed. -/
  | opened (handle : Nat) (copying : Copying) (closing : Except Failure Unit)

namespace EntryWork

def reads (reader : ReaderId) : EntryWork → List StorageCall
  | refused _ => []
  | opened _ copying _ => copying.reads reader

def calls (name : Path) (size : Option Int) : EntryWork → List WriterCall
  | refused e => [.openEntry name size (.error e)]
  | opened handle copying closing =>
    .openEntry name size (.ok handle) :: copying.writes handle ++ [.closeEntry handle closing]

def borrowings : EntryWork → List Borrowing
  | refused _ => []
  | opened _ copying _ => [copying.borrowing]

/-- A failure in closing an entry comes before what happened in it. -/
def outcome : EntryWork → Except Failure Nat
  | refused e => .error e
  | opened _ copying (.ok _) => copying.outcome
  | opened _ _ (.error e) => .error e

def IsBuffered (fault? : Option RoomFault) : EntryWork → Prop
  | refused _ => True
  | opened _ copying _ => copying.IsBuffered fault?

/-- How the work on an entry ends when failures that are only the photo's fault are set aside. -/
def settled (work : EntryWork) : Except Failure (Option Nat) :=
  match work.outcome with
  | .ok copied => .ok (some copied)
  | .error e => if IsCopyFailure e then .ok none else .error e

/-- What is entered into the ledger when the work on an entry fails, if that is only the photo's
fault. -/
def skip? (name : Path) (work : EntryWork) : Option SkipRecord :=
  match work.outcome with
  | .ok _ => none
  | .error e =>
    if IsCopyFailure e then
      some { entryName := name.value, reason := .copyFailed, detail := e.message }
    else none

end EntryWork

/-! ## Footprints -/

/-- What is said about a photo: that it is missing, or how many bytes were copied. -/
inductive Note where
  | skipped (record : SkipRecord)
  | written (name : Path) (length : Nat)

namespace Note

def skip? : Note → Option SkipRecord
  | skipped record => some record
  | written _ _ => none

def isWritten : Note → Bool
  | skipped _ => false
  | written _ _ => true

/-- The record of the log, for the company of a ledger. -/
def record (ledger : SkipLedger) : Note → Log.Record
  | skipped record => ledger.warning record
  | written name length =>
    { level := .debug, component := .assembly
      message := "entry " ++ name.value ++ " written, " ++ toString length ++ " bytes" }

end Note

/-- What a step of an assembly leaves behind. -/
structure Footprint where
  storageCalls : List StorageCall := []
  writerCalls : List WriterCall := []
  borrowings : List Borrowing := []
  /-- The names that are taken, oldest first. -/
  names : List Path := []
  notes : List Note := []

namespace Footprint

instance : Append Footprint where
  append f g :=
    { storageCalls := f.storageCalls ++ g.storageCalls
      writerCalls := f.writerCalls ++ g.writerCalls
      borrowings := f.borrowings ++ g.borrowings
      names := f.names ++ g.names
      notes := f.notes ++ g.notes }

variable (f g : Footprint)

theorem append_eq : f ++ g =
    { storageCalls := f.storageCalls ++ g.storageCalls
      writerCalls := f.writerCalls ++ g.writerCalls
      borrowings := f.borrowings ++ g.borrowings
      names := f.names ++ g.names
      notes := f.notes ++ g.notes } := rfl

@[simp] theorem storageCalls_append : (f ++ g).storageCalls = f.storageCalls ++ g.storageCalls := rfl

@[simp] theorem writerCalls_append : (f ++ g).writerCalls = f.writerCalls ++ g.writerCalls := rfl

@[simp] theorem borrowings_append : (f ++ g).borrowings = f.borrowings ++ g.borrowings := rfl

@[simp] theorem names_append : (f ++ g).names = f.names ++ g.names := rfl

@[simp] theorem notes_append : (f ++ g).notes = f.notes ++ g.notes := rfl

/-- A footprint leads from one bench to another. -/
structure Marks {σ τ : Type} (source : BlobSource σ) (gateway : ArchiveGateway τ) (f : Footprint)
    (b b' : Bench σ τ) : Prop where
  storage : Leads source.Answers f.storageCalls b.storage b'.storage
  writer : Leads gateway.Answers f.writerCalls b.writer b'.writer
  history : b'.pool.history = b.pool.history ++ f.borrowings.flatMap Borrowing.events
  roomFault : b'.pool.roomFault? = b.pool.roomFault?
  taken : b'.taken = f.names.reverse ++ b.taken
  company : b'.ledger.company = b.ledger.company
  records : b'.ledger.records = b.ledger.records ++ f.notes.filterMap Note.skip?
  log : b'.log = b.log ++ f.notes.map (Note.record b.ledger)
  written : b'.written = b.written + f.notes.countP Note.isWritten

end Footprint

/-! ## Visits -/

/-- What happens to the photo of a reference. -/
inductive Visit where
  /-- Its blob is not opened. -/
  | missed (reference : PhotoReference) (failure : Failure)
  /-- Its blob is opened and gets a name; after the work on the entry the reader is closed. -/
  | opened (reference : PhotoReference) (blob : OpenedBlob) (name : Path) (work : EntryWork)
      (closing : Except Failure Unit)

namespace Visit

def reference : Visit → PhotoReference
  | missed reference _ => reference
  | opened reference _ _ _ _ => reference

/-- The record in the ledger, if there is one. -/
def skip? : Visit → Option SkipRecord
  | missed reference e =>
    if e.IsBlobError then
      some
        { entryName := reference.entryName.value, reason := .openFailed, detail := e.message }
    else none
  | opened _ _ name work _ => work.skip? name

/-- The length of the photo, if it was copied to its end and nothing failed in closing. -/
def length? : Visit → Option Nat
  | opened _ _ _ work (.ok _) => work.outcome.toOption
  | _ => none

/-- Whether the work goes on behind a visit, and if not, with which failure it ends. -/
def outcome : Visit → Except Failure Unit
  | missed _ e => if e.IsBlobError then .ok () else .error e
  | opened _ _ _ work (.ok _) => work.settled.map fun _ => ()
  | opened _ _ _ _ (.error e) => .error e

/-- The name that is given to the entry, if the blob is opened. -/
def name? : Visit → Option Path
  | missed _ _ => none
  | opened _ _ name _ _ => some name

def notes (v : Visit) : List Note :=
  v.skip?.toList.map .skipped ++
    match v.name?, v.length? with
    | some name, some length => [.written name length]
    | _, _ => []

/-- What a visit leaves behind in a session. -/
def footprint (session : SessionId) (v : Visit) : Footprint where
  storageCalls :=
    match v with
    | missed reference e => [.openBlob session reference.blobKey (.error e)]
    | opened reference blob _ work closing =>
      .openBlob session reference.blobKey (.ok blob) :: work.reads blob.reader
        ++ [.closeReader blob.reader closing]
  writerCalls :=
    match v with
    | missed _ _ => []
    | opened _ blob name work _ => work.calls name blob.size
  borrowings :=
    match v with
    | missed _ _ => []
    | opened _ _ _ work _ => work.borrowings
  names := v.name?.toList
  notes := v.notes

def IsBuffered (fault? : Option RoomFault) : Visit → Prop
  | missed _ _ => True
  | opened _ _ _ work _ => work.IsBuffered fault?

/-- The entry has the name that is free among the names that are taken. -/
def IsNamed (taken : List Path) : Visit → Prop
  | missed _ _ => True
  | opened reference _ name _ _ => uniqueName reference.entryName taken = .ok name

end Visit

/-! ## Visits in a row -/

/-- What visits in a row leave behind. -/
def footprint (session : SessionId) : List Visit → Footprint
  | [] => {}
  | v :: rest => v.footprint session ++ footprint session rest

/-- The first failure that ends the work, if any. -/
def outcome : List Visit → Except Failure Unit
  | [] => .ok ()
  | v :: rest =>
    match v.outcome with
    | .ok _ => outcome rest
    | .error e => .error e

/-- Visits of references in their order, given the names that are taken and why no buffers can be made,
if that is so. A visit that does not let the work go on is the last one. -/
inductive IsTour : List PhotoReference → List Path → Option RoomFault → List Visit → Prop
  | nil (taken : List Path) (fault? : Option RoomFault) : IsTour [] taken fault? []
  | last {reference : PhotoReference} {rest : List PhotoReference} {taken : List Path}
      {fault? : Option RoomFault} {v : Visit} {e : Failure} :
      v.reference = reference → v.IsNamed taken → v.IsBuffered fault? → v.outcome = .error e →
      IsTour (reference :: rest) taken fault? [v]
  | cons {reference : PhotoReference} {rest : List PhotoReference} {taken : List Path}
      {fault? : Option RoomFault} {v : Visit} {visits : List Visit} :
      v.reference = reference → v.IsNamed taken → v.IsBuffered fault? → v.outcome = .ok () →
      IsTour rest (v.name?.toList ++ taken) fault? visits →
      IsTour (reference :: rest) taken fault? (v :: visits)

/-! ## Notes of visits -/

theorem filterMap_skipped (skips : List SkipRecord) :
    (skips.map Note.skipped).filterMap Note.skip? = skips := by
  simp [List.filterMap_map, Function.comp_def, Note.skip?]

/-- Nothing is written of a photo that is skipped. -/
theorem countP_skipped (skips : List SkipRecord) :
    (skips.map Note.skipped).countP Note.isWritten = 0 := by
  rw [List.countP_map]
  exact List.countP_eq_zero.2 fun _ _ => Bool.false_ne_true

theorem filterMap_notes (v : Visit) : v.notes.filterMap Note.skip? = v.skip?.toList := by
  unfold Visit.notes
  rw [List.filterMap_append, filterMap_skipped]
  split <;> simp [Note.skip?]

theorem skips_footprint (session : SessionId) (visits : List Visit) :
    (footprint session visits).notes.filterMap Note.skip? = visits.filterMap Visit.skip? := by
  induction visits with
  | nil => rfl
  | cons v rest ih =>
    rw [footprint, Footprint.notes_append, List.filterMap_append, ih, List.filterMap_cons]
    have hv : (v.footprint session).notes.filterMap Note.skip? = _ := filterMap_notes v
    rw [hv]
    cases v.skip? <;> rfl

/-- A visit that lets the work go on is counted if no record is entered about its photo. -/
theorem countP_notes {v : Visit} (h : v.outcome = .ok ()) :
    v.notes.countP Note.isWritten = if v.skip?.isNone then 1 else 0 := by
  rw [Visit.notes, List.countP_append, countP_skipped, Nat.zero_add]
  rcases v with ⟨reference, e⟩ | ⟨reference, blob, name, work, e | u⟩
  · by_cases hblob : e.IsBlobError
    · simp [Visit.skip?, Visit.name?, hblob]
    · simp [Visit.outcome, hblob] at h
  · cases h
  · cases hwork : work.outcome with
    | ok copied =>
      simp [Visit.name?, Visit.length?, Visit.skip?, EntryWork.skip?, hwork, Except.toOption,
        Note.isWritten]
    | error e =>
      by_cases hcopy : IsCopyFailure e
      · simp [Visit.name?, Visit.length?, Visit.skip?, EntryWork.skip?, hwork, hcopy,
          Except.toOption]
      · simp [Visit.outcome, EntryWork.settled, hwork, hcopy, Except.map] at h

theorem written_footprint {session : SessionId} {visits : List Visit}
    (h : outcome visits = .ok ()) :
    (footprint session visits).notes.countP Note.isWritten
      = (visits.map Visit.skip?).count none := by
  induction visits with
  | nil => rfl
  | cons v rest ih =>
    rw [outcome] at h
    cases hv : v.outcome with
    | error e =>
      rw [hv] at h
      cases h
    | ok u =>
      rw [hv] at h
      have hcount : (v.footprint session).notes.countP Note.isWritten = _ := countP_notes hv
      rw [footprint, Footprint.notes_append, List.countP_append, hcount, ih h, List.map_cons,
        List.count_cons]
      cases v.skip? <;> simp [Nat.add_comm]

/-- Among optional things, each is there or not. -/
theorem count_none_add {α : Type} [BEq α] [LawfulBEq α] (l : List (Option α)) :
    l.count none + (l.filterMap id).length = l.length := by
  induction l with
  | nil => rfl
  | cons x rest ih =>
    cases x with
    | none =>
      rw [List.count_cons_self, List.filterMap_cons_none rfl, List.length_cons]
      omega
    | some x =>
      have hthere : (some x :: rest).filterMap id = x :: rest.filterMap id := rfl
      rw [List.count_cons_of_ne (by simp), hthere, List.length_cons, List.length_cons]
      omega

/-! ## Sessions -/

/-- How the writer of an archive ends. -/
inductive Ending where
  /-- The archive is completed, or that fails. -/
  | finalized (answer : Except Refusal ArchiveFile)
  /-- After a failure the archive is given up. -/
  | discarded (failure : Failure) (answer : Except Failure (Option String))

namespace Ending

def call : Ending → WriterCall
  | finalized answer => .finalize answer
  | discarded _ answer => .discard answer

def outcome : Ending → Except Failure ArchiveFile
  | finalized (.ok archive) => .ok archive
  | finalized (.error refusal) => .error refusal.failure
  | discarded e (.ok _) => .error e
  | discarded _ (.error e) => .error e

def log : Ending → Log
  | finalized (.error refusal) => refusal.records .archive
  | discarded _ (.ok (some message)) => [{ level := .debug, component := .archive, message }]
  | _ => []

/-- Archives are completed when all references were visited, and only then. -/
def Follows (visits : Except Failure Unit) : Ending → Prop
  | finalized _ => visits = .ok ()
  | discarded e _ => visits = .error e

end Ending

/-- What happens in a session of the storage, from its beginning to its end. -/
structure Session where
  id : SessionId
  visits : List Visit
  ending : Ending
  closing : Except Failure Unit

namespace Session

def storageCalls (s : Session) : List StorageCall :=
  .newSession (.ok s.id) :: (footprint s.id s.visits).storageCalls
    ++ [.closeSession s.id s.closing]

def writerCalls (s : Session) : List WriterCall :=
  (footprint s.id s.visits).writerCalls ++ [s.ending.call]

/-- A failure in closing the session comes before what happened in it. -/
def outcome (s : Session) : Except Failure ArchiveFile :=
  match s.closing with
  | .ok _ => s.ending.outcome
  | .error e => .error e

end Session

end PhotoArchive.Assembly
