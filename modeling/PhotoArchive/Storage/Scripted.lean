import PhotoArchive.Storage.Source

/-!
# Scripted storage

A storage that follows a script: which blobs there are, how they are delivered, and what fails. It
remembers what was asked of it.

## Main definitions

- `Scripted.Blob`, `Scripted.Script` — the script
- `Scripted.Event` — what was asked
- `Scripted.Storage` — the script, the readers and the events so far
- `Scripted.source` — the blob source
-/

namespace PhotoArchive.Scripted

/-- A blob in a script. -/
structure Blob where
  delivery : Delivery
  /-- The size that it is said to have. -/
  size : Option Int
  openFault : Option Failure := none
  closeFault : Option Failure := none
  deriving DecidableEq

/-- What a storage does. -/
structure Script where
  blobs : List (String × Blob)
  sessionFault : Option Failure := none
  sessionCloseFault : Option Failure := none
  deriving DecidableEq

/-- What was asked of a storage. -/
inductive Event where
  | session
  | openBlob (key : String)
  /-- A reader was closed after some reads. -/
  | closeReader (key : String) (reads : Nat)
  | closeSession
  deriving DecidableEq, Repr

/-- An event in words. -/
def Event.text : Event → String
  | session => "session"
  | openBlob key => "open " ++ key
  | closeReader key reads => "close " ++ key ++ " reads=" ++ toString reads
  | closeSession => "session close"

/-- A reader: its blob, what is left of it, and how often it was read. -/
structure Reader where
  key : String
  blob : Blob
  left : Delivery := blob.delivery
  reads : Nat := 0
  deriving DecidableEq

/-- The state of a storage. -/
structure Storage where
  script : Script
  readers : List Reader := []
  events : List Event := []
  deriving DecidableEq

namespace Storage

/-- Remember an event. -/
def record (s : Storage) (event : Event) : Storage := { s with events := s.events ++ [event] }

/-- Fail if the script says so. -/
def outcome (fault : Option Failure) (s : Storage) : Except Failure Unit × Storage :=
  match fault with
  | some failure => (.error failure, s)
  | none => (.ok (), s)

/-- Open a session. -/
def newSession (s : Storage) : Except Refusal SessionId × Storage :=
  match s.script.sessionFault with
  | some failure => (.error { failure }, s.record .session)
  | none => (.ok 0, s.record .session)

/-- Open a reader for a key. -/
def openBlob (_ : SessionId) (key : Path) : Action Storage OpenedBlob := fun s =>
  let s := s.record (.openBlob key.value)
  match s.script.blobs.find? fun blob => blob.1 = key.value with
  | none => (.error (.blobNotFound key.value), s)
  | some (_, blob) =>
    match blob.openFault with
    | some failure => (.error failure, s)
    | none =>
      (.ok { reader := s.readers.length, size := blob.size },
        { s with readers := s.readers ++ [{ key := key.value, blob }] })

/-- Put a reader in the place of another one. -/
def setReader (s : Storage) (id : ReaderId) (r : Reader) : Storage :=
  { s with readers := s.readers.set id r }

/-- Deliver the next piece. -/
def read (id : ReaderId) (room : Nat) : Action Storage Bytes := fun s =>
  match s.readers[id]? with
  | none => (.ok [], s)
  | some r =>
    match r.left.next (min room (r.left.piece.getD room)) with
    | .error failure => (.error failure, s.setReader id { r with reads := r.reads + 1 })
    | .ok (data, left) => (.ok data, s.setReader id { r with left, reads := r.reads + 1 })

/-- Close a reader. -/
def closeReader (id : ReaderId) : Action Storage Unit := fun s =>
  match s.readers[id]? with
  | none => (.ok (), s)
  | some r => (s.record (.closeReader r.key r.reads)).outcome r.blob.closeFault

/-- Close a session. -/
def closeSession (_ : SessionId) : Action Storage Unit := fun s =>
  (s.record .closeSession).outcome s.script.sessionCloseFault

/-- How much of its blob a reader has not delivered. -/
def pending (id : ReaderId) (s : Storage) : Nat :=
  match s.readers[id]? with
  | none => 0
  | some r => r.left.rest.length

theorem pending_read (id : ReaderId) (room : Nat) (s : Storage) (data : Bytes) (s' : Storage)
    (h : (read id room).run s = (.ok data, s')) (hne : data ≠ []) :
    pending id s' < pending id s := by
  simp only [Action.run, read] at h
  cases hr : s.readers[id]? with
  | none =>
    rw [hr] at h
    cases h
    exact absurd rfl hne
  | some r =>
    rw [hr] at h
    simp only at h
    cases hn : r.left.next (min room (r.left.piece.getD room)) with
    | error failure =>
      rw [hn] at h
      cases h
    | ok piece =>
      rw [hn] at h
      cases h
      have hlt := Delivery.rest_lt hn hne
      have hid : id < s.readers.length := (List.getElem?_eq_some_iff.1 hr).1
      simp only [pending, setReader, hr, List.getElem?_set_self hid]
      exact hlt

end Storage

/-- The blob source that follows a script. -/
def source : BlobSource Storage where
  component := .assembly
  newSession := Storage.newSession
  openBlob := Storage.openBlob
  read := Storage.read
  closeReader := Storage.closeReader
  closeSession := Storage.closeSession
  pending := Storage.pending
  pending_read := Storage.pending_read

end PhotoArchive.Scripted
