import PhotoArchive.Storage.FileTree
import PhotoArchive.Storage.Source

/-!
# Photos in a directory

The blob source whose blobs are the files below a root directory. A reader reads a file through a
buffer: what is in the buffer does not change when the file changes.

## Main definitions

- `Directory.State` — a file tree with the sessions and readers on it
- `Directory.source` — the blob source for a root directory

## Main statements

- `Directory.length_readBuffered_add_rest` — reading takes as much from the file and the buffer as it delivers

## Design notes

A session remembers the readers that were not closed when the last one was opened, and closes them
when it is closed itself, up to the first one whose closing fails. A file counts as closed even if
closing it fails. That reading or closing a file fails can be prescribed for each reader.

The file name of a blob is put together as on a POSIX system, where the segments of a key are joined
to the root with slashes.

`blobName` is irreducible, so that file names of blobs are compared by lemmas about them and not by
computing them.
-/

namespace PhotoArchive.Directory

/-- The length of the buffer of a reader. -/
def blockSize : Nat := 4096

/-- A reader of a file. -/
structure Reader where
  key : String
  /-- The identity of the file. -/
  file : Nat
  size : Option Int
  /-- How much of the file has been taken into the buffer or delivered. -/
  position : Nat := 0
  /-- What has been taken from the file and not been delivered. -/
  buffer : Bytes := []
  /-- How often its file has been closed. -/
  closings : Nat := 0
  /-- How reading fails, if it does. -/
  readFault : Option Failure := none
  /-- How closing fails, if it does. -/
  closeFault : Option Failure := none
  deriving DecidableEq

/-- A reader is closed once its file has been. -/
def Reader.isClosed (r : Reader) : Bool := decide (0 < r.closings)

/-- A file tree with the sessions and readers on it; a session is the list of readers that it
remembers. -/
structure State where
  tree : FileTree
  sessions : List (List ReaderId) := []
  readers : List Reader := []
  deriving DecidableEq

namespace State

/-- The reader with a number. -/
def reader? (s : State) (id : ReaderId) : Option Reader := s.readers[id]?

/-- Whether a reader has been closed. -/
def readerIsClosed (s : State) (id : ReaderId) : Bool :=
  ((s.reader? id).map Reader.isClosed).getD true

/-- Put a reader in the place of another one. -/
def setReader (s : State) (id : ReaderId) (r : Reader) : State :=
  { s with readers := s.readers.set id r }

/-- A reader for a file, remembered by its session. -/
def addReader (s : State) (id : SessionId) (key : String) (file : Nat) : OpenedBlob × State :=
  let reader := s.readers.length
  let size : Int := (s.tree.content file).length
  let remembered := (s.sessions.getD id []).filter fun r => !s.readerIsClosed r
  ({ reader, size := some size },
    { s with
      sessions := s.sessions.set id (remembered ++ [reader])
      readers := s.readers ++ [{ key, file, size := some size }] })

end State

/-! ## Sessions and readers -/

/-- Open a session, provided that the root is a directory. -/
def newSession (root : FileName) (s : State) : Except Refusal SessionId × State :=
  match s.tree.isDirectory root.text with
  | .error fault => (.error { failure := .file { fault, path := some root.text } }, s)
  | .ok false =>
    (.error
      { failure := .storageSession (root.text ++ " is not a directory")
        report := some ("storage root " ++ root.text ++ " is not a directory") }, s)
  | .ok true => (.ok s.sessions.length, { s with sessions := s.sessions ++ [[]] })

/-- The file name of the blob with a key. -/
@[irreducible] def blobName (root : FileName) (key : Path) : FileName := root.below key.parts

/-- The failure to open a blob that is reported for a fault of the file system. -/
def openFailure (root : FileName) (key : Path) : FileFault → Failure
  | .noEntry | .isDirectory | .notDirectory => .blobNotFound key.value
  | fault =>
    .blobRead key.value (FileError.message { fault, path := some (blobName root key).text })

/-- The file that holds the blob with a key. If no file can have its name, that is not turned into a
failure of the blob. -/
def findFile (root : FileName) (key : Path) (t : FileTree) : Except Failure Nat :=
  match FileName.refusal? (blobName root key).text with
  | some failure => .error failure
  | none => (t.openFile (blobName root key).text).mapError (openFailure root key)

/-- Open a reader for a file. -/
def openBlob (root : FileName) (id : SessionId) (key : Path) : Action State OpenedBlob := fun s =>
  match findFile root key s.tree with
  | .error failure => (.error failure, s)
  | .ok file =>
    let (blob, s) := s.addReader id key.value file
    (.ok blob, s)

/-- Deliver `room` bytes from the buffer and the file, or as many as there are. What the buffer does
not have is taken from the file in whole blocks; the last, incomplete one goes through the
buffer. -/
def readBuffered (content : Bytes) (r : Reader) (room : Nat) : Bytes × Reader :=
  if room ≤ r.buffer.length then
    (r.buffer.take room, { r with buffer := r.buffer.drop room })
  else
    let wanted := room - r.buffer.length
    let direct := (content.drop r.position).take (wanted - wanted % blockSize)
    let position := r.position + direct.length
    let block := if wanted % blockSize = 0 then [] else (content.drop position).take blockSize
    (r.buffer ++ direct ++ block.take (wanted % blockSize),
      { r with position := position + block.length, buffer := block.drop (wanted % blockSize) })

/-- How much a reader has not delivered, of its buffer and of the file. -/
def Reader.rest (content : Bytes) (r : Reader) : Nat :=
  r.buffer.length + (content.length - r.position)

/-- Reading takes as much from the buffer and the file as it delivers. -/
theorem length_readBuffered_add_rest (content : Bytes) (r : Reader) (room : Nat) :
    (readBuffered content r room).1.length + (readBuffered content r room).2.rest content
      = r.rest content := by
  unfold readBuffered
  split
  · simp only [Reader.rest, List.length_take, List.length_drop]
    omega
  · simp only [Reader.rest]
    split
    · simp only [List.length_append, List.length_take, List.length_drop, List.length_nil]
      omega
    · simp only [List.length_append, List.length_take, List.length_drop]
      have : (room - r.buffer.length) % blockSize < blockSize :=
        Nat.mod_lt _ (by decide)
      omega

theorem file_readBuffered (content : Bytes) (r : Reader) (room : Nat) :
    (readBuffered content r room).2.file = r.file := by
  unfold readBuffered
  split <;> rfl

/-- The next piece of a file. -/
def read (id : ReaderId) (room : Nat) : Action State Bytes := fun s =>
  match s.reader? id with
  | none => (.ok [], s)
  | some r =>
    match r.readFault with
    | some failure =>
      (.error (if failure.IsSystemError then .blobRead r.key failure.message else failure), s)
    | none =>
      if r.isClosed then (.error (.closedFile false .read), s)
      else
        let (data, r') := readBuffered (s.tree.content r.file) r room
        (.ok data, s.setReader id r')

/-- Close a reader. Closing it twice is harmless. -/
def closeReader (id : ReaderId) : Action State Unit := fun s =>
  match s.reader? id with
  | none => (.ok (), s)
  | some r =>
    if r.isClosed then (.ok (), s)
    else
      let s := s.setReader id { r with closings := r.closings + 1 }
      match r.closeFault with
      | some failure => (.error failure, s)
      | none => (.ok (), s)

/-- Close readers one after the other, up to the first one whose closing fails. -/
def closeReaders : List ReaderId → Action State Unit
  | [] => .done ()
  | reader :: rest => do
    closeReader reader
    closeReaders rest

/-- Close a session with the readers that it remembers. -/
def closeSession (id : SessionId) : Action State Unit := fun s =>
  (closeReaders (s.sessions.getD id [])).run { s with sessions := s.sessions.set id [] }

/-- A bound on what a reader may still deliver. -/
def pending (id : ReaderId) (s : State) : Nat :=
  match s.reader? id with
  | none => 0
  | some r => r.rest (s.tree.content r.file)

theorem pending_read (id : ReaderId) (room : Nat) (s : State) (data : Bytes) (s' : State)
    (h : (read id room).run s = (.ok data, s')) (hne : data ≠ []) :
    pending id s' < pending id s := by
  have hpos : 0 < data.length := List.length_pos_iff.2 hne
  simp only [Action.run, read] at h
  cases hr : s.reader? id with
  | none =>
    rw [hr] at h
    cases h
    exact absurd rfl hne
  | some r =>
    rw [hr] at h
    simp only at h
    split at h
    · cases h
    · split at h
      · cases h
      · cases h
        have hid : id < s.readers.length := (List.getElem?_eq_some_iff.1 hr).1
        have hspec := length_readBuffered_add_rest (s.tree.content r.file) r room
        have hfile := file_readBuffered (s.tree.content r.file) r room
        have hr' : s.readers[id]? = some r := hr
        simp only [pending, hr', State.setReader, State.reader?, List.getElem?_set_self hid, hfile]
        omega

/-- The blob source of the files below a root directory. -/
def source (root : FileName) : BlobSource State where
  component := .directory
  newSession := newSession root
  openBlob := openBlob root
  read := read
  closeReader := closeReader
  closeSession := closeSession
  pending := pending
  pending_read := pending_read

end PhotoArchive.Directory
