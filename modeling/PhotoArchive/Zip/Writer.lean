import PhotoArchive.ArchiveFile
import PhotoArchive.Catalog
import PhotoArchive.Deflate.Compressor
import PhotoArchive.Zip.Margin
import PhotoArchive.Zip.Record

/-!
# Writing an archive

A writer adds one entry after the other to a file. The header of an entry is written when the entry
is opened and written again, with its sizes and its checksum, when the entry is closed. The writer is
used up by `finalize`, which completes the archive, or by `discard`, which gives it up.

## Main definitions

- `Writer` — a writer and its file
- `Writer.openEntry`, `Writer.write`, `Writer.closeEntry` — add an entry
- `Writer.finalize`, `Writer.discard` — complete the archive or give it up
- `Writer.Operation`, `Writer.perform` — these operations as data

## Design notes

What is written counts towards the size and the checksum of an entry before the file is asked to take
it; an entry whose data were refused is recorded all the same. An entry that does not get as far as
its second header is not recorded, and the next one begins where the directory would have begun.

How large a declared size may be without room for large sizes, the order of the checks and the texts of
the failures are those of the same releases as the layout of the records.
-/

namespace PhotoArchive.Zip

open Deflate (Compressor)

/-- How the data of entries are kept. -/
inductive Method where
  | stored
  | deflated (compressor : Compressor)

/-- The number of a method in the records. -/
def Method.number : Method → Nat
  | stored => 0
  | deflated _ => 8

/-- An entry that is being written. -/
structure OpenEntry where
  /-- The number under which it was opened. -/
  handle : Nat
  name : String
  offset : Nat
  version : Nat
  /-- Whether its header has room for large sizes. -/
  room : Bool
  /-- How many bytes were written to it. -/
  size : Nat := 0
  /-- The checksum of these bytes. -/
  crc : UInt32 := 0
  /-- How long their compressed form is so far. -/
  compressedSize : Nat := 0
  /-- What was given to the compressor, newest first. -/
  pieces : List Bytes := []

namespace OpenEntry

/-- Count a piece of data towards its entry. -/
def count (e : OpenEntry) (data output : Bytes) : OpenEntry :=
  { e with
    size := e.size + data.length
    crc := Crc32.continueFrom e.crc data
    compressedSize := e.compressedSize + output.length
    pieces := data :: e.pieces }

/-- The record of an entry, given the length of its data in the file. -/
def entry (e : OpenEntry) (method compressedSize : Nat) (limit : Int) : Entry :=
  { name := e.name, method, version := e.version, crc := e.crc, size := e.size
    compressedSize, offset := e.offset : Entry }.withVersion limit

end OpenEntry

/-- A writer and its file. -/
structure Writer where
  file : File
  method : Method
  /-- The largest number that is written into the older fields. -/
  limit : Int := standardLimit
  /-- The entries that are complete, in the order in which they were closed. -/
  entries : List Entry := []
  /-- Where the directory would begin. -/
  directoryStart : Nat := 0
  current : Option OpenEntry := none
  /-- How many entries have been opened. -/
  opened : Nat := 0
  /-- Whether the directory has been written, or tried to be. -/
  isClosed : Bool := false
  /-- Whether the writer is used up. -/
  isFinalized : Bool := false

namespace Writer

/-- A writer on an empty file. -/
def new (file : File) (method : Method) (limit : Int) : Writer := { file, method, limit }

/-- Take an action on the file of a writer. -/
def onFile (a : Action File α) : Action Writer α :=
  a.within (·.file) fun file w => { w with file }

/-- Take what may be missing for a number that is too large. -/
def fitting : Option α → Action Writer α
  | some x => .done x
  | none => .fail (.archive .fieldOverflow)

/-! ## Entries -/

/-- Why the name of an entry cannot be written, if it cannot. -/
def nameFailure? (name : String) : Option Failure :=
  (Text.encodingFault? name).map .unencodable

/-- Why there cannot be a first header for a name and a declared size, if there cannot. The room for
large sizes is filled first, then the name is encoded. -/
def headerFailure? (name : String) (size : Int) (room : Bool) (limit : Int) : Option Failure :=
  if room then
    if 0 ≤ size ∧ size < 0x10000000000000000 then nameFailure? name
    else some (.archive .fieldOverflow)
  else if size < 0 ∧ limit < 0 then some (.archive .noRoom)
  else nameFailure? name <|> if size < 0 then some (.archive .fieldOverflow) else none

/-- Write the first header of an entry where the directory would begin. -/
def beginEntry (name : String) (size : Int) (room : Bool) : Action Writer Nat := do
  onFile (File.seek (← Action.ask (·.directoryStart)))
  let offset ← onFile File.tell
  let method ← Action.ask (·.method.number)
  let limit ← Action.ask (·.limit)
  match headerFailure? name size room limit with
  | some failure => .fail failure
  | none =>
    let entry := { name, method, size := size.toNat, offset : Entry }.withVersion limit
    onFile (File.write (← fitting (entry.localHeader? limit room)))
    let handle ← Action.ask (·.opened)
    Action.modify fun w =>
      { w with
        opened := handle + 1
        current := some { handle, name, offset, version := entry.version, room } }
    return handle

/-- Open an entry of a declared size, if that is known, and give its handle. -/
def openEntry (name : String) (declared : Option Int) : Action Writer Nat := do
  if ← Action.ask (·.isClosed) then .fail (.archive .archiveClosed)
  else if ← Action.ask (·.current.isSome) then .fail (.archive .anotherEntryOpen)
  else
    match declared with
    | none => beginEntry name 0 true
    | some size =>
      match needsRoom? (← Action.ask (·.limit)) size with
      | some room => beginEntry name size room
      | none => .fail (.archive .sizeOutOfRange)

/-- What a piece of data becomes on its way to the file. -/
def compressed (w : Writer) (e : OpenEntry) (data : Bytes) : Bytes :=
  match w.method with
  | .stored => data
  | .deflated compressor => compressor.push e.pieces data

/-- What is left of the data of an entry when it is closed. -/
def remainder (w : Writer) (e : OpenEntry) : Option Bytes :=
  match w.method with
  | .stored => none
  | .deflated compressor => some (compressor.finish e.pieces)

/-- The entry that is open under a handle. -/
def entryAt? (w : Writer) (handle : Nat) : Option OpenEntry :=
  w.current.filter fun e => e.handle = handle

/-- Write to an entry, unless it has been closed. -/
def write (handle : Nat) (data : Bytes) : Action Writer Unit := fun w =>
  match w.entryAt? handle with
  | none => (.error (.closedFile true .write), w)
  | some e =>
    let output := w.compressed e data
    (onFile (File.write output)).run { w with current := some (e.count data output) }

/-- Write what is left of the data of an entry, tell the length of all its data in the file, and
check it against the room in the header. -/
def completeData (e : OpenEntry) : Action Writer Nat := do
  let rest ← Action.ask (·.remainder e)
  let limit ← Action.ask (·.limit)
  match rest with
  | none => pure ()
  | some output => onFile (File.write output)
  let length := e.compressedSize + (rest.getD []).length
  if !e.room && decide (limit < e.size) then .fail (.archive .sizeLimit)
  else if !e.room && decide (limit < length) then .fail (.archive .compressedSizeLimit)
  else return length

/-- Write the rest of an entry and its header once more, and record the entry. -/
def completeEntry (e : OpenEntry) : Action Writer Unit := do
  let length ← completeData e
  let method ← Action.ask (·.method.number)
  let limit ← Action.ask (·.limit)
  let finish ← onFile File.tell
  Action.modify fun w => { w with directoryStart := finish }
  onFile (File.seek e.offset)
  let entry := e.entry method length limit
  onFile (File.write (← fitting (entry.localHeader? limit e.room)))
  onFile (File.seek finish)
  Action.modify fun w => { w with entries := w.entries ++ [entry] }

/-- Close an entry. However that ends, no entry is open afterwards. Closing an entry twice is
harmless. -/
def closeEntry (handle : Nat) : Action Writer Unit := fun w =>
  match w.entryAt? handle with
  | none => (.ok (), w)
  | some e =>
    ((completeEntry e).ensuring (.modify fun w => { w with current := none })).run w

/-! ## The directory -/

/-- Write pieces one after the other. -/
def writePieces : List Bytes → Action Writer Unit
  | [] => .done ()
  | piece :: rest => do
    onFile (File.write piece)
    writePieces rest

/-- Write the records of some entries. -/
def writeRecords (limit : Int) : List Entry → Action Writer Unit
  | [] => .done ()
  | entry :: rest => do
    writePieces (← fitting (entry.centralRecord? limit))
    writeRecords limit rest

/-- Write the directory and what comes behind it. -/
def writeDirectory : Action Writer Unit := do
  let start ← Action.ask (·.directoryStart)
  let limit ← Action.ask (·.limit)
  let entries ← Action.ask (·.entries)
  onFile (File.seek start)
  writeRecords limit entries
  let finish ← onFile File.tell
  writePieces (← fitting (endRecords? limit
    { count := entries.length, size := finish - start, offset := start }))

/-- Close the archive. However that ends, it is closed afterwards; closing it twice is harmless. An
open entry has to be closed before. -/
def closeArchive : Action Writer Unit := do
  if ← Action.ask (·.isClosed) then return ()
  else if ← Action.ask (·.current.isSome) then .fail (.archive .entryStillOpen)
  else writeDirectory.ensuring (.modify fun w => { w with isClosed := true })

/-- Close the archive, and go to the beginning of the file. Gives the size of the archive. -/
def completeArchive : Action Writer Nat := do
  closeArchive
  let size ← onFile File.tell
  onFile (File.seek 0)
  return size

/-- The file that a writer leaves closed. -/
def closeFile (w : Writer) : Writer := { w with file := w.file.close }

/-- The failures that end the work on an archive in an orderly way. -/
def IsWriteFailure (e : Failure) : Prop := e.IsSystemError ∨ e.IsValueError

instance : DecidablePred IsWriteFailure := fun _ => by
  unfold IsWriteFailure
  infer_instance

/-- Complete the archive and give its size. When the archive cannot be completed, the file is
closed. A writer can be used up only once. -/
def finalize (w : Writer) : Except Refusal Nat × Writer :=
  if w.isFinalized then
    (.error { failure := .archiveFinalize "archive already finalized" }, w)
  else
    match completeArchive.run { w with isFinalized := true } with
    | (.ok size, w) => (.ok size, w)
    | (.error e, w) =>
      if IsWriteFailure e then
        (.error { failure := .archiveFinalize e.message, report := some e.message }, w.closeFile)
      else (.error { failure := e }, w)

/-- Give the archive up and close its file. Gives a note on what went wrong on the way, if
anything. -/
def discard : Action Writer (Option String) := fun w =>
  match closeArchive.run { w with isFinalized := true } with
  | (.ok _, w) => (.ok none, w.closeFile)
  | (.error e, w) =>
    if IsWriteFailure e then (.ok (some ("archive discarded with error: " ++ e.message)), w.closeFile)
    else (.error e, w.closeFile)

/-- The archive that a writer has completed. -/
def archive (w : Writer) (size : Nat) : ArchiveFile := { file := w.file, size }

/-! ## Operations as data -/

/-- What can be done with a writer. -/
inductive Operation where
  | openEntry (name : String) (declared : Option Int)
  | write (handle : Nat) (data : Bytes)
  | closeEntry (handle : Nat)
  | finalize
  | discard
  deriving DecidableEq, Repr

/-- How an operation ends when it does not fail. -/
inductive Outcome where
  | done
  | opened (handle : Nat)
  | finalized (size : Nat)
  | discarded (note : Option String)
  deriving DecidableEq, Repr

/-- Carry out an operation. -/
def perform (w : Writer) : Operation → Except Refusal Outcome × Writer
  | .openEntry name declared => plain Outcome.opened ((Writer.openEntry name declared).run w)
  | .write handle data => plain (fun _ => .done) ((Writer.write handle data).run w)
  | .closeEntry handle => plain (fun _ => .done) ((Writer.closeEntry handle).run w)
  | .finalize =>
    match w.finalize with
    | (.ok size, w) => (.ok (.finalized size), w)
    | (.error refusal, w) => (.error refusal, w)
  | .discard => plain Outcome.discarded (Writer.discard.run w)
where
  /-- A failure that nothing was logged about. -/
  plain {α : Type} (result : α → Outcome) : Except Failure α × Writer → Except Refusal Outcome × Writer
    | (.ok x, w) => (.ok (result x), w)
    | (.error failure, w) => (.error { failure }, w)

end Writer

end PhotoArchive.Zip
