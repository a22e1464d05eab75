import PhotoArchive.Action
import PhotoArchive.Bytes.Cursor

/-!
# Archive files

The file that an archive is written to and read from. It has a position, refuses some writes, and
refuses everything once it is closed. A refused write writes nothing.

## Main definitions

- `File` — a file and which writes it accepts
- `File.withCapacity`, `File.spooled` — a file of limited size, and one that starts out in memory
- `File.seek`, `File.tell`, `File.write`, `File.read` — the operations at its position
- `File.readAll` — read it from the beginning to the end
- `File.Receiver`, `File.deliver` — hand it to a receiver piece by piece
- `File.chunks` — collect the pieces

## Design notes

Which writes are accepted depends on how many were tried before, on the position and on the length of
the data, so that every pattern of refusals is possible. A file in memory that has grown past a limit
moves to the disk; that shows in which numbers of bytes can be asked for, and in the words in which it
refuses operations once it is closed. Only where room is made for a number of bytes before there are
any can it be refused; that there is memory for the bytes of a file is not in question.
-/

namespace PhotoArchive

/-- A file that an archive is written to. -/
structure File where
  cursor : Cursor := .empty
  isClosed : Bool := false
  /-- How many writes were tried so far. -/
  writes : Nat := 0
  /-- Whether a write is accepted, given the number of writes tried before it, the position and the
  length of the data. -/
  accepts : Nat → Nat → Nat → Bool := fun _ _ _ => true
  /-- The position behind which the file moves from memory to the disk; zero means never. -/
  memoryLimit : Nat := 0
  onDisk : Bool := false
  /-- Where bytes are read to from the disk. -/
  memory : Memory := .largest

namespace File

/-- Everything that is in the file. -/
def content (f : File) : Bytes := f.cursor.content

/-- An empty file in memory that cannot grow past `capacity` bytes. -/
def withCapacity (capacity : Nat) : File where
  accepts := fun _ position length => decide (position + length ≤ capacity)

/-- An empty file that starts out in memory and moves to the disk when it grows. -/
def spooled (memoryLimit : Nat) (memory : Memory) : File where
  memoryLimit := memoryLimit
  memory := memory

/-- Close the file; closing it twice is harmless. -/
def close (f : File) : File := { f with isClosed := true }

/-- Take an action on the file unless it is closed. -/
def unlessClosed (access : FileAccess) (a : Action File α) : Action File α := fun f =>
  if f.isClosed then (.error (.closedFile (!f.onDisk) access), f) else a.run f

/-- Go to a position. -/
def seek (position : Nat) : Action File Unit :=
  unlessClosed .seek (.modify fun f => { f with cursor := f.cursor.moveTo position })

/-- The position. -/
def tell : Action File Nat := unlessClosed .tell (.ask (·.cursor.position))

/-- What the file becomes when `data` is written at its position. -/
def written (f : File) (data : Bytes) : File :=
  let cursor := f.cursor.overwrite data
  { f with
    cursor
    writes := f.writes + 1
    onDisk := f.onDisk || decide (f.memoryLimit ≠ 0 ∧ f.memoryLimit < cursor.position) }

/-- Write at the position, or write nothing. -/
def write (data : Bytes) : Action File Unit :=
  unlessClosed .write fun f =>
    if f.accepts f.writes f.cursor.position data.length then (.ok (), f.written data)
    else (.error (.file { fault := .noSpace }), { f with writes := f.writes + 1 })

/-- The length of the header of what is read from the disk. -/
def readHeader : Nat := 33

/-- Why so many bytes cannot be read, if they cannot. In memory, all negative numbers stand for all
bytes; on the disk only -1 does, and room is made for the bytes before there are any. -/
def lengthFault? (f : File) (n : Int) : Option LengthFault :=
  if n < -wordLimit ∨ wordLimit ≤ n then some (.noRoom .tooLarge)
  else if !f.onDisk ∨ n = -1 then none
  else if n < 0 then some .negative
  else (f.memory.fault? readHeader n.toNat).map .noRoom

/-- So many bytes can be read exactly if their number fits a machine word and, from the disk, if there is
room for them and their header in the memory. -/
theorem lengthFault?_eq_none_iff {f : File} {n : Nat} :
    f.lengthFault? n = none ↔
      n < wordLimit ∧ (f.onDisk = true → f.memory.hasRoom (readHeader + n) = true) := by
  unfold lengthFault?
  by_cases hword : n < wordLimit
  · rw [if_neg (by omega)]
    cases hdisk : f.onDisk with
    | false => simp [hword]
    | true =>
      rw [if_neg (by simp), if_neg (by omega), Option.map_eq_none_iff, Int.toNat_natCast,
        Memory.fault?_eq_none_iff]
      simp [hword]
  · rw [if_pos (by omega)]
    simp [hword]

/-- Read at most `n` bytes from the position on; a negative `n` stands for all of them. -/
def read (n : Int) : Action File Bytes :=
  unlessClosed .read fun f =>
    match f.lengthFault? n with
    | some fault => (.error (.length fault), f)
    | none =>
      let data := if n < 0 then f.cursor.after else f.cursor.after.take n.toNat
      (.ok data, { f with cursor := f.cursor.moveTo (f.cursor.position + data.length) })

/-- Read the file from the beginning to the end. -/
def readAll : Action File Bytes := do
  seek 0
  read (-1)

/-! ## Reading in pieces -/

/-- What is read has been taken from behind the position. -/
theorem length_after_of_read {n : Int} {f f' : File} {data : Bytes}
    (h : (read n).run f = (.ok data, f')) (hne : data ≠ []) :
    f'.cursor.after.length < f.cursor.after.length := by
  have hpositive := List.length_pos_iff.2 hne
  have hcursor : f'.cursor = f.cursor.moveTo (f.cursor.position + data.length) ∧
      data.length ≤ f.cursor.after.length := by
    simp only [read, unlessClosed, Action.run] at h
    split at h
    · cases h
    split at h
    · cases h
    cases h
    refine ⟨rfl, ?_⟩
    split
    · exact Nat.le_refl _
    · exact List.length_take_le' _ _
  have hbehind := f.cursor.length_after
  rw [hcursor.1, Cursor.length_after, Cursor.position_moveTo, Cursor.content_moveTo]
  omega

/-- Takes pieces of a file, one after the other; what has become of them is a state of type `κ`. -/
structure Receiver (κ : Type) where
  take : Bytes → Action κ Unit
  /-- Whether it waits for another piece. -/
  isWaiting : κ → Bool := fun _ => true

/-- Hand what lies behind the position to a receiver, in pieces of at most `n` bytes. The file is
closed when nothing is left, when it cannot be read, and when the receiver waits no more. A receiver
that fails leaves it open. -/
def handOver {κ : Type} (n : Int) (r : Receiver κ) (s : File × κ) :
    Except Failure Unit × File × κ :=
  if r.isWaiting s.2 then
    match _h : (read n).run s.1 with
    | (.error e, f) => (.error e, f.close, s.2)
    | (.ok piece, f) =>
      if _hne : piece = [] then (.ok (), f.close, s.2)
      else
        match (r.take piece).run s.2 with
        | (.error e, k) => (.error e, f, k)
        | (.ok _, k) => handOver n r (f, k)
  else (.ok (), s.1.close, s.2)
termination_by s.1.cursor.after.length
decreasing_by exact length_after_of_read _h _hne

section HandOver

variable {κ : Type} {n : Int} {r : Receiver κ} {f g : File} {k k' : κ} {piece : Bytes} {e : Failure}

/-- A receiver that does not wait gets nothing more. -/
theorem handOver_of_not_waiting (h : r.isWaiting k = false) :
    handOver n r (f, k) = (.ok (), f.close, k) := by
  rw [handOver]
  simp [h]

/-- Handing over stops at a read that fails. -/
theorem handOver_of_error (h : r.isWaiting k = true) (hread : (read n).run f = (.error e, g)) :
    handOver n r (f, k) = (.error e, g.close, k) := by
  rw [handOver]
  simp only [h, if_true]
  split <;> simp_all

/-- Handing over ends when nothing is left. -/
theorem handOver_of_end (h : r.isWaiting k = true) (hread : (read n).run f = (.ok [], g)) :
    handOver n r (f, k) = (.ok (), g.close, k) := by
  rw [handOver]
  simp only [h, if_true]
  split <;> simp_all

/-- Handing over stops at a piece that the receiver does not take. -/
theorem handOver_of_refused (h : r.isWaiting k = true) (hread : (read n).run f = (.ok piece, g))
    (hne : piece ≠ []) (htake : (r.take piece).run k = (.error e, k')) :
    handOver n r (f, k) = (.error e, g, k') := by
  rw [handOver]
  simp only [h, if_true]
  split <;> simp_all

/-- Handing over goes on behind a piece that the receiver has taken. -/
theorem handOver_of_taken (h : r.isWaiting k = true) (hread : (read n).run f = (.ok piece, g))
    (hne : piece ≠ []) (htake : (r.take piece).run k = (.ok (), k')) :
    handOver n r (f, k) = handOver n r (g, k') := by
  rw [handOver]
  simp only [h, if_true]
  split <;> simp_all

end HandOver

/-- Hand the file to a receiver from the beginning, in pieces of at most `n` bytes. -/
def deliver {κ : Type} (n : Int) (r : Receiver κ) : Action (File × κ) Unit := fun s =>
  match (seek 0).run s.1 with
  | (.error e, f) => (.error e, f, s.2)
  | (.ok _, f) => handOver n r (f, s.2)

/-- Keeps all pieces, or waits no more when it has so many. -/
def collector (most : Option Nat) : Receiver (List Bytes) where
  take := fun piece => .modify (· ++ [piece])
  isWaiting := fun kept => most ≠ some kept.length

/-- Read the file from the beginning in chunks of at most `n` bytes and close it. A reader that has
had enough after `most` chunks closes it as well. -/
def chunks (n : Int) (most : Option Nat) : Action File (List Bytes) := fun f =>
  match (deliver n (collector most)).run (f, []) with
  | (.ok _, f, pieces) => (.ok pieces, f)
  | (.error e, f, _) => (.error e, f)

/-! ## What the operations do -/

theorem content_close (f : File) : f.close.content = f.content := rfl

theorem run_seek {f : File} (h : f.isClosed = false) (position : Nat) :
    (seek position).run f = (.ok (), { f with cursor := f.cursor.moveTo position }) := by
  simp [seek, unlessClosed, Action.run, h, Action.modify]

theorem run_tell {f : File} (h : f.isClosed = false) :
    tell.run f = (.ok f.cursor.position, f) := by
  simp [tell, unlessClosed, Action.run, h, Action.ask]

/-- An accepted write replaces what is at the position. -/
theorem run_write_of_accepts {f : File} (h : f.isClosed = false) {data : Bytes}
    (ha : f.accepts f.writes f.cursor.position data.length = true) :
    (write data).run f = (.ok (), f.written data) := by
  simp [write, unlessClosed, Action.run, h, ha]

/-- A refused write writes nothing. -/
theorem run_write_of_refuses {f : File} (h : f.isClosed = false) {data : Bytes}
    (ha : f.accepts f.writes f.cursor.position data.length = false) :
    (write data).run f =
      (.error (.file { fault := .noSpace }), { f with writes := f.writes + 1 }) := by
  simp [write, unlessClosed, Action.run, h, ha]

theorem content_written (f : File) (data : Bytes) :
    (f.written data).content = f.content.overlay f.cursor.position data :=
  f.cursor.content_overwrite data

end File

end PhotoArchive
