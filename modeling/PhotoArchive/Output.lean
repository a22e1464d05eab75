import PhotoArchive.File
import PhotoArchive.Storage.FileTree

/-!
# Output files

Where archives are written to in the end: a file is created, or loses what it held, gets one piece
after the other, and is closed.

## Main definitions

- `Outputs` — the operations on output files
- `Outputs.receiver` — writes the pieces that it is handed to an output file
- `Disk` — a file tree, and which writes it accepts
- `Disk.outputs` — output files on a disk

## Design notes

What is written shows in the file at once, although the last of it may still be held back in memory.
That shows only when the file is closed and what was held back cannot be written any more: it is
missing from the file then.
-/

namespace PhotoArchive

/-- The number of an output file. -/
abbrev OutputId := Nat

/-- The operations on output files; what becomes of them is a state of type `ω`. -/
structure Outputs (ω : Type) where
  /-- Open the file with a name for writing; it is empty then. -/
  create : String → Action ω OutputId
  write : OutputId → Bytes → Action ω Unit
  close : OutputId → Action ω Unit

/-- Writes the pieces that it is handed to an output file. -/
def Outputs.receiver {ω : Type} (outputs : Outputs ω) (file : OutputId) : File.Receiver ω where
  take := outputs.write file

/-- A file tree, and which writes it accepts. -/
structure Disk where
  tree : FileTree
  /-- How many writes were tried so far. -/
  writes : Nat := 0
  /-- Whether a write is accepted, given the number of writes tried before it and the length of the
  data. -/
  accepts : Nat → Nat → Bool := fun _ _ => true
  /-- How many bytes at the end of a file are lost when it is closed and these are refused, if that
  is so. -/
  heldBack : Option Nat := none

namespace Disk

/-- Open the file with a name for writing. -/
def create (name : String) : Action Disk OutputId := fun d =>
  match FileName.refusal? name with
  | some failure => (.error failure, d)
  | none =>
    match d.tree.create name with
    | .ok (file, tree) => (.ok file, { d with tree })
    | .error fault => (.error (.file { fault, path := some name }), d)

/-- Write behind what a file holds, or write nothing. -/
def write (file : OutputId) (data : Bytes) : Action Disk Unit := fun d =>
  if d.accepts d.writes data.length then
    (.ok (),
      { d with
        tree := d.tree.setContent file (d.tree.content file ++ data)
        writes := d.writes + 1 })
  else (.error (.file { fault := .noSpace }), { d with writes := d.writes + 1 })

/-- Close a file. What was held back is lost if it cannot be written. -/
def close (file : OutputId) : Action Disk Unit := fun d =>
  match d.heldBack with
  | none => (.ok (), d)
  | some lost =>
    let kept := (d.tree.content file).take ((d.tree.content file).length - lost)
    (.error (.file { fault := .noSpace }), { d with tree := d.tree.setContent file kept })

/-- Output files on a disk. -/
def outputs : Outputs Disk where
  create := create
  write := write
  close := close

end Disk

end PhotoArchive
