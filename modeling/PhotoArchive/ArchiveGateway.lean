import PhotoArchive.ArchiveFile
import PhotoArchive.Catalog
import PhotoArchive.Path

/-!
# Archive gateways

How an assembly writes an archive, whatever its format: it creates a writer, opens, writes and closes
one entry after the other, and finally completes the archive or gives it up.

## Main definitions

- `ArchiveGateway` — the operations on the writer of an archive

## Design notes

A writer is created once in an assembly, before there is any state that this could depend on; so how
it ends is a value. A gateway that sometimes has no writer is another gateway at each of these times.
-/

namespace PhotoArchive

/-- The operations on the writer of an archive; the state of the writer is of type `τ`. -/
structure ArchiveGateway (τ : Type) where
  /-- A new writer, or the failure to create one. -/
  create : Except Failure τ
  /-- Open an entry of a size that may be known, and give its handle. -/
  openEntry : Path → Option Int → Action τ Nat
  write : Nat → Bytes → Action τ Unit
  closeEntry : Nat → Action τ Unit
  /-- Complete the archive. -/
  finalize : τ → Except Refusal ArchiveFile × τ
  /-- Give the archive up. What goes wrong on the way can be noted. -/
  discard : Action τ (Option String)

end PhotoArchive
