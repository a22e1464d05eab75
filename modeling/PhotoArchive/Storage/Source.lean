import PhotoArchive.Action
import PhotoArchive.Bytes
import PhotoArchive.Catalog
import PhotoArchive.Log
import PhotoArchive.Path

/-!
# Blob sources

A blob source opens sessions, a session opens readers, and a reader delivers the bytes of one blob
piece by piece, an empty piece at the end. Sessions and readers are numbers; what they are at any
time is part of the state of the storage.

## Main definitions

- `BlobSource` — the operations of a storage
- `OpenedBlob` — a reader with the size that its blob is said to have
- `Delivery` — a blob that is delivered by a script

## Design notes

A blob does not go on forever. What a reader may still deliver is bounded by a number that every
non-empty piece makes smaller; this is what makes copying a blob terminate.

A reader fills a buffer and says how many bytes it has put there. Here it gives these bytes, which may
be more than there is room for. A reader that says a number larger than the buffer is long without
having filled it as far breaks its contract, and is left out.
-/

namespace PhotoArchive

/-- The number of a session. -/
abbrev SessionId := Nat

/-- The number of a reader. -/
abbrev ReaderId := Nat

/-- A reader for a blob, and the size that the blob is said to have, if that is known. -/
structure OpenedBlob where
  reader : ReaderId
  size : Option Int
  deriving DecidableEq, Repr

/-- The operations of a storage whose state is of type `σ`. -/
structure BlobSource (σ : Type) where
  /-- Who speaks when a session cannot be opened. -/
  component : Log.Component
  newSession : σ → Except Refusal SessionId × σ
  openBlob : SessionId → Path → Action σ OpenedBlob
  /-- The next piece of a blob, given how many bytes there is room for. -/
  read : ReaderId → Nat → Action σ Bytes
  closeReader : ReaderId → Action σ Unit
  closeSession : SessionId → Action σ Unit
  /-- A bound on what a reader may still deliver. -/
  pending : ReaderId → σ → Nat
  pending_read : ∀ reader room s data s', (read reader room).run s = (.ok data, s') → data ≠ [] →
    pending reader s' < pending reader s

/-! ## Scripted blobs -/

/-- The bytes of a blob that are left, and how they are delivered. -/
structure Delivery where
  rest : Bytes
  /-- How many bytes have been delivered. -/
  position : Nat := 0
  /-- The length of a piece, if the script gives one. -/
  piece : Option Nat := none
  /-- From which position on reading fails, and how. Reads from before stop there. -/
  fault : Option (Nat × Failure) := none
  deriving DecidableEq

namespace Delivery

/-- The blob when its first `n` bytes have been delivered, or all of them. -/
def advance (d : Delivery) (n : Nat) : Delivery :=
  { d with rest := d.rest.drop n, position := d.position + (d.rest.take n).length }

/-- The next piece of at most `length` bytes, and what is left then. -/
def next (d : Delivery) (length : Nat) : Except Failure (Bytes × Delivery) :=
  match d.fault with
  | none => .ok (d.rest.take length, d.advance length)
  | some (limit, failure) =>
    if limit ≤ d.position then .error failure
    else
      let length := min length (limit - d.position)
      .ok (d.rest.take length, d.advance length)

/-- Less is left behind a piece that is not empty. -/
theorem rest_lt {d d' : Delivery} {length : Nat} {data : Bytes}
    (h : d.next length = .ok (data, d')) (hne : data ≠ []) : d'.rest.length < d.rest.length := by
  have key : ∀ n, d.rest.take n ≠ [] → (d.rest.drop n).length < d.rest.length := by
    intro n hn
    have : 0 < (d.rest.take n).length := List.length_pos_iff.2 hn
    simp only [List.length_take, List.length_drop] at this ⊢
    omega
  unfold next at h
  split at h
  · cases h
    exact key _ hne
  · split at h
    · cases h
    · cases h
      exact key _ hne

end Delivery

end PhotoArchive
