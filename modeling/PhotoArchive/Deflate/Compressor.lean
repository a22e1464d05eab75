import PhotoArchive.Deflate.Encode
import PhotoArchive.Deflate.Stored

/-!
# Compressors

A compressor takes data in pieces and may put out some of the stream after each piece; the rest
follows at the end. What it puts out together is a DEFLATE stream for the data.

## Main definitions

- `Compressor` — a compressor, with what it promises
- `Compressor.output` — everything that it puts out
- `Compressor.standard` — the compressor in use

## Design notes

A compressor is deterministic, so what it puts out is a function of the pieces so far, which are kept
newest first. The standard one puts out the whole stream at the end. It reads its stream back before
it hands it out, and stores the data as they are if they should not come back; that is how it keeps
its promise.
-/

namespace PhotoArchive.Deflate

/-- What a compressor puts out for some pieces that follow others, the latter newest first. -/
def outputOf (push : List Bytes → Bytes → Bytes) (finish : List Bytes → Bytes) :
    List Bytes → List Bytes → Bytes
  | before, [] => finish before
  | before, piece :: rest => push before piece ++ outputOf push finish (piece :: before) rest

/-- A compressor. -/
structure Compressor where
  /-- What is put out when a piece follows others. -/
  push : List Bytes → Bytes → Bytes
  /-- What is put out at the end. -/
  finish : List Bytes → Bytes
  /-- There is always something left for the end. -/
  finish_ne_nil : ∀ pieces, finish pieces ≠ []
  /-- Everything together is a stream for the data. -/
  inflate?_output : ∀ pieces, inflate? (outputOf push finish [] pieces) = some pieces.flatten

namespace Compressor

/-- Everything that a compressor puts out for some pieces. -/
def output (c : Compressor) (pieces : List Bytes) : Bytes := outputOf c.push c.finish [] pieces

/-- A stream for some data: the short one if it can be read back, and stored blocks otherwise. -/
def checked (data : Bytes) : Bytes :=
  if inflate? (encode data) = some data then encode data else storedStream data

theorem inflate?_checked (data : Bytes) : inflate? (checked data) = some data := by
  unfold checked
  split
  · assumption
  · exact inflate?_storedStream data

theorem checked_ne_nil (data : Bytes) : checked data ≠ [] := by
  intro h
  have := inflate?_checked data
  rw [h] at this
  exact absurd this (by simp [inflate?, inflateBlocks?, BitReader.bit?])

theorem outputOf_at_end (finish : List Bytes → Bytes) (before pieces : List Bytes) :
    outputOf (fun _ _ => []) finish before pieces = finish (pieces.reverse ++ before) := by
  induction pieces generalizing before with
  | nil => rfl
  | cons piece rest ih => simp [outputOf, ih]

/-- The compressor in use: it puts out the whole stream at the end. -/
def standard : Compressor where
  push := fun _ _ => []
  finish := fun pieces => checked pieces.reverse.flatten
  finish_ne_nil := fun _ => checked_ne_nil _
  inflate?_output := fun pieces => by
    rw [outputOf_at_end, List.append_nil, List.reverse_reverse]
    exact inflate?_checked _

end Compressor

end PhotoArchive.Deflate
