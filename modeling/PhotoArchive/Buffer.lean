import PhotoArchive.Bytes

/-!
# Buffers

A buffer has a length and is full of zeros at first. What it begins with is kept as bytes as far as
anything was written there; of the zeros behind that only the number is kept.

## Main definitions

- `Buffer` — what was written, and how many zeros follow
- `Buffer.contents`, `Buffer.length` — its view as a byte string
- `Buffer.fill`, `Buffer.truncate`, `Buffer.front` — write over its beginning, cut it, look at its
  beginning

## Main statements

- `Buffer.contents_fill` — filling is `Bytes.overlay` at the beginning
- `Buffer.contents_truncate`, `Buffer.front_eq_take` — cutting and looking are `List.take`
-/

namespace PhotoArchive

/-- A buffer: what was written at its beginning, and how many zeros follow. -/
structure Buffer where
  written : Bytes := []
  zeros : Nat := 0
  deriving DecidableEq, Repr

namespace Buffer

/-- All that is in a buffer. -/
def contents (b : Buffer) : Bytes := b.written ++ List.replicate b.zeros 0

/-- The length of a buffer. -/
def length (b : Buffer) : Nat := b.written.length + b.zeros

/-- Write over the beginning of a buffer; longer data make it longer. -/
def fill (b : Buffer) (data : Bytes) : Buffer where
  written := data ++ b.written.drop data.length
  zeros := b.zeros - (data.length - b.written.length)

/-- Cut a buffer behind its first `n` bytes. -/
def truncate (b : Buffer) (n : Nat) : Buffer where
  written := b.written.take n
  zeros := min (n - b.written.length) b.zeros

/-- The first `n` bytes of a buffer. -/
def front (b : Buffer) (n : Nat) : Bytes := (b.truncate n).contents

theorem length_contents (b : Buffer) : b.contents.length = b.length := by
  simp [contents, length]

/-- Filling is writing over the beginning of the contents. -/
theorem contents_fill (b : Buffer) (data : Bytes) :
    (b.fill data).contents = b.contents.overlay 0 data := by
  simp [contents, fill, Bytes.overlay_zero, List.drop_append, List.append_assoc]

/-- Cutting a buffer cuts its contents. -/
theorem contents_truncate (b : Buffer) (n : Nat) : (b.truncate n).contents = b.contents.take n := by
  simp [contents, truncate, List.take_append, List.take_replicate]

theorem front_eq_take (b : Buffer) (n : Nat) : b.front n = b.contents.take n :=
  b.contents_truncate n

/-- A filled buffer begins with the data. -/
theorem front_fill (b : Buffer) (data : Bytes) : (b.fill data).front data.length = data := by
  simp [front_eq_take, contents_fill, Bytes.overlay_zero]

end Buffer

end PhotoArchive
