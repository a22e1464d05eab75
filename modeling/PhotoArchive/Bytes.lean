/-!
# Byte strings

Blobs, buffers and archives are finite byte strings. This module holds the one operation that all
of them share, writing over a part of a byte string, and the little-endian numbers that archive
records are made of.

## Main definitions

- `Bytes` — a finite byte string
- `Bytes.overlay` — write a byte string over another one at a position
- `Bytes.number`, `Bytes.value` — little-endian numbers of a fixed width and what they stand for
- `Bytes.fields?` — a record of numbers, each of its own width, if every number fits

## Design notes

A byte string is a list, so that concatenation, `take` and `drop` and their laws come from the
list library. `overlay` pads with zero bytes when the position lies past the end, which is what a
file does that is written past its end.
-/

namespace PhotoArchive

/-- A finite byte string. -/
abbrev Bytes := List UInt8

namespace Bytes

/-! ## Writing over a part -/

/-- Write `data` over `target` from `position` on. What lies before and behind the written range
stays, a longer `data` lengthens the result, and a gap is filled with zero bytes. -/
def overlay (target : Bytes) (position : Nat) (data : Bytes) : Bytes :=
  target.take position ++ List.replicate (position - target.length) 0 ++ data
    ++ target.drop (position + data.length)

/-- At the end of a byte string, writing is appending. -/
theorem overlay_length (target data : Bytes) : target.overlay target.length data = target ++ data := by
  simp [overlay]

/-- Writing over the beginning keeps what lies behind. -/
theorem overlay_zero (target data : Bytes) :
    target.overlay 0 data = data ++ target.drop data.length := by
  simp [overlay]

/-- Writing over a part that is just as long replaces it. -/
theorem overlay_middle {before middle after data : Bytes} (h : data.length = middle.length) :
    (before ++ (middle ++ after)).overlay before.length data = before ++ (data ++ after) := by
  have hdrop : (before ++ (middle ++ after)).drop (before.length + data.length) = after := by
    rw [← List.append_assoc]
    exact List.drop_left' (by rw [List.length_append, h])
  rw [overlay, List.take_left, hdrop]
  simp

/-! ## Little-endian numbers -/

/-- The little-endian form of `n` in exactly `width` bytes; higher digits are cut off. -/
def number : Nat → Nat → Bytes
  | 0, _ => []
  | width + 1, n => UInt8.ofNat n :: number width (n / 256)

/-- The number that a little-endian byte string stands for. -/
def value : Bytes → Nat
  | [] => 0
  | b :: rest => b.toNat + 256 * value rest

@[simp] theorem length_number (width n : Nat) : (number width n).length = width := by
  induction width generalizing n with
  | zero => rfl
  | succ width ih => simp [number, ih]

/-- A number that fits its width is read back. -/
theorem value_number {width n : Nat} (h : n < 1 <<< (8 * width)) :
    value (number width n) = n := by
  induction width generalizing n with
  | zero =>
    have : n = 0 := by simpa using h
    simp [number, value, this]
  | succ width ih =>
    have hdiv : n / 256 < 1 <<< (8 * width) := by
      apply (Nat.div_lt_iff_lt_mul (by decide : 0 < 256)).2
      rwa [Nat.mul_succ, Nat.shiftLeft_add, Nat.shiftLeft_eq _ 8] at h
    simp only [number, value, UInt8.toNat_ofNat', ih hdiv]
    omega

/-- A record of numbers, each given with its width in bytes. There is none if a number is too large
for its width. -/
def fields? : List (Nat × Nat) → Option Bytes
  | [] => some []
  | (width, n) :: rest =>
    if n < 1 <<< (8 * width) then (fields? rest).map (number width n ++ ·) else none

end Bytes

end PhotoArchive
