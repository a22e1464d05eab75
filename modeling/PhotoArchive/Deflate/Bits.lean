import PhotoArchive.Bytes

/-!
# Bits in bytes

A DEFLATE stream is a sequence of bits, the lowest bit of each byte first. Numbers are written with
their lowest bit first, prefix codes with their highest bit first.

## Main definitions

- `BitReader` — what is left of a bit sequence
- `BitReader.bit?`, `BitReader.number?`, `BitReader.align` — read a bit and a number, skip to the next
  byte
- `Bits.ofNumber`, `Bits.ofCode` — the bits of a number and of a prefix code
- `Bits.pack` — bits put into bytes
-/

namespace PhotoArchive.Deflate

/-- The bits of a byte, lowest first. -/
def bitsOfByte (b : UInt8) : List Bool := (List.range 8).map fun i => b.toNat.testBit i

/-- What is left of a sequence of bits: some bits of a byte that was begun, and whole bytes. -/
structure BitReader where
  begun : List Bool := []
  bytes : Bytes
  deriving DecidableEq, Repr

namespace BitReader

/-- The next bit. -/
def bit? (r : BitReader) : Option (Bool × BitReader) :=
  match r.begun with
  | b :: begun => some (b, { r with begun })
  | [] =>
    match r.bytes with
    | [] => none
    | byte :: bytes => some (byte.toNat.testBit 0, { begun := (bitsOfByte byte).drop 1, bytes })

/-- The number in the next `width` bits, lowest first. -/
def number? : Nat → BitReader → Option (Nat × BitReader)
  | 0, r => some (0, r)
  | width + 1, r => do
    let (b, r) ← r.bit?
    let (n, r) ← number? width r
    return (b.toNat + 2 * n, r)

/-- Skip what is left of the byte that was begun. -/
def align (r : BitReader) : BitReader := { r with begun := [] }

/-- How many bits are left. -/
def length (r : BitReader) : Nat := r.begun.length + 8 * r.bytes.length

end BitReader

namespace Bits

/-- The lowest `width` bits of a number, lowest first. -/
def ofNumber (width n : Nat) : List Bool := (List.range width).map fun i => n.testBit i

/-- The lowest `width` bits of a prefix code, highest first. -/
def ofCode (width code : Nat) : List Bool := (ofNumber width code).reverse

/-- The number that some bits stand for, lowest first. -/
def toNat : List Bool → Nat
  | [] => 0
  | b :: rest => b.toNat + 2 * toNat rest

/-- Bits put into bytes, the last byte filled up with zeros. -/
def pack : List Bool → Bytes
  | b₀ :: b₁ :: b₂ :: b₃ :: b₄ :: b₅ :: b₆ :: b₇ :: rest =>
    UInt8.ofNat (toNat [b₀, b₁, b₂, b₃, b₄, b₅, b₆, b₇]) :: pack rest
  | [] => []
  | few => [UInt8.ofNat (toNat few)]

end Bits

end PhotoArchive.Deflate
