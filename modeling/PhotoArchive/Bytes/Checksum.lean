import PhotoArchive.Bytes

/-!
# The CRC-32 checksum

The checksum of IEEE 802.3 in its reflected form, as archive entries record it. It is computed bit
by bit and can be continued: the checksum of a concatenation is that of the second part, continued
from the checksum of the first.

## Main definitions

- `Crc32.continueFrom` — the checksum of a byte string that follows one of known checksum
- `Bytes.crc32` — the checksum of a whole byte string
-/

namespace PhotoArchive

namespace Crc32

/-- The generator polynomial with its bits reflected. -/
def polynomial : UInt32 := 0xEDB88320

/-- Divide the register by one bit. -/
def bitStep (register : UInt32) : UInt32 :=
  if register &&& 1 = 1 then (register >>> 1) ^^^ polynomial else register >>> 1

/-- Take one byte into the register. -/
def byteStep (register : UInt32) (b : UInt8) : UInt32 :=
  bitStep (bitStep (bitStep (bitStep (bitStep (bitStep (bitStep (bitStep
    (register ^^^ b.toUInt32))))))))

/-- The checksum of a byte string whose beginning, of checksum `crc`, has been read already. The
register holds the complement of the checksum. -/
def continueFrom (crc : UInt32) (data : Bytes) : UInt32 :=
  ~~~ (data.foldl byteStep (~~~ crc))

@[simp] theorem continueFrom_nil (crc : UInt32) : continueFrom crc [] = crc := by
  simp [continueFrom]

/-- Reading two parts one after the other is reading their concatenation. -/
theorem continueFrom_append (crc : UInt32) (a b : Bytes) :
    continueFrom crc (a ++ b) = continueFrom (continueFrom crc a) b := by
  simp [continueFrom, List.foldl_append]

end Crc32

/-- The CRC-32 of a byte string. -/
def Bytes.crc32 (data : Bytes) : UInt32 := Crc32.continueFrom 0 data

@[simp] theorem Bytes.crc32_nil : Bytes.crc32 [] = 0 := Crc32.continueFrom_nil 0

end PhotoArchive
