import PhotoArchive.Precision

/-!
# When an entry gets a large header

The header of an entry is written before its data, so it must be decided from the declared size
whether the header has room for sizes above the limit. Compressed data can be longer than the
data themselves; five percent of room are left for that. The comparison is made in double precision,
so both the size and its product with 1.05 are rounded to 53 significant bits.

## Main definitions

- `needsRoom?` — whether a declared size needs a large header
-/

namespace PhotoArchive.Zip

/-- How many units of the last place of 1.05 there are in 1: two to the 52nd. -/
def scale : Nat := 0x10000000000000

/-- The double-precision number next to 1.05, in these units. -/
def scaledFactor : Nat := 4728779608739021

/-- Whether a declared size is above `limit` with five percent added to it. There is no answer for
sizes that double precision cannot hold. -/
def needsRoom? (limit : Int) (size : Int) : Option Bool :=
  let rounded := roundSignificant size.natAbs
  if 1 <<< 1024 ≤ rounded then none
  else
    some (decide (limit * scale < size.sign * roundSignificant (rounded * scaledFactor)))

example : needsRoom? 2147483647 2045222520 = some false := by decide +kernel
example : needsRoom? 2147483647 2045222521 = some true := by decide +kernel

end PhotoArchive.Zip
