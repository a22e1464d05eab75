import PhotoArchive.Deflate.Inflate

/-!
# Stored blocks

Every byte string has a DEFLATE stream in which nothing is compressed: a sequence of stored blocks
of at most 65535 bytes.

## Main definitions

- `storedStream` — the stream of stored blocks for some data

## Main statements

- `inflate?_storedStream` — it stands for that data
-/

namespace PhotoArchive.Deflate

/-- The most bytes that one stored block holds. -/
def maxStored : Nat := 65535

/-- A stored block that begins on a byte: one byte that says whether it is the last block, the
number of bytes, its complement, and the bytes. -/
def storedBlock (isLast : Bool) (data : Bytes) : Bytes :=
  (if isLast then 1 else 0) :: Bytes.number 2 data.length
    ++ Bytes.number 2 (maxStored - data.length) ++ data

/-- The stream of stored blocks for some data. -/
def storedStream (data : Bytes) : Bytes :=
  if data.length ≤ maxStored then storedBlock true data
  else storedBlock false (data.take maxStored) ++ storedStream (data.drop maxStored)
termination_by data.length
decreasing_by
  simp only [List.length_drop]
  have : 0 < maxStored := by decide
  omega

/-! ## Reading stored blocks -/

theorem inflateStored?_block (out : Array UInt8) {data : Bytes} (h : data.length ≤ maxStored)
    (more : Bytes) :
    inflateStored? out
        { bytes := Bytes.number 2 data.length ++ Bytes.number 2 (maxStored - data.length)
            ++ data ++ more } =
      some (out ++ data, { bytes := more }) := by
  have hlength : Bytes.value (Bytes.number 2 data.length) = data.length :=
    Bytes.value_number (by simp only [maxStored] at h; omega)
  have hcomplement : Bytes.value (Bytes.number 2 (maxStored - data.length))
      = maxStored - data.length :=
    Bytes.value_number (by simp only [maxStored] at h ⊢; omega)
  simp only [Bytes.number] at hlength hcomplement
  simp only [inflateStored?, Bytes.number, List.cons_append, List.nil_append, hlength, hcomplement]
  rw [if_pos (by simp only [maxStored] at h ⊢; simp only [List.length_append]; omega)]
  simp

theorem inflateBlocks?_storedBlock (fuel : Nat) (out : Array UInt8) {data : Bytes}
    (h : data.length ≤ maxStored) (isLast : Bool) (more : Bytes) :
    inflateBlocks? (fuel + 1) out { bytes := storedBlock isLast data ++ more } =
      if isLast then some (out ++ data, { bytes := more })
      else inflateBlocks? fuel (out ++ data) { bytes := more } := by
  have hblock := inflateStored?_block out h more
  simp only [List.append_assoc] at hblock
  have h₁ : Nat.testBit 1 1 = false := by decide
  have h₂ : Nat.testBit 1 2 = false := by decide
  cases isLast <;>
    simp [h₁, h₂, inflateBlocks?, storedBlock, BitReader.bit?, inflateBlock?, BitReader.number?,
      BitReader.align, bitsOfByte, List.range, List.range.loop, hblock]

/-- Reading a stream of stored blocks appends the data, given a step for every block. -/
theorem inflateBlocks?_storedStream (fuel : Nat) (out : Array UInt8) (data : Bytes)
    (h : data.length < fuel) :
    inflateBlocks? fuel out { bytes := storedStream data } =
      some (out ++ data, { bytes := [] }) := by
  induction fuel generalizing out data with
  | zero => omega
  | succ fuel ih =>
    unfold storedStream
    split
    · rename_i hle
      have := inflateBlocks?_storedBlock fuel out hle true []
      simpa using this
    · rename_i hgt
      have hpos : 0 < maxStored := by decide
      have htake : (data.take maxStored).length ≤ maxStored := by
        simp only [List.length_take]
        omega
      rw [inflateBlocks?_storedBlock fuel out htake false]
      simp only [Bool.false_eq_true, if_false]
      rw [ih _ _ (by simp only [List.length_drop]; omega)]
      have hsplit : out ++ data.take maxStored ++ data.drop maxStored = out ++ data := by
        apply Array.toList_inj.1
        simp
      rw [hsplit]

theorem length_le_length_storedStream (data : Bytes) : data.length ≤ (storedStream data).length := by
  induction data using storedStream.induct with
  | case1 data h =>
    rw [storedStream, if_pos h]
    simp only [storedBlock, List.length_append]
    omega
  | case2 data h ih =>
    rw [storedStream, if_neg h]
    simp only [storedBlock, List.length_append, List.length_take, List.length_drop] at ih ⊢
    omega

/-- Stored blocks stand for the data that they hold. -/
theorem inflate?_storedStream (data : Bytes) : inflate? (storedStream data) = some data := by
  have hlen := length_le_length_storedStream data
  rw [inflate?, inflateBlocks?_storedStream _ _ _ (by omega)]
  simp

end PhotoArchive.Deflate
