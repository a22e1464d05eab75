/-!
# Room in memory

Bytes are read into memory, and buffers lie there. Room for them is made before there are any bytes.
A number of bytes can be too large for a machine word, or for the memory that there is.

## Main definitions

- `Memory` — for how many bytes a machine has room
- `Memory.largest`, `Memory.upTo` — the memories that are as large as can be, or of a certain size
- `RoomFault` — why there is no room for so many bytes
- `Memory.fault?` — whether there is room for a number of bytes
- `LengthFault` — why there cannot be so many bytes

## Main statements

- `Memory.fault?_eq_none_iff` — there is room for as many bytes as the memory says

## Design notes

How much memory a machine has is not known, and what else it holds at the time is not, either. So a
memory is any set of numbers of bytes for which it has room, as long as they can be addressed at all.
It stays the same while a program runs.
-/

namespace PhotoArchive

/-- The first number that is too large for a machine word with a sign. -/
def wordLimit : Nat := 0x8000000000000000

/-- The memory of a machine. -/
structure Memory where
  /-- Whether there is room for so many bytes in a row. -/
  hasRoom : Nat → Bool
  /-- One byte more can be addressed. -/
  bounded : ∀ n, hasRoom n = true → n + 1 < wordLimit

/-- A memory with room for all that can be addressed. -/
def Memory.largest : Memory where
  hasRoom n := decide (n + 1 < wordLimit)
  bounded _ h := of_decide_eq_true h

/-- A memory with room for a certain number of bytes. -/
def Memory.upTo (size : Nat) : Memory where
  hasRoom n := decide (n ≤ size ∧ n + 1 < wordLimit)
  bounded _ h := (of_decide_eq_true h).2

/-- Why there is no room for so many bytes. -/
inductive RoomFault where
  /-- The number does not fit a machine word. -/
  | tooLarge
  /-- There is no memory for so many bytes. -/
  | noMemory
  deriving DecidableEq, Repr

/-- The fault in words. -/
def RoomFault.text : RoomFault → String
  | tooLarge => "the length does not fit a machine word"
  | noMemory => "there is no memory for so many bytes"

/-- Why there is no room for so many bytes behind a header, if there is none. -/
def Memory.fault? (m : Memory) (header size : Nat) : Option RoomFault :=
  if wordLimit ≤ header + size then some .tooLarge
  else if m.hasRoom (header + size) then none
  else some .noMemory

/-- There is room for a number of bytes exactly if the memory says so. -/
theorem Memory.fault?_eq_none_iff {m : Memory} {header size : Nat} :
    m.fault? header size = none ↔ m.hasRoom (header + size) = true := by
  unfold fault?
  constructor
  · intro h
    split at h
    · cases h
    · split at h
      · next hroom => exact hroom
      · cases h
  · intro h
    have hbound := m.bounded _ h
    rw [if_neg (by omega), if_pos h]

/-- Why there cannot be so many bytes. -/
inductive LengthFault where
  | noRoom (fault : RoomFault)
  /-- The number is negative, and has no meaning of its own. -/
  | negative
  deriving DecidableEq, Repr

/-- The fault in words. -/
def LengthFault.text : LengthFault → String
  | noRoom fault => fault.text
  | negative => "read length must be non-negative or -1"

end PhotoArchive
