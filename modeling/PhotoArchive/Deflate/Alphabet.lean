/-!
# The alphabets of DEFLATE

A compressed block is a sequence of literal bytes and of copies of earlier text. Literals, the end
of the block and the lengths of copies share one alphabet, distances have another one, and the
lengths of the codes for both are themselves written in a third. A length or distance is a symbol
with a base value and some extra bits.

## Main definitions

- `Token` — a literal byte or a copy
- `lengthBases`, `distanceBases` — base values and extra bits, by symbol
- `lengthSymbol`, `distanceSymbol` — the symbol for a length and a distance
- `fixedLiteralLengths`, `fixedDistanceLengths` — the code lengths of the fixed code
- `codeLengthOrder` — the order in which code lengths of the third alphabet are written
-/

namespace PhotoArchive.Deflate

/-- A literal byte, or a copy of `length` bytes from `distance` bytes back. -/
inductive Token where
  | literal (byte : UInt8)
  | copy (length distance : Nat)
  deriving DecidableEq, Repr

/-- The symbol that ends a block. -/
def endOfBlock : Nat := 256

/-- Base value and number of extra bits of the length symbols, which begin at 257. -/
def lengthBases : List (Nat × Nat) :=
  [(3, 0), (4, 0), (5, 0), (6, 0), (7, 0), (8, 0), (9, 0), (10, 0), (11, 1), (13, 1), (15, 1),
    (17, 1), (19, 2), (23, 2), (27, 2), (31, 2), (35, 3), (43, 3), (51, 3), (59, 3), (67, 4),
    (83, 4), (99, 4), (115, 4), (131, 5), (163, 5), (195, 5), (227, 5), (258, 0)]

/-- Base value and number of extra bits of the distance symbols. -/
def distanceBases : List (Nat × Nat) :=
  [(1, 0), (2, 0), (3, 0), (4, 0), (5, 1), (7, 1), (9, 2), (13, 2), (17, 3), (25, 3), (33, 4),
    (49, 4), (65, 5), (97, 5), (129, 6), (193, 6), (257, 7), (385, 7), (513, 8), (769, 8),
    (1025, 9), (1537, 9), (2049, 10), (3073, 10), (4097, 11), (6145, 11), (8193, 12), (12289, 12),
    (16385, 13), (24577, 13)]

/-- The last symbol whose base is not above `n`, counted from `first`. -/
def symbolOf (first n : Nat) : List (Nat × Nat) → Nat
  | (_, _) :: (base, extra) :: rest =>
    if base ≤ n then symbolOf (first + 1) n ((base, extra) :: rest) else first
  | _ => first

/-- The length symbol of a length, counted from zero. -/
def lengthSymbol (length : Nat) : Nat := symbolOf 0 length lengthBases

/-- The distance symbol of a distance. -/
def distanceSymbol (distance : Nat) : Nat := symbolOf 0 distance distanceBases

/-- The code lengths of literals, end of block and lengths in the fixed code. -/
def fixedLiteralLengths : List Nat :=
  List.replicate 144 8 ++ List.replicate 112 9 ++ List.replicate 24 7 ++ List.replicate 8 8

/-- The code lengths of distances in the fixed code. -/
def fixedDistanceLengths : List Nat := List.replicate 30 5

/-- The order in which the code lengths of the third alphabet are written. -/
def codeLengthOrder : List Nat :=
  [16, 17, 18, 0, 8, 7, 9, 6, 10, 5, 11, 4, 12, 3, 13, 2, 14, 1, 15]

example : lengthSymbol 258 = 28 ∧ lengthSymbol 257 = 27 ∧ lengthSymbol 3 = 0 := by decide
example : distanceSymbol 32768 = 29 ∧ distanceSymbol 5 = 4 ∧ distanceSymbol 6 = 4 := by decide

end PhotoArchive.Deflate
