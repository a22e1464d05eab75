import PhotoArchive.Deflate.Alphabet
import PhotoArchive.Deflate.Bits

/-!
# Inflating

The data that a DEFLATE stream stands for. A stream is a sequence of blocks: stored bytes, or tokens
in a fixed or a given prefix code.

## Main definitions

- `PrefixCode` — a canonical prefix code, ready for reading
- `PrefixCode.symbol?` — read one symbol
- `inflateBlock?` — read one block
- `inflate?` — the data of a whole stream

## Design notes

A prefix code is kept as the number of its codes of each length and its symbols in the order of
their codes. Codes of one length are consecutive numbers, so a code is found by comparing the bits
read so far with the first code of their number. A stream of `n` bits has fewer than `n + 1` blocks
and symbols, which bounds the recursion.
-/

namespace PhotoArchive.Deflate

/-- A canonical prefix code: how many codes of length 1, 2, … there are, and the symbols in the
order of their codes. -/
structure PrefixCode where
  counts : List Nat
  symbols : List Nat
  deriving DecidableEq, Repr

namespace PrefixCode

/-- The longest code. -/
def maxLength : Nat := 15

/-- The code in which symbol `i` has a code of the `i`-th length; length zero means no code. -/
def ofLengths (lengths : List Nat) : PrefixCode :=
  let ofLength (n : Nat) : List Nat :=
    lengths.zipIdx.filterMap fun (length, symbol) => if length = n then some symbol else none
  let groups := (List.range maxLength).map fun i => ofLength (i + 1)
  { counts := groups.map List.length, symbols := groups.flatten }

/-- Read one symbol. `code` holds the bits read so far, `first` the first code of that length, and
`index` the number of shorter codes. -/
def symbolAux? (symbols : List Nat) :
    List Nat → Nat → Nat → Nat → BitReader → Option (Nat × BitReader)
  | [], _, _, _, _ => none
  | count :: counts, code, first, index, r => do
    let (b, r) ← r.bit?
    let code := 2 * code + b.toNat
    if code < first + count then
      let symbol ← symbols[index + (code - first)]?
      return (symbol, r)
    else symbolAux? symbols counts code (2 * (first + count)) (index + count) r

/-- Read one symbol. -/
def symbol? (c : PrefixCode) (r : BitReader) : Option (Nat × BitReader) :=
  symbolAux? c.symbols c.counts 0 0 0 r

end PrefixCode

/-- Copy `length` bytes from `distance` bytes back to the end of what has been read. -/
def copyBack (out : Array UInt8) (distance : Nat) : Nat → Array UInt8
  | 0 => out
  | length + 1 => copyBack (out.push (out.getD (out.size - distance) 0)) distance length

/-- A value that is given by a symbol and extra bits. -/
def extended? (bases : List (Nat × Nat)) (symbol : Nat) (r : BitReader) :
    Option (Nat × BitReader) := do
  let (base, extra) ← bases[symbol]?
  let (n, r) ← r.number? extra
  return (base + n, r)

/-- Read tokens up to the end of the block. -/
def inflateTokens? (literals distances : PrefixCode) :
    Nat → Array UInt8 → BitReader → Option (Array UInt8 × BitReader)
  | 0, _, _ => none
  | fuel + 1, out, r => do
    let (symbol, r) ← literals.symbol? r
    if symbol < endOfBlock then
      inflateTokens? literals distances fuel (out.push (UInt8.ofNat symbol)) r
    else if symbol = endOfBlock then return (out, r)
    else
      let (length, r) ← extended? lengthBases (symbol - (endOfBlock + 1)) r
      let (symbol, r) ← distances.symbol? r
      let (distance, r) ← extended? distanceBases symbol r
      if out.size < distance then none
      else inflateTokens? literals distances fuel (copyBack out distance length) r

/-- Read `count` code lengths. A repetition refers to the length before it, or to zeros. -/
def codeLengths? (code : PrefixCode) (count : Nat) :
    Nat → List Nat → BitReader → Option (List Nat × BitReader)
  | 0, _, _ => none
  | fuel + 1, reversed, r => do
    if count ≤ reversed.length then
      if reversed.length = count then return (reversed.reverse, r) else none
    else
      let (symbol, r) ← code.symbol? r
      if symbol < 16 then codeLengths? code count fuel (symbol :: reversed) r
      else if symbol = 16 then
        let last ← reversed.head?
        let (n, r) ← r.number? 2
        codeLengths? code count fuel (List.replicate (3 + n) last ++ reversed) r
      else if symbol = 17 then
        let (n, r) ← r.number? 3
        codeLengths? code count fuel (List.replicate (3 + n) 0 ++ reversed) r
      else
        let (n, r) ← r.number? 7
        codeLengths? code count fuel (List.replicate (11 + n) 0 ++ reversed) r

/-- Read `n` code lengths of three bits each, and put them in order. -/
def codeLengthCode? (n : Nat) (r : BitReader) : Option (PrefixCode × BitReader) := do
  let rec read : Nat → BitReader → Option (List Nat × BitReader)
    | 0, r => some ([], r)
    | n + 1, r => do
      let (length, r) ← r.number? 3
      let (rest, r) ← read n r
      return (length :: rest, r)
  let (lengths, r) ← read n r
  let given := codeLengthOrder.zip lengths
  let inOrder := (List.range codeLengthOrder.length).map fun symbol =>
    ((given.find? fun entry => entry.1 = symbol).map Prod.snd).getD 0
  return (PrefixCode.ofLengths inOrder, r)

/-- Read the two prefix codes that stand in front of a block. -/
def prefixCodes? (r : BitReader) : Option (PrefixCode × PrefixCode × BitReader) := do
  let (literals, r) ← r.number? 5
  let (distances, r) ← r.number? 5
  let (lengths, r) ← r.number? 4
  let (code, r) ← codeLengthCode? (lengths + 4) r
  let total := literals + 257 + (distances + 1)
  let (all, r) ← codeLengths? code total (total + 1) [] r
  return (PrefixCode.ofLengths (all.take (literals + 257)),
    PrefixCode.ofLengths (all.drop (literals + 257)), r)

/-- Read stored bytes: their number, its complement, and the bytes themselves. -/
def inflateStored? (out : Array UInt8) (r : BitReader) : Option (Array UInt8 × BitReader) :=
  match r.bytes with
  | l₀ :: l₁ :: n₀ :: n₁ :: rest =>
    let length := Bytes.value [l₀, l₁]
    if Bytes.value [n₀, n₁] + length = 0xFFFF ∧ length ≤ rest.length then
      some (out ++ (rest.take length), { bytes := rest.drop length })
    else none
  | _ => none

/-- Read one block behind the bit that says whether it is the last one. -/
def inflateBlock? (out : Array UInt8) (r : BitReader) : Option (Array UInt8 × BitReader) := do
  let (kind, r) ← r.number? 2
  match kind with
  | 0 => inflateStored? out r.align
  | 1 =>
    inflateTokens? (PrefixCode.ofLengths fixedLiteralLengths)
      (PrefixCode.ofLengths fixedDistanceLengths) (r.length + 1) out r
  | 2 =>
    let (literals, distances, r) ← prefixCodes? r
    inflateTokens? literals distances (r.length + 1) out r
  | _ => none

/-- Read blocks up to the last one. -/
def inflateBlocks? : Nat → Array UInt8 → BitReader → Option (Array UInt8 × BitReader)
  | 0, _, _ => none
  | fuel + 1, out, r => do
    let (isLast, r) ← r.bit?
    let (out, r) ← inflateBlock? out r
    if isLast then return (out, r) else inflateBlocks? fuel out r

/-- The data of a stream that fills all its bytes. -/
def inflate? (stream : Bytes) : Option Bytes :=
  match inflateBlocks? (8 * stream.length + 1) #[] { bytes := stream } with
  | some (out, r) => if r.bytes.isEmpty then some out.toList else none
  | none => none

end PhotoArchive.Deflate
