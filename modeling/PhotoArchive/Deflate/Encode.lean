import PhotoArchive.Deflate.Bits
import PhotoArchive.Deflate.CodeLengths
import PhotoArchive.Deflate.Match

/-!
# Writing compressed blocks

Tokens are written in blocks. Each block is written in the cheapest of three forms: its bytes as
they are, its tokens in the fixed code, or its tokens in a code of its own that stands in front of
them.

## Main definitions

- `codesOfLengths` — the canonical code for given code lengths
- `RunItem`, `runItems` — code lengths with repetitions written shorter
- `BlockPlan` — the codes of a block and what the three forms cost
- `encode` — the stream for some data
-/

namespace PhotoArchive.Deflate

/-- The number of tokens that fill a block. -/
def blockTokens : Nat := 16383

/-! ## Codes -/

/-- The canonical code for given code lengths, as the bits of every symbol. Codes of one length are
consecutive numbers, and shorter codes come first. -/
def codesOfLengths (lengths : List Nat) : Array (List Bool) :=
  let counts := lengths.foldl (fun counts n => if n = 0 then counts else counts.modify n (· + 1))
    (Array.replicate 17 0)
  let firsts := (List.range 16).foldl
    (fun (firsts : Array Nat) n => firsts.push (2 * (firsts.getD n 0 + counts.getD n 0)))
    #[0]
  let assign (state : Array (List Bool) × Array Nat) (length : Nat) :
      Array (List Bool) × Array Nat :=
    if length = 0 then (state.1.push [], state.2)
    else (state.1.push (Bits.ofCode length (state.2.getD length 0)), state.2.modify length (· + 1))
  (lengths.foldl assign (#[], firsts)).1

/-- One item of a sequence of code lengths: a length, or a repetition with its count in extra
bits. -/
structure RunItem where
  symbol : Nat
  width : Nat := 0
  extra : Nat := 0
  deriving DecidableEq, Repr

/-- `count` equal lengths behind the length `previous`, given the shortest run that is written as a
repetition. -/
def runItem (previous : Option Nat) (length count shortest : Nat) : List RunItem :=
  if count < shortest then List.replicate count { symbol := length }
  else if length = 0 then
    if count ≤ 10 then [{ symbol := 17, width := 3, extra := count - 3 }]
    else [{ symbol := 18, width := 7, extra := count - 11 }]
  else if previous = some length then [{ symbol := 16, width := 2, extra := count - 3 }]
  else [{ symbol := length }, { symbol := 16, width := 2, extra := count - 4 }]

/-- The longest run that is written as one repetition, and the shortest one, when the length `next`
follows the length `last`. -/
def runLimits (last next : Option Nat) : Nat × Nat :=
  if next = some 0 then (138, 3) else if last = next then (6, 3) else (7, 4)

/-- Code lengths with repetitions written shorter. `count` lengths equal to the next one have been
passed already. -/
def runItemsAux (previous : Option Nat) (limits : Nat × Nat) : Nat → List Nat → List RunItem
  | _, [] => []
  | count, length :: rest =>
    if count + 1 < limits.1 ∧ rest.head? = some length then
      runItemsAux previous limits (count + 1) rest
    else
      runItem previous length (count + 1) limits.2
        ++ runItemsAux (some length) (runLimits (some length) rest.head?) 0 rest

/-- Code lengths with repetitions written shorter. -/
def runItems (lengths : List Nat) : List RunItem :=
  runItemsAux none (runLimits none lengths.head?) 0 lengths

/-! ## Planning a block -/

/-- A list without the zeros at its end. -/
def withoutZeroTail (lengths : List Nat) : List Nat :=
  (lengths.reverse.dropWhile (· = 0)).reverse

/-- How often each of `size` symbols occurs. -/
def frequenciesOf (size : Nat) (symbols : List Nat) : List Nat :=
  (symbols.foldl (fun (counts : Array Nat) n => counts.modify n (· + 1))
    (Array.replicate size 0)).toList

/-- The symbol of a token in the first alphabet. -/
def literalSymbol : Token → Nat
  | .literal byte => byte.toNat
  | .copy length _ => endOfBlock + 1 + lengthSymbol length

/-- The symbol of a token in the alphabet of distances, for a copy. -/
def distanceSymbol? : Token → Option Nat
  | .literal _ => none
  | .copy _ distance => some (distanceSymbol distance)

/-- The codes that a block would bring along, and what the forms of the block cost in bits. -/
structure BlockPlan where
  literalLengths : List Nat
  distanceLengths : List Nat
  /-- The code lengths of both codes, with repetitions written shorter. -/
  items : List RunItem
  /-- The code lengths of the code for these items, in the order in which they are written. -/
  itemLengths : List Nat
  /-- The same, by symbol. -/
  itemLengthsBySymbol : List Nat
  ownCost : Nat
  fixedCost : Nat

/-- The sum of some numbers. -/
def total (numbers : List Nat) : Nat := numbers.foldl (· + ·) 0

/-- What symbols cost that occur with given frequencies and have given code lengths. -/
def cost (frequencies lengths : List Nat) : Nat :=
  total ((frequencies.zip lengths).map fun (f, n) => f * n)

/-- What the extra bits cost of symbols that occur with given frequencies. -/
def extraCost (frequencies : List Nat) (bases : List (Nat × Nat)) : Nat :=
  total ((frequencies.zip bases).map fun (f, b) => f * b.2)

/-- The plan for a block of some tokens. -/
def BlockPlan.make (block : List Token) : BlockPlan :=
  let literals := frequenciesOf 286 (block.map literalSymbol ++ [endOfBlock])
  let distances := frequenciesOf 30 (block.filterMap distanceSymbol?)
  let extra := extraCost (literals.drop (endOfBlock + 1)) lengthBases
    + extraCost distances distanceBases
  let literalLengths := withoutZeroTail (codeLengths 15 literals)
  let distanceLengths := withoutZeroTail (codeLengths 15 distances)
  let items := runItems literalLengths ++ runItems distanceLengths
  let itemFrequencies := frequenciesOf 19 (items.map RunItem.symbol)
  let bySymbol := codeLengths 7 itemFrequencies
  let ordered := codeLengthOrder.map fun n => bySymbol.getD n 0
  let written := withoutZeroTail ordered
  let itemLengths := written ++ List.replicate (4 - written.length) 0
  { literalLengths, distanceLengths, items, itemLengths, itemLengthsBySymbol := bySymbol
    ownCost := cost literals literalLengths + cost distances distanceLengths + extra
      + cost itemFrequencies bySymbol + total (items.map RunItem.width)
      + 3 * itemLengths.length + 14
    fixedCost := cost literals fixedLiteralLengths + cost distances fixedDistanceLengths + extra }

/-! ## Writing -/

/-- The bits of a value that is given by a symbol and extra bits. -/
def extendedBits (codes : Array (List Bool)) (offset : Nat) (bases : List (Nat × Nat))
    (symbol value : Nat) : List Bool :=
  let (base, extra) := bases.getD symbol (0, 0)
  codes.getD (offset + symbol) [] ++ Bits.ofNumber extra (value - base)

/-- The bits of a token. -/
def tokenBits (literals distances : Array (List Bool)) : Token → List Bool
  | .literal byte => literals.getD byte.toNat []
  | .copy length distance =>
    extendedBits literals (endOfBlock + 1) lengthBases (lengthSymbol length) length
      ++ extendedBits distances 0 distanceBases (distanceSymbol distance) distance

/-- The bits of some tokens and of the end of the block. -/
def tokensBits (literalLengths distanceLengths : List Nat) (block : List Token) : List Bool :=
  let literals := codesOfLengths literalLengths
  let distances := codesOfLengths distanceLengths
  block.flatMap (tokenBits literals distances) ++ literals.getD endOfBlock []

/-- The bits of the codes in front of a block. -/
def BlockPlan.codeBits (plan : BlockPlan) : List Bool :=
  let codes := codesOfLengths plan.itemLengthsBySymbol
  Bits.ofNumber 5 (plan.literalLengths.length - 257)
    ++ Bits.ofNumber 5 (plan.distanceLengths.length - 1)
    ++ Bits.ofNumber 4 (plan.itemLengths.length - 4)
    ++ plan.itemLengths.flatMap (Bits.ofNumber 3)
    ++ plan.items.flatMap fun item =>
        codes.getD item.symbol [] ++ Bits.ofNumber item.width item.extra

/-- The bits of a block of tokens for some bytes, behind `before` bits. -/
def blockBits (before : Nat) (isLast : Bool) (block : List Token) (data : Bytes) : List Bool :=
  let plan := BlockPlan.make block
  let own := (plan.ownCost + 3 + 7) / 8
  let fixed := (plan.fixedCost + 3 + 7) / 8
  let best := min own fixed
  if data.length + 4 ≤ best then
    let header := [isLast, false, false]
    let padding := List.replicate ((8 - (before + 3) % 8) % 8) false
    header ++ padding ++
      (Bytes.number 2 data.length ++ Bytes.number 2 (65535 - data.length) ++ data).flatMap
        bitsOfByte
  else if fixed = best then
    [isLast, true, false] ++ tokensBits fixedLiteralLengths fixedDistanceLengths block
  else
    [isLast, false, true] ++ plan.codeBits
      ++ tokensBits plan.literalLengths plan.distanceLengths block

/-- The number of bytes that a token stands for. -/
def Token.size : Token → Nat
  | .literal _ => 1
  | .copy length _ => length

/-- The bits of some tokens for some bytes, in blocks. Full blocks are not the last ones, so a last
block can be empty. -/
def blocksBits : Nat → Nat → List Token → Bytes → List Bool
  | 0, _, _, _ => []
  | fuel + 1, before, all, data =>
    let block := all.take blockTokens
    let size := total (block.map Token.size)
    let isLast := decide (all.length < blockTokens)
    let bits := blockBits before isLast block (data.take size)
    if isLast then bits
    else bits ++ blocksBits fuel (before + bits.length) (all.drop blockTokens) (data.drop size)

/-- The stream for some data. -/
def encode (data : Bytes) : Bytes :=
  let all := tokens {} data.toArray
  Bits.pack (blocksBits (all.length + 1) 0 all data)

end PhotoArchive.Deflate
