import PhotoArchive.Deflate.Alphabet
import PhotoArchive.Bytes

/-!
# Finding copies

Data are turned into tokens from left to right. Positions with the same hash of three bytes are
chained, newest first; a copy is looked for along the chain of the current position. A copy is only
taken when the position behind it does not begin a longer one ("lazy matching").

## Main definitions

- `MatchLimits` — how hard copies are looked for
- `Chains` — the positions seen so far, by hash
- `longestCopy` — the longest copy that begins at a position
- `tokens` — the tokens for some data

## Design notes

Nothing depends on the choice of copies but the size of the stream: the compressor checks that its
output stands for the input. The search is that of the usual DEFLATE libraries at their default
level, so that sizes are theirs too; in particular the very first position is never copied from.
-/

namespace PhotoArchive.Deflate

/-- How hard copies are looked for. -/
structure MatchLimits where
  /-- A copy of this length makes the search for a longer one at the next position shorter. -/
  good : Nat := 8
  /-- A copy of this length is taken without looking at the next position. -/
  lazyLimit : Nat := 16
  /-- A copy of this length ends the search. -/
  nice : Nat := 128
  /-- How many earlier positions are looked at. -/
  chain : Nat := 128

/-- The shortest copy. -/
def minCopy : Nat := 3

/-- The longest copy. -/
def maxCopy : Nat := 258

/-- The farthest distance that is looked at: a window of 32768 bytes without the bytes that one copy
and its lookahead may need. -/
def maxDistance : Nat := 32768 - (maxCopy + minCopy + 1)

/-- A copy of the shortest length is not worth a distance above this one. -/
def tooFar : Nat := 4096

/-- The hash of the three bytes at a position. -/
def hashAt (data : Array UInt8) (i : Nat) : Nat :=
  (((data.getD i 0).toNat <<< 10) ^^^ ((data.getD (i + 1) 0).toNat <<< 5)
    ^^^ (data.getD (i + 2) 0).toNat) % 32768

/-- The positions seen so far: the newest one of every hash, and for each position the one with the
same hash before it. Zero stands for none. -/
structure Chains where
  newest : Array Nat := Array.replicate 32768 0
  earlier : Array Nat

/-- Enter a position into its chain, if three bytes begin there, and tell which one was the newest
before. -/
def Chains.insert (chains : Chains) (data : Array UInt8) (i : Nat) : Nat × Chains :=
  if data.size < i + minCopy then (0, chains)
  else
    match chains with
    | { newest, earlier } =>
      let hash := hashAt data i
      let previous := newest.getD hash 0
      (previous,
        { newest := newest.setIfInBounds hash i, earlier := earlier.setIfInBounds i previous })

/-- Enter `count` positions from `i` on. -/
def Chains.insertMany (data : Array UInt8) : Nat → Nat → Chains → Chains
  | 0, _, chains => chains
  | count + 1, i, chains => insertMany data count (i + 1) (chains.insert data i).2

/-- How many bytes from `i` on agree with those from `j` on, up to a limit. -/
def agreement (data : Array UInt8) : Nat → Nat → Nat → Nat
  | 0, _, _ => 0
  | limit + 1, i, j =>
    if data.getD i 0 = data.getD j 0 then agreement data limit (i + 1) (j + 1) + 1 else 0

/-- Walk along a chain and keep the first of the longest copies that are longer than `best`. -/
def longestCopy (data : Array UInt8) (chains : Chains) (i lookahead nice : Nat) :
    Nat → Nat → Nat × Nat → Nat × Nat
  | 0, _, best => best
  | chain + 1, candidate, best =>
    let length := agreement data (min maxCopy lookahead) i candidate
    let improved := best.1 < length
    let best := if improved then (length, candidate) else best
    if improved && nice ≤ length then best
    else
      let next := chains.earlier.getD candidate 0
      if next ≤ i - maxDistance then best else longestCopy data chains i lookahead nice chain next best

/-- The copy found at position `i`, given the copy found at the position before and the newest
position of its chain. -/
def findCopy (limits : MatchLimits) (data : Array UInt8) (chains : Chains) (i newest : Nat)
    (previous : Nat × Nat) : Nat × Nat :=
  if newest ≠ 0 ∧ previous.1 < limits.lazyLimit ∧ i - newest ≤ maxDistance then
    let lookahead := data.size - i
    let chain := if limits.good ≤ previous.1 then limits.chain / 4 else limits.chain
    let found := longestCopy data chains i lookahead (min limits.nice lookahead) chain newest previous
    let found := (min found.1 lookahead, found.2)
    if found.1 = minCopy ∧ tooFar < i - found.2 then (minCopy - 1, found.2) else found
  else (minCopy - 1, previous.2)

/-- The state of the search: where it is, the copy found at the position before (its length and
where it is copied from), whether the byte there still has no token, and the tokens, newest first. -/
structure Search where
  position : Nat := 0
  chains : Chains
  previous : Nat × Nat := (minCopy - 1, 0)
  pending : Bool := false
  tokens : List Token := []

/-- Look at one position. -/
def Search.step (limits : MatchLimits) (data : Array UInt8) : Search → Search
  | { position := i, chains, previous, pending, tokens } =>
    let (newest, chains) := chains.insert data i
    let found := findCopy limits data chains i newest previous
    if minCopy ≤ previous.1 ∧ found.1 ≤ previous.1 then
      { position := i + previous.1 - 1
        chains := Chains.insertMany data (previous.1 - 2) (i + 1) chains
        tokens := .copy previous.1 (i - 1 - previous.2) :: tokens }
    else
      { position := i + 1, chains, previous := found, pending := true
        tokens := if pending then .literal (data.getD (i - 1) 0) :: tokens else tokens }

/-- Look at positions until the data are used up. Every step moves on, so the number of bytes bounds
the number of steps. -/
def Search.run (limits : MatchLimits) (data : Array UInt8) : Nat → Search → Search
  | 0, s => s
  | fuel + 1, s =>
    if data.size ≤ s.position then s else Search.run limits data fuel (s.step limits data)

/-- The tokens for some data. -/
def tokens (limits : MatchLimits) (data : Array UInt8) : List Token :=
  let s := Search.run limits data data.size
    { chains := { earlier := Array.replicate data.size 0 } }
  let last := if s.pending then [.literal (data.getD (data.size - 1) 0)] else []
  (last ++ s.tokens).reverse

end PhotoArchive.Deflate
