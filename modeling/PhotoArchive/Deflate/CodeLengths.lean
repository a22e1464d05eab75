/-!
# Code lengths

Code lengths of a prefix code that is as short as possible for given frequencies, with a limit on the
length of a code. The two rarest nodes are joined until one tree is left; codes that come out too
long are shortened at the expense of others.

## Main definitions

- `CodeTree` — the forest while nodes are joined
- `codeLengths` — the code length of every symbol; zero for symbols that do not occur

## Design notes

Of two nodes of one frequency the flatter one counts as the rarer one, and the order among equals is
that of a binary heap. A code has at least two symbols: symbols that do not occur are added if
need be.
-/

namespace PhotoArchive.Deflate

/-- The forest while nodes are joined. Nodes are numbers; leaves come first. -/
structure CodeTree where
  /-- A binary heap of the roots, the rarest one on top; children of `k` are `2k + 1` and `2k + 2`. -/
  heap : Array Nat := #[]
  frequency : Array Nat
  depth : Array Nat
  parent : Array Nat
  /-- The nodes that have been joined, the last ones first. -/
  joined : List Nat := []

namespace CodeTree

/-- Whether node `n` counts as rarer than node `m`, or as equally rare. -/
def rarer (t : CodeTree) (n m : Nat) : Bool :=
  let f := t.frequency.getD n 0
  let g := t.frequency.getD m 0
  f < g || (f == g && t.depth.getD n 0 ≤ t.depth.getD m 0)

/-- Let node `v` sink from place `k` of the heap to where it belongs. -/
def sink (t : CodeTree) (v : Nat) : Nat → Nat → Array Nat → Array Nat
  | 0, k, heap => heap.setIfInBounds k v
  | fuel + 1, k, heap =>
    let left := 2 * k + 1
    if heap.size ≤ left then heap.setIfInBounds k v
    else
      let right := left + 1
      let child :=
        if right < heap.size && t.rarer (heap.getD right 0) (heap.getD left 0) then right else left
      if t.rarer v (heap.getD child 0) then heap.setIfInBounds k v
      else sink t v fuel child (heap.setIfInBounds k (heap.getD child 0))

/-- Put the node at place `k` where it belongs below. -/
def sinkAt (t : CodeTree) (k : Nat) : CodeTree :=
  { t with heap := t.sink (t.heap.getD k 0) t.heap.size k t.heap }

/-- Make a heap of any order of the roots. -/
def heapify (t : CodeTree) : CodeTree :=
  (List.range (t.heap.size / 2)).reverse.foldl sinkAt t

/-- Take the rarest root out of the heap. -/
def pop (t : CodeTree) : Nat × CodeTree :=
  let top := t.heap.getD 0 0
  let last := t.heap.getD (t.heap.size - 1) 0
  (top, { t with heap := t.heap.pop.setIfInBounds 0 last }.sinkAt 0)

/-- Join the two rarest roots under a new node. -/
def join (t : CodeTree) : CodeTree :=
  let (n, t) := t.pop
  let m := t.heap.getD 0 0
  let node := t.frequency.size
  let t := { t with
    frequency := t.frequency.push (t.frequency.getD n 0 + t.frequency.getD m 0)
    depth := t.depth.push (max (t.depth.getD n 0) (t.depth.getD m 0) + 1)
    parent := ((t.parent.setIfInBounds n node).setIfInBounds m node).push 0
    joined := m :: n :: t.joined
    heap := t.heap.setIfInBounds 0 node }
  t.sinkAt 0

/-- Join roots until one is left; each step leaves one root less. -/
def joinAll : Nat → CodeTree → CodeTree
  | 0, t => t
  | fuel + 1, t => if t.heap.size < 2 then t else joinAll fuel t.join

end CodeTree

/-- Add symbols until there are two: the next one above the highest, or symbol zero. -/
def atLeastTwo : Nat → List Nat → List Nat
  | 0, used => used
  | fuel + 1, used =>
    if 2 ≤ used.length then used
    else
      let next := match used.getLast? with
        | none => 0
        | some highest => if highest < 2 then highest + 1 else 0
      atLeastTwo fuel (used ++ [next])

/-- Shorten codes that are too long: move a leaf of the longest shorter length down and put a leaf
that was too long beside it, until none is too long. `counts` holds the number of leaves by
length. -/
def balance (maxLength : Nat) : Nat → Nat → Array Nat → Array Nat
  | 0, _, counts => counts
  | fuel + 1, overflow, counts =>
    if overflow = 0 then counts
    else
      let shorter := ((List.range maxLength).reverse.find? fun n => counts.getD n 0 ≠ 0).getD 0
      let counts := counts.modify shorter (· - 1)
      let counts := counts.modify (shorter + 1) (· + 2)
      let counts := counts.modify maxLength (· - 1)
      balance maxLength fuel (overflow - 2) counts

/-- Deal out the lengths by their numbers, the longest ones first. -/
def deal (counts : Array Nat) (maxLength : Nat) (leaves : List Nat) : List (Nat × Nat) :=
  let lengths := (List.range maxLength).reverse.flatMap fun n =>
    List.replicate (counts.getD (n + 1) 0) (n + 1)
  leaves.zip lengths

/-- The code lengths for given frequencies, none above `maxLength`. -/
def codeLengths (maxLength : Nat) (frequencies : List Nat) : List Nat :=
  let size := frequencies.length
  let occurring := (List.range size).filter fun n => frequencies.getD n 0 ≠ 0
  let used := atLeastTwo 2 occurring
  let frequency := (List.range size).map fun n =>
    if n ∈ used then max 1 (frequencies.getD n 0) else 0
  let forest : CodeTree :=
    { heap := used.toArray
      frequency := frequency.toArray
      depth := Array.replicate size 0
      parent := Array.replicate size 0 }
  let tree := forest.heapify.joinAll size
  -- lengths from the root down; a node that would be too deep stays at the limit
  let assign (state : Array Nat × Nat) (n : Nat) : Array Nat × Nat :=
    let length := state.1.getD (tree.parent.getD n 0) 0 + 1
    if maxLength < length then (state.1.setIfInBounds n maxLength, state.2 + 1)
    else (state.1.setIfInBounds n length, state.2)
  let (lengths, overflow) :=
    tree.joined.foldl assign (Array.replicate tree.frequency.size 0, 0)
  let leaves := tree.joined.reverse.filter (· < size)
  if overflow = 0 then
    (List.range size).map fun n => if n ∈ used then lengths.getD n 0 else 0
  else
    let counts := leaves.foldl (fun counts n => counts.modify (lengths.getD n 0) (· + 1))
      (Array.replicate (maxLength + 2) 0)
    let dealt := deal (balance maxLength (overflow + 1) overflow counts) maxLength leaves
    (List.range size).map fun n => ((dealt.find? fun entry => entry.1 = n).map Prod.snd).getD 0

example : codeLengths 15 [5, 1, 1, 0] = [1, 2, 2, 0] := by decide +kernel
example : codeLengths 15 [0, 0, 0] = [1, 1, 0] := by decide +kernel

end PhotoArchive.Deflate
