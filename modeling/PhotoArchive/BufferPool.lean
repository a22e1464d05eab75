import PhotoArchive.Action
import PhotoArchive.Buffer

/-!
# The buffer pool

Blobs are copied through buffers of one fixed size. A buffer that is given back is kept on a free
list, up to a limit, and handed out again; the last one given back is the first one handed out. Its
contents are not cleared.

## Main definitions

- `BufferPool.Event` — what the pool is asked for, and what comes back
- `BufferPool` — the free list, and every buffer
- `BufferPool.make` — an empty pool
- `BufferPool.acquire`, `BufferPool.release` — ask for a buffer and give it back
- `BufferPool.refusal?` — why no buffer can be taken, if none can
- `BufferPool.buffer`, `BufferPool.put` — look at a buffer and change it

## Design notes

Buffers are shared and changed in place, so they have an identity: a buffer is a number, and the
pool knows what every buffer holds, including those that are in use. A buffer whose length is not
the pool's is dropped when it is given back, whoever made it or resized it. The pool remembers which
buffers were taken and given back, and how long they were then. It remembers as well when it was asked
for a buffer and could not make one.
-/

namespace PhotoArchive

/-- The identity of a buffer. -/
abbrev BufferId := Nat

/-- Why there is no pool with the asked-for parameters. -/
inductive PoolError where
  | bufferSizeNotPositive
  deriving DecidableEq, Repr

/-- A pool error in words. -/
def PoolError.message : PoolError → String
  | bufferSizeNotPositive => "buffer_size must be positive"

/-- A buffer leaves the pool or comes back to it, with the length that it has then, or the pool is
asked for one in vain. -/
inductive BufferPool.Event where
  | taken (id : BufferId) (length : Nat)
  | refused
  | returned (id : BufferId) (length : Nat)
  deriving DecidableEq, Repr

/-- A pool of buffers of one size. -/
structure BufferPool where
  /-- The length of the buffers that are handed out. -/
  bufferSize : Nat
  bufferSize_pos : 0 < bufferSize
  /-- How many buffers are kept on the free list at most. -/
  maxRetained : Int
  /-- Where the buffers lie. -/
  memory : Memory := .largest
  /-- The buffers that can be handed out again, the next one first. -/
  free : List BufferId := []
  /-- The buffers, by identity. -/
  buffers : List Buffer := []
  /-- What the pool was asked for and what came back, oldest first. -/
  history : List BufferPool.Event := []

namespace BufferPool

/-- An empty pool of buffers of a positive size, in some memory. -/
def make (bufferSize maxRetained : Int) (memory : Memory) : Except PoolError BufferPool :=
  if h : 0 < bufferSize then
    .ok { bufferSize := bufferSize.toNat, bufferSize_pos := by omega, maxRetained, memory }
  else .error .bufferSizeNotPositive

/-- The number of buffers on the free list. -/
def available (pool : BufferPool) : Nat := pool.free.length

/-- The buffer with an identity. -/
def buffer (pool : BufferPool) (id : BufferId) : Buffer := pool.buffers.getD id {}

/-- Put a buffer in the place of another one; its length may be another one, too. -/
def put (pool : BufferPool) (id : BufferId) (buffer : Buffer) : BufferPool :=
  { pool with buffers := pool.buffers.set id buffer }

/-- Add a buffer, outside the free list. -/
def create (pool : BufferPool) (buffer : Buffer) : BufferId × BufferPool :=
  (pool.buffers.length, { pool with buffers := pool.buffers ++ [buffer] })

/-- Remember an event. -/
def remember (pool : BufferPool) (event : Event) : BufferPool :=
  { pool with history := pool.history ++ [event] }

/-- Why no buffer of the pool's size can be made, if none can. -/
def roomFault? (pool : BufferPool) : Option RoomFault := pool.memory.fault? 0 pool.bufferSize

/-- Buffers can be made exactly if there is room for one in the memory. -/
theorem roomFault?_eq_none_iff {pool : BufferPool} :
    pool.roomFault? = none ↔ pool.memory.hasRoom pool.bufferSize = true := by
  rw [roomFault?, Memory.fault?_eq_none_iff, Nat.zero_add]

/-- Why no buffer can be taken, if none can: none is free, and none can be made. -/
def refusal? (pool : BufferPool) : Option RoomFault :=
  if pool.free.isEmpty then pool.roomFault? else none

/-- Take the next buffer from the free list, or a new one full of zeros. -/
def take (pool : BufferPool) : BufferId × BufferPool :=
  match pool.free with
  | id :: free => (id, { pool with free }.remember (.taken id (pool.buffer id).length))
  | [] =>
    let (id, pool) := pool.create { zeros := pool.bufferSize }
    (id, pool.remember (.taken id (pool.buffer id).length))

/-- What is left of a pool that was asked for a buffer in vain. -/
def refuse (pool : BufferPool) : BufferPool := pool.remember .refused

/-- Ask for a buffer. -/
def acquire : Action BufferPool BufferId := fun pool =>
  match pool.refusal? with
  | some fault => (.error (.length (.noRoom fault)), pool.refuse)
  | none => (.ok pool.take.1, pool.take.2)

theorem run_acquire_of_refusal {pool : BufferPool} {fault : RoomFault}
    (h : pool.refusal? = some fault) :
    acquire.run pool = (.error (.length (.noRoom fault)), pool.refuse) := by
  simp only [Action.run, acquire, h]

theorem run_acquire {pool : BufferPool} (h : pool.refusal? = none) :
    acquire.run pool = (.ok pool.take.1, pool.take.2) := by
  simp only [Action.run, acquire, h]

/-- Give a buffer back. It goes to the free list if it has the pool's size and the list has room;
otherwise it is dropped. -/
def release (pool : BufferPool) (id : BufferId) : BufferPool :=
  let pool := pool.remember (.returned id (pool.buffer id).length)
  if (pool.buffer id).length = pool.bufferSize ∧ (pool.free.length : Int) < pool.maxRetained then
    { pool with free := id :: pool.free }
  else pool

/-- How often the pool was asked for a buffer, in vain or not. -/
def acquired (pool : BufferPool) : Nat :=
  pool.history.countP fun
    | .taken _ _ | .refused => true
    | .returned _ _ => false

/-- How often a buffer was given back. -/
def released (pool : BufferPool) : Nat :=
  pool.history.countP fun
    | .taken _ _ | .refused => false
    | .returned _ _ => true

end BufferPool

end PhotoArchive
