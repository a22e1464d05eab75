import PhotoArchive.Proofs.Agreement
import PhotoArchive.Proofs.Assembly.Course

/-!
# What copying keeps of a pool

Copying takes a buffer from the pool, writes over its beginning and gives it back. The buffers of a
pool that is ready all have its size, and so there is one for every blob.

## Main definitions

- `BufferPool.Invariant` — a condition that taking, filling and giving back a buffer keep
- `BufferPool.Invariant.Shared` — such a condition on two pools that are the same
- `BufferPool.IsReady` — all buffers that are free have the pool's size, and new ones can be made

## Main statements

- `BufferPool.ready` — readiness is such a condition
-/

namespace PhotoArchive.BufferPool

/-- A condition on pools that all that is done with them in copying keeps. -/
structure Invariant where
  Holds : BufferPool → Prop
  acquire : ∀ {p : BufferPool}, Holds p → Holds (BufferPool.acquire.run p).2
  fill : ∀ {p : BufferPool} (id : BufferId) {data : Bytes}, Holds p →
    data.length ≤ (p.buffer id).length → Holds (p.put id ((p.buffer id).fill data))
  release : ∀ {p : BufferPool} (id : BufferId), Holds p → Holds (p.release id)

/-- Nothing is asked of a pool. -/
def Invariant.trivial : Invariant where
  Holds _ := True
  acquire _ := True.intro
  fill _ _ _ _ := True.intro
  release _ _ := True.intro

/-- Two pools are the same, and an invariant holds of them. -/
def Invariant.Shared (I : Invariant) (p₁ p₂ : BufferPool) : Prop := p₁ = p₂ ∧ I.Holds p₁

section Shared

variable {I : Invariant} {p₁ p₂ : BufferPool} {id : BufferId} {data : Bytes}

/-- Two pools that are the same lend the same buffer, or both refuse to. -/
theorem Invariant.Shared.acquire : Action.Keep I.Shared BufferPool.acquire BufferPool.acquire := by
  rintro p _ ⟨rfl, h⟩
  have hnext := I.acquire h
  rcases hrun : BufferPool.acquire.run p with ⟨e | id, q⟩
  · rw [hrun] at hnext
    exact .failure ⟨rfl, hnext⟩
  · rw [hrun] at hnext
    exact .value ⟨rfl, rfl, hnext⟩

theorem Invariant.Shared.fill (h : I.Shared p₁ p₂) (hfits : data.length ≤ (p₁.buffer id).length) :
    I.Shared (p₁.put id ((p₁.buffer id).fill data)) (p₂.put id ((p₂.buffer id).fill data)) := by
  obtain ⟨rfl, h⟩ := h
  exact ⟨rfl, I.fill id h hfits⟩

theorem Invariant.Shared.release (h : I.Shared p₁ p₂) : I.Shared (p₁.release id) (p₂.release id) := by
  obtain ⟨rfl, h⟩ := h
  exact ⟨rfl, I.release id h⟩

end Shared

/-- All buffers that are free have the size of the pool, and buffers of this size can be made. -/
structure IsReady (p : BufferPool) : Prop where
  free : ∀ id ∈ p.free, (p.buffer id).length = p.bufferSize
  makeable : p.roomFault? = none

namespace IsReady

variable {p : BufferPool} {id : BufferId} {data : Bytes}

theorem refusal?_eq_none (h : p.IsReady) : p.refusal? = none := by
  unfold refusal?
  split
  · exact h.makeable
  · rfl

theorem length_take (h : p.IsReady) : (p.take.2.buffer p.take.1).length = p.bufferSize := by
  unfold take
  cases hfree : p.free with
  | nil => simp [create, remember, buffer, Buffer.length]
  | cons id rest =>
    have hid : id ∈ p.free := by simp [hfree]
    exact h.free id hid

theorem take (h : p.IsReady) : p.take.2.IsReady := by
  refine ⟨?_, (roomFault?_take p).trans h.makeable⟩
  unfold BufferPool.take
  cases hfree : p.free with
  | nil => simp [create, remember, hfree]
  | cons id rest =>
    intro other hother
    have hfree' : other ∈ p.free := hfree ▸ List.mem_cons_of_mem id hother
    exact h.free other hfree'

theorem acquire (h : p.IsReady) : (BufferPool.acquire.run p).2.IsReady := by
  rw [run_acquire h.refusal?_eq_none]
  exact h.take

/-- Filling a buffer leaves the lengths of all buffers alone. -/
theorem length_fill (h : data.length ≤ (p.buffer id).length) (other : BufferId) :
    ((p.put id ((p.buffer id).fill data)).buffer other).length = (p.buffer other).length := by
  by_cases hother : other = id
  · subst hother
    exact (Holds.fill h).length
  · simp [put, buffer, List.getD_eq_getElem?_getD, List.getElem?_set_ne (Ne.symm hother)]

theorem fill (h : p.IsReady) (hfits : data.length ≤ (p.buffer id).length) :
    (p.put id ((p.buffer id).fill data)).IsReady := by
  refine ⟨fun other hother => ?_, h.makeable⟩
  rw [length_fill hfits]
  exact h.free other hother

theorem release (h : p.IsReady) : (p.release id).IsReady := by
  refine ⟨?_, (roomFault?_release p id).trans h.makeable⟩
  unfold BufferPool.release
  simp only
  split
  · next hkept =>
    rintro other (_ | ⟨_, hother⟩)
    · exact hkept.1
    · exact h.free other hother
  · exact h.free

end IsReady

/-- Copying keeps a pool ready. -/
def ready : Invariant where
  Holds := IsReady
  acquire := IsReady.acquire
  fill _ _ h hfits := h.fill hfits
  release _ h := h.release

end PhotoArchive.BufferPool
