import Mathlib.Data.List.Nodup
import Mathlib.Data.List.Perm.Basic
import PhotoArchive.Proofs.BufferPool

/-!
# Buffers in many hands

Clients share a pool: each of them takes buffers, writes to them, lengthens or cuts them, and gives
them back, in any order among each other. A client only gives back what it holds, and leaves alone
what it has given back. Then no buffer is ever in two hands, or in a hand and in the pool.

## Main definitions

- `BufferPool.Sharing` — a pool with the buffers that clients hold
- `BufferPool.Deed`, `Sharing.perform` — what a client does, and what becomes of it
- `Sharing.IsLawful` — deeds by which clients only give back and change what they hold
- `Sharing.IsSound` — what holds of a pool and its clients at any time

## Main statements

- `Sharing.IsSound.perform` — one deed keeps the pool and its clients sound
- `Sharing.perform_other` — one client's deed leaves what another one holds as it is
- `Sharing.after_isExclusive` — what holds after any deeds, and what the next one does
- `Assembly.run_borrowing_of_lent` — work with a borrowed buffer lies between two deeds

## Design notes

Deeds are carried out one at a time, and the list of deeds says in which order; every order of the
deeds of several clients is such a list. That a client holds a buffer is noted once for each time
that it came by it, so a buffer that were handed out twice would be noted twice.
-/

namespace PhotoArchive

open PhotoArchive.Action

namespace BufferPool

/-- How a client has come by a buffer. -/
inductive Title where
  | acquired
  | borrowed
  /-- The client has made it itself. -/
  | made
  deriving DecidableEq, Repr

/-- A buffer in the hands of a client. -/
structure Holding (κ : Type) where
  client : κ
  id : BufferId
  title : Title
  deriving DecidableEq, Repr

/-- A pool and the buffers that clients hold. -/
structure Sharing (κ : Type) where
  pool : BufferPool
  holdings : List (Holding κ) := []

/-- What a client can do. -/
inductive Deed where
  | acquire
  /-- Enter the work with a borrowed buffer. -/
  | borrow
  /-- Make a buffer that is not from the pool. -/
  | make (buffer : Buffer)
  /-- Write to a buffer, which may make it longer or shorter. -/
  | change (id : BufferId) (buffer : Buffer)
  | release (id : BufferId)
  /-- Leave the work with a borrowed buffer, by a failure or not. -/
  | leave (id : BufferId) (outcome : Except Failure Unit)

/-- Whether a deed asks the pool for a buffer. -/
def Deed.IsRequest : Deed → Prop
  | acquire | borrow => True
  | _ => False

/-- Whether a deed gives a buffer back to the pool. -/
def Deed.Returns (id : BufferId) : Deed → Prop
  | release other | leave other _ => other = id
  | _ => False

/-- What a client is told about its deed. -/
inductive Answer where
  | done
  | lent (id : BufferId)
  | refused (failure : Failure)
  | raised (failure : Failure)
  deriving DecidableEq

namespace Sharing

variable {κ : Type} {s : Sharing κ} {client : κ} {id : BufferId}

/-- The buffers that are in hands. -/
def ids (s : Sharing κ) : List BufferId := s.holdings.map Holding.id

/-- What holds of a pool and its clients at any time. -/
structure IsSound (s : Sharing κ) : Prop where
  /-- No buffer is in two hands, in a hand and free, or free twice. -/
  apart : (s.ids ++ s.pool.free).Nodup
  known : ∀ id ∈ s.ids ++ s.pool.free, id < s.pool.buffers.length
  ready : ∀ id ∈ s.pool.free, (s.pool.buffer id).length = s.pool.bufferSize
  few : (s.pool.free.length : Int) ≤ max 0 s.pool.maxRetained

/-! ## Coming by a buffer -/

/-- A client makes a buffer. -/
def make (s : Sharing κ) (client : κ) (title : Title) (buffer : Buffer) : Sharing κ where
  pool := (s.pool.create buffer).2
  holdings := ⟨client, (s.pool.create buffer).1, title⟩ :: s.holdings

/-- The next buffer of the pool is handed out. -/
def hand (s : Sharing κ) (client : κ) (title : Title) : Sharing κ where
  pool := s.pool.take.2
  holdings := ⟨client, s.pool.take.1, title⟩ :: s.holdings

/-- A client asks the pool for a buffer. -/
def lend (s : Sharing κ) (client : κ) (title : Title) : Answer × Sharing κ :=
  match acquire.run s.pool with
  | (.ok id, pool) => (.lent id, { pool, holdings := ⟨client, id, title⟩ :: s.holdings })
  | (.error failure, pool) => (.refused failure, { s with pool })

theorem lend_of_refusal {fault : RoomFault} (h : s.pool.refusal? = some fault) (client : κ)
    (title : Title) :
    s.lend client title = (.refused (.length (.noRoom fault)), { s with pool := s.pool.refuse }) := by
  simp only [lend, run_acquire_of_refusal h]

theorem lend_of_no_refusal (h : s.pool.refusal? = none) (client : κ) (title : Title) :
    s.lend client title = (.lent s.pool.take.1, s.hand client title) := by
  simp only [lend, run_acquire h, hand]

/-- A new buffer is not among those that there are. -/
theorem IsSound.length_not_mem (h : s.IsSound) :
    s.pool.buffers.length ∉ s.ids ++ s.pool.free := by
  intro hmem
  exact absurd (h.known _ hmem) (Nat.lt_irrefl _)

theorem buffer_create {pool : BufferPool} (buffer : Buffer) (hid : id < pool.buffers.length) :
    (pool.create buffer).2.buffer id = pool.buffer id := by
  simp [create, BufferPool.buffer, List.getD_eq_getElem?_getD, List.getElem?_append_left hid]

theorem IsSound.make (h : s.IsSound) (client : κ) (title : Title) (buffer : Buffer) :
    (s.make client title buffer).IsSound where
  apart := List.nodup_cons.2 ⟨h.length_not_mem, h.apart⟩
  known := by
    intro id hid
    have hlength : (s.make client title buffer).pool.buffers.length
        = s.pool.buffers.length + 1 := by
      simp [Sharing.make, create]
    rw [hlength]
    rcases List.mem_cons.1 hid with hnew | hold
    · rw [hnew]
      exact Nat.lt_succ_self _
    · exact Nat.lt_succ_of_lt (h.known id hold)
  ready := by
    intro id hid
    have hfree : id ∈ s.pool.free := hid
    show ((s.pool.create buffer).2.buffer id).length = s.pool.bufferSize
    rw [buffer_create buffer (h.known id (List.mem_append_right _ hfree))]
    exact h.ready id hfree
  few := h.few

/-- A request in vain is only remembered. -/
theorem IsSound.refuse (h : s.IsSound) : IsSound { s with pool := s.pool.refuse } :=
  ⟨h.apart, h.known, h.ready, h.few⟩

/-- A buffer that is handed out is in one hand only, and as long as the pool's buffers are. -/
theorem IsSound.hand (h : s.IsSound) (client : κ) (title : Title) :
    (s.hand client title).IsSound ∧
      ((s.hand client title).pool.buffer s.pool.take.1).length = s.pool.bufferSize := by
  unfold Sharing.hand BufferPool.take
  cases hfree : s.pool.free with
  | nil =>
    -- The pool remembers what it has handed out; nothing else depends on that.
    have hnew := h.make client title { zeros := s.pool.bufferSize }
    refine ⟨⟨hnew.apart, hnew.known, hnew.ready, hnew.few⟩, ?_⟩
    simp [create, remember, BufferPool.buffer, Buffer.length]
  | cons id rest =>
    have happart := h.apart
    have hknown := h.known
    have hready := h.ready
    have hfew := h.few
    rw [hfree] at happart hknown hready hfew
    have hperm : (s.ids ++ id :: rest).Perm (id :: (s.ids ++ rest)) := List.perm_middle
    refine ⟨⟨hperm.nodup_iff.1 happart, ?_, ?_, ?_⟩, hready id List.mem_cons_self⟩
    · intro other hother
      exact hknown other (hperm.mem_iff.2 hother)
    · intro other hother
      exact hready other (List.mem_cons_of_mem _ hother)
    · rw [List.length_cons] at hfew
      show (rest.length : Int) ≤ max 0 s.pool.maxRetained
      omega

theorem IsSound.lend (h : s.IsSound) (client : κ) (title : Title) :
    (s.lend client title).2.IsSound := by
  cases hrefusal : s.pool.refusal? with
  | some fault =>
    rw [lend_of_refusal hrefusal]
    exact h.refuse
  | none =>
    rw [lend_of_no_refusal hrefusal]
    exact (h.hand client title).1

/-- Handing a buffer out changes no buffer that there was. -/
theorem buffer_hand (hid : id < s.pool.buffers.length) (client : κ) (title : Title) :
    (s.hand client title).pool.buffer id = s.pool.buffer id := by
  unfold hand BufferPool.take
  cases s.pool.free with
  | nil => exact buffer_create _ hid
  | cons first rest => rfl

/-- A request is answered with a buffer of the pool's size, or refused because no buffer is free and
none can be made. -/
theorem IsSound.lend_spec (h : s.IsSound) (client : κ) (title : Title) :
    (∃ id, (s.lend client title).1 = .lent id ∧ id ∉ s.ids ∧
        ((s.lend client title).2.pool.buffer id).length = s.pool.bufferSize) ∨
      ∃ fault, s.pool.roomFault? = some fault ∧ s.pool.free = [] ∧
        s.lend client title
          = (.refused (.length (.noRoom fault)), { s with pool := s.pool.refuse }) := by
  cases hrefusal : s.pool.refusal? with
  | none =>
    left
    obtain ⟨hsound, hlength⟩ := h.hand client title
    have hnew : (s.pool.take.1 :: (s.ids ++ s.pool.take.2.free)).Nodup := hsound.apart
    rw [lend_of_no_refusal hrefusal]
    refine ⟨_, rfl, ?_, hlength⟩
    intro hheld
    exact (List.nodup_cons.1 hnew).1 (List.mem_append_left _ hheld)
  | some fault =>
    right
    refine ⟨fault, roomFault?_of_refusal hrefusal, ?_, lend_of_refusal hrefusal client title⟩
    unfold refusal? at hrefusal
    split at hrefusal
    · next hempty => exact List.isEmpty_iff.1 hempty
    · cases hrefusal

/-! ## Giving a buffer back -/

section TakeBack

variable [DecidableEq κ]

/-- A buffer comes back that a client holds. -/
def takeBack (s : Sharing κ) (client : κ) (id : BufferId) : Sharing κ where
  pool := s.pool.release id
  holdings := s.holdings.eraseP fun h => h.client = client ∧ h.id = id

/-- The buffers in hands before and behind one of them is given back. -/
theorem ids_takeBack (hheld : ∃ h ∈ s.holdings, h.client = client ∧ h.id = id) :
    ∃ front back, s.ids = front ++ id :: back ∧ (s.takeBack client id).ids = front ++ back := by
  obtain ⟨h, hmem, hclient, hid⟩ := hheld
  obtain ⟨found, front, back, -, hfound, hsplit, herase⟩ :=
    List.exists_of_eraseP (p := fun h : Holding κ => h.client = client ∧ h.id = id) hmem
      (by simp [hclient, hid])
  have hfoundId : found.id = id := (of_decide_eq_true hfound).2
  refine ⟨front.map Holding.id, back.map Holding.id, ?_, ?_⟩
  · rw [ids, hsplit, List.map_append, List.map_cons, hfoundId]
  · rw [ids, takeBack, herase, List.map_append]

omit [DecidableEq κ] in
theorem release_free (pool : BufferPool) (id : BufferId) :
    ((pool.release id).free = id :: pool.free ∧ (pool.buffer id).length = pool.bufferSize ∧
        (pool.free.length : Int) < pool.maxRetained) ∨
      (pool.release id).free = pool.free := by
  unfold BufferPool.release
  simp only
  split
  · next hkept => exact .inl ⟨rfl, hkept⟩
  · exact .inr rfl

omit [DecidableEq κ] in
theorem release_rest (pool : BufferPool) (id : BufferId) :
    (pool.release id).buffers = pool.buffers ∧ (pool.release id).bufferSize = pool.bufferSize ∧
      (pool.release id).maxRetained = pool.maxRetained ∧
      (pool.release id).memory = pool.memory := by
  unfold BufferPool.release
  simp only
  split <;> exact ⟨rfl, rfl, rfl, rfl⟩

theorem buffer_takeBack (s : Sharing κ) (client : κ) (id other : BufferId) :
    (s.takeBack client id).pool.buffer other = s.pool.buffer other := by
  show (s.pool.release id).buffers.getD other {} = s.pool.buffers.getD other {}
  rw [(release_rest s.pool id).1]

/-- A buffer that comes back goes to the free buffers, where it was not, or is dropped. -/
theorem IsSound.takeBack (h : s.IsSound)
    (hheld : ∃ h ∈ s.holdings, h.client = client ∧ h.id = id) :
    (s.takeBack client id).IsSound := by
  obtain ⟨front, back, hids, hrest⟩ := ids_takeBack hheld
  obtain ⟨hbuffers, hsize, hretained, -⟩ := release_rest s.pool id
  have happart := h.apart
  have hknown := h.known
  rw [hids] at happart hknown
  -- Whichever way the pool decides, nothing comes in that was not in a hand or free before.
  suffices hkept : ∃ free, (s.pool.release id).free = free ∧
      (front ++ back ++ free).Nodup ∧ (∀ other ∈ front ++ back ++ free,
        other ∈ front ++ id :: back ++ s.pool.free) ∧
      (∀ other ∈ free, (s.pool.buffer other).length = s.pool.bufferSize) ∧
      (free.length : Int) ≤ max 0 s.pool.maxRetained by
    obtain ⟨free, hfree, hnodup, hsub, hready, hfew⟩ := hkept
    refine ⟨?_, ?_, ?_, ?_⟩
    · show ((s.takeBack client id).ids ++ (s.pool.release id).free).Nodup
      rwa [hrest, hfree]
    · show ∀ other ∈ (s.takeBack client id).ids ++ (s.pool.release id).free,
        other < (s.pool.release id).buffers.length
      rw [hrest, hfree, hbuffers]
      intro other hother
      exact hknown other (hsub other hother)
    · show ∀ other ∈ (s.pool.release id).free,
        ((s.takeBack client id).pool.buffer other).length = (s.pool.release id).bufferSize
      rw [hfree, hsize]
      intro other hother
      rw [buffer_takeBack]
      exact hready other hother
    · show ((s.pool.release id).free.length : Int) ≤ max 0 (s.pool.release id).maxRetained
      rwa [hfree, hretained]
  rcases release_free s.pool id with ⟨hfree, hlength, hroom⟩ | hfree
  · have hperm :
        (front ++ id :: back ++ s.pool.free).Perm (front ++ back ++ id :: s.pool.free) := by
      have hheld : (front ++ id :: back ++ s.pool.free).Perm
          (id :: (front ++ back ++ s.pool.free)) := by
        simpa only [List.append_assoc, List.cons_append] using
          (List.perm_middle : (front ++ id :: (back ++ s.pool.free)).Perm _)
      exact hheld.trans List.perm_middle.symm
    refine ⟨_, hfree, hperm.nodup_iff.1 happart, ?_, ?_, ?_⟩
    · intro other hother
      exact hperm.mem_iff.2 hother
    · intro other hother
      rcases List.mem_cons.1 hother with rfl | hold
      · exact hlength
      · exact h.ready other hold
    · rw [List.length_cons]
      omega
  · have hsub : (front ++ back ++ s.pool.free).Sublist (front ++ id :: back ++ s.pool.free) :=
      List.Sublist.append ((List.sublist_cons_self id back).append_left front) (.refl _)
    exact ⟨_, hfree, happart.sublist hsub, fun other hother => hsub.subset hother, h.ready, h.few⟩

end TakeBack

/-! ## Changing a buffer -/

theorem buffer_put (pool : BufferPool) (buffer : Buffer) {other : BufferId} (hother : other ≠ id) :
    (pool.put id buffer).buffer other = pool.buffer other := by
  simp [put, BufferPool.buffer, List.getD_eq_getElem?_getD, List.getElem?_set_ne (Ne.symm hother)]

/-- A client changes a buffer. -/
def change (s : Sharing κ) (id : BufferId) (buffer : Buffer) : Sharing κ :=
  { s with pool := s.pool.put id buffer }

/-- What is in a hand can take any length: it is not among the free buffers. -/
theorem IsSound.change (h : s.IsSound) (hheld : id ∈ s.ids) (buffer : Buffer) :
    (s.change id buffer).IsSound where
  apart := h.apart
  known := by
    intro other hother
    show other < (s.pool.buffers.set id buffer).length
    rw [List.length_set]
    exact h.known other hother
  ready := by
    intro other hother
    have hne : other ≠ id := by
      rintro rfl
      exact (List.nodup_append.1 h.apart).2.2 other hheld other hother rfl
    show ((s.pool.put id buffer).buffer other).length = s.pool.bufferSize
    rw [buffer_put s.pool buffer hne]
    exact h.ready other hother
  few := h.few

/-! ## One deed -/

section Perform

variable [DecidableEq κ] {deed : Deed}

/-- What becomes of a deed. A failure that ends the work with a borrowed buffer is passed on. -/
def perform (s : Sharing κ) (client : κ) : Deed → Answer × Sharing κ
  | .acquire => s.lend client .acquired
  | .borrow => s.lend client .borrowed
  | .make buffer => (.done, s.make client .made buffer)
  | .change id buffer => (.done, s.change id buffer)
  | .release id => (.done, s.takeBack client id)
  | .leave id (.ok ()) => (.done, s.takeBack client id)
  | .leave id (.error failure) => (.raised failure, s.takeBack client id)

/-- Clients change and give back what they hold. What was borrowed is only given back by leaving the
work with it. -/
def Permits (s : Sharing κ) (client : κ) : Deed → Prop
  | .acquire | .borrow | .make _ => True
  | .change id _ => ∃ h ∈ s.holdings, h.client = client ∧ h.id = id
  | .release id => ∃ h ∈ s.holdings, h.client = client ∧ h.id = id ∧ h.title ≠ .borrowed
  | .leave id _ => ∃ h ∈ s.holdings, h.client = client ∧ h.id = id ∧ h.title = .borrowed

instance (s : Sharing κ) (client : κ) : DecidablePred (s.Permits client)
  | .acquire | .borrow | .make _ => isTrue trivial
  | .change id _ => inferInstanceAs (Decidable (∃ h ∈ s.holdings, h.client = client ∧ h.id = id))
  | .release id => inferInstanceAs
    (Decidable (∃ h ∈ s.holdings, h.client = client ∧ h.id = id ∧ h.title ≠ .borrowed))
  | .leave id _ => inferInstanceAs
    (Decidable (∃ h ∈ s.holdings, h.client = client ∧ h.id = id ∧ h.title = .borrowed))

theorem perform_leave (s : Sharing κ) (client : κ) (id : BufferId)
    (outcome : Except Failure Unit) :
    (s.perform client (.leave id outcome)).2 = s.takeBack client id := by
  cases outcome <;> rfl

/-- A deed that clients may do keeps the pool and its clients sound. -/
theorem IsSound.perform (h : s.IsSound) (hpermits : s.Permits client deed) :
    (s.perform client deed).2.IsSound := by
  cases deed with
  | acquire => exact h.lend client .acquired
  | borrow => exact h.lend client .borrowed
  | make buffer => exact h.make client .made buffer
  | change id buffer =>
    obtain ⟨held, hmem, -, rfl⟩ := hpermits
    exact h.change (List.mem_map_of_mem hmem) buffer
  | release id =>
    obtain ⟨held, hmem, hclient, hid, -⟩ := hpermits
    exact h.takeBack ⟨held, hmem, hclient, hid⟩
  | leave id outcome =>
    obtain ⟨held, hmem, hclient, hid, -⟩ := hpermits
    rw [perform_leave]
    exact h.takeBack ⟨held, hmem, hclient, hid⟩

/-- A pool has been made for certain buffers, and keeps so many of them. -/
def IsMadeLike (p q : BufferPool) : Prop :=
  p.bufferSize = q.bufferSize ∧ p.maxRetained = q.maxRetained ∧ p.memory = q.memory

theorem isMadeLike_take (pool : BufferPool) : IsMadeLike pool.take.2 pool := by
  unfold BufferPool.take
  split <;> exact ⟨rfl, rfl, rfl⟩

/-- No deed changes what the pool was made for. -/
theorem perform_isMadeLike (s : Sharing κ) (client : κ) (deed : Deed) :
    IsMadeLike (s.perform client deed).2.pool s.pool := by
  have hlend (title : Title) : IsMadeLike (s.lend client title).2.pool s.pool := by
    cases hrefusal : s.pool.refusal? with
    | some fault =>
      rw [lend_of_refusal hrefusal]
      exact ⟨rfl, rfl, rfl⟩
    | none =>
      rw [lend_of_no_refusal hrefusal]
      exact isMadeLike_take s.pool
  cases deed with
  | acquire => exact hlend .acquired
  | borrow => exact hlend .borrowed
  | make buffer => exact ⟨rfl, rfl, rfl⟩
  | change id buffer => exact ⟨rfl, rfl, rfl⟩
  | release id => exact (release_rest s.pool id).2
  | leave id outcome =>
    rw [perform_leave]
    exact (release_rest s.pool id).2

/-- What gives a buffer back adds that buffer to the free ones, or none. -/
theorem free_perform (s : Sharing κ) (client : κ) (hreturns : deed.Returns id) :
    (s.perform client deed).2.pool.free = id :: s.pool.free ∨
      (s.perform client deed).2.pool.free = s.pool.free := by
  have hrelease : (s.pool.release id).free = id :: s.pool.free ∨
      (s.pool.release id).free = s.pool.free :=
    (release_free s.pool id).imp_left fun h => h.1
  cases deed with
  | release other =>
    obtain rfl : other = id := hreturns
    exact hrelease
  | leave other outcome =>
    obtain rfl : other = id := hreturns
    rw [perform_leave]
    exact hrelease
  | _ => exact hreturns.elim

/-- What one client does leaves the buffers of another one in its hands, and as they are. -/
theorem perform_other (h : s.IsSound) (hpermits : s.Permits client deed) {held : Holding κ}
    (hheld : held ∈ s.holdings) (hother : held.client ≠ client) :
    held ∈ (s.perform client deed).2.holdings ∧
      (s.perform client deed).2.pool.buffer held.id = s.pool.buffer held.id := by
  have hknown : held.id < s.pool.buffers.length :=
    h.known _ (List.mem_append_left _ (List.mem_map_of_mem hheld))
  have hlend (title : Title) : held ∈ (s.lend client title).2.holdings ∧
      (s.lend client title).2.pool.buffer held.id = s.pool.buffer held.id := by
    cases hrefusal : s.pool.refusal? with
    | some fault =>
      rw [lend_of_refusal hrefusal]
      exact ⟨hheld, rfl⟩
    | none =>
      rw [lend_of_no_refusal hrefusal]
      exact ⟨List.mem_cons_of_mem _ hheld, buffer_hand hknown client title⟩
  have htakeBack (id : BufferId) : held ∈ (s.takeBack client id).holdings ∧
      (s.takeBack client id).pool.buffer held.id = s.pool.buffer held.id := by
    refine ⟨?_, buffer_takeBack s client id held.id⟩
    apply (List.mem_eraseP_of_neg ?_).2 hheld
    simp [hother]
  cases deed with
  | acquire => exact hlend .acquired
  | borrow => exact hlend .borrowed
  | make buffer => exact ⟨List.mem_cons_of_mem _ hheld, buffer_create buffer hknown⟩
  | change id buffer =>
    obtain ⟨mine, hmine, hclient, rfl⟩ := hpermits
    refine ⟨hheld, buffer_put s.pool buffer ?_⟩
    -- One buffer would be in two hands.
    intro hid
    have hsame : held = mine :=
      List.inj_on_of_nodup_map (List.nodup_append.1 h.apart).1 hheld hmine hid
    exact hother (hsame ▸ hclient)
  | release id => exact htakeBack id
  | leave id outcome =>
    rw [perform_leave]
    exact htakeBack id

/-! ## Any deeds -/

/-- What some deeds leave behind. -/
def after (s : Sharing κ) : List (κ × Deed) → Sharing κ
  | [] => s
  | (client, deed) :: rest => (s.perform client deed).2.after rest

/-- No deed is one that clients must not do. -/
def IsLawful (s : Sharing κ) : List (κ × Deed) → Prop
  | [] => True
  | (client, deed) :: rest => s.Permits client deed ∧ (s.perform client deed).2.IsLawful rest

instance decidableIsLawful (s : Sharing κ) : DecidablePred s.IsLawful
  | [] => isTrue trivial
  | (client, deed) :: rest =>
    have := decidableIsLawful (s.perform client deed).2 rest
    inferInstanceAs (Decidable (s.Permits client deed ∧ (s.perform client deed).2.IsLawful rest))

theorem IsSound.after {deeds : List (κ × Deed)} (h : s.IsSound) (hlawful : s.IsLawful deeds) :
    (s.after deeds).IsSound ∧ IsMadeLike (s.after deeds).pool s.pool := by
  induction deeds generalizing s with
  | nil => exact ⟨h, rfl, rfl, rfl⟩
  | cons deed rest ih =>
    obtain ⟨hsize, hretained, hmemory⟩ := perform_isMadeLike s deed.1 deed.2
    obtain ⟨hsound, hsizeAfter, hretainedAfter, hmemoryAfter⟩ := ih (h.perform hlawful.1) hlawful.2
    exact ⟨hsound, hsizeAfter.trans hsize, hretainedAfter.trans hretained,
      hmemoryAfter.trans hmemory⟩

end Perform

end Sharing

/-- A new pool that nobody has taken a buffer from. -/
theorem isSound_make {κ : Type} {bufferSize maxRetained : Int} {memory : Memory}
    {pool : BufferPool} (h : make bufferSize maxRetained memory = .ok pool) :
    Sharing.IsSound (κ := κ) { pool } ∧ (pool.bufferSize : Int) = bufferSize ∧
      pool.maxRetained = maxRetained ∧ pool.memory = memory := by
  unfold make at h
  split at h
  · next hpositive =>
    obtain rfl := Except.ok.inj h
    refine ⟨⟨List.nodup_nil, ?_, ?_, ?_⟩, Int.toNat_of_nonneg (Int.le_of_lt hpositive), rfl, rfl⟩
    · intro id hid
      cases hid
    · intro id hid
      cases hid
    · exact Int.le_max_left 0 maxRetained
  · cases h

namespace Sharing

variable {κ : Type} [DecidableEq κ]

/-- Whatever clients do with a pool in whatever order, as long as they only change and give back
what they hold: no buffer is in two hands, or in a hand and free, or free twice, and no more buffers are
free than the pool keeps. Whoever asks then is handed a buffer of the pool's size that is in no
other hand, or nothing is free and there is no room for such a buffer in the memory, and then nothing
changes but that the request is remembered. Whoever gives a buffer back adds at most that buffer to the
free ones. -/
theorem after_isExclusive {bufferSize maxRetained : Int} {memory : Memory} {pool : BufferPool}
    (hmake : BufferPool.make bufferSize maxRetained memory = .ok pool)
    {deeds : List (κ × Deed)} (hlawful : IsLawful { pool } deeds) :
    let s : Sharing κ := after { pool } deeds
    s.ids.Nodup ∧ (∀ id ∈ s.ids, id ∉ s.pool.free) ∧ s.pool.free.Nodup ∧
      (s.pool.free.length : Int) ≤ max 0 maxRetained ∧
      (∀ client deed, deed.IsRequest →
        (∃ id, (s.perform client deed).1 = .lent id ∧ id ∉ s.ids ∧
            (((s.perform client deed).2.pool.buffer id).length : Int) = bufferSize) ∨
          ∃ fault, memory.fault? 0 bufferSize.toNat = some fault ∧ s.pool.free = [] ∧
            s.perform client deed
              = (.refused (.length (.noRoom fault)), { s with pool := s.pool.refuse })) ∧
      ∀ client id deed, deed.Returns id →
        (s.perform client deed).2.pool.free = id :: s.pool.free ∨
          (s.perform client deed).2.pool.free = s.pool.free := by
  intro s
  obtain ⟨hnew, hsize, hretained, hmemory⟩ := isSound_make (κ := κ) hmake
  obtain ⟨hsound, hsizeAfter, hretainedAfter, hmemoryAfter⟩ := hnew.after hlawful
  obtain ⟨hids, hfree, hdisjoint⟩ := List.nodup_append.1 hsound.apart
  have hbufferSize : s.pool.bufferSize = pool.bufferSize := hsizeAfter
  have hroom : s.pool.roomFault? = memory.fault? 0 bufferSize.toNat := by
    rw [roomFault?, hmemoryAfter, hbufferSize, hmemory, ← hsize, Int.toNat_natCast]
  have hlend (client : κ) (title : Title) :
      (∃ id, (s.lend client title).1 = .lent id ∧ id ∉ s.ids ∧
          (((s.lend client title).2.pool.buffer id).length : Int) = bufferSize) ∨
        ∃ fault, memory.fault? 0 bufferSize.toNat = some fault ∧ s.pool.free = [] ∧
          s.lend client title
            = (.refused (.length (.noRoom fault)), { s with pool := s.pool.refuse }) := by
    rw [← hroom, ← hsize, ← hbufferSize]
    rcases hsound.lend_spec client title with ⟨id, hlent, hid, hlength⟩ | hrefused
    · exact .inl ⟨id, hlent, hid, by rw [hlength]⟩
    · exact .inr hrefused
  refine ⟨hids, ?_, hfree, ?_, ?_, fun client id deed => free_perform s client⟩
  · intro id hheld hid
    exact hdisjoint id hheld id hid rfl
  · rw [← hretained]
    exact hretainedAfter ▸ hsound.few
  · intro client deed hrequest
    cases deed with
    | acquire => exact hlend client .acquired
    | borrow => exact hlend client .borrowed
    | _ => exact hrequest.elim

/-- A borrowed buffer is lengthened and left by a failure, another one is given back while both are
in use, a third one was made by its client. -/
def sampleDeeds : List (Bool × Deed) :=
  [(false, .borrow), (true, .acquire), (false, .change 0 { zeros := 4 }),
    (true, .change 1 { written := [1, 2, 3] }),
    (false, .leave 0 (.error (.cancelled "stop"))), (true, .release 1),
    (true, .make { zeros := 3 }), (false, .acquire), (true, .release 2)]

def samplePool : BufferPool :=
  { bufferSize := 3, bufferSize_pos := by decide, maxRetained := 1, memory := .upTo 100 }

theorem after_isExclusive_sample :
    BufferPool.make 3 1 (.upTo 100) = .ok samplePool ∧
      IsLawful { pool := samplePool } sampleDeeds ∧
      (after { pool := samplePool } sampleDeeds).ids = [1] ∧
      (after { pool := samplePool } sampleDeeds).pool.free = [2] ∧
      (after { pool := samplePool } sampleDeeds).ids.Nodup ∧
      ∀ id ∈ (after { pool := samplePool } sampleDeeds).ids,
        id ∉ (after { pool := samplePool } sampleDeeds).pool.free :=
  have hmake : BufferPool.make 3 1 (.upTo 100) = .ok samplePool := rfl
  have hlawful : IsLawful { pool := samplePool } sampleDeeds := by decide
  have h := after_isExclusive hmake hlawful
  ⟨hmake, hlawful, by decide, by decide, h.1, h.2.1⟩

/-- There are pools of buffers that cannot be made. -/
theorem not_forall_lent :
    ¬ ∀ (bufferSize maxRetained : Int) (memory : Memory) (pool : BufferPool),
      BufferPool.make bufferSize maxRetained memory = .ok pool →
      ∀ deeds : List (Bool × Deed), IsLawful { pool } deeds → ∀ client deed, deed.IsRequest →
        ∃ id, ((after { pool } deeds).perform client deed).1 = .lent id := by
  intro h
  obtain ⟨id, hid⟩ :=
    h wordLimit 16 .largest { bufferSize := wordLimit, bufferSize_pos := by decide, maxRetained := 16 }
      rfl [] trivial true .acquire trivial
  cases hid

end Sharing

end BufferPool

/-! ## Work with a borrowed buffer -/

namespace Assembly

open BufferPool (Sharing)

variable {σ τ α κ : Type} [DecidableEq κ] {work : BufferId → Action (Bench σ τ) α}
  {b b' : Bench σ τ} {s : Sharing κ} {client : κ}

theorem run_borrowing_of_refused {failure : Failure} (hpool : s.pool = b.pool)
    (hborrow : (s.perform client .borrow).1 = .refused failure) :
    (borrowing work).run b =
      (.error failure, { b with pool := (s.perform client .borrow).2.pool }) := by
  have hrefused : (s.lend client .borrowed).1 = .refused failure := hborrow
  show _ = (_, { b with pool := (s.lend client .borrowed).2.pool })
  cases hrefusal : s.pool.refusal? with
  | some fault =>
    rw [Sharing.lend_of_refusal hrefusal] at hrefused ⊢
    injection hrefused with hsame
    rw [← hsame, hpool]
    exact run_borrowing_of_refusal (hpool ▸ hrefusal)
  | none =>
    rw [Sharing.lend_of_no_refusal hrefusal] at hrefused
    cases hrefused

/-- Work with a borrowed buffer is entered by one deed and left by another one, also when it
fails. -/
theorem run_borrowing_of_lent {id : BufferId} {outcome : Except Failure α}
    (hpool : s.pool = b.pool) (hborrow : (s.perform client .borrow).1 = .lent id)
    (hwork : (work id).run { b with pool := (s.perform client .borrow).2.pool } = (outcome, b')) :
    (borrowing work).run b =
      (outcome,
        { b' with
          pool :=
            (Sharing.perform { (s.perform client .borrow).2 with pool := b'.pool } client
              (.leave id (outcome.map fun _ => ()))).2.pool }) := by
  rw [Sharing.perform_leave]
  have hlent : (s.lend client .borrowed).1 = .lent id := hborrow
  have hworkLent : (work id).run { b with pool := (s.lend client .borrowed).2.pool }
      = (outcome, b') := hwork
  cases hrefusal : s.pool.refusal? with
  | some fault =>
    rw [Sharing.lend_of_refusal hrefusal] at hlent
    cases hlent
  | none =>
    rw [Sharing.lend_of_no_refusal hrefusal] at hlent hworkLent
    injection hlent with hid
    subst hid
    have htaken : (s.hand client .borrowed).pool = b.pool.take.2 := by
      rw [← hpool]
      rfl
    rw [htaken, hpool] at hworkLent
    rw [hpool] at hrefusal ⊢
    exact run_borrowing hrefusal hworkLent

end Assembly

end PhotoArchive
