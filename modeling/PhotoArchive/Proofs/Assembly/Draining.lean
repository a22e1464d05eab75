import PhotoArchive.Proofs.Assembly.Correspondence
import PhotoArchive.Proofs.BufferPool
import PhotoArchive.Proofs.Storage.Remains
import PhotoArchive.Proofs.Zip.Twins

/-!
# Copying in any pieces

However a storage cuts a blob into pieces, and however large the buffer is that these go through, all
of the blob gets into its entry, and then copying ends as the blob does.

## Main definitions

- `Remains.outcome`, `Remains.drained` — how copying ends, and what remains then
- `Assembly.Drained` — a blob has been read to its end and written to its entry
- `Assembly.anyPieces` — storages with the same blobs are a linkage, whatever their pieces are

## Main statements

- `Assembly.copy_drains` — copying writes all that remains of a blob
- `Assembly.borrowing_linked` — two blobs with the same bytes get the same data into their entries
-/

namespace PhotoArchive

open PhotoArchive.Action

variable {σ σ₁ σ₂ α : Type}

/-- How copying ends, when some bytes have been copied before. -/
def Remains.outcome (x : Remains) (copied : Nat) : Except Failure Nat :=
  match x.fault with
  | none => .ok (copied + x.data.length)
  | some e => .error e

/-- What remains when all bytes have been read. -/
def Remains.drained (x : Remains) : Remains := { x with data := [] }

namespace Assembly

open Zip (Writer)

variable {openBlob : Path → Except Failure (Stock.Blob Remains)} {closing : Except Failure Unit}
  {source : BlobSource σ} {session : SessionId} {reader : ReaderId} {handle : Nat} {x : Remains}

/-! ## One side -/

/-- What is left when a blob has been copied. -/
structure Drained (S : source.Serves (.ofRemains openBlob closing)) (session : SessionId)
    (reader : ReaderId) (x : Remains) (b b' : Bench σ Writer) : Prop where
  storage : S.Reading session reader x.drained b'.storage
  pool : b'.pool.IsReady
  writer : (b.writer.pour x.data).Twins b'.writer
  rest : b' = { b with storage := b'.storage, pool := b'.pool, writer := b'.writer }

section Drained

variable {S : source.Serves (.ofRemains openBlob closing)} {b b' : Bench σ Writer}

/-- Nothing is copied of a blob of which nothing remains. -/
theorem drained_of_nil {storage : σ} (hdata : x.data = []) (hpool : b.pool.IsReady)
    (hwriter : b.writer.Receives handle) (hreading : S.Reading session reader x storage) :
    Drained S session reader x b { b with storage } where
  storage := by rwa [Remains.drained, ← hdata]
  pool := hpool
  writer := by
    rw [Writer.pour, if_pos hdata]
    exact .refl hwriter.takesAll.accepts hwriter.stored
  rest := rfl

/-- One piece, and then the rest. -/
theorem Drained.piece {front rest : Bytes} {storage : σ} {pool : BufferPool}
    (h : Drained S session reader { x with data := rest }
      { b with storage, pool, writer := b.writer.put front } b')
    (hne : front ≠ []) (hdata : x.data = front ++ rest) (hwriter : b.writer.Receives handle) :
    Drained S session reader x b b' where
  storage := h.storage
  pool := h.pool
  writer := by
    rw [hdata]
    exact (hwriter.pour_append hne rest).trans h.writer
  rest := h.rest

end Drained

/-- A read that there is room for takes some of the bytes that remain, or tells how the blob ends. -/
theorem read_cases (S : source.Serves (.ofRemains openBlob closing)) {s : σ} {room : Nat}
    (h : S.Reading session reader x s) (hroom : 0 < room) :
    (∃ e s', (source.read reader room).run s = (.error e, s') ∧ x.fault = some e ∧ x.data = [] ∧
      S.Reading session reader x s') ∨
    (∃ s', (source.read reader room).run s = (.ok [], s') ∧ x.fault = none ∧ x.data = [] ∧
      S.Reading session reader x s') ∨
    ∃ front rest s', (source.read reader room).run s = (.ok front, s') ∧ front ≠ [] ∧
      front.length ≤ room ∧ x.data = front ++ rest ∧
      S.Reading session reader { x with data := rest } s' := by
  obtain ⟨outcome, y, s', hrun, hreads, hnext⟩ := S.read room h
  have hgives : x.Gives room outcome y := hreads
  cases hgives with
  | piece hne hfits => exact .inr (.inr ⟨_, _, s', hrun, hne, hfits, rfl, hnext⟩)
  | ended => exact .inr (.inl ⟨s', hrun, rfl, rfl, hnext⟩)
  | failed => exact .inl ⟨_, s', hrun, rfl, rfl, hnext⟩
  | noRoom => exact absurd hroom (Nat.lt_irrefl 0)

variable (file : File) (limit : Int)

/-- A blob is copied to its end, in whichever pieces it comes. -/
theorem copy_drains (S : source.Serves (.ofRemains openBlob closing)) {b : Bench σ Writer}
    {buffer : BufferId} (copied : Nat) (hreading : S.Reading session reader x b.storage)
    (hpool : b.pool.IsReady) (hroom : 0 < (b.pool.buffer buffer).length)
    (hwriter : b.writer.Receives handle) :
    ∃ b', copy source (Zip.gateway file .stored limit) reader handle buffer copied b
        = (x.outcome copied, b') ∧ Drained S session reader x b b' := by
  -- On the number of bytes that remain: no piece is empty.
  induction hn : x.data.length using Nat.strongRecOn generalizing x b copied with
  | ind n ih =>
  obtain ⟨e, s', hread, hfault, hdata, hnext⟩ | ⟨s', hread, hfault, hdata, hnext⟩ |
    ⟨front, rest, s', hread, hne, hfits, hdata, hnext⟩ := read_cases S hreading hroom
  · refine ⟨_, (copy_of_error hread).trans ?_, drained_of_nil hdata hpool hwriter hnext⟩
    rw [Remains.outcome, hfault]
  · refine ⟨_, (copy_of_end hread).trans ?_, drained_of_nil hdata hpool hwriter hnext⟩
    rw [Remains.outcome, hfault, hdata, List.length_nil, Nat.add_zero]
  · have hlt : rest.length < n := by
      have hpositive : 0 < front.length := List.length_pos_iff.2 hne
      rw [← hn, hdata, List.length_append]
      omega
    let pool := b.pool.put buffer ((b.pool.buffer buffer).fill front)
    have hroom' : 0 < (pool.buffer buffer).length := by
      rwa [BufferPool.IsReady.length_fill hfits]
    obtain ⟨b', hrun, hdrained⟩ := ih rest.length hlt
      (b := { b with storage := s', pool, writer := b.writer.put front }) (copied + front.length)
      hnext (hpool.fill hfits) hroom' (hwriter.put front) rfl
    refine ⟨b', ?_, hdrained.piece hne hdata hwriter⟩
    rw [copy_of_written hread hne hfits (hwriter.run_write front), hrun]
    unfold Remains.outcome
    simp only [hdata, List.length_append, Nat.add_assoc]

/-- A blob is copied to its end through a buffer of a pool that is ready. -/
theorem borrowing_drains (S : source.Serves (.ofRemains openBlob closing)) {b : Bench σ Writer}
    (hreading : S.Reading session reader x b.storage) (hpool : b.pool.IsReady)
    (hwriter : b.writer.Receives handle) :
    ∃ b', (borrowing fun buffer =>
        copy source (Zip.gateway file .stored limit) reader handle buffer 0).run b
        = (x.outcome 0, b') ∧ Drained S session reader x b b' := by
  have hroom : 0 < (b.pool.take.2.buffer b.pool.take.1).length := by
    rw [hpool.length_take]
    exact b.pool.bufferSize_pos
  obtain ⟨b', hrun, hdrained⟩ := copy_drains file limit S
    (b := { b with pool := b.pool.take.2 }) 0 hreading hpool.take hroom hwriter
  refine ⟨_, run_borrowing hpool.refusal?_eq_none hrun, ?_⟩
  rw [hdrained.rest]
  exact ⟨hdrained.storage, hdrained.pool.release, hdrained.writer, rfl⟩

/-! ## Both sides -/

section Linkage

variable {openBlob₁ openBlob₂ : Path → Except Failure (Stock.Blob Remains)}
  {source₁ : BlobSource σ₁} {source₂ : BlobSource σ₂}
  (S₁ : source₁.Serves (.ofRemains openBlob₁ closing))
  (S₂ : source₂.Serves (.ofRemains openBlob₂ closing)) {keys : Set String}
  (hagree : (Stock.ofRemains openBlob₁ closing).AgreesOn (.ofRemains openBlob₂ closing) keys)
  {session₁ session₂ : SessionId} {reader₁ reader₂ : ReaderId} {accounts : Accounts}

/-- From two pools buffers can be taken, or none can be made for either of them. -/
def LendAlike (p₁ p₂ : BufferPool) : Prop :=
  (p₁.IsReady ∧ p₂.IsReady) ∨
    ∃ fault, p₁.refusal? = some fault ∧ p₂.refusal? = some fault

/-- Two writers to which the same was written, and that receive more under a handle. -/
structure BothReceive (handle : Nat) (w₁ w₂ : Writer) : Prop where
  twins : w₁.Twins w₂
  left : w₁.Receives handle
  right : w₂.Receives handle

/-- From readers of the same bytes, twins get the same data. -/
theorem borrowing_linked (handle : Nat) :
    Agree
      (Bench.Linked ((S₁.correspondenceOn S₂ hagree).Reading session₁ session₂ reader₁ reader₂)
        LendAlike accounts (BothReceive handle))
      (borrowing fun buffer =>
        copy source₁ (Zip.gateway file .stored limit) reader₁ handle buffer 0)
      (borrowing fun buffer =>
        copy source₂ (Zip.gateway file .stored limit) reader₂ handle buffer 0)
      (Same (Bench.Linked ((S₁.correspondenceOn S₂ hagree).Reading session₁ session₂ reader₁ reader₂)
        LendAlike accounts Writer.Twins))
      (Bench.Linked ((S₁.correspondenceOn S₂ hagree).Reading session₁ session₂ reader₁ reader₂)
        LendAlike accounts Writer.Twins) := by
  intro b₁ b₂ hb
  rcases hb.pool with ⟨hready₁, hready₂⟩ | ⟨fault, hfault₁, hfault₂⟩
  case inr =>
    have hrun₁ : (borrowing fun buffer =>
        copy source₁ (Zip.gateway file .stored limit) reader₁ handle buffer 0).run b₁
        = (.error (.length (.noRoom fault)), { b₁ with pool := b₁.pool.refuse }) :=
      run_borrowing_of_refusal hfault₁
    have hrun₂ : (borrowing fun buffer =>
        copy source₂ (Zip.gateway file .stored limit) reader₂ handle buffer 0).run b₂
        = (.error (.length (.noRoom fault)), { b₂ with pool := b₂.pool.refuse }) :=
      run_borrowing_of_refusal hfault₂
    rw [hrun₁, hrun₂]
    -- A pool that was asked in vain is as it was, but for its history.
    exact .failure
      { hb with pool := .inr ⟨fault, hfault₁, hfault₂⟩, writer := hb.writer.twins }
  obtain ⟨x, hreading₁, hreading₂⟩ := hb.storage
  obtain ⟨b₁', hrun₁, h₁⟩ := borrowing_drains file limit S₁ hreading₁ hready₁ hb.writer.left
  obtain ⟨b₂', hrun₂, h₂⟩ := borrowing_drains file limit S₂ hreading₂ hready₂ hb.writer.right
  have hend : Bench.Linked ((S₁.correspondenceOn S₂ hagree).Reading session₁ session₂ reader₁ reader₂)
      LendAlike accounts Writer.Twins b₁' b₂' := by
    rw [h₁.rest, h₂.rest]
    exact
      { storage := ⟨x.drained, h₁.storage, h₂.storage⟩
        pool := .inl ⟨h₁.pool, h₂.pool⟩
        accounts := hb.accounts
        writer := h₁.writer.symm.trans ((hb.writer.twins.pour x.data).trans h₂.writer)
        taken := hb.taken
        written := hb.written }
  rw [hrun₁, hrun₂]
  unfold Remains.outcome
  cases x.fault with
  | none => exact .value ⟨rfl, hend⟩
  | some e => exact .failure hend

/-- Twins that open an entry receive data under the same handle. -/
theorem openEntry_bothReceive (name : String) (declared : Option Int) :
    Agree Writer.Twins (Writer.openEntry name declared) (Writer.openEntry name declared)
      (fun handle₁ handle₂ w₁ w₂ => handle₁ = handle₂ ∧ BothReceive handle₁ w₁ w₂)
      Writer.Twins := by
  intro w₁ w₂ h
  have hreceives₁ := Writer.openEntry_receives h.file.accepts h.stored name declared
  have hreceives₂ := Writer.openEntry_receives h.symm.file.accepts h.symm.stored name declared
  obtain ⟨handle, _, w₁', w₂', hrun₁, hrun₂, rfl, hend⟩ | ⟨e, w₁', w₂', hrun₁, hrun₂, hend⟩ :=
    (Writer.openEntry_twins name declared w₁ w₂ h).cases
  · rw [hrun₁, hrun₂]
    exact .value ⟨rfl, hend, hreceives₁.of_ok hrun₁, hreceives₂.of_ok hrun₂⟩
  · rw [hrun₁, hrun₂]
    exact .failure hend

theorem openEntry_linked {storages : σ₁ → σ₂ → Prop} {pools : BufferPool → BufferPool → Prop}
    (name : String) (declared : Option Int) :
    Agree (Bench.Linked storages pools accounts Writer.Twins)
      (onWriter (Writer.openEntry name declared)) (onWriter (Writer.openEntry name declared))
      (fun handle₁ handle₂ b₁ b₂ => handle₁ = handle₂ ∧
        Bench.Linked storages pools accounts (BothReceive handle₁) b₁ b₂)
      (Bench.Linked storages pools accounts Writer.Twins) :=
  (openEntry_bothReceive name declared).within (fun _ _ hb => hb.writer)
    (fun _ _ _ _ _ _ hb hw => ⟨hw.1, { hb with writer := hw.2 }⟩)
    fun _ _ _ _ hb hw => { hb with writer := hw }

/-- Sources with the same blobs are linked, however they cut them into pieces. -/
def anyPieces (haccepts : file.AcceptsAll) :
    Linkage source₁ source₂ keys (Zip.gateway file .stored limit)
      (Zip.gateway file .stored limit) where
  sources := S₁.correspondenceOn S₂ hagree
  archives := Zip.twins file haccepts limit
  Pools := LendAlike
  writeEntry accounts session₁ session₂ name blob₁ blob₂ hsize := by
    unfold writeEntry
    rw [hsize]
    refine (openEntry_linked name.value blob₂.size).bind fun handle handle₂ b₁ b₂ hb => ?_
    obtain ⟨rfl, hb⟩ := hb
    exact (borrowing_linked file limit S₁ S₂ hagree handle).ensuring_same
      (Keep.forget (onWriter_linked (Writer.closeEntry_twins handle))) b₁ b₂ hb

end Linkage

end Assembly

end PhotoArchive
