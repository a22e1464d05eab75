import PhotoArchive.Proofs.Assembly.Correspondence
import PhotoArchive.Proofs.BufferPool

/-!
# Assemblies from storages that agree

An assembly only asks its storage for the keys of its references. From storages that serve these
keys alike, and into archives that take entries alike, it makes the same archive, or fails in the
same way, and leaves the same behind.

## Main definitions

- `Bench.Alike`, `Workshop.Alike` — all is the same but storages and writers, and these fit together
- `Assembly.lockstep` — sources in step are linked, and their pools stay the same

## Main statements

- `Assembly.copy_lockstep` — copying a blob
- `Assembly.addEntries_keep`, `Assembly.assemble_lockstep`, `Assembly.assemble_keep` — whole assemblies
-/

namespace PhotoArchive

open PhotoArchive.Action

variable {σ₁ σ₂ τ₁ τ₂ α β : Type}

/-! ## What agrees corresponds -/

/-- Sources that agree correspond. -/
def BlobSource.Agreement.correspondence {source₁ : BlobSource σ₁} {source₂ : BlobSource σ₂}
    {keys : Set String} (A : source₁.Agreement source₂ keys) :
    source₁.Correspondence source₂ keys where
  Closed := A.Closed
  Idle := A.Idle
  Reading := A.Reading
  openBlob := A.openBlob
  closeReader := A.closeReader
  closeSession := A.closeSession

theorem BlobSource.Agreement.isInStep {source₁ : BlobSource σ₁} {source₂ : BlobSource σ₂}
    {keys : Set String} (A : source₁.Agreement source₂ keys) : A.correspondence.IsInStep := A.read

/-- Gateways that agree correspond, and complete the same archives. -/
def ArchiveGateway.Agreement.correspondence {gateway₁ : ArchiveGateway τ₁}
    {gateway₂ : ArchiveGateway τ₂} (G : gateway₁.Agreement gateway₂) :
    gateway₁.Correspondence gateway₂ where
  Fits := G.Fits
  Similar := Eq
  create := G.create
  finalize := G.finalize
  discard := G.discard

namespace Assembly

section Lockstep

variable {source₁ : BlobSource σ₁} {source₂ : BlobSource σ₂} {keys : Set String}
  {C : source₁.Correspondence source₂ keys} (hstep : C.IsInStep) {gateway₁ : ArchiveGateway τ₁}
  {gateway₂ : ArchiveGateway τ₂} (G : gateway₁.Agreement gateway₂) (I : BufferPool.Invariant)
  {accounts : Accounts} {session₁ session₂ : SessionId}

/-! ## Copying in step -/

section Copy

variable {reader₁ reader₂ : ReaderId} {room handle : Nat} {data : Bytes} {s₁ storage₁ : σ₁}
  {s₂ : σ₂} {t₁ writer₁ : τ₁} {t₂ : τ₂} {e : Failure}

include hstep in
/-- What one reader delivers, the other one delivers as well. -/
theorem exists_read (h : C.Reading session₁ session₂ reader₁ reader₂ s₁ s₂)
    (hread : (source₁.read reader₁ room).run s₁ = (.ok data, storage₁)) :
    ∃ storage₂, (source₂.read reader₂ room).run s₂ = (.ok data, storage₂) ∧
      C.Reading session₁ session₂ reader₁ reader₂ storage₁ storage₂ := by
  have hnext := hstep session₁ session₂ reader₁ reader₂ room _ _ h
  rw [hread] at hnext
  obtain ⟨_, storage₂, hread₂, rfl, hnext⟩ := hnext.of_ok
  exact ⟨storage₂, hread₂, hnext⟩

/-- What one archive takes, the other one takes as well. -/
theorem exists_write (h : G.Fits t₁ t₂)
    (hwrite : (gateway₁.write handle data).run t₁ = (.ok (), writer₁)) :
    ∃ writer₂, (gateway₂.write handle data).run t₂ = (.ok (), writer₂) ∧ G.Fits writer₁ writer₂ := by
  have hnext := G.write handle data _ _ h
  rw [hwrite] at hnext
  obtain ⟨_, writer₂, hwrite₂, -, hnext⟩ := hnext.of_ok
  exact ⟨writer₂, hwrite₂, hnext⟩

end Copy

include hstep in
/-- Readers in step are copied in the same pieces, and so to the same end. -/
theorem copy_lockstep (reader₁ reader₂ : ReaderId) (handle : Nat) (buffer : BufferId)
    (copied : Nat) :
    Keep
      (Bench.Linked (C.Reading session₁ session₂ reader₁ reader₂) I.Shared accounts G.Fits)
      (copy source₁ gateway₁ reader₁ handle buffer copied)
      (copy source₂ gateway₂ reader₂ handle buffer copied) := by
  intro b₁ b₂ hb
  simp only [run]
  -- Along the recursion of the first copy; the second one reads what the first one reads.
  fun_induction copy source₁ gateway₁ reader₁ handle buffer copied b₁ generalizing b₂ with
  | case1 copied b room e storage hread =>
    have hnext := hstep session₁ session₂ reader₁ reader₂ room _ _ hb.storage
    rw [hread] at hnext
    obtain ⟨storage₂, hread₂, hnext⟩ := hnext.of_error
    simp only [room, hb.pool.1] at hread₂
    rw [copy_of_error hread₂]
    exact .failure { hb with storage := hnext }
  | case2 copied b room storage hread =>
    obtain ⟨storage₂, hread₂, hnext⟩ := exists_read hstep hb.storage hread
    simp only [room, hb.pool.1] at hread₂
    rw [copy_of_end hread₂]
    exact .value ⟨rfl, { hb with storage := hnext }⟩
  | case3 copied b room data storage hread hne hroom =>
    obtain ⟨storage₂, hread₂, hnext⟩ := exists_read hstep hb.storage hread
    simp only [room, hb.pool.1] at hread₂ hroom
    rw [copy_of_exceeded hread₂ hroom]
    exact .failure { hb with storage := hnext }
  | case4 copied b room data storage hread hne hroom filled pool e writer hwrite =>
    obtain ⟨storage₂, hread₂, hnext⟩ := exists_read hstep hb.storage hread
    have hpool := hb.pool.fill (Nat.not_lt.1 hroom)
    rw [Buffer.front_fill] at hwrite
    have htaken := G.write handle data _ _ hb.writer
    rw [hwrite] at htaken
    obtain ⟨writer₂, hwrite₂, hwriter⟩ := htaken.of_error
    simp only [room, hb.pool.1] at hread₂ hroom
    rw [copy_of_refused hread₂ hne (Nat.not_lt.1 hroom) hwrite₂]
    exact .failure { hb with storage := hnext, writer := hwriter, pool := hpool }
  | case5 copied b room data storage hread hne hroom filled pool u writer hwrite ih =>
    obtain ⟨storage₂, hread₂, hnext⟩ := exists_read hstep hb.storage hread
    have hpool := hb.pool.fill (Nat.not_lt.1 hroom)
    rw [Buffer.front_fill] at hwrite
    obtain ⟨writer₂, hwrite₂, hwriter⟩ := exists_write G hb.writer hwrite
    simp only [room, hb.pool.1] at hread₂ hroom
    rw [copy_of_written hread₂ hne (Nat.not_lt.1 hroom) hwrite₂]
    exact ih _ { hb with storage := hnext, writer := hwriter, pool := hpool }

/-- Work with a buffer that agrees whichever buffer it is. -/
theorem borrowing_lockstep {storages : σ₁ → σ₂ → Prop} {writers : τ₁ → τ₂ → Prop}
    {work₁ : BufferId → Action (Bench σ₁ τ₁) α} {work₂ : BufferId → Action (Bench σ₂ τ₂) α}
    (h : ∀ buffer, Keep (Bench.Linked storages I.Shared accounts writers) (work₁ buffer)
      (work₂ buffer)) :
    Keep (Bench.Linked storages I.Shared accounts writers) (borrowing work₁) (borrowing work₂) := by
  refine (onPool_linked BufferPool.Invariant.Shared.acquire).bind_same fun buffer => ?_
  refine (h buffer).ensuring_same (Keep.forget (keep_modify fun _ _ hb => ?_))
  exact { hb with pool := hb.pool.release }

/-- Sources that are in step and archives that agree are a linkage: blobs are copied through the same
buffers. -/
def lockstep : Linkage source₁ source₂ keys gateway₁ gateway₂ where
  sources := C
  archives := G.correspondence
  Pools := I.Shared
  writeEntry accounts session₁ session₂ name blob₁ blob₂ hsize := by
    unfold writeEntry
    rw [hsize]
    refine (onWriter_linked (G.openEntry name blob₂.size)).bind_same fun handle => ?_
    refine (borrowing_lockstep I fun buffer => ?_).ensuring_same
      (Keep.forget (onWriter_linked (G.closeEntry handle)))
    exact copy_lockstep hstep G I _ _ handle buffer 0

end Lockstep

/-- Two benches are the same but for their storages and writers, and these fit together. -/
inductive Bench.Alike (storages : σ₁ → σ₂ → Prop) (writers : τ₁ → τ₂ → Prop) :
    Bench σ₁ τ₁ → Bench σ₂ τ₂ → Prop
  | intro {storage₁ : σ₁} {storage₂ : σ₂} {pool : BufferPool} {ledger : SkipLedger} {log : Log}
      {writer₁ : τ₁} {writer₂ : τ₂} {taken : List Path} {written : Nat}
      (hstorage : storages storage₁ storage₂) (hwriter : writers writer₁ writer₂) :
      Bench.Alike storages writers ⟨storage₁, pool, ledger, log, writer₁, taken, written⟩
        ⟨storage₂, pool, ledger, log, writer₂, taken, written⟩

/-- Nothing is asked of the pool. -/
theorem Bench.linked_iff_alike {storages : σ₁ → σ₂ → Prop} {writers : τ₁ → τ₂ → Prop}
    {b₁ : Bench σ₁ τ₁} {b₂ : Bench σ₂ τ₂} :
    Bench.Linked storages BufferPool.Invariant.trivial.Shared .same writers b₁ b₂ ↔
      Bench.Alike storages writers b₁ b₂ := by
  constructor
  · obtain ⟨storage₁, pool₁, ledger₁, log₁, writer₁, taken₁, written₁⟩ := b₁
    obtain ⟨storage₂, pool₂, ledger₂, log₂, writer₂, taken₂, written₂⟩ := b₂
    rintro ⟨hs, ⟨hpool, -⟩, ⟨hledger, hlog⟩, hw, htaken, hwritten⟩
    obtain rfl : pool₁ = pool₂ := hpool
    obtain rfl : ledger₁ = ledger₂ := hledger
    obtain rfl : log₁ = log₂ := hlog
    obtain rfl : taken₁ = taken₂ := htaken
    obtain rfl : written₁ = written₂ := hwritten
    exact .intro hs hw
  · rintro ⟨hs, hw⟩
    exact ⟨hs, ⟨rfl, trivial⟩, ⟨rfl, rfl⟩, hw, rfl, rfl⟩

theorem addEntries_keep {source₁ : BlobSource σ₁} {source₂ : BlobSource σ₂} {keys : Set String}
    (A : source₁.Agreement source₂ keys) {gateway₁ : ArchiveGateway τ₁}
    {gateway₂ : ArchiveGateway τ₂} (G : gateway₁.Agreement gateway₂) {session₁ session₂ : SessionId}
    {references : List PhotoReference}
    (hkeys : ∀ reference ∈ references, reference.blobKey.value ∈ keys) :
    Keep (Bench.Alike (A.Idle session₁ session₂) G.Fits)
      (addEntries source₁ gateway₁ session₁ references)
      (addEntries source₂ gateway₂ session₂ references) := by
  have hlinked : Keep (Bench.Linked (A.Idle session₁ session₂) BufferPool.Invariant.trivial.Shared
      .same G.Fits) (addEntries source₁ gateway₁ session₁ references)
      (addEntries source₂ gateway₂ session₂ references) :=
    addEntries_linked (lockstep A.isInStep G .trivial) hkeys
  exact hlinked.mono (fun _ _ => Bench.linked_iff_alike.2)
    (fun _ _ _ _ h => ⟨h.1, Bench.linked_iff_alike.1 h.2⟩) fun _ _ => Bench.linked_iff_alike.1

end Assembly

/-! ## Workshops -/

/-- Two workshops are the same but for their storages and writers, and these fit together. -/
inductive Workshop.Alike (storages : σ₁ → σ₂ → Prop) (writers : τ₁ → τ₂ → Prop) :
    Workshop σ₁ τ₁ → Workshop σ₂ τ₂ → Prop
  | intro {storage₁ : σ₁} {storage₂ : σ₂} {pool : BufferPool} {ledger : SkipLedger} {log : Log}
      {writer₁ : Option τ₁} {writer₂ : Option τ₂} (hstorage : storages storage₁ storage₂)
      (hwriter : Option.Rel writers writer₁ writer₂) :
      Workshop.Alike storages writers ⟨storage₁, pool, ledger, log, writer₁⟩
        ⟨storage₂, pool, ledger, log, writer₂⟩

theorem Workshop.linked_iff_alike {storages : σ₁ → σ₂ → Prop} {writers : τ₁ → τ₂ → Prop}
    {w₁ : Workshop σ₁ τ₁} {w₂ : Workshop σ₂ τ₂} :
    Workshop.Linked storages BufferPool.Invariant.trivial.Shared .same (Option.Rel writers) w₁ w₂ ↔
      w₁.Alike storages writers w₂ := by
  constructor
  · obtain ⟨storage₁, pool₁, ledger₁, log₁, writer₁⟩ := w₁
    obtain ⟨storage₂, pool₂, ledger₂, log₂, writer₂⟩ := w₂
    rintro ⟨hs, ⟨hpool, -⟩, ⟨hledger, hlog⟩, hw⟩
    obtain rfl : pool₁ = pool₂ := hpool
    obtain rfl : ledger₁ = ledger₂ := hledger
    obtain rfl : log₁ = log₂ := hlog
    exact .intro hs hw
  · rintro ⟨hs, hw⟩
    exact ⟨hs, ⟨rfl, trivial⟩, ⟨rfl, rfl⟩, hw⟩

namespace Assembly

variable {source₁ : BlobSource σ₁} {source₂ : BlobSource σ₂} {keys : Set String}
  (A : source₁.Agreement source₂ keys) {gateway₁ : ArchiveGateway τ₁}
  {gateway₂ : ArchiveGateway τ₂} (G : gateway₁.Agreement gateway₂)

/-- Results with the same archives and from the same ledgers are the same. -/
theorem ExportResult.Linked.eq {ledger₁ ledger₂ : SkipLedger} {result₁ result₂ : ExportResult}
    (h : ExportResult.Linked Eq ledger₁ ledger₂ result₁ result₂) (hledger : ledger₁ = ledger₂) :
    result₁ = result₂ := by
  subst hledger
  obtain ⟨company₁, archive₁, written₁, skips₁⟩ := result₁
  obtain ⟨company₂, archive₂, written₂, skips₂⟩ := result₂
  obtain ⟨rfl, rfl, rfl, rfl, rfl, rfl⟩ := h
  rfl

variable (I : BufferPool.Invariant) {references : List PhotoReference}

/-- From storages that serve the keys of the references alike, assemblies make the same archive or
fail in the same way, whatever writers there were before. -/
theorem assemble_lockstep (hkeys : ∀ reference ∈ references, reference.blobKey.value ∈ keys) :
    Agree (Workshop.Linked A.Closed I.Shared .same fun _ _ => True)
      (assemble source₁ gateway₁ references) (assemble source₂ gateway₂ references)
      (Same (Workshop.Linked A.Closed I.Shared .same (Option.Rel G.Fits)))
      (Workshop.Linked A.Closed I.Shared .same (Option.Rel G.Fits)) :=
  (assemble_linked (lockstep A.isInStep G I) A.component_eq A.newSession hkeys).mono
    (fun _ _ hw => hw)
    (fun _ _ _ _ h => ⟨h.1.eq h.2.accounts.1, h.2⟩) fun _ _ hw => hw

theorem assemble_keep (hkeys : ∀ reference ∈ references, reference.blobKey.value ∈ keys) :
    Keep (Workshop.Alike A.Closed G.Fits) (assemble source₁ gateway₁ references)
      (assemble source₂ gateway₂ references) :=
  (assemble_lockstep A G .trivial hkeys).mono
    (fun _ _ hw => { Workshop.linked_iff_alike.2 hw with writer := trivial })
    (fun _ _ _ _ h => ⟨h.1, Workshop.linked_iff_alike.1 h.2⟩)
    fun _ _ => Workshop.linked_iff_alike.1

end Assembly

end PhotoArchive
