import PhotoArchive.Proofs.Assembly.Visit
import PhotoArchive.Proofs.Path.SuffixIndex

/-!
# The course of an assembly

Each function of the assembly has one lemma that says all it does: there is a `Copying`, an
`EntryWork`, a `Visit` or a list of visits that tells how it ends and whose footprint leads from the
bench before to the bench after. Everything else about assemblies follows from these.

## Main statements

- `copy_course`, `writeEntry_course`, `addEntry_course` — what is done for one reference
- `addEntries_course` — what is done for all of them, up to the first failure that ends the work

## Design notes

The lemmas hold of every storage and every archive, whatever they answer to which call.
-/

namespace PhotoArchive

namespace BufferPool

/-- Work with a borrowed buffer changes nothing in the pool but what the buffer holds. -/
structure Holds (id : BufferId) (p p' : BufferPool) : Prop where
  history : p'.history = p.history
  roomFault : p'.roomFault? = p.roomFault?
  length : (p'.buffer id).length = (p.buffer id).length

theorem Holds.refl (id : BufferId) (p : BufferPool) : Holds id p p := ⟨rfl, rfl, rfl⟩

theorem Holds.trans {id : BufferId} {p q r : BufferPool} (h : Holds id p q) (h' : Holds id q r) :
    Holds id p r :=
  ⟨h'.history.trans h.history, h'.roomFault.trans h.roomFault, h'.length.trans h.length⟩

/-- Data that fit a buffer leave its length alone. -/
theorem Holds.fill {id : BufferId} {p : BufferPool} {data : Bytes}
    (h : data.length ≤ (p.buffer id).length) : Holds id p (p.put id ((p.buffer id).fill data)) := by
  have hlength : ((p.buffer id).fill data).length = (p.buffer id).length := by
    simp only [Buffer.length, Buffer.fill, List.length_append, List.length_drop] at h ⊢
    omega
  refine ⟨rfl, rfl, ?_⟩
  by_cases hid : id < p.buffers.length
  · simpa [buffer, put, List.getD, List.getElem?_set_self hid] using hlength
  · rw [put, List.set_eq_of_length_le (Nat.not_lt.1 hid)]

/-- A pool refuses to give a buffer only because none can be made. -/
theorem roomFault?_of_refusal {p : BufferPool} {fault : RoomFault} (h : p.refusal? = some fault) :
    p.roomFault? = some fault := by
  unfold refusal? at h
  split at h
  · exact h
  · cases h

theorem history_refuse (p : BufferPool) : p.refuse.history = p.history ++ [.refused] := rfl

theorem history_take (p : BufferPool) :
    p.take.2.history = p.history ++ [.taken p.take.1 (p.take.2.buffer p.take.1).length] := by
  unfold take
  split <;> rfl

theorem roomFault?_take (p : BufferPool) : p.take.2.roomFault? = p.roomFault? := by
  unfold take
  split <;> rfl

theorem history_release (p : BufferPool) (id : BufferId) :
    (p.release id).history = p.history ++ [.returned id (p.buffer id).length] := by
  unfold release
  simp only
  split <;> rfl

theorem roomFault?_release (p : BufferPool) (id : BufferId) :
    (p.release id).roomFault? = p.roomFault? := by
  unfold release
  simp only
  split <;> rfl

end BufferPool

namespace Assembly

variable {σ τ α : Type} {source : BlobSource σ} {gateway : ArchiveGateway τ}

/-! ## Footprints of single steps -/

namespace Footprint.Marks

theorem refl (b : Bench σ τ) : Marks source gateway {} b b where
  storage := .nil _
  writer := .nil _
  history := by simp
  roomFault := rfl
  taken := by simp
  company := rfl
  records := by simp
  log := by simp
  written := by simp

/-- One step after the other. -/
theorem append {f g : Footprint} {b m b' : Bench σ τ} (hf : Marks source gateway f b m)
    (hg : Marks source gateway g m b') : Marks source gateway (f ++ g) b b' where
  storage := hf.storage.append hg.storage
  writer := hf.writer.append hg.writer
  history := by rw [hg.history, hf.history]; simp
  roomFault := hg.roomFault.trans hf.roomFault
  taken := by rw [hg.taken, hf.taken]; simp
  company := hg.company.trans hf.company
  records := by rw [hg.records, hf.records]; simp
  log := by
    have hrecord : Note.record m.ledger = Note.record b.ledger := by
      funext note
      cases note <;> simp [Note.record, SkipLedger.warning, hf.company]
    rw [hg.log, hf.log, hrecord]
    simp
  written := by rw [hg.written, hf.written]; simp [Nat.add_assoc]

theorem ofStorage {b : Bench σ τ} {calls : List StorageCall} {s : σ}
    (h : Leads source.Answers calls b.storage s) :
    Marks source gateway { storageCalls := calls } b { b with storage := s } :=
  { (refl b : Marks source gateway {} b b) with storage := h }

theorem ofWriter {b : Bench σ τ} {calls : List WriterCall} {t : τ}
    (h : Leads gateway.Answers calls b.writer t) :
    Marks source gateway { writerCalls := calls } b { b with writer := t } :=
  { (refl b : Marks source gateway {} b b) with writer := h }

/-- A photo is entered into the ledger. -/
theorem ofSkip (record : SkipRecord) (b : Bench σ τ) :
    Marks source gateway { notes := [.skipped record] } b
      { b with ledger := b.ledger.add record, log := b.log ++ [b.ledger.warning record] } :=
  { (refl b : Marks source gateway {} b b) with
    records := rfl
    log := rfl }

/-- A photo is counted. -/
theorem ofWritten (name : Path) (length : Nat) (b : Bench σ τ) :
    Marks source gateway { notes := [.written name length] } b
      { b with
        log := b.log ++ [(Note.written name length).record b.ledger]
        written := b.written + 1 } :=
  { (refl b : Marks source gateway {} b b) with
    log := rfl
    written := rfl }

/-- A name is taken. -/
theorem ofName (name : Path) (b : Bench σ τ) :
    Marks source gateway { names := [name] } b { b with taken := name :: b.taken } :=
  { (refl b : Marks source gateway {} b b) with taken := rfl }

/-- What is done with a borrowed buffer is no concern of the pool's. -/
theorem ofPool {f : Footprint} {b b' : Bench σ τ} {id : BufferId} {p : BufferPool}
    (h : Marks source gateway f b b') (hp : BufferPool.Holds id b'.pool p) :
    Marks source gateway f b { b' with pool := p } :=
  { h with
    history := hp.history.trans h.history
    roomFault := hp.roomFault.trans h.roomFault }

end Footprint.Marks

open Footprint

/-! ## Copying -/

/-- The calls to the storage and to the archive while pieces are copied. -/
def copyFootprint (reader : ReaderId) (handle room : Nat) (pieces : List Bytes)
    (ending : CopyEnd) : Footprint where
  storageCalls := pieces.map (fun piece => .read reader room (.ok piece))
    ++ [.read reader room ending.answer]
  writerCalls := pieces.map (fun piece => .write handle piece (.ok ())) ++ ending.writes handle

/-- Copying reads piece after piece and writes each of them, until something ends that. -/
theorem copy_course (source : BlobSource σ) (gateway : ArchiveGateway τ) (reader : ReaderId)
    (handle : Nat) (buffer : BufferId) (copied : Nat) (b : Bench σ τ) :
    ∃ (pieces : List Bytes) (ending : CopyEnd),
      (∀ piece ∈ pieces, piece ≠ [] ∧ piece.length ≤ (b.pool.buffer buffer).length) ∧
      ending.Fits (b.pool.buffer buffer).length ∧
      (copy source gateway reader handle buffer copied b).1
        = ending.outcome (copied + pieces.flatten.length) ∧
      (copyFootprint reader handle (b.pool.buffer buffer).length pieces ending).Marks source gateway
        b (copy source gateway reader handle buffer copied b).2 ∧
      BufferPool.Holds buffer b.pool (copy source gateway reader handle buffer copied b).2.pool := by
  -- Along the recursion of `copy`: one piece in front of what is copied from then on.
  fun_induction copy source gateway reader handle buffer copied b with
  | case1 copied b room e storage hread =>
    exact ⟨[], .failed e, by simp, trivial, rfl, .ofStorage (.single hread), .refl _ _⟩
  | case2 copied b room storage hread =>
    exact ⟨[], .finished, by simp, trivial, by simp [CopyEnd.outcome],
      .ofStorage (.single hread), .refl _ _⟩
  | case3 copied b room data storage hread hne hroom =>
    exact ⟨[], .exceeded data, by simp, hroom, rfl, .ofStorage (.single hread), .refl _ _⟩
  | case4 copied b room data storage hread hne hroom filled pool e writer hwrite =>
    rw [Buffer.front_fill] at hwrite
    have hread : source.Answers (.read reader room (.ok data)) b.storage storage := hread
    have hwrite : gateway.Answers (.write handle data (.error e)) b.writer writer := hwrite
    have hfill : BufferPool.Holds buffer b.pool pool := .fill (Nat.not_lt.1 hroom)
    refine ⟨[], .refused data e, by simp, ⟨hne, Nat.not_lt.1 hroom⟩, rfl, ?_, hfill⟩
    exact ((Marks.ofStorage (.single hread)).append (.ofWriter (.single hwrite))).ofPool hfill
  | case5 copied b room data storage hread hne hroom filled pool u writer hwrite ih =>
    rw [Buffer.front_fill] at hwrite
    have hread : source.Answers (.read reader room (.ok data)) b.storage storage := hread
    have hwrite : gateway.Answers (.write handle data (.ok ())) b.writer writer := hwrite
    have hfill : BufferPool.Holds buffer b.pool pool := .fill (Nat.not_lt.1 hroom)
    obtain ⟨pieces, ending, hpieces, hending, houtcome, hmarks, hholds⟩ := ih
    simp only [hfill.length] at hpieces hending hmarks
    refine ⟨data :: pieces, ending, ?_, hending, ?_, ?_, hfill.trans hholds⟩
    · rintro piece (_ | ⟨_, hp⟩)
      · exact ⟨hne, Nat.not_lt.1 hroom⟩
      · exact hpieces piece hp
    · rw [houtcome, List.flatten_cons, List.length_append, Nat.add_assoc]
    · have hpiece := (Marks.ofStorage (.single hread)).append
        (Marks.ofWriter (b := { b with storage }) (.single hwrite))
      exact (hpiece.ofPool hfill).append hmarks

/-! ## Entries -/

/-- The pool is asked in vain. -/
theorem Footprint.Marks.ofRefusal (b : Bench σ τ) :
    Marks source gateway { borrowings := [.refused] } b { b with pool := b.pool.refuse } :=
  { (Marks.refl b : Marks source gateway {} b b) with history := BufferPool.history_refuse b.pool }

theorem run_borrowing_of_refusal {work : BufferId → Action (Bench σ τ) α} {b : Bench σ τ}
    {fault : RoomFault} (h : b.pool.refusal? = some fault) :
    (borrowing work).run b
      = (.error (.length (.noRoom fault)), { b with pool := b.pool.refuse }) :=
  Action.run_bind_error (Action.run_within (BufferPool.run_acquire_of_refusal h))

theorem run_borrowing {work : BufferId → Action (Bench σ τ) α} {b b' : Bench σ τ}
    {outcome : Except Failure α} (h : b.pool.refusal? = none)
    (hwork : (work b.pool.take.1).run { b with pool := b.pool.take.2 } = (outcome, b')) :
    (borrowing work).run b = (outcome, { b' with pool := b'.pool.release b.pool.take.1 }) := by
  have hacquire : (onPool BufferPool.acquire).run b
      = (.ok b.pool.take.1, { b with pool := b.pool.take.2 }) :=
    Action.run_within (BufferPool.run_acquire h)
  exact (Action.run_bind_ok hacquire).trans (Action.ensuring_ok hwork rfl)

/-- A blob is copied through a buffer that comes back as long as it was. -/
theorem borrowing_course (source : BlobSource σ) (gateway : ArchiveGateway τ) (reader : ReaderId)
    (handle : Nat) (b : Bench σ τ) :
    ∃ (copying : Copying) (b' : Bench σ τ),
      (borrowing fun buffer => copy source gateway reader handle buffer 0).run b
        = (copying.outcome, b') ∧
      copying.IsBuffered b.pool.roomFault? ∧
      Marks source gateway
        { storageCalls := copying.reads reader, writerCalls := copying.writes handle
          borrowings := [copying.borrowing] } b b' := by
  cases hrefusal : b.pool.refusal? with
  | some fault =>
    exact ⟨.unbuffered fault, _, run_borrowing_of_refusal hrefusal,
      BufferPool.roomFault?_of_refusal hrefusal, .ofRefusal b⟩
  | none =>
    -- What is taken is released with the length that it was taken with.
    let buffer := b.pool.take.1
    let length := (b.pool.take.2.buffer buffer).length
    obtain ⟨pieces, ending, hpieces, hending, houtcome, hmarks, hholds⟩ :=
      copy_course source gateway reader handle buffer 0 { b with pool := b.pool.take.2 }
    rw [Nat.zero_add] at houtcome
    generalize hcopy : copy source gateway reader handle buffer 0
      { b with pool := b.pool.take.2 } = out at houtcome hmarks hholds
    obtain ⟨outcome, b'⟩ := out
    obtain rfl : outcome = ending.outcome pieces.flatten.length := houtcome
    refine ⟨.through ⟨buffer, length⟩ pieces ending hpieces hending, _,
      run_borrowing hrefusal hcopy, trivial, ?_⟩
    exact
      { hmarks with
        history := by
          rw [BufferPool.history_release, hholds.history, hholds.length, BufferPool.history_take]
          simp [Copying.borrowing, Borrowing.events, buffer, length]
        roomFault := by
          rw [BufferPool.roomFault?_release, hholds.roomFault, BufferPool.roomFault?_take] }

/-- An entry that was opened is closed, whatever happened in it. -/
theorem writeEntry_course (source : BlobSource σ) (gateway : ArchiveGateway τ) (name : Path)
    (blob : OpenedBlob) (b : Bench σ τ) :
    ∃ (work : EntryWork) (b' : Bench σ τ),
      (writeEntry source gateway name blob).run b = (work.outcome, b') ∧
      work.IsBuffered b.pool.roomFault? ∧
      Marks source gateway
        { storageCalls := work.reads blob.reader, writerCalls := work.calls name blob.size
          borrowings := work.borrowings } b b' := by
  rcases hopen : (gateway.openEntry name blob.size).run b.writer with ⟨e | handle, writer⟩
  · have hcall : gateway.Answers (.openEntry name blob.size (.error e)) b.writer writer := hopen
    refine ⟨.refused e, { b with writer }, ?_, trivial, .ofWriter (.single hcall)⟩
    exact Action.run_bind_error (Action.run_within hopen)
  · obtain ⟨copying, b₁, hcopy, hbuffered, hmarks⟩ :=
      borrowing_course source gateway blob.reader handle { b with writer }
    rcases hclose : (gateway.closeEntry handle).run b₁.writer with ⟨closing, writer'⟩
    have hfirst : gateway.Answers (.openEntry name blob.size (.ok handle)) b.writer writer := hopen
    have hlast : gateway.Answers (.closeEntry handle closing) b₁.writer writer' := hclose
    have hall := (Marks.ofWriter (.single hfirst)).append
      (hmarks.append (.ofWriter (.single hlast)))
    refine ⟨.opened handle copying closing, { b₁ with writer := writer' }, ?_, hbuffered, ?_⟩
    · refine (Action.run_bind_ok (Action.run_within hopen)).trans ?_
      cases closing with
      | ok u => exact Action.ensuring_ok hcopy (Action.run_within hclose)
      | error e => exact Action.ensuring_error hcopy (Action.run_within hclose)
    · simpa [EntryWork.reads, EntryWork.calls, EntryWork.borrowings, append_eq] using hall

/-! ## References -/

/-- Every file gets a name. -/
theorem takeName_course {name : Path} (h : name.isDirectory = false) (b : Bench σ τ) :
    ∃ free, uniqueName name b.taken = .ok free ∧
      (takeName name).run b = (.ok free, { b with taken := free :: b.taken }) := by
  obtain ⟨free, hfree⟩ := exists_uniqueName h b.taken
  refine ⟨free, hfree, ?_⟩
  have hask : (Action.ask fun b : Bench σ τ => b.taken).run b = (.ok b.taken, b) := rfl
  refine (Action.run_bind_ok hask).trans ?_
  rw [hfree]
  rfl

/-- A failure that is only the photo's fault is entered into the ledger. -/
theorem copyOrSkip_course (source : BlobSource σ) (gateway : ArchiveGateway τ) (name : Path)
    (blob : OpenedBlob) (b : Bench σ τ) :
    ∃ (work : EntryWork) (b' : Bench σ τ),
      (copyOrSkip source gateway name blob).run b = (work.settled, b') ∧
      work.IsBuffered b.pool.roomFault? ∧
      Marks source gateway
        { storageCalls := work.reads blob.reader, writerCalls := work.calls name blob.size
          borrowings := work.borrowings, notes := (work.skip? name).toList.map .skipped } b b' := by
  obtain ⟨work, b₁, hrun, hbuffered, hmarks⟩ := writeEntry_course source gateway name blob b
  have hattempt := Action.run_attempt (writeEntry source gateway name blob) IsCopyFailure b
  rw [hrun] at hattempt
  unfold EntryWork.settled EntryWork.skip?
  cases houtcome : work.outcome with
  | ok copied =>
    rw [houtcome] at hattempt
    exact ⟨work, b₁, by
      rw [houtcome]
      exact (Action.run_bind_ok hattempt).trans rfl, hbuffered, by simpa [houtcome] using hmarks⟩
  | error e =>
    rw [houtcome] at hattempt
    by_cases hcopy : IsCopyFailure e
    · simp only [hcopy, if_true] at hattempt
      have hskip := hmarks.append
        (.ofSkip { entryName := name.value, reason := .copyFailed, detail := e.message } b₁)
      exact ⟨work, _, by
        simp only [houtcome, hcopy, if_true]
        exact (Action.run_bind_ok hattempt).trans rfl, hbuffered,
        by simpa [houtcome, hcopy, append_eq] using hskip⟩
    · simp only [hcopy, if_false] at hattempt
      exact ⟨work, b₁, by
        simp only [houtcome, hcopy, if_false]
        exact Action.run_bind_error hattempt, hbuffered, by simpa [houtcome, hcopy] using hmarks⟩

theorem run_onStorage {a : Action σ α} {b : Bench σ τ} {outcome : Except Failure α} {storage : σ}
    (h : a.run b.storage = (outcome, storage)) :
    (onStorage a).run b = (outcome, { b with storage }) :=
  Action.run_within h

theorem run_onWriter {a : Action τ α} {b : Bench σ τ} {outcome : Except Failure α} {writer : τ}
    (h : a.run b.writer = (outcome, writer)) :
    (onWriter a).run b = (outcome, { b with writer }) :=
  Action.run_within h

/-- A blob that is not opened is missing, or the work ends. -/
theorem addEntry_of_missed {session : SessionId} {reference : PhotoReference}
    (gateway : ArchiveGateway τ) {b : Bench σ τ} {e : Failure} {storage : σ}
    (hopen : source.Answers (.openBlob session reference.blobKey (.error e)) b.storage storage) :
    ∃ b' : Bench σ τ,
      (addEntry source gateway session reference).run b
        = ((Visit.missed reference e).outcome, b') ∧
      ((Visit.missed reference e).footprint session).Marks source gateway b b' := by
  have hstorage : Marks source gateway _ b _ := .ofStorage (.single hopen)
  have hattempt := Action.run_attempt
    (onStorage (τ := τ) (source.openBlob session reference.blobKey)) Failure.IsBlobError b
  rw [run_onStorage hopen] at hattempt
  by_cases hblob : e.IsBlobError
  · simp only [hblob, if_true] at hattempt
    have hskip := hstorage.append (.ofSkip
      { entryName := reference.entryName.value, reason := .openFailed, detail := e.message } _)
    have hrun : (addEntry source gateway session reference).run b = (.ok (), _) :=
      (Action.run_bind_ok hattempt).trans rfl
    exact ⟨_, by simpa [Visit.outcome, hblob] using hrun,
      by simpa [Visit.footprint, Visit.notes, Visit.skip?, Visit.name?, Visit.length?, hblob,
        append_eq] using hskip⟩
  · simp only [hblob, if_false] at hattempt
    have hrun : (addEntry source gateway session reference).run b = (.error e, _) :=
      Action.run_bind_error hattempt
    exact ⟨_, by simpa [Visit.outcome, hblob] using hrun,
      by simpa [Visit.footprint, Visit.notes, Visit.skip?, Visit.name?, Visit.length?, hblob]
        using hstorage⟩

/-- A reader that was opened is closed behind the work on its entry. -/
theorem addEntry_of_opened {session : SessionId} {reference : PhotoReference}
    (gateway : ArchiveGateway τ) {b : Bench σ τ} {blob : OpenedBlob} {storage : σ}
    (hopen : source.Answers (.openBlob session reference.blobKey (.ok blob)) b.storage storage) :
    ∃ (name : Path) (work : EntryWork) (closing : Except Failure Unit) (b' : Bench σ τ),
      uniqueName reference.entryName b.taken = .ok name ∧ work.IsBuffered b.pool.roomFault? ∧
      (addEntry source gateway session reference).run b
        = ((Visit.opened reference blob name work closing).outcome, b') ∧
      ((Visit.opened reference blob name work closing).footprint session).Marks
        source gateway b b' := by
  have hattempt := Action.run_attempt
    (onStorage (τ := τ) (source.openBlob session reference.blobKey)) Failure.IsBlobError b
  rw [run_onStorage hopen] at hattempt
  obtain ⟨name, hname, htake⟩ := takeName_course reference.entryName_file { b with storage }
  obtain ⟨work, b₂, hwork, hbuffered, hmarks⟩ := copyOrSkip_course source gateway name blob
    { b with storage, taken := name :: b.taken }
  rcases hclose : (source.closeReader blob.reader).run b₂.storage with ⟨closing, storage'⟩
  have hlast : source.Answers (.closeReader blob.reader closing) b₂.storage storage' := hclose
  have hall := ((Marks.ofStorage (.single hopen)).append
    ((Marks.ofName name _).append hmarks)).append (.ofStorage (.single hlast))
  refine ⟨name, work, closing, ?_⟩
  -- A failure in closing the reader takes the place of whatever became of the entry.
  cases closing with
  | error e =>
    have hrun : (addEntry source gateway session reference).run b = (.error e, _) :=
      (Action.run_bind_ok hattempt).trans ((Action.run_bind_ok htake).trans
        (Action.run_bind_error (Action.ensuring_error hwork (run_onStorage hclose))))
    exact ⟨_, hname, hbuffered, hrun,
      by simpa [Visit.footprint, Visit.notes, Visit.skip?, Visit.name?, Visit.length?, append_eq]
        using hall⟩
  | ok u =>
    have hensured := Action.ensuring_ok hwork (run_onStorage hclose)
    cases houtcome : work.outcome with
    | ok copied =>
      simp only [EntryWork.settled, houtcome] at hensured
      have hwritten := hall.append (.ofWritten name copied _)
      have hrun : (addEntry source gateway session reference).run b = (.ok (), _) :=
        (Action.run_bind_ok hattempt).trans ((Action.run_bind_ok htake).trans
          ((Action.run_bind_ok hensured).trans rfl))
      exact ⟨_, hname, hbuffered, by
        simpa [Visit.outcome, EntryWork.settled, houtcome, Except.map, Note.record] using hrun,
        by simpa [Visit.footprint, Visit.notes, Visit.skip?, EntryWork.skip?, Visit.name?,
          Visit.length?, houtcome, Except.toOption, Note.record, append_eq] using hwritten⟩
    | error e =>
      by_cases hcopy : IsCopyFailure e
      · simp only [EntryWork.settled, houtcome, hcopy, if_true] at hensured
        have hrun : (addEntry source gateway session reference).run b = (.ok (), _) :=
          (Action.run_bind_ok hattempt).trans ((Action.run_bind_ok htake).trans
            ((Action.run_bind_ok hensured).trans rfl))
        exact ⟨_, hname, hbuffered,
          by simpa [Visit.outcome, EntryWork.settled, houtcome, hcopy, Except.map] using hrun,
          by simpa [Visit.footprint, Visit.notes, Visit.skip?, Visit.name?, Visit.length?,
            houtcome, Except.toOption, append_eq] using hall⟩
      · simp only [EntryWork.settled, houtcome, hcopy, if_false] at hensured
        have hrun : (addEntry source gateway session reference).run b = (.error e, _) :=
          (Action.run_bind_ok hattempt).trans ((Action.run_bind_ok htake).trans
            (Action.run_bind_error hensured))
        exact ⟨_, hname, hbuffered,
          by simpa [Visit.outcome, EntryWork.settled, houtcome, hcopy, Except.map] using hrun,
          by simpa [Visit.footprint, Visit.notes, Visit.skip?, Visit.name?, Visit.length?,
            houtcome, Except.toOption, append_eq] using hall⟩

/-- What is done for one reference is a visit of it. -/
theorem addEntry_course (source : BlobSource σ) (gateway : ArchiveGateway τ)
    (session : SessionId) (reference : PhotoReference) (b : Bench σ τ) :
    ∃ (v : Visit) (b' : Bench σ τ),
      v.reference = reference ∧ v.IsNamed b.taken ∧ v.IsBuffered b.pool.roomFault? ∧
      (addEntry source gateway session reference).run b = (v.outcome, b') ∧
      (v.footprint session).Marks source gateway b b' := by
  rcases hopen : (source.openBlob session reference.blobKey).run b.storage with ⟨e | blob, storage⟩
  · obtain ⟨b', hrun, hmarks⟩ := addEntry_of_missed gateway (b := b) hopen
    exact ⟨.missed reference e, b', rfl, trivial, trivial, hrun, hmarks⟩
  · obtain ⟨name, work, closing, b', hname, hbuffered, hrun, hmarks⟩ :=
      addEntry_of_opened gateway (b := b) hopen
    exact ⟨.opened reference blob name work closing, b', rfl, hname, hbuffered, hrun, hmarks⟩

/-- References are visited in their order, until a visit ends the work. -/
theorem addEntries_course (source : BlobSource σ) (gateway : ArchiveGateway τ)
    (session : SessionId) (references : List PhotoReference) (b : Bench σ τ) :
    ∃ (visits : List Visit) (b' : Bench σ τ),
      (addEntries source gateway session references).run b = (outcome visits, b') ∧
      IsTour references b.taken b.pool.roomFault? visits ∧
      (footprint session visits).Marks source gateway b b' := by
  -- Along the references: a visit, and the rest from what that visit leaves behind.
  induction references generalizing b with
  | nil => exact ⟨[], b, rfl, .nil _ _, .refl b⟩
  | cons reference rest ih =>
    obtain ⟨v, b₁, hreference, hnamed, hbuffered, hrun, hmarks⟩ :=
      addEntry_course source gateway session reference b
    cases hv : v.outcome with
    | error e =>
      rw [hv] at hrun
      refine ⟨[v], b₁, ?_, .last hreference hnamed hbuffered hv, ?_⟩
      · simpa [addEntries, outcome, hv] using Action.run_bind_error hrun
      · simpa [footprint, append_eq] using hmarks
    | ok u =>
      rw [hv] at hrun
      obtain ⟨visits, b₂, hrest, htour, hmarks'⟩ := ih b₁
      rw [hmarks.roomFault, hmarks.taken] at htour
      refine ⟨v :: visits, b₂, ?_, .cons hreference hnamed hbuffered hv ?_, hmarks.append hmarks'⟩
      · simpa [addEntries, outcome, hv] using (Action.run_bind_ok hrun).trans hrest
      · have hsame : v.name?.toList.reverse = v.name?.toList := by cases v.name? <;> rfl
        simpa [Visit.footprint, hsame] using htour

/-! ## The whole archive -/

/-- The archive is completed behind the last reference, and given up when the work ended before. -/
theorem ending_course (source : BlobSource σ) (gateway : ArchiveGateway τ)
    (session : SessionId) (references : List PhotoReference) (b : Bench σ τ) :
    ∃ (visits : List Visit) (ending : Ending) (b' : Bench σ τ) (writer : τ),
      (do
        (addEntries source gateway session references).onFailure (discardArchive gateway)
        finalizeArchive gateway : Action (Bench σ τ) ArchiveFile).run b
          = (ending.outcome, { b' with writer, log := b'.log ++ ending.log }) ∧
      ((addEntries source gateway session references).run b).1 = outcome visits ∧
      IsTour references b.taken b.pool.roomFault? visits ∧ ending.Follows (outcome visits) ∧
      (footprint session visits).Marks source gateway b b' ∧
      gateway.Answers ending.call b'.writer writer := by
  obtain ⟨visits, b', hrun, htour, hmarks⟩ :=
    addEntries_course source gateway session references b
  have hloop := Action.run_onFailure (addEntries source gateway session references)
    (discardArchive gateway) b
  rw [hrun] at hloop
  have hfirst := congrArg Prod.fst hrun
  -- How the loop has ended decides which of the two calls the writer gets.
  cases hvisits : outcome visits with
  | ok u =>
    rw [hvisits] at hloop
    rcases hend : gateway.finalize b'.writer with ⟨answer, writer⟩
    refine ⟨visits, .finalized answer, b', writer, ?_, hfirst, htour, hvisits, hmarks, hend⟩
    refine (Action.run_bind_ok hloop).trans ?_
    cases answer <;> simp [Action.run, finalizeArchive, hend, Ending.outcome, Ending.log]
  | error e =>
    rw [hvisits] at hloop
    rcases hend : gateway.discard.run b'.writer with ⟨answer, writer⟩
    refine ⟨visits, .discarded e answer, b', writer, ?_, hfirst, htour, hvisits, hmarks, hend⟩
    have hwriter := run_onWriter (b := b') hend
    rcases answer with e' | _ | message
    · have hdiscard : (discardArchive gateway).run b' = (.error e', _) :=
        Action.run_bind_error hwriter
      simp only [hdiscard] at hloop
      simpa [Ending.outcome, Ending.log] using Action.run_bind_error hloop
    · have hdiscard : (discardArchive gateway).run b' = (.ok (), _) :=
        (Action.run_bind_ok hwriter).trans rfl
      simp only [hdiscard] at hloop
      simpa [Ending.outcome, Ending.log] using Action.run_bind_error hloop
    · have hdiscard : (discardArchive gateway).run b' = (.ok (), _) :=
        (Action.run_bind_ok hwriter).trans rfl
      simp only [hdiscard] at hloop
      simpa [Ending.outcome, Ending.log] using Action.run_bind_error hloop

/-- What a session leaves behind in a workshop, given the writer that was created in it. -/
structure Session.Marks (s : Session) (source : BlobSource σ) (gateway : ArchiveGateway τ)
    (start : τ) (w w' : Workshop σ τ) : Prop where
  storage : Leads source.Answers s.storageCalls w.storage w'.storage
  writer : ∃ writer, w'.writer = some writer ∧ Leads gateway.Answers s.writerCalls start writer
  history : w'.pool.history
    = w.pool.history ++ (footprint s.id s.visits).borrowings.flatMap Borrowing.events
  company : w'.ledger.company = w.ledger.company
  records : w'.ledger.records
    = w.ledger.records ++ (footprint s.id s.visits).notes.filterMap Note.skip?
  log : w'.log
    = w.log ++ (footprint s.id s.visits).notes.map (Note.record w.ledger) ++ s.ending.log

/-- What an assembly ends with, given how the session did and what is in the ledger then. -/
def Session.result (s : Session) (ledger : SkipLedger) : Except Failure ExportResult :=
  s.outcome.map fun archive =>
    { company := ledger.company, archive
      written := (footprint s.id s.visits).notes.countP Note.isWritten, skips := ledger.records }

/-- An assembly in a session for which there is a writer visits its references. -/
theorem assemble_course_of_session {source : BlobSource σ} {gateway : ArchiveGateway τ}
    (references : List PhotoReference) {w : Workshop σ τ} {session : SessionId} {storage : σ}
    {start : τ} (hsession : source.newSession w.storage = (.ok session, storage))
    (hcreate : gateway.create = .ok start) :
    ∃ (s : Session) (w' : Workshop σ τ), s.id = session ∧
      (assemble source gateway references).run w = (s.result w'.ledger, w') ∧
      ((addEntries source gateway session references).run
        (bench { w with storage } start)).1 = outcome s.visits ∧
      IsTour references [] w.pool.roomFault? s.visits ∧ s.ending.Follows (outcome s.visits) ∧
      s.Marks source gateway start w w' := by
  obtain ⟨visits, ending, b₁, writer, hrun, hloop, htour, hfollows, hmarks, hend⟩ :=
    ending_course source gateway session references (bench { w with storage } start)
  rcases hclose : (source.closeSession session).run b₁.storage with ⟨closing, storage'⟩
  have hlast : source.Answers (.closeSession session closing) b₁.storage storage' := hclose
  have hfirst : source.Answers (.newSession (.ok session)) w.storage storage := hsession
  let s : Session := ⟨session, visits, ending, closing⟩
  let b₂ : Bench σ τ :=
    { b₁ with storage := storage', writer, log := b₁.log ++ ending.log }
  -- The session is closed last, and a failure of that is what the assembly ends with.
  have hin : (assembleIn source gateway session references).run
      (bench { w with storage } start) = (s.outcome, b₂) := by
    cases closing with
    | ok u => exact Action.ensuring_ok hrun (run_onStorage hclose)
    | error e => exact Action.ensuring_error hrun (run_onStorage hclose)
  have hall : s.Marks source gateway start w b₂.workshop :=
    { storage := (Leads.single hfirst).append (hmarks.storage.append (.single hlast))
      writer := ⟨writer, rfl, hmarks.writer.append (.single hend)⟩
      history := hmarks.history
      company := hmarks.company
      records := hmarks.records
      log := congrArg (· ++ ending.log) hmarks.log }
  refine ⟨s, b₂.workshop, rfl, ?_, hloop, htour, hfollows, hall⟩
  rw [run_assemble_of_session hsession hcreate, hin]
  cases houtcome : s.outcome with
  | error e => simp [Session.result, houtcome, Except.map]
  | ok archive =>
    have hwritten := hmarks.written
    simp [bench] at hwritten
    simp [Session.result, houtcome, Except.map, Bench.workshop, b₂, s, hwritten]

/-- An assembly gets no session, or no writer in the session, or it visits its references. -/
theorem assemble_course (source : BlobSource σ) (gateway : ArchiveGateway τ)
    (references : List PhotoReference) (w : Workshop σ τ) :
    (∃ (refusal : Refusal) (storage : σ),
      source.Answers (.newSession (.error refusal)) w.storage storage ∧
      (assemble source gateway references).run w =
        (.error refusal.failure,
          { w with
            storage, writer := none, log := w.log ++ refusal.records source.component })) ∨
    (∃ (session : SessionId) (e : Failure) (closing : Except Failure Unit) (storage : σ),
      Leads source.Answers [.newSession (.ok session), .closeSession session closing] w.storage
        storage ∧
      gateway.create = .error e ∧
      (assemble source gateway references).run w =
        (closing.bind fun _ => .error e, { w with storage, writer := none })) ∨
    ∃ (s : Session) (start : τ) (w' : Workshop σ τ),
      gateway.create = .ok start ∧
      (assemble source gateway references).run w = (s.result w'.ledger, w') ∧
      (∃ storage, source.newSession w.storage = (.ok s.id, storage) ∧
        ((addEntries source gateway s.id references).run
          (bench { w with storage } start)).1 = outcome s.visits) ∧
      IsTour references [] w.pool.roomFault? s.visits ∧ s.ending.Follows (outcome s.visits) ∧
      s.Marks source gateway start w w' := by
  rcases hsession : source.newSession w.storage with ⟨refusal | session, storage⟩
  · exact .inl ⟨refusal, storage, hsession, run_assemble_of_refusal hsession⟩
  right
  cases hcreate : gateway.create with
  | error e =>
    rcases hclose : (source.closeSession session).run storage with ⟨closing, storage'⟩
    have hfirst : source.Answers (.newSession (.ok session)) w.storage storage := hsession
    have hlast : source.Answers (.closeSession session closing) storage storage' := hclose
    exact .inl ⟨session, e, closing, storage', (Leads.single hfirst).append (.single hlast), rfl,
      run_assemble_of_no_writer hsession hcreate hclose⟩
  | ok start =>
    right
    obtain ⟨s, w', rfl, hrun, hloop, htour, hfollows, hmarks⟩ :=
      assemble_course_of_session references hsession hcreate
    exact ⟨s, start, w', rfl, hrun, ⟨storage, rfl, hloop⟩, htour, hfollows, hmarks⟩

end Assembly

end PhotoArchive
