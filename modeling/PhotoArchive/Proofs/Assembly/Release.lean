import PhotoArchive.Proofs.Assembly.Course
import PhotoArchive.Proofs.Recording.Transparency

/-!
# What is opened is closed

Whatever fails in an assembly, the session and every reader that it obtained are closed once, every
buffer that it took goes back to the pool, and the writer of the archive is completed or given up.

## Main definitions

- `Visited` — calls that open blobs one after the other and close each before the next, and the
  photos that they deliver
- `WriterCall.IsEnd` — a call that completes an archive or gives it up

## Main statements

- `assemble_recorded` — what an assembly leaves behind, with the calls that it made
- `assemble_closes` — what it opens and takes is closed and given back

## Design notes

The calls are those that the storage and the writer have kept, and keeping them changes nothing
else: that the run without them ends the same way is part of the statements.
-/

namespace PhotoArchive

variable {σ τ : Type}

/-- Calls that end the work on an archive. -/
def WriterCall.IsEnd : WriterCall → Prop
  | .finalize _ | .discard _ => True
  | _ => False

namespace Assembly

/-! ## Recorded assemblies -/

/-- A workshop has kept the calls of a session and no others. -/
structure Session.IsKept (s : Session)
    (w : Workshop (Recorded σ StorageCall) (Recorded τ WriterCall)) : Prop where
  storage : w.storage.calls = s.storageCalls
  writer : ∃ writer, w.writer = some writer ∧ writer.calls = s.writerCalls

theorem Session.Marks.forget {source : BlobSource σ} {gateway : ArchiveGateway τ} {s : Session}
    {start : Recorded τ WriterCall} {w : Workshop σ τ}
    {w' : Workshop (Recorded σ StorageCall) (Recorded τ WriterCall)}
    (h : s.Marks source.recorded gateway.recorded start w.recording w')
    (hstart : start.calls = []) :
    s.Marks source gateway start.state w w'.forget ∧ s.IsKept w' := by
  obtain ⟨hstorage, hcalls⟩ := BlobSource.calls_of_leads_recorded h.storage
  obtain ⟨writer, hw, hleads⟩ := h.writer
  obtain ⟨hwriter, hwrites⟩ := ArchiveGateway.calls_of_leads_recorded hleads
  refine ⟨?_, ?_⟩
  · exact
      { storage := hstorage
        writer := ⟨writer.state, by simp [Workshop.forget, hw], hwriter⟩
        history := h.history
        company := h.company
        records := h.records
        log := h.log }
  · refine ⟨by simpa [Workshop.recording] using hcalls, writer, hw, ?_⟩
    simpa [hstart] using hwrites

/-- The writer of a gateway that keeps its calls has none at first. -/
theorem create_recorded {gateway : ArchiveGateway τ} {start : Recorded τ WriterCall}
    (h : gateway.recorded.create = .ok start) :
    gateway.create = .ok start.state ∧ start.calls = [] := by
  simp only [ArchiveGateway.recorded] at h
  cases hcreate : gateway.create with
  | error e =>
    rw [hcreate] at h
    cases h
  | ok writer =>
    rw [hcreate] at h
    cases h
    exact ⟨rfl, rfl⟩

theorem create_recorded_error {gateway : ArchiveGateway τ} {e : Failure}
    (h : gateway.recorded.create = .error e) : gateway.create = .error e := by
  simp only [ArchiveGateway.recorded] at h
  cases hcreate : gateway.create with
  | error e' =>
    rw [hcreate] at h
    cases h
    rfl
  | ok writer =>
    rw [hcreate] at h
    cases h

/-- An assembly makes the one call that is refused, or opens a session and closes it because there is
no writer, or makes the calls of one session. -/
theorem assemble_recorded (source : BlobSource σ) (gateway : ArchiveGateway τ)
    (references : List PhotoReference) (w : Workshop σ τ) :
    ∃ (outcome : Except Failure ExportResult)
      (w' : Workshop (Recorded σ StorageCall) (Recorded τ WriterCall)),
      (assemble source.recorded gateway.recorded references).run w.recording = (outcome, w') ∧
      (assemble source gateway references).run w = (outcome, w'.forget) ∧
      ((∃ (refusal : Refusal) (storage : σ),
          source.newSession w.storage = (.error refusal, storage) ∧
          w'.storage.calls = [.newSession (.error refusal)] ∧ w'.writer = none ∧
          w'.pool = w.pool ∧ outcome = .error refusal.failure) ∨
        (∃ (session : SessionId) (storage : σ) (e : Failure) (closing : Except Failure Unit),
          source.newSession w.storage = (.ok session, storage) ∧ gateway.create = .error e ∧
          w'.storage.calls = [.newSession (.ok session), .closeSession session closing] ∧
          w'.writer = none ∧ w'.pool = w.pool ∧ w'.ledger = w.ledger ∧ w'.log = w.log ∧
          outcome = closing.bind fun _ => .error e) ∨
        ∃ (s : Session) (storage : σ) (start : τ),
          source.newSession w.storage = (.ok s.id, storage) ∧ gateway.create = .ok start ∧
          ((addEntries source gateway s.id references).run
            (bench { w with storage } start)).1 = Assembly.outcome s.visits ∧
          IsTour references [] w.pool.roomFault? s.visits ∧
          s.ending.Follows (Assembly.outcome s.visits) ∧ s.IsKept w' ∧
          s.Marks source gateway start w w'.forget ∧ outcome = s.result w'.ledger) := by
  have hplain := assemble_follows source gateway references w.recording
  rw [Workshop.forget_recording] at hplain
  rcases assemble_course source.recorded gateway.recorded references w.recording with
    ⟨refusal, storage, hanswer, hrun⟩ | ⟨session, e, closing, storage, hleads, hcreate, hrun⟩ |
      ⟨s, start, w', hcreate, hrun, ⟨storage, hsession, hloop⟩, htour, hfollows, hmarks⟩
  · rw [hrun] at hplain
    obtain ⟨hstep, hcalls⟩ := BlobSource.of_answers_recorded hanswer
    exact ⟨_, _, hrun, hplain, .inl ⟨refusal, storage.state, hstep, hcalls, rfl, rfl, rfl⟩⟩
  · rw [hrun] at hplain
    obtain ⟨hstates, hcalls⟩ := BlobSource.calls_of_leads_recorded hleads
    obtain ⟨opened, hsession, -⟩ := hstates.of_cons
    exact ⟨_, _, hrun, hplain, .inr (.inl ⟨session, opened, e, closing, hsession,
      create_recorded_error hcreate, hcalls, rfl, rfl, rfl, rfl, rfl⟩)⟩
  · rw [hrun] at hplain
    have hstep : source.recorded.Answers (.newSession (.ok s.id)) w.recording.storage storage :=
      hsession
    obtain ⟨hwriter, hempty⟩ := create_recorded hcreate
    obtain ⟨hforget, hkeep⟩ := hmarks.forget hempty
    refine ⟨_, w', hrun, hplain, .inr (.inr ⟨s, storage.state, start.state,
      (BlobSource.of_answers_recorded hstep).1, hwriter, ?_, htour, hfollows, hkeep, hforget,
      rfl⟩)⟩
    rw [← hloop]
    exact congrArg Prod.fst (addEntries_follows source gateway s.id references
      (bench { w.recording with storage } start))

/-- With a gateway that has a writer, an assembly makes the one call that is refused, or the calls of
one session. -/
theorem assemble_recorded_of_create (source : BlobSource σ) {gateway : ArchiveGateway τ} {start : τ}
    (hcreate : gateway.create = .ok start) (references : List PhotoReference) (w : Workshop σ τ) :
    ∃ (outcome : Except Failure ExportResult)
      (w' : Workshop (Recorded σ StorageCall) (Recorded τ WriterCall)),
      (assemble source.recorded gateway.recorded references).run w.recording = (outcome, w') ∧
      (assemble source gateway references).run w = (outcome, w'.forget) ∧
      ((∃ (refusal : Refusal) (storage : σ),
          source.newSession w.storage = (.error refusal, storage) ∧
          w'.storage.calls = [.newSession (.error refusal)] ∧ w'.writer = none ∧
          w'.pool = w.pool ∧ outcome = .error refusal.failure) ∨
        ∃ (s : Session) (storage : σ), source.newSession w.storage = (.ok s.id, storage) ∧
          ((addEntries source gateway s.id references).run
            (bench { w with storage } start)).1 = Assembly.outcome s.visits ∧
          IsTour references [] w.pool.roomFault? s.visits ∧
          s.ending.Follows (Assembly.outcome s.visits) ∧ s.IsKept w' ∧
          s.Marks source gateway start w w'.forget ∧ outcome = s.result w'.ledger) := by
  obtain ⟨outcome, w', hrun, hplain, hcase⟩ := assemble_recorded source gateway references w
  refine ⟨outcome, w', hrun, hplain, ?_⟩
  rcases hcase with hrefused | ⟨_, _, e, _, -, hnone, -⟩ | ⟨s, storage, start', hsession, hsome, hrest⟩
  · exact .inl hrefused
  · rw [hcreate] at hnone
    cases hnone
  · rw [hcreate] at hsome
    cases hsome
    exact .inr ⟨s, storage, hsession, hrest⟩

/-- There is a result only of a session in which nothing failed that ends the work. -/
theorem Session.of_result {s : Session} {ledger : SkipLedger} {result : ExportResult}
    (h : s.result ledger = .ok result)
    (hfollows : s.ending.Follows (Assembly.outcome s.visits)) :
    Assembly.outcome s.visits = .ok () ∧ s.ending = .finalized (.ok result.archive) ∧ s.closing = .ok () ∧
      result.written = (footprint s.id s.visits).notes.countP Note.isWritten ∧
      result.skips = ledger.records := by
  obtain ⟨id, visits, ending, closing⟩ := s
  cases closing with
  | error e => cases h
  | ok u =>
    rcases ending with (refusal | archive) | ⟨e, e' | message⟩
    · cases h
    · cases h
      exact ⟨hfollows, rfl, rfl, rfl, rfl⟩
    · cases h
    · cases h

/-! ## Calls in order -/

/-- A photo as it comes out of a storage: the name of its entry, the size that its blob is said to
have, the bytes that were read, and whether that was all. -/
structure Photo where
  name : Path
  declared : Option Int
  data : Bytes
  isComplete : Bool

/-- All bytes that reads have delivered, in their order. -/
def received (calls : List StorageCall) : Bytes :=
  calls.flatMap fun
    | .read _ _ (.ok data) => data
    | _ => []

/-- Whether a read has come to the end of a blob. -/
def reachesEnd (calls : List StorageCall) : Bool :=
  calls.any fun
    | .read _ _ (.ok []) => true
    | _ => false

/-- Calls in a session that open the blobs of references in their order, given the names that are
taken, and the photos that they deliver. Between opening a blob and closing its reader, which happens
once, there are only reads from that reader. -/
inductive Visited (session : SessionId) :
    List Path → List PhotoReference → List StorageCall → List Photo → Prop
  | nil (taken : List Path) : Visited session taken [] [] []
  | missed {taken : List Path} {reference : PhotoReference} {rest : List PhotoReference}
      {e : Failure} {calls : List StorageCall} {photos : List Photo} :
      Visited session taken rest calls photos →
      Visited session taken (reference :: rest)
        (.openBlob session reference.blobKey (.error e) :: calls) photos
  | opened {taken : List Path} {reference : PhotoReference} {rest : List PhotoReference}
      {blob : OpenedBlob} {name : Path} {reads calls : List StorageCall}
      {closing : Except Failure Unit} {photos : List Photo} :
      uniqueName reference.entryName taken = .ok name →
      (∀ call ∈ reads, ∃ room answer, call = .read blob.reader room answer) →
      Visited session (name :: taken) rest calls photos →
      Visited session taken (reference :: rest)
        (.openBlob session reference.blobKey (.ok blob) :: reads
          ++ .closeReader blob.reader closing :: calls)
        ({ name, declared := blob.size, data := received reads, isComplete := reachesEnd reads }
          :: photos)

/-- The photo of a visit, if its blob was opened. -/
def Visit.photo? : Visit → Option Photo
  | missed _ _ => none
  | opened _ blob name work _ =>
    some
      { name, declared := blob.size, data := received (work.reads blob.reader)
        isComplete := reachesEnd (work.reads blob.reader) }

theorem EntryWork.mem_reads {work : EntryWork} {reader : ReaderId} {call : StorageCall}
    (h : call ∈ work.reads reader) : ∃ room answer, call = .read reader room answer := by
  rcases work with _ | ⟨_, _ | ⟨loan, pieces, ending, _, _⟩, _⟩
  · simp [reads] at h
  · simp [reads, Copying.reads] at h
  · simp only [reads, Copying.reads, List.mem_append, List.mem_map, List.mem_singleton] at h
    rcases h with ⟨piece, -, rfl⟩ | rfl
    · exact ⟨_, _, rfl⟩
    · exact ⟨_, _, rfl⟩

theorem Visited.of_visit {session : SessionId} {taken : List Path} {v : Visit}
    {rest : List PhotoReference} {calls : List StorageCall} {photos : List Photo}
    (hnamed : v.IsNamed taken) (h : Visited session (v.name?.toList ++ taken) rest calls photos) :
    Visited session taken (v.reference :: rest) ((v.footprint session).storageCalls ++ calls)
      (v.photo?.toList ++ photos) := by
  cases v with
  | missed reference e => exact .missed h
  | opened reference blob name work closing =>
    have hopened := @Visited.opened session taken reference rest blob name
      (work.reads blob.reader) calls closing photos hnamed (fun _ => EntryWork.mem_reads) h
    simpa [Visit.footprint, Visit.reference, Visit.photo?] using hopened

/-- Visits open the blobs of their references and close what they open. -/
theorem IsTour.visited {references : List PhotoReference} {taken : List Path} {fault? : Option RoomFault}
    {visits : List Visit} (h : IsTour references taken fault? visits) (session : SessionId) :
    Visited session taken (visits.map Visit.reference) (footprint session visits).storageCalls
      (visits.filterMap Visit.photo?) := by
  induction h with
  | nil taken => exact .nil taken
  | @last reference rest taken _ v e hreference hnamed _ hv =>
    have hnil : Visited session (v.name?.toList ++ taken) [] [] [] := .nil _
    have hlast := Visited.of_visit hnamed hnil
    cases hphoto : v.photo? <;> simpa [footprint, hphoto] using hlast
  | @cons reference rest taken _ v visits hreference hnamed _ hv _ ih =>
    have hfirst := Visited.of_visit hnamed ih
    cases hphoto : v.photo? <;> simpa [footprint, hphoto] using hfirst

theorem IsTour.prefix {references : List PhotoReference} {taken : List Path} {fault? : Option RoomFault}
    {visits : List Visit} (h : IsTour references taken fault? visits) :
    visits.map Visit.reference <+: references := by
  induction h with
  | nil => simp
  | last hreference => simp [hreference]
  | cons hreference _ _ _ _ ih => simpa [hreference] using ih

theorem IsTour.complete {references : List PhotoReference} {taken : List Path} {fault? : Option RoomFault}
    {visits : List Visit} (h : IsTour references taken fault? visits)
    (hok : outcome visits = .ok ()) : visits.map Visit.reference = references := by
  induction h with
  | nil => rfl
  | last _ _ _ hv => simp [outcome, hv] at hok
  | cons hreference _ _ hv _ ih =>
    rw [outcome, hv] at hok
    simpa [hreference] using ih hok

theorem Ending.Follows.outcome_of_error {e : Failure} {ending : Ending}
    (h : ending.Follows (.error e)) : ∃ e', ending.outcome = .error e' := by
  rcases ending with answer | ⟨e₁, e₂ | message⟩
  · cases h
  · exact ⟨e₂, rfl⟩
  · exact ⟨e₁, rfl⟩

theorem EntryWork.not_isEnd_of_mem {work : EntryWork} {name : Path} {size : Option Int}
    {call : WriterCall} (h : call ∈ work.calls name size) : ¬ call.IsEnd := by
  rcases work with _ | ⟨handle, _ | ⟨loan, pieces, ending, _, _⟩, closing⟩
  · obtain rfl : call = _ := by simpa [calls] using h
    exact id
  · obtain rfl | rfl : call = .openEntry name size (.ok handle) ∨ call = _ := by
      simpa [calls, Copying.writes] using h
    · exact id
    · exact id
  · simp only [calls, Copying.writes, List.mem_append, List.mem_cons, List.mem_map] at h
    rcases h with (rfl | ⟨piece, -, rfl⟩ | h) | rfl | h
    · exact id
    · exact id
    · cases ending with
      | refused piece e =>
        obtain rfl : call = _ := by simpa [CopyEnd.writes] using h
        exact id
      | _ => simp [CopyEnd.writes] at h
    · exact id
    · cases h

/-- No archive is ended by the work on entries. -/
theorem not_isEnd_of_mem {session : SessionId} {visits : List Visit} {call : WriterCall}
    (h : call ∈ (footprint session visits).writerCalls) : ¬ call.IsEnd := by
  induction visits with
  | nil => simp [footprint] at h
  | cons v rest ih =>
    rcases List.mem_append.1 h with h | h
    · cases v with
      | missed reference e => cases h
      | opened reference blob name work closing => exact EntryWork.not_isEnd_of_mem h
    · exact ih h

/-- Whatever fails, the session and all readers are closed once, buffers go back to the pool and the
archive is completed or given up, if there is a writer for it. -/
theorem assemble_closes (source : BlobSource σ) (gateway : ArchiveGateway τ)
    (references : List PhotoReference) (w : Workshop σ τ) :
    ∃ (outcome : Except Failure ExportResult)
      (w' : Workshop (Recorded σ StorageCall) (Recorded τ WriterCall)),
      (assemble source.recorded gateway.recorded references).run w.recording = (outcome, w') ∧
      (assemble source gateway references).run w = (outcome, w'.forget) ∧
      ((∃ (refusal : Refusal) (storage : σ),
          source.newSession w.storage = (.error refusal, storage) ∧
          w'.storage.calls = [.newSession (.error refusal)] ∧ w'.writer = none ∧
          w'.pool.history = w.pool.history ∧ outcome = .error refusal.failure) ∨
        (∃ (session : SessionId) (storage : σ) (e : Failure) (closing : Except Failure Unit),
          source.newSession w.storage = (.ok session, storage) ∧ gateway.create = .error e ∧
          w'.storage.calls = [.newSession (.ok session), .closeSession session closing] ∧
          w'.writer = none ∧ w'.pool.history = w.pool.history ∧
          outcome = closing.bind fun _ => .error e) ∨
        ∃ (session : SessionId) (storage : σ) (start : τ) (visited : List PhotoReference)
          (calls : List StorageCall) (photos : List Photo) (closing : Except Failure Unit)
          (borrowings : List Borrowing) (writer : Recorded τ WriterCall)
          (entries : List WriterCall) (ending : WriterCall),
          source.newSession w.storage = (.ok session, storage) ∧ gateway.create = .ok start ∧
          w'.storage.calls
            = .newSession (.ok session) :: calls ++ [.closeSession session closing] ∧
          Visited session [] visited calls photos ∧ visited <+: references ∧
          (visited = references ∨ ∃ e, outcome = .error e) ∧
          w'.pool.history = w.pool.history ++ borrowings.flatMap Borrowing.events ∧
          w'.writer = some writer ∧ writer.calls = entries ++ [ending] ∧
          (∀ call ∈ entries, ¬ call.IsEnd) ∧ ending.IsEnd ∧
          ((∃ answer, ending = .finalize answer) ↔
            ((addEntries source gateway session references).run
              (bench { w with storage } start)).1 = .ok ())) := by
  obtain ⟨o, w', hrun, hplain, hcase⟩ := assemble_recorded source gateway references w
  refine ⟨o, w', hrun, hplain, ?_⟩
  rcases hcase with ⟨refusal, storage, hsession, hcalls, hwriter, hpool, houtcome⟩ |
    ⟨session, storage, e, closing, hsession, hcreate, hcalls, hwriter, hpool, -, -, houtcome⟩ |
    ⟨s, storage, start, hsession, hcreate, hloop, htour, hfollows, hkept, hmarks, houtcome⟩
  · exact .inl ⟨refusal, storage, hsession, hcalls, hwriter, by rw [hpool], houtcome⟩
  · exact .inr (.inl ⟨session, storage, e, closing, hsession, hcreate, hcalls, hwriter,
      by rw [hpool], houtcome⟩)
  right
  right
  obtain ⟨writer, hwriter, hwrites⟩ := hkept.writer
  refine ⟨s.id, storage, start, _, _, _, s.closing, _, writer, _, s.ending.call, hsession, hcreate,
    hkept.storage, htour.visited s.id, htour.prefix, ?_, hmarks.history, hwriter, hwrites,
    fun call => not_isEnd_of_mem, ?_, ?_⟩
  · -- The loop has ended well whenever there is a result.
    cases hvisits : Assembly.outcome s.visits with
    | ok u =>
      exact .inl (htour.complete hvisits)
    | error e =>
      right
      rw [hvisits] at hfollows
      obtain ⟨e', he'⟩ := hfollows.outcome_of_error
      cases hclosing : s.closing <;>
        simp [houtcome, Session.result, Session.outcome, hclosing, he', Except.map]
  · cases s.ending <;> trivial
  · rw [hloop]
    cases hending : s.ending with
    | finalized answer =>
      rw [hending] at hfollows
      exact ⟨fun _ => hfollows, fun _ => ⟨answer, rfl⟩⟩
    | discarded e answer =>
      have hfailed : Assembly.outcome s.visits = .error e := by rwa [hending] at hfollows
      rw [hfailed]
      constructor
      · rintro ⟨answer', hcall⟩
        cases hcall
      · intro hok
        cases hok

end Assembly

end PhotoArchive
