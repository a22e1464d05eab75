import PhotoArchive.Proofs.Assembly.Survival

/-!
# Assemblies that are cancelled

A cancellation reaches an assembly through a call to its storage. It ends the work, unless closing an
entry gets in the way: when the file refuses a write while the entry is closed, that failure takes the
place of the cancellation, and counts as the photo's fault.

## Main definitions

- `StorageCall.isCancelled` — a call about a blob that is cancelled
- `Visit.IsOverruled` — what happened to a photo is replaced by a failure in closing its entry

## Main statements

- `IsTour.eq_nil_of_error` — the work ends with the first visit that fails
- `assemble_cancelled` — a cancellation ends an assembly, or is overruled
- `not_forall_cancelled` — an assembly that was cancelled can end with a result
-/

namespace PhotoArchive

/-- The answer is that the work has been cancelled. -/
def isCancellation {α : Type} : Except Failure α → Bool
  | .error (.cancelled _) => true
  | _ => false

theorem isCancellation_iff {α : Type} {answer : Except Failure α} :
    isCancellation answer = true ↔ ∃ text, answer = .error (.cancelled text) := by
  constructor
  · intro h
    unfold isCancellation at h
    split at h
    · exact ⟨_, rfl⟩
    · cases h
  · rintro ⟨text, rfl⟩
    rfl

/-- A call that opens, reads or closes a blob is cancelled. -/
def StorageCall.isCancelled : StorageCall → Bool
  | .openBlob _ _ answer => isCancellation answer
  | .read _ _ answer => isCancellation answer
  | .closeReader _ answer => isCancellation answer
  | .newSession _ | .closeSession _ _ => false

def StorageCall.IsOpening : StorageCall → Prop
  | .openBlob _ _ _ => True
  | _ => False

namespace Assembly

open Zip (Method Plot Writer IsClosingFailure)
open Zip.Writer (Paused)

variable {limit : Int} {file : File} {method : Method}

/-! ## Where a call is made -/

/-- A call in a row of visits belongs to one of them. -/
theorem split_storageCalls {session : SessionId} {visits : List Visit}
    {before after : List StorageCall} {call : StorageCall}
    (h : (footprint session visits).storageCalls = before ++ call :: after) :
    ∃ earlier v later calls calls', visits = earlier ++ v :: later ∧
      (v.footprint session).storageCalls = calls ++ call :: calls' ∧
      after = calls' ++ (footprint session later).storageCalls := by
  induction visits generalizing before with
  | nil => simp [footprint] at h
  | cons v rest ih =>
    rw [footprint, Footprint.storageCalls_append] at h
    rcases List.append_eq_append_iff.1 h with ⟨calls, rfl, hrest⟩ | ⟨calls, hv, hrest⟩
    · obtain ⟨earlier, u, later, cs, cs', rfl, hu, rfl⟩ := ih hrest
      exact ⟨v :: earlier, u, later, cs, cs', rfl, hu, rfl⟩
    · cases calls with
      | nil =>
        -- The call is the first one behind this visit.
        obtain ⟨earlier, u, later, cs, cs', rfl, hu, rfl⟩ := @ih [] hrest.symm
        exact ⟨v :: earlier, u, later, cs, cs', rfl, hu, rfl⟩
      | cons first calls' =>
        obtain ⟨rfl, rfl⟩ := List.cons_eq_cons.1 hrest
        exact ⟨[], v, rest, before, calls', rfl, hv, rfl⟩

/-- A call about a blob belongs to one of the visits of a session. -/
theorem Session.split_storageCalls {s : Session} {before after : List StorageCall}
    {call : StorageCall} (h : s.storageCalls = before ++ call :: after) (hcall : call.isCancelled = true) :
    ∃ earlier v later calls calls', s.visits = earlier ++ v :: later ∧
      (v.footprint s.id).storageCalls = calls ++ call :: calls' ∧
      after = calls' ++ (footprint s.id later).storageCalls ++ [.closeSession s.id s.closing] := by
  -- It is neither the first call of a session nor the last one.
  cases before with
  | nil =>
    obtain ⟨rfl, -⟩ := List.cons_eq_cons.1 h
    cases hcall
  | cons first before =>
    have hrest := (List.cons_eq_cons.1 h).2
    rcases List.append_eq_append_iff.1 hrest with ⟨calls, -, hlast⟩ | ⟨calls, hvisits, hafter⟩
    · have hmem : call ∈ [StorageCall.closeSession s.id s.closing] := by simp [hlast]
      obtain rfl := List.mem_singleton.1 hmem
      cases hcall
    · cases calls with
      | nil =>
        obtain ⟨rfl, -⟩ := List.cons_eq_cons.1 hafter
        cases hcall
      | cons _ calls =>
        obtain ⟨rfl, rfl⟩ := List.cons_eq_cons.1 hafter
        obtain ⟨earlier, v, later, cs, cs', hsplit, hv, rfl⟩ :=
          Assembly.split_storageCalls hvisits
        exact ⟨earlier, v, later, cs, cs', hsplit, hv, rfl⟩

theorem IsTour.eq_nil_of_error {references : List PhotoReference} {taken : List Path}
    {fault? : Option RoomFault} {earlier later : List Visit} {v : Visit} {e : Failure}
    (h : IsTour references taken fault? (earlier ++ v :: later)) (hv : v.outcome = .error e) :
    later = [] := by
  induction earlier generalizing references taken with
  | nil =>
    cases h with
    | last => rfl
    | cons _ _ _ hok _ =>
      rw [hv] at hok
      cases hok
  | cons u earlier ih =>
    rw [List.cons_append] at h
    generalize hrest : earlier ++ v :: later = rest at h
    cases h with
    | last => simp at hrest
    | cons _ _ _ _ htour =>
      subst hrest
      exact ih htour

/-! ## What a cancellation leads to -/

/-- A failure in closing the entry that is only the photo's fault has taken the place of what happened
before; nothing fails behind it. -/
def Visit.IsOverruled : Visit → Prop
  | opened _ _ _ (.opened _ _ (.error e)) (.ok _) => e = .file { fault := .noSpace }
  | _ => False

theorem Visit.skip?_of_isOverruled {v : Visit} (h : v.IsOverruled) :
    v.outcome = .ok () ∧ ∃ name, v.skip? = some
      { entryName := name, reason := .copyFailed
        detail := (Failure.file { fault := .noSpace }).message } := by
  have hcopy : IsCopyFailure (.file { fault := .noSpace }) := .inr (.inl trivial)
  rcases v with ⟨reference, e⟩ | ⟨reference, blob, name, work, e | u⟩
  · exact h.elim
  · rcases work with e' | ⟨handle, copying, e' | u'⟩ <;> exact h.elim
  · rcases work with e | ⟨handle, copying, e | u'⟩
    · exact h.elim
    · obtain rfl : e = .file { fault := .noSpace } := h
      refine ⟨?_, name.value, ?_⟩
      · simp [Visit.outcome, EntryWork.settled, EntryWork.outcome, hcopy, Except.map]
      · simp [Visit.skip?, EntryWork.skip?, EntryWork.outcome, hcopy]
    · exact h.elim

theorem isClosingFailure_of_entry {handle : Nat} {copying : Copying} {e : Failure} {name : Path}
    {size : Option Int} {w w' : Writer} {plots : List (Plot limit)} {front stale : Bytes}
    (h : Paused method w plots front stale)
    (hcalls : Leads (Zip.gateway file method limit).Answers
      ((EntryWork.opened handle copying (.error e)).calls name size) w w') : IsClosingFailure e := by
  obtain ⟨w₁, hentry, hlast⟩ := hcalls.of_append
  obtain ⟨_, _, -, hfilling, -⟩ := filling_of_entry h hentry
  obtain ⟨_, _, -, -, -, hfailure, -⟩ := hfilling.closeEntry.of_error hlast.of_single
  exact hfailure

/-- Only the last read of a blob fails, and copying fails with it. -/
theorem Copying.outcome_of_isCancelled {copying : Copying} {reader : ReaderId} {call : StorageCall}
    (hmem : call ∈ copying.reads reader) (hcall : call.isCancelled = true) :
    ∃ text, copying.outcome = .error (.cancelled text) := by
  cases copying with
  | unbuffered fault => cases hmem
  | through loan pieces ending hpieces hending =>
    rcases List.mem_append.1 hmem with hmem | hmem
    · obtain ⟨piece, -, rfl⟩ := List.mem_map.1 hmem
      cases hcall
    · obtain rfl := List.mem_singleton.1 hmem
      obtain ⟨text, htext⟩ := isCancellation_iff.1 hcall
      cases ending with
      | failed e =>
        cases htext
        exact ⟨text, rfl⟩
      | _ => cases htext

theorem not_isCopyFailure_cancelled (text : String) : ¬ IsCopyFailure (.cancelled text) := by
  simp [IsCopyFailure, Failure.IsReadError, Failure.IsSystemError, Failure.IsValueError]

/-- On a file that is open, a visit with a call that is cancelled fails, or it is overruled. -/
theorem Visit.of_isCancelled {v : Visit} {session : SessionId} {w w' : Writer}
    {plots : List (Plot limit)} {front stale : Bytes} {call : StorageCall}
    (h : Paused method w plots front stale)
    (hcalls : Leads (Zip.gateway file method limit).Answers (v.footprint session).writerCalls w w')
    (hmem : call ∈ (v.footprint session).storageCalls) (hcall : call.isCancelled = true) :
    v.IsOverruled ∨ ∃ e, v.outcome = .error e := by
  rcases v with ⟨reference, e⟩ | ⟨reference, blob, name, work, e | u⟩
  · obtain rfl := List.mem_singleton.1 hmem
    obtain ⟨text, htext⟩ := isCancellation_iff.1 hcall
    cases htext
    exact .inr ⟨.cancelled text, by simp [Visit.outcome, Failure.IsBlobError]⟩
  · exact .inr ⟨e, rfl⟩
  -- The reader was closed, so it is a read that was cancelled.
  have hread : call ∈ work.reads blob.reader := by
    rcases List.mem_append.1 hmem with hmem | hmem
    · rcases List.mem_cons.1 hmem with rfl | hmem
      cases hcall
      · exact hmem
    · obtain rfl := List.mem_singleton.1 hmem
      cases hcall
  cases work with
  | refused e => cases hread
  | opened handle copying closing =>
    obtain ⟨text, houtcome⟩ := Copying.outcome_of_isCancelled hread hcall
    cases closing with
    | ok u' =>
      refine .inr ⟨.cancelled text, ?_⟩
      simp [Visit.outcome, EntryWork.settled, EntryWork.outcome, houtcome,
        not_isCopyFailure_cancelled, Except.map]
    | error e =>
      by_cases hcopy : IsCopyFailure e
      · exact .inl (eq_noSpace_of_isCopyFailure (isClosingFailure_of_entry h hcalls) hcopy)
      · refine .inr ⟨e, ?_⟩
        simp [Visit.outcome, EntryWork.settled, EntryWork.outcome, hcopy, Except.map]

/-- Behind the first call of a visit no blob is opened. -/
theorem Visit.not_isOpening_of_split {v : Visit} {session : SessionId}
    {calls calls' : List StorageCall} {call c : StorageCall}
    (h : (v.footprint session).storageCalls = calls ++ call :: calls') (hc : c ∈ calls') :
    ¬ c.IsOpening := by
  have hlater : ∃ tail first, (v.footprint session).storageCalls = first :: tail ∧
      ∀ c ∈ tail, ¬ c.IsOpening := by
    cases v with
    | missed reference e => exact ⟨[], _, rfl, by simp⟩
    | opened reference blob name work closing =>
      refine ⟨_, _, rfl, ?_⟩
      intro c hc
      rcases List.mem_append.1 hc with hc | hc
      · obtain ⟨room, answer, rfl⟩ := EntryWork.mem_reads hc
        exact id
      · obtain rfl := List.mem_singleton.1 hc
        exact id
  obtain ⟨tail, first, hfirst, htail⟩ := hlater
  apply htail c
  rw [hfirst] at h
  cases calls with
  | nil => exact (List.cons_eq_cons.1 h).2 ▸ hc
  | cons _ calls =>
    rw [(List.cons_eq_cons.1 h).2]
    simp [hc]

/-- When the visits of a session have failed, so does the assembly. -/
theorem Session.result_of_error {s : Session} {e : Failure} (ledger : SkipLedger)
    (hvisits : Assembly.outcome s.visits = .error e)
    (hfollows : s.ending.Follows (Assembly.outcome s.visits)) :
    ∃ e', s.result ledger = .error e' := by
  rw [hvisits] at hfollows
  obtain ⟨e₁, hending⟩ := hfollows.outcome_of_error
  unfold Session.result Session.outcome
  cases s.closing with
  | ok u => exact ⟨e₁, by rw [hending]; rfl⟩
  | error e₂ => exact ⟨e₂, rfl⟩

/-- A call about a blob that is cancelled ends the assembly without a result, and no blob is opened any
more; or a write that the file refused in closing the entry has overruled it, and the work goes on as
if the photo were at fault. -/
theorem assemble_cancelled {σ : Type} (source : BlobSource σ) (references : List PhotoReference)
    (w : Workshop σ Writer) (hopen : file.isClosed = false) (hempty : file.content = []) :
    ∃ (outcome : Except Failure ExportResult)
      (w' : Workshop (Recorded σ StorageCall) (Recorded Writer WriterCall)),
      (assemble source.recorded (Zip.gateway file method limit).recorded references).run w.recording
        = (outcome, w') ∧
      (assemble source (Zip.gateway file method limit) references).run w = (outcome, w'.forget) ∧
      ∀ before call after, w'.storage.calls = before ++ call :: after → call.isCancelled = true →
        ((∃ e, outcome = .error e) ∧ ∀ c ∈ after, ¬ c.IsOpening) ∨
        ∃ (s : Session) (earlier later : List Visit) (v : Visit) (calls calls' : List StorageCall)
          (name : String), s.IsKept w' ∧ s.visits = earlier ++ v :: later ∧
          (v.footprint s.id).storageCalls = calls ++ call :: calls' ∧ v.IsOverruled ∧
          v.outcome = .ok () ∧ v.skip? = some
            { entryName := name, reason := .copyFailed
              detail := (Failure.file { fault := .noSpace }).message } := by
  obtain ⟨o, w', hrun, hplain, hcase⟩ :=
    assemble_recorded_of_create source (Zip.create_gateway file method limit) references w
  refine ⟨o, w', hrun, hplain, ?_⟩
  intro before call after hcalls hcall
  rcases hcase with ⟨refusal, _, -, hrefused, -⟩ |
    ⟨s, storage, -, -, htour, hfollows, hkept, hmarks, rfl⟩
  · rw [hrefused] at hcalls
    have hmem : call ∈ [StorageCall.newSession (.error refusal)] := by simp [hcalls]
    obtain rfl := List.mem_singleton.1 hmem
    cases hcall
  rw [hkept.storage] at hcalls
  obtain ⟨earlier, v, later, calls, calls', hsplit, hv, rfl⟩ :=
    Session.split_storageCalls hcalls hcall
  -- In front of the visit the writer is paused, whatever has become of the visits before.
  obtain ⟨writer, -, hwrites⟩ := hmarks.writer
  have hfootprint : footprint s.id s.visits
      = footprint s.id earlier ++ (v.footprint s.id ++ footprint s.id later) := by
    rw [hsplit, footprint_append, footprint]
  rw [Session.writerCalls, hfootprint] at hwrites
  obtain ⟨_, hentries, -⟩ := hwrites.of_append
  obtain ⟨w₁, hearlier, hrest⟩ := hentries.of_append
  obtain ⟨w₂, hvisit, -⟩ := hrest.of_append
  have hnew : Paused method (.new file method limit) ([] : List (Plot limit)) [] [] :=
    Writer.new_paused hopen hempty
  obtain ⟨plots, front, stale, hpaused, -⟩ := paused_of_visits hnew hearlier
  have hmem : call ∈ (v.footprint s.id).storageCalls := by simp [hv]
  rcases Visit.of_isCancelled hpaused hvisit hmem hcall with hoverruled | ⟨e, he⟩
  · obtain ⟨houtcome, name, hskip⟩ := Visit.skip?_of_isOverruled hoverruled
    exact .inr ⟨s, earlier, later, v, calls, calls', name, hkept, hsplit, hv, hoverruled, houtcome,
      hskip⟩
  · rw [hsplit] at htour
    obtain rfl := htour.eq_nil_of_error he
    refine .inl ⟨?_, ?_⟩
    · cases hvisits : outcome s.visits with
      | ok u =>
        have hok := outcome_of_mem hvisits (v := v) (by simp [hsplit])
        rw [he] at hok
        cases hok
      | error e' => exact Session.result_of_error w'.ledger hvisits hfollows
    · intro c hc
      rcases List.mem_append.1 hc with hc | hc
      · have hc : c ∈ calls' := by simpa [footprint] using hc
        exact Visit.not_isOpening_of_split hv hc
      · obtain rfl := List.mem_singleton.1 hc
        exact id

/-- Two photos; the first read of the first one is cancelled. -/
def cancelledWorkshop : Workshop Scripted.Storage Writer :=
  { sampleWorkshop with
    storage :=
      { script :=
          { blobs :=
              [("photos/p/a.jpg",
                { delivery := { rest := [1], fault := some (0, .cancelled "stop") }, size := some 1 }),
                ("photos/p/b.jpg", { delivery := { rest := [2] }, size := some 1 })] } } }

/-- The second write is the header of the first entry, written once more when the entry is closed. -/
theorem cancelledWorkshop_interrupted :
    ((assemble Scripted.source.recorded (Zip.gateway (refusingOnce 1) .stored
      Zip.standardLimit).recorded sampleReferences).run
        cancelledWorkshop.recording).2.storage.calls.any StorageCall.isCancelled = true ∧
    ((assemble Scripted.source (Zip.gateway (refusingOnce 1) .stored
      Zip.standardLimit) sampleReferences).run cancelledWorkshop).1.isOk = true := by
  decide +kernel

theorem assemble_cancelled_sample :
    ∃ (result : ExportResult) (s : Session) (earlier later : List Visit) (v : Visit),
      ((assemble Scripted.source (Zip.gateway (refusingOnce 1) .stored
        Zip.standardLimit) sampleReferences).run cancelledWorkshop).1 = .ok result ∧
      s.visits = earlier ++ v :: later ∧ v.IsOverruled := by
  obtain ⟨hcancelled, hok⟩ := cancelledWorkshop_interrupted
  obtain ⟨outcome, w', hrun, hplain, hcalls⟩ := @assemble_cancelled Zip.standardLimit
    (refusingOnce 1) .stored _ Scripted.source sampleReferences cancelledWorkshop rfl rfl
  rw [hrun] at hcancelled
  rw [hplain] at hok ⊢
  obtain ⟨call, hmem, hcall⟩ := List.any_eq_true.1 hcancelled
  obtain ⟨before, after, hsplit⟩ := List.append_of_mem hmem
  rcases hcalls before call after hsplit hcall with
    ⟨⟨e, rfl⟩, -⟩ | ⟨s, earlier, later, v, _, _, _, -, hvisits, -, hoverruled, -⟩
  · cases hok
  · cases outcome with
    | error e => cases hok
    | ok result => exact ⟨result, s, earlier, later, v, rfl, hvisits, hoverruled⟩

/-- One refused write makes an assembly go on that was cancelled. -/
theorem not_forall_cancelled :
    ¬ ∀ (file : File) (method : Method) (references : List PhotoReference)
      (w : Workshop Scripted.Storage Writer), file.isClosed = false → file.content = [] →
      (∃ call ∈ ((assemble Scripted.source.recorded
        (Zip.gateway file method Zip.standardLimit).recorded references).run
          w.recording).2.storage.calls, call.isCancelled = true) →
      ((assemble Scripted.source (Zip.gateway file method Zip.standardLimit) references).run
        w).1.isOk = false := by
  intro h
  obtain ⟨hcancelled, hok⟩ := cancelledWorkshop_interrupted
  have hfailed := h (refusingOnce 1) .stored sampleReferences cancelledWorkshop rfl rfl
    (List.any_eq_true.1 hcancelled)
  rw [hok] at hfailed
  cases hfailed

end Assembly

end PhotoArchive
