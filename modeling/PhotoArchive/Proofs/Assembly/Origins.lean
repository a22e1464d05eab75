import PhotoArchive.Proofs.Assembly.Release

/-!
# Where failures come from

An assembly makes hardly any failures of its own: when it fails, one of the calls to the storage or
to the archive has failed in the same way, or a buffer is missing or too small.

## Main definitions

- `StorageCall.failure?`, `WriterCall.failure?` — the failure that a call ends with
- `Arises` — a failure is the answer to one of some calls, or comes from copying between them

## Main statements

- `Session.arises` — the failure of a session arises from its calls
-/

namespace PhotoArchive

/-- The failure with which a call is answered, if it fails. -/
def StorageCall.failure? : StorageCall → Option Failure
  | .newSession (.error refusal) => some refusal.failure
  | .openBlob _ _ (.error e) | .read _ _ (.error e) => some e
  | .closeReader _ (.error e) | .closeSession _ (.error e) => some e
  | _ => none

/-- The failure with which a call is answered, if it fails. -/
def WriterCall.failure? : WriterCall → Option Failure
  | .openEntry _ _ (.error e) | .write _ _ (.error e) | .closeEntry _ (.error e) => some e
  | .finalize (.error refusal) => some refusal.failure
  | .discard (.error e) => some e
  | _ => none

namespace Assembly

/-- A failure is the answer to one of some calls, or comes from copying between them. -/
inductive Arises (calls : List StorageCall) (writes : List WriterCall) (e : Failure) : Prop
  | storage (call : StorageCall) (hmem : call ∈ calls) (hfailure : call.failure? = some e)
  | writer (call : WriterCall) (hmem : call ∈ writes) (hfailure : call.failure? = some e)
  | unbuffered {fault : LengthFault} (heq : e = .length fault)
  | exceeded (heq : e = .bufferExceeded)

theorem Arises.mono {calls calls' : List StorageCall} {writes writes' : List WriterCall}
    {e : Failure} (h : Arises calls writes e) (hcalls : calls ⊆ calls') (hwrites : writes ⊆ writes') :
    Arises calls' writes' e := by
  cases h with
  | storage call hmem hfailure => exact .storage call (hcalls hmem) hfailure
  | writer call hmem hfailure => exact .writer call (hwrites hmem) hfailure
  | unbuffered heq => exact .unbuffered heq
  | exceeded heq => exact .exceeded heq

/-! ## One photo -/

theorem Copying.arises {copying : Copying} {reader : ReaderId} {handle : Nat} {e : Failure}
    (h : copying.outcome = .error e) : Arises (copying.reads reader) (copying.writes handle) e := by
  cases copying with
  | unbuffered fault =>
    cases h
    exact .unbuffered rfl
  | through loan pieces ending =>
    cases ending with
    | finished => cases h
    | failed e' =>
      cases h
      exact .storage (.read reader loan.length (.error e)) (by simp [reads, CopyEnd.answer])
        rfl
    | exceeded piece =>
      cases h
      exact .exceeded rfl
    | refused piece e' =>
      cases h
      exact .writer (.write handle piece (.error e)) (by simp [writes, CopyEnd.writes]) rfl

theorem EntryWork.arises {work : EntryWork} {reader : ReaderId} {name : Path} {size : Option Int}
    {e : Failure} (h : work.outcome = .error e) :
    Arises (work.reads reader) (work.calls name size) e := by
  cases work with
  | refused e' =>
    cases h
    exact .writer (.openEntry name size (.error e)) (by simp [calls]) rfl
  | opened handle copying closing =>
    cases closing with
    | error e' =>
      cases h
      exact .writer (.closeEntry handle (.error e)) (by simp [calls]) rfl
    | ok u =>
      have hcopying : Arises (copying.reads reader) (copying.writes handle) e := Copying.arises h
      refine hcopying.mono (fun _ => id) fun call hcall => ?_
      simp [calls, hcall]

theorem Visit.arises {v : Visit} {session : SessionId} {e : Failure} (h : v.outcome = .error e) :
    Arises (v.footprint session).storageCalls (v.footprint session).writerCalls e := by
  cases v with
  | missed reference e' =>
    obtain rfl : e' = e := by
      by_cases hblob : e'.IsBlobError <;> simp [outcome, hblob] at h
      exact h
    exact .storage (.openBlob session reference.blobKey (.error e')) (by simp [footprint]) rfl
  | opened reference blob name work closing =>
    cases closing with
    | error e' =>
      cases h
      exact .storage (.closeReader blob.reader (.error e)) (by simp [footprint]) rfl
    | ok u =>
      have hwork : work.outcome = .error e := by
        cases hwork : work.outcome with
        | ok copied => simp [outcome, EntryWork.settled, hwork, Except.map] at h
        | error e' =>
          by_cases hcopy : IsCopyFailure e' <;>
            simp [outcome, EntryWork.settled, hwork, hcopy, Except.map] at h
          exact congrArg _ h
      have harises : Arises (work.reads blob.reader) (work.calls name blob.size) e :=
        EntryWork.arises hwork
      refine harises.mono (fun call hcall => ?_) fun _ => id
      simp [footprint, hcall]

/-! ## Sessions -/

theorem arises_of_outcome {session : SessionId} {visits : List Visit} {e : Failure}
    (h : outcome visits = .error e) :
    Arises (footprint session visits).storageCalls (footprint session visits).writerCalls e := by
  induction visits with
  | nil => cases h
  | cons v rest ih =>
    rw [outcome] at h
    cases hv : v.outcome with
    | error e' =>
      rw [hv] at h
      cases h
      exact (Visit.arises hv).mono (List.subset_append_left _ _) (List.subset_append_left _ _)
    | ok u =>
      rw [hv] at h
      exact (ih h).mono (List.subset_append_right _ _) (List.subset_append_right _ _)

/-- When a session fails, one of its calls has failed in the same way, or copying has. -/
theorem Session.arises {s : Session} {e : Failure} (h : s.outcome = .error e)
    (hfollows : s.ending.Follows (Assembly.outcome s.visits)) :
    Arises s.storageCalls s.writerCalls e := by
  obtain ⟨id, visits, ending, closing⟩ := s
  cases closing with
  | error e' =>
    cases h
    exact .storage (.closeSession id (.error e)) (by simp [storageCalls]) rfl
  | ok u =>
    rcases ending with (refusal | archive) | ⟨e₁, e₂ | message⟩
    · cases h
      exact .writer (.finalize (.error refusal)) (by simp [writerCalls, Ending.call]) rfl
    · cases h
    · cases h
      exact .writer (.discard (.error e)) (by simp [writerCalls, Ending.call]) rfl
    · -- The archive was given up because of the failure of a visit.
      cases h
      have harises : Arises (footprint id visits).storageCalls (footprint id visits).writerCalls e :=
        arises_of_outcome hfollows
      refine harises.mono (fun call hcall => ?_) fun call hcall => ?_
      · simp [storageCalls, hcall]
      · simp [writerCalls, hcall]

end Assembly

end PhotoArchive
