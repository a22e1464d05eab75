import PhotoArchive.Proofs.Assembly.Disposal
import PhotoArchive.Proofs.Assembly.Fetching
import PhotoArchive.Proofs.Assembly.Isolation
import PhotoArchive.Proofs.Assembly.Survival
import PhotoArchive.Proofs.Zip.Uninterrupted

/-!
# Failures of single objects

An object store may fail to give an object, or to deliver its body to the end. Most of these failures
become a record about the photo of that object, and all other photos are written as if nothing had
happened. One kind ends the whole assembly: a failure of the system or of the transfer when an object
is asked for, while the same failure in reading its body does not.

## Main definitions

- `StoreCall.IsConfined` — a call that goes well, or fails for one object
- `StoreCall.IsTold` — a call whose failure is reported as one of the blob
- `Photo.FitsIn` — the format can hold a photo, in whichever pieces it is written
- `Visit.IsSettled` — a visit that keeps all it is delivered

## Main statements

- `IsTour.settles` — visits whose failures are told are all settled
- `assemble_confined` — which assemblies of such stores give a result, and which one

## Design notes

Data may be kept by any method, and the header of an entry has room for large sizes or not. So what
fits is asked of the data as they are and of what they become.
-/

namespace PhotoArchive

/-- A call that goes well, or whose failure is that of a single object. -/
def StoreCall.IsConfined : StoreCall → Prop
  | .enter _ answer => answer.isOk
  | .exit _ => True
  | .headBucket _ _ answer => answer = .ok ()
  | .getObject _ _ _ (.ok object) => ∀ size, object.length = some size → 0 ≤ size ∧ size < 2 ^ 64
  | .getObject _ _ _ (.error e) => Bucket.IsTransferFailure e
  | .readBody _ room (.ok data) => data.length ≤ room
  | .readBody _ _ (.error e) => Bucket.IsTransferFailure e
  | .closeBody _ answer => answer = .ok ()

theorem StoreCall.isOk_iff {answer : Except Failure Unit} :
    answer.isOk = true ↔ answer = .ok () := by
  cases answer <;> simp [Except.isOk, Except.toBool]

instance : DecidablePred StoreCall.IsConfined
  | .enter _ answer => inferInstanceAs (Decidable (answer.isOk = true))
  | .exit _ => isTrue trivial
  | .headBucket _ _ _ => decidable_of_iff _ StoreCall.isOk_iff
  | .getObject _ _ _ (.ok object) =>
    inferInstanceAs (Decidable (∀ size ∈ object.length, 0 ≤ size ∧ size < 2 ^ 64))
  | .getObject _ _ _ (.error e) => inferInstanceAs (Decidable (Bucket.IsTransferFailure e))
  | .readBody _ room (.ok data) => inferInstanceAs (Decidable (data.length ≤ room))
  | .readBody _ _ (.error e) => inferInstanceAs (Decidable (Bucket.IsTransferFailure e))
  | .closeBody _ _ => decidable_of_iff _ StoreCall.isOk_iff

/-- Unless an object is asked for, a failure is reported as one of the blob; there only a failure of
the service is. -/
def StoreCall.IsTold : StoreCall → Prop
  | .getObject _ _ _ (.error e) => e.IsServiceError
  | _ => True

instance : DecidablePred StoreCall.IsTold := fun _ => by
  unfold StoreCall.IsTold
  split <;> infer_instance

namespace Assembly

open Bucket (openFailure transferFailure readAnswer IsTransferFailure Passes)
open Zip (Method Plot Tally Writer largestFor)
open Zip.Writer (CanHold Paused Receiving roomFor)

variable {limit : Int} {file : File} {method : Method}

/-! ## What fits the format -/

/-- The format can hold a photo, in whichever pieces it is written: its name has a UTF-8 form that is
short enough, and its data are short enough, as they are and as they are kept. -/
structure Photo.FitsIn (method : Method) (limit : Int) (p : Photo) : Prop where
  form : (Text.utf8? p.name.value).isSome = true
  name : (Text.utf8 p.name.value).length < 2 ^ 16
  data : (p.data.length : Int) ≤ largestFor limit (roomFor limit p.declared)
  packed : ∀ pieces : List Bytes, pieces.flatten = p.data →
    ((method.packed pieces).length : Int) ≤ largestFor limit (roomFor limit p.declared)

/-- Data that are stored fit if they are within the limit. -/
theorem Photo.fitsIn_stored (hlimit : limit < Zip.fullField) {p : Photo}
    (hform : (Text.utf8? p.name.value).isSome = true)
    (hname : (Text.utf8 p.name.value).length < 2 ^ 16) (hdata : (p.data.length : Int) ≤ limit) :
    p.FitsIn .stored limit := by
  have hle : (p.data.length : Int) ≤ largestFor limit (roomFor limit p.declared) := by
    unfold largestFor
    unfold Zip.fullField at hlimit
    split <;> omega
  refine ⟨hform, hname, hle, ?_⟩
  rintro pieces hpieces
  rw [Method.packed_stored, hpieces]
  exact hle

/-! ## Calls behind a visit -/

section Calls

variable {client : ClientId} {bucket : String} {v : Visit} {calls : List StoreCall}

theorem isMild_of_passes {key : String} {reader : ReaderId} {body : BodyId}
    {reads : List StorageCall} (h : List.Forall₂ (Passes key reader body) reads calls)
    (hconfined : ∀ call ∈ calls, call.IsConfined) : ∀ call ∈ reads, call.IsMild := by
  induction h with
  | nil => simp
  | cons hcall _ ih =>
    obtain ⟨room, answer⟩ := hcall
    rintro call (_ | ⟨_, hmem⟩)
    · have hanswer : (StoreCall.readBody body room answer).IsConfined :=
        hconfined _ List.mem_cons_self
      cases answer with
      | ok data => exact hanswer
      | error e =>
        have hread : transferFailure key e = .blobRead key e.message := if_pos hanswer
        simp [readAnswer, Except.mapError, hread, StorageCall.IsMild, IsCopyFailure,
          Failure.IsReadError]
    · exact ih (fun call hcall => hconfined call (List.mem_cons_of_mem _ hcall)) call hmem

theorem isBlobError_openFailure {key : String} {e : Failure} (h : e.IsServiceError) :
    (openFailure key e).IsBlobError := by
  cases e with
  | service e =>
    by_cases hfound : e.IsNotFound <;> simp [openFailure, hfound, Failure.IsBlobError]
  | connection e => exact trivial
  | _ => exact h.elim

/-- What is not a failure of the service is not reported as one of the blob. -/
theorem not_isBlobError_openFailure {key : String} {e : Failure} (htransfer : IsTransferFailure e)
    (h : ¬ e.IsServiceError) : ¬ (openFailure key e).IsBlobError := by
  cases e with
  | service _ | connection _ => exact absurd trivial h
  | _ => simp_all [openFailure, IsTransferFailure, Failure.IsBlobError, Failure.IsPayloadError,
      Failure.IsServiceError, Failure.IsSystemError]

/-- A storage whose object store fails for single objects is mild if all failures are told. -/
theorem Visit.IsFetched.isMild (h : v.IsFetched client bucket calls)
    (hconfined : ∀ call ∈ calls, call.IsConfined) (htold : ∀ call ∈ calls, call.IsTold)
    (session : SessionId) : ∀ call ∈ (v.footprint session).storageCalls, call.IsMild := by
  cases h with
  | missed reference e =>
    rintro call (_ | ⟨_, hmem⟩)
    · exact isBlobError_openFailure (htold _ List.mem_cons_self)
    · cases hmem
  | @opened reference reader object name work closing reads hpasses =>
    have hreads := isMild_of_passes hpasses fun call hcall =>
      hconfined call (List.mem_append_left _ (List.mem_cons_of_mem _ hcall))
    intro call hmem
    rcases List.mem_append.1 hmem with hmem | hlast
    · rcases List.mem_cons.1 hmem with rfl | hmem
      · exact hconfined (.getObject client bucket reference.blobKey.value (.ok object))
          (List.mem_append_left _ List.mem_cons_self)
      · exact hreads call hmem
    · obtain rfl := List.mem_singleton.1 hlast
      exact hconfined (.closeBody object.body closing)
        (List.mem_append_right _ List.mem_cons_self)

/-- Where the work goes on, all failures were told. -/
theorem Visit.IsFetched.isTold (h : v.IsFetched client bucket calls)
    (hconfined : ∀ call ∈ calls, call.IsConfined) (hok : v.outcome = .ok ()) :
    ∀ call ∈ calls, call.IsTold := by
  cases h with
  | missed reference e =>
    rintro call (_ | ⟨_, hmem⟩)
    · by_cases htold : e.IsServiceError
      · exact htold
      · have hnot := @not_isBlobError_openFailure reference.blobKey.value e
          (hconfined _ List.mem_cons_self) htold
        simp [Visit.outcome, hnot] at hok
    · cases hmem
  | @opened reference reader object name work closing reads hpasses =>
    intro call hmem
    simp only [List.cons_append, List.mem_cons, List.mem_append, List.not_mem_nil,
      or_false] at hmem
    rcases hmem with rfl | hmem | rfl
    · trivial
    · obtain ⟨_, _, rfl⟩ := mem_of_passes hpasses call hmem
      trivial
    · trivial

theorem AreFetched.isTold {visits : List Visit} (h : AreFetched client bucket visits calls)
    (hconfined : ∀ call ∈ calls, call.IsConfined) (hok : outcome visits = .ok ()) :
    ∀ call ∈ calls, call.IsTold := by
  induction h with
  | nil => simp
  | @cons v visits calls rest hv _ ih =>
    have hfirst := outcome_of_mem hok List.mem_cons_self
    rw [outcome, hfirst] at hok
    intro call hmem
    rcases List.mem_append.1 hmem with hmem | hmem
    · exact hv.isTold (fun call hcall => hconfined call (List.mem_append_left _ hcall)) hfirst call
        hmem
    · exact ih (fun call hcall => hconfined call (List.mem_append_right _ hcall)) hok call hmem

theorem AreFetched.isMild {visits : List Visit} (h : AreFetched client bucket visits calls)
    (hconfined : ∀ call ∈ calls, call.IsConfined) (htold : ∀ call ∈ calls, call.IsTold)
    (session : SessionId) :
    ∀ call ∈ (footprint session visits).storageCalls, call.IsMild := by
  induction h with
  | nil => simp [footprint]
  | @cons v visits calls rest hv _ ih =>
    simp only [List.mem_append, or_imp, forall_and] at hconfined htold
    intro call hmem
    rcases List.mem_append.1 hmem with hmem | hmem
    · exact hv.isMild hconfined.1 htold.1 session call hmem
    · exact ih hconfined.2 htold.2 call hmem

end Calls

/-! ## Settled visits -/

/-- What is counted for the entry of a photo that is kept as a whole. -/
def Photo.tally (p : Photo) : Tally := ⟨p.name.value, p.data, true⟩

/-- A visit that keeps all it is delivered, and has a record of what is lost. -/
structure Visit.IsSettled (v : Visit) : Prop where
  outcome_eq : v.outcome = .ok ()
  skip_eq : v.skip? = v.loss?
  tally_eq : v.tally? = v.photo?.map Photo.tally
  counted : v.notes.countP Note.isWritten = v.photo?.toList.countP Photo.isComplete
  isClosed : v.IsClosed

/-- Reads that go on until one fails tell how copying ends. -/
theorem Copying.readFailure?_reads {copying : Copying} {fault? : Option RoomFault}
    (htaken : copying.IsTaken) (hbuffered : copying.IsBuffered fault?)
    (hsettled : ∀ e, copying.outcome = .error e → IsCopyFailure e) (reader : ReaderId) :
    readFailure? (copying.reads reader)
      = match copying.outcome with
        | .ok _ => none
        | .error e => some e := by
  cases copying with
  | unbuffered fault => exact absurd (hsettled _ rfl) (not_isCopyFailure_noRoom fault)
  | through loan pieces ending hpieces hending =>
    have hpieces : readFailure? (pieces.map fun piece => .read reader loan.length (.ok piece))
        = none := by
      simp [readFailure?, List.findSome?_eq_none_iff]
    rw [Copying.reads, readFailure?, List.findSome?_append, ← readFailure?, hpieces]
    cases ending with
    | finished => rfl
    | failed e => rfl
    | exceeded piece =>
      have hnever : ¬ IsCopyFailure .bufferExceeded := by
        simp [IsCopyFailure, Failure.IsReadError, Failure.IsSystemError, Failure.IsValueError]
      exact absurd (hsettled _ rfl) hnever
    | refused piece e => exact htaken.elim

theorem Copying.counted_of_isTaken {copying : Copying} (h : copying.IsTaken) :
    copying.counted = copying.written ∧ copying.isWhole = true := by
  cases copying with
  | unbuffered fault => exact ⟨rfl, rfl⟩
  | through loan pieces ending hpieces hending =>
    cases ending with
    | refused piece e => exact h.elim
    | finished | failed | exceeded => exact ⟨rfl, rfl⟩

/-- A visit whose entry took all data and was closed is settled, if reading fails for the photo's fault
only. -/
theorem Visit.isSettled_of_copying {reference : PhotoReference} {blob : OpenedBlob} {name : Path}
    {handle : Nat} {copying : Copying} {fault? : Option RoomFault} (htaken : copying.IsTaken)
    (hbuffered : copying.IsBuffered fault?)
    (hsettled : ∀ e, copying.outcome = .error e → IsCopyFailure e) :
    (opened reference blob name (.opened handle copying (.ok ())) (.ok ())).IsSettled := by
  obtain ⟨hreceived, hreaches⟩ := Copying.reads_of_settled htaken hsettled blob.reader
  obtain ⟨hcounted, hwhole⟩ := Copying.counted_of_isTaken htaken
  have hlost := Copying.readFailure?_reads htaken hbuffered hsettled blob.reader
  have hok : (opened reference blob name (.opened handle copying (.ok ())) (.ok ())).outcome
      = .ok () := by
    cases houtcome : copying.outcome with
    | ok copied => simp [Visit.outcome, EntryWork.settled, EntryWork.outcome, houtcome, Except.map]
    | error e =>
      simp [Visit.outcome, EntryWork.settled, EntryWork.outcome, houtcome, hsettled e houtcome,
        Except.map]
  refine ⟨hok, ?_, ?_, ?_, trivial⟩
  · rw [Visit.skip?, Visit.loss?, EntryWork.reads, hlost, EntryWork.skip?, EntryWork.outcome]
    cases houtcome : copying.outcome with
    | ok copied => rfl
    | error e => simp [hsettled e houtcome]
  · simp [Visit.tally?, EntryWork.tally?, Visit.photo?, Photo.tally, EntryWork.reads, hreceived,
      hcounted, hwhole]
  · rw [countP_notes hok]
    simp only [Visit.skip?, EntryWork.skip?, Visit.photo?, Option.toList_some,
      List.countP_singleton, EntryWork.reads, hreaches]
    cases houtcome : copying.outcome with
    | ok copied => simp [EntryWork.outcome, houtcome, Except.isOk, Except.toBool]
    | error e =>
      simp [EntryWork.outcome, houtcome, hsettled e houtcome, Except.isOk, Except.toBool]

/-! ## Writing what is delivered -/

section Entry

variable {w w' : Writer} {plots : List (Plot limit)} {front stale : Bytes} {handle : Nat}
  {name : String} {room : Bool}

theorem receiving_of_writes {before pieces : List Bytes}
    (h : Receiving method w plots front stale handle name before room)
    (hcalls : Leads (Zip.gateway file method limit).Answers
      (pieces.map fun piece => .write handle piece (.ok ())) w w') :
    ∃ stale', Receiving method w' plots front stale' handle name (pieces.reverse ++ before) room := by
  induction pieces generalizing w before stale with
  | nil =>
    cases hcalls
    exact ⟨stale, h⟩
  | cons piece rest ih =>
    obtain _ | ⟨hcall, hrest⟩ := hcalls
    obtain ⟨w₁, stale₁, hrun, hnext⟩ := h.write piece
    cases hrun.symm.trans hcall
    obtain ⟨stale₂, hlast⟩ := ih hnext hrest
    exact ⟨stale₂, by simpa using hlast⟩

/-- A file that takes all writes takes all that is copied. -/
theorem receiving_of_copying {copying : Copying}
    (h : Receiving method w plots front stale handle name [] room)
    (hcalls : Leads (Zip.gateway file method limit).Answers (copying.writes handle) w w') :
    copying.IsTaken ∧ ∃ pieces stale', pieces.reverse.flatten = copying.written ∧
      Receiving method w' plots front stale' handle name pieces room := by
  cases copying with
  | unbuffered fault =>
    cases hcalls
    exact ⟨trivial, [], stale, rfl, h⟩
  | through loan pieces ending hpieces hending =>
    obtain ⟨w₁, hwrites, hlast⟩ := hcalls.of_append
    obtain ⟨stale₁, hreceiving⟩ := receiving_of_writes h hwrites
    rw [List.append_nil] at hreceiving
    cases ending with
    | refused piece e =>
      obtain ⟨w₂, _, hrun, -⟩ := hreceiving.write piece
      cases hrun.symm.trans hlast.of_single
    | finished | failed | exceeded =>
      cases hlast
      exact ⟨trivial, pieces.reverse, stale₁, by simp [Copying.written], hreceiving⟩

/-- What comes from a mild storage is written to an entry as a whole, if the format can hold it. -/
theorem EntryWork.settles {work : EntryWork} {name : Path} {size : Option Int} {reader : ReaderId}
    {fault? : Option RoomFault} (hlimit : limit < Zip.fullField) (h : Paused method w plots front stale)
    (htakes : w.file.TakesAll) (hform : (Text.utf8? name.value).isSome = true)
    (hhold : CanHold name.value size)
    (hbuffered : work.IsBuffered fault?) (hroom : fault? = none)
    (hmild : ∀ call ∈ work.reads reader, call.IsMild) {isComplete : Bool}
    (hfits : Photo.FitsIn method limit
      { name, declared := size, data := received (work.reads reader), isComplete })
    (hcalls : Leads (Zip.gateway file method limit).Answers (work.calls name size) w w') :
    ∃ handle copying, work = .opened handle copying (.ok ()) ∧ copying.IsTaken ∧
      copying.IsBuffered fault? ∧ (∀ e, copying.outcome = .error e → IsCopyFailure e) ∧
      ∃ p front' stale', Paused method w' (plots ++ [p]) front' stale' ∧ w'.file.TakesAll := by
  obtain ⟨handle, w₁, stale₁, hopen, hreceiving⟩ := h.receiving hlimit htakes hform hhold
  cases work with
  | refused e => cases hopen.symm.trans hcalls.of_single
  | opened handle' copying closing =>
    obtain ⟨w₂, hfilled, hlast⟩ := hcalls.of_append
    obtain _ | ⟨hfirst, hwrites⟩ := hfilled
    cases hopen.symm.trans hfirst
    obtain ⟨htaken, pieces, stale₂, hpieces, hfull⟩ := receiving_of_copying hreceiving hwrites
    obtain ⟨hreceived, hsettled⟩ := Copying.of_mild htaken hbuffered hroom hmild
    have hdata : pieces.reverse.flatten = received (copying.reads reader) :=
      hpieces.trans hreceived.symm
    have hsize : (pieces.reverse.flatten.length : Int) ≤ largestFor limit (roomFor limit size) := by
      rw [hdata]
      exact hfits.data
    obtain ⟨w₃, p, front', stale', hclose, hpaused, htaken', -⟩ :=
      hfull.closeEntry hlimit hsize (hfits.packed _ hdata)
    cases hclose.symm.trans hlast.of_single
    exact ⟨handle, copying, rfl, htaken, hbuffered, hsettled, p, front', stale', hpaused, htaken'⟩

/-- A visit to a mild storage is settled, if the format can hold its photo. -/
theorem Visit.settles {v : Visit} {session : SessionId} {fault? : Option RoomFault}
    (hlimit : limit < Zip.fullField) (h : Paused method w plots front stale)
    (htakes : w.file.TakesAll) (hbuffered : v.IsBuffered fault?)
    (hroom : fault? = none)
    (hmild : ∀ call ∈ (v.footprint session).storageCalls, call.IsMild)
    (hfits : ∀ p ∈ v.photo?, p.FitsIn method limit)
    (hcalls : Leads (Zip.gateway file method limit).Answers
      (v.footprint session).writerCalls w w') :
    v.IsSettled ∧ ∃ (ps : List (Plot limit)) (front' stale' : Bytes),
      Paused method w' (plots ++ ps) front' stale' ∧ w'.file.TakesAll := by
  cases v with
  | missed reference e =>
    have hopen : e.IsBlobError := hmild _ List.mem_cons_self
    cases hcalls
    refine ⟨?_, [], front, stale, by simpa using h, htakes⟩
    constructor <;> simp [Visit.outcome, Visit.skip?, Visit.loss?, Visit.tally?, Visit.photo?,
      Visit.IsClosed, Visit.notes, Visit.name?, Note.isWritten, hopen]
  | opened reference blob name work closing =>
    have hopen : ∀ size, blob.size = some size → 0 ≤ size ∧ size < 2 ^ 64 :=
      hmild (.openBlob session reference.blobKey (.ok blob)) List.mem_cons_self
    obtain rfl : closing = .ok () :=
      hmild (.closeReader blob.reader closing) (List.mem_append_right _ List.mem_cons_self)
    have hreads : ∀ call ∈ work.reads blob.reader, call.IsMild := fun call hcall =>
      hmild call (List.mem_append_left _ (List.mem_cons_of_mem _ hcall))
    have hphoto := hfits _ rfl
    obtain ⟨handle, copying, rfl, htaken, hcopied, hsettled, p, front', stale', hpaused, htakes'⟩ :=
      EntryWork.settles hlimit h htakes hphoto.form ⟨hphoto.name, hopen⟩ hbuffered hroom hreads
        hphoto hcalls
    exact ⟨Visit.isSettled_of_copying htaken hcopied hsettled, [p], front', stale', hpaused, htakes'⟩

end Entry

/-- Visits to a mild storage are all settled, if the format can hold all photos. -/
theorem IsTour.settles (hlimit : limit < Zip.fullField) {references : List PhotoReference}
    {taken : List Path} {fault? : Option RoomFault} {visits : List Visit}
    (htour : IsTour references taken fault? visits)
    (hroom : fault? = none) {session : SessionId} {w w' : Writer}
    {plots : List (Plot limit)} {front stale : Bytes} (h : Paused method w plots front stale)
    (htakes : w.file.TakesAll)
    (hmild : ∀ call ∈ (footprint session visits).storageCalls, call.IsMild)
    (hfits : ∀ p ∈ visits.filterMap Visit.photo?, p.FitsIn method limit)
    (hcalls : Leads (Zip.gateway file method limit).Answers
      (footprint session visits).writerCalls w w') :
    outcome visits = .ok () ∧ (∀ v ∈ visits, v.IsSettled) ∧
      ∃ (plots' : List (Plot limit)) (front' stale' : Bytes),
        Paused method w' plots' front' stale' ∧ w'.file.TakesAll := by
  -- Along the visits: behind a settled one the writer is paused again, on a file that takes all.
  induction htour generalizing w plots front stale with
  | nil =>
    cases hcalls
    exact ⟨rfl, by simp, plots, front, stale, h, htakes⟩
  | @last _ _ _ _ v e _ _ hbuffered hv =>
    obtain ⟨w₁, hfirst, -⟩ := hcalls.of_append
    obtain ⟨hsettled, -⟩ := Visit.settles hlimit h htakes hbuffered hroom
      (fun call hcall => hmild call (List.mem_append_left _ hcall))
      (fun p hp => hfits p (List.mem_filterMap.2 ⟨v, List.mem_cons_self, hp⟩)) hfirst
    cases hv.symm.trans hsettled.outcome_eq
  | @cons _ _ _ _ v visits _ _ hbuffered hv _ ih =>
    obtain ⟨w₁, hfirst, hrest⟩ := hcalls.of_append
    obtain ⟨hsettled, ps, front₁, stale₁, hpaused, htakes₁⟩ :=
      Visit.settles hlimit h htakes hbuffered hroom
        (fun call hcall => hmild call (List.mem_append_left _ hcall))
        (fun p hp => hfits p (List.mem_filterMap.2 ⟨v, List.mem_cons_self, hp⟩)) hfirst
    have hfits' : ∀ p ∈ visits.filterMap Visit.photo?, p.FitsIn method limit := by
      intro p hp
      obtain ⟨u, hu, hup⟩ := List.mem_filterMap.1 hp
      exact hfits p (List.mem_filterMap.2 ⟨u, List.mem_cons_of_mem _ hu, hup⟩)
    obtain ⟨hok, hall, hend⟩ := ih hroom hpaused htakes₁
      (fun call hcall => hmild call (List.mem_append_right _ hcall)) hfits' hrest
    refine ⟨by rw [outcome, hv]; exact hok, ?_, hend⟩
    intro u hu
    rcases List.mem_cons.1 hu with rfl | hu
    · exact hsettled
    · exact hall u hu

/-! ## What settled visits leave behind -/

section Settled

variable {session : SessionId} {visits : List Visit} (hall : ∀ v ∈ visits, v.IsSettled)

include hall

theorem written_of_settled :
    (footprint session visits).notes.countP Note.isWritten
      = (visits.filterMap Visit.photo?).countP Photo.isComplete := by
  induction visits with
  | nil => rfl
  | cons v rest ih =>
    have hv : (v.footprint session).notes.countP Note.isWritten = _ :=
      (hall v List.mem_cons_self).counted
    have hrest := ih fun u hu => hall u (List.mem_cons_of_mem _ hu)
    rw [footprint, Footprint.notes_append, List.countP_append, hv, hrest, ← List.countP_append]
    cases hphoto : v.photo? <;> simp [hphoto]

theorem skips_of_settled : visits.filterMap Visit.skip? = visits.filterMap Visit.loss? :=
  List.filterMap_congr fun v hv => (hall v hv).skip_eq

theorem tallies_of_settled :
    visits.filterMap Visit.tally? = (visits.filterMap Visit.photo?).map Photo.tally := by
  rw [List.map_filterMap]
  exact List.filterMap_congr fun v hv => (hall v hv).tally_eq

/-- An archive that was completed behind settled visits holds their photos. -/
theorem exists_entries {w₁ writer : Writer} {archive : ArchiveFile}
    (hlimit : limit < Zip.fullField) (hopen : file.isClosed = false) (hempty : file.content = [])
    (hentries : Leads (Zip.gateway file method limit).Answers
      (footprint session visits).writerCalls (.new file method limit) w₁)
    (hend : w₁.complete = (.ok archive, writer)) :
    ∃ (bytes : Bytes) (entries : List Zip.StoredEntry),
      (File.readAll.run archive.file).1 = .ok bytes ∧ Zip.entries? bytes = some entries ∧
      entries.map (fun e => (e.name, e.data))
        = (visits.filterMap Visit.photo?).map fun p => (p.name.value, p.data) := by
  obtain ⟨plots, front, directory, pieces, stale, hcompleted⟩ :=
    exists_isCompleted hopen hempty hentries hend
  have htallies := hcompleted.tallies.trans (tallies_of_settled hall)
  obtain rfl : stale = [] := hcompleted.clean fun v hv =>
    Visit.isTidy_of_outcome (hall v hv).outcome_eq (.inr (hall v hv).isClosed)
  have hwhole : ∀ p ∈ plots, p.isWhole = true := by
    intro p hp
    have htally := List.mem_map_of_mem (f := Plot.tally) hp
    rw [htallies] at htally
    obtain ⟨photo, -, hphoto⟩ := List.mem_map.1 htally
    exact (congrArg Tally.isWhole hphoto).symm
  have hbytes := File.run_readAll hcompleted.finished.isOpen
  have hread := hcompleted.finished.entries? hlimit hcompleted.sown hwhole
  rw [hcompleted.finished.content, List.append_nil] at hbytes
  refine ⟨_, _, hbytes, hread, ?_⟩
  have hpairs := congrArg (List.map fun t : Tally => (t.name, t.data)) htallies
  rw [List.map_map, List.map_map] at hpairs
  rw [List.map_map]
  exact hpairs

end Settled

/-! ## Assemblies -/

/-- Suppose an object store fails for single objects only, the file takes all writes, and the format
can hold all photos. Then an assembly gives a result exactly when only the service fails where an
object is asked for; and if it does, each failure is one record, and all other photos are in the
archive as a whole. -/
theorem assemble_confined {χ : Type} {store : ObjectStore χ} {bucket : Bucket}
    {references : List PhotoReference} {w : Workshop (Bucket.State χ) Writer}
    (hlimit : limit < Zip.fullField) (hfile : file.TakesAll) (hempty : file.content = [])
    (hroom : w.pool.roomFault? = none)
    (hconfined : ∀ call ∈ ((assemble (Bucket.source store.recorded bucket)
      (Zip.gateway file method limit) references).run w.recordingStore).2.storage.store.calls,
        call.IsConfined) :
    ∃ (outcome : Except Failure ExportResult)
      (w' : Workshop (Bucket.State (Recorded χ StoreCall)) Writer) (client : ClientId)
      (visited : List PhotoReference) (calls : List StoreCall) (photos : List Photo)
      (losses : List SkipRecord),
      (assemble (Bucket.source store.recorded bucket) (Zip.gateway file method limit)
        references).run w.recordingStore = (outcome, w') ∧
      (assemble (Bucket.source store bucket) (Zip.gateway file method limit) references).run w
        = (outcome, w'.forgetStore) ∧
      w'.storage.store.calls = .enter bucket.endpoint (.ok client) ::
        .headBucket client bucket.name (.ok ()) :: calls ++ [.exit client] ∧
      Fetched client bucket.name [] visited calls photos losses ∧ visited <+: references ∧
      ((∀ p ∈ photos, p.FitsIn method limit) →
        (∀ writer, w'.writer = some writer → writer.file.content.length < 2 ^ 64) →
        ((∃ result, outcome = .ok result) ↔ ∀ call ∈ calls, call.IsTold) ∧
          ∀ result, outcome = .ok result →
            visited = references ∧ result.written = photos.countP Photo.isComplete ∧
            result.skips = w.ledger.records ++ losses ∧
            result.written + losses.length = references.length ∧
            ∃ (bytes : Bytes) (entries : List Zip.StoredEntry),
              (File.readAll.run result.archive.file).1 = .ok bytes ∧
              Zip.entries? bytes = some entries ∧
              entries.map (fun e => (e.name, e.data))
                = photos.map fun p => (p.name.value, p.data)) := by
  obtain ⟨outcome, w', hrun, hplain, hcase⟩ :=
    assemble_recordedStore store bucket (Zip.gateway file method limit) references w
  rw [hrun] at hconfined
  rcases hcase with ⟨e, hcalls⟩ | ⟨client, e, hcalls⟩ | ⟨_, _, hnone, -⟩ |
    ⟨s, start, client, calls, hstart, hresult, htour, hfollows, hclosing, hfetched, hcalls, hmarks⟩
  · have hentered : (StoreCall.enter bucket.endpoint (.error e)).IsConfined :=
      hconfined _ (by rw [hcalls]; simp)
    cases hentered
  · have hasked : (StoreCall.headBucket client bucket.name (.error e)).IsConfined :=
      hconfined _ (by rw [hcalls]; simp)
    cases hasked
  · cases hnone
  cases hstart
  refine ⟨outcome, w', client, _, calls, _, _, hrun, hplain, hcalls, htour.fetched hfetched,
    htour.prefix, ?_⟩
  intro hfits hlength
  have hconfined : ∀ call ∈ calls, call.IsConfined := fun call hcall =>
    hconfined call (by rw [hcalls]; simp [hcall])
  obtain ⟨writer, hwriter, hwrites⟩ := hmarks.writer
  obtain ⟨w₁, hentries, hlast⟩ := hwrites.of_append
  have hnew : Paused method (.new file method limit) ([] : List (Plot limit)) [] [] :=
    Writer.new_paused hfile.isOpen hempty
  have hsettles (htold : ∀ call ∈ calls, call.IsTold) :=
    htour.settles hlimit hroom hnew hfile (hfetched.isMild hconfined htold s.id) hfits hentries
  have htold_of (result : ExportResult) (hok : outcome = .ok result) :
      ∀ call ∈ calls, call.IsTold :=
    hfetched.isTold hconfined (Session.of_result (hresult.symm.trans hok) hfollows).1
  refine ⟨⟨fun ⟨result, hok⟩ => htold_of result hok, ?_⟩, ?_⟩
  · intro htold
    obtain ⟨hvisits, -, plots, front, stale, hpaused, htakes⟩ := hsettles htold
    have hfresh := Zip.isFresh_of_leads hentries rfl fun _ => not_isEnd_of_mem
    rw [hvisits] at hfollows
    rw [hresult, Session.result, Session.outcome, hclosing]
    cases hending : s.ending with
    | discarded e answer =>
      rw [hending] at hfollows
      cases hfollows
    | finalized answer =>
      rw [hending] at hlast
      obtain ⟨archive, rfl⟩ := hpaused.completes hlimit htakes hfresh hlast.of_single
        (hlength writer hwriter)
      exact ⟨_, rfl⟩
  · intro result hok
    obtain ⟨hvisits, hall, -⟩ := hsettles (htold_of result hok)
    obtain ⟨-, hending, -, hwritten, hskips⟩ :=
      Session.of_result (hresult.symm.trans hok) hfollows
    have hvisited := htour.complete hvisits
    have hend : w₁.complete = (.ok result.archive, writer) := by
      have hanswer := hlast.of_single
      rw [hending] at hanswer
      exact hanswer
    refine ⟨hvisited, hwritten.trans (written_of_settled hall), ?_, ?_, ?_⟩
    · rw [hskips, hmarks.records, skips_footprint, skips_of_settled hall]
      rfl
    · have hcount := count_none_add (s.visits.map Visit.skip?)
      rw [List.filterMap_map, Function.id_comp, skips_of_settled hall, List.length_map] at hcount
      rw [hwritten, written_footprint hvisits, hcount, ← hvisited, List.length_map]
    · exact exists_entries hall hlimit hfile.isOpen hempty hentries hend

/-! ## A store that fails for two objects -/

section Sizes

variable {client : ClientId} {bucket : String} {taken : List Path}
  {references : List PhotoReference} {calls : List StoreCall} {photos : List Photo}
  {losses : List SkipRecord}

/-- Where all names are different, photos have the names of their references. -/
theorem Fetched.name_mem (h : Fetched client bucket taken references calls photos losses)
    (hnodup : (references.map PhotoReference.entryName ++ taken).Nodup) :
    ∀ p ∈ photos, p.name ∈ references.map PhotoReference.entryName := by
  induction h with
  | nil => simp
  | missed _ ih =>
    intro p hp
    exact List.mem_cons_of_mem _ (ih (List.nodup_cons.1 hnodup).2 p hp)
  | @opened taken reference rest _ name _ _ _ _ _ hname _ _ ih =>
    obtain ⟨hnew, hrest⟩ := List.nodup_cons.1 hnodup
    have hfree : uniqueName reference.entryName taken = .ok reference.entryName :=
      if_neg fun hmem => hnew (List.mem_append_right _ hmem)
    cases hname.symm.trans hfree
    have hnext : (rest.map PhotoReference.entryName ++ reference.entryName :: taken).Nodup :=
      List.perm_middle.nodup_iff.2 hnodup
    intro p hp
    rcases List.mem_cons.1 hp with rfl | hp
    · exact List.mem_cons_self
    · exact List.mem_cons_of_mem _ (ih hnext p hp)

/-- No photo is longer than all that is delivered. -/
theorem Fetched.length_data_le (h : Fetched client bucket taken references calls photos losses) :
    ∀ p ∈ photos, p.data.length ≤ (delivered calls).length := by
  induction h with
  | nil => simp
  | missed _ ih => exact ih
  | @opened _ reference _ object _ reads calls closing _ _ _ _ _ ih =>
    have hsplit : delivered (.getObject client bucket reference.blobKey.value (.ok object) :: reads
        ++ .closeBody object.body closing :: calls) = delivered reads ++ delivered calls := by
      simp [delivered]
    intro p hp
    rw [hsplit, List.length_append]
    rcases List.mem_cons.1 hp with rfl | hp
    · exact Nat.le_add_right _ _
    · exact Nat.le_trans (ih p hp) (Nat.le_add_left _ _)

end Sizes

/-- Three photos with different names. -/
def threeReferences : List PhotoReference :=
  [⟨⟨"q/a.jpg", by decide⟩, ⟨"photos/q/a.jpg", by decide⟩, "q", by decide, by decide⟩,
    ⟨⟨"q/b.jpg", by decide⟩, ⟨"photos/q/b.jpg", by decide⟩, "q", by decide, by decide⟩,
    ⟨⟨"q/c.jpg", by decide⟩, ⟨"photos/q/c.jpg", by decide⟩, "q", by decide, by decide⟩]

/-- A workshop on a store with an object that arrives as a whole, one that is asked for in vain and
one whose body is not delivered to its end. -/
def storeWorkshop (fault : Failure) : Workshop (Bucket.State ScriptedStore) Writer where
  storage :=
    { store :=
        { script :=
            { objects :=
                [("photos/q/a.jpg", { delivery := { rest := [1, 2, 3, 4, 5, 6] }, length := some 6 }),
                  ("photos/q/b.jpg", { delivery := { rest := [] }, length := none, getFault := some fault }),
                  ("photos/q/c.jpg",
                    { delivery := { rest := [7, 8, 9], fault := some (2, .payload "lost") }
                      length := none })] } } }
  pool := { bufferSize := 6, bufferSize_pos := by decide, maxRetained := 1 }
  ledger := { company := "c" }

theorem assemble_confined_sample :
    ∃ (result : ExportResult) (w' : Workshop (Bucket.State ScriptedStore) Writer) (bytes : Bytes)
      (entries : List Zip.StoredEntry),
      (assemble (Bucket.source ScriptedStore.store ⟨"localhost", "photos"⟩)
        (Zip.gateway {} .stored Zip.standardLimit) threeReferences).run
          (storeWorkshop (.service .noSuchKey)) = (.ok result, w') ∧
      result.written + result.skips.length = 3 ∧
      (File.readAll.run result.archive.file).1 = .ok bytes ∧ Zip.entries? bytes = some entries := by
  obtain ⟨outcome, w', client, visited, calls, photos, losses, hrun, hplain, hcalls, hfetched,
    hvisited, hends⟩ :=
    @assemble_confined Zip.standardLimit {} .stored ScriptedStore ScriptedStore.store
      ⟨"localhost", "photos"⟩ threeReferences (storeWorkshop (.service .noSuchKey))
      (by decide) ⟨rfl, fun _ _ _ => rfl⟩ rfl (by decide) (by decide +kernel)
  have hdelivered : (delivered ((assemble (Bucket.source ScriptedStore.store.recorded
      ⟨"localhost", "photos"⟩) (Zip.gateway {} .stored Zip.standardLimit) threeReferences).run
        (storeWorkshop (.service .noSuchKey)).recordingStore).2.storage.store.calls).length ≤ 8 := by
    decide +kernel
  have htold : ∀ call ∈ ((assemble (Bucket.source ScriptedStore.store.recorded
      ⟨"localhost", "photos"⟩) (Zip.gateway {} .stored Zip.standardLimit) threeReferences).run
        (storeWorkshop (.service .noSuchKey)).recordingStore).2.storage.store.calls,
          call.IsTold := by
    decide +kernel
  have hlength : ∀ writer ∈ ((assemble (Bucket.source ScriptedStore.store ⟨"localhost", "photos"⟩)
      (Zip.gateway {} .stored Zip.standardLimit) threeReferences).run
        (storeWorkshop (.service .noSuchKey))).2.writer, writer.file.content.length < 2 ^ 64 := by
    decide +kernel
  rw [hrun, hcalls] at hdelivered htold
  rw [hplain] at hlength
  -- The names of the photos are those of the references, and their data are what was delivered.
  have hnames : ∀ name ∈ threeReferences.map PhotoReference.entryName,
      (Text.utf8? name.value).isSome = true ∧ (Text.utf8 name.value).length < 2 ^ 16 := by
    decide +kernel
  have hnodup : (visited.map PhotoReference.entryName ++ []).Nodup := by
    rw [List.append_nil]
    exact (hvisited.sublist.map _).nodup (by decide)
  have hfits : ∀ p ∈ photos, p.FitsIn .stored Zip.standardLimit := by
    intro p hp
    have hdata : p.data.length ≤ 8 := by
      refine Nat.le_trans (hfetched.length_data_le p hp) (Nat.le_trans ?_ hdelivered)
      simp [delivered]
    have hname := hnames p.name ((hvisited.sublist.map _).subset (hfetched.name_mem hnodup p hp))
    refine Photo.fitsIn_stored (by decide) hname.1 hname.2 ?_
    · unfold Zip.standardLimit
      omega
  obtain ⟨hresult, hkept⟩ := hends hfits hlength
  obtain ⟨result, rfl⟩ := hresult.2 fun call hcall => htold call (by simp [hcall])
  obtain ⟨-, -, hskips, hcount, bytes, entries, hread, hentries, -⟩ := hkept result rfl
  refine ⟨result, _, bytes, entries, hplain, ?_, hread, hentries⟩
  rw [hskips]
  exact hcount

/-- A transfer that fails where an object is asked for ends an assembly with another object. -/
theorem not_forall_confined :
    ¬ ∀ (references : List PhotoReference)
      (w : Workshop (Bucket.State ScriptedStore) Writer),
      w.pool.roomFault? = none →
      (∀ call ∈ ((assemble (Bucket.source ScriptedStore.store.recorded ⟨"localhost", "photos"⟩)
        (Zip.gateway {} .stored Zip.standardLimit) references).run
          w.recordingStore).2.storage.store.calls, call.IsConfined) →
      ((assemble (Bucket.source ScriptedStore.store ⟨"localhost", "photos"⟩)
        (Zip.gateway {} .stored Zip.standardLimit) references).run w).1.isOk = true := by
  intro h
  have hok := h threeReferences (storeWorkshop (.payload "lost")) (by decide) (by decide +kernel)
  revert hok
  decide +kernel

end Assembly

end PhotoArchive
