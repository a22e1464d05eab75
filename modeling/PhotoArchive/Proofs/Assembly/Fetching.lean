import Mathlib.Data.List.Forall2
import PhotoArchive.Proofs.Assembly.Release
import PhotoArchive.Proofs.Storage.StoreCalls
import PhotoArchive.Zip.Gateway

/-!
# Photos from an object store

An assembly over a bucket calls the object store below it. It enters one client, asks for the bucket,
and then fetches the objects of its references one after the other: it asks for an object, reads its
body, and closes the body before it asks for the next one. At the end it exits the client.

## Main definitions

- `Workshop.recordingStore` — a workshop whose object store keeps its calls from now on
- `Visit.IsFetched` — the calls to the object store behind a visit
- `Fetched` — calls that fetch objects one after the other, the photos that they deliver and the
  records of the photos that they fail to deliver
- `Contact` — all calls of an assembly to an object store

## Main statements

- `assemble_recordedStore` — what an assembly leaves behind, with the calls to the object store
- `assemble_exits` — a client that was entered is exited once, unless asking for the bucket fails in
  another way than reaching it

## Design notes

One failure leaves a client entered: if asking for the bucket fails, but not in reaching it, there is
no session yet that would exit the client when it is closed.
-/

namespace PhotoArchive

open PhotoArchive.Action

variable {χ τ : Type}

/-! ## Workshops -/

namespace Workshop

/-- A workshop without the calls to its object store. -/
def forgetStore (w : Workshop (Bucket.State (Recorded χ StoreCall)) τ) :
    Workshop (Bucket.State χ) τ :=
  { storage := w.storage.forget, pool := w.pool, ledger := w.ledger, log := w.log
    writer := w.writer }

/-- A workshop whose object store keeps its calls from now on. -/
def recordingStore (w : Workshop (Bucket.State χ) τ) :
    Workshop (Bucket.State (Recorded χ StoreCall)) τ :=
  { storage := w.storage.recording, pool := w.pool, ledger := w.ledger, log := w.log
    writer := w.writer }

@[simp] theorem forgetStore_recordingStore (w : Workshop (Bucket.State χ) τ) :
    w.recordingStore.forgetStore = w := rfl

theorem alike_iff_forgetStore {w : Workshop (Bucket.State (Recorded χ StoreCall)) τ}
    {w' : Workshop (Bucket.State χ) τ} :
    w.Alike Bucket.State.Forgets Eq w' ↔ w.forgetStore = w' := by
  constructor
  · rintro ⟨rfl, hwriter⟩
    cases hwriter with
    | some h => cases h; rfl
    | none => rfl
  · rintro rfl
    obtain ⟨storage, pool, ledger, log, writer⟩ := w
    cases writer with
    | some writer => exact .intro rfl (.some rfl)
    | none => exact .intro rfl .none

end Workshop

/-! ## Reading a body -/

namespace Bucket

/-- A reader passes a read on to the body of its object. -/
inductive Passes (key : String) (reader : ReaderId) (body : BodyId) :
    StorageCall → StoreCall → Prop
  | read (room : Nat) (answer : Except Failure Bytes) :
    Passes key reader body (.read reader room (readAnswer key answer)) (.readBody body room answer)

/-- Reads are passed on one by one. -/
theorem State.Reads.passes {store : ObjectStore χ} {bucket : Bucket}
    {s s' : State (Recorded χ StoreCall)} {session : SessionId} {client : ClientId}
    {reader : ReaderId} {key : String} {body : BodyId} {reads : List StorageCall}
    (h : s.Reads session client reader key body)
    (hreads : ∀ call ∈ reads, ∃ room answer, call = .read reader room answer)
    (hleads : Leads (source store.recorded bucket).Answers reads s s') :
    ∃ calls, List.Forall₂ (Passes key reader body) reads calls ∧
      s'.store.calls = s.store.calls ++ calls ∧ s'.Reads session client reader key body := by
  induction hleads with
  | nil s => exact ⟨[], .nil, by simp, h⟩
  | cons hcall _ ih =>
    obtain ⟨room, answer, rfl⟩ := hreads _ List.mem_cons_self
    obtain ⟨answer', rfl, hfirst, hnext⟩ := h.read hcall
    obtain ⟨calls, hpasses, hrest, hend⟩ := ih hnext fun call hmem =>
      hreads call (List.mem_cons_of_mem _ hmem)
    refine ⟨.readBody body room answer' :: calls, .cons (.read room answer') hpasses, ?_, hend⟩
    rw [hrest, hfirst, List.append_assoc, List.singleton_append]

end Bucket

namespace Assembly

open Bucket (openFailure transferFailure readAnswer IsReachFailure Passes)

/-- All bytes that bodies have delivered, in their order. -/
def delivered (calls : List StoreCall) : Bytes :=
  calls.flatMap fun
    | .readBody _ _ (.ok data) => data
    | _ => []

/-- Whether a body has come to its end. -/
def isDelivered (calls : List StoreCall) : Bool :=
  calls.any fun
    | .readBody _ _ (.ok []) => true
    | _ => false

/-- The first failure in reading a body. -/
def bodyFailure? (calls : List StoreCall) : Option Failure :=
  calls.findSome? fun
    | .readBody _ _ (.error e) => some e
    | _ => none

/-- The first failure in reading a blob. -/
def readFailure? (calls : List StorageCall) : Option Failure :=
  calls.findSome? fun
    | .read _ _ (.error e) => some e
    | _ => none

section Passes

variable {key : String} {reader : ReaderId} {body : BodyId} {reads : List StorageCall}
  {calls : List StoreCall}

theorem received_of_passes (h : List.Forall₂ (Passes key reader body) reads calls) :
    received reads = delivered calls := by
  induction h with
  | nil => rfl
  | cons hcall _ ih =>
    obtain ⟨room, answer⟩ := hcall
    have hrest : received _ = delivered _ := ih
    cases answer <;> simp_all [received, delivered, readAnswer, Except.mapError]

theorem reachesEnd_of_passes (h : List.Forall₂ (Passes key reader body) reads calls) :
    reachesEnd reads = isDelivered calls := by
  induction h with
  | nil => rfl
  | cons hcall _ ih =>
    obtain ⟨room, answer⟩ := hcall
    have hrest : reachesEnd _ = isDelivered _ := ih
    rcases answer with e | _ | ⟨byte, bytes⟩ <;>
      simp_all [reachesEnd, isDelivered, readAnswer, Except.mapError]

theorem readFailure?_of_passes (h : List.Forall₂ (Passes key reader body) reads calls) :
    readFailure? reads = (bodyFailure? calls).map (transferFailure key) := by
  induction h with
  | nil => rfl
  | cons hcall _ ih =>
    obtain ⟨room, answer⟩ := hcall
    have hrest : readFailure? _ = _ := ih
    cases answer <;> simp_all [readFailure?, bodyFailure?, readAnswer, Except.mapError]

end Passes

/-! ## Visits -/

/-- The calls to an object store behind a visit. -/
inductive Visit.IsFetched (client : ClientId) (bucket : String) : Visit → List StoreCall → Prop
  | missed (reference : PhotoReference) (e : Failure) :
    IsFetched client bucket (.missed reference (openFailure reference.blobKey.value e))
      [.getObject client bucket reference.blobKey.value (.error e)]
  | opened {reference : PhotoReference} {reader : ReaderId} {object : ObjectBody} {name : Path}
      {work : EntryWork} {closing : Except Failure Unit} {reads : List StoreCall} :
    List.Forall₂ (Passes reference.blobKey.value reader object.body) (work.reads reader) reads →
    IsFetched client bucket
      (.opened reference { reader, size := object.length } name work closing)
      (.getObject client bucket reference.blobKey.value (.ok object) :: reads
        ++ [.closeBody object.body closing])

/-- The calls to an object store behind visits in a row. -/
inductive AreFetched (client : ClientId) (bucket : String) : List Visit → List StoreCall → Prop
  | nil : AreFetched client bucket [] []
  | cons {v : Visit} {visits : List Visit} {calls rest : List StoreCall} :
    v.IsFetched client bucket calls → AreFetched client bucket visits rest →
    AreFetched client bucket (v :: visits) (calls ++ rest)

section Sessions

variable {store : ObjectStore χ} {bucket : Bucket}
  {s s' : Bucket.State (Recorded χ StoreCall)} {session : SessionId} {client : ClientId}

theorem Visit.fetched {v : Visit} (h : s.Serves session client)
    (hcalls : Leads (Bucket.source store.recorded bucket).Answers
      (v.footprint session).storageCalls s s') :
    ∃ calls, v.IsFetched client bucket.name calls ∧ s'.store.calls = s.store.calls ++ calls ∧
      s'.Serves session client := by
  cases v with
  | missed reference e =>
    obtain ⟨e', he, hstore, hserves⟩ | ⟨_, _, hopened, -⟩ := h.openBlob hcalls.of_single
    · cases he
      exact ⟨_, .missed reference e', hstore, hserves⟩
    · cases hopened
  | opened reference blob name work closing =>
    obtain ⟨s₂, hfilled, hlast⟩ := hcalls.of_append
    obtain _ | ⟨hopen, hreads⟩ := hfilled
    obtain ⟨_, he, -⟩ | ⟨reader, object, hblob, hfirst, hopened⟩ := h.openBlob hopen
    · cases he
    cases hblob
    obtain ⟨reads, hpasses, hmiddle, hread⟩ :=
      hopened.passes (fun _ => EntryWork.mem_reads) hreads
    obtain ⟨hclose, hserves⟩ := hread.closeReader hlast.of_single
    refine ⟨_, .opened hpasses, ?_, hserves⟩
    rw [hclose, hmiddle, hfirst]
    simp

/-- Visits in a session use the client of the session. -/
theorem footprint_fetched {visits : List Visit} (h : s.Serves session client)
    (hcalls : Leads (Bucket.source store.recorded bucket).Answers
      (footprint session visits).storageCalls s s') :
    ∃ calls, AreFetched client bucket.name visits calls ∧
      s'.store.calls = s.store.calls ++ calls ∧ s'.Serves session client := by
  induction visits generalizing s with
  | nil =>
    cases hcalls
    exact ⟨[], .nil, by simp, h⟩
  | cons v rest ih =>
    obtain ⟨m, hfirst, hrest⟩ := hcalls.of_append
    obtain ⟨calls, hfetched, hstore, hserves⟩ := Visit.fetched h hfirst
    obtain ⟨calls', hfetched', hstore', hend⟩ := ih hserves hrest
    refine ⟨calls ++ calls', .cons hfetched hfetched', ?_, hend⟩
    rw [hstore', hstore, List.append_assoc]

/-- A session makes two calls before its visits and one behind them. -/
theorem fetched_of_leads {session : SessionId} {visits : List Visit}
    {closing : Except Failure Unit}
    (hcalls : Leads (Bucket.source store.recorded bucket).Answers
      (.newSession (.ok session) :: (footprint session visits).storageCalls
        ++ [.closeSession session closing]) s s') :
    ∃ client calls, AreFetched client bucket.name visits calls ∧ closing = .ok () ∧
      s'.store.calls = s.store.calls ++ (.enter bucket.endpoint (.ok client) ::
        .headBucket client bucket.name (.ok ()) :: calls ++ [.exit client]) := by
  obtain ⟨s₂, hfilled, hlast⟩ := hcalls.of_append
  obtain _ | ⟨hnew, hvisits⟩ := hfilled
  obtain ⟨_, he, -⟩ | ⟨_, _, he, -⟩ | ⟨client, _, hid, hfirst, hserves⟩ :=
    Bucket.newSession_calls hnew
  · cases he
  · cases he
  cases hid
  obtain ⟨calls, hfetched, hmiddle, hend⟩ := footprint_fetched hserves hvisits
  obtain ⟨hclosing, hexit⟩ := hend.closeSession hlast.of_single
  refine ⟨client, calls, hfetched, hclosing, ?_⟩
  rw [hexit, hmiddle, hfirst]
  simp

end Sessions

/-! ## Objects in order -/

/-- The record of a photo that a storage does not deliver to its end. -/
def Visit.loss? : Visit → Option SkipRecord
  | missed reference e =>
    some { entryName := reference.entryName.value, reason := .openFailed, detail := e.message }
  | opened _ blob name work _ =>
    (readFailure? (work.reads blob.reader)).map fun e =>
      { entryName := name.value, reason := .copyFailed, detail := e.message }

/-- Calls of a client that fetch the objects of references from a bucket in their order, given the
names that are taken, with the photos that are delivered and the records of those that are not
delivered to their end. Between asking for an object and closing its body, which happens once, there
are only reads from that body. -/
inductive Fetched (client : ClientId) (bucket : String) :
    List Path → List PhotoReference → List StoreCall → List Photo → List SkipRecord → Prop
  | nil (taken : List Path) : Fetched client bucket taken [] [] [] []
  | missed {taken : List Path} {reference : PhotoReference} {rest : List PhotoReference}
      {e : Failure} {calls : List StoreCall} {photos : List Photo} {losses : List SkipRecord} :
      Fetched client bucket taken rest calls photos losses →
      Fetched client bucket taken (reference :: rest)
        (.getObject client bucket reference.blobKey.value (.error e) :: calls) photos
        ({ entryName := reference.entryName.value, reason := .openFailed
           detail := (openFailure reference.blobKey.value e).message } :: losses)
  | opened {taken : List Path} {reference : PhotoReference} {rest : List PhotoReference}
      {object : ObjectBody} {name : Path} {reads calls : List StoreCall}
      {closing : Except Failure Unit} {photos : List Photo} {losses : List SkipRecord} :
      uniqueName reference.entryName taken = .ok name →
      (∀ call ∈ reads, ∃ room answer, call = .readBody object.body room answer) →
      Fetched client bucket (name :: taken) rest calls photos losses →
      Fetched client bucket taken (reference :: rest)
        (.getObject client bucket reference.blobKey.value (.ok object) :: reads
          ++ .closeBody object.body closing :: calls)
        ({ name, declared := object.length, data := delivered reads
           isComplete := isDelivered reads } :: photos)
        (((bodyFailure? reads).map fun e =>
          { entryName := name.value, reason := .copyFailed
            detail := (transferFailure reference.blobKey.value e).message }).toList ++ losses)

theorem mem_of_passes {key : String} {reader : ReaderId} {body : BodyId}
    {reads : List StorageCall} {calls : List StoreCall}
    (h : List.Forall₂ (Passes key reader body) reads calls) :
    ∀ call ∈ calls, ∃ room answer, call = .readBody body room answer := by
  induction h with
  | nil => simp
  | cons hcall _ ih =>
    obtain ⟨room, answer⟩ := hcall
    rintro call (_ | ⟨_, hmem⟩)
    · exact ⟨room, answer, rfl⟩
    · exact ih call hmem

theorem Fetched.of_visit {client : ClientId} {bucket : String} {taken : List Path} {v : Visit}
    {rest : List PhotoReference} {calls calls' : List StoreCall} {photos : List Photo}
    {losses : List SkipRecord} (hnamed : v.IsNamed taken) (hv : v.IsFetched client bucket calls)
    (h : Fetched client bucket (v.name?.toList ++ taken) rest calls' photos losses) :
    Fetched client bucket taken (v.reference :: rest) (calls ++ calls')
      (v.photo?.toList ++ photos) (v.loss?.toList ++ losses) := by
  cases hv with
  | missed reference e => exact .missed h
  | @opened reference reader object name work closing reads hpasses =>
    have hopened := @Fetched.opened client bucket taken reference rest object name reads calls'
      closing photos losses hnamed (mem_of_passes hpasses) h
    rw [← received_of_passes hpasses, ← reachesEnd_of_passes hpasses] at hopened
    simpa [Visit.reference, Visit.photo?, Visit.loss?, readFailure?_of_passes hpasses,
      Function.comp_def] using hopened

/-- Visits fetch the objects of their references. -/
theorem IsTour.fetched {references : List PhotoReference} {taken : List Path}
    {fault? : Option RoomFault} {visits : List Visit} (htour : IsTour references taken fault? visits) {client : ClientId}
    {bucket : String} {calls : List StoreCall} (h : AreFetched client bucket visits calls) :
    Fetched client bucket taken (visits.map Visit.reference) calls
      (visits.filterMap Visit.photo?) (visits.filterMap Visit.loss?) := by
  induction htour generalizing calls with
  | nil taken =>
    cases h
    exact .nil taken
  | @last reference rest taken _ v e hreference hnamed _ hv =>
    obtain _ | ⟨hfirst, hrest⟩ := h
    cases hrest
    have hlast := Fetched.of_visit hnamed hfirst (.nil _)
    cases hphoto : v.photo? <;> cases hloss : v.loss? <;> simpa [hphoto, hloss] using hlast
  | @cons reference rest taken _ v visits hreference hnamed _ hv _ ih =>
    obtain _ | ⟨hfirst, hrest⟩ := h
    have hall := Fetched.of_visit hnamed hfirst (ih hrest)
    cases hphoto : v.photo? <;> cases hloss : v.loss? <;> simpa [hphoto, hloss] using hall

/-! ## Clients -/

variable {client : ClientId}

theorem Fetched.isOnObject {bucket : String} {taken : List Path}
    {references : List PhotoReference} {calls : List StoreCall} {photos : List Photo}
    {losses : List SkipRecord} (h : Fetched client bucket taken references calls photos losses) :
    ∀ call ∈ calls, call.IsOnObject := by
  induction h with
  | nil => simp
  | missed _ ih =>
    rintro call (_ | ⟨_, hmem⟩)
    · trivial
    · exact ih call hmem
  | opened _ hreads _ ih =>
    intro call hmem
    simp only [List.cons_append, List.mem_cons, List.mem_append] at hmem
    rcases hmem with rfl | hmem | rfl | hmem
    · trivial
    · obtain ⟨room, answer, rfl⟩ := hreads call hmem
      trivial
    · trivial
    · exact ih call hmem

/-- All calls of an assembly to an object store: there is no client, the bucket is refused, or the
objects of some references are fetched before the client is exited. -/
inductive Contact (bucket : Bucket) (references : List PhotoReference) : List StoreCall → Prop
  | unentered (e : Failure) : Contact bucket references [.enter bucket.endpoint (.error e)]
  | refused (client : ClientId) (e : Failure) :
    Contact bucket references
      (.enter bucket.endpoint (.ok client) :: .headBucket client bucket.name (.error e) ::
        if IsReachFailure e then [.exit client] else [])
  | served {client : ClientId} {visited : List PhotoReference} {calls : List StoreCall}
      {photos : List Photo} {losses : List SkipRecord} :
    Fetched client bucket.name [] visited calls photos losses → visited <+: references →
    Contact bucket references
      (.enter bucket.endpoint (.ok client) :: .headBucket client bucket.name (.ok ()) ::
        calls ++ [.exit client])

/-- At most one client is entered, and if it is not exited once then asking for the bucket failed in
another way than reaching it. -/
theorem Contact.exits {bucket : Bucket} {references : List PhotoReference}
    {calls : List StoreCall} (h : Contact bucket references calls) :
    (calls.filterMap StoreCall.entered?).length ≤ 1 ∧
      (calls.filterMap StoreCall.exited? = calls.filterMap StoreCall.entered? ↔
        ∀ client name e, .headBucket client name (.error e) ∈ calls → IsReachFailure e) := by
  cases h with
  | unentered e => simp [List.filterMap_cons, StoreCall.entered?, StoreCall.exited?]
  | refused client e =>
    by_cases hreach : IsReachFailure e
    · have hall (client' : ClientId) (name : String) (e' : Failure) :
          client' = client → name = bucket.name → e' = e → IsReachFailure e' := by
        rintro - - rfl
        exact hreach
      simpa [hreach, List.filterMap_cons, StoreCall.entered?, StoreCall.exited?] using hall
    · simp [hreach, List.filterMap_cons, StoreCall.entered?, StoreCall.exited?]
  | @served client visited calls photos losses hfetched _ =>
    have hobjects := hfetched.isOnObject
    obtain ⟨hentered, hexited⟩ := StoreCall.filterMap_of_isOnObject hobjects
    have hhead (client' : ClientId) (name : String) (e : Failure) :
        .headBucket client' name (.error e) ∉ calls := fun hmem => hobjects _ hmem
    simp [hentered, hexited, hhead, List.filterMap_cons, StoreCall.entered?, StoreCall.exited?]

/-! ## Assemblies over a bucket -/

/-- An assembly does the same with and without the calls to its object store being kept. -/
theorem assemble_follows_store (store : ObjectStore χ) (bucket : Bucket)
    (gateway : ArchiveGateway τ) (references : List PhotoReference) :
    Follows Workshop.forgetStore
      (assemble (Bucket.source store.recorded bucket) gateway references)
      (assemble (Bucket.source store bucket) gateway references) :=
  (assemble_keep (Bucket.recordedAgreement store bucket) (.refl gateway)
    fun _ _ => trivial).follows fun _ _ => Workshop.alike_iff_forgetStore

/-- An assembly over a bucket is refused a session, or it has one without a writer, or it fetches
objects in one. -/
theorem assemble_recordedStore (store : ObjectStore χ) (bucket : Bucket)
    (gateway : ArchiveGateway τ) (references : List PhotoReference)
    (w : Workshop (Bucket.State χ) τ) :
    ∃ (outcome : Except Failure ExportResult)
      (w' : Workshop (Bucket.State (Recorded χ StoreCall)) τ),
      (assemble (Bucket.source store.recorded bucket) gateway references).run w.recordingStore
        = (outcome, w') ∧
      (assemble (Bucket.source store bucket) gateway references).run w
        = (outcome, w'.forgetStore) ∧
      ((∃ e, w'.storage.store.calls = [.enter bucket.endpoint (.error e)]) ∨
        (∃ client e, w'.storage.store.calls = .enter bucket.endpoint (.ok client) ::
          .headBucket client bucket.name (.error e) ::
            if IsReachFailure e then [.exit client] else []) ∨
        (∃ client e, gateway.create = .error e ∧
          w'.storage.store.calls = [.enter bucket.endpoint (.ok client),
            .headBucket client bucket.name (.ok ()), .exit client]) ∨
        ∃ (s : Session) (start : τ) (client : ClientId) (calls : List StoreCall),
          gateway.create = .ok start ∧
          outcome = s.result w'.ledger ∧ IsTour references [] w.pool.roomFault? s.visits ∧
          s.ending.Follows (Assembly.outcome s.visits) ∧ s.closing = .ok () ∧
          AreFetched client bucket.name s.visits calls ∧
          w'.storage.store.calls = .enter bucket.endpoint (.ok client) ::
            .headBucket client bucket.name (.ok ()) :: calls ++ [.exit client] ∧
          s.Marks (Bucket.source store.recorded bucket) gateway start w.recordingStore w') := by
  have hplain := assemble_follows_store store bucket gateway references w.recordingStore
  rw [Workshop.forgetStore_recordingStore] at hplain
  rcases assemble_course (Bucket.source store.recorded bucket) gateway references
    w.recordingStore with ⟨refusal, storage, hanswer, hrun⟩ |
      ⟨session, e, closing, storage, hleads, hcreate, hrun⟩ |
      ⟨s, start, w', hcreate, hrun, -, htour, hfollows, hmarks⟩
  · rw [hrun] at hplain
    refine ⟨_, _, hrun, hplain, ?_⟩
    obtain ⟨e, -, hcalls⟩ | ⟨client, e, -, hcalls⟩ | ⟨_, _, he, -⟩ :=
      Bucket.newSession_calls hanswer
    · exact .inl ⟨e, hcalls⟩
    · exact .inr (.inl ⟨client, e, hcalls⟩)
    · cases he
  · -- Nothing is visited in a session without a writer.
    rw [hrun] at hplain
    have hfetched : ∃ client calls, AreFetched client bucket.name [] calls ∧ closing = .ok () ∧ _ :=
      fetched_of_leads hleads
    obtain ⟨client, calls, hfetched, -, hcalls⟩ := hfetched
    cases hfetched
    exact ⟨_, _, hrun, hplain, .inr (.inr (.inl ⟨client, e, hcreate, hcalls⟩))⟩
  · rw [hrun] at hplain
    obtain ⟨client, calls, hfetched, hclosing, hcalls⟩ := fetched_of_leads hmarks.storage
    exact ⟨_, w', hrun, hplain, .inr (.inr (.inr ⟨s, start, client, calls, hcreate, rfl, htour,
      hfollows, hclosing, hfetched, hcalls, hmarks⟩))⟩

/-- However an assembly over a bucket ends, it has entered at most one client, and it has exited it
once exactly if asking for the bucket did not fail in another way than reaching it. -/
theorem assemble_exits (store : ObjectStore χ) (bucket : Bucket) (gateway : ArchiveGateway τ)
    (references : List PhotoReference) (w : Workshop (Bucket.State χ) τ) :
    ∃ (outcome : Except Failure ExportResult)
      (w' : Workshop (Bucket.State (Recorded χ StoreCall)) τ) (calls : List StoreCall),
      (assemble (Bucket.source store.recorded bucket) gateway references).run w.recordingStore
        = (outcome, w') ∧
      (assemble (Bucket.source store bucket) gateway references).run w
        = (outcome, w'.forgetStore) ∧
      w'.storage.store.calls = calls ∧ Contact bucket references calls ∧
      (calls.filterMap StoreCall.entered?).length ≤ 1 ∧
      (calls.filterMap StoreCall.exited? = calls.filterMap StoreCall.entered? ↔
        ∀ client name e, .headBucket client name (.error e) ∈ calls → IsReachFailure e) := by
  obtain ⟨outcome, w', hrun, hplain, hcase⟩ :=
    assemble_recordedStore store bucket gateway references w
  have hcontact : Contact bucket references w'.storage.store.calls := by
    rcases hcase with ⟨e, hcalls⟩ | ⟨client, e, hcalls⟩ | ⟨client, e, -, hcalls⟩ |
      ⟨s, _, client, calls, -, -, htour, -, -, hfetched, hcalls, -⟩
    · rw [hcalls]
      exact .unentered e
    · rw [hcalls]
      exact .refused client e
    · rw [hcalls]
      exact .served (.nil []) List.nil_prefix
    · rw [hcalls]
      exact .served (htour.fetched hfetched) htour.prefix
  exact ⟨outcome, w', _, hrun, hplain, rfl, hcontact, hcontact.exits⟩

/-- A client stays entered when the work is cancelled while the bucket is asked for. -/
theorem not_forall_exits :
    ¬ ∀ (script : ScriptedStore.Script) (references : List PhotoReference),
      let calls := ((assemble (Bucket.source ScriptedStore.store.recorded ⟨"localhost", "photos"⟩)
        (Zip.gateway {} .stored Zip.standardLimit) references).run
          { storage := { store := { state := { script } } }
            pool := { bufferSize := 4, bufferSize_pos := by decide, maxRetained := 1 }
            ledger := { company := "c" } }).2.storage.store.calls
      calls.filterMap StoreCall.exited? = calls.filterMap StoreCall.entered? := by
  intro h
  have hexited := h { objects := [], headFault := some (.cancelled "stop") } []
  revert hexited
  decide +kernel

end Assembly

end PhotoArchive
