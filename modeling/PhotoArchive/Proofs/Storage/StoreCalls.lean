import PhotoArchive.Proofs.Recording.Transparency
import PhotoArchive.Proofs.Storage.Sessions

/-!
# Calls to an object store

Below a bucket lies an object store, and what the bucket asks of it is seen from outside as a list of
calls with their answers. A session on a bucket makes two calls to begin with, one call for each of
its operations while readers are closed before others are opened, and one call at its end.

## Main definitions

- `StoreCall` — a call to an object store with its answer
- `ObjectStore.recorded` — the object store that keeps the calls made to it
- `Bucket.State.Serves` — a session has a client and waits for the next blob
- `Bucket.State.Reads` — a session reads the body of an object

## Main statements

- `Bucket.recordedAgreement` — a bucket answers whether or not the calls are kept
- `Bucket.newSession_calls`, `Bucket.State.Serves.openBlob`, `Bucket.State.Reads.read` and others —
  the calls that each operation of a bucket makes

## Design notes

An object store may answer each client differently, so stores that fit together for whichever clients
do not help here: with and without the calls the same client must be used.
-/

namespace PhotoArchive

open PhotoArchive.Action

variable {χ : Type}

/-- A call to an object store, with its answer. -/
inductive StoreCall where
  | enter (endpoint : String) (answer : Except Failure ClientId)
  | exit (client : ClientId)
  | headBucket (client : ClientId) (bucket : String) (answer : Except Failure Unit)
  | getObject (client : ClientId) (bucket key : String) (answer : Except Failure ObjectBody)
  | readBody (body : BodyId) (room : Nat) (answer : Except Failure Bytes)
  | closeBody (body : BodyId) (answer : Except Failure Unit)

namespace StoreCall

/-- The client that is entered by a call. -/
def entered? : StoreCall → Option ClientId
  | .enter _ (.ok client) => some client
  | _ => none

/-- The client that is exited by a call. -/
def exited? : StoreCall → Option ClientId
  | .exit client => some client
  | _ => none

/-- Calls that are about an object. -/
def IsOnObject : StoreCall → Prop
  | .getObject .. | .readBody .. | .closeBody .. => True
  | _ => False

/-- Calls about objects enter and exit no client. -/
theorem filterMap_of_isOnObject {calls : List StoreCall} (h : ∀ call ∈ calls, call.IsOnObject) :
    calls.filterMap entered? = [] ∧ calls.filterMap exited? = [] := by
  constructor
  all_goals
    rw [List.filterMap_eq_nil_iff]
    intro call hcall
    have hobject := h call hcall
    cases call with
    | enter | exit | headBucket => exact hobject.elim
    | getObject | readBody | closeBody => rfl

end StoreCall

/-- The object store that keeps the calls made to it. -/
def ObjectStore.recorded (store : ObjectStore χ) : ObjectStore (Recorded χ StoreCall) where
  enter := fun endpoint => (store.enter endpoint).recorded (.enter endpoint)
  exit := fun client x =>
    { state := store.exit client x.state, calls := x.calls ++ [.exit client] }
  headBucket := fun client bucket =>
    (store.headBucket client bucket).recorded (.headBucket client bucket)
  getObject := fun client bucket key =>
    (store.getObject client bucket key).recorded (.getObject client bucket key)
  readBody := fun body room => (store.readBody body room).recorded (.readBody body room)
  closeBody := fun body => (store.closeBody body).recorded (.closeBody body)
  pending := fun body x => store.pending body x.state
  pending_readBody := by
    intro body room x data x' h hne
    obtain ⟨hread, -⟩ := Action.of_run_recorded h
    exact store.pending_readBody body room x.state data x'.state hread hne

namespace Bucket

namespace State

/-- A bucket without the calls. -/
def forget (s : State (Recorded χ StoreCall)) : State χ :=
  { store := s.store.state, sessions := s.sessions, readers := s.readers }

/-- A bucket whose object store has been called by nobody. -/
def recording (s : State χ) : State (Recorded χ StoreCall) :=
  { store := { state := s.store }, sessions := s.sessions, readers := s.readers }

/-- The bucket when its object store has been called. -/
def called (s : State (Recorded χ StoreCall)) (x : χ) (call : StoreCall) :
    State (Recorded χ StoreCall) :=
  { s with store := { state := x, calls := s.store.calls ++ [call] } }

section Calls

variable {store : ObjectStore χ} {s : State (Recorded χ StoreCall)} {x : χ} {client : ClientId}
  {bucket key : String} {body : BodyId} {room : Nat}

/-- What is asked of an object store is kept. -/
theorem run_onStore_recorded {α : Type} {a : Action χ α} {call : Except Failure α → StoreCall}
    {outcome : Except Failure α} (h : a.run s.store.state = (outcome, x)) :
    (onStore (a.recorded call)).run s = (outcome, s.called x (call outcome)) := by
  apply run_onStore
  rw [run_recorded, h]

theorem run_enter {endpoint : String} {answer : Except Failure ClientId}
    (h : (store.enter endpoint).run s.store.state = (answer, x)) :
    (onStore (store.recorded.enter endpoint)).run s
      = (answer, s.called x (.enter endpoint answer)) := run_onStore_recorded h

theorem run_headBucket {answer : Except Failure Unit}
    (h : (store.headBucket client bucket).run s.store.state = (answer, x)) :
    (onStore (store.recorded.headBucket client bucket)).run s
      = (answer, s.called x (.headBucket client bucket answer)) := run_onStore_recorded h

theorem run_getObject {answer : Except Failure ObjectBody}
    (h : (store.getObject client bucket key).run s.store.state = (answer, x)) :
    (onStore (store.recorded.getObject client bucket key)).run s
      = (answer, s.called x (.getObject client bucket key answer)) := run_onStore_recorded h

theorem run_readBody {answer : Except Failure Bytes}
    (h : (store.readBody body room).run s.store.state = (answer, x)) :
    (onStore (store.recorded.readBody body room)).run s
      = (answer, s.called x (.readBody body room answer)) := run_onStore_recorded h

theorem run_closeBody {answer : Except Failure Unit}
    (h : (store.closeBody body).run s.store.state = (answer, x)) :
    (onStore (store.recorded.closeBody body)).run s
      = (answer, s.called x (.closeBody body answer)) := run_onStore_recorded h

end Calls

end State

/-! ## Recording changes nothing -/

section Agreement

variable (store : ObjectStore χ) (bucket : Bucket)

/-- A bucket is another one without the calls. -/
def State.Forgets (s : State (Recorded χ StoreCall)) (s' : State χ) : Prop := s.forget = s'

open State

theorem newSession_forgets {s : State (Recorded χ StoreCall)} {s' : State χ} (h : s.Forgets s') :
    Alike (Same Forgets) Forgets (newSession store.recorded bucket s)
      (newSession store bucket s') := by
  cases h
  unfold newSession
  rcases henter : (store.enter bucket.endpoint).run s.store.state with ⟨e | client, x⟩
  · rw [run_enter henter, run_onStore (s := s.forget) henter]
    exact .failure rfl
  rw [run_enter henter, run_onStore (s := s.forget) henter]
  simp only
  rcases hhead : (store.headBucket client bucket.name).run x with ⟨e | u, y⟩
  · rw [run_headBucket (s := s.called x _) hhead,
      run_onStore (s := { s.forget with store := x }) hhead]
    refine .failure ?_
    split <;> rfl
  · rw [run_headBucket (s := s.called x _) hhead,
      run_onStore (s := { s.forget with store := x }) hhead]
    exact .value ⟨rfl, rfl⟩

theorem openBlob_forgets (session : SessionId) (key : Path) :
    Keep Forgets (openBlob store.recorded bucket session key)
      (openBlob store bucket session key) := by
  rintro s _ rfl
  rw [run_openBlob, run_openBlob]
  rcases hget : (store.getObject (s.session session).client bucket.name key.value).run s.store.state
    with ⟨e | object, x⟩
  · have hplain : (onStore (store.getObject (s.forget.session session).client bucket.name
      key.value)).run s.forget = _ := run_onStore hget
    rw [run_getObject hget, hplain]
    exact .failure rfl
  · have hplain : (onStore (store.getObject (s.forget.session session).client bucket.name
      key.value)).run s.forget = _ := run_onStore hget
    rw [run_getObject hget, hplain]
    exact .value ⟨rfl, rfl⟩

theorem read_forgets (reader : ReaderId) (room : Nat) :
    Keep Forgets (read store.recorded reader room) (read store reader room) := by
  rintro s _ rfl
  cases hr : s.reader? reader with
  | none =>
    have hnone : s.forget.reader? reader = none := hr
    simp only [run, read, hr, hnone]
    exact .value ⟨rfl, rfl⟩
  | some r =>
    rw [run_read hr, run_read (s := s.forget) hr]
    rcases hread : (store.readBody r.body room).run s.store.state with ⟨e | data, x⟩
    · rw [run_readBody hread, run_onStore (s := s.forget) hread]
      exact .failure rfl
    · rw [run_readBody hread, run_onStore (s := s.forget) hread]
      exact .value ⟨rfl, rfl⟩

theorem closeReader_forgets (reader : ReaderId) :
    Keep Forgets (closeReader store.recorded reader) (closeReader store reader) := by
  rintro s _ rfl
  cases hclosed : s.readerIsClosed reader with
  | true =>
    rw [run_closeReader_of_closed store.recorded hclosed,
      run_closeReader_of_closed store (s := s.forget) hclosed]
    exact .value ⟨rfl, rfl⟩
  | false =>
    cases hr : s.reader? reader with
    | none => simp [State.readerIsClosed, hr] at hclosed
    | some r =>
      have hopen : r.isClosed = false := by simpa [State.readerIsClosed, hr] using hclosed
      rw [run_closeReader store.recorded hr hopen, run_closeReader store (s := s.forget) hr hopen]
      let closed := { s with readers := s.readers.set reader { r with isClosed := true } }
      rcases hclose : (store.closeBody r.body).run s.store.state with ⟨e | u, x⟩
      · rw [run_closeBody (s := closed) hclose, run_onStore hclose]
        exact .failure rfl
      · rw [run_closeBody (s := closed) hclose, run_onStore hclose]
        exact .value ⟨rfl, rfl⟩

theorem closeReaders_forgets (readers : List ReaderId) :
    Keep Forgets (closeReaders store.recorded readers) (closeReaders store readers) := by
  induction readers with
  | nil => exact keep_pure ()
  | cons reader rest ih => exact (closeReader_forgets store reader).bind_same fun _ => ih

theorem exitClient_forgets (session : SessionId) :
    Keep Forgets (exitClient store.recorded session) (exitClient store session) := by
  refine keep_modify ?_
  rintro s _ rfl
  cases hentered : (s.session session).isEntered <;>
    simp only [show s.forget.session session = s.session session from rfl, hentered] <;> rfl

theorem closeSession_forgets (session : SessionId) :
    Keep Forgets (closeSession store.recorded session) (closeSession store session) := by
  rintro s _ rfl
  exact (closeReaders_forgets store (s.session session).readers).ensuring_same
    (exitClient_forgets store session).forget _ _ rfl

/-- A bucket answers whether or not the calls to its object store are kept. -/
def recordedAgreement : (source store.recorded bucket).Agreement (source store bucket) Set.univ where
  Closed := Forgets
  Idle session session' s s' := session = session' ∧ s.Forgets s'
  Reading session session' reader reader' s s' :=
    session = session' ∧ reader = reader' ∧ s.Forgets s'
  component_eq := rfl
  newSession _ _ h := newSession_forgets store bucket h
  openBlob := by
    rintro session _ key - s s' ⟨rfl, h⟩
    exact (openBlob_forgets store bucket session key s s' h).map id id
      (fun _ _ _ _ h => ⟨congrArg _ h.1, rfl, congrArg _ h.1, h.2⟩) fun _ _ h => ⟨rfl, h⟩
  read := by
    rintro session _ reader _ room s s' ⟨rfl, rfl, h⟩
    exact (read_forgets store reader room s s' h).map id id
      (fun _ _ _ _ h => ⟨h.1, rfl, rfl, h.2⟩) fun _ _ h => ⟨rfl, rfl, h⟩
  closeReader := by
    rintro session _ reader _ s s' ⟨rfl, rfl, h⟩
    exact (closeReader_forgets store reader s s' h).map id id
      (fun _ _ _ _ h => ⟨rfl, h.2⟩) fun _ _ h => ⟨rfl, h⟩
  closeSession := by
    rintro session _ s s' ⟨rfl, h⟩
    exact (closeSession_forgets store session s s' h).map id id
      (fun _ _ _ _ h => h.2) fun _ _ h => h

end Agreement

/-! ## The calls of a session -/

namespace State

/-- A session has a client and waits for the next blob. -/
structure Serves (s : State χ) (session : SessionId) (client : ClientId) : Prop where
  attends : s.Attends session none
  client_eq : (s.session session).client = client

/-- A session that has a client reads the body of an object. -/
structure Reads (s : State χ) (session : SessionId) (client : ClientId) (reader : ReaderId)
    (key : String) (body : BodyId) : Prop where
  attends : s.Attends session (some reader)
  client_eq : (s.session session).client = client
  reader_eq : ∃ size, s.reader? reader = some { key, body, size }

end State

/-- The failure to read a blob that is reported for some failure. -/
def transferFailure (key : String) (e : Failure) : Failure :=
  if IsTransferFailure e then .blobRead key e.message else e

/-- The answer of a reader for the answer of the body that it reads. -/
def readAnswer (key : String) (answer : Except Failure Bytes) : Except Failure Bytes :=
  answer.mapError (transferFailure key)

section Calls

variable {store : ObjectStore χ} {bucket : Bucket} {s s' : State (Recorded χ StoreCall)}
  {session : SessionId} {client : ClientId} {reader : ReaderId} {key : String} {body : BodyId}

open State

/-- Opening a session enters a client and asks for the bucket. Without a session the client is left
entered if asking did not fail in reaching the bucket. -/
theorem newSession_calls {answer : Except Refusal SessionId}
    (h : newSession store.recorded bucket s = (answer, s')) :
    (∃ e, answer = .error (refused e) ∧
      s'.store.calls = s.store.calls ++ [.enter bucket.endpoint (.error e)]) ∨
    (∃ client e, answer = .error (refused e) ∧
      s'.store.calls = s.store.calls ++ .enter bucket.endpoint (.ok client) ::
        .headBucket client bucket.name (.error e) ::
          if IsReachFailure e then [.exit client] else []) ∨
    ∃ client session, answer = .ok session ∧
      s'.store.calls = s.store.calls ++ [.enter bucket.endpoint (.ok client),
        .headBucket client bucket.name (.ok ())] ∧
      s'.Serves session client := by
  unfold newSession at h
  rcases henter : (store.enter bucket.endpoint).run s.store.state with ⟨e | client, x⟩
  · rw [run_enter henter] at h
    cases h
    exact .inl ⟨e, rfl, rfl⟩
  rw [run_enter henter] at h
  simp only at h
  rcases hhead : (store.headBucket client bucket.name).run x with ⟨e | u, y⟩
  · rw [run_headBucket (s := s.called x _) hhead] at h
    cases h
    refine .inr (.inl ⟨client, e, rfl, ?_⟩)
    by_cases hreach : IsReachFailure e <;> simp [hreach, called, ObjectStore.recorded]
  · rw [run_headBucket (s := s.called x _) hhead] at h
    cases h
    refine .inr (.inr ⟨client, _, rfl, by simp [called], attends_new _ client, ?_⟩)
    simp [State.session, List.getD_eq_getElem?_getD]

/-- Opening a blob asks for one object. -/
theorem State.Serves.openBlob {key : Path} (h : s.Serves session client)
    {answer : Except Failure OpenedBlob}
    (hrun : (openBlob store.recorded bucket session key).run s = (answer, s')) :
    (∃ e, answer = .error (openFailure key.value e) ∧
      s'.store.calls = s.store.calls ++ [.getObject client bucket.name key.value (.error e)] ∧
      s'.Serves session client) ∨
    ∃ reader object, answer = .ok { reader, size := object.length } ∧
      s'.store.calls = s.store.calls ++ [.getObject client bucket.name key.value (.ok object)] ∧
      s'.Reads session client reader key.value object.body := by
  obtain ⟨hattends, rfl⟩ := h
  rw [run_openBlob] at hrun
  rcases hget : (store.getObject (s.session session).client bucket.name key.value).run s.store.state
    with ⟨e | object, x⟩
  · rw [run_getObject hget] at hrun
    cases hrun
    exact .inl ⟨e, rfl, rfl, hattends.setStore _, rfl⟩
  · rw [run_getObject hget] at hrun
    cases hrun
    let called := s.called x
      (.getObject (s.session session).client bucket.name key.value (.ok object))
    have hcalled : called.Attends session none := hattends.setStore called.store
    exact .inr ⟨_, object, rfl, rfl, hcalled.addReader _ _, hcalled.client_addReader _ _,
      object.length, reader?_addReader _ _ _ _⟩

/-- Reading asks for one piece of the body. -/
theorem State.Reads.read (h : s.Reads session client reader key body) {room : Nat}
    {answer : Except Failure Bytes}
    (hrun : (read store.recorded reader room).run s = (answer, s')) :
    ∃ answer', answer = readAnswer key answer' ∧
      s'.store.calls = s.store.calls ++ [.readBody body room answer'] ∧
      s'.Reads session client reader key body := by
  obtain ⟨hattends, hclient, size, hr⟩ := h
  rw [run_read hr] at hrun
  rcases hread : (store.readBody body room).run s.store.state with ⟨e | data, x⟩
  · rw [run_readBody hread] at hrun
    cases hrun
    exact ⟨.error e, rfl, rfl, hattends.setStore _, hclient, size, hr⟩
  · rw [run_readBody hread] at hrun
    cases hrun
    exact ⟨.ok data, rfl, rfl, hattends.setStore _, hclient, size, hr⟩

/-- Closing a reader closes its body. -/
theorem State.Reads.closeReader (h : s.Reads session client reader key body)
    {answer : Except Failure Unit}
    (hrun : (closeReader store.recorded reader).run s = (answer, s')) :
    s'.store.calls = s.store.calls ++ [.closeBody body answer] ∧ s'.Serves session client := by
  obtain ⟨hattends, hclient, size, hr⟩ := h
  rw [run_closeReader _ hr rfl] at hrun
  rcases hclose : (store.closeBody body).run s.store.state with ⟨answer', x⟩
  let closed := { s with readers := s.readers.set reader { key, body, size, isClosed := true } }
  have hcall : (onStore (store.recorded.closeBody body)).run closed = _ := run_closeBody hclose
  cases hcall.symm.trans hrun
  exact ⟨rfl, (hattends.close hr).setStore _, hclient⟩

/-- Closing a session exits its client. -/
theorem State.Serves.closeSession (h : s.Serves session client) {answer : Except Failure Unit}
    (hrun : (closeSession store.recorded session).run s = (answer, s')) :
    answer = .ok () ∧ s'.store.calls = s.store.calls ++ [.exit client] := by
  obtain ⟨hattends, rfl⟩ := h
  obtain ⟨s₁, hclose, hstore⟩ := run_closeSession store.recorded hattends
  cases hclose.symm.trans hrun
  exact ⟨rfl, congrArg Recorded.calls hstore⟩

end Calls

end Bucket

end PhotoArchive
