import PhotoArchive.Storage.ObjectStore

/-!
# Photos in a bucket

The blob source whose blobs are the objects of one bucket. A session has a client of its own, which
is exited when the session is closed; a reader reads the body of one object.

## Main definitions

- `Bucket` — the address of a bucket
- `Bucket.State` — the object store with the sessions and readers on it
- `Bucket.source` — the blob source

## Design notes

A session remembers the readers that were not closed when the last one was opened, and closes them
when it is closed itself, up to the first one whose closing fails. Its client is exited in any case,
and only once.
-/

namespace PhotoArchive

/-- Where a bucket is. -/
structure Bucket where
  endpoint : String
  name : String
  deriving DecidableEq, Repr

namespace Bucket

variable {χ : Type}

/-- A reader of an object. -/
structure Reader where
  key : String
  body : BodyId
  size : Option Int
  isClosed : Bool := false
  deriving DecidableEq, Repr

/-- A session: its client, whether the client is still entered, and the readers it remembers. -/
structure Session where
  client : ClientId
  isEntered : Bool := true
  readers : List ReaderId := []
  deriving DecidableEq, Repr

/-- An object store with the sessions and readers on it. -/
structure State (χ : Type) where
  store : χ
  sessions : List Session := []
  readers : List Reader := []

namespace State

/-- Take an action on the object store. -/
def onStore (a : Action χ α) : Action (State χ) α :=
  a.within (·.store) fun store s => { s with store }

theorem run_onStore {a : Action χ α} {s : State χ} {outcome : Except Failure α} {store : χ}
    (h : a.run s.store = (outcome, store)) :
    (onStore a).run s = (outcome, { s with store }) :=
  Action.run_within h

/-- The session with a number; a number that was never given stands for an exited one. -/
def session (s : State χ) (id : SessionId) : Session :=
  s.sessions.getD id { client := 0, isEntered := false }

/-- The reader with a number. -/
def reader? (s : State χ) (id : ReaderId) : Option Reader := s.readers[id]?

/-- Whether a reader has been closed. -/
def readerIsClosed (s : State χ) (id : ReaderId) : Bool :=
  ((s.reader? id).map Reader.isClosed).getD true

/-- Put a session in the place of another one. -/
def setSession (s : State χ) (id : SessionId) (session : Session) : State χ :=
  { s with sessions := s.sessions.set id session }

/-- A reader for the body of an object, remembered by its session. -/
def addReader (s : State χ) (id : SessionId) (key : String) (object : ObjectBody) :
    ReaderId × State χ :=
  let session := s.session id
  let reader := s.readers.length
  let remembered := session.readers.filter fun r => !s.readerIsClosed r
  (reader,
    { s.setSession id { session with readers := remembered ++ [reader] } with
      readers := s.readers ++ [{ key, body := object.body, size := object.length }] })

end State

/-- Failures in reaching the bucket that are reported as a failed session. -/
def IsReachFailure (e : Failure) : Prop := e.IsServiceError ∨ e.IsSystemError

instance : DecidablePred IsReachFailure := fun _ => by
  unfold IsReachFailure
  infer_instance

/-- Failures in reading an object that are reported as a failed read. -/
def IsTransferFailure (e : Failure) : Prop := e.IsPayloadError ∨ e.IsServiceError ∨ e.IsSystemError

instance : DecidablePred IsTransferFailure := fun _ => by
  unfold IsTransferFailure
  infer_instance

/-- The failure to open a session that is reported for some failure. -/
def refused (e : Failure) : Refusal :=
  if IsReachFailure e then { failure := .storageSession e.message, report := some e.message }
  else { failure := e }

/-- Open a session: enter a client and ask for the bucket. When asking fails in reaching the bucket,
the client is exited. -/
def newSession (store : ObjectStore χ) (bucket : Bucket) (s : State χ) :
    Except Refusal SessionId × State χ :=
  match (State.onStore (store.enter bucket.endpoint)).run s with
  | (.error e, s) => (.error (refused e), s)
  | (.ok client, s) =>
    match (State.onStore (store.headBucket client bucket.name)).run s with
    | (.error e, s) =>
      (.error (refused e),
        if IsReachFailure e then { s with store := store.exit client s.store } else s)
    | (.ok _, s) => (.ok s.sessions.length, { s with sessions := s.sessions ++ [{ client }] })

/-- The failure to open a blob that is reported for some failure. -/
def openFailure (key : String) : Failure → Failure
  | .service e => if e.IsNotFound then .blobNotFound key else .blobRead key e.message
  | .connection e => .blobRead key e.message
  | e => e

/-- Open a reader for an object. -/
def openBlob (store : ObjectStore χ) (bucket : Bucket) (id : SessionId) (key : Path) :
    Action (State χ) OpenedBlob := fun s =>
  let client := (s.session id).client
  match (State.onStore (store.getObject client bucket.name key.value)).run s with
  | (.error e, s) => (.error (openFailure key.value e), s)
  | (.ok object, s) =>
    let (reader, s) := s.addReader id key.value object
    (.ok { reader, size := object.length }, s)

/-- The next piece of an object. -/
def read (store : ObjectStore χ) (id : ReaderId) (room : Nat) : Action (State χ) Bytes := fun s =>
  match s.reader? id with
  | none => (.ok [], s)
  | some r =>
    match (State.onStore (store.readBody r.body room)).run s with
    | (.error e, s) =>
      (.error (if IsTransferFailure e then .blobRead r.key e.message else e), s)
    | (.ok data, s) => (.ok data, s)

/-- Close a reader. It counts as closed even if closing its body fails. Closing it twice is
harmless. -/
def closeReader (store : ObjectStore χ) (id : ReaderId) : Action (State χ) Unit := fun s =>
  match s.reader? id with
  | none => (.ok (), s)
  | some r =>
    if r.isClosed then (.ok (), s)
    else
      (State.onStore (store.closeBody r.body)).run
        { s with readers := s.readers.set id { r with isClosed := true } }

/-- Close readers one after the other, up to the first one whose closing fails. -/
def closeReaders (store : ObjectStore χ) : List ReaderId → Action (State χ) Unit
  | [] => .done ()
  | reader :: rest => do
    closeReader store reader
    closeReaders store rest

/-- Exit the client of a session, if it is still entered. -/
def exitClient (store : ObjectStore χ) (id : SessionId) : Action (State χ) Unit :=
  .modify fun s =>
    let session := s.session id
    if session.isEntered then
      { s.setSession id { session with isEntered := false } with
        store := store.exit session.client s.store }
    else s

/-- Close a session with the readers that it remembers. -/
def closeSession (store : ObjectStore χ) (id : SessionId) : Action (State χ) Unit := fun s =>
  let session := s.session id
  ((closeReaders store session.readers).ensuring (exitClient store id)).run
    (s.setSession id { session with readers := [] })

/-- A bound on what a reader may still deliver. -/
def pending (store : ObjectStore χ) (id : ReaderId) (s : State χ) : Nat :=
  match s.reader? id with
  | none => 0
  | some r => store.pending r.body s.store

theorem run_read {store : ObjectStore χ} {id : ReaderId} {room : Nat} {s : State χ} {r : Reader}
    (hr : s.reader? id = some r) :
    (read store id room).run s =
      match (State.onStore (store.readBody r.body room)).run s with
      | (.error e, s) =>
        (.error (if IsTransferFailure e then .blobRead r.key e.message else e), s)
      | (.ok data, s) => (.ok data, s) := by
  show (match s.reader? id with | none => _ | some r => _) = _
  rw [hr]

theorem pending_read (store : ObjectStore χ) (id : ReaderId) (room : Nat) (s : State χ)
    (data : Bytes) (s' : State χ) (h : (read store id room).run s = (.ok data, s'))
    (hne : data ≠ []) : pending store id s' < pending store id s := by
  cases hr : s.reader? id with
  | none =>
    rw [show (read store id room).run s = (.ok [], s) by
      show (match s.reader? id with | none => _ | some r => _) = _
      rw [hr]] at h
    cases h
    exact absurd rfl hne
  | some r =>
    rw [run_read hr] at h
    rcases hb : (store.readBody r.body room).run s.store with ⟨_ | piece, x⟩
    · rw [State.run_onStore hb] at h
      cases h
    · rw [State.run_onStore hb] at h
      cases h
      have hlt := store.pending_readBody _ _ _ _ _ hb hne
      have hr' : s.readers[id]? = some r := hr
      simpa only [pending, State.reader?, hr'] using hlt

/-- The blob source of a bucket. -/
def source (store : ObjectStore χ) (bucket : Bucket) : BlobSource (State χ) where
  component := .bucket
  newSession := newSession store bucket
  openBlob := openBlob store bucket
  read := read store
  closeReader := closeReader store
  closeSession := closeSession store
  pending := pending store
  pending_read := pending_read store

end Bucket

end PhotoArchive
