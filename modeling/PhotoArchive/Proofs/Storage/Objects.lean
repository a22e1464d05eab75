import PhotoArchive.Proofs.Storage.Remains
import PhotoArchive.Proofs.Storage.Sessions
import PhotoArchive.Proofs.Storage.StoreCalls

/-!
# Objects in stock

A bucket serves the blobs that its object store keeps in it. In which pieces the store delivers them
does not matter to whom counts the bytes.

## Main definitions

- `ObjectStore.Keeps` — an object store keeps blobs in a bucket
- `ObjectStore.Keeps.IsInFull` — its bodies deliver as much as they are asked for
- `Bucket.stocked`, `Bucket.serves` — what a bucket has in stock
- `ObjectStore.sparing` — an object store whose bodies deliver little at a time

## Main statements

- `Bucket.serves_opens` — sessions are opened
- `ScriptedStore.keeps` — a scripted store keeps the blobs that are its objects
- `ObjectStore.Keeps.sparing` — blobs are kept as well if less is delivered at a time

## Design notes

What an object store does is known from its documentation only: that a body delivers its object to the
end, and never more than it is asked for, is part of what it means to keep blobs. How much it delivers
at a time is left open.
-/

namespace PhotoArchive

open PhotoArchive.Action

variable {χ : Type}

/-! ## Stores that keep blobs -/

/-- An object store keeps blobs in a bucket if it answers as its documentation says when they are its
objects. -/
structure ObjectStore.Keeps (store : ObjectStore χ) (bucket : Bucket)
    (blobs : List (String × Bytes)) where
  /-- A client can be entered. -/
  Ready : χ → Prop
  /-- A client is entered. -/
  Serves : ClientId → χ → Prop
  /-- A client reads a body, of which some bytes are left. -/
  Delivers : ClientId → BodyId → Bytes → χ → Prop
  enter : ∀ {x}, Ready x →
    ∃ client x', (store.enter bucket.endpoint).run x = (.ok client, x') ∧ Serves client x'
  headBucket : ∀ {client x}, Serves client x →
    ∃ x', (store.headBucket client bucket.name).run x = (.ok (), x') ∧ Serves client x'
  getObject : ∀ {client x key data}, blobs.lookup key = some data → Serves client x →
    ∃ body x', (store.getObject client bucket.name key).run x
      = (.ok { body, length := some data.length }, x') ∧ Delivers client body data x'
  getObject_absent : ∀ {client x key}, blobs.lookup key = none → Serves client x →
    ∃ e x', (store.getObject client bucket.name key).run x = (.error (.service e), x') ∧
      e.IsNotFound ∧ Serves client x'
  /-- At most as much as asked for; nothing only if nothing is asked for or left. -/
  readBody : ∀ {client body data x} room, Delivers client body data x →
    ∃ piece rest x', (store.readBody body room).run x = (.ok piece, x') ∧ data = piece ++ rest ∧
      piece.length ≤ room ∧ (piece = [] → room = 0 ∨ data = []) ∧ Delivers client body rest x'
  closeBody : ∀ {client body data x}, Delivers client body data x →
    ∃ x', (store.closeBody body).run x = (.ok (), x') ∧ Serves client x'
  exit : ∀ {client x}, Serves client x → Ready (store.exit client x)

/-- Its bodies deliver as much as they are asked for, or all that is left. -/
def ObjectStore.Keeps.IsInFull {store : ObjectStore χ} {bucket : Bucket}
    {blobs : List (String × Bytes)} (K : store.Keeps bucket blobs) : Prop :=
  ∀ {client body data x} room, K.Delivers client body data x →
    ∃ x', (store.readBody body room).run x = (.ok (data.take room), x')

namespace Bucket

/-- The blob that is opened for a key. -/
def stocked (blobs : List (String × Bytes)) (key : Path) : Except Failure (Stock.Blob Remains) :=
  match blobs.lookup key.value with
  | none => .error (.blobNotFound key.value)
  | some data => .ok { size := some data.length, start := { data } }

variable {store : ObjectStore χ} {bucket : Bucket} {blobs : List (String × Bytes)}
  (K : store.Keeps bucket blobs)

/-- A session with a client waits for the next blob. -/
def Waits (session : SessionId) (s : State χ) : Prop :=
  ∃ client, s.Serves session client ∧ K.Serves client s.store

/-- A session with a client reads a blob. -/
def Delivers (session : SessionId) (reader : ReaderId) (x : Remains) (s : State χ) : Prop :=
  ∃ client key body data, s.Reads session client reader key body ∧
    K.Delivers client body data s.store ∧ x = { data }

variable {K} {session : SessionId} {reader : ReaderId} {x : Remains} {s : State χ}

theorem openBlob_of_waits {key : Path} {data : Bytes} (hlookup : blobs.lookup key.value = some data)
    (h : Waits K session s) :
    ∃ reader s', (openBlob store bucket session key).run s
      = (.ok { reader, size := some data.length }, s') ∧ Delivers K session reader { data } s' := by
  obtain ⟨client, ⟨hattends, rfl⟩, hserves⟩ := h
  obtain ⟨body, y, hget, hdelivers⟩ := K.getObject hlookup hserves
  have hattends' := hattends.setStore y
  rw [run_openBlob, State.run_onStore hget]
  refine ⟨_, _, rfl, (s.session session).client, key.value, body, data, ⟨?_, ?_, ?_⟩, hdelivers, rfl⟩
  · exact hattends'.addReader key.value _
  · exact hattends'.client_addReader key.value _
  · exact ⟨_, State.reader?_addReader _ session key.value _⟩

theorem openBlob_of_absent {key : Path} (hlookup : blobs.lookup key.value = none)
    (h : Waits K session s) :
    ∃ s', (openBlob store bucket session key).run s = (.error (.blobNotFound key.value), s') ∧
      Waits K session s' := by
  obtain ⟨client, ⟨hattends, rfl⟩, hserves⟩ := h
  obtain ⟨e, y, hget, hnotFound, hserves'⟩ := K.getObject_absent hlookup hserves
  rw [run_openBlob, State.run_onStore hget]
  refine ⟨_, ?_, _, ⟨hattends.setStore y, rfl⟩, hserves'⟩
  simp only [openFailure, hnotFound, if_true]

theorem run_read_of_delivers {client : ClientId} {key : String} {body : BodyId} {piece : Bytes}
    {y : χ} {room : Nat} (h : s.Reads session client reader key body)
    (hread : (store.readBody body room).run s.store = (.ok piece, y)) :
    (read store reader room).run s = (.ok piece, { s with store := y }) ∧
      State.Reads { s with store := y } session client reader key body := by
  obtain ⟨hattends, hclient, size, hr⟩ := h
  rw [run_read hr, State.run_onStore hread]
  exact ⟨rfl, hattends.setStore y, hclient, size, hr⟩

/-- A bucket has the blobs in stock that are kept in it. -/
def serves (K : store.Keeps bucket blobs) :
    (source store bucket).Serves (.ofRemains (stocked blobs) (.ok ())) where
  Closed s := K.Ready s.store
  Idle := Waits K
  Reading := Delivers K
  openBlob {session key blob s} hblob h := by
    have hblob : stocked blobs key = .ok blob := hblob
    unfold stocked at hblob
    cases hlookup : blobs.lookup key.value with
    | none => simp [hlookup] at hblob
    | some data =>
      rw [hlookup] at hblob
      cases hblob
      exact openBlob_of_waits hlookup h
  openBlob_refused {session key e s} hrefused h := by
    have hrefused : stocked blobs key = .error e := hrefused
    unfold stocked at hrefused
    cases hlookup : blobs.lookup key.value with
    | none =>
      rw [hlookup] at hrefused
      cases hrefused
      exact openBlob_of_absent hlookup h
    | some data => simp [hlookup] at hrefused
  read {session reader x s} room h := by
    obtain ⟨client, key, body, data, hreads, hdelivers, rfl⟩ := h
    obtain ⟨piece, rest, y, hread, rfl, hroom, hnone, hdelivers'⟩ := K.readBody room hdelivers
    obtain ⟨hrun, hreads'⟩ := run_read_of_delivers hreads hread
    refine ⟨.ok piece, { data := rest }, _, hrun, ?_, client, key, body, rest, hreads', hdelivers',
      rfl⟩
    by_cases hpiece : piece = []
    · subst hpiece
      rcases hnone rfl with rfl | hrest
      · exact .noRoom _
      · obtain rfl : rest = [] := hrest
        exact .ended
    · exact .piece hpiece hroom
  closeReader {session reader x s} h := by
    obtain ⟨client, key, body, data, ⟨hattends, hclient, size, hr⟩, hdelivers, rfl⟩ := h
    obtain ⟨y, hclose, hserves⟩ := K.closeBody hdelivers
    have hrun := run_closeReader store hr rfl
    refine ⟨_, hrun.trans (State.run_onStore hclose), client, ⟨?_, hclient⟩, hserves⟩
    exact (hattends.close hr).setStore y
  closeSession {session s} h := by
    obtain ⟨client, ⟨hattends, rfl⟩, hserves⟩ := h
    obtain ⟨s', hrun, hstore⟩ := run_closeSession store hattends
    exact ⟨s', hrun, hstore ▸ K.exit hserves⟩

theorem serves_opens (K : store.Keeps bucket blobs) : (serves K).Opens (.ok ()) where
  opened {s} _ hready := by
    obtain ⟨client, y, henter, hserves⟩ := K.enter hready
    obtain ⟨z, hhead, hserves'⟩ := K.headBucket hserves
    have hclient : (({ s with store := z, sessions := s.sessions ++ [{ client }] } : State χ).session
        s.sessions.length).client = client := by
      simp [State.session, List.getD_eq_getElem?_getD]
    refine ⟨s.sessions.length, { s with store := z, sessions := s.sessions ++ [{ client }] }, ?_,
      client, ⟨State.attends_new { s with store := z } client, hclient⟩, hserves'⟩
    simp only [source, newSession, State.run_onStore henter]
    rw [State.run_onStore (s := { s with store := y }) hhead]
  refused h := by cases h

theorem serves_isInFull (h : K.IsInFull) : (serves K).IsInFull := by
  rintro session reader x s room ⟨client, key, body, data, hreads, hdelivers, rfl⟩
  obtain ⟨piece, rest, y, hread, hsplit, -, -, hdelivers'⟩ := K.readBody room hdelivers
  obtain ⟨z, hfull⟩ := h room hdelivers
  obtain rfl : piece = data.take room := by
    have hsame := hread.symm.trans hfull
    cases hsame
    rfl
  obtain ⟨hrun, hreads'⟩ := run_read_of_delivers hreads hread
  obtain rfl : rest = data.drop room := by
    have hcut := (List.take_append_drop room data).trans hsplit
    exact (List.append_cancel_left hcut).symm
  exact ⟨_, hrun, client, key, body, _, hreads', hdelivers', rfl⟩

end Bucket

/-! ## Scripted stores that keep blobs -/

namespace ScriptedStore

/-- An object that is delivered as asked for. -/
def objectOf (data : Bytes) : Object := { delivery := { rest := data }, length := some data.length }

/-- The script of a store whose objects are some blobs. -/
def scriptOf (blobs : List (String × Bytes)) : Script where
  objects := blobs.map fun blob => (blob.1, objectOf blob.2)

/-- Finding an object is looking up its key. -/
theorem find?_scriptOf (blobs : List (String × Bytes)) (key : String) :
    ((scriptOf blobs).objects.find? fun object => object.1 = key)
      = (blobs.lookup key).map fun data => (key, objectOf data) := by
  induction blobs with
  | nil => rfl
  | cons blob rest ih =>
    obtain ⟨other, data⟩ := blob
    by_cases hkey : other = key
    · subst hkey
      simp [scriptOf]
    · have hkey' : (key == other) = false := by simpa using Ne.symm hkey
      simpa [scriptOf, List.lookup_cons, hkey, hkey'] using ih

/-- The store has a body of which some bytes are left. -/
def HasBody (blobs : List (String × Bytes)) (body : BodyId) (data : Bytes) (x : ScriptedStore) :
    Prop :=
  x.script = scriptOf blobs ∧ ∃ key object position, x.bodies[body]?
    = some { key, object, left := { rest := data, position } } ∧ object.closeFault = none

theorem run_readBody {blobs : List (String × Bytes)} {body : BodyId} {data : Bytes}
    {x : ScriptedStore} (h : x.HasBody blobs body data) (room : Nat) :
    ∃ x', (readBody body room).run x = (.ok (data.take room), x') ∧
      x'.HasBody blobs body (data.drop room) := by
  obtain ⟨hscript, key, object, position, hbody, hclose⟩ := h
  let position' := position + (data.take room).length
  let left : Delivery := { rest := data.drop room, position := position' }
  refine ⟨{ x with bodies := x.bodies.set body { key, object, left } }, ?_, hscript, key, object,
    position', ?_, hclose⟩
  · simp only [Action.run, readBody, hbody]
    rfl
  · exact List.getElem?_set_self (List.getElem?_eq_some_iff.1 hbody).1

/-- A scripted store keeps the blobs that are its objects. -/
def keeps (bucket : Bucket) (blobs : List (String × Bytes)) : store.Keeps bucket blobs where
  Ready x := x.script = scriptOf blobs
  Serves _ x := x.script = scriptOf blobs
  Delivers _ := HasBody blobs
  enter {x} h := by
    refine ⟨x.clients, { x.record (.client bucket.endpoint) with clients := x.clients + 1 }, ?_, h⟩
    simp [Action.run, store, enter, record, h, scriptOf]
  headBucket {client x} h := by
    refine ⟨x.record (.headBucket bucket.name), ?_, h⟩
    simp [Action.run, store, headBucket, record, h, scriptOf]
  getObject {client x key data} hlookup h := by
    have hfind := find?_scriptOf blobs key
    rw [hlookup, ← h] at hfind
    refine ⟨x.bodies.length, { x.record (.getObject bucket.name key) with
      bodies := x.bodies ++ [{ key, object := objectOf data }] }, ?_, h, key, objectOf data, 0, ?_, rfl⟩
    · simp [Action.run, store, getObject, record, hfind, objectOf]
    · simp [objectOf]
  getObject_absent {client x key} hlookup h := by
    have hfind := find?_scriptOf blobs key
    rw [hlookup, ← h] at hfind
    refine ⟨.noSuchKey, x.record (.getObject bucket.name key), ?_, by decide, h⟩
    simp only [Action.run, store, getObject, record, hfind, Option.map_none]
  readBody {client body data x} room h := by
    obtain ⟨x', hrun, hnext⟩ := run_readBody h room
    refine ⟨data.take room, data.drop room, x', hrun, (List.take_append_drop room data).symm,
      List.length_take_le room data, fun hnone => ?_, hnext⟩
    exact List.take_eq_nil_iff.1 hnone
  closeBody {client body data x} h := by
    obtain ⟨hscript, key, object, position, hbody, hclose⟩ := h
    refine ⟨x.record (.closeBody key), ?_, hscript⟩
    simp only [Action.run, store, closeBody, record, hbody, hclose]
  exit h := h

theorem keeps_isInFull (bucket : Bucket) (blobs : List (String × Bytes)) :
    (keeps bucket blobs).IsInFull := by
  intro client body data x room h
  obtain ⟨x', hrun, -⟩ := run_readBody h room
  exact ⟨x', hrun⟩

end ScriptedStore

/-! ## Sparing stores -/

/-- The object store whose bodies deliver no more than a number of bytes at a time. -/
def ObjectStore.sparing (store : ObjectStore χ) (most : Nat) : ObjectStore χ where
  enter := store.enter
  exit := store.exit
  headBucket := store.headBucket
  getObject := store.getObject
  readBody := fun body room => store.readBody body (min room most)
  closeBody := store.closeBody
  pending := store.pending
  pending_readBody := fun body room => store.pending_readBody body (min room most)

/-- Blobs are kept just as well if less is delivered at a time, as long as it is something. -/
def ObjectStore.Keeps.sparing {store : ObjectStore χ} {bucket : Bucket}
    {blobs : List (String × Bytes)} (K : store.Keeps bucket blobs) {most : Nat} (hmost : 0 < most) :
    (store.sparing most).Keeps bucket blobs where
  Ready := K.Ready
  Serves := K.Serves
  Delivers := K.Delivers
  enter := K.enter
  headBucket := K.headBucket
  getObject := K.getObject
  getObject_absent := K.getObject_absent
  readBody room h := by
    obtain ⟨piece, rest, x', hrun, hsplit, hlength, hnone, hnext⟩ := K.readBody (min room most) h
    refine ⟨piece, rest, x', hrun, hsplit, by omega, fun hpiece => ?_, hnext⟩
    exact (hnone hpiece).imp_left fun hzero => by omega
  closeBody := K.closeBody
  exit := K.exit

end PhotoArchive
