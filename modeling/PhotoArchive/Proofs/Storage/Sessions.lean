import PhotoArchive.Proofs.Storage.Agreement
import PhotoArchive.Storage.Bucket

/-!
# Sessions on a bucket

A session on a bucket remembers readers that it closes when it is closed itself. As long as each
reader is closed before the next one is opened, there is nothing left to close, so two sessions on
object stores that serve some keys alike cannot be told apart either.

## Main definitions

- `Bucket.State.Attends` — a session is open, and of its readers at most one is not closed
- `Bucket.agreement` — two buckets serve alike what the stores below them serve alike

## Main statements

- `Bucket.State.Attends.addReader`, `Bucket.State.Attends.close` — a session along its readers
- `Bucket.run_closeSession` — closing a session without open readers only exits its client
-/

namespace PhotoArchive.Bucket

open PhotoArchive.Action

variable {χ : Type}

namespace State

/-- A session is open, and all its readers but the one that is being read are closed. -/
structure Attends (s : State χ) (id : SessionId) (reading : Option ReaderId) : Prop where
  isEntered : (s.session id).isEntered = true
  readers : ∀ r ∈ (s.session id).readers, reading = some r ∨ s.readerIsClosed r = true

variable {s : State χ} {id : SessionId} {reader : ReaderId} {reading : Option ReaderId}

/-- What sessions and readers are does not depend on the store. -/
theorem Attends.setStore (h : s.Attends id reading) (store : χ) :
    ({ s with store } : State χ).Attends id reading := ⟨h.isEntered, h.readers⟩

theorem session_setSession (hid : id < s.sessions.length) (session : Session) :
    (s.setSession id session).session id = session := by
  simp [State.session, State.setSession, List.getD_eq_getElem?_getD, List.getElem?_set_self hid]

theorem Attends.session_setSession (h : s.Attends id reading) (session : Session) :
    (s.setSession id session).session id = session := by
  apply State.session_setSession
  rcases Nat.lt_or_ge id s.sessions.length with hid | hid
  · exact hid
  · have hentered := h.isEntered
    simp [State.session, List.getD_eq_getElem?_getD, List.getElem?_eq_none hid] at hentered

/-- A new session has no readers. -/
theorem attends_new (s : State χ) (client : ClientId) :
    ({ s with sessions := s.sessions ++ [{ client }] } : State χ).Attends s.sessions.length
      none := by
  constructor <;> simp [State.session, List.getD_eq_getElem?_getD]

/-- A new reader is the only one that is not closed. -/
theorem Attends.addReader (h : s.Attends id none) (key : String) (object : ObjectBody) :
    (s.addReader id key object).2.Attends id (some (s.addReader id key object).1) := by
  have hsession : (s.addReader id key object).2.session id = _ := h.session_setSession _
  refine ⟨?_, fun r hr => ?_⟩
  · rw [hsession]
    exact h.isEntered
  · rw [hsession, List.mem_append, List.mem_filter, List.mem_singleton] at hr
    rcases hr with ⟨hold, hopen⟩ | rfl
    · -- The readers before were all closed, so the session remembers none of them.
      rcases h.readers r hold with hnone | hclosed
      · cases hnone
      · simp [hclosed] at hopen
    · exact .inl rfl

theorem Attends.client_addReader (h : s.Attends id reading) (key : String) (object : ObjectBody) :
    ((s.addReader id key object).2.session id).client = (s.session id).client := by
  have hsession : (s.addReader id key object).2.session id = _ := h.session_setSession _
  rw [hsession]

theorem reader?_addReader (s : State χ) (id : SessionId) (key : String) (object : ObjectBody) :
    (s.addReader id key object).2.reader? (s.addReader id key object).1
      = some { key, body := object.body, size := object.length } := by
  simp [State.addReader, State.reader?]

/-- When the reader is closed, all readers of the session are. -/
theorem Attends.close {r : Reader} (h : s.Attends id (some reader))
    (hr : s.reader? reader = some r) :
    ({ s with readers := s.readers.set reader { r with isClosed := true } } : State χ).Attends id
      none := by
  refine ⟨h.isEntered, fun other hother => .inr ?_⟩
  have hlength : reader < s.readers.length := (List.getElem?_eq_some_iff.1 hr).1
  by_cases hsame : reader = other
  · subst hsame
    simp [State.readerIsClosed, State.reader?, List.getElem?_set_self hlength]
  · rcases h.readers other hother with hreading | hclosed
    · exact absurd (Option.some.inj hreading) hsame
    · simpa [State.readerIsClosed, State.reader?, List.getElem?_set_ne hsame] using hclosed

end State

variable (store : ObjectStore χ) {s : State χ} {id : SessionId}

theorem run_openBlob (bucket : Bucket) (key : Path) :
    (openBlob store bucket id key).run s =
      match (State.onStore (store.getObject (s.session id).client bucket.name key.value)).run s with
      | (.error e, s) => (.error (openFailure key.value e), s)
      | (.ok object, s) =>
        (.ok { reader := (s.addReader id key.value object).1, size := object.length },
          (s.addReader id key.value object).2) := rfl

theorem run_closeReader {reader : ReaderId} {r : Reader} (hr : s.reader? reader = some r)
    (hopen : r.isClosed = false) :
    (closeReader store reader).run s = (State.onStore (store.closeBody r.body)).run
      { s with readers := s.readers.set reader { r with isClosed := true } } := by
  simp [run, closeReader, hr, hopen]

theorem run_closeReader_of_closed {reader : ReaderId} (h : s.readerIsClosed reader = true) :
    (closeReader store reader).run s = (.ok (), s) := by
  cases hr : s.reader? reader with
  | none => simp [run, closeReader, hr]
  | some r =>
    have hclosed : r.isClosed = true := by simpa [State.readerIsClosed, hr] using h
    simp [run, closeReader, hr, hclosed]

theorem run_closeReaders_of_closed {readers : List ReaderId}
    (h : ∀ r ∈ readers, s.readerIsClosed r = true) :
    (closeReaders store readers).run s = (.ok (), s) := by
  induction readers with
  | nil => rfl
  | cons reader rest ih =>
    have hfirst := run_closeReader_of_closed store (h reader List.mem_cons_self)
    refine (run_bind_ok hfirst).trans (ih fun r hr => ?_)
    exact h r (List.mem_cons_of_mem _ hr)

theorem run_exitClient (h : (s.session id).isEntered = true) :
    (exitClient store id).run s =
      (.ok (), { s.setSession id { s.session id with isEntered := false } with
        store := store.exit (s.session id).client s.store }) := by
  simp [exitClient, h]

theorem run_closeSession (h : s.Attends id none) :
    ∃ s', (closeSession store id).run s = (.ok (), s') ∧
      s'.store = store.exit (s.session id).client s.store := by
  have hsession := h.session_setSession { s.session id with readers := [] }
  have hclosed : ∀ r ∈ (s.session id).readers,
      (s.setSession id { s.session id with readers := [] }).readerIsClosed r = true := by
    intro r hr
    rcases h.readers r hr with hnone | hclosed
    · cases hnone
    · exact hclosed
  have hentered : ((s.setSession id { s.session id with readers := [] }).session id).isEntered
      = true := by
    rw [hsession]
    exact h.isEntered
  refine ⟨_, ensuring_ok (run_closeReaders_of_closed store hclosed)
    (run_exitClient store hentered), ?_⟩
  rw [hsession]
  rfl

/-! ## Two buckets -/

section Agreement

variable {χ₁ χ₂ : Type} {store₁ : ObjectStore χ₁} {store₂ : ObjectStore χ₂} {keys : Set String}
  (A : store₁.Agreement store₂ keys) {session₁ session₂ : SessionId} {reader₁ reader₂ : ReaderId}

/-- Two sessions wait for the next blob, on stores that fit together. -/
structure IdleAlike (session₁ session₂ : SessionId) (s₁ : State χ₁) (s₂ : State χ₂) : Prop where
  store : A.Idle s₁.store s₂.store
  left : s₁.Attends session₁ none
  right : s₂.Attends session₂ none

/-- Two sessions read the same blob, on stores that fit together. -/
structure ReadAlike (session₁ session₂ : SessionId) (reader₁ reader₂ : ReaderId) (s₁ : State χ₁)
    (s₂ : State χ₂) : Prop where
  left : s₁.Attends session₁ (some reader₁)
  right : s₂.Attends session₂ (some reader₂)
  readers : ∃ r₁ r₂, s₁.reader? reader₁ = some r₁ ∧ s₂.reader? reader₂ = some r₂ ∧
    r₁.isClosed = false ∧ r₂.isClosed = false ∧ r₁.key = r₂.key ∧
    A.Reading r₁.body r₂.body s₁.store s₂.store

theorem newSession_alike (bucket : Bucket) {s₁ : State χ₁} {s₂ : State χ₂}
    (h : A.Idle s₁.store s₂.store) :
    Alike (IdleAlike A) (fun s₁ s₂ => A.Idle s₁.store s₂.store)
      (newSession store₁ bucket s₁) (newSession store₂ bucket s₂) := by
  unfold newSession
  obtain ⟨client₁, client₂, x₁, x₂, henter₁, henter₂, hin⟩ | ⟨e, x₁, x₂, henter₁, henter₂, hin⟩ :=
    (A.enter bucket.endpoint _ _ h).cases
  · rw [State.run_onStore henter₁, State.run_onStore henter₂]
    simp only
    obtain ⟨_, _, y₁, y₂, hhead₁, hhead₂, hup⟩ | ⟨e, y₁, y₂, hhead₁, hhead₂, hdown⟩ :=
      (A.headBucket client₁ client₂ bucket.name _ _ hin).cases
    · rw [State.run_onStore hhead₁, State.run_onStore hhead₂]
      exact .value ⟨hup, State.attends_new _ _, State.attends_new _ _⟩
    · rw [State.run_onStore hhead₁, State.run_onStore hhead₂]
      by_cases hreach : IsReachFailure e
      · simp only [if_pos hreach]
        exact .failure (A.exit _ _ _ _ hdown)
      · simp only [if_neg hreach]
        exact .failure hdown
  · rw [State.run_onStore henter₁, State.run_onStore henter₂]
    exact .failure hin

theorem openBlob_agree (bucket : Bucket) (session₁ session₂ : SessionId) {key : Path}
    (hkey : key.value ∈ keys) :
    Agree (IdleAlike A session₁ session₂)
      (openBlob store₁ bucket session₁ key) (openBlob store₂ bucket session₂ key)
      (fun blob₁ blob₂ s₁ s₂ => blob₁.size = blob₂.size ∧
        ReadAlike A session₁ session₂ blob₁.reader blob₂.reader s₁ s₂)
      (IdleAlike A session₁ session₂) := by
  intro s₁ s₂ h
  rw [run_openBlob, run_openBlob]
  obtain ⟨object₁, object₂, x₁, x₂, hget₁, hget₂, hlength, hreading⟩ |
    ⟨e, x₁, x₂, hget₁, hget₂, hidle⟩ :=
    (A.getObject (s₁.session session₁).client (s₂.session session₂).client bucket.name key.value
      hkey _ _ h.store).cases
  · rw [State.run_onStore hget₁, State.run_onStore hget₂]
    have hr₁ := State.reader?_addReader { s₁ with store := x₁ } session₁ key.value object₁
    have hr₂ := State.reader?_addReader { s₂ with store := x₂ } session₂ key.value object₂
    exact .value ⟨hlength, (h.left.setStore x₁).addReader _ _, (h.right.setStore x₂).addReader _ _,
      _, _, hr₁, hr₂, rfl, rfl, rfl, hreading⟩
  · rw [State.run_onStore hget₁, State.run_onStore hget₂]
    exact .failure ⟨hidle, h.left.setStore x₁, h.right.setStore x₂⟩

theorem read_keep (session₁ session₂ : SessionId) (reader₁ reader₂ : ReaderId) (room : Nat) :
    Keep (ReadAlike A session₁ session₂ reader₁ reader₂)
      (read store₁ reader₁ room) (read store₂ reader₂ room) := by
  intro s₁ s₂ h
  obtain ⟨r₁, r₂, hr₁, hr₂, hopen₁, hopen₂, hkey, hreading⟩ := h.readers
  rw [run_read hr₁, run_read hr₂, hkey]
  obtain ⟨data, _, x₁, x₂, hread₁, hread₂, rfl, hnext⟩ | ⟨e, x₁, x₂, hread₁, hread₂, hnext⟩ :=
    (A.readBody r₁.body r₂.body room _ _ hreading).cases
  · rw [State.run_onStore hread₁, State.run_onStore hread₂]
    exact .value ⟨rfl, h.left.setStore x₁, h.right.setStore x₂,
      r₁, r₂, hr₁, hr₂, hopen₁, hopen₂, hkey, hnext⟩
  · rw [State.run_onStore hread₁, State.run_onStore hread₂]
    exact .failure ⟨h.left.setStore x₁, h.right.setStore x₂,
      r₁, r₂, hr₁, hr₂, hopen₁, hopen₂, hkey, hnext⟩

theorem closeReader_agree (session₁ session₂ : SessionId) (reader₁ reader₂ : ReaderId) :
    Agree (ReadAlike A session₁ session₂ reader₁ reader₂)
      (closeReader store₁ reader₁) (closeReader store₂ reader₂)
      (fun _ _ => IdleAlike A session₁ session₂) (IdleAlike A session₁ session₂) := by
  intro s₁ s₂ h
  obtain ⟨r₁, r₂, hr₁, hr₂, hopen₁, hopen₂, -, hreading⟩ := h.readers
  have hclose₁ := h.left.close hr₁
  have hclose₂ := h.right.close hr₂
  rw [run_closeReader store₁ hr₁ hopen₁, run_closeReader store₂ hr₂ hopen₂]
  -- Both readers count as closed, however closing their bodies ends.
  have hidle : ∀ x₁ x₂, A.Idle x₁ x₂ → IdleAlike A session₁ session₂ _ _ := fun x₁ x₂ hidle =>
    ⟨hidle, hclose₁.setStore x₁, hclose₂.setStore x₂⟩
  exact (A.closeBody r₁.body r₂.body _ _ hreading).map _ _ (fun _ _ => hidle) hidle

theorem closeSession_agree (session₁ session₂ : SessionId) :
    Agree (IdleAlike A session₁ session₂)
      (closeSession store₁ session₁) (closeSession store₂ session₂)
      (fun _ _ s₁ s₂ => A.Idle s₁.store s₂.store) (fun s₁ s₂ => A.Idle s₁.store s₂.store) := by
  intro s₁ s₂ h
  obtain ⟨s₁', hrun₁, hstore₁⟩ := run_closeSession store₁ h.left
  obtain ⟨s₂', hrun₂, hstore₂⟩ := run_closeSession store₂ h.right
  rw [hrun₁, hrun₂]
  refine .value ?_
  rw [hstore₁, hstore₂]
  exact A.exit _ _ _ _ h.store

/-- Buckets serve the blobs alike whose objects the stores below them serve alike. -/
def agreement (bucket : Bucket) : (source store₁ bucket).Agreement (source store₂ bucket) keys where
  Closed s₁ s₂ := A.Idle s₁.store s₂.store
  Idle := IdleAlike A
  Reading := ReadAlike A
  component_eq := rfl
  newSession _ _ := newSession_alike A bucket
  openBlob session₁ session₂ _ := openBlob_agree A bucket session₁ session₂
  read := read_keep A
  closeReader := closeReader_agree A
  closeSession := closeSession_agree A

end Agreement

/-- Two scripted object stores below buckets agree; sessions and readers before may differ. -/
def State.AgreesOn (keys : Set String) (s₁ s₂ : State ScriptedStore) : Prop :=
  s₁.store.AgreesOn keys s₂.store

end PhotoArchive.Bucket
