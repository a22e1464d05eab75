import PhotoArchive.Proofs.Storage.Custody
import PhotoArchive.Proofs.Storage.Files
import PhotoArchive.Proofs.Storage.StoreCalls

/-!
# Sessions that are closed

Sessions on a directory and sessions on a bucket keep the same roster of readers. In a directory
each reader counts how often its file has been closed; below a bucket the calls to the object store
tell which bodies have been closed and which client has been exited.

## Main definitions

- `Directory.State.Meanwhile`, `Bucket.State.Meanwhile` — what may change between two calls
- `Directory.State.Keeps`, `Bucket.State.Keeps` — a state keeps the roster of a session
- `Directory.custody`, `Bucket.custody` — the calls keep it

## Main statements

- `closeSession_account` — which files and bodies are closed when a session has been, each of them
  once
- `not_forall_handed_closed` — behind a closing that fails, readers stay open

## Design notes

That closing a file fails is prescribed for its reader, and may be prescribed at any time. An object
store is free to answer as it likes, so its answers are read off the calls.
-/

namespace PhotoArchive

open PhotoArchive.Action

/-- What an element has in common with the one in its place. -/
theorem map_getElem?_set {α β : Type} {f : α → β} {xs : List α} {i : Nat} {x x' : α}
    (hx : xs[i]? = some x) (hsame : f x' = f x) (j : Nat) :
    ((xs.set i x')[j]?).map f = (xs[j]?).map f := by
  by_cases hj : i = j
  · subst hj
    rw [List.getElem?_set_self (List.getElem?_eq_some_iff.1 hx).1, hx]
    exact congrArg some hsame
  · rw [List.getElem?_set_ne hj]

/-- Nothing is done after an action. -/
theorem Action.ensuring_done {σ α : Type} (a : Action σ α) : a.ensuring (done ()) = a := rfl

/-! ## Directories -/

namespace Directory

namespace State

/-- How often the file of a reader has been closed. -/
def closings? (s : State) (reader : ReaderId) : Option Nat := (s.reader? reader).map Reader.closings

/-- How closing a reader ends. -/
def closeAnswer (s : State) (reader : ReaderId) : Except Failure Unit :=
  match (s.reader? reader).map Reader.closeFault with
  | some (some e) => .error e
  | _ => .ok ()

/-- Files change, and so does which reads and which closings fail; but files are only closed by the
calls. -/
structure Meanwhile (s s' : State) : Prop where
  sessions_eq : s'.sessions = s.sessions
  closings_eq : s'.readers.map Reader.closings = s.readers.map Reader.closings

/-- A session has closed the files of a roster once. -/
structure Keeps (session : SessionId) (roster : Roster) (s : State) : Prop where
  session_lt : session < s.sessions.length
  remembers : roster.Remembers (s.sessions.getD session [])
  closings_eq : ∀ r ∈ roster.handed, s.closings? r = some (roster.closed.count r)

variable {s s' : State} {session : SessionId} {roster : Roster} {reader : ReaderId}

theorem closings?_eq (s : State) (reader : ReaderId) :
    s.closings? reader = (s.readers.map Reader.closings)[reader]? := by
  rw [List.getElem?_map]
  rfl

theorem readerIsClosed_of_closings? {n : Nat} (h : s.closings? reader = some n) :
    s.readerIsClosed reader = decide (0 < n) := by
  obtain ⟨r, hr, rfl⟩ := Option.map_eq_some_iff.1 h
  simp only [readerIsClosed, hr, Option.map_some, Option.getD_some]
  rfl

namespace Keeps

theorem of_same (h : s.Keeps session roster) (hsessions : s'.sessions = s.sessions)
    (hclosings : ∀ r, s'.closings? r = s.closings? r) : s'.Keeps session roster where
  session_lt := hsessions ▸ h.session_lt
  remembers := hsessions ▸ h.remembers
  closings_eq r hr := (hclosings r).trans (h.closings_eq r hr)

theorem readerIsClosed_eq (h : s.Keeps session roster) {r : ReaderId} (hr : r ∈ roster.handed) :
    s.readerIsClosed r = decide (r ∈ roster.closed) := by
  rw [readerIsClosed_of_closings? (h.closings_eq r hr)]
  simp [List.count_pos_iff]

theorem addReader (h : s.Keeps session roster) (hphase : roster.phase = .inUse) (key : String)
    (file : Nat) :
    ∃ hnew, (s.addReader session key file).2.Keeps session
      (roster.add (s.addReader session key file).1.reader hnew) := by
  have hnew : s.readers.length ∉ roster.handed := by
    intro hold
    have hnone : s.closings? s.readers.length = none := by simp [closings?, reader?]
    exact absurd (hnone.symm.trans (h.closings_eq _ hold)) (by simp)
  have hreaders : (s.addReader session key file).2.readers.map Reader.closings
      = s.readers.map Reader.closings ++ [0] := by
    simp [State.addReader]
  refine ⟨hnew, ?_, ?_, fun r hr => ?_⟩
  · simpa [State.addReader] using h.session_lt
  · have hsession : (s.addReader session key file).2.sessions.getD session []
        = ((s.sessions.getD session []).filter fun r => !s.readerIsClosed r)
          ++ [s.readers.length] := by
      simp [State.addReader, List.getD_eq_getElem?_getD, List.getElem?_set_self h.session_lt]
    rw [hsession]
    exact h.remembers.add hphase hnew fun r hr => h.readerIsClosed_eq hr
  · rw [closings?_eq, hreaders]
    rcases List.mem_append.1 hr with hold | hr
    · have hclosings := h.closings_eq r hold
      rw [closings?_eq] at hclosings
      rw [List.getElem?_append_left (List.getElem?_eq_some_iff.1 hclosings).1]
      exact hclosings
    · have hnot : r ∉ roster.closed := by
        rw [List.mem_singleton.1 hr]
        exact fun hclosed => hnew (Roster.mem_handed_of_mem_closed hclosed)
      show _ = some (roster.closed.count r)
      rw [List.count_eq_zero_of_not_mem hnot, List.mem_singleton.1 hr]
      simp [State.addReader]

/-- A reader is closed. -/
theorem setReader (h : s.Keeps session roster) {c : Closing} (hhanded : c.reader ∈ roster.handed)
    (hopen : c.reader ∉ roster.closed) {r : Reader} (hr : s.reader? c.reader = some r) :
    (s.setReader c.reader { r with closings := r.closings + 1 }).Keeps session
      (roster.close c hhanded hopen) where
  session_lt := h.session_lt
  remembers := h.remembers.close hhanded hopen
  closings_eq other hother := by
    have hbefore := h.closings_eq other hother
    rw [Roster.closed_close, List.count_append]
    by_cases hsame : other = c.reader
    · rw [hsame, closings?, hr] at hbefore
      rw [hsame, closings?, reader?_setReader hr, List.count_singleton_self]
      exact congrArg (Option.map (· + 1)) hbefore
    · have hnone : [c.reader].count other = 0 :=
        List.count_eq_zero_of_not_mem (by simpa using hsame)
      rw [hnone]
      refine Eq.trans ?_ hbefore
      simp [closings?, State.setReader, reader?, List.getElem?_set_ne (Ne.symm hsame)]

end Keeps

/-- A directory keeps nothing of a session that is closed. -/
theorem Keeps.forget (h : s.Keeps session roster) {phase : Phase} (hphase : phase ≠ .inUse) :
    ({ s with sessions := s.sessions.set session [] } : State).Keeps session
      (roster.toPhase phase) where
  session_lt := by simpa using h.session_lt
  remembers := by
    simpa [List.getD_eq_getElem?_getD, List.getElem?_set_self h.session_lt]
      using Roster.Remembers.nil hphase
  closings_eq := h.closings_eq

end State

variable {root : FileName} {s s' : State} {session : SessionId} {roster : Roster}
  {reader : ReaderId} {answer : Except Failure Unit}

theorem closeReaders_eq (root : FileName) (readers : List ReaderId) :
    closeReaders readers = (source root).closeInTurn readers := by
  induction readers with
  | nil => rfl
  | cons reader rest ih =>
    show (closeReader reader >>= fun _ => closeReaders rest) = _
    rw [ih]
    rfl

theorem run_closeReader {r : Reader} (hr : s.reader? reader = some r) (hopen : r.closings = 0) :
    (closeReader reader).run s =
      (s.closeAnswer reader, s.setReader reader { r with closings := r.closings + 1 }) := by
  have hnot : r.isClosed = false := by simp [Reader.isClosed, hopen]
  simp only [run, closeReader, State.closeAnswer, hr, hnot, Option.map_some, Bool.false_eq_true,
    if_false]
  cases r.closeFault <;> rfl

/-- Reading leaves sessions and closings alone. -/
theorem read_frame {room : Nat} {answer : Except Failure Bytes}
    (h : (read reader room).run s = (answer, s')) :
    s'.sessions = s.sessions ∧ ∀ other, s'.closings? other = s.closings? other := by
  cases hr : s.reader? reader with
  | none =>
    simp only [run, read, hr] at h
    cases h
    exact ⟨rfl, fun _ => rfl⟩
  | some r =>
    simp only [run, read, hr] at h
    obtain ⟨position, buffer, hnext⟩ := readBuffered_snd (s.tree.content r.file) r room
    split at h
    · cases h
      exact ⟨rfl, fun _ => rfl⟩
    · split at h
      · cases h
        exact ⟨rfl, fun _ => rfl⟩
      · cases h
        rw [hnext]
        exact ⟨rfl, map_getElem?_set hr rfl⟩

/-- Closing a reader leaves alone how closing others ends. -/
theorem closeAnswer_closeReader (h : (closeReader reader).run s = (answer, s')) (other : ReaderId) :
    s'.closeAnswer other = s.closeAnswer other := by
  cases hclosed : s.readerIsClosed reader with
  | true =>
    cases (run_closeReader_of_closed hclosed).symm.trans h
    rfl
  | false =>
    cases hr : s.reader? reader with
    | none => simp [State.readerIsClosed, hr] at hclosed
    | some r =>
      have hopen : r.closings = 0 := by
        simpa [State.readerIsClosed, hr, Reader.isClosed] using hclosed
      cases (run_closeReader hr hopen).symm.trans h
      have hfault : ((s.setReader reader { r with closings := r.closings + 1 }).reader? other).map
          Reader.closeFault = (s.reader? other).map Reader.closeFault := by
        refine map_getElem?_set hr ?_ other
        rfl
      rw [State.closeAnswer, hfault, State.closeAnswer]

/-- A directory keeps the roster of each session. -/
def custody (root : FileName) (session : SessionId) : (source root).Custody session where
  Meanwhile := State.Meanwhile
  Keeps := State.Keeps session
  EndsAs s c := s.closeAnswer c.reader = c.answer
  remembered s := s.sessions.getD session []
  forget s := { s with sessions := s.sessions.set session [] }
  finish := .done ()
  meanwhile h hmeanwhile := h.of_same hmeanwhile.sessions_eq fun r => by
    rw [State.closings?_eq, State.closings?_eq, hmeanwhile.closings_eq]
  opened {roster s s' key blob} h hphase hrun := by
    simp only [run, source, openBlob] at hrun
    split at hrun
    · cases hrun
    · cases hrun
      exact h.addReader hphase _ _
  notOpened {roster s s' key e} h hrun := by
    simp only [run, source, openBlob] at hrun
    split at hrun
    · cases hrun
      exact h
    · cases hrun
  read h hrun := by
    obtain ⟨hsessions, hclosings⟩ := read_frame hrun
    exact h.of_same hsessions hclosings
  closed {roster s s' reader answer} h hhanded hopen hrun := by
    obtain ⟨r, hr, hclosings⟩ := Option.map_eq_some_iff.1 (h.closings_eq reader hhanded)
    rw [List.count_eq_zero_of_not_mem hopen] at hclosings
    cases (run_closeReader hr hclosings).symm.trans hrun
    exact ⟨rfl, h.setReader hhanded hopen hr⟩
  closedAgain {roster s reader} h hclosed := by
    apply run_closeReader_of_closed
    rw [h.readerIsClosed_eq (Roster.mem_handed_of_mem_closed hclosed)]
    exact decide_eq_true hclosed
  endsAs_closed hrun hends := (closeAnswer_closeReader hrun _).symm.trans hends
  endsAs_forget hends := hends
  remembers h := h.remembers
  forgotten phase h hphase _ := h.forget hphase
  finished {roster s} h hphase :=
    ⟨s, rfl, h.session_lt, h.remembers.toPhase hphase (by decide), h.closings_eq⟩
  closeSession_eq s := by
    show (closeReaders _).run _ = _
    rw [closeReaders_eq root, ensuring_done]

/-- A session begins without readers. -/
theorem keeps_newSession {s₀ : State} (h : newSession root s = (.ok session, s₀)) :
    s₀.Keeps session {} := by
  unfold newSession at h
  split at h
  · cases h
  · cases h
  · cases h
    have hremembered : (s.sessions ++ [[]]).getD s.sessions.length [] = [] := by
      simp [List.getD_eq_getElem?_getD]
    refine ⟨by simp, ?_, by simp⟩
    show Roster.Remembers {} ((s.sessions ++ [[]]).getD s.sessions.length [])
    rw [hremembered]
    exact ⟨by simp, rfl⟩

end Directory

/-! ## Buckets -/

/-- A call that closes a body, and its answer. -/
def StoreCall.closedBody? : StoreCall → Option (BodyId × Except Failure Unit)
  | .closeBody body answer => some (body, answer)
  | _ => none

namespace Bucket

variable {χ : Type}

namespace State

/-- The body that a closing closes, and how that ends. -/
def closedBody? (s : State χ) (c : Closing) : Option (BodyId × Except Failure Unit) :=
  ((s.reader? c.reader).map Reader.body).map fun body => (body, c.answer)

/-- The object store changes, but is only called through the bucket. -/
structure Meanwhile (s s' : State (Recorded χ StoreCall)) : Prop where
  sessions_eq : s'.sessions = s.sessions
  readers_eq : s'.readers = s.readers
  calls_eq : s'.store.calls = s.store.calls

/-- The calls of a session: its client is entered once, and exited once when the session is over;
and the bodies are closed whose readers are. -/
structure Logs (client : ClientId) (roster : Roster) (calls : List StoreCall) (s : State χ) :
    Prop where
  entered : calls.filterMap StoreCall.entered? = [client]
  exited : calls.filterMap StoreCall.exited? = if roster.phase = .ended then [client] else []
  bodies : (calls.filterMap StoreCall.closedBody?).map some = roster.closings.map s.closedBody?

/-- A session has closed the bodies of a roster once, and called its object store behind some other
calls. -/
structure Keeps (earlier : List StoreCall) (session : SessionId) (client : ClientId)
    (roster : Roster) (s : State (Recorded χ StoreCall)) : Prop where
  session_lt : session < s.sessions.length
  client_eq : (s.session session).client = client
  isEntered_eq : (s.session session).isEntered = decide (roster.phase ≠ .ended)
  remembers : roster.Remembers (s.session session).readers
  isClosed_eq : ∀ r ∈ roster.handed,
    (s.reader? r).map Reader.isClosed = some (decide (r ∈ roster.closed))
  calls_eq : ∃ calls, s.store.calls = earlier ++ calls ∧ s.Logs client roster calls

variable {client : ClientId} {roster : Roster} {calls earlier : List StoreCall}
  {session : SessionId} {reader : ReaderId} {c : Closing}

namespace Logs

variable {s s' : State χ}

/-- Bodies are closed by calls, whatever else becomes of the readers. -/
theorem of_bodies (h : s.Logs client roster calls)
    (hbodies : ∀ r ∈ roster.handed,
      (s'.reader? r).map Reader.body = (s.reader? r).map Reader.body) :
    s'.Logs client roster calls where
  entered := h.entered
  exited := h.exited
  bodies := by
    rw [h.bodies]
    apply List.map_congr_left
    intro c hc
    rw [closedBody?, closedBody?, hbodies c.reader (roster.closed_handed c hc)]

/-- A call that is only about what is in an object. -/
theorem append (h : s.Logs client roster calls) {call : StoreCall} (hentered : call.entered? = none)
    (hexited : call.exited? = none) (hbody : call.closedBody? = none) :
    s.Logs client roster (calls ++ [call]) where
  entered := by
    rw [List.filterMap_append, h.entered, List.filterMap_cons_none hentered]
    rfl
  exited := by
    rw [List.filterMap_append, h.exited, List.filterMap_cons_none hexited]
    exact List.append_nil _
  bodies := by
    rw [List.filterMap_append, List.filterMap_cons_none hbody]
    exact (congrArg _ (List.append_nil _)).trans h.bodies

theorem close (h : s.Logs client roster calls) (hhanded : c.reader ∈ roster.handed)
    (hopen : c.reader ∉ roster.closed) {r : Reader} (hr : s.reader? c.reader = some r) :
    s.Logs client (roster.close c hhanded hopen) (calls ++ [.closeBody r.body c.answer]) where
  entered := by
    rw [List.filterMap_append, h.entered]
    rfl
  exited := by
    rw [List.filterMap_append, h.exited]
    exact List.append_nil _
  bodies := by
    have hlast : s.closedBody? c = some (r.body, c.answer) := by
      simp [closedBody?, hr]
    show _ = (roster.closings ++ [c]).map s.closedBody?
    rw [List.filterMap_append, List.map_append, h.bodies, List.map_append, List.map_singleton,
      hlast]
    rfl

theorem exit (h : s.Logs client roster calls) (hphase : roster.phase ≠ .ended) :
    s.Logs client (roster.toPhase .ended) (calls ++ [.exit client]) where
  entered := by
    rw [List.filterMap_append, h.entered]
    rfl
  exited := by
    rw [List.filterMap_append, h.exited, if_neg hphase]
    rfl
  bodies := by
    rw [List.filterMap_append]
    exact (congrArg _ (List.append_nil _)).trans h.bodies

theorem toPhase (h : s.Logs client roster calls) {phase : Phase}
    (hended : roster.phase = .ended ↔ phase = .ended) :
    s.Logs client (roster.toPhase phase) calls where
  entered := h.entered
  exited := by
    rw [h.exited]
    exact if_congr hended rfl rfl
  bodies := h.bodies

end Logs

namespace Keeps

variable {s s' : State (Recorded χ StoreCall)}

/-- An object store changes, and may have been called about what is in an object. -/
theorem of_same (h : s.Keeps earlier session client roster) (hsessions : s'.sessions = s.sessions)
    (hreaders : s'.readers = s.readers)
    (hcalls : s'.store.calls = s.store.calls ∨ ∃ call : StoreCall, call.entered? = none ∧
      call.exited? = none ∧ call.closedBody? = none ∧ s'.store.calls = s.store.calls ++ [call]) :
    s'.Keeps earlier session client roster := by
  have hsession : s'.session session = s.session session := by
    rw [State.session, State.session, hsessions]
  have hreader : ∀ r, s'.reader? r = s.reader? r := by
    intro r
    rw [reader?, reader?, hreaders]
  obtain ⟨calls, heq, hlogs⟩ := h.calls_eq
  have hlogs' : s'.Logs client roster calls := hlogs.of_bodies fun r _ => by rw [hreader]
  refine ⟨hsessions ▸ h.session_lt, hsession ▸ h.client_eq, hsession ▸ h.isEntered_eq,
    hsession ▸ h.remembers, fun r hr => hreader r ▸ h.isClosed_eq r hr, ?_⟩
  rcases hcalls with hsame | ⟨call, hentered, hexited, hbody, hcall⟩
  · exact ⟨calls, hsame.trans heq, hlogs'⟩
  · refine ⟨calls ++ [call], ?_, hlogs'.append hentered hexited hbody⟩
    rw [hcall, heq, List.append_assoc]

theorem readerIsClosed_eq (h : s.Keeps earlier session client roster) {r : ReaderId}
    (hr : r ∈ roster.handed) : s.readerIsClosed r = decide (r ∈ roster.closed) := by
  rw [readerIsClosed, h.isClosed_eq r hr, Option.getD_some]

theorem addReader (h : s.Keeps earlier session client roster) (hphase : roster.phase = .inUse)
    (key : String) (object : ObjectBody) :
    ∃ hnew, (s.addReader session key object).2.Keeps earlier session client
      (roster.add (s.addReader session key object).1 hnew) := by
  have hlt : ∀ r ∈ roster.handed, r < s.readers.length := by
    intro r hr
    obtain ⟨_, hreader, -⟩ := Option.map_eq_some_iff.1 (h.isClosed_eq r hr)
    exact (List.getElem?_eq_some_iff.1 hreader).1
  have hnew : s.readers.length ∉ roster.handed := fun hold => Nat.lt_irrefl _ (hlt _ hold)
  have hsession : (s.addReader session key object).2.session session = _ :=
    session_setSession h.session_lt _
  have hold : ∀ r ∈ roster.handed,
      (s.addReader session key object).2.reader? r = s.reader? r := fun r hr =>
    List.getElem?_append_left (hlt r hr)
  obtain ⟨calls, heq, hlogs⟩ := h.calls_eq
  refine ⟨hnew, ?_, ?_, ?_, ?_, fun r hr => ?_, calls, heq, ?_⟩
  · simpa [State.addReader, setSession] using h.session_lt
  · rw [hsession]
    exact h.client_eq
  · rw [hsession]
    exact h.isEntered_eq
  · rw [hsession]
    exact h.remembers.add hphase hnew fun r hr => h.readerIsClosed_eq hr
  · rcases List.mem_append.1 hr with hr | hr
    · rw [hold r hr]
      exact h.isClosed_eq r hr
    · have hnot : r ∉ roster.closed := by
        rw [List.mem_singleton.1 hr]
        exact fun hclosed => hnew (Roster.mem_handed_of_mem_closed hclosed)
      show _ = some (decide (r ∈ roster.closed))
      rw [List.mem_singleton.1 hr, reader?_addReader, ← List.mem_singleton.1 hr]
      simp [hnot]
  · exact { hlogs.of_bodies fun r hr => by rw [hold r hr] with }

/-- A reader is closed, and its body by a call. -/
theorem close (h : s.Keeps earlier session client roster) (hhanded : c.reader ∈ roster.handed)
    (hopen : c.reader ∉ roster.closed) {r : Reader} (hr : s.reader? c.reader = some r) (x : χ) :
    (called { s with readers := s.readers.set c.reader { r with isClosed := true } } x
      (.closeBody r.body c.answer)).Keeps earlier session client
      (roster.close c hhanded hopen) := by
  obtain ⟨calls, heq, hlogs⟩ := h.calls_eq
  refine ⟨h.session_lt, h.client_eq, h.isEntered_eq, h.remembers.close hhanded hopen,
    fun other hother => ?_, calls ++ [.closeBody r.body c.answer], ?_, ?_⟩
  · rw [Roster.closed_close]
    by_cases hsame : other = c.reader
    · have hlt : c.reader < s.readers.length := (List.getElem?_eq_some_iff.1 hr).1
      simp [called, reader?, hsame, List.getElem?_set_self hlt]
    · have hbefore := h.isClosed_eq other hother
      simpa [called, reader?, hsame, List.getElem?_set_ne (Ne.symm hsame)] using hbefore
  · show s.store.calls ++ _ = _
    rw [heq, List.append_assoc]
  · refine (hlogs.close hhanded hopen hr).of_bodies fun other _ => ?_
    apply map_getElem?_set hr
    rfl

/-- A session forgets its readers. -/
theorem forget (h : s.Keeps earlier session client roster) {phase : Phase} (hphase : phase ≠ .inUse)
    (hended : roster.phase = .ended ↔ phase = .ended) :
    (s.setSession session { s.session session with readers := [] }).Keeps earlier session client
      (roster.toPhase phase) := by
  have hsession := session_setSession h.session_lt { s.session session with readers := [] }
  obtain ⟨calls, heq, hlogs⟩ := h.calls_eq
  refine ⟨?_, ?_, ?_, ?_, h.isClosed_eq, calls, heq, ?_⟩
  · simpa [setSession] using h.session_lt
  · rw [hsession]
    exact h.client_eq
  · rw [hsession]
    refine h.isEntered_eq.trans ?_
    exact decide_eq_decide.2 (not_congr hended)
  · rw [hsession]
    exact .nil hphase
  · exact (hlogs.toPhase hended).of_bodies fun _ _ => rfl

end Keeps

end State

variable {store : ObjectStore χ} {session : SessionId} {client : ClientId} {roster : Roster}
  {earlier : List StoreCall} {reader : ReaderId}

/-- The client of a session is exited at its end, unless it has been. -/
theorem run_exitClient_of_keeps {s : State (Recorded χ StoreCall)}
    (h : s.Keeps earlier session client roster) (hphase : roster.phase ≠ .inUse) :
    ∃ s', (exitClient store.recorded session).run s = (.ok (), s') ∧
      s'.Keeps earlier session client (roster.toPhase .ended) := by
  obtain ⟨calls, heq, hlogs⟩ := h.calls_eq
  have hremembers : (roster.toPhase .ended).Remembers (s.session session).readers :=
    h.remembers.toPhase hphase (by decide)
  by_cases hended : roster.phase = .ended
  · have hexited : (s.session session).isEntered = false := by simp [h.isEntered_eq, hended]
    refine ⟨s, ?_, h.session_lt, h.client_eq, ?_, hremembers, h.isClosed_eq, calls, heq, ?_⟩
    · simp [exitClient, hexited]
    · show _ = decide (Phase.ended ≠ .ended)
      exact hexited
    · exact hlogs.toPhase (by simp [hended])
  · have hentered : (s.session session).isEntered = true := by simp [h.isEntered_eq, hended]
    have hsession :=
      State.session_setSession h.session_lt { s.session session with isEntered := false }
    refine ⟨_, run_exitClient store.recorded hentered, ?_, ?_, ?_, ?_, h.isClosed_eq,
      calls ++ [.exit client], ?_, ?_⟩
    · simpa [State.setSession] using h.session_lt
    · exact (congrArg Session.client hsession).trans h.client_eq
    · exact (congrArg Session.isEntered hsession)
    · exact (congrArg (Roster.Remembers _ ∘ Session.readers) hsession).mpr hremembers
    · show s.store.calls ++ [.exit (s.session session).client] = _
      rw [heq, h.client_eq, List.append_assoc]
    · exact (hlogs.exit hended).of_bodies fun _ _ => rfl

theorem closeReaders_eq (store : ObjectStore χ) (bucket : Bucket) (readers : List ReaderId) :
    closeReaders store readers = (source store bucket).closeInTurn readers := by
  induction readers with
  | nil => rfl
  | cons reader rest ih =>
    show (closeReader store reader >>= fun _ => closeReaders store rest) = _
    rw [ih]
    rfl

/-- A bucket keeps the roster of each session, and its object store the calls. -/
def custody (store : ObjectStore χ) (bucket : Bucket) (session : SessionId) (client : ClientId)
    (earlier : List StoreCall) : (source store.recorded bucket).Custody session where
  Meanwhile := State.Meanwhile
  Keeps := State.Keeps earlier session client
  EndsAs _ _ := True
  remembered s := (s.session session).readers
  forget s := s.setSession session { s.session session with readers := [] }
  finish := exitClient store.recorded session
  meanwhile h hmeanwhile :=
    h.of_same hmeanwhile.sessions_eq hmeanwhile.readers_eq (.inl hmeanwhile.calls_eq)
  opened {roster s s' key blob} h hphase hrun := by
    replace hrun : (openBlob store.recorded bucket session key).run s = _ := hrun
    rw [run_openBlob] at hrun
    rcases hget : (store.getObject (s.session session).client bucket.name key.value).run
      s.store.state with ⟨e | object, x⟩
    · rw [State.run_getObject hget] at hrun
      cases hrun
    · rw [State.run_getObject hget] at hrun
      cases hrun
      have hcalled : (s.called x (.getObject (s.session session).client bucket.name key.value
        (.ok object))).Keeps earlier session client roster :=
        h.of_same rfl rfl (.inr ⟨_, rfl, rfl, rfl, rfl⟩)
      exact hcalled.addReader hphase _ _
  notOpened {roster s s' key e} h hrun := by
    replace hrun : (openBlob store.recorded bucket session key).run s = _ := hrun
    rw [run_openBlob] at hrun
    rcases hget : (store.getObject (s.session session).client bucket.name key.value).run
      s.store.state with ⟨e | object, x⟩
    · rw [State.run_getObject hget] at hrun
      cases hrun
      exact h.of_same rfl rfl (.inr ⟨_, rfl, rfl, rfl, rfl⟩)
    · rw [State.run_getObject hget] at hrun
      cases hrun
  read {roster s s' reader room answer} h hrun := by
    replace hrun : (read store.recorded reader room).run s = _ := hrun
    cases hr : s.reader? reader with
    | none =>
      simp only [run, read, hr] at hrun
      cases hrun
      exact h
    | some r =>
      rw [run_read hr] at hrun
      rcases hread : (store.readBody r.body room).run s.store.state with ⟨e | data, x⟩
      · rw [State.run_readBody hread] at hrun
        cases hrun
        exact h.of_same rfl rfl (.inr ⟨_, rfl, rfl, rfl, rfl⟩)
      · rw [State.run_readBody hread] at hrun
        cases hrun
        exact h.of_same rfl rfl (.inr ⟨_, rfl, rfl, rfl, rfl⟩)
  closed {roster s s' reader answer} h hhanded hopen hrun := by
    refine ⟨trivial, ?_⟩
    obtain ⟨r, hr, hclosed⟩ := Option.map_eq_some_iff.1 (h.isClosed_eq reader hhanded)
    rw [decide_eq_false hopen] at hclosed
    replace hrun := (run_closeReader store.recorded hr hclosed).symm.trans hrun
    rcases hclose : (store.closeBody r.body).run s.store.state with ⟨answer', x⟩
    let closed := { s with readers := s.readers.set reader { r with isClosed := true } }
    have hcall : (State.onStore (store.recorded.closeBody r.body)).run closed = _ :=
      State.run_closeBody hclose
    cases hcall.symm.trans hrun
    exact h.close hhanded hopen hr x
  closedAgain {roster s reader} h hclosed := by
    apply run_closeReader_of_closed
    rw [h.readerIsClosed_eq (Roster.mem_handed_of_mem_closed hclosed)]
    exact decide_eq_true hclosed
  endsAs_closed _ hends := hends
  endsAs_forget hends := hends
  remembers h := h.remembers
  forgotten phase h hphase hended := h.forget hphase hended
  finished h hphase := run_exitClient_of_keeps h hphase
  closeSession_eq s := by
    rw [← closeReaders_eq]
    rfl

/-- A session begins with its client entered and no readers. -/
theorem keeps_newSession {bucket : Bucket} {s s₀ : State (Recorded χ StoreCall)}
    (h : newSession store.recorded bucket s = (.ok session, s₀)) :
    ∃ client, s₀.Keeps s.store.calls session client {} := by
  unfold newSession at h
  rcases henter : (store.enter bucket.endpoint).run s.store.state with ⟨e | client, x⟩
  · rw [State.run_enter henter] at h
    cases h
  rw [State.run_enter henter] at h
  simp only at h
  rcases hhead : (store.headBucket client bucket.name).run x with ⟨e | u, y⟩
  · rw [State.run_headBucket (s := s.called x _) hhead] at h
    cases h
  · rw [State.run_headBucket (s := s.called x _) hhead] at h
    cases h
    let s₀ : State (Recorded χ StoreCall) :=
      { (s.called x (.enter bucket.endpoint (.ok client))).called y
          (.headBucket client bucket.name (.ok ())) with
        sessions := s.sessions ++ [({ client } : Session)] }
    have hsession : s₀.session s.sessions.length = { client } := by
      simp [s₀, State.session, List.getD_eq_getElem?_getD]
    refine ⟨client, by simp, congrArg Session.client hsession, congrArg Session.isEntered hsession,
      ?_, by simp, [.enter bucket.endpoint (.ok client), .headBucket client bucket.name (.ok ())],
      by simp [State.called], rfl, rfl, rfl⟩
    show Roster.Remembers {} (s₀.session s.sessions.length).readers
    rw [hsession]
    exact ⟨by simp, rfl⟩

end Bucket

/-! ## Every session -/

/-- What is closed of a session, in a directory or in a bucket: every reader that it has handed out,
once, but those behind the first one whose closing failed in turn that have not been closed by hand.
Closing a file fails as it was bound to; the client is exited once in any case. -/
theorem closeSession_account {χ : Type} {root : FileName} {store : ObjectStore χ} {bucket : Bucket}
    {session : SessionId} {before after : List StorageCall} {handed : List ReaderId}
    {answer : Except Failure Unit} {d m d' : Directory.State}
    {b n b' : Bucket.State (Recorded χ StoreCall)} :
    ((Directory.source root).Life Directory.State.Meanwhile session before handed answer after
        d m d' →
      ∃ closings turn left, Account before handed answer after closings turn left ∧
        (∀ c ∈ turn, m.closeAnswer c.reader = c.answer) ∧
        ∀ r ∈ handed, d'.closings? r = some ((closings.map Closing.reader).count r)) ∧
    ((Bucket.source store.recorded bucket).Life Bucket.State.Meanwhile session before handed answer
        after b n b' →
      ∃ closings turn left client calls, Account before handed answer after closings turn left ∧
        b'.store.calls = b.store.calls ++ calls ∧
        calls.filterMap StoreCall.entered? = [client] ∧
        calls.filterMap StoreCall.exited? = [client] ∧
        (calls.filterMap StoreCall.closedBody?).map some = closings.map b'.closedBody?) := by
  constructor
  · intro hlife
    obtain ⟨turn, left, roster, haccount, -, hhanded, hkeeps, hends⟩ :=
      (Directory.custody root session).account Directory.keeps_newSession hlife
    exact ⟨roster.closings, turn, left, haccount, hends, hhanded ▸ hkeeps.closings_eq⟩
  · intro hlife
    obtain ⟨b₀, -, hnew, -⟩ := hlife.used
    obtain ⟨client, hbegin⟩ := Bucket.keeps_newSession hnew
    let K := Bucket.custody store bucket session client b.store.calls
    have hkeeps₀ : ∀ {s₀}, (Bucket.source store.recorded bucket).newSession b = (.ok session, s₀) →
        K.Keeps {} s₀ := by
      intro s₀ hnew'
      cases hnew.symm.trans hnew'
      exact hbegin
    obtain ⟨turn, left, roster, haccount, hended, -, hkeeps, -⟩ := K.account hkeeps₀ hlife
    obtain ⟨calls, hcalls, hlogs⟩ := hkeeps.calls_eq
    exact ⟨roster.closings, turn, left, client, calls, haccount, hcalls, hlogs.entered,
      hlogs.exited.trans (if_pos hended), hlogs.bodies⟩

/-! ## Samples -/

/-- Two blobs are opened. -/
def sampleOpens : List StorageCall :=
  [.openBlob 0 ⟨"a", by decide⟩ (.ok { reader := 0, size := some 1 }),
    .openBlob 0 ⟨"b", by decide⟩ (.ok { reader := 1, size := some 1 })]

/-- In the end the second one is closed by hand, and the session once more. -/
def sampleAfter : List StorageCall := [.closeReader 1 (.ok ()), .closeSession 0 (.ok ())]

/-- How closing the first one fails. -/
def sampleFailure : Failure := .runtime "boom"

theorem uses_sampleOpens : Uses 0 .inUse [] sampleOpens [0, 1] := .opened rfl (.opened rfl .nil)

namespace Directory

/-- A tree with two files. -/
def sampleTree : FileTree where
  nodes := [(["store"], .directory), (["store", "a"], .file 0), (["store", "b"], .file 1)]
  contents := [[1], [2]]

def sampleRoot : FileName := .ofString "store"

/-- The tree while both files are read. -/
def sampleInUse (closeFault : Option Failure) : State where
  tree := sampleTree
  sessions := [[0, 1]]
  readers := [{ key := "a", file := 0, size := some 1, closeFault },
    { key := "b", file := 1, size := some 1 }]

theorem sampleNames : sampleRoot.text = "store" ∧
    (blobName sampleRoot ⟨"a", by decide⟩).text = "store/a" ∧
    (blobName sampleRoot ⟨"b", by decide⟩).text = "store/b" := by
  rw [blobName, blobName]
  decide

theorem resolve_sampleTree :
    sampleTree.resolve sampleRoot.text false = .ok (.directory (.inside ["store"])) ∧
    sampleTree.resolve (blobName sampleRoot ⟨"a", by decide⟩).text false = .ok (.file 0) ∧
    sampleTree.resolve (blobName sampleRoot ⟨"b", by decide⟩).text false = .ok (.file 1) := by
  have hlengths : ¬FileTree.maxName < FileName.size "store" ∧ ¬FileTree.maxName < FileName.size "a" ∧
      ¬FileTree.maxName < FileName.size "b" := by
    decide +kernel
  have hpieces : FileName.pieces "store" = ["store"] ∧ FileName.pieces "store/a" = ["store", "a"] ∧
      FileName.pieces "store/b" = ["store", "b"] := by
    decide +kernel
  obtain ⟨hroot, ha, hb⟩ := sampleNames
  rw [hroot, ha, hb]
  refine ⟨?_, ?_, ?_⟩ <;>
    rw [FileTree.resolve_of_pieces false (by decide) (by decide) (by decide +kernel)] <;>
    simp [hpieces, FileTree.walk, FileTree.node?, sampleTree, hlengths]

/-- The tree when both files have been closed. -/
def sampleEnd : State where
  tree := sampleTree
  sessions := [[]]
  readers := [
    { key := "a", file := 0, size := some 1, closings := 1, closeFault := some sampleFailure },
    { key := "b", file := 1, size := some 1, closings := 1 }]

/-- While both files are read, the first one comes to be such that it cannot be closed properly. -/
theorem life_sample : (source sampleRoot).Life State.Meanwhile 0 sampleOpens [0, 1]
    (.error sampleFailure) sampleAfter { tree := sampleTree } (sampleInUse (some sampleFailure))
    sampleEnd where
  used := by
    obtain ⟨hroot, ha, hb⟩ := resolve_sampleTree
    have hnew : newSession sampleRoot { tree := sampleTree }
        = (.ok 0, { tree := sampleTree, sessions := [[]] }) := by
      have hdirectory : sampleTree.isDirectory sampleRoot.text = .ok true := by
        rw [FileTree.isDirectory, hroot]
        rfl
      simp only [newSession, hdirectory]
      rfl
    have husable : FileName.refusal? "store/a" = none ∧ FileName.refusal? "store/b" = none := by
      decide +kernel
    have hfirst : (openBlob sampleRoot 0 ⟨"a", by decide⟩).run
        { tree := sampleTree, sessions := [[]] } = (.ok { reader := 0, size := some 1 },
          { tree := sampleTree
            sessions := [[0]]
            readers := [{ key := "a", file := 0, size := some 1 }] }) := by
      simp only [run, openBlob, findFile, FileTree.openFile, ha]
      rw [sampleNames.2.1, husable.1]
      rfl
    have hsecond : (openBlob sampleRoot 0 ⟨"b", by decide⟩).run
        { tree := sampleTree
          sessions := [[0]]
          readers := [{ key := "a", file := 0, size := some 1 }] }
        = (.ok { reader := 1, size := some 1 }, sampleInUse none) := by
      simp only [run, openBlob, findFile, FileTree.openFile, hb]
      rw [sampleNames.2.2, husable.2]
      rfl
    exact ⟨_, sampleInUse none, hnew,
      .cons ⟨_, ⟨rfl, rfl⟩, hfirst⟩ (.cons ⟨_, ⟨rfl, rfl⟩, hsecond⟩ (.nil _)), rfl, rfl⟩
  closed := ⟨{ sampleInUse (some sampleFailure) with
      sessions := [[]]
      readers := [
        { key := "a", file := 0, size := some 1, closings := 1, closeFault := some sampleFailure },
        { key := "b", file := 1, size := some 1 }] }, rfl,
    .cons ⟨_, ⟨rfl, rfl⟩, rfl⟩ (.cons ⟨_, ⟨rfl, rfl⟩, rfl⟩ (.nil _))⟩
  uses_before := uses_sampleOpens
  uses_after := .closed (by decide) (.closedAgain rfl .nil)

end Directory

namespace Bucket

/-- A store with two objects, the first of which has a body that cannot be closed properly. -/
def sampleStore : State (Recorded ScriptedStore StoreCall) where
  store := {
    state := {
      script := {
        objects := [
          ("a",
            { delivery := { rest := [1] }, length := some 1, closeFault := some sampleFailure }),
          ("b", { delivery := { rest := [2] }, length := some 1 })] } } }

/-- Photos in this store. -/
def sampleSource : BlobSource (State (Recorded ScriptedStore StoreCall)) :=
  source ScriptedStore.store.recorded { endpoint := "http://localhost:9000", name := "photos" }

/-- The store while both objects are read. -/
def sampleInUse : State (Recorded ScriptedStore StoreCall) :=
  let opens : Action _ OpenedBlob := do
    let _ ← sampleSource.openBlob 0 ⟨"a", by decide⟩
    sampleSource.openBlob 0 ⟨"b", by decide⟩
  (opens.run (sampleSource.newSession sampleStore).2).2

/-- The store after the session has been closed, which failed. -/
def sampleClosed : State (Recorded ScriptedStore StoreCall) :=
  ((sampleSource.closeSession 0).run sampleInUse).2

/-- The store when both bodies have been closed. -/
def sampleEnd : State (Recorded ScriptedStore StoreCall) :=
  ((sampleSource.closeReader 1).run sampleClosed).2

theorem life_sampleClosed : sampleSource.Life State.Meanwhile 0 sampleOpens [0, 1]
    (.error sampleFailure) [.closeSession 0 (.ok ())] sampleStore sampleInUse sampleClosed where
  used := ⟨_, sampleInUse, rfl, .cons ⟨_, ⟨rfl, rfl, rfl⟩, rfl⟩
    (.cons ⟨_, ⟨rfl, rfl, rfl⟩, rfl⟩ (.nil _)), rfl, rfl, rfl⟩
  closed := ⟨sampleClosed, rfl, .cons ⟨_, ⟨rfl, rfl, rfl⟩, rfl⟩ (.nil _)⟩
  uses_before := uses_sampleOpens
  uses_after := .closedAgain rfl .nil

theorem life_sample : sampleSource.Life State.Meanwhile 0 sampleOpens [0, 1]
    (.error sampleFailure) sampleAfter sampleStore sampleInUse sampleEnd where
  used := life_sampleClosed.used
  closed := ⟨sampleClosed, rfl, .cons ⟨_, ⟨rfl, rfl, rfl⟩, rfl⟩
    (.cons ⟨_, ⟨rfl, rfl, rfl⟩, rfl⟩ (.nil _))⟩
  uses_before := uses_sampleOpens
  uses_after := .closed (by decide) (.closedAgain rfl .nil)

end Bucket

theorem closeSession_account_sample :
    ((Directory.source Directory.sampleRoot).Life Directory.State.Meanwhile 0 sampleOpens [0, 1]
        (.error sampleFailure) sampleAfter { tree := Directory.sampleTree }
        (Directory.sampleInUse (some sampleFailure)) Directory.sampleEnd ∧
      ∃ closings turn left, Account sampleOpens [0, 1] (.error sampleFailure) sampleAfter closings
          turn left ∧
        ∀ r ∈ [0, 1], Directory.sampleEnd.closings? r
          = some ((closings.map Closing.reader).count r)) ∧
    Bucket.sampleSource.Life Bucket.State.Meanwhile 0 sampleOpens [0, 1] (.error sampleFailure)
      sampleAfter Bucket.sampleStore Bucket.sampleInUse Bucket.sampleEnd ∧
    ∃ closings turn left client calls,
      Account sampleOpens [0, 1] (.error sampleFailure) sampleAfter closings turn left ∧
      Bucket.sampleEnd.store.calls = Bucket.sampleStore.store.calls ++ calls ∧
      calls.filterMap StoreCall.exited? = [client] ∧
      (calls.filterMap StoreCall.closedBody?).map some
        = closings.map Bucket.sampleEnd.closedBody? := by
  have haccounts := @closeSession_account _ Directory.sampleRoot ScriptedStore.store
    { endpoint := "http://localhost:9000", name := "photos" } 0 sampleOpens sampleAfter [0, 1]
    (.error sampleFailure) { tree := Directory.sampleTree }
    (Directory.sampleInUse (some sampleFailure)) Directory.sampleEnd Bucket.sampleStore
    Bucket.sampleInUse Bucket.sampleEnd
  obtain ⟨closings, turn, left, haccount, -, hclosings⟩ := haccounts.1 Directory.life_sample
  obtain ⟨closings', turn', left', client, calls, haccount', hcalls, -, hexited, hbodies⟩ :=
    haccounts.2 Bucket.life_sample
  exact ⟨⟨Directory.life_sample, closings, turn, left, haccount, hclosings⟩, Bucket.life_sample,
    closings', turn', left', client, calls, haccount', hcalls, hexited, hbodies⟩

/-- When a reader fails to be closed, the ones behind it stay open, however often the session is
closed. -/
theorem not_forall_handed_closed :
    ¬ ∀ {bucket : Bucket} {session : SessionId} {before after : List StorageCall}
      {handed : List ReaderId} {answer : Except Failure Unit}
      {s m s' : Bucket.State (Recorded ScriptedStore StoreCall)},
      (Bucket.source ScriptedStore.store.recorded bucket).Life Bucket.State.Meanwhile session before
        handed answer after s m s' →
      ∀ reader ∈ handed, ∃ r answer, s'.reader? reader = some r ∧
        .closeBody r.body answer ∈ s'.store.calls := by
  intro h
  obtain ⟨r, answer, hr, hcall⟩ := h Bucket.life_sampleClosed 1 (by decide)
  have hbody : Bucket.sampleClosed.reader? 1 = some { key := "b", body := 1, size := some 1 } := rfl
  have hbodies : Bucket.sampleClosed.store.calls.filterMap StoreCall.closedBody?
      = [(0, .error sampleFailure)] := rfl
  cases hbody.symm.trans hr
  have hmem : (1, answer) ∈ Bucket.sampleClosed.store.calls.filterMap StoreCall.closedBody? :=
    List.mem_filterMap.2 ⟨_, hcall, rfl⟩
  rw [hbodies] at hmem
  simp at hmem

end PhotoArchive
