import PhotoArchive.Proofs.Recording

/-!
# Custody of readers

A session hands out readers and remembers those that were not closed when the last one was opened.
When it is closed itself, it forgets them all and closes them in turn, up to the first one whose
closing fails. Which readers have been closed can be told from outside: those that were closed by
hand, and those that were closed in turn.

## Main definitions

- `ClosedInTurn` — readers are closed one after the other until closing one fails
- `Roster` — the readers that a session has handed out, and those that have been closed
- `BlobSource.Custody` — a source keeps the roster of a session
- `Uses` — what is asked of a session before it is closed, or afterwards
- `BlobSource.Life` — a session from its beginning to its end, in a world that changes
- `Account` — the readers that are closed when a session has been

## Main statements

- `BlobSource.Custody.run_closeInTurn` — the loop, over any readers of a roster
- `BlobSource.Custody.leads` — a roster along the calls of a session
- `BlobSource.Custody.account` — every reader is closed once, or left behind a closing that failed

## Design notes

The readers that a session remembers are not the ones that it will close: some of them may have been
closed by hand since. A roster only fixes those that have not.
-/

namespace PhotoArchive

open PhotoArchive.Action

variable {σ : Type}

/-! ## Closing in turn -/

/-- A reader that was closed, and how that ended. -/
structure Closing where
  reader : ReaderId
  answer : Except Failure Unit

/-- Readers are closed one after the other. When closing one of them fails, the readers behind it
are left, and that failure is the answer. -/
inductive ClosedInTurn :
    List ReaderId → List Closing → List ReaderId → Except Failure Unit → Prop
  | nil : ClosedInTurn [] [] [] (.ok ())
  | closed {reader : ReaderId} {readers left : List ReaderId} {turn : List Closing}
      {answer : Except Failure Unit} :
      ClosedInTurn readers turn left answer →
      ClosedInTurn (reader :: readers) (⟨reader, .ok ()⟩ :: turn) left answer
  | failed {reader : ReaderId} {readers : List ReaderId} {e : Failure} :
      ClosedInTurn (reader :: readers) [⟨reader, .error e⟩] readers (.error e)

namespace ClosedInTurn

variable {readers left : List ReaderId} {turn : List Closing} {answer : Except Failure Unit}

theorem eq_append (h : ClosedInTurn readers turn left answer) :
    readers = turn.map Closing.reader ++ left := by
  induction h with
  | nil => rfl
  | closed _ ih => exact congrArg _ ih
  | failed => rfl

/-- Nothing is left when no closing fails. -/
theorem left_eq_nil (h : ClosedInTurn readers turn left answer) (hanswer : answer = .ok ()) :
    left = [] := by
  induction h with
  | nil => rfl
  | closed _ ih => exact ih hanswer
  | failed => cases hanswer

theorem of_nil (h : ClosedInTurn [] turn left answer) : turn = [] ∧ left = [] := by
  cases h
  exact ⟨rfl, rfl⟩

end ClosedInTurn

/-- Close readers one after the other, up to the first one whose closing fails. -/
def BlobSource.closeInTurn (source : BlobSource σ) : List ReaderId → Action σ Unit
  | [] => .done ()
  | reader :: rest => do
    source.closeReader reader
    source.closeInTurn rest

/-! ## Rosters -/

/-- How far a session has come. -/
inductive Phase where
  | inUse
  | closing
  | ended
  deriving DecidableEq

/-- The readers that a session has handed out, and those that have been closed, oldest first. -/
structure Roster where
  phase : Phase := .inUse
  handed : List ReaderId := []
  closings : List Closing := []
  handed_nodup : handed.Nodup := by simp
  closed_nodup : (closings.map Closing.reader).Nodup := by simp
  closed_handed : ∀ c ∈ closings, c.reader ∈ handed := by simp

namespace Roster

variable {roster : Roster} {readers : List ReaderId} {reader : ReaderId} {c : Closing}

/-- The readers that have been closed. -/
def closed (roster : Roster) : List ReaderId := roster.closings.map Closing.reader

/-- The readers that the session would close now. -/
def due (roster : Roster) : List ReaderId :=
  match roster.phase with
  | .inUse => roster.handed.filter (· ∉ roster.closed)
  | .closing | .ended => []

theorem nodup_append_singleton (h : readers.Nodup) (hnew : reader ∉ readers) :
    (readers ++ [reader]).Nodup := by
  rw [List.nodup_append]
  refine ⟨h, by simp, ?_⟩
  intro other hother _ hsame
  rw [List.mem_singleton.1 hsame]
  rintro rfl
  exact hnew hother

/-- A reader is handed out. -/
def add (roster : Roster) (reader : ReaderId) (h : reader ∉ roster.handed) : Roster :=
  { roster with
    handed := roster.handed ++ [reader]
    handed_nodup := nodup_append_singleton roster.handed_nodup h
    closed_handed := fun c hc => List.mem_append_left _ (roster.closed_handed c hc) }

/-- A reader is closed for the first time. -/
def close (roster : Roster) (c : Closing) (hhanded : c.reader ∈ roster.handed)
    (hopen : c.reader ∉ roster.closed) : Roster :=
  { roster with
    closings := roster.closings ++ [c]
    closed_nodup := by
      rw [List.map_append]
      exact nodup_append_singleton roster.closed_nodup hopen
    closed_handed := by
      intro other hother
      rcases List.mem_append.1 hother with hold | hnew
      · exact roster.closed_handed other hold
      · rwa [List.mem_singleton.1 hnew] }

/-- The session comes to another phase. -/
def toPhase (roster : Roster) (phase : Phase) : Roster := { roster with phase }

theorem closed_close (hhanded : c.reader ∈ roster.handed) (hopen : c.reader ∉ roster.closed) :
    (roster.close c hhanded hopen).closed = roster.closed ++ [c.reader] :=
  List.map_append

theorem mem_handed_of_mem_closed (h : reader ∈ roster.closed) : reader ∈ roster.handed := by
  obtain ⟨c, hc, rfl⟩ := List.mem_map.1 h
  exact roster.closed_handed c hc

theorem mem_due : reader ∈ roster.due ↔
    roster.phase = .inUse ∧ reader ∈ roster.handed ∧ reader ∉ roster.closed := by
  unfold due
  cases roster.phase <;> simp

theorem due_eq_nil (h : roster.phase ≠ .inUse) : roster.due = [] := by
  unfold due
  cases hphase : roster.phase with
  | inUse => exact absurd hphase h
  | closing => rfl
  | ended => rfl

theorem due_nodup : roster.due.Nodup := by
  unfold due
  cases roster.phase with
  | inUse => exact roster.handed_nodup.filter _
  | closing => exact List.nodup_nil
  | ended => exact List.nodup_nil

/-- Of the readers that a session has handed out, those are left that had not been closed before and
are not closed in turn. -/
theorem mem_left_iff {turn : List Closing} {left : List ReaderId} {answer : Except Failure Unit}
    (hphase : roster.phase = .inUse) (h : ClosedInTurn roster.due turn left answer)
    (reader : ReaderId) :
    reader ∈ left ↔
      reader ∈ roster.handed ∧ reader ∉ roster.closed ∧ reader ∉ turn.map Closing.reader := by
  have hdue : reader ∈ roster.due ↔ reader ∈ turn.map Closing.reader ∨ reader ∈ left := by
    rw [h.eq_append, List.mem_append]
  constructor
  · intro hleft
    obtain ⟨-, hhanded, hopen⟩ := mem_due.1 (hdue.2 (.inr hleft))
    refine ⟨hhanded, hopen, fun hturn => ?_⟩
    exact (List.nodup_append.1 (h.eq_append ▸ roster.due_nodup)).2.2 reader hturn reader hleft rfl
  · rintro ⟨hhanded, hopen, hnot⟩
    exact (hdue.1 (mem_due.2 ⟨hphase, hhanded, hopen⟩)).resolve_left hnot

/-- What is due after a reader has been closed. -/
theorem due_close (hhanded : c.reader ∈ roster.handed) (hopen : c.reader ∉ roster.closed) :
    (roster.close c hhanded hopen).due = roster.due.filter (· ≠ c.reader) := by
  unfold due
  rw [closed_close]
  show (match roster.phase with | .inUse => _ | .closing | .ended => _) = _
  cases roster.phase with
  | inUse =>
    rw [List.filter_filter]
    apply List.filter_congr
    intro reader _
    simp [and_comm]
  | closing => rfl
  | ended => rfl

/-! ### What a session remembers -/

/-- A session remembers readers of its own, and all of those that it would have to close. -/
structure Remembers (roster : Roster) (readers : List ReaderId) : Prop where
  handed : ∀ r ∈ readers, r ∈ roster.handed
  due : readers.filter (· ∉ roster.closed) = roster.due

namespace Remembers

/-- A session that hands out a reader forgets those that are closed. -/
theorem add (h : roster.Remembers readers) (hphase : roster.phase = .inUse)
    (hnew : reader ∉ roster.handed) {isClosed : ReaderId → Bool}
    (hclosed : ∀ r ∈ roster.handed, isClosed r = decide (r ∈ roster.closed)) :
    (roster.add reader hnew).Remembers ((readers.filter fun r => !isClosed r) ++ [reader]) where
  handed r hr := by
    rcases List.mem_append.1 hr with hold | hr
    · exact List.mem_append_left _ (h.handed r (List.mem_filter.1 hold).1)
    · exact List.mem_append_right _ hr
  due := by
    have hnotClosed : reader ∉ roster.closed := fun hr => hnew (mem_handed_of_mem_closed hr)
    have hkept : (readers.filter fun r => !isClosed r) = readers.filter (· ∉ roster.closed) := by
      apply List.filter_congr
      intro r hr
      rw [hclosed r (h.handed r hr)]
      simp
    have hdue := h.due
    simp only [Roster.due, hphase] at hdue
    show (_ ++ [reader]).filter (· ∉ roster.closed)
      = match roster.phase with
        | .inUse => (roster.handed ++ [reader]).filter (· ∉ roster.closed)
        | .closing | .ended => []
    rw [hkept, hphase, List.filter_append, List.filter_append, List.filter_filter, ← hdue]
    simp only [Bool.and_self]

theorem close (h : roster.Remembers readers) (hhanded : c.reader ∈ roster.handed)
    (hopen : c.reader ∉ roster.closed) : (roster.close c hhanded hopen).Remembers readers where
  handed := h.handed
  due := by
    rw [due_close, ← h.due, closed_close, List.filter_filter]
    apply List.filter_congr
    intro r _
    simp [and_comm]

/-- A session that is being closed has forgotten its readers. -/
theorem nil {phase : Phase} (hphase : phase ≠ .inUse) : (roster.toPhase phase).Remembers [] where
  handed r hr := by cases hr
  due := (due_eq_nil hphase).symm

theorem toPhase (h : roster.Remembers readers) (hphase : roster.phase ≠ .inUse) {phase : Phase}
    (hnext : phase ≠ .inUse) : (roster.toPhase phase).Remembers readers where
  handed := h.handed
  due := by
    have hnil : (roster.toPhase phase).due = [] := due_eq_nil hnext
    rw [hnil, ← due_eq_nil hphase]
    exact h.due

end Remembers

end Roster

/-! ## Sources that keep rosters -/

/-- A source keeps the roster of a session, while the world may change in some ways between the
calls to it. -/
structure BlobSource.Custody (source : BlobSource σ) (session : SessionId) where
  Meanwhile : σ → σ → Prop
  Keeps : Roster → σ → Prop
  /-- A reader that is closed now is closed like this. -/
  EndsAs : σ → Closing → Prop
  /-- The readers that the session would go through if it were closed. -/
  remembered : σ → List ReaderId
  forget : σ → σ
  finish : Action σ Unit
  meanwhile : ∀ {roster s s'}, Keeps roster s → Meanwhile s s' → Keeps roster s'
  opened : ∀ {roster s s' key blob}, Keeps roster s → roster.phase = .inUse →
    (source.openBlob session key).run s = (.ok blob, s') →
    ∃ hnew, Keeps (roster.add blob.reader hnew) s'
  notOpened : ∀ {roster s s' key e}, Keeps roster s →
    (source.openBlob session key).run s = (.error e, s') → Keeps roster s'
  read : ∀ {roster s s' reader room answer}, Keeps roster s →
    (source.read reader room).run s = (answer, s') → Keeps roster s'
  closed : ∀ {roster s s' reader answer}, Keeps roster s → ∀ hhanded hopen,
    (source.closeReader reader).run s = (answer, s') →
    EndsAs s ⟨reader, answer⟩ ∧ Keeps (roster.close ⟨reader, answer⟩ hhanded hopen) s'
  closedAgain : ∀ {roster s reader}, Keeps roster s → reader ∈ roster.closed →
    (source.closeReader reader).run s = (.ok (), s)
  endsAs_closed : ∀ {s s' reader answer c}, (source.closeReader reader).run s = (answer, s') →
    EndsAs s' c → EndsAs s c
  endsAs_forget : ∀ {s c}, EndsAs (forget s) c → EndsAs s c
  remembers : ∀ {roster s}, Keeps roster s → roster.Remembers (remembered s)
  forgotten : ∀ {roster s} phase, Keeps roster s → phase ≠ .inUse →
    (roster.phase = .ended ↔ phase = .ended) → Keeps (roster.toPhase phase) (forget s)
  finished : ∀ {roster s}, Keeps roster s → roster.phase ≠ .inUse →
    ∃ s', finish.run s = (.ok (), s') ∧ Keeps (roster.toPhase .ended) s'
  closeSession_eq : ∀ s, (source.closeSession session).run s =
    ((source.closeInTurn (remembered s)).ensuring finish).run (forget s)

/-- Before a call the world may change. -/
def Later {κ : Type} (meanwhile : σ → σ → Prop) (answers : κ → σ → σ → Prop) (call : κ) (s s' : σ) :
    Prop :=
  ∃ m, meanwhile s m ∧ answers call m s'

/-- The reader that a call is meant to close. -/
def StorageCall.closed? : StorageCall → Option ReaderId
  | .closeReader reader _ => some reader
  | _ => none

/-- The readers that calls are meant to close. -/
def closedIn (calls : List StorageCall) : List ReaderId := calls.filterMap StorageCall.closed?

/-- What is asked of a session that has handed out some readers. Readers are read and closed at any
time; blobs are opened while the session is in use, and it is closed again when it is over. -/
inductive Uses (session : SessionId) (phase : Phase) :
    List ReaderId → List StorageCall → List ReaderId → Prop
  | nil {handed : List ReaderId} : Uses session phase handed [] handed
  | opened {handed handed' : List ReaderId} {calls : List StorageCall} {key : Path}
      {blob : OpenedBlob} :
      phase = .inUse → Uses session phase (handed ++ [blob.reader]) calls handed' →
      Uses session phase handed (.openBlob session key (.ok blob) :: calls) handed'
  | notOpened {handed handed' : List ReaderId} {calls : List StorageCall} {key : Path}
      {e : Failure} :
      Uses session phase handed calls handed' →
      Uses session phase handed (.openBlob session key (.error e) :: calls) handed'
  | read {handed handed' : List ReaderId} {calls : List StorageCall} {reader : ReaderId}
      {room : Nat} {answer : Except Failure Bytes} :
      reader ∈ handed → Uses session phase handed calls handed' →
      Uses session phase handed (.read reader room answer :: calls) handed'
  | closed {handed handed' : List ReaderId} {calls : List StorageCall} {reader : ReaderId}
      {answer : Except Failure Unit} :
      reader ∈ handed → Uses session phase handed calls handed' →
      Uses session phase handed (.closeReader reader answer :: calls) handed'
  | closedAgain {handed handed' : List ReaderId} {calls : List StorageCall}
      {answer : Except Failure Unit} :
      phase = .ended → Uses session phase handed calls handed' →
      Uses session phase handed (.closeSession session answer :: calls) handed'

/-- A session is opened and used, closed, and looked at afterwards: closed again, and its readers
read and closed. -/
structure BlobSource.Life (source : BlobSource σ) (meanwhile : σ → σ → Prop) (session : SessionId)
    (before : List StorageCall) (handed : List ReaderId) (answer : Except Failure Unit)
    (after : List StorageCall) (s m s' : σ) : Prop where
  used : ∃ s₀ s₁, source.newSession s = (.ok session, s₀) ∧
    Leads (Later meanwhile source.Answers) before s₀ s₁ ∧ meanwhile s₁ m
  closed : ∃ s₂, (source.closeSession session).run m = (answer, s₂) ∧
    Leads (Later meanwhile source.Answers) after s₂ s'
  uses_before : Uses session .inUse [] before handed
  uses_after : Uses session .ended handed after handed

/-- The readers that are closed when a session has been, each of them once: those that were closed
by hand, and in turn those that had not been. Of the readers behind a closing that failed only those
are closed that are closed by hand later, so that every reader is closed exactly if all of them
are. -/
structure Account (before : List StorageCall) (handed : List ReaderId)
    (answer : Except Failure Unit) (after : List StorageCall) (closings turn : List Closing)
    (left : List ReaderId) : Prop where
  nodup : (closings.map Closing.reader).Nodup
  infix_closings : turn <:+: closings
  inTurn : ClosedInTurn (handed.filter (· ∉ closedIn before)) turn left answer
  left_eq_nil : answer = .ok () → left = []
  mem_iff : ∀ r, r ∈ closings.map Closing.reader ↔ r ∈ handed ∧ (r ∈ left → r ∈ closedIn after)
  all_iff : (∀ r ∈ handed, r ∈ closings.map Closing.reader) ↔ ∀ r ∈ left, r ∈ closedIn after

namespace BlobSource.Custody

variable {source : BlobSource σ} {session : SessionId} (K : source.Custody session)
  {roster : Roster} {s s' : σ} {answer : Except Failure Unit}

/-- What a step leaves of a roster: the same readers in the same phase, and maybe more of them
closed. -/
structure Extends (roster : Roster) (phase : Phase) (closings : List Closing) (roster' : Roster) :
    Prop where
  phase_eq : roster'.phase = phase
  handed_eq : roster'.handed = roster.handed
  closings_eq : roster'.closings = roster.closings ++ closings

theorem run_closeInTurn {readers : List ReaderId} (hkeeps : K.Keeps roster s)
    (hhanded : ∀ r ∈ readers, r ∈ roster.handed)
    (hnodup : (readers.filter (· ∉ roster.closed)).Nodup)
    (hrun : (source.closeInTurn readers).run s = (answer, s')) :
    ∃ turn left roster', ClosedInTurn (readers.filter (· ∉ roster.closed)) turn left answer ∧
      Extends roster roster.phase turn roster' ∧ K.Keeps roster' s' ∧ ∀ c ∈ turn, K.EndsAs s c := by
  induction readers generalizing roster s with
  | nil =>
    cases hrun
    exact ⟨[], [], roster, .nil, ⟨rfl, rfl, (List.append_nil _).symm⟩, hkeeps, by simp⟩
  | cons reader rest ih =>
    have hrest : ∀ r ∈ rest, r ∈ roster.handed := fun r hr => hhanded r (List.mem_cons_of_mem _ hr)
    by_cases hclosed : reader ∈ roster.closed
    · -- A reader that was closed before is passed over.
      have hskip : (reader :: rest).filter (· ∉ roster.closed) = rest.filter (· ∉ roster.closed) :=
        List.filter_cons_of_neg (by simpa using hclosed)
      rw [hskip] at hnodup ⊢
      exact ih hkeeps hrest hnodup ((run_bind_ok (K.closedAgain hkeeps hclosed)).symm.trans hrun)
    · have hfirst : (reader :: rest).filter (· ∉ roster.closed)
          = reader :: rest.filter (· ∉ roster.closed) :=
        List.filter_cons_of_pos (by simpa using hclosed)
      rw [hfirst] at hnodup ⊢
      obtain ⟨hnot, hnodup⟩ := List.nodup_cons.1 hnodup
      have hreader := hhanded reader List.mem_cons_self
      rcases hclose : (source.closeReader reader).run s with ⟨e | u, s₁⟩
      · obtain ⟨hends, hkeeps₁⟩ := K.closed hkeeps hreader hclosed hclose
        cases (run_bind_error hclose).symm.trans hrun
        exact ⟨_, _, roster.close _ hreader hclosed, .failed, ⟨rfl, rfl, rfl⟩, hkeeps₁,
          by simpa using hends⟩
      · obtain ⟨hends, hkeeps₁⟩ := K.closed hkeeps hreader hclosed hclose
        let roster₁ := roster.close ⟨reader, .ok ()⟩ hreader hclosed
        -- The reader is not met again, so the others are as open as they were.
        have hsame : rest.filter (· ∉ roster₁.closed) = rest.filter (· ∉ roster.closed) := by
          apply List.filter_congr
          intro r hr
          have hne : r ∉ roster.closed → r ≠ reader := by
            rintro hopen rfl
            exact hnot (List.mem_filter.2 ⟨hr, by simpa using hopen⟩)
          have hmem : r ∈ roster₁.closed ↔ r ∈ roster.closed ∨ r = reader := by
            rw [Roster.closed_close]
            simp
          simp only [hmem, not_or, decide_eq_decide]
          exact ⟨fun h => h.1, fun h => ⟨h, hne h⟩⟩
        obtain ⟨turn, left, roster', hturn, hextends, hkeeps', hall⟩ :=
          ih hkeeps₁ hrest (hsame ▸ hnodup) ((run_bind_ok hclose).symm.trans hrun)
        rw [hsame] at hturn
        refine ⟨_ :: turn, left, roster', hturn.closed,
          ⟨hextends.phase_eq, hextends.handed_eq, ?_⟩, hkeeps', ?_⟩
        · rw [hextends.closings_eq]
          exact List.append_assoc _ [_] turn
        · intro c hc
          rcases List.mem_cons.1 hc with rfl | hc
          · exact hends
          · exact K.endsAs_closed hclose (hall c hc)

/-- Closing a session closes in turn what is due. -/
theorem run_closeSession (hkeeps : K.Keeps roster s)
    (hrun : (source.closeSession session).run s = (answer, s')) :
    ∃ turn left roster', ClosedInTurn roster.due turn left answer ∧
      Extends roster .ended turn roster' ∧ K.Keeps roster' s' ∧ ∀ c ∈ turn, K.EndsAs s c := by
  have hremembers := K.remembers hkeeps
  obtain ⟨phase, hphase, hended⟩ :
      ∃ phase, phase ≠ .inUse ∧ (roster.phase = .ended ↔ phase = Phase.ended) := by
    by_cases hended : roster.phase = .ended
    · exact ⟨.ended, by decide, by simp [hended]⟩
    · exact ⟨.closing, by decide, by simp [hended]⟩
  have hforgotten := K.forgotten phase hkeeps hphase hended
  rw [K.closeSession_eq] at hrun
  rcases hloop : (source.closeInTurn (K.remembered s)).run (K.forget s) with ⟨answer', s₁⟩
  obtain ⟨turn, left, roster₁, hturn, hextends, hkeeps₁, hends⟩ :=
    K.run_closeInTurn hforgotten hremembers.handed (hremembers.due ▸ roster.due_nodup) hloop
  obtain ⟨s₂, hfinish, hkeeps₂⟩ := K.finished hkeeps₁ (hextends.phase_eq ▸ hphase)
  cases (ensuring_ok hloop hfinish).symm.trans hrun
  refine ⟨turn, left, roster₁.toPhase .ended, ?_,
    ⟨rfl, hextends.handed_eq, hextends.closings_eq⟩, hkeeps₂, fun c hc => K.endsAs_forget (hends c hc)⟩
  rw [← hremembers.due]
  exact hturn

/-- What calls leave of a roster. -/
structure Advances (roster : Roster) (calls : List StorageCall) (handed : List ReaderId)
    (roster' : Roster) : Prop where
  phase_eq : roster'.phase = roster.phase
  handed_eq : roster'.handed = handed
  closings_prefix : roster.closings <+: roster'.closings
  mem_closed : ∀ r, r ∈ roster'.closed ↔ r ∈ roster.closed ∨ r ∈ closedIn calls

namespace Advances

variable {roster roster₁ roster' : Roster} {call : StorageCall} {calls : List StorageCall}
  {handed : List ReaderId}

/-- A call closes one reader more, or another one again. -/
theorem cons (h : Advances roster₁ calls handed roster') (hphase : roster₁.phase = roster.phase)
    (hclosings : roster.closings <+: roster₁.closings)
    (hclosed : ∀ r, r ∈ roster₁.closed ↔ r ∈ roster.closed ∨ call.closed? = some r) :
    Advances roster (call :: calls) handed roster' where
  phase_eq := h.phase_eq.trans hphase
  handed_eq := h.handed_eq
  closings_prefix := hclosings.trans h.closings_prefix
  mem_closed r := by
    rw [h.mem_closed, hclosed, closedIn, closedIn, List.mem_filterMap, List.mem_filterMap]
    simp [or_assoc]

/-- A call that closes no reader. -/
theorem cons_of_none (h : Advances roster₁ calls handed roster')
    (hphase : roster₁.phase = roster.phase) (hclosings : roster₁.closings = roster.closings)
    (hcall : call.closed? = none) : Advances roster (call :: calls) handed roster' := by
  refine h.cons hphase (hclosings ▸ List.prefix_rfl) fun r => ?_
  simp [Roster.closed, hclosings, hcall]

end Advances

/-- A roster along the calls of a session. -/
theorem leads {phase : Phase} {calls : List StorageCall} {handed₀ handed : List ReaderId}
    (huses : Uses session phase handed₀ calls handed) (hhanded : roster.handed = handed₀)
    (hphase : roster.phase = phase) (hkeeps : K.Keeps roster s)
    (hleads : Leads (Later K.Meanwhile source.Answers) calls s s') :
    ∃ roster', Advances roster calls handed roster' ∧ K.Keeps roster' s' := by
  induction huses generalizing roster s with
  | nil =>
    cases hleads
    exact ⟨roster, ⟨rfl, hhanded, List.prefix_rfl, by simp [closedIn]⟩, hkeeps⟩
  | opened hinUse _ ih =>
    rcases hleads with _ | ⟨⟨m, hmeanwhile, hcall⟩, hleads⟩
    obtain ⟨hnew, hnext⟩ := K.opened (K.meanwhile hkeeps hmeanwhile) (hphase.trans hinUse) hcall
    obtain ⟨roster', hadvances, hkeeps'⟩ :=
      @ih (roster.add _ hnew) _ (congrArg (· ++ _) hhanded) hphase hnext hleads
    exact ⟨roster', hadvances.cons_of_none rfl rfl rfl, hkeeps'⟩
  | notOpened _ ih =>
    rcases hleads with _ | ⟨⟨m, hmeanwhile, hcall⟩, hleads⟩
    have hnext := K.notOpened (K.meanwhile hkeeps hmeanwhile) hcall
    obtain ⟨roster', hadvances, hkeeps'⟩ := ih hhanded hphase hnext hleads
    exact ⟨roster', hadvances.cons_of_none rfl rfl rfl, hkeeps'⟩
  | read _ _ ih =>
    rcases hleads with _ | ⟨⟨m, hmeanwhile, hcall⟩, hleads⟩
    have hnext := K.read (K.meanwhile hkeeps hmeanwhile) hcall
    obtain ⟨roster', hadvances, hkeeps'⟩ := ih hhanded hphase hnext hleads
    exact ⟨roster', hadvances.cons_of_none rfl rfl rfl, hkeeps'⟩
  | @closed _ _ _ reader _ hreader _ ih =>
    rcases hleads with _ | ⟨⟨m, hmeanwhile, hcall⟩, hleads⟩
    have hm := K.meanwhile hkeeps hmeanwhile
    subst hhanded
    by_cases hclosed : reader ∈ roster.closed
    · cases (K.closedAgain hm hclosed).symm.trans hcall
      obtain ⟨roster', hadvances, hkeeps'⟩ := ih rfl hphase hm hleads
      refine ⟨roster', hadvances.cons rfl List.prefix_rfl fun r => ?_, hkeeps'⟩
      simp only [StorageCall.closed?, Option.some.injEq]
      exact ⟨.inl, fun h => h.elim id fun h => h ▸ hclosed⟩
    · obtain ⟨-, hnext⟩ := K.closed hm hreader hclosed hcall
      obtain ⟨roster', hadvances, hkeeps'⟩ :=
        @ih (roster.close _ hreader hclosed) _ rfl hphase hnext hleads
      refine ⟨roster', hadvances.cons rfl (List.prefix_append ..) fun r => ?_, hkeeps'⟩
      rw [Roster.closed_close]
      simp [StorageCall.closed?, eq_comm]
  | closedAgain hended _ ih =>
    rcases hleads with _ | ⟨⟨m, hmeanwhile, hcall⟩, hleads⟩
    obtain ⟨turn, left, roster₁, hturn, hextends, hnext, -⟩ :=
      K.run_closeSession (K.meanwhile hkeeps hmeanwhile) hcall
    -- Nothing is due in a session that is over.
    rw [Roster.due_eq_nil (by simp [hphase, hended])] at hturn
    obtain ⟨rfl, -⟩ := hturn.of_nil
    have hphase₁ := hextends.phase_eq.trans (hphase.trans hended).symm
    obtain ⟨roster', hadvances, hkeeps'⟩ := ih (hextends.handed_eq.trans hhanded)
      (hphase₁.trans hphase) hnext hleads
    refine ⟨roster', hadvances.cons_of_none hphase₁ ?_ rfl, hkeeps'⟩
    rw [hextends.closings_eq, List.append_nil]

/-- The account of a session, from its beginning to its end. -/
theorem account {before after : List StorageCall} {handed : List ReaderId} {m : σ}
    (hbegin : ∀ {s₀}, source.newSession s = (.ok session, s₀) → K.Keeps {} s₀)
    (hlife : source.Life K.Meanwhile session before handed answer after s m s') :
    ∃ turn left roster, Account before handed answer after roster.closings turn left ∧
      roster.phase = .ended ∧ roster.handed = handed ∧ K.Keeps roster s' ∧
      ∀ c ∈ turn, K.EndsAs m c := by
  obtain ⟨s₀, s₁, hnew, hbefore, hmeanwhile⟩ := hlife.used
  obtain ⟨s₂, hclose, hafter⟩ := hlife.closed
  obtain ⟨roster₁, hfirst, hkeeps₁⟩ :=
    K.leads hlife.uses_before rfl rfl (hbegin hnew) hbefore
  obtain ⟨turn, left, roster₂, hturn, hextends, hkeeps₂, hends⟩ :=
    K.run_closeSession (K.meanwhile hkeeps₁ hmeanwhile) hclose
  have hhanded₂ := hextends.handed_eq.trans hfirst.handed_eq
  obtain ⟨roster, hlast, hkeeps'⟩ :=
    K.leads hlife.uses_after hhanded₂ hextends.phase_eq hkeeps₂ hafter
  have hclosed₁ : ∀ r, r ∈ roster₁.closed ↔ r ∈ closedIn before := by
    intro r
    rw [hfirst.mem_closed]
    simp [Roster.closed]
  have hclosed₂ : roster₂.closed = roster₁.closed ++ turn.map Closing.reader := by
    rw [Roster.closed, hextends.closings_eq, List.map_append]
    rfl
  have hleft := Roster.mem_left_iff hfirst.phase_eq hturn
  have hmem_iff : ∀ r, r ∈ roster.closed ↔ r ∈ handed ∧ (r ∈ left → r ∈ closedIn after) := by
    intro r
    have hlater : r ∈ roster.closed ↔ r ∈ roster₂.closed ∨ r ∈ closedIn after := hlast.mem_closed r
    rw [hclosed₂, List.mem_append] at hlater
    constructor
    · intro hr
      refine ⟨hlast.handed_eq ▸ Roster.mem_handed_of_mem_closed hr, fun h => ?_⟩
      obtain ⟨-, hopen, hnot⟩ := (hleft r).1 h
      exact (hlater.1 hr).resolve_left fun hclosed => hclosed.elim hopen hnot
    · rintro ⟨hhanded, hhand⟩
      apply hlater.2
      by_cases hclosed : r ∈ roster₁.closed ∨ r ∈ turn.map Closing.reader
      · exact .inl hclosed
      · obtain ⟨hopen, hnot⟩ := not_or.1 hclosed
        exact .inr (hhand ((hleft r).2 ⟨hfirst.handed_eq.symm ▸ hhanded, hopen, hnot⟩))
  refine ⟨turn, left, roster, ⟨roster.closed_nodup, ?_, ?_, hturn.left_eq_nil, hmem_iff, ?_⟩,
    hlast.phase_eq.trans hextends.phase_eq, hlast.handed_eq, hkeeps', hends⟩
  · obtain ⟨late, hlate⟩ := hlast.closings_prefix
    exact ⟨roster₁.closings, late, hextends.closings_eq ▸ hlate⟩
  · have hsame : roster₁.due = handed.filter (· ∉ closedIn before) := by
      rw [Roster.due, hfirst.phase_eq, hfirst.handed_eq]
      simp [hclosed₁]
    rwa [← hsame]
  · constructor
    · intro hall r hr
      have hhanded : r ∈ handed := hfirst.handed_eq ▸ ((hleft r).1 hr).1
      exact ((hmem_iff r).1 (hall r hhanded)).2 hr
    · intro hall r hr
      exact (hmem_iff r).2 ⟨hr, hall r⟩

end BlobSource.Custody

end PhotoArchive
