import PhotoArchive.Assembly

/-!
# Recorded calls

What an assembly asks of its storage and of its archive is seen from outside as a list of calls, each
with the answer that was given. A storage and an archive can be made to keep such a list; they answer
as before.

## Main definitions

- `StorageCall`, `WriterCall` — a call with its answer
- `Recorded` — a state with the calls that were made on it
- `Leads` — calls that lead from one state to another
- `BlobSource.Answers`, `ArchiveGateway.Answers` — what a call does to a state
- `BlobSource.recorded`, `ArchiveGateway.recorded` — the same operations on recorded states

## Main statements

- `BlobSource.calls_of_leads_recorded`, `ArchiveGateway.calls_of_leads_recorded` — a recorded state
  has exactly the calls that led to it, and the state beside it is where they lead

## Design notes

A step of an assembly is described by the calls that it makes, as a list that `Leads` from the state
before to the state after. That holds of every storage, and so of one that keeps its calls, whose
list can be nothing else.
-/

namespace PhotoArchive

/-! ## Calls -/

/-- A call to a storage, with its answer. -/
inductive StorageCall where
  | newSession (answer : Except Refusal SessionId)
  | openBlob (session : SessionId) (key : Path) (answer : Except Failure OpenedBlob)
  | read (reader : ReaderId) (room : Nat) (answer : Except Failure Bytes)
  | closeReader (reader : ReaderId) (answer : Except Failure Unit)
  | closeSession (session : SessionId) (answer : Except Failure Unit)

/-- A call to the writer of an archive, with its answer. -/
inductive WriterCall where
  | openEntry (name : Path) (size : Option Int) (answer : Except Failure Nat)
  | write (handle : Nat) (data : Bytes) (answer : Except Failure Unit)
  | closeEntry (handle : Nat) (answer : Except Failure Unit)
  | finalize (answer : Except Refusal ArchiveFile)
  | discard (answer : Except Failure (Option String))

/-- A state with the calls that were made on it, oldest first. -/
structure Recorded (σ κ : Type) where
  state : σ
  calls : List κ := []

/-! ## Where calls lead -/

/-- Calls lead from one state to another, each of them from the state that the one before left. -/
inductive Leads {κ σ : Type} (answers : κ → σ → σ → Prop) : List κ → σ → σ → Prop
  | nil (s : σ) : Leads answers [] s s
  | cons {call : κ} {calls : List κ} {s m s' : σ} :
      answers call s m → Leads answers calls m s' → Leads answers (call :: calls) s s'

namespace Leads

variable {κ σ ρ : Type} {answers : κ → σ → σ → Prop} {call : κ} {calls calls' : List κ}
  {s m s' : σ}

theorem single (h : answers call s s') : Leads answers [call] s s' := .cons h (.nil s')

theorem append (h : Leads answers calls s m) (h' : Leads answers calls' m s') :
    Leads answers (calls ++ calls') s s' := by
  induction h with
  | nil => exact h'
  | cons hc _ ih => exact .cons hc (ih h')

theorem of_append (h : Leads answers (calls ++ calls') s s') :
    ∃ m, Leads answers calls s m ∧ Leads answers calls' m s' := by
  induction calls generalizing s with
  | nil => exact ⟨s, .nil s, h⟩
  | cons call calls ih =>
    cases h with
    | cons hc hr =>
      obtain ⟨m, h₁, h₂⟩ := ih hr
      exact ⟨m, .cons hc h₁, h₂⟩

theorem of_cons (h : Leads answers (call :: calls) s s') :
    ∃ m, answers call s m ∧ Leads answers calls m s' := by
  cases h with
  | cons hc hr => exact ⟨_, hc, hr⟩

/-- Where one call goes is fixed by the answers. -/
theorem of_single (h : Leads answers [call] s s') : answers call s s' := by
  cases h with
  | cons hc hr =>
    cases hr
    exact hc

end Leads

/-! ## What calls do -/

/-- A storage gives a call its answer in one state and goes over to another. -/
def BlobSource.Answers {σ : Type} (source : BlobSource σ) : StorageCall → σ → σ → Prop
  | .newSession answer, s, s' => source.newSession s = (answer, s')
  | .openBlob session key answer, s, s' => (source.openBlob session key).run s = (answer, s')
  | .read reader room answer, s, s' => (source.read reader room).run s = (answer, s')
  | .closeReader reader answer, s, s' => (source.closeReader reader).run s = (answer, s')
  | .closeSession session answer, s, s' => (source.closeSession session).run s = (answer, s')

/-- A writer gives a call its answer in one state and goes over to another. -/
def ArchiveGateway.Answers {τ : Type} (gateway : ArchiveGateway τ) : WriterCall → τ → τ → Prop
  | .openEntry name size answer, t, t' => (gateway.openEntry name size).run t = (answer, t')
  | .write handle data answer, t, t' => (gateway.write handle data).run t = (answer, t')
  | .closeEntry handle answer, t, t' => (gateway.closeEntry handle).run t = (answer, t')
  | .finalize answer, t, t' => gateway.finalize t = (answer, t')
  | .discard answer, t, t' => gateway.discard.run t = (answer, t')

/-! ## Keeping the calls -/

/-- Take an action on a recorded state and record it with its outcome. -/
def Action.recorded {σ κ α : Type} (call : Except Failure α → κ) (a : Action σ α) :
    Action (Recorded σ κ) α := fun s =>
  match a.run s.state with
  | (outcome, state) => (outcome, { state, calls := s.calls ++ [call outcome] })

/-- The storage that keeps the calls made to it. -/
def BlobSource.recorded {σ : Type} (source : BlobSource σ) :
    BlobSource (Recorded σ StorageCall) where
  component := source.component
  newSession := fun s =>
    match source.newSession s.state with
    | (answer, state) => (answer, { state, calls := s.calls ++ [.newSession answer] })
  openBlob := fun session key => (source.openBlob session key).recorded (.openBlob session key)
  read := fun reader room => (source.read reader room).recorded (.read reader room)
  closeReader := fun reader => (source.closeReader reader).recorded (.closeReader reader)
  closeSession := fun session => (source.closeSession session).recorded (.closeSession session)
  pending := fun reader s => source.pending reader s.state
  pending_read := by
    intro reader room s data s' h hne
    simp only [Action.run, Action.recorded, Prod.mk.injEq] at h
    obtain ⟨hanswer, rfl⟩ := h
    exact source.pending_read reader room s.state data _ (Prod.ext hanswer rfl) hne

/-- The writer that keeps the calls made to it. -/
def ArchiveGateway.recorded {τ : Type} (gateway : ArchiveGateway τ) :
    ArchiveGateway (Recorded τ WriterCall) where
  create := gateway.create.map fun writer => { state := writer }
  openEntry := fun name size => (gateway.openEntry name size).recorded (.openEntry name size)
  write := fun handle data => (gateway.write handle data).recorded (.write handle data)
  closeEntry := fun handle => (gateway.closeEntry handle).recorded (.closeEntry handle)
  finalize := fun t =>
    match gateway.finalize t.state with
    | (answer, state) => (answer, { state, calls := t.calls ++ [.finalize answer] })
  discard := gateway.discard.recorded .discard

variable {σ τ κ α : Type}

/-- A recorded action has the outcome of the action, and leaves one more call behind. -/
theorem Action.run_recorded (call : Except Failure α → κ) (a : Action σ α) (s : Recorded σ κ) :
    (a.recorded call).run s =
      ((a.run s.state).1,
        { state := (a.run s.state).2, calls := s.calls ++ [call (a.run s.state).1] }) := rfl

theorem Action.of_run_recorded {call : Except Failure α → κ} {a : Action σ α} {s s' : Recorded σ κ}
    {answer : Except Failure α} (h : (a.recorded call).run s = (answer, s')) :
    a.run s.state = (answer, s'.state) ∧ s'.calls = s.calls ++ [call answer] := by
  rw [Action.run_recorded, Prod.mk.injEq] at h
  obtain ⟨rfl, rfl⟩ := h
  exact ⟨rfl, rfl⟩

theorem BlobSource.newSession_recorded {source : BlobSource σ} {s : Recorded σ StorageCall}
    {answer : Except Refusal SessionId} {state : σ} (h : source.newSession s.state = (answer, state)) :
    source.recorded.newSession s =
      (answer, { state, calls := s.calls ++ [.newSession answer] }) := by
  simp [recorded, h]

/-- One call to a storage that keeps its calls. -/
theorem BlobSource.of_answers_recorded {source : BlobSource σ} {call : StorageCall}
    {s s' : Recorded σ StorageCall} (h : source.recorded.Answers call s s') :
    source.Answers call s.state s'.state ∧ s'.calls = s.calls ++ [call] := by
  cases call with
  | newSession answer =>
    simp only [Answers, recorded, Prod.mk.injEq] at h
    obtain ⟨rfl, rfl⟩ := h
    exact ⟨rfl, rfl⟩
  | openBlob => exact Action.of_run_recorded h
  | read => exact Action.of_run_recorded h
  | closeReader => exact Action.of_run_recorded h
  | closeSession => exact Action.of_run_recorded h

/-- A storage that keeps its calls has kept the calls that led to its state, and no others. -/
theorem BlobSource.calls_of_leads_recorded {source : BlobSource σ} {calls : List StorageCall}
    {s s' : Recorded σ StorageCall} (h : Leads source.recorded.Answers calls s s') :
    Leads source.Answers calls s.state s'.state ∧ s'.calls = s.calls ++ calls := by
  induction h with
  | nil s => exact ⟨.nil s.state, by simp⟩
  | cons hc _ ih =>
    obtain ⟨hstep, hcalls⟩ := of_answers_recorded hc
    exact ⟨.cons hstep ih.1, by simp [ih.2, hcalls]⟩

/-- One call to a writer that keeps its calls. -/
theorem ArchiveGateway.of_answers_recorded {gateway : ArchiveGateway τ} {call : WriterCall}
    {t t' : Recorded τ WriterCall} (h : gateway.recorded.Answers call t t') :
    gateway.Answers call t.state t'.state ∧ t'.calls = t.calls ++ [call] := by
  cases call with
  | finalize answer =>
    simp only [Answers, recorded, Prod.mk.injEq] at h
    obtain ⟨rfl, rfl⟩ := h
    exact ⟨rfl, rfl⟩
  | openEntry => exact Action.of_run_recorded h
  | write => exact Action.of_run_recorded h
  | closeEntry => exact Action.of_run_recorded h
  | discard => exact Action.of_run_recorded h

/-- A writer that keeps its calls has kept the calls that led to its state, and no others. -/
theorem ArchiveGateway.calls_of_leads_recorded {gateway : ArchiveGateway τ}
    {calls : List WriterCall} {t t' : Recorded τ WriterCall}
    (h : Leads gateway.recorded.Answers calls t t') :
    Leads gateway.Answers calls t.state t'.state ∧ t'.calls = t.calls ++ calls := by
  induction h with
  | nil t => exact ⟨.nil t.state, by simp⟩
  | cons hc _ ih =>
    obtain ⟨hstep, hcalls⟩ := of_answers_recorded hc
    exact ⟨.cons hstep ih.1, by simp [ih.2, hcalls]⟩

end PhotoArchive
