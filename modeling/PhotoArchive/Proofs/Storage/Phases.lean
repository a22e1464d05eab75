import PhotoArchive.Proofs.Endings
import PhotoArchive.Proofs.Storage.Stock

/-!
# The phases of a storage

A storage has no session open, or one that waits for the next blob, or one that reads a blob. As long
as whatever is opened is closed again, calls lead from one of these phases to the next, whether they
are successful, fail or are cancelled.

## Main definitions

- `BlobSource.Phases` — what a storage is like between the calls to it
- `BlobSource.Phases.KeptBy` — a source that goes from phase to phase, however its calls end
- `BlobSource.Serves.phases` — the phases of a source that serves a stock
- `BlobSource.interrupted` — a source some calls to which are cancelled

## Main statements

- `BlobSource.Serves.Opens.keptBy` — a source that serves a stock keeps its phases
- `BlobSource.Phases.KeptBy.interrupted` — and so it does when calls are cancelled
- `BlobSource.Phases.KeptBy.agreement` — in its phases, a source agrees with itself
-/

namespace PhotoArchive

open PhotoArchive.Action

variable {σ ρ : Type}

/-! ## Phases -/

/-- What a storage is like when no session is open, between two blobs, and while a blob is read. -/
structure BlobSource.Phases (σ : Type) where
  Closed : σ → Prop
  Idle : SessionId → σ → Prop
  Reading : SessionId → ReaderId → σ → Prop

namespace BlobSource

/-- The source goes from phase to phase, however its calls end. -/
structure Phases.KeptBy (P : Phases σ) (source : BlobSource σ) : Prop where
  newSession : ∀ {s}, P.Closed s →
    (∃ session s', source.newSession s = (.ok session, s') ∧ P.Idle session s') ∨
    ∃ refusal s', source.newSession s = (.error refusal, s') ∧ P.Closed s'
  openBlob : ∀ {session s} key, P.Idle session s →
    (source.openBlob session key).Ends s (fun blob s' => P.Reading session blob.reader s')
      fun _ s' => P.Idle session s'
  read : ∀ {session reader} room, Preserves (P.Reading session reader) (source.read reader room)
  closeReader : ∀ {session reader s}, P.Reading session reader s →
    P.Idle session ((source.closeReader reader).run s).2
  closeSession : ∀ {session s}, P.Idle session s →
    P.Closed ((source.closeSession session).run s).2

/-- A source that keeps phases agrees with itself while it is in them. -/
def Phases.KeptBy.agreement {P : Phases σ} {source : BlobSource σ} (h : P.KeptBy source) :
    source.Agreement source Set.univ where
  Closed s₁ s₂ := s₁ = s₂ ∧ P.Closed s₁
  Idle session₁ session₂ s₁ s₂ := session₁ = session₂ ∧ s₁ = s₂ ∧ P.Idle session₁ s₁
  Reading session₁ session₂ reader₁ reader₂ s₁ s₂ :=
    session₁ = session₂ ∧ reader₁ = reader₂ ∧ s₁ = s₂ ∧ P.Reading session₁ reader₁ s₁
  component_eq := rfl
  newSession := by
    rintro s _ ⟨rfl, hclosed⟩
    obtain ⟨session, s', hnew, hidle⟩ | ⟨refusal, s', hnew, hclosed⟩ := h.newSession hclosed
    · rw [hnew]
      exact .value ⟨rfl, rfl, hidle⟩
    · rw [hnew]
      exact .failure ⟨rfl, hclosed⟩
  openBlob := by
    rintro session _ key - s _ ⟨rfl, rfl, hidle⟩
    have hends := h.openBlob key hidle
    rcases hrun : (source.openBlob session key).run s with ⟨e | blob, s'⟩
    · exact .failure ⟨rfl, rfl, hends.of_error hrun⟩
    · exact .value ⟨rfl, rfl, rfl, rfl, hends.of_ok hrun⟩
  read := by
    rintro session _ reader _ room s _ ⟨rfl, rfl, rfl, hreading⟩
    have hnext := h.read room s hreading
    rcases hrun : (source.read reader room).run s with ⟨e | data, s'⟩ <;> rw [hrun] at hnext
    · exact .failure ⟨rfl, rfl, rfl, hnext⟩
    · exact .value ⟨rfl, rfl, rfl, rfl, hnext⟩
  closeReader := by
    rintro session _ reader _ s _ ⟨rfl, rfl, rfl, hreading⟩
    have hidle := h.closeReader hreading
    rcases hrun : (source.closeReader reader).run s with ⟨e | _, s'⟩ <;> rw [hrun] at hidle
    · exact .failure ⟨rfl, rfl, hidle⟩
    · exact .value ⟨rfl, rfl, hidle⟩
  closeSession := by
    rintro session _ s _ ⟨rfl, rfl, hidle⟩
    have hclosed := h.closeSession hidle
    rcases hrun : (source.closeSession session).run s with ⟨e | _, s'⟩ <;> rw [hrun] at hclosed
    · exact .failure ⟨rfl, hclosed⟩
    · exact .value ⟨rfl, hclosed⟩

/-- The phases of a source that serves a stock. -/
def Serves.phases {source : BlobSource σ} {stock : Stock ρ} (S : source.Serves stock) :
    Phases σ where
  Closed := S.Closed
  Idle := S.Idle
  Reading session reader s := ∃ x, S.Reading session reader x s

theorem Serves.Opens.keptBy {source : BlobSource σ} {stock : Stock ρ} {S : source.Serves stock}
    {opening : Except Refusal Unit} (h : S.Opens opening) : S.phases.KeptBy source where
  newSession {s} hclosed := by
    cases opening with
    | ok _ => exact .inl (h.opened rfl hclosed)
    | error refusal => exact .inr ⟨refusal, h.refused rfl hclosed⟩
  openBlob {session s} key hidle := by
    cases hblob : stock.openBlob key with
    | ok blob =>
      obtain ⟨reader, s', hrun, hreading⟩ := S.openBlob hblob hidle
      exact ends_of_run_ok hrun ⟨blob.start, hreading⟩
    | error e =>
      obtain ⟨s', hrun, hidle⟩ := S.openBlob_refused hblob hidle
      exact ends_of_run_error hrun hidle
  read room s hreading := by
    obtain ⟨x, hreading⟩ := hreading
    obtain ⟨outcome, y, s', hrun, -, hnext⟩ := S.read room hreading
    rw [hrun]
    exact ⟨y, hnext⟩
  closeReader hreading := by
    obtain ⟨x, hreading⟩ := hreading
    obtain ⟨s', hrun, hidle⟩ := S.closeReader hreading
    rwa [hrun]
  closeSession hidle := by
    obtain ⟨s', hrun, hclosed⟩ := S.closeSession hidle
    rwa [hrun]

/-! ## Cancelled calls -/

section Interrupted

variable {α : Type} {a : Action σ α} {s : σ}

/-- Cancel an action before it is taken, if the state says so. -/
def unlessStopped (stop : σ → Option String) (a : Action σ α) : Action σ α := fun s =>
  match stop s with
  | some text => (.error (.cancelled text), s)
  | none => a.run s

/-- Take an action and cancel what comes behind it, if the state says so. -/
def thenStopped (stop : σ → Option String) (a : Action σ α) : Action σ α := fun s =>
  match stop s with
  | some text => (.error (.cancelled text), (a.run s).2)
  | none => a.run s

theorem run_unlessStopped_of_none {stop : σ → Option String} (h : stop s = none) :
    (unlessStopped stop a).run s = a.run s := by
  simp [run, unlessStopped, h]

theorem run_unlessStopped_of_some {stop : σ → Option String} {text : String}
    (h : stop s = some text) : (unlessStopped stop a).run s = (.error (.cancelled text), s) := by
  simp [run, unlessStopped, h]

/-- What was begun is ended, even if what comes behind it is cancelled. -/
theorem state_run_thenStopped (stop : σ → Option String) (a : Action σ α) (s : σ) :
    ((thenStopped stop a).run s).2 = (a.run s).2 := by
  simp only [run, thenStopped]
  cases stop s <;> rfl

/-- A source some calls to which are cancelled. What is open is closed all the same. -/
def interrupted (source : BlobSource σ) (stop : σ → Option String) : BlobSource σ where
  component := source.component
  newSession s :=
    match stop s with
    | some text => (.error { failure := .cancelled text }, s)
    | none => source.newSession s
  openBlob session key := unlessStopped stop (source.openBlob session key)
  read reader room := unlessStopped stop (source.read reader room)
  closeReader reader := thenStopped stop (source.closeReader reader)
  closeSession session := thenStopped stop (source.closeSession session)
  pending := source.pending
  pending_read reader room s data s' h hne := by
    cases hstop : stop s with
    | some text =>
      rw [run_unlessStopped_of_some hstop] at h
      cases h
    | none =>
      rw [run_unlessStopped_of_none hstop] at h
      exact source.pending_read reader room s data s' h hne

theorem Phases.KeptBy.interrupted {P : Phases σ} {source : BlobSource σ} (h : P.KeptBy source)
    (stop : σ → Option String) : P.KeptBy (source.interrupted stop) where
  newSession {s} hclosed := by
    simp only [BlobSource.interrupted]
    cases stop s with
    | some text => exact .inr ⟨_, s, rfl, hclosed⟩
    | none => exact h.newSession hclosed
  openBlob {session s} key hidle := by
    cases hstop : stop s with
    | some text => exact ends_of_run_error (run_unlessStopped_of_some hstop) hidle
    | none => exact (ends_congr (run_unlessStopped_of_none hstop)).2 (h.openBlob key hidle)
  read {session reader} room s hreading := by
    simp only [BlobSource.interrupted]
    cases hstop : stop s with
    | some text => rwa [run_unlessStopped_of_some hstop]
    | none =>
      rw [run_unlessStopped_of_none hstop]
      exact h.read room s hreading
  closeReader {session reader s} hreading := by
    rw [BlobSource.interrupted, state_run_thenStopped]
    exact h.closeReader hreading
  closeSession {session s} hidle := by
    rw [BlobSource.interrupted, state_run_thenStopped]
    exact h.closeSession hidle

end Interrupted

end BlobSource

end PhotoArchive
