import PhotoArchive.Proofs.Export.Agreement
import PhotoArchive.Proofs.Recording

/-!
# Recording changes nothing

An assembly whose storage and archive keep the calls made to them ends as it would end without, and
leaves the same behind.

## Main definitions

- `Action.Follows` — an action does what another one does, seen through a view of its state
- `Bench.forget`, `Workshop.forget` — the state without the calls
- `Workshop.recording` — a workshop whose storage has been called by nobody

## Main statements

- `Assembly.assemble_follows`, `Exporter.exportPhotos_follows` — with and without the calls, an
  assembly and an export do the same

## Design notes

A storage that keeps its calls agrees with the one that does not, for every key, and a gateway does
so as well. That assemblies and exports follow each other is what they do from storages that agree.
-/

namespace PhotoArchive

namespace Action

variable {σ τ κ α : Type} {view : τ → σ}

/-- An action does what another one does, seen through a view of its state. -/
def Follows (view : τ → σ) (a : Action τ α) (b : Action σ α) : Prop :=
  ∀ t, b.run (view t) = ((a.run t).1, view (a.run t).2)

/-- Actions that agree follow each other if what fits together with a state is its view. -/
theorem Keep.follows {fits : τ → σ → Prop} {a : Action τ α} {b : Action σ α} (h : Keep fits a b)
    (hfits : ∀ t s, fits t s ↔ view t = s) : Follows view a b := by
  intro t
  obtain ⟨houtcome, hstate⟩ := (h t (view t) ((hfits _ _).2 rfl)).fst_eq
  exact Prod.ext houtcome.symm ((hfits _ _).1 hstate).symm

/-- What is kept of a call does not show in the state and in the answer. -/
theorem recorded_agree (call : Except Failure α → κ) (a : Action σ α)
    {ok : α → α → Recorded σ κ → σ → Prop} {err : Recorded σ κ → σ → Prop}
    (hok : ∀ x s, ok x x s s.state) (herr : ∀ s, err s s.state) :
    Agree (fun s s' => s.state = s') (a.recorded call) a ok err := by
  rintro s _ rfl
  rw [run_recorded]
  rcases a.run s.state with ⟨e | x, state⟩
  · exact .failure (herr ⟨state, _⟩)
  · exact .value (hok x ⟨state, _⟩)

end Action

open PhotoArchive.Action

variable {σ τ : Type}

/-- A storage answers whether or not the calls are kept. -/
def BlobSource.recordedAgreement (source : BlobSource σ) :
    source.recorded.Agreement source Set.univ where
  Closed s s' := s.state = s'
  Idle session session' s s' := session = session' ∧ s.state = s'
  Reading session session' reader reader' s s' :=
    session = session' ∧ reader = reader' ∧ s.state = s'
  component_eq := rfl
  newSession := by
    rintro s _ rfl
    rcases hanswer : source.newSession s.state with ⟨refusal | session, state⟩
    · rw [source.newSession_recorded hanswer]
      exact .failure rfl
    · rw [source.newSession_recorded hanswer]
      exact .value ⟨rfl, rfl⟩
  openBlob := by
    rintro session _ key - s s' ⟨rfl, h⟩
    exact recorded_agree _ _ (fun _ _ => ⟨rfl, rfl, rfl, rfl⟩) (fun _ => ⟨rfl, rfl⟩) s s' h
  read := by
    rintro session _ reader _ room s s' ⟨rfl, rfl, h⟩
    exact recorded_agree _ _ (fun _ _ => ⟨rfl, rfl, rfl, rfl⟩) (fun _ => ⟨rfl, rfl, rfl⟩) s s' h
  closeReader := by
    rintro session _ reader _ s s' ⟨rfl, rfl, h⟩
    exact recorded_agree _ _ (fun _ _ => ⟨rfl, rfl⟩) (fun _ => ⟨rfl, rfl⟩) s s' h
  closeSession := by
    rintro session _ s s' ⟨rfl, h⟩
    exact recorded_agree _ _ (fun _ _ => rfl) (fun _ => rfl) s s' h

/-- An archive takes entries whether or not the calls are kept. -/
def ArchiveGateway.recordedAgreement (gateway : ArchiveGateway τ) :
    gateway.recorded.Agreement gateway where
  Fits t t' := t.state = t'
  create := by
    show Created _ (gateway.create.map _) _
    cases gateway.create with
    | ok t => exact .writers rfl
    | error e => exact .failure e
  openEntry _ _ := recorded_agree _ _ (fun _ _ => ⟨rfl, rfl⟩) fun _ => rfl
  write _ _ := recorded_agree _ _ (fun _ _ => ⟨rfl, rfl⟩) fun _ => rfl
  closeEntry _ := recorded_agree _ _ (fun _ _ => ⟨rfl, rfl⟩) fun _ => rfl
  finalize := by
    rintro t _ rfl
    rcases hanswer : gateway.finalize t.state with ⟨refusal | archive, state⟩ <;>
      simp only [recorded, hanswer]
    · exact .failure rfl
    · exact .value ⟨rfl, rfl⟩
  discard := recorded_agree _ _ (fun _ _ => ⟨rfl, rfl⟩) fun _ => rfl

namespace Assembly

/-- A bench without the calls. -/
def Bench.forget (b : Bench (Recorded σ StorageCall) (Recorded τ WriterCall)) : Bench σ τ :=
  { storage := b.storage.state, pool := b.pool, ledger := b.ledger, log := b.log
    writer := b.writer.state, taken := b.taken, written := b.written }

theorem Bench.alike_iff_forget {session : SessionId} {source : BlobSource σ}
    {gateway : ArchiveGateway τ} {b : Bench (Recorded σ StorageCall) (Recorded τ WriterCall)}
    {b' : Bench σ τ} :
    Bench.Alike (source.recordedAgreement.Idle session session) gateway.recordedAgreement.Fits b b' ↔
      b.forget = b' := by
  constructor
  · rintro ⟨⟨-, rfl⟩, rfl⟩
    rfl
  · rintro rfl
    exact .intro ⟨rfl, rfl⟩ rfl

theorem addEntries_follows (source : BlobSource σ) (gateway : ArchiveGateway τ)
    (session : SessionId) (references : List PhotoReference) :
    Follows Bench.forget (addEntries source.recorded gateway.recorded session references)
      (addEntries source gateway session references) :=
  (addEntries_keep source.recordedAgreement gateway.recordedAgreement
    fun _ _ => trivial).follows fun _ _ => Bench.alike_iff_forget

end Assembly

/-! ## Whole assemblies and exports -/

namespace Workshop

/-- A workshop without the calls. -/
def forget (w : Workshop (Recorded σ StorageCall) (Recorded τ WriterCall)) : Workshop σ τ :=
  { storage := w.storage.state, pool := w.pool, ledger := w.ledger, log := w.log
    writer := w.writer.map Recorded.state }

/-- A workshop that keeps the calls from now on. -/
def recording (w : Workshop σ τ) : Workshop (Recorded σ StorageCall) (Recorded τ WriterCall) :=
  { storage := { state := w.storage }, pool := w.pool, ledger := w.ledger, log := w.log
    writer := w.writer.map fun writer => { state := writer } }

@[simp] theorem forget_recording (w : Workshop σ τ) : w.recording.forget = w := by
  obtain ⟨storage, pool, ledger, log, writer⟩ := w
  cases writer <;> rfl

theorem alike_iff_forget {source : BlobSource σ} {gateway : ArchiveGateway τ}
    {w : Workshop (Recorded σ StorageCall) (Recorded τ WriterCall)} {w' : Workshop σ τ} :
    w.Alike source.recordedAgreement.Closed gateway.recordedAgreement.Fits w' ↔ w.forget = w' := by
  constructor
  · rintro ⟨rfl, hwriter⟩
    cases hwriter with
    | some h =>
      cases h
      rfl
    | none => rfl
  · rintro rfl
    obtain ⟨storage, pool, ledger, log, writer⟩ := w
    cases writer with
    | some writer => exact .intro rfl (.some rfl)
    | none => exact .intro rfl .none

end Workshop

/-- An assembly does the same with and without its calls being kept. -/
theorem Assembly.assemble_follows (source : BlobSource σ) (gateway : ArchiveGateway τ)
    (references : List PhotoReference) :
    Follows Workshop.forget (assemble source.recorded gateway.recorded references)
      (assemble source gateway references) :=
  (assemble_keep source.recordedAgreement gateway.recordedAgreement
    fun _ _ => trivial).follows fun _ _ => Workshop.alike_iff_forget

namespace Exporter

/-- An exporter that keeps the calls to its storage and its archives. -/
def recorded (e : Exporter σ τ) : Exporter (Recorded σ StorageCall) (Recorded τ WriterCall) :=
  { catalog := e.catalog, locator := e.locator, source := e.source.recorded
    gateway := e.gateway.recorded }

/-- An export does the same with and without its calls being kept. -/
theorem exportPhotos_follows (e : Exporter σ τ) (company : String) :
    Follows Workshop.forget (e.recorded.exportPhotos company) (e.exportPhotos company) :=
  (exportPhotos_keep e.recorded e e.source.recordedAgreement e.gateway.recordedAgreement rfl rfl
    fun _ _ _ _ => trivial).follows fun _ _ => Workshop.alike_iff_forget

end Exporter

end PhotoArchive
