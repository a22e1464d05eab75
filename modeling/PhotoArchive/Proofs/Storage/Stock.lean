import PhotoArchive.Proofs.Assembly.Correspondence
import PhotoArchive.Storage.Scripted

/-!
# What a storage has in stock

A storage serves a stock if all its answers about a key, and about the reader of a blob, are those of
the stock, whatever was asked of it before. What it remembers beyond that, numbers of sessions and
readers or a record of what was asked, does not show in its answers.

## Main definitions

- `Stock` — what there is under each key, and how it is read
- `Stock.IsExact` — the answers to reads are determined
- `BlobSource.Serves` — a source whose answers are those of a stock
- `BlobSource.Serves.Opens` — its sessions are always opened with the same outcome
- `Scripted.Script.stock`, `Scripted.serves` — the stock of a script

## Main statements

- `BlobSource.Serves.correspondenceOn` — sources with the same blobs under some keys
- `BlobSource.Serves.correspondence`, `BlobSource.Serves.isInStep` — sources with the same stock

## Design notes

The type `ρ` tells how far a blob has been read. How a read may end is a relation, so that a stock can
leave open in which pieces a blob is delivered.
-/

namespace PhotoArchive

open PhotoArchive.Action

variable {σ σ₁ σ₂ ρ : Type}

/-! ## Stocks -/

/-- A blob in stock: the size that it is said to have, and where its readers begin. -/
structure Stock.Blob (ρ : Type) where
  size : Option Int
  start : ρ
  deriving DecidableEq

/-- What there is under each key, how it is read, and how closing a reader or a session ends. -/
structure Stock (ρ : Type) where
  openBlob : Path → Except Failure (Stock.Blob ρ)
  /-- How a read may end, given how many bytes there is room for, and where the reader is then. -/
  Reads : ρ → Nat → Except Failure Bytes → ρ → Prop
  closeReader : ρ → Except Failure Unit
  closeSession : Except Failure Unit

/-- There is only one way in which a read can end. -/
def Stock.IsExact (stock : Stock ρ) : Prop :=
  ∀ {x room outcome outcome' y y'}, stock.Reads x room outcome y → stock.Reads x room outcome' y' →
    outcome = outcome' ∧ y = y'

/-- Two stocks have the same blobs under some keys, and close alike what is open. -/
structure Stock.AgreesOn (stock₁ stock₂ : Stock ρ) (keys : Set String) : Prop where
  openBlob : ∀ key : Path, key.value ∈ keys → stock₁.openBlob key = stock₂.openBlob key
  closeReader : stock₁.closeReader = stock₂.closeReader
  closeSession : stock₁.closeSession = stock₂.closeSession

theorem Stock.AgreesOn.refl (stock : Stock ρ) (keys : Set String) : stock.AgreesOn stock keys :=
  ⟨fun _ _ => rfl, rfl, rfl⟩

/-- A source that answers as a stock says, whatever was asked of it before. -/
structure BlobSource.Serves (source : BlobSource σ) (stock : Stock ρ) where
  /-- No session is open. -/
  Closed : σ → Prop
  /-- A session waits for the next blob. -/
  Idle : SessionId → σ → Prop
  /-- A session reads a blob. -/
  Reading : SessionId → ReaderId → ρ → σ → Prop
  openBlob : ∀ {session key blob s}, stock.openBlob key = .ok blob → Idle session s →
    ∃ reader s', (source.openBlob session key).run s = (.ok { reader, size := blob.size }, s') ∧
      Reading session reader blob.start s'
  openBlob_refused : ∀ {session key e s}, stock.openBlob key = .error e → Idle session s →
    ∃ s', (source.openBlob session key).run s = (.error e, s') ∧ Idle session s'
  read : ∀ {session reader x s} room, Reading session reader x s →
    ∃ outcome y s', (source.read reader room).run s = (outcome, s') ∧
      stock.Reads x room outcome y ∧ Reading session reader y s'
  closeReader : ∀ {session reader x s}, Reading session reader x s →
    ∃ s', (source.closeReader reader).run s = (stock.closeReader x, s') ∧ Idle session s'
  closeSession : ∀ {session s}, Idle session s →
    ∃ s', (source.closeSession session).run s = (stock.closeSession, s') ∧ Closed s'

namespace BlobSource.Serves

variable {source : BlobSource σ} {source₁ : BlobSource σ₁} {source₂ : BlobSource σ₂}
  {stock : Stock ρ}

/-- Sessions are always opened with the same outcome. -/
structure Opens (S : source.Serves stock) (outcome : Except Refusal Unit) : Prop where
  opened : ∀ {s}, outcome = .ok () → S.Closed s →
    ∃ session s', source.newSession s = (.ok session, s') ∧ S.Idle session s'
  refused : ∀ {refusal s}, outcome = .error refusal → S.Closed s →
    ∃ s', source.newSession s = (.error refusal, s') ∧ S.Closed s'

theorem newSession_alike {S₁ : source₁.Serves stock} {S₂ : source₂.Serves stock}
    {outcome : Except Refusal Unit} (h₁ : S₁.Opens outcome) (h₂ : S₂.Opens outcome) {s₁ : σ₁}
    {s₂ : σ₂} (hclosed₁ : S₁.Closed s₁) (hclosed₂ : S₂.Closed s₂) :
    Alike (fun session₁ session₂ s₁ s₂ => S₁.Idle session₁ s₁ ∧ S₂.Idle session₂ s₂)
      (fun s₁ s₂ => S₁.Closed s₁ ∧ S₂.Closed s₂)
      (source₁.newSession s₁) (source₂.newSession s₂) := by
  cases outcome with
  | ok u =>
    obtain ⟨session₁, s₁', hnew₁, hidle₁⟩ := h₁.opened rfl hclosed₁
    obtain ⟨session₂, s₂', hnew₂, hidle₂⟩ := h₂.opened rfl hclosed₂
    rw [hnew₁, hnew₂]
    exact .value ⟨hidle₁, hidle₂⟩
  | error refusal =>
    obtain ⟨s₁', hnew₁, hclosed₁⟩ := h₁.refused rfl hclosed₁
    obtain ⟨s₂', hnew₂, hclosed₂⟩ := h₂.refused rfl hclosed₂
    rw [hnew₁, hnew₂]
    exact .failure ⟨hclosed₁, hclosed₂⟩

/-- Sources whose stocks agree on some keys correspond there, even if they deliver their blobs in other
pieces. -/
def correspondenceOn {stock₁ stock₂ : Stock ρ} (S₁ : source₁.Serves stock₁)
    (S₂ : source₂.Serves stock₂) {keys : Set String} (hagree : stock₁.AgreesOn stock₂ keys) :
    source₁.Correspondence source₂ keys where
  Closed s₁ s₂ := S₁.Closed s₁ ∧ S₂.Closed s₂
  Idle session₁ session₂ s₁ s₂ := S₁.Idle session₁ s₁ ∧ S₂.Idle session₂ s₂
  Reading session₁ session₂ reader₁ reader₂ s₁ s₂ :=
    ∃ x, S₁.Reading session₁ reader₁ x s₁ ∧ S₂.Reading session₂ reader₂ x s₂
  openBlob session₁ session₂ key hkey s₁ s₂ h := by
    have hsame := hagree.openBlob key hkey
    cases hblob : stock₁.openBlob key with
    | ok blob =>
      obtain ⟨reader₁, s₁', hrun₁, hreading₁⟩ := S₁.openBlob hblob h.1
      obtain ⟨reader₂, s₂', hrun₂, hreading₂⟩ := S₂.openBlob (hsame.symm.trans hblob) h.2
      rw [hrun₁, hrun₂]
      exact .value ⟨rfl, blob.start, hreading₁, hreading₂⟩
    | error e =>
      obtain ⟨s₁', hrun₁, hidle₁⟩ := S₁.openBlob_refused hblob h.1
      obtain ⟨s₂', hrun₂, hidle₂⟩ := S₂.openBlob_refused (hsame.symm.trans hblob) h.2
      rw [hrun₁, hrun₂]
      exact .failure ⟨hidle₁, hidle₂⟩
  closeReader session₁ session₂ reader₁ reader₂ s₁ s₂ h := by
    obtain ⟨x, h₁, h₂⟩ := h
    obtain ⟨s₁', hrun₁, hidle₁⟩ := S₁.closeReader h₁
    obtain ⟨s₂', hrun₂, hidle₂⟩ := S₂.closeReader h₂
    rw [hrun₁, hrun₂, hagree.closeReader]
    cases stock₂.closeReader x with
    | ok u => exact .value ⟨hidle₁, hidle₂⟩
    | error e => exact .failure ⟨hidle₁, hidle₂⟩
  closeSession session₁ session₂ s₁ s₂ h := by
    obtain ⟨s₁', hrun₁, hclosed₁⟩ := S₁.closeSession h.1
    obtain ⟨s₂', hrun₂, hclosed₂⟩ := S₂.closeSession h.2
    rw [hrun₁, hrun₂, hagree.closeSession]
    cases stock₂.closeSession with
    | ok u => exact .value ⟨hclosed₁, hclosed₂⟩
    | error e => exact .failure ⟨hclosed₁, hclosed₂⟩

/-- Sources with the same stock correspond. -/
def correspondence (S₁ : source₁.Serves stock) (S₂ : source₂.Serves stock) :
    source₁.Correspondence source₂ Set.univ :=
  S₁.correspondenceOn S₂ (.refl stock Set.univ)

/-- If reads can end in one way only, sources with the same stock deliver the same pieces. -/
theorem isInStep (S₁ : source₁.Serves stock) (S₂ : source₂.Serves stock) (hexact : stock.IsExact) :
    (S₁.correspondence S₂).IsInStep := by
  rintro session₁ session₂ reader₁ reader₂ room s₁ s₂ ⟨x, h₁, h₂⟩
  obtain ⟨outcome, y, s₁', hrun₁, hreads₁, hreading₁⟩ := S₁.read room h₁
  obtain ⟨outcome', y', s₂', hrun₂, hreads₂, hreading₂⟩ := S₂.read room h₂
  obtain ⟨rfl, rfl⟩ := hexact hreads₁ hreads₂
  rw [hrun₁, hrun₂]
  cases outcome with
  | ok data => exact .value ⟨rfl, y, hreading₁, hreading₂⟩
  | error e => exact .failure ⟨y, hreading₁, hreading₂⟩

end BlobSource.Serves

/-! ## Scripted storages -/

namespace Scripted

/-- How a read of a blob ends, and what is left of the blob then. -/
def Blob.next (blob : Blob) (room : Nat) : Except Failure Bytes × Blob :=
  match blob.delivery.next (min room (blob.delivery.piece.getD room)) with
  | .error failure => (.error failure, blob)
  | .ok (data, left) => (.ok data, { blob with delivery := left })

/-- How a step ends that fails if a script says so. -/
def outcomeOf (fault : Option Failure) : Except Failure Unit :=
  match fault with
  | some failure => .error failure
  | none => .ok ()

/-- What a script has in stock; a reader is the blob with what is left of it. -/
def Script.stock (script : Script) : Stock Blob where
  openBlob key :=
    match script.blobs.find? fun blob => blob.1 = key.value with
    | none => .error (.blobNotFound key.value)
    | some (_, blob) =>
      match blob.openFault with
      | some failure => .error failure
      | none => .ok { size := blob.size, start := blob }
  Reads blob room outcome next := blob.next room = (outcome, next)
  closeReader blob := outcomeOf blob.closeFault
  closeSession := outcomeOf script.sessionCloseFault

theorem Script.isExact_stock (script : Script) : script.stock.IsExact := by
  intro blob room outcome outcome' next next' h h'
  have hsame : (outcome, next) = (outcome', next') := h.symm.trans h'
  exact ⟨congrArg Prod.fst hsame, congrArg Prod.snd hsame⟩

namespace Storage

variable {script : Script} {s : Storage}

/-- The storage follows the script and has a reader for what is left of a blob. -/
def HasReader (script : Script) (reader : ReaderId) (blob : Blob) (s : Storage) : Prop :=
  s.script = script ∧
    ∃ r, s.readers[reader]? = some r ∧ { r.blob with delivery := r.left } = blob

theorem outcome_eq (fault : Option Failure) (s : Storage) :
    s.outcome fault = (outcomeOf fault, s) := by
  cases fault <;> rfl

theorem run_openBlob (session : SessionId) (key : Path) (h : s.script = script) :
    match script.stock.openBlob key with
    | .ok blob => ∃ reader s',
      (openBlob session key).run s = (.ok { reader, size := blob.size }, s') ∧
        HasReader script reader blob.start s'
    | .error e => ∃ s', (openBlob session key).run s = (.error e, s') ∧ s'.script = script := by
  subst h
  simp only [Script.stock, Action.run, openBlob, record]
  cases s.script.blobs.find? fun blob => blob.1 = key.value with
  | none => exact ⟨_, rfl, rfl⟩
  | some found =>
    obtain ⟨_, blob⟩ := found
    cases hfault : blob.openFault with
    | some failure =>
      simp only [hfault]
      exact ⟨_, rfl, rfl⟩
    | none =>
      simp only [hfault]
      exact ⟨_, _, rfl, rfl, { key := key.value, blob }, by simp, rfl⟩

theorem run_read {reader : ReaderId} {blob : Blob} (room : Nat)
    (h : HasReader script reader blob s) :
    ∃ s', (read reader room).run s = ((blob.next room).1, s') ∧
      HasReader script reader (blob.next room).2 s' := by
  obtain ⟨hscript, r, hr, rfl⟩ := h
  have hset (r' : Reader) : (s.setReader reader r').readers[reader]? = some r' :=
    List.getElem?_set_self (List.getElem?_eq_some_iff.1 hr).1
  simp only [Action.run, read, hr, Blob.next]
  cases r.left.next (min room (r.left.piece.getD room)) with
  | error failure => exact ⟨_, rfl, hscript, _, hset _, rfl⟩
  | ok piece => exact ⟨_, rfl, hscript, _, hset _, rfl⟩

theorem run_closeReader {reader : ReaderId} {blob : Blob} (h : HasReader script reader blob s) :
    ∃ s', (closeReader reader).run s = (outcomeOf blob.closeFault, s') ∧ s'.script = script := by
  obtain ⟨hscript, r, hr, rfl⟩ := h
  refine ⟨s.record (.closeReader r.key r.reads), ?_, hscript⟩
  simp only [Action.run, closeReader, hr, outcome_eq]

end Storage

/-- Whatever it is asked, a scripted storage answers as its script says. -/
def serves (script : Script) : source.Serves script.stock where
  Closed s := s.script = script
  Idle _ s := s.script = script
  Reading _ := Storage.HasReader script
  openBlob {session key _ _} hblob h := by
    have hrun := Storage.run_openBlob session key h
    rwa [hblob] at hrun
  openBlob_refused {session key _ _} hrefused h := by
    have hrun := Storage.run_openBlob session key h
    rwa [hrefused] at hrun
  read room h := by
    obtain ⟨s', hrun, hnext⟩ := Storage.run_read room h
    exact ⟨_, _, s', hrun, rfl, hnext⟩
  closeReader := Storage.run_closeReader
  closeSession {_ s} h := by
    subst h
    exact ⟨s.record .closeSession, Storage.outcome_eq _ _, rfl⟩

/-- How sessions are opened. -/
def Script.opening (script : Script) : Except Refusal Unit :=
  match script.sessionFault with
  | some failure => .error { failure }
  | none => .ok ()

theorem serves_opens (script : Script) : (serves script).Opens script.opening := by
  constructor
  · rintro s hopening rfl
    refine ⟨0, s.record .session, ?_, rfl⟩
    simp only [source, Storage.newSession]
    cases hfault : s.script.sessionFault with
    | none => rfl
    | some failure => simp [Script.opening, hfault] at hopening
  · rintro refusal s hopening rfl
    refine ⟨s.record .session, ?_, rfl⟩
    simp only [source, Storage.newSession]
    cases hfault : s.script.sessionFault with
    | none => simp [Script.opening, hfault] at hopening
    | some failure =>
      obtain rfl : { failure } = refusal := by simpa [Script.opening, hfault] using hopening
      rfl

end Scripted

end PhotoArchive
