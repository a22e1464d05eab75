import PhotoArchive.Proofs.Agreement
import PhotoArchive.Proofs.Assembly.Course

/-!
# Assemblies side by side

Two assemblies go through the same steps if their storages and archives answer alike, even where they
differ in what does not show: in the numbers of sessions and readers, in the buffers and in how many
pieces a blob is copied, in the state of the ledger at the beginning. What may differ is given by one
relation for each part of a bench.

## Main definitions

- `Accounts` — ledgers and logs that fit together, and go on to do so
- `Bench.Linked`, `Workshop.Linked` — all parts of two benches, or of two workshops, fit together
- `BlobSource.Correspondence`, `ArchiveGateway.Correspondence` — sources and gateways that answer alike
- `BlobSource.Correspondence.IsInStep` — readers deliver the same pieces
- `Assembly.Linkage` — sources and gateways that correspond, and blobs that are written alike

## Main statements

- `Assembly.addEntry_linked`, `Assembly.addEntries_linked`, `Assembly.assembleIn_linked`,
  `Assembly.assemble_linked` — the steps of two assemblies keep together what fits together

## Design notes

How a blob gets through a buffer into an entry is the one step that is not taken in common, so a
linkage brings its own law for it.
-/

namespace PhotoArchive

open PhotoArchive.Action

variable {σ₁ σ₂ τ₁ τ₂ α β : Type}

/-! ## What fits together -/

/-- Ledgers and logs that fit together, and go on to do so when the same is entered on both sides. -/
structure Accounts where
  Fit : SkipLedger → Log → SkipLedger → Log → Prop
  skip : ∀ {ledger₁ log₁ ledger₂ log₂} (record : SkipRecord), Fit ledger₁ log₁ ledger₂ log₂ →
    Fit (ledger₁.add record) (log₁ ++ [ledger₁.warning record]) (ledger₂.add record)
      (log₂ ++ [ledger₂.warning record])
  note : ∀ {ledger₁ log₁ ledger₂ log₂} (records : Log), Fit ledger₁ log₁ ledger₂ log₂ →
    Fit ledger₁ (log₁ ++ records) ledger₂ (log₂ ++ records)

/-- Ledgers and logs are the same. -/
def Accounts.same : Accounts where
  Fit ledger₁ log₁ ledger₂ log₂ := ledger₁ = ledger₂ ∧ log₁ = log₂
  skip := by
    rintro _ _ _ _ record ⟨rfl, rfl⟩
    exact ⟨rfl, rfl⟩
  note := by
    rintro _ _ _ _ records ⟨rfl, rfl⟩
    exact ⟨rfl, rfl⟩

/-- All parts of two benches fit together; the names that are taken and the numbers of photos are the
same. -/
structure Assembly.Bench.Linked (storages : σ₁ → σ₂ → Prop) (pools : BufferPool → BufferPool → Prop)
    (accounts : Accounts) (writers : τ₁ → τ₂ → Prop) (b₁ : Bench σ₁ τ₁) (b₂ : Bench σ₂ τ₂) :
    Prop where
  storage : storages b₁.storage b₂.storage
  pool : pools b₁.pool b₂.pool
  accounts : accounts.Fit b₁.ledger b₁.log b₂.ledger b₂.log
  writer : writers b₁.writer b₂.writer
  taken : b₁.taken = b₂.taken
  written : b₁.written = b₂.written

/-- All parts of two workshops fit together. -/
structure Workshop.Linked (storages : σ₁ → σ₂ → Prop) (pools : BufferPool → BufferPool → Prop)
    (accounts : Accounts) (writers : Option τ₁ → Option τ₂ → Prop) (w₁ : Workshop σ₁ τ₁)
    (w₂ : Workshop σ₂ τ₂) : Prop where
  storage : storages w₁.storage w₂.storage
  pool : pools w₁.pool w₂.pool
  accounts : accounts.Fit w₁.ledger w₁.log w₂.ledger w₂.log
  writer : writers w₁.writer w₂.writer

/-! ## What corresponds -/

/-- Two blob sources whose sessions, once they are open, go through the same phases. -/
structure BlobSource.Correspondence (source₁ : BlobSource σ₁) (source₂ : BlobSource σ₂)
    (keys : Set String) where
  /-- Storages that fit together when no session is open. -/
  Closed : σ₁ → σ₂ → Prop
  /-- Storages that fit together when two sessions wait for the next blob. -/
  Idle : SessionId → SessionId → σ₁ → σ₂ → Prop
  /-- Storages that fit together when two readers are open. -/
  Reading : SessionId → SessionId → ReaderId → ReaderId → σ₁ → σ₂ → Prop
  openBlob : ∀ session₁ session₂ (key : Path), key.value ∈ keys →
    Agree (Idle session₁ session₂) (source₁.openBlob session₁ key) (source₂.openBlob session₂ key)
      (fun blob₁ blob₂ s₁ s₂ => blob₁.size = blob₂.size ∧
        Reading session₁ session₂ blob₁.reader blob₂.reader s₁ s₂)
      (Idle session₁ session₂)
  closeReader : ∀ session₁ session₂ reader₁ reader₂,
    Agree (Reading session₁ session₂ reader₁ reader₂)
      (source₁.closeReader reader₁) (source₂.closeReader reader₂)
      (fun _ _ => Idle session₁ session₂) (Idle session₁ session₂)
  closeSession : ∀ session₁ session₂,
    Agree (Idle session₁ session₂)
      (source₁.closeSession session₁) (source₂.closeSession session₂) (fun _ _ => Closed) Closed

/-- Readers of sources that correspond deliver the same pieces. -/
def BlobSource.Correspondence.IsInStep {source₁ : BlobSource σ₁} {source₂ : BlobSource σ₂}
    {keys : Set String} (C : source₁.Correspondence source₂ keys) : Prop :=
  ∀ session₁ session₂ reader₁ reader₂ room,
    Keep (C.Reading session₁ session₂ reader₁ reader₂) (source₁.read reader₁ room)
      (source₂.read reader₂ room)

/-- Two gateways whose archives are completed and given up alike. -/
structure ArchiveGateway.Correspondence (gateway₁ : ArchiveGateway τ₁)
    (gateway₂ : ArchiveGateway τ₂) where
  /-- Writers that fit together. -/
  Fits : τ₁ → τ₂ → Prop
  /-- Archives that are as good as each other. -/
  Similar : ArchiveFile → ArchiveFile → Prop
  create : Created Fits gateway₁.create gateway₂.create
  finalize : ∀ t₁ t₂, Fits t₁ t₂ →
    Alike (fun archive₁ archive₂ t₁ t₂ => Similar archive₁ archive₂ ∧ Fits t₁ t₂) Fits
      (gateway₁.finalize t₁) (gateway₂.finalize t₂)
  discard : Keep Fits gateway₁.discard gateway₂.discard

namespace Assembly

variable {storages storages' : σ₁ → σ₂ → Prop} {pools : BufferPool → BufferPool → Prop}
  {accounts : Accounts} {writers : τ₁ → τ₂ → Prop}

/-- Sources and gateways that correspond, and whose blobs are written alike. -/
structure Linkage (source₁ : BlobSource σ₁) (source₂ : BlobSource σ₂) (keys : Set String)
    (gateway₁ : ArchiveGateway τ₁) (gateway₂ : ArchiveGateway τ₂) where
  sources : source₁.Correspondence source₂ keys
  archives : gateway₁.Correspondence gateway₂
  Pools : BufferPool → BufferPool → Prop
  writeEntry : ∀ (accounts : Accounts) session₁ session₂ (name : Path) (blob₁ blob₂ : OpenedBlob),
    blob₁.size = blob₂.size →
    Keep
      (Bench.Linked (sources.Reading session₁ session₂ blob₁.reader blob₂.reader) Pools accounts
        archives.Fits)
      (writeEntry source₁ gateway₁ name blob₁) (writeEntry source₂ gateway₂ name blob₂)

/-! ## Steps that are taken in common -/

theorem onStorage_linked {a₁ : Action σ₁ α} {a₂ : Action σ₂ β} {ok : α → β → σ₁ → σ₂ → Prop}
    (h : Agree storages a₁ a₂ ok storages') :
    Agree (Bench.Linked storages pools accounts writers) (onStorage a₁) (onStorage a₂)
      (fun x y => Bench.Linked (ok x y) pools accounts writers)
      (Bench.Linked storages' pools accounts writers) :=
  h.within (fun _ _ hb => hb.storage) (fun _ _ _ _ _ _ hb hs => { hb with storage := hs })
    fun _ _ _ _ hb hs => { hb with storage := hs }

theorem onWriter_linked {a₁ : Action τ₁ α} {a₂ : Action τ₂ α} (h : Keep writers a₁ a₂) :
    Keep (Bench.Linked storages pools accounts writers) (onWriter a₁) (onWriter a₂) :=
  h.within (fun _ _ hb => hb.writer)
    (fun _ _ _ _ _ _ hb hsame => ⟨hsame.1, { hb with writer := hsame.2 }⟩)
    fun _ _ _ _ hb hw => { hb with writer := hw }

theorem onPool_linked {a₁ a₂ : Action BufferPool α} (h : Keep pools a₁ a₂) :
    Keep (Bench.Linked storages pools accounts writers) (onPool a₁ : Action (Bench σ₁ τ₁) α)
      (onPool a₂ : Action (Bench σ₂ τ₂) α) :=
  h.within (fun _ _ hb => hb.pool)
    (fun _ _ _ _ _ _ hb hsame => ⟨hsame.1, { hb with pool := hsame.2 }⟩)
    fun _ _ _ _ hb hp => { hb with pool := hp }

theorem note_linked (level : Log.Level) (component : Log.Component) (message : String) :
    Keep (Bench.Linked storages pools accounts writers)
      (note level component message : Action (Bench σ₁ τ₁) Unit)
      (note level component message : Action (Bench σ₂ τ₂) Unit) :=
  keep_modify fun _ _ hb => { hb with accounts := accounts.note _ hb.accounts }

theorem skip_linked (record : SkipRecord) :
    Keep (Bench.Linked storages pools accounts writers)
      (skip record : Action (Bench σ₁ τ₁) Unit) (skip record : Action (Bench σ₂ τ₂) Unit) :=
  keep_modify fun _ _ hb => { hb with accounts := accounts.skip record hb.accounts }

/-- Giving a name to a file does not fail, so it does not leave anything open. -/
theorem takeName_linked {name : Path} (h : name.isDirectory = false)
    {err : Bench σ₁ τ₁ → Bench σ₂ τ₂ → Prop} :
    Agree (Bench.Linked storages pools accounts writers) (takeName name) (takeName name)
      (Same (Bench.Linked storages pools accounts writers)) err := by
  intro b₁ b₂ hb
  obtain ⟨free₁, hfree₁, hrun₁⟩ := takeName_course h b₁
  obtain ⟨free₂, hfree₂, hrun₂⟩ := takeName_course h b₂
  rw [hrun₁, hrun₂]
  rw [hb.taken] at hfree₁
  obtain rfl : free₁ = free₂ := Except.ok.inj (hfree₁.symm.trans hfree₂)
  exact .value ⟨rfl, { hb with taken := congrArg (free₁ :: ·) hb.taken }⟩

/-! ## One photo -/

variable {source₁ : BlobSource σ₁} {source₂ : BlobSource σ₂} {keys : Set String}
  {gateway₁ : ArchiveGateway τ₁} {gateway₂ : ArchiveGateway τ₂}
  (L : Linkage source₁ source₂ keys gateway₁ gateway₂) {session₁ session₂ : SessionId}

theorem copyOrSkip_linked (name : Path) {blob₁ blob₂ : OpenedBlob}
    (hsize : blob₁.size = blob₂.size) :
    Keep
      (Bench.Linked (L.sources.Reading session₁ session₂ blob₁.reader blob₂.reader) L.Pools accounts
        L.archives.Fits)
      (copyOrSkip source₁ gateway₁ name blob₁) (copyOrSkip source₂ gateway₂ name blob₂) := by
  refine (L.writeEntry accounts session₁ session₂ name blob₁ blob₂ hsize).attempt_bind
    (fun x y b₁ b₂ hb => ?_) (fun e => ?_) fun _ _ hb => hb
  · obtain ⟨rfl, hb⟩ := hb
    exact .value ⟨rfl, hb⟩
  · exact (skip_linked _).bind_same fun _ => keep_pure none

/-- However the photo of a reference ends, both sessions are idle again. -/
theorem addEntry_linked {reference : PhotoReference} (hkey : reference.blobKey.value ∈ keys) :
    Keep (Bench.Linked (L.sources.Idle session₁ session₂) L.Pools accounts L.archives.Fits)
      (addEntry source₁ gateway₁ session₁ reference)
      (addEntry source₂ gateway₂ session₂ reference) := by
  refine (onStorage_linked (L.sources.openBlob session₁ session₂ reference.blobKey hkey)).attempt_bind
    (fun blob₁ blob₂ b₁ b₂ hb => ?_) (fun e => skip_linked _) fun _ _ hb => hb
  obtain ⟨hsize, hreading⟩ := hb.storage
  refine (takeName_linked reference.entryName_file).bind_same (fun name => ?_) b₁ b₂
    { hb with storage := hreading }
  refine ((copyOrSkip_linked L name hsize).ensuring_same (onStorage_linked
    (L.sources.closeReader session₁ session₂ blob₁.reader blob₂.reader))).bind_same fun copied => ?_
  cases copied with
  | none => exact keep_pure ()
  | some copied =>
    refine (note_linked _ _ _).bind_same fun _ => keep_modify fun _ _ hb => ?_
    exact { hb with written := congrArg (· + 1) hb.written }

theorem addEntries_linked {references : List PhotoReference}
    (hkeys : ∀ reference ∈ references, reference.blobKey.value ∈ keys) :
    Keep (Bench.Linked (L.sources.Idle session₁ session₂) L.Pools accounts L.archives.Fits)
      (addEntries source₁ gateway₁ session₁ references)
      (addEntries source₂ gateway₂ session₂ references) := by
  induction references with
  | nil => exact keep_pure ()
  | cons reference rest ih =>
    refine (addEntry_linked L (hkeys reference List.mem_cons_self)).bind_same fun _ => ?_
    exact ih fun other hother => hkeys other (List.mem_cons_of_mem _ hother)

/-! ## The whole archive -/

section Ending

variable (G : gateway₁.Correspondence gateway₂)

theorem discardArchive_linked :
    Keep (Bench.Linked storages pools accounts G.Fits) (discardArchive gateway₁)
      (discardArchive gateway₂) := by
  refine (onWriter_linked G.discard).bind_same fun message => ?_
  cases message with
  | none => exact keep_pure ()
  | some message => exact note_linked _ _ _

theorem finalizeArchive_linked :
    Agree (Bench.Linked storages pools accounts G.Fits) (finalizeArchive gateway₁)
      (finalizeArchive gateway₂)
      (fun archive₁ archive₂ b₁ b₂ => G.Similar archive₁ archive₂ ∧
        Bench.Linked storages pools accounts G.Fits b₁ b₂)
      (Bench.Linked storages pools accounts G.Fits) := by
  intro b₁ b₂ hb
  simp only [run, finalizeArchive]
  obtain ⟨archive₁, archive₂, t₁, t₂, hend₁, hend₂, hsimilar, hfits⟩ |
    ⟨refusal, t₁, t₂, hend₁, hend₂, hfits⟩ := (G.finalize _ _ hb.writer).cases
  · rw [hend₁, hend₂]
    exact .value ⟨hsimilar, { hb with writer := hfits }⟩
  · rw [hend₁, hend₂]
    exact .failure { hb with writer := hfits, accounts := accounts.note _ hb.accounts }

end Ending

theorem assembleIn_linked {references : List PhotoReference}
    (hkeys : ∀ reference ∈ references, reference.blobKey.value ∈ keys) :
    Agree (Bench.Linked (L.sources.Idle session₁ session₂) L.Pools accounts L.archives.Fits)
      (assembleIn source₁ gateway₁ session₁ references)
      (assembleIn source₂ gateway₂ session₂ references)
      (fun archive₁ archive₂ b₁ b₂ => L.archives.Similar archive₁ archive₂ ∧
        Bench.Linked L.sources.Closed L.Pools accounts L.archives.Fits b₁ b₂)
      (Bench.Linked L.sources.Closed L.Pools accounts L.archives.Fits) := by
  have hclose : Agree
      (Bench.Linked (L.sources.Idle session₁ session₂) L.Pools accounts L.archives.Fits)
      (onStorage (source₁.closeSession session₁)) (onStorage (source₂.closeSession session₂))
      (fun _ _ => Bench.Linked L.sources.Closed L.Pools accounts L.archives.Fits)
      (Bench.Linked L.sources.Closed L.Pools accounts L.archives.Fits) :=
    onStorage_linked (L.sources.closeSession session₁ session₂)
  refine Agree.ensuring (Agree.bind_same ?_ fun _ => finalizeArchive_linked L.archives) ?_ hclose
  · exact (addEntries_linked L hkeys).onFailure (discardArchive_linked L.archives).forget
  · intro archive₁ archive₂ b₁ b₂ hb
    exact (hclose b₁ b₂ hb.2).map id id (fun _ _ _ _ h => ⟨hb.1, h⟩) fun _ _ h => h

/-- Two results with archives that are as good as each other, and with what is in two ledgers. -/
structure ExportResult.Linked (archives : ArchiveFile → ArchiveFile → Prop)
    (ledger₁ ledger₂ : SkipLedger) (result₁ result₂ : ExportResult) : Prop where
  archive : archives result₁.archive result₂.archive
  written : result₁.written = result₂.written
  company₁ : result₁.company = ledger₁.company
  company₂ : result₂.company = ledger₂.company
  skips₁ : result₁.skips = ledger₁.records
  skips₂ : result₂.skips = ledger₂.records

/-- Assemblies end alike once their sessions are open. -/
theorem assemble_linked_of_session {references : List PhotoReference}
    (hkeys : ∀ reference ∈ references, reference.blobKey.value ∈ keys) {w₁ : Workshop σ₁ τ₁}
    {w₂ : Workshop σ₂ τ₂} {s₁ : σ₁} {s₂ : σ₂}
    (hnew₁ : source₁.newSession w₁.storage = (.ok session₁, s₁))
    (hnew₂ : source₂.newSession w₂.storage = (.ok session₂, s₂))
    (hidle : L.sources.Idle session₁ session₂ s₁ s₂) (hpool : L.Pools w₁.pool w₂.pool)
    (haccounts : accounts.Fit w₁.ledger w₁.log w₂.ledger w₂.log) :
    Alike
      (fun result₁ result₂ w₁ w₂ =>
        ExportResult.Linked L.archives.Similar w₁.ledger w₂.ledger result₁ result₂ ∧
        Workshop.Linked L.sources.Closed L.Pools accounts (Option.Rel L.archives.Fits) w₁ w₂)
      (Workshop.Linked L.sources.Closed L.Pools accounts (Option.Rel L.archives.Fits))
      ((assemble source₁ gateway₁ references).run w₁)
      ((assemble source₂ gateway₂ references).run w₂) := by
  generalize hcreate₁ : gateway₁.create = created₁
  generalize hcreate₂ : gateway₂.create = created₂
  have hcreated := L.archives.create
  rw [hcreate₁, hcreate₂] at hcreated
  cases hcreated with
  | failure e =>
    have hclose := L.sources.closeSession session₁ session₂ _ _ hidle
    obtain ⟨_, _, s₁', s₂', hclose₁, hclose₂, hclosed⟩ | ⟨e', s₁', s₂', hclose₁, hclose₂, hclosed⟩ :=
      hclose.cases
    all_goals
      rw [run_assemble_of_no_writer hnew₁ hcreate₁ hclose₁,
        run_assemble_of_no_writer hnew₂ hcreate₂ hclose₂]
      exact .failure ⟨hclosed, hpool, haccounts, .none⟩
  | @writers writer₁ writer₂ hfits =>
    have hstart : Bench.Linked (L.sources.Idle session₁ session₂) L.Pools accounts L.archives.Fits
        (bench { w₁ with storage := s₁ } writer₁) (bench { w₂ with storage := s₂ } writer₂) :=
      { storage := hidle, pool := hpool, accounts := haccounts, writer := hfits
        taken := rfl, written := rfl }
    rw [run_assemble_of_session hnew₁ hcreate₁, run_assemble_of_session hnew₂ hcreate₂]
    obtain ⟨archive₁, archive₂, b₁, b₂, hrun₁, hrun₂, hsimilar, hend⟩ |
      ⟨e, b₁, b₂, hrun₁, hrun₂, hend⟩ := (assembleIn_linked L hkeys _ _ hstart).cases
    · rw [hrun₁, hrun₂]
      refine .value ⟨⟨hsimilar, hend.written, rfl, rfl, rfl, rfl⟩, ?_⟩
      exact { hend with writer := .some hend.writer }
    · rw [hrun₁, hrun₂]
      exact .failure { hend with writer := .some hend.writer }

/-- Assemblies whose sessions are opened alike end alike, with what the ledgers have in the end. -/
theorem assemble_linked {references : List PhotoReference}
    (hcomponent : source₁.component = source₂.component)
    (hnew : ∀ s₁ s₂, L.sources.Closed s₁ s₂ →
      Alike L.sources.Idle L.sources.Closed (source₁.newSession s₁) (source₂.newSession s₂))
    (hkeys : ∀ reference ∈ references, reference.blobKey.value ∈ keys) :
    Agree (Workshop.Linked L.sources.Closed L.Pools accounts fun _ _ => True)
      (assemble source₁ gateway₁ references) (assemble source₂ gateway₂ references)
      (fun result₁ result₂ w₁ w₂ =>
        ExportResult.Linked L.archives.Similar w₁.ledger w₂.ledger result₁ result₂ ∧
        Workshop.Linked L.sources.Closed L.Pools accounts (Option.Rel L.archives.Fits) w₁ w₂)
      (Workshop.Linked L.sources.Closed L.Pools accounts (Option.Rel L.archives.Fits)) := by
  intro w₁ w₂ hw
  obtain ⟨session₁, session₂, s₁, s₂, hnew₁, hnew₂, hidle⟩ |
    ⟨refusal, s₁, s₂, hnew₁, hnew₂, hclosed⟩ := (hnew _ _ hw.storage).cases
  · exact assemble_linked_of_session L hkeys hnew₁ hnew₂ hidle hw.pool hw.accounts
  · rw [run_assemble_of_refusal hnew₁, run_assemble_of_refusal hnew₂, hcomponent]
    exact .failure
      { hw with storage := hclosed, accounts := accounts.note _ hw.accounts, writer := .none }

end Assembly

end PhotoArchive
