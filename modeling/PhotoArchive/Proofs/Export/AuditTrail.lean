import PhotoArchive.Proofs.Assembly.Journal
import PhotoArchive.Proofs.Assembly.Origins
import PhotoArchive.Proofs.Export.Course
import PhotoArchive.Proofs.Export.History

/-!
# The log as an audit trail

What an export has done can be read off the records that it adds to the log. There is a warning about
each photo that it skipped and a message about each one that it counted, in the order of the skips and
of the archive, and the last record says how it has ended. Only when the catalog, the storage or the
archive speaks of the failure of an export as a whole, that is passed on without a word.

## Main definitions

- `Exporter.Run`, `Exporter.runs` — one export with the workshop it begins with; those of a row
- `Exporter.Run.IsAccount`, `Exporter.Run.IsSurrender` — what the records of an export say
- `Exporter.Run.IsTrail` — records from which an export can be followed

## Main statements

- `Exporter.Run.exists_trail` — every export adds such records to the log
- `Exporter.exports_audited` — so do the exports of a row, one behind the other

## Design notes

The exports of a row may have different catalogs, storages and archives, so one whose answers change
from export to export is among them. The calls of an export are those that are kept beside its run.
-/

namespace PhotoArchive.Exporter

open PhotoArchive.Action Assembly

variable {σ τ : Type}

/-! ## Exports one behind the other -/

/-- An export of a company, with the workshop that it begins with. -/
structure Run (σ τ : Type) where
  exporter : Exporter σ τ
  company : String
  start : Workshop σ τ

namespace Run

variable (r : Run σ τ)

def outcome : Except Failure ExportResult := ((r.exporter.exportPhotos r.company).run r.start).1

def finish : Workshop σ τ := ((r.exporter.exportPhotos r.company).run r.start).2

/-- The records that an export adds to the log. -/
def records : Log := r.finish.log.drop r.start.log.length

/-- What is left behind when the calls of an export are kept. -/
def kept : Workshop (Recorded σ StorageCall) (Recorded τ WriterCall) :=
  ((r.exporter.recorded.exportPhotos r.company).run r.start.recording).2

def storageCalls : List StorageCall := r.kept.storage.calls

def writerCalls : List WriterCall := r.kept.writer.elim [] Recorded.calls

/-- The entries that are counted for a result: those that the calls to the writer complete, without
the ones that were skipped while they were copied. -/
def counted (result : ExportResult) : List (Path × Bytes) :=
  (WriterCall.entries r.writerCalls).filter (IsUnskipped result.skips)

/-- A failure with which the catalog, the storage or the archive has answered the export. -/
def Raises (e : Failure) : Prop :=
  (∃ refusal, r.exporter.catalog.listByCompany r.company = .error refusal ∧ refusal.failure = e) ∨
  (∃ call ∈ r.storageCalls, call.failure? = some e) ∨
  r.exporter.gateway.create = .error e ∨ ∃ call ∈ r.writerCalls, call.failure? = some e

end Run

/-- The exports of a row, each with the workshop that the one before has left. -/
def runs : List (Exporter σ τ × String) → Workshop σ τ → List (Run σ τ)
  | [], _ => []
  | (e, company) :: rest, w => ⟨e, company, w⟩ :: runs rest ((e.exportPhotos company).run w).2

theorem runs_map (row : List (Exporter σ τ × String)) (w : Workshop σ τ) :
    (runs row w).map (fun r => (r.exporter, r.company)) = row := by
  induction row generalizing w with
  | nil => rfl
  | cons first rest ih => exact congrArg (first :: ·) (ih _)

/-! ## What records say -/

namespace Run

variable (r : Run σ τ) (records : Log)

/-- The records of an export that gives a result: warnings about its skips, messages about the entries
that are counted, and one record of the whole, which comes last. -/
structure IsAccount (result : ExportResult) : Prop where
  warnings : records.only .warning = result.skips.map (SkipLedger.warning { company := r.company })
  messages : records.only .debug = (r.counted result).map entryRecord
  written : (r.counted result).length = result.written
  infos : records.only .info = [completion r.company result]
  last : records.getLast? = some (completion r.company result)
  errors : records.only .error = []
  archive : r.exporter.gateway.WritesZip →
    ∃ (bytes : Bytes) (listed found : List Zip.CentralFields),
      (File.readAll.run result.archive.file).1 = .ok bytes ∧
      Zip.directory? (bytes.take result.archive.size) = some listed ∧ found.Sublist listed ∧
      List.Forall₂ (IsFoundAs (bytes.take result.archive.size)) (r.counted result) found

/-- A record that is not made by an exporter, and not about a whole export. -/
structure IsFromBelow (record : Log.Record) : Prop where
  component : record.component ∈
    [.ledger, .assembly, .products, .archive, r.exporter.source.component]
  level : record.level ≠ .info

/-- The records of an export that fails as a whole, by its own decision: the last one says why and
for which company, and it is the only one of the exporter. -/
structure IsSurrender (stage : FatalStage) (reason : String) : Prop where
  last : ∃ below, records = below ++ [surrender r.company stage reason] ∧
    ∀ record ∈ below, r.IsFromBelow record
  alone : r.exporter.source.component ≠ .exporter →
    records.filter (·.component = .exporter) = [surrender r.company stage reason]
  infos : records.only .info = []

/-- Records from which an export can be followed. -/
inductive IsTrail : Prop
  /-- There is a result. -/
  | account {result : ExportResult} (houtcome : r.outcome = .ok result)
    (h : r.IsAccount records result)
  /-- The export has failed as a whole. -/
  | surrender {stage : FatalStage} {reason : String}
    (houtcome : r.outcome = .error (.exportFailed r.company reason (some stage)))
    (h : r.IsSurrender records stage reason)
  /-- Some other failure has been passed on. The failure of an export as a whole is one of them only
  if it comes from below. -/
  | passed {e : Failure} (houtcome : r.outcome = .error e)
    (hraises : e.IsExportError → r.Raises e) (h : ∀ record ∈ records, r.IsFromBelow record)

/-! ## Exports that fail -/

variable {r records}

theorem isFromBelow_of_notes {ledger : SkipLedger} {notes : List Note} {record : Log.Record}
    (h : record ∈ notes.map (Note.record ledger)) : r.IsFromBelow record := by
  rcases of_mem_notes ledger h with ⟨hlevel, hcomponent⟩ | ⟨hlevel, hcomponent⟩ <;>
    exact ⟨by simp [hcomponent], by simp [hlevel]⟩

theorem isFromBelow_of_refusal {refusal : Refusal} {component : Log.Component} {record : Log.Record}
    (h : record ∈ refusal.records component)
    (hcomponent : component ∈ [.products, .archive, r.exporter.source.component]) :
    r.IsFromBelow record := by
  simp only [Refusal.records, Option.mem_toList, Option.map_eq_some_iff] at h
  obtain ⟨message, -, rfl⟩ := h
  exact ⟨by simp_all, by simp⟩

theorem isFromBelow_of_ending {ending : Ending} {record : Log.Record} (h : record ∈ ending.log) :
    r.IsFromBelow record := by
  rcases ending with (refusal | archive) | ⟨e, e' | _ | message⟩
  · exact isFromBelow_of_refusal h (by simp)
  · cases h
  · cases h
  · cases h
  · obtain rfl := List.mem_singleton.1 h
    exact ⟨by simp, by simp⟩

/-- Records from below and one of the exporter, when a failure is fatal. -/
theorem isTrail_of_failure {below : Log} {e : Failure} {stage? : Option FatalStage}
    (houtcome : r.outcome = .error (verdict r.company e stage?).1)
    (hbelow : ∀ record ∈ below, r.IsFromBelow record) (hraises : e.IsExportError → r.Raises e) :
    r.IsTrail (below ++ (verdict r.company e stage?).2) := by
  cases stage? with
  | none =>
    rw [verdict, List.append_nil]
    exact .passed houtcome hraises hbelow
  | some stage =>
    refine .surrender houtcome ⟨⟨below, rfl, hbelow⟩, fun hsource => ?_, ?_⟩
    · have hnone : below.filter (·.component = .exporter) = [] := by
        refine List.filter_eq_nil_iff.2 fun record hrecord hown => ?_
        have hcomponent := (hbelow record hrecord).component
        simp [of_decide_eq_true hown, hsource.symm] at hcomponent
      rw [List.filter_append, hnone]
      rfl
    · have hnone : below.only .info = [] := by
        refine List.filter_eq_nil_iff.2 fun record hrecord hinfo => ?_
        exact (hbelow record hrecord).level (of_decide_eq_true hinfo)
      rw [Log.only_append, hnone]
      rfl

/-! ## What is kept of an export -/

section Kept

variable {products : List Product} {outcome : Except Failure ExportResult}
  {w' : Workshop (Recorded σ StorageCall) (Recorded τ WriterCall)}

theorem kept_forget (r : Run σ τ) : r.kept.forget = r.finish := by
  have hfollows := exportPhotos_follows r.exporter r.company r.start.recording
  rw [Workshop.forget_recording] at hfollows
  exact (congrArg Prod.snd hfollows).symm

/-- The calls of an export are those of its assembly. -/
theorem kept_calls (hlist : r.exporter.catalog.listByCompany r.company = .ok products)
    (hrun : (Assembly.assemble r.exporter.source.recorded r.exporter.gateway.recorded
      (Locator.references (r.exporter.locator.slots products))).run
        (r.exporter.located r.company products r.start).recording = (outcome, w')) :
    r.storageCalls = w'.storage.calls ∧ r.writerCalls = w'.writer.elim [] Recorded.calls := by
  unfold storageCalls writerCalls kept
  rw [← located_recorded] at hrun
  cases outcome with
  | ok result =>
    rw [@run_exportPhotos_of_result _ _ r.exporter.recorded _ _ _ _ hlist _ hrun]
    exact ⟨rfl, rfl⟩
  | error failure =>
    rw [@run_exportPhotos_of_failure _ _ r.exporter.recorded _ _ _ _ hlist _ hrun]
    exact ⟨rfl, rfl⟩

end Kept

/-! ## Exports in a session -/

section Session

variable {products : List Product} {s : Session} {start : τ} {w' : Workshop σ τ}
  {result : ExportResult}

/-- What is noted about the photos of an export: first by the locator, and then in a session. -/
def notes (r : Run σ τ) (products : List Product) (s : Session) : List Note :=
  (Locator.skips (r.exporter.locator.slots products)).map .skipped
    ++ (footprint s.id s.visits).notes

theorem log_of_session (hmarks : s.Marks r.exporter.source r.exporter.gateway start
      (r.exporter.located r.company products r.start) w') :
    w'.log = r.start.log
      ++ ((r.notes products s).map (Note.record { company := r.company }) ++ s.ending.log) := by
  have hrecord : Note.record (r.exporter.located r.company products r.start).ledger
      = Note.record { company := r.company } := by
    funext note
    cases note <;> rfl
  rw [hmarks.log, hrecord, notes, List.map_append, List.map_map]
  simp only [located, List.append_assoc]
  rfl

/-- The locator skips photos before anything is copied. -/
theorem reason_of_mem_skips {locator : Locator} {skip : SkipRecord}
    (h : skip ∈ Locator.skips (locator.slots products)) : skip.reason ≠ .copyFailed := by
  obtain ⟨slot, hslot, hskip⟩ := List.mem_filterMap.1 h
  obtain ⟨p, -, hplace⟩ := List.mem_flatMap.1 hslot
  obtain ⟨index, hindex, rfl⟩ := List.mem_mapIdx.1 hplace
  cases hrecord : locator.slot p.id index p.photoNames[index] with
  | ok reference =>
    rw [hrecord] at hskip
    cases hskip
  | error record =>
    rw [hrecord] at hskip
    cases hskip
    unfold Locator.slot at hrecord
    split at hrecord
    · cases hrecord
      simp
    · split at hrecord <;> cases hrecord
      simp

/-- With a result there is a record for each photo, and one of the whole. -/
theorem isAccount_of_session (hcreate : r.exporter.gateway.create = .ok start)
    (hmarks : s.Marks r.exporter.source r.exporter.gateway start
      (r.exporter.located r.company products r.start) w')
    (htour : IsTour (Locator.references (r.exporter.locator.slots products)) []
      r.start.pool.roomFault? s.visits)
    (hfollows : s.ending.Follows (Assembly.outcome s.visits))
    (hresult : s.result w'.ledger = .ok result) (hcalls : r.writerCalls = s.writerCalls) :
    r.IsAccount
      ((r.notes products s).map (Note.record { company := r.company })
        ++ [completion r.company result])
      result := by
  obtain ⟨hvisits, hending, -, hwritten, hskips⟩ := Session.of_result hresult hfollows
  have hledger := hskips.trans hmarks.records
  rw [skips_footprint] at hledger
  have hnotes : (r.notes products s).filterMap Note.skip? = result.skips := by
    rw [hledger, notes, List.filterMap_append, skips_footprint, filterMap_skipped]
    rfl
  have hcounted : r.counted result = s.visits.filterMap Visit.counted? := by
    rw [counted, hcalls, entries_writerCalls, hledger]
    exact (htour.counted_eq hvisits fun skip => reason_of_mem_skips).symm
  exact
    { warnings := by
        rw [Log.only_append, only_warning_notes, hnotes]
        exact List.append_nil _
      messages := by
        rw [hcounted, notes, List.map_append, Log.only_append, Log.only_append, only_debug_skipped,
          only_debug_notes]
        exact List.append_nil _
      written := by rw [hcounted, length_counted, hwritten, written_eq_countP]
      infos := by
        rw [Log.only_append, only_notes_eq_nil _ (by decide) (by decide)]
        rfl
      last := List.getLast?_concat
      errors := by
        rw [Log.only_append, only_notes_eq_nil _ (by decide) (by decide)]
        rfl
      archive := by
        rw [hcounted]
        exact fun hzip => Session.exists_found hzip hcreate hmarks hending }

/-- A failure of an export as a whole that comes out of a session comes from one of its calls. -/
theorem raises_of_session {failure : Failure} (hstorage : r.storageCalls = s.storageCalls)
    (hwrites : r.writerCalls = s.writerCalls)
    (hfollows : s.ending.Follows (Assembly.outcome s.visits)) (houtcome : s.outcome = .error failure)
    (hfailure : failure.IsExportError) : r.Raises failure := by
  rw [Raises, hstorage, hwrites]
  cases Session.arises houtcome hfollows with
  | storage call hmem hcall => exact .inr (.inl ⟨call, hmem, hcall⟩)
  | writer call hmem hcall => exact .inr (.inr (.inr ⟨call, hmem, hcall⟩))
  | unbuffered heq =>
    rw [heq] at hfailure
    exact hfailure.elim
  | exceeded heq =>
    rw [heq] at hfailure
    exact hfailure.elim

end Session

/-! ## Every export -/

section Trail

variable {products : List Product} {w' : Workshop σ τ}

theorem isFromBelow_of_skips {locator : Locator} {record : Log.Record}
    (h : record ∈ (Locator.skips (locator.slots products)).map
      (SkipLedger.warning { company := r.company })) : r.IsFromBelow record := by
  obtain ⟨skip, -, rfl⟩ := List.mem_map.1 h
  exact ⟨by simp [SkipLedger.warning], by simp [SkipLedger.warning]⟩

theorem exists_trail_of_refusal {refusal : Refusal}
    (hlist : r.exporter.catalog.listByCompany r.company = .error refusal) :
    ∃ trail, r.finish.log = r.start.log ++ trail ∧ r.IsTrail trail := by
  have hrun := @run_exportPhotos_of_refusal _ _ r.exporter r.company r.start refusal hlist
  have hbelow : ∀ record ∈ refusal.records .products, r.IsFromBelow record :=
    fun record hrecord => isFromBelow_of_refusal hrecord (by simp)
  refine ⟨_, ?_, isTrail_of_failure (congrArg Prod.fst hrun) hbelow
    fun _ => .inl ⟨refusal, hlist, rfl⟩⟩
  rw [finish, hrun, ← List.append_assoc]

theorem exists_trail_of_failure {failure : Failure} {below : Log}
    (hlist : r.exporter.catalog.listByCompany r.company = .ok products)
    (hrun : (Assembly.assemble r.exporter.source r.exporter.gateway
      (Locator.references (r.exporter.locator.slots products))).run
        (r.exporter.located r.company products r.start) = (.error failure, w'))
    (hlog : w'.log = r.start.log ++ below) (hbelow : ∀ record ∈ below, r.IsFromBelow record)
    (hraises : failure.IsExportError → r.Raises failure) :
    ∃ trail, r.finish.log = r.start.log ++ trail ∧ r.IsTrail trail := by
  have hexport := run_exportPhotos_of_failure hlist hrun
  refine ⟨_, ?_, isTrail_of_failure (congrArg Prod.fst hexport) hbelow hraises⟩
  rw [finish, hexport, ← List.append_assoc, ← hlog]

/-- Without a session only the locator has had something to say about photos. -/
theorem exists_trail_of_no_session {refusal : Refusal} {storage : σ}
    (hlist : r.exporter.catalog.listByCompany r.company = .ok products)
    (hsession : r.exporter.source.newSession r.start.storage = (.error refusal, storage))
    (hcalls : r.storageCalls = [.newSession (.error refusal)]) :
    ∃ trail, r.finish.log = r.start.log ++ trail ∧ r.IsTrail trail := by
  have hstart : r.exporter.source.newSession
      (r.exporter.located r.company products r.start).storage = (.error refusal, storage) := hsession
  refine exists_trail_of_failure hlist (run_assemble_of_refusal hstart)
    (List.append_assoc _ _ _) ?_ ?_
  · intro record hrecord
    rcases List.mem_append.1 hrecord with hskip | hrefusal
    · exact isFromBelow_of_skips hskip
    · exact isFromBelow_of_refusal hrefusal (by simp)
  · intro _
    rw [Raises, hcalls]
    exact .inr (.inl ⟨_, List.mem_singleton_self _, rfl⟩)

/-- Without a writer only the locator has had something to say about photos. -/
theorem exists_trail_of_no_writer {session : SessionId} {e : Failure}
    {closing : Except Failure Unit}
    (hlist : r.exporter.catalog.listByCompany r.company = .ok products)
    (hrun : (Assembly.assemble r.exporter.source r.exporter.gateway
      (Locator.references (r.exporter.locator.slots products))).run
        (r.exporter.located r.company products r.start) = (closing.bind fun _ => .error e, w'))
    (hcreate : r.exporter.gateway.create = .error e)
    (hcalls : r.storageCalls = [.newSession (.ok session), .closeSession session closing])
    (hlog : w'.log = (r.exporter.located r.company products r.start).log) :
    ∃ trail, r.finish.log = r.start.log ++ trail ∧ r.IsTrail trail := by
  cases closing with
  | ok u =>
    exact exists_trail_of_failure hlist hrun hlog (fun _ => isFromBelow_of_skips)
      fun _ => .inr (.inr (.inl hcreate))
  | error e' =>
    refine exists_trail_of_failure hlist hrun hlog (fun _ => isFromBelow_of_skips) fun _ => ?_
    rw [Raises, hcalls]
    exact .inr (.inl ⟨.closeSession session (.error e'), by simp, rfl⟩)

theorem exists_trail_of_session {s : Session} {start : τ}
    (hlist : r.exporter.catalog.listByCompany r.company = .ok products)
    (hrun : (Assembly.assemble r.exporter.source r.exporter.gateway
      (Locator.references (r.exporter.locator.slots products))).run
        (r.exporter.located r.company products r.start) = (s.result w'.ledger, w'))
    (htour : IsTour (Locator.references (r.exporter.locator.slots products)) []
      r.start.pool.roomFault? s.visits)
    (hfollows : s.ending.Follows (Assembly.outcome s.visits))
    (hcreate : r.exporter.gateway.create = .ok start)
    (hmarks : s.Marks r.exporter.source r.exporter.gateway start
      (r.exporter.located r.company products r.start) w')
    (hstorage : r.storageCalls = s.storageCalls) (hwrites : r.writerCalls = s.writerCalls) :
    ∃ trail, r.finish.log = r.start.log ++ trail ∧ r.IsTrail trail := by
  have hlog := log_of_session hmarks
  cases hresult : s.result w'.ledger with
  | ok result =>
    rw [hresult] at hrun
    have hexport := run_exportPhotos_of_result hlist hrun
    have hquiet : s.ending.log = [] := by
      rw [(Session.of_result hresult hfollows).2.1]
      rfl
    rw [hquiet, List.append_nil] at hlog
    refine ⟨_, ?_, .account (congrArg Prod.fst hexport)
      (isAccount_of_session hcreate hmarks htour hfollows hresult hwrites)⟩
    rw [finish, hexport, ← List.append_assoc, ← hlog]
  | error failure =>
    rw [hresult] at hrun
    have houtcome : s.outcome = .error failure := by
      cases houtcome : s.outcome <;> simp_all [Session.result, Except.map]
    refine exists_trail_of_failure hlist hrun hlog ?_
      (raises_of_session hstorage hwrites hfollows houtcome)
    intro record hrecord
    rcases List.mem_append.1 hrecord with hnote | hending
    · exact isFromBelow_of_notes hnote
    · exact isFromBelow_of_ending hending

/-- The records that an export adds to the log are an audit trail of it. -/
theorem exists_trail (r : Run σ τ) :
    ∃ trail, r.finish.log = r.start.log ++ trail ∧ r.IsTrail trail := by
  cases hlist : r.exporter.catalog.listByCompany r.company with
  | error refusal => exact exists_trail_of_refusal hlist
  | ok products =>
    obtain ⟨outcome, w'', hkept, hplain, hcase⟩ := assemble_recorded r.exporter.source
      r.exporter.gateway (Locator.references (r.exporter.locator.slots products))
      (r.exporter.located r.company products r.start)
    obtain ⟨hstorage, hwrites⟩ := kept_calls hlist hkept
    rcases hcase with ⟨refusal, storage, hsession, hcalls, -⟩ |
      ⟨session, storage, e, closing, -, hcreate, hcalls, -, -, -, hlog, rfl⟩ |
      ⟨s, storage, start, -, hcreate, -, htour, hfollows, hcalls, hmarks, rfl⟩
    · exact exists_trail_of_no_session hlist hsession (hstorage.trans hcalls)
    · exact exists_trail_of_no_writer hlist hplain hcreate (hstorage.trans hcalls) hlog
    · obtain ⟨writer, hwriter, hwriterCalls⟩ := hcalls.writer
      rw [hwriter] at hwrites
      exact exists_trail_of_session hlist hplain htour hfollows hcreate hmarks
        (hstorage.trans hcalls.storage) (hwrites.trans hwriterCalls)

end Trail

end Run

/-! ## Rows of exports -/

theorem Run.log_finish (r : Run σ τ) : r.finish.log = r.start.log ++ r.records := by
  obtain ⟨trail, hlog, -⟩ := r.exists_trail
  rw [Run.records, hlog, List.drop_left]

theorem Run.isTrail_records (r : Run σ τ) : r.IsTrail r.records := by
  obtain ⟨trail, hlog, htrail⟩ := r.exists_trail
  rwa [Run.records, hlog, List.drop_left]

theorem log_afterExports (row : List (Exporter σ τ × String)) (w : Workshop σ τ) :
    (afterExports row w).log = w.log ++ (runs row w).flatMap Run.records := by
  induction row generalizing w with
  | nil => simp [afterExports, runs]
  | cons first rest ih =>
    obtain ⟨e, company⟩ := first
    have hfirst := Run.log_finish ⟨e, company, w⟩
    rw [afterExports, ih, runs, List.flatMap_cons, ← List.append_assoc]
    exact congrArg (· ++ _) hfirst

/-- The log of a row of exports is made up of the records of its exports, one behind the other, and
the records of each are an audit trail of it, whatever its catalog, its storage and its archive do. -/
theorem exports_audited (row : List (Exporter σ τ × String)) (w : Workshop σ τ) :
    (runs row w).map (fun r => (r.exporter, r.company)) = row ∧
    (afterExports row w).log = w.log ++ (runs row w).flatMap Run.records ∧
    ∀ r ∈ runs row w, r.kept.forget = r.finish ∧ r.IsTrail r.records :=
  ⟨runs_map row w, log_afterExports row w, fun r _ => ⟨r.kept_forget, r.isTrail_records⟩⟩

example :
    (afterExports
        [(sample, "c"), ({ sample with catalog := .ofList [] (some (.productQuery "down")) }, "d")]
        sampleWorkshop).log.map Log.Record.line =
      ["WARNING company=c entry=p/[1] skipped: empty-key ",
        "WARNING company=c entry=p/.. skipped: invalid-key Path '..' cannot contain a .. segment",
        "DEBUG entry p/a.jpg written, 3 bytes",
        "WARNING company=c entry=p/b.jpg skipped: open-failed Blob with key = photos/p/b.jpg Not Found",
        "INFO company=c exported 1 photos, 3 skipped, 115 bytes",
        "ERROR company=d product query failed: Cannot load products: down"] := by
  decide +kernel

/-- An export whose catalog says that the export of some other company has failed. -/
def misreported : Run Scripted.Storage Zip.Writer where
  exporter := { sample with catalog := .ofList [] (some (.exportFailed "c9" "inner" none)) }
  company := "c1"
  start := sampleWorkshop

/-- Such a catalog is believed, and nothing is logged. -/
theorem not_forall_surrender :
    ¬ ∀ (r : Run Scripted.Storage Zip.Writer) (company reason : String) (stage : Option FatalStage),
      r.outcome = .error (.exportFailed company reason stage) →
      (r.records.filter fun record =>
        record.level = .error ∧ record.component = .exporter).length = 1 := by
  intro h
  have hone := h misreported "c9" "inner" none rfl
  revert hone
  decide +kernel

end PhotoArchive.Exporter
