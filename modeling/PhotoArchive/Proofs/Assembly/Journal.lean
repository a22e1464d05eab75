import Mathlib.Data.List.Forall2
import Mathlib.Data.List.Pairwise
import PhotoArchive.Proofs.Assembly.Survival

/-!
# What is logged about photos

An assembly logs a warning about each photo that it enters into the ledger, and a message about each
photo that it counts. The photos that are counted can be told from the calls to the writer as well:
they are among the entries that were opened, written and closed, each with all data that it was given.
Both come in the same order.

## Main definitions

- `WriterCall.entries` — the entries that calls to a writer complete, with the data that they take
- `Visit.counted?` — the entry of a photo that is counted
- `IsUnskipped` — no photo is missing because copying it into an entry has failed
- `Log.only` — the records of one level
- `IsFoundAs` — a record of a directory is about an entry and leads to its data

## Main statements

- `entries_writerCalls`, `IsTour.counted_eq` — the entries of a session, and those that are counted
- `only_debug_notes` — the messages are about the entries that are counted, with their lengths
- `IsCompleted.exists_found` — in a zip archive these entries are found, in the same order
-/

namespace PhotoArchive

/-! ## Entries in the calls to a writer -/

namespace WriterCall

/-- The entry that is open behind a call, with the data that it has taken. -/
def next (current : Option (Path × Bytes)) : WriterCall → Option (Path × Bytes)
  | .openEntry name _ (.ok _) => some (name, [])
  | .write _ piece (.ok _) => current.map fun entry => (entry.1, entry.2 ++ piece)
  | .closeEntry _ _ => none
  | _ => current

/-- The entry that a call completes. -/
def completed? (current : Option (Path × Bytes)) : WriterCall → Option (Path × Bytes)
  | .closeEntry _ (.ok _) => current
  | _ => none

def entriesFrom : Option (Path × Bytes) → List WriterCall → List (Path × Bytes)
  | _, [] => []
  | current, call :: rest =>
    (call.completed? current).toList ++ entriesFrom (call.next current) rest

/-- The entries that calls open and close without a failure, in their order, each with the data that
were written in between. -/
def entries (calls : List WriterCall) : List (Path × Bytes) := entriesFrom none calls

theorem entriesFrom_writes (handle : Nat) (name : Path) (data : Bytes) (pieces : List Bytes)
    (rest : List WriterCall) :
    entriesFrom (some (name, data))
        (pieces.map (fun piece => .write handle piece (.ok ())) ++ rest)
      = entriesFrom (some (name, data ++ pieces.flatten)) rest := by
  induction pieces generalizing data with
  | nil => simp
  | cons piece pieces ih => simp [entriesFrom, completed?, next, ih]

end WriterCall

namespace Assembly

open Zip (Plot Tally Writer)

/-- The data of an entry that were not refused. -/
def Copying.taken : Copying → Bytes
  | unbuffered _ => []
  | through _ pieces _ _ _ => pieces.flatten

theorem Copying.entriesFrom_writes (copying : Copying) (handle : Nat) (name : Path)
    (rest : List WriterCall) :
    WriterCall.entriesFrom (some (name, [])) (copying.writes handle ++ rest)
      = WriterCall.entriesFrom (some (name, copying.taken)) rest := by
  cases copying with
  | unbuffered fault => rfl
  | through loan pieces ending =>
    rw [writes, List.append_assoc, WriterCall.entriesFrom_writes]
    -- A piece that is refused adds nothing to the entry.
    cases ending <;> rfl

def EntryWork.entry? (name : Path) : EntryWork → Option (Path × Bytes)
  | opened _ copying (.ok _) => some (name, copying.taken)
  | _ => none

/-- The entry that a visit completes, whether or not its photo is counted. -/
def Visit.entry? : Visit → Option (Path × Bytes)
  | missed _ _ => none
  | opened _ _ name work _ => work.entry? name

theorem EntryWork.entriesFrom_calls (work : EntryWork) (name : Path) (size : Option Int)
    (rest : List WriterCall) :
    WriterCall.entriesFrom none (work.calls name size ++ rest)
      = (work.entry? name).toList ++ WriterCall.entriesFrom none rest := by
  cases work with
  | refused e => rfl
  | opened handle copying closing =>
    have hwrites := copying.entriesFrom_writes handle name (.closeEntry handle closing :: rest)
    cases closing <;>
      simpa [calls, WriterCall.entriesFrom, WriterCall.completed?, WriterCall.next, entry?]
        using hwrites

theorem entriesFrom_footprint (session : SessionId) (visits : List Visit)
    (rest : List WriterCall) :
    WriterCall.entriesFrom none ((footprint session visits).writerCalls ++ rest)
      = visits.filterMap Visit.entry? ++ WriterCall.entriesFrom none rest := by
  -- Between two visits no entry is open.
  induction visits with
  | nil => rfl
  | cons v visits ih =>
    rw [footprint, Footprint.writerCalls_append, List.append_assoc, List.filterMap_cons]
    cases v with
    | missed reference e => exact ih
    | opened reference blob name work closing =>
      refine (work.entriesFrom_calls name blob.size _).trans ?_
      rw [ih, Visit.entry?]
      cases work.entry? name <;> rfl

theorem entries_writerCalls (s : Session) :
    WriterCall.entries s.writerCalls = s.visits.filterMap Visit.entry? := by
  have hending : WriterCall.entriesFrom none [s.ending.call] = [] := by
    cases s.ending <;> rfl
  rw [WriterCall.entries, Session.writerCalls, entriesFrom_footprint, hending, List.append_nil]

/-! ## Photos that are counted -/

/-- The entry of a photo that is counted. -/
def Visit.counted? (v : Visit) : Option (Path × Bytes) :=
  if v.length?.isSome then v.entry? else none

/-- A photo that is counted was written from its beginning to its end. -/
theorem Visit.counted?_cases (v : Visit) :
    (v.length? = none ∧ v.counted? = none) ∨
    ∃ entry : Path × Bytes, v.counted? = some entry ∧ v.name? = some entry.1 ∧
      v.length? = some entry.2.length ∧ v.tally? = some ⟨entry.1.value, entry.2, true⟩ := by
  rcases v with ⟨reference, e⟩ | ⟨reference, blob, name, work, e | u⟩
  · exact .inl ⟨rfl, rfl⟩
  · exact .inl ⟨rfl, rfl⟩
  rcases work with e | ⟨handle, copying, e | u'⟩
  · exact .inl ⟨rfl, rfl⟩
  · exact .inl ⟨rfl, rfl⟩
  rcases copying with fault | ⟨loan, pieces, ending, hpieces, hending⟩
  · exact .inl ⟨rfl, rfl⟩
  cases ending with
  | finished => exact .inr ⟨(name, pieces.flatten), rfl, rfl, rfl, rfl⟩
  | _ => exact .inl ⟨rfl, rfl⟩

/-- Where one function has a value, the other one has it as well. -/
theorem sublist_filterMap {α β : Type} {f g : α → Option β}
    (h : ∀ a b, f a = some b → g a = some b) (l : List α) :
    (l.filterMap f).Sublist (l.filterMap g) := by
  induction l with
  | nil => exact .slnil
  | cons a rest ih =>
    cases hf : f a with
    | some b => simpa [hf, h a b hf] using ih
    | none =>
      rw [List.filterMap_cons_none hf, List.filterMap_cons]
      cases g a with
      | none => exact ih
      | some b => exact ih.cons b

theorem length_counted (visits : List Visit) :
    (visits.filterMap Visit.counted?).length = visits.countP fun v => v.length?.isSome := by
  induction visits with
  | nil => rfl
  | cons v rest ih =>
    rw [List.filterMap_cons, List.countP_cons]
    rcases v.counted?_cases with ⟨hlength, hcounted⟩ | ⟨entry, hcounted, -, hlength, -⟩
    · simp [hcounted, hlength, ih]
    · simp [hcounted, hlength, ih]

/-! ## Entries that are skipped -/

/-- No photo is missing because copying it into an entry has failed. -/
def IsUnskipped (skips : List SkipRecord) (entry : Path × Bytes) : Prop :=
  ∀ skip ∈ skips, skip.reason = .copyFailed → skip.entryName ≠ entry.1.value

instance (skips : List SkipRecord) : DecidablePred (IsUnskipped skips) := fun _ => by
  unfold IsUnskipped
  infer_instance

/-- Where the work goes on, an entry that is not counted belongs to a photo that is skipped. -/
theorem Visit.skip?_of_not_counted {v : Visit} {entry : Path × Bytes} (hv : v.outcome = .ok ())
    (hentry : v.entry? = some entry) (hcounted : v.counted? = none) :
    ∃ skip, v.skip? = some skip ∧ skip.reason = .copyFailed ∧ skip.entryName = entry.1.value := by
  have hlength : v.length?.isSome = false := by
    rcases v.counted?_cases with ⟨hlength, -⟩ | ⟨_, hsome, -⟩
    · rw [hlength]
      rfl
    · cases hcounted.symm.trans hsome
  rcases v with ⟨reference, e⟩ | ⟨reference, blob, name, work, e | u⟩
  · cases hentry
  · cases hv
  rcases work with e | ⟨handle, copying, e | u'⟩
  · cases hentry
  · cases hentry
  cases hentry
  cases hwork : (EntryWork.opened handle copying (.ok u')).outcome with
  | ok copied => simp [length?, hwork, Except.toOption] at hlength
  | error e =>
    by_cases hcopy : IsCopyFailure e
    · exact ⟨_, by rw [skip?, EntryWork.skip?, hwork]; exact if_pos hcopy, rfl, rfl⟩
    · simp [outcome, EntryWork.settled, hwork, hcopy, Except.map] at hv

/-- A photo that is skipped in copying is not counted, and the name of its entry is told. -/
theorem Visit.of_skip? {v : Visit} {skip : SkipRecord} (hskip : v.skip? = some skip)
    (hreason : skip.reason = .copyFailed) :
    v.counted? = none ∧ ∃ name, v.name? = some name ∧ name.value = skip.entryName := by
  cases v with
  | missed reference e =>
    by_cases hblob : e.IsBlobError <;> simp [skip?, hblob] at hskip
    simp [← hskip] at hreason
  | opened reference blob name work closing =>
    cases hwork : work.outcome with
    | ok copied => simp [skip?, EntryWork.skip?, hwork] at hskip
    | error e =>
      by_cases hcopy : IsCopyFailure e <;> simp [skip?, EntryWork.skip?, hwork, hcopy] at hskip
      refine ⟨?_, name, rfl, by simp [← hskip]⟩
      cases closing <;> simp [counted?, length?, hwork, Except.toOption]

/-- Two visits do not give the same name to their entries. -/
def Visit.Differ (u v : Visit) : Prop :=
  ∀ m, u.name? = some m → ∀ n, v.name? = some n → m ≠ n

instance : Std.Symm Visit.Differ := ⟨fun _ _ h m hm n hn => (h n hn m hm).symm⟩

theorem IsTour.eq_of_name? {references : List PhotoReference} {taken : List Path} {fault? : Option RoomFault}
    {visits : List Visit} {u v : Visit} {name : Path}
    (h : IsTour references taken fault? visits) (hu : u ∈ visits) (hv : v ∈ visits)
    (huname : u.name? = some name) (hvname : v.name? = some name) : u = v := by
  have hpairwise : visits.Pairwise Visit.Differ := List.pairwise_filterMap.1 h.nodup_names.1
  by_contra hne
  exact hpairwise.forall hu hv hne name huname name hvname rfl

/-- Counted are the entries that no record says was skipped in copying. -/
theorem IsTour.counted_eq {references : List PhotoReference} {fault? : Option RoomFault}
    {visits : List Visit} (h : IsTour references [] fault? visits) (hok : outcome visits = .ok ())
    {others : List SkipRecord} (hothers : ∀ skip ∈ others, skip.reason ≠ .copyFailed) :
    visits.filterMap Visit.counted?
      = (visits.filterMap Visit.entry?).filter
        (IsUnskipped (others ++ visits.filterMap Visit.skip?)) := by
  rw [List.filter_filterMap]
  refine List.filterMap_congr fun v hv => ?_
  rcases v.counted?_cases with ⟨-, hcounted⟩ | ⟨entry, hcounted, hname, hlength, -⟩
  · rw [hcounted]
    cases hentry : v.entry? with
    | none => rfl
    | some entry =>
      obtain ⟨skip, hskip, hreason, hentryName⟩ :=
        Visit.skip?_of_not_counted (outcome_of_mem hok hv) hentry hcounted
      have hmem : skip ∈ others ++ visits.filterMap Visit.skip? :=
        List.mem_append_right _ (List.mem_filterMap.2 ⟨v, hv, hskip⟩)
      have hnot : ¬ IsUnskipped (others ++ visits.filterMap Visit.skip?) entry := fun hall =>
        hall skip hmem hreason hentryName
      simp [Option.filter, hnot]
  · have hentry : v.entry? = some entry := (Option.ite_none_right_eq_some.1 hcounted).2
    have hunskipped : IsUnskipped (others ++ visits.filterMap Visit.skip?) entry := by
      intro skip hskip hreason hentryName
      rcases List.mem_append.1 hskip with hother | hvisit
      · exact hothers skip hother hreason
      obtain ⟨u, hu, huskip⟩ := List.mem_filterMap.1 hvisit
      obtain ⟨hnone, name, huname, hvalue⟩ := Visit.of_skip? huskip hreason
      -- The two visits have one name, so they are one visit, but only one of them is counted.
      obtain rfl : name = entry.1 := Path.ext (hvalue.trans hentryName)
      obtain rfl : u = v := h.eq_of_name? hu hv huname hname
      cases hnone.symm.trans hcounted
    simp [hcounted, hentry, Option.filter, hunskipped]

/-! ## Records about photos -/

/-- The record about an entry whose photo is counted. -/
def entryRecord (entry : Path × Bytes) : Log.Record where
  level := .debug
  component := .assembly
  message := "entry " ++ entry.1.value ++ " written, " ++ toString entry.2.length ++ " bytes"

end Assembly

/-- The records of one level. -/
def Log.only (level : Log.Level) (log : Log) : Log := log.filter fun r => r.level = level

theorem Log.only_append (level : Log.Level) (log log' : Log) :
    only level (log ++ log') = only level log ++ only level log' :=
  List.filter_append log log'

namespace Assembly

variable (ledger : SkipLedger)

theorem only_warning_notes (notes : List Note) :
    Log.only .warning (notes.map (Note.record ledger))
      = (notes.filterMap Note.skip?).map ledger.warning := by
  induction notes with
  | nil => rfl
  | cons note rest ih =>
    cases note with
    | skipped record => exact congrArg (ledger.warning record :: ·) ih
    | written name length => exact ih

theorem only_debug_skipped (skips : List SkipRecord) :
    Log.only .debug ((skips.map Note.skipped).map (Note.record ledger)) = [] := by
  rw [List.map_map]
  refine List.filter_eq_nil_iff.2 fun r hr => ?_
  obtain ⟨record, -, rfl⟩ := List.mem_map.1 hr
  exact Bool.false_ne_true

/-- The messages of visits are about the photos that are counted. -/
theorem only_debug_notes (session : SessionId) (visits : List Visit) :
    Log.only .debug ((footprint session visits).notes.map (Note.record ledger))
      = (visits.filterMap Visit.counted?).map entryRecord := by
  induction visits with
  | nil => rfl
  | cons v rest ih =>
    have hv : Log.only .debug (v.notes.map (Note.record ledger))
        = v.counted?.toList.map entryRecord := by
      rw [Visit.notes, List.map_append, Log.only_append, only_debug_skipped, List.nil_append]
      rcases v.counted?_cases with ⟨hlength, hcounted⟩ | ⟨entry, hcounted, hname, hlength, -⟩
      · rw [hlength, hcounted]
        cases v.name? <;> rfl
      · rw [hname, hlength, hcounted]
        rfl
    have hnotes : (footprint session (v :: rest)).notes = v.notes ++ (footprint session rest).notes :=
      rfl
    rw [hnotes, List.map_append, Log.only_append, hv, ih, List.filterMap_cons]
    cases v.counted? <;> rfl

/-- About photos there are no other records. -/
theorem of_mem_notes {notes : List Note} {r : Log.Record}
    (hr : r ∈ notes.map (Note.record ledger)) :
    (r.level = .warning ∧ r.component = .ledger) ∨ (r.level = .debug ∧ r.component = .assembly) := by
  obtain ⟨note, -, rfl⟩ := List.mem_map.1 hr
  cases note with
  | skipped record => exact .inl ⟨rfl, rfl⟩
  | written name length => exact .inr ⟨rfl, rfl⟩

theorem only_notes_eq_nil {level : Log.Level} (hwarning : level ≠ .warning) (hdebug : level ≠ .debug)
    (notes : List Note) : Log.only level (notes.map (Note.record ledger)) = [] := by
  refine List.filter_eq_nil_iff.2 fun r hr => ?_
  rcases of_mem_notes ledger hr with ⟨hlevel, -⟩ | ⟨hlevel, -⟩
  · simpa [hlevel] using hwarning.symm
  · simpa [hlevel] using hdebug.symm

end Assembly

/-! ## Entries of a zip archive -/

/-- A gateway writes zip archives, to files that are empty at first. -/
inductive ArchiveGateway.WritesZip : {τ : Type} → ArchiveGateway τ → Prop
  | intro {file : File} {method : Zip.Method} {limit : Int} (hlimit : limit < Zip.fullField)
    (hopen : file.isClosed = false) (hempty : file.content = []) :
    ArchiveGateway.WritesZip (Zip.gateway file method limit)

namespace Assembly

open Zip (Plot Tally)

/-- A record of the directory of an archive is about an entry and leads to its data. -/
structure IsFoundAs (bytes : Bytes) (entry : Path × Bytes) (record : Zip.CentralFields) :
    Prop where
  name : record.name = entry.1.value
  size : record.size = entry.2.length
  data : ∃ e, Zip.entryOf? bytes record = some e ∧ e.data = entry.2

def tallyOf (entry : Path × Bytes) : Tally := ⟨entry.1.value, entry.2, true⟩

theorem tallies_sublist (visits : List Visit) :
    ((visits.filterMap Visit.counted?).map tallyOf).Sublist
      (visits.filterMap Visit.tally?) := by
  rw [List.map_filterMap]
  refine sublist_filterMap (fun v t h => ?_) visits
  rcases v.counted?_cases with ⟨-, hcounted⟩ | ⟨entry, hcounted, -, -, htally⟩
  · rw [hcounted] at h
    cases h
  · rw [hcounted] at h
    cases h
    exact htally

variable {limit : Int} {file : File} {method : Zip.Method}

/-- Behind visits that were completed, a reader finds the entries whose photos are counted, among all
that the directory lists and in that order. -/
theorem IsCompleted.exists_found {session : SessionId} {visits : List Visit} {archive : ArchiveFile}
    {plots : List (Plot limit)} {front directory stale : Bytes} {pieces : List Bytes}
    (h : IsCompleted file method session visits archive plots front directory pieces stale)
    (hlimit : limit < Zip.fullField) :
    ∃ (bytes : Bytes) (records found : List Zip.CentralFields),
      (File.readAll.run archive.file).1 = .ok bytes ∧
      Zip.directory? (bytes.take archive.size) = some records ∧ found.Sublist records ∧
      List.Forall₂ (IsFoundAs (bytes.take archive.size)) (visits.filterMap Visit.counted?) found := by
  obtain ⟨-, hdirectory, hfound⟩ := h.finished.read hlimit h.sown
  have hbytes := File.run_readAll h.finished.isOpen
  have htake : (front ++ directory ++ pieces.flatten ++ stale).take archive.size
      = front ++ directory ++ pieces.flatten := by
    rw [h.size_eq]
    exact List.take_left
  rw [h.finished.content] at hbytes
  rw [← htake] at hdirectory hfound
  -- The plots of the counted entries are among all plots.
  have hamong := tallies_sublist visits
  rw [← h.tallies] at hamong
  obtain ⟨counted, hsublist, hsame⟩ := List.sublist_map_iff.1 hamong
  refine ⟨_, _, counted.map fun p => p.entry.centralFields limit, hbytes, hdirectory,
    hsublist.map _, ?_⟩
  have htallies : List.Forall₂ (fun p entry => p.tally = tallyOf entry) counted
      (visits.filterMap Visit.counted?) := by
    have hequal : List.Forall₂ Eq (counted.map Plot.tally)
        ((visits.filterMap Visit.counted?).map tallyOf) := by
      rw [List.forall₂_eq_eq_eq, hsame]
    rwa [List.forall₂_map_left_iff, List.forall₂_map_right_iff] at hequal
  have hplots := (List.forall₂_and_left _ _).2 ⟨fun p hp => hsublist.subset hp, htallies⟩
  rw [List.forall₂_map_right_iff]
  apply hplots.flip.imp
  rintro entry p ⟨hp, htally⟩
  have hdata : p.data = entry.2 := congrArg Tally.data htally
  refine ⟨congrArg Tally.name htally, ?_, p.storedEntry, ?_, hdata⟩
  · rw [← hdata]
    exact p.size_eq
  · exact hfound p hp (congrArg Tally.isWhole htally)

/-- In the zip archive of a session a reader finds the entries whose photos are counted. -/
theorem Session.exists_found {σ τ : Type} {source : BlobSource σ} {gateway : ArchiveGateway τ}
    (hzip : gateway.WritesZip) {s : Session} {start : τ} {w w' : Workshop σ τ}
    {archive : ArchiveFile} (hcreate : gateway.create = .ok start)
    (hmarks : s.Marks source gateway start w w') (hending : s.ending = .finalized (.ok archive)) :
    ∃ (bytes : Bytes) (records found : List Zip.CentralFields),
      (File.readAll.run archive.file).1 = .ok bytes ∧
      Zip.directory? (bytes.take archive.size) = some records ∧ found.Sublist records ∧
      List.Forall₂ (IsFoundAs (bytes.take archive.size)) (s.visits.filterMap Visit.counted?)
        found := by
  cases hzip with
  | intro hlimit hopen hempty =>
    cases hcreate
    obtain ⟨_, _, _, _, _, hcompleted⟩ :=
      Session.exists_isCompleted hopen hempty hmarks hending
    exact hcompleted.exists_found hlimit

end Assembly

end PhotoArchive
