import PhotoArchive.Proofs.Assembly.Contents
import PhotoArchive.Proofs.Path.FreeName
import PhotoArchive.Proofs.Zip.Interrupted

/-!
# Archives on files that refuse some writes

An assembly goes on when the file of its archive refuses a write, and may end with a result. The
directory of that archive can be read, and every entry none of whose data were refused is found in
it, whatever was refused before, in between and behind it. The data of the other entries are not what
their records say.

## Main definitions

- `Copying.counted`, `Copying.isWhole` — what was written to an entry, and whether all was taken
- `Visit.tally?` — what is counted for the entry of a visit, if there is one
- `Advances` — a writer has gone on, and has not written before where it was
- `IsCompleted` — what visits have left in an archive that was completed behind them

## Main statements

- `paused_of_visits` — what visits do to the archive, whatever its file refuses
- `assemble_interrupted` — what a reader finds in a finished archive
- `counted_survives` — a photo that is counted is found, and was not written over

## Design notes

Between two visits the writer is paused, whatever has become of the visit before. So what holds of one
entry is shown for its visit alone, and kept by all visits behind it.
-/

namespace PhotoArchive.Assembly

open File (WrittenBehind GoesOn)
open Zip (Method Plot Tally Writer IsClosingFailure)
open Zip.Writer (Paused Filling IsFinished)

variable {limit : Int} {file : File} {method : Method}

/-! ## What is counted for an entry -/

/-- All that was written to an entry, also what was refused. -/
def Copying.counted : Copying → Bytes
  | unbuffered _ => []
  | through _ pieces (.refused piece _) _ _ => pieces.flatten ++ piece
  | through _ pieces _ _ _ => pieces.flatten

def Copying.isWhole : Copying → Bool
  | through _ _ (.refused _ _) _ _ => false
  | _ => true

/-- What is counted for an entry that is opened and closed. -/
def EntryWork.tally? (name : Path) : EntryWork → Option Tally
  | opened _ copying (.ok _) => some ⟨name.value, copying.counted, copying.isWhole⟩
  | _ => none

def Visit.tally? : Visit → Option Tally
  | missed _ _ => none
  | opened _ _ name work _ => work.tally? name

/-- An entry that was opened was closed without a failure. -/
def EntryWork.IsClosed : EntryWork → Prop
  | opened _ _ (.error _) => False
  | _ => True

def Visit.IsClosed : Visit → Prop
  | missed _ _ => True
  | opened _ _ _ work _ => work.IsClosed

/-- A writer has gone on from one place to another, and no write on the way began before the first of
them. -/
structure Advances (w w' : Writer) (front front' : Bytes) : Prop where
  length_le : front.length ≤ front'.length
  written : WrittenBehind front.length w.file w'.file

theorem Advances.trans {w w' w'' : Writer} {front front' front'' : Bytes}
    (h : Advances w w' front front') (h' : Advances w' w'' front' front'') :
    Advances w w'' front front'' where
  length_le := Nat.le_trans h.length_le h'.length_le
  written := h.written.trans (h'.written.mono h.length_le)

/-! ## One entry -/

section Entry

variable {w w' : Writer} {plots : List (Plot limit)} {front stale : Bytes} {handle : Nat}
  {name : String}

theorem filling_of_writes {before pieces : List Bytes} {isWhole : Bool}
    (h : Filling method w plots front stale handle name before isWhole)
    (hcalls : Leads (Zip.gateway file method limit).Answers
      (pieces.map fun piece => .write handle piece (.ok ())) w w') :
    ∃ stale', Filling method w' plots front stale' handle name (pieces.reverse ++ before) isWhole ∧
      GoesOn front.length w.file w'.file stale stale' := by
  induction pieces generalizing w before stale with
  | nil =>
    cases hcalls
    exact ⟨stale, h, .refl⟩
  | cons piece rest ih =>
    obtain _ | ⟨hcall, hrest⟩ := hcalls
    obtain ⟨stale₁, hfirst, hwritten⟩ := (h.write piece).of_ok hcall
    obtain ⟨stale₂, hlast, hwritten'⟩ := ih hfirst hrest
    exact ⟨stale₂, by simpa using hlast, hwritten.trans hwritten'⟩

theorem filling_of_copying {copying : Copying}
    (h : Filling method w plots front stale handle name [] true)
    (hcalls : Leads (Zip.gateway file method limit).Answers (copying.writes handle) w w') :
    ∃ pieces stale', pieces.reverse.flatten = copying.counted ∧
      Filling method w' plots front stale' handle name pieces copying.isWhole ∧
      GoesOn front.length w.file w'.file stale stale' := by
  cases copying with
  | unbuffered fault =>
    cases hcalls
    exact ⟨[], stale, rfl, h, .refl⟩
  | through loan pieces ending hpieces hending =>
    obtain ⟨w₁, hwrites, hlast⟩ := hcalls.of_append
    obtain ⟨stale₁, hfilling, hwritten⟩ := filling_of_writes h hwrites
    rw [List.append_nil] at hfilling
    cases ending with
    | refused piece e =>
      obtain ⟨hrefused, hwritten'⟩ := (hfilling.write piece).of_error hlast.of_single
      exact ⟨piece :: pieces.reverse, stale₁, by simp [Copying.counted], hrefused,
        hwritten.behind.trans hwritten', hwritten.tidy⟩
    | finished | failed | exceeded =>
      cases hlast
      exact ⟨pieces.reverse, stale₁, by simp [Copying.counted], hfilling, hwritten⟩

/-- In front of the last call the entry is open, with all that was counted. -/
theorem filling_of_entry {copying : Copying} {name : Path} {size : Option Int}
    (h : Paused method w plots front stale)
    (hcalls : Leads (Zip.gateway file method limit).Answers
      (.openEntry name size (.ok handle) :: copying.writes handle) w w') :
    ∃ pieces stale', pieces.reverse.flatten = copying.counted ∧
      Filling method w' plots front stale' handle name.value pieces copying.isWhole ∧
      GoesOn front.length w.file w'.file stale stale' := by
  obtain _ | ⟨hopen, hwrites⟩ := hcalls
  obtain ⟨stale₁, hbegun, hwritten⟩ := (h.openEntry name.value size).of_ok hopen
  obtain ⟨pieces, stale₂, hcounted, hfilling, hwritten'⟩ := filling_of_copying hbegun hwrites
  exact ⟨pieces, stale₂, hcounted, hfilling, hwritten.trans hwritten'⟩

/-- What is left over is not more than before if no entry fails in closing, or if data are stored and
the failure is only the photo's fault. -/
def EntryWork.IsTidy (method : Method) (work : EntryWork) : Prop :=
  work.IsClosed ∨ method = .stored ∧ ∀ e, work.outcome = .error e → IsCopyFailure e

theorem eq_noSpace_of_isCopyFailure {e : Failure} (h : IsClosingFailure e)
    (hcopy : IsCopyFailure e) : e = .file { fault := .noSpace } := by
  cases h with
  | noSpace => rfl
  | _ => simp [IsCopyFailure, Failure.IsReadError, Failure.IsSystemError, Failure.IsValueError] at hcopy

/-- Whatever the file refuses, the work on an entry adds a plot for what it has counted, or none. -/
theorem EntryWork.paused {work : EntryWork} {name : Path} {size : Option Int}
    (h : Paused method w plots front stale)
    (hcalls : Leads (Zip.gateway file method limit).Answers (work.calls name size) w w') :
    ∃ (ps : List (Plot limit)) (front' stale' : Bytes),
      Paused method w' (plots ++ ps) front' stale' ∧ ps.map Plot.tally = (work.tally? name).toList ∧
      Advances w w' front front' ∧ (work.IsTidy method → stale = [] → stale' = []) := by
  cases work with
  | refused e =>
    obtain ⟨hpaused, hwritten⟩ := (h.openEntry name.value size).of_error hcalls.of_single
    exact ⟨[], front, stale, by simpa using hpaused, rfl, ⟨Nat.le_refl _, hwritten⟩, fun _ => id⟩
  | opened handle copying closing =>
    obtain ⟨w₁, hentry, hlast⟩ := hcalls.of_append
    obtain ⟨pieces, stale₁, hcounted, hfilling, hwritten⟩ := filling_of_entry h hentry
    cases closing with
    | ok u =>
      obtain ⟨p, front', stale', hpaused, htally, hle, hwritten'⟩ :=
        hfilling.closeEntry.of_ok hlast.of_single
      have hall := hwritten.trans hwritten'
      refine ⟨[p], front', stale', hpaused, ?_, ⟨hle, hall.behind⟩, fun _ => hall.tidy⟩
      simp [htally, hcounted, EntryWork.tally?]
    | error e =>
      obtain ⟨front', stale', hpaused, hle, hwritten', hfailure, hempty'⟩ :=
        hfilling.closeEntry.of_error hlast.of_single
      refine ⟨[], front', stale', by simpa using hpaused, rfl,
        ⟨hle, hwritten.behind.trans hwritten'⟩, ?_⟩
      rintro (hclosed | ⟨hmethod, hcopy⟩) hstale
      · exact hclosed.elim
      · have hspace := eq_noSpace_of_isCopyFailure hfailure (hcopy e rfl)
        exact hempty' hmethod hspace (hwritten.tidy hstale)

end Entry

/-! ## Entries in a row -/

def Visit.IsTidy (method : Method) : Visit → Prop
  | missed _ _ => True
  | opened _ _ _ work _ => work.IsTidy method

/-- Where the work went on, only a compressed entry that failed in closing leaves something over. -/
theorem Visit.isTidy_of_outcome {v : Visit} (h : v.outcome = .ok ())
    (hkept : method = .stored ∨ v.IsClosed) : v.IsTidy method := by
  cases v with
  | missed reference e => trivial
  | opened reference blob name work closing =>
    rcases hkept with hmethod | hclosed
    · refine .inr ⟨hmethod, ?_⟩
      intro e he
      by_cases hcopy : IsCopyFailure e
      · exact hcopy
      · cases closing <;> simp [Visit.outcome, EntryWork.settled, he, hcopy, Except.map] at h
    · exact .inl hclosed

section Row

variable {session : SessionId} {w w' : Writer} {plots : List (Plot limit)} {front stale : Bytes}

theorem Visit.paused {v : Visit} (h : Paused method w plots front stale)
    (hcalls : Leads (Zip.gateway file method limit).Answers
      (v.footprint session).writerCalls w w') :
    ∃ (ps : List (Plot limit)) (front' stale' : Bytes),
      Paused method w' (plots ++ ps) front' stale' ∧ ps.map Plot.tally = v.tally?.toList ∧
      Advances w w' front front' ∧ (v.IsTidy method → stale = [] → stale' = []) := by
  cases v with
  | missed reference e =>
    cases hcalls
    exact ⟨[], front, stale, by simpa using h, rfl, ⟨Nat.le_refl _, .refl⟩, fun _ => id⟩
  | opened reference blob name work closing => exact EntryWork.paused h hcalls

/-- Whatever the file refuses, visits add the plots of the entries that they close. A plot that is
there behind a visit is not written over by the visits that follow. -/
theorem paused_of_visits {visits : List Visit} (h : Paused method w plots front stale)
    (hcalls : Leads (Zip.gateway file method limit).Answers
      (footprint session visits).writerCalls w w') :
    ∃ (ps : List (Plot limit)) (front' stale' : Bytes),
      Paused method w' (plots ++ ps) front' stale' ∧
      ps.map Plot.tally = visits.filterMap Visit.tally? ∧ Advances w w' front front' ∧
      ((∀ v ∈ visits, v.IsTidy method) → stale = [] → stale' = []) ∧
      ∀ earlier v later, visits = earlier ++ v :: later → ∀ t, v.tally? = some t →
        ∃ p ∈ ps, p.tally = t ∧ ∃ w₁,
          Leads (Zip.gateway file method limit).Answers
            (footprint session (earlier ++ [v])).writerCalls w w₁ ∧
          WrittenBehind p.finish w₁.file w'.file := by
  -- Between two visits the writer is paused, so the rest begins with the plots of the first visit.
  induction visits generalizing w plots front stale with
  | nil =>
    cases hcalls
    refine ⟨[], front, stale, by simpa using h, rfl, ⟨Nat.le_refl _, .refl⟩, fun _ => id, ?_⟩
    intro earlier v later hsplit
    simp at hsplit
  | cons first rest ih =>
    obtain ⟨w₁, hfirst, hrest⟩ := hcalls.of_append
    obtain ⟨ps, front₁, stale₁, hpaused, htally, hadvances, hempty⟩ := Visit.paused h hfirst
    obtain ⟨ps', front₂, stale₂, hpaused', htally', hadvances', hempty', hlater⟩ := ih hpaused hrest
    refine ⟨ps ++ ps', front₂, stale₂, by simpa using hpaused', ?_, hadvances.trans hadvances', ?_, ?_⟩
    · rw [List.map_append, htally, htally', List.filterMap_cons]
      cases first.tally? <;> rfl
    · intro htidy hstale
      apply hempty' (fun u hu => htidy u (List.mem_cons_of_mem first hu))
      exact hempty (htidy first List.mem_cons_self) hstale
    · intro earlier v later hsplit t ht
      cases earlier with
      | nil =>
        -- The plot ends where the rest begins or before, and the rest writes behind that place.
        cases hsplit
        rw [ht] at htally
        obtain ⟨p, rfl, hp⟩ := List.map_eq_singleton_iff.1 htally
        have hfinish : p.finish ≤ front₁.length := hpaused.sown.finish_le (by simp)
        refine ⟨p, by simp, hp, w₁, ?_, hadvances'.written.mono hfinish⟩
        simpa [footprint, Footprint.append_eq] using hfirst
      | cons u earlier =>
        cases hsplit
        obtain ⟨p, hp, hpt, w₂, hleads, hwritten⟩ := hlater earlier v later rfl t ht
        exact ⟨p, List.mem_append_right ps hp, hpt, w₂, hfirst.append hleads, hwritten⟩

end Row

/-! ## Finished archives -/

theorem outcome_of_mem {visits : List Visit} {v : Visit} (h : outcome visits = .ok ())
    (hv : v ∈ visits) : v.outcome = .ok () := by
  induction visits with
  | nil => cases hv
  | cons first rest ih =>
    rw [outcome] at h
    cases hfirst : first.outcome with
    | error e =>
      rw [hfirst] at h
      cases h
    | ok u =>
      rw [hfirst] at h
      rcases List.mem_cons.1 hv with rfl | hv
      · exact hfirst
      · exact ih h hv

/-- What visits have left in an archive that was completed behind them. -/
structure IsCompleted (file : File) (method : Method) (session : SessionId) (visits : List Visit)
    (archive : ArchiveFile) (plots : List (Plot limit)) (front directory : Bytes)
    (pieces : List Bytes) (stale : Bytes) : Prop where
  methods : ∀ p ∈ plots, p.entry.method = method.number
  sown : Zip.Sown front plots
  tallies : plots.map Plot.tally = visits.filterMap Visit.tally?
  finished : IsFinished archive.file plots front directory pieces stale
  size_eq : archive.size = (front ++ directory ++ pieces.flatten).length
  clean : (∀ v ∈ visits, v.IsTidy method) → stale = []
  keeps : ∀ earlier v later, visits = earlier ++ v :: later → ∀ t, v.tally? = some t →
    ∃ p ∈ plots, p.tally = t ∧ ∃ w₁,
      Leads (Zip.gateway file method limit).Answers
        (footprint session (earlier ++ [v])).writerCalls (.new file method limit) w₁ ∧
      WrittenBehind p.finish w₁.file archive.file

theorem exists_isCompleted {session : SessionId} {visits : List Visit} {w₁ writer : Writer}
    {archive : ArchiveFile} (hopen : file.isClosed = false) (hempty : file.content = [])
    (hentries : Leads (Zip.gateway file method limit).Answers
      (footprint session visits).writerCalls (.new file method limit) w₁)
    (hend : w₁.complete = (.ok archive, writer)) :
    ∃ (plots : List (Plot limit)) (front directory : Bytes) (pieces : List Bytes) (stale : Bytes),
      IsCompleted file method session visits archive plots front directory pieces stale := by
  have hnew : Paused method (.new file method limit) ([] : List (Plot limit)) [] [] :=
    Writer.new_paused hopen hempty
  obtain ⟨plots, front, stale, hpaused, htally, -, htidy, hkeeps⟩ := paused_of_visits hnew hentries
  rw [List.nil_append] at hpaused
  obtain ⟨directory, pieces, stale', hfinished, hsize, hlast⟩ := hpaused.complete hend
  refine ⟨plots, front, directory, pieces, stale', hpaused.methods, hpaused.sown, htally, hfinished,
    hsize, fun hall => hlast.tidy (htidy hall rfl), ?_⟩
  intro earlier v later hsplit t ht
  obtain ⟨p, hp, hpt, w₂, hleads, hwritten⟩ := hkeeps earlier v later hsplit t ht
  exact ⟨p, hp, hpt, w₂, hleads, hwritten.trans (hlast.behind.mono (hpaused.sown.finish_le hp))⟩

/-- A session that ends with an archive has completed it behind its visits. -/
theorem Session.exists_isCompleted {σ : Type} {source : BlobSource σ} {s : Session}
    {w w' : Workshop σ Writer} {archive : ArchiveFile} (hopen : file.isClosed = false)
    (hempty : file.content = [])
    (hmarks : s.Marks source (Zip.gateway file method limit) (.new file method limit) w w')
    (hending : s.ending = .finalized (.ok archive)) :
    ∃ (plots : List (Plot limit)) (front directory : Bytes) (pieces : List Bytes) (stale : Bytes),
      IsCompleted file method s.id s.visits archive plots front directory pieces stale := by
  obtain ⟨writer, -, hwrites⟩ := hmarks.writer
  obtain ⟨w₁, hentries, hlast⟩ := hwrites.of_append
  have hend : w₁.complete = (.ok archive, writer) := by
    have hanswer := hlast.of_single
    rw [hending] at hanswer
    exact hanswer
  exact Assembly.exists_isCompleted hopen hempty hentries hend

/-- An assembly with a result has visited all its references and completed the archive. -/
theorem exists_session_of_result {σ : Type} {source : BlobSource σ}
    {references : List PhotoReference} {w w' : Workshop σ Writer} {result : ExportResult}
    (hopen : file.isClosed = false) (hempty : file.content = [])
    (h : (assemble source (Zip.gateway file method limit) references).run w = (.ok result, w')) :
    ∃ (w'' : Workshop (Recorded σ StorageCall) (Recorded Writer WriterCall)) (s : Session)
      (plots : List (Plot limit)) (front directory : Bytes) (pieces : List Bytes) (stale : Bytes),
      (assemble source.recorded (Zip.gateway file method limit).recorded references).run w.recording
        = (.ok result, w'') ∧ w''.forget = w' ∧ s.IsKept w'' ∧
      IsTour references [] w.pool.roomFault? s.visits ∧ outcome s.visits = .ok () ∧
      result.written = (footprint s.id s.visits).notes.countP Note.isWritten ∧
      IsCompleted file method s.id s.visits result.archive plots front directory pieces stale := by
  obtain ⟨outcome, w'', hrun, hplain, hcase⟩ :=
    assemble_recorded_of_create source (Zip.create_gateway file method limit) references w
  obtain ⟨rfl, rfl⟩ := Prod.mk.inj (h.symm.trans hplain)
  rcases hcase with ⟨_, _, -, -, -, -, hrefused⟩ |
    ⟨s, storage, -, -, htour, hfollows, hkept, hmarks, hresult⟩
  · cases hrefused
  obtain ⟨hvisits, hending, -, hwritten, -⟩ := Session.of_result hresult.symm hfollows
  obtain ⟨plots, front, directory, pieces, stale, hcompleted⟩ :=
    Session.exists_isCompleted hopen hempty hmarks hending
  exact ⟨w'', s, plots, front, directory, pieces, stale, hrun, rfl, hkept, htour, hvisits, hwritten,
    hcompleted⟩

/-- When an assembly has ended with a result, what is in front of the file is an archive. Its directory
lists, in the order of the references, the entries that were opened and closed, with the size and the
checksum of all data that were written to them. An entry none of whose data were refused is found,
and lies before the next one and before the directory. -/
theorem assemble_interrupted {σ : Type} {source : BlobSource σ} {references : List PhotoReference}
    {w w' : Workshop σ Writer} {result : ExportResult} (hlimit : limit < Zip.fullField)
    (hopen : file.isClosed = false) (hempty : file.content = [])
    (h : (assemble source (Zip.gateway file method limit) references).run w = (.ok result, w')) :
    ∃ (w'' : Workshop (Recorded σ StorageCall) (Recorded Writer WriterCall)) (s : Session)
      (bytes : Bytes) (place : Zip.DirectoryPlace) (found : List (Tally × Zip.CentralFields)),
      (assemble source.recorded (Zip.gateway file method limit).recorded references).run w.recording
        = (.ok result, w'') ∧ w''.forget = w' ∧ s.IsKept w'' ∧
      s.visits.map Visit.reference = references ∧
      (File.readAll.run result.archive.file).1 = .ok bytes ∧ result.archive.size ≤ bytes.length ∧
      (method = .stored ∨ (∀ v ∈ s.visits, v.IsClosed) → result.archive.size = bytes.length) ∧
      Zip.directoryPlace? (bytes.take result.archive.size) = some place ∧
      Zip.directory? (bytes.take result.archive.size) = some (found.map Prod.snd) ∧
      found.map Prod.fst = s.visits.filterMap Visit.tally? ∧
      (∀ f ∈ found, f.2.name = f.1.name ∧ f.2.size = f.1.data.length ∧
        f.2.crc = f.1.data.crc32.toNat) ∧
      (∀ f ∈ found, f.1.isWhole = true →
        ∃ e, Zip.entryOf? (bytes.take result.archive.size) f.2 = some e ∧ e.data = f.1.data ∧
          e.dataStart + e.raw.length ≤ place.offset) ∧
      found.Pairwise fun f g => f.1.isWhole = true →
        ∀ e, Zip.entryOf? (bytes.take result.archive.size) f.2 = some e →
          e.dataStart + e.raw.length ≤ g.2.offset := by
  obtain ⟨w'', s, plots, front, directory, pieces, stale, hrun, hforget, hkept, htour, hvisits, -,
    hcompleted⟩ := exists_session_of_result hopen hempty h
  have hsize := hcompleted.size_eq
  obtain ⟨hplace, hdirectory, hfound⟩ := hcompleted.finished.read hlimit hcompleted.sown
  -- The size is that of the archive without what is left over behind it.
  have htake : (front ++ directory ++ pieces.flatten ++ stale).take result.archive.size
      = front ++ directory ++ pieces.flatten := by
    rw [hsize]
    exact List.take_left
  have hbytes := File.run_readAll hcompleted.finished.isOpen
  rw [hcompleted.finished.content] at hbytes
  rw [← htake] at hplace hdirectory hfound
  refine ⟨w'', s, _, _,
    plots.map fun p => (p.tally, p.entry.centralFields limit), hrun, hforget, hkept,
    htour.complete hvisits, hbytes, ?_, ?_, hplace, ?_, ?_, ?_, ?_, ?_⟩
  · rw [hsize]
    exact (List.prefix_append _ _).length_le
  · intro hmild
    have hall : ∀ v ∈ s.visits, v.IsTidy method := by
      intro v hv
      exact Visit.isTidy_of_outcome (outcome_of_mem hvisits hv) (hmild.imp_right fun hc => hc v hv)
    rw [hsize, hcompleted.clean hall, List.append_nil]
  · rw [hdirectory, List.map_map]
    rfl
  · rw [List.map_map]
    exact hcompleted.tallies
  · intro f hf
    obtain ⟨p, -, rfl⟩ := List.mem_map.1 hf
    exact ⟨rfl, p.size_eq, congrArg UInt32.toNat p.crc_eq⟩
  · intro f hf hwhole
    obtain ⟨p, hp, rfl⟩ := List.mem_map.1 hf
    refine ⟨p.storedEntry, hfound p hp hwhole, rfl, ?_⟩
    rw [p.end_storedEntry]
    exact hcompleted.sown.finish_le hp
  · rw [List.pairwise_map]
    apply hcompleted.sown.pairwise.imp_of_mem
    intro p q hp _ hle hwhole e he
    obtain rfl : p.storedEntry = e := Option.some.inj ((hfound p hp hwhole).symm.trans he)
    rw [p.end_storedEntry]
    exact hle

/-- A file that refuses one write, counted from zero. -/
def refusingOnce (n : Nat) : File where
  accepts := fun writes _ _ => writes != n

theorem sample_interrupted :
    ∃ (result : ExportResult) (w' : Workshop Scripted.Storage Writer),
      (assemble Scripted.source (Zip.gateway (refusingOnce 5) .stored Zip.standardLimit)
        sampleReferences).run sampleWorkshop = (.ok result, w') ∧ result.written = 1 ∧
      (Zip.entries? result.archive.file.content).isSome = false := by
  have hends : ((assemble Scripted.source
      (Zip.gateway (refusingOnce 5) .stored Zip.standardLimit) sampleReferences).run
        sampleWorkshop).1.toOption.map
          (fun r => (r.written, (Zip.entries? r.archive.file.content).isSome))
            = some (1, false) := by
    decide +kernel
  rcases hrun : (assemble Scripted.source
    (Zip.gateway (refusingOnce 5) .stored Zip.standardLimit) sampleReferences).run sampleWorkshop
      with ⟨failure | result, w'⟩
  · rw [hrun] at hends
    cases hends
  · rw [hrun] at hends
    obtain ⟨hwritten, hnone⟩ := Prod.mk.inj (Option.some.inj hends)
    exact ⟨result, w', rfl, hwritten, hnone⟩

theorem assemble_interrupted_sample :
    ∃ (result : ExportResult) (w' : Workshop Scripted.Storage Writer) (bytes : Bytes)
      (records : List Zip.CentralFields),
      (assemble Scripted.source (Zip.gateway (refusingOnce 5) .stored Zip.standardLimit)
        sampleReferences).run sampleWorkshop = (.ok result, w') ∧ result.written = 1 ∧
      (File.readAll.run result.archive.file).1 = .ok bytes ∧ Zip.directory? bytes = some records := by
  obtain ⟨result, w', hrun, hwritten, -⟩ := sample_interrupted
  obtain ⟨_, _, bytes, _, found, -, -, -, -, hread, -, hsize, -, hdirectory, -⟩ :=
    assemble_interrupted (by decide) rfl rfl hrun
  rw [hsize (.inl rfl), List.take_length] at hdirectory
  exact ⟨result, w', bytes, _, hrun, hwritten, hread, hdirectory⟩

/-- One refused write of stored data leaves an entry that does not decode. -/
theorem not_forall_entries_decode :
    ¬ ∀ (file : File) (references : List PhotoReference) (w w' : Workshop Scripted.Storage Writer)
      (result : ExportResult), file.isClosed = false → file.content = [] →
      (assemble Scripted.source (Zip.gateway file .stored Zip.standardLimit) references).run w
        = (.ok result, w') →
      (Zip.entries? result.archive.file.content).isSome := by
  intro h
  obtain ⟨result, w', hrun, -, hnone⟩ := sample_interrupted
  have hsome := h (refusingOnce 5) sampleReferences sampleWorkshop w' result rfl rfl hrun
  exact Bool.false_ne_true (hnone.symm.trans hsome)

/-! ## Photos that are counted -/

theorem countP_notes_eq (v : Visit) :
    v.notes.countP Note.isWritten = if v.length?.isSome then 1 else 0 := by
  rw [Visit.notes, List.countP_append, countP_skipped, Nat.zero_add]
  rcases v with ⟨reference, e⟩ | ⟨reference, blob, name, work, closing⟩
  · rfl
  · cases hlength : (Visit.opened reference blob name work closing).length? <;> rfl

theorem written_eq_countP (session : SessionId) (visits : List Visit) :
    (footprint session visits).notes.countP Note.isWritten
      = visits.countP fun v => v.length?.isSome := by
  induction visits with
  | nil => rfl
  | cons v rest ih =>
    have hv : (v.footprint session).notes.countP Note.isWritten = _ := countP_notes_eq v
    rw [footprint, Footprint.notes_append, List.countP_append, hv, ih, List.countP_cons,
      Nat.add_comm]

/-- The entry of a photo that is counted was closed, and got all of the photo. -/
theorem Visit.tally?_of_length? {v : Visit} (h : v.length?.isSome) :
    ∃ photo, v.photo? = some photo ∧ photo.isComplete = true ∧
      v.tally? = some ⟨photo.name.value, photo.data, true⟩ := by
  rcases v with ⟨reference, e⟩ | ⟨reference, blob, name, work, e | u⟩
  · cases h
  · cases h
  rcases work with e | ⟨handle, copying, e | u'⟩
  · cases h
  · cases h
  rcases copying with fault | ⟨loan, pieces, ending, hpieces, hending⟩
  · cases h
  cases ending with
  | finished =>
    have hreceived := received_reads blob.reader loan.length pieces (.ok [])
    have hreaches := @reachesEnd_reads blob.reader loan.length _
      (fun piece hp => (hpieces piece hp).1) (.ok [])
    refine ⟨_, rfl, hreaches, ?_⟩
    have hdata : received ((EntryWork.opened handle
        (.through loan pieces .finished hpieces hending) (.ok u')).reads blob.reader)
          = pieces.flatten := hreceived.trans (List.append_nil _)
    rw [hdata]
    rfl
  | _ => cases h

theorem IsTour.nodup_names {references : List PhotoReference} {taken : List Path}
    {fault? : Option RoomFault} {visits : List Visit} (h : IsTour references taken fault? visits) :
    (visits.filterMap Visit.name?).Nodup ∧ ∀ name ∈ visits.filterMap Visit.name?, name ∉ taken := by
  have hfree {v : Visit} {taken : List Path} {name : Path} (hnamed : v.IsNamed taken)
      (hname : v.name? = some name) : name ∉ taken := by
    cases v with
    | missed reference e => cases hname
    | opened reference blob name' work closing =>
      cases hname
      exact uniqueName_not_mem hnamed
  induction h with
  | nil => simp
  | @last reference rest taken _ v e _ hnamed _ _ =>
    cases hname : v.name? with
    | none => simp [hname]
    | some name => simpa [hname] using hfree hnamed hname
  | @cons reference rest taken _ v visits _ hnamed _ _ _ ih =>
    cases hname : v.name? with
    | none => simpa [hname] using ih
    | some name =>
      obtain ⟨hnodup, hnew⟩ := ih
      rw [hname] at hnew
      simp only [Option.toList_some, List.singleton_append, List.mem_cons, not_or] at hnew
      rw [List.filterMap_cons_some hname]
      refine ⟨List.nodup_cons.2 ⟨fun hmem => (hnew name hmem).1 rfl, hnodup⟩, ?_⟩
      intro name' hname'
      rcases List.mem_cons.1 hname' with rfl | hname'
      · exact hfree hnamed hname
      · exact (hnew name' hname').2

theorem sublist_names (visits : List Visit) :
    ((visits.filterMap Visit.tally?).map Tally.name).Sublist
      ((visits.filterMap Visit.name?).map Path.value) := by
  induction visits with
  | nil => exact .slnil
  | cons v rest ih =>
    rcases v with ⟨reference, e⟩ | ⟨reference, blob, name, work, closing⟩
    · exact ih
    · rcases work with e | ⟨handle, copying, e | u⟩
      · exact ih.cons name.value
      · exact ih.cons name.value
      · exact ih.cons_cons name.value

/-- The entries that a tour closes have different names. -/
theorem IsTour.nodup_tallies {references : List PhotoReference} {fault? : Option RoomFault}
    {visits : List Visit} (h : IsTour references [] fault? visits) :
    ((visits.filterMap Visit.tally?).map Tally.name).Nodup := by
  apply (sublist_names visits).nodup
  apply List.pairwise_map.2
  apply h.nodup_names.1.imp
  intro p q hne heq
  exact hne (Path.ext heq)

theorem footprint_append (session : SessionId) (visits visits' : List Visit) :
    footprint session (visits ++ visits')
      = footprint session visits ++ footprint session visits' := by
  induction visits with
  | nil => rfl
  | cons v rest ih =>
    rw [List.cons_append, footprint, footprint, ih]
    simp [Footprint.append_eq]

/-- When an assembly that stores data has ended with a result, each photo that is counted is in the
archive as a whole, under the name that it was given and no other entry has, whatever the file has
refused; and no write behind the closing of its entry began before the end of its data, so all up to
there is as it was then. -/
theorem counted_survives {σ : Type} {source : BlobSource σ} {references : List PhotoReference}
    {w w' : Workshop σ Writer} {result : ExportResult} (hlimit : limit < Zip.fullField)
    (hopen : file.isClosed = false) (hempty : file.content = [])
    (h : (assemble source (Zip.gateway file .stored limit) references).run w = (.ok result, w')) :
    ∃ (w'' : Workshop (Recorded σ StorageCall) (Recorded Writer WriterCall)) (s : Session)
      (bytes : Bytes) (records : List Zip.CentralFields),
      (assemble source.recorded (Zip.gateway file .stored limit).recorded references).run w.recording
        = (.ok result, w'') ∧ w''.forget = w' ∧ s.IsKept w'' ∧
      s.visits.map Visit.reference = references ∧
      IsTour references [] w.pool.roomFault? s.visits ∧
      result.written = s.visits.countP (fun v => v.length?.isSome) ∧
      (File.readAll.run result.archive.file).1 = .ok bytes ∧ Zip.directory? bytes = some records ∧
      ∀ earlier v later, s.visits = earlier ++ v :: later → v.length?.isSome →
        ∃ (photo : Photo) (record : Zip.CentralFields) (e : Zip.StoredEntry) (writer : Writer),
          v.photo? = some photo ∧ photo.isComplete = true ∧
          record ∈ records ∧ record.name = photo.name.value ∧
          (records.map fun r => r.name).count photo.name.value = 1 ∧
          record.size = photo.data.length ∧ record.crc = photo.data.crc32.toNat ∧
          Zip.entryOf? bytes record = some e ∧ e.raw = photo.data ∧ e.data = photo.data ∧
          Leads (Zip.gateway file .stored limit).Answers
            (footprint s.id (earlier ++ [v])).writerCalls (.new file .stored limit) writer ∧
          WrittenBehind (e.dataStart + e.raw.length) writer.file result.archive.file ∧
          bytes.take (e.dataStart + e.raw.length)
            = writer.file.content.take (e.dataStart + e.raw.length) := by
  obtain ⟨w'', s, plots, front, directory, pieces, stale, hrun, hforget, hkept, htour, hvisits,
    hwritten, hcompleted⟩ := exists_session_of_result hopen hempty h
  obtain ⟨-, hdirectory, hfound⟩ := hcompleted.finished.read hlimit hcompleted.sown
  have hbytes := File.run_readAll hcompleted.finished.isOpen
  obtain rfl : stale = [] := by
    apply hcompleted.clean
    intro v hv
    exact Visit.isTidy_of_outcome (outcome_of_mem hvisits hv) (.inl rfl)
  have hcontent := hcompleted.finished.content
  rw [List.append_nil] at hcontent
  rw [hcontent] at hbytes
  refine ⟨w'', s, _, _, hrun, hforget, hkept, htour.complete hvisits, htour,
    hwritten.trans (written_eq_countP s.id s.visits), hbytes, hdirectory, ?_⟩
  intro earlier v later hsplit hlength
  obtain ⟨photo, hphoto, hcomplete, hcounted⟩ := Visit.tally?_of_length? hlength
  obtain ⟨p, hp, hpt, w₂, hleads, hunchanged⟩ :=
    hcompleted.keeps earlier v later hsplit _ hcounted
  have hname : p.entry.name = photo.name.value := congrArg Tally.name hpt
  have hdata : p.data = photo.data := congrArg Tally.data hpt
  have hwhole : p.isWhole = true := congrArg Tally.isWhole hpt
  -- Stored data are in the file as they are.
  have hraw : p.raw = photo.data := by
    have hunpacked := (p.whole hwhole).2
    rw [hcompleted.methods p hp] at hunpacked
    exact (Option.some.inj hunpacked).trans hdata
  refine ⟨photo, p.entry.centralFields limit, p.storedEntry, w₂, hphoto, hcomplete,
    List.mem_map_of_mem hp, hname, ?_, ?_, ?_, hfound p hp hwhole, hraw, hdata, hleads, ?_, ?_⟩
  · have hnodup := htour.nodup_tallies
    rw [← hcompleted.tallies, List.map_map] at hnodup
    have hmem : p.entry.name ∈ plots.map (Tally.name ∘ Plot.tally) := List.mem_map_of_mem hp
    rw [List.map_map, ← hname]
    exact (List.Nodup.count hnodup).trans (if_pos hmem)
  · rw [← hdata]
    exact p.size_eq
  · rw [← hdata]
    exact congrArg UInt32.toNat p.crc_eq
  · rw [p.end_storedEntry]
    exact hunchanged
  · rw [p.end_storedEntry, ← hcontent]
    exact hunchanged.take_content

theorem counted_survives_sample :
    ∃ (result : ExportResult) (w' : Workshop Scripted.Storage Writer) (s : Session)
      (bytes : Bytes) (records : List Zip.CentralFields),
      (assemble Scripted.source (Zip.gateway (refusingOnce 5) .stored Zip.standardLimit)
        sampleReferences).run sampleWorkshop = (.ok result, w') ∧
      s.visits.countP (fun v => v.length?.isSome) = 1 ∧
      (File.readAll.run result.archive.file).1 = .ok bytes ∧ Zip.directory? bytes = some records := by
  obtain ⟨result, w', hrun, hwritten, -⟩ := sample_interrupted
  obtain ⟨_, s, bytes, records, -, -, -, -, -, hcount, hread, hdirectory, -⟩ :=
    counted_survives (by decide) rfl rfl hrun
  exact ⟨result, w', s, bytes, records, hrun, hcount.symm.trans hwritten, hread, hdirectory⟩

end PhotoArchive.Assembly
