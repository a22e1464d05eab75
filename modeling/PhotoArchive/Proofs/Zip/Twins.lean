import PhotoArchive.Proofs.Assembly.Correspondence
import PhotoArchive.Proofs.Endings
import PhotoArchive.Proofs.Zip.Writing

/-!
# Writers that differ in the course of the writing

On a file that takes all writes it does not matter in how many pieces stored data are written. A
writer counts the pieces, and so does its file; two writers that differ in nothing else complete the
same archive.

## Main definitions

- `File.Twins` — files that are the same but for the number of writes
- `Writer.Twins` — writers that are the same but for the pieces of the data
- `Writer.Receives` — an entry is open under a handle
- `Writer.put`, `Writer.pour` — the writer when data were written to its entry

## Main statements

- `File.twins_written_append` — writing in two pieces
- `Writer.openEntry_twins`, `Writer.closeEntry_twins` and others — twins stay twins
- `Writer.Receives.pour_append` — data may be written piece by piece
- `Zip.twins` — twins complete the same archives
-/

namespace PhotoArchive

open PhotoArchive.Action

variable {α : Type}

namespace Cursor

/-- Writing two pieces one after the other is writing them at once. -/
theorem overwrite_append (c : Cursor) (a b : Bytes) :
    c.overwrite (a ++ b) = (c.overwrite a).overwrite b := by
  simp [overwrite, Nat.add_comm, Nat.add_assoc]

end Cursor

namespace File

/-- The file refuses no write while it is open. -/
def AcceptsAll (f : File) : Prop := ∀ writes position length, f.accepts writes position length = true

/-- Two files that refuse no write, and are the same but for the number of writes. -/
inductive Twins (f : File) : File → Prop
  | intro (writes : Nat) (haccepts : f.AcceptsAll) : Twins f { f with writes }

variable {f g k : File}

theorem Twins.refl (h : f.AcceptsAll) : f.Twins f := .intro f.writes h

theorem Twins.symm (h : f.Twins g) : g.Twins f := by
  obtain ⟨_, haccepts⟩ := h
  exact .intro f.writes haccepts

theorem Twins.trans (h : f.Twins g) (h' : g.Twins k) : f.Twins k := by
  obtain ⟨_, haccepts⟩ := h
  obtain ⟨writes, -⟩ := h'
  exact .intro writes haccepts

theorem Twins.accepts (h : f.Twins g) : f.AcceptsAll := by
  obtain ⟨_, haccepts⟩ := h
  exact haccepts

/-- Writing two pieces moves the file to the disk if writing them at once does. -/
theorem written_append (f : File) (a b : Bytes) :
    (f.written a).written b = { f.written (a ++ b) with writes := f.writes + 1 + 1 } := by
  have hdisk (limit x y z : Nat) :
      ((f.onDisk || decide (limit ≠ 0 ∧ limit < x + y)) || decide (limit ≠ 0 ∧ limit < x + (y + z)))
        = (f.onDisk || decide (limit ≠ 0 ∧ limit < x + (y + z))) := by
    cases f.onDisk with
    | true => simp
    | false =>
      simp only [Bool.false_or, ← Bool.decide_or]
      exact decide_eq_decide.2 (by omega)
  simp only [written, Cursor.overwrite_append, Cursor.position_overwrite, Nat.add_assoc, hdisk]

theorem twins_written_append (h : f.AcceptsAll) (a b : Bytes) :
    (f.written (a ++ b)).Twins ((f.written a).written b) := by
  rw [written_append]
  exact .intro _ h

theorem Twins.content_eq (h : f.Twins g) : f.content = g.content := by
  obtain ⟨_, -⟩ := h
  rfl

theorem Twins.written (h : f.Twins g) (data : Bytes) : (f.written data).Twins (g.written data) := by
  obtain ⟨writes, haccepts⟩ := h
  exact .intro (writes + 1) haccepts

theorem Twins.close (h : f.Twins g) : f.close.Twins g.close := by
  obtain ⟨writes, haccepts⟩ := h
  exact .intro writes haccepts

theorem unlessClosed_twins (access : FileAccess) {a : Action File α} (h : Keep Twins a a) :
    Keep Twins (unlessClosed access a) (unlessClosed access a) := by
  intro f g hfg
  have hsame : f.isClosed = g.isClosed ∧ f.onDisk = g.onDisk := by
    obtain ⟨_, -⟩ := hfg
    exact ⟨rfl, rfl⟩
  simp only [run, unlessClosed, hsame.1, hsame.2]
  split
  · exact .failure hfg
  · exact h _ _ hfg

theorem seek_twins (position : Nat) : Keep Twins (seek position) (seek position) := by
  refine unlessClosed_twins _ (keep_modify ?_)
  rintro f _ ⟨writes, haccepts⟩
  exact .intro writes haccepts

theorem tell_twins : Keep Twins tell tell := by
  refine unlessClosed_twins _ (keep_ask ?_)
  rintro f _ ⟨writes, haccepts⟩
  rfl

theorem write_twins (data : Bytes) : Keep Twins (write data) (write data) := by
  refine unlessClosed_twins _ ?_
  rintro f _ ⟨writes, haccepts⟩
  have h₁ : f.accepts f.writes f.cursor.position data.length = true := haccepts _ _ _
  have h₂ : f.accepts writes f.cursor.position data.length = true := haccepts _ _ _
  simp only [run, h₁, h₂, if_true]
  exact .value ⟨rfl, .intro _ haccepts⟩

theorem read_twins (n : Int) : Keep Twins (read n) (read n) := by
  refine unlessClosed_twins _ ?_
  rintro f _ ⟨writes, haccepts⟩
  have hsame : lengthFault? { f with writes } n = f.lengthFault? n := rfl
  simp only [run, hsame]
  cases f.lengthFault? n with
  | some fault => exact .failure (.intro writes haccepts)
  | none => exact .value ⟨rfl, .intro writes haccepts⟩

theorem readAll_twins : Keep Twins readAll readAll :=
  (seek_twins 0).bind_same fun _ => read_twins (-1)

end File

namespace Zip

/-- Two entries that are the same but for the pieces of their data. -/
inductive OpenEntry.Twins (e : OpenEntry) : OpenEntry → Prop
  | intro (pieces : List Bytes) : Twins e { e with pieces }

namespace OpenEntry

variable {e₁ e₂ e₃ : OpenEntry} {c₁ c₂ c₃ : Option OpenEntry}

theorem Twins.symm (h : e₁.Twins e₂) : e₂.Twins e₁ := by
  obtain ⟨_⟩ := h
  exact .intro e₁.pieces

theorem Twins.trans (h : e₁.Twins e₂) (h' : e₂.Twins e₃) : e₁.Twins e₃ := by
  obtain ⟨_⟩ := h
  obtain ⟨pieces⟩ := h'
  exact .intro pieces

theorem twins?_refl (c : Option OpenEntry) : Option.Rel Twins c c := by
  cases c with
  | none => exact .none
  | some e => exact .some (.intro e.pieces)

theorem twins?_symm (h : Option.Rel Twins c₁ c₂) : Option.Rel Twins c₂ c₁ := by
  cases h with
  | none => exact .none
  | some he => exact .some he.symm

theorem twins?_trans (h : Option.Rel Twins c₁ c₂) (h' : Option.Rel Twins c₂ c₃) :
    Option.Rel Twins c₁ c₃ := by
  cases h with
  | none => exact h'
  | some he =>
    cases h' with
    | some he' => exact .some (he.trans he')

theorem isSome_eq (h : Option.Rel Twins c₁ c₂) : c₁.isSome = c₂.isSome := by
  cases h with
  | none => rfl
  | some he => rfl

end OpenEntry

namespace Writer

/-- Two writers of stored data on files that refuse no write, and that are the same but for the number
of writes and the pieces of the data. -/
structure Twins (w₁ w₂ : Writer) : Prop where
  file : w₁.file.Twins w₂.file
  current : Option.Rel OpenEntry.Twins w₁.current w₂.current
  stored : w₁.method = .stored
  method : w₁.method = w₂.method
  limit : w₁.limit = w₂.limit
  entries : w₁.entries = w₂.entries
  directoryStart : w₁.directoryStart = w₂.directoryStart
  opened : w₁.opened = w₂.opened
  isClosed : w₁.isClosed = w₂.isClosed
  isFinalized : w₁.isFinalized = w₂.isFinalized

variable {w w₁ w₂ w₃ : Writer}

theorem Twins.refl (haccepts : w.file.AcceptsAll) (hstored : w.method = .stored) : w.Twins w where
  file := .refl haccepts
  current := OpenEntry.twins?_refl w.current
  stored := hstored
  method := rfl
  limit := rfl
  entries := rfl
  directoryStart := rfl
  opened := rfl
  isClosed := rfl
  isFinalized := rfl

theorem Twins.symm (h : w₁.Twins w₂) : w₂.Twins w₁ where
  file := h.file.symm
  current := OpenEntry.twins?_symm h.current
  stored := h.method ▸ h.stored
  method := h.method.symm
  limit := h.limit.symm
  entries := h.entries.symm
  directoryStart := h.directoryStart.symm
  opened := h.opened.symm
  isClosed := h.isClosed.symm
  isFinalized := h.isFinalized.symm

theorem Twins.trans (h : w₁.Twins w₂) (h' : w₂.Twins w₃) : w₁.Twins w₃ where
  file := h.file.trans h'.file
  current := OpenEntry.twins?_trans h.current h'.current
  stored := h.stored
  method := h.method.trans h'.method
  limit := h.limit.trans h'.limit
  entries := h.entries.trans h'.entries
  directoryStart := h.directoryStart.trans h'.directoryStart
  opened := h.opened.trans h'.opened
  isClosed := h.isClosed.trans h'.isClosed
  isFinalized := h.isFinalized.trans h'.isFinalized

/-! ## Entries -/

theorem onFile_twins {a : Action File α} (h : Keep File.Twins a a) :
    Keep Twins (onFile a) (onFile a) :=
  h.within (fun _ _ hw => hw.file) (fun _ _ _ _ _ _ hw hsame => ⟨hsame.1, { hw with file := hsame.2 }⟩)
    fun _ _ _ _ hw hfile => { hw with file := hfile }

theorem fitting_twins (x : Option α) : Keep Twins (fitting x) (fitting x) := by
  cases x with
  | none => exact agree_fail _
  | some x => exact keep_pure x

theorem beginEntry_twins (name : String) (size : Int) (room : Bool) :
    Keep Twins (beginEntry name size room) (beginEntry name size room) := by
  refine (keep_ask fun _ _ h => h.directoryStart).bind_same fun start => ?_
  refine (onFile_twins (File.seek_twins start)).bind_same fun _ => ?_
  refine (onFile_twins File.tell_twins).bind_same fun offset => ?_
  refine (keep_ask fun _ _ h => congrArg Method.number h.method).bind_same fun method => ?_
  refine (keep_ask fun _ _ h => h.limit).bind_same fun limit => ?_
  split
  · exact agree_fail _
  refine (fitting_twins _).bind_same fun header => ?_
  refine (onFile_twins (File.write_twins header)).bind_same fun _ => ?_
  refine (keep_ask fun _ _ h => h.opened).bind_same fun handle => ?_
  refine (keep_modify fun w₁ w₂ h => ?_).bind_same fun _ => keep_pure handle
  exact { h with opened := rfl, current := OpenEntry.twins?_refl _ }

theorem openEntry_twins (name : String) (declared : Option Int) :
    Keep Twins (openEntry name declared) (openEntry name declared) := by
  refine (keep_ask fun _ _ h => h.isClosed).bind_same fun closed => ?_
  split
  · exact agree_fail _
  refine (keep_ask fun _ _ h => OpenEntry.isSome_eq h.current).bind_same fun occupied => ?_
  split
  · exact agree_fail _
  cases declared with
  | none => exact beginEntry_twins name 0 true
  | some size =>
    refine (keep_ask fun _ _ h => h.limit).bind_same fun limit => ?_
    cases needsRoom? limit size with
    | none => exact agree_fail _
    | some room => exact beginEntry_twins name size room

/-- Under a handle twins have twins, or both have none. -/
theorem Twins.entryAt? (h : w₁.Twins w₂) (handle : Nat) :
    Option.Rel OpenEntry.Twins (w₁.entryAt? handle) (w₂.entryAt? handle) := by
  unfold Writer.entryAt?
  have hcurrent := h.current
  generalize w₁.current = c₁ at hcurrent ⊢
  generalize w₂.current = c₂ at hcurrent ⊢
  cases hcurrent with
  | none => exact .none
  | @some e₁ e₂ he =>
    obtain ⟨pieces⟩ := he
    by_cases hhandle : e₁.handle = handle
    · subst hhandle
      simpa [Option.filter] using OpenEntry.Twins.intro pieces
    · simp [Option.filter, hhandle]

/-- Nothing is left of stored data. -/
theorem Twins.remainder_eq (h : w₁.Twins w₂) (e₁ e₂ : OpenEntry) :
    w₁.remainder e₁ = w₂.remainder e₂ := by
  have hstored := h.method ▸ h.stored
  simp [remainder, h.stored, hstored]

theorem completeData_twins {e₁ e₂ : OpenEntry} (he : e₁.Twins e₂) :
    Keep Twins (completeData e₁) (completeData e₂) := by
  obtain ⟨pieces⟩ := he
  refine (keep_ask fun _ _ h => h.remainder_eq e₁ _).bind_same fun rest => ?_
  refine (keep_ask fun _ _ h => h.limit).bind_same fun limit => ?_
  let check (length : Nat) : Action Writer Nat :=
    if !e₁.room && decide (limit < e₁.size) then fail (.archive .sizeLimit)
    else if !e₁.room && decide (limit < length) then fail (.archive .compressedSizeLimit)
    else pure length
  have hcheck (length : Nat) : Keep Twins (check length) (check length) := by
    unfold check
    split
    · exact agree_fail _
    · split
      · exact agree_fail _
      · exact keep_pure length
  cases rest with
  | none => exact hcheck _
  | some output => exact (onFile_twins (File.write_twins output)).bind_same fun _ => hcheck _

theorem completeEntry_twins {e₁ e₂ : OpenEntry} (he : e₁.Twins e₂) :
    Keep Twins (completeEntry e₁) (completeEntry e₂) := by
  refine (completeData_twins he).bind_same fun length => ?_
  obtain ⟨pieces⟩ := he
  refine (keep_ask fun _ _ h => congrArg Method.number h.method).bind_same fun method => ?_
  refine (keep_ask fun _ _ h => h.limit).bind_same fun limit => ?_
  refine (onFile_twins File.tell_twins).bind_same fun finish => ?_
  refine (keep_modify fun _ _ h => { h with directoryStart := rfl }).bind_same fun _ => ?_
  refine (onFile_twins (File.seek_twins _)).bind_same fun _ => ?_
  refine (fitting_twins _).bind_same fun header => ?_
  refine (onFile_twins (File.write_twins header)).bind_same fun _ => ?_
  refine (onFile_twins (File.seek_twins finish)).bind_same fun _ => ?_
  exact keep_modify fun _ _ h => { h with entries := congrArg (· ++ [_]) h.entries }

theorem closeEntry_twins (handle : Nat) : Keep Twins (closeEntry handle) (closeEntry handle) := by
  intro w₁ w₂ h
  have hentry := h.entryAt? handle
  simp only [run, closeEntry]
  generalize w₁.entryAt? handle = c₁ at hentry ⊢
  generalize w₂.entryAt? handle = c₂ at hentry ⊢
  cases hentry with
  | none => exact .value ⟨rfl, h⟩
  | some he =>
    refine (completeEntry_twins he).ensuring_same (Keep.forget (keep_modify ?_)) _ _ h
    exact fun _ _ h => { h with current := .none }

/-! ## The directory -/

theorem writePieces_twins (pieces : List Bytes) :
    Keep Twins (writePieces pieces) (writePieces pieces) := by
  induction pieces with
  | nil => exact keep_pure ()
  | cons piece rest ih => exact (onFile_twins (File.write_twins piece)).bind_same fun _ => ih

theorem writeRecords_twins (limit : Int) (entries : List Entry) :
    Keep Twins (writeRecords limit entries) (writeRecords limit entries) := by
  induction entries with
  | nil => exact keep_pure ()
  | cons entry rest ih =>
    refine (fitting_twins _).bind_same fun pieces => ?_
    exact (writePieces_twins pieces).bind_same fun _ => ih

theorem writeDirectory_twins : Keep Twins writeDirectory writeDirectory := by
  refine (keep_ask fun _ _ h => h.directoryStart).bind_same fun start => ?_
  refine (keep_ask fun _ _ h => h.limit).bind_same fun limit => ?_
  refine (keep_ask fun _ _ h => h.entries).bind_same fun entries => ?_
  refine (onFile_twins (File.seek_twins start)).bind_same fun _ => ?_
  refine (writeRecords_twins limit entries).bind_same fun _ => ?_
  refine (onFile_twins File.tell_twins).bind_same fun finish => ?_
  exact (fitting_twins _).bind_same fun pieces => writePieces_twins pieces

theorem closeArchive_twins : Keep Twins closeArchive closeArchive := by
  refine (keep_ask fun _ _ h => h.isClosed).bind_same fun closed => ?_
  split
  · exact keep_pure ()
  refine (keep_ask fun _ _ h => OpenEntry.isSome_eq h.current).bind_same fun occupied => ?_
  split
  · exact agree_fail _
  · refine writeDirectory_twins.ensuring_same (Keep.forget (keep_modify ?_))
    exact fun _ _ h => { h with isClosed := rfl }

theorem completeArchive_twins : Keep Twins completeArchive completeArchive := by
  refine closeArchive_twins.bind_same fun _ => ?_
  refine (onFile_twins File.tell_twins).bind_same fun size => ?_
  exact (onFile_twins (File.seek_twins 0)).bind_same fun _ => keep_pure size

theorem Twins.closeFile (h : w₁.Twins w₂) : w₁.closeFile.Twins w₂.closeFile :=
  { h with file := h.file.close }

theorem finalize_twins (h : w₁.Twins w₂) :
    Alike (Same Twins) Twins w₁.finalize w₂.finalize := by
  unfold finalize
  rw [h.isFinalized]
  split
  · exact .failure h
  · obtain ⟨size, _, w₁', w₂', hrun₁, hrun₂, rfl, hend⟩ | ⟨e, w₁', w₂', hrun₁, hrun₂, hend⟩ :=
      (completeArchive_twins { w₁ with isFinalized := true } { w₂ with isFinalized := true }
        { h with isFinalized := rfl }).cases
    · rw [hrun₁, hrun₂]
      exact .value ⟨rfl, hend⟩
    · rw [hrun₁, hrun₂]
      by_cases hwrite : IsWriteFailure e
      · simp only [if_pos hwrite]
        exact .failure hend.closeFile
      · simp only [if_neg hwrite]
        exact .failure hend

theorem discard_twins : Keep Twins discard discard := by
  intro w₁ w₂ h
  rw [run_discard, run_discard]
  obtain ⟨_, _, w₁', w₂', hrun₁, hrun₂, -, hend⟩ | ⟨e, w₁', w₂', hrun₁, hrun₂, hend⟩ :=
    (closeArchive_twins { w₁ with isFinalized := true } { w₂ with isFinalized := true }
      { h with isFinalized := rfl }).cases
  · rw [hrun₁, hrun₂]
    exact .value ⟨rfl, hend.closeFile⟩
  · rw [hrun₁, hrun₂]
    by_cases hwrite : IsWriteFailure e
    · simp only [if_pos hwrite]
      exact .value ⟨rfl, hend.closeFile⟩
    · simp only [if_neg hwrite]
      exact .failure hend.closeFile

/-! ## Writing piece by piece -/

/-- The data are stored, in an open file that refuses no write. -/
structure IsWritable (w : Writer) : Prop where
  takesAll : w.file.TakesAll
  stored : w.method = .stored

/-- An entry is open under a handle, and its data are stored. -/
structure Receives (w : Writer) (handle : Nat) : Prop extends IsWritable w where
  current : ∃ e, w.current = some e ∧ e.handle = handle

/-- The writer when stored data were written to its entry. -/
def put (w : Writer) (data : Bytes) : Writer :=
  { w with
    file := w.file.written data
    current := w.current.map fun e => e.count data data }

/-- The writer when stored data were written that may be empty. -/
def pour (w : Writer) (data : Bytes) : Writer := if data = [] then w else w.put data

variable {handle : Nat}

theorem Receives.put (h : w.Receives handle) (data : Bytes) : (w.put data).Receives handle where
  takesAll := h.takesAll.written data
  stored := h.stored
  current := by
    obtain ⟨e, hcurrent, hhandle⟩ := h.current
    exact ⟨e.count data data, by simp [Writer.put, hcurrent], hhandle⟩

theorem Receives.run_write (h : w.Receives handle) (data : Bytes) :
    (write handle data).run w = (.ok (), w.put data) := by
  obtain ⟨e, hcurrent, hhandle⟩ := h.current
  have hentry : w.entryAt? handle = some e := by simp [entryAt?, hcurrent, Option.filter, hhandle]
  have hstored : w.compressed e data = data := by simp [compressed, h.stored]
  have hwrite := run_onFile (w := { w with current := some (e.count data data) })
    (h.takesAll.run_write data)
  simp only [run] at hwrite
  simp only [run, write, hentry, hstored, hwrite, Writer.put, hcurrent, Option.map_some]

/-- The size and the checksum of data are those of its pieces. -/
theorem count_append (e : OpenEntry) (a b : Bytes) :
    (e.count (a ++ b) (a ++ b)).Twins ((e.count a a).count b b) := by
  have hcount : (e.count a a).count b b
      = { e.count (a ++ b) (a ++ b) with pieces := b :: a :: e.pieces } := by
    simp [OpenEntry.count, Crc32.continueFrom_append, Nat.add_assoc]
  rw [hcount]
  exact .intro _

theorem Receives.put_append (h : w.Receives handle) (a b : Bytes) :
    (w.put (a ++ b)).Twins ((w.put a).put b) := by
  obtain ⟨e, hcurrent, -⟩ := h.current
  have hsame : (w.put (a ++ b)).Twins (w.put (a ++ b)) := .refl h.takesAll.accepts h.stored
  refine { hsame with file := ?_, current := ?_ }
  · exact File.twins_written_append h.takesAll.accepts a b
  · simpa [Writer.put, hcurrent] using count_append e a b

/-- Data may be written piece by piece. -/
theorem Receives.pour_append (h : w.Receives handle) {a : Bytes} (ha : a ≠ []) (b : Bytes) :
    (w.pour (a ++ b)).Twins ((w.put a).pour b) := by
  by_cases hb : b = []
  · subst hb
    simpa [pour, ha] using Twins.refl (h.put a).takesAll.accepts h.stored
  · simpa [pour, ha, hb] using h.put_append a b

theorem Twins.put (h : w₁.Twins w₂) (data : Bytes) : (w₁.put data).Twins (w₂.put data) := by
  refine { h with file := h.file.written data, current := ?_ }
  have hcurrent := h.current
  simp only [Writer.put]
  generalize w₁.current = c₁ at hcurrent ⊢
  generalize w₂.current = c₂ at hcurrent ⊢
  cases hcurrent with
  | none => exact .none
  | some he =>
    obtain ⟨pieces⟩ := he
    exact .some (.intro (data :: pieces))

theorem Twins.pour (h : w₁.Twins w₂) (data : Bytes) : (w₁.pour data).Twins (w₂.pour data) := by
  unfold Writer.pour
  split
  · exact h
  · exact h.put data

/-- Seeking shows that a file is open. -/
theorem seek_writable (haccepts : w.file.AcceptsAll) (hstored : w.method = .stored) (position : Nat) :
    (onFile (File.seek position)).Ends w (fun _ w' => w'.IsWritable) fun _ _ => True := by
  by_cases hclosed : w.file.isClosed = true
  · have hseek : (File.seek position).run w.file
        = (.error (.closedFile (!w.file.onDisk) .seek), w.file) := by
      simp [run, File.seek, File.unlessClosed, hclosed]
    exact ends_of_run_error (run_onFile hseek) trivial
  · have htakes : w.file.TakesAll := ⟨by simpa using hclosed, haccepts⟩
    exact ends_of_run_ok (run_onFile (htakes.run_seek position)) ⟨htakes.moveTo position, hstored⟩

theorem fitting_writable (x : Option α) (h : w.IsWritable) :
    (fitting x).Ends w (fun _ w' => w'.IsWritable) fun _ _ => True := by
  cases x with
  | none => exact trivial
  | some x => exact h

/-- An entry that has been begun receives data. -/
theorem beginEntry_receives (haccepts : w.file.AcceptsAll) (hstored : w.method = .stored)
    (name : String) (size : Int) (room : Bool) :
    (beginEntry name size room).Ends w (fun handle w' => w'.Receives handle) fun _ _ => True := by
  unfold beginEntry
  rw [ends_ask_bind]
  refine (seek_writable haccepts hstored w.directoryStart).bind (fun _ w₁ h₁ => ?_)
    fun _ _ _ => trivial
  rw [ends_bind_of_run (run_onFile h₁.takesAll.run_tell), ends_ask_bind, ends_ask_bind]
  split
  · exact trivial
  refine (fitting_writable _ h₁).bind (fun header w₂ h₂ => ?_) fun _ _ _ => trivial
  rw [ends_bind_of_run (run_onFile (h₂.takesAll.run_write header)), ends_ask_bind, ends_modify_bind,
    ends_pure]
  exact ⟨⟨h₂.takesAll.written header, h₂.stored⟩, _, rfl, rfl⟩

/-- An entry that has been opened receives data. -/
theorem openEntry_receives (haccepts : w.file.AcceptsAll) (hstored : w.method = .stored)
    (name : String) (declared : Option Int) :
    (openEntry name declared).Ends w (fun handle w' => w'.Receives handle) fun _ _ => True := by
  unfold openEntry
  rw [ends_ask_bind]
  split
  · exact trivial
  rw [ends_ask_bind]
  split
  · exact trivial
  cases declared with
  | none => exact beginEntry_receives haccepts hstored name 0 true
  | some size =>
    rw [ends_ask_bind]
    cases needsRoom? w.limit size with
    | none => exact trivial
    | some room => exact beginEntry_receives haccepts hstored name size room

end Writer

/-- The gateway for stored data on files that refuse no write: twins complete the same archives. -/
def twins (file : File) (haccepts : file.AcceptsAll) (limit : Int) :
    (gateway file .stored limit).Correspondence (gateway file .stored limit) where
  Fits := Writer.Twins
  Similar archive₁ archive₂ := archive₁.file.Twins archive₂.file ∧ archive₁.size = archive₂.size
  create := .writers (Writer.Twins.refl haccepts rfl)
  finalize w₁ w₂ h := by
    simp only [gateway, Writer.complete]
    obtain ⟨size, _, w₁', w₂', hrun₁, hrun₂, rfl, hend⟩ | ⟨e, w₁', w₂', hrun₁, hrun₂, hend⟩ :=
      (Writer.finalize_twins h).cases
    · rw [hrun₁, hrun₂]
      exact .value ⟨⟨hend.file, rfl⟩, hend⟩
    · rw [hrun₁, hrun₂]
      exact .failure hend
  discard := Writer.discard_twins

end Zip

end PhotoArchive
