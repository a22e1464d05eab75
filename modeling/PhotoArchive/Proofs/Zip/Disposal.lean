import PhotoArchive.Proofs.Zip.Interrupted

/-!
# What becomes of the file of an archive

The file of an archive that is given up is closed, whatever goes wrong on the way. The file of an
archive that is completed stays open, to be read. In between there are the archives that cannot be
completed: their files are closed for failures of the system and refused values, and stay open when a
number does not fit the format.

## Main definitions

- `Writer.IsStuck` — why an archive cannot be completed
- `Writer.IsSteady`, `Writer.IsKept` — conditions that no step on the file breaks
- `Writer.IsFresh` — the writer is not used up

## Main statements

- `Writer.complete_of_ok`, `Writer.isClosed_complete_of_error` — the file behind a completed archive
- `Writer.isClosed_discard` — the file behind an archive that is given up
- `Writer.IsKept.openEntry`, `Writer.IsSteady.finalize` and others — what the steps on the file keep,
  the operations keep

## Design notes

Nothing is asked of the file: it may refuse any write, and it may have been closed from the beginning.
-/

namespace PhotoArchive.Zip

open PhotoArchive.Action (Ends Preserves)

namespace Writer

variable {α : Type} {w w' : Writer}

/-! ## Steps on the file -/

/-- The file of a writer is open. -/
def HasOpenFile (w : Writer) : Prop := w.file.isClosed = false

/-- Why an archive cannot be completed: the file is at fault, or a number does not fit, and then the
file is still open. -/
def IsStuck (e : Failure) (w : Writer) : Prop :=
  IsWriteFailure e ∨ e = .archive .fieldOverflow ∧ w.HasOpenFile

/-- A step that needs an open file and leaves it open. -/
def IsFileStep (a : Action Writer α) : Prop :=
  ∀ w, a.Ends w (fun _ w' => w'.HasOpenFile) fun e _ => IsWriteFailure e

theorem isFileStep_unlessClosed {access : FileAccess} {a : Action File α}
    (h : ∀ file, file.isClosed = false →
      a.Ends file (fun _ file' => file'.isClosed = false) fun e _ => IsWriteFailure e) :
    IsFileStep (onFile (File.unlessClosed access a)) := by
  intro w
  cases hclosed : w.file.isClosed with
  | true =>
    have hrefused : (File.unlessClosed access a).run w.file
        = (.error (.closedFile (!w.file.onDisk) access), w.file) := by
      simp [Action.run, File.unlessClosed, hclosed]
    exact Action.ends_of_run_error (run_onFile hrefused) (.inr trivial)
  | false =>
    have hrun : (File.unlessClosed access a).run w.file = a.run w.file := by
      simp [Action.run, File.unlessClosed, hclosed]
    rcases ha : a.run w.file with ⟨e | x, file⟩
    · exact Action.ends_of_run_error (run_onFile (hrun.trans ha))
        ((h w.file hclosed).of_error ha)
    · exact Action.ends_of_run_ok (run_onFile (hrun.trans ha))
        ((h w.file hclosed).of_ok ha)

theorem isFileStep_seek (position : Nat) : IsFileStep (onFile (File.seek position)) :=
  isFileStep_unlessClosed fun _ hopen => hopen

theorem isFileStep_tell : IsFileStep (onFile File.tell) :=
  isFileStep_unlessClosed fun _ hopen => hopen

theorem isFileStep_write (data : Bytes) : IsFileStep (onFile (File.write data)) := by
  apply isFileStep_unlessClosed
  intro file hopen
  unfold Ends
  simp only [Action.run]
  by_cases ha : file.accepts file.writes file.cursor.position data.length = true
  · rw [if_pos ha]
    exact hopen
  · rw [if_neg ha]
    exact .inl trivial

/-! ## Completing an archive -/

section Completing

variable {β : Type} {f : α → Action Writer β} {ok : β → Writer → Prop}

/-- A step on the file in front of steps that get stuck at most. -/
theorem IsFileStep.bind {a : Action Writer α} (h : IsFileStep a)
    (hf : ∀ x w', w'.HasOpenFile → (f x).Ends w' ok IsStuck) : (a >>= f).Ends w ok IsStuck :=
  (h w).bind hf fun _ _ => .inl

/-- A number that does not fit comes up while the file is open. -/
theorem HasOpenFile.fitting_bind {o : Option α} (hopen : w.HasOpenFile)
    (hf : ∀ x, (f x).Ends w ok IsStuck) : (fitting o >>= f).Ends w ok IsStuck :=
  ends_fitting_bind (fun x _ => hf x) fun _ => .inr ⟨rfl, hopen⟩

end Completing

theorem writePieces_ends (pieces : List Bytes) (hopen : w.HasOpenFile) :
    (writePieces pieces).Ends w (fun _ w' => w'.HasOpenFile) IsStuck := by
  induction pieces generalizing w with
  | nil => exact hopen
  | cons piece rest ih => exact (isFileStep_write piece).bind fun _ _ hopen' => ih hopen'

theorem writeRecords_ends (limit : Int) (entries : List Entry) (hopen : w.HasOpenFile) :
    (writeRecords limit entries).Ends w (fun _ w' => w'.HasOpenFile) IsStuck := by
  induction entries generalizing w with
  | nil => exact hopen
  | cons entry rest ih =>
    apply hopen.fitting_bind
    intro record
    exact (writePieces_ends record hopen).bind (fun _ _ hopen' => ih hopen') fun _ _ => id

theorem writeDirectory_ends (w : Writer) :
    writeDirectory.Ends w (fun _ w' => w'.HasOpenFile) IsStuck := by
  refine (isFileStep_seek w.directoryStart).bind fun _ w₁ hopen => ?_
  refine (writeRecords_ends w.limit w.entries hopen).bind (fun _ w₂ _ => ?_) fun _ _ => id
  refine isFileStep_tell.bind fun finish w₃ hopen => ?_
  exact hopen.fitting_bind fun pieces => writePieces_ends pieces hopen

/-- Closing an archive gets stuck only on its file and on numbers that do not fit. -/
theorem closeArchive_ends (w : Writer) : closeArchive.Ends w (fun _ _ => True) IsStuck := by
  unfold closeArchive
  rw [Action.ends_ask_bind]
  by_cases hclosed : w.isClosed = true
  · rw [if_pos hclosed]
    trivial
  rw [if_neg hclosed, Action.ends_ask_bind]
  by_cases hcurrent : w.current.isSome = true
  · rw [if_pos hcurrent]
    exact .inl (.inr trivial)
  · rw [if_neg hcurrent]
    exact Action.Ends.ensuring_modify ((writeDirectory_ends w).mono (fun _ _ _ => trivial) fun _ _ => id)

theorem completeArchive_ends (w : Writer) :
    completeArchive.Ends w (fun _ w' => w'.HasOpenFile) IsStuck := by
  refine (closeArchive_ends w).bind (fun _ w₁ _ => ?_) fun _ _ => id
  refine isFileStep_tell.bind fun size w₂ _ => ?_
  exact (isFileStep_seek 0).bind fun _ _ hopen => hopen

/-- The file of a completed archive is open. -/
theorem complete_of_ok {archive : ArchiveFile} (h : w.complete = (.ok archive, w')) :
    w'.HasOpenFile := by
  unfold complete finalize at h
  by_cases hfinalized : w.isFinalized = true
  · simp [hfinalized] at h
  simp only [hfinalized, Bool.false_eq_true, if_false] at h
  rcases hrun : completeArchive.run { w with isFinalized := true } with ⟨e | size, w₁⟩
  · rw [hrun] at h
    by_cases he : IsWriteFailure e <;> simp [he] at h
  · rw [hrun] at h
    cases h
    exact (completeArchive_ends _).of_ok hrun

/-- The file of an archive that cannot be completed is closed, unless a number does not fit. -/
theorem isClosed_complete_of_error {refusal : Refusal} (hfresh : w.isFinalized = false)
    (h : w.complete = (.error refusal, w')) :
    w'.HasOpenFile ↔ refusal.failure = .archive .fieldOverflow := by
  unfold complete finalize at h
  simp only [hfresh, Bool.false_eq_true, if_false] at h
  rcases hrun : completeArchive.run { w with isFinalized := true } with ⟨e | size, w₁⟩
  · rw [hrun] at h
    have hstuck := (completeArchive_ends _).of_error hrun
    by_cases he : IsWriteFailure e
    · simp only [he, if_true] at h
      cases h
      simp [HasOpenFile, closeFile, File.close]
    · simp only [he, if_false] at h
      cases h
      obtain ⟨rfl, hopen⟩ := hstuck.resolve_left he
      exact ⟨fun _ => rfl, fun _ => hopen⟩
  · rw [hrun] at h
    cases h

/-- The file of an archive that is given up is closed, whatever fails on the way. -/
theorem isClosed_discard {answer : Except Failure (Option String)}
    (h : discard.run w = (answer, w')) : w'.file.isClosed = true := by
  simp only [Action.run, discard] at h
  split at h
  · cases h
    rfl
  · split at h <;> cases h <;> rfl

/-! ## What the operations keep -/

/-- A condition that no step on the file breaks. -/
structure IsSteady (p : Writer → Prop) : Prop where
  seek : ∀ position, Preserves p (onFile (File.seek position))
  tell : Preserves p (onFile File.tell)
  write : ∀ data, Preserves p (onFile (File.write data))

/-- A condition of this kind on the file of a writer and on whether the writer is used up. -/
structure IsKept (p : Writer → Prop) : Prop extends IsSteady p where
  congr : ∀ {w w' : Writer}, p w → w'.file = w.file → w'.isFinalized = w.isFinalized → p w'

/-- The writer is not used up. -/
def IsFresh (w : Writer) : Prop := w.isFinalized = false

/-- No step on the file changes whether the writer is used up. -/
theorem isKept_isFinalized (isFinalized : Bool) : IsKept fun w => w.isFinalized = isFinalized where
  congr h _ hsame := hsame.trans h
  seek _ := Action.preserves_within _ fun _ _ h => h
  tell := Action.preserves_within _ fun _ _ h => h
  write _ := Action.preserves_within _ fun _ _ h => h

theorem isKept_isFresh : IsKept IsFresh := isKept_isFinalized false

theorem preserves_fitting {p : Writer → Prop} (o : Option α) : Preserves p (fitting o) := by
  cases o with
  | none => exact Action.preserves_fail _
  | some x => exact Action.preserves_pure x

namespace IsKept

variable {p : Writer → Prop}

theorem modify (hp : IsKept p) {f : Writer → Writer}
    (hf : ∀ w, (f w).file = w.file ∧ (f w).isFinalized = w.isFinalized) :
    Preserves p (Action.modify f) :=
  Action.preserves_modify fun w h => hp.congr h (hf w).1 (hf w).2

theorem beginEntry (hp : IsKept p) (name : String) (size : Int) (room : Bool) :
    Preserves p (Writer.beginEntry name size room) := by
  refine (Action.preserves_ask _).bind fun start => (hp.seek _).bind fun _ => ?_
  refine hp.tell.bind fun offset => (Action.preserves_ask _).bind fun method => ?_
  refine (Action.preserves_ask _).bind fun limit => ?_
  cases headerFailure? name size room limit with
  | some failure => exact Action.preserves_fail _
  | none =>
    refine (preserves_fitting _).bind fun header => (hp.write header).bind fun _ => ?_
    refine (Action.preserves_ask _).bind fun handle => ?_
    exact Preserves.bind (hp.modify fun _ => ⟨rfl, rfl⟩) fun _ => Action.preserves_pure handle

theorem openEntry (hp : IsKept p) (name : String) (declared : Option Int) :
    Preserves p (Writer.openEntry name declared) := by
  refine (Action.preserves_ask _).bind fun isClosed => ?_
  split
  · exact Action.preserves_fail _
  refine (Action.preserves_ask _).bind fun isBusy => ?_
  split
  · exact Action.preserves_fail _
  cases declared with
  | none => exact hp.beginEntry name 0 true
  | some size =>
    refine (Action.preserves_ask _).bind fun limit => ?_
    cases needsRoom? limit size with
    | none => exact Action.preserves_fail _
    | some room => exact hp.beginEntry name size room

theorem writeEntry (hp : IsKept p) (handle : Nat) (data : Bytes) :
    Preserves p (Writer.write handle data) := by
  intro w h
  simp only [Action.run, Writer.write]
  split
  · exact h
  · exact hp.write _ _ (hp.congr h rfl rfl)

theorem completeData (hp : IsKept p) (e : OpenEntry) : Preserves p (completeData e) := by
  refine (Action.preserves_ask _).bind fun rest => (Action.preserves_ask _).bind fun limit => ?_
  have hlength (length : Nat) : Preserves p
      (if !e.room && decide (limit < e.size) then Action.fail (.archive .sizeLimit)
        else if !e.room && decide (limit < length) then Action.fail (.archive .compressedSizeLimit)
        else return length : Action Writer Nat) := by
    split
    · exact Action.preserves_fail _
    split
    · exact Action.preserves_fail _
    · exact Action.preserves_pure length
  cases rest with
  | none => exact (Action.preserves_pure ()).bind fun _ => hlength _
  | some output => exact (hp.write output).bind fun _ => hlength _

theorem completeEntry (hp : IsKept p) (e : OpenEntry) : Preserves p (Writer.completeEntry e) := by
  refine (hp.completeData e).bind fun length => (Action.preserves_ask _).bind fun method => ?_
  refine (Action.preserves_ask _).bind fun limit => hp.tell.bind fun finish => ?_
  refine Preserves.bind (hp.modify fun _ => ⟨rfl, rfl⟩) fun _ => ?_
  refine (hp.seek _).bind fun _ => (preserves_fitting _).bind fun header => ?_
  refine (hp.write header).bind fun _ => (hp.seek finish).bind fun _ => ?_
  exact hp.modify fun _ => ⟨rfl, rfl⟩

theorem closeEntry (hp : IsKept p) (handle : Nat) : Preserves p (Writer.closeEntry handle) := by
  intro w h
  simp only [Action.run, Writer.closeEntry]
  split
  · exact h
  · next e _ =>
    have hleft : Preserves p (.modify fun w => { w with current := none }) :=
      hp.modify fun _ => ⟨rfl, rfl⟩
    exact (hp.completeEntry e).ensuring hleft w h

end IsKept

namespace IsSteady

variable {p : Writer → Prop}

theorem writePieces (hp : IsSteady p) (pieces : List Bytes) : Preserves p (writePieces pieces) := by
  induction pieces with
  | nil => exact Action.preserves_pure ()
  | cons piece rest ih => exact (hp.write piece).bind fun _ => ih

theorem writeRecords (hp : IsSteady p) (limit : Int) (entries : List Entry) :
    Preserves p (writeRecords limit entries) := by
  induction entries with
  | nil => exact Action.preserves_pure ()
  | cons entry rest ih =>
    exact (preserves_fitting _).bind fun record => (hp.writePieces record).bind fun _ => ih

theorem closeArchive (hp : IsSteady p) (hclosed : ∀ w, p w → p { w with isClosed := true }) :
    Preserves p closeArchive := by
  refine (Action.preserves_ask _).bind fun isClosed => ?_
  split
  · exact Action.preserves_pure ()
  refine (Action.preserves_ask _).bind fun isBusy => ?_
  split
  · exact Action.preserves_fail _
  refine Preserves.ensuring ?_ (Action.preserves_modify hclosed)
  refine (Action.preserves_ask _).bind fun start => (Action.preserves_ask _).bind fun limit => ?_
  refine (Action.preserves_ask _).bind fun entries => (hp.seek start).bind fun _ => ?_
  refine (hp.writeRecords limit entries).bind fun _ => hp.tell.bind fun finish => ?_
  exact (preserves_fitting _).bind fun pieces => hp.writePieces pieces

/-- What closing the archive and the file does not break either, ending the work on an archive
keeps. -/
theorem finalize (hp : IsSteady p) (hclosed : ∀ w, p w → p { w with isClosed := true })
    (hfile : ∀ w, p w → p w.closeFile) (h : p { w with isFinalized := true }) : p w.finalize.2 := by
  unfold Writer.finalize
  split
  · next hused =>
    have hsame : { w with isFinalized := true } = w := by rw [← hused]
    exact hsame ▸ h
  have hcomplete : Preserves p completeArchive :=
    (hp.closeArchive hclosed).bind fun _ => hp.tell.bind fun size => (hp.seek 0).bind fun _ =>
      Action.preserves_pure size
  rcases hrun : completeArchive.run { w with isFinalized := true } with ⟨e | size, w₁⟩
  · have hkept := hcomplete.of_run hrun h
    by_cases he : IsWriteFailure e
    · simpa only [he, if_true] using hfile w₁ hkept
    · simpa only [he, if_false] using hkept
  · exact hcomplete.of_run hrun h

theorem discard (hp : IsSteady p) (hclosed : ∀ w, p w → p { w with isClosed := true })
    (hfile : ∀ w, p w → p w.closeFile) (h : p { w with isFinalized := true }) :
    p (Writer.discard.run w).2 := by
  rw [run_discard]
  rcases hrun : Writer.closeArchive.run { w with isFinalized := true } with ⟨e | u, w₁⟩
  · have hkept := hfile w₁ ((hp.closeArchive hclosed).of_run hrun h)
    by_cases he : IsWriteFailure e
    · simpa only [he, if_true] using hkept
    · simpa only [he, if_false] using hkept
  · exact hfile w₁ ((hp.closeArchive hclosed).of_run hrun h)

end IsSteady

end Writer

end PhotoArchive.Zip
