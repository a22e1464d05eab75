import PhotoArchive.Proofs.Zip.Operations

/-!
# The life of a writer

Entries are opened, filled and left, and one call ends it all: the archive is completed or given up.
Only the first call that ends the work can complete the archive, and it does so exactly when no entry
is open. From then on the archive, or the closed file, is not touched any more.

## Main definitions

- `Writer.IsActive`, `Writer.IsCompleted` — the phases of a writer
- `Writer.IsOrderly` — what is asked of a step, given what was done before it
- `Writer.IsBehind` — what a writer has gone through shows in its state

## Main statements

- `Writer.Paused.finalize`, `Writer.Filling.finalize` — completing the archive between two entries and
  within one
- `Writer.IsActive.perform`, `Writer.IsCompleted.perform` — one operation in each phase
- `Writer.performAll_isOrderly` — every step of every row of operations is orderly

## Design notes

Which entry is open is read off the operations and their answers, not off the writer. The numbers of
the format end at 2 ^ 64, so the file has to be shorter than that.
-/

namespace PhotoArchive.Zip

open PhotoArchive.Action (Ends)

namespace Writer

variable {limit : Int} {method : Method} {w w' : Writer} {plots : List (Plot limit)}
  {front stale : Bytes}

/-! ## Between two entries -/

/-- In a file that is shorter than the numbers can be, every entry has a record in the directory. -/
theorem IsSown.isSome_directoryBytes? (hlimit : limit < fullField)
    (h : IsSown method w plots front) (hfront : front.length < 2 ^ 64) :
    (directoryBytes? limit w.entries).isSome := by
  apply Zip.isSome_directoryBytes?
  rw [h.entries]
  intro entry hentry
  obtain ⟨p, hp, rfl⟩ := List.mem_map.1 hentry
  obtain ⟨hversion, hform, hname⟩ := Entry.of_localHeader? p.header_eq
  have hsizes := Entry.sizes_lt_of_localHeader? hlimit p.header_eq p.room_suffices
  have hfinish := h.sown.finish_le hp
  have hmethod : p.entry.method < 2 ^ 16 := by
    rw [h.methods p hp]
    exact method.number_lt
  refine (Entry.isSome_centralRecord? hlimit hmethod hversion).2 ⟨hform, hname, ?_⟩
  intro n hn
  rcases Entry.mem_largeNumbers hn with rfl | rfl | rfl
  · exact hsizes.1
  · exact hsizes.2
  · unfold Plot.finish at hfinish
    omega

/-- Between two entries the directory can be written, unless the file gets too long. -/
theorem Paused.ends_writeDirectory (hlimit : limit < fullField)
    (h : Paused method w plots front stale) (htakes : w.file.TakesAll)
    (hused : w.isFinalized = true) (hfront : front.length < 2 ^ 64) :
    Writer.writeDirectory.Ends w
      (fun _ w' => w'.isFinalized = true ∧ w'.current = none ∧ w'.file.TakesAll)
      fun _ w' => 2 ^ 64 ≤ w'.file.content.length := by
  have hstands := File.stands_movedTo h.isOpen h.content
  have hsome := h.isSome_directoryBytes? hlimit hfront
  obtain rfl := h.limit_eq
  unfold Writer.writeDirectory
  rw [Action.ends_ask_bind, Action.ends_ask_bind, Action.ends_ask_bind, h.directoryStart,
    ends_seek_bind h.isOpen]
  rcases run_writeRecords w.limit w.entries
      (w := { w with file := w.file.movedTo front.length }) (htakes.moveTo _) with
    ⟨_, -, hnone⟩ | ⟨directory, file, hdirectory, hrun, htaken, -⟩
  · rw [hnone] at hsome
    cases hsome
  have hbehind := (@ends_writeRecords { w with file := w.file.movedTo front.length } _ _ w.limit
    w.entries hstands).of_ok hrun
  obtain ⟨directory', file', after, hdirectory', hsame, hfile, -⟩ := hbehind
  obtain rfl : directory = directory' := Option.some.inj (hdirectory.symm.trans hdirectory')
  obtain rfl : file = file' := congrArg Writer.file hsame
  rw [Action.ends_bind_of_run hrun, ends_tell_bind hfile, List.length_append,
    Nat.add_sub_cancel_left]
  refine ends_fitting_bind (fun pieces _ => ?_) fun hnone => ?_
  · obtain ⟨file', hpieces, htaken', -⟩ := run_writePieces pieces (w := { w with file }) htaken
    exact Action.ends_of_run_ok hpieces ⟨hused, h.current, htaken'⟩
  · rcases Nat.lt_or_ge file.content.length (2 ^ 64) with hshort | hlong
    · have hcount := length_le_sum_centralLength w.limit w.entries
      rw [← length_directoryBytes? hdirectory] at hcount
      have hlength := congrArg List.length hfile.content
      simp only [List.length_append] at hlength
      have hfit := (isSome_endRecords? hlimit (d := { count := w.entries.length
                                                      size := directory.length
                                                      offset := front.length }) hcount).2 (by
        simp only
        omega)
      rw [hnone] at hfit
      cases hfit
    · exact hlong

/-- The writer has completed its archive. -/
structure IsCompleted (w : Writer) : Prop where
  isFinalized : w.isFinalized = true
  isClosed : w.isClosed = true
  current : w.current = none

theorem Paused.ends_completeArchive (hlimit : limit < fullField)
    (h : Paused method w plots front stale) (htakes : w.file.TakesAll)
    (hused : w.isFinalized = true) (hfront : front.length < 2 ^ 64) :
    Writer.completeArchive.Ends w (fun _ w' => w'.IsCompleted)
      fun _ w' => 2 ^ 64 ≤ w'.file.content.length := by
  have hclose : Writer.closeArchive.Ends w (fun _ w' => w'.IsCompleted ∧ w'.file.TakesAll)
      fun _ w' => 2 ^ 64 ≤ w'.file.content.length := by
    unfold Writer.closeArchive
    rw [Action.ends_ask_bind, h.isClosed, if_neg Bool.false_ne_true, Action.ends_ask_bind,
      h.current, Option.isSome_none, if_neg Bool.false_ne_true]
    apply Ends.ensuring_modify
    apply (h.ends_writeDirectory hlimit htakes hused hfront).mono
    · rintro _ _ ⟨hused, hcurrent, htaken⟩
      exact ⟨⟨hused, rfl, hcurrent⟩, htaken⟩
    · exact fun _ _ => id
  refine hclose.bind ?_ fun _ _ => id
  rintro _ w' ⟨hcompleted, htaken⟩
  have htell := run_onFile (w := w') htaken.run_tell
  rw [Action.ends_bind_of_run htell, ends_seek_bind htaken.isOpen, Action.ends_pure]
  exact ⟨hcompleted.isFinalized, hcompleted.isClosed, hcompleted.current⟩

/-- Between two entries an archive is completed. -/
theorem Paused.finalize (hlimit : limit < fullField) (h : Paused method w plots front stale)
    (htakes : w.file.TakesAll) (hfresh : w.IsFresh)
    (hlength : w.finalize.2.file.content.length < 2 ^ 64) :
    ∃ size, w.finalize.1 = .ok size ∧ w.finalize.2.IsCompleted := by
  have hfront : front.length < 2 ^ 64 := by
    have hlasts : w.file.Lasts w.finalize.2.file := by
      simpa only [perform_finalize] using lasts_perform w .finalize
    have hgrown := hlasts.length_le
    rw [h.content, List.length_append] at hgrown
    omega
  have hbegun : Paused method { w with isFinalized := true } plots front stale := { h with }
  have hends := hbegun.ends_completeArchive hlimit htakes rfl hfront
  unfold Writer.finalize at hlength ⊢
  rw [if_neg (by simp [show w.isFinalized = false from hfresh])] at hlength ⊢
  rcases hrun : Writer.completeArchive.run { w with isFinalized := true } with ⟨e | size, w₁⟩
  · have hlong := hends.of_error hrun
    rw [hrun] at hlength
    by_cases he : IsWriteFailure e
    · simp only [he, if_true, closeFile, File.content_close] at hlength
      omega
    · simp only [he, if_false] at hlength
      omega
  · exact ⟨size, rfl, hends.of_ok hrun⟩

/-! ## The three phases -/

section Refusals

/-- While an entry is open, no other one is opened. -/
theorem run_openEntry_of_current {e : OpenEntry} (h : w.current = some e) (name : String)
    (declared : Option Int) :
    ∃ f : Failure, (Writer.openEntry name declared).run w = (.error f, w) ∧ f.IsValueError := by
  cases hclosed : w.isClosed with
  | true =>
    refine ⟨.archive .archiveClosed, ?_, trivial⟩
    simp [Writer.openEntry, Action.run_bind, hclosed]
  | false =>
    refine ⟨.archive .anotherEntryOpen, ?_, trivial⟩
    simp [Writer.openEntry, Action.run_bind, hclosed, h]

theorem run_openEntry_of_isClosed (h : w.isClosed = true) (name : String) (declared : Option Int) :
    (Writer.openEntry name declared).run w = (.error (.archive .archiveClosed), w) := by
  simp [Writer.openEntry, Action.run_bind, h]

theorem run_write_of_none {handle : Nat} (h : w.entryAt? handle = none) (data : Bytes) :
    (Writer.write handle data).run w = (.error (.closedFile true .write), w) := by
  simp only [Action.run, Writer.write, h]

theorem run_closeEntry_of_none {handle : Nat} (h : w.entryAt? handle = none) :
    (Writer.closeEntry handle).run w = (.ok (), w) := by
  simp only [Action.run, Writer.closeEntry, h]

end Refusals

/-- The writer is not used up, and it is between two entries or within one. -/
inductive IsActive (method : Method) (limit : Int) (w : Writer) : Prop
  | paused {plots : List (Plot limit)} {front stale : Bytes} (h : Paused method w plots front stale)
  | filling {plots : List (Plot limit)} {front stale : Bytes} {handle : Nat} {name : String}
      {pieces : List Bytes} {isWhole : Bool}
      (h : Filling method w plots front stale handle name pieces isWhole)

theorem IsActive.openEntry (h : IsActive method limit w) (name : String) (declared : Option Int) :
    IsActive method limit ((Writer.openEntry name declared).run w).2 := by
  cases h with
  | paused hpaused =>
    rcases hrun : (Writer.openEntry name declared).run w with ⟨e | handle, w'⟩
    · exact .paused ((hpaused.openEntry name declared).of_error hrun).1
    · obtain ⟨_, hfilling, -⟩ := (hpaused.openEntry name declared).of_ok hrun
      exact .filling hfilling
  | filling hfilling =>
    obtain ⟨_, _, _, _, -, -, hcurrent, -⟩ := hfilling.there
    obtain ⟨_, hrun, -⟩ := run_openEntry_of_current hcurrent name declared
    rw [hrun]
    exact .filling hfilling

/-- Any other handle than that of the open entry is closed. -/
theorem Filling.entryAt?_of_ne {handle other : Nat} {name : String} {pieces : List Bytes}
    {isWhole : Bool} (h : Filling method w plots front stale handle name pieces isWhole)
    (hne : other ≠ handle) : w.entryAt? other = none := by
  obtain ⟨_, _, _, _, -, -, hcurrent, -⟩ := h.there
  simp [entryAt?, hcurrent, filled, hne.symm]

theorem Paused.entryAt? (h : Paused method w plots front stale) (handle : Nat) :
    w.entryAt? handle = none := by
  rw [Writer.entryAt?, h.current, Option.filter_none]

theorem IsActive.write (h : IsActive method limit w) (handle : Nat) (data : Bytes) :
    IsActive method limit ((Writer.write handle data).run w).2 := by
  cases h with
  | paused hpaused =>
    rw [run_write_of_none (hpaused.entryAt? handle)]
    exact .paused hpaused
  | @filling _ _ _ opened _ _ _ hfilling =>
    by_cases hne : handle = opened
    · subst hne
      rcases hrun : (Writer.write handle data).run w with ⟨e | u, w'⟩
      · exact .filling ((hfilling.write data).of_error hrun).1
      · obtain ⟨_, hfilled, -⟩ := (hfilling.write data).of_ok hrun
        exact .filling hfilled
    · rw [run_write_of_none (hfilling.entryAt?_of_ne hne)]
      exact .filling hfilling

theorem IsActive.closeEntry (h : IsActive method limit w) (handle : Nat) :
    IsActive method limit ((Writer.closeEntry handle).run w).2 := by
  cases h with
  | paused hpaused =>
    rw [run_closeEntry_of_none (hpaused.entryAt? handle)]
    exact .paused hpaused
  | @filling _ _ _ opened _ _ _ hfilling =>
    by_cases hne : handle = opened
    · subst hne
      rcases hrun : (Writer.closeEntry handle).run w with ⟨e | u, w'⟩
      · obtain ⟨_, _, hpaused, -⟩ := hfilling.closeEntry.of_error hrun
        exact .paused hpaused
      · obtain ⟨_, _, _, hpaused, -⟩ := hfilling.closeEntry.of_ok hrun
        exact .paused hpaused
    · rw [run_closeEntry_of_none (hfilling.entryAt?_of_ne hne)]
      exact .filling hfilling

/-- Until the work is ended, a writer is between two entries or within one. -/
theorem IsActive.perform (h : IsActive method limit w) {op : Operation}
    (hop : op.isTerminal = false) : IsActive method limit (w.perform op).2 := by
  cases op with
  | openEntry name declared =>
    rw [Writer.perform, plain_snd]
    exact h.openEntry name declared
  | write handle data =>
    rw [Writer.perform, plain_snd]
    exact h.write handle data
  | closeEntry handle =>
    rw [Writer.perform, plain_snd]
    exact h.closeEntry handle
  | finalize => cases hop
  | discard => cases hop

theorem IsActive.performAll {ops : List Operation} (h : IsActive method limit w)
    (hops : ops.any Operation.isTerminal = false) :
    IsActive method limit (w.performAll ops).2 := by
  induction ops generalizing w with
  | nil => exact h
  | cons op rest ih =>
    rw [List.any_cons, Bool.or_eq_false_iff] at hops
    rw [performAll_cons]
    exact ih (h.perform hops.1) hops.2

/-- Within an entry an archive cannot be completed, and its file is closed. -/
theorem Filling.finalize {handle : Nat} {name : String} {pieces : List Bytes} {isWhole : Bool}
    (h : Filling method w plots front stale handle name pieces isWhole) (hfresh : w.IsFresh) :
    (∃ refusal message, w.finalize.1 = .error refusal ∧
      refusal.failure = .archiveFinalize message) ∧ w.finalize.2.file.isClosed = true := by
  obtain ⟨_, _, _, _, -, -, hcurrent, -⟩ := h.there
  have hrun : Writer.completeArchive.run { w with isFinalized := true }
      = (.error (.archive .entryStillOpen), { w with isFinalized := true }) := by
    apply Action.run_bind_error
    simp [Writer.closeArchive, Action.run_bind, h.isClosed, hcurrent]
  have hfailure : IsWriteFailure (.archive .entryStillOpen) := .inr trivial
  unfold Writer.finalize
  rw [if_neg (by simp [show w.isFinalized = false from hfresh]), hrun]
  simp only [if_pos hfailure]
  exact ⟨⟨_, _, rfl, rfl⟩, rfl⟩

/-- Nothing changes a completed archive; its file can only be closed. -/
theorem IsCompleted.perform (h : w.IsCompleted) (op : Operation) :
    (w.perform op).2 = if op = .discard then w.closeFile else w := by
  have hnone (handle : Nat) : w.entryAt? handle = none := by
    rw [entryAt?, h.current, Option.filter_none]
  cases op with
  | openEntry name declared =>
    rw [Writer.perform, plain_snd, run_openEntry_of_isClosed h.isClosed, if_neg (by simp)]
  | write handle data =>
    rw [Writer.perform, plain_snd, run_write_of_none (hnone handle), if_neg (by simp)]
  | closeEntry handle =>
    rw [Writer.perform, plain_snd, run_closeEntry_of_none (hnone handle), if_neg (by simp)]
  | finalize => rw [perform_finalize, Writer.finalize, if_pos h.isFinalized, if_neg (by simp)]
  | discard =>
    have hsame : { w with isFinalized := true } = w := by rw [← h.isFinalized]
    have hclose : Writer.closeArchive.run w = (.ok (), w) := by
      simp [Writer.closeArchive, Action.run_bind, h.isClosed]
    rw [Writer.perform, plain_snd, run_discard, hsame, hclose, if_pos rfl]

theorem IsCompleted.performAll {ops : List Operation} (h : w.IsCompleted) :
    (w.performAll ops).2 = if .discard ∈ ops then w.closeFile else w := by
  induction ops generalizing w with
  | nil => simp [Writer.performAll]
  | cons op rest ih =>
    rw [performAll_cons, h.perform op]
    by_cases hop : op = .discard
    · have hclosed : w.closeFile.IsCompleted := ⟨h.isFinalized, h.isClosed, h.current⟩
      have htwice : w.closeFile.closeFile = w.closeFile := rfl
      simp [hop, ih hclosed, htwice]
    · simp [hop, ih h, Ne.symm hop]

/-- Only the first call that ends the work completes an archive. -/
theorem isCompletion_perform {op : Operation}
    (h : Step.isCompletion { operation := op, answer := (w.perform op).1 } = true) :
    op = .finalize ∧ w.isFinalized = false := by
  have hplain {β : Type} {result : β → Outcome} (hresult : ∀ x size, result x ≠ .finalized size)
      (r : Except Failure β × Writer) :
      Step.isCompletion { operation := op, answer := (perform.plain result r).1 } = false := by
    rcases r with ⟨e | x, _⟩
    · rfl
    · cases hx : result x with
      | finalized size => exact absurd hx (hresult x size)
      | _ => simp [perform.plain, Step.isCompletion, hx]
  cases op with
  | openEntry | write | closeEntry | discard =>
    rw [Writer.perform, hplain (by simp)] at h
    cases h
  | finalize =>
    refine ⟨rfl, ?_⟩
    cases hused : w.isFinalized with
    | false => rfl
    | true =>
      simp [Writer.perform, Writer.finalize, hused, Step.isCompletion] at h

/-- No writer completes two archives. -/
theorem countP_isCompletion_performAll (w : Writer) (ops : List Operation) :
    (w.performAll ops).1.countP Step.isCompletion ≤ if w.isFinalized then 0 else 1 := by
  induction ops generalizing w with
  | nil => exact Nat.zero_le _
  | cons op rest ih =>
    have hrest := ih (w.perform op).2
    rw [isFinalized_perform] at hrest
    rw [performAll_cons, List.countP_cons]
    split
    · next hcompletion =>
      obtain ⟨rfl, hfresh⟩ := isCompletion_perform hcompletion
      simp only [Operation.isTerminal, Bool.or_true, if_true] at hrest
      simp only [hfresh, Bool.false_eq_true, if_false]
      omega
    · cases hused : w.isFinalized with
      | true => simpa [hused] using hrest
      | false =>
        split at hrest <;> simp only [Bool.false_eq_true, if_false] <;> omega

/-! ## Every row of operations -/

theorem perform_finalize_fst (w : Writer) :
    (w.perform .finalize).1 = w.finalize.1.map Outcome.finalized := by
  rcases h : w.finalize with ⟨_ | _, _⟩ <;> simp only [Writer.perform, h] <;> rfl

/-- The first call that ends the work completes the archive if no entry is open, and closes the file
otherwise. -/
theorem IsActive.finalize (h : IsActive method limit w) (hlimit : limit < fullField)
    (haccepts : ∀ writes position length, w.file.accepts writes position length = true)
    (hfresh : w.IsFresh) (hlength : w.finalize.2.file.content.length < 2 ^ 64) :
    (w.handle? = none ∧ ∃ size, w.finalize.1 = .ok size ∧ w.finalize.2.IsCompleted) ∨
    (∃ handle, w.handle? = some handle) ∧
      (∃ refusal message, w.finalize.1 = .error refusal ∧
        refusal.failure = .archiveFinalize message) ∧ w.finalize.2.file.isClosed = true := by
  cases h with
  | paused hpaused =>
    have hnone : w.handle? = none := by rw [handle?, hpaused.current, Option.map_none]
    exact .inl ⟨hnone, hpaused.finalize hlimit ⟨hpaused.isOpen, haccepts⟩ hfresh hlength⟩
  | @filling _ _ _ handle _ _ _ hfilling =>
    obtain ⟨_, _, _, _, -, -, hcurrent, -⟩ := hfilling.there
    have hsome : w.handle? = some handle := by
      rw [handle?, hcurrent, Option.map_some, filled]
    exact .inr ⟨⟨handle, hsome⟩, hfilling.finalize hfresh⟩

/-- What is asked of a step, given the steps before it, the writer in front of it and behind it, and
the operations that come later. -/
structure IsOrderly (past : List Step) (w : Writer) (step : Step) (w' : Writer)
    (later : List Operation) : Prop where
  /-- An archive is completed by the first call that ends the work, if no entry is open, and by no
  other call. -/
  completes : step.operation = .finalize →
    (step.isCompletion = true ↔ IsUnused past ∧ ∀ handle, ¬ IsOpenIn handle past)
  /-- All other attempts to complete an archive are refused as such. -/
  refuses : step.operation = .finalize → step.isCompletion = false →
    ∃ refusal message, step.answer = .error refusal ∧ refusal.failure = .archiveFinalize message
  /-- The file of an archive that was given up, or could not be completed, is closed for good. -/
  closes : (step.operation = .discard ∨
      step.operation = .finalize ∧ IsUnused past ∧ step.isCompletion = false) →
    w'.file.isClosed = true ∧ (w'.performAll later).2.file = w'.file
  /-- Nothing changes a completed archive, and only giving it up closes its file. -/
  keeps : step.isCompletion = true →
    (w'.performAll later).2.file.content = w'.file.content ∧
    (.discard ∉ later → (w'.performAll later).2.file = w'.file)
  /-- While an entry is open, opening another one is refused and changes nothing: what follows is as if
  it had not been tried. -/
  leaves : ∀ name declared handle, step.operation = .openEntry name declared →
    IsOpenIn handle past →
    w' = w ∧ ∃ e, step.answer = .error { failure := e } ∧ e.IsValueError

section Orderly

variable {past : List Step} {later : List Operation}

/-- What a writer has gone through shows in its state. -/
structure IsBehind (method : Method) (limit : Int) (past : List Step) (w : Writer) : Prop where
  isFresh : IsUnused past ↔ w.IsFresh
  isActive : w.IsFresh → IsActive method limit w
  handle? : ∀ handle, w.handle? = some handle ↔ IsOpenIn handle past
  accepts : ∀ writes position length, w.file.accepts writes position length = true

theorem isBehind_performAll {file : File} (htakes : file.TakesAll) (hempty : file.content = [])
    (ops : List Operation) :
    IsBehind method limit ((new file method limit).performAll ops).1
      ((new file method limit).performAll ops).2 where
  isFresh := by
    rw [isUnused_performAll, IsFresh, isFinalized_performAll]
    rfl
  isActive hfresh := by
    rw [IsFresh, isFinalized_performAll] at hfresh
    exact (IsActive.paused (new_paused htakes.isOpen hempty)).performAll hfresh
  handle? handle := by
    rw [performAll_handle?]
    exact ⟨fun h => h.resolve_right nofun, .inl⟩
  accepts := by
    rw [(lasts_performAll (new file method limit) ops).accepts]
    exact htakes.accepts

/-- An attempt to complete an archive. -/
theorem IsBehind.finalize (h : IsBehind method limit past w) (hlimit : limit < fullField)
    (hlength : (w.perform .finalize).2.file.content.length < 2 ^ 64) :
    IsOrderly past w { operation := .finalize, answer := (w.perform .finalize).1 }
      (w.perform .finalize).2 later := by
  have hlasts := lasts_performAll (w.perform .finalize).2 later
  have hcompletion {size : Nat} (hrun : w.finalize.1 = .ok size) : Step.isCompletion
      { operation := .finalize, answer := (w.perform .finalize).1 } = true := by
    rw [perform_finalize_fst, hrun]
    rfl
  have hrefused {refusal : Refusal} (hrun : w.finalize.1 = .error refusal) : Step.isCompletion
      { operation := .finalize, answer := (w.perform .finalize).1 } = false := by
    rw [perform_finalize_fst, hrun]
    rfl
  have hanswer {refusal : Refusal} (hrun : w.finalize.1 = .error refusal) :
      (w.perform .finalize).1 = .error refusal := by
    rw [perform_finalize_fst, hrun]
    rfl
  rw [perform_finalize] at hlength hlasts ⊢
  by_cases hunused : IsUnused past
  · have hfresh := h.isFresh.1 hunused
    rcases (h.isActive hfresh).finalize hlimit h.accepts hfresh hlength with
      ⟨hnone, size, hrun, hcompleted⟩ |
      ⟨⟨handle, hhandle⟩, ⟨refusal, message, hrun, hmessage⟩, hclosed⟩
    · have hopen (handle : Nat) : ¬ IsOpenIn handle past := by
        rw [← h.handle?, hnone]
        nofun
      refine ⟨fun _ => iff_of_true (hcompletion hrun) ⟨hunused, hopen⟩, ?_, ?_, ?_, nofun⟩
      · intro _ hnot
        rw [hcompletion hrun] at hnot
        cases hnot
      · rintro (hdiscard | ⟨-, -, hnot⟩)
        · cases hdiscard
        · rw [hcompletion hrun] at hnot
          cases hnot
      · intro _
        rw [hcompleted.performAll]
        refine ⟨by split <;> rfl, fun hlater => by rw [if_neg hlater]⟩
    · have hopen : IsOpenIn handle past := (h.handle? handle).1 hhandle
      refine ⟨fun _ => ?_, fun _ _ => ⟨refusal, message, hanswer hrun, hmessage⟩, ?_, ?_, nofun⟩
      · rw [hrefused hrun]
        exact iff_of_false nofun fun hall => hall.2 handle hopen
      · exact fun _ => ⟨hclosed, hlasts.eq_of_isClosed hclosed⟩
      · rw [hrefused hrun]
        nofun
  · have hused : w.isFinalized = true := by
      simpa [h.isFresh, IsFresh] using hunused
    have hrun : w.finalize =
        (.error { failure := .archiveFinalize "archive already finalized" }, w) := by
      rw [Writer.finalize, if_pos hused]
    have hfst := congrArg Prod.fst hrun
    refine ⟨fun _ => ?_, fun _ _ => ⟨_, _, hanswer hfst, rfl⟩, ?_, ?_, nofun⟩
    · rw [hrefused hfst]
      exact iff_of_false nofun fun hall => hunused hall.1
    · rintro (hdiscard | ⟨-, hfirst, -⟩)
      · cases hdiscard
      · exact absurd hfirst hunused
    · rw [hrefused hfst]
      nofun

/-- Any other operation. -/
theorem IsBehind.other (h : IsBehind method limit past w) {op : Operation} (hop : op ≠ .finalize) :
    IsOrderly past w { operation := op, answer := (w.perform op).1 } (w.perform op).2 later where
  completes hfinalize := absurd hfinalize hop
  refuses hfinalize := absurd hfinalize hop
  closes := by
    rintro (rfl | ⟨hfinalize, -⟩)
    · have hclosed : (w.perform .discard).2.file.isClosed = true := by
        rw [Writer.perform, plain_snd]
        exact isClosed_discard (Prod.eta _).symm
      exact ⟨hclosed, (lasts_performAll _ later).eq_of_isClosed hclosed⟩
    · exact absurd hfinalize hop
  keeps hcompletion := absurd (isCompletion_perform hcompletion).1 hop
  leaves := by
    rintro name declared handle rfl hopen
    obtain ⟨e, hcurrent, -⟩ := Option.map_eq_some_iff.1 ((h.handle? handle).2 hopen)
    obtain ⟨f, hrun, hfailure⟩ := run_openEntry_of_current hcurrent name declared
    rw [Writer.perform, hrun]
    exact ⟨rfl, f, rfl, hfailure⟩

end Orderly

/-- In every row of operations on a new writer, at most one completes an archive, and every step is
orderly, whatever was done before and whatever comes later. -/
theorem performAll_isOrderly {file : File} (htakes : file.TakesAll) (hempty : file.content = [])
    (method : Method) (hlimit : limit < fullField) {ops : List Operation}
    (hlength : ((new file method limit).performAll ops).2.file.content.length < 2 ^ 64) :
    ((new file method limit).performAll ops).1.countP Step.isCompletion ≤ 1 ∧
    ∀ before op later past w answer w', ops = before ++ op :: later →
      (new file method limit).performAll before = (past, w) → w.perform op = (answer, w') →
      IsOrderly past w { operation := op, answer } w' later := by
  refine ⟨countP_isCompletion_performAll _ ops, ?_⟩
  rintro before op later past w answer w' rfl hpast hstep
  have hbehind : IsBehind method limit ((new file method limit).performAll before).1
      ((new file method limit).performAll before).2 := isBehind_performAll htakes hempty before
  rw [performAll_append, hpast, performAll_cons, hstep] at hlength
  rw [hpast] at hbehind
  have hgrown := (lasts_performAll w' later).length_le
  obtain rfl : (w.perform op).1 = answer := by rw [hstep]
  obtain rfl : (w.perform op).2 = w' := by rw [hstep]
  by_cases hop : op = .finalize
  · subst hop
    exact hbehind.finalize hlimit (Nat.lt_of_le_of_lt hgrown hlength)
  · exact hbehind.other hop

/-- One entry is opened in vain within another one, and the archive is completed once, but tried
twice. -/
def sampleOperations : List Operation :=
  [.openEntry "a.jpg" none, .write 0 [65], .openEntry "b.jpg" (some 1), .closeEntry 0, .finalize,
    .finalize, .discard]

theorem performAll_isOrderly_sample :
    ((new {} .stored standardLimit).performAll sampleOperations).2.file.content.length < 2 ^ 64 ∧
    ((new {} .stored standardLimit).performAll sampleOperations).1.countP Step.isCompletion ≤ 1 ∧
    ∃ past w answer w',
      (new {} .stored standardLimit).performAll (sampleOperations.take 4) = (past, w) ∧
      w.perform .finalize = (answer, w') ∧
      IsOrderly past w { operation := .finalize, answer } w' (sampleOperations.drop 5) := by
  have hlength : ((new {} .stored standardLimit).performAll
      sampleOperations).2.file.content.length < 2 ^ 64 := by
    decide +kernel
  have htakes : File.TakesAll {} := ⟨rfl, fun _ _ _ => rfl⟩
  obtain ⟨hcount, hsteps⟩ := performAll_isOrderly htakes rfl .stored (by decide) hlength
  rcases hpast : (new {} .stored standardLimit).performAll (sampleOperations.take 4) with ⟨past, w⟩
  rcases hstep : w.perform .finalize with ⟨answer, w'⟩
  have horderly := hsteps (sampleOperations.take 4) .finalize (sampleOperations.drop 5) past w
    answer w' rfl hpast hstep
  exact ⟨hlength, hcount, past, w, answer, w', rfl, hstep, horderly⟩

end Writer

end PhotoArchive.Zip
