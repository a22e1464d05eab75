import PhotoArchive.Proofs.Zip.Disposal

/-!
# Rows of operations on a writer

Operations on a writer may be tried in any order, on any handle and as often as one likes. What they
were and how they ended shows which entry is open and whether the work on the archive has ended.

## Main definitions

- `Writer.performAll` — a row of operations, carried out whatever becomes of each
- `Writer.Step`, `Writer.IsUnused`, `Writer.IsOpenIn` — what a row of operations shows
- `Writer.handle?` — the handle of the entry that is open

## Main statements

- `Writer.lasts_performAll` — what no operation changes in the file
- `Writer.isFinalized_performAll` — the calls that end the work use the writer up
- `Writer.performAll_handle?` — which entry is open

## Design notes

An entry is left in the same way whether its work has succeeded or failed, so leaving it is one
operation.
-/

namespace PhotoArchive.Zip

open PhotoArchive.Action (Ends Preserves)
open File (Lasts)

namespace Writer

variable {α : Type} {w w' : Writer}

/-! ## Rows of operations -/

/-- An operation and how it ended. -/
structure Step where
  operation : Operation
  answer : Except Refusal Outcome

/-- Carry out operations one after the other, whatever becomes of each of them. -/
def performAll (w : Writer) : List Operation → List Step × Writer
  | [] => ([], w)
  | op :: rest =>
    let (answer, w) := w.perform op
    let (steps, w) := w.performAll rest
    ({ operation := op, answer } :: steps, w)

/-- Whether an operation ends the work on an archive. -/
def Operation.isTerminal : Operation → Bool
  | .finalize | .discard => true
  | _ => false

namespace Step

/-- The step has opened an entry. -/
def Opens (step : Step) (handle : Nat) : Prop :=
  ∃ name declared, step.operation = .openEntry name declared ∧ step.answer = .ok (.opened handle)

/-- Whether the step has completed an archive. -/
def isCompletion (step : Step) : Bool :=
  match step.answer with
  | .ok (.finalized _) => true
  | _ => false

end Step

/-- No step was to end the work on the archive. -/
def IsUnused (steps : List Step) : Prop :=
  ∀ step ∈ steps, step.operation ≠ .finalize ∧ step.operation ≠ .discard

/-- An entry was opened under a handle and has not been left since. -/
def IsOpenIn (handle : Nat) (steps : List Step) : Prop :=
  ∃ before step after, steps = before ++ step :: after ∧ step.Opens handle ∧
    ∀ later ∈ after, later.operation ≠ .closeEntry handle

theorem performAll_cons (w : Writer) (op : Operation) (rest : List Operation) :
    w.performAll (op :: rest) =
      ({ operation := op, answer := (w.perform op).1 } :: ((w.perform op).2.performAll rest).1,
        ((w.perform op).2.performAll rest).2) := rfl

theorem performAll_append (w : Writer) (ops more : List Operation) :
    w.performAll (ops ++ more) =
      ((w.performAll ops).1 ++ ((w.performAll ops).2.performAll more).1,
        ((w.performAll ops).2.performAll more).2) := by
  induction ops generalizing w with
  | nil => rfl
  | cons op rest ih => simp only [List.cons_append, performAll_cons, ih]

/-- The steps of a row are its operations. -/
theorem map_operation_performAll (w : Writer) (ops : List Operation) :
    (w.performAll ops).1.map Step.operation = ops := by
  induction ops generalizing w with
  | nil => rfl
  | cons op rest ih => simp only [performAll_cons, List.map_cons, ih]

theorem forall_operation_performAll (w : Writer) (ops : List Operation) (p : Operation → Prop) :
    (∀ step ∈ (w.performAll ops).1, p step.operation) ↔ ∀ op ∈ ops, p op := by
  rw [← List.forall_mem_map, map_operation_performAll]

theorem isUnused_performAll (w : Writer) (ops : List Operation) :
    IsUnused (w.performAll ops).1 ↔ ops.any Operation.isTerminal = false := by
  rw [IsUnused, forall_operation_performAll w ops fun op => op ≠ .finalize ∧ op ≠ .discard,
    List.any_eq_false]
  refine forall₂_congr fun op _ => ?_
  cases op <;> simp [Operation.isTerminal]

theorem isOpenIn_cons {handle : Nat} {step : Step} {steps : List Step} :
    IsOpenIn handle (step :: steps) ↔
      step.Opens handle ∧ (∀ later ∈ steps, later.operation ≠ .closeEntry handle) ∨
        IsOpenIn handle steps := by
  constructor
  · rintro ⟨_ | ⟨first, before⟩, opener, after, hsplit, hopens, hafter⟩
    · obtain ⟨rfl, rfl⟩ := List.cons.inj hsplit
      exact .inl ⟨hopens, hafter⟩
    · obtain ⟨rfl, rfl⟩ := List.cons.inj hsplit
      exact .inr ⟨before, opener, after, rfl, hopens, hafter⟩
  · rintro (⟨hopens, hlater⟩ | ⟨before, opener, after, rfl, hopens, hafter⟩)
    · exact ⟨[], step, steps, rfl, hopens, hlater⟩
    · exact ⟨step :: before, opener, after, rfl, hopens, hafter⟩

/-! ## What lasts -/

@[simp] theorem plain_snd (result : α → Outcome) (r : Except Failure α × Writer) :
    (perform.plain result r).2 = r.2 := by
  rcases r with ⟨_ | _, _⟩ <;> rfl

@[simp] theorem perform_finalize (w : Writer) : (w.perform .finalize).2 = w.finalize.2 := by
  rcases h : w.finalize with ⟨_ | _, _⟩ <;> simp only [perform, h]

theorem isKept_lasts (f : File) : IsKept fun w => f.Lasts w.file where
  congr h hfile _ := hfile ▸ h
  seek position _ h := h.trans (.seek position)
  tell _ h := h.trans .tell
  write data _ h := h.trans (.write data)

/-- What the steps on the file keep and closing the file does not break, every operation keeps. -/
theorem IsKept.perform {p : Writer → Prop} (hp : IsKept p) (hfile : ∀ w, p w → p w.closeFile)
    {op : Operation} (hentry : op.isTerminal = false → p w)
    (hend : op.isTerminal = true → p { w with isFinalized := true }) : p (w.perform op).2 := by
  have hclosed (w : Writer) (h : p w) : p { w with isClosed := true } := hp.congr h rfl rfl
  cases op with
  | openEntry name declared =>
    rw [Writer.perform, plain_snd]
    exact hp.openEntry name declared w (hentry rfl)
  | write handle data =>
    rw [Writer.perform, plain_snd]
    exact hp.writeEntry handle data w (hentry rfl)
  | closeEntry handle =>
    rw [Writer.perform, plain_snd]
    exact hp.closeEntry handle w (hentry rfl)
  | finalize =>
    rw [perform_finalize]
    exact hp.finalize hclosed hfile (hend rfl)
  | discard =>
    rw [Writer.perform, plain_snd]
    exact hp.discard hclosed hfile (hend rfl)

theorem lasts_perform (w : Writer) (op : Operation) : w.file.Lasts (w.perform op).2.file :=
  (isKept_lasts w.file).perform (fun _ h => h.trans .close) (fun _ => .refl) fun _ => .refl

theorem lasts_performAll (w : Writer) (ops : List Operation) :
    w.file.Lasts (w.performAll ops).2.file := by
  induction ops generalizing w with
  | nil => exact .refl
  | cons op rest ih => exact (lasts_perform w op).trans (ih _)

/-- The calls that end the work use the writer up. -/
theorem isFinalized_perform (w : Writer) (op : Operation) :
    (w.perform op).2.isFinalized = (w.isFinalized || op.isTerminal) := by
  apply (isKept_isFinalized _).perform fun _ h => h
  · intro hentry
    rw [hentry, Bool.or_false]
  · intro hend
    rw [hend, Bool.or_true]

theorem isFinalized_performAll (w : Writer) (ops : List Operation) :
    (w.performAll ops).2.isFinalized = (w.isFinalized || ops.any Operation.isTerminal) := by
  induction ops generalizing w with
  | nil => simp [performAll]
  | cons op rest ih =>
    rw [performAll_cons, ih, isFinalized_perform, List.any_cons, Bool.or_assoc]

/-! ## Which entry is open -/

/-- The handle of the entry that is open. -/
def handle? (w : Writer) : Option Nat := w.current.map OpenEntry.handle

theorem ends_onFile (w : Writer) (a : Action File α) {p : Writer → Prop}
    (hp : ∀ file, p { w with file }) : (onFile a).Ends w (fun _ => p) fun _ => p := by
  rcases hrun : a.run w.file with ⟨e | x, file⟩
  · exact Action.ends_of_run_error (run_onFile hrun) (hp file)
  · exact Action.ends_of_run_ok (run_onFile hrun) (hp file)

theorem beginEntry_handle? (hnone : w.handle? = none) (name : String) (size : Int) (room : Bool) :
    (Writer.beginEntry name size room).Ends w (fun handle w' => w'.handle? = some handle)
      fun _ w' => w'.handle? = none := by
  unfold Writer.beginEntry
  rw [Action.ends_ask_bind]
  refine (ends_onFile (p := fun w => w.handle? = none) w _ fun _ => hnone).bind
    (fun _ w₁ h₁ => ?_) fun _ _ => id
  refine (ends_onFile (p := fun w => w.handle? = none) w₁ _ fun _ => h₁).bind
    (fun offset w₂ h₂ => ?_) fun _ _ => id
  rw [Action.ends_ask_bind, Action.ends_ask_bind]
  cases headerFailure? name size room w₂.limit with
  | some failure => exact h₂
  | none =>
    refine ends_fitting_bind (fun header _ => ?_) fun _ => h₂
    refine (ends_onFile (p := fun w => w.handle? = none) w₂ _ fun _ => h₂).bind
      (fun _ w₃ _ => ?_) fun _ _ => id
    rw [Action.ends_ask_bind, Action.ends_modify_bind, Action.ends_pure]
    rfl

/-- An entry is opened when none is open, or nothing is opened. -/
theorem openEntry_handle? (w : Writer) (name : String) (declared : Option Int) :
    (Writer.openEntry name declared).Ends w
      (fun handle w' => w.handle? = none ∧ w'.handle? = some handle)
      fun _ w' => w'.handle? = w.handle? := by
  unfold Writer.openEntry
  rw [Action.ends_ask_bind]
  by_cases hclosed : w.isClosed = true
  · rw [if_pos hclosed]
    rfl
  rw [if_neg hclosed, Action.ends_ask_bind]
  by_cases hcurrent : w.current.isSome = true
  · rw [if_pos hcurrent]
    rfl
  have hnone : w.handle? = none := by simpa [handle?] using hcurrent
  have hbegin (size : Int) (room : Bool) : (Writer.beginEntry name size room).Ends w
      (fun handle w' => w.handle? = none ∧ w'.handle? = some handle)
      fun _ w' => w'.handle? = w.handle? :=
    (beginEntry_handle? hnone name size room).mono (fun _ _ h => ⟨hnone, h⟩)
      fun _ _ h => h.trans hnone.symm
  rw [if_neg hcurrent]
  cases declared with
  | none => exact hbegin 0 true
  | some size =>
    rw [Action.ends_ask_bind]
    cases needsRoom? w.limit size with
    | none => exact rfl
    | some room => exact hbegin size room

theorem write_handle? (w : Writer) (handle : Nat) (data : Bytes) :
    ((Writer.write handle data).run w).2.handle? = w.handle? := by
  simp only [Action.run, Writer.write]
  split
  · rfl
  · next e hentry =>
    have hcurrent : w.current = some e := (Option.filter_eq_some_iff.1 hentry).1
    have hfile : w.handle? = some e.handle := by rw [handle?, hcurrent, Option.map_some]
    rw [hfile]
    rfl

theorem closeEntry_handle? (w : Writer) (handle : Nat) :
    ((Writer.closeEntry handle).run w).2.handle? =
      if w.handle? = some handle then none else w.handle? := by
  simp only [Action.run, Writer.closeEntry]
  split
  · next hentry =>
    have hother : w.handle? ≠ some handle := by
      intro hhandle
      obtain ⟨e, hcurrent, he⟩ := Option.map_eq_some_iff.1 hhandle
      simp [entryAt?, hcurrent, he] at hentry
    rw [if_neg hother]
  · next e hentry =>
    obtain ⟨hcurrent, he⟩ := Option.filter_eq_some_iff.1 hentry
    have hhandle : w.handle? = some handle := by
      rw [handle?, hcurrent, Option.map_some, of_decide_eq_true he]
    rw [if_pos hhandle]
    rcases hcomplete : (Writer.completeEntry e).run w with ⟨outcome, w₁⟩
    have hleft := Action.ensuring_ok hcomplete
      (Action.run_modify (fun w : Writer => { w with current := none }) w₁)
    simp only [Action.run] at hleft
    rw [hleft]
    rfl

theorem isSteady_handle? (handle : Option Nat) : IsSteady fun w => w.handle? = handle where
  seek _ := Action.preserves_within _ fun _ _ h => h
  tell := Action.preserves_within _ fun _ _ h => h
  write _ := Action.preserves_within _ fun _ _ h => h

/-- An entry is open when it has just been opened, or when it was open and has not been left. -/
theorem perform_handle? (w : Writer) (op : Operation) (handle : Nat) :
    (w.perform op).2.handle? = some handle ↔
      Step.Opens { operation := op, answer := (w.perform op).1 } handle ∨
        w.handle? = some handle ∧ op ≠ .closeEntry handle := by
  cases op with
  | openEntry name declared =>
    have hends := openEntry_handle? w name declared
    rcases hrun : (Writer.openEntry name declared).run w with ⟨e | opened, w'⟩
    · have hsame := hends.of_error hrun
      simp [perform, hrun, perform.plain, Step.Opens, hsame]
    · obtain ⟨hnone, hsome⟩ := hends.of_ok hrun
      simp [perform, hrun, perform.plain, Step.Opens, hnone, hsome]
  | write other data =>
    rw [perform, plain_snd, write_handle?]
    simp [Step.Opens]
  | closeEntry other =>
    rw [perform, plain_snd, closeEntry_handle?]
    by_cases hother : w.handle? = some other
    · simp [Step.Opens, hother, eq_comm]
    · rw [if_neg hother]
      simp only [Step.Opens, reduceCtorEq, false_and, exists_false, false_or, ne_eq,
        Operation.closeEntry.injEq]
      exact ⟨fun h => ⟨h, fun hsame => hother (hsame ▸ h)⟩, And.left⟩
  | finalize =>
    have hkept : w.finalize.2.handle? = w.handle? :=
      (isSteady_handle? _).finalize (fun _ h => h) (fun _ h => h) rfl
    rw [perform_finalize, hkept]
    simp [Step.Opens]
  | discard =>
    have hkept : (Writer.discard.run w).2.handle? = w.handle? :=
      (isSteady_handle? _).discard (fun _ h => h) (fun _ h => h) rfl
    rw [perform, plain_snd, hkept]
    simp [Step.Opens]

/-- The operations and their answers tell which entry is open. -/
theorem performAll_handle? (w : Writer) (ops : List Operation) (handle : Nat) :
    (w.performAll ops).2.handle? = some handle ↔
      IsOpenIn handle (w.performAll ops).1 ∨
        w.handle? = some handle ∧ ∀ op ∈ ops, op ≠ .closeEntry handle := by
  induction ops generalizing w with
  | nil => simp [performAll, IsOpenIn]
  | cons op rest ih =>
    have hlater := forall_operation_performAll (w.perform op).2 rest (· ≠ .closeEntry handle)
    rw [performAll_cons, ih, isOpenIn_cons, hlater, perform_handle?]
    simp only [List.forall_mem_cons]
    grind

end Writer

end PhotoArchive.Zip
