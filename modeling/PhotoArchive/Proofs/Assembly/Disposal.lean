import PhotoArchive.Proofs.Assembly.Contents
import PhotoArchive.Proofs.Zip.Disposal

/-!
# The file behind an assembly that fails

An assembly that fails gives its archive up, or fails to complete it, and the file of the archive is
closed. There are two gaps. An archive that has been completed is not given up any more, so its file
stays open when the session cannot be closed; and the file of an archive whose numbers do not fit the
format stays open as well.

## Main statements

- `assemble_isOpen_iff` — when the file is left open behind a failure
- `not_forall_isClosed` — one failure in closing the session leaves it open

## Design notes

The file may refuse any write, and it may hold anything at the beginning or be closed.
-/

namespace PhotoArchive

open Zip (Method Writer)
open Zip.Writer (HasOpenFile IsFresh)

variable {file : File} {method : Method} {limit : Int}

namespace Zip

/-- Only a call that ends the work on an archive uses its writer up. -/
theorem isFresh_of_leads {calls : List WriterCall} {w w' : Writer}
    (h : Leads (gateway file method limit).Answers calls w w') (hfresh : w.IsFresh)
    (hcalls : ∀ call ∈ calls, ¬ call.IsEnd) : w'.IsFresh := by
  induction h with
  | nil => exact hfresh
  | @cons call calls w m w' hcall _ ih =>
    refine ih ?_ fun other hother => hcalls other (List.mem_cons_of_mem _ hother)
    cases call with
    | openEntry name size => exact (Writer.isKept_isFresh.openEntry name.value size).of_run hcall hfresh
    | write handle data => exact (Writer.isKept_isFresh.writeEntry handle data).of_run hcall hfresh
    | closeEntry handle => exact (Writer.isKept_isFresh.closeEntry handle).of_run hcall hfresh
    | finalize => exact absurd trivial (hcalls _ List.mem_cons_self)
    | discard => exact absurd trivial (hcalls _ List.mem_cons_self)

end Zip

namespace Assembly

/-- The file is open behind an archive that was completed, and behind one with a number that does not
fit. -/
def Ending.LeavesOpen : Ending → Prop
  | .finalized (.ok _) => True
  | .finalized (.error refusal) => refusal.failure = .archive .fieldOverflow
  | .discarded _ _ => False

theorem Ending.leavesOpen_iff {ending : Ending} {w w' : Writer} (hfresh : w.IsFresh)
    (h : (Zip.gateway file method limit).Answers ending.call w w') :
    w'.HasOpenFile ↔ ending.LeavesOpen := by
  rcases ending with (refusal | archive) | ⟨e, answer⟩
  · exact Zip.Writer.isClosed_complete_of_error hfresh h
  · exact ⟨fun _ => trivial, fun _ => Zip.Writer.complete_of_ok h⟩
  · have hclosed := Zip.Writer.isClosed_discard h
    simp [HasOpenFile, hclosed, Ending.LeavesOpen]

/-- How a session ends is the only thing that the file depends on. -/
theorem Session.Marks.hasOpenFile {σ : Type} {source : BlobSource σ} {s : Session}
    {w w' : Workshop σ Writer}
    (h : s.Marks source (Zip.gateway file method limit) (.new file method limit) w w') :
    ∃ writer, w'.writer = some writer ∧ (writer.HasOpenFile ↔ s.ending.LeavesOpen) := by
  obtain ⟨writer, hwriter, hcalls⟩ := h.writer
  obtain ⟨m, hentries, hlast⟩ := hcalls.of_append
  have hfresh := Zip.isFresh_of_leads hentries rfl fun _ => not_isEnd_of_mem
  exact ⟨writer, hwriter, Ending.leavesOpen_iff hfresh hlast.of_single⟩

theorem Session.ending_of_mem {s : Session} {answer : Except Refusal ArchiveFile}
    (h : .finalize answer ∈ s.writerCalls) : s.ending = .finalized answer := by
  rcases List.mem_append.1 h with hentry | hlast
  · exact absurd trivial (not_isEnd_of_mem hentry)
  · have hcall : WriterCall.finalize answer = s.ending.call := List.mem_singleton.1 hlast
    cases hending : s.ending with
    | finalized answer' =>
      rw [hending] at hcall
      cases hcall
      rfl
    | discarded e answer' =>
      rw [hending] at hcall
      cases hcall

/-- Behind an assembly that fails, the file is open if the archive was completed and it is the session
that could not be closed, or if a number did not fit when the archive was to be completed. Otherwise
it is closed. -/
theorem assemble_isOpen_iff {σ : Type} (source : BlobSource σ) (file : File) (method : Method)
    (limit : Int) (references : List PhotoReference) (w : Workshop σ Writer) :
    ∃ (outcome : Except Failure ExportResult)
      (w' : Workshop (Recorded σ StorageCall) (Recorded Writer WriterCall)),
      (assemble source.recorded (Zip.gateway file method limit).recorded references).run w.recording
        = (outcome, w') ∧
      (assemble source (Zip.gateway file method limit) references).run w = (outcome, w'.forget) ∧
      ∀ e writer, outcome = .error e → w'.writer = some writer →
        (writer.state.file.isClosed = false ↔
          (∃ archive session, .finalize (.ok archive) ∈ writer.calls ∧
            .closeSession session (.error e) ∈ w'.storage.calls) ∨
          ∃ refusal, .finalize (.error refusal) ∈ writer.calls ∧
            refusal.failure = .archive .fieldOverflow) := by
  obtain ⟨outcome, w', hrun, hplain, hcase⟩ :=
    assemble_recorded_of_create source (Zip.create_gateway file method limit) references w
  refine ⟨outcome, w', hrun, hplain, ?_⟩
  intro e writer houtcome hwriter
  rcases hcase with ⟨_, _, -, -, hnone, -⟩ | ⟨s, _, -, -, -, -, hkept, hmarks, hresult⟩
  · rw [hnone] at hwriter
    cases hwriter
  obtain ⟨writer', hwriter', hcalls⟩ := hkept.writer
  obtain rfl : writer' = writer := Option.some.inj (hwriter'.symm.trans hwriter)
  obtain ⟨state, hstate, hopen⟩ := hmarks.hasOpenFile
  obtain rfl : writer'.state = state := by
    simpa [Workshop.forget, hwriter] using hstate
  rw [hcalls, hkept.storage]
  show writer'.state.HasOpenFile ↔ _
  rw [hopen]
  constructor
  · intro hleft
    have hlast : s.ending.call ∈ s.writerCalls := by simp [Session.writerCalls]
    rcases hending : s.ending with (refusal | archive) | ⟨e', answer⟩
    · rw [hending] at hleft hlast
      exact .inr ⟨refusal, hlast, hleft⟩
    · -- The archive was completed, so it is in closing the session that the assembly failed.
      rw [hending] at hlast
      refine .inl ⟨archive, s.id, hlast, ?_⟩
      have hclosing : s.closing = .error e := by
        rw [houtcome, Session.result, Session.outcome, hending] at hresult
        cases hclosing : s.closing with
        | ok u =>
          rw [hclosing] at hresult
          cases hresult
        | error e' =>
          rw [hclosing] at hresult
          cases hresult
          rfl
      simp [Session.storageCalls, hclosing]
    · rw [hending] at hleft
      exact hleft.elim
  · rintro (⟨archive, _, hmem, -⟩ | ⟨refusal, hmem, hfailure⟩)
    · rw [Session.ending_of_mem hmem]
      trivial
    · rw [Session.ending_of_mem hmem]
      exact hfailure

/-- The sample in a storage whose session cannot be closed. -/
def brokenWorkshop : Workshop Scripted.Storage Writer :=
  { sampleWorkshop with
    storage :=
      { script := { sampleWorkshop.storage.script with sessionCloseFault := some (.runtime "stop") } } }

/-- A failure in closing the session leaves the file of a completed archive open. -/
theorem not_forall_isClosed :
    ¬ ∀ (references : List PhotoReference) (w w' : Workshop Scripted.Storage Writer) (e : Failure)
      (writer : Writer),
      (assemble Scripted.source (Zip.gateway {} .stored Zip.standardLimit) references).run w
        = (.error e, w') →
      w'.writer = some writer → writer.file.isClosed = true := by
  intro h
  have hopen : ((assemble Scripted.source (Zip.gateway {} .stored Zip.standardLimit)
      sampleReferences).run brokenWorkshop).2.writer.map (fun writer => writer.file.isClosed)
        = some false := by
    decide +kernel
  have hfailed : ((assemble Scripted.source (Zip.gateway {} .stored Zip.standardLimit)
      sampleReferences).run brokenWorkshop).1.isOk = false := by
    decide +kernel
  rcases hrun : (assemble Scripted.source (Zip.gateway {} .stored Zip.standardLimit)
    sampleReferences).run brokenWorkshop with ⟨e | result, w'⟩
  · rw [hrun] at hopen
    obtain ⟨writer, hwriter, hstate⟩ := Option.map_eq_some_iff.1 hopen
    have hclosed := h sampleReferences brokenWorkshop w' e writer hrun hwriter
    rw [hclosed] at hstate
    cases hstate
  · rw [hrun] at hfailed
    cases hfailed

end Assembly

end PhotoArchive
