import PhotoArchive.Proofs.Endings
import PhotoArchive.Proofs.Zip.Writing

/-!
# Writing an archive to a file that refuses some writes

Whatever an open file refuses, a writer is between two entries or within one. Between two entries all
that counts lies before the place where the directory would begin; what lies behind it is left over
from failed entries and will be written over. No operation writes before that place.

## Main definitions

- `Method.pushed`, `Method.rest` — what an entry is given before it is closed, and in closing it
- `Writer.Paused`, `Writer.Filling` — the two states
- `IsClosingFailure` — why an entry cannot be closed

## Main statements

- `Writer.Paused.openEntry`, `Writer.Filling.write`, `Writer.Filling.closeEntry` — an entry
- `Writer.Paused.complete` — a finished archive is found in front of what is left over

## Design notes

A refused piece of data is counted, so the numbers of its entry are right only if no piece was
refused. A refused second header leaves the data of its entry in the file, in a gap between plots.
-/

namespace PhotoArchive.Zip

open PhotoArchive.Action (Ends)
open File (WrittenBehind GoesOn Stands)

/-! ## What a method puts out -/

namespace Method

theorem number_lt (m : Method) : m.number < 2 ^ 16 := by
  cases m <;> simp [number]

def push : Method → List Bytes → Bytes → Bytes
  | stored, _, data => data
  | deflated compressor, before, data => compressor.push before data

/-- What is put out for some pieces, newest first, before the end. -/
def pushed (m : Method) : List Bytes → Bytes
  | [] => []
  | data :: before => m.pushed before ++ m.push before data

/-- What is left for the end. -/
def rest : Method → List Bytes → Bytes
  | stored, _ => []
  | deflated compressor, pieces => compressor.finish pieces

theorem pushed_stored (pieces : List Bytes) : stored.pushed pieces = pieces.reverse.flatten := by
  induction pieces with
  | nil => rfl
  | cons data before ih => simp [pushed, push, ih]

theorem pushed_outputOf (c : Deflate.Compressor) (before pieces : List Bytes) :
    (deflated c).pushed before ++ Deflate.outputOf c.push c.finish before pieces
      = (deflated c).pushed (pieces.reverse ++ before) ++ c.finish (pieces.reverse ++ before) := by
  induction pieces generalizing before with
  | nil => rfl
  | cons piece more ih =>
    have hmore := ih (piece :: before)
    simpa [pushed, push, Deflate.outputOf] using hmore

/-- All that is put out stands for the data. -/
theorem unpacked?_pushed (m : Method) (pieces : List Bytes) :
    unpacked? m.number (m.pushed pieces ++ m.rest pieces) = some pieces.reverse.flatten := by
  cases m with
  | stored =>
    show some (stored.pushed pieces ++ []) = _
    rw [pushed_stored, List.append_nil]
  | deflated c =>
    have hall := pushed_outputOf c [] pieces.reverse
    rw [List.reverse_reverse, List.append_nil] at hall
    have hread := c.inflate?_output pieces.reverse
    show Deflate.inflate? ((deflated c).pushed pieces ++ c.finish pieces) = _
    rw [← hall]
    exact hread

end Method

/-- An entry to which some pieces were written, newest first. -/
def filled (m : Method) (handle : Nat) (name : String) (offset version : Nat) (room : Bool)
    (pieces : List Bytes) : OpenEntry :=
  { handle, name, offset, version, room, size := pieces.reverse.flatten.length
    crc := Bytes.crc32 pieces.reverse.flatten, compressedSize := (m.pushed pieces).length, pieces }

theorem count_filled (m : Method) (handle : Nat) (name : String) (offset version : Nat)
    (room : Bool) (pieces : List Bytes) (data : Bytes) :
    (filled m handle name offset version room pieces).count data (m.push pieces data)
      = filled m handle name offset version room (data :: pieces) := by
  simp [filled, OpenEntry.count, Method.pushed, Bytes.crc32, Crc32.continueFrom_append]

/-- Why an entry cannot be closed in an open file. -/
inductive IsClosingFailure : Failure → Prop
  | noSpace : IsClosingFailure (.file { fault := .noSpace })
  | size : IsClosingFailure (.archive .sizeLimit)
  | compressedSize : IsClosingFailure (.archive .compressedSizeLimit)
  | overflow : IsClosingFailure (.archive .fieldOverflow)

namespace Writer

variable {limit : Int} {method : Method} {w : Writer} {plots : List (Plot limit)}
  {front stale : Bytes}

/-! ## The two states -/

/-- What holds between two entries and within an entry. -/
structure IsSown (method : Method) (w : Writer) (plots : List (Plot limit)) (front : Bytes) :
    Prop where
  method_eq : w.method = method
  limit_eq : w.limit = limit
  entries : w.entries = plots.map Plot.entry
  methods : ∀ p ∈ plots, p.entry.method = method.number
  sown : Sown front plots
  directoryStart : w.directoryStart = front.length
  isClosed : w.isClosed = false

/-- Between two entries there are plots in front, and something left over behind them. -/
structure Paused (method : Method) (w : Writer) (plots : List (Plot limit)) (front stale : Bytes) :
    Prop extends IsSown method w plots front where
  isOpen : w.file.isClosed = false
  content : w.file.content = front ++ stale
  current : w.current = none

/-- Within an entry there are its first header and some data in between; all its data, if none were
refused. -/
structure Filling (method : Method) (w : Writer) (plots : List (Plot limit)) (front stale : Bytes)
    (handle : Nat) (name : String) (pieces : List Bytes) (isWhole : Bool) : Prop
    extends IsSown method w plots front where
  there : ∃ (room : Bool) (version : Nat) (header raw : Bytes),
    header.length = Entry.localLength name room ∧
    w.file.Stands (front ++ (header ++ raw)) stale ∧
    w.current = some (filled method handle name front.length version room pieces) ∧
    (isWhole = true → raw = method.pushed pieces)

theorem new_paused {file : File} (hopen : file.isClosed = false) (hempty : file.content = []) :
    Paused method (new file method limit) ([] : List (Plot limit)) [] [] where
  method_eq := rfl
  limit_eq := rfl
  entries := rfl
  methods := by simp
  sown := .nil
  directoryStart := rfl
  isClosed := rfl
  isOpen := hopen
  content := hempty
  current := rfl

theorem IsSown.of_file (h : IsSown method w plots front) (file : File) :
    IsSown method { w with file } plots front :=
  { h with }

theorem Paused.of_file (h : Paused method w plots front stale) {file : File} {stale' : Bytes}
    (hopen : file.isClosed = false) (hcontent : file.content = front ++ stale') :
    Paused method { w with file } plots front stale' :=
  { h with isOpen := hopen, content := hcontent }

/-! ## Steps on the file -/

section Steps

variable {α β : Type} {before after : Bytes} {f : α → Action Writer β} {ok : β → Writer → Prop}
  {err : Failure → Writer → Prop}

theorem ends_fitting_bind {o : Option α}
    (hsome : ∀ x, o = some x → (f x).Ends w ok err)
    (hnone : o = none → err (.archive .fieldOverflow) w) : (fitting o >>= f).Ends w ok err := by
  cases o with
  | none => exact hnone rfl
  | some x => exact hsome x rfl

theorem ends_seek_bind (hopen : w.file.isClosed = false) {position : Nat}
    {f : Unit → Action Writer β} :
    (onFile (File.seek position) >>= f).Ends w ok err ↔
      (f ()).Ends { w with file := w.file.movedTo position } ok err :=
  Action.ends_bind_of_run (run_onFile (File.run_seek_movedTo hopen position))

theorem ends_tell_bind (h : w.file.Stands before after) {f : Nat → Action Writer β} :
    (onFile File.tell >>= f).Ends w ok err ↔ (f before.length).Ends w ok err := by
  have htell := run_onFile (w := w) (File.run_tell h.isOpen)
  rw [h.position] at htell
  exact Action.ends_bind_of_run htell

/-- A write at the end of the first half. -/
theorem ends_write (h : w.file.Stands before after) (data : Bytes) :
    (onFile (File.write data)).Ends w
      (fun _ w' => ∃ file, w' = { w with file } ∧
        file.Stands (before ++ data) (after.drop data.length) ∧
        GoesOn before.length w.file file after (after.drop data.length))
      fun e w' => e = .file { fault := .noSpace } ∧ ∃ file, w' = { w with file } ∧
        file.Stands before after ∧ WrittenBehind before.length w.file file := by
  rcases h.run_write data with hrun | hrun
  · apply Action.ends_of_run_ok (run_onFile hrun)
    exact ⟨_, rfl, h.written data, .written data .refl (Nat.le_of_eq h.position.symm)⟩
  · apply Action.ends_of_run_error (run_onFile hrun)
    exact ⟨rfl, _, rfl, h.refused, .refused .refl⟩

end Steps

/-! ## Opening an entry -/

/-- An entry is begun where the directory would begin, or nothing has changed that counts. -/
theorem Paused.beginEntry (h : Paused method w plots front stale) (name : String) (size : Int)
    (room : Bool) :
    (Writer.beginEntry name size room).Ends w
      (fun handle w' => ∃ stale', Filling method w' plots front stale' handle name [] true ∧
        GoesOn front.length w.file w'.file stale stale')
      fun _ w' => Paused method w' plots front stale ∧
        WrittenBehind front.length w.file w'.file := by
  have hstands := File.stands_movedTo h.isOpen h.content
  have hmoved : GoesOn front.length w.file (w.file.movedTo front.length) stale stale :=
    .moved _ .refl
  have hpaused := h.of_file hstands.isOpen hstands.content
  unfold Writer.beginEntry
  rw [Action.ends_ask_bind, h.directoryStart, ends_seek_bind h.isOpen, ends_tell_bind hstands,
    Action.ends_ask_bind, Action.ends_ask_bind]
  cases headerFailure? name size room w.limit with
  | some failure => exact ⟨hpaused, hmoved.behind⟩
  | none =>
    apply ends_fitting_bind
    · intro header hheader
      apply (ends_write hstands header).bind
      · rintro _ _ ⟨file, rfl, hfile, hwritten⟩
        rw [Action.ends_ask_bind, Action.ends_modify_bind, Action.ends_pure]
        refine ⟨stale.drop header.length, ?_, hmoved.trans hwritten⟩
        have hlength := Entry.length_localHeader hheader
        exact
          { h.toIsSown.of_file file with
            there := ⟨room, _, header, [], hlength, by simpa using hfile, rfl, fun _ => rfl⟩ }
      · rintro _ _ ⟨-, file, rfl, hfile, hwritten⟩
        exact ⟨h.of_file hfile.isOpen hfile.content, hmoved.behind.trans hwritten⟩
    · intro _
      exact ⟨hpaused, hmoved.behind⟩

theorem Paused.openEntry (h : Paused method w plots front stale) (name : String)
    (declared : Option Int) :
    (Writer.openEntry name declared).Ends w
      (fun handle w' => ∃ stale', Filling method w' plots front stale' handle name [] true ∧
        GoesOn front.length w.file w'.file stale stale')
      fun _ w' => Paused method w' plots front stale ∧
        WrittenBehind front.length w.file w'.file := by
  unfold Writer.openEntry
  rw [Action.ends_ask_bind, h.isClosed, if_neg Bool.false_ne_true, Action.ends_ask_bind, h.current,
    Option.isSome_none, if_neg Bool.false_ne_true]
  cases declared with
  | none => exact h.beginEntry name 0 true
  | some size =>
    rw [Action.ends_ask_bind]
    cases needsRoom? w.limit size with
    | none => exact ⟨h, .refl⟩
    | some room => exact h.beginEntry name size room

/-! ## Filling an entry -/

section Filling

variable {handle : Nat} {name : String} {pieces : List Bytes} {isWhole : Bool}

theorem entryAt?_of_current {e : OpenEntry} (h : w.current = some e) :
    w.entryAt? e.handle = some e := by
  simp [entryAt?, h]

theorem compressed_eq (w : Writer) (e : OpenEntry) (data : Bytes) :
    w.compressed e data = w.method.push e.pieces data := by
  unfold compressed
  cases w.method <;> rfl

theorem run_write_of_entryAt? {e : OpenEntry} (hmethod : w.method = method)
    (h : w.entryAt? handle = some e) (data : Bytes) :
    (Writer.write handle data).run w =
      (onFile (File.write (method.push e.pieces data))).run
        { w with current := some (e.count data (method.push e.pieces data)) } := by
  subst hmethod
  simp only [Action.run, Writer.write, h, compressed_eq]

/-- A piece is written behind the data so far, or it is counted only. -/
theorem Filling.write (h : Filling method w plots front stale handle name pieces isWhole)
    (data : Bytes) :
    (Writer.write handle data).Ends w
      (fun _ w' => ∃ stale',
        Filling method w' plots front stale' handle name (data :: pieces) isWhole ∧
        GoesOn front.length w.file w'.file stale stale')
      fun _ w' => Filling method w' plots front stale handle name (data :: pieces) false ∧
        WrittenBehind front.length w.file w'.file := by
  obtain ⟨room, version, header, raw, hlength, hstands, hcurrent, hraw⟩ := h.there
  have hentry : w.entryAt? handle = _ := entryAt?_of_current hcurrent
  have hle : front.length ≤ (front ++ (header ++ raw)).length := by simp
  have hrun := run_write_of_entryAt? h.method_eq hentry data
  apply (Action.ends_congr hrun).2
  show (onFile (File.write (method.push pieces data))).Ends
    { w with
      current := some ((filled method handle name front.length version room pieces).count data
        (method.push pieces data)) } _ _
  rw [count_filled]
  refine Ends.mono (@ends_write _ (front ++ (header ++ raw)) stale ?_ _) ?_ ?_
  · exact hstands
  · rintro _ _ ⟨file, rfl, hfile, hwritten⟩
    refine ⟨stale.drop (method.push pieces data).length, ?_, hwritten.mono hle⟩
    rw [List.append_assoc, List.append_assoc] at hfile
    refine { h.toIsSown with
      there := ⟨room, version, header, _, hlength, hfile, rfl, ?_⟩ }
    intro hwhole
    rw [hraw hwhole, Method.pushed]
  · rintro _ _ ⟨-, file, rfl, hfile, hwritten⟩
    -- The piece is counted, but it is not in the file.
    refine ⟨?_, hwritten.mono hle⟩
    exact
      { h.toIsSown with
        there := ⟨room, version, header, raw, hlength, hfile, rfl, fun hfalse => by cases hfalse⟩ }

/-! ## Closing an entry -/

/-- The sizes of an entry are checked against the room in its header. -/
theorem ends_sizeChecks (w : Writer) (e : OpenEntry) (limit : Int) (length : Nat) :
    (if !e.room && decide (limit < e.size) then Action.fail (.archive .sizeLimit)
      else if !e.room && decide (limit < length) then Action.fail (.archive .compressedSizeLimit)
      else return length : Action Writer Nat).Ends w
      (fun n w' => w' = w ∧ n = length ∧ (e.room = true ∨ ¬ limit < e.size ∧ ¬ limit < length))
      fun e' w' => w' = w ∧ (e' = .archive .sizeLimit ∨ e' = .archive .compressedSizeLimit) := by
  cases hroom : e.room with
  | true => exact ⟨rfl, rfl, .inl rfl⟩
  | false =>
    by_cases hsize : limit < e.size
    · simp [hsize]
    · by_cases hlength : limit < length
      · simp [hsize, hlength]
      · simp [hsize, hlength]

theorem ends_completeData {before after : Bytes} (hmethod : w.method = method)
    (hstands : w.file.Stands before after) (e : OpenEntry) :
    (completeData e).Ends w
      (fun length w' => ∃ file after', w' = { w with file } ∧
        file.Stands (before ++ method.rest e.pieces) after' ∧
        GoesOn before.length w.file file after after' ∧
        length = e.compressedSize + (method.rest e.pieces).length ∧
        (e.room = true ∨ ¬ w.limit < e.size ∧ ¬ w.limit < length))
      fun e' w' => ∃ file after', w' = { w with file } ∧ file.isClosed = false ∧
        file.content = before ++ after' ∧ WrittenBehind before.length w.file file ∧
        IsClosingFailure e' ∧ (method = .stored → e' ≠ .file { fault := .noSpace }) := by
  have hfailed {e' : Failure} (h : e' = .archive .sizeLimit ∨ e' = .archive .compressedSizeLimit) :
      IsClosingFailure e' ∧ e' ≠ .file { fault := .noSpace } := by
    rcases h with rfl | rfl
    · exact ⟨.size, by simp⟩
    · exact ⟨.compressedSize, by simp⟩
  unfold completeData
  rw [Action.ends_ask_bind, Action.ends_ask_bind]
  cases method with
  | stored =>
    have hrest : w.remainder e = none := by rw [remainder, hmethod]
    rw [hrest]
    apply (ends_sizeChecks w e w.limit _).mono
    · rintro length _ ⟨rfl, rfl, hroom⟩
      exact ⟨_, after, rfl, by simpa [Method.rest] using hstands, .refl, rfl, hroom⟩
    · rintro e' _ ⟨rfl, he'⟩
      exact ⟨_, after, rfl, hstands.isOpen, hstands.content, .refl, (hfailed he').1,
        fun _ => (hfailed he').2⟩
  | deflated c =>
    have hrest : w.remainder e = some (c.finish e.pieces) := by rw [remainder, hmethod]
    rw [hrest]
    apply (ends_write hstands (c.finish e.pieces)).bind
    · rintro _ _ ⟨file, rfl, hfile, hwritten⟩
      apply (ends_sizeChecks _ e w.limit _).mono
      · rintro length _ ⟨rfl, rfl, hroom⟩
        exact ⟨file, _, rfl, hfile, hwritten, rfl, hroom⟩
      · rintro e' _ ⟨rfl, he'⟩
        exact ⟨file, _, rfl, hfile.isOpen, by rw [hfile.content, List.append_assoc],
          hwritten.behind, (hfailed he').1, fun _ => (hfailed he').2⟩
    · rintro _ _ ⟨rfl, file, rfl, hfile, hwritten⟩
      exact ⟨file, after, rfl, hfile.isOpen, hfile.content, hwritten, .noSpace,
        fun hstored => by cases hstored⟩

/-- Write the header of an entry once more, and record the entry. -/
def recordEntry (e : OpenEntry) (length : Nat) : Action Writer Unit := do
  let method ← Action.ask (·.method.number)
  let limit ← Action.ask (·.limit)
  let finish ← onFile File.tell
  Action.modify fun w => { w with directoryStart := finish }
  onFile (File.seek e.offset)
  let entry := e.entry method length limit
  onFile (File.write (← fitting (entry.localHeader? limit e.room)))
  onFile (File.seek finish)
  Action.modify fun w => { w with entries := w.entries ++ [entry] }

theorem completeEntry_eq (e : OpenEntry) :
    Writer.completeEntry e = completeData e >>= recordEntry e := rfl

/-- The second header takes the place of the first one, or the file is as it was. -/
theorem ends_recordEntry {header raw : Bytes} {e : OpenEntry}
    (hstands : w.file.Stands (front ++ (header ++ raw)) stale) (hoffset : e.offset = front.length)
    (hlength : header.length = Entry.localLength e.name e.room) (length : Nat) :
    (recordEntry e length).Ends w
      (fun _ w' => ∃ (file : File) (header' : Bytes),
        w' = { w with
          file, directoryStart := (front ++ (header' ++ raw)).length
          entries := w.entries ++ [e.entry w.method.number length w.limit] } ∧
        (e.entry w.method.number length w.limit).localHeader? w.limit e.room = some header' ∧
        file.Stands (front ++ (header' ++ raw)) stale ∧ WrittenBehind front.length w.file file)
      fun e' w' => ∃ file : File,
        w' = { w with file, directoryStart := (front ++ (header ++ raw)).length } ∧
        file.isClosed = false ∧ file.content = w.file.content ∧
        WrittenBehind front.length w.file file ∧ IsClosingFailure e' := by
  have hback : (w.file.movedTo front.length).Stands front (header ++ (raw ++ stale)) := by
    apply File.stands_movedTo hstands.isOpen
    rw [hstands.content, List.append_assoc, List.append_assoc]
  have hmoved : WrittenBehind front.length w.file (w.file.movedTo front.length) := .moved _ .refl
  unfold recordEntry
  rw [Action.ends_ask_bind, Action.ends_ask_bind, ends_tell_bind hstands, Action.ends_modify_bind,
    ends_seek_bind, hoffset]
  case hopen => exact hstands.isOpen
  apply ends_fitting_bind
  · intro header' hheader
    have hsame : header'.length = header.length := by
      rw [Entry.length_localHeader hheader, hlength]
      rfl
    refine (@ends_write _ front (header ++ (raw ++ stale)) hback header').bind ?_ ?_
    · rintro _ _ ⟨file, rfl, hfile, hwritten⟩
      rw [hsame, List.drop_left] at hfile
      rw [ends_seek_bind hfile.isOpen, Action.ends_modify]
      have hfinish : (front ++ (header ++ raw)).length = (front ++ (header' ++ raw)).length := by
        simp [hsame]
      rw [hfinish]
      refine ⟨_, header', rfl, hheader, ?_, (hmoved.trans hwritten.behind).moved _⟩
      apply File.stands_movedTo hfile.isOpen
      rw [hfile.content]
      simp
    · rintro _ _ ⟨rfl, file, rfl, hfile, hwritten⟩
      refine ⟨file, rfl, hfile.isOpen, ?_, hmoved.trans hwritten, .noSpace⟩
      rw [hfile.content, hstands.content, List.append_assoc, List.append_assoc]
  · intro _
    exact ⟨_, rfl, hback.isOpen, File.content_moveTo _ _, hmoved, .overflow⟩

/-- The plot of an entry whose last header has been written. -/
def closedPlot {version offset : Nat} {room : Bool} {header raw : Bytes} (isWhole : Bool)
    (hroom : room = true ∨ ¬ limit < (pieces.reverse.flatten.length : Nat) ∧
      ¬ limit < ((method.pushed pieces).length + (method.rest pieces).length : Nat))
    (hheader : ((filled method handle name offset version room pieces).entry method.number
      ((method.pushed pieces).length + (method.rest pieces).length) limit).localHeader? limit room
        = some header)
    (hwhole : isWhole = true → raw = method.pushed pieces ++ method.rest pieces) : Plot limit where
  entry := (filled method handle name offset version room pieces).entry method.number
    ((method.pushed pieces).length + (method.rest pieces).length) limit
  room := room
  header := header
  raw := raw
  data := pieces.reverse.flatten
  isWhole := isWhole
  header_eq := hheader
  room_suffices := by
    rcases hroom with hroom | ⟨hsize, hlength⟩
    · exact .inl hroom
    · right
      simp [Entry.isLarge, OpenEntry.entry, Entry.withVersion, filled] at hsize hlength ⊢
      omega
  size_eq := rfl
  crc_eq := rfl
  whole := by
    intro h
    rw [hwhole h]
    exact ⟨List.length_append.symm, method.unpacked?_pushed pieces⟩

theorem IsSown.paused_of_plot (h : IsSown method w plots front) {p : Plot limit} {file : File}
    (hoffset : p.entry.offset = front.length) (hmethod : p.entry.method = method.number)
    (hfile : file.Stands (front ++ p.bytes) stale) :
    Paused method
      { w with
        file, current := none, directoryStart := (front ++ p.bytes).length
        entries := w.entries ++ [p.entry] }
      (plots ++ [p]) (front ++ p.bytes) stale :=
  { h with
    entries := by simp [h.entries]
    methods := by
      intro q hq
      rcases List.mem_append.1 hq with hq | hq
      · exact h.methods q hq
      · rwa [List.mem_singleton.1 hq]
    sown := h.sown.plot hoffset
    directoryStart := rfl
    isOpen := hfile.isOpen
    content := hfile.content
    current := rfl }

/-- What is left of the entry is written, and its header once more. -/
theorem Filling.completeEntry
    (h : Filling method w plots front stale handle name pieces isWhole) {e : OpenEntry}
    (hcurrent : w.current = some e) :
    (Writer.completeEntry e).Ends w
      (fun _ w' => ∃ (p : Plot limit) (front' stale' : Bytes),
        Paused method { w' with current := none } (plots ++ [p]) front' stale' ∧
        p.tally = ⟨name, pieces.reverse.flatten, isWhole⟩ ∧ front.length ≤ front'.length ∧
        GoesOn front.length w.file w'.file stale stale')
      fun e' w' => ∃ front' stale' : Bytes,
        Paused method { w' with current := none } plots front' stale' ∧
        front.length ≤ front'.length ∧ WrittenBehind front.length w.file w'.file ∧
        IsClosingFailure e' ∧
        (method = .stored → e' = .file { fault := .noSpace } → stale = [] → stale' = []) := by
  obtain ⟨room, version, header, raw, hlength, hstands, hentry, hraw⟩ := h.there
  obtain rfl : filled method handle name front.length version room pieces = e :=
    Option.some.inj (hentry.symm.trans hcurrent)
  obtain rfl := h.limit_eq
  obtain rfl := h.method_eq
  have hle : front.length ≤ (front ++ (header ++ raw)).length := by simp
  rw [completeEntry_eq]
  apply (ends_completeData rfl hstands _).bind
  · rintro length _ ⟨file, stale', rfl, hfile, hwritten, rfl, hroom⟩
    replace hwritten := hwritten.mono hle
    have hrest : (filled w.method handle name front.length version room pieces).pieces = pieces := rfl
    rw [hrest, List.append_assoc, List.append_assoc] at hfile
    have hrecord := @ends_recordEntry { w with file } front stale' header
      (raw ++ w.method.rest pieces) (filled w.method handle name front.length version room pieces)
      hfile rfl hlength ((w.method.pushed pieces).length + (w.method.rest pieces).length)
    apply hrecord.mono
    · rintro _ _ ⟨file', header', rfl, hheader', hfile', hwritten'⟩
      let p : Plot w.limit := closedPlot isWhole hroom hheader'
        fun hwhole => congrArg (· ++ w.method.rest pieces) (hraw hwhole)
      have hpaused := @IsSown.paused_of_plot _ _ _ _ _ stale' h.toIsSown p file' rfl rfl hfile'
      exact ⟨p, front ++ p.bytes, stale', hpaused, rfl, by simp,
        hwritten.behind.trans hwritten', hwritten.tidy⟩
    · rintro e' _ ⟨file', rfl, hopen, hcontent, hwritten', hfailure⟩
      -- The data of the entry are in a gap now.
      refine ⟨front ++ (header ++ (raw ++ w.method.rest pieces)), stale', ?_, by simp,
        hwritten.behind.trans hwritten', hfailure, fun _ _ => hwritten.tidy⟩
      exact
        { h.toIsSown with
          sown := h.sown.gap _
          directoryStart := rfl
          isOpen := hopen
          content := hcontent.trans hfile.content
          current := rfl }
  · rintro e' _ ⟨file, stale', rfl, hopen, hcontent, hwritten, hfailure, hstored⟩
    rw [List.append_assoc] at hcontent
    have hsown := h.toIsSown.of_file file
    refine ⟨front, _, { hsown with isOpen := hopen, content := hcontent, current := rfl },
      Nat.le_refl _, hwritten.mono hle, hfailure, ?_⟩
    intro hmethod hspace
    exact absurd hspace (hstored hmethod)

/-- Closing an entry adds a plot, or leaves a gap at most. -/
theorem Filling.closeEntry (h : Filling method w plots front stale handle name pieces isWhole) :
    (Writer.closeEntry handle).Ends w
      (fun _ w' => ∃ (p : Plot limit) (front' stale' : Bytes),
        Paused method w' (plots ++ [p]) front' stale' ∧
        p.tally = ⟨name, pieces.reverse.flatten, isWhole⟩ ∧ front.length ≤ front'.length ∧
        GoesOn front.length w.file w'.file stale stale')
      fun e' w' => ∃ front' stale' : Bytes,
        Paused method w' plots front' stale' ∧
        front.length ≤ front'.length ∧ WrittenBehind front.length w.file w'.file ∧
        IsClosingFailure e' ∧
        (method = .stored → e' = .file { fault := .noSpace } → stale = [] → stale' = []) := by
  obtain ⟨room, version, header, raw, hlength, hstands, hcurrent, hraw⟩ := h.there
  have hentry : w.entryAt? handle = _ := entryAt?_of_current hcurrent
  have hrun : (Writer.closeEntry handle).run w =
      ((Writer.completeEntry (filled method handle name front.length version room pieces)).ensuring
        (.modify fun w => { w with current := none })).run w := by
    simp only [Action.run, Writer.closeEntry, hentry]
  apply (Action.ends_congr hrun).2
  apply Ends.ensuring_modify
  exact h.completeEntry hcurrent

end Filling

/-! ## The directory -/

theorem ends_writePieces {before after : Bytes} (pieces : List Bytes)
    (h : w.file.Stands before after) :
    (writePieces pieces).Ends w
      (fun _ w' => ∃ file after', w' = { w with file } ∧
        file.Stands (before ++ pieces.flatten) after' ∧
        GoesOn before.length w.file file after after')
      fun _ _ => True := by
  induction pieces generalizing w before after with
  | nil => exact ⟨w.file, after, rfl, by simpa using h, .refl⟩
  | cons piece rest ih =>
    apply (ends_write h piece).bind
    · rintro _ _ ⟨file, rfl, hfile, hwritten⟩
      apply (ih (w := { w with file }) hfile).mono
      · rintro _ _ ⟨file', after', rfl, hfile', hwritten'⟩
        refine ⟨file', after', rfl, by simpa using hfile', ?_⟩
        exact hwritten.trans (hwritten'.mono (by simp))
      · intro _ _ _
        trivial
    · intro _ _ _
      trivial

theorem ends_writeRecords {before after : Bytes} (limit : Int) (entries : List Entry)
    (h : w.file.Stands before after) :
    (writeRecords limit entries).Ends w
      (fun _ w' => ∃ (directory : Bytes) (file : File) (after' : Bytes),
        directoryBytes? limit entries = some directory ∧ w' = { w with file } ∧
        file.Stands (before ++ directory) after' ∧
        GoesOn before.length w.file file after after')
      fun _ _ => True := by
  induction entries generalizing w before after with
  | nil => exact ⟨[], w.file, after, rfl, rfl, by simpa using h, .refl⟩
  | cons entry rest ih =>
    apply ends_fitting_bind
    · intro pieces hpieces
      apply (ends_writePieces pieces h).bind
      · rintro _ _ ⟨file, after', rfl, hfile, hwritten⟩
        apply (ih (w := { w with file }) hfile).mono
        · rintro _ _ ⟨directory, file', after'', hdirectory, rfl, hfile', hwritten'⟩
          refine ⟨pieces.flatten ++ directory, file', after'', ?_, rfl, by simpa using hfile', ?_⟩
          · exact directoryBytes?_cons_eq_some_iff.2 ⟨pieces, directory, hpieces, hdirectory, rfl⟩
          · exact hwritten.trans (hwritten'.mono (by simp))
        · intro _ _ _
          trivial
      · intro _ _ _
        trivial
    · intro _
      trivial

/-- A file in which an archive is finished: there are plots, the directory and the end records, and
what is left over lies behind them. -/
structure IsFinished (file : File) (plots : List (Plot limit)) (front directory : Bytes)
    (pieces : List Bytes) (stale : Bytes) : Prop where
  directory_eq : directoryBytes? limit (plots.map Plot.entry) = some directory
  pieces_eq : endRecords? limit
    { count := plots.length, size := directory.length, offset := front.length } = some pieces
  isOpen : file.isClosed = false
  content : file.content = front ++ directory ++ pieces.flatten ++ stale

/-- A directory that has been written lies where the plots end. -/
theorem Paused.writeDirectory (h : Paused method w plots front stale) :
    Writer.writeDirectory.Ends w
      (fun _ w' => ∃ directory pieces stale',
        IsFinished w'.file plots front directory pieces stale' ∧
        w'.file.cursor.position = (front ++ directory ++ pieces.flatten).length ∧
        GoesOn front.length w.file w'.file stale stale')
      fun _ _ => True := by
  have hstands := File.stands_movedTo h.isOpen h.content
  have hmoved : GoesOn front.length w.file (w.file.movedTo front.length) stale stale :=
    .moved _ .refl
  have hcount : w.entries.length = plots.length := by rw [h.entries, List.length_map]
  obtain rfl := h.limit_eq
  unfold Writer.writeDirectory
  rw [Action.ends_ask_bind, Action.ends_ask_bind, Action.ends_ask_bind, h.directoryStart,
    ends_seek_bind h.isOpen]
  refine (@ends_writeRecords { w with file := w.file.movedTo front.length } _ _ w.limit w.entries
    hstands).bind ?_ fun _ _ h => h
  rintro _ _ ⟨directory, file, after, hdirectory, rfl, hfile, hwritten⟩
  rw [ends_tell_bind hfile, hcount, List.length_append, Nat.add_sub_cancel_left]
  apply ends_fitting_bind
  · intro pieces hpieces
    refine (@ends_writePieces { w with file } _ _ pieces hfile).mono ?_ fun _ _ h => h
    rintro _ _ ⟨file', after', rfl, hfile', hwritten'⟩
    refine ⟨directory, pieces, after',
      ⟨h.entries ▸ hdirectory, hpieces, hfile'.isOpen, hfile'.content⟩, hfile'.position, ?_⟩
    exact (hmoved.trans hwritten).trans (hwritten'.mono (by simp))
  · intro _
    trivial

theorem Paused.closeArchive (h : Paused method w plots front stale) :
    Writer.closeArchive.Ends w
      (fun _ w' => ∃ directory pieces stale',
        IsFinished w'.file plots front directory pieces stale' ∧
        w'.file.cursor.position = (front ++ directory ++ pieces.flatten).length ∧
        GoesOn front.length w.file w'.file stale stale')
      fun _ _ => True := by
  unfold Writer.closeArchive
  rw [Action.ends_ask_bind, h.isClosed, if_neg Bool.false_ne_true, Action.ends_ask_bind, h.current,
    Option.isSome_none, if_neg Bool.false_ne_true]
  apply Ends.ensuring_modify
  exact h.writeDirectory

/-- A finished archive lies in front of what is left over. -/
theorem Paused.complete (h : Paused method w plots front stale) {archive : ArchiveFile}
    {w' : Writer} (hrun : w.complete = (.ok archive, w')) :
    ∃ directory pieces stale', IsFinished archive.file plots front directory pieces stale' ∧
      archive.size = (front ++ directory ++ pieces.flatten).length ∧
      GoesOn front.length w.file archive.file stale stale' := by
  have hends : completeArchive.Ends { w with isFinalized := true }
      (fun size w' => ∃ directory pieces stale',
        IsFinished w'.file plots front directory pieces stale' ∧
        size = (front ++ directory ++ pieces.flatten).length ∧
        GoesOn front.length w.file w'.file stale stale')
      fun _ _ => True := by
    have hbegun : Paused method { w with isFinalized := true } plots front stale := { h with }
    refine hbegun.closeArchive.bind ?_ fun _ _ h => h
    rintro _ w' ⟨directory, pieces, stale', hfinished, hposition, hwritten⟩
    rw [ends_tell_bind ⟨hfinished.isOpen, hfinished.content, hposition⟩,
      ends_seek_bind hfinished.isOpen, Action.ends_pure]
    exact ⟨directory, pieces, stale',
      { hfinished with content := (File.content_moveTo _ _).trans hfinished.content },
      rfl, hwritten.moved 0⟩
  unfold Writer.complete finalize at hrun
  by_cases hused : w.isFinalized
  · simp [hused] at hrun
  rcases hcomplete : completeArchive.run { w with isFinalized := true } with ⟨e | size, w₁⟩
  · rw [if_neg hused, hcomplete] at hrun
    by_cases hfailure : IsWriteFailure e
    · simp only [if_pos hfailure] at hrun
      cases hrun
    · simp only [if_neg hfailure] at hrun
      cases hrun
  · rw [if_neg hused, hcomplete] at hrun
    cases hrun
    exact hends.of_ok hcomplete

/-- A finished archive is read as it was written, whatever lies behind it. -/
theorem IsFinished.read {file : File} {directory : Bytes} {pieces : List Bytes}
    (hlimit : limit < fullField) (hsown : Sown front plots)
    (h : IsFinished file plots front directory pieces stale) :
    directoryPlace? (front ++ directory ++ pieces.flatten)
        = some { count := plots.length, size := directory.length, offset := front.length } ∧
      directory? (front ++ directory ++ pieces.flatten)
        = some (plots.map fun p => p.entry.centralFields limit) ∧
      ∀ p ∈ plots, p.isWhole = true →
        entryOf? (front ++ directory ++ pieces.flatten) (p.entry.centralFields limit)
          = some p.storedEntry := by
  have hend := h.pieces_eq
  rw [← List.length_map Plot.entry] at hend
  obtain ⟨hplace, hrecords⟩ := directory?_append hlimit h.directory_eq hend
  refine ⟨?_, ?_, ?_⟩
  · rw [hplace, List.length_map]
  · rw [hrecords, List.map_map]
    rfl
  · intro p hp hwhole
    rw [List.append_assoc]
    exact hsown.entryOf?_eq hlimit hp hwhole _

end Writer

end PhotoArchive.Zip
