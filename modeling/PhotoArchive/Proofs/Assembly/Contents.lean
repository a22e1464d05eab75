import PhotoArchive.Proofs.Assembly.Release
import PhotoArchive.Proofs.Zip.Writing
import PhotoArchive.Storage.Scripted

/-!
# What is in an assembled archive

With stored data and a file that takes all writes, the calls of an assembly to its archive keep the
writer in one of its two states, and each visit in which a blob was opened adds one block, unless the
name for its entry cannot be encoded.

## Main definitions

- `Copying.written` — the data that were written to an entry
- `EntryWork.Turn` — what becomes of the work on an entry
- `entered` — the photos that get an entry

## Main statements

- `EntryWork.adds_block` — what the work on an entry does to the archive
- `assemble_stored` — what a reader finds in a finished archive

## Design notes

A call and its answer fix where the writer goes, so the lemmas about its operations can be used on
calls that an assembly has made, whatever it was that made it make them.
-/

namespace PhotoArchive.Assembly

open Zip (Block Writer IsFormatFailure)
open Zip.Writer (Between Within CanHold roomFor)

variable {limit : Int} {file : File}

/-- The data that were written to an entry. -/
def Copying.written : Copying → Bytes
  | unbuffered _ => []
  | through _ pieces _ _ _ => pieces.flatten

/-- No piece was refused. -/
def Copying.IsTaken : Copying → Prop
  | through _ _ (.refused _ _) _ _ => False
  | _ => True

section Entry

variable {w w' : Writer} {blocks : List (Block limit)} {handle : Nat} {name : String} {room : Bool}
  {data : Bytes}

theorem within_of_write {piece : Bytes} {answer : Except Failure Unit}
    (h : Within w blocks handle name room data)
    (hcall : (Zip.gateway file .stored limit).Answers (.write handle piece answer) w w') :
    answer = .ok () ∧ Within w' blocks handle name room (data ++ piece) := by
  obtain ⟨w₁, hrun, hwithin⟩ := h.write piece
  cases hrun.symm.trans hcall
  exact ⟨rfl, hwithin⟩

theorem within_of_writes {pieces : List Bytes} (h : Within w blocks handle name room data)
    (hcalls : Leads (Zip.gateway file .stored limit).Answers
      (pieces.map fun piece => .write handle piece (.ok ())) w w') :
    Within w' blocks handle name room (data ++ pieces.flatten) := by
  induction pieces generalizing w data with
  | nil =>
    cases hcalls
    simpa using h
  | cons piece rest ih =>
    obtain _ | ⟨hcall, hrest⟩ := hcalls
    have hnext := ih (within_of_write h hcall).2 hrest
    simpa using hnext

/-- Copying writes all its pieces. -/
theorem within_of_copying {copying : Copying} (h : Within w blocks handle name room [])
    (hcalls : Leads (Zip.gateway file .stored limit).Answers (copying.writes handle) w w') :
    copying.IsTaken ∧ Within w' blocks handle name room copying.written := by
  cases copying with
  | unbuffered fault =>
    cases hcalls
    exact ⟨trivial, h⟩
  | through loan pieces ending hpieces hending =>
    obtain ⟨w₁, hwrites, hlast⟩ := hcalls.of_append
    have hwithin := within_of_writes h hwrites
    rw [List.nil_append] at hwithin
    cases ending with
    | refused piece e =>
      have hanswer := (within_of_write hwithin hlast.of_single).1
      cases hanswer
    | _ =>
      cases hlast
      exact ⟨trivial, hwithin⟩

end Entry

/-- What becomes of the work on an entry, behind which a writer with some blocks is in the state `w'`. -/
inductive EntryWork.Turn (blocks : List (Block limit)) (name : Path) (size : Option Int)
    (w' : Writer) : EntryWork → Prop
  /-- The format cannot hold the entry, so it is not opened. -/
  | unfit {e : Failure} (failure : IsFormatFailure e) (takes : w'.file.TakesAll)
    (unheld : ¬ CanHold name.value size) : Turn blocks name size w' (.refused e)
  /-- The name cannot be encoded, so the entry is not opened; others can be. -/
  | unnamable {fault : Text.EncodingFault} (encoding : Text.encodingFault? name.value = some fault)
    (between : Between w' blocks) : Turn blocks name size w' (.refused (.unencodable fault))
  /-- The entry has become too large for its header, so it is not closed. -/
  | outgrown {handle : Nat} {copying : Copying} {e : Failure} (taken : copying.IsTaken)
    (encoding : Text.encodingFault? name.value = none) (failure : IsFormatFailure e)
    (takes : w'.file.TakesAll)
    (large : (roomFor limit size = false ∧ limit < copying.written.length) ∨
      2 ^ 64 ≤ copying.written.length) :
    Turn blocks name size w' (.opened handle copying (.error e))
  /-- The entry is one more block. -/
  | added {handle : Nat} {copying : Copying} (b : Block limit) (taken : copying.IsTaken)
    (encoding : Text.encodingFault? name.value = none) (named : b.entry.name = name.value)
    (room : b.room = roomFor limit size) (data : b.data = copying.written)
    (between : Between w' (blocks ++ [b])) :
    Turn blocks name size w' (.opened handle copying (.ok ()))

/-- The calls that work on an entry lead to one of these ends. -/
theorem EntryWork.adds_block (hlimit : limit < Zip.fullField) {work : EntryWork} {name : Path}
    {size : Option Int} {w w' : Writer} {blocks : List (Block limit)} (h : Between w blocks)
    (hcalls : Leads (Zip.gateway file .stored limit).Answers (work.calls name size) w w') :
    work.Turn blocks name size w' := by
  cases work with
  | refused e =>
    have hcall : (Writer.openEntry name.value size).run w = (.error e, w') := hcalls.of_single
    rcases h.openEntry hlimit name.value size with
      ⟨e', w₁, hrun, hfailed⟩ | ⟨fault, w₁, hrun, hfault⟩ | ⟨_, _, hrun, -⟩
    · cases hrun.symm.trans hcall
      exact .unfit hfailed.1 hfailed.2.1 hfailed.2.2
    · cases hrun.symm.trans hcall
      exact .unnamable hfault.1 hfault.2
    · cases hrun.symm.trans hcall
  | opened handle copying closing =>
    obtain ⟨w₂, hfilled, hlast⟩ := hcalls.of_append
    obtain _ | ⟨hopen, hwrites⟩ := hfilled
    rename_i w₁
    have hopen : (Writer.openEntry name.value size).run w = (.ok handle, w₁) := hopen
    have hclose : (Writer.closeEntry handle).run w₂ = (closing, w') := hlast.of_single
    -- The entry was opened, so only the last of the three outcomes can have happened.
    rcases h.openEntry hlimit name.value size with
      ⟨_, _, hrun, -⟩ | ⟨_, _, hrun, -⟩ | ⟨_, _, hrun, hwithin⟩
    · cases hrun.symm.trans hopen
    · cases hrun.symm.trans hopen
    have hencoded := Text.encodingFault?_eq_none_iff.2 hwithin.name_fits.1
    cases hrun.symm.trans hopen
    obtain ⟨htaken, hwithin⟩ := within_of_copying hwithin hwrites
    rcases hwithin.closeEntry hlimit with
      ⟨e, w₃, hrun, hfailed⟩ | ⟨b, w₃, hrun, hname, hroom, hdata, hbetween⟩
    · cases hrun.symm.trans hclose
      exact .outgrown htaken hencoded hfailed.1 hfailed.2.1 hfailed.2.2
    · cases hrun.symm.trans hclose
      exact .added b htaken hencoded hname hroom hdata hbetween

/-! ## Photos and blocks -/

theorem not_isCopyFailure_of_isFormatFailure {e : Failure} (h : IsFormatFailure e) :
    ¬ IsCopyFailure e := by
  unfold IsFormatFailure at h
  split at h
  · simp [IsCopyFailure, Failure.IsReadError, Failure.IsSystemError, Failure.IsValueError]
  · simp [IsCopyFailure, Failure.IsReadError, Failure.IsSystemError, Failure.IsValueError]
  · simp [IsCopyFailure, Failure.IsReadError, Failure.IsSystemError, Failure.IsValueError]
  · simp [IsCopyFailure, Failure.IsReadError, Failure.IsSystemError, Failure.IsValueError]
  · exact h.elim

theorem isCopyFailure_unencodable (fault : Text.EncodingFault) :
    IsCopyFailure (.unencodable fault) := by
  simp [IsCopyFailure, Failure.IsValueError]

theorem not_isCopyFailure_noRoom (fault : RoomFault) : ¬ IsCopyFailure (.length (.noRoom fault)) := by
  simp [IsCopyFailure, Failure.IsReadError, Failure.IsSystemError, Failure.IsValueError]

theorem received_reads (reader : ReaderId) (room : Nat) (pieces : List Bytes)
    (answer : Except Failure Bytes) :
    received (pieces.map (fun piece => .read reader room (.ok piece)) ++ [.read reader room answer])
      = pieces.flatten ++ received [.read reader room answer] := by
  simp [received, List.flatMap_append, List.flatMap_map, List.flatMap_id']

theorem reachesEnd_reads {reader : ReaderId} {room : Nat} {pieces : List Bytes}
    (h : ∀ piece ∈ pieces, piece ≠ []) (answer : Except Failure Bytes) :
    reachesEnd (pieces.map (fun piece => .read reader room (.ok piece))
      ++ [.read reader room answer]) = reachesEnd [.read reader room answer] := by
  induction pieces with
  | nil => rfl
  | cons piece rest ih =>
    have hrest := ih fun p hp => h p (List.mem_cons_of_mem _ hp)
    have hne := h piece List.mem_cons_self
    cases piece with
    | nil => exact absurd rfl hne
    | cons byte bytes => simpa [reachesEnd] using hrest

/-- When copying only fails for the photo's fault, all that was read was written, and the end of the
blob was reached if nothing failed. -/
theorem Copying.reads_of_settled {copying : Copying} (htaken : copying.IsTaken)
    (hsettled : ∀ e, copying.outcome = .error e → IsCopyFailure e) (reader : ReaderId) :
    received (copying.reads reader) = copying.written ∧
      reachesEnd (copying.reads reader) = copying.outcome.isOk := by
  cases copying with
  | unbuffered fault => exact absurd (hsettled _ rfl) (not_isCopyFailure_noRoom fault)
  | through loan pieces ending hpieces hending =>
    have hreceived := received_reads reader loan.length pieces ending.answer
    have hreaches := @reachesEnd_reads reader loan.length _
      (fun piece hp => (hpieces piece hp).1) ending.answer
    cases ending with
    | finished => exact ⟨hreceived.trans (List.append_nil _), hreaches⟩
    | failed e => exact ⟨hreceived.trans (List.append_nil _), hreaches⟩
    | exceeded piece =>
      have hnever : ¬ IsCopyFailure .bufferExceeded := by
        simp [IsCopyFailure, Failure.IsReadError, Failure.IsSystemError, Failure.IsValueError]
      exact absurd (hsettled _ rfl) hnever
    | refused piece e => exact htaken.elim

/-- There can be an entry under the name of a photo. -/
def Photo.isNamable (p : Photo) : Bool := (Text.encodingFault? p.name.value).isNone

/-- The photos that get an entry. -/
def entered (photos : List Photo) : List Photo := photos.filter Photo.isNamable

/-- Among the photos that get an entry there are as many complete ones as among all of them, if there
are none among the others. -/
theorem countP_entered {photos : List Photo}
    (h : ∀ p ∈ photos, p.isComplete = true → p.isNamable = true) :
    (entered photos).countP Photo.isComplete = photos.countP Photo.isComplete := by
  rw [entered, List.countP_filter]
  refine List.countP_congr fun p hp => ?_
  have hnamable := h p hp
  cases hcomplete : p.isComplete
  · simp
  · simpa using hnamable hcomplete

/-- What a block and a photo have in common: name, room for large sizes, and data. -/
def Photo.content (limit : Int) (p : Photo) : String × Bool × Bytes :=
  (p.name.value, roomFor limit p.declared, p.data)

theorem content_eq_iff {b : Block limit} {p : Photo} :
    b.content = p.content limit ↔
      b.entry.name = p.name.value ∧ b.room = roomFor limit p.declared ∧ b.data = p.data := by
  simp [Block.content, Photo.content]

/-- A photo whose entry was closed is counted if it is complete. -/
theorem Visit.countP_notes_of_added {reference : PhotoReference} {blob : OpenedBlob} {name : Path}
    {handle : Nat} {copying : Copying} {closing : Except Failure Unit}
    (hv : (opened reference blob name (.opened handle copying (.ok ())) closing).outcome = .ok ())
    (hsettled : ∀ e, copying.outcome = .error e → IsCopyFailure e)
    (hreaches : reachesEnd (copying.reads blob.reader) = copying.outcome.isOk) :
    (opened reference blob name (.opened handle copying (.ok ())) closing).notes.countP Note.isWritten
      = (opened reference blob name (.opened handle copying (.ok ())) closing).photo?.toList.countP
        Photo.isComplete := by
  -- The reader was closed, or the work would not go on.
  obtain rfl : closing = .ok () := by
    cases closing with
    | ok u => rfl
    | error e => cases hv
  rw [countP_notes hv]
  simp only [skip?, EntryWork.skip?, photo?, Option.toList_some, List.countP_singleton,
    EntryWork.reads, hreaches]
  cases houtcome : copying.outcome with
  | ok copied => simp [EntryWork.outcome, houtcome, Except.isOk, Except.toBool]
  | error e =>
    simp [EntryWork.outcome, houtcome, hsettled e houtcome, Except.isOk, Except.toBool]

/-- A visit that lets the work go on adds a block for its photo, if that gets an entry, and counts it
if it is complete. -/
theorem Visit.adds_block (hlimit : limit < Zip.fullField) {v : Visit} {session : SessionId}
    {w w' : Writer} {blocks : List (Block limit)} (h : Between w blocks)
    (hv : v.outcome = .ok ()) (hcalls : Leads (Zip.gateway file .stored limit).Answers
      (v.footprint session).writerCalls w w') :
    ∃ bs : List (Block limit), Between w' (blocks ++ bs) ∧
      bs.map Block.content = (entered v.photo?.toList).map (Photo.content limit) ∧
      v.notes.countP Note.isWritten = (entered v.photo?.toList).countP Photo.isComplete ∧
      ∀ p ∈ v.photo?, p.isComplete = true → p.isNamable = true := by
  cases v with
  | missed reference e =>
    cases hcalls
    exact ⟨[], by simpa using h, rfl, by
      simp [Visit.notes, Visit.name?, Visit.photo?, Note.isWritten, entered], nofun⟩
  | opened reference blob name work closing =>
    have hsettled : ∀ e, work.outcome = .error e → IsCopyFailure e := by
      intro e he
      by_cases hcopy : IsCopyFailure e
      · exact hcopy
      · cases closing <;> simp [Visit.outcome, EntryWork.settled, he, hcopy, Except.map] at hv
    cases EntryWork.adds_block hlimit h hcalls with
    | unfit failure =>
      exact absurd (hsettled _ rfl) (not_isCopyFailure_of_isFormatFailure failure)
    | @unnamable fault encoding between =>
      -- Nothing was read, and the photo is no entry.
      refine ⟨[], by simpa using between, ?_, ?_, ?_⟩
      · simp [Visit.photo?, entered, Photo.isNamable, encoding]
      · rw [countP_notes hv]
        have hcopy : IsCopyFailure (.unencodable fault) := hsettled _ rfl
        simp [Visit.skip?, EntryWork.skip?, EntryWork.outcome, hcopy, Visit.photo?, entered,
          Photo.isNamable, encoding]
      · rintro p hp hcomplete
        cases hp
        cases hcomplete
    | outgrown _ _ failure =>
      exact absurd (hsettled _ rfl) (not_isCopyFailure_of_isFormatFailure failure)
    | @added handle copying b taken encoding named room data between =>
      obtain ⟨hreceived, hreaches⟩ := Copying.reads_of_settled taken hsettled blob.reader
      have hnamable (p : Photo) (hp : p ∈ (Visit.opened reference blob name
          (.opened handle copying (.ok ())) closing).photo?.toList) : p.isNamable = true := by
        cases List.mem_singleton.1 hp
        simp [Photo.isNamable, encoding]
      rw [entered, List.filter_eq_self.2 hnamable]
      refine ⟨[b], between, ?_, ?_, fun p hp _ => hnamable p (Option.mem_toList.2 hp)⟩
      · simp [Block.content, Photo.content, Visit.photo?, EntryWork.reads, named, room, data,
          hreceived]
      · exact Visit.countP_notes_of_added hv hsettled hreaches

theorem entered_append (photos photos' : List Photo) :
    entered (photos ++ photos') = entered photos ++ entered photos' :=
  List.filter_append photos photos'

theorem photos_cons (v : Visit) (visits : List Visit) :
    (v :: visits).filterMap Visit.photo?
      = v.photo?.toList ++ visits.filterMap Visit.photo? := by
  cases hphoto : v.photo? <;> simp [hphoto]

/-- Visits that all let the work go on add a block for each of their photos that get an entry. -/
theorem IsTour.adds_blocks (hlimit : limit < Zip.fullField) {references : List PhotoReference}
    {taken : List Path} {fault? : Option RoomFault} {visits : List Visit}
    (htour : IsTour references taken fault? visits) (hok : outcome visits = .ok ())
    {session : SessionId} {w w' : Writer} {blocks : List (Block limit)} (h : Between w blocks)
    (hcalls : Leads (Zip.gateway file .stored limit).Answers
      (footprint session visits).writerCalls w w') :
    ∃ bs : List (Block limit), Between w' (blocks ++ bs) ∧
      bs.map Block.content = (entered (visits.filterMap Visit.photo?)).map (Photo.content limit) ∧
      (footprint session visits).notes.countP Note.isWritten
        = (entered (visits.filterMap Visit.photo?)).countP Photo.isComplete ∧
      ∀ p ∈ visits.filterMap Visit.photo?, p.isComplete = true → p.isNamable = true := by
  -- Along the visits: the blocks of the first one lie in front of those of the rest.
  induction htour generalizing w blocks with
  | nil =>
    cases hcalls
    exact ⟨[], by simpa using h, rfl, rfl, nofun⟩
  | last _ _ _ hv => simp [outcome, hv] at hok
  | @cons _ _ _ _ v visits _ _ hbuffered hv _ ih =>
    rw [outcome, hv] at hok
    obtain ⟨w₁, hfirst, hrest⟩ := hcalls.of_append
    obtain ⟨bs, hbetween, hcontent, hcount, hnamed⟩ := Visit.adds_block hlimit h hv hfirst
    obtain ⟨bs', hbetween', hcontent', hcount', hnamed'⟩ := ih hok hbetween hrest
    have hcount : (v.footprint session).notes.countP Note.isWritten = _ := hcount
    rw [photos_cons, entered_append]
    refine ⟨bs ++ bs', by simpa using hbetween', ?_, ?_, ?_⟩
    · rw [List.map_append, List.map_append, hcontent, hcontent']
    · rw [footprint, Footprint.notes_append, List.countP_append, List.countP_append, hcount, hcount']
    · intro p hp
      rw [List.mem_append, Option.mem_toList] at hp
      exact hp.elim (hnamed p) (hnamed' p)

/-! ## Finished archives -/

/-- A blob that arrives as a whole, one that is missing and one that cannot be read to its end. -/
def sampleReferences : List PhotoReference :=
  [⟨⟨"p/a.jpg", by decide⟩, ⟨"photos/p/a.jpg", by decide⟩, "p", by decide, by decide⟩,
    ⟨⟨"p/b.jpg", by decide⟩, ⟨"photos/p/b.jpg", by decide⟩, "p", by decide, by decide⟩,
    ⟨⟨"p/a.jpg", by decide⟩, ⟨"photos/p/c.jpg", by decide⟩, "p", by decide, by decide⟩]

/-- A workshop with the blobs of the sample. -/
def sampleWorkshop : Workshop Scripted.Storage Writer where
  storage :=
    { script :=
        { blobs :=
            [("photos/p/a.jpg", { delivery := { rest := [1, 2, 3, 4, 5, 6] }, size := some 6 }),
              ("photos/p/c.jpg",
                { delivery :=
                    { rest := [7, 8, 9]
                      fault := some (2, .blobRead "photos/p/c.jpg" "lost") }
                  size := none })] } }
  pool := { bufferSize := 4, bufferSize_pos := by decide, maxRetained := 1 }
  ledger := { company := "c" }

end PhotoArchive.Assembly
