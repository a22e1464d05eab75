import PhotoArchive.Proofs.Assembly.Contents

/-!
# When a bad blob ends an assembly

A storage is mild if it fails on single blobs only, in the ways that are entered into the ledger.
With such a storage, stored data and a file that takes all writes, an assembly gives a result exactly
when the format can hold all photos. A blob that is longer than it was said to be can end the work.

## Main definitions

- `StorageCall.IsMild` — an answer that is at most the fault of one photo
- `Photo.Fits` — the format can hold a photo
- `directoryEnd` — where the directory of an archive ends

## Main statements

- `assemble_mild` — which assemblies of mild storages give a result

## Design notes

Three things do not fit: a name of 64 KiB or more, more data than the limit behind a header that has
no room for large sizes, and an archive whose directory ends behind 16 EiB. Whether a header has room
depends on the declared size alone. A name that cannot be encoded is at most the fault of one photo: it
gets no entry, so there is nothing of it that does not fit.
-/

namespace PhotoArchive

/-- An answer that is at most the fault of one photo. -/
def StorageCall.IsMild : StorageCall → Prop
  | .newSession answer => answer.isOk
  | .openBlob _ _ (.ok blob) => ∀ size, blob.size = some size → 0 ≤ size ∧ size < 2 ^ 64
  | .openBlob _ _ (.error e) => e.IsBlobError
  | .read _ room (.ok data) => data.length ≤ room
  | .read _ _ (.error e) => Assembly.IsCopyFailure e
  | .closeReader _ answer => answer = .ok ()
  | .closeSession _ answer => answer = .ok ()

instance : DecidablePred StorageCall.IsMild
  | .newSession answer => inferInstanceAs (Decidable (answer.isOk = true))
  | .openBlob _ _ (.ok blob) =>
    inferInstanceAs (Decidable (∀ size ∈ blob.size, 0 ≤ size ∧ size < 2 ^ 64))
  | .openBlob _ _ (.error e) => inferInstanceAs (Decidable e.IsBlobError)
  | .read _ room (.ok data) => inferInstanceAs (Decidable (data.length ≤ room))
  | .read _ _ (.error e) => inferInstanceAs (Decidable (Assembly.IsCopyFailure e))
  | .closeReader _ (.ok ()) => isTrue rfl
  | .closeReader _ (.error _) => isFalse (fun h => nomatch h)
  | .closeSession _ (.ok ()) => isTrue rfl
  | .closeSession _ (.error _) => isFalse (fun h => nomatch h)

namespace Assembly

open Zip (Block Writer IsFormatFailure)
open Zip.Writer (Between CanHold roomFor)

variable {limit : Int} {file : File}

/-! ## What fits the format -/

/-- The format can hold a photo: its name is short enough, and its header has room for large sizes or
its data stay below the limit. -/
def Photo.Fits (limit : Int) (p : Photo) : Prop :=
  (Text.utf8 p.name.value).length < 2 ^ 16 ∧
    (roomFor limit p.declared = true ∨ (p.data.length : Int) ≤ limit)

/-- The length of the block of a photo. -/
def Photo.blockLength (limit : Int) (p : Photo) : Nat :=
  Zip.Entry.localLength p.name.value (roomFor limit p.declared) + p.data.length

/-- The entry of a photo whose block begins at an offset, as far as its length depends on it. -/
def Photo.entry (offset : Nat) (p : Photo) : Zip.Entry where
  name := p.name.value
  method := 0
  size := p.data.length
  compressedSize := p.data.length
  offset := offset

/-- The length of the directory of some photos, the first of which begins at an offset. -/
def directoryLength (limit : Int) : Nat → List Photo → Nat
  | _, [] => 0
  | offset, p :: rest =>
    (p.entry offset).centralLength limit + directoryLength limit (offset + p.blockLength limit) rest

/-- Where the directory of an archive of some photos ends. -/
def directoryEnd (limit : Int) (photos : List Photo) : Nat :=
  (photos.map (Photo.blockLength limit)).sum + directoryLength limit 0 photos

/-- The photo of a block fits. -/
theorem fits_of_block {b : Block limit} {p : Photo} (h : b.content = p.content limit) :
    p.Fits limit := by
  obtain ⟨hname, hroom, hdata⟩ := content_eq_iff.1 h
  have hfits := (Zip.Entry.of_localHeader? b.header_eq).2.2
  rw [hname] at hfits
  refine ⟨hfits, ?_⟩
  rcases b.room_suffices with hlarge | hsmall
  · left
    rw [← hroom, hlarge]
  · right
    have hsizes : (b.entry.size : Int) ≤ limit ∧ (b.entry.compressedSize : Int) ≤ limit := by
      simpa [Zip.Entry.isLarge] using hsmall
    rw [← hdata, ← b.size_eq]
    exact hsizes.1

theorem length_bytes {b : Block limit} {p : Photo} (h : b.content = p.content limit) :
    b.bytes.length = p.blockLength limit := by
  obtain ⟨hname, hroom, hdata⟩ := content_eq_iff.1 h
  rw [Block.bytes, List.length_append, Zip.Entry.length_localHeader b.header_eq, hname, hroom, hdata,
    Photo.blockLength]

theorem length_flatMap_bytes {blocks : List (Block limit)} {photos : List Photo}
    (h : blocks.map Block.content = photos.map (Photo.content limit)) :
    (blocks.flatMap Block.bytes).length = (photos.map (Photo.blockLength limit)).sum := by
  induction blocks generalizing photos with
  | nil =>
    obtain rfl : photos = [] := List.map_eq_nil_iff.1 h.symm
    rfl
  | cons b rest ih =>
    obtain ⟨p, photos, rfl, hp, hrest⟩ := List.map_eq_cons_iff.1 h.symm
    rw [List.flatMap_cons, List.length_append, length_bytes hp.symm, ih hrest.symm]
    simp

theorem centralLength_entry {b : Block limit} {p : Photo} (h : b.content = p.content limit) :
    b.entry.centralLength limit = (p.entry b.entry.offset).centralLength limit := by
  obtain ⟨hname, -, hdata⟩ := content_eq_iff.1 h
  have hlarge : b.entry.largeNumbers limit = (p.entry b.entry.offset).largeNumbers limit := by
    simp only [Zip.Entry.largeNumbers, Zip.Entry.isLarge, Photo.entry, b.size_eq,
      b.compressedSize_eq, hdata]
    rfl
  rw [Zip.Entry.centralLength, Zip.Entry.centralLength, hlarge, hname]
  rfl

theorem sum_centralLength {start : Nat} {blocks : List (Block limit)} {photos : List Photo}
    (hlaid : Zip.AreLaid start blocks)
    (h : blocks.map Block.content = photos.map (Photo.content limit)) :
    ((blocks.map Block.entry).map (Zip.Entry.centralLength limit)).sum
      = directoryLength limit start photos := by
  induction blocks generalizing start photos with
  | nil =>
    obtain rfl : photos = [] := List.map_eq_nil_iff.1 h.symm
    rfl
  | cons b rest ih =>
    obtain ⟨p, photos, rfl, hp, hrest⟩ := List.map_eq_cons_iff.1 h.symm
    have hnext := ih hlaid.2 hrest.symm
    rw [length_bytes hp.symm] at hnext
    rw [List.map_cons, List.map_cons, List.sum_cons, hnext, centralLength_entry hp.symm, hlaid.1,
      directoryLength]

theorem length_data_le {photos : List Photo} {p : Photo} (h : p ∈ photos) :
    p.data.length ≤ directoryEnd limit photos := by
  refine Nat.le_trans ?_ (Nat.le_add_right _ _)
  induction photos with
  | nil => cases h
  | cons first rest ih =>
    rw [List.map_cons, List.sum_cons]
    rcases List.mem_cons.1 h with rfl | h
    · rw [Photo.blockLength]
      omega
    · exact Nat.le_trans (ih h) (Nat.le_add_left _ _)

/-! ## Visits to a mild storage -/

/-- What is read from a mild storage is written, if there is a buffer. -/
theorem Copying.of_mild {copying : Copying} {fault? : Option RoomFault} {reader : ReaderId}
    (htaken : copying.IsTaken) (hbuffered : copying.IsBuffered fault?)
    (hroom : fault? = none)
    (hmild : ∀ call ∈ copying.reads reader, call.IsMild) :
    received (copying.reads reader) = copying.written ∧
      ∀ e, copying.outcome = .error e → IsCopyFailure e := by
  have hsettled : ∀ e, copying.outcome = .error e → IsCopyFailure e := by
    intro e he
    cases copying with
    | unbuffered fault =>
      rw [Copying.IsBuffered, hroom] at hbuffered
      cases hbuffered
    | through loan pieces ending hpieces hending =>
      have hlast := hmild (.read reader loan.length ending.answer)
        (List.mem_append_right _ List.mem_cons_self)
      cases ending with
      | finished => cases he
      | failed e' =>
        cases he
        exact hlast
      | exceeded piece => exact absurd hending (Nat.not_lt.2 hlast)
      | refused piece e' => exact htaken.elim
  exact ⟨(Copying.reads_of_settled htaken hsettled reader).1, hsettled⟩

/-- A photo that gets no entry fits: nothing was read from its blob, and a header without room for large
sizes is only chosen for a limit that is not negative. -/
theorem Photo.fits_of_refused {p : Photo} {fault : Text.EncodingFault}
    (hfault : Text.encodingFault? p.name.value = some fault) (hdata : p.data = [])
    (hdeclared : ∀ size, p.declared = some size → 0 ≤ size ∧ size < 2 ^ 64) : p.Fits limit := by
  have hform : Text.utf8? p.name.value = none := by
    rw [← Option.not_isSome_iff_eq_none, ← Text.encodingFault?_eq_none_iff, hfault]
    simp
  refine ⟨by simp [Text.utf8, hform], ?_⟩
  rw [or_iff_not_imp_left, Bool.not_eq_true, hdata]
  intro hroom
  cases hsize : p.declared with
  | none =>
    rw [hsize] at hroom
    cases hroom
  | some size =>
    have hnonneg := (hdeclared size hsize).1
    obtain ⟨room, hneeds⟩ := Option.isSome_iff_exists.1
      (@Writer.needsRoom?_isSome limit size (hdeclared size hsize))
    rw [hsize, roomFor, hneeds, Option.getD_some] at hroom
    subst hroom
    exact Writer.nonneg_of_needsRoom? hneeds hnonneg

/-- What does not fit the format is no fault of a single photo, so it ends the work. -/
theorem Visit.outcome_of_isFormatFailure {reference : PhotoReference} {blob : OpenedBlob}
    {name : Path} {work : EntryWork} {e : Failure} (hwork : work.outcome = .error e)
    (h : IsFormatFailure e) : (opened reference blob name work (.ok ())).outcome = .error e := by
  simp [outcome, EntryWork.settled, hwork, not_isCopyFailure_of_isFormatFailure h, Except.map]

/-- A visit to a mild storage adds a block, or it ends the work because of what does not fit. -/
theorem Visit.of_mild (hlimit : limit < Zip.fullField) {v : Visit} {session : SessionId}
    {fault? : Option RoomFault} {w w' : Writer} {blocks : List (Block limit)} (h : Between w blocks)
    (hbuffered : v.IsBuffered fault?) (hroom : fault? = none)
    (hmild : ∀ call ∈ (v.footprint session).storageCalls, call.IsMild)
    (hcalls : Leads (Zip.gateway file .stored limit).Answers
      (v.footprint session).writerCalls w w') :
    (v.outcome = .ok () ∧ ∀ p ∈ v.photo?, p.Fits limit) ∨
    ∃ e p, v.outcome = .error e ∧ IsFormatFailure e ∧ w'.file.TakesAll ∧ v.photo? = some p ∧
      (¬ p.Fits limit ∨ p.isNamable = true ∧ 2 ^ 64 ≤ p.data.length) := by
  cases v with
  | missed reference e =>
    have hopen : e.IsBlobError := hmild _ List.mem_cons_self
    exact .inl ⟨by simp [Visit.outcome, hopen], by simp [Visit.photo?]⟩
  | opened reference blob name work closing =>
    have hopen : ∀ size, blob.size = some size → 0 ≤ size ∧ size < 2 ^ 64 :=
      hmild (.openBlob session reference.blobKey (.ok blob)) List.mem_cons_self
    obtain rfl : closing = .ok () :=
      hmild (.closeReader blob.reader closing) (List.mem_append_right _ List.mem_cons_self)
    have hreads : ∀ call ∈ work.reads blob.reader, call.IsMild := fun call hcall =>
      hmild call (List.mem_append_left _ (List.mem_cons_of_mem _ hcall))
    cases EntryWork.adds_block hlimit h hcalls with
    | @unfit e failure takes unheld =>
      right
      refine ⟨e, _, Visit.outcome_of_isFormatFailure rfl failure, failure, takes, rfl, .inl ?_⟩
      exact fun hfits => unheld ⟨hfits.1, hopen⟩
    | unnamable encoding =>
      left
      refine ⟨by simp [Visit.outcome, EntryWork.settled, EntryWork.outcome, isCopyFailure_unencodable,
        Except.map], ?_⟩
      rintro p hp
      cases hp
      exact Photo.fits_of_refused encoding rfl hopen
    | @outgrown handle copying e taken encoding failure takes large =>
      right
      obtain ⟨hreceived, -⟩ := Copying.of_mild taken hbuffered hroom hreads
      rw [← hreceived] at large
      refine ⟨e, _, Visit.outcome_of_isFormatFailure rfl failure, failure, takes, rfl, ?_⟩
      rcases large with ⟨hsmall, hmore⟩ | hmore
      · left
        rintro ⟨-, hroom | hless⟩
        · rw [hsmall] at hroom
          cases hroom
        · exact absurd hless (Int.not_le.2 hmore)
      · exact .inr ⟨by simp [Photo.isNamable, encoding], hmore⟩
    | @added handle copying b taken _ named room data =>
      left
      obtain ⟨hreceived, hsettled⟩ := Copying.of_mild taken hbuffered hroom hreads
      refine ⟨?_, ?_⟩
      · cases houtcome : copying.outcome with
        | ok copied => simp [Visit.outcome, EntryWork.settled, EntryWork.outcome, houtcome, Except.map]
        | error e =>
          simp [Visit.outcome, EntryWork.settled, EntryWork.outcome, houtcome, hsettled e houtcome,
            Except.map]
      · rintro p hp
        cases hp
        exact fits_of_block (content_eq_iff.2 ⟨named, room, data.trans hreceived.symm⟩)

/-- Visits to a mild storage only end because of what does not fit. -/
theorem IsTour.of_mild (hlimit : limit < Zip.fullField) {references : List PhotoReference}
    {taken : List Path} {fault? : Option RoomFault} {visits : List Visit}
    (htour : IsTour references taken fault? visits)
    (hroom : fault? = none) {session : SessionId} {w w' : Writer}
    {blocks : List (Block limit)} (h : Between w blocks)
    (hmild : ∀ call ∈ (footprint session visits).storageCalls, call.IsMild)
    (hcalls : Leads (Zip.gateway file .stored limit).Answers
      (footprint session visits).writerCalls w w') :
    (outcome visits = .ok () ∧ ∀ p ∈ visits.filterMap Visit.photo?, p.Fits limit) ∨
    ∃ e, outcome visits = .error e ∧ IsFormatFailure e ∧ w'.file.TakesAll ∧
      ∃ p ∈ visits.filterMap Visit.photo?,
        ¬ p.Fits limit ∨ p.isNamable = true ∧ 2 ^ 64 ≤ p.data.length := by
  -- Along the visits: after one that lets the work go on the writer is between two entries again.
  induction htour generalizing w blocks with
  | nil => exact .inl ⟨rfl, by simp⟩
  | @last _ _ _ _ v e _ _ hbuffered hv =>
    obtain ⟨w₁, hfirst, hrest⟩ := hcalls.of_append
    cases hrest
    have hmild : ∀ call ∈ (v.footprint session).storageCalls, call.IsMild := fun call hcall =>
      hmild call (List.mem_append_left _ hcall)
    rcases Visit.of_mild hlimit h hbuffered hroom hmild hfirst with
      ⟨hok, -⟩ | ⟨e', p, herror, hfailure, htakes, hphoto, hfit⟩
    · rw [hv] at hok
      cases hok
    · refine .inr ⟨e', by simp [outcome, herror], hfailure, htakes, p, ?_, hfit⟩
      simp [hphoto]
  | @cons _ _ _ _ v visits _ _ hbuffered hv _ ih =>
    obtain ⟨w₁, hfirst, hrest⟩ := hcalls.of_append
    have hmild₁ : ∀ call ∈ (v.footprint session).storageCalls, call.IsMild := fun call hcall =>
      hmild call (List.mem_append_left _ hcall)
    have hmild₂ : ∀ call ∈ (footprint session visits).storageCalls, call.IsMild := fun call hcall =>
      hmild call (List.mem_append_right _ hcall)
    have hmem (p : Photo) : p ∈ (v :: visits).filterMap Visit.photo? ↔
        v.photo? = some p ∨ p ∈ visits.filterMap Visit.photo? := by
      simp [List.mem_filterMap]
    rcases Visit.of_mild hlimit h hbuffered hroom hmild₁ hfirst with ⟨-, hfits⟩ | ⟨e, _, herror, -⟩
    · obtain ⟨bs, hbetween, -⟩ := Visit.adds_block hlimit h hv hfirst
      rw [outcome, hv]
      rcases ih hroom hbetween hmild₂ hrest with
        ⟨hok, hrestFits⟩ | ⟨e, herror, hfailure, htakes, p, hp, hfit⟩
      · refine .inl ⟨hok, fun p hp => ?_⟩
        rcases (hmem p).1 hp with hp | hp
        · exact hfits p hp
        · exact hrestFits p hp
      · exact .inr ⟨e, herror, hfailure, htakes, p, (hmem p).2 (.inr hp), hfit⟩
    · rw [hv] at herror
      cases herror

/-- An archive of some photos is completed exactly when its directory ends early enough. -/
theorem isOk_complete_iff (hlimit : limit < Zip.fullField) {w w' : Writer}
    {blocks : List (Block limit)} (h : Between w blocks) {photos : List Photo}
    (hcontent : blocks.map Block.content = photos.map (Photo.content limit))
    {answer : Except Refusal ArchiveFile} (hrun : w.complete = (answer, w')) :
    ((∃ archive, answer = .ok archive) ↔ directoryEnd limit photos < 2 ^ 64) ∧
      ∀ refusal, answer = .error refusal → IsFormatFailure refusal.failure := by
  have harchive := Zip.isSome_archive hlimit h.laid
  rw [length_flatMap_bytes hcontent, sum_centralLength h.laid hcontent] at harchive
  rcases h.complete with
    ⟨w₁, hfailed, hnone⟩ | ⟨archive, w₁, directory, pieces, hdone, hdirectory, hpieces, -⟩
  · cases hfailed.symm.trans hrun
    refine ⟨⟨?_, ?_⟩, ?_⟩
    · rintro ⟨archive, harchived⟩
      cases harchived
    · intro hend
      obtain ⟨directory, pieces, hdirectory, hpieces⟩ := harchive.2 hend
      rw [hnone directory hdirectory] at hpieces
      cases hpieces
    · rintro refusal hrefusal
      cases hrefusal
      trivial
  · cases hdone.symm.trans hrun
    refine ⟨⟨fun _ => ?_, fun _ => ⟨archive, rfl⟩⟩, ?_⟩
    · exact harchive.1 ⟨directory, pieces, hdirectory, hpieces⟩
    · rintro refusal hrefusal
      cases hrefusal

/-- What ends the work on an archive is that something does not fit. -/
theorem Ending.of_mild (hlimit : limit < Zip.fullField) {references : List PhotoReference}
    {fault? : Option RoomFault} {visits : List Visit} (htour : IsTour references [] fault? visits)
    (hroom : fault? = none) {session : SessionId} {w w' : Writer}
    (h : Between w ([] : List (Block limit)))
    (hmild : ∀ call ∈ (footprint session visits).storageCalls, call.IsMild) {ending : Ending}
    (hfollows : ending.Follows (Assembly.outcome visits))
    (hcalls : Leads (Zip.gateway file .stored limit).Answers
      ((footprint session visits).writerCalls ++ [ending.call]) w w') :
    ((∃ archive, ending.outcome = .ok archive) ↔
      (∀ p ∈ visits.filterMap Visit.photo?, p.Fits limit) ∧
        directoryEnd limit (entered (visits.filterMap Visit.photo?)) < 2 ^ 64) ∧
      ∀ e, ending.outcome = .error e → IsFormatFailure e := by
  obtain ⟨w₁, hentries, hlast⟩ := hcalls.of_append
  rcases htour.of_mild hlimit hroom h hmild hentries with
    ⟨hok, hfits⟩ | ⟨e, herror, hfailure, htakes, p, hp, hfit⟩
  · rw [hok] at hfollows
    cases ending with
    | discarded e answer => cases hfollows
    | finalized answer =>
      have hanswer : w₁.complete = (answer, w') := hlast.of_single
      obtain ⟨bs, hbetween, hcontent, -⟩ := htour.adds_blocks hlimit hok h hentries
      rw [List.nil_append] at hbetween
      obtain ⟨hend, hrefused⟩ := isOk_complete_iff hlimit hbetween hcontent hanswer
      rw [← hend]
      cases answer with
      | ok archive => exact ⟨⟨fun _ => ⟨hfits, archive, rfl⟩, fun _ => ⟨archive, rfl⟩⟩, nofun⟩
      | error refusal =>
        refine ⟨⟨?_, ?_⟩, ?_⟩
        · rintro ⟨archive, harchived⟩
          cases harchived
        · rintro ⟨-, archive, harchived⟩
          cases harchived
        · rintro e he
          cases he
          exact hrefused refusal rfl
  · rw [herror] at hfollows
    cases ending with
    | finalized answer => cases hfollows
    | discarded e' answer =>
      cases hfollows
      have hanswer : Writer.discard.run w₁ = (answer, w') := hlast.of_single
      -- One photo has ended the work, so either it does not fit or it alone is too long.
      refine ⟨⟨?_, ?_⟩, ?_⟩
      · rintro ⟨archive, harchived⟩
        cases answer <;> cases harchived
      · rintro ⟨hfits, hend⟩
        rcases hfit with hnot | ⟨hnamable, hlarge⟩
        · exact absurd (hfits p hp) hnot
        · have hlength := @length_data_le limit _ _ (List.mem_filter.2 ⟨hp, hnamable⟩)
          have hend : directoryEnd limit ((visits.filterMap Visit.photo?).filter Photo.isNamable)
            < 2 ^ 64 := hend
          omega
      · rintro e he
        cases answer with
        | ok note =>
          cases he
          exact hfailure
        | error e' =>
          cases he
          exact Writer.isFormatFailure_of_discard htakes hanswer

/-! ## Assemblies from a mild storage -/

/-- With a mild storage, stored data and a file that takes all writes, an assembly gives a result
exactly when the format can hold all photos. If it does, each reference is counted or there is one
record about it. -/
theorem assemble_mild {σ : Type} {source : BlobSource σ} {references : List PhotoReference}
    {w : Workshop σ Writer} (hlimit : limit < Zip.fullField) (hfile : file.TakesAll)
    (hempty : file.content = []) (hroom : w.pool.roomFault? = none)
    (hmild : ∀ call ∈ ((assemble source.recorded (Zip.gateway file .stored limit).recorded
      references).run w.recording).2.storage.calls, call.IsMild) :
    ∃ (outcome : Except Failure ExportResult)
      (w' : Workshop (Recorded σ StorageCall) (Recorded Writer WriterCall)) (s : Session)
      (photos : List Photo),
      (assemble source.recorded (Zip.gateway file .stored limit).recorded references).run w.recording
        = (outcome, w') ∧
      (assemble source (Zip.gateway file .stored limit) references).run w = (outcome, w'.forget) ∧
      s.IsKept w' ∧ s.visits.map Visit.reference <+: references ∧
      Visited s.id [] (s.visits.map Visit.reference) (footprint s.id s.visits).storageCalls photos ∧
      ((∃ result, outcome = .ok result) ↔
        (∀ p ∈ photos, p.Fits limit) ∧ directoryEnd limit (entered photos) < 2 ^ 64) ∧
      (∀ e, outcome = .error e → IsFormatFailure e) ∧
      (∀ result, outcome = .ok result →
        s.visits.map Visit.reference = references ∧
        result.written = photos.countP Photo.isComplete ∧
        result.skips = w.ledger.records ++ s.visits.filterMap Visit.skip? ∧
        result.written + (s.visits.filterMap Visit.skip?).length = references.length) := by
  obtain ⟨o, w', hrun, hplain, hcase⟩ :=
    assemble_recorded_of_create source (Zip.create_gateway file .stored limit) references w
  rw [hrun] at hmild
  rcases hcase with ⟨refusal, _, -, hcalls, -⟩ |
    ⟨s, storage, -, -, htour, hfollows, hkept, hmarks, hresult⟩
  · have hrefused : StorageCall.IsMild (.newSession (.error refusal)) :=
      hmild _ (by rw [hcalls]; exact List.mem_cons_self)
    cases hrefused
  -- A mild storage gives a session and closes it.
  simp only [hkept.storage] at hmild
  have hclosing : s.closing = .ok () :=
    hmild (.closeSession s.id s.closing) (List.mem_append_right _ List.mem_cons_self)
  have hvisits : ∀ call ∈ (footprint s.id s.visits).storageCalls, call.IsMild :=
    fun call hcall => hmild call (List.mem_append_left _ (List.mem_cons_of_mem _ hcall))
  obtain ⟨writer, -, hwrites⟩ := hmarks.writer
  have hnew : Between (.new file .stored limit) ([] : List (Block limit)) :=
    Writer.new_between hfile hempty
  obtain ⟨harchived, hfailed⟩ := Ending.of_mild hlimit htour hroom hnew hvisits hfollows hwrites
  have houtcome : s.outcome = s.ending.outcome := by rw [Session.outcome, hclosing]
  refine ⟨o, w', s, _, hrun, hplain, hkept, htour.prefix, htour.visited s.id, ?_, ?_, ?_⟩
  · rw [← harchived, ← houtcome, hresult, Session.result]
    cases s.outcome with
    | ok archive => exact ⟨fun _ => ⟨archive, rfl⟩, fun _ => ⟨_, rfl⟩⟩
    | error e => simp [Except.map]
  · intro e he
    refine hfailed e ?_
    rw [he, Session.result, houtcome] at hresult
    cases hending : s.ending.outcome with
    | ok archive =>
      rw [hending] at hresult
      cases hresult
    | error e' =>
      rw [hending] at hresult
      cases hresult
      rfl
  · rintro result rfl
    obtain ⟨hok, -, -, hwritten, hskips⟩ := Session.of_result hresult.symm hfollows
    have hvisited := htour.complete hok
    obtain ⟨w₁, hentries, -⟩ := hwrites.of_append
    obtain ⟨_, -, -, hcount, hnamed⟩ := htour.adds_blocks hlimit hok hnew hentries
    rw [countP_entered hnamed] at hcount
    have hrecords := hmarks.records
    rw [skips_footprint] at hrecords
    refine ⟨hvisited, hwritten.trans hcount, hskips.trans hrecords, ?_⟩
    have htotal := count_none_add (s.visits.map Visit.skip?)
    rw [List.filterMap_map, List.length_map, ← written_footprint hok] at htotal
    rw [hwritten, ← hvisited, List.length_map, ← htotal]
    rfl

theorem assemble_mild_sample :
    ∃ (result : ExportResult) (w' : Workshop Scripted.Storage Writer),
      (assemble Scripted.source (Zip.gateway {} .stored Zip.standardLimit) sampleReferences).run
        sampleWorkshop = (.ok result, w') ∧ result.written + result.skips.length = 3 := by
  have hmild : ∀ call ∈ ((assemble Scripted.source.recorded
      (Zip.gateway {} .stored Zip.standardLimit).recorded sampleReferences).run
        sampleWorkshop.recording).2.storage.calls, call.IsMild := by
    decide +kernel
  have hok : ((assemble Scripted.source (Zip.gateway {} .stored Zip.standardLimit)
      sampleReferences).run sampleWorkshop).1.isOk := by
    decide +kernel
  obtain ⟨outcome, w', s, photos, -, hplain, -, -, -, -, -, hcounts⟩ :=
    @assemble_mild Zip.standardLimit {} _ _ sampleReferences sampleWorkshop (by decide)
      ⟨rfl, fun _ _ _ => rfl⟩ rfl rfl hmild
  rw [hplain] at hok
  cases outcome with
  | error e => cases hok
  | ok result =>
    obtain ⟨-, -, hskips, htotal⟩ := hcounts result rfl
    refine ⟨result, _, hplain, ?_⟩
    rw [hskips]
    exact htotal

/-- One mild blob that is longer than it was said to be ends an assembly without a result. -/
theorem not_forall_mild_isOk :
    ¬ ∀ (limit : Int) (references : List PhotoReference) (w : Workshop Scripted.Storage Writer),
      (∀ call ∈ ((assemble Scripted.source.recorded (Zip.gateway {} .stored limit).recorded
        references).run w.recording).2.storage.calls, call.IsMild) →
      ((assemble Scripted.source (Zip.gateway {} .stored limit) references).run w).1.isOk := by
  intro h
  have hfailed := h 64
    [⟨⟨"p/a.jpg", by decide⟩, ⟨"photos/p/a.jpg", by decide⟩, "p", by decide, by decide⟩]
    { sampleWorkshop with
      storage :=
        { script :=
            { blobs :=
                [("photos/p/a.jpg",
                  { delivery := { rest := List.replicate 100 0x61 }, size := some 10 })] } } }
    (by decide +kernel)
  revert hfailed
  decide +kernel

end Assembly

end PhotoArchive
