import PhotoArchive.Proofs.File.Standing
import PhotoArchive.Proofs.Zip.Layout
import PhotoArchive.Zip.Gateway

/-!
# Writing an archive of stored data

On a file that takes all writes, a writer that stores data is always in one of two states: between
two entries, with a row of blocks in its file, or within an entry, with the data so far behind its
first header. Each operation has one lemma that says from which of these states to which it leads.

## Main definitions

- `File.TakesAll` — an open file that refuses no write
- `Writer.Between`, `Writer.Within` — the two states
- `IsFormatFailure` — why the format cannot hold an entry

## Main statements

- `Writer.new_between` — a new writer is between entries
- `Writer.Between.openEntry`, `Writer.Within.write`, `Writer.Within.closeEntry` — an entry
- `Writer.Between.complete` — the finished archive is blocks, directory and end records

## Design notes

The only failures left are those of numbers that do not fit the format, `IsFormatFailure`. Where an
operation fails, its lemma says which number did not fit.
-/

namespace PhotoArchive

/-! ## Files that take all writes -/

namespace File

/-- An open file that refuses no write. -/
structure TakesAll (f : File) : Prop where
  isOpen : f.isClosed = false
  accepts : ∀ writes position length, f.accepts writes position length = true

namespace TakesAll

variable {f : File}

theorem moveTo (h : f.TakesAll) (position : Nat) :
    TakesAll { f with cursor := f.cursor.moveTo position } := ⟨h.isOpen, h.accepts⟩

theorem written (h : f.TakesAll) (data : Bytes) : (f.written data).TakesAll :=
  ⟨h.isOpen, h.accepts⟩

theorem run_seek (h : f.TakesAll) (position : Nat) :
    (seek position).run f = (.ok (), { f with cursor := f.cursor.moveTo position }) :=
  File.run_seek h.isOpen position

theorem run_tell (h : f.TakesAll) : tell.run f = (.ok f.cursor.position, f) :=
  File.run_tell h.isOpen

theorem run_write (h : f.TakesAll) (data : Bytes) : (write data).run f = (.ok (), f.written data) :=
  run_write_of_accepts h.isOpen (h.accepts _ _ _)

end TakesAll

/-- The position is the end of the file. -/
def AtEnd (f : File) : Prop := f.cursor.position = f.content.length

/-- Going to the end. -/
theorem atEnd_moveTo {f : File} {position : Nat} (h : position = f.content.length) :
    AtEnd { f with cursor := f.cursor.moveTo position } := by
  have hposition := f.cursor.position_moveTo position
  rw [AtEnd, content_moveTo]
  simp only [content] at h ⊢
  omega

/-- Writing at the end of a file appends. -/
theorem AtEnd.written {f : File} (h : f.AtEnd) (data : Bytes) :
    (f.written data).content = f.content ++ data ∧ (f.written data).AtEnd := by
  have hcontent : (f.written data).content = f.content ++ data := by
    rw [content_written, h, Bytes.overlay_length]
  refine ⟨hcontent, ?_⟩
  have hposition := f.cursor.position_overwrite data
  rw [AtEnd, hcontent, List.length_append, ← h]
  exact hposition

/-- A file that takes all writes has got data at its end. -/
structure Extends (f f' : File) (data : Bytes) : Prop where
  content : f'.content = f.content ++ data
  atEnd : f'.AtEnd
  takesAll : f'.TakesAll

theorem Extends.refl {f : File} (htakes : f.TakesAll) (hend : f.AtEnd) : Extends f f [] :=
  ⟨by simp, hend, htakes⟩

theorem Extends.trans {f g k : File} {data data' : Bytes} (h : Extends f g data)
    (h' : Extends g k data') : Extends f k (data ++ data') :=
  ⟨by rw [h'.content, h.content, List.append_assoc], h'.atEnd, h'.takesAll⟩

theorem Extends.written {f : File} (htakes : f.TakesAll) (hend : f.AtEnd) (data : Bytes) :
    Extends f (f.written data) data :=
  ⟨(hend.written data).1, (hend.written data).2, htakes.written data⟩

theorem TakesAll.run_readAll {f : File} (h : f.TakesAll) : (readAll.run f).1 = .ok f.content :=
  File.run_readAll h.isOpen

end File

namespace Zip

/-- Why the format cannot hold an entry. -/
def IsFormatFailure : Failure → Prop
  | .archive .fieldOverflow | .archive .noRoom | .archive .sizeOutOfRange | .archive .sizeLimit =>
    True
  | _ => False

namespace Writer

variable {limit : Int} {w : Writer} {blocks : List (Block limit)}

/-! ## The two states -/

/-- What holds between two entries and within an entry. -/
structure IsLaid (w : Writer) (blocks : List (Block limit)) : Prop where
  takesAll : w.file.TakesAll
  method : w.method = .stored
  limit : w.limit = limit
  entries : w.entries = blocks.map Block.entry
  laid : AreLaid 0 blocks

/-- The file consists of blocks, and no entry is open. -/
structure AtRest (w : Writer) (blocks : List (Block limit)) : Prop extends IsLaid w blocks where
  content : w.file.content = blocks.flatMap Block.bytes
  directoryStart : w.directoryStart = w.file.content.length
  current : w.current = none

/-- Between two entries the writer is at rest and not used up. -/
structure Between (w : Writer) (blocks : List (Block limit)) : Prop extends AtRest w blocks where
  isClosed : w.isClosed = false
  isFinalized : w.isFinalized = false

/-- An entry to which some stored data were written. -/
def holding (handle : Nat) (name : String) (offset version : Nat) (room : Bool) (data : Bytes)
    (pieces : List Bytes) : OpenEntry :=
  { handle, name, offset, version, room, size := data.length, crc := data.crc32
    compressedSize := data.length, pieces }

/-- Within an entry there are, behind the blocks, its first header and the data so far. -/
structure Within (w : Writer) (blocks : List (Block limit)) (handle : Nat) (name : String)
    (room : Bool) (data : Bytes) : Prop extends IsLaid w blocks where
  content : ∃ header : Bytes, header.length = Entry.localLength name room ∧
    w.file.content = blocks.flatMap Block.bytes ++ (header ++ data)
  atEnd : w.file.AtEnd
  name_fits : (Text.utf8? name).isSome = true ∧ (Text.utf8 name).length < 2 ^ 16
  current : ∃ version pieces, version < 256 ∧ w.current =
    some (holding handle name (blocks.flatMap Block.bytes).length version room data pieces)
  isClosed : w.isClosed = false
  isFinalized : w.isFinalized = false

/-- A new writer has no blocks. -/
theorem new_between {file : File} (htakes : file.TakesAll) (hempty : file.content = []) :
    Between (new file .stored limit) ([] : List (Block limit)) where
  takesAll := htakes
  method := rfl
  limit := rfl
  entries := rfl
  laid := trivial
  isClosed := rfl
  isFinalized := rfl
  content := hempty
  directoryStart := (congrArg List.length hempty).symm
  current := rfl

theorem run_onFile {α : Type} {a : Action File α} {w : Writer} {file : File}
    {outcome : Except Failure α} (h : a.run w.file = (outcome, file)) :
    (onFile a).run w = (outcome, { w with file }) :=
  Action.run_within h

/-! ## Opening an entry -/

/-- Whether the header of an entry of a declared size has room for large sizes. -/
def roomFor (limit : Int) (declared : Option Int) : Bool :=
  match declared with
  | none => true
  | some size => (needsRoom? limit size).getD false

/-- The first header of an entry. -/
def firstEntry (limit : Int) (name : String) (size offset : Nat) : Entry :=
  ({ name, method := 0, size, offset } : Entry).withVersion limit

/-- The first header is not written when its size does not fit or its name cannot be encoded. -/
theorem headerFailure?_cases (name : String) (size : Int) (room : Bool) (limit : Int) :
    (∃ e, headerFailure? name size room limit = some e ∧ IsFormatFailure e ∧
      ¬ (0 ≤ size ∧ size < 2 ^ 64)) ∨
    (∃ fault, headerFailure? name size room limit = some (.unencodable fault) ∧
      Text.encodingFault? name = some fault) ∨
    headerFailure? name size room limit = none ∧ Text.encodingFault? name = none ∧ 0 ≤ size := by
  have hname : nameFailure? name = (Text.encodingFault? name).map .unencodable := rfl
  unfold headerFailure?
  split
  · split
    · next hsize => cases hfault : Text.encodingFault? name <;> simp [hname, hfault, hsize.1]
    · next hsize => exact .inl ⟨_, rfl, trivial, hsize⟩
  · split
    · next hsize => exact .inl ⟨_, rfl, trivial, fun h => Int.not_lt.2 h.1 hsize.1⟩
    · cases hfault : Text.encodingFault? name with
      | some fault => simp [hname, hfault]
      | none =>
        by_cases hsize : size < 0
        · exact .inl ⟨.archive .fieldOverflow, by simp [hname, hfault, hsize], trivial,
            fun h => Int.not_lt.2 h.1 hsize⟩
        · simp [hname, hfault, hsize, Int.not_lt.1 hsize]

/-- The first header is written where the directory would begin, unless it does not fit. -/
theorem Between.run_beginEntry (h : Between w blocks) (name : String) (size : Nat) (room : Bool)
    (hheader : headerFailure? name size room limit = none) :
    (Writer.beginEntry name size room).run w =
      match (firstEntry limit name size w.directoryStart).localHeader? limit room with
      | none => (.error (.archive .fieldOverflow),
          { w with file := { w.file with cursor := w.file.cursor.moveTo w.directoryStart } })
      | some header => (.ok w.opened,
          { w with
            file := File.written
              { w.file with cursor := w.file.cursor.moveTo w.directoryStart } header
            opened := w.opened + 1
            current := some
              { handle := w.opened, name, offset := w.directoryStart
                version := (firstEntry limit name size w.directoryStart).version, room } }) := by
  have hseek := run_onFile (w := w) (h.takesAll.run_seek w.directoryStart)
  have htell := run_onFile
    (w := { w with file := { w.file with cursor := w.file.cursor.moveTo w.directoryStart } })
    (h.takesAll.moveTo w.directoryStart).run_tell
  have hposition : (w.file.cursor.moveTo w.directoryStart).position = w.directoryStart := by
    rw [Cursor.position_moveTo, h.directoryStart]
    exact Nat.min_self _
  have hnumber : w.method.number = 0 := by rw [h.method]; rfl
  simp only [hposition] at htell
  rw [← h.limit] at hheader
  simp only [Writer.beginEntry, Action.run_bind, Action.run_ask, hseek, htell, hheader, hnumber,
    Int.toNat_natCast]
  have hfirst : ({ name, method := 0, size, offset := w.directoryStart } : Entry).withVersion w.limit
      = firstEntry limit name size w.directoryStart := by rw [h.limit]; rfl
  rw [hfirst, h.limit]
  cases (firstEntry limit name size w.directoryStart).localHeader? limit room with
  | none => simp [fitting]
  | some header =>
    have hwrite := run_onFile
      (w := { w with file := { w.file with cursor := w.file.cursor.moveTo w.directoryStart } })
      ((h.takesAll.moveTo w.directoryStart).run_write header)
    simp only [h.limit] at hwrite
    simp only [fitting, Action.run_done, hwrite, Action.run_modify, Action.run_pure]

/-- Without a first header the writer stays between two entries. -/
theorem Between.run_beginEntry_of_failure (h : Between w blocks) {name : String} {size : Int}
    {room : Bool} {e : Failure} (hheader : headerFailure? name size room limit = some e) :
    ∃ w', (Writer.beginEntry name size room).run w = (.error e, w') ∧ Between w' blocks := by
  have hseek := run_onFile (w := w) (h.takesAll.run_seek w.directoryStart)
  have htell := run_onFile
    (w := { w with file := { w.file with cursor := w.file.cursor.moveTo w.directoryStart } })
    (h.takesAll.moveTo w.directoryStart).run_tell
  rw [← h.limit] at hheader
  simp only [Writer.beginEntry, Action.run_bind, Action.run_ask, hseek, htell, hheader,
    Action.run_fail]
  have hcontent := File.content_moveTo w.file w.directoryStart
  exact ⟨_, rfl,
    { h with
      takesAll := h.takesAll.moveTo w.directoryStart
      content := hcontent.trans h.content
      directoryStart := h.directoryStart.trans (congrArg List.length hcontent.symm) }⟩

/-- Behind the first header the writer is within the entry. -/
theorem Between.within (h : Between w blocks) {name : String} {room : Bool} {header : Bytes}
    {entry : Entry} (hname : entry.name = name) (hversion : entry.version < 256)
    (hfits : (Text.utf8? name).isSome = true ∧ (Text.utf8 name).length < 2 ^ 16)
    (hheader : entry.localHeader? limit room = some header) :
    Within
      { w with
        file := File.written { w.file with cursor := w.file.cursor.moveTo w.directoryStart } header
        opened := w.opened + 1
        current := some
          { handle := w.opened, name, offset := w.directoryStart, version := entry.version, room } }
      blocks w.opened name room [] := by
  have hend := File.atEnd_moveTo h.directoryStart
  obtain ⟨hcontent, hatEnd⟩ := hend.written header
  rw [File.content_moveTo, h.content] at hcontent
  have hstart : w.directoryStart = (blocks.flatMap Block.bytes).length := by
    rw [h.directoryStart, h.content]
  exact
    { h.toIsLaid with
      takesAll := (h.takesAll.moveTo _).written header
      content := ⟨header, by rw [Entry.length_localHeader hheader, hname], by
        simpa using hcontent⟩
      atEnd := hatEnd
      name_fits := hfits
      current := ⟨entry.version, [], hversion, by rw [hstart]; simp [holding]⟩
      isClosed := h.isClosed
      isFinalized := h.isFinalized }

/-- The format can hold an entry of a name and a declared size. -/
def CanHold (name : String) (declared : Option Int) : Prop :=
  (Text.utf8 name).length < 2 ^ 16 ∧ ∀ size, declared = some size → 0 ≤ size ∧ size < 2 ^ 64

/-- For a name that can be encoded and a size that fits there is a first header. -/
theorem headerFailure?_eq_none {name : String} {size : Int} (hname : (Text.utf8? name).isSome = true)
    (hsize : 0 ≤ size ∧ size < 2 ^ 64) (room : Bool) (limit : Int) :
    headerFailure? name size room limit = none := by
  rcases headerFailure?_cases name size room limit with
    ⟨_, -, -, hnot⟩ | ⟨fault, -, hfault⟩ | ⟨hnone, -⟩
  · exact absurd hsize hnot
  · rw [Text.encodingFault?_eq_none_iff.2 hname] at hfault
    cases hfault
  · exact hnone

theorem firstEntry_version_lt (limit : Int) (name : String) (size offset : Nat) :
    (firstEntry limit name size offset).version < 256 := by
  unfold firstEntry Entry.withVersion
  simp only
  split <;> decide

theorem needsRoom?_isSome {limit size : Int} (h : 0 ≤ size ∧ size < 2 ^ 64) :
    (needsRoom? limit size).isSome := by
  have hround := roundSignificant_le size.natAbs
  have hsmall : roundSignificant size.natAbs < 2 ^ 65 := by omega
  -- For any bound, so that the one of double precision is not computed.
  have hdouble (n : Nat) (hn : 65 ≤ n) : 2 ^ 65 ≤ 1 <<< n := by
    rw [Nat.one_shiftLeft]
    exact Nat.pow_le_pow_right Nat.two_pos hn
  simp only [needsRoom?]
  split
  · next hlarge =>
    exact absurd (Nat.le_trans (hdouble 1024 (by decide)) hlarge) (Nat.not_le.2 hsmall)
  · rfl

/-- Only a limit that is not negative can do without room for large sizes. -/
theorem nonneg_of_needsRoom? {limit size : Int} (h : needsRoom? limit size = some false)
    (hsize : 0 ≤ size) : 0 ≤ limit := by
  simp only [needsRoom?] at h
  split at h
  · cases h
  · have hle := of_decide_eq_false (Option.some.inj h)
    have hscaled := Int.mul_nonneg (Int.sign_nonneg_iff.2 hsize)
      (Int.natCast_nonneg (roundSignificant (roundSignificant size.natAbs * scaledFactor)))
    unfold scale at hle
    omega

theorem Between.run_openEntry_none (h : Between w blocks) (name : String) :
    (Writer.openEntry name none).run w = (Writer.beginEntry name 0 true).run w := by
  simp only [Writer.openEntry, Action.run_bind, Action.run_ask, h.isClosed, h.current,
    Option.isSome_none, Bool.false_eq_true, if_false]

theorem Between.run_openEntry_some (h : Between w blocks) (name : String) {size : Int}
    {needs : Option Bool} (hneeds : needsRoom? limit size = needs) :
    (Writer.openEntry name (some size)).run w =
      match needs with
      | some room => (Writer.beginEntry name size room).run w
      | none => (.error (.archive .sizeOutOfRange), w) := by
  simp only [Writer.openEntry, Action.run_bind, Action.run_ask, h.isClosed, h.current,
    Option.isSome_none, Bool.false_eq_true, if_false, h.limit, hneeds]
  cases needs <;> rfl

/-- Beginning an entry leads into it, unless its name or its size does not fit, or the name cannot be
encoded. -/
theorem Between.beginEntry (hlimit : limit < fullField) (h : Between w blocks) (name : String)
    (size : Int) (room : Bool) :
    (∃ e w', (Writer.beginEntry name size room).run w = (.error e, w') ∧ IsFormatFailure e ∧
      w'.file.TakesAll ∧ ¬ ((Text.utf8 name).length < 2 ^ 16 ∧ 0 ≤ size ∧ size < 2 ^ 64)) ∨
    (∃ fault w', (Writer.beginEntry name size room).run w = (.error (.unencodable fault), w') ∧
      Text.encodingFault? name = some fault ∧ Between w' blocks) ∨
    ∃ handle w', (Writer.beginEntry name size room).run w = (.ok handle, w') ∧
      Within w' blocks handle name room [] := by
  rcases headerFailure?_cases name size room limit with
    ⟨e, hheader, hfailure, hsize⟩ | ⟨fault, hheader, hfault⟩ | ⟨hheader, hfault, hnonneg⟩
  · obtain ⟨w', hrun, hbetween⟩ := h.run_beginEntry_of_failure hheader
    exact .inl ⟨e, w', hrun, hfailure, hbetween.takesAll, fun hfit => hsize hfit.2⟩
  · obtain ⟨w', hrun, hbetween⟩ := h.run_beginEntry_of_failure hheader
    exact .inr (.inl ⟨fault, w', hrun, hfault, hbetween⟩)
  obtain ⟨n, rfl⟩ := Int.eq_ofNat_of_zero_le hnonneg
  have hform := Text.encodingFault?_eq_none_iff.1 hfault
  have hversion := firstEntry_version_lt limit name n w.directoryStart
  have hsome := Entry.isSome_localHeader? (e := firstEntry limit name n w.directoryStart)
    hlimit (Nat.two_pow_pos 16) hversion room
  rw [h.run_beginEntry name n room hheader]
  cases hfirst : (firstEntry limit name n w.directoryStart).localHeader? limit room with
  | none =>
    refine .inl ⟨_, _, rfl, trivial, h.takesAll.moveTo w.directoryStart, ?_⟩
    rintro ⟨hname, -, hsize⟩
    have hlast : n < 2 ^ 64 := by omega
    rw [hfirst] at hsome
    exact Bool.false_ne_true (hsome.2 ⟨hform, hname, fun _ => ⟨hlast, Nat.two_pow_pos 64⟩⟩)
  | some header =>
    rw [hfirst] at hsome
    exact .inr (.inr ⟨_, _, rfl, h.within rfl hversion ⟨hform, (hsome.1 rfl).2.1⟩ hfirst⟩)

/-- An entry is opened unless the format cannot hold it or its name cannot be encoded. -/
theorem Between.openEntry (hlimit : limit < fullField) (h : Between w blocks) (name : String)
    (declared : Option Int) :
    (∃ e w', (Writer.openEntry name declared).run w = (.error e, w') ∧ IsFormatFailure e ∧
      w'.file.TakesAll ∧ ¬ CanHold name declared) ∨
    (∃ fault w', (Writer.openEntry name declared).run w = (.error (.unencodable fault), w') ∧
      Text.encodingFault? name = some fault ∧ Between w' blocks) ∨
    ∃ handle w', (Writer.openEntry name declared).run w = (.ok handle, w') ∧
      Within w' blocks handle name (roomFor limit declared) [] := by
  cases declared with
  | none =>
    rw [h.run_openEntry_none]
    refine (h.beginEntry hlimit name 0 true).imp_left ?_
    rintro ⟨e, w', hrun, hfailure, htakes, hfit⟩
    exact ⟨e, w', hrun, hfailure, htakes, fun hhold => hfit ⟨hhold.1, by decide⟩⟩
  | some size =>
    cases hneeds : needsRoom? limit size with
    | none =>
      rw [h.run_openEntry_some name hneeds]
      refine .inl ⟨_, w, rfl, trivial, h.takesAll, ?_⟩
      rintro ⟨-, hsize⟩
      have hsome := @needsRoom?_isSome limit size (hsize size rfl)
      rw [hneeds] at hsome
      cases hsome
    | some room =>
      have hroom : roomFor limit (some size) = room := by
        rw [roomFor, hneeds]
        rfl
      rw [h.run_openEntry_some name hneeds, hroom]
      refine (h.beginEntry hlimit name size room).imp_left ?_
      rintro ⟨e, w', hrun, hfailure, htakes, hfit⟩
      exact ⟨e, w', hrun, hfailure, htakes, fun hhold => hfit ⟨hhold.1, hhold.2 size rfl⟩⟩

/-! ## Filling and closing an entry -/

section Within

variable {handle : Nat} {name : String} {room : Bool} {data : Bytes}

theorem Within.entryAt? (h : Within w blocks handle name room data) :
    ∃ version pieces, version < 256 ∧ w.entryAt? handle =
      some (holding handle name (blocks.flatMap Block.bytes).length version room data pieces) := by
  obtain ⟨version, pieces, hversion, hcurrent⟩ := h.current
  exact ⟨version, pieces, hversion, by simp [Writer.entryAt?, hcurrent, holding]⟩

theorem count_holding (offset version : Nat) (pieces : List Bytes) (piece : Bytes) :
    (holding handle name offset version room data pieces).count piece piece =
      holding handle name offset version room (data ++ piece) (piece :: pieces) := by
  simp [holding, OpenEntry.count, Bytes.crc32, Crc32.continueFrom_append]

/-- Data are written behind those that are there. -/
theorem Within.write (h : Within w blocks handle name room data) (piece : Bytes) :
    ∃ w', (Writer.write handle piece).run w = (.ok (), w') ∧
      Within w' blocks handle name room (data ++ piece) := by
  obtain ⟨version, pieces, hversion, hentry⟩ := h.entryAt?
  obtain ⟨header, hlength, hcontent⟩ := h.content
  let entry := holding handle name (blocks.flatMap Block.bytes).length version room
    (data ++ piece) (piece :: pieces)
  have hwrite := run_onFile (w := { w with current := some entry }) (h.takesAll.run_write piece)
  obtain ⟨hwritten, hatEnd⟩ := h.atEnd.written piece
  refine ⟨{ w with file := w.file.written piece, current := some entry }, ?_, ?_⟩
  · have hstored (e : OpenEntry) : w.compressed e piece = piece := by simp [compressed, h.method]
    rw [← hwrite]
    simp only [Action.run, Writer.write, hentry, hstored, count_holding, entry]
  · exact
      { h.toIsLaid with
        takesAll := h.takesAll.written piece
        content := ⟨header, hlength, by rw [hwritten, hcontent]; simp⟩
        atEnd := hatEnd
        name_fits := h.name_fits
        current := ⟨version, piece :: pieces, hversion, rfl⟩
        isClosed := h.isClosed
        isFinalized := h.isFinalized }

/-- Stored data need room for their size. -/
theorem Within.run_completeData (h : Within w blocks handle name room data) (offset version : Nat)
    (pieces : List Bytes) :
    (completeData (holding handle name offset version room data pieces)).run w =
      if room = false ∧ limit < data.length then (.error (.archive .sizeLimit), w)
      else (.ok data.length, w) := by
  have hrest (e : OpenEntry) : w.remainder e = none := by simp [remainder, h.method]
  simp only [completeData, Action.run_bind, Action.run_ask, hrest, h.limit, holding]
  cases room <;> by_cases hsize : limit < data.length <;> simp [hsize]

/-- The entry of some stored data. -/
def closedEntry (limit : Int) (name : String) (offset version : Nat) (data : Bytes) : Entry :=
  ({ name, method := 0, version, crc := data.crc32, size := data.length
     compressedSize := data.length, offset } : Entry).withVersion limit

/-- The header of an entry is written once more, now that its numbers are known. -/
theorem Within.run_completeEntry (h : Within w blocks handle name room data) (version : Nat)
    (pieces : List Bytes) (hroom : ¬ (room = false ∧ limit < data.length)) :
    let offset := (blocks.flatMap Block.bytes).length
    let finish := w.file.content.length
    let file := { w.file with cursor := w.file.cursor.moveTo offset }
    (completeEntry (holding handle name offset version room data pieces)).run w =
      match (closedEntry limit name offset version data).localHeader? limit room with
      | none => (.error (.archive .fieldOverflow), { w with directoryStart := finish, file })
      | some header =>
        (.ok (), { w with
          directoryStart := finish
          file := { file.written header with cursor := (file.written header).cursor.moveTo finish }
          entries := w.entries ++ [closedEntry limit name offset version data] }) := by
  intro offset finish file
  have hdata := h.run_completeData offset version pieces
  rw [if_neg hroom] at hdata
  have htell := run_onFile h.takesAll.run_tell
  have hfinish : w.file.cursor.position = finish := h.atEnd
  rw [hfinish] at htell
  have hseek := run_onFile (w := { w with directoryStart := finish }) (h.takesAll.run_seek offset)
  have hnumber : w.method.number = 0 := by rw [h.method]; rfl
  have hentry : (holding handle name offset version room data pieces).entry 0 data.length w.limit
      = closedEntry limit name offset version data := by rw [h.limit]; rfl
  have hoffset : (holding handle name offset version room data pieces).offset = offset := rfl
  have hroom' : (holding handle name offset version room data pieces).room = room := rfl
  simp only [completeEntry, Action.run_bind, hdata, Action.run_ask, htell, Action.run_modify,
    hoffset, hseek, hnumber, hentry, hroom']
  rw [h.limit]
  cases (closedEntry limit name offset version data).localHeader? limit room with
  | none => simp [fitting, file]
  | some header =>
    have hwrite := run_onFile (w := { w with directoryStart := finish, file })
      ((h.takesAll.moveTo offset).run_write header)
    have hback := run_onFile (w := { w with directoryStart := finish, file := file.written header })
      (((h.takesAll.moveTo offset).written header).run_seek finish)
    simp only [h.limit] at hwrite hback
    simp only [fitting, Action.run_done, hwrite, hback, file]

theorem closedEntry_version_lt (limit : Int) {name : String} {offset version : Nat} {data : Bytes}
    (h : version < 256) : (closedEntry limit name offset version data).version < 256 := by
  unfold closedEntry Entry.withVersion
  simp only
  split
  · unfold largeVersion
    omega
  · exact h

/-- The block of an entry whose last header has been written. -/
def closedBlock {offset version : Nat} {header : Bytes}
    (hroom : ¬ (room = false ∧ limit < data.length))
    (hheader : (closedEntry limit name offset version data).localHeader? limit room
      = some header) : Block limit where
  entry := closedEntry limit name offset version data
  room := room
  header := header
  data := data
  header_eq := hheader
  room_suffices := by
    cases room with
    | true => exact .inl rfl
    | false =>
      right
      simpa [Entry.isLarge, closedEntry, Entry.withVersion] using hroom
  method_eq := rfl
  size_eq := rfl
  compressedSize_eq := rfl
  crc_eq := rfl

/-- With its second header written, an entry is a block. -/
theorem Within.between_of_header (h : Within w blocks handle name room data) {version : Nat}
    {header : Bytes} (hroom : ¬ (room = false ∧ limit < data.length))
    (hheader : (closedEntry limit name (blocks.flatMap Block.bytes).length version
      data).localHeader? limit room = some header) :
    let offset := (blocks.flatMap Block.bytes).length
    let file := File.written { w.file with cursor := w.file.cursor.moveTo offset } header
    Between
      { w with
        directoryStart := w.file.content.length
        file := { file with cursor := file.cursor.moveTo w.file.content.length }
        entries := w.entries ++ [closedEntry limit name offset version data]
        current := none }
      (blocks ++ [closedBlock hroom hheader]) := by
  intro offset file
  obtain ⟨header₀, hlength₀, hcontent⟩ := h.content
  have hlength : header.length = header₀.length := by
    rw [Entry.length_localHeader hheader, hlength₀]
    rfl
  have hblocks : (blocks ++ [closedBlock hroom hheader]).flatMap Block.bytes
      = blocks.flatMap Block.bytes ++ (header ++ data) := by
    simp [Block.bytes, closedBlock]
  -- The second header takes the place of the first one.
  have hposition : (w.file.cursor.moveTo offset).position = offset := by
    rw [Cursor.position_moveTo]
    refine Nat.min_eq_left ?_
    have := congrArg List.length hcontent
    simp only [List.length_append, File.content] at this
    simp only [offset]
    omega
  have hwritten : file.content = blocks.flatMap Block.bytes ++ (header ++ data) := by
    rw [File.content_written, File.content_moveTo, hcontent, hposition]
    exact Bytes.overlay_middle hlength
  exact
    { takesAll := ((h.takesAll.moveTo offset).written header).moveTo _
      method := h.method
      limit := h.limit
      entries := by simp [h.entries, closedBlock, offset]
      laid := h.laid.concat (by simp [closedBlock, closedEntry, Entry.withVersion])
      isClosed := h.isClosed
      isFinalized := h.isFinalized
      content := by
        rw [hblocks, ← hwritten]
        exact File.content_moveTo _ _
      directoryStart := by
        have hsame : w.file.content.length = (blocks.flatMap Block.bytes ++ (header ++ data)).length := by
          simp [hcontent, hlength]
        rw [File.content_moveTo, hwritten, ← hsame]
      current := rfl }

/-- A closed entry is a block, unless it has become too large for its header. -/
theorem Within.closeEntry (hlimit : limit < fullField) (h : Within w blocks handle name room data) :
    (∃ e w', (Writer.closeEntry handle).run w = (.error e, w') ∧ IsFormatFailure e ∧
      w'.file.TakesAll ∧ ((room = false ∧ limit < data.length) ∨ 2 ^ 64 ≤ data.length)) ∨
    ∃ (b : Block limit) (w' : Writer), (Writer.closeEntry handle).run w = (.ok (), w') ∧
      b.entry.name = name ∧ b.room = room ∧ b.data = data ∧ Between w' (blocks ++ [b]) := by
  obtain ⟨version, pieces, hversion, hentry⟩ := h.entryAt?
  let offset := (blocks.flatMap Block.bytes).length
  have hclose {outcome : Except Failure Unit} {w' : Writer}
      (hrun : (completeEntry (holding handle name offset version room data pieces)).run w
        = (outcome, w')) :
      (Writer.closeEntry handle).run w = (outcome, { w' with current := none }) := by
    have hensured := Action.ensuring_ok hrun
      (Action.run_modify (fun w : Writer => { w with current := none }) w')
    rw [← hensured]
    simp only [Action.run, Writer.closeEntry, hentry, offset]
  -- The size is looked at before the header is written once more.
  by_cases hroom : room = false ∧ limit < data.length
  · have hdata := h.run_completeData offset version pieces
    rw [if_pos hroom] at hdata
    exact .inl ⟨_, _, hclose (Action.run_bind_error hdata), trivial, h.takesAll, .inl hroom⟩
  have hrun := h.run_completeEntry version pieces hroom
  have hsome := Entry.isSome_localHeader? (e := closedEntry limit name offset version data) hlimit
    (Nat.two_pow_pos 16) (closedEntry_version_lt limit hversion) room
  simp only at hrun
  cases hheader : (closedEntry limit name offset version data).localHeader? limit room with
  | none =>
    rw [hheader] at hrun hsome
    refine .inl ⟨.archive .fieldOverflow, _, hclose hrun, trivial, h.takesAll.moveTo offset, .inr ?_⟩
    have hnot := mt hsome.2 Bool.false_ne_true
    by_cases hsize : data.length < 2 ^ 64
    · exact absurd ⟨h.name_fits.1, h.name_fits.2, fun _ => ⟨hsize, hsize⟩⟩ hnot
    · omega
  | some header =>
    rw [hheader] at hrun
    have hbetween := h.between_of_header hroom hheader
    exact .inr ⟨closedBlock hroom hheader, _, hclose hrun, rfl, rfl, rfl, hbetween⟩

end Within

/-! ## The directory -/

theorem run_writePieces (pieces : List Bytes) {w : Writer} (htakes : w.file.TakesAll) :
    ∃ file, (writePieces pieces).run w = (.ok (), { w with file }) ∧ file.TakesAll ∧
      (w.file.AtEnd → File.Extends w.file file pieces.flatten) := by
  induction pieces generalizing w with
  | nil => exact ⟨w.file, rfl, htakes, .refl htakes⟩
  | cons piece rest ih =>
    obtain ⟨file, hrun, hfile, hrest⟩ := ih (w := { w with file := w.file.written piece })
      (htakes.written piece)
    refine ⟨file, ?_, hfile, fun hend => ?_⟩
    · exact (Action.run_bind_ok (run_onFile (htakes.run_write piece))).trans hrun
    · have hfirst := File.Extends.written htakes hend piece
      exact hfirst.trans (hrest hfirst.atEnd)

/-- The records of entries are written, unless one of them does not fit. -/
theorem run_writeRecords (limit : Int) (entries : List Entry) {w : Writer}
    (htakes : w.file.TakesAll) :
    (∃ w', (writeRecords limit entries).run w = (.error (.archive .fieldOverflow), w') ∧
      directoryBytes? limit entries = none) ∨
    ∃ directory file, directoryBytes? limit entries = some directory ∧
      (writeRecords limit entries).run w = (.ok (), { w with file }) ∧ file.TakesAll ∧
      (w.file.AtEnd → File.Extends w.file file directory) := by
  induction entries generalizing w with
  | nil => exact .inr ⟨[], w.file, rfl, rfl, htakes, .refl htakes⟩
  | cons entry rest ih =>
    cases hrecord : entry.centralRecord? limit with
    | none =>
      refine .inl ⟨w, ?_, by rw [directoryBytes?, hrecord]; rfl⟩
      rw [writeRecords, hrecord]
      exact Action.run_bind_error rfl
    | some pieces =>
      obtain ⟨file, hpieces, hfile, hfirst⟩ := run_writePieces pieces htakes
      have hstart : (writeRecords limit (entry :: rest)).run w
          = (writeRecords limit rest).run { w with file } := by
        rw [writeRecords, hrecord]
        have hfitting : (fitting (some pieces)).run w = (.ok pieces, w) := rfl
        exact (Action.run_bind_ok hfitting).trans (Action.run_bind_ok hpieces)
      rw [hstart]
      rcases ih (w := { w with file }) hfile with
        ⟨w', hrun, hnone⟩ | ⟨tail, file', htail, hrun, hfile', hrest⟩
      · exact .inl ⟨w', hrun, by rw [directoryBytes?, hrecord, hnone]; rfl⟩
      · exact .inr ⟨pieces.flatten ++ tail, file',
          directoryBytes?_cons_eq_some_iff.2 ⟨pieces, tail, hrecord, htail, rfl⟩, hrun, hfile',
          fun hend => (hfirst hend).trans (hrest (hfirst hend).atEnd)⟩

/-- The directory and the end records are written behind the blocks, unless they do not fit. -/
theorem AtRest.run_writeDirectory (h : AtRest w blocks) :
    (∃ w', writeDirectory.run w = (.error (.archive .fieldOverflow), w') ∧
      ∀ directory, directoryBytes? limit (blocks.map Block.entry) = some directory →
        endRecords? limit (placeOf blocks directory) = none) ∨
    ∃ directory pieces file, directoryBytes? limit (blocks.map Block.entry) = some directory ∧
      endRecords? limit (placeOf blocks directory) = some pieces ∧
      writeDirectory.run w = (.ok (), { w with file }) ∧
      File.Extends w.file file (directory ++ pieces.flatten) := by
  obtain rfl := h.limit
  let file := { w.file with cursor := w.file.cursor.moveTo w.directoryStart }
  have hseek := run_onFile (w := w) (h.takesAll.run_seek w.directoryStart)
  have hend : file.AtEnd := File.atEnd_moveTo h.directoryStart
  have htakes : file.TakesAll := h.takesAll.moveTo w.directoryStart
  have hcontent : file.content = w.file.content := File.content_moveTo _ _
  rcases run_writeRecords w.limit w.entries (w := { w with file }) htakes with
    ⟨w', hrun, hnone⟩ | ⟨directory, file', hdirectory, hrun, -, hextends⟩
  · refine .inl ⟨w', ?_, ?_⟩
    · simp only [writeDirectory, Action.run_bind, Action.run_ask, hseek, file, hrun]
    · intro directory hdirectory
      rw [h.entries, hdirectory] at hnone
      cases hnone
  · have hextends := hextends hend
    -- Behind the last record the position tells how long the directory is.
    have hplace : ({ count := w.entries.length
                     size := file'.cursor.position - w.directoryStart
                     offset := w.directoryStart } : DirectoryPlace) = placeOf blocks directory := by
      have hfinish : file'.cursor.position = w.directoryStart + directory.length := by
        rw [hextends.atEnd, hextends.content, List.length_append, hcontent, h.directoryStart]
      have hstart : w.directoryStart = (blocks.flatMap Block.bytes).length := by
        rw [h.directoryStart, h.content]
      rw [hfinish, Nat.add_sub_cancel_left, hstart, h.entries, List.length_map]
      rfl
    have htell := run_onFile (w := { w with file := file' }) hextends.takesAll.run_tell
    have hbegin : writeDirectory.run w =
        (do writePieces (← fitting (endRecords? w.limit (placeOf blocks directory))) :
          Action Writer Unit).run { w with file := file' } := by
      simp only [writeDirectory, Action.run_bind, Action.run_ask, hseek, file, hrun, htell, hplace]
    rw [hbegin]
    rw [h.entries] at hdirectory
    cases hpieces : endRecords? w.limit (placeOf blocks directory) with
    | none =>
      have hfitting : (fitting none).run { w with file := file' }
          = ((.error (.archive .fieldOverflow), { w with file := file' }) :
            Except Failure (List Bytes) × Writer) := rfl
      refine .inl ⟨{ w with file := file' }, Action.run_bind_error hfitting, ?_⟩
      intro directory' hdirectory'
      rw [hdirectory] at hdirectory'
      cases hdirectory'
      exact hpieces
    | some pieces =>
      obtain ⟨file'', hwritten, -, hmore⟩ := run_writePieces pieces
        (w := { w with file := file' }) hextends.takesAll
      have hfitting : (fitting (some pieces)).run { w with file := file' }
          = (.ok pieces, { w with file := file' }) := rfl
      have hall := hextends.trans (hmore hextends.atEnd)
      exact .inr ⟨directory, pieces, file'', hdirectory, hpieces,
        (Action.run_bind_ok hfitting).trans hwritten,
        ⟨by rw [hall.content, hcontent], hall.atEnd, hall.takesAll⟩⟩

/-- An archive is completed unless its directory does not fit. -/
theorem Between.complete (h : Between w blocks) :
    (∃ w', w.complete = (.error { failure := .archive .fieldOverflow }, w') ∧
      ∀ directory, directoryBytes? limit (blocks.map Block.entry) = some directory →
        endRecords? limit (placeOf blocks directory) = none) ∨
    ∃ (archive : ArchiveFile) (w' : Writer) (directory : Bytes) (pieces : List Bytes),
      w.complete = (.ok archive, w') ∧
      directoryBytes? limit (blocks.map Block.entry) = some directory ∧
      endRecords? limit (placeOf blocks directory) = some pieces ∧ archive.file.TakesAll ∧
      archive.file.content = blocks.flatMap Block.bytes ++ directory ++ pieces.flatten ∧
      archive.size = archive.file.content.length := by
  have hrest : AtRest { w with isFinalized := true } blocks := { h.toAtRest with }
  have hclose {outcome : Except Failure Unit} {w' : Writer}
      (hrun : writeDirectory.run { w with isFinalized := true } = (outcome, w')) :
      closeArchive.run { w with isFinalized := true } = (outcome, { w' with isClosed := true }) := by
    have hensured := Action.ensuring_ok hrun
      (Action.run_modify (fun w : Writer => { w with isClosed := true }) w')
    rw [← hensured]
    simp only [closeArchive, Action.run_bind, Action.run_ask, h.isClosed, h.current,
      Option.isSome_none, Bool.false_eq_true, if_false]
  rcases hrest.run_writeDirectory with
    ⟨w', hrun, hnone⟩ | ⟨directory, pieces, file, hdirectory, hpieces, hrun, hextends⟩
  · have hcomplete : completeArchive.run { w with isFinalized := true } = _ :=
      Action.run_bind_error (hclose hrun)
    refine .inl ⟨{ w' with isClosed := true }, ?_, hnone⟩
    simp [Writer.complete, finalize, h.isFinalized, hcomplete, IsWriteFailure,
      Failure.IsSystemError, Failure.IsValueError]
  · let closed : Writer := { w with isFinalized := true, file, isClosed := true }
    let rewound : File := { file with cursor := file.cursor.moveTo 0 }
    have htell : (onFile File.tell).run closed = (.ok file.cursor.position, closed) :=
      run_onFile hextends.takesAll.run_tell
    have hseek : (onFile (File.seek 0)).run closed = (.ok (), { closed with file := rewound }) :=
      run_onFile (hextends.takesAll.run_seek 0)
    have hcomplete : completeArchive.run { w with isFinalized := true }
        = (.ok file.cursor.position, { closed with file := rewound }) := by
      refine (Action.run_bind_ok (hclose hrun)).trans ((Action.run_bind_ok htell).trans ?_)
      exact (Action.run_bind_ok hseek).trans rfl
    refine .inr ⟨{ file := rewound, size := file.cursor.position }, { closed with file := rewound },
      directory, pieces, ?_, hdirectory, hpieces, hextends.takesAll.moveTo 0, ?_, ?_⟩
    · simp [Writer.complete, finalize, h.isFinalized, hcomplete, archive]
    · rw [File.content_moveTo, hextends.content, List.append_assoc]
      exact congrArg (· ++ _) h.content
    · rw [File.content_moveTo]
      exact hextends.atEnd

/-- On a file that takes all writes, only what does not fit keeps the directory from being
written. -/
theorem eq_fieldOverflow_of_writeDirectory {w w' : Writer} {e : Failure} (h : w.file.TakesAll)
    (hrun : writeDirectory.run w = (.error e, w')) : e = .archive .fieldOverflow := by
  have hseek := run_onFile (w := w) (h.run_seek w.directoryStart)
  rcases run_writeRecords w.limit w.entries
      (w := { w with file := { w.file with cursor := w.file.cursor.moveTo w.directoryStart } })
      (h.moveTo w.directoryStart) with
    ⟨w₁, hrecords, -⟩ | ⟨directory, file, -, hrecords, htakes, -⟩
  · simp only [writeDirectory, Action.run_bind, Action.run_ask, hseek, hrecords] at hrun
    cases hrun
    rfl
  · have htell := run_onFile (w := { w with file }) htakes.run_tell
    simp only [writeDirectory, Action.run_bind, Action.run_ask, hseek, hrecords, htell] at hrun
    cases hplace : endRecords? w.limit
      { count := w.entries.length, size := file.cursor.position - w.directoryStart
        offset := w.directoryStart } with
    | none =>
      rw [hplace] at hrun
      cases hrun
      rfl
    | some pieces =>
      rw [hplace] at hrun
      obtain ⟨file', hpieces, -⟩ := run_writePieces pieces (w := { w with file }) htakes
      simp only [fitting, Action.run_done, hpieces] at hrun
      cases hrun

/-- On a file that takes all writes, what keeps an archive from being closed is an entry that is
still open or what does not fit. -/
theorem of_closeArchive {w w' : Writer} {e : Failure} (h : w.file.TakesAll)
    (hrun : closeArchive.run w = (.error e, w')) : IsWriteFailure e ∨ IsFormatFailure e := by
  simp only [closeArchive, Action.run_bind, Action.run_ask] at hrun
  split at hrun
  · cases hrun
  simp only [Action.run_bind, Action.run_ask] at hrun
  split at hrun
  · cases hrun
    exact .inl (.inr trivial)
  · rw [Action.run_ensuring] at hrun
    rcases hdirectory : writeDirectory.run w with ⟨outcome, w₁⟩
    rw [hdirectory] at hrun
    cases hrun
    rw [eq_fieldOverflow_of_writeDirectory h hdirectory]
    exact .inr trivial

theorem run_discard (w : Writer) :
    discard.run w =
      match closeArchive.run { w with isFinalized := true } with
      | (.ok _, w) => (.ok none, w.closeFile)
      | (.error e, w) =>
        if IsWriteFailure e then
          (.ok (some ("archive discarded with error: " ++ e.message)), w.closeFile)
        else (.error e, w.closeFile) := rfl

/-- What goes wrong in giving up an archive is noted, unless it is that something does not fit. -/
theorem isFormatFailure_of_discard {w w' : Writer} {e : Failure} (h : w.file.TakesAll)
    (hrun : discard.run w = (.error e, w')) : IsFormatFailure e := by
  rw [run_discard] at hrun
  rcases hclose : closeArchive.run { w with isFinalized := true } with ⟨e' | u, w₁⟩
  · rw [hclose] at hrun
    by_cases hwrite : IsWriteFailure e'
    · simp only [if_pos hwrite] at hrun
      cases hrun
    · simp only [if_neg hwrite] at hrun
      cases hrun
      have hcases := of_closeArchive (w := { w with isFinalized := true }) h hclose
      exact hcases.resolve_left hwrite
  · rw [hclose] at hrun
    cases hrun

end Writer

end Zip

end PhotoArchive
