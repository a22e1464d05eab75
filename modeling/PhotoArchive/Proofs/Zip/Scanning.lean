import Mathlib.Data.List.Forall2
import PhotoArchive.Proofs.Zip.Uninterrupted

/-!
# Reading an archive from both ends

An archive of stored data can be read in two ways: from its end, by the directory, or from its
beginning, one local header after the other. What the writer chooses before the first byte of an
entry, from its declared size, fits what it finds out later, so both ways lead to the same entries.

## Main definitions

- `Draft` — an entry that is to be written
- `Writer.writeDraft`, `Writer.writeDrafts` — open, fill and close one entry after the other
- `IsTiling` — entries that lie one behind the other without a gap
- `ReadsAs` — an archive reads the same from both ends, and as what was written

## Main statements

- `le_of_needsRoom?_eq_false` — a size that gets no room is not above the limit
- `scanFrom?_blocks` — blocks are found one behind the other
- `Writer.Between.writeDraft` — one entry
- `Writer.writeDrafts_scan` — what was written is read from both ends

## Design notes

The comparison with the limit is made with five percent added to the size. In double precision far
less than that is lost, so it never comes out the other way.
-/

namespace PhotoArchive

/-- Less than one part in `2 ^ 52` is lost in rounding. -/
theorem sub_le_roundSignificant (n : Nat) : n - n / 2 ^ 52 ≤ roundSignificant n := by
  by_cases hlog : n.log2 < 53
  · rw [roundSignificant_of_log2_lt hlog]
    exact Nat.sub_le n _
  have hn : n ≠ 0 := by
    rintro rfl
    exact hlog (by decide)
  have hunit : 2 ^ (n.log2 - 52) ≤ n / 2 ^ 52 := by
    rw [Nat.le_div_iff_mul_le (Nat.two_pow_pos 52), ← Nat.pow_add, Nat.sub_add_cancel (by omega)]
    exact Nat.log2_self_le hn
  -- What is cut off is less than one unit of the last place.
  have hdivide := Nat.div_add_mod n (2 ^ (n.log2 - 52))
  have hrest : n % 2 ^ (n.log2 - 52) < 2 ^ (n.log2 - 52) := Nat.mod_lt _ (Nat.two_pow_pos _)
  rw [Nat.mul_comm] at hdivide
  simp only [roundSignificant, Nat.one_shiftLeft]
  split
  · rw [Nat.succ_mul]
    omega
  · omega

namespace Zip

/-- A size that gets no room for large sizes is not above the limit. -/
theorem le_of_needsRoom?_eq_false {limit size : Nat} (h : needsRoom? limit size = some false) :
    size ≤ limit := by
  have hdown := sub_le_roundSignificant size
  have hproduct := sub_le_roundSignificant (roundSignificant size * scaledFactor)
  simp only [needsRoom?, Int.natAbs_natCast] at h
  split at h
  · cases h
  · by_cases hzero : size = 0
    · omega
    have hsign : (size : Int).sign = 1 := Int.sign_eq_one_of_pos (by omega)
    have hle := of_decide_eq_false (Option.some.inj h)
    rw [hsign, Int.one_mul] at hle
    unfold scale scaledFactor at *
    omega

/-! ## Entries to be written -/

/-- An entry that is to be written: its name, its declared size, if any, and its data in pieces. -/
structure Draft where
  name : String
  declared : Option Nat := none
  pieces : List Bytes
  deriving DecidableEq

namespace Draft

def data (d : Draft) : Bytes := d.pieces.flatten

/-- The name has a UTF-8 form, and it and the sizes fit the format. Nothing is declared, or a size that is not exceeded, or
the data are within the limit anyway. -/
structure Fits (limit : Nat) (d : Draft) : Prop where
  form : (Text.utf8? d.name).isSome = true
  name : (Text.utf8 d.name).length ≤ 65535
  data : d.data.length < 2 ^ 64
  declared : ∀ size, d.declared = some size →
    size < 2 ^ 64 ∧ (d.data.length ≤ size ∨ d.data.length ≤ limit)

instance (limit : Nat) (d : Draft) : Decidable (d.Fits limit) :=
  decidable_of_iff
    ((Text.utf8? d.name).isSome = true ∧ (Text.utf8 d.name).length ≤ 65535 ∧ d.data.length < 2 ^ 64 ∧
      ∀ size ∈ d.declared, size < 2 ^ 64 ∧ (d.data.length ≤ size ∨ d.data.length ≤ limit))
    ⟨fun h => ⟨h.1, h.2.1, h.2.2.1, h.2.2.2⟩, fun h => ⟨h.form, h.name, h.data, h.declared⟩⟩

variable {limit : Nat} {d : Draft}

theorem Fits.canHold (h : d.Fits limit) : Writer.CanHold d.name (d.declared.map Int.ofNat) := by
  refine ⟨Nat.lt_succ_of_le h.name, ?_⟩
  intro size hsize
  obtain ⟨n, hn, rfl⟩ := Option.map_eq_some_iff.1 hsize
  refine ⟨Int.natCast_nonneg n, ?_⟩
  have hlt := (h.declared n hn).1
  show (n : Int) < 2 ^ 64
  omega

/-- An entry whose header has no room for large sizes needs none. -/
theorem Fits.le_of_roomFor (h : d.Fits limit)
    (hroom : Writer.roomFor limit (d.declared.map Int.ofNat) = false) : d.data.length ≤ limit := by
  cases hdeclared : d.declared with
  | none =>
    rw [hdeclared] at hroom
    cases hroom
  | some size =>
    rw [hdeclared] at hroom
    obtain ⟨hlt, hdata⟩ := h.declared size hdeclared
    have hsome := @Writer.needsRoom?_isSome limit size ⟨by omega, by omega⟩
    obtain ⟨room, hneeds⟩ := Option.isSome_iff_exists.1 hsome
    have hno : room = false := by
      simpa [Writer.roomFor, hneeds] using hroom
    rw [hno] at hneeds
    have hsize := le_of_needsRoom?_eq_false hneeds
    omega

end Draft

namespace Writer

/-- Write pieces to an entry. -/
def fill (handle : Nat) : List Bytes → Action Writer Unit
  | [] => .done ()
  | piece :: rest => do
    Writer.write handle piece
    fill handle rest

/-- Open an entry, write its data, and close it. -/
def writeDraft (d : Draft) : Action Writer Unit := do
  let handle ← Writer.openEntry d.name (d.declared.map Int.ofNat)
  (fill handle d.pieces).ensuring (Writer.closeEntry handle)

/-- Write one entry after the other. -/
def writeDrafts : List Draft → Action Writer Unit
  | [] => .done ()
  | d :: rest => do
    writeDraft d
    writeDrafts rest

variable {limit : Nat} {w : Writer} {blocks : List (Block limit)}

theorem Within.fill {handle : Nat} {name : String} {room : Bool} {data : Bytes}
    (h : Within w blocks handle name room data) (pieces : List Bytes) :
    ∃ w', (Writer.fill handle pieces).run w = (.ok (), w') ∧
      Within w' blocks handle name room (data ++ pieces.flatten) := by
  induction pieces generalizing w data with
  | nil => exact ⟨w, rfl, by simpa using h⟩
  | cons piece rest ih =>
    obtain ⟨w₁, hrun, hwithin⟩ := h.write piece
    obtain ⟨w₂, hrest, hfilled⟩ := ih hwithin
    refine ⟨w₂, (Action.run_bind_ok hrun).trans hrest, ?_⟩
    rwa [List.flatten_cons, ← List.append_assoc]

/-- An entry that fits becomes a block. The header that is written when it is opened is as long as
the one that takes its place. -/
theorem Between.writeDraft (hlimit : (limit : Int) < fullField) (h : Between w blocks) {d : Draft}
    (hd : d.Fits limit) :
    ∃ (handle : Nat) (first : Bytes) (w₁ : Writer) (b : Block limit) (w₂ : Writer),
      (Writer.openEntry d.name (d.declared.map Int.ofNat)).run w = (.ok handle, w₁) ∧
      w₁.file.content = w.file.content ++ first ∧ b.header.length = first.length ∧
      (Writer.writeDraft d).run w = (.ok (), w₂) ∧ Between w₂ (blocks ++ [b]) ∧
      b.entry.name = d.name ∧ b.data = d.data := by
  rcases h.openEntry hlimit d.name (d.declared.map Int.ofNat) with
    ⟨_, _, -, -, -, hnot⟩ | ⟨fault, _, -, hfault, -⟩ | ⟨handle, w₁, hopen, hwithin⟩
  · exact absurd hd.canHold hnot
  · rw [Text.encodingFault?_eq_none_iff.2 hd.form] at hfault
    cases hfault
  obtain ⟨first, hfirst, hcontent⟩ := hwithin.content
  obtain ⟨w₂, hfill, hfilled⟩ := hwithin.fill d.pieces
  rw [List.nil_append] at hfilled
  rcases hfilled.closeEntry hlimit with
    ⟨_, _, -, -, -, hlarge⟩ | ⟨b, w₃, hclose, hname, hroom, hdata, hbetween⟩
  · -- Data above the limit have room for their sizes.
    rcases hlarge with ⟨hroom, hlarge⟩ | hhuge
    · have hsmall := hd.le_of_roomFor hroom
      unfold Draft.data at hsmall
      omega
    · exact absurd hd.data (Nat.not_lt.2 hhuge)
  · refine ⟨handle, first, w₁, b, w₃, hopen, ?_, ?_, ?_, hbetween, hname, hdata⟩
    · rw [hcontent, h.content, List.append_nil]
    · rw [Entry.length_localHeader b.header_eq, hname, hroom, hfirst]
    · exact (Action.run_bind_ok hopen).trans (Action.ensuring_ok hfill hclose)

/-- All entries that fit become blocks, one behind the other. -/
theorem Between.writeDrafts (hlimit : (limit : Int) < fullField) (h : Between w blocks)
    {drafts : List Draft} (hdrafts : ∀ d ∈ drafts, d.Fits limit) :
    ∃ (more : List (Block limit)) (w' : Writer),
      (Writer.writeDrafts drafts).run w = (.ok (), w') ∧ Between w' (blocks ++ more) ∧
      List.Forall₂ (fun (b : Block limit) d => b.entry.name = d.name ∧ b.data = d.data) more
        drafts := by
  induction drafts generalizing w blocks with
  | nil => exact ⟨[], w, rfl, by simpa using h, .nil⟩
  | cons d rest ih =>
    obtain ⟨_, _, _, b, w₁, -, -, -, hrun, hbetween, hname, hdata⟩ :=
      h.writeDraft hlimit (hdrafts d List.mem_cons_self)
    obtain ⟨more, w₂, hrest, hall, hmore⟩ :=
      ih hbetween fun e he => hdrafts e (List.mem_cons_of_mem _ he)
    refine ⟨b :: more, w₂, (Action.run_bind_ok hrun).trans hrest, ?_, .cons ⟨hname, hdata⟩ hmore⟩
    rwa [List.append_assoc] at hall

/-! ## Blocks without gaps -/

theorem sown_of_areLaid {limit : Int} {blocks : List (Block limit)} {front : Bytes}
    {plots : List (Plot limit)} (hsown : Sown front plots) (hlaid : AreLaid front.length blocks) :
    Sown (front ++ blocks.flatMap Block.bytes) (plots ++ blocks.map Block.toPlot) := by
  induction blocks generalizing front plots with
  | nil => simpa using hsown
  | cons b rest ih =>
    have hfirst : Sown (front ++ b.bytes) (plots ++ [b.toPlot]) :=
      Sown.plot (p := b.toPlot) hsown hlaid.1
    have hrest := ih hfirst (by rw [List.length_append]; exact hlaid.2)
    simpa only [List.flatMap_cons, List.map_cons, List.append_assoc, List.singleton_append] using
      hrest

/-- Blocks in a row are plots with nothing between them. -/
theorem Between.paused {limit : Int} {blocks : List (Block limit)} (h : Between w blocks) :
    Paused .stored w (blocks.map Block.toPlot) (blocks.flatMap Block.bytes) [] where
  method_eq := h.method
  limit_eq := h.limit
  entries := by
    rw [h.entries, List.map_map]
    rfl
  methods := by
    intro p hp
    obtain ⟨b, -, rfl⟩ := List.mem_map.1 hp
    exact b.method_eq
  sown := sown_of_areLaid .nil h.laid
  directoryStart := by rw [h.directoryStart, h.content]
  isClosed := h.isClosed
  isOpen := h.takesAll.isOpen
  content := by rw [h.content, List.append_nil]
  current := h.current

end Writer

/-! ## Reading from both ends -/

/-- What is found in a block when it is come across from the beginning. -/
def Block.scannedEntry {limit : Int} (b : Block limit) : ScannedEntry :=
  { b.entry.fields with offset := b.entry.offset, raw := b.data }

theorem Block.bytes_ne_nil {limit : Int} (b : Block limit) : 0 < b.bytes.length := by
  have hheader := Entry.length_localHeader b.header_eq
  rw [Block.bytes, List.length_append, hheader, Entry.localLength]
  omega

/-- Blocks that lie one behind the other are found one after the other. -/
theorem scanFrom?_blocks {limit : Int} (hlimit : limit < fullField) {blocks : List (Block limit)}
    {start fuel : Nat} (hlaid : AreLaid start blocks)
    (hfuel : (blocks.flatMap Block.bytes).length < fuel) (rest : Bytes) :
    scanFrom? (start + (blocks.flatMap Block.bytes).length) fuel start
        (blocks.flatMap Block.bytes ++ rest)
      = some (blocks.map Block.scannedEntry) := by
  induction blocks generalizing start fuel with
  | nil =>
    cases fuel with
    | zero => exact absurd hfuel (Nat.not_lt_zero _)
    | succ fuel => simp [scanFrom?]
  | cons b blocks ih =>
    have hpos := b.bytes_ne_nil
    rw [List.flatMap_cons, List.length_append] at hfuel ⊢
    cases fuel with
    | zero => exact absurd hfuel (Nat.not_lt_zero _)
    | succ fuel =>
      let later := blocks.flatMap Block.bytes ++ rest
      have hstart : start ≠ start + (b.bytes.length + (blocks.flatMap Block.bytes).length) := by
        omega
      have hsplit : b.bytes ++ blocks.flatMap Block.bytes ++ rest
          = b.header ++ (b.data ++ later) := by
        simp only [Block.bytes, later, List.append_assoc]
      have hheader := Entry.read_localHeader hlimit b.room_suffices b.header_eq (b.data ++ later)
      have htake : takeBytes? b.entry.fields.compressedSize (b.data ++ later)
          = some (b.data, later) := by
        rw [Entry.fields, b.compressedSize_eq]
        exact takeBytes?_append b.data later
      have hnext : start + ((b.header ++ (b.data ++ later)).length - later.length)
          = start + b.bytes.length := by
        simp only [Block.bytes, List.length_append]
        omega
      have hroom : (blocks.flatMap Block.bytes).length < fuel := by omega
      have hrest := ih hlaid.2 hroom
      rw [Nat.add_assoc] at hrest
      rw [scanFrom?, if_neg hstart, hsplit, hheader]
      simp only [Option.bind_eq_bind, Option.bind_some, htake, hnext, later, hrest]
      rw [← hlaid.1]
      rfl

/-- Entries lie one behind the other from one position to another one: each begins where the data of
the one before it end. -/
def IsTiling : Nat → List StoredEntry → Nat → Prop
  | start, [], finish => start = finish
  | start, e :: rest, finish => e.offset = start ∧ IsTiling (e.dataStart + e.raw.length) rest finish

theorem isTiling_of_areLaid {limit : Int} {blocks : List (Block limit)} {start : Nat}
    (h : AreLaid start blocks) :
    IsTiling start (blocks.map Block.storedEntry)
      (start + (blocks.flatMap Block.bytes).length) := by
  induction blocks generalizing start with
  | nil => exact (Nat.add_zero start).symm
  | cons b rest ih =>
    have hfinish : b.storedEntry.dataStart + b.storedEntry.raw.length = start + b.bytes.length := by
      simp only [Block.storedEntry, Block.bytes, List.length_append, h.1]
      omega
    refine ⟨h.1, ?_⟩
    rw [hfinish, List.flatMap_cons, List.length_append, ← Nat.add_assoc]
    exact ih h.2

/-- What was come across from the beginning is what the directory tells of. -/
structure SameEntry (s : ScannedEntry) (e : StoredEntry) : Prop where
  name : s.name = e.name
  size : s.size = e.size
  compressedSize : s.compressedSize = e.compressedSize
  crc : s.crc = e.crc
  offset : s.offset = e.offset
  data : s.raw = e.data

/-- An entry is what was to be written. -/
structure IsWritten (e : StoredEntry) (d : Draft) : Prop where
  name : e.name = d.name
  data : e.data = d.data
  size : e.size = d.data.length
  crc : e.crc = d.data.crc32.toNat

/-- An archive reads the same from both ends, and as what was written: the entries that are found
from its beginning are those that its directory lists, in the same order, without a gap or an
overlap up to the directory. -/
def ReadsAs (archive : Bytes) (drafts : List Draft) : Prop :=
  ∃ place entries scanned, directoryPlace? archive = some place ∧
    entries? archive = some entries ∧ scan? archive = some scanned ∧
    IsTiling 0 entries place.offset ∧ List.Forall₂ SameEntry scanned entries ∧
    List.Forall₂ IsWritten entries drafts

/-- An archive of blocks reads the same from both ends. -/
theorem readsAs_archive {limit : Int} (hlimit : limit < fullField) {blocks : List (Block limit)}
    (hlaid : AreLaid 0 blocks) {directory : Bytes} {pieces : List Bytes}
    (hdirectory : directoryBytes? limit (blocks.map Block.entry) = some directory)
    (hend : endRecords? limit (placeOf blocks directory) = some pieces) {drafts : List Draft}
    (hdrafts : List.Forall₂ (fun (b : Block limit) d => b.entry.name = d.name ∧ b.data = d.data)
      blocks drafts) :
    ReadsAs (blocks.flatMap Block.bytes ++ directory ++ pieces.flatten) drafts := by
  have hplace := (@directory?_append limit hlimit (blocks.flatMap Block.bytes) _ _ _ hdirectory
    (by simpa [placeOf] using hend)).1
  have htiling := isTiling_of_areLaid hlaid
  have hscan := scanFrom?_blocks hlimit hlaid (Nat.lt_succ_self _) (directory ++ pieces.flatten)
  rw [Nat.zero_add] at htiling hscan
  refine ⟨_, _, blocks.map Block.scannedEntry, hplace,
    entries?_archive hlimit hlaid hdirectory hend, ?_, htiling, ?_, ?_⟩
  · rw [scan?, hplace]
    simp only [Option.bind_eq_bind, Option.bind_some]
    rw [List.append_assoc]
    exact hscan
  · rw [List.forall₂_map_left_iff, List.forall₂_map_right_iff, List.forall₂_same]
    intro b _
    exact ⟨rfl, rfl, rfl, rfl, rfl, rfl⟩
  · rw [List.forall₂_map_left_iff]
    apply hdrafts.imp
    rintro b d ⟨hname, hdata⟩
    refine ⟨hname, hdata, ?_, ?_⟩
    · rw [← hdata]
      exact b.size_eq
    · rw [← hdata]
      exact congrArg UInt32.toNat b.crc_eq

/-! ## From the first entry to the archive -/

namespace Writer

variable {limit : Nat}

/-- On a file that takes all writes, entries that fit are written one after the other, and the
archive is completed, unless it gets too long. The header of each entry that is written when it is
opened is as long as the one that is in its place when it is closed. The archive reads the same from
both ends. -/
theorem writeDrafts_scan {file : File} (htakes : file.TakesAll) (hempty : file.content = [])
    (hlimit : (limit : Int) ≤ standardLimit) {drafts : List Draft}
    (hdrafts : ∀ d ∈ drafts, d.Fits limit)
    (hlength : ((writeDrafts drafts).run (new file .stored limit)).2.complete.2.file.content.length
      < 2 ^ 64) :
    (∀ earlier d later, drafts = earlier ++ d :: later →
      ∃ (w w₁ w₂ : Writer) (handle : Nat) (first header : Bytes),
        (writeDrafts earlier).run (new file .stored limit) = (.ok (), w) ∧
        (Writer.openEntry d.name (d.declared.map Int.ofNat)).run w = (.ok handle, w₁) ∧
        w₁.file.content = w.file.content ++ first ∧
        (writeDraft d).run w = (.ok (), w₂) ∧
        w₂.file.content = w.file.content ++ (header ++ d.data) ∧
        (∃ fields, localHeader? (header ++ d.data) = some (fields, d.data)) ∧
        header.length = first.length) ∧
    ∃ (w w' : Writer) (archive : ArchiveFile),
      (writeDrafts drafts).run (new file .stored limit) = (.ok (), w) ∧
      w.complete = (.ok archive, w') ∧ archive.size = archive.file.content.length ∧
      ReadsAs archive.file.content drafts := by
  have hfull : (limit : Int) < fullField := by
    unfold standardLimit at hlimit
    unfold fullField
    omega
  have hnew : Between (new file .stored limit) ([] : List (Block limit)) :=
    new_between htakes hempty
  constructor
  · rintro earlier d later rfl
    obtain ⟨blocks, w, hrun, hbetween, -⟩ := hnew.writeDrafts hfull
      fun e he => hdrafts e (List.mem_append_left _ he)
    obtain ⟨handle, first, w₁, b, w₂, hopen, hfirst, hheader, hwrite, hlater, -, hdata⟩ :=
      hbetween.writeDraft hfull (hdrafts d (List.mem_append_right _ List.mem_cons_self))
    have hread := Entry.read_localHeader hfull b.room_suffices b.header_eq d.data
    refine ⟨w, w₁, w₂, handle, first, b.header, hrun, hopen, hfirst, hwrite, ?_, ⟨_, hread⟩,
      hheader⟩
    rw [hlater.content, hbetween.content, List.flatMap_append, List.flatMap_singleton, Block.bytes,
      hdata]
  · obtain ⟨blocks, w, hrun, hbetween, hwritten⟩ := hnew.writeDrafts hfull hdrafts
    rw [List.nil_append] at hbetween
    rw [hrun] at hlength
    rcases hbetween.complete with
      ⟨w', hfailed, -⟩ | ⟨archive, w', directory, pieces, hcomplete, hdirectory, hend, -, hcontent,
        hsize⟩
    · -- The archive would have to be too long for its numbers.
      rw [hfailed] at hlength
      obtain ⟨archive, hok⟩ := hbetween.paused.completes hfull hbetween.takesAll
        hbetween.isFinalized hfailed hlength
      cases hok
    · refine ⟨w, w', archive, hrun, hcomplete, hsize, ?_⟩
      rw [hcontent]
      exact readsAs_archive hfull hbetween.laid hdirectory hend hwritten

def sampleLimit : Nat := 2

/-- Above the limit: an entry of a declared size and one of an unknown size. Below it: an entry
without data, and one that gets longer than declared. -/
def sampleDrafts : List Draft :=
  [{ name := "a.jpg", declared := some 3, pieces := [[1, 2], [3]] },
    { name := "b.jpg", pieces := [[4, 5, 6, 7]] },
    { name := "c.jpg", declared := some 0, pieces := [] },
    { name := "d.jpg", declared := some 1, pieces := [[8], [9]] }]

theorem writeDrafts_scan_sample :
    (sampleLimit : Int) ≤ standardLimit ∧ (∀ d ∈ sampleDrafts, d.Fits sampleLimit) ∧
    ((writeDrafts sampleDrafts).run
      (new {} .stored sampleLimit)).2.complete.2.file.content.length < 2 ^ 64 ∧
    ∃ (w w' : Writer) (archive : ArchiveFile),
      (writeDrafts sampleDrafts).run (new {} .stored sampleLimit) = (.ok (), w) ∧
      w.complete = (.ok archive, w') ∧ ReadsAs archive.file.content sampleDrafts := by
  have hlimit : (sampleLimit : Int) ≤ standardLimit := by decide
  have hdrafts : ∀ d ∈ sampleDrafts, d.Fits sampleLimit := by decide +kernel
  have hlength : ((writeDrafts sampleDrafts).run
      (new {} .stored sampleLimit)).2.complete.2.file.content.length < 2 ^ 64 := by
    decide +kernel
  have htakes : File.TakesAll {} := ⟨rfl, fun _ _ _ => rfl⟩
  obtain ⟨-, w, w', archive, hrun, hcomplete, -, hreads⟩ :=
    writeDrafts_scan htakes rfl hlimit hdrafts hlength
  exact ⟨hlimit, hdrafts, hlength, w, w', archive, hrun, hcomplete, hreads⟩

end Writer

end Zip

end PhotoArchive
