import PhotoArchive.Proofs.Zip.Plots

/-!
# The layout of an archive

An archive is a row of blocks, each a local header with the data behind it, then the directory, then
the end records. A reader finds exactly the blocks, in their order.

## Main definitions

- `Block` — an entry as it lies in an archive of stored data
- `AreLaid` — blocks that lie one behind the other
- `directoryBytes?` — the directory of some entries
- `Block.storedEntry` — what a reader finds

## Main statements

- `entries?_archive` — the blocks of an archive are found
-/

namespace PhotoArchive.Zip

variable {limit : Int}

/-! ## Blocks -/

/-- An entry as it lies in an archive: its local header, whose numbers are those of its data, and the
data as they are. -/
structure Block (limit : Int) where
  entry : Entry
  /-- Whether the header has room for large sizes. -/
  room : Bool
  header : Bytes
  data : Bytes
  header_eq : entry.localHeader? limit room = some header
  room_suffices : room = true ∨ entry.isLarge limit = false
  method_eq : entry.method = 0
  size_eq : entry.size = data.length
  compressedSize_eq : entry.compressedSize = data.length
  crc_eq : entry.crc = data.crc32

namespace Block

def bytes (b : Block limit) : Bytes := b.header ++ b.data

/-- The name, whether there is room for large sizes, and the data. -/
def content (b : Block limit) : String × Bool × Bytes := (b.entry.name, b.room, b.data)

/-- What a reader finds. -/
def storedEntry (b : Block limit) : StoredEntry :=
  { b.entry.centralFields limit with
    dataStart := b.entry.offset + b.header.length
    raw := b.data
    data := b.data }

/-- A block is a plot that has got all its data. -/
def toPlot (b : Block limit) : Plot limit :=
  { b with
    raw := b.data
    isWhole := true
    whole := fun _ => ⟨b.compressedSize_eq, by rw [b.method_eq, unpacked?]⟩ }

/-- A block is found where its record in the directory says. -/
theorem entryOf?_eq (hlimit : limit < fullField) (b : Block limit) {before : Bytes}
    (hbefore : before.length = b.entry.offset) (rest : Bytes) :
    entryOf? (before ++ (b.bytes ++ rest)) (b.entry.centralFields limit) = some b.storedEntry :=
  b.toPlot.entryOf?_eq hlimit rfl hbefore rest

end Block

/-- Blocks that lie one behind the other from a position on, each where its entry says. -/
def AreLaid : Nat → List (Block limit) → Prop
  | _, [] => True
  | start, b :: rest => b.entry.offset = start ∧ AreLaid (start + b.bytes.length) rest

theorem AreLaid.concat {start : Nat} {blocks : List (Block limit)} {b : Block limit}
    (h : AreLaid start blocks)
    (hb : b.entry.offset = start + (blocks.flatMap Block.bytes).length) :
    AreLaid start (blocks ++ [b]) := by
  induction blocks generalizing start with
  | nil => exact ⟨by simpa using hb, trivial⟩
  | cons first rest ih =>
    refine ⟨h.1, ih h.2 ?_⟩
    rw [hb, List.flatMap_cons, List.length_append, Nat.add_assoc]

/-- Blocks that lie one behind the other are found from their records. -/
theorem mapM_entryOf? (hlimit : limit < fullField) {blocks : List (Block limit)} {before : Bytes}
    (h : AreLaid before.length blocks) (rest : Bytes) :
    (blocks.map fun b => b.entry.centralFields limit).mapM
      (entryOf? (before ++ (blocks.flatMap Block.bytes ++ rest)))
        = some (blocks.map Block.storedEntry) := by
  induction blocks generalizing before with
  | nil => rfl
  | cons b blocks ih =>
    have hb := b.entryOf?_eq hlimit h.1.symm (blocks.flatMap Block.bytes ++ rest)
    have hlaid : AreLaid (before ++ b.bytes).length blocks := by
      rw [List.length_append]
      exact h.2
    have hrest := ih hlaid
    simp only [List.flatMap_cons, List.append_assoc] at hrest ⊢
    rw [List.map_cons, List.mapM_cons, hb, hrest]
    rfl

/-! ## The directory -/

/-- The directory of some entries. There is none if a number does not fit its field. -/
def directoryBytes? (limit : Int) : List Entry → Option Bytes
  | [] => some []
  | entry :: rest => do
    return (← entry.centralRecord? limit).flatten ++ (← directoryBytes? limit rest)

theorem directoryBytes?_cons_eq_some_iff {entry : Entry} {rest : List Entry} {b : Bytes} :
    directoryBytes? limit (entry :: rest) = some b ↔
      ∃ pieces tail, entry.centralRecord? limit = some pieces ∧
        directoryBytes? limit rest = some tail ∧ pieces.flatten ++ tail = b := by
  simp [directoryBytes?, Option.bind_eq_some_iff]

theorem read_directory (hlimit : limit < fullField) {entries : List Entry} {directory : Bytes}
    (h : directoryBytes? limit entries = some directory) (rest : Bytes) :
    centralRecords? entries.length (directory ++ rest)
      = some (entries.map (Entry.centralFields limit), rest) := by
  induction entries generalizing directory with
  | nil =>
    cases h
    rfl
  | cons entry entries ih =>
    obtain ⟨pieces, tail, hpieces, htail, rfl⟩ := directoryBytes?_cons_eq_some_iff.1 h
    have hfirst := Entry.read_centralRecord hlimit hpieces (tail ++ rest)
    rw [List.append_assoc, List.length_cons, centralRecords?, hfirst]
    simp [ih htail]

/-- The directory is found behind anything, with the records of its entries. -/
theorem directory?_append (hlimit : limit < fullField) {front directory : Bytes}
    {entries : List Entry} {pieces : List Bytes}
    (hdirectory : directoryBytes? limit entries = some directory)
    (hend : endRecords? limit
      { count := entries.length, size := directory.length, offset := front.length } = some pieces) :
    directoryPlace? (front ++ directory ++ pieces.flatten)
        = some { count := entries.length, size := directory.length, offset := front.length } ∧
      directory? (front ++ directory ++ pieces.flatten)
        = some (entries.map (Entry.centralFields limit)) := by
  have hplace := @read_endRecords limit _ _ (front ++ directory) hend List.length_append
  have hrecords := read_directory hlimit hdirectory []
  have hcut : ((front ++ directory ++ pieces.flatten).drop front.length).take directory.length
      = directory := by
    rw [List.append_assoc, List.drop_left, List.take_left]
  rw [List.append_nil] at hrecords
  refine ⟨hplace, ?_⟩
  rw [directory?, hplace]
  simp only [Option.bind_eq_bind, Option.bind_some, hcut, hrecords, List.isEmpty_nil, if_true]
  rfl

/-- The place of the directory behind some blocks. -/
def placeOf (blocks : List (Block limit)) (directory : Bytes) : DirectoryPlace where
  count := blocks.length
  size := directory.length
  offset := (blocks.flatMap Block.bytes).length

theorem length_directoryBytes? {entries : List Entry} {directory : Bytes}
    (h : directoryBytes? limit entries = some directory) :
    directory.length = (entries.map (Entry.centralLength limit)).sum := by
  induction entries generalizing directory with
  | nil =>
    cases h
    rfl
  | cons entry rest ih =>
    obtain ⟨pieces, tail, hpieces, htail, rfl⟩ := directoryBytes?_cons_eq_some_iff.1 h
    rw [List.length_append, Entry.length_centralRecord hpieces, ih htail, List.map_cons,
      List.sum_cons]

/-- No record is empty, so there are no more entries than the directory has bytes. -/
theorem length_le_sum_centralLength (limit : Int) (entries : List Entry) :
    entries.length ≤ (entries.map (Entry.centralLength limit)).sum := by
  induction entries with
  | nil => exact Nat.zero_le _
  | cons entry rest ih =>
    simp only [List.length_cons, List.map_cons, List.sum_cons, Entry.centralLength]
    omega

theorem isSome_directoryBytes? {entries : List Entry}
    (h : ∀ entry ∈ entries, (entry.centralRecord? limit).isSome) :
    (directoryBytes? limit entries).isSome := by
  induction entries with
  | nil => rfl
  | cons entry rest ih =>
    obtain ⟨pieces, hpieces⟩ := Option.isSome_iff_exists.1 (h entry List.mem_cons_self)
    obtain ⟨tail, htail⟩ := Option.isSome_iff_exists.1
      (ih fun e he => h e (List.mem_cons_of_mem _ he))
    exact Option.isSome_iff_exists.2
      ⟨_, directoryBytes?_cons_eq_some_iff.2 ⟨pieces, tail, hpieces, htail, rfl⟩⟩

/-- No block is longer than all of them, and none begins behind them. -/
theorem AreLaid.bounds {start : Nat} {blocks : List (Block limit)} (h : AreLaid start blocks)
    {b : Block limit} (hb : b ∈ blocks) :
    b.entry.offset + b.data.length ≤ start + (blocks.flatMap Block.bytes).length := by
  induction blocks generalizing start with
  | nil => cases hb
  | cons first rest ih =>
    rw [List.flatMap_cons, List.length_append]
    rcases List.mem_cons.1 hb with rfl | hb
    · have hoffset := h.1
      simp only [Block.bytes, List.length_append]
      omega
    · have := ih h.2 hb
      omega

/-- There is an archive of some blocks exactly when the end of its directory fits. -/
theorem isSome_archive (hlimit : limit < fullField) {blocks : List (Block limit)}
    (hlaid : AreLaid 0 blocks) :
    (∃ directory pieces, directoryBytes? limit (blocks.map Block.entry) = some directory ∧
      endRecords? limit (placeOf blocks directory) = some pieces) ↔
    (blocks.flatMap Block.bytes).length
      + ((blocks.map Block.entry).map (Entry.centralLength limit)).sum < 2 ^ 64 := by
  have hcount := length_le_sum_centralLength limit (blocks.map Block.entry)
  rw [List.length_map] at hcount
  constructor
  · rintro ⟨directory, pieces, hdirectory, hpieces⟩
    have hlength := length_directoryBytes? hdirectory
    have hfit := (isSome_endRecords? hlimit (by simpa [placeOf, hlength] using hcount)).1
      (Option.isSome_iff_exists.2 ⟨pieces, hpieces⟩)
    rw [← hlength]
    exact hfit
  · intro hfit
    -- All numbers of the records lie before the end of the directory.
    have hrecords : ∀ entry ∈ blocks.map Block.entry, (entry.centralRecord? limit).isSome := by
      intro entry hentry
      obtain ⟨b, hb, rfl⟩ := List.mem_map.1 hentry
      have hbound := hlaid.bounds hb
      obtain ⟨hversion, hform, hname⟩ := Entry.of_localHeader? b.header_eq
      have hmethod : b.entry.method < 2 ^ 16 := by
        rw [b.method_eq]
        decide
      refine (Entry.isSome_centralRecord? hlimit hmethod hversion).2 ⟨hform, hname, ?_⟩
      intro n hn
      rcases Entry.mem_largeNumbers hn with rfl | rfl | rfl
      · rw [b.size_eq]
        omega
      · rw [b.compressedSize_eq]
        omega
      · omega
    obtain ⟨directory, hdirectory⟩ := Option.isSome_iff_exists.1 (isSome_directoryBytes? hrecords)
    have hlength := length_directoryBytes? hdirectory
    obtain ⟨pieces, hpieces⟩ := Option.isSome_iff_exists.1
      ((@isSome_endRecords? limit hlimit (placeOf blocks directory)
        (by simpa [placeOf, hlength] using hcount)).2 (by simpa [placeOf, hlength] using hfit))
    exact ⟨directory, pieces, hdirectory, hpieces⟩

/-- The blocks of an archive are found, and nothing else. -/
theorem entries?_archive (hlimit : limit < fullField) {blocks : List (Block limit)}
    (hlaid : AreLaid 0 blocks) {directory : Bytes} {pieces : List Bytes}
    (hdirectory : directoryBytes? limit (blocks.map Block.entry) = some directory)
    (hend : endRecords? limit (placeOf blocks directory) = some pieces) :
    entries? (blocks.flatMap Block.bytes ++ directory ++ pieces.flatten)
      = some (blocks.map Block.storedEntry) := by
  have hread := (@directory?_append limit hlimit (blocks.flatMap Block.bytes) _ _ _ hdirectory
    (by simpa [placeOf] using hend)).2
  have hentries := @mapM_entryOf? limit hlimit blocks [] hlaid (directory ++ pieces.flatten)
  rw [entries?, hread]
  simpa [Function.comp_def] using hentries

end PhotoArchive.Zip
