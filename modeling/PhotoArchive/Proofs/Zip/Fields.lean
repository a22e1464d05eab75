import Mathlib.Algebra.Group.Int.Defs
import Mathlib.Algebra.GroupWithZero.Nat
import PhotoArchive.Zip.Directory

/-!
# Records are read back

What the writer puts into a record is what a reader takes out of it, and it takes no byte of what
follows.

## Main definitions

- `Entry.fields`, `Entry.centralFields` — what a reader finds out about an entry

## Main statements

- `takeNumbers?_fields` — the numbers of a record are read back
- `Entry.read_localHeader`, `Entry.read_centralRecord` — the two records of an entry
- `read_endRecords` — the records behind the directory, from the end of the archive

## Design notes

All of this holds for every limit below `fullField`: a number that is written into one of the older
fields is then never taken for the sign that it is found in the extra field.
-/

namespace PhotoArchive

/-! ## Numbers in a record -/

namespace Bytes

/-- A byte takes one of 256 values. -/
theorem shiftLeft_eq_pow (width : Nat) : 1 <<< (8 * width) = 256 ^ width := by
  rw [Nat.one_shiftLeft, Nat.pow_mul]

theorem of_fields?_cons {width n : Nat} {fields : List (Nat × Nat)} {b : Bytes}
    (h : fields? ((width, n) :: fields) = some b) :
    n < 1 <<< (8 * width) ∧ ∃ rest, fields? fields = some rest ∧ b = number width n ++ rest := by
  rw [fields?] at h
  split at h
  · next hn =>
    obtain ⟨rest, hrest, rfl⟩ := Option.map_eq_some_iff.1 h
    exact ⟨hn, rest, hrest, rfl⟩
  · cases h

theorem length_of_fields? {fields : List (Nat × Nat)} {b : Bytes} (h : fields? fields = some b) :
    b.length = (fields.map Prod.fst).sum := by
  induction fields generalizing b with
  | nil =>
    cases h
    rfl
  | cons field rest ih =>
    obtain ⟨-, tail, htail, rfl⟩ := of_fields?_cons h
    simp [ih htail]

/-- There is a record exactly when every number fits its width. -/
theorem isSome_fields? (fields : List (Nat × Nat)) :
    (fields? fields).isSome ↔ ∀ field ∈ fields, field.2 < 256 ^ field.1 := by
  simp only [← shiftLeft_eq_pow]
  induction fields with
  | nil => simp [fields?]
  | cons field rest ih =>
    by_cases hn : field.2 < 1 <<< (8 * field.1)
    · simp [fields?, hn, ih]
    · simp [fields?, hn]

end Bytes

namespace Zip

theorem takeNumbers?_fields {fields : List (Nat × Nat)} {b : Bytes}
    (h : Bytes.fields? fields = some b) (rest : Bytes) :
    takeNumbers? (fields.map Prod.fst) (b ++ rest) = some (fields.map Prod.snd, rest) := by
  induction fields generalizing b with
  | nil =>
    cases h
    rfl
  | cons field fields ih =>
    obtain ⟨width, n⟩ := field
    obtain ⟨hn, tail, htail, rfl⟩ := Bytes.of_fields?_cons h
    have htake : takeNumber? width (Bytes.number width n ++ (tail ++ rest))
        = some (n, tail ++ rest) := by
      have hlength := Bytes.length_number width n
      rw [takeNumber?, if_pos (by simp), List.take_left' hlength, List.drop_left' hlength,
        Bytes.value_number hn]
    simp only [List.map_cons, takeNumbers?, List.append_assoc, htake, ih htail,
      Option.bind_eq_bind, Option.bind_some, Option.pure_def]

theorem takeBytes?_append (b rest : Bytes) : takeBytes? b.length (b ++ rest) = some (b, rest) := by
  simp [takeBytes?]

/-! ## The extra field -/

/-- The extra field for some large numbers. -/
theorem largeNumbers_fields {numbers : List Nat} {extra : Bytes}
    (h : Bytes.fields? ([(2, largeTag), (2, 8 * numbers.length)] ++ numbers.map fun n => (8, n))
      = some extra) : largeNumbers (extra.length + 1) extra = numbers := by
  obtain ⟨htag, _, h₁, rfl⟩ := Bytes.of_fields?_cons h
  obtain ⟨hlength, tail, htail, rfl⟩ := Bytes.of_fields?_cons h₁
  have htail : Bytes.fields? (numbers.map fun n => (8, n)) = some tail := htail
  have hhead : Bytes.fields? [(2, largeTag), (2, 8 * numbers.length)]
      = some (Bytes.number 2 largeTag ++ Bytes.number 2 (8 * numbers.length)) := by
    simp only [Bytes.fields?, if_pos htag, if_pos hlength, Option.map_some, List.append_nil]
  have htake := takeNumbers?_fields hhead tail
  have hnumbers := takeNumbers?_fields htail []
  simp only [List.map_cons, List.map_nil, List.append_assoc, List.append_nil] at htake hnumbers
  have hwidths : (numbers.map fun n => ((8, n) : Nat × Nat)).map Prod.fst
      = List.replicate numbers.length 8 := by
    simp [Function.comp_def, List.map_const']
  have hvalues : (numbers.map fun n => ((8, n) : Nat × Nat)).map Prod.snd = numbers := by
    simp [Function.comp_def]
  rw [hwidths, hvalues] at hnumbers
  simp only [largeNumbers, htake, if_true, Nat.mul_div_cancel_left _ (by decide : 0 < 8),
    hnumbers, Option.map_some, Option.getD_some]

theorem largeNumbers_nil (fuel : Nat) : largeNumbers fuel [] = [] := by
  cases fuel <;> simp [largeNumbers, takeNumbers?, takeNumber?]

theorem widen_nil (numbers : List Nat) : widen numbers [] = numbers := by
  cases numbers <;> rfl

namespace Entry

variable {limit : Int} {e : Entry}

/-- Sizes that are shown in full are found in the extra field, and others are shown as they are. -/
theorem widen_shownSize (hlimit : limit < fullField) :
    widen [e.shownSize limit e.size, e.shownSize limit e.compressedSize] [e.size, e.compressedSize]
      = [e.size, e.compressedSize] := by
  by_cases hlarge : e.isLarge limit = true
  · simp [shownSize, hlarge, widen]
  · have hsmall : (e.size : Int) ≤ limit ∧ (e.compressedSize : Int) ≤ limit := by
      simpa [isLarge] using hlarge
    have hs : e.size ≠ fullField := by omega
    have hc : e.compressedSize ≠ fullField := by omega
    simp [shownSize, hlarge, widen, hs, hc]

/-- What a reader finds out about an entry. -/
def fields (e : Entry) : Fields where
  name := e.name
  version := e.version
  flags := e.flags
  method := e.method
  time := 0
  date := entryDate
  crc := e.crc.toNat
  size := e.size
  compressedSize := e.compressedSize

/-- The numbers of a local header, given its extra field. -/
def localNumbers (limit : Int) (extra : Bytes) (e : Entry) : List (Nat × Nat) :=
  [(4, localSignature), (1, e.version), (1, 0), (2, e.flags), (2, e.method), (2, 0),
    (2, entryDate), (4, e.crc.toNat), (4, e.shownSize limit e.compressedSize),
    (4, e.shownSize limit e.size), (2, (Text.utf8 e.name).length), (2, extra.length)]

theorem localHeader?_eq_some_iff {room : Bool} {header : Bytes} :
    e.localHeader? limit room = some header ↔
      (Text.utf8? e.name).isSome = true ∧
        ∃ extra fixed, (if room then e.localExtra? else some []) = some extra ∧
          Bytes.fields? (e.localNumbers limit extra) = some fixed ∧
          fixed ++ Text.utf8 e.name ++ extra = header := by
  cases hname : Text.utf8? e.name <;> cases room <;>
    simp [localHeader?, localNumbers, Text.utf8, hname, Option.bind_eq_some_iff]

/-- A local header is read back if the sizes fit the room that it has. -/
theorem read_localHeader {room : Bool} {header : Bytes} (hlimit : limit < fullField)
    (hroom : room = true ∨ e.isLarge limit = false) (h : e.localHeader? limit room = some header)
    (rest : Bytes) : Zip.localHeader? (header ++ rest) = some (e.fields, rest) := by
  obtain ⟨hname, extra, fixed, hextra, hfixed, rfl⟩ := localHeader?_eq_some_iff.1 h
  have hlarge : widen [e.shownSize limit e.size, e.shownSize limit e.compressedSize]
      (Zip.largeNumbers (extra.length + 1) extra) = [e.size, e.compressedSize] := by
    cases room with
    | true =>
      have hnumbers := @largeNumbers_fields [e.size, e.compressedSize] extra hextra
      rw [hnumbers, widen_shownSize hlimit]
    | false =>
      cases hextra
      have hsmall : e.isLarge limit = false := by simpa using hroom
      rw [largeNumbers_nil, widen_nil]
      simp [shownSize, hsmall]
  have htake := takeNumbers?_fields hfixed (Text.utf8 e.name ++ (extra ++ rest))
  simp only [localNumbers, List.map_cons, List.map_nil] at htake
  simp [Zip.localHeader?, htake, takeBytes?_append, Text.ofUtf8?_utf8 hname, hlarge, fields]

/-- What a reader finds out about an entry in the directory. -/
def centralFields (limit : Int) (e : Entry) : CentralFields where
  toFields := { e.fields with
    version := if (e.largeNumbers limit).isEmpty then e.version else max largeVersion e.version }
  attributes := entryAttributes
  offset := e.offset

/-- The numbers of a record in the directory, given its extra field. -/
def centralNumbers (limit : Int) (extra : Bytes) (e : Entry) : List (Nat × Nat) :=
  let version := if (e.largeNumbers limit).isEmpty then e.version else max largeVersion e.version
  [(4, centralSignature), (1, version), (1, systemNumber), (1, version), (1, 0), (2, e.flags),
    (2, e.method), (2, 0), (2, entryDate), (4, e.crc.toNat),
    (4, e.shownSize limit e.compressedSize), (4, e.shownSize limit e.size),
    (2, (Text.utf8 e.name).length), (2, extra.length), (2, 0), (2, 0), (2, 0),
    (4, entryAttributes), (4, if limit < e.offset then fullField else e.offset)]

theorem centralRecord?_eq_some_iff {pieces : List Bytes} :
    e.centralRecord? limit = some pieces ↔
      (Text.utf8? e.name).isSome = true ∧
        ∃ extra fixed, e.centralExtra? limit = some extra ∧
          Bytes.fields? (e.centralNumbers limit extra) = some fixed ∧
          [fixed, Text.utf8 e.name, extra, []] = pieces := by
  cases hname : Text.utf8? e.name <;>
    simp [centralRecord?, centralNumbers, Text.utf8, hname, Option.bind_eq_some_iff]

theorem largeNumbers_centralExtra {extra : Bytes} (h : e.centralExtra? limit = some extra) :
    Zip.largeNumbers (extra.length + 1) extra = e.largeNumbers limit := by
  unfold centralExtra? at h
  split at h
  · next hnone =>
    cases h
    rw [hnone, largeNumbers_nil]
  · exact largeNumbers_fields h

/-- The sizes and the offset, wherever they are written. -/
theorem widen_largeNumbers (hlimit : limit < fullField) :
    widen [e.shownSize limit e.size, e.shownSize limit e.compressedSize,
      if limit < e.offset then fullField else e.offset] (e.largeNumbers limit)
      = [e.size, e.compressedSize, e.offset] := by
  by_cases hlarge : e.isLarge limit = true <;> by_cases hoffset : limit < e.offset
  · simp [shownSize, largeNumbers, hlarge, hoffset, widen]
  · have ho : e.offset ≠ fullField := by omega
    simp [shownSize, largeNumbers, hlarge, hoffset, widen]
  · have hsmall : (e.size : Int) ≤ limit ∧ (e.compressedSize : Int) ≤ limit := by
      simpa [isLarge] using hlarge
    have hs : e.size ≠ fullField := by omega
    have hc : e.compressedSize ≠ fullField := by omega
    simp [shownSize, largeNumbers, hlarge, hoffset, widen, hs, hc]
  · simp [shownSize, largeNumbers, hlarge, hoffset, widen]

/-- A record of the directory is read back. -/
theorem read_centralRecord {pieces : List Bytes} (hlimit : limit < fullField)
    (h : e.centralRecord? limit = some pieces) (rest : Bytes) :
    Zip.centralRecord? (pieces.flatten ++ rest) = some (e.centralFields limit, rest) := by
  obtain ⟨hname, extra, fixed, hextra, hfixed, rfl⟩ := centralRecord?_eq_some_iff.1 h
  have hlarge := widen_largeNumbers (e := e) hlimit
  rw [← largeNumbers_centralExtra hextra] at hlarge
  have htake := takeNumbers?_fields hfixed (Text.utf8 e.name ++ (extra ++ rest))
  have hcomment := takeBytes?_append [] rest
  simp only [centralNumbers, List.map_cons, List.map_nil] at htake
  simp only [List.length_nil, List.nil_append] at hcomment
  simp [Zip.centralRecord?, htake, takeBytes?_append, hcomment, Text.ofUtf8?_utf8 hname, hlarge,
    fields, centralFields]

/-! ## Which records there are -/

theorem shownSize_lt (hlimit : limit < fullField) :
    e.shownSize limit e.size < 256 ^ 4 ∧ e.shownSize limit e.compressedSize < 256 ^ 4 := by
  unfold fullField at hlimit
  by_cases hlarge : e.isLarge limit = true
  · simp [shownSize, hlarge, fullField]
  · have hsmall : (e.size : Int) ≤ limit ∧ (e.compressedSize : Int) ≤ limit := by
      simpa [isLarge] using hlarge
    simp only [shownSize, hlarge, if_false, Bool.false_eq_true]
    omega

theorem flags_lt (e : Entry) : e.flags < 256 ^ 2 := by
  unfold flags
  split <;> decide

theorem crc_lt (e : Entry) : e.crc.toNat < 256 ^ 4 := e.crc.toNat_lt

/-- The length of a local header. -/
def localLength (name : String) (room : Bool) : Nat :=
  30 + (Text.utf8 name).length + if room then 20 else 0

theorem length_localHeader {room : Bool} {header : Bytes}
    (h : e.localHeader? limit room = some header) : header.length = localLength e.name room := by
  obtain ⟨-, extra, fixed, hextra, hfixed, rfl⟩ := localHeader?_eq_some_iff.1 h
  have hlength : fixed.length = 30 := Bytes.length_of_fields? hfixed
  cases room with
  | true =>
    have hextra : extra.length = 20 := Bytes.length_of_fields? hextra
    simp [localLength, hlength, hextra, Nat.add_assoc]
  | false =>
    cases hextra
    simp [localLength, hlength]

theorem isSome_localNumbers (hlimit : limit < fullField) (hmethod : e.method < 2 ^ 16)
    (hversion : e.version < 256) {extra : Bytes} (hextra : extra.length < 2 ^ 16) :
    (Bytes.fields? (e.localNumbers limit extra)).isSome ↔ (Text.utf8 e.name).length < 2 ^ 16 := by
  have hshown := shownSize_lt (e := e) hlimit
  have hflags := e.flags_lt
  have hcrc := e.crc_lt
  rw [Bytes.isSome_fields?]
  simp [localNumbers, localSignature, entryDate]
  omega

theorem isSome_localExtra? (e : Entry) :
    e.localExtra?.isSome ↔ e.size < 2 ^ 64 ∧ e.compressedSize < 2 ^ 64 := by
  rw [localExtra?, Bytes.isSome_fields?]
  simp [largeTag]

/-- There is a local header exactly when the name and, where there is room for them, the sizes fit. -/
theorem isSome_localHeader? (hlimit : limit < fullField) (hmethod : e.method < 2 ^ 16)
    (hversion : e.version < 256) (room : Bool) :
    (e.localHeader? limit room).isSome ↔
      (Text.utf8? e.name).isSome = true ∧ (Text.utf8 e.name).length < 2 ^ 16 ∧
        (room = true → e.size < 2 ^ 64 ∧ e.compressedSize < 2 ^ 64) := by
  have hnumbers {extra : Bytes} (hextra : extra.length < 2 ^ 16) :=
    isSome_localNumbers hlimit hmethod hversion hextra
  have hheader : (e.localHeader? limit room).isSome ↔
      (Text.utf8? e.name).isSome = true ∧
        ∃ extra, (if room then e.localExtra? else some []) = some extra ∧
          (Bytes.fields? (e.localNumbers limit extra)).isSome := by
    rw [Option.isSome_iff_exists]
    constructor
    · rintro ⟨header, h⟩
      obtain ⟨hform, extra, fixed, hextra, hfixed, -⟩ := localHeader?_eq_some_iff.1 h
      exact ⟨hform, extra, hextra, by rw [hfixed]; rfl⟩
    · rintro ⟨hform, extra, hextra, hfixed⟩
      obtain ⟨fixed, hfixed⟩ := Option.isSome_iff_exists.1 hfixed
      exact ⟨_, localHeader?_eq_some_iff.2 ⟨hform, extra, fixed, hextra, hfixed, rfl⟩⟩
  rw [hheader]
  refine and_congr_right fun _ => ?_
  -- With room for them the sizes stand in the extra field, behind the numbers of the header.
  cases room with
  | false => simpa using @hnumbers [] (by simp)
  | true =>
    simp only [if_true, forall_const]
    constructor
    · rintro ⟨extra, hextra, hfixed⟩
      have hlength : extra.length = 20 := Bytes.length_of_fields? hextra
      exact ⟨(hnumbers (by omega)).1 hfixed, (isSome_localExtra? e).1 (by rw [hextra]; rfl)⟩
    · rintro ⟨hname, hfit⟩
      obtain ⟨extra, hextra⟩ := Option.isSome_iff_exists.1 ((isSome_localExtra? e).2 hfit)
      have hlength : extra.length = 20 := Bytes.length_of_fields? hextra
      exact ⟨extra, hextra, (hnumbers (by omega)).2 hname⟩

/-- In a local header, version and name fit. -/
theorem of_localHeader? {room : Bool} {header : Bytes}
    (h : e.localHeader? limit room = some header) :
    e.version < 256 ∧ (Text.utf8? e.name).isSome = true ∧ (Text.utf8 e.name).length < 2 ^ 16 := by
  obtain ⟨hname, extra, fixed, -, hfixed, -⟩ := localHeader?_eq_some_iff.1 h
  have hfit := (Bytes.isSome_fields? _).1 (Option.isSome_iff_exists.2 ⟨fixed, hfixed⟩)
  exact ⟨hfit (1, e.version) (by simp [localNumbers]), hname,
    hfit (2, (Text.utf8 e.name).length) (by simp [localNumbers])⟩

/-- Sizes that fit the room in a local header fit the extra field. -/
theorem sizes_lt_of_localHeader? (hlimit : limit < fullField) {room : Bool} {header : Bytes}
    (h : e.localHeader? limit room = some header) (hroom : room = true ∨ e.isLarge limit = false) :
    e.size < 2 ^ 64 ∧ e.compressedSize < 2 ^ 64 := by
  obtain ⟨-, extra, -, hextra, -, -⟩ := localHeader?_eq_some_iff.1 h
  rcases hroom with rfl | hsmall
  · exact (isSome_localExtra? e).1 (Option.isSome_iff_exists.2 ⟨extra, hextra⟩)
  · have hsizes : (e.size : Int) ≤ limit ∧ (e.compressedSize : Int) ≤ limit := by
      simpa [isLarge] using hsmall
    unfold fullField at hlimit
    omega

theorem mem_largeNumbers {n : Nat} (h : n ∈ e.largeNumbers limit) :
    n = e.size ∨ n = e.compressedSize ∨ n = e.offset := by
  unfold largeNumbers at h
  rcases List.mem_append.1 h with h | h
  · split at h
    · obtain rfl | rfl : n = e.size ∨ n = e.compressedSize := by simpa using h
      · exact .inl rfl
      · exact .inr (.inl rfl)
    · cases h
  · split at h
    · exact .inr (.inr (by simpa using h))
    · cases h

/-- The length of a record in the directory. -/
def centralLength (limit : Int) (e : Entry) : Nat :=
  46 + (Text.utf8 e.name).length +
    if (e.largeNumbers limit).isEmpty then 0 else 4 + 8 * (e.largeNumbers limit).length

theorem length_centralExtra {extra : Bytes} (h : e.centralExtra? limit = some extra) :
    extra.length =
      if (e.largeNumbers limit).isEmpty then 0 else 4 + 8 * (e.largeNumbers limit).length := by
  unfold centralExtra? at h
  split at h
  · next hnone =>
    cases h
    simp [hnone]
  · next hsome =>
    have hlength := Bytes.length_of_fields? h
    rw [if_neg (by simpa using hsome), hlength]
    simp [Function.comp_def, List.map_const', Nat.mul_comm, ← Nat.add_assoc]

theorem length_centralRecord {pieces : List Bytes} (h : e.centralRecord? limit = some pieces) :
    pieces.flatten.length = e.centralLength limit := by
  obtain ⟨-, extra, fixed, hextra, hfixed, rfl⟩ := centralRecord?_eq_some_iff.1 h
  have hlength : fixed.length = 46 := by
    simpa [centralNumbers] using Bytes.length_of_fields? hfixed
  simp [centralLength, hlength, length_centralExtra hextra, Nat.add_assoc]

theorem length_largeNumbers_le (limit : Int) (e : Entry) : (e.largeNumbers limit).length ≤ 3 := by
  unfold largeNumbers
  split <;> split <;> simp

theorem isSome_centralExtra? (limit : Int) (e : Entry) :
    (e.centralExtra? limit).isSome ↔ ∀ n ∈ e.largeNumbers limit, n < 2 ^ 64 := by
  have hcount := length_largeNumbers_le limit e
  unfold centralExtra?
  split
  · next hnone => simp [hnone]
  · rw [Bytes.isSome_fields?]
    simp [largeTag]
    omega

theorem isSome_centralNumbers (hlimit : limit < fullField) (hmethod : e.method < 2 ^ 16)
    (hversion : e.version < 256) {extra : Bytes} (hextra : e.centralExtra? limit = some extra) :
    (Bytes.fields? (e.centralNumbers limit extra)).isSome ↔ (Text.utf8 e.name).length < 2 ^ 16 := by
  have hcount := length_largeNumbers_le limit e
  have hlength : extra.length < 2 ^ 16 := by
    rw [length_centralExtra hextra]
    split <;> omega
  have hoffset : (if limit < e.offset then fullField else e.offset) < 2 ^ 32 := by
    unfold fullField at hlimit ⊢
    split <;> omega
  have hneeded : (if (e.largeNumbers limit).isEmpty then e.version
      else max largeVersion e.version) < 256 := by
    unfold largeVersion
    split <;> omega
  have hshown := shownSize_lt (e := e) hlimit
  have hflags := e.flags_lt
  have hcrc := e.crc_lt
  rw [Bytes.isSome_fields?]
  simp only [centralNumbers, List.forall_mem_cons, List.not_mem_nil, centralSignature,
    systemNumber, entryDate, entryAttributes, false_implies, implies_true, and_true]
  omega

/-- There is a record in the directory exactly when the name and all large numbers fit. -/
theorem isSome_centralRecord? (hlimit : limit < fullField) (hmethod : e.method < 2 ^ 16)
    (hversion : e.version < 256) :
    (e.centralRecord? limit).isSome ↔
      (Text.utf8? e.name).isSome = true ∧ (Text.utf8 e.name).length < 2 ^ 16 ∧ ∀ n ∈ e.largeNumbers limit, n < 2 ^ 64 := by
  have hnumbers {extra : Bytes} (hextra : e.centralExtra? limit = some extra) :=
    isSome_centralNumbers hlimit hmethod hversion hextra
  have hextras := isSome_centralExtra? limit e
  rw [Option.isSome_iff_exists]
  constructor
  · rintro ⟨pieces, h⟩
    obtain ⟨hform, extra, fixed, hextra, hfixed, -⟩ := centralRecord?_eq_some_iff.1 h
    exact ⟨hform, (hnumbers hextra).1 (by rw [hfixed]; rfl), hextras.1 (by rw [hextra]; rfl)⟩
  · rintro ⟨hform, hname, hlarge⟩
    obtain ⟨extra, hextra⟩ := Option.isSome_iff_exists.1 (hextras.2 hlarge)
    obtain ⟨fixed, hfixed⟩ := Option.isSome_iff_exists.1 ((hnumbers hextra).2 hname)
    exact ⟨_, centralRecord?_eq_some_iff.2 ⟨hform, extra, fixed, hextra, hfixed, rfl⟩⟩

end Entry

/-! ## The end of an archive -/

theorem endRecord?_eq_some_iff {d : DirectoryPlace} {pieces : List Bytes} :
    endRecord? d = some pieces ↔
      ∃ record, Bytes.fields? [(4, endSignature), (2, 0), (2, 0), (2, d.count), (2, d.count),
        (4, d.size), (4, d.offset), (2, 0)] = some record ∧ [record, []] = pieces := by
  simp [endRecord?, Option.bind_eq_some_iff]

theorem largeEndRecords?_eq_some_iff {d : DirectoryPlace} {pieces : List Bytes} :
    largeEndRecords? d = some pieces ↔
      ∃ record locator, Bytes.fields? [(4, largeEndSignature), (8, 44), (2, largeVersion),
          (2, largeVersion), (4, 0), (4, 0), (8, d.count), (8, d.count), (8, d.size),
          (8, d.offset)] = some record ∧
        Bytes.fields? [(4, locatorSignature), (4, 0), (8, d.offset + d.size), (4, 1)]
          = some locator ∧ [record, locator] = pieces := by
  simp [largeEndRecords?, Option.bind_eq_some_iff]

theorem read_endRecord {d : DirectoryPlace} {pieces : List Bytes}
    (h : endRecord? d = some pieces) :
    pieces.flatten.length = endLength ∧ endPlace? pieces.flatten = some d := by
  obtain ⟨record, hrecord, rfl⟩ := endRecord?_eq_some_iff.1 h
  have htake := takeNumbers?_fields hrecord []
  have hlength := Bytes.length_of_fields? hrecord
  simp only [List.map_cons, List.map_nil, List.append_nil] at htake
  refine ⟨by simpa [endLength] using hlength, ?_⟩
  simp [endPlace?, htake]

theorem read_largeEndRecords {d : DirectoryPlace} {pieces : List Bytes}
    (h : largeEndRecords? d = some pieces) (rest : Bytes) :
    pieces.flatten.length = largeEndLength ∧ largeEndPlace? (pieces.flatten ++ rest) = some d := by
  obtain ⟨record, locator, hrecord, hlocator, rfl⟩ := largeEndRecords?_eq_some_iff.1 h
  have hfirst := takeNumbers?_fields hrecord (locator ++ rest)
  have hsecond := takeNumbers?_fields hlocator rest
  have hlength := Bytes.length_of_fields? hrecord
  have hlength' := Bytes.length_of_fields? hlocator
  simp only [List.map_cons, List.map_nil] at hfirst hsecond
  refine ⟨by simp [hlength, hlength', largeEndLength], ?_⟩
  simp [largeEndPlace?, hfirst, hsecond]

theorem isSome_endRecord? {d : DirectoryPlace} (hcount : d.count < 2 ^ 16) (hsize : d.size < 2 ^ 32)
    (hoffset : d.offset < 2 ^ 32) : (endRecord? d).isSome := by
  have hrecord : (Bytes.fields? [(4, endSignature), (2, 0), (2, 0), (2, d.count), (2, d.count),
      (4, d.size), (4, d.offset), (2, 0)]).isSome := by
    rw [Bytes.isSome_fields?]
    simp [endSignature]
    omega
  obtain ⟨record, hrecord⟩ := Option.isSome_iff_exists.1 hrecord
  exact Option.isSome_iff_exists.2 ⟨_, endRecord?_eq_some_iff.2 ⟨record, hrecord, rfl⟩⟩

/-- What is cut to the older fields fits them. -/
theorem isSome_endRecord?_cut (d : DirectoryPlace) : (endRecord? d.cut).isSome := by
  refine isSome_endRecord? ?_ ?_ ?_
  · simp only [DirectoryPlace.cut, maxCount]
    omega
  · simp only [DirectoryPlace.cut, fullField]
    omega
  · simp only [DirectoryPlace.cut, fullField]
    omega

theorem isSome_largeEndRecords? {d : DirectoryPlace} (hcount : d.count ≤ d.size) :
    (largeEndRecords? d).isSome ↔ d.offset + d.size < 2 ^ 64 := by
  constructor
  · intro h
    obtain ⟨pieces, h⟩ := Option.isSome_iff_exists.1 h
    obtain ⟨record, locator, -, hlocator, -⟩ := largeEndRecords?_eq_some_iff.1 h
    have hfit := (Bytes.isSome_fields? _).1 (Option.isSome_iff_exists.2 ⟨_, hlocator⟩)
    exact hfit (8, d.offset + d.size) (by simp)
  · intro h
    have hrecord : (Bytes.fields? [(4, largeEndSignature), (8, 44), (2, largeVersion),
        (2, largeVersion), (4, 0), (4, 0), (8, d.count), (8, d.count), (8, d.size),
        (8, d.offset)]).isSome := by
      rw [Bytes.isSome_fields?]
      simp [largeEndSignature, largeVersion]
      omega
    have hlocator : (Bytes.fields? [(4, locatorSignature), (4, 0), (8, d.offset + d.size),
        (4, 1)]).isSome := by
      rw [Bytes.isSome_fields?]
      simp [locatorSignature]
      omega
    obtain ⟨record, hrecord⟩ := Option.isSome_iff_exists.1 hrecord
    obtain ⟨locator, hlocator⟩ := Option.isSome_iff_exists.1 hlocator
    exact Option.isSome_iff_exists.2
      ⟨_, largeEndRecords?_eq_some_iff.2 ⟨record, locator, hrecord, hlocator, rfl⟩⟩

/-- There are end records exactly when the end of the directory fits. -/
theorem isSome_endRecords? {limit : Int} (hlimit : limit < fullField) {d : DirectoryPlace}
    (hcount : d.count ≤ d.size) :
    (endRecords? limit d).isSome ↔ d.offset + d.size < 2 ^ 64 := by
  unfold fullField at hlimit
  unfold endRecords?
  split
  · -- The place of the directory stands in the large records, so only they can be missing.
    obtain ⟨small, hsmall⟩ := Option.isSome_iff_exists.1 (isSome_endRecord?_cut d)
    rw [← isSome_largeEndRecords? hcount, hsmall]
    cases largeEndRecords? d <;> simp
  · next hnot =>
    have hbounds : d.count ≤ maxCount ∧ (d.offset : Int) ≤ limit ∧ (d.size : Int) ≤ limit := by
      simpa [DirectoryPlace.isLarge, and_assoc] using hnot
    unfold maxCount at hbounds
    constructor
    · intro _
      omega
    · intro _
      exact isSome_endRecord? (by omega) (by omega) (by omega)

/-- The place of the directory is found from the end of the archive. -/
theorem read_endRecords {limit : Int} {d : DirectoryPlace} {pieces : List Bytes} {body : Bytes}
    (h : endRecords? limit d = some pieces) (hbody : body.length = d.offset + d.size) :
    directoryPlace? (body ++ pieces.flatten) = some d := by
  unfold endRecords? at h
  split at h
  · obtain ⟨large, hlarge, h⟩ := Option.bind_eq_some_iff.1 h
    obtain ⟨small, hsmall, h⟩ := Option.bind_eq_some_iff.1 h
    obtain rfl : large ++ small = pieces := Option.some.inj h
    obtain ⟨hsmallLength, hsmallPlace⟩ := read_endRecord hsmall
    obtain ⟨hlargeLength, hlargePlace⟩ := read_largeEndRecords hlarge small.flatten
    have htotal : (body ++ (large ++ small).flatten).length
        = d.offset + d.size + largeEndLength + endLength := by
      simp only [List.flatten_append, List.length_append, hbody, hlargeLength, hsmallLength]
      omega
    have hcut : d.cut.offset + d.cut.size ≤ d.offset + d.size := by
      simp only [DirectoryPlace.cut]
      omega
    have hlast : (body ++ (large ++ small).flatten).drop
        (d.offset + d.size + largeEndLength + endLength - endLength) = small.flatten := by
      rw [List.flatten_append, ← List.append_assoc]
      exact List.drop_left' (by rw [List.length_append, hbody, hlargeLength]; omega)
    have hbefore : (body ++ (large ++ small).flatten).drop
        (d.offset + d.size + largeEndLength + endLength - endLength - largeEndLength)
          = large.flatten ++ small.flatten := by
      rw [List.flatten_append]
      exact List.drop_left' (by rw [hbody]; omega)
    -- The cut numbers do not say that the directory ends right here, so the reader looks further.
    have hother : d.cut.offset + d.cut.size + endLength
        ≠ d.offset + d.size + largeEndLength + endLength := by
      have : 0 < largeEndLength := by decide
      omega
    rw [directoryPlace?, htotal, hlast, hsmallPlace]
    simp only [Option.bind_eq_bind, Option.bind_some, if_neg hother]
    rw [hbefore, hlargePlace]
    simp
  · obtain ⟨hlength, hplace⟩ := read_endRecord h
    have htotal : (body ++ pieces.flatten).length = d.offset + d.size + endLength := by
      rw [List.length_append, hbody, hlength]
    have hlast : (body ++ pieces.flatten).drop (d.offset + d.size + endLength - endLength)
        = pieces.flatten := List.drop_left' (by rw [hbody]; omega)
    rw [directoryPlace?, htotal, hlast, hplace]
    simp

end Zip

end PhotoArchive
