import PhotoArchive.Deflate.Inflate
import PhotoArchive.Zip.Record

/-!
# Reading an archive

An archive is read from its end: the end record tells where the directory is, the directory tells
where the entries are, and each entry has a local header in front of its data. The same headers can
also be followed from the beginning of the archive, one entry after the other.

## Main definitions

- `Fields` — the numbers that a local header and a record of the directory have in common
- `Fields.moment` — when an entry was changed
- `StoredEntry` — an entry as it is found in an archive
- `directory?`, `entries?` — the records in the directory, and the entries that they tell of
- `withoutTail` — the archive in a file that goes on behind it
- `scan?` — the entries that lie one behind the other from the beginning

## Design notes

The older end record can be trusted when the directory that it describes ends where the record
begins. Otherwise there is a second end record in between, and its numbers count.
-/

namespace PhotoArchive.Zip

/-- The number in the first `width` bytes, and what follows. -/
def takeNumber? (width : Nat) (b : Bytes) : Option (Nat × Bytes) :=
  if width ≤ b.length then some (Bytes.value (b.take width), b.drop width) else none

/-- The numbers of the given widths at the beginning, and what follows. -/
def takeNumbers? : List Nat → Bytes → Option (List Nat × Bytes)
  | [], b => some ([], b)
  | width :: widths, b => do
    let (n, b) ← takeNumber? width b
    let (ns, b) ← takeNumbers? widths b
    return (n :: ns, b)

/-- The first `n` bytes, and what follows. -/
def takeBytes? (n : Nat) (b : Bytes) : Option (Bytes × Bytes) :=
  if n ≤ b.length then some (b.take n, b.drop n) else none

/-! ## Headers -/

/-- What a local header and a record of the directory have in common. -/
structure Fields where
  name : String
  version : Nat
  flags : Nat
  method : Nat
  time : Nat
  date : Nat
  crc : Nat
  size : Nat
  compressedSize : Nat
  deriving DecidableEq, Repr

/-- When an entry was changed: year, month, day, hour, minute and second. -/
def Fields.moment (f : Fields) : List Nat :=
  [1980 + f.date / 512, f.date / 32 % 16, f.date % 32, f.time / 2048, f.time / 32 % 64,
    2 * (f.time % 32)]

/-- The numbers in the extra field for large numbers, if there is one. -/
def largeNumbers : Nat → Bytes → List Nat
  | 0, _ => []
  | fuel + 1, extra =>
    match takeNumbers? [2, 2] extra with
    | some ([tag, length], rest) =>
      if tag = largeTag then
        ((takeNumbers? (List.replicate (length / 8) 8) rest).map Prod.fst).getD []
      else largeNumbers fuel (rest.drop length)
    | _ => []

/-- Put numbers from the extra field in the place of full fields, one after the other. -/
def widen : List Nat → List Nat → List Nat
  | n :: ns, large :: more =>
    if n = fullField then large :: widen ns more else n :: widen ns (large :: more)
  | ns, _ => ns

/-- The local header at the beginning, and what follows. -/
def localHeader? (b : Bytes) : Option (Fields × Bytes) := do
  let (numbers, b) ← takeNumbers? [4, 1, 1, 2, 2, 2, 2, 4, 4, 4, 2, 2] b
  match numbers with
  | [signature, version, _, flags, method, time, date, crc, compressed, size, nameLength,
      extraLength] =>
    if signature ≠ localSignature then none
    else
      let (name, b) ← takeBytes? nameLength b
      let (extra, b) ← takeBytes? extraLength b
      let name ← Text.ofUtf8? name
      match widen [size, compressed] (largeNumbers (extra.length + 1) extra) with
      | [size, compressedSize] =>
        return ({ name, version, flags, method, time, date, crc, size, compressedSize }, b)
      | _ => none
  | _ => none

/-- A record of the directory. -/
structure CentralFields extends Fields where
  attributes : Nat
  offset : Nat
  deriving DecidableEq, Repr

/-- The record of the directory at the beginning, and what follows. -/
def centralRecord? (b : Bytes) : Option (CentralFields × Bytes) := do
  let (numbers, b) ← takeNumbers? [4, 1, 1, 1, 1, 2, 2, 2, 2, 4, 4, 4, 2, 2, 2, 2, 2, 4, 4] b
  match numbers with
  | [signature, _, _, version, _, flags, method, time, date, crc, compressed, size, nameLength,
      extraLength, commentLength, _, _, attributes, offset] =>
    if signature ≠ centralSignature then none
    else
      let (name, b) ← takeBytes? nameLength b
      let (extra, b) ← takeBytes? extraLength b
      let (_, b) ← takeBytes? commentLength b
      let name ← Text.ofUtf8? name
      match widen [size, compressed, offset] (largeNumbers (extra.length + 1) extra) with
      | [size, compressedSize, offset] =>
        return ({ name, version, flags, method, time, date, crc, size, compressedSize, attributes
                  offset }, b)
      | _ => none
  | _ => none

/-- As many records of the directory as asked for, and what follows. -/
def centralRecords? : Nat → Bytes → Option (List CentralFields × Bytes)
  | 0, b => some ([], b)
  | count + 1, b => do
    let (record, b) ← centralRecord? b
    let (records, b) ← centralRecords? count b
    return (record :: records, b)

/-! ## The end of the archive -/

/-- The length of the end record. -/
def endLength : Nat := 22

/-- The length of the second end record and of the record that points to it. -/
def largeEndLength : Nat := 56 + 20

/-- The place of the directory, from the last bytes of an archive. -/
def endPlace? (b : Bytes) : Option DirectoryPlace := do
  let (numbers, _) ← takeNumbers? [4, 2, 2, 2, 2, 4, 4, 2] b
  match numbers with
  | [signature, _, _, _, count, size, offset, commentLength] =>
    if signature = endSignature ∧ commentLength = 0 then return { count, size, offset } else none
  | _ => none

/-- The place of the directory, from the second end record. -/
def largeEndPlace? (b : Bytes) : Option DirectoryPlace := do
  let (numbers, b) ← takeNumbers? [4, 8, 2, 2, 4, 4, 8, 8, 8, 8] b
  let (locator, _) ← takeNumbers? [4, 4, 8, 4] b
  match numbers, locator with
  | [signature, _, _, _, _, _, _, count, size, offset], [pointer, _, position, _] =>
    if signature = largeEndSignature ∧ pointer = locatorSignature ∧ position = offset + size then
      return { count, size, offset }
    else none
  | _, _ => none

/-- The place of the directory of an archive. -/
def directoryPlace? (b : Bytes) : Option DirectoryPlace := do
  let place ← endPlace? (b.drop (b.length - endLength))
  if place.offset + place.size + endLength = b.length then return place
  else
    let place ← largeEndPlace? (b.drop (b.length - endLength - largeEndLength))
    if place.offset + place.size + largeEndLength + endLength = b.length then return place
    else none

/-- How far behind the last end record a file may go on for the record to be found. -/
def maxTail : Nat := 0xFFFF

/-- The number of bytes up to the end of the last end record. -/
def lastEnd? : Bytes → Option Nat
  | [] => none
  | byte :: rest =>
    match lastEnd? rest with
    | some n => some (n + 1)
    | none => if (endPlace? (byte :: rest)).isSome then some endLength else none

/-- An archive without what is left behind it in its file: an archive that was written over a longer
one does not end where the file ends. -/
def withoutTail (file : Bytes) : Bytes :=
  if (endPlace? (file.drop (file.length - endLength))).isSome then file
  else
    let skipped := file.length - (maxTail + endLength)
    match lastEnd? (file.drop skipped) with
    | some n => file.take (skipped + n)
    | none => file

/-! ## Entries -/

/-- An entry as it is found in an archive. -/
structure StoredEntry extends CentralFields where
  /-- Where its data begin. -/
  dataStart : Nat
  /-- Its data as they are in the archive. -/
  raw : Bytes
  /-- Its data. -/
  data : Bytes
  deriving DecidableEq, Repr

/-- The data of an entry, given how they are in the archive. -/
def unpacked? (method : Nat) (raw : Bytes) : Option Bytes :=
  match method with
  | 0 => some raw
  | 8 => Deflate.inflate? raw
  | _ => none

/-- An entry with its data, given its record in the directory. Its local header must say the same as
the record, and its data must have the size and the checksum that the two say. -/
def entryOf? (archive : Bytes) (record : CentralFields) : Option StoredEntry := do
  let (header, rest) ← localHeader? (archive.drop record.offset)
  let (raw, _) ← takeBytes? record.compressedSize rest
  let data ← unpacked? record.method raw
  if header.name = record.name ∧ header.crc = record.crc ∧ header.size = record.size ∧
      header.compressedSize = record.compressedSize ∧ data.length = record.size ∧
      data.crc32.toNat = record.crc then
    return { record with dataStart := archive.length - rest.length, raw, data }
  else none

/-- The records in the directory of an archive, which they fill. -/
def directory? (archive : Bytes) : Option (List CentralFields) := do
  let place ← directoryPlace? archive
  let (records, rest) ← centralRecords? place.count ((archive.drop place.offset).take place.size)
  if rest.isEmpty then return records else none

/-- The entries that the directory of an archive lists, in its order. -/
def entries? (archive : Bytes) : Option (List StoredEntry) := do
  (← directory? archive).mapM (entryOf? archive)

/-- An entry that was found behind the one before it: what its header says, where the header begins,
and the data behind it. -/
structure ScannedEntry extends Fields where
  offset : Nat
  raw : Bytes
  deriving DecidableEq, Repr

/-- The entries that lie one behind the other from `offset` to `finish`. -/
def scanFrom? (finish : Nat) : Nat → Nat → Bytes → Option (List ScannedEntry)
  | 0, _, _ => none
  | fuel + 1, offset, b =>
    if offset = finish then some []
    else do
      let (header, rest) ← localHeader? b
      let (raw, rest) ← takeBytes? header.compressedSize rest
      let entries ← scanFrom? finish fuel (offset + (b.length - rest.length)) rest
      return { header with offset, raw } :: entries

/-- The entries that lie one behind the other from the beginning of an archive to its directory. -/
def scan? (archive : Bytes) : Option (List ScannedEntry) := do
  let place ← directoryPlace? archive
  scanFrom? place.offset (place.offset + 1) 0 archive

end PhotoArchive.Zip
