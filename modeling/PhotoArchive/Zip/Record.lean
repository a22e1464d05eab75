import PhotoArchive.Bytes.Checksum
import PhotoArchive.Text.Utf8

/-!
# Archive records

An archive consists of entries, each a local header with the data behind it, of a directory with one
record for each entry, and of an end record. Numbers that are too large for the older fields are
written into an extra field and, at the end, into a second end record.

## Main definitions

- `Entry` — what the records say about an entry
- `Entry.localHeader?` — the header in front of its data
- `Entry.centralRecord?` — the pieces of its record in the directory
- `endRecords?` — the pieces of the records behind the directory

## Design notes

There is no record if a number does not fit its field, and none for a name without a UTF-8 form. What
counts as too large for the older fields
is a parameter, so that it can be lowered. All entries carry the same time stamp, which makes equal
inputs give equal archives.

The format leaves writers some freedom in headers that have room for large sizes. Here such a header
keeps the version 20 and shows its sizes in the older fields, as long as they fit there; only a size
that is too large raises the version to 45 and fills these fields. Releases of the archive library
from 3.11.4 on do both as soon as there is room, so their archives differ in these bytes.
-/

namespace PhotoArchive.Zip

/-! ## Constants of the format -/

/-- The largest size and offset that is written into the older fields. -/
def standardLimit : Int := 0x7FFFFFFF

/-- The most entries that fit the older end record. -/
def maxCount : Nat := 0xFFFF

/-- The largest number of four bytes; it stands for "see the extra field". -/
def fullField : Nat := 0xFFFFFFFF

/-- The version that is needed to read an entry. -/
def baseVersion : Nat := 20

/-- The version that is needed to read an entry with large numbers. -/
def largeVersion : Nat := 45

def localSignature : Nat := 0x04034B50
def centralSignature : Nat := 0x02014B50
def endSignature : Nat := 0x06054B50
def largeEndSignature : Nat := 0x06064B50
def locatorSignature : Nat := 0x07064B50

/-- The system whose file attributes entries carry. -/
def systemNumber : Nat := 3

/-- The first of January 1980, on which all entries are dated: year since 1980, month and day in 7, 4
and 5 bits. The time of day is zero. -/
def entryDate : Nat := 33

/-- An ordinary file that everybody may read and its owner may write. -/
def entryAttributes : Nat := 0o644 <<< 16

/-- The flag of a name in UTF-8. -/
def utf8Flag : Nat := 0x800

/-- The tag of the extra field for large numbers. -/
def largeTag : Nat := 1

/-! ## Entries -/

/-- What the records say about an entry. -/
structure Entry where
  name : String
  /-- The number of the compression method. -/
  method : Nat
  version : Nat := baseVersion
  crc : UInt32 := 0
  size : Nat := 0
  compressedSize : Nat := 0
  /-- Where its local header begins. -/
  offset : Nat := 0
  deriving DecidableEq, Repr

namespace Entry

/-- The flags of an entry tell whether its name is more than ASCII. -/
def flags (e : Entry) : Nat := if Text.isAscii e.name then 0 else utf8Flag

/-- Whether one of the sizes of an entry is too large for the older fields. -/
def isLarge (limit : Int) (e : Entry) : Bool :=
  decide (limit < e.size) || decide (limit < e.compressedSize)

/-- An entry whose sizes have been written somewhere needs the version for them. -/
def withVersion (limit : Int) (e : Entry) : Entry :=
  { e with version := if e.isLarge limit then max largeVersion e.version else e.version }

/-- A size as it is written into its older field. -/
def shownSize (limit : Int) (e : Entry) (size : Nat) : Nat :=
  if e.isLarge limit then fullField else size

/-- The extra field of a local header: both sizes. -/
def localExtra? (e : Entry) : Option Bytes :=
  Bytes.fields? [(2, largeTag), (2, 16), (8, e.size), (8, e.compressedSize)]

/-- The local header of an entry, with or without room for large sizes. -/
def localHeader? (limit : Int) (room : Bool) (e : Entry) : Option Bytes := do
  let name ← Text.utf8? e.name
  let extra ← if room then e.localExtra? else some []
  let fixed ← Bytes.fields?
    [(4, localSignature), (1, e.version), (1, 0), (2, e.flags), (2, e.method), (2, 0),
      (2, entryDate), (4, e.crc.toNat), (4, e.shownSize limit e.compressedSize),
      (4, e.shownSize limit e.size), (2, name.length), (2, extra.length)]
  return fixed ++ name ++ extra

/-- The numbers of an entry that go into the extra field of its record in the directory. -/
def largeNumbers (limit : Int) (e : Entry) : List Nat :=
  (if e.isLarge limit then [e.size, e.compressedSize] else [])
    ++ if limit < e.offset then [e.offset] else []

/-- The extra field of a record in the directory. -/
def centralExtra? (limit : Int) (e : Entry) : Option Bytes :=
  match e.largeNumbers limit with
  | [] => some []
  | numbers =>
    Bytes.fields? ([(2, largeTag), (2, 8 * numbers.length)] ++ numbers.map fun n => (8, n))

/-- The pieces of the record of an entry in the directory, in the order in which they are written:
the fixed part, the name, the extra field and an empty comment. -/
def centralRecord? (limit : Int) (e : Entry) : Option (List Bytes) := do
  let name ← Text.utf8? e.name
  let extra ← e.centralExtra? limit
  let version := if (e.largeNumbers limit).isEmpty then e.version else max largeVersion e.version
  let fixed ← Bytes.fields?
    [(4, centralSignature), (1, version), (1, systemNumber), (1, version), (1, 0), (2, e.flags),
      (2, e.method), (2, 0), (2, entryDate), (4, e.crc.toNat),
      (4, e.shownSize limit e.compressedSize), (4, e.shownSize limit e.size), (2, name.length),
      (2, extra.length), (2, 0), (2, 0), (2, 0), (4, entryAttributes),
      (4, if limit < e.offset then fullField else e.offset)]
  return [fixed, name, extra, []]

end Entry

/-! ## The end of an archive -/

/-- Where the directory of an archive is. -/
structure DirectoryPlace where
  /-- The number of entries. -/
  count : Nat
  /-- The length of the directory in bytes. -/
  size : Nat
  /-- Where it begins. -/
  offset : Nat
  deriving DecidableEq, Repr

/-- Whether a directory needs the second end record. -/
def DirectoryPlace.isLarge (limit : Int) (d : DirectoryPlace) : Bool :=
  decide (maxCount < d.count) || decide (limit < d.offset) || decide (limit < d.size)

/-- The pieces of the second end record and of the record that points to it. -/
def largeEndRecords? (d : DirectoryPlace) : Option (List Bytes) := do
  let record ← Bytes.fields?
    [(4, largeEndSignature), (8, 44), (2, largeVersion), (2, largeVersion), (4, 0), (4, 0),
      (8, d.count), (8, d.count), (8, d.size), (8, d.offset)]
  let locator ← Bytes.fields?
    [(4, locatorSignature), (4, 0), (8, d.offset + d.size), (4, 1)]
  return [record, locator]

/-- The pieces of the end record for numbers that fit it: the record and an empty comment. -/
def endRecord? (d : DirectoryPlace) : Option (List Bytes) := do
  let record ← Bytes.fields?
    [(4, endSignature), (2, 0), (2, 0), (2, d.count), (2, d.count), (4, d.size), (4, d.offset),
      (2, 0)]
  return [record, []]

/-- The numbers of a directory, cut down to the largest ones that fit the end record. -/
def DirectoryPlace.cut (d : DirectoryPlace) : DirectoryPlace where
  count := min d.count maxCount
  size := min d.size fullField
  offset := min d.offset fullField

/-- The pieces of the records behind the directory, in the order in which they are written. -/
def endRecords? (limit : Int) (d : DirectoryPlace) : Option (List Bytes) :=
  if d.isLarge limit then do return (← largeEndRecords? d) ++ (← endRecord? d.cut)
  else endRecord? d

end PhotoArchive.Zip
