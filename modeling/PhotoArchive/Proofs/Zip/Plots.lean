import PhotoArchive.Proofs.Zip.Fields

/-!
# Entries with gaps between them

The entries of an archive whose file has refused some writes lie in their order, but not always one
behind the other: a failed entry can leave bytes behind that belong to none. Some of the data of an
entry may be missing, and then its numbers are those of data that are not there.

## Main definitions

- `Tally` — what was counted for an entry
- `Plot` — an entry as it lies in an archive
- `Sown` — bytes with plots in them, in their order and apart from each other

## Main statements

- `Plot.entryOf?_eq` — a plot that has got all its data is found
- `Sown.pairwise`, `Sown.finish_le` — plots do not overlap, and none goes on behind the bytes
-/

namespace PhotoArchive.Zip

variable {limit : Int}

/-- What was counted for an entry. -/
structure Tally where
  name : String
  /-- All data that were written to it, also those that the file has refused. -/
  data : Bytes
  /-- Whether the file has refused none of them. -/
  isWhole : Bool

/-- An entry as it lies in an archive: its local header and the data that the file has got. Its
numbers are those of the data that were counted. -/
structure Plot (limit : Int) where
  entry : Entry
  /-- Whether the header has room for large sizes. -/
  room : Bool
  header : Bytes
  raw : Bytes
  data : Bytes
  isWhole : Bool
  header_eq : entry.localHeader? limit room = some header
  room_suffices : room = true ∨ entry.isLarge limit = false
  size_eq : entry.size = data.length
  crc_eq : entry.crc = data.crc32
  whole : isWhole = true →
    entry.compressedSize = raw.length ∧ unpacked? entry.method raw = some data

namespace Plot

variable (p : Plot limit)

def bytes : Bytes := p.header ++ p.raw

/-- Where the data of a plot end. -/
def finish : Nat := p.entry.offset + p.bytes.length

def tally : Tally := ⟨p.entry.name, p.data, p.isWhole⟩

/-- What a reader finds. -/
def storedEntry : StoredEntry :=
  { p.entry.centralFields limit with
    dataStart := p.entry.offset + p.header.length
    raw := p.raw
    data := p.data }

theorem end_storedEntry : p.storedEntry.dataStart + p.storedEntry.raw.length = p.finish := by
  simp only [storedEntry, finish, bytes, List.length_append]
  omega

/-- A plot that has got all its data is found where its record in the directory says. -/
theorem entryOf?_eq (hlimit : limit < fullField) (hwhole : p.isWhole = true) {before : Bytes}
    (hbefore : before.length = p.entry.offset) (rest : Bytes) :
    entryOf? (before ++ (p.bytes ++ rest)) (p.entry.centralFields limit) = some p.storedEntry := by
  have hdrop : (before ++ (p.bytes ++ rest)).drop (p.entry.centralFields limit).offset
      = p.header ++ (p.raw ++ rest) := by
    rw [bytes, List.append_assoc]
    exact List.drop_left' hbefore
  have hheader := Entry.read_localHeader hlimit p.room_suffices p.header_eq (p.raw ++ rest)
  have hstart : (before ++ (p.bytes ++ rest)).length - (p.raw ++ rest).length
      = p.entry.offset + p.header.length := by
    simp only [bytes, List.length_append, hbefore]
    omega
  obtain ⟨hcompressed, hunpacked⟩ := p.whole hwhole
  have htake := takeBytes?_append p.raw rest
  rw [entryOf?, hdrop, hheader]
  simp only [Option.bind_eq_bind, Option.bind_some, Entry.centralFields, Entry.fields, hcompressed,
    p.size_eq, p.crc_eq, htake, hunpacked, and_self, if_true, hstart, storedEntry]
  rfl

end Plot

/-! ## Plots in a row -/

/-- Bytes in which plots lie in their order, each where its entry says, with gaps between them. -/
inductive Sown : Bytes → List (Plot limit) → Prop
  | nil : Sown [] []
  | gap {front : Bytes} {plots : List (Plot limit)} (junk : Bytes) :
      Sown front plots → Sown (front ++ junk) plots
  | plot {front : Bytes} {plots : List (Plot limit)} {p : Plot limit} :
      Sown front plots → p.entry.offset = front.length → Sown (front ++ p.bytes) (plots ++ [p])

namespace Sown

variable {front : Bytes} {plots : List (Plot limit)} {p : Plot limit}

/-- Each plot is there where its entry says. -/
theorem cut (h : Sown front plots) (hp : p ∈ plots) :
    ∃ before after, front = before ++ (p.bytes ++ after) ∧ before.length = p.entry.offset := by
  induction h with
  | nil => cases hp
  | gap junk _ ih =>
    obtain ⟨before, after, rfl, hbefore⟩ := ih hp
    exact ⟨before, after ++ junk, by simp, hbefore⟩
  | @plot front plots last _ hoffset ih =>
    rcases List.mem_append.1 hp with hp | hp
    · obtain ⟨before, after, rfl, hbefore⟩ := ih hp
      exact ⟨before, after ++ last.bytes, by simp, hbefore⟩
    · obtain rfl := List.mem_singleton.1 hp
      exact ⟨front, [], by simp, hoffset.symm⟩

theorem finish_le (h : Sown front plots) (hp : p ∈ plots) : p.finish ≤ front.length := by
  obtain ⟨before, after, rfl, hbefore⟩ := h.cut hp
  simp only [Plot.finish, List.length_append]
  omega

/-- A plot ends before the next one begins. -/
theorem pairwise (h : Sown front plots) :
    plots.Pairwise fun p q => p.finish ≤ q.entry.offset := by
  induction h with
  | nil => exact .nil
  | gap _ _ ih => exact ih
  | plot hsown hoffset ih =>
    refine List.pairwise_append.2 ⟨ih, List.pairwise_singleton _ _, ?_⟩
    intro q hq last hlast
    obtain rfl := List.mem_singleton.1 hlast
    rw [hoffset]
    exact hsown.finish_le hq

/-- Whatever follows, a plot that has got all its data is found. -/
theorem entryOf?_eq (hlimit : limit < fullField) (h : Sown front plots) (hp : p ∈ plots)
    (hwhole : p.isWhole = true) (rest : Bytes) :
    entryOf? (front ++ rest) (p.entry.centralFields limit) = some p.storedEntry := by
  obtain ⟨before, after, rfl, hbefore⟩ := h.cut hp
  rw [List.append_assoc, List.append_assoc]
  exact p.entryOf?_eq hlimit hwhole hbefore (after ++ rest)

end Sown

end PhotoArchive.Zip
