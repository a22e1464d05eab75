import PhotoArchive.Text.Segments
import PhotoArchive.Violation

/-!
# Paths

A path names an archive entry or a blob. It is a slash-separated text that is safe to use as a file
name below some root: it does not start with a slash, has no double slash, no backslash, no control
character that separates lines or columns, no null character and no segment `..`. The empty path is
the *root*; the root and every path that ends with a slash are *directories*, all others are
*files*.

## Main definitions

- `Path` — a text that keeps the rules
- `Path.ofString` — the path with a given text, or the first rule that the text breaks
- `Path.parts`, `Path.name`, `Path.parent` — its segments, the last of them, and the directory above
- `Path.join` — a path below a directory
- `Path.numbered` — the file `a-1.jpg` beside the file `a.jpg`
- `Path.withSuffixIndex` — the same for an index that is not too long to be written

## Design notes

The type keeps the text and a proof that it breaks no rule, so equality of paths is equality of
texts. `parent` needs no check: the text that it builds keeps the rules because the segments it is
built from do.

A text may have surrogates in it, as `Text.points` tells, and the rules do not exclude them: a path need
not be a name that an archive or a file can have.

Only indices of up to 4300 digits are written. `numbered` does without this limit. It is meant for indices
that count names: before their digits are too many, there are more names than anything can hold.
-/

namespace PhotoArchive

namespace Path

/-- What must not occur in a path, in the order in which it is looked for. -/
def forbiddenTexts : List String := ["\x00", "\n", "\r", "\t", "//", "\\"]

/-- The segment that names the parent directory. -/
def parentSegment : List Char := ['.', '.']

/-- The first rule that a text breaks as a path. -/
def violation? (value : String) : Option Violation :=
  if value.toList.head? = some '/' then some .leadingSlash
  else
    match forbiddenTexts.find? fun text => Text.occurs text.toList value.toList with
    | some text => some (.forbiddenText value text)
    | none =>
      if parentSegment ∈ Text.segments value.toList then some (.parentSegment value) else none

end Path

/-- A slash-separated text that is safe as a file name below a root. -/
structure Path where
  /-- The text of the path. -/
  value : String
  /-- The text breaks no rule. -/
  valid : Path.violation? value = none
  deriving DecidableEq

namespace Path

@[ext] theorem ext {p q : Path} (h : p.value = q.value) : p = q := by
  cases p
  cases q
  cases h
  rfl

instance : Repr Path := ⟨fun p _ => repr p.value⟩

instance : ToString Path := ⟨Path.value⟩

/-! ## Making paths -/

/-- A text breaks no rule exactly when it does not start with a slash, contains no forbidden text
and has no parent segment. -/
theorem violation?_eq_none_iff {value : String} :
    violation? value = none ↔
      value.toList.head? ≠ some '/' ∧
      (∀ text ∈ forbiddenTexts, Text.occurs text.toList value.toList = false) ∧
      parentSegment ∉ Text.segments value.toList := by
  unfold violation?
  split
  · simp [*]
  · rename_i hslash
    split
    · rename_i text hfind
      have hmem := List.mem_of_find?_eq_some hfind
      have hocc := List.find?_some hfind
      simp only [reduceCtorEq, false_iff, not_and]
      intro _ hall
      simp [hall text hmem] at hocc
    · rename_i hnone
      have hall : ∀ text ∈ forbiddenTexts, Text.occurs text.toList value.toList = false := by
        intro text hmem
        simpa using List.find?_eq_none.1 hnone text hmem
      simpa [hslash] using fun _ => hall

/-- The path with a given text, or the first rule that the text breaks. -/
def ofString (value : String) : Except Violation Path :=
  match h : violation? value with
  | some violation => .error violation
  | none => .ok ⟨value, h⟩

/-- A path is made exactly from a text that breaks no rule, and keeps that text. -/
theorem ofString_eq_ok_iff {value : String} {p : Path} : ofString value = .ok p ↔ p.value = value := by
  unfold ofString
  split
  · rename_i violation hv
    simp only [reduceCtorEq, false_iff]
    intro h
    have := p.valid
    rw [h, hv] at this
    exact absurd this (by simp)
  · rename_i hv
    simp only [Except.ok.injEq]
    exact ⟨fun h => by rw [← h], fun h => Path.ext h.symm⟩

/-- The root directory, whose text is empty. -/
def root : Path := ⟨"", by decide⟩

/-! ## Its pieces -/

/-- The root has an empty text. -/
def isRoot (p : Path) : Bool := p.value.toList.isEmpty

/-- Directories are the root and the paths that end with a slash. -/
def isDirectory (p : Path) : Bool := p.isRoot || p.value.toList.getLast? = some '/'

/-- The segments of a path. -/
def parts (p : Path) : List String := (Text.segments p.value.toList).map String.ofList

/-- The last segment of a path; the root has an empty name. -/
def name (p : Path) : String := p.parts.getLastD ""

/-- Segments of a path are not empty, have no slash, no forbidden character, and are not `..`. -/
theorem mem_segments {p : Path} {piece : List Char} (h : piece ∈ Text.segments p.value.toList) :
    piece ≠ [] ∧ piece ≠ parentSegment ∧ ∀ c ∈ piece, c ≠ '/' ∧
      [c] ∉ forbiddenTexts.map String.toList := by
  obtain ⟨hne, hchars⟩ := Text.mem_of_mem_segments h
  obtain ⟨-, hforbidden, hparent⟩ := violation?_eq_none_iff.1 p.valid
  refine ⟨hne, fun e => hparent (e ▸ h), fun c hc => ⟨(hchars c hc).2, fun hmem => ?_⟩⟩
  obtain ⟨text, htext, heq⟩ := List.mem_map.1 hmem
  have := hforbidden text htext
  rw [heq, Bool.eq_false_iff] at this
  exact this (Text.occurs_singleton.2 (hchars c hc).1)

/-- None of the segments is empty or leads upwards, and none has a slash. -/
theorem of_mem_parts {p : Path} {part : String} (h : part ∈ p.parts) :
    part ≠ "" ∧ part ≠ ".." ∧ '/' ∉ part.toList := by
  obtain ⟨piece, hpiece, rfl⟩ := List.mem_map.1 h
  obtain ⟨hne, hparent, hchars⟩ := mem_segments hpiece
  refine ⟨by simpa using hne, fun heq => hparent (String.ofList_inj.1 heq), ?_⟩
  intro hslash
  rw [String.toList_ofList] at hslash
  exact (hchars '/' hslash).1 rfl

/-- Closed text of segments of paths breaks no rule. -/
theorem violation?_closedText {pieces : List (List Char)}
    (h : ∀ piece ∈ pieces, piece ≠ [] ∧ piece ≠ parentSegment ∧ ∀ c ∈ piece, c ≠ '/' ∧
      [c] ∉ forbiddenTexts.map String.toList) :
    violation? (String.ofList (Text.closedText pieces)) = none := by
  have hslash : ∀ piece ∈ pieces, piece ≠ [] ∧ '/' ∉ piece := fun piece hp =>
    ⟨(h piece hp).1, fun hm => (((h piece hp).2.2) '/' hm).1 rfl⟩
  rw [violation?_eq_none_iff, String.toList_ofList]
  refine ⟨Text.head?_closedText hslash, fun text htext => ?_, ?_⟩
  · have hchar : ∀ c : Char, [c] ∈ forbiddenTexts.map String.toList → c ≠ '/' →
        Text.occurs [c] (Text.closedText pieces) = false := by
      intro c hc hne
      rw [Bool.eq_false_iff, ne_eq, Text.occurs_singleton]
      intro hmem
      rcases Text.mem_closedText hmem with heq | ⟨piece, hp, hcp⟩
      · exact hne heq
      · exact ((h piece hp).2.2 c hcp).2 hc
    have hcases : text = "\x00" ∨ text = "\n" ∨ text = "\r" ∨ text = "\t" ∨ text = "//" ∨
        text = "\\" := by simpa [forbiddenTexts] using htext
    rcases hcases with rfl | rfl | rfl | rfl | rfl | rfl
    · exact hchar '\x00' (by decide) (by decide)
    · exact hchar '\n' (by decide) (by decide)
    · exact hchar '\r' (by decide) (by decide)
    · exact hchar '\t' (by decide) (by decide)
    · exact Text.occurs_slashes_closedText hslash
    · exact hchar '\\' (by decide) (by decide)
  · rw [Text.segments_closedText hslash]
    intro hmem
    exact (h _ hmem).2.1 rfl

/-- The directory that a path lies in: its segments without the last one. -/
def parent (p : Path) : Path where
  value := String.ofList (Text.closedText (Text.segments p.value.toList).dropLast)
  valid := violation?_closedText fun _ hp => mem_segments (List.dropLast_subset _ hp)

/-! ## Building paths from paths -/

/-- The path `other` below the directory `p`. -/
def join (p other : Path) : Except Violation Path :=
  if p.isDirectory then ofString (p.value ++ other.value) else .error .joinToFile

/-- The path with the text `other` below the directory `p`. That `p` is a directory is asked
first. -/
def joinText (p : Path) (other : String) : Except Violation Path :=
  if p.isDirectory then do p.join (← ofString other) else .error .joinToFile

/-- A file name in two: the stem before the last dot and, with its dot, the extension behind it.
The stem is everything when there is no dot or nothing before the last one. -/
def splitExtension (name : List Char) : List Char × List Char :=
  let extension := (name.reverse.takeWhile (· ≠ '.')).reverse
  let stem := name.take (name.length - (extension.length + 1))
  if name.contains '.' && !stem.isEmpty then (stem, '.' :: extension) else (name, [])

/-- The file beside `p` whose name has `-index` at the end of the stem, whatever the length of the
index. -/
def numbered (p : Path) (index : Int) : Except Violation Path :=
  if p.isDirectory then .error .indexOfDirectory
  else
    let (stem, extension) := splitExtension p.name.toList
    p.parent.joinText (String.ofList (stem ++ '-' :: (toString index).toList ++ extension))

example : ((ofString "a/b.tar.gz").bind (·.numbered 2)).toOption
    = (ofString "a/b.tar-2.gz").toOption := by decide

/-- The most digits with which an index is written. -/
def maxIndexDigits : Nat := 4300

/-- Why there is no file with an index beside a path. -/
inductive IndexFault where
  | violation (violation : Violation)
  | tooManyDigits
  deriving DecidableEq, Repr

/-- The fault in words. -/
def IndexFault.message : IndexFault → String
  | violation v => v.message
  | tooManyDigits =>
    "Exceeds the limit (" ++ toString maxIndexDigits ++ " digits) for integer string conversion; "
      ++ "use sys.set_int_max_str_digits() to increase the limit"

/-- The file beside `p` with an index, if the index is not too long. -/
def withSuffixIndex (p : Path) (index : Int) : Except IndexFault Path :=
  if p.isDirectory then .error (.violation .indexOfDirectory)
  else if maxIndexDigits < (Nat.toDigits 10 index.natAbs).length then .error .tooManyDigits
  else (p.numbered index).mapError .violation

end Path

end PhotoArchive
