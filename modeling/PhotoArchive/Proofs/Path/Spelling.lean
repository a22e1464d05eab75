import PhotoArchive.Proofs.Locator.Slots
import PhotoArchive.Proofs.Storage.Walking

/-!
# How paths are spelled

A text is a path exactly if it is empty or made of segments with single slashes in between, with or
without a slash behind the last one. The segments, and whether there is a last slash, are read back
from the path and determine it.

## Main definitions

- `Path.IsPart` — a text that can be a segment
- `Path.spelled` — the text with given segments, of a file or a directory

## Main statements

- `Path.spelled_parts` — a path is spelled by its segments
- `Path.exists_spelled` — every list of segments spells a path, and is read back from it
- `Path.ofString_spelled_iff` — so the paths are the texts that are spelled like this
-/

namespace PhotoArchive

namespace Text

theorem closedText_append (front back : List (List Char)) :
    closedText (front ++ back) = closedText front ++ closedText back :=
  List.flatMap_append

theorem closedText_singleton (piece : List Char) : closedText [piece] = piece ++ ['/'] := by
  rw [closedText_cons, closedText_nil]

theorem intercalate_concat (pieces : List (List Char)) (last : List Char) :
    ['/'].intercalate (pieces ++ [last]) = closedText pieces ++ last := by
  induction pieces with
  | nil => rw [List.nil_append, List.intercalate_singleton, closedText_nil, List.nil_append]
  | cons piece rest ih =>
    have hne : rest ++ [last] ≠ [] := by simp
    obtain ⟨next, later, hrest⟩ := List.exists_cons_of_ne_nil hne
    rw [List.cons_append, hrest, List.intercalate_cons_cons, ← hrest, ih, closedText_cons]
    simp

/-- A slash behind the last segment closes the text. -/
theorem intercalate_append_slash {pieces : List (List Char)} (h : pieces ≠ []) :
    ['/'].intercalate pieces ++ ['/'] = closedText pieces := by
  obtain ⟨front, last, rfl⟩ := List.eq_nil_or_concat pieces |>.resolve_left h
  rw [List.concat_eq_append, intercalate_concat, closedText_append, closedText_singleton,
    List.append_assoc]

theorem getLast?_closedText {pieces : List (List Char)} (h : pieces ≠ []) :
    (closedText pieces).getLast? = some '/' := by
  rw [← intercalate_append_slash h, List.getLast?_concat]

end Text

namespace Path

/-! ## Segments -/

/-- A text that can be a segment: it is not empty, does not lead upwards, and has neither a separator
nor a character that ends a text, a line or a column. -/
structure IsPart (part : String) : Prop where
  ne_empty : part ≠ ""
  ne_parent : part ≠ ".."
  chars : ∀ c ∈ part.toList, c ∉ ['/', '\\', '\x00', '\n', '\r', '\t']

theorem isPart_iff {part : String} : IsPart part ↔ IsSegment part.toList := by
  have hempty : part ≠ "" ↔ part.toList ≠ [] := String.toList_eq_nil_iff.not.symm
  have hparent : part ≠ ".." ↔ part.toList ≠ parentSegment := by
    rw [ne_eq, ← String.toList_inj]
    rfl
  have hchar (c : Char) : c ∉ ['/', '\\', '\x00', '\n', '\r', '\t'] ↔
      c ≠ '/' ∧ [c] ∉ forbiddenTexts.map String.toList := by
    simp [forbiddenTexts]
    tauto
  constructor
  · rintro ⟨hne, hup, hchars⟩
    exact ⟨hempty.1 hne, hparent.1 hup, fun c hc => (hchar c).1 (hchars c hc)⟩
  · rintro ⟨hne, hup, hchars⟩
    exact ⟨hempty.2 hne, hparent.2 hup, fun c hc => (hchar c).2 (hchars c hc)⟩

theorem isPart_of_mem {p : Path} {part : String} (h : part ∈ p.parts) : IsPart part := by
  obtain ⟨piece, hpiece, rfl⟩ := List.mem_map.1 h
  rw [isPart_iff, String.toList_ofList]
  exact isSegment_of_mem hpiece

/-! ## Spelling -/

/-- Segments with slashes in between, and one behind the last of them if they are `closed`. No
segments spell the root. -/
def spelled (parts : List String) (closed : Bool) : String :=
  if parts = [] then "" else "/".intercalate parts ++ if closed then "/" else ""

theorem toList_spelled_true (parts : List String) :
    (spelled parts true).toList = Text.closedText (parts.map String.toList) := by
  unfold spelled
  by_cases hnil : parts = []
  · rw [if_pos hnil, hnil]
    rfl
  · have hpieces : parts.map String.toList ≠ [] := by simpa using hnil
    rw [if_neg hnil, String.toList_append, String.toList_intercalate,
      ← Text.intercalate_append_slash hpieces]
    rfl

theorem toList_spelled_false (front : List String) (last : String) :
    (spelled (front ++ [last]) false).toList
      = Text.closedText (front.map String.toList) ++ last.toList := by
  have hne : front ++ [last] ≠ [] := by simp
  rw [spelled, if_neg hne, String.toList_append, String.toList_intercalate, List.map_append,
    List.map_singleton]
  simp [Text.intercalate_concat]

/-- A path is spelled by its segments. -/
theorem spelled_parts (p : Path) : spelled p.parts p.isDirectory = p.value := by
  have hback (pieces : List (List Char)) :
      (pieces.map String.ofList).map String.toList = pieces := by
    simp [Function.comp_def]
  rw [← String.toList_inj]
  cases hp : p.isDirectory with
  | true =>
    obtain ⟨pieces, hpieces, htext⟩ := exists_pieces hp
    have hslash : ∀ piece ∈ pieces, piece ≠ [] ∧ '/' ∉ piece := fun piece hpiece =>
      ⟨(hpieces piece hpiece).1, (hpieces piece hpiece).slash_not_mem⟩
    rw [toList_spelled_true, parts, hback, htext, Text.segments_closedText hslash]
  | false =>
    have hparts := parts_of_isFile hp
    have hne : p.parts ≠ [] := hparts ▸ Text.namesIn_ne_nil p.value
    rw [spelled, if_neg hne, String.toList_append, String.toList_intercalate, hparts, Text.namesIn,
      hback]
    simp [Text.intercalate_cut]

/-- Two paths with the same segments are the same if both are files or both are directories. -/
theorem eq_of_parts {p q : Path} (hparts : p.parts = q.parts)
    (hdirectory : p.isDirectory = q.isDirectory) : p = q := by
  apply Path.ext
  rw [← spelled_parts p, ← spelled_parts q, hparts, hdirectory]

theorem isDirectory_of_parts_nil {p : Path} (h : p.parts = []) : p.isDirectory = true := by
  cases hp : p.isDirectory with
  | true => rfl
  | false => exact absurd (parts_of_isFile hp ▸ h) (Text.namesIn_ne_nil p.value)

section Exists

variable {parts : List String} {closed : Bool}

theorem isSegment_of_mem_map (h : ∀ part ∈ parts, IsPart part) :
    ∀ piece ∈ parts.map String.toList, IsSegment piece := by
  intro piece hpiece
  obtain ⟨part, hpart, rfl⟩ := List.mem_map.1 hpiece
  exact isPart_iff.1 (h part hpart)

theorem exists_spelled_true (h : ∀ part ∈ parts, IsPart part) :
    ∃ p, ofString (spelled parts true) = .ok p ∧ p.parts = parts ∧ p.isDirectory = true := by
  have hpieces := isSegment_of_mem_map h
  have htext := toList_spelled_true parts
  have hvalid : violation? (spelled parts true) = none := by
    rw [← String.ofList_toList (s := spelled parts true), htext]
    exact violation?_closedText hpieces
  refine ⟨⟨spelled parts true, hvalid⟩, ofString_eq_ok hvalid, ?_, ?_⟩
  · rw [Path.parts, htext, Text.segments_closedText fun piece hpiece =>
      ⟨(hpieces piece hpiece).1, (hpieces piece hpiece).slash_not_mem⟩]
    simp [Function.comp_def]
  · by_cases hnil : parts = []
    · subst hnil
      rfl
    · have hne : parts.map String.toList ≠ [] := by simpa using hnil
      have hlast := Text.getLast?_closedText hne
      simp [isDirectory, htext, hlast]

theorem exists_spelled_false (h : ∀ part ∈ parts, IsPart part) (hne : parts ≠ []) :
    ∃ p, ofString (spelled parts false) = .ok p ∧ p.parts = parts ∧ p.isDirectory = false := by
  obtain ⟨front, last, rfl⟩ := List.eq_nil_or_concat parts |>.resolve_left hne
  rw [List.concat_eq_append] at h ⊢
  have hpieces := isSegment_of_mem_map fun part hpart => h part (List.mem_append_left [last] hpart)
  have hlast : IsSegment last.toList := isPart_iff.1 (h last (by simp))
  have htext := toList_spelled_false front last
  have hvalid : violation? (spelled (front ++ [last]) false) = none := by
    rw [← String.ofList_toList (s := spelled (front ++ [last]) false), htext]
    exact violation?_append_segment hpieces hlast
  refine ⟨⟨_, hvalid⟩, ofString_eq_ok hvalid, ?_, ?_⟩
  · rw [Path.parts, htext, Text.segments_closedText_append
      (fun piece hpiece => ⟨(hpieces piece hpiece).1, (hpieces piece hpiece).slash_not_mem⟩)
      hlast.1 hlast.slash_not_mem]
    simp [Function.comp_def]
  · have hend : last.toList.getLast? ≠ some '/' := fun hslash =>
      hlast.slash_not_mem (List.mem_of_getLast? hslash)
    simp [isDirectory, isRoot, htext, hlast.1, hend]

/-- Every list of segments spells a path, and is read back from it. -/
theorem exists_spelled (h : ∀ part ∈ parts, IsPart part) (hroot : parts = [] → closed = true) :
    ∃ p, ofString (spelled parts closed) = .ok p ∧ p.parts = parts ∧ p.isDirectory = closed := by
  cases closed with
  | true => exact exists_spelled_true h
  | false => exact exists_spelled_false h fun hnil => Bool.false_ne_true (hroot hnil)

end Exists

/-- The texts of paths are the empty one and those that are made of segments with single slashes in
between, with or without one at the end. Which segments these are, and whether there is a last slash,
is read back, and the text is spelled by them again. -/
theorem ofString_spelled_iff (value : String) :
    ((∃ p, ofString value = .ok p) ↔
      value = "" ∨ ∃ (parts : List String) (closed : Bool),
        parts ≠ [] ∧ (∀ part ∈ parts, IsPart part) ∧
        value = "/".intercalate parts ++ if closed then "/" else "") ∧
    (∀ p, ofString value = .ok p →
      spelled p.parts p.isDirectory = value ∧
      (value = "" → p.parts = [] ∧ p.isDirectory = true) ∧
      ∀ (parts : List String) (closed : Bool), parts ≠ [] → (∀ part ∈ parts, IsPart part) →
        value = "/".intercalate parts ++ (if closed then "/" else "") →
        p.parts = parts ∧ p.isDirectory = closed) ∧
    ∀ p q : Path, p.parts = q.parts → p.isDirectory = q.isDirectory → p = q := by
  have hspelled {parts : List String} {closed : Bool} (hne : parts ≠ []) :
      spelled parts closed = "/".intercalate parts ++ if closed then "/" else "" := if_neg hne
  refine ⟨⟨?_, ?_⟩, ?_, fun p q => eq_of_parts⟩
  · rintro ⟨p, hp⟩
    obtain rfl := ofString_eq_ok_iff.1 hp
    by_cases hnil : p.parts = []
    · left
      rw [← spelled_parts p, hnil]
      rfl
    · right
      refine ⟨p.parts, p.isDirectory, hnil, fun part => isPart_of_mem, ?_⟩
      rw [← hspelled hnil, spelled_parts]
  · rintro (rfl | ⟨parts, closed, hne, hparts, rfl⟩)
    · exact ⟨root, rfl⟩
    · rw [← hspelled hne]
      obtain ⟨p, hp, -⟩ := exists_spelled hparts fun hnil => absurd hnil hne
      exact ⟨p, hp⟩
  · intro p hp
    refine ⟨(spelled_parts p).trans (ofString_eq_ok_iff.1 hp), ?_, ?_⟩
    · rintro rfl
      obtain rfl : p = root := Path.ext (ofString_eq_ok_iff.1 hp)
      exact ⟨rfl, rfl⟩
    · rintro parts closed hne hparts rfl
      rw [← hspelled hne] at hp
      obtain ⟨q, hq, hread⟩ := exists_spelled hparts fun hnil => absurd hnil hne
      obtain rfl : p = q := Except.ok.inj (hp.symm.trans hq)
      exact hread

end Path

end PhotoArchive
