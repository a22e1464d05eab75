import PhotoArchive.Assembly

/-!
# Files beside a file

Every file has a file `name-index` beside it, for every index. So a name that is taken can always be
told apart from the others, and asking for a free name never fails.

## Main definitions

- `Path.IsSegment` — a text that can stand between the slashes of a path

## Main statements

- `Path.violation?_append_segment` — segments with slashes behind them, and one more segment, are a
  path
- `Path.exists_numbered` — the file with an index exists
- `exists_uniqueName` — so there is always a name for a file
-/

namespace PhotoArchive

namespace Text

theorem occurs_slashes_of_not_mem {cs : List Char} (h : '/' ∉ cs) :
    occurs ['/', '/'] cs = false := by
  induction cs with
  | nil => rfl
  | cons c cs ih =>
    have hc : '/' ≠ c := fun e => h (e ▸ List.mem_cons_self)
    have hcs := ih fun m => h (List.mem_cons_of_mem _ m)
    simp [occurs, List.isPrefixOf, hc, hcs]

/-- A slash-free text behind segments brings no double slash in. -/
theorem occurs_slashes_closedText_append {pieces : List (List Char)} {cs : List Char}
    (h : ∀ piece ∈ pieces, piece ≠ [] ∧ '/' ∉ piece) (hcs : '/' ∉ cs) :
    (closedText pieces ++ cs).head? ≠ some '/' ∧
      occurs ['/', '/'] (closedText pieces ++ cs) = false := by
  induction pieces with
  | nil =>
    refine ⟨fun hhead => hcs (List.mem_of_mem_head? hhead), ?_⟩
    exact occurs_slashes_of_not_mem hcs
  | cons piece pieces ih =>
    obtain ⟨hne, hslash⟩ := h piece List.mem_cons_self
    obtain ⟨hhead, hocc⟩ := ih fun q hq => h q (List.mem_cons_of_mem _ hq)
    constructor
    · cases piece with
      | nil => exact absurd rfl hne
      | cons c piece =>
        have : c ≠ '/' := fun e => hslash (by simp [e])
        simpa using this
    · rw [closedText_cons, List.append_assoc, List.cons_append, occurs_slashes_append hslash, hocc]
      simpa using hhead

theorem segments_closedText_append {pieces : List (List Char)} {cs : List Char}
    (h : ∀ piece ∈ pieces, piece ≠ [] ∧ '/' ∉ piece) (hne : cs ≠ []) (hcs : '/' ∉ cs) :
    segments (closedText pieces ++ cs) = pieces ++ [cs] := by
  have hkept : pieces.filter (!·.isEmpty) = pieces :=
    List.filter_eq_self.2 fun p hp => by simpa using (h p hp).1
  rw [segments, cut_closedText_append fun p hp => (h p hp).2, cut_of_not_mem hcs]
  simp [hkept, hne]

end Text

namespace Path

/-- A text that can stand between the slashes of a path. -/
def IsSegment (piece : List Char) : Prop :=
  piece ≠ [] ∧ piece ≠ parentSegment ∧
    ∀ c ∈ piece, c ≠ '/' ∧ [c] ∉ forbiddenTexts.map String.toList

theorem IsSegment.slash_not_mem {piece : List Char} (h : IsSegment piece) : '/' ∉ piece :=
  fun hm => (h.2.2 '/' hm).1 rfl

/-- Segments with slashes behind them, and one more segment, break no rule. -/
theorem violation?_append_segment {pieces : List (List Char)} {last : List Char}
    (h : ∀ piece ∈ pieces, IsSegment piece) (hlast : IsSegment last) :
    violation? (String.ofList (Text.closedText pieces ++ last)) = none := by
  have hslash : ∀ piece ∈ pieces, piece ≠ [] ∧ '/' ∉ piece := fun piece hp =>
    ⟨(h piece hp).1, (h piece hp).slash_not_mem⟩
  obtain ⟨hhead, hdouble⟩ := Text.occurs_slashes_closedText_append hslash hlast.slash_not_mem
  rw [violation?_eq_none_iff, String.toList_ofList]
  refine ⟨hhead, fun text htext => ?_, ?_⟩
  · -- All forbidden texts but the double slash are single characters.
    have hchar : ∀ c : Char, [c] ∈ forbiddenTexts.map String.toList → c ≠ '/' →
        Text.occurs [c] (Text.closedText pieces ++ last) = false := by
      intro c hc hne
      rw [Bool.eq_false_iff, ne_eq, Text.occurs_singleton, List.mem_append]
      rintro (hmem | hmem)
      · rcases Text.mem_closedText hmem with heq | ⟨piece, hp, hcp⟩
        · exact hne heq
        · exact ((h piece hp).2.2 c hcp).2 hc
      · exact (hlast.2.2 c hmem).2 hc
    have hcases : text = "\x00" ∨ text = "\n" ∨ text = "\r" ∨ text = "\t" ∨ text = "//" ∨
        text = "\\" := by simpa [forbiddenTexts] using htext
    rcases hcases with rfl | rfl | rfl | rfl | rfl | rfl
    · exact hchar '\x00' (by decide) (by decide)
    · exact hchar '\n' (by decide) (by decide)
    · exact hchar '\r' (by decide) (by decide)
    · exact hchar '\t' (by decide) (by decide)
    · exact hdouble
    · exact hchar '\\' (by decide) (by decide)
  · rw [Text.segments_closedText_append hslash hlast.1 hlast.slash_not_mem]
    intro hmem
    rcases List.mem_append.1 hmem with hmem | hmem
    · exact (h _ hmem).2.1 rfl
    · exact hlast.2.1 (List.mem_singleton.1 hmem).symm

theorem ofString_eq_ok {value : String} (h : violation? value = none) :
    ofString value = .ok ⟨value, h⟩ :=
  ofString_eq_ok_iff.2 rfl

/-- Joining a path to a directory succeeds when the joined text breaks no rule. -/
theorem joinText_eq_ok {p : Path} (hp : p.isDirectory = true) {text : String}
    (h : violation? text = none) (hjoined : violation? (p.value ++ text) = none) :
    p.joinText text = .ok ⟨p.value ++ text, hjoined⟩ := by
  have hjoin : p.join ⟨text, h⟩ = .ok ⟨p.value ++ text, hjoined⟩ := by
    rw [join, if_pos hp, ofString_eq_ok hjoined]
  rw [joinText, if_pos hp, ofString_eq_ok h]
  exact hjoin

/-! ## The name with an index -/

/-- The characters of a whole number are digits and a sign. -/
theorem mem_toString_int {n : Int} {c : Char} (h : c ∈ (toString n).toList) :
    c = '-' ∨ c.isDigit = true := by
  have hdigits : ∀ m : Nat, c ∈ m.repr.toList → c.isDigit = true := by
    intro m hm
    rw [Nat.toList_repr] at hm
    exact Nat.isDigit_of_mem_toDigits (by decide) (by decide) hm
  cases n with
  | ofNat m => exact .inr (hdigits m h)
  | negSucc m =>
    have h' : c ∈ "-".toList ++ (m + 1).repr.toList := by
      simpa [toString, Int.repr] using h
    rcases List.mem_append.1 h' with hm | hm
    · exact .inl (by simpa using hm)
    · exact .inr (hdigits _ hm)

/-- A sign and digits can stand in a segment. -/
theorem allowed_of_index {c : Char} (h : c = '-' ∨ c.isDigit = true) :
    c ≠ '/' ∧ [c] ∉ forbiddenTexts.map String.toList := by
  -- No slash and no forbidden character is a sign or a digit.
  have hforbidden : ∀ d : Char, d = '/' ∨ [d] ∈ forbiddenTexts.map String.toList →
      d ≠ '-' ∧ d.isDigit = false := by
    intro d hd
    have hd' : d = '/' ∨ d = '\x00' ∨ d = '\n' ∨ d = '\r' ∨ d = '\t' ∨ d = '\\' := by
      simpa [forbiddenTexts] using hd
    rcases hd' with rfl | rfl | rfl | rfl | rfl | rfl <;> decide
  constructor
  · rintro rfl
    have := hforbidden '/' (.inl rfl)
    simp_all
  · intro hc
    have := hforbidden c (.inr hc)
    simp_all

theorem mem_splitExtension {name : List Char} {c : Char}
    (h : c ∈ (splitExtension name).1 ∨ c ∈ (splitExtension name).2) : c ∈ name := by
  unfold splitExtension at h
  simp only at h
  split at h
  · next hdot =>
    rcases h with h | h
    · exact List.mem_of_mem_take h
    · rcases List.mem_cons.1 h with rfl | h
      · simp only [Bool.and_eq_true, List.contains_iff_mem] at hdot
        exact hdot.1
      · have hrev := (List.takeWhile_sublist _).subset (List.mem_reverse.1 h)
        exact List.mem_reverse.1 hrev
  · simpa using h

/-- A segment with an index at the end of its stem is a segment. -/
theorem isSegment_withIndex {name : List Char} (h : IsSegment name) (index : Int) :
    IsSegment ((splitExtension name).1 ++ '-' :: (toString index).toList
      ++ (splitExtension name).2) := by
  refine ⟨by simp, fun heq => ?_, fun c hc => ?_⟩
  · -- The parent segment has no sign in it.
    have hmem : '-' ∈ parentSegment := by
      rw [← heq]
      simp
    exact absurd hmem (by decide)
  · simp only [List.mem_append, List.mem_cons] at hc
    rcases hc with (hc | hc | hc) | hc
    · exact h.2.2 c (mem_splitExtension (.inl hc))
    · exact allowed_of_index (.inl hc)
    · exact allowed_of_index (mem_toString_int hc)
    · exact h.2.2 c (mem_splitExtension (.inr hc))

/-! ## The file with an index -/

theorem isSegment_of_mem {p : Path} {piece : List Char} (h : piece ∈ Text.segments p.value.toList) :
    IsSegment piece :=
  mem_segments h

/-- A file has a segment: its text begins with something other than a slash. -/
theorem segments_ne_nil {p : Path} (h : p.isDirectory = false) :
    Text.segments p.value.toList ≠ [] := by
  obtain ⟨hhead, -, -⟩ := violation?_eq_none_iff.1 p.valid
  have hroot : p.value.toList ≠ [] := by
    intro hnil
    simp [isDirectory, isRoot, hnil] at h
  -- The first character is in the first segment.
  cases hcs : p.value.toList with
  | nil => exact absurd hcs hroot
  | cons c cs =>
    have hc : c ≠ '/' := by
      rintro rfl
      simp [hcs] at hhead
    obtain ⟨piece, pieces, -, hcut⟩ := Text.cut_cons_of_ne hc cs
    simp [Text.segments, hcut]

theorem isDirectory_parent (p : Path) : p.parent.isDirectory = true := by
  simp only [isDirectory, isRoot, parent, String.toList_ofList, Bool.or_eq_true,
    List.isEmpty_iff, decide_eq_true_eq]
  rcases List.eq_nil_or_concat (Text.segments p.value.toList).dropLast with hnil | ⟨init, last, h⟩
  · simp [hnil]
  · right
    rw [h]
    simp [Text.closedText]

/-- The file with an index exists beside every file, in the same directory. -/
theorem exists_numbered {p : Path} (h : p.isDirectory = false) (index : Int) :
    ∃ q, p.numbered index = .ok q ∧
      q.value.toList = p.parent.value.toList ++ ((splitExtension p.name.toList).1
        ++ '-' :: (toString index).toList ++ (splitExtension p.name.toList).2) := by
  obtain ⟨init, last, hlast⟩ : ∃ init last, Text.segments p.value.toList = init ++ [last] := by
    rcases List.eq_nil_or_concat (Text.segments p.value.toList) with hnil | ⟨init, last, h'⟩
    · exact absurd hnil (segments_ne_nil h)
    · exact ⟨init, last, by simpa using h'⟩
  have hname : p.name.toList = last := by
    simp [name, parts, hlast]
  have hparent : p.parent.value = String.ofList (Text.closedText init) := by
    simp [parent, hlast]
  have hseg : ∀ piece ∈ init ++ [last], IsSegment piece := fun piece hp =>
    isSegment_of_mem (hlast ▸ hp)
  have hnew := isSegment_withIndex (hseg last (by simp)) index
  rw [hname]
  generalize hindexed : (splitExtension last).1 ++ '-' :: (toString index).toList
    ++ (splitExtension last).2 = indexed at hnew ⊢
  have hfile : violation? (String.ofList indexed) = none := by
    have h' := @violation?_append_segment [] indexed (by simp) hnew
    rwa [Text.closedText_nil, List.nil_append] at h'
  have hpath : violation? (p.parent.value ++ String.ofList indexed) = none := by
    rw [hparent, ← String.ofList_append]
    exact violation?_append_segment (fun q hq => hseg q (by simp [hq])) hnew
  refine ⟨⟨_, hpath⟩, ?_, by simp⟩
  rw [numbered, if_neg (by simp [h]), hname]
  simp only [hindexed]
  exact joinText_eq_ok p.isDirectory_parent hfile hpath

end Path

/-! ## Free names -/

/-- Looking for a free name beside a file never fails. -/
theorem exists_firstFreeName {name : Path} (h : name.isDirectory = false) (taken : List Path)
    (fuel index : Nat) : ∃ free, firstFreeName name taken fuel index = .ok free := by
  -- The candidate with any index exists, so it does not matter at which one the search stops.
  induction fuel generalizing index with
  | zero =>
    obtain ⟨q, hq, -⟩ := Path.exists_numbered h index
    exact ⟨q, hq⟩
  | succ fuel ih =>
    obtain ⟨q, hq, -⟩ := Path.exists_numbered h index
    rw [firstFreeName, hq]
    show ∃ free, (if q ∈ taken then firstFreeName name taken fuel (index + 1) else .ok q) = .ok free
    by_cases htaken : q ∈ taken
    · rw [if_pos htaken]
      exact ih (index + 1)
    · exact ⟨q, if_neg htaken⟩

/-- There is a name for every file, whatever names are taken. -/
theorem exists_uniqueName {name : Path} (h : name.isDirectory = false) (taken : List Path) :
    ∃ free, uniqueName name taken = .ok free := by
  unfold uniqueName
  split
  · exact exists_firstFreeName h taken _ 1
  · exact ⟨name, rfl⟩

end PhotoArchive
