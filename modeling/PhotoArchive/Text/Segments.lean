/-!
# Segments of a slash-separated text

A text is cut at its slashes; the non-empty pieces are its *segments*. Text of the form
`a/b/c/`, every segment followed by a slash, is written by `closedText`, and cutting it gives the
segments back.

## Main definitions

- `Text.cut` — the pieces between slashes, empty ones included
- `Text.segments` — the non-empty pieces
- `Text.closedText` — segments, each followed by a slash
- `Text.occurs` — whether one text occurs inside another

## Main statements

- `Text.segments_closedText` — slash-free, non-empty segments are read back
- `Text.occurs_slashes_closedText` — the closed text of non-empty segments has no double slash
-/

namespace PhotoArchive.Text

/-- Whether `needle` occurs in a list of characters, at any place. -/
def occurs (needle : List Char) : List Char → Bool
  | [] => needle.isEmpty
  | c :: cs => needle.isPrefixOf (c :: cs) || occurs needle cs

/-- The pieces between slashes, empty ones included. -/
def cut : List Char → List (List Char)
  | [] => [[]]
  | c :: cs =>
    if c = '/' then [] :: cut cs
    else match cut cs with
      | [] => [[c]]
      | piece :: pieces => (c :: piece) :: pieces

/-- The non-empty pieces between slashes. -/
def segments (cs : List Char) : List (List Char) := (cut cs).filter (!·.isEmpty)

/-- Segments, each followed by a slash. -/
def closedText (pieces : List (List Char)) : List Char := pieces.flatMap (· ++ ['/'])

/-! ## Cutting -/

theorem cut_ne_nil (cs : List Char) : cut cs ≠ [] := by
  cases cs with
  | nil => simp [cut]
  | cons c cs =>
    simp only [cut]
    split
    · simp
    · split <;> simp

theorem cut_cons_of_ne {c : Char} (h : c ≠ '/') (cs : List Char) :
    ∃ piece pieces, cut cs = piece :: pieces ∧ cut (c :: cs) = (c :: piece) :: pieces := by
  cases hcut : cut cs with
  | nil => exact absurd hcut (cut_ne_nil cs)
  | cons piece pieces => exact ⟨piece, pieces, rfl, by simp [cut, h, hcut]⟩

/-- A piece has no slash and only characters of the text. -/
theorem mem_of_mem_cut {cs piece : List Char} (h : piece ∈ cut cs) :
    ∀ c ∈ piece, c ∈ cs ∧ c ≠ '/' := by
  induction cs generalizing piece with
  | nil =>
    have : piece = [] := by simpa [cut] using h
    simp [this]
  | cons d cs ih =>
    by_cases hd : d = '/'
    · have h' : piece = [] ∨ piece ∈ cut cs := by simpa [cut, hd] using h
      rcases h' with rfl | h'
      · simp
      · intro c hc
        exact ⟨List.mem_cons_of_mem _ (ih h' c hc).1, (ih h' c hc).2⟩
    · obtain ⟨first, rest, hcut, hcons⟩ := cut_cons_of_ne hd cs
      rw [hcons] at h
      rcases List.mem_cons.1 h with rfl | h
      · intro c hc
        rcases List.mem_cons.1 hc with rfl | hc
        · exact ⟨List.mem_cons_self, hd⟩
        · have := @ih first (by simp [hcut]) c hc
          exact ⟨List.mem_cons_of_mem _ this.1, this.2⟩
      · intro c hc
        have := @ih piece (by simp [hcut, h]) c hc
        exact ⟨List.mem_cons_of_mem _ this.1, this.2⟩

/-- A text without a slash is its own only piece. -/
theorem cut_of_not_mem {cs : List Char} (h : '/' ∉ cs) : cut cs = [cs] := by
  induction cs with
  | nil => rfl
  | cons c cs ih =>
    have hc : c ≠ '/' := fun e => h (by simp [e])
    have hp : '/' ∉ cs := fun m => h (List.mem_cons_of_mem _ m)
    simp [cut, hc, ih hp]

/-- Where a text has a slash, a piece ends. -/
theorem cut_append_slash_append (cs later : List Char) :
    cut (cs ++ '/' :: later) = cut cs ++ cut later := by
  induction cs with
  | nil => rfl
  | cons c cs ih =>
    by_cases hc : c = '/'
    · simp [cut, hc, ih]
    · obtain ⟨piece, pieces, hcut, hcons⟩ := cut_cons_of_ne hc cs
      rw [hcons, List.cons_append, cut, if_neg hc, ih, hcut]
      rfl

/-- A slash-free piece in front is cut off whole. -/
theorem cut_append_slash {piece : List Char} (h : '/' ∉ piece) (cs : List Char) :
    cut (piece ++ '/' :: cs) = piece :: cut cs := by
  rw [cut_append_slash_append, cut_of_not_mem h, List.singleton_append]

/-- A segment is not empty, has no slash and only characters of the text. -/
theorem mem_of_mem_segments {cs piece : List Char} (h : piece ∈ segments cs) :
    piece ≠ [] ∧ ∀ c ∈ piece, c ∈ cs ∧ c ≠ '/' := by
  have h' := List.mem_filter.1 h
  exact ⟨by simpa using h'.2, mem_of_mem_cut h'.1⟩

/-! ## Joining -/

@[simp] theorem closedText_nil : closedText [] = [] := rfl

@[simp] theorem closedText_cons (piece : List Char) (pieces : List (List Char)) :
    closedText (piece :: pieces) = piece ++ '/' :: closedText pieces := by
  simp [closedText]

/-- Slash-free pieces in closed text are followed in the cut by what comes behind. -/
theorem cut_closedText_append {pieces : List (List Char)}
    (h : ∀ piece ∈ pieces, '/' ∉ piece) (cs : List Char) :
    cut (closedText pieces ++ cs) = pieces ++ cut cs := by
  induction pieces with
  | nil => rfl
  | cons piece pieces ih =>
    have hp := h piece List.mem_cons_self
    have hps := ih fun q hq => h q (List.mem_cons_of_mem _ hq)
    simp [List.append_assoc, cut_append_slash hp, hps]

/-- Non-empty, slash-free segments are read back from their closed text. -/
theorem segments_closedText {pieces : List (List Char)}
    (h : ∀ piece ∈ pieces, piece ≠ [] ∧ '/' ∉ piece) :
    segments (closedText pieces) = pieces := by
  have hcut := @cut_closedText_append pieces (fun p hp => (h p hp).2) []
  rw [List.append_nil] at hcut
  rw [segments, hcut, List.filter_append]
  have : pieces.filter (!·.isEmpty) = pieces :=
    List.filter_eq_self.2 fun p hp => by simpa using (h p hp).1
  simp [this, cut]

/-! ## Occurrence -/

/-- One character occurs in a text exactly when it is one of its characters. -/
theorem occurs_singleton {d : Char} {cs : List Char} : occurs [d] cs = true ↔ d ∈ cs := by
  induction cs with
  | nil => simp [occurs]
  | cons c cs ih => simp [occurs, ih, List.isPrefixOf]

/-- A double slash does not begin in a slash-free piece that something other than a slash
follows. -/
theorem occurs_slashes_append {piece : List Char} (h : '/' ∉ piece) (cs : List Char) :
    occurs ['/', '/'] (piece ++ '/' :: cs)
      = (decide (cs.head? = some '/') || occurs ['/', '/'] cs) := by
  induction piece with
  | nil =>
    cases cs with
    | nil => rfl
    | cons c cs =>
      by_cases hc : c = '/'
      · simp [occurs, List.isPrefixOf, hc]
      · have hc' : '/' ≠ c := fun e => hc e.symm
        simp [occurs, List.isPrefixOf, hc, hc']
  | cons c piece ih =>
    have hc : '/' ≠ c := fun e => h (e ▸ List.mem_cons_self)
    have hp : '/' ∉ piece := fun m => h (List.mem_cons_of_mem _ m)
    simp [occurs, List.isPrefixOf, hc, ih hp]

/-- Closed text of non-empty segments does not begin with a slash. -/
theorem head?_closedText {pieces : List (List Char)}
    (h : ∀ piece ∈ pieces, piece ≠ [] ∧ '/' ∉ piece) :
    (closedText pieces).head? ≠ some '/' := by
  cases pieces with
  | nil => simp
  | cons piece pieces =>
    obtain ⟨hne, hslash⟩ := h piece List.mem_cons_self
    cases piece with
    | nil => exact absurd rfl hne
    | cons c piece =>
      have : c ≠ '/' := fun e => hslash (by simp [e])
      simpa using this

/-- Closed text of non-empty segments has no double slash. -/
theorem occurs_slashes_closedText {pieces : List (List Char)}
    (h : ∀ piece ∈ pieces, piece ≠ [] ∧ '/' ∉ piece) :
    occurs ['/', '/'] (closedText pieces) = false := by
  induction pieces with
  | nil => rfl
  | cons piece pieces ih =>
    have hp := h piece List.mem_cons_self
    have hps : ∀ q ∈ pieces, q ≠ [] ∧ '/' ∉ q := fun q hq => h q (List.mem_cons_of_mem _ hq)
    rw [closedText_cons, occurs_slashes_append hp.2, ih hps]
    simpa using head?_closedText hps

/-- A character of closed text is a slash or belongs to one of the segments. -/
theorem mem_closedText {pieces : List (List Char)} {c : Char} (h : c ∈ closedText pieces) :
    c = '/' ∨ ∃ piece ∈ pieces, c ∈ piece := by
  obtain ⟨piece, hp, hc⟩ := List.mem_flatMap.1 h
  rcases List.mem_append.1 hc with hc | hc
  · exact .inr ⟨piece, hp, hc⟩
  · exact .inl (by simpa using hc)

end PhotoArchive.Text
