/-!
# Wrapped text

Words are set in lines of a width, as many on each line as it has room for, with a blank in front of
every word that does not begin a line. A word that fits no line is broken wherever a line ends. It
begins behind a blank on the line before it, even if there is only room for the blank.

## Main definitions

- `Text.slices` — a text cut into pieces of one length
- `Text.wrapped` — words set in lines

## Main statements

- `Text.length_le_of_mem_wrapped` — no line is longer than the width

## Design notes

A width is given as the number `n` of characters that have room beside a first one, so that every
line makes progress.
-/

namespace PhotoArchive.Text

/-- A text cut into pieces of `n + 1` characters, of which the last piece may have fewer. -/
def slices (n : Nat) : List Char → List (List Char)
  | [] => []
  | c :: cs => (c :: cs.take n) :: slices n (cs.drop n)
termination_by cs => cs.length

/-- Set one more word behind the lines that are there. -/
def addWord (n : Nat) (lines : List (List Char)) (word : List Char) : List (List Char) :=
  match lines.getLast? with
  | none => slices n word
  | some line =>
    let room := n - line.length
    if line.length + word.length ≤ n then lines.dropLast ++ [line ++ ' ' :: word]
    else if word.length ≤ n + 1 ∨ n < line.length then lines ++ slices n word
    else lines.dropLast ++ (line ++ ' ' :: word.take room) :: slices n (word.drop room)

/-- Words set in lines of `n + 1` characters. -/
def wrapped (n : Nat) (words : List (List Char)) : List (List Char) := words.foldl (addWord n) []

example : wrapped 10 ["defaults".toList, "to".toList, "EXPORT_FILENAME".toList]
    = ["defaults to".toList, "EXPORT_FILE".toList, "NAME".toList] := by
  cbv

/-! ## The width -/

theorem length_le_of_mem_slices {n : Nat} {cs piece : List Char} (h : piece ∈ slices n cs) :
    piece.length ≤ n + 1 := by
  fun_induction slices n cs with
  | case1 => simp at h
  | case2 c cs ih =>
    rcases List.mem_cons.1 h with rfl | h
    · simp only [List.length_cons, List.length_take]
      omega
    · exact ih h

/-- A word behind lines that keep the width is set in lines that keep it. -/
theorem length_le_of_mem_addWord {n : Nat} {lines : List (List Char)} {word : List Char}
    (hlines : ∀ line ∈ lines, line.length ≤ n + 1) :
    ∀ line ∈ addWord n lines word, line.length ≤ n + 1 := by
  intro line h
  have hinit : ∀ line ∈ lines.dropLast, line.length ≤ n + 1 := fun line h =>
    hlines line (List.dropLast_subset lines h)
  simp only [addWord] at h
  split at h
  · exact length_le_of_mem_slices h
  · rename_i last _
    split at h
    · rcases List.mem_append.1 h with h | h
      · exact hinit line h
      · have : line = last ++ ' ' :: word := by simpa using h
        simp only [this, List.length_append, List.length_cons]
        omega
    · split at h
      · rcases List.mem_append.1 h with h | h
        · exact hlines line h
        · exact length_le_of_mem_slices h
      · rename_i hlong
        rcases List.mem_append.1 h with h | h
        · exact hinit line h
        · rcases List.mem_cons.1 h with rfl | h
          · simp only [List.length_append, List.length_cons, List.length_take]
            omega
          · exact length_le_of_mem_slices h

/-- No line is longer than the width. -/
theorem length_le_of_mem_wrapped {n : Nat} {words : List (List Char)} :
    ∀ line ∈ wrapped n words, line.length ≤ n + 1 := by
  have hfold : ∀ lines : List (List Char), (∀ line ∈ lines, line.length ≤ n + 1) →
      ∀ line ∈ words.foldl (addWord n) lines, line.length ≤ n + 1 := by
    induction words with
    | nil => exact fun lines h => h
    | cons word words ih => exact fun lines h => ih _ (length_le_of_mem_addWord h)
  exact hfold [] (by simp)

end PhotoArchive.Text
