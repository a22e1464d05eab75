/-!
# Code points

A text is a row of code points, and not every code point is a character: one half of a surrogate pair
without the other half is none. In a text such a surrogate takes two characters, a mark and one behind
it that tells which surrogate it is, and the character that serves as the mark is written twice where
it stands for itself.

## Main definitions

- `Text.Point` — a code point
- `Text.points` — the code points of a text
- `Text.spell` — the characters that a code point takes
- `Text.characters?` — the characters that some code points are, if there is no surrogate
- `Text.marked` — the text of some characters

## Main statements

- `Text.characters?_points_eq_some_iff` — texts without surrogates are those of characters

## Design notes

The mark is U+10FFFF, which is not a character to anyone but kept free for use within programs. Without
it a text is what it seems to be. Texts are compared, joined, and cut at slashes and dots without a
look at marks; code points are told apart where a text is encoded or put into quotes. At the end of a
text a mark stands for nothing: such a text is not made from code points, and it counts as one with a
surrogate.
-/

namespace PhotoArchive.Text

/-- What stands in front of a character that tells a surrogate. -/
def pointMark : Char := Char.ofNat 0x10FFFF

/-- A character, or a surrogate without its other half. -/
inductive Point where
  | character (c : Char)
  | surrogate (code : Nat)
  deriving DecidableEq, Repr

/-- How far behind its code the character that tells a surrogate is. -/
def surrogateOffset : Nat := 0x100000

/-- What a mark and the character behind it stand for. -/
def Point.ofMarked (c : Char) : Point :=
  if c = pointMark then .character c else .surrogate (c.toNat - surrogateOffset)

/-- The code points of a text. -/
def points : List Char → List Point
  | [] => []
  | c :: cs =>
    if c = pointMark then
      match cs with
      | [] => [.surrogate 0]
      | d :: rest => .ofMarked d :: points rest
    else .character c :: points cs

/-- The characters that a code point takes in a text. -/
def spell : Point → List Char
  | .character c => if c = pointMark then [pointMark, pointMark] else [c]
  | .surrogate code => [pointMark, Char.ofNat (code + surrogateOffset)]

/-- The text of some characters. -/
def marked (cs : List Char) : List Char := cs.flatMap fun c => spell (.character c)

/-- The characters that some code points are, if there is no surrogate among them. -/
def characters? : List Point → Option (List Char)
  | [] => some []
  | .character c :: ps => (characters? ps).map (c :: ·)
  | .surrogate _ :: _ => none

theorem points_cons_of_ne {c : Char} (h : c ≠ pointMark) (cs : List Char) :
    points (c :: cs) = .character c :: points cs := by
  rw [points.eq_def]
  exact if_neg h

theorem points_mark_cons (d : Char) (cs : List Char) :
    points (pointMark :: d :: cs) = .ofMarked d :: points cs := by
  rw [points.eq_def]
  exact if_pos rfl

theorem marked_mark_cons (cs : List Char) :
    marked (pointMark :: cs) = pointMark :: pointMark :: marked cs := by
  rw [marked, List.flatMap_cons, spell, if_pos rfl]
  rfl

theorem marked_cons_of_ne {c : Char} (h : c ≠ pointMark) (cs : List Char) :
    marked (c :: cs) = c :: marked cs := by
  rw [marked, List.flatMap_cons, spell, if_neg h]
  rfl

theorem characters?_map (cs : List Char) : characters? (cs.map .character) = some cs := by
  induction cs with
  | nil => rfl
  | cons c cs ih => simp [characters?, ih]

/-- The code points of the text of some characters are these characters. -/
theorem points_marked (cs : List Char) : points (marked cs) = cs.map .character := by
  induction cs with
  | nil => rfl
  | cons c cs ih =>
    by_cases hc : c = pointMark
    · rw [hc, marked_mark_cons, points_mark_cons, ih, Point.ofMarked, if_pos rfl, List.map_cons]
    · rw [marked_cons_of_ne hc, points_cons_of_ne hc, ih, List.map_cons]

/-- A text without surrogates is the text of its characters. -/
theorem eq_marked {cs ds : List Char} (h : characters? (points cs) = some ds) : cs = marked ds := by
  fun_induction points cs generalizing ds with
  | case1 =>
    cases h
    rfl
  | case2 => cases h
  | case3 d rest ih =>
    by_cases hd : d = pointMark
    · subst hd
      rw [Point.ofMarked, if_pos rfl, characters?, Option.map_eq_some_iff] at h
      obtain ⟨es, hrest, rfl⟩ := h
      rw [marked_mark_cons, ← ih hrest]
    · rw [Point.ofMarked, if_neg hd] at h
      cases h
  | case4 c cs hc ih =>
    rw [characters?, Option.map_eq_some_iff] at h
    obtain ⟨es, hrest, rfl⟩ := h
    rw [marked_cons_of_ne hc, ← ih hrest]

/-- Exactly the texts of characters have no surrogates, and their code points are these characters. -/
theorem characters?_points_eq_some_iff {cs ds : List Char} :
    characters? (points cs) = some ds ↔ cs = marked ds := by
  constructor
  · exact eq_marked
  · intro h
    rw [h, points_marked, characters?_map]

end PhotoArchive.Text
