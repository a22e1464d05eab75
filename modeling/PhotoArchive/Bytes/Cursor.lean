import PhotoArchive.Bytes

/-!
# A position in a byte string

A file is read and written at a position. A cursor is a byte string cut in two at its position, so
that writing costs no more than what is written, wherever the position is.

## Main definitions

- `Cursor` — a byte string with a position
- `Cursor.content`, `Cursor.position` — its two views
- `Cursor.moveTo` — go to another position
- `Cursor.overwrite` — write from the position on and go behind what was written

## Main statements

- `Cursor.content_moveTo`, `Cursor.position_moveTo` — moving changes nothing but the position
- `Cursor.content_overwrite`, `Cursor.position_overwrite` — writing is `Bytes.overlay`
-/

namespace PhotoArchive

/-- A byte string with a position. The position lies between two bytes, or at an end. -/
structure Cursor where
  /-- What lies before the position, the nearest byte first. -/
  before : Bytes := []
  /-- What lies behind the position, the nearest byte first. -/
  after : Bytes := []
  /-- How many bytes lie before the position. -/
  position : Nat := 0
  length_before : before.length = position := by rfl
  deriving DecidableEq

namespace Cursor

/-- In an empty byte string there is one position. -/
def empty : Cursor := {}

/-- The whole byte string. -/
def content (c : Cursor) : Bytes := c.before.reverse ++ c.after

/-- Go back by `k` bytes, at most to the beginning. The first component counts the steps that were
not taken. -/
def stepBack : Nat → Bytes × Bytes → Nat × Bytes × Bytes
  | k + 1, (b :: before, after) => stepBack k (before, b :: after)
  | k, halves => (k, halves)

theorem stepBack_content (k : Nat) (halves : Bytes × Bytes) :
    (stepBack k halves).2.1.reverse ++ (stepBack k halves).2.2 = halves.1.reverse ++ halves.2 := by
  induction k generalizing halves with
  | zero => rfl
  | succ k ih =>
    obtain ⟨before, after⟩ := halves
    cases before with
    | nil => rfl
    | cons b before => simp [stepBack, ih]

theorem stepBack_length (k : Nat) (halves : Bytes × Bytes) :
    (stepBack k halves).2.1.length = halves.1.length - k ∧
      (stepBack k halves).1 = k - halves.1.length := by
  induction k generalizing halves with
  | zero => simp [stepBack]
  | succ k ih =>
    obtain ⟨before, after⟩ := halves
    cases before with
    | nil => simp [stepBack]
    | cons b before =>
      have h := ih (before, b :: after)
      simp only [stepBack, List.length_cons] at h ⊢
      omega

/-- What goes from one half comes to the other. -/
theorem stepBack_total (k : Nat) (halves : Bytes × Bytes) :
    (stepBack k halves).2.1.length + (stepBack k halves).2.2.length
      = halves.1.length + halves.2.length := by
  have := congrArg List.length (stepBack_content k halves)
  simpa using this

/-- Go to a position; one behind the end stands for the end. -/
def moveTo (c : Cursor) (target : Nat) : Cursor :=
  if hle : target ≤ c.position then
    let moved := stepBack (c.position - target) (c.before, c.after)
    { before := moved.2.1
      after := moved.2.2
      position := target
      length_before := by
        have h := stepBack_length (c.position - target) (c.before, c.after)
        have := c.length_before
        simp only [moved] at h ⊢
        omega }
  else
    let moved := stepBack (target - c.position) (c.after, c.before)
    { before := moved.2.2
      after := moved.2.1
      position := target - moved.1
      length_before := by
        have h := stepBack_total (target - c.position) (c.after, c.before)
        have h' := stepBack_length (target - c.position) (c.after, c.before)
        have := c.length_before
        simp only [moved] at h h' ⊢
        omega }

@[simp] theorem content_moveTo (c : Cursor) (target : Nat) :
    (c.moveTo target).content = c.content := by
  unfold moveTo
  split
  · exact stepBack_content _ _
  · have h := stepBack_content (target - c.position) (c.after, c.before)
    have h' := congrArg List.reverse h
    simpa [content] using h'

/-- The position after moving is the one asked for, unless it lies behind the end. -/
theorem position_moveTo (c : Cursor) (target : Nat) :
    (c.moveTo target).position = min target c.content.length := by
  have hb := c.length_before
  unfold moveTo
  split
  · simp only [content, List.length_append, List.length_reverse]
    omega
  · have := stepBack_length (target - c.position) (c.after, c.before)
    simp only [content, List.length_append, List.length_reverse] at this ⊢
    omega

/-- Write from the position on, over what is there, and go behind what was written. -/
def overwrite (c : Cursor) (data : Bytes) : Cursor where
  before := data.reverse ++ c.before
  after := c.after.drop data.length
  position := data.length + c.position
  length_before := by
    have := c.length_before
    simp only [List.length_append, List.length_reverse]
    omega

theorem content_overwrite (c : Cursor) (data : Bytes) :
    (c.overwrite data).content = c.content.overlay c.position data := by
  have hb : c.before.reverse.length = c.position := by simpa using c.length_before
  simp only [content, overwrite, Bytes.overlay, List.length_append, hb]
  rw [List.take_left' hb, ← List.drop_drop, List.drop_left' hb]
  simp

@[simp] theorem position_overwrite (c : Cursor) (data : Bytes) :
    (c.overwrite data).position = c.position + data.length := by
  simp [overwrite, Nat.add_comm]

/-- What lies behind the position. -/
theorem after_eq_drop (c : Cursor) : c.after = c.content.drop c.position := by
  have hb : c.before.reverse.length = c.position := by simpa using c.length_before
  rw [content, List.drop_left' hb]

theorem length_after (c : Cursor) : c.after.length = c.content.length - c.position := by
  rw [after_eq_drop, List.length_drop]

theorem position_le (c : Cursor) : c.position ≤ c.content.length := by
  have := c.length_before
  simp only [content, List.length_append, List.length_reverse]
  omega

end Cursor

end PhotoArchive
