import PhotoArchive.File

/-!
# Files that may refuse a write

Whatever a file accepts and refuses, what lies before the position of a write stays as it is. So a
file can be seen as two byte strings, the one before its position and the one behind it, and a row of
operations by how far to the front it has written.

## Main definitions

- `File.movedTo`, `File.refused` — what going elsewhere and a refused write make of a file
- `File.Stands` — an open file, cut in two at its position
- `File.WrittenBehind` — operations of which no write begins before a bound
- `File.GoesOn` — operations of this kind that leave nothing behind where nothing was before
- `File.Lasts` — what no operation changes

## Main statements

- `File.Stands.run_write` — a write is appended to the first half, or nothing is written
- `File.WrittenBehind.take_content` — what lies before the bound is still there
- `File.run_readAll` — an open file can be read as a whole
-/

namespace PhotoArchive.File

/-- What a file becomes when another position is gone to. -/
def movedTo (f : File) (position : Nat) : File := { f with cursor := f.cursor.moveTo position }

/-- What a file becomes when it refuses a write: the write is counted. -/
def refused (f : File) : File := { f with writes := f.writes + 1 }

theorem content_moveTo (f : File) (position : Nat) :
    content { f with cursor := f.cursor.moveTo position } = f.content :=
  f.cursor.content_moveTo position

theorem run_seek_movedTo {f : File} (hopen : f.isClosed = false) (position : Nat) :
    (seek position).run f = (.ok (), f.movedTo position) :=
  run_seek hopen position

/-! ## The two halves of a file -/

/-- An open file with its position between two byte strings. -/
structure Stands (f : File) (before after : Bytes) : Prop where
  isOpen : f.isClosed = false
  content : f.content = before ++ after
  position : f.cursor.position = before.length

section Stands

variable {f : File} {before after : Bytes}

/-- Going to a place that is there. -/
theorem stands_movedTo (hopen : f.isClosed = false) (hcontent : f.content = before ++ after) :
    (f.movedTo before.length).Stands before after where
  isOpen := hopen
  content := (f.content_moveTo _).trans hcontent
  position := by
    have hposition := f.cursor.position_moveTo before.length
    have hlength := congrArg List.length hcontent
    rw [List.length_append] at hlength
    simp only [File.content] at hlength
    show (f.cursor.moveTo before.length).position = before.length
    omega

theorem Stands.written (h : f.Stands before after) (data : Bytes) :
    (f.written data).Stands (before ++ data) (after.drop data.length) where
  isOpen := h.isOpen
  content := by
    rw [content_written, h.position, h.content, Bytes.overlay, List.take_left,
      List.drop_append]
    simp [Nat.sub_eq_zero_of_le (Nat.le_add_right before.length after.length)]
  position := by
    rw [List.length_append, ← h.position]
    exact f.cursor.position_overwrite data

theorem Stands.refused (h : f.Stands before after) : f.refused.Stands before after :=
  ⟨h.isOpen, h.content, h.position⟩

/-- Data are written over what is there, or refused. -/
theorem Stands.run_write (h : f.Stands before after) (data : Bytes) :
    (write data).run f = (.ok (), f.written data) ∨
      (write data).run f = (.error (.file { fault := .noSpace }), f.refused) := by
  cases haccepts : f.accepts f.writes f.cursor.position data.length with
  | true => exact .inl (run_write_of_accepts h.isOpen haccepts)
  | false => exact .inr (run_write_of_refuses h.isOpen haccepts)

end Stands

theorem run_readAll {f : File} (hopen : f.isClosed = false) :
    (readAll.run f).1 = .ok f.content := by
  have hstart := @stands_movedTo f [] f.content hopen rfl
  -- All that is left can be read in memory and on the disk.
  have hfault (g : File) : g.lengthFault? (-1) = none := by
    simp [lengthFault?, wordLimit]
  have hread (g : File) (hg : g.Stands [] f.content) : ((read (-1)).run g).1 = .ok f.content := by
    have hafter : g.cursor.after = f.content := by
      rw [Cursor.after_eq_drop, hg.position]
      exact hg.content
    simp [read, unlessClosed, Action.run, hg.isOpen, hfault, hafter]
  rw [readAll, Action.run_bind_ok (run_seek_movedTo hopen 0)]
  exact hread _ hstart

/-! ## How far to the front was written -/

/-- A file goes over to another one, and no write on the way begins before a bound. -/
inductive WrittenBehind (bound : Nat) (f : File) : File → Prop
  | refl : WrittenBehind bound f f
  | moved {g : File} (position : Nat) :
      WrittenBehind bound f g → WrittenBehind bound f (g.movedTo position)
  | written {g : File} (data : Bytes) :
      WrittenBehind bound f g → bound ≤ g.cursor.position → WrittenBehind bound f (g.written data)
  | refused {g : File} : WrittenBehind bound f g → WrittenBehind bound f g.refused

namespace WrittenBehind

variable {bound bound' : Nat} {f g k : File}

theorem trans (h : WrittenBehind bound f g) (h' : WrittenBehind bound g k) :
    WrittenBehind bound f k := by
  induction h' with
  | refl => exact h
  | moved position _ ih => exact .moved position ih
  | written data _ hbound ih => exact .written data ih hbound
  | refused _ ih => exact .refused ih

theorem mono (h : WrittenBehind bound f g) (hle : bound' ≤ bound) : WrittenBehind bound' f g := by
  induction h with
  | refl => exact .refl
  | moved position _ ih => exact .moved position ih
  | written data _ hbound ih => exact .written data ih (Nat.le_trans hle hbound)
  | refused _ ih => exact .refused ih

theorem take_content (h : WrittenBehind bound f g) :
    g.content.take bound = f.content.take bound := by
  induction h with
  | refl => rfl
  | moved position _ ih => exact (congrArg _ (content_moveTo _ _)).trans ih
  | refused _ ih => exact ih
  | @written g data _ hbound ih =>
    have hthere : bound ≤ g.content.length := Nat.le_trans hbound g.cursor.position_le
    rw [← ih, content_written, Bytes.overlay]
    simp only [List.append_assoc]
    rw [List.take_append_of_le_length (by rw [List.length_take]; omega), List.take_take,
      Nat.min_eq_left hbound]

end WrittenBehind

/-- A file goes over to another one, and no write on the way begins before a bound. If nothing was
left over behind its position, there is nothing left over in the end. -/
structure GoesOn (bound : Nat) (f g : File) (stale stale' : Bytes) : Prop where
  behind : WrittenBehind bound f g
  tidy : stale = [] → stale' = []

namespace GoesOn

variable {bound bound' : Nat} {f g k : File} {stale stale' stale'' : Bytes}

theorem refl : GoesOn bound f f stale stale := ⟨.refl, id⟩

theorem trans (h : GoesOn bound f g stale stale') (h' : GoesOn bound g k stale' stale'') :
    GoesOn bound f k stale stale'' :=
  ⟨h.behind.trans h'.behind, fun hstale => h'.tidy (h.tidy hstale)⟩

theorem mono (h : GoesOn bound f g stale stale') (hle : bound' ≤ bound) :
    GoesOn bound' f g stale stale' :=
  ⟨h.behind.mono hle, h.tidy⟩

theorem moved (position : Nat) (h : GoesOn bound f g stale stale') :
    GoesOn bound f (g.movedTo position) stale stale' :=
  ⟨.moved position h.behind, h.tidy⟩

theorem written (data : Bytes) (h : GoesOn bound f g stale stale')
    (hbound : bound ≤ g.cursor.position) :
    GoesOn bound f (g.written data) stale (stale'.drop data.length) where
  behind := .written data h.behind hbound
  tidy := by
    intro hstale
    rw [h.tidy hstale, List.drop_nil]

end GoesOn

/-! ## What lasts -/

/-- What no operation changes: which writes a file accepts, and what it has grown to. A closed file
stays as it is. -/
structure Lasts (f g : File) : Prop where
  accepts : g.accepts = f.accepts
  length_le : f.content.length ≤ g.content.length
  eq_of_isClosed : f.isClosed = true → g = f

namespace Lasts

variable {α : Type} {f g k : File}

theorem refl : Lasts f f := ⟨rfl, Nat.le_refl _, fun _ => rfl⟩

theorem trans (h : Lasts f g) (h' : Lasts g k) : Lasts f k where
  accepts := h'.accepts.trans h.accepts
  length_le := Nat.le_trans h.length_le h'.length_le
  eq_of_isClosed := by
    intro hclosed
    have hsame := h.eq_of_isClosed hclosed
    rw [h'.eq_of_isClosed (by rwa [hsame]), hsame]

theorem close : Lasts f f.close where
  accepts := rfl
  length_le := Nat.le_refl _
  eq_of_isClosed := by
    intro hclosed
    rw [File.close, ← hclosed]

theorem unlessClosed {access : FileAccess} {a : Action File α}
    (h : f.isClosed = false → Lasts f (a.run f).2) :
    Lasts f ((File.unlessClosed access a).run f).2 := by
  simp only [Action.run, File.unlessClosed]
  by_cases hclosed : f.isClosed = true
  · rw [if_pos hclosed]
    exact .refl
  · rw [if_neg hclosed]
    exact h (Bool.not_eq_true _ ▸ hclosed)

theorem seek (position : Nat) : Lasts f ((File.seek position).run f).2 := by
  apply unlessClosed
  intro hopen
  refine ⟨rfl, ?_, fun hclosed => absurd hclosed (by simp [hopen])⟩
  exact Nat.le_of_eq (congrArg List.length (content_moveTo f position)).symm

theorem tell : Lasts f (File.tell.run f).2 := unlessClosed fun _ => .refl

theorem write (data : Bytes) : Lasts f ((File.write data).run f).2 := by
  apply unlessClosed
  intro hopen
  simp only [Action.run]
  split
  · refine ⟨rfl, ?_, fun hclosed => absurd hclosed (by simp [hopen])⟩
    have hposition : f.cursor.position ≤ f.content.length := f.cursor.position_le
    rw [content_written, Bytes.overlay]
    simp only [List.length_append, List.length_take, List.length_replicate, List.length_drop]
    omega
  · exact ⟨rfl, Nat.le_refl _, fun hclosed => absurd hclosed (by simp [hopen])⟩

end Lasts

end PhotoArchive.File
