/-!
# Readers

A reader takes a value from the beginning of a text and leaves the rest of it for the next reader, or
it is stuck at some point.

## Main definitions

- `Text.Reader` — takes a value from a text
- `Text.Reader.stuck`, `Text.Reader.take`, `Text.Reader.skip`, `Text.Reader.peek` — small readers
-/

namespace PhotoArchive.Text

/-- Takes a value from the beginning of a text and leaves the rest, or is stuck in front of some
rest. -/
abbrev Reader : Type → Type := StateT (List Char) (Except (List Char))

namespace Reader

variable {α : Type}

/-- Be stuck here. -/
def stuck : Reader α := fun cs => .error cs

/-- Take what `f` takes, or be stuck. -/
def ofOption (f : List Char → Option (α × List Char)) : Reader α := fun cs =>
  match f cs with
  | some result => .ok result
  | none => .error cs

/-- Take the characters up to the first one that does not satisfy `p`. -/
def take (p : Char → Bool) : Reader (List Char) := fun cs => .ok (cs.takeWhile p, cs.dropWhile p)

/-- Take the characters up to the first one that does not satisfy `p`, at least one. -/
def takeSome (p : Char → Bool) : Reader (List Char) := fun cs =>
  if (cs.takeWhile p).isEmpty then .error cs else take p cs

/-- Pass the characters up to the first one that does not satisfy `p`. -/
def skip (p : Char → Bool) : Reader Unit := fun cs => .ok ((), cs.dropWhile p)

/-- Pass `n` characters, or as many as there are. -/
def drop (n : Nat) : Reader Unit := fun cs => .ok ((), cs.drop n)

/-- Look at the next character. -/
def peek : Reader (Option Char) := fun cs => .ok (cs.head?, cs)

/-- What is taken and what is left make up the text. -/
theorem take_append {p : Char → Bool} {cs text rest : List Char}
    (h : (take p).run cs = .ok (text, rest)) : text ++ rest = cs := by
  cases h
  exact List.takeWhile_append_dropWhile

end Reader

end PhotoArchive.Text
