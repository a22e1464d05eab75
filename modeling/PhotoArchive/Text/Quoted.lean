import PhotoArchive.Text.CodePoint
import PhotoArchive.Text.Printable

/-!
# Quoted text

Messages show user text in quotes, so that blanks, line breaks and invisible characters can be seen.
The quotes are single unless the text has a single quote and no double one. The backslash and the
chosen quote are escaped, so are line feed, carriage return and tab, and every other unprintable
character and every surrogate is written with its code point in lower-case hexadecimal.

## Main definitions

- `Text.quoteMark` — the quote a text is put into
- `Text.escape`, `Text.escapePoint` — how one character or code point is written between the quotes
- `Text.quoted` — the quoted text
-/

namespace PhotoArchive.Text

/-- `n` in lower-case hexadecimal, padded with zeros to `width` digits. -/
def hex (width n : Nat) : List Char :=
  let digits := Nat.toDigits 16 n
  List.replicate (width - digits.length) '0' ++ digits

/-- A text is put into single quotes unless that would need escapes and double quotes would not. -/
def quoteMark (cs : List Char) : Char :=
  if cs.contains '\'' && !cs.contains '"' then '"' else '\''

/-- How one character is written between two `mark`s. -/
def escape (mark c : Char) : List Char :=
  if c = mark ∨ c = '\\' then ['\\', c]
  else if c = '\n' then ['\\', 'n']
  else if c = '\r' then ['\\', 'r']
  else if c = '\t' then ['\\', 't']
  else if isPrintable c then [c]
  else if c.toNat < 0x100 then '\\' :: 'x' :: hex 2 c.toNat
  else if c.toNat < 0x10000 then '\\' :: 'u' :: hex 4 c.toNat
  else '\\' :: 'U' :: hex 8 c.toNat

/-- How one code point is written between two `mark`s. -/
def escapePoint (mark : Char) : Point → List Char
  | .character c => escape mark c
  | .surrogate code => '\\' :: 'u' :: hex 4 code

/-- A text between quotes, with escapes for what cannot be shown as it is. -/
def quoted (s : String) : String :=
  let cs := s.toList
  let mark := quoteMark cs
  String.ofList (mark :: (points cs).flatMap (escapePoint mark) ++ [mark])

example : quoted "a'b" = "\"a'b\"" := by decide
example : quoted "n\tl" = "'n\\tl'" := by decide

end PhotoArchive.Text
