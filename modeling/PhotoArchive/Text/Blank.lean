/-!
# White space

Two sets of white-space characters are in use. Settings files and reports know the *blanks*, which
include the four ASCII separators `FS` to `US`; numbers in settings may be surrounded by characters
of the Unicode property `White_Space`, which does not have them.

## Main definitions

- `Text.isWhiteSpace` — the Unicode property `White_Space`
- `Text.isBlank` — white space or one of the ASCII separators
- `Text.trimRight` — a text without the blanks at its end
-/

namespace PhotoArchive.Text

/-- The characters with the Unicode property `White_Space`. -/
def isWhiteSpace (c : Char) : Bool :=
  let n := c.toNat
  (0x9 ≤ n && n ≤ 0xD) || n = 0x20 || n = 0x85 || n = 0xA0 || n = 0x1680
    || (0x2000 ≤ n && n ≤ 0x200A) || n = 0x2028 || n = 0x2029 || n = 0x202F || n = 0x205F
    || n = 0x3000

/-- White space, and the ASCII separators of files, groups, records and units. -/
def isBlank (c : Char) : Bool :=
  isWhiteSpace c || (0x1C ≤ c.toNat && c.toNat ≤ 0x1F)

/-- A list of characters without its longest end of characters that satisfy `p`. -/
def dropRightWhile (p : Char → Bool) (cs : List Char) : List Char :=
  (cs.reverse.dropWhile p).reverse

/-- A text without the blanks at its end. -/
def trimRight (s : String) : String := String.ofList (dropRightWhile isBlank s.toList)

/-- A list of characters without the characters that satisfy `p` at its two ends. -/
def strip (p : Char → Bool) (cs : List Char) : List Char := dropRightWhile p (cs.dropWhile p)

end PhotoArchive.Text
