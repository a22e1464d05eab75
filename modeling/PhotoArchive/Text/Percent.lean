import PhotoArchive.Text.Utf8

/-!
# Percent-encoded text

In the options of an address, a character may be written as a percent sign and two hexadecimal digits
for each byte of its UTF-8 form. A percent sign in front of something else stands for itself.

## Main definitions

- `Text.percentDecoded` — the text that a percent-encoded text stands for

## Main statements

- `Text.percentBytes_of_not_mem` — text without percent signs stands for itself
-/

namespace PhotoArchive.Text

/-- The value of a hexadecimal digit. -/
def hexValue? (c : Char) : Option Nat :=
  if c.isDigit then some (c.toNat - '0'.toNat)
  else if 'a' ≤ c ∧ c ≤ 'f' then some (c.toNat - 'a'.toNat + 10)
  else if 'A' ≤ c ∧ c ≤ 'F' then some (c.toNat - 'A'.toNat + 10)
  else none

/-- The bytes that a percent-encoded text stands for. -/
def percentBytes : List Char → Bytes
  | [] => []
  | '%' :: high :: low :: rest =>
    match hexValue? high, hexValue? low with
    | some h, some l => UInt8.ofNat (16 * h + l) :: percentBytes rest
    | _, _ => 37 :: percentBytes (high :: low :: rest)
  | c :: rest => String.utf8EncodeChar c ++ percentBytes rest

/-- Text without percent signs stands for itself. -/
theorem percentBytes_of_not_mem {cs : List Char} (h : '%' ∉ cs) :
    percentBytes cs = cs.flatMap String.utf8EncodeChar := by
  fun_induction percentBytes cs with
  | case1 => rfl
  | case2 => simp at h
  | case3 => simp at h
  | case4 c rest _ ih =>
    have hrest : '%' ∉ rest := fun hm => h (List.mem_cons_of_mem c hm)
    simp [ih hrest]

/-- The character at the beginning of a byte string, and the length of its UTF-8 form. -/
def leadingChar? (data : Bytes) : Option (Char × Nat) :=
  [1, 2, 3, 4].findSome? fun length =>
    match (ofUtf8? (data.take length)).map String.toList with
    | some (c :: _) => some (c, length)
    | _ => none

/-- The characters whose UTF-8 forms follow each other behind the first `skipped` bytes. A byte that
belongs to none of them is replaced. -/
def charsOfUtf8 (skipped : Nat) : Bytes → List Char
  | [] => []
  | b :: rest =>
    match skipped with
    | skipped + 1 => charsOfUtf8 skipped rest
    | 0 =>
      match leadingChar? (b :: rest) with
      | some (c, length) => c :: charsOfUtf8 (length - 1) rest
      | none => '\uFFFD' :: charsOfUtf8 0 rest

/-- The text that a percent-encoded text stands for. -/
def percentDecoded (cs : List Char) : String := String.ofList (charsOfUtf8 0 (percentBytes cs))

end PhotoArchive.Text
