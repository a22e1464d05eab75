import PhotoArchive.Bytes
import PhotoArchive.Text.Quoted

/-!
# UTF-8

Names enter an archive, and settings files are read, in UTF-8. A surrogate has no UTF-8 form, so a text
with a surrogate cannot be encoded.

## Main definitions

- `Text.utf8?`, `Text.utf8` — the UTF-8 form of a text
- `Text.ofUtf8?` — the text that a byte string is the UTF-8 form of
- `Text.isAscii` — whether a text is plain ASCII
- `Text.EncodingFault`, `Text.encodingFault?` — why a text cannot be encoded
- `Text.nameFault?` — why the name of a file cannot be encoded

## Main statements

- `Text.ofUtf8?_utf8` — a text is read back from its UTF-8 form
- `Text.encodingFault?_eq_none_iff` — which texts can be encoded

## Design notes

In the names of files, single bytes that belong to no character are read as the surrogates from U+DC80
to U+DCFF and written back as what they were, so these can be encoded there.
-/

namespace PhotoArchive.Text

/-! ## Encoding and decoding -/

/-- The UTF-8 form of a text, unless there is a surrogate in it. -/
def utf8? (s : String) : Option Bytes :=
  (characters? (points s.toList)).map fun cs => cs.flatMap String.utf8EncodeChar

/-- The UTF-8 form of a text; there are no bytes for a text with a surrogate. -/
def utf8 (s : String) : Bytes := (utf8? s).getD []

/-- The text that a byte string is the UTF-8 form of, if it is well formed. -/
def ofUtf8? (data : Bytes) : Option String :=
  (String.fromUTF8? data.toByteArray).map fun s => String.ofList (marked s.toList)

/-- A text all of whose characters are ASCII. -/
def isAscii (s : String) : Bool := s.toList.all (·.toNat < 0x80)

theorem fromUTF8?_utf8EncodeChar (cs : List Char) :
    String.fromUTF8? (cs.flatMap String.utf8EncodeChar).toByteArray = some (String.ofList cs) := by
  have h : (cs.flatMap String.utf8EncodeChar).toByteArray = (String.ofList cs).toByteArray := by
    rw [String.toByteArray_ofList]
    rfl
  rw [h, String.fromUTF8?, dif_pos (String.ofList cs).isValidUTF8]
  rfl

/-- Every text that has a UTF-8 form is read back from it. -/
theorem ofUtf8?_utf8 {s : String} (h : (utf8? s).isSome = true) : ofUtf8? (utf8 s) = some s := by
  obtain ⟨data, hdata⟩ := Option.isSome_iff_exists.1 h
  rw [utf8, hdata, Option.getD_some]
  obtain ⟨cs, hcs, rfl⟩ := Option.map_eq_some_iff.1 hdata
  rw [ofUtf8?, fromUTF8?_utf8EncodeChar, Option.map_some, String.toList_ofList,
    ← characters?_points_eq_some_iff.1 hcs, String.ofList_toList]

/-! ## What cannot be encoded -/

/-- Surrogates that cannot be encoded: the code of the first one, and the positions among the code
points at which they begin and end. -/
structure EncodingFault where
  code : Nat
  start : Nat
  stop : Nat
  deriving DecidableEq, Repr

/-- The fault in words. -/
def EncodingFault.message (f : EncodingFault) : String :=
  let place :=
    if f.stop = f.start + 1 then
      "character '\\u" ++ String.ofList (hex 4 f.code) ++ "' in position " ++ toString f.start
    else "characters in position " ++ toString f.start ++ "-" ++ toString (f.stop - 1)
  "'utf-8' codec can't encode " ++ place ++ ": surrogates not allowed"

/-- Whether a code point is a surrogate. -/
def Point.isSurrogate : Point → Bool
  | character _ => false
  | surrogate _ => true

/-- The first surrogates among some code points that are not accepted, if there are any, given the
position of the first code point. -/
def firstFault? (accepts : Nat → Bool) (position : Nat) : List Point → Option EncodingFault
  | [] => none
  | .character _ :: ps => firstFault? accepts (position + 1) ps
  | .surrogate code :: ps =>
    if accepts code then firstFault? accepts (position + 1) ps
    else
      some { code, start := position, stop := position + 1 + (ps.takeWhile Point.isSurrogate).length }

/-- Why a text cannot be encoded, if it cannot. -/
def encodingFault? (s : String) : Option EncodingFault :=
  firstFault? (fun _ => false) 0 (points s.toList)

/-- The surrogates that stand for single bytes in the names of files. -/
def isEscape (code : Nat) : Bool := decide (0xDC80 ≤ code ∧ code ≤ 0xDCFF)

/-- Why the name of a file cannot be encoded, if it cannot. -/
def nameFault? (s : String) : Option EncodingFault := firstFault? isEscape 0 (points s.toList)

/-- Exactly the texts with a UTF-8 form can be encoded. -/
theorem encodingFault?_eq_none_iff {s : String} :
    encodingFault? s = none ↔ (utf8? s).isSome = true := by
  rw [encodingFault?, utf8?, Option.isSome_map]
  generalize points s.toList = ps
  generalize 0 = position
  induction ps generalizing position with
  | nil => simp [firstFault?, characters?]
  | cons p ps ih =>
    cases p with
    | character c => simp [firstFault?, characters?, ih]
    | surrogate code => simp [firstFault?, characters?]

example : (encodingFault? (String.ofList (['a'] ++ spell (.surrogate 0xDC80) ++ ['b']))).map
    EncodingFault.message
      = some "'utf-8' codec can't encode character '\\udc80' in position 1: surrogates not allowed" := by
  decide +kernel

end PhotoArchive.Text
