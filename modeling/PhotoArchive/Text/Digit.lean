import PhotoArchive.Text.Integer

/-!
# Decimal digits of all scripts

The decimal digits of a script stand one behind the other, from zero to nine. A number can be written
in the digits of any script, and of several.

## Main definitions

- `Text.digitValue?` — the value of a digit of any script
- `Text.wholeNumber?` — the whole number that a text stands for, in digits of any script
-/

namespace PhotoArchive.Text

/-- The zeros of all scripts. -/
def zeros : List Nat :=
  [0x30, 0x660, 0x6F0, 0x7C0, 0x966, 0x9E6, 0xA66, 0xAE6, 0xB66, 0xBE6, 0xC66, 0xCE6, 0xD66, 0xDE6,
    0xE50, 0xED0, 0xF20, 0x1040, 0x1090, 0x17E0, 0x1810, 0x1946, 0x19D0, 0x1A80, 0x1A90, 0x1B50,
    0x1BB0, 0x1C40, 0x1C50, 0xA620, 0xA8D0, 0xA900, 0xA9D0, 0xA9F0, 0xAA50, 0xABF0, 0xFF10, 0x104A0,
    0x10D30, 0x11066, 0x110F0, 0x11136, 0x111D0, 0x112F0, 0x11450, 0x114D0, 0x11650, 0x116C0,
    0x11730, 0x118E0, 0x11950, 0x11C50, 0x11D50, 0x11DA0, 0x16A60, 0x16AC0, 0x16B50, 0x1D7CE,
    0x1D7D8, 0x1D7E2, 0x1D7EC, 0x1D7F6, 0x1E140, 0x1E2F0, 0x1E950, 0x1FBF0]

example : zeros.length = 66 := rfl

/-- The value of a decimal digit of some script. -/
def digitValue? (c : Char) : Option Nat :=
  (zeros.find? fun z => z ≤ c.toNat && c.toNat ≤ z + 9).map (c.toNat - ·)

/-- A decimal digit of some script. -/
def isDecimalDigit (c : Char) : Bool := (digitValue? c).isSome

/-- The digits of ASCII have the values that they always have. -/
theorem digitValue?_of_isDigit {c : Char} (h : c.isDigit = true) :
    digitValue? c = some (c.toNat - '0'.toNat) := by
  have : 48 ≤ c.toNat ∧ c.toNat ≤ 57 := by
    simp only [Char.isDigit, Bool.and_eq_true, decide_eq_true_eq] at h
    exact h
  simp [digitValue?, zeros, this.1, this.2]

/-- The values of a run of digits in which single underscores may stand between two digits. -/
def digitValues? : List Char → Option (List Nat)
  | [] => none
  | [c] => (digitValue? c).map ([·])
  | c :: '_' :: rest => do return (← digitValue? c) :: (← digitValues? rest)
  | c :: d :: rest => do return (← digitValue? c) :: (← digitValues? (d :: rest))

/-- The longest whole number, in digits, that is read. -/
def maxDigits : Nat := 4300

/-- The whole number that a text stands for: surrounding white space does not count, a sign may stand
in front, and single underscores may stand between digits. -/
def wholeNumber? (s : String) : Option Int := do
  let (negative, number) := signed (strip isWhiteSpace s.toList)
  let values ← digitValues? number
  guard (values.length ≤ maxDigits)
  let n : Nat := values.foldl (fun n value => 10 * n + value) 0
  return if negative then -(n : Int) else n

example : wholeNumber? " -5_٤32 " = some (-5432) := rfl
example : wholeNumber? "5432x" = none := rfl

end PhotoArchive.Text
