import PhotoArchive.Text.Blank
import PhotoArchive.Text.Segments

/-!
# Integers in text

How a whole number is read from a setting. A plain integer is a minus sign, if any, and ASCII digits
without a zero in front that could be left out. Other spellings are made plain first: surrounding
white space, one sign and the zeros in front are taken away, then zeros behind a point, then single
underscores between other characters. A text that begins with a plain integer of more than 4300
digits is refused for its size; a spelling that is still too long when it is plain is malformed.

## Main definitions

- `Text.IntegerError` — why a text is not accepted as an integer
- `Text.plainInteger?` — the number that a plain integer stands for
- `Text.plainSpelling?` — another spelling of an integer made plain
- `Text.integer?` — the integer that a text spells

## Design notes

Underscores may stand anywhere among the zeros in front, and a minus sign may end these zeros: it then
is the sign of the number.
-/

namespace PhotoArchive.Text

/-- Why a text is not accepted as an integer. -/
inductive IntegerError where
  | malformed
  | tooLong
  deriving DecidableEq, Repr

/-- The longest plain integer that is accepted, in digits. -/
def maxIntegerLength : Nat := 4300

/-- The number that a list of decimal digits stands for. -/
def decimal (ds : List Char) : Nat :=
  ds.foldl (fun n c => 10 * n + (c.toNat - '0'.toNat)) 0

/-- A sign and what follows it: `true` for a minus sign. -/
def signed : List Char → Bool × List Char
  | '-' :: rest => (true, rest)
  | '+' :: rest => (false, rest)
  | cs => (false, cs)

/-! ## Plain integers -/

/-- What is behind the minus sign of a plain integer, if it has one. -/
def unsigned : List Char → List Char
  | '-' :: rest => rest
  | cs => cs

/-- The number that a plain integer stands for. -/
def plainInteger? (cs : List Char) : Option Int :=
  let ds := unsigned cs
  let isPlain := ds = ['0'] ∨ (ds ≠ [] ∧ ds.head? ≠ some '0' ∧ ds.all Char.isDigit)
  if isPlain ∧ ds.length ≤ maxIntegerLength then
    some (if cs.head? = some '-' then -(decimal ds : Int) else decimal ds)
  else none

/-- Whether a text begins with a plain integer that is too long. -/
def beginsTooLong (cs : List Char) : Bool :=
  let ds := unsigned cs
  ds.head? ≠ some '0' && maxIntegerLength < (ds.takeWhile Char.isDigit).length

/-! ## Other spellings -/

/-- What follows the zeros in front of a number, of which the last character is given. There is no
number without a digit, and none in front of a point. -/
def behindZeros? (last : Char) : List Char → Option (List Char)
  | [] => some [last]
  | c :: cs =>
    if c = '0' ∨ c = '_' then behindZeros? c cs
    else if c = '.' then some (last :: c :: cs)
    else if c.isDigit ∨ c = '-' then some (c :: cs)
    else none

/-- A number without the zeros in front that can be left out. -/
def withoutZeros? : List Char → Option (List Char)
  | [] => none
  | c :: cs => if c = '0' then behindZeros? c cs else if c.isDigit then some (c :: cs) else none

/-- A number without a point that only zeros follow. -/
def withoutDecimals (cs : List Char) : List Char :=
  match cs.dropWhile (· ≠ '.') with
  | _ :: c :: rest => if (c :: rest).all (· = '0') then cs.takeWhile (· ≠ '.') else cs
  | _ => cs

/-- A number without its underscores, each of which has to stand alone between two characters. -/
def withoutUnderscores? (cs : List Char) : Option (List Char) :=
  if cs.head? = some '_' ∨ cs.getLast? = some '_' ∨ occurs ['_', '_'] cs then none
  else some (cs.filter (· ≠ '_'))

/-- A spelling of an integer made plain. -/
def plainSpelling? (cs : List Char) : Option (List Char) := do
  let (negative, number) := signed (strip isWhiteSpace cs)
  let number ← withoutZeros? number
  withoutUnderscores? (withoutDecimals (if negative then '-' :: number else number))

/-- The integer that a text spells. -/
def integer? (s : String) : Except IntegerError Int :=
  if beginsTooLong s.toList then .error .tooLong
  else
    match (plainSpelling? s.toList).bind plainInteger? with
    | some n => .ok n
    | none => .error .malformed

example : integer? " 1_024.0 " = .ok 1024 := rfl
example : integer? "1__0" = .error .malformed := rfl
example : integer? "+00__7" = .ok 7 := rfl
example : integer? "0-5" = .ok (-5) := rfl

end PhotoArchive.Text
