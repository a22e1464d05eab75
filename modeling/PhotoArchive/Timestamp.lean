import PhotoArchive.Text.Integer

/-!
# Time stamps

A calendar date and a time of day. A time stamp is written in one way and read in several: dates with
and without hyphens, by month or by week, and times with and without colons, of which the end may be
missing.

## Main definitions

- `Timestamp` — a date and a time of day, to the microsecond
- `Timestamp.text` — how it is written
- `Timestamp.ofString` — the time stamp that a text stands for

## Design notes

A week belongs to the year that has its Thursday, so that the first week of a year is the one with the
fourth of January. Days are counted from the first of January of the year 1, a Monday.
-/

namespace PhotoArchive

/-- A calendar date and a time of day, without a zone, to the microsecond. -/
structure Timestamp where
  year : Nat
  month : Nat
  day : Nat
  hour : Nat := 0
  minute : Nat := 0
  second : Nat := 0
  microsecond : Nat := 0
  deriving DecidableEq, Repr

namespace Timestamp

/-- The components of a time stamp, the most significant one first. -/
def components (t : Timestamp) : List Nat :=
  [t.year, t.month, t.day, t.hour, t.minute, t.second, t.microsecond]

/-! ## Writing -/

/-- A number in decimal, padded with zeros to `width` digits. -/
def padded (width n : Nat) : String :=
  let digits := toString n
  String.ofList (List.replicate (width - digits.length) '0') ++ digits

/-- A time stamp as `2024-01-31T09:05:00`, with six decimals of the second unless they are zero. -/
def text (t : Timestamp) : String :=
  padded 4 t.year ++ "-" ++ padded 2 t.month ++ "-" ++ padded 2 t.day ++ "T"
    ++ padded 2 t.hour ++ ":" ++ padded 2 t.minute ++ ":" ++ padded 2 t.second
    ++ if t.microsecond = 0 then "" else "." ++ padded 6 t.microsecond

/-! ## Days of the calendar -/

/-- A year with a 29th of February. -/
def isLeap (year : Nat) : Bool := year % 4 = 0 && (year % 100 ≠ 0 || year % 400 = 0)

/-- The lengths of the months of a year. -/
def monthLengths (year : Nat) : List Nat :=
  [31, if isLeap year then 29 else 28, 31, 30, 31, 30, 31, 31, 30, 31, 30, 31]

/-- How many days there are before a year. -/
def daysBefore (year : Nat) : Nat :=
  let past := year - 1
  365 * past + past / 4 - past / 100 + past / 400

/-- The month and the day that lie so many days behind the first day of a month, when the months from
that one on have the given lengths. -/
def monthAndDay (month : Nat) : List Nat → Nat → Nat × Nat
  | length :: rest, days =>
    if days < length then (month, days + 1) else monthAndDay (month + 1) rest (days - length)
  | [], days => (month, days + 1)

/-- The day before which there are so many days, near the given year. -/
def ofDays (near days : Nat) : Timestamp :=
  let year :=
    if days < daysBefore near then near - 1
    else if days < daysBefore (near + 1) then near
    else near + 1
  let (month, day) := monthAndDay 1 (monthLengths year) (days - daysBefore year)
  { year, month, day }

/-- A day of a week of a year. -/
def ofWeek (year week day : Nat) : Timestamp :=
  let fourth := daysBefore year + 3
  ofDays year (fourth - fourth % 7 + 7 * (week - 1) + (day - 1))

/-! ## Reading -/

/-- The number in `width` digits behind the first `start` characters; without digits it is zero. -/
def part (cs : List Char) (start width : Nat) : Nat := Text.decimal ((cs.drop start).take width)

/-- How long the date at the beginning of a text is. A week that is followed by digits is followed by
its day, unless that leaves half a number for the time of day. -/
def dateLength (cs : List Char) : Nat :=
  let hasAt (i : Nat) (c : Char) : Bool := cs[i]? = some c
  if cs.length = 7 then 7
  else if hasAt 4 '-' then
    if !hasAt 5 'W' then 10
    else if hasAt 8 '-' && !(cs[10]?.any Char.isDigit) then 10
    else 8
  else if hasAt 4 'W' then
    let digits := ((cs.drop 7).takeWhile Char.isDigit).length
    if digits < 2 then 7 + digits else if digits % 2 = 1 then 7 else 8
  else 8

/-- The first day that a date may stand for: `2024-01-31`, `2024-W05-3` or `2024-W05`, with or
without hyphens. -/
def ofDate (date : List Char) : Timestamp :=
  let cs := date.filter (· ≠ '-')
  if cs[4]? = some 'W' then ofWeek (part cs 0 4) (part cs 5 2) (if cs.length < 8 then 1 else part cs 7 1)
  else { year := part cs 0 4, month := part cs 4 2, day := part cs 6 2 }

/-- The time stamp that a text as `2024-01-31T09:05:00.25` stands for. What is missing at its end
counts as zero. Decimals follow a point or a comma, or six digits of a time without colons. -/
def ofString (s : String) : Timestamp :=
  let cs := s.toList
  let time := cs.drop (dateLength cs + 1)
  let isMark (c : Char) : Bool := c = '.' || c = ','
  let whole := (time.takeWhile (!isMark ·)).filter (· ≠ ':')
  let decimals := whole.drop 6 ++ (time.dropWhile (!isMark ·)).drop 1
  { ofDate (cs.take (dateLength cs)) with
    hour := part whole 0 2
    minute := part whole 2 2
    second := part whole 4 2
    microsecond := part (decimals ++ List.replicate (6 - decimals.length) '0') 0 6 }

example : (ofString "2024-01-31T09:05:00.25").text = "2024-01-31T09:05:00.250000" := by decide +kernel
example : ofString "2024W053 0905" = ofString "2024-01-31T09:05" := by decide +kernel

end Timestamp

end PhotoArchive
