import PhotoArchive.Precision
import PhotoArchive.Text.Integer

/-!
# Validating settings

Settings are given as named values: by the environment, where all values are texts, or by a
structured source. A field is looked up under its names in turn and its value is read as a text, an
integer or one of a few choices. All fields are looked at, so that all errors are found at once, in
the order of the fields.

## Main definitions

- `Setting` — a value as it is given
- `Problem`, `FieldError`, `ValidationError` — what is wrong with which field of which group
- `Validation` — a value or all the errors that stand in its way
- `field` — look up a field and read its value
-/

namespace PhotoArchive

/-- A value as it is given. -/
inductive Setting where
  | null
  | flag (value : Bool)
  | integer (value : Int)
  /-- The number in double precision next to `mantissa / 10 ^ decimals`; no shorter decimal has the
  same one next to it. -/
  | real (mantissa : Int) (decimals : Nat)
  | text (value : String)
  | list (items : List Setting)
  | group (fields : List (String × Setting))
  deriving Inhabited

/-- What is wrong with a value. -/
inductive Problem where
  | missing
  | notText
  | notInteger
  | notIntegerText
  | integerTooLong
  | notWhole
  | notPositive
  | negative
  /-- The value is none of the choices. -/
  | notOneOf (choices : List String)
  /-- The value is no group of settings; the group would have the given title. -/
  | notGroup (title : String)
  deriving DecidableEq, Repr

namespace Problem

/-- A short name of the problem. -/
def code : Problem → String
  | missing => "missing"
  | notText => "string_type"
  | notInteger => "int_type"
  | notIntegerText => "int_parsing"
  | integerTooLong => "int_parsing_size"
  | notWhole => "int_from_float"
  | notPositive => "greater_than"
  | negative => "greater_than_equal"
  | notOneOf _ => "literal_error"
  | notGroup _ => "model_type"

/-- Choices in single quotes, the last one after an "or". -/
def listed : List String → String
  | [] => ""
  | [choice] => "'" ++ choice ++ "'"
  | [choice, last] => "'" ++ choice ++ "' or '" ++ last ++ "'"
  | choice :: rest => "'" ++ choice ++ "', " ++ listed rest

/-- The problem in words. -/
def message : Problem → String
  | missing => "Field required"
  | notText => "Input should be a valid string"
  | notInteger => "Input should be a valid integer"
  | notIntegerText => "Input should be a valid integer, unable to parse string as an integer"
  | integerTooLong => "Unable to parse input string as an integer, exceeded maximum size"
  | notWhole => "Input should be a valid integer, got a number with a fractional part"
  | notPositive => "Input should be greater than 0"
  | negative => "Input should be greater than or equal to 0"
  | notOneOf choices => "Input should be " ++ listed choices
  | notGroup title => "Input should be a valid dictionary or instance of " ++ title

end Problem

/-- A problem with the value at a location: the names of the groups around it and its own. -/
structure FieldError where
  location : List String
  problem : Problem
  deriving DecidableEq, Repr

/-- All errors in a group of settings. -/
structure ValidationError where
  title : String
  errors : List FieldError
  deriving DecidableEq, Repr

/-! ## Collecting errors -/

/-- A value, or all the errors that stand in its way. -/
def Validation (α : Type) : Type := Except (List FieldError) α

namespace Validation

variable {α β : Type}

/-- Apply a function to a value; when both are missing, the errors of both are kept. -/
def apply (f : Validation (α → β)) (x : Unit → Validation α) : Validation β :=
  match f, x () with
  | .ok f, .ok x => .ok (f x)
  | .error e, .ok _ => .error e
  | .ok _, .error e => .error e
  | .error e, .error e' => .error (e ++ e')

instance : Applicative Validation where
  pure := Except.ok
  seq := apply

/-- The errors of a group that is a field of another group. -/
def inside (name : String) (v : Validation α) : Validation α :=
  v.mapError (·.map fun e => { e with location := name :: e.location })

/-- The value, or the errors under the title of the group. -/
def titled (title : String) (v : Validation α) : Except ValidationError α :=
  v.mapError fun errors => { title, errors }

end Validation

/-! ## Reading values -/

namespace Setting

/-- The text that a value is. -/
def text? : Setting → Except Problem String
  | text s => .ok s
  | _ => .error .notText

/-- The integer that a number in double precision is. It has to be smaller than `2 ^ 63`. -/
def wholeReal? (mantissa : Int) (decimals : Nat) : Except Problem Int :=
  let divisor := Nat.pow 10 decimals
  let size := roundSignificant (mantissa.natAbs / divisor)
  if mantissa.natAbs % divisor ≠ 0 then .error .notWhole
  else if 0x8000000000000000 ≤ size then .error .integerTooLong
  else .ok (mantissa.sign * size)

/-- The integer that a value is or spells. Flags count as 0 and 1. -/
def integer? : Setting → Except Problem Int
  | flag b => .ok (if b then 1 else 0)
  | integer n => .ok n
  | real mantissa decimals => wholeReal? mantissa decimals
  | text s =>
    match Text.integer? s with
    | .ok n => .ok n
    | .error .malformed => .error .notIntegerText
    | .error .tooLong => .error .integerTooLong
  | _ => .error .notInteger

/-- The positive integer that a value is or spells. -/
def positive? (s : Setting) : Except Problem { n : Nat // 0 < n } := do
  let n ← s.integer?
  if h : 0 < n.toNat then .ok ⟨n.toNat, h⟩ else .error .notPositive

/-- The natural number that a value is or spells. -/
def natural? (s : Setting) : Except Problem Nat := do
  let n ← s.integer?
  if 0 ≤ n then .ok n.toNat else .error .negative

/-- The choice that a value spells, given the texts of all choices. -/
def choice? (choices : List (String × α)) (s : Setting) : Except Problem α :=
  let given := match s with
    | text s => some s
    | _ => none
  match choices.find? fun choice => some choice.1 = given with
  | some (_, choice) => .ok choice
  | none => .error (.notOneOf (choices.map Prod.fst))

end Setting

/-- The values of a group of settings by name. -/
abbrev SettingFields := List (String × Setting)

/-- The value under the first of the names that is given, with that name. -/
def SettingFields.find? (fields : SettingFields) (names : List String) :
    Option (String × Setting) :=
  names.findSome? fun name => List.find? (fun field => field.1 = name) fields

/-- A field whose value is read by `read`. Without a value it is `default`, or missing under the first
of its names if there is no default. -/
def field (fields : SettingFields) (names : List String) (default : Option α)
    (read : Setting → Except Problem α) : Validation α :=
  match fields.find? names with
  | some (name, setting) => (read setting).mapError fun problem => [{ location := [name], problem }]
  | none =>
    match default with
    | some x => .ok x
    | none => .error [{ location := names.take 1, problem := .missing }]

/-- A field that is a group of settings itself. Without a value it is `default`. -/
def groupField (fields : SettingFields) (name title : String) (default : Option α)
    (read : SettingFields → Validation α) : Validation α :=
  match fields.find? [name] with
  | some (_, .group inner) => (read inner).inside name
  | some _ => .error [{ location := [name], problem := .notGroup title }]
  | none =>
    match default with
    | some x => .ok x
    | none => .error [{ location := [name], problem := .missing }]

end PhotoArchive
