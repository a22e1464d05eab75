import PhotoArchive.Log

/-!
# The skip ledger

A photo that cannot be exported does not end the export. It is entered into the ledger with the
name it would have had in the archive and the reason why it is missing, and a warning is logged.

## Main definitions

- `SkipReason`, `SkipRecord` — why which photo is missing
- `SkipLedger` — the records of one export, oldest first
- `SkipLedger.add` — enter a record
- `SkipLedger.warning` — the log record that goes with an entry
-/

namespace PhotoArchive

/-- Why a photo is missing from the archive. -/
inductive SkipReason where
  | openFailed
  | copyFailed
  | emptyKey
  | invalidKey
  deriving DecidableEq, Repr

namespace SkipReason

/-- The reason as it is written in reports. -/
def text : SkipReason → String
  | openFailed => "open-failed"
  | copyFailed => "copy-failed"
  | emptyKey => "empty-key"
  | invalidKey => "invalid-key"

/-- Every reason. -/
def all : List SkipReason := [openFailed, copyFailed, emptyKey, invalidKey]

/-- The reason with a given text. -/
def ofText? (text : String) : Option SkipReason := all.find? (·.text = text)

/-- Every reason is found by its text. -/
theorem ofText?_text (reason : SkipReason) : ofText? reason.text = some reason := by
  cases reason <;> decide

end SkipReason

/-- A photo that is missing from the archive, and why. -/
structure SkipRecord where
  entryName : String
  reason : SkipReason
  detail : String := ""
  deriving DecidableEq, Repr

/-- The photos that are missing from the archive of one company, in the order in which they were
found missing. -/
structure SkipLedger where
  company : String
  records : List SkipRecord := []
  deriving DecidableEq, Repr

namespace SkipLedger

/-- Enter a record behind all others. -/
def add (ledger : SkipLedger) (skip : SkipRecord) : SkipLedger :=
  { ledger with records := ledger.records ++ [skip] }

/-- The warning that is logged when a record is entered. -/
def warning (ledger : SkipLedger) (skip : SkipRecord) : Log.Record where
  level := .warning
  component := .ledger
  message := "company=" ++ ledger.company ++ " entry=" ++ skip.entryName ++ " skipped: "
    ++ skip.reason.text ++ " " ++ skip.detail

@[simp] theorem records_add (ledger : SkipLedger) (skip : SkipRecord) :
    (ledger.add skip).records = ledger.records ++ [skip] := rfl

@[simp] theorem company_add (ledger : SkipLedger) (skip : SkipRecord) :
    (ledger.add skip).company = ledger.company := rfl

end SkipLedger

end PhotoArchive
