/-!
# The log

Every step that a user may want to trace is recorded with a level, the component that speaks and a
message. Records are kept in the order in which they are made, and none is ever taken back.

## Main definitions

- `Log.Level`, `Log.Component`, `Log.Record` — a record of the log
- `Log` — the records so far, oldest first
- `Log.Record.line`, `Log.Record.entry` — a record in words, without and with who speaks
- `Log.above` — the records that a threshold lets pass
-/

namespace PhotoArchive

namespace Log

/-- How important a record is. -/
inductive Level where
  | debug
  | info
  | warning
  | error
  deriving DecidableEq, Repr

namespace Level

/-- The name of a level in a log line. -/
def name : Level → String
  | debug => "DEBUG"
  | info => "INFO"
  | warning => "WARNING"
  | error => "ERROR"

/-- The rank of a level; a threshold lets pass what ranks at least as high. -/
def rank : Level → Nat
  | debug => 10
  | info => 20
  | warning => 30
  | error => 40

end Level

/-- The names of the thresholds. -/
def thresholds : List (String × Nat) :=
  [("CRITICAL", 50), ("FATAL", 50), ("ERROR", 40), ("WARN", 30), ("WARNING", 30), ("INFO", 20),
    ("DEBUG", 10), ("NOTSET", 0)]

/-- Who speaks in a record. -/
inductive Component where
  | ledger
  | assembly
  | exporter
  | products
  | directory
  | bucket
  | archive
  deriving DecidableEq, Repr

/-- The name under which a component logs. -/
def Component.name : Component → String
  | ledger => "photo_export.application.ledger"
  | assembly => "photo_export.application.assembler"
  | exporter => "photo_export.application.interactors"
  | products => "photo_export.infrastructure.database.gateways"
  | directory => "photo_export.infrastructure.local_gateway"
  | bucket => "photo_export.infrastructure.minio_gateway"
  | archive => "photo_export.infrastructure.zip_gateway"

/-- One record of the log. -/
structure Record where
  level : Level
  component : Component
  message : String
  deriving DecidableEq, Repr

/-- The level and the message of a record. -/
def Record.line (r : Record) : String := r.level.name ++ " " ++ r.message

/-- A record in full: its level, who speaks, and the message. -/
def Record.entry (r : Record) : String :=
  r.level.name ++ " " ++ r.component.name ++ ": " ++ r.message

end Log

/-- The records so far, oldest first. -/
abbrev Log := List Log.Record

/-- The records that a threshold lets pass. -/
def Log.above (log : Log) (threshold : Nat) : Log := log.filter fun r => threshold ≤ r.level.rank

end PhotoArchive
