import PhotoArchive.Settings.Validation

/-!
# The settings

What can be set: how to reach the database, where the photos are stored, how the archive is written,
and, for a bucket, how to reach the object store.

## Main definitions

- `DatabaseSettings`, `BucketSettings`, `StorageSettings`, `ArchiveSettings` — the groups
- `Settings` — all groups together
- `Settings.ofFields` — the settings that some named values give, or everything that is wrong
-/

namespace PhotoArchive

/-! ## Groups -/

/-- How to reach the database. -/
structure DatabaseSettings where
  user : String
  password : String
  name : String
  host : String
  port : String
  deriving DecidableEq, Repr

namespace DatabaseSettings

def title : String := "PostgresConfig"

/-- The address of the database without the scheme. -/
def place (s : DatabaseSettings) : String :=
  s.user ++ ":" ++ s.password ++ "@" ++ s.host ++ ":" ++ s.port ++ "/" ++ s.name

/-- The address of the database. -/
def url (s : DatabaseSettings) : String := "postgresql+asyncpg://" ++ s.place

/-- The settings that some named values give. -/
def ofFields (fields : SettingFields) : Validation DatabaseSettings :=
  let text (name : String) : Validation String := field fields [name] none Setting.text?
  mk <$> text "POSTGRES_USER" <*> text "POSTGRES_PASSWORD" <*> text "POSTGRES_DB"
    <*> text "POSTGRES_HOST" <*> text "POSTGRES_PORT"

/-- The settings, or all errors under the title of the group. -/
def validate (fields : SettingFields) : Except ValidationError DatabaseSettings :=
  (ofFields fields).titled title

end DatabaseSettings

/-- How to reach the object store, and the bucket with the photos. -/
structure BucketSettings where
  host : String
  port : Int
  bucket : String
  login : String
  password : String
  deriving DecidableEq, Repr

namespace BucketSettings

def title : String := "MinioConfig"

/-- The address of the object store. -/
def endpoint (s : BucketSettings) : String := "http://" ++ s.host ++ ":" ++ toString s.port

/-- The settings that some named values give. -/
def ofFields (fields : SettingFields) : Validation BucketSettings :=
  let text (name : String) : Validation String := field fields [name] none Setting.text?
  mk <$> text "MINIO_HOST" <*> field fields ["MINIO_PORT"] none Setting.integer?
    <*> text "MINIO_BUCKET" <*> text "MINIO_LOGIN" <*> text "MINIO_PASSWORD"

/-- The settings, or all errors under the title of the group. -/
def validate (fields : SettingFields) : Except ValidationError BucketSettings :=
  (ofFields fields).titled title

end BucketSettings

/-- What the photos are stored in. -/
inductive Backend where
  | directory
  | bucket
  deriving DecidableEq, Repr

/-- The texts of the backends. -/
def Backend.choices : List (String × Backend) := [("local", .directory), ("minio", .bucket)]

/-- Where the photos are stored. -/
structure StorageSettings where
  backend : Backend := .directory
  /-- The directory with the photos, for the directory backend. -/
  root : String := "pb_data/storage"
  /-- The directory below it with the photos of all products. -/
  collection : String := "products"
  deriving DecidableEq, Repr

namespace StorageSettings

def title : String := "StorageConfig"

/-- The settings that some named values give. -/
def ofFields (fields : SettingFields) : Validation StorageSettings :=
  let default : StorageSettings := {}
  mk <$> field fields ["STORAGE_BACKEND", "backend"] (some default.backend)
      (Setting.choice? Backend.choices)
    <*> field fields ["STORAGE_LOCAL_ROOT", "local_root"] (some default.root) Setting.text?
    <*> field fields ["STORAGE_COLLECTION", "collection"] (some default.collection) Setting.text?

/-- The settings, or all errors under the title of the group. -/
def validate (fields : SettingFields) : Except ValidationError StorageSettings :=
  (ofFields fields).titled title

end StorageSettings

/-- Whether photos are compressed. -/
inductive Compression where
  | stored
  | deflated
  deriving DecidableEq, Repr

/-- The texts of the compressions. -/
def Compression.choices : List (String × Compression) :=
  [("stored", .stored), ("deflated", .deflated)]

/-- How archives are written. -/
structure ArchiveSettings where
  /-- The length of the buffers that photos are copied through. -/
  bufferSize : { n : Nat // 0 < n } := ⟨32768, by decide⟩
  /-- How many buffers are kept. -/
  poolSize : Nat := 16
  /-- The size up to which an archive is kept in memory; zero means any size. -/
  memoryLimit : Nat := 8388608
  compression : Compression := .stored
  /-- The name of the archive if none is given. -/
  filename : String := "export.zip"
  deriving DecidableEq, Repr

namespace ArchiveSettings

def title : String := "ExportConfig"

/-- The settings that some named values give. -/
def ofFields (fields : SettingFields) : Validation ArchiveSettings :=
  let default : ArchiveSettings := {}
  mk <$> field fields ["EXPORT_BUFFER_SIZE", "buffer_size"] (some default.bufferSize)
      Setting.positive?
    <*> field fields ["EXPORT_POOL_SIZE", "pool_size"] (some default.poolSize) Setting.natural?
    <*> field fields ["EXPORT_SPOOL_MAX_SIZE", "spool_max_size"] (some default.memoryLimit)
      Setting.natural?
    <*> field fields ["EXPORT_COMPRESSION", "compression"] (some default.compression)
      (Setting.choice? Compression.choices)
    <*> field fields ["EXPORT_FILENAME", "filename"] (some default.filename) Setting.text?

/-- The settings, or all errors under the title of the group. -/
def validate (fields : SettingFields) : Except ValidationError ArchiveSettings :=
  (ofFields fields).titled title

end ArchiveSettings

/-! ## All settings -/

/-- All settings. -/
structure Settings where
  database : DatabaseSettings
  storage : StorageSettings := {}
  archive : ArchiveSettings := {}
  bucket : Option BucketSettings := none
  deriving DecidableEq, Repr

namespace Settings

def title : String := "Config"

/-- The settings of the bucket may be given as missing. -/
def optionalBucket (fields : SettingFields) : Validation (Option BucketSettings) :=
  match fields.find? ["minio"] with
  | some (_, .null) => .ok none
  | _ => groupField fields "minio" BucketSettings.title (some none) fun inner =>
      some <$> BucketSettings.ofFields inner

/-- The settings that some named values give, or everything that is wrong with them. -/
def ofFields (fields : SettingFields) : Validation Settings :=
  mk <$> groupField fields "postgres" DatabaseSettings.title none DatabaseSettings.ofFields
    <*> groupField fields "storage" StorageSettings.title (some {}) StorageSettings.ofFields
    <*> groupField fields "export" ArchiveSettings.title (some {}) ArchiveSettings.ofFields
    <*> optionalBucket fields

/-- The settings, or all errors under the title of the whole. -/
def validate (fields : SettingFields) : Except ValidationError Settings :=
  (ofFields fields).titled title

end Settings

end PhotoArchive
