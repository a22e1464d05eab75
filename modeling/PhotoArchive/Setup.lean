import PhotoArchive.Exporter
import PhotoArchive.Settings.Address.Options
import PhotoArchive.Storage.Bucket
import PhotoArchive.Storage.FileTree
import PhotoArchive.Zip.Gateway

/-!
# From settings to an exporter

What the settings ask for: where the photos are, how archives are written and which buffers are
used. Settings that contradict each other are found out here.

## Main definitions

- `Location` — where the photos are
- `Setup` — all that exports need, apart from the storage itself
- `Setup.ofSettings` — what the settings ask for on a machine
- `Setup.exporter` — the exporter over a storage
-/

namespace PhotoArchive

/-- Where the photos are. -/
inductive Location where
  | directory (root : FileName)
  | bucket (bucket : Bucket)
  deriving DecidableEq

/-- Why settings do not fit together. -/
inductive SetupError where
  /-- The address of the database cannot be used. -/
  | database (error : AddressError)
  /-- The photos are in a bucket, but nothing is known about it. -/
  | noBucket
  /-- There cannot be such a collection. -/
  | collection (violation : Violation)
  deriving DecidableEq

/-- The error in words. -/
def SetupError.message : SetupError → String
  | database error => error.message
  | noBucket => "MinIO settings are required for the minio storage backend"
  | collection violation => violation.message

namespace Location

/-- The bucket that some settings describe. -/
def ofBucketSettings (s : BucketSettings) : Location :=
  .bucket { endpoint := s.endpoint, name := s.bucket }

/-- Where the photos are according to the settings. -/
def ofSettings (s : Settings) : Except SetupError Location :=
  match s.storage.backend, s.bucket with
  | .directory, _ => .ok (.directory (.ofString s.storage.root))
  | .bucket, some described => .ok (ofBucketSettings described)
  | .bucket, none => .error .noBucket

end Location

/-- An empty pool of the buffers that the settings ask for, in some memory. -/
def ArchiveSettings.pool (s : ArchiveSettings) (memory : Memory) : BufferPool where
  bufferSize := s.bufferSize.val
  bufferSize_pos := s.bufferSize.property
  maxRetained := s.poolSize
  memory := memory

/-- All that exports need, apart from the storage itself and the catalog. -/
structure Setup where
  location : Location
  gateway : ArchiveGateway Zip.Writer
  pool : BufferPool
  locator : Locator

namespace Setup

/-- What the settings ask for, on a machine with some memory. The database is set up first. -/
def ofSettings (s : Settings) (memory : Memory) : Except SetupError Setup := do
  s.database.address.check.mapError .database
  let location ← Location.ofSettings s
  let locator ← (Locator.make s.storage.collection).mapError .collection
  return {
    location, gateway := Zip.gatewayOfSettings s.archive memory
    pool := s.archive.pool memory, locator }

/-- The exporter over a catalog and a storage. -/
def exporter {σ : Type} (s : Setup) (catalog : Catalog) (source : BlobSource σ) :
    Exporter σ Zip.Writer :=
  { catalog, locator := s.locator, source, gateway := s.gateway }

end Setup

end PhotoArchive
