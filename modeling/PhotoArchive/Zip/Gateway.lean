import PhotoArchive.ArchiveGateway
import PhotoArchive.Settings
import PhotoArchive.Zip.Writer

/-!
# Archives in the zip format

The archive gateway that writes zip archives, on new files of a given kind.

## Main definitions

- `Zip.gateway` — the gateway for files of one kind, a method and a limit
- `Zip.Method.ofCompression` — the method for a compression
- `Zip.gatewayOfSettings` — the gateway that the settings ask for
-/

namespace PhotoArchive.Zip

/-- Complete the archive of a writer. -/
def Writer.complete (w : Writer) : Except Refusal ArchiveFile × Writer :=
  match w.finalize with
  | (.ok size, w) => (.ok (w.archive size), w)
  | (.error refusal, w) => (.error refusal, w)

/-- The gateway that writes archives to files that are like `file`. -/
def gateway (file : File) (method : Method) (limit : Int) : ArchiveGateway Writer where
  create := .ok (.new file method limit)
  openEntry := fun name size => Writer.openEntry name.value size
  write := Writer.write
  closeEntry := Writer.closeEntry
  finalize := Writer.complete
  discard := Writer.discard

/-- For an archive in the zip format there is always a writer. -/
theorem create_gateway (file : File) (method : Method) (limit : Int) :
    (gateway file method limit).create = .ok (.new file method limit) := rfl

/-- The method for a compression. -/
def Method.ofCompression : Compression → Method
  | .stored => .stored
  | .deflated => .deflated .standard

/-- The gateway that the settings ask for, on a machine with some memory. -/
def gatewayOfSettings (s : ArchiveSettings) (memory : Memory) : ArchiveGateway Writer :=
  gateway (.spooled s.memoryLimit memory) (.ofCompression s.compression) standardLimit

end PhotoArchive.Zip
