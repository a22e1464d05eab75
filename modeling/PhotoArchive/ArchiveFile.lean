import PhotoArchive.File

/-!
# Finished archives

What an export hands out: the file with the archive, the size of the archive, and how the archive is
announced to someone who downloads it.

## Main definitions

- `ArchiveFile` — a finished archive
- `ArchiveFile.contentType`, `ArchiveFile.contentDisposition` — how it is announced
-/

namespace PhotoArchive

/-- A finished archive. -/
structure ArchiveFile where
  file : File
  size : Nat

namespace ArchiveFile

/-- The media type of an archive. -/
def contentType : String := "application/zip"

/-- The header that announces a download under a file name. -/
def contentDisposition (filename : String) : String :=
  "attachment; filename=\"" ++ filename ++ "\""

end ArchiveFile

end PhotoArchive
