import PhotoArchive.Text.Quoted

/-!
# Violations of the rules of the domain

Paths, products and photo references are only made from values that keep their rules. A violation
says which rule a value breaks.

## Main definitions

- `Violation` — a rule and the value that breaks it
- `Violation.message` — the violation in words
-/

namespace PhotoArchive

/-- A rule of the domain, with the value that breaks it where the message shows it. -/
inductive Violation where
  /-- A path starts with a slash. -/
  | leadingSlash
  /-- A path contains a forbidden character or a double slash. -/
  | forbiddenText (path text : String)
  /-- A path has a segment that names the parent directory. -/
  | parentSegment (path : String)
  /-- Something is joined to a path that is not a directory. -/
  | joinToFile
  /-- A number is added to the name of a directory. -/
  | indexOfDirectory
  /-- A product has an empty id. -/
  | productWithoutId
  /-- The name of an archive entry is a directory. -/
  | entryNotFile
  /-- The key of a blob is a directory. -/
  | blobKeyNotFile
  /-- The name of a photo contains a slash. -/
  | photoNameWithSlash (name : String)
  deriving DecidableEq, Repr

namespace Violation

/-- The violation in words. -/
def message : Violation → String
  | leadingSlash => "Path must not start with /"
  | forbiddenText path text =>
    "Path " ++ Text.quoted path ++ " cannot contain " ++ Text.quoted text
  | parentSegment path => "Path " ++ Text.quoted path ++ " cannot contain a .. segment"
  | joinToFile => "Cannot join to file."
  | indexOfDirectory => "Cannot index a directory."
  | productWithoutId => "Product must have id"
  | entryNotFile => "Archive entry must be a file"
  | blobKeyNotFile => "Blob key must point to a file"
  | photoNameWithSlash name => "Photo name " ++ Text.quoted name ++ " cannot contain /"

end Violation

end PhotoArchive
