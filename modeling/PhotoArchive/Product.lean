import PhotoArchive.Path
import PhotoArchive.Timestamp

/-!
# Products and their photos

A company owns products, and a product lists the file names of its photos. A *photo reference* says
under which name one photo enters the archive and under which key its bytes are stored.

## Main definitions

- `Product` — a product with the names of its photos
- `Product.make` — a product that keeps its rule
- `PhotoReference` — the archive name and the storage key of one photo
- `PhotoReference.make` — the reference with given paths, or the rule that they break

## Design notes

Rows that come from a database are products as they stand there: the rule that a product has an id
is one of `Product.make`, not of the type. That the two paths of a reference are files is part of
the type, since everything that follows relies on it.
-/

namespace PhotoArchive

/-- A product with the file names of its photos. The list of names may be missing, and so may
single names in it. -/
structure Product where
  id : String
  company : String
  photos : Option (List (Option String)) := some []
  created : Option Timestamp := none
  deriving DecidableEq, Repr

namespace Product

/-- The names of the photos; a missing list counts as empty. -/
def photoNames (p : Product) : List (Option String) := p.photos.getD []

/-- A product has photos when its list of names is neither missing nor empty. -/
def hasPhotos (p : Product) : Bool := !p.photoNames.isEmpty

/-- A product, provided that it has an id. -/
def make (p : Product) : Except Violation Product :=
  if p.id.isEmpty then .error .productWithoutId else .ok p

end Product

/-- Under which name a photo enters the archive, and under which key its bytes are stored. -/
structure PhotoReference where
  entryName : Path
  blobKey : Path
  productId : String
  entryName_file : entryName.isDirectory = false
  blobKey_file : blobKey.isDirectory = false
  deriving DecidableEq

/-- The reference with the given paths, or the rule that they break. The name is looked at first. -/
def PhotoReference.make (entryName blobKey : Path) (productId : String) :
    Except Violation PhotoReference :=
  if he : entryName.isDirectory = true then .error .entryNotFile
  else if hb : blobKey.isDirectory = true then .error .blobKeyNotFile
  else .ok
    { entryName, blobKey, productId
      entryName_file := by simpa using he
      blobKey_file := by simpa using hb }

end PhotoArchive
