import PhotoArchive.Ledger
import PhotoArchive.Product

/-!
# Locating photos

Each place in a product's list of photos gives either a reference, which says where the photo is
stored and how it is called in the archive, or a skip record. The archive name is `id/photo` and the
storage key `collection/id/photo`.

## Main definitions

- `Locator` — the collection below which all photos are stored
- `Locator.make` — the locator for a collection, whose outer slashes do not matter
- `Locator.slots` — what each place in the lists of some products gives, in order
- `Locator.references`, `Locator.skips` — the two kinds of slots apart
-/

namespace PhotoArchive

/-- Knows the directory below which the photos of all products are stored. -/
structure Locator where
  collection : Path
  deriving DecidableEq

namespace Locator

/-- The text of the directory of a collection: the collection without slashes at its two ends,
followed by one slash. -/
def collectionText (collection : String) : String :=
  let dropSlashes (cs : List Char) := cs.dropWhile (· = '/')
  String.ofList ((dropSlashes (dropSlashes collection.toList).reverse).reverse ++ ['/'])

/-- The locator for a collection. -/
def make (collection : String) : Except Violation Locator := do
  return { collection := ← Path.ofString (collectionText collection) }

/-- The reference to the photo of a product with a given file name, or the rule that the two
break. -/
def reference (locator : Locator) (productId filename : String) :
    Except Violation PhotoReference := do
  if filename.toList.contains '/' then throw (.photoNameWithSlash filename)
  let productDirectory ← Path.ofString (productId ++ "/")
  let entryName ← productDirectory.joinText filename
  let blobKey ← (← locator.collection.join productDirectory).joinText filename
  PhotoReference.make entryName blobKey productId

/-- What one place in a product's list gives. A missing or empty name is skipped and called after
its place in the list. -/
def slot (locator : Locator) (productId : String) (index : Nat) (filename : Option String) :
    Except SkipRecord PhotoReference :=
  match filename.filter (!·.isEmpty) with
  | none =>
    .error { entryName := productId ++ "/[" ++ toString index ++ "]", reason := .emptyKey }
  | some filename =>
    match locator.reference productId filename with
    | .ok reference => .ok reference
    | .error violation =>
      .error
        { entryName := productId ++ "/" ++ filename
          reason := .invalidKey
          detail := violation.message }

/-- What the places in a product's list give, in order. -/
def productSlots (locator : Locator) (p : Product) : List (Except SkipRecord PhotoReference) :=
  p.photoNames.mapIdx fun index filename => locator.slot p.id index filename

/-- What the places in the lists of some products give, products first. -/
def slots (locator : Locator) (products : List Product) :
    List (Except SkipRecord PhotoReference) :=
  products.flatMap locator.productSlots

/-- The references among the slots, in order. -/
def references (slots : List (Except SkipRecord PhotoReference)) : List PhotoReference :=
  slots.filterMap fun
    | .ok reference => some reference
    | .error _ => none

/-- The skip records among the slots, in order. -/
def skips (slots : List (Except SkipRecord PhotoReference)) : List SkipRecord :=
  slots.filterMap fun
    | .ok _ => none
    | .error skip => some skip

/-- Every slot is a reference or a skip record. -/
theorem length_references_add_skips (slots : List (Except SkipRecord PhotoReference)) :
    (references slots).length + (skips slots).length = slots.length := by
  induction slots with
  | nil => rfl
  | cons slot rest ih =>
    cases slot <;> simp [references, skips] at * <;> omega

end Locator

end PhotoArchive
