import PhotoArchive.Proofs.Locator.Identity
import PhotoArchive.Proofs.Storage.BlobNames

/-!
# Photos under one file name

The keys of different photos are different texts. In a directory, single dots between the slashes of a key
say nothing, so there are keys that are opened as the same file: below one collection, those of the
photos of which the ids and the names have the same segments apart from single dots.

## Main definitions

- `Directory.photoParts` — the segments of an id, and a file name

## Main statements

- `Directory.blobName_eq_iff` — which photos have one file name
- `Directory.opens_located_iff` — which photos are opened under texts that stand for the same
-/

namespace PhotoArchive

namespace Directory

open Text (namesIn)

variable {locator : Locator} {productId productId' name name' : String}
  {reference reference' : PhotoReference}

/-- The segments of the id of a product, and behind them the file name of a photo. -/
def photoParts (productId name : String) : List String := namesIn productId ++ [name]

theorem photoParts_inj (h : photoParts productId name = photoParts productId' name') :
    productId = productId' ∧ name = name' := by
  obtain ⟨hids, hnames⟩ := List.append_inj' h rfl
  exact ⟨Text.namesIn_inj hids, List.singleton_inj.1 hnames⟩

/-- A photo enters the archive under the segments of its id and its name. -/
theorem parts_entryName (h : locator.reference productId name = .ok reference) :
    reference.entryName.parts = photoParts productId name := by
  have htext : (productId ++ "/" ++ name).toList = productId.toList ++ '/' :: name.toList := by
    simp [String.toList_append]
  rw [Path.parts_of_isFile reference.entryName_file, (Locator.values_of_reference h).1, namesIn,
    htext, Text.cut_append_slash_append, Text.cut_of_not_mem (Locator.of_reference_eq_ok h).2,
    photoParts, namesIn, List.map_append, List.map_singleton, String.ofList_toList]

/-- Below one root and one collection, photos have the same file name if all that sets their segments
apart are single dots. -/
theorem blobName_eq_iff (root : FileName) (h : locator.reference productId name = .ok reference)
    (h' : locator.reference productId' name' = .ok reference') :
    blobName root reference.blobKey = blobName root reference'.blobKey ↔
      (photoParts productId name).filter (· ≠ ".")
        = (photoParts productId' name').filter (· ≠ ".") := by
  have hparts : meaningfulParts reference.blobKey = locator.collection.parts.filter (· ≠ ".")
      ++ (photoParts productId name).filter (· ≠ ".") := by
    rw [meaningfulParts, Path.parts_of_join (Locator.join_entryName h), parts_entryName h,
      List.filter_append]
  have hparts' : meaningfulParts reference'.blobKey = locator.collection.parts.filter (· ≠ ".")
      ++ (photoParts productId' name').filter (· ≠ ".") := by
    rw [meaningfulParts, Path.parts_of_join (Locator.join_entryName h'), parts_entryName h',
      List.filter_append]
  -- The names of the root and of the collection are in front of both.
  rw [blobName_eq, blobName_eq, FileName.mk.injEq, eq_self_iff_true, true_and,
    List.append_cancel_left_eq, hparts, hparts', List.append_cancel_left_eq]

/-- Two located photos are opened under texts that stand for the same file name exactly if the segments
of their ids and their names are the same apart from single dots. Where there are no single dots, these
are the same photo. -/
theorem opens_located_iff (root : String) {index index' : Nat}
    (h : locator.slot productId index (some name) = .ok reference)
    (h' : locator.slot productId' index' (some name') = .ok reference') :
    ∃ file file' : String,
      Opens (.ofString root) reference.blobKey file ∧
      Opens (.ofString root) reference'.blobKey file' ∧
      (FileName.ofString file = FileName.ofString file' ↔
        (photoParts productId name).filter (· ≠ ".")
          = (photoParts productId' name').filter (· ≠ ".")) ∧
      ("." ∉ photoParts productId name → "." ∉ photoParts productId' name' →
        (FileName.ofString file = FileName.ofString file' ↔
          productId = productId' ∧ name = name')) := by
  obtain ⟨_, hsome, hlocated⟩ := Locator.of_slot_eq_ok h
  obtain rfl := Option.some.inj hsome
  obtain ⟨_, hsome', hlocated'⟩ := Locator.of_slot_eq_ok h'
  obtain rfl := Option.some.inj hsome'
  have hnormal (key : Path) := isNormal_blobName (FileName.isNormal_ofString root) key
  have hiff := blobName_eq_iff (.ofString root) hlocated hlocated'
  have hkept {parts : List String} (hdot : "." ∉ parts) : parts.filter (· ≠ ".") = parts := by
    refine List.filter_eq_self.2 fun part hpart => ?_
    rw [decide_eq_true_iff]
    rintro rfl
    exact hdot hpart
  refine ⟨_, _, opens_blobName _ _, opens_blobName _ _, ?_, fun hdot hdot' => ?_⟩
  · rw [FileName.ofString_text (hnormal _), FileName.ofString_text (hnormal _)]
    exact hiff
  · rw [FileName.ofString_text (hnormal _), FileName.ofString_text (hnormal _), hiff, hkept hdot,
      hkept hdot']
    refine ⟨photoParts_inj, ?_⟩
    rintro ⟨rfl, rfl⟩
    rfl

theorem opens_located_iff_sample :
    ∃ first second third : PhotoReference,
      Locator.sampleLocator.slot "p" 0 (some "a.jpg") = .ok first ∧
      Locator.sampleLocator.slot "p/." 0 (some "a.jpg") = .ok second ∧
      Locator.sampleLocator.slot "q" 0 (some "a.jpg") = .ok third ∧
      (∃ file file' : String, Opens (.ofString "store") first.blobKey file ∧
        Opens (.ofString "store") second.blobKey file' ∧
        FileName.ofString file = FileName.ofString file') ∧
      (∃ file file' : String, Opens (.ofString "store") first.blobKey file ∧
        Opens (.ofString "store") third.blobKey file' ∧
        FileName.ofString file ≠ FileName.ofString file') := by
  have hfirst : Locator.sampleLocator.slot "p" 0 (some "a.jpg") = .ok _ := rfl
  have hsecond : Locator.sampleLocator.slot "p/." 0 (some "a.jpg") = .ok _ := rfl
  have hthird : Locator.sampleLocator.slot "q" 0 (some "a.jpg") = .ok _ := rfl
  refine ⟨_, _, _, hfirst, hsecond, hthird, ?_, ?_⟩
  · obtain ⟨file, file', hopens, hopens', hsame, -⟩ := opens_located_iff "store" hfirst hsecond
    exact ⟨file, file', hopens, hopens', hsame.2 (by decide)⟩
  · obtain ⟨file, file', hopens, hopens', -, hphotos⟩ := opens_located_iff "store" hfirst hthird
    exact ⟨file, file', hopens, hopens', mt (hphotos (by decide) (by decide)).1 (by decide)⟩

/-- Not all photos have a file name of their own: with a single dot behind its id, a product has the same
photos as without. -/
theorem not_forall_opens_ne :
    ¬ ∀ (root collection : String) (locator : Locator) (productId productId' name name' : String)
      (index index' : Nat) (reference reference' : PhotoReference) (file file' : String),
      Locator.make collection = .ok locator →
      locator.slot productId index (some name) = .ok reference →
      locator.slot productId' index' (some name') = .ok reference' →
      productId ≠ productId' ∨ name ≠ name' →
      Opens (.ofString root) reference.blobKey file →
      Opens (.ofString root) reference'.blobKey file' →
      FileName.ofString file ≠ FileName.ofString file' := by
  intro h
  have hfirst : Locator.sampleLocator.slot "p" 0 (some "a.jpg") = .ok _ := rfl
  have hsecond : Locator.sampleLocator.slot "p/." 0 (some "a.jpg") = .ok _ := rfl
  apply h "store" "products" Locator.sampleLocator "p" "p/." "a.jpg" "a.jpg" 0 0 _ _ _ _ rfl hfirst
    hsecond (.inl (by decide)) (opens_blobName _ _) (opens_blobName _ _)
  rw [blobName_eq, blobName_eq]
  rfl

end Directory

end PhotoArchive
