import Mathlib.Data.Set.Defs
import PhotoArchive.Locator

/-!
# The keys of photos

A located photo is stored under the collection, the id of its product and its file name, one behind
the other. So the references of some products lead to keys of these products only.

## Main definitions

- `Locator.photoKeys` — the keys below a collection that belong to the photos of some products

## Main statements

- `Locator.values_of_reference` — the name and the key of a located photo
- `Locator.blobKey_mem_photoKeys` — the keys that references of products lead to
-/

namespace PhotoArchive

/-- Two steps succeed only if both do. -/
theorem of_bind_eq_ok {ε α β : Type} {x : Except ε α} {f : α → Except ε β} {y : β}
    (h : (x >>= f) = .ok y) : ∃ a, x = .ok a ∧ f a = .ok y := by
  cases x with
  | error e => cases h
  | ok a => exact ⟨a, rfl, h⟩

namespace Path

theorem value_of_join {p other q : Path} (h : p.join other = .ok q) :
    q.value = p.value ++ other.value := by
  unfold join at h
  by_cases hp : p.isDirectory = true
  · rw [if_pos hp] at h
    exact ofString_eq_ok_iff.1 h
  · rw [if_neg hp] at h
    cases h

theorem value_of_joinText {p q : Path} {text : String} (h : p.joinText text = .ok q) :
    q.value = p.value ++ text := by
  unfold joinText at h
  by_cases hp : p.isDirectory = true
  · rw [if_pos hp] at h
    obtain ⟨other, htext, hjoin⟩ := of_bind_eq_ok h
    rw [value_of_join hjoin, ofString_eq_ok_iff.1 htext]
  · rw [if_neg hp] at h
    cases h

end Path

theorem PhotoReference.of_make {entryName blobKey : Path} {productId : String}
    {reference : PhotoReference} (h : make entryName blobKey productId = .ok reference) :
    reference.entryName = entryName ∧ reference.blobKey = blobKey := by
  unfold make at h
  split at h
  · cases h
  · split at h <;> cases h
    exact ⟨rfl, rfl⟩

namespace Locator

theorem value_of_make {collection : String} {locator : Locator}
    (h : make collection = .ok locator) : locator.collection.value = collectionText collection := by
  obtain ⟨path, hpath, hend⟩ := of_bind_eq_ok h
  cases hend
  exact Path.ofString_eq_ok_iff.1 hpath

variable {locator : Locator}

/-- A photo enters the archive under the id of its product and its file name, and is stored under
the same below the collection. -/
theorem values_of_reference {productId filename : String} {reference : PhotoReference}
    (h : locator.reference productId filename = .ok reference) :
    reference.entryName.value = productId ++ "/" ++ filename ∧
      reference.blobKey.value = locator.collection.value ++ productId ++ "/" ++ filename := by
  unfold Locator.reference at h
  by_cases hslash : filename.toList.contains '/' = true
  · rw [if_pos hslash] at h
    cases h
  rw [if_neg hslash] at h
  obtain ⟨directory, hdirectory, h⟩ := of_bind_eq_ok h
  obtain ⟨entryName, hentry, h⟩ := of_bind_eq_ok h
  obtain ⟨below, hbelow, h⟩ := of_bind_eq_ok h
  obtain ⟨blobKey, hkey, hmake⟩ := of_bind_eq_ok h
  obtain ⟨hname, hblob⟩ := PhotoReference.of_make hmake
  have hvalue : directory.value = productId ++ "/" := Path.ofString_eq_ok_iff.1 hdirectory
  rw [hname, hblob, Path.value_of_joinText hentry, Path.value_of_joinText hkey,
    Path.value_of_join hbelow, hvalue]
  exact ⟨rfl, by rw [← String.append_assoc]⟩

/-- The keys below a collection under which the photos of some products are stored. -/
def photoKeys (collection : String) (products : List Product) : Set String :=
  { key | ∃ p ∈ products, ∃ filename, some filename ∈ p.photoNames ∧
    key = collectionText collection ++ p.id ++ "/" ++ filename }

/-- A slot with a reference is a place with the name of a photo. -/
theorem of_slot_eq_ok {productId : String} {index : Nat} {name : Option String}
    {reference : PhotoReference} (h : locator.slot productId index name = .ok reference) :
    ∃ filename, name = some filename ∧ locator.reference productId filename = .ok reference := by
  unfold slot at h
  split at h
  · cases h
  · next filename hname =>
    obtain ⟨rfl, -⟩ := Option.filter_eq_some_iff.1 hname
    cases hreference : locator.reference productId filename with
    | error violation =>
      rw [hreference] at h
      cases h
    | ok found =>
      rw [hreference] at h
      cases h
      exact ⟨filename, rfl, hreference⟩

/-- References of products come from the names in their lists of photos. -/
theorem of_mem_references {products : List Product} {reference : PhotoReference}
    (h : reference ∈ references (locator.slots products)) :
    ∃ p ∈ products, ∃ filename, some filename ∈ p.photoNames ∧
      locator.reference p.id filename = .ok reference := by
  obtain ⟨slot, hslot, hreference⟩ := List.mem_filterMap.1 h
  cases slot with
  | error record => cases hreference
  | ok found =>
    cases hreference
    obtain ⟨p, hp, hplace⟩ := List.mem_flatMap.1 hslot
    obtain ⟨index, hindex, hmade⟩ := List.mem_mapIdx.1 hplace
    obtain ⟨filename, hname, hfound⟩ := of_slot_eq_ok hmade
    exact ⟨p, hp, filename, hname ▸ List.getElem_mem hindex, hfound⟩

/-- References of products lead to the keys of their photos and to no others. -/
theorem blobKey_mem_photoKeys {collection : String} (hlocator : make collection = .ok locator)
    {products : List Product} {reference : PhotoReference}
    (h : reference ∈ references (locator.slots products)) :
    reference.blobKey.value ∈ photoKeys collection products := by
  obtain ⟨p, hp, filename, hname, hreference⟩ := of_mem_references h
  refine ⟨p, hp, filename, hname, ?_⟩
  rw [(values_of_reference hreference).2, value_of_make hlocator]

end Locator

end PhotoArchive
