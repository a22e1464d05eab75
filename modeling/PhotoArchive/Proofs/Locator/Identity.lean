import PhotoArchive.Proofs.Locator.Slots

/-!
# Photos are told apart

The id of a product may have slashes in it, the name of a photo has none. So the last slash of an
entry name shows where the id ends, and photos of different products never share an entry name or a
key.

## Main statements

- `Text.append_separator_inj` — a text is cut at its last separator in one way only
- `Locator.join_entryName` — the key is the entry name below the collection
- `Locator.located_eq_iff` — equal names, equal keys and equal photos are the same thing
-/

namespace PhotoArchive

namespace Text

/-- Behind a separator that is the last one in its text, no other one stands. -/
theorem eq_nil_of_separator_cons {separator : Char} {front back rest : List Char}
    (hrest : separator ∉ rest) (h : separator :: rest = front ++ separator :: back) : front = [] := by
  cases front with
  | nil => rfl
  | cons c front =>
    obtain ⟨-, rfl⟩ := List.cons.inj h
    exact absurd (List.mem_append_right _ List.mem_cons_self) hrest

/-- The last separator of a text cuts it in two in one way only. -/
theorem append_separator_inj {separator : Char} {front front' back back' : List Char}
    (hback : separator ∉ back) (hback' : separator ∉ back')
    (h : front ++ separator :: back = front' ++ separator :: back') :
    front = front' ∧ back = back' := by
  rcases List.append_eq_append_iff.1 h with ⟨middle, rfl, hmiddle⟩ | ⟨middle, rfl, hmiddle⟩
  · obtain rfl := eq_nil_of_separator_cons hback hmiddle
    exact ⟨(List.append_nil front).symm, List.tail_eq_of_cons_eq hmiddle⟩
  · obtain rfl := eq_nil_of_separator_cons hback' hmiddle
    exact ⟨List.append_nil front', (List.tail_eq_of_cons_eq hmiddle).symm⟩

end Text

/-! ## Joined paths -/

namespace Path

variable {p other q : Path}

theorem isDirectory_of_join (h : p.join other = .ok q) : p.isDirectory = true := by
  unfold join at h
  by_cases hp : p.isDirectory = true
  · exact hp
  · rw [if_neg hp] at h
    cases h

/-- Joining paths puts the segments of one behind those of the other. -/
theorem parts_of_join (h : p.join other = .ok q) : q.parts = p.parts ++ other.parts := by
  -- The text of a directory is closed: no segment goes on in what is put behind it.
  obtain ⟨pieces, hpieces, htext⟩ := exists_pieces (isDirectory_of_join h)
  have hslash : ∀ piece ∈ pieces, piece ≠ [] ∧ '/' ∉ piece := fun piece hpiece =>
    ⟨(hpieces piece hpiece).1, (hpieces piece hpiece).slash_not_mem⟩
  have hsegments : Text.segments p.value.toList = pieces := by
    rw [htext, Text.segments_closedText hslash]
  have hfilter : pieces.filter (!·.isEmpty) = pieces :=
    List.filter_eq_self.2 fun piece hpiece => by simpa using (hslash piece hpiece).1
  rw [parts, parts, parts, value_of_join h, String.toList_append, hsegments, htext, Text.segments,
    Text.cut_closedText_append fun piece hpiece => (hslash piece hpiece).2, List.filter_append,
    hfilter, List.map_append]
  rfl

end Path

namespace Locator

variable {locator : Locator} {productId productId' name name' : String}
  {reference reference' : PhotoReference}

/-! ## What a located photo shows -/

/-- Photos are located below a directory only, and only under names without a slash. -/
theorem of_reference_eq_ok (h : locator.reference productId name = .ok reference) :
    locator.collection.isDirectory = true ∧ '/' ∉ name.toList := by
  unfold Locator.reference at h
  by_cases hslash : name.toList.contains '/' = true
  · rw [if_pos hslash] at h
    cases h
  rw [if_neg hslash] at h
  obtain ⟨directory, -, h⟩ := of_bind_eq_ok h
  obtain ⟨entryName, -, h⟩ := of_bind_eq_ok h
  obtain ⟨below, hbelow, -⟩ := of_bind_eq_ok h
  exact ⟨Path.isDirectory_of_join hbelow, by rwa [List.contains_iff_mem] at hslash⟩

/-- The key of a located photo is its entry name below the collection. -/
theorem join_entryName (h : locator.reference productId name = .ok reference) :
    locator.collection.join reference.entryName = .ok reference.blobKey := by
  obtain ⟨hentry, hkey⟩ := values_of_reference h
  rw [Path.join, if_pos (of_reference_eq_ok h).1, Path.ofString_eq_ok_iff, hentry, hkey,
    String.append_assoc, String.append_assoc, String.append_assoc]

/-- The entry name of a located photo shows the id of its product and its file name. -/
theorem eq_of_entryName_eq (h : locator.reference productId name = .ok reference)
    (h' : locator.reference productId' name' = .ok reference')
    (heq : reference.entryName = reference'.entryName) : productId = productId' ∧ name = name' := by
  have hvalue := congrArg Path.value heq
  rw [(values_of_reference h).1, (values_of_reference h').1, ← String.toList_inj] at hvalue
  simp only [String.toList_append, List.append_assoc] at hvalue
  -- File names have no slash, so the last slash stands between the id and the file name.
  obtain ⟨hid, hname⟩ := Text.append_separator_inj (of_reference_eq_ok h).2 (of_reference_eq_ok h').2
    hvalue
  exact ⟨String.toList_inj.1 hid, String.toList_inj.1 hname⟩

/-- Below one collection, equal keys come from equal entry names. -/
theorem entryName_eq_of_blobKey_eq (h : locator.reference productId name = .ok reference)
    (h' : locator.reference productId' name' = .ok reference')
    (heq : reference.blobKey = reference'.blobKey) :
    reference.entryName = reference'.entryName := by
  have hvalue : locator.collection.value ++ reference.entryName.value
      = locator.collection.value ++ reference'.entryName.value := by
    rw [← Path.value_of_join (join_entryName h), ← Path.value_of_join (join_entryName h'), heq]
  exact Path.ext (String.append_right_inj _ |>.1 hvalue)

/-! ## Different photos -/

/-- Of two places that give references, the key is the entry name below the collection, and the entry
names are equal exactly if the photos are the same, that is, of products with the same id and with the
same file name. So are the keys. -/
theorem located_eq_iff {index index' : Nat}
    (h : locator.slot productId index (some name) = .ok reference)
    (h' : locator.slot productId' index' (some name') = .ok reference') :
    locator.collection.join reference.entryName = .ok reference.blobKey ∧
      (reference.entryName = reference'.entryName ↔ productId = productId' ∧ name = name') ∧
      (reference.blobKey = reference'.blobKey ↔ productId = productId' ∧ name = name') ∧
      (reference.blobKey = reference'.blobKey ↔ reference.entryName = reference'.entryName) := by
  obtain ⟨_, hsome, hlocated⟩ := of_slot_eq_ok h
  obtain rfl := Option.some.inj hsome
  obtain ⟨_, hsome', hlocated'⟩ := of_slot_eq_ok h'
  obtain rfl := Option.some.inj hsome'
  have hsame : productId = productId' ∧ name = name' → reference = reference' := by
    rintro ⟨rfl, rfl⟩
    exact Except.ok.inj (hlocated.symm.trans hlocated')
  have hentry := eq_of_entryName_eq hlocated hlocated'
  have hkey := entryName_eq_of_blobKey_eq hlocated hlocated'
  refine ⟨join_entryName hlocated, ⟨hentry, fun hphoto => ?_⟩, ⟨fun heq => hentry (hkey heq),
    fun hphoto => ?_⟩, ⟨hkey, fun heq => ?_⟩⟩
  · rw [hsame hphoto]
  · rw [hsame hphoto]
  · rw [hsame (hentry heq)]

/-- A locator of photos. -/
def sampleLocator : Locator := { collection := ⟨"products/", by decide⟩ }

theorem located_eq_iff_sample :
    ∃ reference reference' : PhotoReference,
      sampleLocator.slot "p/q" 0 (some "a.jpg") = .ok reference ∧
      sampleLocator.slot "p" 1 (some "q") = .ok reference' ∧
      reference.entryName.value = "p/q/a.jpg" ∧ reference'.entryName.value = "p/q" ∧
      sampleLocator.collection.join reference.entryName = .ok reference.blobKey ∧
      reference.entryName ≠ reference'.entryName ∧ reference.blobKey ≠ reference'.blobKey := by
  have h : sampleLocator.slot "p/q" 0 (some "a.jpg") = .ok _ := rfl
  have h' : sampleLocator.slot "p" 1 (some "q") = .ok _ := rfl
  obtain ⟨hjoin, hentry, hkey, -⟩ := located_eq_iff h h'
  have hother : ¬ ("p/q" = "p" ∧ "a.jpg" = "q") := by decide
  exact ⟨_, _, h, h', rfl, rfl, hjoin, mt hentry.1 hother, mt hkey.1 hother⟩

end Locator

end PhotoArchive
