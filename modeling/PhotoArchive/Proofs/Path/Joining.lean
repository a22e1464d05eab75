import PhotoArchive.Proofs.Locator.Identity
import PhotoArchive.Proofs.Path.Spelling

/-!
# The algebra of paths

Joining a path to a directory puts its segments behind those of the directory. That is associative,
also where it fails, and the root is neutral. A path that is not the root is its name, joined to its
parent.

## Main statements

- `Path.join_eq_ok_iff` — what joining gives
- `Path.parent_joinText_name` — a path is put together again from its parent and its name
- `Path.join_laws` — all of this for any three paths
-/

namespace PhotoArchive.Path

variable {p q r : Path}

/-! ## Joining -/

theorem join_of_file (h : p.isDirectory = false) (q : Path) : p.join q = .error .joinToFile := by
  rw [join, if_neg (by simp [h])]

/-- The text of a directory and that of a path, one behind the other, spell the segments of both. -/
theorem spelled_append (hp : p.isDirectory = true) (q : Path) :
    spelled (p.parts ++ q.parts) q.isDirectory = p.value ++ q.value := by
  have hfront := toList_spelled_true p.parts
  rw [← hp, spelled_parts p] at hfront
  rw [← String.toList_inj, String.toList_append, hfront, ← spelled_parts q]
  cases hq : q.isDirectory with
  | true =>
    rw [toList_spelled_true, toList_spelled_true, List.map_append, Text.closedText_append]
  | false =>
    -- A file has a last segment, which has no slash behind it.
    obtain ⟨front, last, hparts⟩ : ∃ front last, q.parts = front ++ [last] := by
      rcases List.eq_nil_or_concat q.parts with hnil | ⟨front, last, hconcat⟩
      · exact absurd (isDirectory_of_parts_nil hnil) (by simp [hq])
      · exact ⟨front, last, by rw [hconcat, List.concat_eq_append]⟩
    rw [hparts, ← List.append_assoc, toList_spelled_false, toList_spelled_false, List.map_append,
      Text.closedText_append, List.append_assoc]

/-- Whatever is joined to a directory gives a path. -/
theorem exists_join_of_directory (hp : p.isDirectory = true) (q : Path) :
    ∃ r, p.join q = .ok r ∧ r.parts = p.parts ++ q.parts ∧ r.isDirectory = q.isDirectory := by
  have hall : ∀ part ∈ p.parts ++ q.parts, IsPart part := by
    intro part hpart
    rcases List.mem_append.1 hpart with hmem | hmem
    · exact isPart_of_mem hmem
    · exact isPart_of_mem hmem
  have hroot : p.parts ++ q.parts = [] → q.isDirectory = true := fun hnil =>
    isDirectory_of_parts_nil (List.append_eq_nil_iff.1 hnil).2
  obtain ⟨r, hr, hread⟩ := exists_spelled hall hroot
  rw [spelled_append hp] at hr
  exact ⟨r, by rw [join, if_pos hp, hr], hread⟩

/-- Joining gives the path that has the segments of both and is a directory if the second is one. -/
theorem join_eq_ok_iff :
    p.join q = .ok r ↔
      p.isDirectory = true ∧ r.parts = p.parts ++ q.parts ∧ r.isDirectory = q.isDirectory := by
  constructor
  · intro h
    have hp := isDirectory_of_join h
    obtain ⟨r', hr', hread⟩ := exists_join_of_directory hp q
    obtain rfl : r' = r := Except.ok.inj (hr'.symm.trans h)
    exact ⟨hp, hread⟩
  · rintro ⟨hp, hparts, hdirectory⟩
    obtain ⟨r', hr', hparts', hdirectory'⟩ := exists_join_of_directory hp q
    rw [hr', eq_of_parts (hparts'.trans hparts.symm) (hdirectory'.trans hdirectory.symm)]

/-- How three paths are joined does not matter, nor does it matter for the failure. -/
theorem join_bind_join (p q r : Path) :
    (p.join q).bind (·.join r) = (q.join r).bind (p.join ·) := by
  cases hp : p.isDirectory with
  | false =>
    rw [join_of_file hp]
    cases hqr : q.join r with
    | ok s => exact (join_of_file hp s).symm
    | error e =>
      cases hq : q.isDirectory with
      | false =>
        rw [join_of_file hq] at hqr
        cases hqr
        rfl
      | true =>
        obtain ⟨s, hs, -⟩ := exists_join_of_directory hq r
        rw [hs] at hqr
        cases hqr
  | true =>
    obtain ⟨s, hs, hsParts, hsDirectory⟩ := exists_join_of_directory hp q
    rw [hs]
    show s.join r = _
    cases hq : q.isDirectory with
    | false => rw [join_of_file hq, join_of_file (hsDirectory.trans hq)]; rfl
    | true =>
      obtain ⟨t, ht, htParts, htDirectory⟩ := exists_join_of_directory hq r
      obtain ⟨u, hu, huParts, huDirectory⟩ := exists_join_of_directory hp t
      rw [ht]
      show s.join r = p.join t
      rw [hu, join_eq_ok_iff]
      refine ⟨hsDirectory.trans hq, ?_, huDirectory.trans htDirectory⟩
      rw [huParts, htParts, hsParts, List.append_assoc]

theorem root_join (p : Path) : root.join p = .ok p :=
  join_eq_ok_iff.2 ⟨rfl, rfl, rfl⟩

theorem join_root (h : p.isDirectory = true) : p.join root = .ok p :=
  join_eq_ok_iff.2 ⟨h, (List.append_nil _).symm, h⟩

/-! ## Parent and name -/

theorem eq_root_of_parts_nil (h : p.parts = []) : p = root :=
  eq_of_parts h (isDirectory_of_parts_nil h)

theorem parts_parent (p : Path) : p.parent.parts = p.parts.dropLast := by
  have hslash : ∀ piece ∈ (Text.segments p.value.toList).dropLast, piece ≠ [] ∧ '/' ∉ piece := by
    intro piece hpiece
    have hsegment := isSegment_of_mem (List.dropLast_subset _ hpiece)
    exact ⟨hsegment.1, hsegment.slash_not_mem⟩
  rw [parts, parent, String.toList_ofList, Text.segments_closedText hslash, parts, List.map_dropLast]

/-- Other than the root, every path has a name, behind the segments of its parent. -/
theorem parts_parent_concat (h : p ≠ root) : p.parent.parts ++ [p.name] = p.parts := by
  have hne : p.parts ≠ [] := fun hnil => h (eq_root_of_parts_nil hnil)
  rw [parts_parent, name, List.getLastD_eq_getLast?, List.getLast?_eq_getLast_of_ne_nil hne]
  exact List.dropLast_append_getLast hne

/-- What joins the parent of a path and its name again: the name, with a slash behind it if the path is
a directory. -/
def nameText (p : Path) : String := p.name ++ if p.isDirectory then "/" else ""

theorem parent_joinText_nameText (h : p ≠ root) : p.parent.joinText p.nameText = .ok p := by
  have hsplit := parts_parent_concat h
  have hname : ∀ part ∈ [p.name], IsPart part := by
    intro part hpart
    apply isPart_of_mem (p := p)
    rw [← hsplit]
    exact List.mem_append_right _ hpart
  have hroot : [p.name] = [] → p.isDirectory = true := fun hnil => absurd hnil (List.cons_ne_nil _ _)
  obtain ⟨q, hq, hparts, hdirectory⟩ := exists_spelled hname hroot
  have htext : spelled [p.name] p.isDirectory = p.nameText := by
    rw [spelled, if_neg (List.cons_ne_nil _ _), String.intercalate_singleton, nameText]
  rw [htext] at hq
  rw [joinText, if_pos p.isDirectory_parent, hq]
  apply join_eq_ok_iff.2
  rw [hparts, hsplit]
  exact ⟨p.isDirectory_parent, rfl, hdirectory.symm⟩

/-- A file is determined by its parent and its name. -/
theorem eq_of_parent_of_name (hp : p.isDirectory = false) (hq : q.isDirectory = false)
    (hparent : p.parent = q.parent) (hname : p.name = q.name) : p = q := by
  have hnotRoot {f : Path} (hf : f.isDirectory = false) : f ≠ root := by
    rintro rfl
    cases hf
  apply eq_of_parts _ (hp.trans hq.symm)
  rw [← parts_parent_concat (hnotRoot hp), ← parts_parent_concat (hnotRoot hq), hparent, hname]

/-- Joining fails for files only, and else puts segments behind segments; it is associative, also where
it fails; the root is neutral; and a path is put together again from its parent and its name. -/
theorem join_laws (p q r : Path) :
    ((∃ e, p.join q = .error e) ↔ p.isDirectory = false) ∧
    (∀ s, p.join q = .ok s → s.parts = p.parts ++ q.parts ∧ s.isDirectory = q.isDirectory) ∧
    (p.join q).bind (·.join r) = (q.join r).bind (p.join ·) ∧
    (p.isDirectory = true → root.join p = .ok p ∧ p.join root = .ok p) ∧
    (p ≠ root → p.parent.isDirectory = true ∧
      p.parent.joinText (p.name ++ if p.isDirectory then "/" else "") = .ok p) := by
  refine ⟨⟨?_, fun h => ⟨_, join_of_file h q⟩⟩, fun s h => (join_eq_ok_iff.1 h).2,
    join_bind_join p q r, fun h => ⟨root_join p, join_root h⟩,
    fun h => ⟨p.isDirectory_parent, parent_joinText_nameText h⟩⟩
  rintro ⟨e, he⟩
  cases hp : p.isDirectory with
  | false => rfl
  | true =>
    obtain ⟨s, hs, -⟩ := exists_join_of_directory hp q
    rw [hs] at he
    cases he

end PhotoArchive.Path
