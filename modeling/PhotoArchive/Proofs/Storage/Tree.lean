import Mathlib.Data.List.Infix
import PhotoArchive.Proofs.Storage.Walking
import PhotoArchive.Storage.Directory

/-!
# Blobs in a tree

A tree keeps some blobs below a place if the files there are theirs, each under the names between the
slashes of its key. Then there is a file to be opened for a key exactly if there is a blob under it.

## Main definitions

- `FileTree.Keeps`, `Directory.Keeps` — a tree keeps blobs below a place, or below a root
- `Directory.CanName` — a key that can name a file below a root
- `FileTree.holding` — a tree made for some blobs
- `FileTree.AreApart` — blobs of which no key leads through the file of another one

## Main statements

- `Directory.Keeps.openFile` — what is opened for a key
- `Directory.keeps_holding` — the tree made for blobs that are apart keeps them

## Design notes

A key that ends in front of a file or behind it is like one under which there is nothing: what stands
there is no file, or it is not a directory.
-/

namespace PhotoArchive

open Text (namesIn)

namespace FileTree

variable {t : FileTree}

/-! ## Blobs below a place -/

/-- The files below a place are those of some blobs, besides them there are only directories. -/
structure Keeps (t : FileTree) (place : List String) (blobs : List (String × Bytes)) : Prop where
  file : ∀ blob ∈ blobs, ∃ id,
    t.node? (place ++ namesIn blob.1) = some (.file id) ∧ t.content id = blob.2
  directory : ∀ blob ∈ blobs, ∀ front back, namesIn blob.1 = front ++ back → front ≠ [] →
    back ≠ [] → t.node? (place ++ front) = some .directory
  only : ∀ names id, t.node? (place ++ names) = some (.file id) →
    ∃ blob ∈ blobs, namesIn blob.1 = names
  noLink : ∀ names target, t.node? (place ++ names) ≠ some (.link target)

theorem mem_of_lookup {blobs : List (String × Bytes)} {key : String} {data : Bytes}
    (h : blobs.lookup key = some data) : (key, data) ∈ blobs := by
  obtain ⟨before, behind, rfl, -⟩ := List.lookup_eq_some_iff.1 h
  exact List.mem_append_right _ List.mem_cons_self

/-- Names lead to the file of the blob whose key they are in, or to no file. -/
theorem Keeps.walk {place : List String} {blobs : List (String × Bytes)} (h : t.Keeps place blobs)
    {key : String} (links : Nat) (hnames : ∀ name ∈ namesIn key, IsName name) :
    (∃ id data, t.walk false links (.inside place) (namesIn key) = .ok (.file id) ∧
      t.content id = data ∧ blobs.lookup key = some data) ∨
    blobs.lookup key = none ∧
      IsNoFile (t.walk false links (.inside place) (namesIn key)) := by
  cases hlookup : blobs.lookup key with
  | some data =>
    have hmem := mem_of_lookup hlookup
    obtain ⟨id, hnode, hcontent⟩ := h.file _ hmem
    have hwalk := walk_to_file links hnames (Text.namesIn_ne_nil key) (h.directory _ hmem) hnode
    exact .inl ⟨id, data, hwalk, hcontent, rfl⟩
  | none =>
    rcases walk_below links h.noLink hnames with ⟨id, -, hnode⟩ | hnone
    · obtain ⟨⟨key', data⟩, hmem, hsame⟩ := h.only _ _ hnode
      obtain rfl : key' = key := Text.namesIn_inj hsame
      have hother := List.lookup_eq_none_iff.1 hlookup _ hmem
      simp at hother
    · exact .inr ⟨rfl, hnone⟩

end FileTree

namespace Directory

/-- The files below a root are those of some blobs. -/
structure Keeps (root : FileName) (t : FileTree) (blobs : List (String × Bytes)) : Prop where
  proper : root.IsProper
  usable : FileName.isUsable root.text = true
  below : ∃ place, t.resolve root.text false = .ok (.directory (.inside place)) ∧
    t.Keeps place blobs

/-- A key whose file name below a root can be encoded and is not too long. None of its segments is a dot
or too long, and they are spelled as the system lists them. -/
structure CanName (root : FileName) (key : Path) : Prop where
  ne_dot : "." ∉ key.parts
  usable : FileName.isUsable (blobName root key).text = true
  part_eq : ∀ part ∈ key.parts, FileName.standard part = part
  part_le : ∀ part ∈ key.parts, FileName.size part ≤ FileTree.maxName
  length_le : FileName.size (blobName root key).text ≤ FileTree.maxFileName

variable {root : FileName} {t : FileTree} {blobs : List (String × Bytes)} {key : Path}

/-- No segment of a path leads upwards or has a slash. -/
theorem CanName.isName (h : CanName root key) {part : String} (hpart : part ∈ key.parts) :
    FileTree.IsName part ∧ '/' ∉ part.toList := by
  obtain ⟨hne, hparent, hslash⟩ := Path.of_mem_parts hpart
  exact ⟨⟨hne, fun hdot => h.ne_dot (hdot ▸ hpart), hparent, h.part_le part hpart,
    h.part_eq part hpart⟩, hslash⟩

theorem CanName.findFile_eq (h : CanName root key) :
    findFile root key t = (t.openFile (blobName root key).text).mapError (openFailure root key) := by
  rw [findFile, FileName.isUsable_iff.1 h.usable]

/-- A file can be opened for a key exactly if there is a blob under it, and holds what the blob
holds. -/
theorem Keeps.openFile (h : Keeps root t blobs) (hfile : key.isDirectory = false)
    (hkey : CanName root key) :
    (∃ id data, blobs.lookup key.value = some data ∧
      t.openFile (blobName root key).text = .ok id ∧ t.content id = data) ∨
    blobs.lookup key.value = none ∧ ∃ fault, t.openFile (blobName root key).text = .error fault ∧
      (fault = .noEntry ∨ fault = .isDirectory ∨ fault = .notDirectory) := by
  obtain ⟨place, hroot, hkeeps⟩ := h.below
  have hlength := hkey.length_le
  rw [blobName] at hlength
  obtain ⟨links, hwalk⟩ := FileTree.resolve_below h.proper hroot
    (fun part hpart => (hkey.isName hpart).1) (fun part hpart => (hkey.isName hpart).2) hlength
  have hnames : ∀ name ∈ namesIn key.value, FileTree.IsName name := fun name hname =>
    (hkey.isName (Path.parts_of_isFile hfile ▸ hname)).1
  rw [Path.parts_of_isFile hfile] at hwalk
  rw [blobName, Path.parts_of_isFile hfile]
  rcases hkeeps.walk links hnames with ⟨id, data, hok, hcontent, hlookup⟩ | ⟨hlookup, hnone⟩
  · exact .inl ⟨id, data, hlookup, by rw [FileTree.openFile, hwalk, hok], hcontent⟩
  · exact .inr ⟨hlookup, FileTree.openFile_of_isNoFile (hwalk ▸ hnone)⟩

end Directory

namespace FileTree

variable {t : FileTree}

/-! ## A tree for some blobs -/

/-- The places of the files of some blobs. -/
def fileNodes (place : List String) (blobs : List (String × Bytes)) :
    List (List String × FileNode) :=
  blobs.zipIdx.map fun (blob, id) => (place ++ namesIn blob.1, .file id)

/-- A place and the directories in it that lead to the files of some blobs, with all above them. -/
def directoryNodes (place : List String) (blobs : List (String × Bytes)) :
    List (List String × FileNode) :=
  (place :: blobs.map fun blob => place ++ (namesIn blob.1).dropLast).flatMap fun names =>
    names.inits.map fun front => (front, .directory)

/-- A tree with the files of some blobs below a place, and with nothing else. -/
def holding (place : List String) (blobs : List (String × Bytes)) : FileTree where
  nodes := fileNodes place blobs ++ directoryNodes place blobs
  contents := blobs.map Prod.snd

theorem mem_of_node? {names : List String} {node : FileNode} (h : t.node? names = some node) :
    (names = [] ∧ node = .directory) ∨ (names, node) ∈ t.nodes := by
  unfold node? at h
  split at h
  · next hempty =>
    cases h
    exact .inl ⟨List.isEmpty_iff.1 hempty, rfl⟩
  · obtain ⟨⟨names', node'⟩, hfind, rfl⟩ := Option.map_eq_some_iff.1 h
    have hsame : names' = names := by simpa using List.find?_some hfind
    exact .inr (hsame ▸ List.mem_of_find?_eq_some hfind)

theorem exists_node? {names : List String} {node : FileNode} (hne : names ≠ [])
    (h : (names, node) ∈ t.nodes) :
    ∃ other, t.node? names = some other ∧ (names, other) ∈ t.nodes := by
  have hsome : (t.node? names).isSome := by
    unfold node?
    rw [if_neg (by simpa using hne), Option.isSome_map, List.find?_isSome]
    exact ⟨_, h, by simp⟩
  obtain ⟨other, hother⟩ := Option.isSome_iff_exists.1 hsome
  refine ⟨other, hother, (mem_of_node? hother).resolve_left fun hnil => hne hnil.1⟩

section Holding

variable {place : List String} {blobs : List (String × Bytes)}

theorem mem_fileNodes {names : List String} {node : FileNode} :
    (names, node) ∈ fileNodes place blobs ↔
      ∃ blob id, blobs[id]? = some blob ∧ names = place ++ namesIn blob.1 ∧ node = .file id := by
  unfold fileNodes
  constructor
  · intro h
    obtain ⟨⟨blob, id⟩, hblob, hsame⟩ := List.mem_map.1 h
    cases hsame
    exact ⟨blob, id, List.mem_zipIdx_iff_getElem?.1 hblob, rfl, rfl⟩
  · rintro ⟨blob, id, hblob, rfl, rfl⟩
    exact List.mem_map.2 ⟨(blob, id), List.mem_zipIdx_iff_getElem?.2 hblob, rfl⟩

theorem mem_directoryNodes {names : List String} {node : FileNode} :
    (names, node) ∈ directoryNodes place blobs ↔
      node = .directory ∧
        (names <+: place ∨ ∃ blob ∈ blobs, names <+: place ++ (namesIn blob.1).dropLast) := by
  simp only [directoryNodes, List.mem_flatMap, List.mem_cons, List.mem_map, List.mem_inits,
    Prod.mk.injEq]
  constructor
  · rintro ⟨_, rfl | ⟨blob, hblob, rfl⟩, _, hfront, rfl, rfl⟩
    · exact ⟨rfl, .inl hfront⟩
    · exact ⟨rfl, .inr ⟨blob, hblob, hfront⟩⟩
  · rintro ⟨rfl, hfront | ⟨blob, hblob, hfront⟩⟩
    · exact ⟨place, .inl rfl, names, hfront, rfl, rfl⟩
    · exact ⟨_, .inr ⟨blob, hblob, rfl⟩, names, hfront, rfl, rfl⟩

/-- No key is that of another blob or leads through its file. -/
def AreApart (blobs : List (String × Bytes)) : Prop :=
  ∀ a ∈ blobs, ∀ b ∈ blobs, namesIn a.1 <+: namesIn b.1 → a = b

theorem keeps_holding (h : AreApart blobs) : (holding place blobs).Keeps place blobs where
  file blob hblob := by
    obtain ⟨id, hid⟩ := List.mem_iff_getElem?.1 hblob
    have hne := Text.namesIn_ne_nil blob.1
    have hpositive : 0 < (namesIn blob.1).length := List.length_pos_iff.2 hne
    have hmem : (place ++ namesIn blob.1, .file id) ∈ fileNodes place blobs :=
      mem_fileNodes.2 ⟨blob, id, hid, rfl, rfl⟩
    obtain ⟨node, hnode, hnodes⟩ := exists_node? (t := holding place blobs) (by simp [hne])
      (List.mem_append_left (directoryNodes place blobs) hmem)
    rcases List.mem_append.1 hnodes with hfile | hdirectory
    · obtain ⟨blob', id', hid', hnames, rfl⟩ := mem_fileNodes.1 hfile
      obtain rfl := h blob hblob blob' (List.mem_of_getElem? hid')
        (by rw [List.append_cancel_left hnames])
      exact ⟨id', hnode, by simp [content, holding, hid']⟩
    · -- A directory in the way would lead to a blob whose key leads through the file.
      obtain ⟨-, hfront | ⟨blob', hblob', hfront⟩⟩ := mem_directoryNodes.1 hdirectory
      · have hlength := hfront.length_le
        rw [List.length_append] at hlength
        omega
      · have hthrough := (List.prefix_append_right_inj place).1 hfront
        obtain rfl := h blob hblob blob' hblob' (hthrough.trans (List.dropLast_prefix _))
        have hlength := hthrough.length_le
        rw [List.length_dropLast] at hlength
        omega
  directory blob hblob front back hsplit hfront hback := by
    have hmem : (place ++ front, .directory) ∈ directoryNodes place blobs := by
      refine mem_directoryNodes.2 ⟨rfl, .inr ⟨blob, hblob, ?_⟩⟩
      rw [hsplit, List.dropLast_append_of_ne_nil hback, ← List.append_assoc]
      exact List.prefix_append _ _
    obtain ⟨node, hnode, hnodes⟩ := exists_node? (t := holding place blobs) (by simp [hfront])
      (List.mem_append_right (fileNodes place blobs) hmem)
    rcases List.mem_append.1 hnodes with hfile | hdirectory
    · -- A file in the way would be that of a blob whose key leads through it.
      obtain ⟨blob', id, hid, hnames, -⟩ := mem_fileNodes.1 hfile
      obtain rfl := List.append_cancel_left hnames
      have hsame := h blob' (List.mem_of_getElem? hid) blob hblob (hsplit ▸ List.prefix_append _ _)
      rw [hsame] at hsplit
      exact absurd (List.self_eq_append_right.1 hsplit) hback
    · rw [hnode, (mem_directoryNodes.1 hdirectory).1]
  only names id hnode := by
    rcases mem_of_node? hnode with ⟨-, ⟨⟩⟩ | hmem
    rcases List.mem_append.1 hmem with hfile | hdirectory
    · obtain ⟨blob, id', hid, hnames, -⟩ := mem_fileNodes.1 hfile
      exact ⟨blob, List.mem_of_getElem? hid, (List.append_cancel_left hnames).symm⟩
    · cases (mem_directoryNodes.1 hdirectory).1
  noLink names target hnode := by
    rcases mem_of_node? hnode with ⟨-, ⟨⟩⟩ | hmem
    rcases List.mem_append.1 hmem with hfile | hdirectory
    · obtain ⟨blob, id, -, -, ⟨⟩⟩ := mem_fileNodes.1 hfile
    · cases (mem_directoryNodes.1 hdirectory).1

/-- The place below which some blobs are held is a directory. -/
theorem resolve_holding {root : FileName} (hproper : root.IsProper) (hslashes : root.slashes = 0)
    (hnames : ∀ name ∈ root.names, IsName name)
    (hlength : FileName.size root.text ≤ maxFileName) :
    (holding root.names blobs).resolve root.text false
      = .ok (.directory (.inside root.names)) := by
  rw [resolve_text hproper hslashes hlength, map_standard hnames]
  refine walk_to_directory maxLinks hnames fun front hfront hne => ?_
  have hmem : (front, .directory) ∈ directoryNodes root.names blobs :=
    mem_directoryNodes.2 ⟨rfl, .inl hfront⟩
  obtain ⟨node, hnode, hnodes⟩ := exists_node? (t := holding root.names blobs) hne
    (List.mem_append_right (fileNodes root.names blobs) hmem)
  rw [List.nil_append, hnode]
  rcases List.mem_append.1 hnodes with hfile | hdirectory
  · obtain ⟨blob, id, -, rfl, -⟩ := mem_fileNodes.1 hfile
    have hlength := hfront.length_le
    have hpositive := List.length_pos_iff.2 (Text.namesIn_ne_nil blob.1)
    rw [List.length_append] at hlength
    omega
  · rw [(mem_directoryNodes.1 hdirectory).1]

end Holding

end FileTree

/-- Blobs that are apart can be kept below any root. -/
theorem Directory.keeps_holding {root : FileName} {blobs : List (String × Bytes)}
    (hproper : root.IsProper) (husable : FileName.isUsable root.text = true)
    (hslashes : root.slashes = 0) (hnames : ∀ name ∈ root.names, FileTree.IsName name)
    (hlength : FileName.size root.text ≤ FileTree.maxFileName) (h : FileTree.AreApart blobs) :
    Keeps root (.holding root.names blobs) blobs where
  proper := hproper
  usable := husable
  below := ⟨root.names, FileTree.resolve_holding hproper hslashes hnames hlength,
    FileTree.keeps_holding h⟩

end PhotoArchive
