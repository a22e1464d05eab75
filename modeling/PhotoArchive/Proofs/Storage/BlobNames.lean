import PhotoArchive.Proofs.Storage.Walking
import PhotoArchive.Storage.Directory

/-!
# File names of blobs

A key is turned into the names between its slashes, and these are put together with the root of a
directory to a new file name, which is opened by its text. None of this leads out of the root: the text
stands for the names of the root, and behind them for the segments of the key.

## Main definitions

- `FileName.IsNormal` — file names as texts stand for them
- `FileName.IsWithin` — a file name in a directory, as far as the names show
- `Directory.Opens` — under which name the blob with a key is opened

## Main statements

- `FileName.ofString_text` — a file name is told by its text
- `Directory.blobName_eq` — the file name of the blob with a key
- `Directory.opens_blobName_isWithin` — it is opened in the root

## Design notes

A text that begins with a slash would be a file name of its own, whatever directory it is looked for in,
and the name `..` leads upwards. Segments of a key are neither. The root may have names `..` itself: they
stay where they are, in front of all segments.
-/

namespace PhotoArchive

/-! ## Slashes in front -/

theorem Text.cut_replicate_append (n : Nat) (cs : List Char) :
    cut (List.replicate n '/' ++ cs) = List.replicate n [] ++ cut cs := by
  induction n with
  | zero => rfl
  | succ n ih =>
    rw [List.replicate_succ, List.cons_append, cut, if_pos rfl, ih, List.replicate_succ]
    rfl

theorem Text.takeWhile_replicate_append (n : Nat) {cs : List Char} (h : cs.head? ≠ some '/') :
    ((List.replicate n '/' ++ cs).takeWhile (· = '/')).length = n := by
  have hcs : cs.takeWhile (· = '/') = [] := by
    cases cs with
    | nil => rfl
    | cons c cs =>
      have hc : c ≠ '/' := fun heq => h (congrArg some heq)
      simp [hc]
  rw [List.takeWhile_append_of_pos (by simp), hcs, List.append_nil, List.length_replicate]

namespace FileName

variable {f : FileName}

/-! ## Normal file names -/

/-- A file name with at most two slashes in front, of which each name says something and has no
slash. -/
structure IsNormal (f : FileName) : Prop where
  slashes_le : f.slashes ≤ 2
  isMeaningful : ∀ name ∈ f.names, isMeaningful name.toList = true
  slash_not_mem : ∀ name ∈ f.names, '/' ∉ name.toList

theorem isNormal_ofString (text : String) : (ofString text).IsNormal where
  slashes_le := by
    simp only [ofString]
    split
    · exact Nat.le_refl 2
    · omega
  isMeaningful := by
    intro name hname
    obtain ⟨piece, hpiece, rfl⟩ := List.mem_map.1 hname
    rw [String.toList_ofList]
    exact (List.mem_filter.1 hpiece).2
  slash_not_mem name hname := (isProper_ofString text name hname).2

theorem IsNormal.isProper (h : f.IsNormal) : f.IsProper := fun name hname =>
  ⟨(isMeaningful_toList.1 (h.isMeaningful name hname)).1, h.slash_not_mem name hname⟩

/-- What is read between the slashes of the names of a normal file name. -/
theorem IsNormal.names_eq (h : f.IsNormal) :
    ((Text.cut (['/'].intercalate (f.names.map String.toList))).filter FileName.isMeaningful).map
      String.ofList = f.names := by
  by_cases hnil : f.names = []
  · rw [hnil]
    rfl
  have hkept : (f.names.map String.toList).filter FileName.isMeaningful
      = f.names.map String.toList := by
    refine List.filter_eq_self.2 fun piece hpiece => ?_
    obtain ⟨name, hname, rfl⟩ := List.mem_map.1 hpiece
    exact h.isMeaningful name hname
  rw [Text.cut_intercalate (by simpa using hnil) h.isProper.slash_not_mem, hkept, List.map_map]
  exact List.map_id'' (fun _ => String.ofList_toList) _

/-- A normal file name is told by its text. -/
theorem ofString_text (h : f.IsNormal) : ofString f.text = f := by
  obtain ⟨slashes, names⟩ := f
  have hnames := h.names_eq
  have hhead := h.isProper.head?_ne
  have hslashes : slashes ≤ 2 := h.slashes_le
  simp only [text]
  split
  · -- Nothing at all is a single dot.
    next hempty =>
    rw [List.isEmpty_iff, List.append_eq_nil_iff] at hempty
    obtain ⟨hnone, hnothing⟩ := hempty
    simp only [hnothing] at hnames
    obtain rfl : slashes = 0 := by simpa using hnone
    obtain rfl : [] = names := hnames
    decide
  · simp only [ofString, String.toList_ofList, Text.takeWhile_replicate_append slashes hhead,
      Text.cut_replicate_append, List.filter_append, List.map_append, hnames]
    have hdropped : (List.replicate slashes []).filter FileName.isMeaningful = [] := by
      simp [FileName.isMeaningful]
    rw [hdropped, List.map_nil, List.nil_append]
    congr 1
    split <;> omega

/-! ## Within a directory -/

/-- A file name that begins like that of a directory, and does not lead upwards behind it. -/
structure IsWithin (f directory : FileName) : Prop where
  slashes_eq : f.slashes = directory.slashes
  exists_names : ∃ names, f.names = directory.names ++ names ∧ ".." ∉ names

end FileName

namespace Directory

variable {root : FileName} {key : Path}

/-- The segments of a key that say something: all but single dots. -/
def meaningfulParts (key : Path) : List String := key.parts.filter (· ≠ ".")

theorem of_mem_meaningfulParts {part : String} (h : part ∈ meaningfulParts key) :
    part ≠ "" ∧ part ≠ "." ∧ part ≠ ".." ∧ '/' ∉ part.toList := by
  obtain ⟨hpart, hdot⟩ := List.mem_filter.1 h
  obtain ⟨hne, hparent, hslash⟩ := Path.of_mem_parts hpart
  exact ⟨hne, by simpa using hdot, hparent, hslash⟩

/-- The blob with a key has the names of the root, and behind them the segments of the key that say
something. -/
theorem blobName_eq (root : FileName) (key : Path) :
    blobName root key = { root with names := root.names ++ meaningfulParts key } := by
  have hslash : ∀ part ∈ key.parts, '/' ∉ part.toList := fun part hpart =>
    (Path.of_mem_parts hpart).2.2
  -- Segments are not empty, so only single dots say nothing.
  have hmeaningful : key.parts.filter (fun part => FileName.isMeaningful part.toList)
      = meaningfulParts key := by
    refine List.filter_congr fun part hpart => ?_
    rw [Bool.eq_iff_iff, FileName.isMeaningful_toList, decide_eq_true_iff]
    exact and_iff_right (Path.of_mem_parts hpart).1
  rw [blobName, FileName.below_eq hslash, hmeaningful]

theorem isNormal_blobName (h : root.IsNormal) (key : Path) : (blobName root key).IsNormal := by
  rw [blobName_eq]
  refine ⟨h.slashes_le, fun name hname => ?_, fun name hname => ?_⟩ <;>
    rcases List.mem_append.1 hname with hroot | hpart
  · exact h.isMeaningful name hroot
  · obtain ⟨hne, hdot, -, -⟩ := of_mem_meaningfulParts hpart
    exact FileName.isMeaningful_toList.2 ⟨hne, hdot⟩
  · exact h.slash_not_mem name hroot
  · exact (of_mem_meaningfulParts hpart).2.2.2

theorem blobName_isWithin (root : FileName) (key : Path) :
    (blobName root key).IsWithin root := by
  rw [blobName_eq]
  exact ⟨rfl, _, rfl, fun hparent => (of_mem_meaningfulParts hparent).2.2.1 rfl⟩

/-! ## Opening blobs -/

/-- The blob with a key is opened under a name: if there is a file of that name, it is what the new
reader reads, and else, or if no file can have the name, there is no reader. -/
def Opens (root : FileName) (key : Path) (name : String) : Prop :=
  ∀ (session : SessionId) (s : State),
    match FileName.refusal? name, s.tree.openFile name with
    | some failure, _ => (openBlob root session key).run s = (.error failure, s)
    | none, .error fault =>
      (openBlob root session key).run s = (.error (openFailure root key fault), s)
    | none, .ok file => ∃ blob s', (openBlob root session key).run s = (.ok blob, s') ∧
        (s'.reader? blob.reader).map Reader.file = some file

theorem opens_blobName (root : FileName) (key : Path) :
    Opens root key (blobName root key).text := by
  intro session s
  cases hrefusal : FileName.refusal? (blobName root key).text with
  | some failure =>
    show openBlob root session key s = _
    simp only [openBlob, findFile, hrefusal]
  | none =>
    have hfind : findFile root key s.tree
        = (s.tree.openFile (blobName root key).text).mapError (openFailure root key) := by
      rw [findFile, hrefusal]
    cases hopen : s.tree.openFile (blobName root key).text with
    | error fault =>
      rw [hopen] at hfind
      show openBlob root session key s = _
      rw [openBlob, hfind]
      rfl
    | ok file =>
      rw [hopen] at hfind
      refine ⟨(s.addReader session key.value file).1, (s.addReader session key.value file).2, ?_, ?_⟩
      · show openBlob root session key s = _
        rw [openBlob, hfind]
        rfl
      · simp [State.addReader, State.reader?]

/-- Whatever the root of a directory is and whatever the key, the blob with this key is opened under a
text that stands for the slashes and the names of the root, and then for the segments of the key other
than single dots. None of these is empty, leads upwards or has a slash, so the file name is the root, or
within it. -/
theorem opens_blobName_isWithin (root : String) (key : Path) :
    ∃ name : String,
      Opens (.ofString root) key name ∧
      FileName.ofString name
        = { FileName.ofString root with
            names := (FileName.ofString root).names ++ key.parts.filter (· ≠ ".") } ∧
      (∀ part ∈ key.parts, part ≠ "" ∧ part ≠ ".." ∧ '/' ∉ part.toList) ∧
      (FileName.ofString name).IsWithin (.ofString root) := by
  have hnormal := isNormal_blobName (FileName.isNormal_ofString root) key
  refine ⟨_, opens_blobName (.ofString root) key, ?_, fun part hpart => Path.of_mem_parts hpart, ?_⟩
  · rw [FileName.ofString_text hnormal, blobName_eq]
    rfl
  · rw [FileName.ofString_text hnormal]
    exact blobName_isWithin (.ofString root) key

end Directory

end PhotoArchive
