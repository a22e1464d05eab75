import PhotoArchive.Proofs.Path.FileName
import PhotoArchive.Storage.FileTree

/-!
# Walking through a tree

A file name leads from the working directory through the names between its slashes. Where there are no
links, a walk goes on from name to name: it ends at a file that stands under these names, or at none.

## Main definitions

- `Text.namesIn` — the names between the slashes of a text
- `FileTree.IsName` — a name that leads to what stands under it
- `FileTree.IsNoFile` — a walk that ends at no file
- `FileName.IsProper` — the names of a file name are not empty and have no slash

## Main statements

- `FileTree.exists_walk_append` — a walk that has come to a directory goes on from there
- `FileTree.walk_below`, `FileTree.walk_to_file`, `FileTree.walk_to_directory` — walks without links
- `FileTree.resolve_below` — a file name below a root

## Design notes

The root itself may be reached through links, and the number of links that may still be followed then
is left open: where there are no more links, it does not matter.
-/

namespace PhotoArchive

/-! ## Names between slashes -/

namespace Text

/-- A text is its pieces with slashes in between. -/
theorem intercalate_cut (cs : List Char) : ['/'].intercalate (cut cs) = cs := by
  induction cs with
  | nil => rfl
  | cons c cs ih =>
    by_cases hc : c = '/'
    · obtain ⟨piece, pieces, hcut⟩ := List.exists_cons_of_ne_nil (cut_ne_nil cs)
      rw [hcut] at ih
      simp only [cut, hc, if_true, hcut, List.intercalate_cons_cons, ih]
      rfl
    · obtain ⟨piece, pieces, hcut, hcons⟩ := cut_cons_of_ne hc cs
      rw [hcut] at ih
      rw [hcons, ← ih]
      cases pieces with
      | nil => rfl
      | cons next pieces => simp [List.intercalate_cons_cons]

theorem cut_intercalate {pieces : List (List Char)} (hne : pieces ≠ [])
    (h : ∀ piece ∈ pieces, '/' ∉ piece) : cut (['/'].intercalate pieces) = pieces := by
  induction pieces with
  | nil => exact absurd rfl hne
  | cons piece rest ih =>
    have hpiece := h piece List.mem_cons_self
    cases rest with
    | nil =>
      rw [List.intercalate_singleton]
      exact cut_of_not_mem hpiece
    | cons next rest =>
      have hrest := ih (List.cons_ne_nil _ _) fun q hq => h q (List.mem_cons_of_mem _ hq)
      rw [List.intercalate_cons_cons, List.append_assoc, List.singleton_append,
        cut_append_slash hpiece, hrest]

/-- The names between the slashes of a text. -/
def namesIn (text : String) : List String := (cut text.toList).map String.ofList

theorem namesIn_ne_nil (text : String) : namesIn text ≠ [] := by
  simp [namesIn, cut_ne_nil]

/-- The names between its slashes tell a text. -/
theorem namesIn_inj {text other : String} (h : namesIn text = namesIn other) : text = other := by
  have hcut : cut text.toList = cut other.toList :=
    (List.map_inj_right fun _ _ => String.ofList_inj.1).1 h
  have hlist := congrArg (List.intercalate ['/']) hcut
  rw [intercalate_cut, intercalate_cut] at hlist
  exact String.toList_inj.1 hlist

end Text

open Text (namesIn)

/-- The segments of a file are the names between its slashes. -/
theorem Path.parts_of_isFile {p : Path} (h : p.isDirectory = false) : p.parts = namesIn p.value := by
  have hpieces := (Path.isSafeFileName_value h).pieces
  have hsegments : Text.segments p.value.toList = Text.cut p.value.toList :=
    List.filter_eq_self.2 fun piece hpiece => by simpa using (hpieces piece hpiece).1
  rw [Path.parts, hsegments, namesIn]

namespace FileTree

variable {t : FileTree}

/-! ## Walking -/

theorem absent_ne_directory {place place' : Place} {name : String} {rest : List String} :
    absent place name rest ≠ .ok (.directory place') := by
  unfold absent
  split <;> simp

/-- A walk that has come to a directory goes on from there. -/
theorem exists_walk_append {links : Nat} {start place : Place} {names : List String}
    (h : t.walk false links start names = .ok (.directory place)) :
    ∃ links', ∀ later, t.walk false links start (names ++ later)
      = t.walk false links' place later := by
  fun_induction walk t false links start names with
  | case1 links start =>
    cases h
    exact ⟨links, fun _ => rfl⟩
  | case2 links start name rest hskip ih =>
    obtain ⟨links', hlater⟩ := ih h
    exact ⟨links', fun later => by
      rw [List.cons_append, walk.eq_def]
      simp only [hskip, if_true]
      exact hlater later⟩
  | case3 links rest names hname ih =>
    obtain ⟨links', hlater⟩ := ih h
    exact ⟨links', fun later => by
      rw [List.cons_append, walk.eq_def]
      exact hlater later⟩
  | case4 links rest start hplace hname ih =>
    obtain ⟨links', hlater⟩ := ih h
    refine ⟨links', fun later => ?_⟩
    rw [List.cons_append, walk.eq_def]
    cases start with
    | inside names => exact absurd rfl (hplace names)
    | root | outside => exact hlater later
  | case8 links name rest hname hparent hcreating hlength hsystem ih =>
    obtain ⟨links', hlater⟩ := ih h
    exact ⟨links', fun later => by
      rw [List.cons_append, walk, if_neg hname, if_neg hparent, Bool.false_and,
        if_neg Bool.false_ne_true, if_neg hlength]
      simp only [hsystem, if_true]
      exact hlater later⟩
  | case11 links name rest hname hparent hcreating hlength names hnode ih =>
    obtain ⟨links', hlater⟩ := ih h
    exact ⟨links', fun later => by
      rw [List.cons_append, walk, if_neg hname, if_neg hparent, Bool.false_and,
        if_neg Bool.false_ne_true, if_neg hlength]
      simp only [hnode]
      exact hlater later⟩
  | case15 name rest hname hparent hcreating hlength names target hnode links start ih =>
    obtain ⟨links', hlater⟩ := ih h
    exact ⟨links', fun later => by
      rw [List.cons_append, walk, if_neg hname, if_neg hparent, Bool.false_and,
        if_neg Bool.false_ne_true, if_neg hlength]
      simp only [hnode, ← List.append_assoc]
      exact hlater later⟩
  | case7 | case9 | case10 => exact absurd h absent_ne_directory
  | case5 | case6 | case12 | case13 | case14 => cases h

/-- A name that leads from a directory to what stands there under it. -/
structure IsName (name : String) : Prop where
  ne_empty : name ≠ ""
  ne_dot : name ≠ "."
  ne_parent : name ≠ ".."
  length_le : FileName.size name ≤ maxName
  standard_eq : FileName.standard name = name

theorem map_standard {names : List String} (h : ∀ name ∈ names, IsName name) :
    names.map FileName.standard = names :=
  (List.map_congr_left fun name hname => (h name hname).standard_eq).trans (List.map_id' names)

section Step

variable {links : Nat} {place : List String} {name : String} {rest : List String}

theorem walk_of_none (h : IsName name) (hnode : t.node? (place ++ [name]) = none) :
    t.walk false links (.inside place) (name :: rest) = absent (.inside place) name rest := by
  rw [walk]
  simp [h.ne_empty, h.ne_dot, h.ne_parent, Nat.not_lt.2 h.length_le, hnode]

theorem walk_of_directory (h : IsName name) (hnode : t.node? (place ++ [name]) = some .directory) :
    t.walk false links (.inside place) (name :: rest)
      = t.walk false links (.inside (place ++ [name])) rest := by
  rw [walk]
  simp [h.ne_empty, h.ne_dot, h.ne_parent, Nat.not_lt.2 h.length_le, hnode]

theorem walk_of_file {id : Nat} (h : IsName name)
    (hnode : t.node? (place ++ [name]) = some (.file id)) :
    t.walk false links (.inside place) (name :: rest)
      = if rest.isEmpty then .ok (.file id) else .error .notDirectory := by
  rw [walk]
  simp [h.ne_empty, h.ne_dot, h.ne_parent, Nat.not_lt.2 h.length_le, hnode]

end Step

/-- A walk ends at what is no file, or at nothing. -/
def IsNoFile : Except FileFault Target → Prop
  | .ok (.file _) => False
  | .ok _ => True
  | .error fault => fault = .noEntry ∨ fault = .notDirectory

/-- Where a walk ends at no file, nothing can be opened. -/
theorem openFile_of_isNoFile {name : String} (h : IsNoFile (t.resolve name false)) :
    ∃ fault, t.openFile name = .error fault ∧
      (fault = .noEntry ∨ fault = .isDirectory ∨ fault = .notDirectory) := by
  unfold openFile
  rcases hresolve : t.resolve name false with fault | target
  · rw [hresolve] at h
    exact ⟨fault, rfl, h.imp_right .inr⟩
  · rw [hresolve] at h
    cases target with
    | directory place => exact ⟨.isDirectory, rfl, .inr (.inl rfl)⟩
    | missing place name => exact ⟨.noEntry, rfl, .inl rfl⟩
    | file id => exact h.elim

theorem isNoFile_absent (place : Place) (name : String) (rest : List String) :
    IsNoFile (absent place name rest) := by
  unfold absent
  split
  · exact trivial
  · exact .inl rfl

/-- Where there are no links, a walk ends at a file that stands under its names, or at none. -/
theorem walk_below {place names : List String} (links : Nat)
    (hlinks : ∀ names target, t.node? (place ++ names) ≠ some (.link target))
    (hnames : ∀ name ∈ names, IsName name) :
    (∃ id, t.walk false links (.inside place) names = .ok (.file id) ∧
      t.node? (place ++ names) = some (.file id)) ∨
    IsNoFile (t.walk false links (.inside place) names) := by
  induction names generalizing place with
  | nil =>
    right
    rw [walk]
    trivial
  | cons name rest ih =>
    have hname := hnames name List.mem_cons_self
    cases hnode : t.node? (place ++ [name]) with
    | none =>
      rw [walk_of_none hname hnode]
      exact .inr (isNoFile_absent _ name rest)
    | some node =>
      cases node with
      | directory =>
        have hbelow : ∀ names target, t.node? (place ++ [name] ++ names) ≠ some (.link target) := by
          intro names target
          rw [List.append_assoc]
          exact hlinks ([name] ++ names) target
        have hrest := ih hbelow fun other hother => hnames other (List.mem_cons_of_mem _ hother)
        rw [List.append_assoc] at hrest
        rw [walk_of_directory hname hnode]
        exact hrest
      | file id =>
        rw [walk_of_file hname hnode]
        cases rest with
        | nil => exact .inl ⟨id, rfl, hnode⟩
        | cons next rest => exact .inr (.inr rfl)
      | link target => exact absurd hnode (hlinks [name] target)

/-- A walk through directories ends at the file behind them. -/
theorem walk_to_file {place names : List String} {id : Nat} (links : Nat)
    (hnames : ∀ name ∈ names, IsName name) (hne : names ≠ [])
    (hdirectories : ∀ front back, names = front ++ back → front ≠ [] → back ≠ [] →
      t.node? (place ++ front) = some .directory)
    (hfile : t.node? (place ++ names) = some (.file id)) :
    t.walk false links (.inside place) names = .ok (.file id) := by
  induction names generalizing place with
  | nil => exact absurd rfl hne
  | cons name rest ih =>
    have hname := hnames name List.mem_cons_self
    cases rest with
    | nil => rw [walk_of_file hname hfile, List.isEmpty_nil, if_pos rfl]
    | cons next rest =>
      have hdirectory := hdirectories [name] (next :: rest) rfl (List.cons_ne_nil _ _)
        (List.cons_ne_nil _ _)
      rw [walk_of_directory hname hdirectory]
      refine ih (fun other hother => hnames other (List.mem_cons_of_mem _ hother))
        (List.cons_ne_nil _ _) (fun front back hsplit hfront hback => ?_) ?_
      · rw [List.append_assoc]
        exact hdirectories (name :: front) back (by rw [hsplit]; rfl) (List.cons_ne_nil _ _) hback
      · rwa [List.append_assoc]

/-- A walk through directories ends at the last one. -/
theorem walk_to_directory {place names : List String} (links : Nat)
    (hnames : ∀ name ∈ names, IsName name)
    (hdirectories : ∀ front, front <+: names → front ≠ [] →
      t.node? (place ++ front) = some .directory) :
    t.walk false links (.inside place) names = .ok (.directory (.inside (place ++ names))) := by
  induction names generalizing place with
  | nil => rw [walk, List.append_nil]
  | cons name rest ih =>
    have hdirectory := hdirectories [name] (List.prefix_append [name] rest) (List.cons_ne_nil _ _)
    rw [walk_of_directory (hnames name List.mem_cons_self) hdirectory, ih, List.append_assoc]
    · rfl
    · exact fun other hother => hnames other (List.mem_cons_of_mem _ hother)
    · intro front hfront hne
      rw [List.append_assoc]
      exact hdirectories (name :: front) (List.cons_prefix_cons.2 ⟨rfl, hfront⟩)
        (List.cons_ne_nil _ _)

/-! ## File names below a root -/

/-- From outside, no walk comes back into the tree. -/
theorem exists_inside_of_walk {links : Nat} {start : Place} {names place : List String}
    (h : t.walk false links start names = .ok (.directory (.inside place))) :
    ∃ names, start = .inside names := by
  fun_induction walk t false links start names with
  | case1 links start =>
    cases h
    exact ⟨place, rfl⟩
  | case2 links start name rest hskip ih => exact ih h
  | case4 links rest start hplace hname ih => exact ih h
  | case8 links name rest hname hparent hcreating hlength hsystem ih =>
    obtain ⟨names, hinside⟩ := ih h
    cases hinside
  | case7 | case9 => exact absurd h absent_ne_directory
  | case3 | case10 | case11 | case12 | case13 | case14 | case15 => exact ⟨_, rfl⟩
  | case5 | case6 => cases h

/-- A file name that stands for a directory of the tree is relative, and not too long. -/
theorem of_resolve {name : String} {place : List String}
    (h : t.resolve name false = .ok (.directory (.inside place))) :
    name.toList.head? ≠ some '/' ∧ FileName.size name ≤ maxFileName := by
  unfold resolve at h
  split at h
  · cases h
  split at h
  · cases h
  · next hlength =>
    refine ⟨fun hhead => ?_, Nat.not_lt.1 hlength⟩
    simp only [hhead, if_true] at h
    obtain ⟨names, hinside⟩ := exists_inside_of_walk h
    cases hinside

end FileTree

namespace FileName

/-- The names of a file name are not empty and have no slash. -/
def IsProper (f : FileName) : Prop := ∀ name ∈ f.names, name ≠ "" ∧ '/' ∉ name.toList

theorem isProper_ofString (text : String) : (ofString text).IsProper := by
  intro name hname
  obtain ⟨piece, hpiece, rfl⟩ := List.mem_map.1 hname
  obtain ⟨hcut, hmeaningful⟩ := List.mem_filter.1 hpiece
  rw [← @String.toList_ofList piece, isMeaningful_toList] at hmeaningful
  refine ⟨hmeaningful.1, fun hslash => ?_⟩
  rw [String.toList_ofList] at hslash
  exact (Text.mem_of_mem_cut hcut '/' hslash).2 rfl

theorem IsProper.slash_not_mem {f : FileName} (h : f.IsProper) :
    ∀ piece ∈ f.names.map String.toList, '/' ∉ piece := by
  intro piece hpiece
  obtain ⟨name, hname, rfl⟩ := List.mem_map.1 hpiece
  exact (h name hname).2

/-- With slashes in between, the names do not begin with one. -/
theorem IsProper.head?_ne {f : FileName} (h : f.IsProper) :
    (['/'].intercalate (f.names.map String.toList)).head? ≠ some '/' := by
  cases hnames : f.names with
  | nil => simp
  | cons first rest =>
    obtain ⟨hne, hslash⟩ := h first (hnames ▸ List.mem_cons_self)
    obtain ⟨c, cs, hchars⟩ : ∃ c cs, first.toList = c :: cs :=
      List.exists_cons_of_ne_nil (by simpa using hne)
    have hc : c ≠ '/' := fun heq => hslash (by simp [hchars, heq])
    cases rest <;> simp [hchars, List.intercalate_cons_cons, hc]

/-- A file name whose text does not begin with a slash has none in front. -/
theorem slashes_eq_zero {f : FileName} (h : f.text.toList.head? ≠ some '/') : f.slashes = 0 := by
  obtain ⟨slashes, names⟩ := f
  cases slashes with
  | zero => rfl
  | succ n =>
    refine absurd ?_ h
    simp [text, List.replicate_succ]

/-- The text of a relative file name has its names between its slashes, unless there are none. -/
theorem text_cases {f : FileName} (hproper : f.IsProper) (hslashes : f.slashes = 0) :
    (f.names = [] ∧ f.text = ".") ∨
      f.text ≠ "" ∧ f.text.toList.head? ≠ some '/' ∧ namesIn f.text = f.names := by
  obtain ⟨slashes, names⟩ := f
  obtain rfl : slashes = 0 := hslashes
  cases names with
  | nil => exact .inl ⟨rfl, rfl⟩
  | cons first rest =>
    right
    have hhead := hproper.head?_ne
    have hcut := Text.cut_intercalate (by simp) hproper.slash_not_mem
    have hne : ['/'].intercalate ((first :: rest).map String.toList) ≠ [] := by
      intro hnil
      -- Cutting nothing gives one empty piece, and names are not empty.
      rw [hnil] at hcut
      have hempty : first.toList = [] := (List.cons.inj hcut).1.symm
      exact (hproper first List.mem_cons_self).1 (String.toList_eq_nil_iff.1 hempty)
    have htext : text { slashes := 0, names := first :: rest }
        = String.ofList (['/'].intercalate ((first :: rest).map String.toList)) := by
      simp only [text, List.replicate_zero, List.nil_append]
      rw [if_neg (by simpa using hne)]
    rw [htext, namesIn, String.toList_ofList, hcut, List.map_map]
    exact ⟨by simpa using hne, hhead, List.map_id'' (fun _ => String.ofList_toList) _⟩

end FileName

namespace FileTree

variable {t : FileTree}

/-- A text that does not begin with a slash leads from the working directory through its pieces. -/
theorem resolve_of_pieces {text : String} (creating : Bool) (hne : text ≠ "")
    (hhead : text.toList.head? ≠ some '/') (hlength : FileName.size text ≤ maxFileName) :
    t.resolve text creating = t.walk creating maxLinks (.inside []) (FileName.pieces text) := by
  unfold resolve
  rw [if_neg (by simpa using hne), if_neg (Nat.not_lt.2 hlength)]
  simp only [hhead, if_false]

/-- A relative file name leads from the working directory through its names, as they are listed. -/
theorem resolve_text {f : FileName} (hproper : f.IsProper) (hslashes : f.slashes = 0)
    (hlength : FileName.size f.text ≤ maxFileName) :
    t.resolve f.text false
      = t.walk false maxLinks (.inside []) (f.names.map FileName.standard) := by
  rcases FileName.text_cases hproper hslashes with ⟨hnames, htext⟩ | ⟨hne, hhead, hnames⟩
  · -- A single dot stays where it is.
    have hdot : FileName.pieces "." = ["."] := by decide +kernel
    rw [htext] at hlength
    rw [hnames, htext, resolve_of_pieces false (by decide) (by decide) hlength, hdot]
    simp [walk]
  · rw [resolve_of_pieces false hne hhead hlength, ← hnames, namesIn, List.map_map]
    rfl

/-- A file name below a root that is a directory of the tree leads on from there. -/
theorem resolve_below {root : FileName} {place names : List String} (hproper : root.IsProper)
    (hroot : t.resolve root.text false = .ok (.directory (.inside place)))
    (hnames : ∀ name ∈ names, IsName name) (hslash : ∀ name ∈ names, '/' ∉ name.toList)
    (hlength : FileName.size (root.below names).text ≤ maxFileName) :
    ∃ links, t.resolve (root.below names).text false = t.walk false links (.inside place) names := by
  obtain ⟨hhead, hrootLength⟩ := of_resolve hroot
  have hslashes := FileName.slashes_eq_zero hhead
  have hmeaningful : names.filter (fun name => FileName.isMeaningful name.toList) = names := by
    refine List.filter_eq_self.2 fun name hname => ?_
    exact FileName.isMeaningful_toList.2 ⟨(hnames name hname).ne_empty, (hnames name hname).ne_dot⟩
  have hjoined : root.below names = { root with names := root.names ++ names } := by
    rw [FileName.below_eq hslash, hmeaningful]
  have hbelow : (root.below names).names = root.names ++ names := by
    rw [hjoined]
  have hbelowSlashes : (root.below names).slashes = 0 := by
    rw [hjoined]
    exact hslashes
  have hall : (root.below names).IsProper := by
    intro name hname
    rw [hbelow] at hname
    rcases List.mem_append.1 hname with hold | hnew
    · exact hproper name hold
    · exact ⟨(hnames name hnew).ne_empty, hslash name hnew⟩
  rw [resolve_text hproper hslashes hrootLength] at hroot
  obtain ⟨links, hlater⟩ := exists_walk_append hroot
  exact ⟨links, by
    rw [resolve_text hall hbelowSlashes hlength, hbelow, List.map_append, map_standard hnames,
      hlater names]⟩

end FileTree

end PhotoArchive
