import PhotoArchive.Proofs.Path.SuffixIndex

/-!
# Names of files

The text of a file can be used as a name below some directory without leaving it. A file with an index
beside another one lies in the same directory, and its name ends with the same extension.

## Main definitions

- `Path.IsSafeFileName` — a text that names a file and nothing else
- `Path.extension` — what a name ends with behind its stem

## Main statements

- `Path.isSafeFileName_value` — files have such texts
- `Path.parent_numbered`, `Path.extension_numbered` — what an index leaves alone
- `Path.numbered_inj`, `Path.ne_of_numbered` — files with different indices are different,
  and none of them is the file beside which they lie
-/

namespace PhotoArchive

namespace Text

/-- The first piece is empty only if nothing or a slash is at the beginning. -/
theorem head?_of_cut_eq_nil_cons {cs : List Char} {pieces : List (List Char)}
    (h : cut cs = [] :: pieces) : cs = [] ∨ cs.head? = some '/' := by
  cases cs with
  | nil => exact .inl rfl
  | cons c cs =>
    by_cases hc : c = '/'
    · exact .inr (by simp [hc])
    · obtain ⟨piece, rest, -, hcut⟩ := cut_cons_of_ne hc cs
      rw [hcut] at h
      cases h

/-- An empty piece behind the first one shows a slash at the end or two slashes in a row. -/
theorem slash_of_nil_mem_tail_cut {cs : List Char} (h : [] ∈ (cut cs).tail) :
    cs.getLast? = some '/' ∨ occurs ['/', '/'] cs = true := by
  induction cs with
  | nil => simp [cut] at h
  | cons c cs ih =>
    have hlater : cs.getLast? = some '/' ∨ occurs ['/', '/'] cs = true →
        (c :: cs).getLast? = some '/' ∨ occurs ['/', '/'] (c :: cs) = true := by
      rintro (hlast | hoccurs)
      · exact .inl (by simp [List.getLast?_cons, hlast])
      · exact .inr (by simp [occurs, hoccurs])
    by_cases hc : c = '/'
    · subst hc
      have hmem : [] ∈ cut cs := by simpa [cut] using h
      cases hcut : cut cs with
      | nil => exact absurd hcut (cut_ne_nil cs)
      | cons first rest =>
        rw [hcut] at hmem
        rcases List.mem_cons.1 hmem with rfl | hrest
        · -- A slash is followed by the end or by another slash.
          rcases head?_of_cut_eq_nil_cons hcut with rfl | hhead
          · exact .inl rfl
          · right
            cases cs with
            | nil => cases hhead
            | cons d cs =>
              obtain rfl : d = '/' := Option.some.inj hhead
              simp [occurs, List.isPrefixOf]
        · exact hlater (ih (by rwa [hcut]))
    · obtain ⟨piece, rest, hcut, hcons⟩ := cut_cons_of_ne hc cs
      rw [hcons] at h
      exact hlater (ih (by rwa [hcut]))

end Text

/-- The decimal digits of a number determine it. -/
theorem toString_natCast_inj {m n : Nat}
    (h : (toString (m : Int)).toList = (toString (n : Int)).toList) : m = n := by
  have hdigits (k : Nat) : (toString (k : Int)).toList = Nat.toDigits 10 k := Nat.toList_repr
  rw [hdigits, hdigits] at h
  have hback (k : Nat) : Nat.ofDigitChars 10 (Nat.toDigits 10 k) 0 = k :=
    Nat.ofDigitChars_toDigits (by decide) (by decide)
  rw [← hback m, h, hback]

namespace Path

/-! ## Safe names -/

/-- A text that names a file below any directory: between its slashes there is always something, and
never what names the directory above; it has no character that ends a text, a line or a column, and no
other separator. -/
structure IsSafeFileName (text : List Char) : Prop where
  head : text.head? ≠ some '/'
  last : text.getLast? ≠ some '/'
  pieces : ∀ piece ∈ Text.cut text, piece ≠ [] ∧ piece ≠ ['.', '.']
  chars : ∀ c ∈ text, c ∉ ['\\', '\x00', '\n', '\r', '\t']

theorem isSafeFileName_value {p : Path} (h : p.isDirectory = false) :
    IsSafeFileName p.value.toList := by
  obtain ⟨hhead, hforbidden, hparent⟩ := violation?_eq_none_iff.1 p.valid
  simp only [isDirectory, isRoot, Bool.or_eq_false_iff, List.isEmpty_eq_false_iff,
    decide_eq_false_iff_not] at h
  obtain ⟨hne, hlast⟩ := h
  refine ⟨hhead, hlast, ?_, ?_⟩
  · intro piece hpiece
    have hnil : piece ≠ [] := by
      rintro rfl
      cases hcut : Text.cut p.value.toList with
      | nil => exact Text.cut_ne_nil _ hcut
      | cons first rest =>
        rw [hcut] at hpiece
        rcases List.mem_cons.1 hpiece with rfl | hrest
        · exact (Text.head?_of_cut_eq_nil_cons hcut).elim hne hhead
        · have hmem : [] ∈ (Text.cut p.value.toList).tail := by rwa [hcut]
          rcases Text.slash_of_nil_mem_tail_cut hmem with hslash | hslashes
          · exact hlast hslash
          · have hnone := hforbidden "//" (by decide)
            exact Bool.false_ne_true (hnone.symm.trans hslashes)
    refine ⟨hnil, ?_⟩
    rintro rfl
    exact hparent (List.mem_filter.2 ⟨hpiece, rfl⟩)
  · intro c hc hbad
    have hnone : ∀ text ∈ forbiddenTexts, text.toList ≠ [c] := by
      intro text htext heq
      have hocc := hforbidden text htext
      rw [heq] at hocc
      exact Bool.false_ne_true (hocc.symm.trans (Text.occurs_singleton.2 hc))
    simp only [List.mem_cons, List.not_mem_nil, or_false] at hbad
    rcases hbad with rfl | rfl | rfl | rfl | rfl
    · exact hnone "\\" (by decide) rfl
    · exact hnone "\x00" (by decide) rfl
    · exact hnone "\n" (by decide) rfl
    · exact hnone "\r" (by decide) rfl
    · exact hnone "\t" (by decide) rfl

/-! ## Extensions -/

/-- What the name of a path ends with behind its stem: a dot and what follows, or nothing. -/
def extension (p : Path) : List Char := (splitExtension p.name.toList).2

theorem splitExtension_of_not_mem {name : List Char} (h : '.' ∉ name) :
    splitExtension name = (name, []) := by
  have hcontains : name.contains '.' = false := by simpa using h
  simp only [splitExtension, hcontains, Bool.false_and, Bool.false_eq_true, if_false]

/-- A name is cut at its last dot, unless nothing is in front of it. -/
theorem splitExtension_append {stem rest : List Char} (h : '.' ∉ rest) :
    splitExtension (stem ++ '.' :: rest)
      = if stem = [] then ('.' :: rest, []) else (stem, '.' :: rest) := by
  have hextension : ((stem ++ '.' :: rest).reverse.takeWhile (· ≠ '.')).reverse = rest := by
    have hrest : ∀ c ∈ rest.reverse, decide (c ≠ '.') = true := by
      intro c hc
      rw [decide_eq_true_eq]
      rintro rfl
      exact h (List.mem_reverse.1 hc)
    rw [List.reverse_append, List.reverse_cons, List.append_assoc, List.takeWhile_append_of_pos hrest]
    simp
  have hlength : (stem ++ '.' :: rest).length - (rest.length + 1) = stem.length := by
    rw [List.length_append, List.length_cons]
    omega
  simp only [splitExtension, hextension, hlength, List.take_left]
  cases stem with
  | nil => simp
  | cons c stem => simp

/-- A name has no dot, or a last one. -/
theorem exists_last_dot (name : List Char) :
    '.' ∉ name ∨ ∃ stem rest, name = stem ++ '.' :: rest ∧ '.' ∉ rest := by
  by_cases h : '.' ∈ name
  · obtain ⟨before, after, hsplit, hbefore⟩ := List.eq_append_cons_of_mem (List.mem_reverse.2 h)
    refine .inr ⟨after.reverse, before.reverse, ?_, fun hmem => hbefore (List.mem_reverse.1 hmem)⟩
    rw [← List.reverse_reverse name, hsplit]
    simp
  · exact .inl h

/-- A stem and an extension make up the name. -/
theorem splitExtension_append_self (name : List Char) :
    (splitExtension name).1 ++ (splitExtension name).2 = name := by
  rcases exists_last_dot name with hnone | ⟨stem, rest, rfl, hrest⟩
  · rw [splitExtension_of_not_mem hnone, List.append_nil]
  · rw [splitExtension_append hrest]
    by_cases hstem : stem = [] <;> simp [hstem]

/-- What is put behind the stem of a name leaves its extension alone. -/
theorem splitExtension_indexed (name : List Char) {digits : List Char} (h : '.' ∉ digits) :
    (splitExtension ((splitExtension name).1 ++ '-' :: digits ++ (splitExtension name).2)).2
      = (splitExtension name).2 := by
  have hindex : '.' ∉ '-' :: digits := by
    rintro (_ | ⟨_, hmem⟩)
    exact h hmem
  rcases exists_last_dot name with hnone | ⟨stem, rest, rfl, hrest⟩
  · rw [splitExtension_of_not_mem hnone, List.append_nil, splitExtension_of_not_mem]
    intro hmem
    exact (List.mem_append.1 hmem).elim hnone hindex
  · rw [splitExtension_append hrest]
    by_cases hstem : stem = []
    · -- Nothing is in front of the dot, neither before nor behind.
      have hnew : '.' ∉ rest ++ '-' :: digits := by
        intro hmem
        exact (List.mem_append.1 hmem).elim hrest hindex
      have hsplit := @splitExtension_append [] _ hnew
      simpa [hstem] using congrArg Prod.snd hsplit
    · have hne : stem ++ '-' :: digits ≠ [] := by simp [hstem]
      rw [if_neg hstem, splitExtension_append hrest, if_neg hne]

/-! ## The file with an index -/

variable {p q : Path} {index : Int}

/-- The name of the file with an index. -/
def indexedName (p : Path) (index : Int) : List Char :=
  (splitExtension p.name.toList).1 ++ '-' :: (toString index).toList
    ++ (splitExtension p.name.toList).2

theorem isDirectory_of_numbered (h : p.numbered index = .ok q) :
    p.isDirectory = false := by
  cases hdirectory : p.isDirectory with
  | false => rfl
  | true =>
    rw [numbered, if_pos hdirectory] at h
    cases h

/-- A file has a last segment, which is its name, in the directory of those before. -/
theorem exists_segments (h : p.isDirectory = false) :
    ∃ init, Text.segments p.value.toList = init ++ [p.name.toList] ∧
      p.parent.value.toList = Text.closedText init := by
  rcases List.eq_nil_or_concat (Text.segments p.value.toList) with hnil | ⟨init, last, hlast⟩
  · exact absurd hnil (segments_ne_nil h)
  · rw [List.concat_eq_append] at hlast
    refine ⟨init, ?_, ?_⟩
    · simp [name, parts, hlast]
    · simp [parent, hlast]

/-- Only the last segment of the file with an index is another one. -/
theorem segments_numbered (h : p.numbered index = .ok q) :
    q.isDirectory = false ∧ Text.segments q.value.toList
      = (Text.segments p.value.toList).dropLast ++ [p.indexedName index] := by
  have hfile := isDirectory_of_numbered h
  obtain ⟨init, hsegments, hparent⟩ := exists_segments hfile
  obtain ⟨q', hq', hvalue⟩ := exists_numbered hfile index
  obtain rfl : q' = q := Except.ok.inj (hq'.symm.trans h)
  have hmem {piece : List Char} (hpiece : piece ∈ init ++ [p.name.toList]) : IsSegment piece :=
    isSegment_of_mem (hsegments ▸ hpiece)
  have hindexed : IsSegment (p.indexedName index) :=
    isSegment_withIndex (hmem (List.mem_append_right _ (List.mem_singleton.2 rfl))) index
  have htext : q'.value.toList = Text.closedText init ++ p.indexedName index := by
    rw [hvalue, hparent, indexedName]
  constructor
  · have hlast : (p.indexedName index).getLast? ≠ some '/' :=
      fun hslash => hindexed.slash_not_mem (List.mem_of_getLast? hslash)
    simp [isDirectory, isRoot, htext, hindexed.1, hlast]
  · rw [htext, hsegments, List.dropLast_concat]
    apply Text.segments_closedText_append _ hindexed.1 hindexed.slash_not_mem
    intro piece hpiece
    have hsegment := hmem (List.mem_append_left _ hpiece)
    exact ⟨hsegment.1, hsegment.slash_not_mem⟩

theorem parent_numbered (h : p.numbered index = .ok q) : q.parent = p.parent := by
  apply Path.ext
  simp only [parent, (segments_numbered h).2, List.dropLast_concat]

theorem name_numbered (h : p.numbered index = .ok q) :
    q.name.toList = p.indexedName index := by
  simp [name, parts, (segments_numbered h).2]

theorem extension_numbered (h : p.numbered index = .ok q) :
    q.extension = p.extension := by
  have hdigits : '.' ∉ (toString index).toList := by
    intro hmem
    rcases mem_toString_int hmem with heq | hdigit
    · cases heq
    · cases hdigit
  rw [extension, name_numbered h]
  exact splitExtension_indexed p.name.toList hdigits

theorem numbered_inj {i j : Nat} (hi : p.numbered i = .ok q)
    (hj : p.numbered j = .ok q) : i = j := by
  have hnames : p.indexedName i = p.indexedName j :=
    (name_numbered hi).symm.trans (name_numbered hj)
  have hindexed := List.append_cancel_right hnames
  exact toString_natCast_inj (List.tail_eq_of_cons_eq (List.append_cancel_left hindexed))

/-- The file with an index has a longer name. -/
theorem ne_of_numbered (h : p.numbered index = .ok q) :
    q ≠ p := by
  rintro rfl
  have hname := congrArg List.length (name_numbered h)
  have hself := congrArg List.length (splitExtension_append_self q.name.toList)
  simp only [indexedName, List.length_append, List.length_cons] at hname hself
  omega

end Path

end PhotoArchive
