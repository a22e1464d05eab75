import PhotoArchive.Proofs.Path.Joining

/-!
# Files with an index are told apart

The index of a file stands behind the last hyphen in front of its extension. So a file with an index
shows beside which file it lies and which index that is, whatever hyphens, digits and dots the name
has had before.

## Main statements

- `Path.indexedName_inj` — the name with an index shows the name and the index
- `Path.withSuffixIndex_injective` — and the file shows the file and the index
-/

namespace PhotoArchive.Path

variable {p q r : Path} {m n : Nat}

theorem hyphen_not_mem_digits (n : Nat) : '-' ∉ (toString (n : Int)).toList := by
  intro hmem
  have hdigits : (toString (n : Int)).toList = Nat.toDigits 10 n := Nat.toList_repr
  rw [hdigits] at hmem
  exact Bool.false_ne_true (Nat.isDigit_of_mem_toDigits (by decide) (by decide) hmem)

/-- What an indexed name ends with is what the name ends with. -/
theorem splitExtension_indexedName (p : Path) (n : Nat) :
    (splitExtension (p.indexedName n)).2 = (splitExtension p.name.toList).2 := by
  apply splitExtension_indexed
  intro hdot
  rcases mem_toString_int hdot with heq | hdigit
  · cases heq
  · cases hdigit

/-- A name with an index shows the name and the index. -/
theorem indexedName_inj (h : p.indexedName m = q.indexedName n) : p.name = q.name ∧ m = n := by
  -- The ends are the same, so the hyphens in front of the digits are the last ones of the same text.
  have hends : (splitExtension p.name.toList).2 = (splitExtension q.name.toList).2 := by
    rw [← splitExtension_indexedName p m, h, splitExtension_indexedName q n]
  have hfronts : (splitExtension p.name.toList).1 ++ '-' :: (toString (m : Int)).toList
      = (splitExtension q.name.toList).1 ++ '-' :: (toString (n : Int)).toList := by
    rw [indexedName, indexedName, hends] at h
    exact List.append_cancel_right h
  obtain ⟨hstems, hdigits⟩ := Text.append_separator_inj (hyphen_not_mem_digits m)
    (hyphen_not_mem_digits n) hfronts
  refine ⟨?_, toString_natCast_inj hdigits⟩
  rw [← String.toList_inj, ← splitExtension_append_self p.name.toList, hstems, hends,
    splitExtension_append_self]

/-- A file with an index shows beside which file it lies, and the index. -/
theorem eq_of_numbered (hp : p.numbered m = .ok r) (hq : q.numbered n = .ok r) :
    p = q ∧ m = n := by
  have hnames : p.indexedName m = q.indexedName n :=
    (name_numbered hp).symm.trans (name_numbered hq)
  obtain ⟨hname, hindex⟩ := indexedName_inj hnames
  have hparent : p.parent = q.parent :=
    (parent_numbered hp).symm.trans (parent_numbered hq)
  exact ⟨eq_of_parent_of_name (isDirectory_of_numbered hp) (isDirectory_of_numbered hq)
    hparent hname, hindex⟩

/-- An index that is not too long is written. -/
theorem withSuffixIndex_eq_ok_iff {index : Int} :
    p.withSuffixIndex index = .ok r ↔
      (Nat.toDigits 10 index.natAbs).length ≤ maxIndexDigits ∧ p.numbered index = .ok r := by
  unfold withSuffixIndex
  by_cases hdirectory : p.isDirectory = true
  · simp [numbered, hdirectory]
  · rw [if_neg hdirectory]
    by_cases hdigits : maxIndexDigits < (Nat.toDigits 10 index.natAbs).length
    · simp [hdigits, Nat.not_le.2 hdigits]
    · rw [if_neg hdigits]
      cases p.numbered index with
      | error v =>
        constructor
        · intro h
          cases h
        · rintro ⟨-, h⟩
          cases h
      | ok q =>
        exact ⟨fun h => ⟨Nat.not_lt.1 hdigits, congrArg _ (Except.ok.inj h)⟩,
          fun h => congrArg _ (Except.ok.inj h.2)⟩

/-- Beside a file there is one with each index that is not too long: in the same directory, with the same
text behind the last dot if the name has a stem in front of it, different from the file itself, and from
all files with other indices and beside other files. -/
theorem withSuffixIndex_injective (h : p.isDirectory = false) {n : Nat}
    (hn : (Nat.toDigits 10 n).length ≤ maxIndexDigits) :
    ∃ r, p.withSuffixIndex n = .ok r ∧ r.isDirectory = false ∧ r.parent = p.parent ∧
      (∀ stem rest, stem ≠ [] → '.' ∉ rest → p.name.toList = stem ++ '.' :: rest →
        r.name.toList = stem ++ '-' :: (toString n).toList ++ '.' :: rest) ∧
      r ≠ p ∧ ∀ (q : Path) (m : Nat), q.withSuffixIndex m = .ok r → q = p ∧ m = n := by
  obtain ⟨r, hr, -⟩ := exists_numbered h n
  refine ⟨r, withSuffixIndex_eq_ok_iff.2 ⟨hn, hr⟩, (segments_numbered hr).1, parent_numbered hr, ?_,
    ne_of_numbered hr, fun q m hq => eq_of_numbered (withSuffixIndex_eq_ok_iff.1 hq).2 hr⟩
  intro stem rest hstem hrest hname
  rw [name_numbered hr, indexedName, hname, splitExtension_append hrest, if_neg hstem]
  rfl

theorem withSuffixIndex_injective_sample :
    ∃ p r : Path, p.value = "a/.b.tar-7.gz" ∧ p.isDirectory = false ∧
      p.withSuffixIndex 7 = .ok r ∧ r.name.toList = ".b.tar-7-7.gz".toList ∧
      ∀ (q : Path) (m : Nat), q.withSuffixIndex m = .ok r → q = p ∧ m = 7 := by
  let p : Path := ⟨"a/.b.tar-7.gz", by decide⟩
  obtain ⟨r, hr, -, -, hname, -, honly⟩ :=
    withSuffixIndex_injective (p := p) (n := 7) (by decide) (by decide)
  refine ⟨p, r, rfl, by decide, hr, ?_, honly⟩
  exact hname ".b.tar-7".toList "gz".toList (by decide) (by decide) (by decide)

/-- An index of 4301 digits is not written, so there is no file with it. -/
theorem not_forall_withSuffixIndex :
    ¬ ∀ (p : Path) (n : Nat), p.isDirectory = false → ∃ r, p.withSuffixIndex n = .ok r := by
  intro h
  obtain ⟨r, hr⟩ := h ⟨"a.jpg", by decide⟩ (10 ^ maxIndexDigits) (by decide)
  have hdigits := (withSuffixIndex_eq_ok_iff.1 hr).1
  revert hdigits
  decide +kernel

end PhotoArchive.Path
