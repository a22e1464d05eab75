import PhotoArchive.Proofs.Path.FileName

/-!
# Free names are free

Beside a name that is taken, the files with the indices 1, 2, 3 and so on are tried, up to the first one
that is not taken. Nothing bounds the search but the number of names that are taken: all candidates are
different, so it ends after at most as many indices, and the name that an entry gets is not taken.

## Main definitions

- `IsTried` — a candidate that the search comes to

## Main statements

- `IsTried.index_inj` — no candidate is tried twice
- `IsTried.index_le_length` — how far the search goes
- `isTried_uniqueName` — the name that is found is the candidate at which the search ends, and it is free
- `uniqueName_cases` — a free name is the name itself, or one with an index

## Design notes

The search is stated here as a relation without any bound. That the bounded search of `firstFreeName` ends
where it does is proved, not assumed: the bound is one more than what the search can reach.
-/

namespace PhotoArchive

/-! ## Candidates -/

variable {name : Path} {taken : List Path}

/-- The search for a free name beside `name` comes to a candidate after so many indices. It begins with
the name itself; behind a candidate that is taken, the name with the next index follows. -/
inductive IsTried (name : Path) (taken : List Path) : Nat → Path → Prop where
  | start : IsTried name taken 0 name
  | next {index : Nat} {candidate next : Path} (htried : IsTried name taken index candidate)
      (htaken : candidate ∈ taken)
      (hnext : name.numbered (index + 1 : Nat) = .ok next) :
      IsTried name taken (index + 1) next

namespace IsTried

variable {i j : Nat} {p q : Path}

/-- What is tried is the name itself, or the name with the index. -/
theorem eq_or_numbered (h : IsTried name taken i q) :
    (i = 0 ∧ q = name) ∨ 0 < i ∧ name.numbered i = .ok q := by
  cases h with
  | start => exact .inl ⟨rfl, rfl⟩
  | next htried htaken hnext => exact .inr ⟨Nat.succ_pos _, hnext⟩

/-- No candidate is tried twice. -/
theorem index_inj (hi : IsTried name taken i q) (hj : IsTried name taken j q) : i = j := by
  rcases hi.eq_or_numbered with ⟨rfl, rfl⟩ | ⟨hi0, hiq⟩ <;>
    rcases hj.eq_or_numbered with ⟨rfl, hq⟩ | ⟨hj0, hjq⟩
  · rfl
  · exact absurd rfl (Path.ne_of_numbered hjq)
  · exact absurd hq (Path.ne_of_numbered hiq)
  · exact Path.numbered_inj hiq hjq

/-- Each index has one candidate. -/
theorem candidate_unique (hp : IsTried name taken i p) (hq : IsTried name taken i q) : p = q := by
  rcases hp.eq_or_numbered with ⟨rfl, rfl⟩ | ⟨hi0, hip⟩ <;>
    rcases hq.eq_or_numbered with ⟨hi, hq⟩ | ⟨hi, hiq⟩
  · exact hq.symm
  · omega
  · omega
  · exact Except.ok.inj (hip.symm.trans hiq)

/-- All candidates in front of another one are taken. -/
theorem exists_taken (h : IsTried name taken j q) (hlt : i < j) :
    ∃ p ∈ taken, IsTried name taken i p := by
  induction h with
  | start => omega
  | @next index candidate next htried htaken hnext ih =>
    rcases Nat.lt_succ_iff_lt_or_eq.1 hlt with hearlier | rfl
    · exact ih hearlier
    · exact ⟨candidate, htaken, htried⟩

/-- The candidates in front of another one are as many different names that are taken. -/
theorem exists_nodup (h : IsTried name taken i q) :
    ∃ seen : List Path, seen.length = i ∧ seen.Nodup ∧
      ∀ p ∈ seen, p ∈ taken ∧ ∃ j < i, IsTried name taken j p := by
  -- Those seen so far have smaller indices, so the next one is not among them.
  induction h with
  | start => exact ⟨[], rfl, List.nodup_nil, by simp⟩
  | @next index candidate next htried htaken hnext ih =>
    obtain ⟨seen, hlength, hnodup, hseen⟩ := ih
    refine ⟨candidate :: seen, by rw [List.length_cons, hlength], ?_, ?_⟩
    · refine List.nodup_cons.2 ⟨fun hmem => ?_, hnodup⟩
      obtain ⟨-, j, hlt, hj⟩ := hseen candidate hmem
      have := hj.index_inj htried
      omega
    · intro p hp
      rcases List.mem_cons.1 hp with rfl | hp
      · exact ⟨htaken, index, Nat.lt_succ_self index, htried⟩
      · obtain ⟨hmem, j, hlt, hj⟩ := hseen p hp
        exact ⟨hmem, j, Nat.lt_succ_of_lt hlt, hj⟩

/-- If a name with an index is tried, the name itself is taken. -/
theorem mem_of_pos (h : IsTried name taken i q) (hi : 0 < i) : name ∈ taken := by
  obtain ⟨p, hp, hstart⟩ := h.exists_taken hi
  exact candidate_unique .start hstart ▸ hp

/-- The search goes on for no more indices than names are taken. -/
theorem index_le_length (h : IsTried name taken i q) : i ≤ taken.length := by
  obtain ⟨seen, hlength, hnodup, hseen⟩ := h.exists_nodup
  have htaken : seen ⊆ taken := fun p hp => (hseen p hp).1
  exact hlength ▸ hnodup.length_le_of_subset htaken

/-- Behind a candidate that is free, nothing is tried. -/
theorem index_le_of_not_mem (hfree : IsTried name taken j q) (hq : q ∉ taken)
    (h : IsTried name taken i p) : i ≤ j := by
  refine Nat.le_of_not_lt fun hlater => ?_
  obtain ⟨r, hr, hj⟩ := h.exists_taken hlater
  exact hq (hfree.candidate_unique hj ▸ hr)

end IsTried

/-! ## The name that is found -/

variable {free : Path}

/-- From a candidate that is taken on, the bounded search ends at a candidate. This one is free, unless
the search has come to its bound. -/
theorem isTried_firstFreeName {fuel index : Nat} {candidate : Path}
    (htried : IsTried name taken index candidate) (htaken : candidate ∈ taken)
    (h : firstFreeName name taken fuel (index + 1) = .ok free) :
    ∃ last, IsTried name taken last free ∧ (free ∈ taken → last = index + 1 + fuel) := by
  induction fuel generalizing index candidate with
  | zero => exact ⟨index + 1, htried.next htaken h, fun _ => rfl⟩
  | succ fuel ih =>
    rw [firstFreeName] at h
    cases hq : name.numbered (index + 1 : Nat) with
    | error violation =>
      rw [hq] at h
      cases h
    | ok q =>
      rw [hq] at h
      replace h : (if q ∈ taken then firstFreeName name taken fuel (index + 1 + 1) else .ok q)
          = .ok free := h
      have hnext := htried.next htaken hq
      by_cases hmem : q ∈ taken
      · rw [if_pos hmem] at h
        obtain ⟨last, hlast, hbound⟩ := ih hnext hmem h
        refine ⟨last, hlast, fun hfree => ?_⟩
        rw [hbound hfree]
        omega
      · rw [if_neg hmem] at h
        cases h
        exact ⟨index + 1, hnext, fun hfree => absurd hfree hmem⟩

theorem isTried_uniqueName (h : uniqueName name taken = .ok free) :
    free ∉ taken ∧ ∃ last, IsTried name taken last free := by
  unfold uniqueName at h
  by_cases htaken : name ∈ taken
  · rw [if_pos htaken] at h
    obtain ⟨last, htried, hbound⟩ := isTried_firstFreeName .start htaken h
    refine ⟨fun hfree => ?_, last, htried⟩
    -- The bound lies behind all candidates that the search can come to.
    have hlast := hbound hfree
    have hle := htried.index_le_length
    omega
  · rw [if_neg htaken] at h
    cases h
    exact ⟨htaken, 0, .start⟩

theorem uniqueName_not_mem (h : uniqueName name taken = .ok free) : free ∉ taken :=
  (isTried_uniqueName h).1

/-- A name that is not taken is kept; beside one that is taken, the name has an index. -/
theorem uniqueName_cases (h : uniqueName name taken = .ok free) :
    (name ∉ taken ∧ free = name) ∨
      name ∈ taken ∧ ∃ index : Nat, 0 < index ∧ name.numbered index = .ok free := by
  obtain ⟨hfree, last, htried⟩ := isTried_uniqueName h
  rcases htried.eq_or_numbered with ⟨-, rfl⟩ | ⟨hlast, hindex⟩
  · exact .inl ⟨hfree, rfl⟩
  · exact .inr ⟨htried.mem_of_pos hlast, last, hlast, hindex⟩

theorem isDirectory_uniqueName (hfile : name.isDirectory = false)
    (h : uniqueName name taken = .ok free) : free.isDirectory = false := by
  rcases uniqueName_cases h with ⟨-, rfl⟩ | ⟨-, index, -, hindex⟩
  · exact hfile
  · exact (Path.segments_numbered hindex).1

end PhotoArchive
