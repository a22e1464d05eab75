import Mathlib.Data.Finset.Card
import PhotoArchive.Proofs.Assembly.Course
import PhotoArchive.Proofs.Path.FreeName

/-!
# The search for a free name

An assembly takes a name for each entry. That never fails, and the search for the name ends after at most
as many indices as there are different names taken.

## Main statements

- `IsTried.index_le_card` — how far the search goes
- `Assembly.takeName_isTried` — what taking a name does
-/

namespace PhotoArchive

variable {name : Path} {taken : List Path}

/-- The search goes on for no more indices than different names are taken. -/
theorem IsTried.index_le_card {i : Nat} {q : Path} (h : IsTried name taken i q) :
    i ≤ taken.toFinset.card := by
  obtain ⟨seen, hlength, hnodup, hseen⟩ := h.exists_nodup
  rw [← hlength, ← List.toFinset_card_of_nodup hnodup]
  refine Finset.card_le_card fun p hp => ?_
  rw [List.mem_toFinset] at hp ⊢
  exact (hseen p hp).1

namespace Assembly

variable {σ τ : Type}

/-- Taking a name for a file never fails, whatever names are taken. The search ends after at most as many
indices as different names are taken, at a candidate that is not; it is the name itself if that is free,
and else the name with the least index from 1 on with which it is free. Then it is one of the names that
are taken, and nothing else has changed. -/
theorem takeName_isTried (hfile : name.isDirectory = false) (b : Bench σ τ) :
    ∃ (last : Nat) (free : Path),
      (takeName name).run b = (.ok free, { b with taken := free :: b.taken }) ∧
      free ∉ b.taken ∧
      IsTried name b.taken last free ∧
      (∀ index candidate, IsTried name b.taken index candidate → index ≤ last) ∧
      last ≤ b.taken.toFinset.card ∧
      (name ∉ b.taken → free = name) ∧
      (name ∈ b.taken → 0 < last ∧ name.numbered last = .ok free ∧
        ∀ index : Nat, 0 < index → index < last →
          ∃ q ∈ b.taken, name.numbered index = .ok q) := by
  obtain ⟨free, hfree, hrun⟩ := takeName_course hfile b
  obtain ⟨hnew, last, htried⟩ := isTried_uniqueName hfree
  refine ⟨last, free, hrun, hnew, htried,
    fun index candidate h => htried.index_le_of_not_mem hnew h, htried.index_le_card, ?_⟩
  rcases htried.eq_or_numbered with ⟨-, rfl⟩ | ⟨hlast, hindex⟩
  · exact ⟨fun _ => rfl, fun hname => absurd hname hnew⟩
  · refine ⟨fun hname => absurd (htried.mem_of_pos hlast) hname, fun _ => ⟨hlast, hindex, ?_⟩⟩
    intro index hpos hlt
    obtain ⟨q, hq, hearlier⟩ := htried.exists_taken hlt
    rcases hearlier.eq_or_numbered with ⟨hzero, -⟩ | ⟨-, hqindex⟩
    · omega
    · exact ⟨q, hq, hqindex⟩

/-- A bench on which a name is taken, and others beside it. -/
def crowdedBench : Bench Unit Unit where
  storage := ()
  pool := { bufferSize := 1, bufferSize_pos := by decide, maxRetained := 0 }
  ledger := { company := "c" }
  log := []
  writer := ()
  taken := [⟨"tea/cup-3.jpg", by decide⟩, ⟨"tea/cup.jpg", by decide⟩, ⟨"tea/cup-1.jpg", by decide⟩]

theorem takeName_isTried_sample :
    (⟨"tea/cup.jpg", by decide⟩ : Path).isDirectory = false ∧
    ∃ (last : Nat) (free : Path),
      (takeName ⟨"tea/cup.jpg", by decide⟩).run crowdedBench
        = (.ok free, { crowdedBench with taken := free :: crowdedBench.taken }) ∧
      free.value = "tea/cup-2.jpg" ∧
      IsTried ⟨"tea/cup.jpg", by decide⟩ crowdedBench.taken last free ∧ last ≤ 3 := by
  have hfile : (⟨"tea/cup.jpg", by decide⟩ : Path).isDirectory = false := by decide
  obtain ⟨last, free, hrun, -, htried, -, hlast, -⟩ := takeName_isTried hfile crowdedBench
  have hvalue : ((takeName ⟨"tea/cup.jpg", by decide⟩).run crowdedBench).1.toOption.map Path.value
      = some "tea/cup-2.jpg" := by
    decide
  rw [hrun] at hvalue
  have hcard : crowdedBench.taken.toFinset.card = 3 := by decide
  exact ⟨hfile, last, free, hrun, Option.some.inj hvalue, htried, hcard ▸ hlast⟩

end Assembly

end PhotoArchive
