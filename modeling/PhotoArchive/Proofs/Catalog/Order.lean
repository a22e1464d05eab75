import Mathlib.Data.List.Lex
import Mathlib.Data.List.Nodup
import Mathlib.Data.Prod.Lex
import Mathlib.Data.String.Basic
import PhotoArchive.Catalog

/-!
# The order of a query

A query gives exactly the rows of a company, ordered by creation and then by id. Where ids are
unique, no two rows have the same place in this order, so the order in which the rows stand in the
table does not show, and neither do the rows of other companies.

## Main definitions

- `ProductTable.sortKey` — what rows are ordered by
- `ProductTable.HasUniqueIds` — no two rows of a table have the same id

## Main statements

- `ProductTable.mem_query`, `ProductTable.pairwise_query` — which rows a query gives, in which order
- `ProductTable.query_congr` — two tables with the same rows of a company answer alike
-/

namespace PhotoArchive.ProductTable

/-- The comparison of lists of numbers is the lexicographic order. -/
theorem listLt_iff {a b : List Nat} : listLt a b = true ↔ a < b := by
  fun_induction listLt a b with
  | case1 => simp
  | case2 => simp
  | case3 => simp
  | case4 a as b bs ih => simp [List.cons_lt_cons_iff, ih]

/-- What rows are ordered by: the time of creation, and then the id. -/
def sortKey (p : Product) : List Nat ×ₗ String := toLex (creationKey p, p.id)

theorem before_iff {p q : Product} : before p q = true ↔ sortKey p < sortKey q := by
  simp [before, sortKey, Prod.Lex.toLex_lt_toLex, listLt_iff]

theorem id_eq_of_sortKey_eq {p q : Product} (h : sortKey p = sortKey q) : p.id = q.id :=
  congrArg (fun key => (ofLex key).2) h

/-! ## Sorting -/

/-- A row goes into an ordered list at a place that keeps the order. -/
theorem pairwise_insert {rows : List Product} (p : Product)
    (h : rows.Pairwise fun p q => sortKey p ≤ sortKey q) :
    (insert p rows).Pairwise fun p q => sortKey p ≤ sortKey q := by
  induction rows with
  | nil => exact List.pairwise_singleton _ _
  | cons q rest ih =>
    obtain ⟨hq, hrest⟩ := List.pairwise_cons.1 h
    unfold insert
    by_cases hbefore : before p q = true
    · rw [if_pos hbefore]
      have hpq : sortKey p ≤ sortKey q := (before_iff.1 hbefore).le
      refine List.pairwise_cons.2 ⟨fun r hr => ?_, h⟩
      rcases List.mem_cons.1 hr with rfl | hr
      · exact hpq
      · exact hpq.trans (hq r hr)
    · rw [if_neg hbefore]
      have hqp : sortKey q ≤ sortKey p := not_lt.1 fun hlt => hbefore (before_iff.2 hlt)
      refine List.pairwise_cons.2 ⟨fun r hr => ?_, ih hrest⟩
      rcases List.mem_cons.1 ((insert_perm p rest).mem_iff.1 hr) with rfl | hr
      · exact hqp
      · exact hq r hr

/-- Sorting inserts the rows one after the other into an ordered list. -/
theorem foldl_insert_spec (rows : List Product) {sorted : List Product}
    (h : sorted.Pairwise fun p q => sortKey p ≤ sortKey q) :
    (rows.foldl (fun sorted p => insert p sorted) sorted).Perm (rows ++ sorted) ∧
      (rows.foldl (fun sorted p => insert p sorted) sorted).Pairwise
        fun p q => sortKey p ≤ sortKey q := by
  induction rows generalizing sorted with
  | nil => exact ⟨.refl _, h⟩
  | cons p rest ih =>
    obtain ⟨hperm, hpairwise⟩ := ih (pairwise_insert p h)
    have hinsert : (rest ++ insert p sorted).Perm (p :: (rest ++ sorted)) :=
      ((insert_perm p sorted).append_left rest).trans List.perm_middle
    exact ⟨hperm.trans hinsert, hpairwise⟩

theorem sort_perm (rows : List Product) : (sort rows).Perm rows := by
  have hperm := (foldl_insert_spec rows .nil).1
  rwa [List.append_nil] at hperm

theorem pairwise_sort (rows : List Product) :
    (sort rows).Pairwise fun p q => sortKey p ≤ sortKey q :=
  (foldl_insert_spec rows .nil).2

/-! ## Queries -/

theorem mem_query {table : ProductTable} {company : String} {p : Product} :
    p ∈ table.query company ↔ p ∈ table ∧ p.company = company := by
  rw [query, (sort_perm _).mem_iff, List.mem_filter, decide_eq_true_iff]

theorem pairwise_query (table : ProductTable) (company : String) :
    (table.query company).Pairwise fun p q => sortKey p ≤ sortKey q := pairwise_sort _

/-- No two rows have the same id. -/
def HasUniqueIds (table : ProductTable) : Prop := (table.map Product.id).Nodup

instance : DecidablePred HasUniqueIds := fun table =>
  inferInstanceAs (Decidable (table.map Product.id).Nodup)

variable {table : ProductTable}

theorem HasUniqueIds.nodup_query (h : table.HasUniqueIds) (company : String) :
    (table.query company).Nodup := by
  have hfilter : (table.filter (·.company = company)).Nodup := (List.Nodup.of_map _ h).filter _
  exact (sort_perm _).nodup_iff.2 hfilter

/-- Rows with the same place in the order are the same row. -/
theorem HasUniqueIds.eq_of_sortKey_eq (h : table.HasUniqueIds) {p q : Product} (hp : p ∈ table)
    (hq : q ∈ table) (heq : sortKey p = sortKey q) : p = q :=
  List.inj_on_of_nodup_map h hp hq (id_eq_of_sortKey_eq heq)

/-- Tables with the same rows of a company give them in the same order, however their rows stand
there and whatever other companies have. -/
theorem query_congr {table₁ table₂ : ProductTable} {company : String} (h₁ : table₁.HasUniqueIds)
    (h₂ : table₂.HasUniqueIds)
    (hrows : ∀ p, p.company = company → (p ∈ table₁ ↔ p ∈ table₂)) :
    table₁.query company = table₂.query company := by
  have hmem : ∀ p, p ∈ table₁.query company ↔ p ∈ table₂.query company := by
    intro p
    rw [mem_query, mem_query]
    exact and_congr_left (hrows p)
  -- No row is there twice, so the same rows are a permutation, and two ordered ones are the same.
  have hperm : (table₁.query company).Perm (table₂.query company) :=
    (List.perm_ext_iff_of_nodup (h₁.nodup_query company) (h₂.nodup_query company)).2 hmem
  refine List.Perm.eq_of_pairwise (fun p q hp hq hpq hqp => ?_) (pairwise_query _ _)
    (pairwise_query _ _) hperm
  have hq₁ : q ∈ table₁ := (mem_query.1 ((hmem q).2 hq)).1
  exact h₁.eq_of_sortKey_eq (mem_query.1 hp).1 hq₁ (le_antisymm hpq hqp)

end PhotoArchive.ProductTable
