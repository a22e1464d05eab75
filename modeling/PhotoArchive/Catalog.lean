import PhotoArchive.Failure
import PhotoArchive.Log
import PhotoArchive.Product

/-!
# The product catalog

Where the products of a company come from: a table of all products, of which a query takes the
company's rows in the order of creation, or any other catalog.

## Main definitions

- `Refusal` — a failure, with the text that was logged about it
- `Catalog` — lists the products of a company or refuses to
- `ProductTable.query` — the rows of a company, in order
- `Catalog.ofTable`, `Catalog.ofList` — the table behind a database, and a plain list

## Design notes

Rows are ordered by creation and then by id. A row without a time of creation comes behind all that
have one, as missing values do in a database that is not told otherwise, and ids are compared
character by character. Ids are unique in a table, so the order of its rows does not matter.
-/

namespace PhotoArchive

/-- A failure, with the text that its reporter has logged as an error, if any. -/
structure Refusal where
  failure : Failure
  report : Option String := none
  deriving DecidableEq, Repr

/-- The record that was logged about a refusal, if any. -/
def Refusal.records (r : Refusal) (component : Log.Component) : Log :=
  (r.report.map fun message => { level := .error, component, message : Log.Record }).toList

/-- Lists the products of a company, or refuses to. -/
structure Catalog where
  listByCompany : String → Except Refusal (List Product)

/-- The rows of the products table. -/
abbrev ProductTable := List Product

namespace ProductTable

/-- Whether the list of numbers `a` comes before `b`: at the first difference the smaller one. -/
def listLt : List Nat → List Nat → Bool
  | [], [] => false
  | [], _ :: _ => true
  | _ :: _, [] => false
  | a :: as, b :: bs => a < b || (a == b && listLt as bs)

/-- The position of a row among the times of creation; none comes last. -/
def creationKey (p : Product) : List Nat :=
  match p.created with
  | some created => 0 :: created.components
  | none => [1]

/-- Whether a row comes before another one: by creation, then by id. -/
def before (p q : Product) : Bool :=
  listLt (creationKey p) (creationKey q)
    || (creationKey p == creationKey q && decide (p.id < q.id))

/-- Put a row into an ordered list of rows, behind those that do not come after it. -/
def insert (p : Product) : List Product → List Product
  | [] => [p]
  | q :: rest => if before p q then p :: q :: rest else q :: insert p rest

/-- The rows in order. -/
def sort (rows : List Product) : List Product := rows.foldl (fun sorted p => insert p sorted) []

/-- The rows of a company in order. -/
def query (table : ProductTable) (company : String) : List Product :=
  sort (table.filter (·.company = company))

/-- Sorting keeps the rows and only changes their order. -/
theorem insert_perm (p : Product) (rows : List Product) : (insert p rows).Perm (p :: rows) := by
  induction rows with
  | nil => exact .refl _
  | cons q rest ih =>
    unfold insert
    split
    · exact .refl _
    · exact (ih.cons q).trans (.swap p q rest)

end ProductTable

namespace Catalog

/-- The products table behind a database that may answer with a failure. A failure of the database
or of the system is logged and becomes a failed query; any other one is passed on. -/
def ofTable (table : ProductTable) (fault : Option Failure) : Catalog where
  listByCompany company :=
    match fault with
    | none => .ok (table.query company)
    | some failure =>
      if failure.IsDatabaseError then
        .error { failure := .productQuery failure.message, report := some failure.message }
      else .error { failure }

/-- A plain list of products, in the order in which they stand, or a failure. -/
def ofList (products : List Product) (fault : Option Failure) : Catalog where
  listByCompany company :=
    match fault with
    | none => .ok (products.filter (·.company = company))
    | some failure => .error { failure }

end Catalog

end PhotoArchive
