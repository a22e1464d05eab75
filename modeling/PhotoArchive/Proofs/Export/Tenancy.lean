import PhotoArchive.Proofs.Catalog.Order
import PhotoArchive.Proofs.Export.Accounts
import PhotoArchive.Proofs.Export.Agreement
import PhotoArchive.Proofs.Locator.Keys
import PhotoArchive.Proofs.Storage.Sessions

/-!
# Companies do not see each other

What an export of a company ends with depends on the rows of this company and on what the storage
says under the keys of its photos. Rows of other companies, other blobs, the order of the rows in
the table and everything that was asked of the storage before do not show.

## Main statements

- `Exporter.exportPhotos_tenancy` — exports from a products table and a storage or a bucket
-/

namespace PhotoArchive.Exporter

open PhotoArchive.Action

variable {σ₁ σ₂ τ : Type}

/-- The exporter of the companies in a products table. -/
def ofTable {σ : Type} (table : ProductTable) (fault : Option Failure) (locator : Locator)
    (source : BlobSource σ) (gateway : ArchiveGateway τ) : Exporter σ τ where
  catalog := .ofTable table fault
  locator
  source
  gateway

/-- The keys of the photos of a company in a products table. -/
def companyKeys (collection company : String) (table : ProductTable) : Set String :=
  Locator.photoKeys collection (table.filter (·.company = company))

section Tables

variable {collection company : String} {locator : Locator} {table : ProductTable}
  {fault : Option Failure}

theorem blobKey_mem_companyKeys (hlocator : Locator.make collection = .ok locator)
    {products : List Product}
    (hlist : (Catalog.ofTable table fault).listByCompany company = .ok products)
    {reference : PhotoReference} (h : reference ∈ Locator.references (locator.slots products)) :
    reference.blobKey.value ∈ companyKeys collection company table := by
  obtain ⟨p, hp, hplace⟩ := Locator.blobKey_mem_photoKeys hlocator h
  refine ⟨p, ?_, hplace⟩
  unfold Catalog.ofTable at hlist
  cases fault with
  | none =>
    cases hlist
    obtain ⟨htable, hcompany⟩ := ProductTable.mem_query.1 hp
    exact List.mem_filter.2 ⟨htable, decide_eq_true hcompany⟩
  | some failure =>
    simp only at hlist
    split at hlist <;> cases hlist

/-- Exports of a company from two tables agree if the tables have the same rows of the company and
the storages serve the keys of their photos alike. -/
theorem exportPhotos_ofTable_keep {source₁ : BlobSource σ₁} {source₂ : BlobSource σ₂}
    {table₁ table₂ : ProductTable}
    (A : source₁.Agreement source₂ (companyKeys collection company table₁))
    (hlocator : Locator.make collection = .ok locator) (hids₁ : table₁.HasUniqueIds)
    (hids₂ : table₂.HasUniqueIds)
    (hrows : ∀ p, p.company = company → (p ∈ table₁ ↔ p ∈ table₂)) (fault : Option Failure)
    (gateway : ArchiveGateway τ) :
    Keep (Workshop.Alike A.Closed Eq)
      ((ofTable table₁ fault locator source₁ gateway).exportPhotos company)
      ((ofTable table₂ fault locator source₂ gateway).exportPhotos company) := by
  have hcatalog : (Catalog.ofTable table₁ fault).listByCompany company
      = (Catalog.ofTable table₂ fault).listByCompany company := by
    simp only [Catalog.ofTable, ProductTable.query_congr hids₁ hids₂ hrows]
  refine exportPhotos_keep (ofTable table₁ fault locator source₁ gateway)
    (ofTable table₂ fault locator source₂ gateway) A (.refl gateway) hcatalog rfl ?_
  exact fun products hlist reference => blobKey_mem_companyKeys hlocator hlist

end Tables

/-- An export of a company only depends on the rows of the company in the table and on what the
storage says under the keys of its photos: the failure is the same, or the archive, the count and
the skips are. -/
theorem exportPhotos_tenancy {collection company : String} {locator : Locator}
    (hlocator : Locator.make collection = .ok locator) {table₁ table₂ : ProductTable}
    (hids₁ : table₁.HasUniqueIds) (hids₂ : table₂.HasUniqueIds)
    (hrows : ∀ p, p.company = company → (p ∈ table₁ ↔ p ∈ table₂)) (fault : Option Failure)
    (gateway : ArchiveGateway τ) :
    (∀ w₁ w₂ : Workshop Scripted.Storage τ,
      w₁.Alike (Scripted.Storage.AgreesOn (companyKeys collection company table₁)) Eq w₂ →
      let source := Scripted.source
      let run₁ := ((ofTable table₁ fault locator source gateway).exportPhotos company).run w₁
      let run₂ := ((ofTable table₂ fault locator source gateway).exportPhotos company).run w₂
      run₁.1 = run₂.1 ∧
        run₁.2.Alike (Scripted.Storage.AgreesOn (companyKeys collection company table₁)) Eq run₂.2) ∧
    ∀ (bucket : Bucket) (w₁ w₂ : Workshop (Bucket.State ScriptedStore) τ),
      w₁.Alike (Bucket.State.AgreesOn (companyKeys collection company table₁)) Eq w₂ →
      let source := Bucket.source ScriptedStore.store bucket
      let run₁ := ((ofTable table₁ fault locator source gateway).exportPhotos company).run w₁
      let run₂ := ((ofTable table₂ fault locator source gateway).exportPhotos company).run w₂
      run₁.1 = run₂.1 ∧
        run₁.2.Alike (Bucket.State.AgreesOn (companyKeys collection company table₁)) Eq run₂.2 := by
  refine ⟨fun w₁ w₂ hw => ?_, fun bucket w₁ w₂ hw => ?_⟩
  · exact (exportPhotos_ofTable_keep (Scripted.agreement _) hlocator hids₁ hids₂ hrows fault gateway
      w₁ w₂ hw).fst_eq
  · exact (exportPhotos_ofTable_keep (Bucket.agreement (ScriptedStore.agreement _) bucket) hlocator
      hids₁ hids₂ hrows fault gateway w₁ w₂ hw).fst_eq

/-- The rows of a company, and among them a row of another one. -/
def sharedTable : ProductTable :=
  [{ id := "q", company := "c", photos := some [some "b.jpg"] },
    { id := "x", company := "d", photos := some [some "a.jpg"] },
    { id := "p", company := "c", photos := some [some "a.jpg", some "lost.jpg"] }]

/-- The rows of the company alone, in another order. -/
def ownTable : ProductTable :=
  [{ id := "p", company := "c", photos := some [some "a.jpg", some "lost.jpg"] },
    { id := "q", company := "c", photos := some [some "b.jpg"] }]

/-- What is stored for both companies. -/
def sharedBytes : List (String × Bytes) :=
  [("photos/x/a.jpg", [9]), ("photos/p/a.jpg", [1, 2, 3]), ("photos/q/b.jpg", [4])]

/-- What is stored for the company alone. -/
def ownBytes : List (String × Bytes) := [("photos/q/b.jpg", [4]), ("photos/p/a.jpg", [1, 2, 3])]

/-- A workshop with a storage of any kind. -/
def storeroom {σ : Type} (storage : σ) : Workshop σ Zip.Writer where
  storage
  pool := sampleWorkshop.pool
  ledger := { company := "c" }

/-- A workshop whose storage has some bytes under some keys. -/
def shelf (stored : List (String × Bytes)) : Workshop Scripted.Storage Zip.Writer :=
  storeroom { script := { blobs := stored.map fun (key, rest) =>
    (key, { delivery := { rest }, size := none }) } }

/-- A workshop whose bucket has them. -/
def bucketShelf (stored : List (String × Bytes)) :
    Workshop (Bucket.State ScriptedStore) Zip.Writer :=
  storeroom { store := { script := { objects := stored.map fun (key, rest) =>
    (key, { delivery := { rest }, length := none }) } } }

theorem mem_companyKeys_sharedTable {key : String}
    (h : key ∈ companyKeys "/photos/" "c" sharedTable) :
    key ∈ ["photos/p/a.jpg", "photos/p/lost.jpg", "photos/q/b.jpg"] := by
  obtain ⟨p, hp, filename, hname, rfl⟩ := h
  have hcollection : Locator.collectionText "/photos/" = "photos/" := by decide
  rw [hcollection]
  have hrow : p ∈ ownTable := by
    simpa [sharedTable, ownTable, or_comm] using hp
  rcases List.mem_pair.1 hrow with rfl | rfl
  · rcases List.mem_pair.1 hname with hname | hname <;> cases hname <;> decide
  · cases List.mem_singleton.1 hname
    decide

theorem shelf_alike : (shelf sharedBytes).Alike
    (Scripted.Storage.AgreesOn (companyKeys "/photos/" "c" sharedTable)) Eq (shelf ownBytes) := by
  refine .intro ⟨rfl, rfl, fun key hkey => ?_⟩ .none
  have hblobs : ∀ key ∈ ["photos/p/a.jpg", "photos/p/lost.jpg", "photos/q/b.jpg"],
      ((shelf sharedBytes).storage.script.blobs.find? fun blob => blob.1 = key)
        = (shelf ownBytes).storage.script.blobs.find? fun blob => blob.1 = key := by
    decide +kernel
  exact hblobs key (mem_companyKeys_sharedTable hkey)

theorem bucketShelf_alike : (bucketShelf sharedBytes).Alike
    (Bucket.State.AgreesOn (companyKeys "/photos/" "c" sharedTable)) Eq (bucketShelf ownBytes) := by
  refine .intro ⟨rfl, rfl, fun key hkey => ?_⟩ .none
  have hobjects : ∀ key ∈ ["photos/p/a.jpg", "photos/p/lost.jpg", "photos/q/b.jpg"],
      ((bucketShelf sharedBytes).storage.store.script.objects.find? fun object => object.1 = key)
        = (bucketShelf ownBytes).storage.store.script.objects.find? fun object =>
          object.1 = key := by
    decide +kernel
  exact hobjects key (mem_companyKeys_sharedTable hkey)

theorem exists_result {outcome₁ outcome₂ : Except Failure ExportResult} {written skipped : Nat}
    (hcounts : outcome₁.toOption.map (fun result => (result.written, result.skips.length))
      = some (written, skipped)) (hsame : outcome₁ = outcome₂) :
    ∃ result, result.written = written ∧ result.skips.length = skipped ∧
      outcome₁ = .ok result ∧ outcome₂ = .ok result := by
  cases outcome₁ with
  | error failure => cases hcounts
  | ok result =>
    cases hcounts
    exact ⟨result, rfl, rfl, rfl, hsame.symm⟩

/-- Two photos of the company are there and one is not, whatever stands beside them. -/
theorem exportPhotos_tenancy_sample :
    let locator : Locator := { collection := ⟨"photos/", by decide⟩ }
    let gateway := Zip.gateway {} .stored Zip.standardLimit
    let bucket := Bucket.source ScriptedStore.store ⟨"http://localhost:9000", "photos"⟩
    (∃ result, result.written = 2 ∧ result.skips.length = 1 ∧
      (((ofTable sharedTable none locator Scripted.source gateway).exportPhotos "c").run
        (shelf sharedBytes)).1 = .ok result ∧
      (((ofTable ownTable none locator Scripted.source gateway).exportPhotos "c").run
        (shelf ownBytes)).1 = .ok result) ∧
    ∃ result, result.written = 2 ∧ result.skips.length = 1 ∧
      (((ofTable sharedTable none locator bucket gateway).exportPhotos "c").run
        (bucketShelf sharedBytes)).1 = .ok result ∧
      (((ofTable ownTable none locator bucket gateway).exportPhotos "c").run
        (bucketShelf ownBytes)).1 = .ok result := by
  intro locator gateway bucket
  have hlocator : Locator.make "/photos/" = .ok locator := by rfl
  have hrows : ∀ p, p.company = "c" → (p ∈ sharedTable ↔ p ∈ ownTable) := by
    intro p hp
    have hother : p ≠ { id := "x", company := "d", photos := some [some "a.jpg"] } := by
      rintro rfl
      simp at hp
    simp [sharedTable, ownTable, hother, or_comm]
  obtain ⟨hscripted, hbucket⟩ := exportPhotos_tenancy hlocator
    (by decide : sharedTable.HasUniqueIds) (by decide : ownTable.HasUniqueIds) hrows none gateway
  constructor
  · refine exists_result ?_ (hscripted (shelf sharedBytes) (shelf ownBytes) shelf_alike).1
    decide +kernel
  · refine exists_result ?_
      (hbucket _ (bucketShelf sharedBytes) (bucketShelf ownBytes) bucketShelf_alike).1
    decide +kernel

end PhotoArchive.Exporter
