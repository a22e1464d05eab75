import PhotoArchive.Exporter
import PhotoArchive.Proofs.Assembly.Agreement

/-!
# Exports that agree

Exports of a company from two catalogs that list the same products, from storages that serve the
keys of their photos alike and into archives that take entries alike, end alike.

## Main statements

- `Exporter.exportPhotos_lockstep`, `Exporter.exportPhotos_keep` — whole exports
-/

namespace PhotoArchive.Exporter

open PhotoArchive.Action

variable {σ₁ σ₂ τ₁ τ₂ α β : Type} {storages : σ₁ → σ₂ → Prop}
  {pools : BufferPool → BufferPool → Prop} {writers : Option τ₁ → Option τ₂ → Prop}

theorem note_linked (level : Log.Level) (message : String) :
    Keep (Workshop.Linked storages pools .same writers)
      (note level message : Action (Workshop σ₁ τ₁) Unit)
      (note level message : Action (Workshop σ₂ τ₂) Unit) :=
  keep_modify fun _ _ hw => { hw with accounts := Accounts.same.note _ hw.accounts }

theorem failExport_linked (company : String) (stage : FatalStage) (reason : String)
    {ok : α → β → Workshop σ₁ τ₁ → Workshop σ₂ τ₂ → Prop} :
    Agree (Workshop.Linked storages pools .same writers) (failExport company stage reason)
      (failExport company stage reason) ok (Workshop.Linked storages pools .same writers) := by
  cases stage <;> exact (note_linked _ _).bind_same fun _ => agree_fail _

theorem enterSkips_linked (records : List SkipRecord) :
    Keep (Workshop.Linked storages pools .same writers)
      (enterSkips records : Action (Workshop σ₁ τ₁) Unit)
      (enterSkips records : Action (Workshop σ₂ τ₂) Unit) := by
  refine keep_modify fun w₁ w₂ hw => { hw with accounts := ?_ }
  obtain ⟨hledger, hlog⟩ := hw.accounts
  exact ⟨by simp only [hledger], by simp only [hledger, hlog]⟩

variable {e₁ : Exporter σ₁ τ₁} {e₂ : Exporter σ₂ τ₂} {company : String}

/-- Both find the same references, those of the products that the catalog lists. -/
theorem locate_linked
    (hcatalog : e₁.catalog.listByCompany company = e₂.catalog.listByCompany company)
    (hlocator : e₁.locator = e₂.locator) :
    Agree (Workshop.Linked storages pools .same writers) (e₁.locate company) (e₂.locate company)
      (fun references₁ references₂ w₁ w₂ => references₁ = references₂ ∧
        (∃ products, e₁.catalog.listByCompany company = .ok products ∧
          references₁ = Locator.references (e₁.locator.slots products)) ∧
        Workshop.Linked storages pools .same writers w₁ w₂)
      (Workshop.Linked storages pools .same writers) := by
  unfold locate
  rw [← hcatalog, ← hlocator]
  cases e₁.catalog.listByCompany company with
  | ok products =>
    refine (enterSkips_linked _).bind_same fun _ w₁ w₂ hw => ?_
    exact .value ⟨rfl, ⟨products, rfl, rfl⟩, hw⟩
  | error refusal =>
    refine Agree.bind_same (keep_modify fun _ _ hw => ?_) fun _ => ?_
    · exact { hw with accounts := Accounts.same.note _ hw.accounts }
    · cases refusal.failure <;> first | exact failExport_linked _ _ _ | exact agree_fail _

theorem assemble_lockstep {keys : Set String} (A : e₁.source.Agreement e₂.source keys)
    (G : e₁.gateway.Agreement e₂.gateway) (I : BufferPool.Invariant)
    {references : List PhotoReference}
    (hkeys : ∀ reference ∈ references, reference.blobKey.value ∈ keys) :
    Agree (Workshop.Linked A.Closed I.Shared .same fun _ _ => True)
      (e₁.assemble company references) (e₂.assemble company references)
      (Same (Workshop.Linked A.Closed I.Shared .same (Option.Rel G.Fits)))
      (Workshop.Linked A.Closed I.Shared .same (Option.Rel G.Fits)) := by
  refine (Assembly.assemble_lockstep A G I hkeys).attempt_bind
    (fun x y w₁ w₂ hw => ?_) (fun failure => failExport_linked _ _ _) fun _ _ hw => hw
  obtain ⟨rfl, hw⟩ := hw
  exact .value ⟨rfl, hw⟩

/-- Exports agree whose catalogs list the same products of the company, whose storages serve the
keys of their photos alike, and whose archives take entries alike, whatever writers there were
before. -/
theorem exportPhotos_lockstep (e₁ : Exporter σ₁ τ₁) (e₂ : Exporter σ₂ τ₂) {keys : Set String}
    (A : e₁.source.Agreement e₂.source keys) (G : e₁.gateway.Agreement e₂.gateway)
    (I : BufferPool.Invariant)
    (hcatalog : e₁.catalog.listByCompany company = e₂.catalog.listByCompany company)
    (hlocator : e₁.locator = e₂.locator)
    (hkeys : ∀ products, e₁.catalog.listByCompany company = .ok products →
      ∀ reference ∈ Locator.references (e₁.locator.slots products),
        reference.blobKey.value ∈ keys) :
    Agree (Workshop.Linked A.Closed I.Shared .same fun _ _ => True) (e₁.exportPhotos company)
      (e₂.exportPhotos company)
      (Same (Workshop.Linked A.Closed I.Shared .same (Option.Rel G.Fits)))
      (Workshop.Linked A.Closed I.Shared .same (Option.Rel G.Fits)) := by
  have hstart : Agree (Workshop.Linked A.Closed I.Shared .same fun _ _ => True)
      (Action.modify fun w : Workshop σ₁ τ₁ => { w with ledger := { company }, writer := none })
      (Action.modify fun w : Workshop σ₂ τ₂ => { w with ledger := { company }, writer := none })
      (Same (Workshop.Linked A.Closed I.Shared .same (Option.Rel G.Fits)))
      (Workshop.Linked A.Closed I.Shared .same (Option.Rel G.Fits)) :=
    fun _ _ hw => .value ⟨rfl, { hw with accounts := ⟨rfl, hw.accounts.2⟩, writer := .none }⟩
  refine hstart.bind_same fun _ => ?_
  refine (locate_linked hcatalog hlocator).bind fun references₁ references₂ w₁ w₂ hw => ?_
  obtain ⟨rfl, ⟨products, hlist, rfl⟩, hw⟩ := hw
  exact ((assemble_lockstep A G I (hkeys products hlist)).bind_same fun result =>
    (note_linked _ _).bind_same fun _ => keep_pure _) w₁ w₂ { hw with writer := trivial }

theorem exportPhotos_keep (e₁ : Exporter σ₁ τ₁) (e₂ : Exporter σ₂ τ₂) {keys : Set String}
    (A : e₁.source.Agreement e₂.source keys) (G : e₁.gateway.Agreement e₂.gateway)
    (hcatalog : e₁.catalog.listByCompany company = e₂.catalog.listByCompany company)
    (hlocator : e₁.locator = e₂.locator)
    (hkeys : ∀ products, e₁.catalog.listByCompany company = .ok products →
      ∀ reference ∈ Locator.references (e₁.locator.slots products),
        reference.blobKey.value ∈ keys) :
    Keep (Workshop.Alike A.Closed G.Fits) (e₁.exportPhotos company) (e₂.exportPhotos company) :=
  (exportPhotos_lockstep e₁ e₂ A G .trivial hcatalog hlocator hkeys).mono
    (fun _ _ hw => { Workshop.linked_iff_alike.2 hw with writer := trivial })
    (fun _ _ _ _ h => ⟨h.1, Workshop.linked_iff_alike.1 h.2⟩)
    fun _ _ => Workshop.linked_iff_alike.1

end PhotoArchive.Exporter
