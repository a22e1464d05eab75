import PhotoArchive.Proofs.Export.History
import PhotoArchive.Proofs.Storage.Files
import PhotoArchive.Proofs.Storage.Objects

/-!
# Assembling from a directory or from a bucket

The same blobs give the same archive, whether they are files below a root or objects in a bucket, and
what is missing in one place is missing in the other one in the same words.

## Main definitions

- `Directory.fileKeys` — the keys that can be names of files below a root

## Main statements

- `Directory.Keeps.stocked_eq` — a directory and a bucket with the same blobs have the same stock
- `Assembly.assemble_interchangeable` — they give the same outcome
- `Assembly.not_forall_interchangeable` — but not if the archive has no room for all pieces of a blob

## Design notes

A directory delivers as much of a blob as a buffer has room for. If a bucket delivers less at a time,
there are more writes to the archive, so both outcomes are the same only if the archive takes all of
them, or if the bucket delivers in full as well.
-/

namespace PhotoArchive

/-! ## The same stock -/

namespace Directory

variable {root : FileName} {t : FileTree} {blobs : List (String × Bytes)}

/-- Under keys that can be names of files, a directory and a bucket with the same blobs have the same
stock. -/
theorem Keeps.stocked_eq (h : Keeps root t blobs) {key : Path} (hfile : key.isDirectory = false)
    (hkey : CanName root key) : stocked root t key = Bucket.stocked blobs key := by
  unfold stocked Bucket.stocked
  rw [hkey.findFile_eq]
  rcases h.openFile hfile hkey with ⟨id, data, hlookup, hopen, hcontent⟩ |
    ⟨hlookup, fault, hopen, hfault⟩
  · rw [hlookup, hopen, ← hcontent]
    rfl
  · rw [hlookup, hopen]
    rcases hfault with rfl | rfl | rfl <;> rfl

/-- The keys that can be names of files below a root. -/
def fileKeys (root : FileName) : Set String :=
  {value | ∃ key : Path, key.value = value ∧ key.isDirectory = false ∧ CanName root key}

theorem Keeps.agreesOn (h : Keeps root t blobs) :
    (Stock.ofRemains (stocked root t) (.ok ())).AgreesOn
      (.ofRemains (Bucket.stocked blobs) (.ok ())) (fileKeys root) where
  openBlob key hkey := by
    obtain ⟨key', hvalue, hfile, hcan⟩ := hkey
    obtain rfl : key' = key := Path.ext hvalue
    exact h.stocked_eq hfile hcan
  closeReader := rfl
  closeSession := rfl

end Directory

/-! ## The same outcome -/

namespace Assembly

open Zip (Writer)

variable {χ : Type} {root : FileName} {t : FileTree} {blobs : List (String × Bytes)}
  {store : ObjectStore χ} {bucket : Bucket} {K : store.Keeps bucket blobs}
  {references : List PhotoReference} {w₁ : Workshop Directory.State Writer}
  {w₂ : Workshop (Bucket.State χ) Writer}

/-- However blobs are copied, if they are copied alike, the outcome is the same. -/
theorem assemble_sameOutcome (hkept : Directory.Keeps root t blobs) {gateway : ArchiveGateway Writer}
    (L : Linkage (Directory.source root) (Bucket.source store bucket) (Directory.fileKeys root)
      gateway gateway)
    (hsources : L.sources
      = (Directory.serves root t).correspondenceOn (Bucket.serves K) hkept.agreesOn)
    (harchives : ∀ {a b}, L.archives.Similar a b → Indistinct a b)
    (htree : w₁.storage.tree = t) (hready : K.Ready w₂.storage.store)
    (hpool : L.Pools w₁.pool w₂.pool) (hledger : w₁.ledger = w₂.ledger)
    (hkeys : ∀ reference ∈ references, Directory.CanName root reference.blobKey) :
    SameOutcome ((assemble (Directory.source root) gateway references).run w₁).1
      ((assemble (Bucket.source store bucket) gateway references).run w₂).1 := by
  obtain ⟨session₁, s₁, hnew₁, hidle₁⟩ := (Directory.serves_opens hkept).opened rfl htree
  obtain ⟨session₂, s₂, hnew₂, hidle₂⟩ := (Bucket.serves_opens K).opened rfl hready
  have hidle : L.sources.Idle session₁ session₂ s₁ s₂ := by
    rw [hsources]
    exact ⟨hidle₁, hidle₂⟩
  have hledgers : Accounts.sameLedger.Fit w₁.ledger w₁.log w₂.ledger w₂.log := hledger
  have hfile : ∀ reference ∈ references, reference.blobKey.value ∈ Directory.fileKeys root :=
    fun reference hreference => ⟨_, rfl, reference.blobKey_file, hkeys reference hreference⟩
  exact .of_alike (assemble_linked_of_session L hfile hnew₁ hnew₂ hidle hpool hledgers) harchives

/-- If the bucket delivers in full, what the archive has room for does not matter. -/
theorem assemble_sameOutcome_of_isInFull (hkept : Directory.Keeps root t blobs) (hfull : K.IsInFull)
    (htree : w₁.storage.tree = t) (hready : K.Ready w₂.storage.store)
    (hpool : w₁.pool = w₂.pool) (hledger : w₁.ledger = w₂.ledger) (file : File) (limit : Int)
    (hkeys : ∀ reference ∈ references, Directory.CanName root reference.blobKey) :
    SameOutcome
      ((assemble (Directory.source root) (Zip.gateway file .stored limit) references).run w₁).1
      ((assemble (Bucket.source store bucket) (Zip.gateway file .stored limit) references).run
        w₂).1 := by
  have hstep := BlobSource.Serves.isInStep_of_isInFull hkept.agreesOn
    (Directory.serves_isInFull root t) (Bucket.serves_isInFull hfull)
  exact assemble_sameOutcome hkept
    (lockstep hstep (.refl (Zip.gateway file .stored limit)) .trivial) rfl indistinct_of_eq htree
    hready ⟨hpool, trivial⟩ hledger hkeys

/-- A directory and a bucket with the same blobs are interchangeable: assemblies from them fail with the
same failure, or they give the same archive, with the same photos written and the same ones skipped. -/
theorem assemble_interchangeable (hkept : Directory.Keeps root t blobs)
    (htree : w₁.storage.tree = t) (hready : K.Ready w₂.storage.store)
    (hpool : LendAlike w₁.pool w₂.pool) (hledger : w₁.ledger = w₂.ledger) {file : File}
    (hfile : file.AcceptsAll ∨ K.IsInFull ∧ w₁.pool = w₂.pool) (limit : Int)
    (hkeys : ∀ reference ∈ references, Directory.CanName root reference.blobKey) :
    SameOutcome
      ((assemble (Directory.source root) (Zip.gateway file .stored limit) references).run w₁).1
      ((assemble (Bucket.source store bucket) (Zip.gateway file .stored limit) references).run
        w₂).1 := by
  rcases hfile with haccepts | ⟨hfull, hsame⟩
  · exact assemble_sameOutcome hkept
      (anyPieces file limit (Directory.serves root t) (Bucket.serves K) hkept.agreesOn haccepts) rfl
      indistinct_of_twins htree hready hpool hledger hkeys
  · exact assemble_sameOutcome_of_isInFull hkept hfull htree hready hsame hledger file limit hkeys

/-- From a new pool, either buffers can be taken or none can be made, whoever takes them. -/
theorem lendAlike_of_free {pool : BufferPool} (h : pool.free = []) : LendAlike pool pool := by
  cases hfault : pool.refusal? with
  | none =>
    have hready : pool.IsReady := by
      refine ⟨by simp [h], ?_⟩
      simpa [BufferPool.refusal?, h] using hfault
    exact .inl ⟨hready, hready⟩
  | some fault => exact .inr ⟨fault, hfault, hfault⟩

/-! ## Samples -/

/-- Blobs of which the last one is larger than the archive of a sample. -/
def sampleBlobs : List (String × Bytes) :=
  [("box/a.jpg", [1, 2, 3, 4, 5, 6]), ("box/b", [7, 8]), ("c", List.replicate 80 9)]

/-- The root of a directory with these blobs. -/
def sampleRoot : FileName := .ofString "store"

/-- The bucket with these blobs. -/
def sampleBucket : Bucket := { endpoint := "http://localhost:9000", name := "photos" }

/-- A pool whose buffers have room for the largest blob. -/
def samplePool : BufferPool := { bufferSize := 100, bufferSize_pos := by decide, maxRetained := 1 }

/-- A workshop with the directory. -/
def directoryWorkshop : Workshop Directory.State Writer where
  storage := { tree := .holding sampleRoot.names sampleBlobs }
  pool := samplePool
  ledger := { company := "c" }

/-- A workshop with the bucket. -/
def bucketWorkshop : Workshop (Bucket.State ScriptedStore) Writer where
  storage := { store := { script := ScriptedStore.scriptOf sampleBlobs } }
  pool := samplePool
  ledger := { company := "c" }

theorem keeps_sampleBlobs :
    Directory.Keeps sampleRoot (.holding sampleRoot.names sampleBlobs) sampleBlobs := by
  have hnames : sampleRoot.names = ["store"] := by decide
  have hname : ∀ name ∈ sampleRoot.names, FileTree.IsName name := by
    rw [hnames]
    rintro name (_ | ⟨_, ⟨⟩⟩)
    exact ⟨by decide, by decide, by decide, by decide +kernel, by decide +kernel⟩
  have hapart : FileTree.AreApart sampleBlobs := by
    unfold FileTree.AreApart
    decide +kernel
  exact Directory.keeps_holding (FileName.isProper_ofString "store") (by decide +kernel) (by decide)
    hname (by decide +kernel) hapart

/-- Photos that are there, one that is missing, and two under the key of a directory and below a
file. -/
def keyedReferences : List PhotoReference :=
  [⟨⟨"a.jpg", by decide⟩, ⟨"box/a.jpg", by decide⟩, "p", by decide, by decide⟩,
    ⟨⟨"d.jpg", by decide⟩, ⟨"box/d.jpg", by decide⟩, "p", by decide, by decide⟩,
    ⟨⟨"box.jpg", by decide⟩, ⟨"box", by decide⟩, "p", by decide, by decide⟩,
    ⟨⟨"e.jpg", by decide⟩, ⟨"box/b/e.jpg", by decide⟩, "p", by decide, by decide⟩,
    ⟨⟨"b.jpg", by decide⟩, ⟨"box/b", by decide⟩, "p", by decide, by decide⟩]

/-- The photo that is larger than the archive. -/
def largeReferences : List PhotoReference :=
  [⟨⟨"c", by decide⟩, ⟨"c", by decide⟩, "p", by decide, by decide⟩]

theorem canName_keyedReferences :
    ∀ reference ∈ keyedReferences, Directory.CanName sampleRoot reference.blobKey := by
  rintro reference (_ | ⟨_, _ | ⟨_, _ | ⟨_, _ | ⟨_, _ | ⟨_, ⟨⟩⟩⟩⟩⟩⟩) <;>
    exact ⟨by decide, by decide +kernel, by decide +kernel, by decide +kernel, by decide +kernel⟩

theorem canName_largeReferences :
    ∀ reference ∈ largeReferences, Directory.CanName sampleRoot reference.blobKey := by
  rintro reference (_ | ⟨_, ⟨⟩⟩)
  exact ⟨by decide, by decide +kernel, by decide +kernel, by decide +kernel, by decide +kernel⟩

theorem assemble_interchangeable_sample :
    ((assemble (Bucket.source (ScriptedStore.store.sparing 1) sampleBucket)
      (Zip.gateway {} .stored Zip.standardLimit) keyedReferences).run
        bucketWorkshop).1.toOption.map (fun result => (result.written, result.skips.length))
      = some (2, 3) ∧
    SameOutcome
      ((assemble (Directory.source sampleRoot) (Zip.gateway {} .stored Zip.standardLimit)
        keyedReferences).run directoryWorkshop).1
      ((assemble (Bucket.source (ScriptedStore.store.sparing 1) sampleBucket)
        (Zip.gateway {} .stored Zip.standardLimit) keyedReferences).run bucketWorkshop).1 ∧
    SameOutcome
      ((assemble (Directory.source sampleRoot)
        (Zip.gateway (.withCapacity 100) .stored Zip.standardLimit) largeReferences).run
          directoryWorkshop).1
      ((assemble (Bucket.source ScriptedStore.store sampleBucket)
        (Zip.gateway (.withCapacity 100) .stored Zip.standardLimit) largeReferences).run
          bucketWorkshop).1 := by
  refine ⟨by decide +kernel, ?_, ?_⟩
  · let K := (ScriptedStore.keeps sampleBucket sampleBlobs).sparing Nat.one_pos
    have hready : K.Ready bucketWorkshop.storage.store := rfl
    exact assemble_interchangeable keeps_sampleBlobs rfl hready (lendAlike_of_free rfl) rfl
      (.inl fun _ _ _ => rfl) Zip.standardLimit canName_keyedReferences
  · exact assemble_interchangeable keeps_sampleBlobs rfl rfl (lendAlike_of_free rfl) rfl
      (.inr ⟨ScriptedStore.keeps_isInFull _ _, rfl⟩) Zip.standardLimit canName_largeReferences

set_option maxRecDepth 2000 in
/-- An archive in which there is no room for a blob may still have room for some of its pieces. -/
theorem not_forall_interchangeable :
    ¬ ∀ {χ : Type} {root : FileName} {t : FileTree} {blobs : List (String × Bytes)}
      {store : ObjectStore χ} {bucket : Bucket} (K : store.Keeps bucket blobs)
      {w₁ : Workshop Directory.State Writer} {w₂ : Workshop (Bucket.State χ) Writer} (file : File)
      {references : List PhotoReference}, Directory.Keeps root t blobs → w₁.storage.tree = t →
      K.Ready w₂.storage.store → LendAlike w₁.pool w₂.pool → w₁.pool = w₂.pool →
      w₁.ledger = w₂.ledger →
      (∀ reference ∈ references, Directory.CanName root reference.blobKey) →
      SameOutcome
        ((assemble (Directory.source root) (Zip.gateway file .stored Zip.standardLimit)
          references).run w₁).1
        ((assemble (Bucket.source store bucket) (Zip.gateway file .stored Zip.standardLimit)
          references).run w₂).1 := by
  intro h
  have hdirectory : ((assemble (Directory.source sampleRoot)
      (Zip.gateway (.withCapacity 100) .stored Zip.standardLimit) largeReferences).run
        directoryWorkshop).1.isOk = true := by
    -- As from a bucket that delivers in full: walking through a tree is nothing to be evaluated.
    have htree : directoryWorkshop.storage.tree = .holding sampleRoot.names sampleBlobs := rfl
    have hready : (ScriptedStore.keeps sampleBucket sampleBlobs).Ready bucketWorkshop.storage.store :=
      rfl
    have hfull := assemble_sameOutcome_of_isInFull keeps_sampleBlobs
      (ScriptedStore.keeps_isInFull sampleBucket sampleBlobs) htree hready rfl rfl
      (.withCapacity 100) Zip.standardLimit canName_largeReferences
    rw [hfull.isOk_eq]
    decide +kernel
  have hbucket : ((assemble (Bucket.source (ScriptedStore.store.sparing 40) sampleBucket)
      (Zip.gateway (.withCapacity 100) .stored Zip.standardLimit) largeReferences).run
        bucketWorkshop).1.isOk = false := by
    decide +kernel
  have hforty : 0 < 40 := by decide
  have hsame := @h _ _ _ _ _ _ ((ScriptedStore.keeps sampleBucket sampleBlobs).sparing hforty)
    directoryWorkshop bucketWorkshop (.withCapacity 100) _ keeps_sampleBlobs rfl rfl
    (lendAlike_of_free rfl) rfl rfl canName_largeReferences
  exact Bool.false_ne_true (hbucket.symm.trans (hsame.isOk_eq.symm.trans hdirectory))

end Assembly

end PhotoArchive
