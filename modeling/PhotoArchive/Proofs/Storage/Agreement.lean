import PhotoArchive.Proofs.Agreement
import PhotoArchive.Storage.ObjectStore
import PhotoArchive.Storage.Scripted

/-!
# Storages that agree on some keys

Two storages may hold different blobs and have different pasts. If they serve the blobs of some keys
alike, no one who only asks for these keys can tell them apart.

## Main definitions

- `ObjectStore.Agreement` — two object stores serve the objects of some keys alike
- `Scripted.Script.AgreesOn`, `Scripted.agreement` — scripts that say the same of some keys
- `ScriptedStore.Script.AgreesOn`, `ScriptedStore.agreement` — the same for object stores
-/

namespace PhotoArchive

open PhotoArchive.Action

/-- Two object stores whose answers cannot be told apart by those who only ask for some keys,
whichever clients they use. -/
structure ObjectStore.Agreement {χ₁ χ₂ : Type} (store₁ : ObjectStore χ₁) (store₂ : ObjectStore χ₂)
    (keys : Set String) where
  /-- Stores that fit together while no body is read. -/
  Idle : χ₁ → χ₂ → Prop
  /-- Stores that fit together while two bodies are read. -/
  Reading : BodyId → BodyId → χ₁ → χ₂ → Prop
  enter : ∀ endpoint,
    Agree Idle (store₁.enter endpoint) (store₂.enter endpoint) (fun _ _ => Idle) Idle
  exit : ∀ client₁ client₂ x₁ x₂, Idle x₁ x₂ →
    Idle (store₁.exit client₁ x₁) (store₂.exit client₂ x₂)
  headBucket : ∀ client₁ client₂ bucket,
    Agree Idle (store₁.headBucket client₁ bucket) (store₂.headBucket client₂ bucket)
      (fun _ _ => Idle) Idle
  getObject : ∀ client₁ client₂ bucket, ∀ key ∈ keys,
    Agree Idle (store₁.getObject client₁ bucket key) (store₂.getObject client₂ bucket key)
      (fun object₁ object₂ x₁ x₂ => object₁.length = object₂.length ∧
        Reading object₁.body object₂.body x₁ x₂)
      Idle
  readBody : ∀ body₁ body₂ room,
    Keep (Reading body₁ body₂) (store₁.readBody body₁ room) (store₂.readBody body₂ room)
  closeBody : ∀ body₁ body₂,
    Agree (Reading body₁ body₂) (store₁.closeBody body₁) (store₂.closeBody body₂)
      (fun _ _ => Idle) Idle

/-! ## Scripted storages -/

namespace Scripted

/-- Two scripts say the same of sessions and of the blobs with some keys. -/
structure Script.AgreesOn (keys : Set String) (script₁ script₂ : Script) : Prop where
  sessionFault : script₁.sessionFault = script₂.sessionFault
  sessionCloseFault : script₁.sessionCloseFault = script₂.sessionCloseFault
  blobs : ∀ key ∈ keys, (script₁.blobs.find? fun blob => blob.1 = key)
    = script₂.blobs.find? fun blob => blob.1 = key

namespace Storage

/-- Two storages with scripts that agree; what was asked of them before may differ. -/
def AgreesOn (keys : Set String) (s₁ s₂ : Storage) : Prop := s₁.script.AgreesOn keys s₂.script

/-- Two storages have the same reader under two numbers. -/
def ShareReader (reader₁ reader₂ : ReaderId) (s₁ s₂ : Storage) : Prop :=
  ∃ r, s₁.readers[reader₁]? = some r ∧ s₂.readers[reader₂]? = some r

variable {keys : Set String} {s₁ s₂ : Storage} {reader₁ reader₂ : ReaderId}

theorem ShareReader.setReader (h : ShareReader reader₁ reader₂ s₁ s₂) (r : Reader) :
    ShareReader reader₁ reader₂ (s₁.setReader reader₁ r) (s₂.setReader reader₂ r) := by
  obtain ⟨_, h₁, h₂⟩ := h
  exact ⟨r, List.getElem?_set_self (List.getElem?_eq_some_iff.1 h₁).1,
    List.getElem?_set_self (List.getElem?_eq_some_iff.1 h₂).1⟩

/-- Two storages whose scripts agree and that share a reader. -/
def ReadAlike (keys : Set String) (reader₁ reader₂ : ReaderId) (s₁ s₂ : Storage) : Prop :=
  AgreesOn keys s₁ s₂ ∧ ShareReader reader₁ reader₂ s₁ s₂

theorem newSession_alike (h : AgreesOn keys s₁ s₂) :
    Alike (fun _ _ => AgreesOn keys) (AgreesOn keys) s₁.newSession s₂.newSession := by
  unfold newSession
  rw [h.sessionFault]
  cases s₂.script.sessionFault with
  | none => exact .value h
  | some failure => exact .failure h

theorem outcome_alike (fault : Option Failure) (h : AgreesOn keys s₁ s₂) :
    Alike (fun _ _ => AgreesOn keys) (AgreesOn keys) (s₁.outcome fault) (s₂.outcome fault) := by
  cases fault with
  | none => exact .value h
  | some failure => exact .failure h

theorem openBlob_agree (session₁ session₂ : SessionId) {key : Path} (hkey : key.value ∈ keys) :
    Agree (AgreesOn keys) (openBlob session₁ key) (openBlob session₂ key)
      (fun blob₁ blob₂ s₁ s₂ =>
        blob₁.size = blob₂.size ∧ ReadAlike keys blob₁.reader blob₂.reader s₁ s₂)
      (AgreesOn keys) := by
  intro s₁ s₂ h
  have hblob := h.blobs key.value hkey
  simp only [run, openBlob, record]
  rw [hblob]
  cases s₂.script.blobs.find? fun blob => blob.1 = key.value with
  | none => exact .failure h
  | some found =>
    obtain ⟨_, blob⟩ := found
    cases hfault : blob.openFault with
    | some failure =>
      simp only [hfault]
      exact .failure h
    | none =>
      simp only [hfault]
      exact .value ⟨rfl, h, { key := key.value, blob }, by simp, by simp⟩

theorem read_keep (reader₁ reader₂ : ReaderId) (room : Nat) :
    Keep (ReadAlike keys reader₁ reader₂) (read reader₁ room) (read reader₂ room) := by
  intro s₁ s₂ ⟨h, hshare⟩
  have ⟨r, h₁, h₂⟩ := hshare
  simp only [run, read, h₁, h₂]
  cases r.left.next (min room (r.left.piece.getD room)) with
  | error failure => exact .failure ⟨h, hshare.setReader _⟩
  | ok piece => exact .value ⟨rfl, h, hshare.setReader _⟩

theorem closeReader_agree (reader₁ reader₂ : ReaderId) :
    Agree (ReadAlike keys reader₁ reader₂) (closeReader reader₁) (closeReader reader₂)
      (fun _ _ => AgreesOn keys) (AgreesOn keys) := by
  intro s₁ s₂ ⟨h, r, h₁, h₂⟩
  simp only [run, closeReader, h₁, h₂]
  exact outcome_alike _ h

theorem closeSession_agree (session₁ session₂ : SessionId) :
    Agree (AgreesOn keys) (closeSession session₁) (closeSession session₂)
      (fun _ _ => AgreesOn keys) (AgreesOn keys) := by
  intro s₁ s₂ h
  have hfault := h.sessionCloseFault
  simp only [run, closeSession, record]
  rw [hfault]
  exact outcome_alike _ h

end Storage

/-- Storages that follow scripts serve the blobs alike on which their scripts agree. -/
def agreement (keys : Set String) : source.Agreement source keys where
  Closed := Storage.AgreesOn keys
  Idle _ _ := Storage.AgreesOn keys
  Reading _ _ := Storage.ReadAlike keys
  component_eq := rfl
  newSession _ _ := Storage.newSession_alike
  openBlob session₁ session₂ _ := Storage.openBlob_agree session₁ session₂
  read _ _ := Storage.read_keep
  closeReader _ _ := Storage.closeReader_agree
  closeSession := Storage.closeSession_agree

end Scripted

/-! ## Scripted object stores -/

namespace ScriptedStore

/-- Two scripts say the same of clients, of the bucket and of the objects with some keys. -/
structure Script.AgreesOn (keys : Set String) (script₁ script₂ : Script) : Prop where
  enterFault : script₁.enterFault = script₂.enterFault
  headFault : script₁.headFault = script₂.headFault
  objects : ∀ key ∈ keys, (script₁.objects.find? fun object => object.1 = key)
    = script₂.objects.find? fun object => object.1 = key

/-- Two stores with scripts that agree; what was asked of them before may differ. -/
def AgreesOn (keys : Set String) (x₁ x₂ : ScriptedStore) : Prop := x₁.script.AgreesOn keys x₂.script

/-- Two stores have the same body under two numbers. -/
def ShareBody (body₁ body₂ : BodyId) (x₁ x₂ : ScriptedStore) : Prop :=
  ∃ b, x₁.bodies[body₁]? = some b ∧ x₂.bodies[body₂]? = some b

/-- Two stores whose scripts agree and that share a body. -/
def ReadAlike (keys : Set String) (body₁ body₂ : BodyId) (x₁ x₂ : ScriptedStore) : Prop :=
  AgreesOn keys x₁ x₂ ∧ ShareBody body₁ body₂ x₁ x₂

variable {keys : Set String}

theorem enter_agree (endpoint : String) :
    Agree (AgreesOn keys) (enter endpoint) (enter endpoint)
      (fun _ _ => AgreesOn keys) (AgreesOn keys) := by
  intro x₁ x₂ h
  have hfault := h.enterFault
  simp only [run, enter, record]
  rw [hfault]
  cases x₂.script.enterFault with
  | none => exact .value h
  | some failure => exact .failure h

theorem headBucket_agree (client₁ client₂ : ClientId) (bucket : String) :
    Agree (AgreesOn keys) (headBucket client₁ bucket) (headBucket client₂ bucket)
      (fun _ _ => AgreesOn keys) (AgreesOn keys) := by
  intro x₁ x₂ h
  have hfault := h.headFault
  simp only [run, headBucket, record]
  rw [hfault]
  cases x₂.script.headFault with
  | none => exact .value h
  | some failure => exact .failure h

theorem getObject_agree (client₁ client₂ : ClientId) (bucket : String) {key : String}
    (hkey : key ∈ keys) :
    Agree (AgreesOn keys) (getObject client₁ bucket key) (getObject client₂ bucket key)
      (fun object₁ object₂ x₁ x₂ =>
        object₁.length = object₂.length ∧ ReadAlike keys object₁.body object₂.body x₁ x₂)
      (AgreesOn keys) := by
  intro x₁ x₂ h
  have hobject := h.objects key hkey
  simp only [run, getObject, record]
  rw [hobject]
  cases x₂.script.objects.find? fun object => object.1 = key with
  | none => exact .failure h
  | some found =>
    obtain ⟨_, object⟩ := found
    cases hfault : object.getFault with
    | some failure =>
      simp only [hfault]
      exact .failure h
    | none =>
      simp only [hfault]
      exact .value ⟨rfl, h, { key, object }, by simp, by simp⟩

theorem readBody_keep (body₁ body₂ : BodyId) (room : Nat) :
    Keep (ReadAlike keys body₁ body₂) (readBody body₁ room) (readBody body₂ room) := by
  intro x₁ x₂ ⟨h, b, h₁, h₂⟩
  simp only [run, readBody, h₁, h₂]
  cases b.left.next (b.left.piece.getD room) with
  | error failure => exact .failure ⟨h, b, h₁, h₂⟩
  | ok piece =>
    exact .value ⟨rfl, h, { b with left := piece.2 },
      List.getElem?_set_self (List.getElem?_eq_some_iff.1 h₁).1,
      List.getElem?_set_self (List.getElem?_eq_some_iff.1 h₂).1⟩

theorem closeBody_agree (body₁ body₂ : BodyId) :
    Agree (ReadAlike keys body₁ body₂) (closeBody body₁) (closeBody body₂)
      (fun _ _ => AgreesOn keys) (AgreesOn keys) := by
  intro x₁ x₂ ⟨h, b, h₁, h₂⟩
  simp only [run, closeBody, h₁, h₂]
  cases b.object.closeFault with
  | none => exact .value h
  | some failure => exact .failure h

/-- Object stores that follow scripts serve the objects alike on which their scripts agree. -/
def agreement (keys : Set String) : store.Agreement store keys where
  Idle := AgreesOn keys
  Reading := ReadAlike keys
  enter := enter_agree
  exit _ _ _ _ h := h
  headBucket := headBucket_agree
  getObject client₁ client₂ bucket _ := getObject_agree client₁ client₂ bucket
  readBody := readBody_keep
  closeBody := closeBody_agree

end ScriptedStore

end PhotoArchive
