import Mathlib.Data.Set.Defs
import PhotoArchive.ArchiveGateway
import PhotoArchive.Storage.Source

/-!
# Actions that agree

Two actions on two states agree if, from states that fit together, they end alike: both with values,
or both with the same failure, and again in states that fit together. What fits together may change
from step to step; there is one condition for the states behind values and one for those behind
failures.

## Main definitions

- `Action.Alike` — how two runs end alike
- `Action.Agree` — two actions end alike whenever their states fit together at the beginning
- `Action.Same` — the values are the same
- `Action.Keep` — two actions agree, with the same values, and fit together as before
- `BlobSource.Agreement` — two blob sources serve the blobs of some keys alike
- `ArchiveGateway.Agreement` — two gateways take entries alike

## Main statements

- `Action.Agree.bind`, `Action.Agree.ensuring`, `Action.Agree.attempt_bind` and others — actions
  agree that are put together in the same way from actions that agree

## Design notes

Which storages fit together depends on what is going on: no session is open, a session is open and
waits for the next blob, or it reads a blob. Sessions and readers may have different numbers on the
two sides. What the other keys give is left open, and so is what happens when they are asked for.
-/

namespace PhotoArchive.Action

variable {σ τ ε α β α' β' : Type}

/-- How two runs end alike: with values, or with the same failure. -/
inductive Alike (ok : α → β → σ → τ → Prop) (err : σ → τ → Prop) :
    Except ε α × σ → Except ε β × τ → Prop
  | value {x : α} {y : β} {s : σ} {t : τ} (h : ok x y s t) : Alike ok err (.ok x, s) (.ok y, t)
  | failure {e : ε} {s : σ} {t : τ} (h : err s t) : Alike ok err (.error e, s) (.error e, t)

/-- Run in states that fit together, two actions end alike. -/
def Agree (pre : σ → τ → Prop) (a : Action σ α) (b : Action τ β) (ok : α → β → σ → τ → Prop)
    (err : σ → τ → Prop) : Prop :=
  ∀ s t, pre s t → Alike ok err (a.run s) (b.run t)

/-- The values are the same, and the states fit together. -/
def Same (fits : σ → τ → Prop) (x y : α) (s : σ) (t : τ) : Prop := x = y ∧ fits s t

/-- Two actions agree, give the same values, and keep together what fits together. -/
def Keep (fits : σ → τ → Prop) (a : Action σ α) (b : Action τ α) : Prop :=
  Agree fits a b (Same fits) fits

section Alike

variable {ok : α → β → σ → τ → Prop} {err : σ → τ → Prop}

theorem Alike.cases {p : Except ε α × σ} {q : Except ε β × τ} (h : Alike ok err p q) :
    (∃ x y s t, p = (.ok x, s) ∧ q = (.ok y, t) ∧ ok x y s t) ∨
      ∃ e s t, p = (.error e, s) ∧ q = (.error e, t) ∧ err s t := by
  cases h with
  | value h => exact .inl ⟨_, _, _, _, rfl, rfl, h⟩
  | failure h => exact .inr ⟨_, _, _, rfl, rfl, h⟩

theorem Alike.of_ok {x : α} {s : σ} {q : Except ε β × τ} (h : Alike ok err (.ok x, s) q) :
    ∃ y t, q = (.ok y, t) ∧ ok x y s t := by
  cases h with
  | value h => exact ⟨_, _, rfl, h⟩

theorem Alike.of_error {e : ε} {s : σ} {q : Except ε β × τ} (h : Alike ok err (.error e, s) q) :
    ∃ t, q = (.error e, t) ∧ err s t := by
  cases h with
  | failure h => exact ⟨_, rfl, h⟩

/-- What is known of runs that end alike, said of other states. -/
theorem Alike.map {σ' τ' : Type} {ok' : α → β → σ' → τ' → Prop} {err' : σ' → τ' → Prop}
    {p : Except ε α × σ} {q : Except ε β × τ} (h : Alike ok err p q) (f : σ → σ') (g : τ → τ')
    (hok : ∀ x y s t, ok x y s t → ok' x y (f s) (g t)) (herr : ∀ s t, err s t → err' (f s) (g t)) :
    Alike ok' err' (p.1, f p.2) (q.1, g q.2) := by
  cases h with
  | value h => exact .value (hok _ _ _ _ h)
  | failure h => exact .failure (herr _ _ h)

/-- Runs that end alike with the same values have the same outcome. -/
theorem Alike.fst_eq {fits : σ → τ → Prop} {p : Except ε α × σ} {q : Except ε α × τ}
    (h : Alike (Same fits) fits p q) : p.1 = q.1 ∧ fits p.2 q.2 := by
  cases h with
  | value h => exact ⟨congrArg Except.ok h.1, h.2⟩
  | failure h => exact ⟨rfl, h⟩

end Alike

variable {pre fits : σ → τ → Prop} {ok : α → β → σ → τ → Prop} {ok' : α' → β' → σ → τ → Prop}
  {err err' : σ → τ → Prop} {a : Action σ α} {b : Action τ β} {f : α → Action σ α'}
  {g : β → Action τ β'}

theorem Agree.mono {pre' : σ → τ → Prop} {ok' : α → β → σ → τ → Prop} (h : Agree pre a b ok err)
    (hpre : ∀ s t, pre' s t → pre s t) (hok : ∀ x y s t, ok x y s t → ok' x y s t)
    (herr : ∀ s t, err s t → err' s t) : Agree pre' a b ok' err' :=
  fun s t hst => (h s t (hpre s t hst)).map id id hok herr

/-- Values that are not looked at again. -/
theorem Keep.forget {b : Action τ α} (h : Keep fits a b) :
    Agree fits a b (fun _ _ => fits) fits :=
  h.mono (fun _ _ hst => hst) (fun _ _ _ _ hsame => hsame.2) fun _ _ hst => hst

/-! ## Single steps -/

theorem keep_pure (x : α) : Keep fits (pure x) (pure x) := fun _ _ hst => .value ⟨rfl, hst⟩

/-- A failure agrees with itself, whatever is asked of values. -/
theorem agree_fail (e : Failure) : Agree err (fail e : Action σ α) (fail e : Action τ β) ok err :=
  fun _ _ hst => .failure hst

theorem keep_ask {p : σ → α} {q : τ → α} (h : ∀ s t, fits s t → p s = q t) :
    Keep fits (ask p) (ask q) := fun s t hst => .value ⟨h s t hst, hst⟩

theorem keep_modify {p : σ → σ} {q : τ → τ} (h : ∀ s t, fits s t → fits (p s) (q t)) :
    Keep fits (modify p) (modify q) := fun s t hst => .value ⟨rfl, h s t hst⟩

/-! ## Steps put together -/

theorem Agree.bind (ha : Agree pre a b ok err)
    (hf : ∀ x y, Agree (ok x y) (f x) (g y) ok' err) : Agree pre (a >>= f) (b >>= g) ok' err := by
  intro s t hst
  obtain ⟨x, y, s', t', hrun, hrun', h⟩ | ⟨e, s', t', hrun, hrun', h⟩ := (ha s t hst).cases
  · rw [run_bind_ok hrun, run_bind_ok hrun']
    exact hf x y s' t' h
  · rw [run_bind_error hrun, run_bind_error hrun']
    exact .failure h

/-- Behind steps with the same value only one value needs to be looked at. -/
theorem Agree.bind_same {b : Action τ α} {g : α → Action τ β'} (ha : Agree pre a b (Same fits) err)
    (hf : ∀ x, Agree fits (f x) (g x) ok' err) : Agree pre (a >>= f) (b >>= g) ok' err := by
  refine ha.bind fun x y s t hst => ?_
  obtain ⟨rfl, hfits⟩ := hst
  exact hf x s t hfits

/-- An outcome with a cleanup behind it. -/
theorem alike_ensuring {mid : σ → τ → Prop} {c : Action σ Unit} {d : Action τ Unit} {s s' : σ}
    {t t' : τ} {p : Except Failure α} {q : Except Failure β} (ha : a.run s = (p, s'))
    (hb : b.run t = (q, t')) (hmid : mid s' t') (hc : Agree mid c d (fun _ _ => fits) err)
    (hend : ∀ s t, fits s t → Alike ok err (p, s) (q, t)) :
    Alike ok err ((a.ensuring c).run s) ((b.ensuring d).run t) := by
  obtain ⟨_, _, s'', t'', hrun, hrun', h⟩ | ⟨e, s'', t'', hrun, hrun', h⟩ :=
    (hc s' t' hmid).cases
  · rw [ensuring_ok ha hrun, ensuring_ok hb hrun']
    exact hend s'' t'' h
  · rw [ensuring_error ha hrun, ensuring_error hb hrun']
    exact .failure h

/-- A cleanup agrees behind values and behind failures. -/
theorem Agree.ensuring {mid : α → β → σ → τ → Prop} {mid' : σ → τ → Prop} {c : Action σ Unit}
    {d : Action τ Unit} (ha : Agree pre a b mid mid')
    (hok : ∀ x y, Agree (mid x y) c d (fun _ _ => ok x y) err)
    (herr : Agree mid' c d (fun _ _ => err) err) :
    Agree pre (a.ensuring c) (b.ensuring d) ok err := by
  intro s t hst
  obtain ⟨x, y, s', t', hrun, hrun', h⟩ | ⟨e, s', t', hrun, hrun', h⟩ := (ha s t hst).cases
  · exact alike_ensuring hrun hrun' h (hok x y) fun _ _ => .value
  · exact alike_ensuring hrun hrun' h herr fun _ _ => .failure

/-- A cleanup leaves the values as they are. -/
theorem Agree.ensuring_same {b : Action τ α} {mid : σ → τ → Prop} {c : Action σ Unit}
    {d : Action τ Unit} (ha : Agree pre a b (Same mid) mid)
    (hc : Agree mid c d (fun _ _ => fits) fits) :
    Agree pre (a.ensuring c) (b.ensuring d) (Same fits) fits := by
  refine ha.ensuring (fun x y s t hst => ?_) hc
  obtain ⟨rfl, hmid⟩ := hst
  exact (hc s t hmid).map id id (fun _ _ _ _ h => ⟨rfl, h⟩) fun _ _ h => h

theorem Agree.onFailure {mid : σ → τ → Prop} {c : Action σ Unit} {d : Action τ Unit}
    (ha : Agree pre a b ok mid) (hc : Agree mid c d (fun _ _ => err) err) :
    Agree pre (a.onFailure c) (b.onFailure d) ok err := by
  intro s t hst
  rw [run_onFailure, run_onFailure]
  obtain ⟨x, y, s', t', hrun, hrun', h⟩ | ⟨e, s', t', hrun, hrun', h⟩ := (ha s t hst).cases
  · rw [hrun, hrun']
    exact .value h
  · rw [hrun, hrun']
    obtain ⟨_, _, s'', t'', hclean, hclean', h⟩ | ⟨_, s'', t'', hclean, hclean', h⟩ :=
      (hc s' t' h).cases
    · simp only [hclean, hclean']
      exact .failure h
    · simp only [hclean, hclean']
      exact .failure h

/-- Behind a step some of whose failures are taken up. -/
theorem Agree.attempt_bind {mid : σ → τ → Prop} {p : Failure → Prop} [DecidablePred p]
    {f : Except Failure α → Action σ α'} {g : Except Failure β → Action τ β'}
    (ha : Agree pre a b ok mid) (hok : ∀ x y, Agree (ok x y) (f (.ok x)) (g (.ok y)) ok' err)
    (herr : ∀ e, Agree mid (f (.error e)) (g (.error e)) ok' err)
    (hpass : ∀ s t, mid s t → err s t) :
    Agree pre (a.attempt p >>= f) (b.attempt p >>= g) ok' err := by
  intro s t hst
  rw [run_bind, run_bind, run_attempt, run_attempt]
  obtain ⟨x, y, s', t', hrun, hrun', h⟩ | ⟨e, s', t', hrun, hrun', h⟩ := (ha s t hst).cases
  · rw [hrun, hrun']
    exact hok x y s' t' h
  · rw [hrun, hrun']
    by_cases he : p e
    · simp only [if_pos he]
      exact herr e s' t' h
    · simp only [if_neg he]
      exact .failure (hpass s' t' h)

/-- Actions on parts that agree, if taking the parts out and putting them back keeps what fits
together. -/
theorem Agree.within {σ' τ' : Type} {mid err' : σ' → τ' → Prop} {a : Action σ' α}
    {b : Action τ' β} {ok' : α → β → σ' → τ' → Prop} {part₁ : σ → σ'} {put₁ : σ' → σ → σ}
    {part₂ : τ → τ'} {put₂ : τ' → τ → τ} (h : Agree mid a b ok' err')
    (hpart : ∀ s t, pre s t → mid (part₁ s) (part₂ t))
    (hok : ∀ x y s t s' t', pre s t → ok' x y s' t' → ok x y (put₁ s' s) (put₂ t' t))
    (herr : ∀ s t s' t', pre s t → err' s' t' → err (put₁ s' s) (put₂ t' t)) :
    Agree pre (a.within part₁ put₁) (b.within part₂ put₂) ok err := by
  intro s t hst
  rw [run_within_eq, run_within_eq]
  exact (h _ _ (hpart s t hst)).map (put₁ · s) (put₂ · t) (fun x y s' t' => hok x y s t s' t' hst)
    fun s' t' => herr s t s' t' hst

theorem keep_refl (a : Action σ α) : Keep Eq a a := by
  rintro s _ rfl
  rcases a.run s with ⟨e | x, s'⟩
  · exact .failure rfl
  · exact .value ⟨rfl, rfl⟩

end PhotoArchive.Action

/-! ## Storages and archives -/

namespace PhotoArchive

open PhotoArchive.Action

/-- Two blob sources whose answers cannot be told apart by those who only ask for some keys. -/
structure BlobSource.Agreement {σ₁ σ₂ : Type} (source₁ : BlobSource σ₁) (source₂ : BlobSource σ₂)
    (keys : Set String) where
  /-- Storages that fit together when no session is open. -/
  Closed : σ₁ → σ₂ → Prop
  /-- Storages that fit together when two sessions wait for the next blob. -/
  Idle : SessionId → SessionId → σ₁ → σ₂ → Prop
  /-- Storages that fit together when two sessions read a blob through two readers. -/
  Reading : SessionId → SessionId → ReaderId → ReaderId → σ₁ → σ₂ → Prop
  component_eq : source₁.component = source₂.component
  newSession : ∀ s₁ s₂, Closed s₁ s₂ →
    Alike Idle Closed (source₁.newSession s₁) (source₂.newSession s₂)
  openBlob : ∀ session₁ session₂ (key : Path), key.value ∈ keys →
    Agree (Idle session₁ session₂) (source₁.openBlob session₁ key) (source₂.openBlob session₂ key)
      (fun blob₁ blob₂ s₁ s₂ => blob₁.size = blob₂.size ∧
        Reading session₁ session₂ blob₁.reader blob₂.reader s₁ s₂)
      (Idle session₁ session₂)
  read : ∀ session₁ session₂ reader₁ reader₂ room,
    Keep (Reading session₁ session₂ reader₁ reader₂)
      (source₁.read reader₁ room) (source₂.read reader₂ room)
  closeReader : ∀ session₁ session₂ reader₁ reader₂,
    Agree (Reading session₁ session₂ reader₁ reader₂)
      (source₁.closeReader reader₁) (source₂.closeReader reader₂)
      (fun _ _ => Idle session₁ session₂) (Idle session₁ session₂)
  closeSession : ∀ session₁ session₂,
    Agree (Idle session₁ session₂)
      (source₁.closeSession session₁) (source₂.closeSession session₂) (fun _ _ => Closed) Closed

/-- Two writers are created that fit together, or none for the same reason. -/
inductive ArchiveGateway.Created {τ₁ τ₂ : Type} (fits : τ₁ → τ₂ → Prop) :
    Except Failure τ₁ → Except Failure τ₂ → Prop
  | writers {t₁ : τ₁} {t₂ : τ₂} (h : fits t₁ t₂) : Created fits (.ok t₁) (.ok t₂)
  | failure (e : Failure) : Created fits (.error e) (.error e)

theorem ArchiveGateway.Created.refl {τ : Type} (outcome : Except Failure τ) :
    Created Eq outcome outcome := by
  cases outcome with
  | ok t => exact .writers rfl
  | error e => exact .failure e

/-- Two gateways whose writers take the same entries in the same way. -/
structure ArchiveGateway.Agreement {τ₁ τ₂ : Type} (gateway₁ : ArchiveGateway τ₁)
    (gateway₂ : ArchiveGateway τ₂) where
  /-- Writers that fit together. -/
  Fits : τ₁ → τ₂ → Prop
  create : Created Fits gateway₁.create gateway₂.create
  openEntry : ∀ name size, Keep Fits (gateway₁.openEntry name size) (gateway₂.openEntry name size)
  write : ∀ handle data, Keep Fits (gateway₁.write handle data) (gateway₂.write handle data)
  closeEntry : ∀ handle, Keep Fits (gateway₁.closeEntry handle) (gateway₂.closeEntry handle)
  finalize : ∀ t₁ t₂, Fits t₁ t₂ →
    Alike (Same Fits) Fits (gateway₁.finalize t₁) (gateway₂.finalize t₂)
  discard : Keep Fits gateway₁.discard gateway₂.discard

/-- Every gateway agrees with itself. -/
def ArchiveGateway.Agreement.refl {τ : Type} (gateway : ArchiveGateway τ) :
    gateway.Agreement gateway where
  Fits := Eq
  create := .refl _
  openEntry _ _ := keep_refl _
  write _ _ := keep_refl _
  closeEntry _ := keep_refl _
  finalize t _ h := by
    subst h
    rcases gateway.finalize t with ⟨refusal | archive, t'⟩
    · exact .failure rfl
    · exact .value ⟨rfl, rfl⟩
  discard := keep_refl _

end PhotoArchive
