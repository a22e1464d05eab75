import PhotoArchive.Failure

/-!
# Actions

An action works on a state and ends with a value or a failure. Either way it leaves a state behind:
what was written before a failure stays written.

## Main definitions

- `Action` — a step that changes a state and may fail
- `Action.ensuring` — an action with a step that is taken however it ends
- `Action.attempt` — an action whose failures of one group are values
- `Action.within` — an action on a part of the state

## Main statements

- `Action.ensuring_ok`, `Action.ensuring_error` — which outcome wins when two steps can fail
-/

namespace PhotoArchive

/-- A step that changes a state and ends with a value or a failure. -/
def Action (σ α : Type) : Type := σ → Except Failure α × σ

namespace Action

variable {σ τ α β : Type}

/-- Run an action on a state. -/
def run (a : Action σ α) (s : σ) : Except Failure α × σ := a s

/-- End with a value and leave the state alone. -/
def done (x : α) : Action σ α := fun s => (.ok x, s)

/-- End with a failure and leave the state alone. -/
def fail (e : Failure) : Action σ α := fun s => (.error e, s)

/-- One action after the other; the second one is not taken when the first one fails. -/
def andThen (a : Action σ α) (f : α → Action σ β) : Action σ β := fun s =>
  match a s with
  | (.ok x, s') => f x s'
  | (.error e, s') => (.error e, s')

instance : Monad (Action σ) where
  pure := done
  bind := andThen

/-- Take an action whose outcome is already known. -/
def ofExcept : Except Failure α → Action σ α
  | .ok x => done x
  | .error e => fail e

/-- Change the state. -/
def modify (f : σ → σ) : Action σ Unit := fun s => (.ok (), f s)

/-- Look at the state. -/
def get : Action σ σ := fun s => (.ok s, s)

/-- Look at one aspect of the state. -/
def ask (f : σ → α) : Action σ α := fun s => (.ok (f s), s)

/-- Take `cleanup` however `a` ends. A failure of `cleanup` takes the place of the outcome. -/
def ensuring (a : Action σ α) (cleanup : Action σ Unit) : Action σ α := fun s =>
  match a s with
  | (outcome, s') =>
    match cleanup s' with
    | (.ok _, s'') => (outcome, s'')
    | (.error e, s'') => (.error e, s'')

/-- Take `cleanup` when `a` fails, and fail then. A failure of `cleanup` takes the place of the
first one. -/
def onFailure (a : Action σ α) (cleanup : Action σ Unit) : Action σ α := fun s =>
  match a s with
  | (.ok x, s') => (.ok x, s')
  | (.error e, s') =>
    match cleanup s' with
    | (.ok _, s'') => (.error e, s'')
    | (.error e', s'') => (.error e', s'')

/-- Take an action whose failures that satisfy `p` are values; other failures are passed on. -/
def attempt (a : Action σ α) (p : Failure → Prop) [DecidablePred p] :
    Action σ (Except Failure α) := fun s =>
  match a s with
  | (.ok x, s') => (.ok (.ok x), s')
  | (.error e, s') => if p e then (.ok (.error e), s') else (.error e, s')

/-- Take an action on a part of the state. -/
def within (part : τ → σ) (put : σ → τ → τ) (a : Action σ α) : Action τ α := fun t =>
  match a (part t) with
  | (outcome, s) => (outcome, put s t)

/-! ## How actions run -/

@[simp] theorem run_pure (x : α) (s : σ) : (pure x : Action σ α).run s = (.ok x, s) := rfl

@[simp] theorem run_done (x : α) (s : σ) : (done x : Action σ α).run s = (.ok x, s) := rfl

@[simp] theorem run_fail (e : Failure) (s : σ) : (fail e : Action σ α).run s = (.error e, s) := rfl

@[simp] theorem run_modify (f : σ → σ) (s : σ) : (modify f).run s = (.ok (), f s) := rfl

@[simp] theorem run_get (s : σ) : (get : Action σ σ).run s = (.ok s, s) := rfl

@[simp] theorem run_ask (f : σ → α) (s : σ) : (ask f).run s = (.ok (f s), s) := rfl

theorem run_bind (a : Action σ α) (f : α → Action σ β) (s : σ) :
    (a >>= f).run s =
      match a.run s with
      | (.ok x, s') => (f x).run s'
      | (.error e, s') => (.error e, s') := rfl

theorem run_bind_ok {a : Action σ α} {f : α → Action σ β} {s s' : σ} {x : α}
    (h : a.run s = (.ok x, s')) : (a >>= f).run s = (f x).run s' := by
  rw [run_bind, h]

theorem run_bind_error {a : Action σ α} {f : α → Action σ β} {s s' : σ} {e : Failure}
    (h : a.run s = (.error e, s')) : (a >>= f).run s = (.error e, s') := by
  rw [run_bind, h]

/-- Two steps end with a value only if both do. -/
theorem of_run_bind_ok {a : Action σ α} {f : α → Action σ β} {s s'' : σ} {y : β}
    (h : (a >>= f).run s = (.ok y, s'')) :
    ∃ x s', a.run s = (.ok x, s') ∧ (f x).run s' = (.ok y, s'') := by
  rw [run_bind] at h
  rcases hrun : a.run s with ⟨e | x, s'⟩
  · rw [hrun] at h
    cases h
  · rw [hrun] at h
    exact ⟨x, s', rfl, h⟩

theorem run_ensuring (a : Action σ α) (cleanup : Action σ Unit) (s : σ) :
    (a.ensuring cleanup).run s =
      match a.run s with
      | (outcome, s') =>
        match cleanup.run s' with
        | (.ok _, s'') => (outcome, s'')
        | (.error e, s'') => (.error e, s'') := rfl

theorem run_onFailure (a : Action σ α) (cleanup : Action σ Unit) (s : σ) :
    (a.onFailure cleanup).run s =
      match a.run s with
      | (.ok x, s') => (.ok x, s')
      | (.error e, s') =>
        match cleanup.run s' with
        | (.ok _, s'') => (.error e, s'')
        | (.error e', s'') => (.error e', s'') := rfl

theorem run_attempt (a : Action σ α) (p : Failure → Prop) [DecidablePred p] (s : σ) :
    (a.attempt p).run s =
      match a.run s with
      | (.ok x, s') => (.ok (.ok x), s')
      | (.error e, s') => if p e then (.ok (.error e), s') else (.error e, s') := rfl

/-- When the cleanup succeeds, the outcome is that of the action. -/
theorem ensuring_ok {a : Action σ α} {cleanup : Action σ Unit} {s s' s'' : σ}
    {outcome : Except Failure α} (ha : a.run s = (outcome, s'))
    (hc : cleanup.run s' = (.ok (), s'')) : (a.ensuring cleanup).run s = (outcome, s'') := by
  simp only [run] at ha hc
  simp [run, ensuring, ha, hc]

/-- When the cleanup fails, that failure is the outcome. -/
theorem ensuring_error {a : Action σ α} {cleanup : Action σ Unit} {s s' s'' : σ}
    {outcome : Except Failure α} {e : Failure} (ha : a.run s = (outcome, s'))
    (hc : cleanup.run s' = (.error e, s'')) :
    (a.ensuring cleanup).run s = (.error e, s'') := by
  simp only [run] at ha hc
  simp [run, ensuring, ha, hc]

/-- An action on a part of the state has the outcome that it has on the part, and only changes that
part. -/
theorem run_within {part : τ → σ} {put : σ → τ → τ} {a : Action σ α} {t : τ} {s : σ}
    {outcome : Except Failure α} (h : a.run (part t) = (outcome, s)) :
    (a.within part put).run t = (outcome, put s t) := by
  simp only [run] at h
  simp [run, within, h]

theorem run_within_eq (part : τ → σ) (put : σ → τ → τ) (a : Action σ α) (t : τ) :
    (a.within part put).run t = ((a.run (part t)).1, put (a.run (part t)).2 t) := rfl

instance : LawfulMonad (Action σ) :=
  LawfulMonad.mk' _
    (fun a => by
      funext s
      show andThen a (fun x => done x) s = a s
      unfold andThen done
      rcases a s with ⟨_ | _, _⟩ <;> rfl)
    (fun _ _ => rfl)
    (fun a f g => by
      funext s
      show andThen (andThen a f) g s = andThen a (fun x => andThen (f x) g) s
      unfold andThen
      rcases a s with ⟨_ | _, _⟩ <;> rfl)

end Action

end PhotoArchive
