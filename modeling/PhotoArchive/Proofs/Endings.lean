import PhotoArchive.Action

/-!
# How actions end

What is known of the state in which an action starts, and of how it ends, with one condition for the
values and one for the failures. Failures of a step end the steps behind it as well, so that
condition stays the same along a row of steps.

## Main definitions

- `Action.Ends` — an action ends with a value as one condition says, or with a failure as another one
- `Action.Preserves` — an action keeps a condition on the state, however it ends

## Main statements

- `Action.Ends.bind` — two steps, by way of what holds between them
- `Action.Ends.of_ok`, `Action.Ends.of_error` — what a run shows
- `Action.of_run_ensuring_ok`, `Action.run_ensuring_ofExcept` — actions with a cleanup
- `Action.Preserves.bind`, `Action.Preserves.ensuring` — what two steps keep, both together keep
-/

namespace PhotoArchive.Action

variable {σ τ α β : Type}

/-- Run from `s`, the action ends with a value or with a failure as it should. -/
def Ends (a : Action σ α) (s : σ) (ok : α → σ → Prop) (err : Failure → σ → Prop) : Prop :=
  match a.run s with
  | (.ok x, s') => ok x s'
  | (.error e, s') => err e s'

variable {a : Action σ α} {f : α → Action σ β} {s s' : σ} {x : α} {e : Failure}
  {ok ok' : α → σ → Prop} {next : β → σ → Prop} {err err' : Failure → σ → Prop}

theorem Ends.of_ok (h : a.Ends s ok err) (hrun : a.run s = (.ok x, s')) : ok x s' := by
  rwa [Ends, hrun] at h

theorem Ends.of_error (h : a.Ends s ok err) (hrun : a.run s = (.error e, s')) : err e s' := by
  rwa [Ends, hrun] at h

theorem ends_of_run_ok (hrun : a.run s = (.ok x, s')) (h : ok x s') : a.Ends s ok err := by
  rwa [Ends, hrun]

theorem ends_of_run_error (hrun : a.run s = (.error e, s')) (h : err e s') : a.Ends s ok err := by
  rwa [Ends, hrun]

/-- Only how an action runs matters. -/
theorem ends_congr {b : Action σ α} (hrun : a.run s = b.run s') :
    a.Ends s ok err ↔ b.Ends s' ok err := by
  rw [Ends, hrun, Ends]

theorem Ends.mono (h : a.Ends s ok err) (hok : ∀ x s', ok x s' → ok' x s')
    (herr : ∀ e s', err e s' → err' e s') : a.Ends s ok' err' := by
  rcases hrun : a.run s with ⟨e | x, s'⟩
  · exact ends_of_run_error hrun (herr e s' (h.of_error hrun))
  · exact ends_of_run_ok hrun (hok x s' (h.of_ok hrun))

/-- Two steps, by way of what holds between them. -/
theorem Ends.bind (h : a.Ends s ok err) (hf : ∀ x s', ok x s' → (f x).Ends s' next err')
    (herr : ∀ e s', err e s' → err' e s') : (a >>= f).Ends s next err' := by
  rcases hrun : a.run s with ⟨e | x, s'⟩
  · exact ends_of_run_error (run_bind_error hrun) (herr e s' (h.of_error hrun))
  · have hnext := hf x s' (h.of_ok hrun)
    rwa [Ends, run_bind_ok hrun]

/-- A first step whose outcome is known. -/
theorem ends_bind_of_run (hrun : a.run s = (.ok x, s')) :
    (a >>= f).Ends s next err ↔ (f x).Ends s' next err := by
  rw [Ends, run_bind_ok hrun, Ends]

@[simp] theorem ends_pure : (pure x : Action σ α).Ends s ok err ↔ ok x s := Iff.rfl

@[simp] theorem ends_fail : (fail e : Action σ α).Ends s ok err ↔ err e s := Iff.rfl

@[simp] theorem ends_ask_bind {g : σ → α} :
    (ask g >>= f).Ends s next err ↔ (f (g s)).Ends s next err := Iff.rfl

@[simp] theorem ends_modify {g : σ → σ} {ok : Unit → σ → Prop} :
    (modify g).Ends s ok err ↔ ok () (g s) := Iff.rfl

@[simp] theorem ends_modify_bind {g : σ → σ} {f : Unit → Action σ β} :
    (modify g >>= f).Ends s next err ↔ (f ()).Ends (g s) next err := Iff.rfl

/-- A change of the state that is made however the action ends. -/
theorem Ends.ensuring_modify {g : σ → σ}
    (h : a.Ends s (fun x s' => ok x (g s')) fun e s' => err e (g s')) :
    (a.ensuring (modify g)).Ends s ok err := by
  rcases hrun : a.run s with ⟨e | x, s'⟩
  · exact ends_of_run_error (ensuring_ok hrun (run_modify g s')) (h.of_error hrun)
  · exact ends_of_run_ok (ensuring_ok hrun (run_modify g s')) (h.of_ok hrun)

/-! ## Steps that are taken in any case -/

/-- However the action ends, a condition that held of the state before holds of the state behind. -/
def Preserves (p : σ → Prop) (a : Action σ α) : Prop := ∀ s, p s → p (a.run s).2

section Preserves

variable {p : σ → Prop}

theorem Preserves.of_run (h : Preserves p a) {outcome : Except Failure α}
    (hrun : a.run s = (outcome, s')) (hs : p s) : p s' := by
  have hkeep := h s hs
  rwa [hrun] at hkeep

theorem preserves_pure (x : α) : Preserves p (pure x : Action σ α) := fun _ hs => hs

theorem preserves_fail (e : Failure) : Preserves p (fail e : Action σ α) := fun _ hs => hs

theorem preserves_ask (g : σ → α) : Preserves p (ask g) := fun _ hs => hs

theorem preserves_modify {g : σ → σ} (h : ∀ s, p s → p (g s)) : Preserves p (modify g) := h

theorem Preserves.bind (ha : Preserves p a) (hf : ∀ x, Preserves p (f x)) :
    Preserves p (a >>= f) := by
  intro s hs
  rcases hrun : a.run s with ⟨e | x, s'⟩
  · rw [run_bind_error hrun]
    exact ha.of_run hrun hs
  · rw [run_bind_ok hrun]
    exact hf x s' (ha.of_run hrun hs)

theorem Preserves.ensuring {cleanup : Action σ Unit} (ha : Preserves p a)
    (hc : Preserves p cleanup) : Preserves p (a.ensuring cleanup) := by
  intro s hs
  rcases hrun : a.run s with ⟨outcome, s'⟩
  have hs' := ha.of_run hrun hs
  rcases hclean : cleanup.run s' with ⟨e | u, s''⟩
  · rw [ensuring_error hrun hclean]
    exact hc.of_run hclean hs'
  · rw [ensuring_ok hrun hclean]
    exact hc.of_run hclean hs'

/-- An action on a part keeps what does not depend on that part. -/
theorem preserves_within {part : σ → τ} {put : τ → σ → σ} (b : Action τ α)
    (h : ∀ s t, p s → p (put t s)) : Preserves p (b.within part put) := fun s hs => h s _ hs

end Preserves

end PhotoArchive.Action
