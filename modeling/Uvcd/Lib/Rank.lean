import Uvcd.Lib.Machine

/-!
# `Lib.Rank` — ranks on the states of a machine

What a machine must do at last is counted down by a rank of its states. Some of the actions of a run count: `busy` is
how many.

* `run_lowers` — no run has more counted actions than the rank it starts with.
* `run_spends` — the counted actions come off a bound.
* `run_exhausts` — a run with as many counted actions has brought the rank to zero.

Nothing here names a particular program.
-/

namespace Machine

variable {σ α ε : Type} (step : α → σ → Except ε σ) (P : α → σ → Bool)

/-- The actions of the run that count, each in the state it finds. -/
def busy : List α → σ → Nat
  | [], _ => 0
  | a :: as, s => (P a s).toNat + match step a s with
    | .ok t => busy as t
    | .error _ => 0

variable {step P} {I : σ → Prop} {C : α → σ → Prop} {μ : σ → Nat}

theorem busy_cons {a : α} {as : List α} {s t : σ} (h : step a s = .ok t) :
    busy step P (a :: as) s = (P a s).toNat + busy step P as t := by
  rw [busy, h]

/-- **Every counted action lowers the rank.** -/
theorem run_lowers (hstep : ∀ a s t, I s → C a s → step a s = .ok t → I t ∧ μ t + (P a s).toNat ≤ μ s)
    {as : List α} {s t : σ} (hs : I s) (hC : Along step C as s) (hrun : run step as s = .ok t) :
    I t ∧ μ t + busy step P as s ≤ μ s := by
  induction as generalizing s with
  | nil =>
      cases hrun
      exact ⟨hs, Nat.le_refl _⟩
  | cons a as ih =>
      obtain ⟨u, hu, hrun⟩ := run_cons_ok.mp hrun
      obtain ⟨hI, hle⟩ := hstep a s u hs hC.1 hu
      obtain ⟨ht, hrest⟩ := ih hI (hC.2 u hu) hrun
      refine ⟨ht, ?_⟩
      rw [busy_cons hu]
      omega

/-- **Every counted action takes one off a bound**, which is part of the invariant. -/
theorem run_spends {I : σ → Nat → Prop}
    (hstep : ∀ a s t n, I s n → C a s → step a s = .ok t → I t (n - (P a s).toNat)) {as : List α} {s t : σ} {n : Nat}
    (hs : I s n) (hC : Along step C as s) (hrun : run step as s = .ok t) : I t (n - busy step P as s) := by
  induction as generalizing s n with
  | nil =>
      cases hrun
      exact hs
  | cons a as ih =>
      obtain ⟨u, hu, hrun⟩ := run_cons_ok.mp hrun
      have hrest := ih (hstep a s u n hs hC.1 hu) (hC.2 u hu) hrun
      rw [busy_cons hu, Nat.sub_add_eq]
      exact hrest

/-- **Every counted action lowers the rank, down to zero.** -/
theorem run_exhausts (hstep : ∀ a s t, I s → C a s → step a s = .ok t → I t ∧ μ t ≤ μ s - (P a s).toNat)
    {as : List α} {s t : σ} (hs : I s) (hC : Along step C as s) (hrun : run step as s = .ok t) :
    I t ∧ μ t ≤ μ s - busy step P as s := by
  refine run_spends (I := fun s n => I s ∧ μ s ≤ n) (fun a s t n h hCa hst => ?_) ⟨hs, Nat.le_refl _⟩ hC hrun
  obtain ⟨hI, hle⟩ := hstep a s t h.1 hCa hst
  exact ⟨hI, Nat.le_trans hle (Nat.sub_le_sub_right h.2 _)⟩

end Machine
