/-!
# `Lib.Machine` — deterministic machines that may fault, and their runs

A machine is a step function `step : α → σ → Except ε σ`: an action applied to a state gives the next
state or a fault, which ends the run. A **run** is the left-to-right application of a list of actions.

* `run_inv` — the invariant rule: what every step preserves holds after every run.
* `Along` / `run_inv_along` — the same for runs whose steps all meet a side condition on the action and
  the state before it.
* `Throughout` / `throughout_iff_along` — the same as an equivalence: what a run keeps in every state it passes.
* `Ends` — with what result a computation returns, or with what fault it ends.
* `run_simulates` — a run that goes through and stands for one of a pure step function.
* `run_progress` — a run that goes through and keeps an invariant.
* `Avoids` / `run_avoids_along` — a fault no admissible step raises is raised by no admissible run.

On a concrete run the side condition, and what holds of the final state, are decidable.

Nothing here names a particular program.
-/

namespace Machine

variable {σ α ε : Type}

/-! ## `Except` inversion -/

theorem bind_eq_ok {β γ : Type} {x : Except ε β} {f : β → Except ε γ} {c : γ} :
    (x >>= f) = .ok c ↔ ∃ b, x = .ok b ∧ f b = .ok c := by
  cases x <;> simp [Bind.bind, Except.bind]

theorem bind_eq_error {β γ : Type} {x : Except ε β} {f : β → Except ε γ} {e : ε} :
    (x >>= f) = .error e ↔ x = .error e ∨ ∃ b, x = .ok b ∧ f b = .error e := by
  cases x <;> simp [Bind.bind, Except.bind]

@[simp] theorem ok_bind {β γ : Type} (b : β) (f : β → Except ε γ) :
    ((Except.ok b : Except ε β) >>= f) = f b := rfl

/-! ## Faults avoided -/

/-- The computation does not end in the fault `e`. -/
def Avoids {β : Type} (e : ε) (x : Except ε β) : Prop := x ≠ .error e

theorem Avoids.ok {β : Type} {e : ε} (b : β) : Avoids e (.ok b : Except ε β) := fun h => by cases h

theorem Avoids.error {β : Type} {e e' : ε} (h : e' ≠ e) : Avoids e (.error e' : Except ε β) :=
  fun h' => h (by cases h'; rfl)

/-- A sequence avoids what its parts avoid, the second on the results of the first. -/
theorem Avoids.bind {β γ : Type} {e : ε} {x : Except ε β} {f : β → Except ε γ} (hx : Avoids e x)
    (hf : ∀ b, x = .ok b → Avoids e (f b)) : Avoids e (x >>= f) := by
  intro h
  rcases bind_eq_error.mp h with h | ⟨b, hb, h⟩
  · exact hx h
  · exact hf b hb h

/-! ## How a computation ends -/

/-- The computation returns a result that satisfies `P`, or ends in a fault that satisfies `F`. -/
def Ends {β : Type} (P : β → Prop) (F : ε → Prop) : Except ε β → Prop
  | .ok b => P b
  | .error e => F e

theorem Ends.ok {β : Type} {P : β → Prop} {F : ε → Prop} {b : β} (h : P b) : Ends P F (.ok b : Except ε β) := h

theorem Ends.error {β : Type} {P : β → Prop} {F : ε → Prop} {e : ε} (h : F e) :
    Ends P F (.error e : Except ε β) := h

/-- A sequence ends as its parts do, the second on the results of the first. -/
theorem Ends.bind {β γ : Type} {P : β → Prop} {Q : γ → Prop} {F : ε → Prop} {x : Except ε β}
    {f : β → Except ε γ} (hx : Ends P F x) (hf : ∀ b, P b → Ends Q F (f b)) : Ends Q F (x >>= f) := by
  cases x with
  | ok b => exact hf b hx
  | error e => exact hx

/-- What it returns is its result. -/
theorem Ends.result {β : Type} {P : β → Prop} {F : ε → Prop} {x : Except ε β} (hx : Ends P F x) :
    Ends (fun b => P b ∧ x = .ok b) F x := by
  cases x with
  | ok b => exact ⟨hx, rfl⟩
  | error e => exact hx

/-- A computation that may not fault returns. -/
theorem Ends.returns {β : Type} {P : β → Prop} {x : Except ε β} (hx : Ends P (fun _ => False) x) :
    ∃ b, x = .ok b ∧ P b := by
  cases x with
  | ok b => exact ⟨b, rfl, hx⟩
  | error e => exact hx.elim

theorem Ends.mono {β : Type} {P Q : β → Prop} {F : ε → Prop} {x : Except ε β} (hx : Ends P F x)
    (hPQ : ∀ b, P b → Q b) : Ends Q F x := by
  cases x with
  | ok b => exact hPQ b hx
  | error e => exact hx

/-! ## Runs -/

/-- Apply the actions in order; the first fault ends the run. -/
def run (step : α → σ → Except ε σ) : List α → σ → Except ε σ
  | [], s => .ok s
  | a :: as, s => step a s >>= run step as

variable {step : α → σ → Except ε σ}

theorem run_cons (a : α) (as : List α) (s : σ) :
    run step (a :: as) s = (step a s >>= run step as) := rfl

theorem run_cons_ok {a : α} {as : List α} {s t : σ} :
    run step (a :: as) s = .ok t ↔ ∃ u, step a s = .ok u ∧ run step as u = .ok t := by
  rw [run_cons, bind_eq_ok]

/-- Runs compose. -/
theorem run_append (as bs : List α) (s : σ) :
    run step (as ++ bs) s = (run step as s >>= run step bs) := by
  induction as generalizing s with
  | nil => rfl
  | cons a as ih =>
      rw [List.cons_append, run_cons, run_cons]
      cases step a s with
      | error e => rfl
      | ok u => exact ih u

theorem run_append_ok {as bs : List α} {s t : σ} :
    run step (as ++ bs) s = .ok t ↔ ∃ u, run step as s = .ok u ∧ run step bs u = .ok t := by
  rw [run_append, bind_eq_ok]

/-- The states some run reaches from `init`. -/
def Reachable (step : α → σ → Except ε σ) (init s : σ) : Prop := ∃ as, run step as init = .ok s

/-! ## The invariant rules -/

/-- **Invariant rule.** What holds at the start and is preserved by every step holds after every run. -/
theorem run_inv {I : σ → Prop} (hstep : ∀ a s t, I s → step a s = .ok t → I t) {as : List α} {s t : σ}
    (hs : I s) (h : run step as s = .ok t) : I t := by
  induction as generalizing s with
  | nil => cases h; exact hs
  | cons a as ih =>
      obtain ⟨u, hu, hrest⟩ := run_cons_ok.mp h
      exact ih (hstep a s u hs hu) hrest

/-- Every step of the run meets the side condition `C` on its action and the state before it. -/
def Along (step : α → σ → Except ε σ) (C : α → σ → Prop) : List α → σ → Prop
  | [], _ => True
  | a :: as, s => C a s ∧ ∀ t, step a s = .ok t → Along step C as t

variable {C : α → σ → Prop}

/-- **Conditional invariant rule.** -/
theorem run_inv_along {I : σ → Prop} (hstep : ∀ a s t, I s → C a s → step a s = .ok t → I t)
    {as : List α} {s t : σ} (hs : I s) (hC : Along step C as s) (h : run step as s = .ok t) : I t := by
  induction as generalizing s with
  | nil => cases h; exact hs
  | cons a as ih =>
      obtain ⟨u, hu, hrest⟩ := run_cons_ok.mp h
      exact ih (hstep a s u hs hC.1 hu) (hC.2 u hu) hrest

/-- **Fault rule.** A fault every admissible step avoids from the invariant is avoided by every such run. -/
theorem run_avoids_along {I : σ → Prop} {e : ε}
    (hstep : ∀ a s t, I s → C a s → step a s = .ok t → I t)
    (hne : ∀ a s, I s → C a s → Avoids e (step a s))
    {as : List α} {s : σ} (hs : I s) (hC : Along step C as s) : Avoids e (run step as s) := by
  induction as generalizing s with
  | nil => exact .ok s
  | cons a as ih =>
      rw [run_cons]
      exact (hne a s hs hC.1).bind fun u hu => ih (hstep a s u hs hC.1 hu) (hC.2 u hu)

/-- **Simulation rule.** Every admissible step goes through and does to the state what `act` does to a state it stands
    for; then so does every admissible run. -/
theorem run_simulates {τ : Type} {act : α → τ → τ} {R : σ → τ → Prop}
    (hstep : ∀ a s t, R s t → C a s → ∃ s', step a s = .ok s' ∧ R s' (act a t)) {as : List α} {s : σ} {t : τ}
    (hR : R s t) (hC : Along step C as s) :
    ∃ s', run step as s = .ok s' ∧ R s' (as.foldl (fun t a => act a t) t) := by
  induction as generalizing s t with
  | nil => exact ⟨s, rfl, hR⟩
  | cons a as ih =>
      obtain ⟨u, hu, hRu⟩ := hstep a s t hR hC.1
      obtain ⟨s', hrun, hR'⟩ := ih hRu (hC.2 u hu)
      exact ⟨s', run_cons_ok.mpr ⟨u, hu, hrun⟩, hR'⟩

/-- **Progress rule.** Where every admissible step goes through and keeps the invariant, so does every admissible
    run. -/
theorem run_progress {I : σ → Prop} (hstep : ∀ a s, I s → C a s → ∃ t, step a s = .ok t ∧ I t) {as : List α} {s : σ}
    (hs : I s) (hC : Along step C as s) : ∃ t, run step as s = .ok t ∧ I t := by
  induction as generalizing s with
  | nil => exact ⟨s, rfl, hs⟩
  | cons a as ih =>
      obtain ⟨u, hu, hI⟩ := hstep a s hs hC.1
      obtain ⟨t, hrun, ht⟩ := ih hI (hC.2 u hu)
      exact ⟨t, run_cons_ok.mpr ⟨u, hu, hrun⟩, ht⟩

theorem along_true (as : List α) (s : σ) : Along step (fun _ _ => True) as s := by
  induction as generalizing s with
  | nil => trivial
  | cons a as ih => exact ⟨trivial, fun t _ => ih t⟩

/-- A run along a condition began along it. -/
theorem Along.initial {as bs : List α} {s : σ} (hpre : bs <+: as) (h : Along step C as s) : Along step C bs s := by
  induction bs generalizing as s with
  | nil => trivial
  | cons b bs ih =>
      obtain ⟨cs, rfl⟩ := hpre
      exact ⟨h.1, fun t ht => ih (List.prefix_append bs cs) (h.2 t ht)⟩

/-- On a concrete run the side condition can be computed. -/
instance Along.decide [∀ a s, Decidable (C a s)] : ∀ (as : List α) (s : σ), Decidable (Along step C as s)
  | [], _ => .isTrue trivial
  | a :: as, s =>
    match h : step a s with
    | .error _ => decidable_of_iff (C a s)
        ⟨fun hC => ⟨hC, fun t ht => by rw [h] at ht; cases ht⟩, fun hC => hC.1⟩
    | .ok u =>
      have := Along.decide as u
      decidable_of_iff (C a s ∧ Along step C as u)
        ⟨fun hC => ⟨hC.1, fun t ht => by rw [h] at ht; cases ht; exact hC.2⟩, fun hC => ⟨hC.1, hC.2 u h⟩⟩

/-- So can a property of the state a concrete run ends in. -/
instance existsOkDecidable {P : σ → Prop} [DecidablePred P] :
    ∀ x : Except ε σ, Decidable (∃ s, x = .ok s ∧ P s)
  | .error _ => .isFalse fun ⟨_, h, _⟩ => by cases h
  | .ok u => decidable_of_iff (P u) ⟨fun h => ⟨u, rfl, h⟩, fun ⟨_, h, hP⟩ => by cases h; exact hP⟩

instance eqErrorDecidable [DecidableEq ε] (e : ε) : ∀ x : Except ε σ, Decidable (x = .error e)
  | .error e' => decidable_of_iff (e' = e) (by simp)
  | .ok _ => .isFalse (by simp)

/-- `P` holds of every state the run passes. -/
def Throughout (step : α → σ → Except ε σ) (P : σ → Prop) (as : List α) (s : σ) : Prop :=
  ∀ bs t, bs <+: as → run step bs s = .ok t → P t

theorem throughout_cons {P : σ → Prop} {a : α} {as : List α} {s : σ} :
    Throughout step P (a :: as) s ↔ P s ∧ ∀ t, step a s = .ok t → Throughout step P as t := by
  constructor
  · intro h
    refine ⟨h [] s (List.nil_prefix) rfl, fun t ht bs u hbs hu => ?_⟩
    exact h (a :: bs) u (List.cons_prefix_cons.mpr ⟨rfl, hbs⟩) (run_cons_ok.mpr ⟨t, ht, hu⟩)
  · rintro ⟨hs, hrest⟩ bs u hbs hu
    cases bs with
    | nil => cases hu; exact hs
    | cons b bs =>
        obtain ⟨rfl, hpre⟩ := List.cons_prefix_cons.mp hbs
        obtain ⟨t, ht, hu⟩ := run_cons_ok.mp hu
        exact hrest t ht bs u hpre hu

/-- A run that keeps `P` in every state it passes has `P` before and after each step. -/
theorem Throughout.along {P : σ → Prop} {as : List α} {s : σ} (h : Throughout step P as s) :
    Along step (fun a s => P s ∧ ∀ t, step a s = .ok t → P t) as s := by
  induction as generalizing s with
  | nil => trivial
  | cons a as ih =>
      obtain ⟨hs, hrest⟩ := throughout_cons.mp h
      exact ⟨⟨hs, fun t ht => hrest t ht [] t List.nil_prefix rfl⟩, fun t ht => ih (hrest t ht)⟩

/-- **Exact side conditions.** When each step keeps `P` exactly under the condition `C`, a run keeps `P` exactly
    when all its steps meet `C`. -/
theorem throughout_iff_along {R P : σ → Prop} (hR : ∀ a s t, R s → step a s = .ok t → R t)
    (hstep : ∀ a s t, R s → P s → step a s = .ok t → (P t ↔ C a s))
    (hfault : ∀ a s e, R s → P s → step a s = .error e → C a s) {as : List α} {s : σ} (hs : R s) (hP : P s) :
    Throughout step P as s ↔ Along step C as s := by
  induction as generalizing s with
  | nil =>
      refine iff_of_true (fun bs t hbs ht => ?_) trivial
      rw [List.prefix_nil.mp hbs] at ht
      cases ht
      exact hP
  | cons a as ih =>
      rw [throughout_cons]
      cases hst : step a s with
      -- a fault ends the run
      | error e =>
          refine iff_of_true ⟨hP, fun t ht => by cases ht⟩ ⟨hfault a s e hs hP hst, fun t ht => ?_⟩
          rw [hst] at ht; cases ht
      | ok t =>
          have hC := hstep a s t hs hP hst
          constructor
          · rintro ⟨-, hrest⟩
            have ht := hrest t rfl
            have hPt : P t := ht [] t (List.nil_prefix) rfl
            refine ⟨hC.mp hPt, fun u hu => ?_⟩
            rw [hst] at hu
            cases hu
            exact (ih (hR a s t hs hst) hPt).mp ht
          · rintro ⟨hCs, hrest⟩
            refine ⟨hP, fun u hu => ?_⟩
            cases hu
            exact (ih (hR a s t hs hst) (hC.mpr hCs)).mpr (hrest t hst)

/-- The same on a run without a fault, where the invariant may rest on `P`. -/
theorem throughout_iff_along_ok {R P : σ → Prop}
    (hstep : ∀ a s t, R s → P s → step a s = .ok t → R t ∧ (P t ↔ C a s)) {as : List α} {s u : σ} (hs : R s)
    (hP : P s) (hrun : run step as s = .ok u) : Throughout step P as s ↔ Along step C as s := by
  induction as generalizing s with
  | nil =>
      refine iff_of_true (fun bs t hbs ht => ?_) trivial
      rw [List.prefix_nil.mp hbs] at ht
      cases ht
      exact hP
  | cons a as ih =>
      obtain ⟨t, hst, hrest⟩ := run_cons_ok.mp hrun
      obtain ⟨hR, hC⟩ := hstep a s t hs hP hst
      rw [throughout_cons]
      constructor
      · rintro ⟨-, hall⟩
        have ht := hall t hst
        have hPt : P t := ht [] t List.nil_prefix rfl
        refine ⟨hC.mp hPt, fun v hv => ?_⟩
        rw [hst] at hv
        cases hv
        exact (ih hR hPt hrest).mp ht
      · rintro ⟨hCs, hall⟩
        refine ⟨hP, fun v hv => ?_⟩
        rw [hst] at hv
        cases hv
        exact (ih hR (hC.mpr hCs) hrest).mpr (hall t hst)

/-- A side condition may be weakened along a run, by what every step keeps. -/
theorem Along.mono_inv {D : α → σ → Prop} {R : σ → Prop} (hR : ∀ a s t, R s → step a s = .ok t → R t)
    (hCD : ∀ a s, R s → C a s → D a s) {as : List α} {s : σ} (hs : R s) (h : Along step C as s) :
    Along step D as s := by
  induction as generalizing s with
  | nil => trivial
  | cons a as ih => exact ⟨hCD a s hs h.1, fun t ht => ih (hR a s t hs ht) (h.2 t ht)⟩

/-- A side condition may be weakened along a run. -/
theorem Along.mono {D : α → σ → Prop} (hCD : ∀ a s, C a s → D a s) {as : List α} {s : σ}
    (h : Along step C as s) : Along step D as s := by
  induction as generalizing s with
  | nil => trivial
  | cons a as ih => exact ⟨hCD a s h.1, fun t ht => ih (h.2 t ht)⟩

end Machine
