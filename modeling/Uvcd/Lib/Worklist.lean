import Mathlib.Algebra.GroupWithZero.Nat
import Uvcd.Lib.Machine

/-!
# `Lib.Worklist` — draining a queue whose messages post messages

A round takes messages off a queue and handles them; handling one may put others at the end. If each message has a
weight and what is posted for one weighs less than the one did, every round that takes a message makes the queue
lighter than what it took, so rounds empty the queue, and the messages handled are no more than the weight the
queue had (`drain_empties`). Where handling a message can fault, a drain returns exactly when no message is taken up in
a state that it faults in (`drain_returns_iff`).

Nothing here names a particular program.
-/

namespace Worklist

open Machine

variable {σ μ ε : Type}

/-- The weight of the messages of a list. -/
def total (weight : μ → Nat) (ms : List μ) : Nat := (ms.map weight).sum

section Total

variable {weight : μ → Nat}

@[simp] theorem total_nil : total weight [] = 0 := rfl

@[simp] theorem total_cons (m : μ) (ms : List μ) : total weight (m :: ms) = weight m + total weight ms := by
  unfold total
  rw [List.map_cons, List.sum_cons]

@[simp] theorem total_append (ms ms' : List μ) : total weight (ms ++ ms') = total weight ms + total weight ms' := by
  unfold total
  rw [List.map_append, List.sum_append]

/-- Fewer messages weigh no more. -/
theorem total_sublist {ms ms' : List μ} (h : ms.Sublist ms') : total weight ms ≤ total weight ms' := by
  induction h with
  | slnil => exact Nat.le_refl _
  | cons m _ ih => rw [total_cons]; omega
  | cons_cons m _ ih => rw [total_cons, total_cons]; omega

/-- A list of messages that weigh something, which weighs nothing, is empty. -/
theorem eq_nil_of_total {ms : List μ} (hweight : ∀ m ∈ ms, 0 < weight m) (h : total weight ms ≤ 0) : ms = [] := by
  cases ms with
  | nil => rfl
  | cons m ms =>
      have hm := hweight m List.mem_cons_self
      rw [total_cons] at h
      omega

end Total

/-! ## One message -/

/-- Handling an admissible message puts admissible messages at the end of the queue that weigh less than it. -/
def Lightens (queue : σ → List μ) (handle : σ → μ → Except ε σ) (ok : μ → Prop) (weight : μ → Nat) : Prop :=
  ∀ (s s' : σ) (m : μ), ok m → handle s m = .ok s' →
    ∃ ms, queue s' = queue s ++ ms ∧ (∀ x ∈ ms, ok x) ∧ total weight ms < weight m

variable {queue : σ → List μ} {handle : σ → μ → Except ε σ} {ok : μ → Prop} {weight : μ → Nat}

/-- A batch of messages, each of which costs one of what it weighs. -/
theorem Lightens.batch (h : Lightens queue handle ok weight) (batch : List μ) : ∀ {s s' : σ},
    (∀ m ∈ batch, ok m) → batch.foldlM handle s = .ok s' →
    ∃ ms, queue s' = queue s ++ ms ∧ (∀ x ∈ ms, ok x) ∧ total weight ms + batch.length ≤ total weight batch := by
  induction batch with
  | nil =>
      intro s s' _ hs
      cases hs
      exact ⟨[], (List.append_nil _).symm, fun x hx => (by cases hx), Nat.le_refl _⟩
  | cons m batch ih =>
      intro s s' hok hs
      rw [List.foldlM_cons] at hs
      obtain ⟨s₁, hm, hs⟩ := bind_eq_ok.mp hs
      obtain ⟨ms, hq, hms, hlt⟩ := h s s₁ m (hok m List.mem_cons_self) hm
      obtain ⟨ms', hq', hms', hle⟩ := ih (fun x hx => hok x (List.mem_cons_of_mem _ hx)) hs
      refine ⟨ms ++ ms', by rw [hq', hq, List.append_assoc], fun x hx => ?_, ?_⟩
      · exact (List.mem_append.mp hx).elim (hms x) (hms' x)
      · rw [total_append, total_cons, List.length_cons]
        omega

/-! ## Rounds -/

/-- Rounds until the queue is empty, at most `fuel`; counts the messages handled. -/
def drain (queue : σ → List μ) (round : σ → Except ε (Nat × σ)) : Nat → σ → Except ε (Nat × σ)
  | 0, s => .ok (0, s)
  | fuel + 1, s =>
    match queue s with
    | [] => .ok (0, s)
    | _ :: _ => do
      let (n, s) ← round s
      let (n', s) ← drain queue round fuel s
      .ok (n + n', s)

/-- A round on a queue that is not empty handles some of its messages, each of which costs one. -/
structure Lowers (queue : σ → List μ) (round : σ → Except ε (Nat × σ)) (ok : μ → Prop) (weight : μ → Nat)
    (s : σ) (n : Nat) (s' : σ) : Prop where
  some : 0 < n
  ok : ∀ m ∈ queue s', ok m
  cost : n + total weight (queue s') ≤ total weight (queue s)

variable {round : σ → Except ε (Nat × σ)}

/-- **Rounds empty the queue**, if they return, and handle no more messages than it weighs. -/
theorem drain_empties
    (hround : ∀ {s n s'}, (∀ m ∈ queue s, ok m) → queue s ≠ [] → round s = .ok (n, s') →
      Lowers queue round ok weight s n s')
    (hweight : ∀ m, ok m → 0 < weight m) : ∀ {fuel : Nat} {s s' : σ} {n : Nat}, (∀ m ∈ queue s, ok m) →
      total weight (queue s) ≤ fuel → drain queue round fuel s = .ok (n, s') →
        queue s' = [] ∧ n ≤ total weight (queue s) := by
  intro fuel
  induction fuel with
  | zero =>
      intro s s' n hok hfuel hs
      cases hs
      exact ⟨eq_nil_of_total (fun m hm => hweight m (hok m hm)) hfuel, Nat.zero_le _⟩
  | succ fuel ih =>
      intro s s' n hok hfuel hs
      rw [drain] at hs
      split at hs
      · next hq => cases hs; exact ⟨hq, Nat.zero_le _⟩
      · next m ms hq =>
          obtain ⟨⟨n₁, s₁⟩, hr, hs⟩ := bind_eq_ok.mp hs
          obtain ⟨⟨n₂, s₂⟩, hd, hs⟩ := bind_eq_ok.mp hs
          cases hs
          have hl := hround hok (by rw [hq]; exact List.cons_ne_nil _ _) hr
          have hsome := hl.some
          have hcost := hl.cost
          obtain ⟨hnil, hle⟩ := ih hl.ok (by omega) hd
          exact ⟨hnil, by omega⟩

/-- Rounds end as each one does. -/
theorem drain_ends {I : σ → Prop} {F : ε → Prop} (hround : ∀ {s}, I s → Ends (fun r => I r.2) F (round s)) :
    ∀ (fuel : Nat) {s : σ}, I s → Ends (fun r => I r.2) F (drain queue round fuel s) := by
  intro fuel
  induction fuel with
  | zero => intro s hI; exact .ok hI
  | succ fuel ih =>
      intro s hI
      rw [drain]
      split
      · exact .ok hI
      · exact (hround hI).bind fun r hr => (ih hr).bind fun r' hr' => .ok hr'

/-- A batch ends as each message does; `I` is about the messages still to be handled, too. -/
theorem batch_ends {I : List μ → σ → Prop} {F : ε → Prop}
    (hhandle : ∀ {m ms s}, I (m :: ms) s → Ends (I ms) F (handle s m)) (batch : List μ) :
    ∀ {s : σ}, I batch s → Ends (I []) F (batch.foldlM handle s) := by
  induction batch with
  | nil => intro s hI; exact .ok hI
  | cons m batch ih =>
      intro s hI
      rw [List.foldlM_cons]
      exact (hhandle hI).bind fun s₁ hI₁ => ih hI₁

/-! ## What is taken up -/

/-- Handling the messages of a batch takes up `m` in state `t`. -/
inductive BatchTakes (handle : σ → μ → Except ε σ) : List μ → σ → σ → μ → Prop
  | head {m : μ} {ms : List μ} {s : σ} : BatchTakes handle (m :: ms) s s m
  | tail {m x : μ} {ms : List μ} {s s₁ t : σ} (h : handle s x = .ok s₁) (ht : BatchTakes handle ms s₁ t m) :
      BatchTakes handle (x :: ms) s t m

/-- Draining takes up `m` in state `t`, where `takes` is what a single round does. -/
inductive DrainTakes (queue : σ → List μ) (round : σ → Except ε (Nat × σ)) (takes : σ → σ → μ → Prop) : σ → σ → μ → Prop
  | now {m : μ} {s t : σ} (hne : queue s ≠ []) (ht : takes s t m) : DrainTakes queue round takes s t m
  | later {m : μ} {s s₁ t : σ} {n : Nat} (hne : queue s ≠ []) (h : round s = .ok (n, s₁))
      (ht : DrainTakes queue round takes s₁ t m) : DrainTakes queue round takes s t m

variable {safe : σ → μ → Prop} {takes : σ → σ → μ → Prop}

/-- Nothing is taken up from an empty queue. -/
theorem DrainTakes.ne_nil {m : μ} {s t : σ} (h : DrainTakes queue round takes s t m) : queue s ≠ [] := by
  cases h with
  | now hne _ => exact hne
  | later hne _ _ => exact hne

/-- **A batch returns** exactly when each of its messages is taken up in a state it is safe in. -/
theorem batch_returns_iff {I : List μ → σ → Prop}
    (hhandle : ∀ {m ms s}, I (m :: ms) s → ((∃ s', handle s m = .ok s') ↔ safe s m))
    (hkeep : ∀ {m ms s s'}, I (m :: ms) s → handle s m = .ok s' → I ms s') (batch : List μ) : ∀ {s : σ}, I batch s →
      ((∃ s', batch.foldlM handle s = .ok s') ↔ ∀ t m, BatchTakes handle batch s t m → safe t m) := by
  induction batch with
  | nil => exact fun _ => ⟨fun _ t m ht => (by cases ht), fun _ => ⟨_, rfl⟩⟩
  | cons m batch ih =>
      intro s hI
      rw [List.foldlM_cons]
      constructor
      · rintro ⟨s', h⟩ t x ht
        obtain ⟨s₁, hm, hrest⟩ := bind_eq_ok.mp h
        cases ht with
        | head => exact (hhandle hI).mp ⟨s₁, hm⟩
        | tail hm' ht =>
            cases hm.symm.trans hm'
            exact (ih (hkeep hI hm)).mp ⟨s', hrest⟩ t x ht
      · intro hall
        obtain ⟨s₁, hm⟩ := (hhandle hI).mpr (hall s m .head)
        obtain ⟨s', hrest⟩ := (ih (hkeep hI hm)).mpr fun t x ht => hall t x (.tail hm ht)
        exact ⟨s', bind_eq_ok.mpr ⟨s₁, hm, hrest⟩⟩

/-- **A drain returns**, given enough rounds, exactly when each message is taken up in a state it is safe in. -/
theorem drain_returns_iff {I : σ → Prop} (hok : ∀ {s}, I s → ∀ m ∈ queue s, ok m)
    (hround : ∀ {s}, I s → ((∃ r, round s = .ok r) ↔ ∀ t m, takes s t m → safe t m))
    (hkeep : ∀ {s r}, I s → round s = .ok r → I r.2)
    (hlowers : ∀ {s n s'}, (∀ m ∈ queue s, ok m) → queue s ≠ [] → round s = .ok (n, s') →
      Lowers queue round ok weight s n s')
    (hweight : ∀ m, ok m → 0 < weight m) : ∀ {fuel : Nat} {s : σ}, I s → total weight (queue s) ≤ fuel →
      ((∃ r, drain queue round fuel s = .ok r) ↔ ∀ t m, DrainTakes queue round takes s t m → safe t m) := by
  intro fuel
  induction fuel with
  | zero =>
      intro s hI hfuel
      have hnil := eq_nil_of_total (fun m hm => hweight m (hok hI m hm)) hfuel
      exact ⟨fun _ t m ht => absurd hnil ht.ne_nil, fun _ => ⟨_, rfl⟩⟩
  | succ fuel ih =>
      intro s hI hfuel
      rw [drain]
      split
      · next hnil => exact ⟨fun _ t m ht => absurd hnil ht.ne_nil, fun _ => ⟨_, rfl⟩⟩
      · next m₀ ms hq =>
          have hne : queue s ≠ [] := by rw [hq]; exact List.cons_ne_nil _ _
          have hrest : ∀ {n s₁}, round s = .ok (n, s₁) → total weight (queue s₁) ≤ fuel := fun hr => by
            have hl := hlowers (hok hI) hne hr
            have hsome := hl.some
            have hcost := hl.cost
            omega
          constructor
          · rintro ⟨r, h⟩ t m ht
            obtain ⟨⟨n₁, s₁⟩, hr, h⟩ := bind_eq_ok.mp h
            obtain ⟨⟨n₂, s₂⟩, hd, -⟩ := bind_eq_ok.mp h
            cases ht with
            | now _ ht => exact (hround hI).mp ⟨_, hr⟩ t m ht
            | later _ hr' ht =>
                cases hr.symm.trans hr'
                exact (ih (hkeep hI hr) (hrest hr)).mp ⟨_, hd⟩ t m ht
          · intro hall
            obtain ⟨⟨n₁, s₁⟩, hr⟩ := (hround hI).mpr fun t m ht => hall t m (.now hne ht)
            obtain ⟨⟨n₂, s₂⟩, hd⟩ := (ih (hkeep hI hr) (hrest hr)).mpr fun t m ht => hall t m (.later hne hr ht)
            exact ⟨_, bind_eq_ok.mpr ⟨_, hr, bind_eq_ok.mpr ⟨_, hd, rfl⟩⟩⟩

end Worklist
