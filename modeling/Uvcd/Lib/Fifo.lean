import Mathlib.Data.List.Basic

/-!
# `Lib.Fifo` — what an element of a queue owes to those behind it

A queue is a list, taken from the front and extended at the back. `Behind R l` says that every element
stands in `R` to what is queued behind it: an obligation the rest of the queue discharges. When `R` only
gets easier as the queue grows, the invariant survives both ends of the queue.

Nothing here names a particular program.
-/

namespace Fifo

variable {α : Type} {R S : α → List α → Prop} {a : α} {l ms : List α}

/-- Every element stands in `R` to the elements behind it. -/
def Behind (R : α → List α → Prop) : List α → Prop
  | [] => True
  | a :: l => R a l ∧ Behind R l

@[simp] theorem behind_nil : Behind R [] := trivial

@[simp] theorem behind_cons : Behind R (a :: l) ↔ R a l ∧ Behind R l := Iff.rfl

/-- The relation as a statement on the positions of the queue. -/
theorem behind_iff : Behind R l ↔ ∀ pre a post, l = pre ++ a :: post → R a post := by
  induction l with
  | nil => simp
  | cons b l ih =>
      rw [behind_cons, ih]
      constructor
      · rintro ⟨hb, hl⟩ pre a post heq
        cases pre with
        | nil =>
            rw [List.nil_append, List.cons.injEq] at heq
            rw [← heq.1, ← heq.2]; exact hb
        | cons c pre =>
            rw [List.cons_append, List.cons.injEq] at heq
            exact hl pre a post heq.2
      · intro h
        exact ⟨h [] b l rfl, fun pre a post heq => h (b :: pre) a post (by rw [heq]; rfl)⟩

/-- **The back of the queue.** Elements queued later keep the invariant when they discharge no less than
    before and owe nothing the others behind them do not discharge. -/
theorem Behind.append (h : Behind R l) (hRS : ∀ a post, R a post → S a (post ++ ms)) (hms : Behind S ms) :
    Behind S (l ++ ms) := by
  induction l with
  | nil => exact hms
  | cons b l ih => exact ⟨hRS b l h.1, ih h.2⟩

/-- Elements that owe nothing. -/
theorem behind_of_forall (h : ∀ a ∈ ms, ∀ post, R a post) : Behind R ms := by
  induction ms with
  | nil => trivial
  | cons b ms ih =>
      exact ⟨h b List.mem_cons_self ms, ih fun a ha => h a (List.mem_cons_of_mem _ ha)⟩

/-! ## Keys that are open

A key is **backed** while it is live or its end is announced in the queue. What opens a key must have it
backed by what is behind it, so whoever relies on the key learns of its end afterwards. -/

section Backed

variable {κ : Type} {live live' : κ → Prop} {close : κ → α} {opens : α → κ → Prop} {k : κ}

/-- The key is live, or its end stands in the queue. -/
def Backed (live : κ → Prop) (close : κ → α) (k : κ) (l : List α) : Prop := live k ∨ close k ∈ l

/-- Whatever opens a key has it backed. -/
def Pledged (live : κ → Prop) (close : κ → α) (opens : α → κ → Prop) (l : List α) : Prop :=
  Behind (fun a l => ∀ k, opens a k → Backed live close k l) l

/-- Keys that stop being live have their end queued. -/
theorem Backed.append (h : Backed live close k l) (hlive : live k → live' k ∨ close k ∈ ms) :
    Backed live' close k (l ++ ms) := by
  rcases h with h | h
  · rcases hlive h with h | h
    · exact .inl h
    · exact .inr (List.mem_append_right _ h)
  · exact .inr (List.mem_append_left _ h)

/-- Only the end of the key itself takes away what backs it. -/
theorem Backed.pop (h : Backed live close k (a :: l)) (hne : a ≠ close k) : Backed live close k l := by
  rcases h with h | h
  · exact .inl h
  · rcases List.mem_cons.mp h with h | h
    · exact absurd h.symm hne
    · exact .inr h

theorem Backed.drained (h : Backed live close k []) : live k := by
  rcases h with h | h
  · exact h
  · cases h

theorem Pledged.append (h : Pledged live close opens l)
    (hlive : ∀ k, live k → live' k ∨ close k ∈ ms) (hms : Pledged live' close opens ms) :
    Pledged live' close opens (l ++ ms) :=
  Behind.append h (fun _ _ hb k hk => (hb k hk).append (hlive k)) hms

/-- Elements that open nothing. -/
theorem pledged_of_forall (h : ∀ a ∈ ms, ∀ k, ¬opens a k) : Pledged live close opens ms :=
  behind_of_forall fun a ha _ k hk => absurd hk (h a ha k)

end Backed

end Fifo
