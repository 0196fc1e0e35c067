import Mathlib.Data.List.Perm.Lattice
import Mathlib.Data.List.Nodup

/-!
# `Lib.Ledger` — things that are handed on and spent

A ledger lists what has been minted, what has been spent, what somebody holds and what is lost. It is balanced
when every thing minted is in exactly one place.

* `Balanced.step` — a step that mints, hands on, spends and loses keeps the balance.
* `Balanced.held_unspent` — what is held has not been spent.
* `Balanced.spent_once_iff` — all has been spent exactly once if and only if nothing is held or lost.

Nothing here names a particular program.
-/

namespace Ledger

variable {α : Type} {minted spent held lost : List α}

/-- Everything minted is in exactly one place. -/
structure Balanced (minted spent held lost : List α) : Prop where
  fresh : minted.Nodup
  perm : minted.Perm (spent ++ held ++ lost)

theorem Balanced.empty : Balanced ([] : List α) [] [] [] := ⟨List.nodup_nil, .refl _⟩

/-- **A step.** What is minted and what was held goes where the step puts it. -/
theorem Balanced.step {new out held' gone : List α} (h : Balanced minted spent held lost) (hnd : new.Nodup)
    (hnew : ∀ a ∈ new, a ∉ minted) (hflow : (new ++ held).Perm (out ++ held' ++ gone)) :
    Balanced (minted ++ new) (spent ++ out) held' (lost ++ gone) := by
  classical
  refine ⟨List.nodup_append.mpr ⟨h.fresh, hnd, fun a ha b hb hab => hnew b hb (hab ▸ ha)⟩, ?_⟩
  -- every thing is counted on both sides
  refine List.perm_iff_count.mpr fun a => ?_
  have hold := h.perm.count_eq a
  have hmove := hflow.count_eq a
  simp only [List.count_append] at hold hmove ⊢
  omega

theorem Balanced.held_unspent (h : Balanced minted spent held lost) {a : α} (ha : a ∈ held) : a ∉ spent := by
  have hnd := h.perm.nodup_iff.mp h.fresh
  rw [List.append_assoc, List.nodup_append] at hnd
  intro hs
  exact hnd.2.2 a hs a (List.mem_append_left _ ha) rfl

/-- **Everything minted is spent exactly once** if and only if nobody holds anything and nothing is lost. -/
theorem Balanced.spent_once_iff (h : Balanced minted spent held lost) :
    (minted.Perm spent ∧ spent.Nodup) ↔ held = [] ∧ lost = [] := by
  constructor
  · rintro ⟨hall, -⟩
    have hlen := h.perm.length_eq
    rw [hall.length_eq, List.length_append, List.length_append] at hlen
    exact ⟨List.eq_nil_of_length_eq_zero (by omega), List.eq_nil_of_length_eq_zero (by omega)⟩
  · rintro ⟨rfl, rfl⟩
    have hall := h.perm
    rw [List.append_nil, List.append_nil] at hall
    exact ⟨hall, hall.nodup_iff.mp h.fresh⟩

end Ledger
