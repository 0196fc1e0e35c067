import Mathlib.Order.Bounds.Basic

/-!
# `Lib.Ascending` — rounding up in an ascending list

`roundUp want x xs` walks the list `x :: xs` to the first element that is not below `want`, and stays at the
last one when there is none.

* `roundUp_isLeast` / `roundUp_isGreatest` — on an ascending list it is the least element not below `want`,
  and the greatest of all when every element is below.
* `roundUp_of_mem` — what is listed is rounded to itself.

Nothing here names a particular program.
-/

namespace Ascending

variable {α : Type} [LinearOrder α] {want x y : α} {xs : List α}

def roundUp (want : α) : α → List α → α
  | x, [] => x
  | x, y :: ys => if x < want then roundUp want y ys else x

theorem roundUp_mem (want x : α) (xs : List α) : roundUp want x xs ∈ x :: xs := by
  induction xs generalizing x with
  | nil => exact List.mem_singleton.mpr rfl
  | cons y ys ih =>
      rw [roundUp]
      split
      · exact List.mem_cons_of_mem _ (ih y)
      · exact List.mem_cons_self

/-- Everything before the element found is below `want`. -/
theorem le_roundUp (hasc : (x :: xs).Pairwise (· < ·)) (hy : y ∈ x :: xs) :
    y < want ∨ roundUp want x xs ≤ y := by
  induction xs generalizing x with
  | nil =>
      right
      rw [List.mem_singleton.mp hy, roundUp]
  | cons z zs ih =>
      have hx : ∀ {y : α}, y ∈ z :: zs → x < y := List.rel_of_pairwise_cons hasc
      rw [roundUp]
      split
      · next hlt =>
          rcases List.mem_cons.mp hy with rfl | hy
          · exact .inl hlt
          · exact ih hasc.of_cons hy
      · right
        rcases List.mem_cons.mp hy with rfl | hy
        · exact le_refl _
        · exact le_of_lt (hx hy)

theorem roundUp_ge (hex : ∃ y ∈ x :: xs, want ≤ y) : want ≤ roundUp want x xs := by
  induction xs generalizing x with
  | nil =>
      obtain ⟨y, hy, hle⟩ := hex
      rw [List.mem_singleton.mp hy] at hle
      exact hle
  | cons z zs ih =>
      obtain ⟨y, hy, hle⟩ := hex
      rw [roundUp]
      split
      · next hlt =>
          rcases List.mem_cons.mp hy with rfl | hy
          · exact absurd hle (not_le_of_gt hlt)
          · exact ih ⟨y, hy, hle⟩
      · next hlt => exact not_lt.mp hlt

theorem roundUp_isLeast (hasc : (x :: xs).Pairwise (· < ·)) (hex : ∃ y ∈ x :: xs, want ≤ y) :
    IsLeast {y | y ∈ x :: xs ∧ want ≤ y} (roundUp want x xs) := by
  refine ⟨⟨roundUp_mem want x xs, roundUp_ge hex⟩, ?_⟩
  rintro y ⟨hy, hle⟩
  exact (le_roundUp hasc hy).resolve_left (not_lt.mpr hle)

theorem roundUp_isGreatest (hasc : (x :: xs).Pairwise (· < ·)) (hno : ∀ y ∈ x :: xs, y < want) :
    IsGreatest {y | y ∈ x :: xs} (roundUp want x xs) := by
  refine ⟨roundUp_mem want x xs, ?_⟩
  induction xs generalizing x with
  | nil =>
      intro y hy
      rw [List.mem_singleton.mp hy, roundUp]
  | cons z zs ih =>
      intro y hy
      have hx : x < want := hno x List.mem_cons_self
      have hrec := ih hasc.of_cons fun y hy => hno y (List.mem_cons_of_mem _ hy)
      rw [roundUp, if_pos hx]
      rcases List.mem_cons.mp hy with rfl | hy
      · -- the head is below all that follows it
        exact le_of_lt (List.rel_of_pairwise_cons hasc (roundUp_mem want z zs))
      · exact hrec hy

/-- What is listed is rounded to itself. -/
theorem roundUp_of_mem (hasc : (x :: xs).Pairwise (· < ·)) (hw : want ∈ x :: xs) :
    roundUp want x xs = want :=
  le_antisymm ((roundUp_isLeast hasc ⟨want, hw, le_refl _⟩).2 ⟨hw, le_refl _⟩)
    (roundUp_ge ⟨want, hw, le_refl _⟩)

end Ascending
