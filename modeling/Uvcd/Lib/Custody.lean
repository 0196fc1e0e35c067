import Mathlib.Data.List.Nodup

/-!
# `Lib.Custody` — handles that are acquired, used and released

A trace of operations on handles is in order when nothing is acquired that is held, and only what is held is used
or released. `replay` follows a trace and gives what is held after it.

* `replay_append` — a trace is replayed piece by piece.
* `replay_nodup` — nothing is held twice.
* `released_once` — in a trace in order, an acquired handle that is not held in the end is released, once, and the
  next operation on it after that, if any, acquires it again.

Nothing here names a particular program.
-/

namespace Custody

variable {α : Type}

/-- An operation on a handle. -/
inductive Op (α : Type) where
  | acquire (a : α)
  | use (a : α)
  | release (a : α)
  deriving DecidableEq

/-- The handle it is about. -/
def Op.handle : Op α → α
  | .acquire a | .use a | .release a => a

variable [DecidableEq α]

/-- What is held after one operation; `none` if it is out of order. -/
def Op.apply (held : List α) : Op α → Option (List α)
  | .acquire a => if a ∈ held then none else some (a :: held)
  | .use a => if a ∈ held then some held else none
  | .release a => if a ∈ held then some (held.erase a) else none

/-- What is held after the trace. -/
def replay (ops : List (Op α)) (held : List α) : Option (List α) := ops.foldlM Op.apply held

variable {ops ops' : List (Op α)} {op : Op α} {held held' held'' : List α} {a : α}

theorem replay_cons (op : Op α) (ops : List (Op α)) (held : List α) :
    replay (op :: ops) held = (op.apply held).bind (replay ops) := List.foldlM_cons

theorem replay_append (ops ops' : List (Op α)) (held : List α) :
    replay (ops ++ ops') held = (replay ops held).bind (replay ops') := List.foldlM_append

theorem replay_cons_some : replay (op :: ops) held = some held' ↔
    ∃ mid, op.apply held = some mid ∧ replay ops mid = some held' := by
  rw [replay_cons, Option.bind_eq_some_iff]

theorem replay_append_some : replay (ops ++ ops') held = some held' ↔
    ∃ mid, replay ops held = some mid ∧ replay ops' mid = some held' := by
  rw [replay_append, Option.bind_eq_some_iff]

/-- What one operation does, when it is in order. -/
theorem apply_some : op.apply held = some held' ↔
    (∃ a, op = .acquire a ∧ a ∉ held ∧ held' = a :: held) ∨ (∃ a, op = .use a ∧ a ∈ held ∧ held' = held) ∨
      ∃ a, op = .release a ∧ a ∈ held ∧ held' = held.erase a := by
  cases op with
  | acquire a =>
      by_cases ha : a ∈ held
      · simp [Op.apply, ha]
      · simp [Op.apply, ha, eq_comm]
  | use a =>
      by_cases ha : a ∈ held
      · simp [Op.apply, ha, eq_comm]
      · simp [Op.apply, ha]
  | release a =>
      by_cases ha : a ∈ held
      · simp [Op.apply, ha, eq_comm]
      · simp [Op.apply, ha]

theorem replay_nodup (h : replay ops held = some held') (hnd : held.Nodup) : held'.Nodup := by
  induction ops generalizing held with
  | nil => cases h; exact hnd
  | cons op ops ih =>
      obtain ⟨mid, hop, hrest⟩ := replay_cons_some.mp h
      refine ih hrest ?_
      rcases apply_some.mp hop with ⟨a, -, ha, rfl⟩ | ⟨a, -, -, rfl⟩ | ⟨a, -, -, rfl⟩
      · exact List.nodup_cons.mpr ⟨ha, hnd⟩
      · exact hnd
      · exact hnd.erase a

/-- A handle that is not held has to be acquired before anything else is done with it. -/
theorem acquired_first (h : replay (ops ++ op :: ops') held = some held') (ha : op.handle ∉ held) :
    op = .acquire op.handle ∨ .acquire op.handle ∈ ops := by
  induction ops generalizing held with
  | nil =>
      obtain ⟨mid, hop, -⟩ := replay_cons_some.mp h
      rcases apply_some.mp hop with ⟨a, rfl, -, -⟩ | ⟨a, rfl, hmem, -⟩ | ⟨a, rfl, hmem, -⟩
      · exact .inl rfl
      · exact absurd hmem ha
      · exact absurd hmem ha
  | cons x ops ih =>
      obtain ⟨mid, hx, hrest⟩ := replay_cons_some.mp h
      by_cases hacq : x = .acquire op.handle
      · exact .inr (hacq ▸ List.mem_cons_self)
      · refine (ih hrest ?_).imp_right (List.mem_cons_of_mem _)
        rcases apply_some.mp hx with ⟨b, rfl, -, rfl⟩ | ⟨b, -, -, rfl⟩ | ⟨b, -, -, rfl⟩
        · intro hmem
          rcases List.mem_cons.mp hmem with heq | hmem
          · exact hacq (by rw [heq])
          · exact ha hmem
        · exact ha
        · exact fun hmem => ha (List.mem_of_mem_erase hmem)

/-- In the trace the handle is released once, and after that it is only used or released when it has been acquired
    again. -/
def ReleasedOnce (a : α) (ops : List (Op α)) : Prop :=
  ∃ pre post, ops = pre ++ .release a :: post ∧ .acquire a ∉ pre ∧ .release a ∉ pre ∧
    ∀ mid op rest, post = mid ++ op :: rest → op.handle = a → op = .acquire a ∨ .acquire a ∈ mid

/-- **A handle that is held, and not in the end, is released once.** -/
theorem held_released (h : replay ops held = some held') (hnd : held.Nodup) (ha : a ∈ held) (ha' : a ∉ held') :
    ReleasedOnce a ops := by
  induction ops generalizing held with
  | nil => cases h; exact absurd ha ha'
  | cons x ops ih =>
      obtain ⟨mid, hx, hrest⟩ := replay_cons_some.mp h
      by_cases hrel : x = .release a
      · -- this is the release; afterwards `a` has to be acquired again
        subst hrel
        refine ⟨[], ops, rfl, fun hm => (by cases hm), fun hm => (by cases hm), ?_⟩
        have hgone : a ∉ mid := by
          rcases apply_some.mp hx with ⟨b, hb, -, -⟩ | ⟨b, hb, -, -⟩ | ⟨b, hb, -, rfl⟩
          · cases hb
          · cases hb
          · cases hb
            exact fun hmem => (hnd.mem_erase_iff.mp hmem).1 rfl
        rintro pre op post rfl rfl
        exact acquired_first hrest hgone
      · -- `a` is still held, and is released further on
        have hmid : a ∈ mid ∧ mid.Nodup ∧ x ≠ .acquire a := by
          rcases apply_some.mp hx with ⟨b, rfl, hb, rfl⟩ | ⟨b, rfl, -, rfl⟩ | ⟨b, rfl, -, rfl⟩
          · refine ⟨List.mem_cons_of_mem _ ha, List.nodup_cons.mpr ⟨hb, hnd⟩, fun heq => ?_⟩
            cases heq
            exact hb ha
          · exact ⟨ha, hnd, by simp⟩
          · refine ⟨(List.mem_erase_of_ne fun heq => hrel (by rw [heq])).mpr ha, hnd.erase b, by simp⟩
        obtain ⟨pre, post, rfl, hacq, hrel', hnext⟩ := ih hrest hmid.2.1 hmid.1
        refine ⟨x :: pre, post, rfl, fun hm => ?_, fun hm => ?_, hnext⟩
        · rcases List.mem_cons.mp hm with heq | hm
          · exact hmid.2.2 heq.symm
          · exact hacq hm
        · rcases List.mem_cons.mp hm with heq | hm
          · exact hrel heq.symm
          · exact hrel' hm

/-- **An acquired handle that is not held in the end is released once**, and not used after that. -/
theorem released_once (h : replay (ops ++ .acquire a :: ops') held = some held') (hnd : held.Nodup)
    (ha : a ∉ held') : ReleasedOnce a ops' := by
  obtain ⟨mid, hpre, h⟩ := replay_append_some.mp h
  obtain ⟨mid', hacq, h⟩ := replay_cons_some.mp h
  have hmid := replay_nodup hpre hnd
  rcases apply_some.mp hacq with ⟨b, heq, hb, rfl⟩ | ⟨b, heq, -, -⟩ | ⟨b, heq, -, -⟩
  · cases heq
    exact held_released h (List.nodup_cons.mpr ⟨hb, hmid⟩) List.mem_cons_self ha
  · cases heq
  · cases heq

end Custody
