import Mathlib.Data.List.Perm.Lattice
import Mathlib.Data.List.Nodup

/-!
# `Lib.Roster` — a roster kept by a stream of comings and goings

Things come and go. A reader learns of it late, from a list of changes, and keeps a roster of the things there:
one that came is put on it, unless it is gone again by the time it is looked for, and one that went is taken off.

* `Tracks` — for one thing: reading its changes leads from what the roster says to what is so, and nothing comes
  that is on the roster.
* `Follows` — this for all things; `comes`, `goes`, `admits`, `refuses`, `drops` and `misses` keep it.
* `Follows.settled` — a reader that has read everything has each thing that is there once, and nothing else.
* `Watched.scanned` — a reader that starts with a list of the things there, taken after the changes are recorded,
  follows exactly when no thing on the list has a coming for its first change.

Nothing here names a particular program.
-/

namespace Roster

variable {α : Type}

/-- A thing comes (`here`) or goes. -/
structure Change (α : Type) where
  thing : α
  here : Bool
  deriving DecidableEq

/-! ## One thing -/

/-- From `on`, reading the word leads to `now`; what comes is not on the roster yet. -/
def Tracks : Bool → List Bool → Bool → Prop
  | on, [], now => on = now
  | on, true :: w, now => on = false ∧ Tracks true w now
  | _, false :: w, now => Tracks false w now

theorem Tracks.comes {w : List Bool} : ∀ {on : Bool}, Tracks on w false → Tracks on (w ++ [true]) true := by
  induction w with
  | nil => intro on h; exact ⟨h, rfl⟩
  | cons b w ih =>
      intro on h
      cases b with
      | true => exact ⟨h.1, ih h.2⟩
      | false => exact @ih false h

theorem Tracks.goes {w : List Bool} {now : Bool} : ∀ {on : Bool}, Tracks on w now → Tracks on (w ++ [false]) false := by
  induction w with
  | nil => intro on _; exact rfl
  | cons b w ih =>
      intro on h
      cases b with
      | true => exact ⟨h.1, ih h.2⟩
      | false => exact @ih false h

/-- What is gone may as well never have been put on the roster: if it was, its going is still to be read. -/
theorem Tracks.gone {w : List Bool} {on : Bool} (h : Tracks on w false) : Tracks false w false := by
  cases w with
  | nil => exact rfl
  | cons b w =>
      cases b with
      | true => exact ⟨rfl, h.2⟩
      | false => exact h

/-- A thing that is there is listed in front of its changes. -/
theorem Tracks.listed {w : List Bool} {was : Bool} (h : Tracks was w true) :
    Tracks false (true :: w) true ↔ w.head? ≠ some true := by
  cases w with
  | nil => exact iff_of_true ⟨rfl, rfl⟩ (by simp)
  | cons b w =>
      cases b with
      | true => exact iff_of_false (fun h => by cases h.2.1) (by simp)
      | false => exact iff_of_true ⟨rfl, h⟩ (by simp)

/-! ## All things -/

variable [DecidableEq α] {a : α} {roster roster' present present' : List α} {pending : List (Change α)}

/-- The changes of one thing. -/
def word (a : α) (cs : List (Change α)) : List Bool := (cs.filter fun c => decide (c.thing = a)).map (·.here)

theorem word_append (a : α) (cs ds : List (Change α)) : word a (cs ++ ds) = word a cs ++ word a ds := by
  unfold word
  rw [List.filter_append, List.map_append]

theorem word_self (a : α) (b : Bool) (cs : List (Change α)) : word a (⟨a, b⟩ :: cs) = b :: word a cs := by
  simp [word]

theorem word_other {x : α} (h : x ≠ a) (b : Bool) (cs : List (Change α)) : word a (⟨x, b⟩ :: cs) = word a cs := by
  simp [word, h]

/-- The roster, once the pending changes are read, is what is present. -/
structure Follows (roster : List α) (pending : List (Change α)) (present : List α) : Prop where
  nodup : roster.Nodup
  tracks : ∀ a, Tracks (decide (a ∈ roster)) (word a pending) (decide (a ∈ present))

/-- The pending changes are those since some time. -/
def Watched (pending : List (Change α)) (present : List α) : Prop :=
  ∀ a, ∃ was, Tracks was (word a pending) (decide (a ∈ present))

theorem Follows.congr (h : Follows roster pending present) (hp : ∀ b, b ∈ present' ↔ b ∈ present) :
    Follows roster pending present' :=
  ⟨h.nodup, fun b => by rw [decide_eq_decide.mpr (hp b)]; exact h.tracks b⟩

theorem Watched.congr (h : Watched pending present) (hp : ∀ b, b ∈ present' ↔ b ∈ present) :
    Watched pending present' := by
  intro b
  rw [decide_eq_decide.mpr (hp b)]
  exact h b

/-! ### What is so changes -/

theorem tracks_comes (hp : ∀ b, b ∈ present' ↔ b = a ∨ b ∈ present) (ha : a ∉ present) (b : α) {on : Bool}
    (h : Tracks on (word b pending) (decide (b ∈ present))) :
    Tracks on (word b (pending ++ [⟨a, true⟩])) (decide (b ∈ present')) := by
  rw [word_append]
  by_cases hb : a = b
  · subst hb
    rw [decide_eq_false ha] at h
    rw [word_self, decide_eq_true ((hp a).mpr (.inl rfl))]
    exact h.comes
  · have hsame : b ∈ present' ↔ b ∈ present := (hp b).trans (or_iff_right fun h => hb h.symm)
    rw [word_other hb, decide_eq_decide.mpr hsame]
    simpa [word] using h

theorem tracks_goes (hp : ∀ b, b ∈ present' ↔ b ≠ a ∧ b ∈ present) (b : α) {on : Bool}
    (h : Tracks on (word b pending) (decide (b ∈ present))) :
    Tracks on (word b (pending ++ [⟨a, false⟩])) (decide (b ∈ present')) := by
  rw [word_append]
  by_cases hb : a = b
  · subst hb
    rw [word_self, decide_eq_false fun hmem => ((hp a).mp hmem).1 rfl]
    exact h.goes
  · have hsame : b ∈ present' ↔ b ∈ present := (hp b).trans (and_iff_right fun h => hb h.symm)
    rw [word_other hb, decide_eq_decide.mpr hsame]
    simpa [word] using h

theorem Follows.comes (h : Follows roster pending present) (ha : a ∉ present)
    (hp : ∀ b, b ∈ present' ↔ b = a ∨ b ∈ present) : Follows roster (pending ++ [⟨a, true⟩]) present' :=
  ⟨h.nodup, fun b => tracks_comes hp ha b (h.tracks b)⟩

theorem Follows.goes (h : Follows roster pending present) (hp : ∀ b, b ∈ present' ↔ b ≠ a ∧ b ∈ present) :
    Follows roster (pending ++ [⟨a, false⟩]) present' :=
  ⟨h.nodup, fun b => tracks_goes hp b (h.tracks b)⟩

theorem Watched.comes (h : Watched pending present) (ha : a ∉ present)
    (hp : ∀ b, b ∈ present' ↔ b = a ∨ b ∈ present) : Watched (pending ++ [⟨a, true⟩]) present' := by
  intro b
  obtain ⟨was, hb⟩ := h b
  exact ⟨was, tracks_comes hp ha b hb⟩

theorem Watched.goes (h : Watched pending present) (hp : ∀ b, b ∈ present' ↔ b ≠ a ∧ b ∈ present) :
    Watched (pending ++ [⟨a, false⟩]) present' := by
  intro b
  obtain ⟨was, hb⟩ := h b
  exact ⟨was, tracks_goes hp b hb⟩

/-! ### A change is read -/

/-- What comes is not on the roster. -/
theorem Follows.fresh (h : Follows roster (⟨a, true⟩ :: pending) present) : a ∉ roster := by
  have htracks := h.tracks a
  rw [word_self] at htracks
  exact of_decide_eq_false htracks.1

/-- Every other thing is where it was. -/
theorem Follows.others {x : Bool} (h : Follows roster (⟨a, x⟩ :: pending) present) {b : α} (hb : a ≠ b)
    (hsame : b ∈ roster' ↔ b ∈ roster) : Tracks (decide (b ∈ roster')) (word b pending) (decide (b ∈ present)) := by
  have htracks := h.tracks b
  rw [word_other hb] at htracks
  rwa [decide_eq_decide.mpr hsame]

theorem Follows.admits (h : Follows roster (⟨a, true⟩ :: pending) present) (hr : roster'.Perm (a :: roster)) :
    Follows roster' pending present := by
  refine ⟨hr.nodup_iff.mpr (List.nodup_cons.mpr ⟨h.fresh, h.nodup⟩), fun b => ?_⟩
  by_cases hb : a = b
  · subst hb
    have htracks := h.tracks a
    rw [word_self] at htracks
    rw [decide_eq_true (hr.mem_iff.mpr List.mem_cons_self)]
    exact htracks.2
  · exact h.others hb (hr.mem_iff.trans (List.mem_cons.trans (or_iff_right fun h => hb h.symm)))

/-- What came is gone already, and is not put on the roster. -/
theorem Follows.refuses (h : Follows roster (⟨a, true⟩ :: pending) present) (ha : a ∉ present) :
    Follows roster pending present := by
  refine ⟨h.nodup, fun b => ?_⟩
  by_cases hb : a = b
  · subst hb
    have htracks := h.tracks a
    rw [word_self, decide_eq_false ha] at htracks
    rw [decide_eq_false h.fresh, decide_eq_false ha]
    exact htracks.2.gone
  · exact h.others hb Iff.rfl

theorem Follows.drops (h : Follows roster (⟨a, false⟩ :: pending) present) (hr : roster.Perm (a :: roster')) :
    Follows roster' pending present := by
  have hnd := List.nodup_cons.mp (hr.nodup_iff.mp h.nodup)
  refine ⟨hnd.2, fun b => ?_⟩
  by_cases hb : a = b
  · subst hb
    have htracks := h.tracks a
    rw [word_self] at htracks
    rw [decide_eq_false hnd.1]
    exact htracks
  · exact h.others hb (hr.mem_iff.trans (List.mem_cons.trans (or_iff_right fun h => hb h.symm))).symm

theorem Follows.misses (h : Follows roster (⟨a, false⟩ :: pending) present) (ha : a ∉ roster) :
    Follows roster pending present := by
  refine ⟨h.nodup, fun b => ?_⟩
  by_cases hb : a = b
  · subst hb
    have htracks := h.tracks a
    rw [word_self] at htracks
    rw [decide_eq_false ha]
    exact htracks
  · exact h.others hb Iff.rfl

/-! ### All is read -/

theorem Follows.same (h : Follows roster [] present) (a : α) : a ∈ roster ↔ a ∈ present := by
  have htracks : decide (a ∈ roster) = decide (a ∈ present) := h.tracks a
  rwa [decide_eq_decide] at htracks

/-- **Everything present is on the roster once**, and nothing else is. -/
theorem Follows.settled [BEq α] [LawfulBEq α] (h : Follows roster [] present) :
    (∀ a ∈ present, roster.count a = 1) ∧ ∀ a, a ∉ present → roster.count a = 0 :=
  ⟨fun a ha => List.count_eq_one_of_mem h.nodup ((h.same a).mpr ha),
    fun a ha => List.count_eq_zero.mpr fun hmem => ha ((h.same a).mp hmem)⟩

/-! ### The first list -/

theorem Watched.start (present : List α) : Watched [] present := fun _ => ⟨_, rfl⟩

/-- The list of what is present, as changes. -/
def arrivals (present : List α) : List (Change α) := present.map fun a => ⟨a, true⟩

theorem word_arrivals (hnd : present.Nodup) (a : α) : word a (arrivals present) =
    if a ∈ present then [true] else [] := by
  induction present with
  | nil => rfl
  | cons x present ih =>
      obtain ⟨hx, hnd⟩ := List.nodup_cons.mp hnd
      unfold arrivals at ih ⊢
      rw [List.map_cons]
      by_cases h : x = a
      · subst h
        rw [word_self, ih hnd, if_neg hx, if_pos List.mem_cons_self]
      · rw [word_other h, ih hnd]
        simp only [List.mem_cons, Ne.symm h, false_or]

/-- **A reader that starts with a list** taken after the changes are recorded follows exactly when no thing on the
    list has a coming for its first change: such a thing is on the list and comes once more. -/
theorem Watched.scanned (h : Watched pending present) (hnd : present.Nodup) :
    Follows [] (arrivals present ++ pending) present ↔ ∀ a ∈ present, (word a pending).head? ≠ some true := by
  have hword : ∀ a, word a (arrivals present ++ pending) = (if a ∈ present then [true] else []) ++ word a pending := by
    intro a
    rw [word_append, word_arrivals hnd]
  have hlisted : ∀ a ∈ present, Tracks false (word a (arrivals present ++ pending)) (decide (a ∈ present)) ↔
      (word a pending).head? ≠ some true := by
    intro a ha
    obtain ⟨was, hw⟩ := h a
    rw [decide_eq_true ha] at hw ⊢
    rw [hword, if_pos ha]
    exact hw.listed
  constructor
  · intro hf a ha
    exact (hlisted a ha).mp (hf.tracks a)
  · intro hall
    refine ⟨List.nodup_nil, fun a => ?_⟩
    by_cases ha : a ∈ present
    · exact (hlisted a ha).mpr (hall a ha)
    · -- what is not there is not on the list either
      obtain ⟨was, hw⟩ := h a
      rw [decide_eq_false ha] at hw ⊢
      rw [hword, if_neg ha]
      exact hw.gone

end Roster
