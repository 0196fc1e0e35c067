import Mathlib.Data.List.Forall2

/-!
# `Lib.Split` — splitting a list at its first hit

`splitFirst p l` finds the first element of `l` that satisfies `p` and returns it with what stands before
and behind it; `SplitsAt` is the relation it computes. Searching a linked list and updating or unlinking
what was found are stated with them: the result is `pre ++ a' :: post` or `pre ++ post`.

Nothing here names a particular program.
-/

namespace Split

/-- Split a list at the first element that satisfies `p`. -/
def splitFirst {α : Type} (p : α → Bool) : List α → Option (List α × α × List α)
  | [] => none
  | a :: as =>
    if p a then some ([], a, as)
    else (splitFirst p as).map fun (pre, b, post) => (a :: pre, b, post)

/-- `l` split at its first element that satisfies `p`. -/
structure SplitsAt {α : Type} (p : α → Prop) (l pre : List α) (a : α) (post : List α) : Prop where
  eq : l = pre ++ a :: post
  hit : p a
  miss : ∀ x ∈ pre, ¬p x

/-- What holds throughout a list and of one element more holds throughout both. -/
theorem forall_snoc {α : Type} {P : α → Prop} {l : List α} {a : α} (hall : ∀ x ∈ l, P x) (ha : P a) :
    ∀ x ∈ l ++ [a], P x := by
  intro x hx
  rcases List.mem_append.mp hx with hx | hx
  · exact hall x hx
  · rw [List.mem_singleton.mp hx]; exact ha

/-- What holds throughout a list holds throughout what is left without one element. -/
theorem forall_erased {α : Type} {P : α → Prop} {l pre post : List α} {a : α} (h : l = pre ++ a :: post)
    (hall : ∀ x ∈ l, P x) : ∀ x ∈ pre ++ post, P x := by
  intro x hx
  refine hall x ?_
  rw [h]
  rcases List.mem_append.mp hx with hx | hx <;> simp [hx]

/-- It still does with something else that has it in the place of the element. -/
theorem forall_replaced {α : Type} {P : α → Prop} {l pre post : List α} {a b : α}
    (h : l = pre ++ a :: post) (hall : ∀ x ∈ l, P x) (hb : P b) : ∀ x ∈ pre ++ b :: post, P x := by
  intro x hx
  rcases List.mem_append.mp hx with hx | hx
  · exact forall_erased h hall x (List.mem_append_left post hx)
  · rcases List.mem_cons.mp hx with rfl | hx
    · exact hb
    · exact forall_erased h hall x (List.mem_append_right pre hx)

/-- What some element satisfies, some element still does when the one replaced hands it on. -/
theorem exists_replaced {α : Type} {P : α → Prop} {pre post : List α} {a b : α}
    (h : ∃ x ∈ pre ++ a :: post, P x) (hab : P a → P b) : ∃ x ∈ pre ++ b :: post, P x := by
  obtain ⟨x, hx, hP⟩ := h
  rcases List.mem_append.mp hx with hx | hx
  · exact ⟨x, List.mem_append_left _ hx, hP⟩
  · rcases List.mem_cons.mp hx with rfl | hx
    · exact ⟨b, List.mem_append_right _ List.mem_cons_self, hab hP⟩
    · exact ⟨x, List.mem_append_right _ (List.mem_cons_of_mem _ hx), hP⟩

/-- One element replaced by another changes nothing of what is filtered, when neither passes. -/
theorem filter_replaced {α : Type} {p : α → Bool} {pre post : List α} {a b : α} (ha : p a = false)
    (hb : p b = false) : (pre ++ b :: post).filter p = (pre ++ a :: post).filter p := by
  rw [List.filter_append, List.filter_append, List.filter_cons, List.filter_cons, ha, hb]
  rfl

/-- What is not the element removed is still there. -/
theorem mem_erased {α : Type} {l pre post : List α} {a x : α} (h : l = pre ++ a :: post) (hx : x ∈ l)
    (hne : x ≠ a) : x ∈ pre ++ post := by
  rw [h] at hx
  rcases List.mem_append.mp hx with hx | hx
  · exact List.mem_append_left _ hx
  · rcases List.mem_cons.mp hx with rfl | hx
    · exact absurd rfl hne
    · exact List.mem_append_right _ hx

theorem mem_replaced {α : Type} {pre post : List α} {b x : α} (hx : x ∈ pre ++ post) :
    x ∈ pre ++ b :: post := by
  rcases List.mem_append.mp hx with hx | hx
  · exact List.mem_append_left _ hx
  · exact List.mem_append_right _ (List.mem_cons_of_mem _ hx)

theorem mem_of_erased {α : Type} {l pre post : List α} {a x : α} (h : l = pre ++ a :: post) (hx : x ∈ pre ++ post) :
    x ∈ l := by
  rw [h]
  exact mem_replaced hx

/-- What is in a list after one element is replaced is what has replaced it, or one of the others. -/
theorem mem_replaced_cases {α : Type} {pre post : List α} {b x : α} (hx : x ∈ pre ++ b :: post) :
    x = b ∨ x ∈ pre ++ post := by
  rcases List.mem_append.mp hx with hx | hx
  · exact .inr (List.mem_append_left _ hx)
  · exact (List.mem_cons.mp hx).imp id fun hx => List.mem_append_right _ hx

/-- What satisfies `P` in a list is the element singled out, or one of the others. -/
theorem exists_erased {α : Type} {P : α → Prop} {pre post : List α} {a : α} (h : ∃ x ∈ pre ++ a :: post, P x) :
    P a ∨ ∃ x ∈ pre ++ post, P x := by
  obtain ⟨x, hx, hP⟩ := h
  rcases mem_replaced_cases hx with rfl | hx
  · exact .inl hP
  · exact .inr ⟨x, hx, hP⟩

/-- What a pass over a list leaves comes from an element of the list. -/
theorem forall₂_right {α β : Type} {R : α → β → Prop} {as : List α} {bs : List β} (h : List.Forall₂ R as bs) {b : β}
    (hb : b ∈ bs) : ∃ a ∈ as, R a b := by
  induction h with
  | nil => cases hb
  | cons hab _ ih =>
      rcases List.mem_cons.mp hb with rfl | hb
      · exact ⟨_, List.mem_cons_self, hab⟩
      · obtain ⟨a, ha, hR⟩ := ih hb
        exact ⟨a, List.mem_cons_of_mem _ ha, hR⟩

namespace SplitsAt

variable {α β : Type} {p : α → Prop} {l pre post : List α} {a : α}

theorem mem (h : SplitsAt p l pre a post) : a ∈ l := by rw [h.eq]; simp

/-- A list that begins with a hit is split there. -/
theorem head (ha : p a) : SplitsAt p (a :: l) [] a l := ⟨rfl, ha, fun x hx => by cases hx⟩

/-- A miss in front of a list is passed over. -/
theorem cons {b : α} (hb : ¬p b) (h : SplitsAt p l pre a post) : SplitsAt p (b :: l) (b :: pre) a post := by
  refine ⟨by rw [h.eq]; rfl, h.hit, fun x hx => ?_⟩
  rcases List.mem_cons.mp hx with rfl | hx
  · exact hb
  · exact h.miss x hx

/-- The split is unique. -/
theorem unique {pre' post' : List α} {a' : α} (h : SplitsAt p l pre a post)
    (h' : SplitsAt p l pre' a' post') : pre = pre' ∧ a = a' ∧ post = post' := by
  have heq : pre ++ a :: post = pre' ++ a' :: post' := h.eq.symm.trans h'.eq
  rcases List.append_eq_append_iff.mp heq with ⟨mid, hpre', hrest⟩ | ⟨mid, hpre, hrest⟩
  · cases mid with
    | nil => simp at hpre' hrest; exact ⟨hpre'.symm, hrest.1, hrest.2⟩
    | cons b mid =>
        -- the hit of the shorter prefix would be a miss of the longer one
        rw [List.cons_append, List.cons.injEq] at hrest
        exact absurd h.hit (h'.miss a (by rw [hpre', hrest.1]; simp))
  · cases mid with
    | nil => simp at hpre hrest; exact ⟨hpre, hrest.1.symm, hrest.2.symm⟩
    | cons b mid =>
        rw [List.cons_append, List.cons.injEq] at hrest
        exact absurd h'.hit (h.miss a' (by rw [hpre, hrest.1]; simp))

/-- A split seen through a function. -/
theorem map {q : β → Prop} (f : α → β) (hpq : ∀ x, p x ↔ q (f x)) (h : SplitsAt p l pre a post) :
    SplitsAt q (l.map f) (pre.map f) (f a) (post.map f) := by
  refine ⟨by rw [h.eq]; simp, (hpq a).mp h.hit, ?_⟩
  intro y hy
  obtain ⟨x, hx, rfl⟩ := List.mem_map.mp hy
  exact fun hq => h.miss x hx ((hpq x).mpr hq)

/-- A split of an image comes from a split. -/
theorem of_map {q : β → Prop} {pre' post' : List β} {b : β} (f : α → β) (hpq : ∀ x, p x ↔ q (f x))
    (h : SplitsAt q (l.map f) pre' b post') : ∃ pre a post, SplitsAt p l pre a post ∧ f a = b := by
  obtain ⟨pre, rest, hl, hpre, hrest⟩ := List.map_eq_append_iff.mp h.eq
  obtain ⟨a, post, rfl, hfa, -⟩ := List.map_eq_cons_iff.mp hrest
  refine ⟨pre, a, post, ⟨hl, (hpq a).mpr (hfa ▸ h.hit), fun x hx hpx => ?_⟩, hfa⟩
  exact h.miss (f x) (hpre ▸ List.mem_map_of_mem hx) ((hpq x).mp hpx)

/-- `find?` stops where the split does. -/
theorem find_eq [DecidablePred p] (h : SplitsAt p l pre a post) :
    l.find? (fun x => decide (p x)) = some a := by
  have hpre : pre.find? (fun x => decide (p x)) = none := by
    rw [List.find?_eq_none]
    intro x hx
    simpa using h.miss x hx
  rw [h.eq, List.find?_append, hpre, List.find?_cons_of_pos (by simpa using h.hit)]
  rfl

/-- Where `find?` stops there is a split. -/
theorem of_find [DecidablePred p] (h : l.find? (fun x => decide (p x)) = some a) :
    ∃ pre post, SplitsAt p l pre a post := by
  obtain ⟨ha, pre, post, heq, hpre⟩ := List.find?_eq_some_iff_append.mp h
  exact ⟨pre, post, heq, by simpa using ha, fun x hx => by simpa using hpre x hx⟩

end SplitsAt

theorem find_none {α : Type} {p : α → Prop} [DecidablePred p] {l : List α} (h : ∀ x ∈ l, ¬p x) :
    l.find? (fun x => decide (p x)) = none := by
  rw [List.find?_eq_none]
  intro x hx
  simpa using h x hx

theorem splitFirst_some {α : Type} {p : α → Bool} {l pre post : List α} {a : α} :
    splitFirst p l = some (pre, a, post) ↔ SplitsAt (fun x => p x = true) l pre a post := by
  induction l generalizing pre with
  | nil =>
      refine ⟨fun h => (by cases h), fun h => ?_⟩
      have := h.eq; simp at this
  | cons x l ih =>
      rw [splitFirst]
      by_cases hx : p x = true
      · rw [if_pos hx]
        -- the split before the first element is the only one
        constructor
        · intro h; cases h; exact ⟨rfl, hx, fun y hy => by cases hy⟩
        · intro h
          have h' : SplitsAt (fun x => p x = true) (x :: l) [] x l := ⟨rfl, hx, fun y hy => by cases hy⟩
          obtain ⟨rfl, rfl, rfl⟩ := h.unique h'
          rfl
      · rw [if_neg hx, Option.map_eq_some_iff]
        -- a split of the tail, one element further on
        constructor
        · rintro ⟨⟨pre', b, post'⟩, hs, heq⟩
          cases heq
          have h := ih.mp hs
          refine ⟨by rw [h.eq]; rfl, h.hit, ?_⟩
          intro y hy
          rcases List.mem_cons.mp hy with rfl | hy
          · exact hx
          · exact h.miss y hy
        · intro h
          cases pre with
          | nil =>
              have heq := h.eq
              rw [List.nil_append, List.cons.injEq] at heq
              exact absurd (heq.1 ▸ h.hit) hx
          | cons y pre =>
              have heq := h.eq
              rw [List.cons_append, List.cons.injEq] at heq
              refine ⟨(pre, a, post), ih.mpr ⟨heq.2, h.hit, fun z hz => ?_⟩, by rw [heq.1]⟩
              exact h.miss z (List.mem_cons_of_mem _ hz)

theorem splitFirst_none {α : Type} {p : α → Bool} {l : List α} :
    splitFirst p l = none ↔ ∀ x ∈ l, p x = false := by
  induction l with
  | nil => simp [splitFirst]
  | cons x l ih =>
      rw [splitFirst]
      by_cases hx : p x = true
      · simp [hx]
      · simp [hx, ih]

/-! For a predicate that is decided the computed split is the relation. -/

section Decide

variable {α : Type} {p : α → Prop} [DecidablePred p] {l pre post : List α} {a : α}

theorem splitFirst_decide :
    splitFirst (fun x => decide (p x)) l = some (pre, a, post) ↔ SplitsAt p l pre a post := by
  rw [splitFirst_some]
  constructor
  · intro h
    exact ⟨h.eq, by simpa using h.hit, fun x hx => by simpa using h.miss x hx⟩
  · intro h
    exact ⟨h.eq, by simpa using h.hit, fun x hx => by simpa using h.miss x hx⟩

theorem splitFirst_decide_none : splitFirst (fun x => decide (p x)) l = none ↔ ∀ x ∈ l, ¬p x := by
  rw [splitFirst_none]
  simp

end Decide

end Split
