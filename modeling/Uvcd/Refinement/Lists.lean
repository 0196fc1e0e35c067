import Uvcd.Model.List

/-!
# `Refinement.Lists` — `list.h` keeps lists

A list head with the entries linked behind it is a ring (`Lib.Ring`). One lemma for each function: it touches live
memory only, it does to the ring what its name says of the list, and it writes no node outside
(`listAppend_ring`, `listPrepend_ring`, `listInsertBefore_ring`, `listInsertAfter_ring`, `listRemove_ring`).
-/

namespace Uvcd

open Ring

variable {P : Type} [DecidableEq P] {m m' : Heap P} {h x a p : P} {l pre post : List P}

omit [DecidableEq P] in
/-- Only these nodes are written. -/
def Writes (m m' : Heap P) (ps : List P) : Prop := ∀ p, p ∉ ps → m'.node p = m.node p

omit [DecidableEq P] in
theorem Writes.mono {ps qs : List P} (hw : Writes m m' ps) (hs : ∀ p ∈ ps, p ∈ qs) : Writes m m' qs :=
  fun p hp => hw p fun hm => hp (hs p hm)

omit [DecidableEq P] in
/-- A ring away from what is written stays. -/
theorem Writes.ring {ps : List P} (hw : Writes m m' ps) (hr : IsRing m h l) (hd : ∀ p ∈ h :: l, p ∉ ps) :
    IsRing m' h l := hr.frame fun p hp => hw p (hd p hp)

theorem listInit_ring (hh : m.Live h) : ∃ m', listInit m h = some m' ∧ IsRing m' h [] ∧ Writes m m' [h] := by
  obtain ⟨m₁, e₁, n₁, p₁, l₁⟩ := Heap.setNext_spec hh h
  obtain ⟨m₂, e₂, n₂, p₂, -⟩ := Heap.setPrev_spec ((l₁ h).mpr hh) h
  have hnd : [h].Nodup := List.nodup_cons.mpr ⟨List.not_mem_nil, List.nodup_nil⟩
  refine ⟨m₂, by rw [listInit, e₁]; exact e₂, ⟨hnd, List.isChain_pair.mpr ⟨?_, ?_⟩⟩, ?_⟩
  · rw [n₂, n₁, if_pos rfl]
  · rw [p₂, if_pos rfl]
  · intro p hp
    have hph : p ≠ h := fun heq => hp (heq ▸ List.mem_cons_self)
    refine Heap.node_eq ?_ ?_
    · rw [n₂, n₁, if_neg hph]
    · rw [p₂, if_neg hph, p₁]

/-- The entry comes to stand before `h`, seen from itself. -/
theorem listAppend_splice (hr : IsRing m h l) (hx : x ∉ h :: l) (hlive : m.Live x) :
    ∃ m', listAppend m x h = some m' ∧ IsRing m' x (h :: l) ∧ Writes m m' (x :: h :: l) := by
  obtain ⟨init, g, hg⟩ : ∃ init g, h :: l = init ++ [g] :=
    ⟨_, _, (List.dropLast_append_getLast (List.cons_ne_nil h l)).symm⟩
  have hgmem : g ∈ h :: l := by rw [hg]; exact List.mem_append_right _ List.mem_cons_self
  have hhx : h ≠ x := fun heq => hx (heq ▸ List.mem_cons_self)
  have hgx : g ≠ x := fun heq => hx (heq ▸ hgmem)
  have hprev : m.prev h = some g := hr.prev_head hg
  obtain ⟨m₁, e₁, n₁, p₁, l₁⟩ := Heap.setNext_spec hlive h
  obtain ⟨m₂, e₂, n₂, p₂, l₂⟩ := Heap.setPrev_spec ((l₁ x).mpr hlive) g
  obtain ⟨m₃, e₃, n₃, p₃, l₃⟩ := Heap.setNext_spec ((l₂ g).mpr ((l₁ g).mpr (hr.live hgmem))) x
  obtain ⟨m₄, e₄, n₄, p₄, -⟩ :=
    Heap.setPrev_spec ((l₃ h).mpr ((l₂ h).mpr ((l₁ h).mpr (hr.live List.mem_cons_self)))) x
  refine ⟨m₄, ?_, hr.splice hg hx ⟨?_, ?_⟩ ⟨?_, ?_⟩ (fun p hpg hpx => ?_) (fun p hph hpx => ?_), fun p hp => ?_⟩
  · rw [listAppend, e₁]
    show (m₁.prev h >>= fun last => m₁.setPrev x last >>= fun m => m.prev h >>= fun last =>
      m.setNext last x >>= fun m => m.setPrev h x) = _
    rw [p₁, hprev]
    show (m₁.setPrev x g >>= fun m => m.prev h >>= fun last => m.setNext last x >>= fun m => m.setPrev h x) = _
    rw [e₂]
    show (m₂.prev h >>= fun last => m₂.setNext last x >>= fun m => m.setPrev h x) = _
    rw [p₂, if_neg hhx, p₁, hprev]
    show (m₂.setNext g x >>= fun m => m.setPrev h x) = _
    rw [e₃]
    exact e₄
  · rw [n₄, n₃, if_pos rfl]
  · rw [p₄, if_neg (Ne.symm hhx), p₃, p₂, if_pos rfl]
  · rw [n₄, n₃, if_neg (Ne.symm hgx), n₂, n₁, if_pos rfl]
  · rw [p₄, if_pos rfl]
  · rw [n₄, n₃, if_neg hpg, n₂, n₁, if_neg hpx]
  · rw [p₄, if_neg hph, p₃, p₂, if_neg hpx, p₁]
  · have hpx : p ≠ x := fun heq => hp (heq ▸ List.mem_cons_self)
    have hpg : p ≠ g := fun heq => hp (heq ▸ List.mem_cons_of_mem _ hgmem)
    have hph : p ≠ h := fun heq => hp (heq ▸ List.mem_cons_of_mem _ List.mem_cons_self)
    refine Heap.node_eq ?_ ?_
    · rw [n₄, n₃, if_neg hpg, n₂, n₁, if_neg hpx]
    · rw [p₄, if_neg hph, p₃, p₂, if_neg hpx, p₁]

/-- `list_append` -/
theorem listAppend_ring (hr : IsRing m h l) (hx : x ∉ h :: l) (hlive : m.Live x) :
    ∃ m', listAppend m x h = some m' ∧ IsRing m' h (l ++ [x]) ∧ Writes m m' (x :: h :: l) := by
  obtain ⟨m', happ, hr', hw⟩ := listAppend_splice hr hx hlive
  exact ⟨m', happ, hr'.second, hw⟩

omit [DecidableEq P] in
/-- A ring is written from each of its nodes with the same nodes. -/
theorem mem_rotated : p ∈ a :: (post ++ h :: pre) ↔ p ∈ h :: (pre ++ a :: post) := by
  refine List.Perm.mem_iff ?_
  rw [← List.cons_append, ← List.cons_append]
  exact List.perm_append_comm

/-- `list_insert_before`, in front of an entry -/
theorem listInsertBefore_ring (hr : IsRing m h (pre ++ a :: post)) (hx : x ∉ h :: (pre ++ a :: post))
    (hlive : m.Live x) :
    ∃ m', listInsertBefore m x a = some m' ∧ IsRing m' h (pre ++ x :: a :: post) ∧
      Writes m m' (x :: h :: (pre ++ a :: post)) := by
  -- seen from `a`, the entry is appended
  obtain ⟨m', happ, hr', hw⟩ := listAppend_ring hr.rotate (fun hm => hx (mem_rotated.mp hm)) hlive
  rw [List.append_assoc, List.cons_append] at hr'
  refine ⟨m', happ, ?_, hw.mono fun p hp => ?_⟩
  · have hr'' := hr'.rotate
    rwa [List.append_assoc] at hr''
  · rcases List.mem_cons.mp hp with rfl | hp
    · exact List.mem_cons_self
    · exact List.mem_cons_of_mem _ (mem_rotated.mp hp)

omit [DecidableEq P] in
/-- A ring seen from the node behind its head. -/
theorem ring_second (hr : IsRing m h l) : ∃ L, l.headD h :: L = l ++ [h] ∧ IsRing m (l.headD h) L := by
  cases l with
  | nil => exact ⟨[], rfl, hr⟩
  | cons f l => exact ⟨l ++ [h], rfl, hr.second⟩

/-- `list_prepend` -/
theorem listPrepend_ring (hr : IsRing m h l) (hx : x ∉ h :: l) (hlive : m.Live x) :
    ∃ m', listPrepend m x h = some m' ∧ IsRing m' h (x :: l) ∧ Writes m m' (x :: h :: l) := by
  obtain ⟨L, hL, hrf⟩ := ring_second hr
  have hnext : m.next h = some (l.headD h) := hr.next_head
  have hmem : ∀ p, p ∈ l.headD h :: L ↔ p ∈ h :: l := by
    intro p
    rw [hL, List.mem_append, List.mem_singleton, List.mem_cons, or_comm]
  have hfmem : l.headD h ∈ h :: l := (hmem _).mp List.mem_cons_self
  have hhx : h ≠ x := fun heq => hx (heq ▸ List.mem_cons_self)
  have hfx : l.headD h ≠ x := fun heq => hx (heq ▸ hfmem)
  generalize l.headD h = f at hL hrf hnext hmem hfmem hfx
  obtain ⟨m₁, e₁, n₁, p₁, l₁⟩ := Heap.setNext_spec hlive f
  obtain ⟨m₂, e₂, n₂, p₂, l₂⟩ := Heap.setPrev_spec ((l₁ x).mpr hlive) h
  obtain ⟨m₃, e₃, n₃, p₃, l₃⟩ := Heap.setPrev_spec ((l₂ f).mpr ((l₁ f).mpr (hr.live hfmem))) x
  obtain ⟨m₄, e₄, n₄, p₄, -⟩ :=
    Heap.setNext_spec ((l₃ h).mpr ((l₂ h).mpr ((l₁ h).mpr (hr.live List.mem_cons_self)))) x
  have hnexts : ∀ p, p ≠ h → p ≠ x → m₄.next p = m.next p := by
    intro p hph hpx
    rw [n₄, if_neg hph, n₃, n₂, n₁, if_neg hpx]
  have hprevs : ∀ p, p ≠ f → p ≠ x → m₄.prev p = m.prev p := by
    intro p hpf hpx
    rw [p₄, p₃, if_neg hpf, p₂, if_neg hpx, p₁]
  have hspliced : IsRing m₄ x (f :: L) := by
    refine hrf.splice hL (fun hm => hx ((hmem x).mp hm)) ⟨?_, ?_⟩ ⟨?_, ?_⟩ hnexts hprevs
    · rw [n₄, if_pos rfl]
    · rw [p₄, p₃, if_neg (Ne.symm hfx), p₂, if_pos rfl]
    · rw [n₄, if_neg (Ne.symm hhx), n₃, n₂, n₁, if_pos rfl]
    · rw [p₄, p₃, if_pos rfl]
  refine ⟨m₄, ?_, ?_, fun p hp => ?_⟩
  · rw [listPrepend, hnext]
    show (m.setNext x f >>= fun m => m.setPrev x h >>= fun m => m.next h >>= fun first =>
      m.setPrev first x >>= fun m => m.setNext h x) = _
    rw [e₁]
    show (m₁.setPrev x h >>= fun m => m.next h >>= fun first => m.setPrev first x >>= fun m => m.setNext h x) = _
    rw [e₂]
    show (m₂.next h >>= fun first => m₂.setPrev first x >>= fun m => m.setNext h x) = _
    rw [n₂, n₁, if_neg hhx, hnext]
    show (m₂.setPrev f x >>= fun m => m.setNext h x) = _
    rw [e₃]
    exact e₄
  · rw [hL] at hspliced
    exact hspliced.rotate
  · have hpx : p ≠ x := fun heq => hp (heq ▸ List.mem_cons_self)
    have hpf : p ≠ f := fun heq => hp (heq ▸ List.mem_cons_of_mem _ hfmem)
    have hph : p ≠ h := fun heq => hp (heq ▸ List.mem_cons_of_mem _ List.mem_cons_self)
    exact Heap.node_eq (hnexts p hph hpx) (hprevs p hpf hpx)

/-- `list_insert_after`, behind an entry -/
theorem listInsertAfter_ring (hr : IsRing m h (pre ++ a :: post)) (hx : x ∉ h :: (pre ++ a :: post))
    (hlive : m.Live x) :
    ∃ m', listInsertAfter m x a = some m' ∧ IsRing m' h (pre ++ a :: x :: post) ∧
      Writes m m' (x :: h :: (pre ++ a :: post)) := by
  -- seen from `a`, the entry is prepended
  obtain ⟨m', hpre, hr', hw⟩ := listPrepend_ring hr.rotate (fun hm => hx (mem_rotated.mp hm)) hlive
  rw [← List.cons_append] at hr'
  refine ⟨m', hpre, hr'.rotate, hw.mono fun p hp => ?_⟩
  rcases List.mem_cons.mp hp with rfl | hp
  · exact List.mem_cons_self
  · exact List.mem_cons_of_mem _ (mem_rotated.mp hp)

/-- `list_remove`: the entry itself is not written. -/
theorem listRemove_ring (hr : IsRing m h (pre ++ x :: post)) :
    ∃ m', listRemove m x = some m' ∧ IsRing m' h (pre ++ post) ∧ Writes m m' (h :: (pre ++ post)) := by
  -- the two neighbours, seen from the entry
  obtain ⟨f, L, hfL⟩ : ∃ f L, post ++ h :: pre = f :: L := by
    cases post with
    | nil => exact ⟨h, pre, rfl⟩
    | cons f post => exact ⟨f, post ++ h :: pre, rfl⟩
  obtain ⟨init, g, hg⟩ : ∃ init g, f :: L = init ++ [g] :=
    ⟨_, _, (List.dropLast_append_getLast (List.cons_ne_nil f L)).symm⟩
  have hrx : IsRing m x (f :: L) := hfL ▸ hr.rotate
  have hmem : ∀ p, p ∈ f :: L ↔ p ∈ h :: (pre ++ post) := by
    intro p
    rw [← hfL, ← List.cons_append]
    exact List.perm_append_comm.mem_iff
  have hxn : x ∉ f :: L := (List.nodup_cons.mp hrx.nodup).1
  have hgmem : g ∈ f :: L := by rw [hg]; exact List.mem_append_right _ List.mem_cons_self
  have hgx : x ≠ g := fun heq => hxn (heq ▸ hgmem)
  have hfx : x ≠ f := fun heq => hxn (heq ▸ List.mem_cons_self)
  have hnext : m.next x = some f := hrx.next_head
  have hprev : m.prev x = some g := hrx.prev_head (show x :: f :: L = (x :: init) ++ [g] by rw [hg]; rfl)
  obtain ⟨m₁, e₁, n₁, p₁, l₁⟩ := Heap.setNext_spec (hrx.live (List.mem_cons_of_mem _ hgmem)) f
  obtain ⟨m₂, e₂, n₂, p₂, -⟩ :=
    Heap.setPrev_spec ((l₁ f).mpr (hrx.live (List.mem_cons_of_mem _ List.mem_cons_self))) g
  have hnexts : ∀ p, p ≠ g → m₂.next p = m.next p := by
    intro p hpg
    rw [n₂, n₁, if_neg hpg]
  have hprevs : ∀ p, p ≠ f → m₂.prev p = m.prev p := by
    intro p hpf
    rw [p₂, if_neg hpf, p₁]
  have hunlinked : IsRing m₂ f L := by
    refine hrx.unlink hg ⟨?_, ?_⟩ hnexts hprevs
    · rw [n₂, n₁, if_pos rfl]
    · rw [p₂, if_pos rfl]
  refine ⟨m₂, ?_, ?_, fun p hp => ?_⟩
  · rw [listRemove, hprev]
    show (m.next x >>= fun after => m.setNext g after >>= fun m => m.next x >>= fun after => m.prev x >>=
      fun before => m.setPrev after before) = _
    rw [hnext]
    show (m.setNext g f >>= fun m => m.next x >>= fun after => m.prev x >>= fun before => m.setPrev after before) = _
    rw [e₁]
    show (m₁.next x >>= fun after => m₁.prev x >>= fun before => m₁.setPrev after before) = _
    rw [n₁, if_neg hgx, hnext]
    show (m₁.prev x >>= fun before => m₁.setPrev f before) = _
    rw [p₁, hprev]
    exact e₂
  · -- seen from the head again
    cases post with
    | nil =>
        cases hfL
        rw [List.append_nil]
        exact hunlinked
    | cons y post =>
        cases hfL
        exact hunlinked.rotate
  · have hpL : p ∉ f :: L := fun hm => hp ((hmem p).mp hm)
    exact Heap.node_eq (hnexts p fun heq => hpL (heq ▸ hgmem)) (hprevs p fun heq => hpL (heq ▸ List.mem_cons_self))

/-! ## Walks that may unlink -/

/-- `list_for_each_entry_safe` from the first entry of a ring, by an invariant that is about the entries still to be
    passed: whatever the body does to the entry the walk is at, they lead to the head. -/
theorem listForEachSafe_rule {σ : Type} (links : σ → Heap P) {body : P → σ → Option (Bool × σ)} {n : Nat} {s : σ}
    (I : List P → σ → Prop) (Q : σ → Prop) (hr : IsRing (links s) h l) (hn : l.length < n) (hI : I l s)
    (hbody : ∀ p todo s, I (p :: todo) s →
      ∃ on s', body p s = some (on, s') ∧ (on = true → I todo s') ∧ (on = false → Q s'))
    (hpath : ∀ todo s, I todo s → List.IsChain (fun a b => (links s).next a = some b) (todo ++ [h]))
    (hhead : ∀ todo s, I todo s → (links s).Live h ∧ h ∉ todo) (hend : ∀ s, I [] s → Q s) :
    ∃ s', listForEachSafe links body h n s = some s' ∧ Q s' := by
  obtain ⟨q, hq⟩ := hr.next_first
  obtain ⟨s', hwalk, hQ⟩ := walkSafe_rule hbody hpath (fun todo s hI => Heap.next_of_live (hhead todo s hI).1)
    (fun todo s hI => (hhead todo s hI).2) hend l hn hI fun p rest hl => by rw [← hq, hl]; rfl
  refine ⟨s', ?_, hQ⟩
  rw [listForEachSafe, hr.next_head]
  show ((links s).next (l.headD h) >>= _) = _
  rw [hq]
  exact hwalk

/-! ## Walks that look for an entry -/

theorem cursorLoop_path {hit : P → Bool} (hlive : m.Live h) : ∀ {todo : List P} {n : Nat} {next : P},
    List.IsChain (fun a b => m.next a = some b) (todo ++ [h]) → h ∉ todo → todo.length < n →
    m.next (todo.headD h) = some next →
    cursorLoop m hit h n (todo.headD h) next = some ((todo.find? hit).getD h) := by
  intro todo
  induction todo with
  | nil =>
      intro n next _ _ hn _
      obtain ⟨n, rfl⟩ := Nat.exists_eq_succ_of_ne_zero (Nat.pos_iff_ne_zero.mp hn)
      exact if_pos rfl
  | cons p todo ih =>
      intro n next hpath hh hn hnext
      obtain ⟨n, rfl⟩ := Nat.exists_eq_succ_of_ne_zero (Nat.pos_iff_ne_zero.mp (Nat.lt_of_le_of_lt (Nat.zero_le _) hn))
      obtain ⟨hp, hh⟩ := not_or.mp (mt List.mem_cons.mpr hh)
      rw [List.headD_cons, cursorLoop, if_neg (Ne.symm hp), List.find?_cons]
      cases hhit : hit p with
      | true => rfl
      | false =>
          -- the entry behind `p` is the next to be looked at
          have hrest : List.IsChain (fun a b => m.next a = some b) (todo ++ [h]) := hpath.tail
          have hfirst : m.next p = some (todo.headD h) := by
            cases todo with
            | nil => exact (List.isChain_cons_cons.mp hpath).1
            | cons q todo => exact (List.isChain_cons_cons.mp hpath).1
          have hnext' : ∃ next', m.next (todo.headD h) = some next' := by
            cases todo with
            | nil => exact Heap.next_of_live hlive
            | cons q todo =>
                cases todo with
                | nil => exact ⟨_, (List.isChain_cons_cons.mp hrest).1⟩
                | cons r todo => exact ⟨_, (List.isChain_cons_cons.mp hrest).1⟩
          obtain ⟨next', hnext'⟩ := hnext'
          rw [List.headD_cons] at hnext
          cases hnext.symm.trans hfirst
          rw [hnext']
          exact ih hrest hh (Nat.lt_of_succ_lt_succ hn) hnext'

/-- **The cursor of a finished walk** is the first hit, or the head of the list. -/
theorem listCursor_eq {hit : P → Bool} {n : Nat} (hr : IsRing m h l) (hn : l.length < n) :
    listCursor m hit h n = some ((l.find? hit).getD h) := by
  obtain ⟨q, hnext⟩ := hr.next_first
  have hr' : IsRing m h ([] ++ l) := hr
  unfold listCursor
  rw [hr.next_head]
  show (m.next (l.headD h) >>= _) = _
  rw [hnext]
  exact cursorLoop_path (hr.live List.mem_cons_self) hr'.path (List.nodup_cons.mp hr.nodup).1 hn hnext

end Uvcd
