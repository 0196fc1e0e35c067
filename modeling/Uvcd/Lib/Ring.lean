import Mathlib.Data.List.Chain
import Mathlib.Logic.Function.Basic

/-!
# `Lib.Ring` — circular doubly linked lists in memory that can be freed

A node is known by its address; memory gives the two links of every node that is live (`Heap`), and a node that is
not cannot be read or written. `IsRing m h l`: from the node `h` the `next` links pass the nodes of `l` in order and
come back to `h`, and the `prev` links go the same way back.

* `IsRing.rotate` — a ring is one from each of its nodes.
* `IsRing.splice` / `IsRing.unlink` — a node put in, or taken out, between two neighbours.
* `IsRing.frame` — a ring whose nodes are not written stays.
* `IsRing.walk_eq` — following `next` from the first node ends at `h`, past exactly the nodes of `l`.
* `walkSafe_rule` — the walk that reads `next` ahead, under a body that may take out and free the node it is at.

Nothing here names a particular program.
-/

namespace Ring

variable {P : Type}

/-! ## Memory -/

/-- The links of a node. -/
structure Links (P : Type) where
  prev : P
  next : P

@[ext] structure Heap (P : Type) where
  node : P → Option (Links P)

namespace Heap

def next (m : Heap P) (p : P) : Option P := (m.node p).map (·.next)

def prev (m : Heap P) (p : P) : Option P := (m.node p).map (·.prev)

def Live (m : Heap P) (p : P) : Prop := (m.node p).isSome = true

theorem live_of_next {m : Heap P} {p q : P} (h : m.next p = some q) : m.Live p := by
  obtain ⟨e, he, -⟩ := Option.map_eq_some_iff.mp h
  unfold Live
  rw [he]; rfl

theorem next_of_live {m : Heap P} {p : P} (h : m.Live p) : ∃ q, m.next p = some q := by
  obtain ⟨e, he⟩ := Option.isSome_iff_exists.mp h
  exact ⟨e.next, Option.map_eq_some_iff.mpr ⟨e, he, rfl⟩⟩

variable [DecidableEq P]

/-- What is at an address changes. -/
def set (m : Heap P) (p : P) (e : Option (Links P)) : Heap P := ⟨Function.update m.node p e⟩

theorem node_set (m : Heap P) (p : P) (e : Option (Links P)) (x : P) :
    (m.set p e).node x = if x = p then e else m.node x := Function.update_apply m.node p e x

theorem live_set {m : Heap P} {p : P} {e : Links P} (h : m.Live p) (x : P) : (m.set p (some e)).Live x ↔ m.Live x := by
  unfold Live
  rw [node_set]
  split
  · next hx => exact iff_of_true rfl (hx ▸ h)
  · rfl

/-- A write to the `next` link of a live node. -/
def setNext (m : Heap P) (p q : P) : Option (Heap P) :=
  (m.node p).map fun e => m.set p (some { e with next := q })

def setPrev (m : Heap P) (p q : P) : Option (Heap P) :=
  (m.node p).map fun e => m.set p (some { e with prev := q })

/-- A live node is freed. -/
def free (m : Heap P) (p : P) : Option (Heap P) := (m.node p).map fun _ => m.set p none

/-! What a write does, link by link. -/

theorem setNext_spec {m : Heap P} {p : P} (h : m.Live p) (q : P) :
    ∃ m', m.setNext p q = some m' ∧ (∀ x, m'.next x = if x = p then some q else m.next x) ∧
      (∀ x, m'.prev x = m.prev x) ∧ ∀ x, m'.Live x ↔ m.Live x := by
  obtain ⟨e, he⟩ := Option.isSome_iff_exists.mp h
  refine ⟨_, Option.map_eq_some_iff.mpr ⟨e, he, rfl⟩, fun x => ?_, fun x => ?_, live_set h⟩
  · unfold next
    rw [node_set]
    split <;> rfl
  · unfold prev
    rw [node_set]
    split
    · next hx => rw [hx, he]; rfl
    · rfl

theorem setPrev_spec {m : Heap P} {p : P} (h : m.Live p) (q : P) :
    ∃ m', m.setPrev p q = some m' ∧ (∀ x, m'.next x = m.next x) ∧
      (∀ x, m'.prev x = if x = p then some q else m.prev x) ∧ ∀ x, m'.Live x ↔ m.Live x := by
  obtain ⟨e, he⟩ := Option.isSome_iff_exists.mp h
  refine ⟨_, Option.map_eq_some_iff.mpr ⟨e, he, rfl⟩, fun x => ?_, fun x => ?_, live_set h⟩
  · unfold next
    rw [node_set]
    split
    · next hx => rw [hx, he]; rfl
    · rfl
  · unfold prev
    rw [node_set]
    split <;> rfl

theorem free_spec {m : Heap P} {p : P} (h : m.Live p) :
    ∃ m', m.free p = some m' ∧ ∀ x, m'.node x = if x = p then none else m.node x := by
  obtain ⟨e, he⟩ := Option.isSome_iff_exists.mp h
  exact ⟨_, Option.map_eq_some_iff.mpr ⟨e, he, rfl⟩, node_set m p none⟩

omit [DecidableEq P] in
/-- The two links say what a node is. -/
theorem node_eq {m m' : Heap P} {p : P} (hn : m'.next p = m.next p) (hp : m'.prev p = m.prev p) :
    m'.node p = m.node p := by
  unfold next at hn
  unfold prev at hp
  cases h : m.node p with
  | none =>
      rw [h] at hn
      exact Option.map_eq_none_iff.mp hn
  | some e =>
      rw [h] at hn hp
      obtain ⟨e', he', hne⟩ := Option.map_eq_some_iff.mp hn
      rw [he'] at hp ⊢
      have hpe : e'.prev = e.prev := Option.some.inj hp
      cases e; cases e'
      dsimp only at hne hpe
      rw [hne, hpe]

omit [DecidableEq P] in
theorem live_congr {m m' : Heap P} {p : P} (h : m'.node p = m.node p) : m'.Live p ↔ m.Live p := by
  unfold Live
  rw [h]

end Heap

/-! ## Rings -/

/-- `b` stands behind `a`. -/
structure Joined (m : Heap P) (a b : P) : Prop where
  next : m.next a = some b
  prev : m.prev b = some a

structure IsRing (m : Heap P) (h : P) (l : List P) : Prop where
  nodup : (h :: l).Nodup
  chain : List.IsChain (Joined m) (h :: (l ++ [h]))

variable {m m' : Heap P} {h x : P} {l : List P}

theorem head?_snoc (l : List P) (h : P) : (l ++ [h]).head? = some (l.headD h) := by
  cases l <;> rfl

/-- What holds of neighbours whose links stay still does. -/
theorem chain_of_links {l : List P} (hn : ∀ a ∈ l.dropLast, m'.next a = m.next a)
    (hp : ∀ b ∈ l.tail, m'.prev b = m.prev b) (hc : l.IsChain (Joined m)) : l.IsChain (Joined m') := by
  rw [List.isChain_iff_forall_rel_of_append_cons_cons] at hc ⊢
  intro a b l₁ l₂ heq
  obtain ⟨hnext, hprev⟩ := hc heq
  have ha : a ∈ l.dropLast := by
    rw [heq, List.dropLast_append_cons, List.dropLast_cons_cons]
    exact List.mem_append_right _ List.mem_cons_self
  have hb : b ∈ l.tail := by
    cases l₁ with
    | nil => rw [heq]; exact List.mem_cons_self
    | cons y l₁ => rw [heq]; exact List.mem_append_right _ (List.mem_cons_of_mem _ List.mem_cons_self)
  exact ⟨(hn a ha).trans hnext, (hp b hb).trans hprev⟩

namespace IsRing

/-- A ring whose nodes keep their links. -/
theorem frame (hr : IsRing m h l) (hs : ∀ p ∈ h :: l, m'.node p = m.node p) : IsRing m' h l := by
  have hmem : ∀ p ∈ h :: (l ++ [h]), p ∈ h :: l := by
    intro p hp
    rcases List.mem_cons.mp hp with rfl | hp
    · exact List.mem_cons_self
    · rcases List.mem_append.mp hp with hp | hp
      · exact List.mem_cons_of_mem _ hp
      · rw [List.mem_singleton.mp hp]; exact List.mem_cons_self
  refine ⟨hr.nodup, chain_of_links (fun a ha => ?_) (fun b hb => ?_) hr.chain⟩
  · unfold Heap.next
    rw [hs a (hmem a ((List.dropLast_sublist _).mem ha))]
  · unfold Heap.prev
    rw [hs b (hmem b (List.mem_of_mem_tail hb))]

/-- A ring is one from each of its nodes. -/
theorem rotate {pre post : List P} (hr : IsRing m h (pre ++ x :: post)) : IsRing m x (post ++ h :: pre) := by
  refine ⟨?_, ?_⟩
  · refine hr.nodup.perm ?_
    rw [← List.cons_append, ← List.cons_append]
    exact List.perm_append_comm
  · have hc := hr.chain
    rw [List.append_assoc, List.cons_append, List.isChain_cons_split] at hc
    rw [List.append_assoc, List.cons_append, List.isChain_cons_split]
    exact hc.symm

theorem second (hr : IsRing m h (x :: l)) : IsRing m x (l ++ [h]) := by
  have hr' : IsRing m h ([] ++ x :: l) := hr
  exact hr'.rotate

theorem next_eq {pre post : List P} (hr : IsRing m h (pre ++ x :: post)) :
    m.next x = some (post.headD h) := by
  have hc := hr.chain
  rw [List.append_assoc, List.cons_append, List.isChain_cons_split] at hc
  cases post with
  | nil => exact (List.isChain_cons_cons.mp hc.2).1.next
  | cons y post => exact (List.isChain_cons_cons.mp hc.2).1.next

theorem next_head (hr : IsRing m h l) : m.next h = some (l.headD h) := by
  have hc := hr.chain
  cases l with
  | nil => exact (List.isChain_cons_cons.mp hc).1.next
  | cons y l => exact (List.isChain_cons_cons.mp hc).1.next

/-- The last nodes lead to `h`. -/
theorem path {pre post : List P} (hr : IsRing m h (pre ++ post)) :
    List.IsChain (fun a b => m.next a = some b) (post ++ [h]) := by
  have hc := hr.chain
  rw [List.append_assoc, ← List.cons_append] at hc
  exact hc.right_of_append.imp fun a b hab => hab.next

/-- The node before `h` is the last one. -/
theorem prev_head {init : List P} {g : P} (hr : IsRing m h l) (hg : h :: l = init ++ [g]) :
    m.prev h = some g := by
  have hc := hr.chain
  rw [← List.cons_append, hg, List.append_assoc, List.cons_append, List.nil_append, List.isChain_split] at hc
  exact (List.isChain_cons_cons.mp hc.2).1.prev

theorem live (hr : IsRing m h l) {p : P} (hp : p ∈ h :: l) : m.Live p := by
  rcases List.mem_cons.mp hp with rfl | hp
  · exact Heap.live_of_next hr.next_head
  · obtain ⟨pre, post, heq⟩ := List.append_of_mem hp
    rw [heq] at hr
    exact Heap.live_of_next hr.next_eq

/-- The first node has a next one. -/
theorem next_first (hr : IsRing m h l) : ∃ q, m.next (l.headD h) = some q := by
  refine Heap.next_of_live (hr.live ?_)
  cases l with
  | nil => exact List.mem_cons_self
  | cons p l => exact List.mem_cons_of_mem _ List.mem_cons_self

/-- A node that is nobody's neighbour is put in before `h`. -/
theorem splice {init : List P} {g : P} (hr : IsRing m h l) (hg : h :: l = init ++ [g]) (hx : x ∉ h :: l)
    (hin : Joined m' g x) (hout : Joined m' x h)
    (hn : ∀ p, p ≠ g → p ≠ x → m'.next p = m.next p) (hp : ∀ p, p ≠ h → p ≠ x → m'.prev p = m.prev p) :
    IsRing m' x (h :: l) := by
  have hmid : (h :: l).IsChain (Joined m) := by
    have hc := hr.chain
    rw [← List.cons_append] at hc
    exact hc.left_of_append
  have hmid' : (h :: l).IsChain (Joined m') := by
    refine chain_of_links (fun a ha => hn a ?_ ?_) (fun b hb => hp b ?_ ?_) hmid
    · -- the last node does not stand among those before it
      rw [hg, List.dropLast_concat] at ha
      have hnd := hr.nodup
      rw [hg] at hnd
      exact fun hag => (List.nodup_append.mp hnd).2.2 a ha g List.mem_cons_self hag
    · exact fun hax => hx (hax ▸ (List.dropLast_sublist _).mem ha)
    · exact fun hbh => (List.nodup_cons.mp hr.nodup).1 (hbh ▸ hb)
    · exact fun hbx => hx (hbx ▸ List.mem_of_mem_tail hb)
  refine ⟨List.nodup_cons.mpr ⟨hx, hr.nodup⟩, ?_⟩
  rw [List.cons_append, List.isChain_cons_cons]
  refine ⟨hout, ?_⟩
  rw [← List.cons_append, hg, List.append_assoc, List.cons_append, List.nil_append, List.isChain_split, ← hg]
  exact ⟨hmid', List.isChain_pair.mpr hin⟩

/-- The node a ring is seen from is taken out of it. -/
theorem unlink {f g : P} {init : List P} (hr : IsRing m x (f :: l)) (hg : f :: l = init ++ [g])
    (hjoin : Joined m' g f) (hn : ∀ p, p ≠ g → m'.next p = m.next p) (hp : ∀ p, p ≠ f → m'.prev p = m.prev p) :
    IsRing m' f l := by
  have hnd : (f :: l).Nodup := (List.nodup_cons.mp hr.nodup).2
  have hmid : (f :: l).IsChain (Joined m) := by
    have hc := hr.chain
    rw [List.cons_append, List.isChain_cons_cons, ← List.cons_append] at hc
    exact hc.2.left_of_append
  refine ⟨hnd, ?_⟩
  rw [← List.cons_append, hg, List.append_assoc, List.cons_append, List.nil_append, List.isChain_split, ← hg]
  refine ⟨chain_of_links (fun a ha => hn a ?_) (fun b hb => hp b ?_) hmid, List.isChain_pair.mpr hjoin⟩
  · rw [hg, List.dropLast_concat] at ha
    rw [hg] at hnd
    exact fun hag => (List.nodup_append.mp hnd).2.2 a ha g List.mem_cons_self hag
  · exact fun hbf => (List.nodup_cons.mp hnd).1 (hbf ▸ hb)

end IsRing

/-! ## Walks -/

section Walk

variable [DecidableEq P]

/-- Follow `next` from `p` until the walk is back at `h`, over at most `n` nodes: the nodes passed. -/
def walk (m : Heap P) (h : P) : Nat → P → Option (List P)
  | 0, _ => none
  | n + 1, p =>
    if p = h then some []
    else do
      let q ← m.next p
      let ps ← walk m h n q
      some (p :: ps)

/-- A walk over nodes that lead to `h`. -/
theorem walk_path {l : List P} (hh : h ∉ l) (hc : List.IsChain (fun a b => m.next a = some b) (l ++ [h])) :
    ∀ {n : Nat}, l.length < n → walk m h n (l.headD h) = some l := by
  induction l with
  | nil =>
      intro n hn
      cases n with
      | zero => exact absurd hn (Nat.lt_irrefl 0)
      | succ n => exact if_pos rfl
  | cons p l ih =>
      intro n hn
      cases n with
      | zero => exact absurd hn (Nat.not_lt_zero _)
      | succ n =>
          have hph : p ≠ h := fun heq => hh (heq ▸ List.mem_cons_self)
          rw [List.cons_append, List.isChain_cons] at hc
          have hnext : m.next p = some (l.headD h) := hc.1 _ (head?_snoc _ _)
          have hrest := ih (fun hm => hh (List.mem_cons_of_mem _ hm)) hc.2 (n := n) (Nat.lt_of_succ_lt_succ hn)
          show (if p = h then some [] else m.next p >>= fun q => walk m h n q >>= fun ps => some (p :: ps)) = _
          rw [if_neg hph, hnext]
          show (walk m h n _ >>= fun ps => some (p :: ps)) = _
          rw [hrest]; rfl

/-- From its first node a ring is walked once around. -/
theorem IsRing.walk_eq (hr : IsRing m h l) {n : Nat} (hn : l.length < n) :
    (m.next h >>= walk m h n) = some l := by
  rw [hr.next_head]
  have hr' : IsRing m h ([] ++ l) := hr
  exact walk_path (List.nodup_cons.mp hr.nodup).1 hr'.path hn

variable {σ : Type}

/-- The walk that reads the node behind the one it is at before `body` is applied to it; `body` says whether the
    walk goes on. `next` reads a link in the state that `body` leaves. -/
def walkSafe (next : σ → P → Option P) (body : P → σ → Option (Bool × σ)) (h : P) :
    Nat → P → P → σ → Option σ
  | 0, _, _, _ => none
  | n + 1, p, q, s =>
    if p = h then some s
    else do
      let (on, s) ← body p s
      if on then
        let r ← next s q
        walkSafe next body h n q r s
      else some s

/-- **Walk rule.** `I todo s` is kept while the walk goes on and the body is at the first node of `todo`: whatever it
    does to that node, the nodes after it still lead to `h`, and `h` can be read. `Q` holds where the walk ends. -/
theorem walkSafe_rule {next : σ → P → Option P} {body : P → σ → Option (Bool × σ)} {I : List P → σ → Prop}
    {Q : σ → Prop}
    (hbody : ∀ p todo s, I (p :: todo) s →
      ∃ on s', body p s = some (on, s') ∧ (on = true → I todo s') ∧ (on = false → Q s'))
    (hpath : ∀ todo s, I todo s → List.IsChain (fun a b => next s a = some b) (todo ++ [h]))
    (hlive : ∀ todo s, I todo s → ∃ r, next s h = some r) (hne : ∀ todo s, I todo s → h ∉ todo)
    (hend : ∀ s, I [] s → Q s) :
    ∀ (todo : List P) {n : Nat} {s : σ} {q : P}, todo.length < n → I todo s →
      (∀ p rest, todo = p :: rest → next s p = some q) →
      ∃ s', walkSafe next body h n (todo.headD h) q s = some s' ∧ Q s' := by
  intro todo
  induction todo with
  | nil =>
      intro n s q hn hI _
      cases n with
      | zero => exact absurd hn (Nat.lt_irrefl 0)
      | succ n => exact ⟨s, if_pos rfl, hend s hI⟩
  | cons p todo ih =>
      intro n s q hn hI hq
      cases n with
      | zero => exact absurd hn (Nat.not_lt_zero _)
      | succ n =>
          have hph : p ≠ h := fun heq => hne _ _ hI (heq ▸ List.mem_cons_self)
          -- the node read ahead is the one the walk has to go to
          have hqeq : q = todo.headD h := by
            have hc := hpath _ _ hI
            rw [List.cons_append, List.isChain_cons] at hc
            exact Option.some.inj ((hq p todo rfl).symm.trans (hc.1 _ (head?_snoc _ _)))
          obtain ⟨on, s', hbody', hon, hoff⟩ := hbody p todo s hI
          rw [List.headD_cons, walkSafe, if_neg hph, hbody']
          show ∃ s'', (if on = true then next s' q >>= fun r => walkSafe next body h n q r s' else some s') =
            some s'' ∧ Q s''
          cases on with
          | false => exact ⟨s', rfl, hoff rfl⟩
          | true =>
              have hI' := hon rfl
              obtain ⟨r, hr, hrq⟩ : ∃ r, next s' q = some r ∧
                  ∀ p' rest, todo = p' :: rest → next s' p' = some r := by
                cases todo with
                | nil =>
                    obtain ⟨r, hr⟩ := hlive _ _ hI'
                    exact ⟨r, by rw [hqeq]; exact hr, fun p' rest heq => by cases heq⟩
                | cons p' rest =>
                    have hc := hpath _ _ hI'
                    rw [List.cons_append, List.isChain_cons] at hc
                    have hnext := hc.1 _ (head?_snoc _ _)
                    refine ⟨_, by rw [hqeq]; exact hnext, fun p'' rest' heq => ?_⟩
                    cases heq
                    exact hnext
              obtain ⟨s'', hwalk, hQ⟩ := ih (Nat.lt_of_succ_lt_succ hn) hI' hrq
              refine ⟨s'', ?_, hQ⟩
              rw [if_pos rfl, hr, hqeq]
              exact hwalk

end Walk

end Ring
