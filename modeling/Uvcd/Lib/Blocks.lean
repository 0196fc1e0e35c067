import Mathlib.Algebra.Order.Group.Multiset
import Uvcd.Lib.Ring

/-!
# `Lib.Blocks` — allocated blocks with links in them

A block is known by its address and holds a value of `β`; `members` says which links the struct it is for has, and a
link is known by the block and the member (`Ring` gives what rings of such links are). Memory counts the blocks that
are allocated and not freed (`Store.live`).

* `Store.Tidy` — the links of a store are those of its blocks.
* `Grows` — blocks are added, no others written but in given links. The steps that build a structure compose under it
  (`Grows.trans`, `Grows.put`, `Grows.relink`).
* `Store.erase` — blocks are freed. Freeing one after another is freeing all (`Store.free_erase`).

Nothing here names a particular program.
-/

namespace Blocks

open Ring

variable {β μ : Type}

/-- Memory: links, blocks, and the addresses of the blocks. -/
@[ext] structure Store (β μ : Type) where
  links : Heap (Nat × μ)
  block : Nat → Option β
  live : List Nat

/-- What `malloc` may do: it answers with any address that is not one of a block. -/
structure Allocator where
  place : Nat → List Nat → Nat
  fresh : ∀ t live, place t live ∉ live

namespace Store

/-- A new block, its links cleared. -/
def malloc [DecidableEq μ] (members : β → List μ) (null : Nat × μ) (m : Store β μ) (p : Nat) (b : β) : Store β μ where
  links := ⟨fun n => if n.1 = p then (if n.2 ∈ members b then some ⟨null, null⟩ else none) else m.links.node n⟩
  block := Function.update m.block p (some b)
  live := p :: m.live

/-- The fields of a block are written. -/
def put (m : Store β μ) (p : Nat) (b : β) : Option (Store β μ) :=
  (m.block p).map fun _ => { m with block := Function.update m.block p (some b) }

/-- Memory without these blocks. -/
def erase (m : Store β μ) (ps : List Nat) : Store β μ where
  links := ⟨fun n => if n.1 ∈ ps then none else m.links.node n⟩
  block p := if p ∈ ps then none else m.block p
  live := m.live.diff ps

/-- A block is freed, once. -/
def free (m : Store β μ) (p : Nat) : Option (Store β μ) := (m.block p).map fun _ => m.erase [p]

/-- What is live is what is allocated, and no address is given out twice. -/
structure Tidy (members : β → List μ) (m : Store β μ) : Prop where
  nodup : m.live.Nodup
  block : ∀ p, p ∈ m.live ↔ (m.block p).isSome = true
  links : ∀ p mem, m.links.Live (p, mem) ↔ ∃ b, m.block p = some b ∧ mem ∈ members b

end Store

variable {members : β → List μ} {null : Nat × μ} {m m' m'' : Store β μ} {p : Nat} {b b' : β}

/-! ## Freeing -/

namespace Store

theorem erase_block {ps : List Nat} (hp : p ∉ ps) : (m.erase ps).block p = m.block p := if_neg hp

theorem erase_node {ps : List Nat} {n : Nat × μ} (hn : n.1 ∉ ps) : (m.erase ps).links.node n = m.links.node n :=
  if_neg hn

theorem erase_nil (m : Store β μ) : m.erase [] = m := by
  unfold erase
  simp

theorem erase_erase (m : Store β μ) (ps qs : List Nat) : (m.erase ps).erase qs = m.erase (ps ++ qs) := by
  unfold erase
  have hif : ∀ {α : Type} (p : Nat) (x : Option α), (if p ∈ qs then none else if p ∈ ps then none else x) =
      if p ∈ ps ++ qs then none else x := fun p x => by
    by_cases hp : p ∈ ps
    · rw [if_pos hp, if_pos (List.mem_append_left _ hp), ite_self]
    · by_cases hq : p ∈ qs
      · rw [if_pos hq, if_pos (List.mem_append_right _ hq)]
      · rw [if_neg hq, if_neg hp, if_neg fun h => (List.mem_append.mp h).elim hp hq]
  ext1
  · exact congrArg Heap.mk (funext fun n => hif n.1 _)
  · exact funext fun p => hif p _
  · exact (List.diff_append _ _ _).symm

/-- **One block more is freed.** -/
theorem free_erase {ps : List Nat} (hb : m.block p = some b) (hp : p ∉ ps) :
    (m.erase ps).free p = some (m.erase (ps ++ [p])) := by
  unfold free
  rw [erase_block hp, hb, ← erase_erase]
  rfl

theorem Tidy.live_block (h : m.Tidy members) (hb : m.block p = some b) : p ∈ m.live := by
  rw [h.block, hb]; rfl

theorem Tidy.block_none (h : m.Tidy members) (hp : p ∉ m.live) : m.block p = none := by
  cases hb : m.block p with
  | none => rfl
  | some b => exact absurd (h.live_block hb) hp

theorem Tidy.erase (h : m.Tidy members) (ps : List Nat) : (m.erase ps).Tidy members := by
  refine ⟨h.nodup.diff, fun p => ?_, fun p mem => ?_⟩
  · show p ∈ m.live.diff ps ↔ (if p ∈ ps then none else m.block p).isSome = true
    rw [h.nodup.mem_sdiff_iff, h.block]
    split
    · next hp => exact iff_of_false (fun hm => hm.2 hp) (by simp)
    · next hp => exact and_iff_left hp
  · show (if p ∈ ps then none else m.links.node (p, mem)).isSome = true ↔
      ∃ b, (if p ∈ ps then none else m.block p) = some b ∧ mem ∈ members b
    split
    · exact iff_of_false (by simp) (by rintro ⟨b, hb, -⟩; cases hb)
    · exact h.links p mem

end Store

/-! ## Growing -/

/-- **Blocks are added**, `new`; of those that were there only the links `ns` are written. -/
structure Grows (members : β → List μ) (ns : List (Nat × μ)) (new : Multiset Nat) (m m' : Store β μ) : Prop where
  tidy : m'.Tidy members
  live : (m'.live : Multiset Nat) = new + m.live
  block : ∀ p b, m.block p = some b → m'.block p = some b
  links : ∀ n, m.links.Live n → n ∉ ns → m'.links.node n = m.links.node n

variable {ns ns' : List (Nat × μ)} {new new' : Multiset Nat}

namespace Grows

theorem refl (h : m.Tidy members) : Grows members [] 0 m m := ⟨h, (zero_add _).symm, fun _ _ hb => hb, fun _ _ _ => rfl⟩

theorem live_mono (hg : Grows members ns new m m') (ht : m.Tidy members) {n : Nat × μ} (hl : m.links.Live n) :
    m'.links.Live n := by
  obtain ⟨b, hb, hmem⟩ := (ht.links n.1 n.2).mp hl
  exact (hg.tidy.links n.1 n.2).mpr ⟨b, hg.block _ _ hb, hmem⟩

/-- One after the other; the links of the blocks that the first step added are the second one's own. -/
theorem trans (h : Grows members ns new m m') (h' : Grows members ns' new' m' m'') (ht : m.Tidy members)
    (hns : ∀ n ∈ ns', m.links.Live n → n ∈ ns) : Grows members ns (new' + new) m m'' := by
  refine ⟨h'.tidy, by rw [h'.live, h.live, add_assoc], fun p b hb => h'.block p b (h.block p b hb), fun n hl hn => ?_⟩
  rw [h'.links n (h.live_mono ht hl) fun hn' => hn (hns n hn' hl), h.links n hl hn]

theorem mono (h : Grows members ns new m m') (hns : ∀ n ∈ ns, m.links.Live n → n ∈ ns') :
    Grows members ns' new m m' :=
  ⟨h.tidy, h.live, h.block, fun n hl hn => h.links n hl fun hn' => hn (hns n hn' hl)⟩

/-- A block that is new is written. -/
theorem put (h : Grows members ns new m m') (b' : β) (hp : m.block p = none) (hb : m'.block p = some b)
    (hmem : members b' = members b) : ∃ m'', m'.put p b' = some m'' ∧ Grows members ns new m m'' ∧
      m''.block p = some b' ∧ m''.links = m'.links ∧ ∀ q, q ≠ p → m''.block q = m'.block q := by
  refine ⟨{ m' with block := Function.update m'.block p (some b') }, by rw [Store.put, hb]; rfl,
    ⟨⟨h.tidy.nodup, fun q => ?_, fun q mem => ?_⟩, h.live, fun q c hc => ?_, h.links⟩, Function.update_self .., rfl,
    fun q hq => Function.update_of_ne hq ..⟩
  · rw [h.tidy.block]
    show _ ↔ (Function.update m'.block p (some b') q).isSome = true
    by_cases hq : q = p
    · rw [hq, Function.update_self, hb]
      rfl
    · rw [Function.update_of_ne hq]
  · rw [h.tidy.links]
    show _ ↔ ∃ c, Function.update m'.block p (some b') q = some c ∧ mem ∈ members c
    by_cases hq : q = p
    · rw [hq, Function.update_self, hb]
      constructor
      · rintro ⟨c, hc, hin⟩
        cases hc
        exact ⟨b', rfl, hmem ▸ hin⟩
      · rintro ⟨c, hc, hin⟩
        cases hc
        exact ⟨b, rfl, hmem ▸ hin⟩
    · rw [Function.update_of_ne hq]
  · show Function.update m'.block p (some b') q = some c
    have hq : q ≠ p := fun heq => by rw [heq, hp] at hc; cases hc
    rw [Function.update_of_ne hq]
    exact h.block q c hc

theorem nodup (h : Grows members ns new m m') : (new + (m.live : Multiset Nat)).Nodup := by
  rw [← h.live]
  exact Multiset.coe_nodup.mpr h.tidy.nodup

/-- **Of the blocks added some are freed again.** -/
theorem erase {ps : List Nat} (h : Grows members ns (new + (ps : Multiset Nat)) m m') (ht : m.Tidy members) :
    Grows members ns new m (m'.erase ps) := by
  have hdisjoint : ∀ p ∈ m.live, p ∉ ps := fun p hp hps =>
    Multiset.disjoint_left.mp (Multiset.nodup_add.mp h.nodup).2.2 (Multiset.mem_add.mpr (.inr hps)) hp
  refine ⟨h.tidy.erase ps, ?_, fun p b hb => ?_, fun n hl hn => ?_⟩
  · show ((m'.live.diff ps : List Nat) : Multiset Nat) = _
    rw [← Multiset.coe_sub, h.live, add_right_comm]
    exact add_tsub_cancel_right ..
  · rw [Store.erase_block (hdisjoint p (ht.live_block hb))]
    exact h.block p b hb
  · obtain ⟨b, hb, -⟩ := (ht.links n.1 n.2).mp hl
    rw [Store.erase_node (hdisjoint n.1 (ht.live_block hb))]
    exact h.links n hl hn

/-- Links are written. -/
theorem relink (h : Grows members ns new m m') {links : Heap (Nat × μ)}
    (hlive : ∀ n, links.Live n ↔ m'.links.Live n) (hsame : ∀ n, n ∉ ns' → links.node n = m'.links.node n)
    (hns : ∀ n ∈ ns', m.links.Live n → n ∈ ns) : Grows members ns new m { m' with links := links } := by
  refine ⟨⟨h.tidy.nodup, h.tidy.block, fun q mem => (hlive _).trans (h.tidy.links q mem)⟩, h.live, h.block,
    fun n hl hn => ?_⟩
  exact (hsame n fun hn' => hn (hns n hn' hl)).trans (h.links n hl hn)

end Grows

/-- **A block is allocated.** -/
theorem Store.Tidy.malloc [DecidableEq μ] (h : m.Tidy members) (hp : p ∉ m.live) (null : Nat × μ) (b : β) :
    Grows members [] {p} m (m.malloc members null p b) := by
  have hnone := h.block_none hp
  refine ⟨⟨List.nodup_cons.mpr ⟨hp, h.nodup⟩, fun q => ?_, fun q mem => ?_⟩, rfl, fun q c hc => ?_, fun n hl _ => ?_⟩
  · show q ∈ p :: m.live ↔ (Function.update m.block p (some b) q).isSome = true
    rw [List.mem_cons, h.block]
    by_cases hq : q = p
    · rw [hq, Function.update_self]
      simp
    · rw [Function.update_of_ne hq]
      exact or_iff_right hq
  · show (if q = p then (if mem ∈ members b then some (⟨null, null⟩ : Links (Nat × μ)) else none)
      else m.links.node (q, mem)).isSome = true ↔ ∃ c, Function.update m.block p (some b) q = some c ∧ mem ∈ members c
    by_cases hq : q = p
    · rw [if_pos hq, hq, Function.update_self]
      by_cases hmem : mem ∈ members b
      · rw [if_pos hmem]
        exact iff_of_true rfl ⟨b, rfl, hmem⟩
      · rw [if_neg hmem]
        refine iff_of_false (by simp) ?_
        rintro ⟨c, hc, hin⟩
        cases hc
        exact hmem hin
    · rw [if_neg hq, Function.update_of_ne hq]
      exact h.links q mem
  · show Function.update m.block p (some b) q = some c
    have hq : q ≠ p := fun heq => by rw [heq, hnone] at hc; cases hc
    rw [Function.update_of_ne hq]
    exact hc
  · show (if n.1 = p then _ else m.links.node n) = _
    have hn : n.1 ≠ p := fun heq => by
      obtain ⟨c, hc, -⟩ := (h.links n.1 n.2).mp hl
      rw [heq, hnone] at hc
      cases hc
    rw [if_neg hn]

end Blocks
