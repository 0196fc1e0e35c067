import Uvcd.Lib.Machine
import Uvcd.Lib.Split
import Uvcd.Refinement.Lists

/-!
# `Correctness.Lists` — `list.h` on any number of lists at once

`lists_represented`: over any run of the functions of `list.h`, with nodes allocated and freed between the calls, memory
represents lists (`Lists`) that the calls change the way their names say (`ListCall.act`), as long as each call is
allowed (`ListCall.Allowed`): only a node of no list is linked or freed, and only one of a list is unlinked.
-/

namespace Uvcd

open Ring Machine Split

variable {P : Type}

/-- The list heads in use, each with the entries behind it. -/
abbrev Lists (P : Type) := List (P × List P)

/-- All nodes in use. -/
def Lists.members (ls : Lists P) : List P := ls.flatMap fun r => r.1 :: r.2

inductive ListCall (P : Type) where
  /-- a block is allocated; what stands where its links are is left over -/
  | malloc (entry : P) (left : Links P)
  | free (entry : P)
  | init (list : P)
  | append (entry list : P)
  | prepend (entry list : P)
  | insertAfter (entry after : P)
  | insertBefore (entry before : P)
  | remove (entry : P)

variable [DecidableEq P]

/-- The call on memory. -/
def ListCall.apply (m : Heap P) : ListCall P → Option (Heap P)
  | .malloc entry left => some (m.set entry (some left))
  | .free entry => m.free entry
  | .init list => listInit m list
  | .append entry list => listAppend m entry list
  | .prepend entry list => listPrepend m entry list
  | .insertAfter entry after => listInsertAfter m entry after
  | .insertBefore entry before => listInsertBefore m entry before
  | .remove entry => listRemove m entry

/-! ## What the calls mean -/

/-- `x` put in front of `a`, and behind it. -/
def putBefore (x a : P) : List P → List P
  | [] => []
  | y :: l => if y = a then x :: y :: l else y :: putBefore x a l

def putAfter (x a : P) : List P → List P
  | [] => []
  | y :: l => if y = a then y :: x :: l else y :: putAfter x a l

/-- What a call makes of the list behind a head. -/
def ListCall.on (h : P) (l : List P) : ListCall P → List P
  | .append entry list => if h = list then l ++ [entry] else l
  | .prepend entry list => if h = list then entry :: l else l
  | .insertAfter entry after => putAfter entry after l
  | .insertBefore entry before => putBefore entry before l
  | .remove entry => l.erase entry
  | .malloc _ _ | .free _ | .init _ => l

def ListCall.act (c : ListCall P) (ls : Lists P) : Lists P :=
  match c with
  | .init list => (list, []) :: ls
  | c => ls.map fun r => (r.1, c.on r.1 r.2)

/-- What a call may be made on. -/
def ListCall.Allowed (ls : Lists P) (m : Heap P) : ListCall P → Prop
  | .malloc entry _ => ¬m.Live entry
  | .free entry => m.Live entry ∧ entry ∉ ls.members
  | .init list => m.Live list ∧ list ∉ ls.members
  | .append entry list | .prepend entry list => m.Live entry ∧ entry ∉ ls.members ∧ ∃ r ∈ ls, r.1 = list
  | .insertAfter entry a | .insertBefore entry a =>
    m.Live entry ∧ entry ∉ ls.members ∧ ∃ r ∈ ls, a ∈ r.2
  | .remove entry => ∃ r ∈ ls, entry ∈ r.2

instance ListCall.decideAllowed (ls : Lists P) (m : Heap P) : ∀ c : ListCall P, Decidable (c.Allowed ls m)
  | .malloc entry _ => inferInstanceAs (Decidable ¬(m.node entry).isSome = true)
  | .free entry => inferInstanceAs (Decidable ((m.node entry).isSome = true ∧ entry ∉ ls.members))
  | .init list => inferInstanceAs (Decidable ((m.node list).isSome = true ∧ list ∉ ls.members))
  | .append entry list | .prepend entry list =>
    inferInstanceAs (Decidable ((m.node entry).isSome = true ∧ entry ∉ ls.members ∧ ∃ r ∈ ls, r.1 = list))
  | .insertAfter entry a | .insertBefore entry a =>
    inferInstanceAs (Decidable ((m.node entry).isSome = true ∧ entry ∉ ls.members ∧ ∃ r ∈ ls, a ∈ r.2))
  | .remove entry => inferInstanceAs (Decidable (∃ r ∈ ls, entry ∈ r.2))

/-- Memory holds these lists. -/
structure Represents (m : Heap P) (ls : Lists P) : Prop where
  rings : ∀ h l, (h, l) ∈ ls → IsRing m h l
  nodup : ls.members.Nodup

variable {m m' : Heap P} {ls pre post : Lists P} {h x a : P} {l l' : List P} {c : ListCall P}

theorem putBefore_eq {us vs : List P} (ha : a ∉ us) : putBefore x a (us ++ a :: vs) = us ++ x :: a :: vs := by
  induction us with
  | nil => exact if_pos rfl
  | cons y us ih =>
      have hya : y ≠ a := fun heq => ha (heq ▸ List.mem_cons_self)
      rw [List.cons_append, putBefore, if_neg hya, ih fun hm => ha (List.mem_cons_of_mem _ hm)]
      rfl

theorem putAfter_eq {us vs : List P} (ha : a ∉ us) : putAfter x a (us ++ a :: vs) = us ++ a :: x :: vs := by
  induction us with
  | nil => exact if_pos rfl
  | cons y us ih =>
      have hya : y ≠ a := fun heq => ha (heq ▸ List.mem_cons_self)
      rw [List.cons_append, putAfter, if_neg hya, ih fun hm => ha (List.mem_cons_of_mem _ hm)]
      rfl

theorem putBefore_none (ha : a ∉ l) : putBefore x a l = l := by
  induction l with
  | nil => rfl
  | cons y l ih =>
      have hya : y ≠ a := fun heq => ha (heq ▸ List.mem_cons_self)
      rw [putBefore, if_neg hya, ih fun hm => ha (List.mem_cons_of_mem _ hm)]

theorem putAfter_none (ha : a ∉ l) : putAfter x a l = l := by
  induction l with
  | nil => rfl
  | cons y l ih =>
      have hya : y ≠ a := fun heq => ha (heq ▸ List.mem_cons_self)
      rw [putAfter, if_neg hya, ih fun hm => ha (List.mem_cons_of_mem _ hm)]

/-! ## One list among others -/

omit [DecidableEq P] in
theorem members_split : Lists.members (pre ++ (h, l) :: post) = pre.members ++ (h :: l ++ post.members) := by
  unfold Lists.members
  rw [List.flatMap_append, List.flatMap_cons]

omit [DecidableEq P] in
theorem mem_members {r : P × List P} (hr : r ∈ ls) {p : P} (hp : p ∈ r.1 :: r.2) : p ∈ ls.members :=
  List.mem_flatMap.mpr ⟨r, hr, hp⟩

omit [DecidableEq P] in
/-- The nodes of one list are not those of another. -/
theorem Represents.apart (hrep : Represents m (pre ++ (h, l) :: post)) {r : P × List P} (hr : r ∈ pre ++ post) {p : P}
    (hp : p ∈ r.1 :: r.2) : p ∉ h :: l := by
  have hnd := hrep.nodup
  rw [members_split, List.nodup_append] at hnd
  obtain ⟨-, hnd, hpre⟩ := hnd
  intro hm
  rcases List.mem_append.mp hr with hr | hr
  · exact hpre p (mem_members hr hp) p (List.mem_append_left _ hm) rfl
  · exact (List.nodup_append.mp hnd).2.2 p hm p (mem_members hr hp) rfl

omit [DecidableEq P] in
/-- A call that changes one list, by an entry `x` of none. -/
theorem Represents.update (hrep : Represents m (pre ++ (h, l) :: post)) (hring : IsRing m' h l')
    (hw : Writes m m' (x :: h :: l)) (hx : x ∉ Lists.members (pre ++ post)) (hsub : ∀ p ∈ l', p = x ∨ p ∈ l) :
    Represents m' (pre ++ (h, l') :: post) := by
  have hnd := hrep.nodup
  rw [members_split, List.nodup_append] at hnd
  obtain ⟨hndpre, hndrest, hpre⟩ := hnd
  obtain ⟨-, hndpost, hpost⟩ := List.nodup_append.mp hndrest
  have hxpre : x ∉ pre.members := fun hm => hx (by
    unfold Lists.members at hm ⊢
    rw [List.flatMap_append]; exact List.mem_append_left _ hm)
  have hxpost : x ∉ post.members := fun hm => hx (by
    unfold Lists.members at hm ⊢
    rw [List.flatMap_append]; exact List.mem_append_right _ hm)
  have hin : ∀ p ∈ h :: l', p = x ∨ p ∈ h :: l := by
    intro p hp
    rcases List.mem_cons.mp hp with rfl | hp
    · exact .inr List.mem_cons_self
    · exact (hsub p hp).imp_right (List.mem_cons_of_mem _)
  refine ⟨fun h₂ l₂ hm => ?_, ?_⟩
  · rcases List.mem_append.mp hm with hm | hm
    · refine hw.ring (hrep.rings h₂ l₂ (List.mem_append_left _ hm)) fun p hp hpx => ?_
      rcases List.mem_cons.mp hpx with rfl | hpx
      · exact hxpre (mem_members hm hp)
      · exact hrep.apart (List.mem_append_left _ hm) hp hpx
    · rcases List.mem_cons.mp hm with heq | hm
      · cases heq; exact hring
      · refine hw.ring (hrep.rings h₂ l₂ (List.mem_append_right _ (List.mem_cons_of_mem _ hm))) fun p hp hpx => ?_
        rcases List.mem_cons.mp hpx with rfl | hpx
        · exact hxpost (mem_members hm hp)
        · exact hrep.apart (List.mem_append_right _ hm) hp hpx
  · rw [members_split, List.nodup_append]
    refine ⟨hndpre, List.nodup_append.mpr ⟨hring.nodup, hndpost, fun p hp q hq heq => ?_⟩, fun p hp q hq heq => ?_⟩
    · subst heq
      rcases hin p hp with rfl | hp
      · exact hxpost hq
      · exact hpost p hp p hq rfl
    · subst heq
      rcases List.mem_append.mp hq with hq | hq
      · rcases hin p hq with rfl | hq
        · exact hxpre hp
        · exact hpre p hp p (List.mem_append_left _ hq) rfl
      · exact hpre p hp p (List.mem_append_right _ hq) rfl

omit [DecidableEq P] in
/-- No node in use is written. -/
theorem Represents.frame (hrep : Represents m ls) (hs : ∀ p ∈ ls.members, m'.node p = m.node p) :
    Represents m' ls :=
  ⟨fun h l hm => (hrep.rings h l hm).frame fun p hp => hs p (mem_members hm hp), hrep.nodup⟩

/-! ## Every call -/

/-- A call that changes one list, and leaves what has no node of it. -/
theorem Represents.change (hrep : Represents m ls) (hm : (h, l) ∈ ls) (hc : ∀ list, c ≠ .init list)
    (hx : ∀ r ∈ ls, (∀ p ∈ r.1 :: r.2, p ∉ h :: l) → x ∉ r.1 :: r.2)
    (happly : ∃ m', c.apply m = some m' ∧ IsRing m' h (c.on h l) ∧ Writes m m' (x :: h :: l))
    (hsub : ∀ p ∈ c.on h l, p = x ∨ p ∈ l)
    (hother : ∀ r ∈ ls, (∀ p ∈ r.1 :: r.2, p ∉ h :: l) → c.on r.1 r.2 = r.2) :
    ∃ m', c.apply m = some m' ∧ Represents m' (c.act ls) := by
  obtain ⟨m', hm', hring, hw⟩ := happly
  obtain ⟨pre, post, rfl⟩ := List.append_of_mem hm
  have hapart : ∀ r ∈ pre ++ post, r ∈ pre ++ (h, l) :: post ∧ ∀ p ∈ r.1 :: r.2, p ∉ h :: l :=
    fun r hr => ⟨mem_replaced hr, fun p hp => hrep.apart hr hp⟩
  have hact : c.act (pre ++ (h, l) :: post) = pre ++ (h, c.on h l) :: post := by
    have hid : ∀ rs : Lists P, (∀ r ∈ rs, c.on r.1 r.2 = r.2) → rs.map (fun r => (r.1, c.on r.1 r.2)) = rs := by
      intro rs hrs
      refine (List.map_congr_left fun r hr => ?_).trans (List.map_id rs)
      rw [hrs r hr]; rfl
    have hmap : c.act (pre ++ (h, l) :: post) = (pre ++ (h, l) :: post).map fun r => (r.1, c.on r.1 r.2) := by
      cases c with
      | init list => exact absurd rfl (hc list)
      | _ => rfl
    rw [hmap, List.map_append, List.map_cons,
      hid pre fun r hr => hother r (hapart r (List.mem_append_left _ hr)).1 (hapart r (List.mem_append_left _ hr)).2,
      hid post fun r hr => hother r (hapart r (List.mem_append_right _ hr)).1 (hapart r (List.mem_append_right _ hr)).2]
  refine ⟨m', hm', ?_⟩
  rw [hact]
  refine hrep.update hring hw (fun hmem => ?_) hsub
  obtain ⟨r, hr, hxr⟩ := List.mem_flatMap.mp hmem
  exact hx r (hapart r hr).1 (hapart r hr).2 hxr

omit [DecidableEq P] in
/-- A node of no list. -/
theorem fresh_of_members (hx : x ∉ ls.members) : ∀ r ∈ ls, x ∉ r.1 :: r.2 :=
  fun _ hr hxr => hx (mem_members hr hxr)

/-- **A call that is allowed goes through, and does to the lists what it means.** -/
theorem Represents.step (hrep : Represents m ls) (hc : c.Allowed ls m) :
    ∃ m', c.apply m = some m' ∧ Represents m' (c.act ls) := by
  cases c with
  | malloc entry left =>
      -- an address handed out is that of no node in use
      have hfresh : ∀ p ∈ ls.members, p ≠ entry := by
        intro p hp heq
        obtain ⟨r, hr, hpr⟩ := List.mem_flatMap.mp hp
        exact hc (heq ▸ (hrep.rings r.1 r.2 hr).live hpr)
      refine ⟨_, rfl, ?_⟩
      have hact : (ListCall.malloc entry left).act ls = ls := List.map_id ls
      rw [hact]
      exact hrep.frame fun p hp => (Heap.node_set m entry _ p).trans (if_neg (hfresh p hp))
  | free entry =>
      obtain ⟨m', hm', hnode⟩ := Heap.free_spec hc.1
      refine ⟨m', hm', ?_⟩
      have hact : (ListCall.free entry).act ls = ls := List.map_id ls
      rw [hact]
      exact hrep.frame fun p hp => (hnode p).trans (if_neg fun heq : p = entry => hc.2 (heq ▸ hp))
  | init list =>
      obtain ⟨m', hm', hring, hw⟩ := listInit_ring hc.1
      have hrep' : Represents m' ls := hrep.frame fun p hp => hw p fun hmem =>
        hc.2 (List.mem_singleton.mp hmem ▸ hp)
      refine ⟨m', hm', fun h l hmem => ?_, ?_⟩
      · rcases List.mem_cons.mp hmem with heq | hmem
        · cases heq; exact hring
        · exact hrep'.rings h l hmem
      · exact List.nodup_cons.mpr ⟨hc.2, hrep.nodup⟩
  | append entry list =>
      obtain ⟨hlive, hx, ⟨list', l⟩, hm, heq⟩ := hc
      cases (show list' = list from heq)
      have hon : (ListCall.append entry list).on list l = l ++ [entry] := if_pos rfl
      obtain ⟨m', hm', hring, hw⟩ := listAppend_ring (hrep.rings list l hm) (fresh_of_members hx _ hm) hlive
      refine hrep.change hm (fun _ => by simp) (fun r hr _ => fresh_of_members hx r hr)
        ⟨m', hm', by rw [hon]; exact hring, hw⟩ (fun p hp => ?_) (fun r _ hr => ?_)
      · rw [hon] at hp
        exact (List.mem_append.mp hp).symm.imp_left List.mem_singleton.mp
      · exact if_neg fun heq : r.1 = list => hr _ List.mem_cons_self (heq ▸ List.mem_cons_self)
  | prepend entry list =>
      obtain ⟨hlive, hx, ⟨list', l⟩, hm, heq⟩ := hc
      cases (show list' = list from heq)
      have hon : (ListCall.prepend entry list).on list l = entry :: l := if_pos rfl
      obtain ⟨m', hm', hring, hw⟩ := listPrepend_ring (hrep.rings list l hm) (fresh_of_members hx _ hm) hlive
      refine hrep.change hm (fun _ => by simp) (fun r hr _ => fresh_of_members hx r hr)
        ⟨m', hm', by rw [hon]; exact hring, hw⟩ (fun p hp => ?_) (fun r _ hr => ?_)
      · rw [hon] at hp
        exact List.mem_cons.mp hp
      · exact if_neg fun heq : r.1 = list => hr _ List.mem_cons_self (heq ▸ List.mem_cons_self)
  | insertAfter entry a =>
      obtain ⟨hlive, hx, ⟨h, l⟩, hm, ha⟩ := hc
      obtain ⟨us, vs, rfl⟩ : ∃ us vs, l = us ++ a :: vs := List.append_of_mem ha
      have haus : a ∉ us := fun hmem =>
        (List.nodup_append.mp (List.nodup_cons.mp (hrep.rings h _ hm).nodup).2).2.2 a hmem a List.mem_cons_self rfl
      have hon : (ListCall.insertAfter entry a).on h (us ++ a :: vs) = us ++ a :: entry :: vs := putAfter_eq haus
      obtain ⟨m', hm', hring, hw⟩ := listInsertAfter_ring (hrep.rings h _ hm) (fresh_of_members hx _ hm) hlive
      refine hrep.change hm (fun _ => by simp) (fun r hr _ => fresh_of_members hx r hr)
        ⟨m', hm', by rw [hon]; exact hring, hw⟩ (fun p hp => ?_) (fun r _ hr => ?_)
      · rw [hon] at hp
        simp only [List.mem_append, List.mem_cons] at hp ⊢
        tauto
      · exact putAfter_none fun hmem => hr a (List.mem_cons_of_mem _ hmem) (List.mem_cons_of_mem _ ha)
  | insertBefore entry a =>
      obtain ⟨hlive, hx, ⟨h, l⟩, hm, ha⟩ := hc
      obtain ⟨us, vs, rfl⟩ : ∃ us vs, l = us ++ a :: vs := List.append_of_mem ha
      have haus : a ∉ us := fun hmem =>
        (List.nodup_append.mp (List.nodup_cons.mp (hrep.rings h _ hm).nodup).2).2.2 a hmem a List.mem_cons_self rfl
      have hon : (ListCall.insertBefore entry a).on h (us ++ a :: vs) = us ++ entry :: a :: vs := putBefore_eq haus
      obtain ⟨m', hm', hring, hw⟩ := listInsertBefore_ring (hrep.rings h _ hm) (fresh_of_members hx _ hm) hlive
      refine hrep.change hm (fun _ => by simp) (fun r hr _ => fresh_of_members hx r hr)
        ⟨m', hm', by rw [hon]; exact hring, hw⟩ (fun p hp => ?_) (fun r _ hr => ?_)
      · rw [hon] at hp
        simp only [List.mem_append, List.mem_cons] at hp ⊢
        tauto
      · exact putBefore_none fun hmem => hr a (List.mem_cons_of_mem _ hmem) (List.mem_cons_of_mem _ ha)
  | remove entry =>
      obtain ⟨⟨h, l⟩, hm, ha⟩ := hc
      obtain ⟨us, vs, rfl⟩ : ∃ us vs, l = us ++ entry :: vs := List.append_of_mem ha
      have haus : entry ∉ us := fun hmem =>
        (List.nodup_append.mp (List.nodup_cons.mp (hrep.rings h _ hm).nodup).2).2.2 entry hmem entry
          List.mem_cons_self rfl
      have hon : (ListCall.remove entry).on h (us ++ entry :: vs) = us ++ vs := by
        show (us ++ entry :: vs).erase entry = _
        rw [List.erase_append_right _ haus, List.erase_cons_head]
      have hmid : ∀ p ∈ us ++ vs, p ∈ us ++ entry :: vs := fun p hp => mem_replaced hp
      obtain ⟨m', hm', hring, hw⟩ := listRemove_ring (hrep.rings h _ hm)
      refine hrep.change (x := entry) hm (fun _ => by simp)
        (fun r _ hr hmem => hr entry hmem (List.mem_cons_of_mem _ ha))
        ⟨m', hm', by rw [hon]; exact hring, hw.mono fun p hp => ?_⟩ (fun p hp => ?_) (fun r _ hr => ?_)
      · refine List.mem_cons_of_mem _ ?_
        rcases List.mem_cons.mp hp with rfl | hp
        · exact List.mem_cons_self
        · exact List.mem_cons_of_mem _ (hmid p hp)
      · rw [hon] at hp
        exact .inr (hmid p hp)
      · exact List.erase_of_not_mem fun hmem => hr entry (List.mem_cons_of_mem _ hmem) (List.mem_cons_of_mem _ ha)

/-! ## Runs of calls -/

/-- Memory, and the lists it is taken to hold. -/
def listStep (c : ListCall P) (s : Heap P × Lists P) : Except Fault (Heap P × Lists P) := do
  let m ← deref (c.apply s.1)
  .ok (m, c.act s.2)

/-- **Lists are what `list.h` keeps.** A run of allowed calls touches live memory only and leaves the lists the calls
    mean: `list_first_entry` and `list_last_entry` find their ends, `list_empty` tells whether there is one, and the
    walks pass exactly the entries, in order. -/
theorem lists_represented (hrep : Represents m ls) {cs : List (ListCall P)}
    (hC : Along listStep (fun c s => c.Allowed s.2 s.1) cs (m, ls)) :
    ∃ m', Machine.run listStep cs (m, ls) = .ok (m', cs.foldl (fun ls c => c.act ls) ls) ∧
      Represents m' (cs.foldl (fun ls c => c.act ls) ls) ∧
      ∀ h l, (h, l) ∈ cs.foldl (fun ls c => c.act ls) ls →
        m'.next h = some (l.headD h) ∧ m'.prev h = some (l.getLastD h) ∧ listEmpty m' h = some (decide (l = [])) ∧
          ∀ n, l.length < n → listForEach m' h n = some l := by
  have hstep : ∀ (c : ListCall P) (s : Heap P × Lists P) (ls : Lists P), (s.2 = ls ∧ Represents s.1 ls) →
      c.Allowed s.2 s.1 → ∃ s', listStep c s = .ok s' ∧ s'.2 = c.act ls ∧ Represents s'.1 (c.act ls) := by
    rintro c ⟨m, ls'⟩ ls ⟨rfl, hrep⟩ hc
    obtain ⟨m', hm', hrep'⟩ := Represents.step hrep hc
    refine ⟨(m', c.act ls'), ?_, rfl, hrep'⟩
    rw [listStep, hm']; rfl
  obtain ⟨⟨m', ls'⟩, hrun, hts, hrep'⟩ := run_simulates hstep ⟨rfl, hrep⟩ hC
  cases hts
  refine ⟨m', hrun, hrep', fun h l hm => ?_⟩
  have hring := hrep'.rings h l hm
  have hlast : h :: l = (h :: l).dropLast ++ [l.getLastD h] := by
    rw [← List.getLast_eq_getLastD (List.cons_ne_nil h l)]
    exact (List.dropLast_append_getLast _).symm
  refine ⟨hring.next_head, hring.prev_head hlast, ?_, fun n hn => hring.walk_eq hn⟩
  rw [listEmpty, hring.next_head]
  refine congrArg some (decide_eq_decide.mpr ?_)
  cases l with
  | nil => exact ⟨fun _ => rfl, fun _ => rfl⟩
  | cons f l =>
      refine ⟨fun heq => ?_, fun heq => by cases heq⟩
      -- an entry is not the head
      exact absurd (show h ∈ f :: l from (show f = h from heq) ▸ List.mem_cons_self)
        (List.nodup_cons.mp hring.nodup).1

/-- Two heads, and an entry that changes from one list to the other. -/
def listMoves : List (ListCall Nat) :=
  let left : Links Nat := ⟨9, 9⟩
  [.malloc 0 left, .init 0, .malloc 1 left, .init 1, .malloc 2 left, .append 2 0, .malloc 3 left, .prepend 3 0,
    .malloc 4 left, .insertBefore 4 2, .remove 3, .append 3 1, .malloc 5 left, .insertAfter 5 4, .remove 2, .free 2]

theorem lists_represented_moves :
    ∃ m', Machine.run listStep listMoves (⟨fun _ => none⟩, []) = .ok (m', [(1, [3]), (0, [4, 5])]) ∧
      Represents m' [(1, [3]), (0, [4, 5])] := by
  have hlists : listMoves.foldl (fun ls c => c.act ls) [] = [(1, [3]), (0, [4, 5])] := by decide
  have hC : Along listStep (fun c s => c.Allowed s.2 s.1) listMoves ((⟨fun _ => none⟩ : Heap Nat), []) := by decide
  have hnone : Represents (⟨fun _ => none⟩ : Heap Nat) [] := ⟨fun h l hm => (by cases hm), List.nodup_nil⟩
  obtain ⟨m', hrun, hrep, -⟩ := lists_represented hnone hC
  rw [hlists] at hrun hrep
  exact ⟨m', hrun, hrep⟩

end Uvcd
