import Uvcd.Model.EventMem
import Uvcd.Refinement.Lists

/-!
# `Refinement.Watches` — the watch list in memory stands for the watch list

`Mem.Events.Holds m₀ c ev ps`: the blocks `ps`, linked in this order, hold the watches of `ev`; no other block is
allocated, and the rest of memory is as in `m₀`. One lemma for each function of `events.c`: it does to memory what its
counterpart in `Model.Events` does to the list (`Holds.watch`, `Holds.unwatch`, `Holds.snapshot`, `Holds.cleanup`).
-/

namespace Uvcd

namespace Mem

open Ring

/-- Memory holds a watch list, in the blocks `ps`, and is otherwise as in `m₀`. -/
structure Events.Holds (m₀ : Heap Nat) (c : Events) (ev : Uvcd.Events) (ps : List Nat) : Prop where
  ring : IsRing c.links c.list ps
  blocks : ps.map c.block = ev.events.map some
  only : ∀ p, p ∉ ps → c.block p = none
  outside : ∀ p, p ∉ c.list :: ps → c.links.node p = m₀.node p
  fresh : ∀ p ∈ ps, m₀.node p = none
  done : c.done = ev.done
  maxfd : c.maxfd = ev.maxfd
  fds : ∀ type, c.fds type = ev.fds type

variable {m₀ : Heap Nat} {c : Events} {ev : Uvcd.Events} {ps : List Nat} {n fd : Nat} {type : EventType}

theorem Events.Holds.init {links : Heap Nat} {list : Nat} (hlive : links.Live list) :
    ∃ c, eventsInit links list = some c ∧ c.list = list ∧ c.Holds links Uvcd.eventsInit [] := by
  obtain ⟨m', hm', hring, hw⟩ := listInit_ring hlive
  refine ⟨⟨list, m', fun _ => none, false, 0, fun _ => FdSet.zero⟩, by rw [eventsInit, hm']; rfl, rfl, hring, rfl,
    fun _ _ => rfl, hw, fun p hp => (by cases hp), rfl, rfl, fun type => ?_⟩
  cases type <;> rfl

/-! ## `events_watch_fd` -/

theorem fds_setFds (ev : Uvcd.Events) (type type' : EventType) (s : FdSet) :
    (ev.setFds type s).fds type' = if type' = type then s else ev.fds type' := by
  cases type <;> cases type' <;> rfl

theorem setFds_rest (ev : Uvcd.Events) (type : EventType) (s : FdSet) :
    (ev.setFds type s).events = ev.events ∧ (ev.setFds type s).done = ev.done ∧
      (ev.setFds type s).maxfd = ev.maxfd := by
  cases type <;> exact ⟨rfl, rfl, rfl⟩

/-- A changed set, in both. -/
theorem Events.Holds.fds_update (h : c.Holds m₀ ev ps) (s : FdSet) (type' : EventType) :
    Function.update c.fds type s type' = (ev.setFds type s).fds type' := by
  rw [fds_setFds, Function.update_apply, h.fds]

theorem Events.Holds.watch (h : c.Holds m₀ ev ps) {p : Nat} (hp : c.links.node p = none) (left : Links Nat) (fd : Nat)
    (type : EventType) (callback : Callback) (priv : Priv) :
    ∃ c', eventsWatchFd c (some p) left fd type callback priv = some c' ∧ c'.list = c.list ∧
      c'.Holds m₀ (Uvcd.eventsWatchFd ev fd type callback priv) (ps ++ [p]) := by
  have hpn : p ∉ c.list :: ps := by
    intro hm
    have hlive := h.ring.live hm
    unfold Heap.Live at hlive
    rw [hp] at hlive
    cases hlive
  have hpps : p ∉ ps := fun hm => hpn (List.mem_cons_of_mem _ hm)
  -- the new block is written first, away from the list
  have hring : IsRing (c.links.set p (some left)) c.list ps := h.ring.frame fun q hq =>
    (Heap.node_set _ _ _ q).trans (if_neg fun heq : q = p => hpn (heq ▸ hq))
  have hlive : (c.links.set p (some left)).Live p := by
    unfold Heap.Live
    rw [Heap.node_set, if_pos rfl]; rfl
  obtain ⟨links, happ, hring', hw⟩ := listAppend_ring hring hpn hlive
  refine ⟨⟨c.list, links, Function.update c.block p (some ⟨fd, type, callback, priv⟩), c.done, max c.maxfd fd,
    Function.update c.fds type ((c.fds type).set fd)⟩, by rw [eventsWatchFd]; dsimp only; rw [happ]; rfl, rfl, ?_⟩
  obtain ⟨hev, hdone, -⟩ := setFds_rest ev type ((ev.fds type).set fd)
  refine ⟨hring', ?_, fun q hq => ?_, fun q hq => ?_, fun q hq => ?_, ?_, ?_, fun type' => ?_⟩
  · show (ps ++ [p]).map (Function.update c.block p _) = (_ ++ [_]).map some
    rw [List.map_append, List.map_append, hev, ← h.blocks]
    refine congrArg₂ (· ++ ·) (List.map_congr_left fun q hq => ?_) ?_
    · exact Function.update_of_ne (fun heq : q = p => hpps (heq ▸ hq)) ..
    · show [Function.update c.block p _ p] = _
      rw [Function.update_self]; rfl
  · have hqp : q ≠ p := fun heq => hq (heq ▸ List.mem_append_right _ List.mem_cons_self)
    show Function.update c.block p _ q = none
    rw [Function.update_of_ne hqp]
    exact h.only q fun hm => hq (List.mem_append_left _ hm)
  · have hqp : q ≠ p := fun heq => hq (heq ▸ List.mem_cons_of_mem _ (List.mem_append_right _ List.mem_cons_self))
    have hq' : q ∉ c.list :: ps := by
      intro hm
      rcases List.mem_cons.mp hm with rfl | hm
      · exact hq List.mem_cons_self
      · exact hq (List.mem_cons_of_mem _ (List.mem_append_left _ hm))
    refine (hw q fun hm => ?_).trans (((Heap.node_set _ _ _ q).trans (if_neg hqp)).trans (h.outside q hq'))
    rcases List.mem_cons.mp hm with heq | hm
    · exact hqp heq
    · exact hq' hm
  · rcases List.mem_append.mp hq with hq | hq
    · exact h.fresh q hq
    · rw [List.mem_singleton.mp hq, ← h.outside p hpn]
      exact hp
  · exact h.done.trans hdone.symm
  · exact congrArg (max · fd) (h.maxfd.trans (setFds_rest ev type _).2.2.symm)
  · show Function.update c.fds type _ type' = _
    rw [h.fds type]
    exact h.fds_update _ type'

/-! ## `events_unwatch_fd` -/

/-- What the scanning loop finds: the last block that holds a watch of this kind, and the maximum over the others. -/
theorem scanWatches_spec (ev : Events) (fd : Nat) (type : EventType) :
    ∀ (ps : List Nat) (es : List EventFd) (event : Option Nat) (maxfd : Nat), ps.map ev.block = es.map some →
      ∃ event', scanWatches ev fd type ps event maxfd =
          some (event', es.foldl (fun m e => if e.hits fd type then m else max m e.fd) maxfd) ∧
        (((∀ e ∈ es, e.hits fd type = false) ∧ event' = event) ∨
          ∃ us p vs es₁ e es₂, ps = us ++ p :: vs ∧ es = es₁ ++ e :: es₂ ∧ us.length = es₁.length ∧
            e.hits fd type = true ∧ (∀ x ∈ es₂, x.hits fd type = false) ∧ event' = some p) := by
  intro ps
  induction ps with
  | nil =>
      intro es event maxfd hb
      cases es with
      | nil => exact ⟨event, rfl, .inl ⟨fun e he => (by cases he), rfl⟩⟩
      | cons e es => cases hb
  | cons p ps ih =>
      intro es event maxfd hb
      cases es with
      | nil => cases hb
      | cons e es =>
          obtain ⟨hp, hps⟩ := List.cons.inj hb
          by_cases hhit : e.hits fd type = true
          · obtain ⟨event', hscan, hcase⟩ := ih es (some p) maxfd hps
            refine ⟨event', ?_, .inr ?_⟩
            · rw [scanWatches, hp]
              show (if e.hits fd type = true then _ else _) = _
              rw [if_pos hhit, hscan, List.foldl_cons, if_pos hhit]
            · rcases hcase with ⟨hnone, rfl⟩ | ⟨us, q, vs, es₁, e', es₂, rfl, rfl, hlen, he', hafter, rfl⟩
              · exact ⟨[], p, ps, [], e, es, rfl, rfl, rfl, hhit, hnone, rfl⟩
              · exact ⟨p :: us, q, vs, e :: es₁, e', es₂, rfl, rfl, congrArg (· + 1) hlen, he', hafter, rfl⟩
          · obtain ⟨event', hscan, hcase⟩ := ih es event (max maxfd e.fd) hps
            refine ⟨event', ?_, hcase.imp ?_ ?_⟩
            · rw [scanWatches, hp]
              show (if e.hits fd type = true then _ else _) = _
              rw [if_neg hhit, hscan, List.foldl_cons, if_neg hhit]
            · rintro ⟨hnone, rfl⟩
              refine ⟨fun x hx => ?_, rfl⟩
              rcases List.mem_cons.mp hx with rfl | hx
              · exact Bool.eq_false_iff.mpr hhit
              · exact hnone x hx
            · rintro ⟨us, q, vs, es₁, e', es₂, rfl, rfl, hlen, he', hafter, rfl⟩
              exact ⟨p :: us, q, vs, e :: es₁, e', es₂, rfl, rfl, congrArg (· + 1) hlen, he', hafter, rfl⟩

theorem removeLastHit_eq {es₁ es₂ : List EventFd} {e : EventFd} (he : e.hits fd type = true)
    (hafter : ∀ x ∈ es₂, x.hits fd type = false) : removeLastHit (es₁ ++ e :: es₂) fd type = es₁ ++ es₂ := by
  have hnot : ∀ x ∈ es₂.reverse, ¬x.hits fd type = true := fun x hx => by
    rw [hafter x (List.mem_reverse.mp hx)]; exact Bool.false_ne_true
  unfold removeLastHit
  rw [List.reverse_append, List.reverse_cons, List.append_assoc, List.eraseP_append_right _ hnot, List.cons_append,
    List.nil_append, List.eraseP_cons_of_pos (p := fun b : EventFd => b.hits fd type) he, List.reverse_append,
    List.reverse_reverse, List.reverse_reverse]

/-- A block is taken out of the list and freed. -/
theorem Events.Holds.drop {ps₁ ps₂ : List Nat} {es₁ es₂ : List EventFd} {e : EventFd} {p : Nat}
    (h : c.Holds m₀ ev (ps₁ ++ p :: ps₂)) (hes : ev.events = es₁ ++ e :: es₂) (hlen : ps₁.length = es₁.length)
    (ev' : Uvcd.Events) (c' : Events) (hev' : ev'.events = es₁ ++ es₂)
    (hblock : c'.block = c.block) (hlist : c'.list = c.list) (hdone : c'.done = ev'.done) (hmax : c'.maxfd = ev'.maxfd)
    (hfds : ∀ type, c'.fds type = ev'.fds type) :
    ∃ links c'', listRemove c.links p = some links ∧ { c' with links := links }.free p = some c'' ∧
      c''.list = c.list ∧ c''.Holds m₀ ev' (ps₁ ++ ps₂) := by
  obtain ⟨links, hrem, hring, hw⟩ := listRemove_ring h.ring
  have hpn : p ∉ c.list :: (ps₁ ++ ps₂) := by
    have hperm : (c.list :: (ps₁ ++ p :: ps₂)).Perm (p :: c.list :: (ps₁ ++ ps₂)) :=
      (List.perm_middle.cons c.list).trans (.swap ..)
    exact (List.nodup_cons.mp (hperm.nodup_iff.mp h.ring.nodup)).1
  have hlive : links.Live p :=
    (Heap.live_congr (hw p hpn)).mpr (h.ring.live (List.mem_cons_of_mem _ (List.mem_append_right _ List.mem_cons_self)))
  obtain ⟨links', hfree, hnode⟩ := Heap.free_spec hlive
  refine ⟨links, { c' with links := links', block := Function.update c'.block p none }, hrem,
    by rw [Events.free]; dsimp only; rw [hfree]; rfl, hlist, ?_⟩
  have hsplit := h.blocks
  rw [hes, List.map_append, List.map_append, List.map_cons, List.map_cons] at hsplit
  obtain ⟨hb₁, hrest⟩ := List.append_inj hsplit (by rw [List.length_map, List.length_map, hlen])
  have hb₂ : ps₂.map c.block = es₂.map some := (List.cons.inj hrest).2
  have hsame : ∀ q ∈ ps₁ ++ ps₂, Function.update c.block p none q = c.block q := fun q hq =>
    Function.update_of_ne (fun heq : q = p => hpn (heq ▸ List.mem_cons_of_mem _ hq)) ..
  refine ⟨?_, ?_, fun q hq => ?_, fun q hq => ?_, fun q hq => ?_, hdone, hmax, hfds⟩
  · show IsRing links' c'.list _
    rw [hlist]
    exact hring.frame fun q hq => (hnode q).trans (if_neg fun heq : q = p => hpn (heq ▸ hq))
  · show (ps₁ ++ ps₂).map (Function.update c'.block p none) = _
    rw [hblock, List.map_congr_left hsame, List.map_append, hb₁, hb₂, hev', List.map_append]
  · show Function.update c'.block p none q = none
    rw [hblock]
    by_cases hqp : q = p
    · rw [hqp, Function.update_self]
    · rw [Function.update_of_ne hqp]
      refine h.only q fun hm => ?_
      rcases List.mem_append.mp hm with hm | hm
      · exact hq (List.mem_append_left _ hm)
      · exact (List.mem_cons.mp hm).elim hqp fun hm => hq (List.mem_append_right _ hm)
  · -- the block freed is as it was before it was allocated
    show links'.node q = _
    rw [hnode]
    by_cases hqp : q = p
    · rw [if_pos hqp, hqp, h.fresh p (List.mem_append_right _ List.mem_cons_self)]
    · rw [if_neg hqp]
      have hq' : q ∉ c.list :: (ps₁ ++ ps₂) := by rwa [← hlist]
      refine (hw q hq').trans (h.outside q fun hm => ?_)
      rcases List.mem_cons.mp hm with heq | hm
      · exact hq' (heq ▸ List.mem_cons_self)
      · rcases List.mem_append.mp hm with hm | hm
        · exact hq' (List.mem_cons_of_mem _ (List.mem_append_left _ hm))
        · exact (List.mem_cons.mp hm).elim hqp fun hm => hq' (List.mem_cons_of_mem _ (List.mem_append_right _ hm))
  · rcases List.mem_append.mp hq with hq | hq
    · exact h.fresh q (List.mem_append_left _ hq)
    · exact h.fresh q (List.mem_append_right _ (List.mem_cons_of_mem _ hq))

theorem Events.Holds.unwatch (h : c.Holds m₀ ev ps) (hn : ps.length < n) (fd : Nat) (type : EventType) :
    ∃ c' ps', eventsUnwatchFd c n fd type = some c' ∧ c'.list = c.list ∧ ps'.length ≤ ps.length ∧
      c'.Holds m₀ (Uvcd.eventsUnwatchFd ev fd type) ps' := by
  have hwalk : listForEach c.links c.list n = some ps := h.ring.walk_eq hn
  obtain ⟨event, hscan, hcase⟩ := scanWatches_spec c fd type ps ev.events none 0 h.blocks
  rcases hcase with ⟨hnone, rfl⟩ | ⟨us, p, vs, es₁, e, es₂, rfl, hes, hlen, he, hafter, rfl⟩
  · refine ⟨c, ps, ?_, rfl, Nat.le_refl _, ?_⟩
    · rw [eventsUnwatchFd, hwalk]
      show (scanWatches c fd type ps none 0 >>= _) = _
      rw [hscan]; rfl
    · have hany : ev.events.any (·.hits fd type) = false := by
        rw [List.any_eq_false]
        intro x hx
        rw [hnone x hx]; exact Bool.false_ne_true
      rw [Uvcd.eventsUnwatchFd, hany]
      exact h
  · have hblock : c.block p = some e := by
      have hb := h.blocks
      rw [hes, List.map_append, List.map_append, List.map_cons, List.map_cons] at hb
      exact (List.cons.inj (List.append_inj hb (by rw [List.length_map, List.length_map, hlen])).2).1
    have htype : e.type = type := by
      unfold EventFd.hits at he
      rw [Bool.and_eq_true, decide_eq_true_eq, decide_eq_true_eq] at he
      exact he.2
    have hany : ev.events.any (·.hits fd type) = true := by
      rw [hes, List.any_append, List.any_cons, he, Bool.true_or, Bool.or_true]
    obtain ⟨-, hdone, -⟩ := setFds_rest ev type ((ev.fds type).clr fd)
    have hev' : Uvcd.eventsUnwatchFd ev fd type = { ev.setFds type ((ev.fds type).clr fd) with
        maxfd := maxfdWithout ev.events fd type, events := es₁ ++ es₂ } := by
      rw [Uvcd.eventsUnwatchFd, if_pos hany, hes, removeLastHit_eq he hafter]
    have hfds : ∀ type', Function.update c.fds type ((c.fds type).clr fd) type' =
        (Uvcd.eventsUnwatchFd ev fd type).fds type' := by
      intro type'
      rw [hev', h.fds type]
      exact h.fds_update _ type'
    obtain ⟨links, c', hrem, hfree, hlist, hholds⟩ := h.drop hes hlen (Uvcd.eventsUnwatchFd ev fd type)
      { c with
        fds := Function.update c.fds type ((c.fds type).clr fd)
        maxfd := maxfdWithout ev.events fd type }
      (by rw [hev']) rfl rfl (by rw [hev']; exact h.done.trans hdone.symm) (by rw [hev']) hfds
    refine ⟨c', us ++ vs, ?_, hlist, ?_, hholds⟩
    · rw [eventsUnwatchFd, hwalk]
      show (scanWatches c fd type (us ++ p :: vs) none 0 >>= _) = _
      rw [hscan]
      show (c.block p >>= _) = _
      rw [hblock]
      show (listRemove c.links p >>= _) = _
      rw [hrem, htype]
      exact hfree
    · rw [List.length_append, List.length_append, List.length_cons]
      omega

/-! ## The collecting loop -/

/-- The collecting loop on its way: the blocks still to be passed hold what the list-level loop has still to pass, and
    `iter` has room. -/
structure Events.Collecting (c : Events) (ev : Uvcd.Events) (r : Ready) (ps todo : List Nat) (iter : List EventIter) :
    Prop where
  suffix : ∃ before, ps = before ++ todo
  room : iter.length < iterSize
  rest : ∃ es, todo.map c.block = es.map some ∧
    iter ++ collectIter r (iterSize - iter.length) es = Uvcd.snapshot ev r

/-- One turn of the loop. -/
theorem Events.Collecting.turn {r : Ready} {p : Nat} {todo : List Nat} {iter : List EventIter}
    (h : c.Collecting ev r ps (p :: todo) iter) :
    ∃ on iter', collectStep c r p iter = some (on, iter') ∧ (on = true → c.Collecting ev r ps todo iter') ∧
      (on = false → iter' = Uvcd.snapshot ev r) := by
  obtain ⟨⟨before, hps⟩, hroom, es, hblocks, hrest⟩ := h
  have hsuffix : ∃ before, ps = before ++ todo := ⟨before ++ [p], by rw [hps, List.append_assoc]; rfl⟩
  cases es with
  | nil => cases hblocks
  | cons e es =>
      obtain ⟨hp, htodo⟩ := List.cons.inj hblocks
      obtain ⟨k, hk⟩ : ∃ k, iterSize - iter.length = k + 1 := ⟨iterSize - iter.length - 1, by omega⟩
      rw [hk, collectIter] at hrest
      rw [collectStep, hp]
      show ∃ on iter', (if e.isReady r = true then
        some (decide ((iter ++ [e.iter]).length < iterSize), iter ++ [e.iter]) else some (true, iter)) =
        some (on, iter') ∧ _
      by_cases hready : e.isReady r = true
      · rw [if_pos hready] at hrest ⊢
        have hlen : (iter ++ [e.iter]).length = iter.length + 1 := List.length_append
        refine ⟨_, _, rfl, fun hon => ⟨hsuffix, of_decide_eq_true hon, es, htodo, ?_⟩, fun hoff => ?_⟩
        · rw [hlen, List.append_assoc]
          rwa [show iterSize - (iter.length + 1) = k by omega]
        · -- the last slot is taken
          have hfull := of_decide_eq_false hoff
          rw [hlen] at hfull
          have hzero : k = 0 := by omega
          rw [hzero] at hrest
          rw [← hrest]
          cases es <;> rfl
      · rw [if_neg hready] at hrest ⊢
        refine ⟨true, iter, rfl, fun _ => ⟨hsuffix, hroom, es, htodo, ?_⟩, fun hoff => by cases hoff⟩
        rwa [hk]

/-- The loop collects what the list-level one does. -/
theorem Events.Holds.snapshot (h : c.Holds m₀ ev ps) (hn : ps.length < n) (r : Ready) :
    Mem.snapshot c n r = some (Uvcd.snapshot ev r) := by
  have hstart : c.Collecting ev r ps ps [] := ⟨⟨[], rfl⟩, by decide, ev.events, h.blocks, rfl⟩
  obtain ⟨iter, hwalk, rfl⟩ := listForEachSafe_rule (fun _ => c.links)
    (fun todo iter => c.Collecting ev r ps todo iter) (fun iter => iter = Uvcd.snapshot ev r) h.ring hn hstart
    (fun p todo iter hI => hI.turn)
    (fun todo iter hI => by
      obtain ⟨before, hps⟩ := hI.suffix
      have hring := h.ring
      rw [hps] at hring
      exact hring.path)
    (fun todo iter hI => by
      obtain ⟨before, hps⟩ := hI.suffix
      refine ⟨h.ring.live List.mem_cons_self, fun hm => (List.nodup_cons.mp h.ring.nodup).1 ?_⟩
      rw [hps]; exact List.mem_append_right _ hm)
    fun iter hI => by
      obtain ⟨es, hnil, hrest⟩ := hI.rest
      cases es with
      | nil =>
          rw [← hrest]
          cases iterSize - iter.length <;> exact (List.append_nil iter).symm
      | cons e es => cases hnil
  exact hwalk

/-! ## `events_cleanup` -/

/-- All blocks are freed: memory is what it was before the first watch. -/
theorem Events.Holds.cleanup : ∀ {n : Nat} {c : Events} {ev : Uvcd.Events} {ps : List Nat}, c.Holds m₀ ev ps →
    ps.length < n → ∃ c', eventsCleanup n c = some c' ∧ c'.list = c.list ∧ IsRing c'.links c.list [] ∧
      (∀ p, c'.block p = none) ∧ ∀ p, p ≠ c.list → c'.links.node p = m₀.node p := by
  intro n
  induction n with
  | zero => intro c ev ps _ hn; exact absurd hn (Nat.not_lt_zero _)
  | succ n ih =>
      intro c ev ps h hn
      have hempty : listEmpty c.links c.list = some (decide (ps.headD c.list = c.list)) := by
        rw [listEmpty, h.ring.next_head]; rfl
      cases ps with
      | nil =>
          refine ⟨c, ?_, rfl, h.ring, fun p => h.only p List.not_mem_nil, fun p hp => h.outside p ?_⟩
          · rw [eventsCleanup, hempty, List.headD_nil, decide_eq_true rfl]; rfl
          · exact fun hm => hp (List.mem_singleton.mp hm)
      | cons p ps =>
          have hpl : p ≠ c.list := fun heq =>
            (List.nodup_cons.mp h.ring.nodup).1 (heq ▸ List.mem_cons_self)
          obtain ⟨e, es, hes⟩ : ∃ e es, ev.events = e :: es := by
            have hb := h.blocks
            cases hev : ev.events with
            | nil => rw [hev] at hb; cases hb
            | cons e es => exact ⟨e, es, rfl⟩
          have h' : c.Holds m₀ ev ([] ++ p :: ps) := h
          have hes' : ev.events = [] ++ e :: es := hes
          obtain ⟨links, c', hrem, hfree, hlist, hholds⟩ := h'.drop hes' rfl { ev with events := es } c rfl rfl rfl
            h.done h.maxfd fun type => by rw [h.fds type]; cases type <;> rfl
          obtain ⟨c'', hclean, hlist', hring, hblock, hout⟩ := ih hholds (Nat.lt_of_succ_lt_succ hn)
          refine ⟨c'', ?_, hlist'.trans hlist, hlist ▸ hring, hblock, fun q hq => hout q (hlist ▸ hq)⟩
          rw [eventsCleanup, hempty, List.headD_cons, decide_eq_false hpl]
          show (c.links.next c.list >>= _) = _
          rw [h.ring.next_head]
          show (listRemove c.links p >>= _) = _
          rw [hrem]
          show (Events.free { c with links := links } p >>= _) = _
          rw [hfree]
          exact hclean

end Mem

end Uvcd
