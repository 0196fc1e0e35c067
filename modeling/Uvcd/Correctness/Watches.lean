import Uvcd.Lib.Machine
import Uvcd.Refinement.Watches

/-!
# `Correctness.Watches` — `events.c` in memory refines the watch list

`watches_in_memory`: over any run of calls of `events.c`, the blocks and links in memory stand for the watch list
that `Model.Events` keeps by value, every `events_dispatch` collects the same callbacks, and `events_cleanup` gives
back every block: memory is as it was before `events_init`.
-/

namespace Uvcd

namespace Mem

open Ring Machine

/-- The call on the watch list. -/
def EventsCall.act (call : EventsCall) (ev : Uvcd.Events) : Uvcd.Events :=
  match call with
  | .watch none _ _ _ _ _ => ev
  | .watch (some _) _ fd type callback priv => Uvcd.eventsWatchFd ev fd type callback priv
  | .unwatch fd type => Uvcd.eventsUnwatchFd ev fd type
  | .stop => Uvcd.eventsStop ev

/-- `malloc` does not return a block that is in use. -/
def EventsCall.Fresh (call : EventsCall) (c : Events) : Prop :=
  match call with
  | .watch (some event) _ _ _ _ _ => ¬c.links.Live event
  | _ => True

instance EventsCall.decideFresh (c : Events) : ∀ call : EventsCall, Decidable (call.Fresh c)
  | .watch (some event) _ _ _ _ _ => inferInstanceAs (Decidable ¬(c.links.node event).isSome = true)
  | .watch none _ _ _ _ _ | .unwatch _ _ | .stop => .isTrue trivial

def callStep (n : Nat) (call : EventsCall) (c : Events) : Except Fault Events := deref (call.apply n c)

variable {m₀ : Heap Nat} {c : Events} {ev : Uvcd.Events} {ps : List Nat} {n : Nat} {call : EventsCall}

theorem Events.Holds.step (h : c.Holds m₀ ev ps) (hn : ps.length < n) (hf : call.Fresh c) :
    ∃ c' ps', call.apply n c = some c' ∧ c'.list = c.list ∧ ps'.length ≤ ps.length + 1 ∧
      c'.Holds m₀ (call.act ev) ps' := by
  cases call with
  | watch event left fd type callback priv =>
      cases event with
      | none => exact ⟨c, ps, rfl, rfl, Nat.le_succ _, h⟩
      | some p =>
          have hnone : c.links.node p = none := by
            cases he : c.links.node p with
            | none => rfl
            | some e => exact absurd (show (c.links.node p).isSome = true by rw [he]; rfl) hf
          obtain ⟨c', hc', hlist, hholds⟩ := h.watch hnone left fd type callback priv
          exact ⟨c', ps ++ [p], hc', hlist, List.length_append.le, hholds⟩
  | unwatch fd type =>
      obtain ⟨c', ps', hc', hlist, hlen, hholds⟩ := h.unwatch hn fd type
      exact ⟨c', ps', hc', hlist, Nat.le_succ_of_le hlen, hholds⟩
  | stop =>
      exact ⟨eventsStop c, ps, rfl, rfl, Nat.le_succ _, h.ring, h.blocks, h.only, h.outside, h.fresh, rfl, h.maxfd,
        fun type => by rw [show (eventsStop c).fds = c.fds from rfl, h.fds]; cases type <;> rfl⟩

theorem Events.Holds.run : ∀ {cs : List EventsCall} {c : Events} {ev : Uvcd.Events} {ps : List Nat},
    c.Holds m₀ ev ps → ps.length + cs.length < n → Along (callStep n) EventsCall.Fresh cs c →
      ∃ c' ps', Machine.run (callStep n) cs c = .ok c' ∧ c'.list = c.list ∧ ps'.length < n ∧
        c'.Holds m₀ (cs.foldl (fun ev call => call.act ev) ev) ps' := by
  intro cs
  induction cs with
  | nil => intro c ev ps h hn _; exact ⟨c, ps, rfl, rfl, hn, h⟩
  | cons call cs ih =>
      intro c ev ps h hn hC
      rw [List.length_cons] at hn
      obtain ⟨c', ps', hc', hlist, hlen, hholds⟩ := h.step (show ps.length < n by omega) hC.1
      have hst : callStep n call c = .ok c' := by rw [callStep, hc']; rfl
      obtain ⟨c'', ps'', hrun, hlist', hlen', hholds'⟩ := ih hholds (by omega) (hC.2 c' hst)
      exact ⟨c'', ps'', run_cons_ok.mpr ⟨c', hst, hrun⟩, hlist'.trans hlist, hlen', hholds'⟩

/-- **`events.c` keeps the watch list it is meant to keep.** From `events_init` on, any run of calls that gets fresh
    blocks from `malloc`, or none, touches live memory only, and its walks end. It leaves the watch list of
    `Model.Events`, linked in order in the blocks allocated and not freed; no other list in memory is touched.
    `events_dispatch` collects the callbacks of that list, and `events_cleanup` leaves memory as it was found. -/
theorem watches_in_memory {list : Nat} {cs : List EventsCall} (hlive : m₀.Live list) (hn : cs.length < n)
    (hC : ∀ c₀, eventsInit m₀ list = some c₀ → Along (callStep n) EventsCall.Fresh cs c₀) :
    ∃ c₀ c ps, eventsInit m₀ list = some c₀ ∧ Machine.run (callStep n) cs c₀ = .ok c ∧ c.list = list ∧
      c.Holds m₀ (cs.foldl (fun ev call => call.act ev) Uvcd.eventsInit) ps ∧
      (∀ h l, IsRing m₀ h l → list ∉ h :: l → IsRing c.links h l) ∧
      (∀ r, snapshot c n r = some (Uvcd.snapshot (cs.foldl (fun ev call => call.act ev) Uvcd.eventsInit) r)) ∧
      ∃ c', eventsCleanup n c = some c' ∧ listEmpty c'.links list = some true ∧ (∀ p, c'.block p = none) ∧
        ∀ p, p ≠ list → c'.links.node p = m₀.node p := by
  obtain ⟨c₀, hinit, hlist₀, hholds₀⟩ := Events.Holds.init hlive
  obtain ⟨c, ps, hrun, hlist, hlen, hholds⟩ := hholds₀.run (by rw [List.length_nil]; omega) (hC c₀ hinit)
  have hlist := hlist.trans hlist₀
  obtain ⟨c', hclean, hlist', hring, hblock, hout⟩ := hholds.cleanup hlen
  refine ⟨c₀, c, ps, hinit, hrun, hlist, hholds, fun h l hr hn => hr.frame fun p hp => ?_,
    fun r => hholds.snapshot hlen r, c', hclean, ?_, hblock, fun p hp => hout p (hlist ▸ hp)⟩
  · refine hholds.outside p fun hm => ?_
    rcases List.mem_cons.mp hm with heq | hm
    · exact hn (hlist ▸ heq ▸ hp)
    · -- a block was not live when `events_init` was called
      have hlive := hr.live hp
      unfold Heap.Live at hlive
      rw [hholds.fresh p hm] at hlive
      cases hlive
  · rw [listEmpty, ← hlist, hring.next_head]
    exact congrArg some (decide_eq_true rfl)

/-- A watch, a second one whose allocation fails, a third, and the first one taken off again. -/
def someCalls : List EventsCall :=
  let left : Links Nat := ⟨9, 9⟩
  [.watch (some 7) left 3 .read .looperProcess .looper, .watch none left 4 .write .uvcVideoProcess (.gadget 0),
    .watch (some 8) left 5 .exception .uvcGadgetProcess (.gadget 0), .unwatch 3 .read, .unwatch 3 .read,
    .watch (some 7) left 6 .read .hotplugProcess .looper, .stop]

theorem watches_in_memory_some :
    ∃ c₀ c, eventsInit ⟨fun p => if p = 0 then some ⟨0, 0⟩ else none⟩ 0 = some c₀ ∧
      Machine.run (callStep 8) someCalls c₀ = .ok c ∧
      snapshot c 8 ⟨fun _ => true, fun _ => true, fun _ => true⟩ =
        some [⟨5, .uvcGadgetProcess, .gadget 0⟩, ⟨6, .hotplugProcess, .looper⟩] := by
  have hfresh : ∀ c₀, eventsInit ⟨fun p => if p = 0 then some ⟨0, 0⟩ else none⟩ 0 = some c₀ →
      Along (callStep 8) EventsCall.Fresh someCalls c₀ := by
    intro c₀ h
    have hc₀ := Option.some.inj h
    subst hc₀
    decide
  obtain ⟨c₀, c, ps, hinit, hrun, -, -, -, hsnap, -⟩ :=
    watches_in_memory (show Heap.Live ⟨fun p => if p = 0 then some ⟨0, 0⟩ else none⟩ 0 from rfl)
      (show someCalls.length < 8 by decide) hfresh
  exact ⟨c₀, c, hinit, hrun, (hsnap _).trans (by decide)⟩

end Mem

end Uvcd
