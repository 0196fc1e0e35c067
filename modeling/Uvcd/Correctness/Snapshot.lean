import Uvcd.Protocol.WatchList

/-!
# `Correctness.Snapshot` — the dispatch snapshot against the direct walk of the watch list

`events_dispatch` first collects the ready watches into an array of ten and then calls their callbacks; the walk it
replaced (`eventsDispatchDirect`) called them as it went. When no callback changes the list, both call ready watches
in registration order up to one that stops the loop, but the snapshot is cut off after ten: `dispatch_calls` says
what is called, and when that is what the direct walk would have called.
-/

namespace Uvcd

variable {σ : Type} {events : σ → Events} {call : EventIter → σ → σ} {r : Ready} {s : σ}

/-- The watches that are ready, in registration order. -/
def ready (ev : Events) (r : Ready) : List EventIter := (ev.events.filter (·.isReady r)).map EventFd.iter

/-- One of these callbacks stops the loop, called in order from `s` on. -/
def Stops (events : σ → Events) (call : EventIter → σ → σ) : List EventIter → σ → Prop
  | [], _ => False
  | t :: ts, s => (events (call t s)).done = true ∨ Stops events call ts (call t s)

/-! ## Calling callbacks in order -/

/-- All are called when none stops the loop. -/
theorem callAll_all {ts : List EventIter} (h : ¬Stops events call ts s) : (callAll events call ts s).1 = ts := by
  induction ts generalizing s with
  | nil => rfl
  | cons t ts ih =>
      rw [Stops, not_or] at h
      rw [callAll]
      dsimp only
      rw [if_neg h.1]
      dsimp only
      rw [ih h.2]

/-- Those up to and including the first that stops the loop are called. -/
theorem callAll_stop {ts : List EventIter} {t : EventIter} {rest : List EventIter} (h : ¬Stops events call ts s)
    (hstop : (events (call t (callAll events call ts s).2)).done = true) :
    (callAll events call (ts ++ t :: rest) s).1 = ts ++ [t] := by
  induction ts generalizing s with
  | nil =>
      rw [List.nil_append, callAll]
      dsimp only
      rw [if_pos (by exact hstop)]
      rfl
  | cons u ts ih =>
      rw [Stops, not_or] at h
      rw [callAll] at hstop
      dsimp only at hstop
      rw [if_neg h.1] at hstop
      rw [List.cons_append, callAll]
      dsimp only
      rw [if_neg h.1]
      dsimp only
      rw [ih h.2 hstop]
      rfl

/-- More callbacks behind one that stops the loop are not called. -/
theorem callAll_append_of_stops {ts : List EventIter} (rest : List EventIter) (h : Stops events call ts s) :
    callAll events call (ts ++ rest) s = callAll events call ts s := by
  induction ts generalizing s with
  | nil => exact h.elim
  | cons t ts ih =>
      rw [List.cons_append, callAll, callAll]
      dsimp only
      by_cases hdone : (events (call t s)).done = true
      · rw [if_pos hdone, if_pos hdone]
      · rw [if_neg hdone, if_neg hdone, ih (h.resolve_left hdone)]

/-- Called after others, when none of these stops the loop. -/
theorem callAll_append {ts : List EventIter} (rest : List EventIter) (h : ¬Stops events call ts s) :
    (callAll events call (ts ++ rest) s).1 = ts ++ (callAll events call rest (callAll events call ts s).2).1 := by
  induction ts generalizing s with
  | nil => rfl
  | cons t ts ih =>
      rw [Stops, not_or] at h
      rw [List.cons_append, callAll, callAll]
      dsimp only
      rw [if_neg h.1, if_neg h.1]
      dsimp only
      rw [ih h.2]
      rfl

/-- A round cut short calls the first of those the whole one would call. -/
theorem callAll_take (n : Nat) (ts : List EventIter) (s : σ) :
    (callAll events call (ts.take n) s).1 = (callAll events call ts s).1.take n := by
  induction ts generalizing n s with
  | nil => rw [List.take_nil]; exact List.take_nil.symm
  | cons t ts ih =>
      cases n with
      | zero => rfl
      | succ n =>
          rw [List.take_succ_cons, callAll, callAll]
          dsimp only
          by_cases hdone : (events (call t s)).done = true
          · rw [if_pos hdone, if_pos hdone]
            exact (List.take_of_length_le (by simp)).symm
          · rw [if_neg hdone, if_neg hdone]
            dsimp only
            rw [ih, List.take_succ_cons]

/-- The first callback of a round is always called. -/
theorem callAll_ne_nil {ts : List EventIter} (hne : ts ≠ []) (s : σ) : (callAll events call ts s).1 ≠ [] := by
  cases ts with
  | nil => exact absurd rfl hne
  | cons t ts =>
      rw [callAll]
      dsimp only
      split <;> simp

/-! ## The direct walk -/

/-- **The direct walk calls the ready watches in order**, when no callback changes the list. -/
theorem eventsWalk_eq (hkeep : ∀ t s, (events (call t s)).events = (events s).events) {es : List EventFd} :
    ∀ {i : Nat} {s : σ}, (events s).done = false → (events s).events.drop i = es →
      eventsWalk events call r i es.length s = callAll events call ((es.filter (·.isReady r)).map EventFd.iter) s := by
  induction es with
  | nil => intro i s _ _; rfl
  | cons e es ih =>
      intro i s hgo hes
      have hat : (events s).events[i]? = some e := by
        rw [← List.head?_drop, hes]
        rfl
      have hnext : (events s).events.drop (i + 1) = es := by
        rw [← List.drop_drop, hes]
        rfl
      rw [List.length_cons, eventsWalk, hat]
      dsimp only
      by_cases hr : e.isReady r = true
      · have hfilter : (e :: es).filter (·.isReady r) = e :: es.filter (·.isReady r) := List.filter_cons_of_pos hr
        rw [if_pos hr, hfilter, List.map_cons, callAll]
        dsimp only
        by_cases hdone : (events (call e.iter s)).done = true
        · rw [if_pos hdone, if_pos hdone]
        · rw [if_neg hdone, if_neg hdone]
          rw [ih (Bool.eq_false_iff.mpr hdone) (by rw [hkeep]; exact hnext)]
          rfl
      · have hfilter : (e :: es).filter (·.isReady r) = es.filter (·.isReady r) := List.filter_cons_of_neg hr
        rw [if_neg hr, hfilter]
        dsimp only
        rw [if_neg (by rw [hgo]; decide), ih hgo hnext]
        rfl

theorem eventsDispatchDirect_eq (hkeep : ∀ t s, (events (call t s)).events = (events s).events)
    (hgo : (events s).done = false) :
    eventsDispatchDirect events call r s = callAll events call (ready (events s) r) s :=
  eventsWalk_eq hkeep hgo (List.drop_zero)

/-! ## The snapshot -/

/-- The snapshot is the first ten of the ready watches. -/
theorem snapshot_ready (ev : Events) (r : Ready) : snapshot ev r = (ready ev r).take iterSize := by
  rw [snapshot_eq, ready, List.map_take]

/-- A round cut short calls what the whole one would when nothing is cut off, or nothing cut off would be called. -/
theorem callAll_take_iff (n : Nat) (ts : List EventIter) (s : σ) :
    (callAll events call (ts.take n) s).1 = (callAll events call ts s).1 ↔
      ts.length ≤ n ∨ Stops events call (ts.take n) s := by
  by_cases hlen : ts.length ≤ n
  · rw [List.take_of_length_le hlen]
    exact iff_of_true rfl (.inl hlen)
  · have hrest : ts.drop n ≠ [] := fun h => hlen (List.drop_eq_nil_iff.mp h)
    by_cases hstop : Stops events call (ts.take n) s
    · have hsame := callAll_append_of_stops (ts.drop n) hstop
      rw [List.take_append_drop] at hsame
      rw [hsame]
      exact iff_of_true rfl (.inr hstop)
    · have hmore := callAll_append (ts.drop n) hstop
      rw [List.take_append_drop] at hmore
      rw [hmore, callAll_all hstop]
      refine iff_of_false (fun h => ?_) (not_or.mpr ⟨hlen, hstop⟩)
      -- at least one more callback is called
      exact callAll_ne_nil hrest _ (List.self_eq_append_right.mp h)

/-- **What a round calls.** With callbacks that leave the watch list alone, the direct walk calls every ready watch
    once, in registration order, up to and including one that stops the loop. The snapshot calls the first ten
    of these, which is all of them exactly when at most ten are ready or one of the first ten stops the loop. -/
theorem dispatch_calls (hkeep : ∀ t s, (events (call t s)).events = (events s).events)
    (hgo : (events s).done = false) (r : Ready) :
    (¬Stops events call (ready (events s) r) s →
      (eventsDispatchDirect events call r s).1 = ready (events s) r) ∧
    (∀ ts t rest, ready (events s) r = ts ++ t :: rest → ¬Stops events call ts s →
      (events (call t (callAll events call ts s).2)).done = true →
        (eventsDispatchDirect events call r s).1 = ts ++ [t]) ∧
    (eventsDispatch events call r s).1 = (eventsDispatchDirect events call r s).1.take iterSize ∧
    ((eventsDispatch events call r s).1 = (eventsDispatchDirect events call r s).1 ↔
      (ready (events s) r).length ≤ iterSize ∨ Stops events call ((ready (events s) r).take iterSize) s) := by
  have hdispatch : eventsDispatch events call r s
      = callAll events call ((ready (events s) r).take iterSize) s := by
    rw [eventsDispatch, snapshot_ready]
  rw [hdispatch, eventsDispatchDirect_eq hkeep hgo]
  refine ⟨callAll_all, fun ts t rest heq hstop hdone => ?_, callAll_take iterSize _ s, callAll_take_iff iterSize _ s⟩
  rw [heq]
  exact callAll_stop hstop hdone

/-- `n` watches for reading, on descriptors from `0` on, and a round in which all are ready. -/
def watches (n : Nat) : Events :=
  { eventsInit with events := (List.range n).map fun fd => ⟨fd, .read, .captureProcess, .capture fd⟩ }
def allReady : Ready := ⟨fun _ => true, fun _ => false, fun _ => false⟩

/-- Ten watches are all called. -/
theorem dispatch_calls_ten :
    (eventsDispatch id (fun _ s => s) allReady (watches 10)).1
      = (eventsDispatchDirect id (fun _ s => s) allReady (watches 10)).1 :=
  (@dispatch_calls Events id (fun _ s => s) (watches 10) (fun _ _ => rfl) rfl allReady).2.2.2.mpr (.inl (by decide))

/-- **The eleventh is not called**, though no callback changes the list or stops the loop. -/
theorem eleventh_dropped :
    (eventsDispatchDirect id (fun _ s => s) allReady (watches 11)).1 = ready (watches 11) allReady ∧
      (eventsDispatch id (fun _ s => s) allReady (watches 11)).1 ≠ ready (watches 11) allReady := by
  decide

end Uvcd
