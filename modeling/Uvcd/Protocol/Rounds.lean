import Uvcd.Protocol.Frames

/-!
# `Protocol.Rounds` — the messages that one round of callbacks leaves for the next

While no device comes or goes, a callback posts at most one message: a gadget one about its stream, a
capture a frame. `Streams` is what holds of such messages when gadgets have different ids; a frame is
`Fresh` until messages are handled, and what is handled before it takes its buffers away only if nobody
wants it any more (`Parting`). `Unheard` says that the object whose callback is still to come has nothing
pending, and `Ledger` relates the pending pointers to the frames posted and delivered.
-/

namespace Uvcd

open Split

variable {env : Env} {refuses : Prop} {v v' : View} {w w' : Board} {m : Message} {q : List Message}
  {gadgets : List GadgetView} {captures captures' : List CaptureView} {g g' : GadgetView}
  {c c' : CaptureView} {ev : Except Errno UvcEvent}

/-! ## Messages about streams -/

inductive Streamed : Message → Prop
  | setFmt (id : UInt32) (p : Nat) (fmt : PixFormat) : Streamed (.setFmt id p fmt)
  | streamOn (id : UInt32) : Streamed (.streamOn id)
  | streamOff (id : UInt32) : Streamed (.streamOff id)
  | frameAvailable (id : UInt32) (p : FramePtr) : Streamed (.frameAvailable id p)

/-- The gadget that reports on its stream. -/
def reporter (m : Message) : Option UInt32 :=
  match m.what with
  | .videoSetFmt | .videoStreamOn | .videoStreamOff => some m.wParam
  | _ => none

/-- The frame that is announced. -/
def announced (m : Message) : Option FramePtr :=
  match m.what, m.lParam with
  | .videoFrameAvailable, .frame p => some p
  | _, _ => none

theorem mem_reporters_streamOff {id : UInt32} (h : .streamOff id ∈ q) : id ∈ q.filterMap reporter :=
  List.mem_filterMap.mpr ⟨_, h, rfl⟩

theorem mem_announced {id : UInt32} {p : FramePtr} (h : .frameAvailable id p ∈ q) :
    p ∈ q.filterMap announced := List.mem_filterMap.mpr ⟨_, h, rfl⟩

theorem reporters_snoc {id : UInt32} (h : reporter m = some id) :
    (q ++ [m]).filterMap reporter = q.filterMap reporter ++ [id] := by
  rw [List.filterMap_append]; simp [h]

theorem reporters_frame {id : UInt32} {p : FramePtr} :
    (q ++ [Message.frameAvailable id p]).filterMap reporter = q.filterMap reporter := by
  rw [List.filterMap_append]; exact List.append_nil _

theorem announced_snoc {id : UInt32} {p : FramePtr} :
    (q ++ [Message.frameAvailable id p]).filterMap announced = q.filterMap announced ++ [p] := by
  rw [List.filterMap_append]; rfl

theorem announced_report (h : announced m = none) :
    (q ++ [m]).filterMap announced = q.filterMap announced := by
  rw [List.filterMap_append]; simp [h]

theorem Streamed.announced {p : FramePtr} (hm : Streamed m) (h : announced m = some p) :
    ∃ id, m = .frameAvailable id p := by
  cases hm with
  | setFmt | streamOn | streamOff => cases h
  | frameAvailable id p' => cases h; exact ⟨id, rfl⟩

/-! ## No frame is logged -/

/-- The counters move on; the logs of frames and what the kernel knows of `/dev` stay. -/
structure Unlogged (w w' : Board) : Prop where
  posted : w'.posted = w.posted
  delivered : w'.delivered = w.delivered
  nodes : w'.nodes = w.nodes
  records : w'.records = w.records
  watching : w'.watching = w.watching
  tick : w.tick ≤ w'.tick
  brk : w.brk ≤ w'.brk

theorem Unlogged.refl (w : Board) : Unlogged w w := ⟨rfl, rfl, rfl, rfl, rfl, Nat.le_refl _, Nat.le_refl _⟩

theorem Unlogged.trans {w'' : Board} (h : Unlogged w w') (h' : Unlogged w' w'') : Unlogged w w'' :=
  ⟨h'.posted.trans h.posted, h'.delivered.trans h.delivered, h'.nodes.trans h.nodes,
    h'.records.trans h.records, h'.watching.trans h.watching, Nat.le_trans h.tick h'.tick,
    Nat.le_trans h.brk h'.brk⟩

theorem unlogged_openFd (w : Board) (fd : Nat) : Unlogged w (w.openFd fd) :=
  ⟨rfl, rfl, rfl, rfl, rfl, Nat.le_refl _, Nat.le_refl _⟩

theorem unlogged_closeFd (w : Board) (fd : Nat) : Unlogged w (w.closeFd fd) :=
  ⟨rfl, rfl, rfl, rfl, rfl, Nat.le_refl _, Nat.le_refl _⟩

theorem unlogged_unwatch (w : Board) (fd : Nat) (type : EventType) : Unlogged w (w.unwatch fd type) :=
  ⟨rfl, rfl, rfl, rfl, rfl, Nat.le_refl _, Nat.le_refl _⟩

theorem Elapses.unlogged (h : Elapses w w') : Unlogged w w' := by
  cases h with
  | mk hb ht => exact ⟨rfl, rfl, rfl, rfl, rfl, ht, hb⟩

theorem Posts.unlogged (h : Posts env m w w') : Unlogged w w' := by
  obtain ⟨t, ht⟩ := h
  refine Unlogged.trans ?_ ht.unlogged
  unfold Board.post
  split <;> exact ⟨rfl, rfl, rfl, rfl, rfl, Nat.le_refl _, Nat.le_refl _⟩

theorem PostsAll.unlogged {ms : List Message} (h : PostsAll env ms w w') : Unlogged w w' := by
  induction h with
  | done he => exact he.unlogged
  | send hp _ ih => exact hp.unlogged.trans ih

theorem Watches.unlogged {e : EventFd} (h : Watches env e w w') : Unlogged w w' := by
  obtain ⟨t, ht⟩ := h
  refine Unlogged.trans ?_ ht.unlogged
  unfold Board.watch
  split <;> exact ⟨rfl, rfl, rfl, rfl, rfl, Nat.le_refl _, Nat.le_refl _⟩

theorem StopsGadget.unlogged (h : StopsGadget env w g w' g') : Unlogged w w' := by
  cases h with
  | idle _ he => exact he.unlogged
  | stop _ hp => exact (unlogged_unwatch w _ _).trans hp.unlogged

theorem GadgetCalls.unlogged (h : GadgetCalls env ev w g w' g') : Unlogged w w' := by
  cases h with
  | quiet he => exact he.unlogged
  | start _ hs =>
      cases hs with
      | idle he => exact he.unlogged
      | start _ hw hp => exact hw.unlogged.trans hp.unlogged
  | stop _ hs => exact hs.unlogged
  | commit _ he => exact he.unlogged
  | setFmt _ _ _ _ hp => exact hp.unlogged

theorem StartsCapture.unlogged (h : StartsCapture env w c w' c') : Unlogged w w' := by
  cases h with
  | idle he => exact he.unlogged
  | start _ _ _ _ hw => exact hw.unlogged

theorem StopsCapture.unlogged (h : StopsCapture w c w' c') : Unlogged w w' := by
  cases h with
  | idle _ he => exact he.unlogged
  | stop _ he => exact (unlogged_unwatch w _ _).trans he.unlogged

/-- Only a frame that is copied is logged by a message. -/
theorem Handles.logs (hm : Handles env refuses v m v') : Unlogged v.board v'.board ∨
    ∃ id p f size, m = .frameAvailable id p ∧ resolveView v.captures p = some (f, size) ∧
      v'.captures = v.captures ∧ v'.board = v.board.deliver f := by
  have hsame : Unlogged v.board v.board :=
  ⟨rfl, rfl, rfl, rfl, rfl, Nat.le_refl _, Nat.le_refl _⟩
  cases hm with
  | signal => exact .inl ⟨rfl, rfl, rfl, rfl, rfl, Nat.le_refl _, Nat.le_refl _⟩
  | attachFailed he => exact .inl he.unlogged
  | gadgetAttached _ _ _ _ _ _ hw hp =>
      exact .inl ((unlogged_openFd v.board _).trans (hw.unlogged.trans hp.unlogged))
  | captureAttached _ _ _ _ _ _ _ _ he => exact .inl ((unlogged_openFd v.board _).trans he.unlogged)
  | gadgetDetached _ hstop hp =>
      exact .inl (hstop.unlogged.trans
        (((unlogged_unwatch _ _ _).trans (unlogged_closeFd _ _)).trans hp.unlogged))
  | captureDetached _ _ hstop he =>
      exact .inl (hstop.unlogged.trans ((unlogged_closeFd _ _).trans he.unlogged))
  | setFmtHeld _ he => exact .inl he.unlogged
  | setFmtPaired _ _ _ he => exact .inl he.unlogged
  | setFmtUnpaired _ he => exact .inl he.unlogged
  | streamOn _ hstart => exact .inl hstart.unlogged
  | streamOff _ hstop => exact .inl hstop.unlogged
  | uvcDetached _ hstop => exact .inl hstop.unlogged
  | frameCopied _ _ hf => exact .inr ⟨_, _, _, _, rfl, hf, rfl, rfl⟩
  | detachMissed _ _ | streamOnMissed _ | streamOffMissed _ | uvcAttached | uvcDetachedMissed _
  | frameDropped _ => exact .inl (.refl _)

/-! ## The stamps of posted frames -/

/-- Frames are posted in the order in which they were dequeued, each once. -/
structure Stamped (w : Board) : Prop where
  sorted : w.posted.Pairwise fun a b => a.stamp < b.stamp
  past : ∀ f ∈ w.posted, f.stamp < w.tick

theorem Stamped.unlogged (h : Stamped w) (hu : Unlogged w w') : Stamped w' :=
  ⟨by rw [hu.posted]; exact h.sorted, fun f hf => Nat.lt_of_lt_of_le (h.past f (hu.posted ▸ hf)) hu.tick⟩

theorem CaptureCalls.stamped (hcall : CaptureCalls env w c w' c') (h : Stamped w) : Stamped w' := by
  cases hcall with
  | quiet he => exact h.unlogged he.unlogged
  | frame hf hoff haddr hstride hstamp htick hp =>
      rename_i fb fb' off t
      have hpost := hp.unlogged.posted
      unfold Board.publish at hpost
      split at hpost
      · refine ⟨?_, ?_⟩
        · rw [hpost]
          refine List.pairwise_append.mpr ⟨h.sorted, List.pairwise_singleton _ _, ?_⟩
          intro a ha b hb
          rw [List.mem_singleton.mp hb]
          show a.stamp < fb'.stamp off
          rw [hstamp]; exact h.past a ha
        · rw [hpost]
          refine forall_snoc (fun f hf' => Nat.lt_trans (h.past f hf') htick) ?_
          show fb'.stamp off < w'.tick
          rw [hstamp]; exact htick
      · exact ⟨by rw [hpost]; exact h.sorted, fun f hf' => Nat.lt_trans (h.past f (hpost ▸ hf')) htick⟩

theorem Handles.stamped (hm : Handles env refuses v m v') (h : Stamped v.board) : Stamped v'.board := by
  rcases hm.logs with hu | ⟨id, p, f, size, -, -, -, hw⟩
  · exact h.unlogged hu
  · rw [hw]; exact ⟨h.sorted, h.past⟩

/-! ## What callbacks post -/

/-- A gadget posts at most one message, about itself. -/
theorem GadgetCalls.report (h : GadgetCalls env ev w g w' g') :
    g'.id = g.id ∧ (w'.queue = w.queue ∨ ∃ m, w'.queue = w.queue ++ [m] ∧ Streamed m ∧
      reporter m = some g.id ∧ announced m = none ∧ (m = .streamOff g.id → g'.streaming = false)) := by
  have hpost : ∀ {w₁ : Board} {m : Message}, Posts env m w₁ w' → w₁.queue = w.queue → Streamed m →
      reporter m = some g.id → announced m = none → (m = .streamOff g.id → g'.streaming = false) →
      w'.queue = w.queue ∨ ∃ m, w'.queue = w.queue ++ [m] ∧ Streamed m ∧ reporter m = some g.id ∧
        announced m = none ∧ (m = .streamOff g.id → g'.streaming = false) := by
    intro w₁ m hp hq hm hr ha hoff
    rcases hp.queue with h | ⟨h, -⟩
    · exact .inr ⟨m, by rw [h, hq], hm, hr, ha, hoff⟩
    · exact .inl (h.trans hq)
  cases h with
  | quiet he => exact ⟨rfl, .inl he.queue_eq⟩
  | start _ hs =>
      cases hs with
      | idle he => exact ⟨rfl, .inl he.queue_eq⟩
      | start _ hw hp => exact ⟨rfl, hpost hp hw.queue_eq (.streamOn _) rfl rfl fun h => by cases h⟩
  | stop _ hs =>
      cases hs with
      | idle _ he => exact ⟨rfl, .inl he.queue_eq⟩
      | stop _ hp => exact ⟨rfl, hpost hp rfl (.streamOff _) rfl rfl fun _ => rfl⟩
  | commit _ he => exact ⟨rfl, .inl he.queue_eq⟩
  | setFmt _ _ _ _ hp => exact ⟨rfl, hpost hp rfl (.setFmt _ _ _) rfl rfl fun h => by cases h⟩

/-- A capture posts at most one frame, logged with it. -/
theorem CaptureCalls.frame_or (h : CaptureCalls env w c w' c') :
    (w'.queue = w.queue ∧ w'.posted = w.posted ∧ (c' = c ∨ ∃ fb fb', c.frames = some fb ∧
      fb'.addr = fb.addr ∧ fb'.stride = fb.stride ∧ c' = { c with frames := some fb' })) ∨
    ∃ fb fb' off, c.frames = some fb ∧ fb'.addr = fb.addr ∧ fb'.stride = fb.stride ∧
      (off = 0 ∨ off = fb.stride) ∧ c' = { c with frames := some fb' } ∧
      w'.queue = w.queue ++ [.frameAvailable c.gadgetId ⟨fb.addr, off⟩] ∧
      w'.posted = w.posted ++ [fb'.frameAt off] := by
  cases h with
  | quiet he => exact .inl ⟨he.queue_eq, he.unlogged.posted, .inl rfl⟩
  | frame hf hoff haddr hstride hstamp htick hp =>
      rename_i fb fb' off t
      have hq := hp.queue_eq
      have hpost := hp.unlogged.posted
      unfold Board.publish at hq hpost
      split at hq
      · next hok =>
          rw [if_pos hok] at hpost
          exact .inr ⟨fb, fb', off, hf, haddr, hstride, hoff, rfl, hq, hpost⟩
      · next hno =>
          rw [if_neg hno] at hpost
          exact .inl ⟨hq, hpost, .inr ⟨fb, fb', hf, haddr, hstride, rfl⟩⟩

/-! ## The queue between two batches -/

/-- Pending messages are about streams; each gadget reports at most once, and one that reports its end does
    not stream. -/
structure Streams (gadgets : List GadgetView) (q : List Message) : Prop where
  kinds : ∀ m ∈ q, Streamed m
  once : (q.filterMap reporter).Nodup
  known : ∀ id ∈ q.filterMap reporter, ∃ g ∈ gadgets, g.id = id
  ended : ∀ id, .streamOff id ∈ q → ∀ g ∈ gadgets, g.id = id → g.streaming = false

/-- The frames pending are still in the buffers they were posted from, for the gadget they were posted
    for. -/
def Fresh (captures : List CaptureView) (q : List Message) : Prop :=
  ∀ id p, .frameAvailable id p ∈ q →
    ∃ c ∈ captures, c.streaming = true ∧ c.holds p = true ∧ c.gadgetId = id

/-- What has the frame still is paired with the gadget it is for, or released, or paired anew with one that
    has reported all it had to. -/
def Parting (captures : List CaptureView) (q : List Message) : Prop :=
  ∀ id p, .frameAvailable id p ∈ q → ∀ c ∈ captures, c.holds p = true →
    c.gadgetId = id ∨ c.gadgetId = 0 ∨ c.gadgetId ∉ q.filterMap reporter

theorem streams_nil : Streams gadgets [] :=
  ⟨fun m hm => (by cases hm), List.nodup_nil, fun id hid => (by cases hid), fun id hid => by cases hid⟩

theorem fresh_nil : Fresh captures [] := fun id p hm => by cases hm

theorem Streams.tail (h : Streams gadgets (m :: q)) : Streams gadgets q := by
  have hsub : (q.filterMap reporter).Sublist ((m :: q).filterMap reporter) :=
    (List.sublist_cons_self m q).filterMap reporter
  exact ⟨fun x hx => h.kinds x (List.mem_cons_of_mem _ hx), h.once.sublist hsub,
    fun id hid => h.known id (hsub.subset hid), fun id hid => h.ended id (List.mem_cons_of_mem _ hid)⟩

theorem Fresh.framesHeld (h : Fresh captures q) : FramesHeld gadgets captures q := by
  intro id p hm _
  obtain ⟨c, hc, hon, hp, -⟩ := h id p hm
  exact held_iff.mpr ⟨c, hc, hon, hp⟩

/-- **A gadget's callback.** -/
theorem GadgetCalls.streams {pre post : List GadgetView} (hcall : GadgetCalls env ev w g w' g')
    (hids : ((pre ++ g :: post).map (·.id)).Nodup) (hun : g.id ∉ w.queue.filterMap reporter)
    (h : Streams (pre ++ g :: post) w.queue) : Streams (pre ++ g' :: post) w'.queue := by
  obtain ⟨hid, hq⟩ := hcall.report
  -- nobody else has the gadget's id
  have hother : ∀ x ∈ pre ++ post, x.id ≠ g.id := by
    intro x hx heq
    have hnd : (g.id :: (pre ++ post).map (·.id)).Nodup :=
      (List.perm_middle.map GadgetView.id).nodup_iff.mp hids
    exact (List.nodup_cons.mp hnd).1 (heq ▸ List.mem_map_of_mem hx)
  have hbefore : Streams (pre ++ g' :: post) w.queue := by
    refine ⟨h.kinds, h.once, fun id hmem => exists_replaced (h.known id hmem) hid.trans,
      fun id hmem => ?_⟩
    refine forall_replaced rfl (h.ended id hmem) fun heq => ?_
    -- the gadget has reported nothing yet
    exact absurd (mem_reporters_streamOff hmem) (heq ▸ hid ▸ hun)
  rcases hq with hq | ⟨m, hq, hm, hr, ha, hoff⟩
  · rw [hq]; exact hbefore
  · rw [hq]
    refine ⟨forall_snoc hbefore.kinds hm, ?_, ?_, fun id hmem x hx hxid => ?_⟩
    · rw [reporters_snoc hr]
      refine List.nodup_append.mpr ⟨h.once, List.nodup_singleton _, fun a ha' b hb => ?_⟩
      rw [List.mem_singleton.mp hb]
      exact fun heq => hun (heq ▸ ha')
    · rw [reporters_snoc hr]
      exact forall_snoc hbefore.known ⟨g', by simp, hid⟩
    · rcases List.mem_append.mp hmem with hmem | hmem
      · exact hbefore.ended id hmem x hx hxid
      · have hm' : m = .streamOff id := (List.mem_singleton.mp hmem).symm
        have hgid : id = g.id := by
          rw [hm'] at hr
          exact Option.some.inj hr
        rcases List.mem_append.mp hx with hx | hx
        · exact absurd (hxid.trans hgid) (hother x (by simp [hx]))
        · rcases List.mem_cons.mp hx with rfl | hx
          · exact hoff (hgid ▸ hm')
          · exact absurd (hxid.trans hgid) (hother x (by simp [hx]))

theorem Fresh.append_report (h : Fresh captures q) (ha : announced m = none) :
    Fresh captures (q ++ [m]) := by
  intro id p hm
  rcases List.mem_append.mp hm with hm | hm
  · exact h id p hm
  · rw [← List.mem_singleton.mp hm] at ha; cases ha

theorem GadgetCalls.fresh (hcall : GadgetCalls env ev w g w' g') (h : Fresh captures w.queue) :
    Fresh captures w'.queue := by
  obtain ⟨-, hq | ⟨m, hq, -, -, ha, -⟩⟩ := hcall.report
  · rw [hq]; exact h
  · rw [hq]; exact h.append_report ha

/-- **A capture's callback.** -/
theorem CaptureCalls.streams (hcall : CaptureCalls env w c w' c') (h : Streams gadgets w.queue) :
    Streams gadgets w'.queue := by
  rcases hcall.frame_or with ⟨hq, -⟩ | ⟨fb, fb', off, -, -, -, -, -, hq, -⟩
  · rw [hq]; exact h
  · rw [hq]
    refine ⟨forall_snoc h.kinds (.frameAvailable _ _), by rw [reporters_frame]; exact h.once,
      by rw [reporters_frame]; exact h.known, fun id hmem => ?_⟩
    rcases List.mem_append.mp hmem with hmem | hmem
    · exact h.ended id hmem
    · cases List.mem_singleton.mp hmem

theorem CaptureCalls.fresh {pre post : List CaptureView} (hcall : CaptureCalls env w c w' c')
    (hf : c.Framed) (h : Fresh (pre ++ c :: post) w.queue) : Fresh (pre ++ c' :: post) w'.queue := by
  have hold : Fresh (pre ++ c' :: post) w.queue := by
    intro id p hm
    refine exists_replaced (h id p hm) fun ⟨hon, hp, hid⟩ => ?_
    rw [hcall.same.1, hcall.same.2, hcall.holds]
    exact ⟨hon, hp, hid⟩
  rcases hcall.frame_or with ⟨hq, -⟩ | ⟨fb, fb', off, hfb, -, -, hoff, -, hq, -⟩
  · rw [hq]; exact hold
  · rw [hq]
    intro id p hm
    rcases List.mem_append.mp hm with hm | hm
    · exact hold id p hm
    · have heq := List.mem_singleton.mp hm
      have hid : id = c.gadgetId := congrArg Message.wParam heq
      have hp : p = ⟨fb.addr, off⟩ := by
        injection heq with _ _ _ heq
        injection heq
      refine ⟨c', by simp, ?_, ?_, ?_⟩
      · rw [hcall.same.2, hf, hfb]; rfl
      · rw [hcall.holds, CaptureView.holds_iff]
        exact ⟨fb, hfb, by rw [hp], by rw [hp]; exact hoff⟩
      · rw [hcall.same.1, hid]

/-! ## The batch -/

/-- A message about streams changes neither the gadgets nor the queue. -/
theorem Handles.streamed (hm : Handles env refuses v m v') (hk : Streamed m) :
    v'.gadgets = v.gadgets ∧ v'.board.queue = v.board.queue := by
  cases hm with
  | setFmtHeld _ he => exact ⟨rfl, he.queue_eq⟩
  | setFmtPaired _ _ _ he => exact ⟨rfl, he.queue_eq⟩
  | setFmtUnpaired _ he => exact ⟨rfl, he.queue_eq⟩
  | streamOn _ hstart => exact ⟨rfl, hstart.queue_eq⟩
  | streamOff _ hstop => exact ⟨rfl, hstop.queue_eq⟩
  | streamOnMissed _ | streamOffMissed _ | frameCopied _ _ _ | frameDropped _ => exact ⟨rfl, rfl⟩
  | signal | attachFailed _ | gadgetAttached _ _ _ _ _ _ _ _ | captureAttached _ _ _ _ _ _ _ _ _
  | gadgetDetached _ _ _ | captureDetached _ _ _ _ | detachMissed _ _ | uvcAttached | uvcDetached _ _
  | uvcDetachedMissed _ => cases hk

/-- The block of a capture after `m` is a new one, or that of a capture before; then the capture is paired
    as that one was, released, or paired with the gadget `m` is from. -/
def Carried (v : View) (m : Message) (c' : CaptureView) : Prop :=
  ∀ fb, c'.frames = some fb → v.board.brk ≤ fb.addr ∨ ∃ c ∈ v.captures, c.frames = some fb ∧
    (c'.gadgetId = c.gadgetId ∨ c'.gadgetId = 0 ∨ reporter m = some c'.gadgetId)

theorem Handles.blocks (hm : Handles env refuses v m v') : ∀ c' ∈ v'.captures, Carried v m c' := by
  -- a capture that is not touched, one released and one stopped carry the frames they had
  have hold : ∀ c ∈ v.captures, Carried v m c := fun c hc fb hfb => .inr ⟨c, hc, hfb, .inl rfl⟩
  have hreleased : ∀ {cs : List CaptureView} {refuses : Prop} {id : UInt32},
      Releases refuses id v.captures cs → ∀ c ∈ cs, Carried v m c := by
    intro cs refuses id hr
    cases hr with
    | none _ => exact hold
    | refused _ hs => exact forall_replaced hs.eq hold fun fb hfb => .inr ⟨_, hs.mem, hfb, .inr (.inl rfl)⟩
  have hstopped : ∀ {w : Board} {c c' : CaptureView}, StopsCapture v.board c w c' →
      ∀ fb, c'.frames = some fb → c.frames = some fb := by
    intro w c c' hstop fb hfb
    cases hstop with
    | idle _ _ => exact hfb
    | stop _ _ => cases hfb
  cases hm with
  | captureAttached _ _ _ _ hframes _ _ _ _ =>
      exact forall_snoc hold fun fb hfb => by rw [hframes] at hfb; cases hfb
  | captureDetached _ hs _ _ => exact forall_erased hs.eq hold
  | setFmtHeld hs _ => exact forall_replaced hs.eq hold fun fb hfb => .inr ⟨_, hs.mem, hfb, .inl rfl⟩
  | setFmtPaired hr hs hfree he =>
      rename_i cs pre post c w
      -- the capture paired may have been released just before
      refine forall_replaced hs (hreleased hr) fun fb hfb => ?_
      rcases hreleased hr c (by rw [hs]; simp) fb hfb with hnew | ⟨c₀, hc₀, hfb₀, -⟩
      · exact .inl hnew
      · exact .inr ⟨c₀, hc₀, hfb₀, .inr (.inr rfl)⟩
  | setFmtUnpaired hr _ => exact hreleased hr
  | streamOn hs hstart =>
      refine forall_replaced hs.eq hold fun fb hfb => ?_
      cases hstart with
      | idle _ => exact .inr ⟨_, hs.mem, hfb, .inl rfl⟩
      | start _ hfresh _ _ _ => cases hfb; exact .inl hfresh
  | streamOff hs hstop =>
      exact forall_replaced hs.eq hold fun fb hfb =>
        .inr ⟨_, hs.mem, hstopped hstop fb hfb, .inl hstop.stopped.1⟩
  | uvcDetached hs hstop =>
      exact forall_replaced hs.eq hold fun fb hfb =>
        .inr ⟨_, hs.mem, hstopped hstop fb hfb, .inr (.inl rfl)⟩
  | signal | attachFailed _ | gadgetAttached _ _ _ _ _ _ _ _ | gadgetDetached _ _ _ | detachMissed _ _
  | streamOnMissed _ | streamOffMissed _ | uvcAttached | uvcDetachedMissed _ | frameCopied _ _ _
  | frameDropped _ => exact hold

/-- Pending frames are in blocks that have been allocated. -/
def Issued (brk : Nat) (q : List Message) : Prop := ∀ p ∈ q.filterMap announced, p.addr < brk

/-- **What ends a stream spares the frames behind it**, where no gadget has the id `0`. -/
theorem Streams.spares (h : Streams gadgets (m :: q)) (h0 : ∀ g ∈ gadgets, g.id ≠ 0)
    (hpart : Parting captures (m :: q)) : ∀ x ∈ q, spares gadgets captures m x = true := by
  intro x hx
  unfold Uvcd.spares
  split
  · next p hwhat hparam =>
      obtain ⟨id, rfl⟩ := (h.kinds x (List.mem_cons_of_mem _ hx)).announced
        (show announced x = some p by simp [announced, hwhat, hparam])
      have hm := h.kinds m List.mem_cons_self
      have hdetached : detachedGadget gadgets m = none := by cases hm <;> rfl
      rw [hdetached, Bool.and_true]
      cases hm with
      | setFmt | streamOn | frameAvailable => rfl
      -- of the kinds in the pipe only the end of a stream takes frames away
      | streamOff id' =>
          have hstopped : stoppedCapture gadgets captures (.streamOff id') =
              captures.find? fun c => decide (c.gadgetId = id') := rfl
          rw [hstopped, show (Message.frameAvailable id p).wParam = id from rfl]
          split
          · next c hc =>
              have hmem := List.mem_of_find?_eq_some hc
              have hid : c.gadgetId = id' := by simpa using List.find?_some hc
              have hfrom : id' ∈ (Message.streamOff id' :: q).filterMap reporter :=
                mem_reporters_streamOff List.mem_cons_self
              cases hp : c.holds p with
              | false => rfl
              | true =>
                  rcases hpart id p (List.mem_cons_of_mem _ hx) c hmem hp with heq | heq | hno
                  · -- the gadget the frame is for has ended its stream
                    cases haim : aimed gadgets id with
                    | false => rfl
                    | true =>
                        obtain ⟨pre, g, post, hs, hon⟩ := aimed_iff.mp haim
                        have hgid : g.id = id' := hs.hit.trans (heq.symm.trans hid)
                        rw [h.ended id' List.mem_cons_self g hs.mem hgid] at hon
                        cases hon
                  · obtain ⟨g, hg, hgid⟩ := h.known id' hfrom
                    exact absurd (hgid.trans (hid.symm.trans heq)) (h0 g hg)
                  · exact absurd (hid ▸ hfrom) hno
          · rfl
  · rfl

/-- **Step lemma for a message of the batch.** -/
theorem Handles.parting (hm : Handles env refuses v m v') (hs : Streams v.gadgets (m :: v.board.queue))
    (hi : Issued v.board.brk (m :: v.board.queue)) (h : Parting v.captures (m :: v.board.queue)) :
    Parting v'.captures v'.board.queue := by
  rw [(hm.streamed (hs.kinds m List.mem_cons_self)).2]
  intro id p hq c' hc' hp
  obtain ⟨fb, hfb, haddr, hoff⟩ := CaptureView.holds_iff.mp hp
  rcases hm.blocks c' hc' fb hfb with hnew | ⟨c, hc, hfb₀, hid⟩
  · have := hi p (mem_announced (List.mem_cons_of_mem _ hq))
    omega
  · have hold := h id p (List.mem_cons_of_mem _ hq) c hc
      (CaptureView.holds_iff.mpr ⟨fb, hfb₀, haddr, hoff⟩)
    rcases hid with heq | heq | hrep
    · rw [heq]
      rcases hold with hold | hold | hno
      · exact .inl hold
      · exact .inr (.inl hold)
      · exact .inr (.inr fun hmem => hno (((List.sublist_cons_self m _).filterMap reporter).subset hmem))
    · exact .inr (.inl heq)
    · -- the gadget it is paired with now has made its one report
      have hnd := hs.once
      rw [List.filterMap_cons_some hrep] at hnd
      exact .inr (.inr (List.nodup_cons.mp hnd).1)

/-! ## Whose callback is still to come -/

/-- Nothing pending comes from the object whose callback `t` is going to be called. -/
structure Unheard (gadgets : List GadgetView) (captures : List CaptureView) (q : List Message)
    (t : EventIter) : Prop where
  gadget : t.callback = .uvcGadgetProcess → ∀ g ∈ gadgets, t.priv = .gadget g.addr →
    g.id ∉ q.filterMap reporter
  capture : t.callback = .captureProcess → ∀ c ∈ captures, t.priv = .capture c.addr →
    ∀ p ∈ q.filterMap announced, ∀ fb, c.frames = some fb → fb.addr ≠ p.addr

theorem unheard_nil (t : EventIter) : Unheard gadgets captures [] t :=
  ⟨fun _ g _ _ hmem => (by cases hmem), fun _ c _ _ p hmem => by cases hmem⟩

theorem GadgetCalls.unheard {pre post : List GadgetView} {t : EventIter}
    (hcall : GadgetCalls env ev w g w' g') (hids : ((pre ++ g :: post).map (·.id)).Nodup)
    (ht : t.callback = .uvcGadgetProcess → t.priv ≠ .gadget g.addr)
    (h : Unheard (pre ++ g :: post) captures w.queue t) :
    Unheard (pre ++ g' :: post) captures w'.queue t := by
  obtain ⟨hid, hq⟩ := hcall.report
  have haddr := hcall.brk_le.2
  have hbefore : Unheard (pre ++ g' :: post) captures w.queue t := by
    refine ⟨fun hcb => forall_replaced rfl (h.gadget hcb) fun hpriv => ?_, h.capture⟩
    exact absurd (haddr ▸ hpriv) (ht hcb)
  rcases hq with hq | ⟨m, hq, -, hr, ha, -⟩
  · rw [hq]; exact hbefore
  · rw [hq]
    refine ⟨fun hcb x hx hpriv => ?_, by rw [announced_report ha]; exact hbefore.capture⟩
    rw [reporters_snoc hr, List.mem_append, List.mem_singleton]
    rintro (hmem | heq)
    · exact hbefore.gadget hcb x hx hpriv hmem
    · -- the gadget with that id is the one called, not the one of the entry
      have hmiddle : ∀ y ∈ pre ++ post, y.id ≠ g.id := by
        intro y hy heq
        have hnd : (g.id :: (pre ++ post).map (·.id)).Nodup :=
          (List.perm_middle.map GadgetView.id).nodup_iff.mp hids
        exact (List.nodup_cons.mp hnd).1 (heq ▸ List.mem_map_of_mem hy)
      rcases List.mem_append.mp hx with hx | hx
      · exact hmiddle x (List.mem_append_left _ hx) heq
      · rcases List.mem_cons.mp hx with rfl | hx
        · exact absurd (haddr ▸ hpriv) (ht hcb)
        · exact hmiddle x (List.mem_append_right _ hx) heq

/-- The other captures have their blocks elsewhere. -/
def Apart (c : CaptureView) (others : List CaptureView) : Prop :=
  ∀ x ∈ others, ∀ fb fb', c.frames = some fb → x.frames = some fb' → fb'.addr ≠ fb.addr

theorem Housed.apart {pre post : List CaptureView} (hv : Housed v) (h : v.captures = pre ++ c :: post) :
    Apart c (pre ++ post) := by
  intro x hx fb fb' hfb hfb' heq
  have hnd := (hv.placed.perm (View.places_capture h)).nodup
  refine (List.nodup_append.mp hnd).2.2 fb.addr (by simp [CaptureView.places, hfb]) fb'.addr ?_ heq.symm
  refine List.mem_append_right _ (List.mem_flatMap.mpr ⟨x, hx, ?_⟩)
  simp [CaptureView.places, hfb']

/-- What is fresh is held by the capture it was posted by and by no other. -/
theorem Fresh.parting (h : Fresh v.captures q) (hv : Housed v) : Parting v.captures q := by
  intro id p hq c hc hp
  obtain ⟨c₀, hc₀, -, hp₀, hid⟩ := h id p hq
  obtain ⟨pre, post, heq⟩ := List.append_of_mem hc₀
  rw [heq] at hc
  obtain ⟨fb, hfb, haddr, -⟩ := CaptureView.holds_iff.mp hp
  obtain ⟨fb₀, hfb₀, haddr₀, -⟩ := CaptureView.holds_iff.mp hp₀
  have hother : ∀ x ∈ pre ++ post, x ≠ c := by
    rintro x hx rfl
    exact hv.apart heq x hx fb₀ fb hfb₀ hfb (haddr.trans haddr₀.symm)
  rcases List.mem_append.mp hc with hc | hc
  · exact absurd rfl (hother c (List.mem_append_left _ hc))
  · rcases List.mem_cons.mp hc with rfl | hc
    · exact .inl hid
    · exact absurd rfl (hother c (List.mem_append_right _ hc))

theorem CaptureCalls.unheard {pre post : List CaptureView} {t : EventIter}
    (hcall : CaptureCalls env w c w' c') (hapart : Apart c (pre ++ post)) (haddr : c'.addr = c.addr)
    (ht : t.callback = .captureProcess → t.priv ≠ .capture c.addr)
    (h : Unheard gadgets (pre ++ c :: post) w.queue t) :
    Unheard gadgets (pre ++ c' :: post) w'.queue t := by
  have hbefore : Unheard gadgets (pre ++ c' :: post) w.queue t := by
    refine ⟨h.gadget, fun hcb => forall_replaced rfl (h.capture hcb) fun hpriv => ?_⟩
    exact absurd (haddr ▸ hpriv) (ht hcb)
  rcases hcall.frame_or with ⟨hq, -⟩ | ⟨fb, fb', off, hfb, -, -, -, -, hq, -⟩
  · rw [hq]; exact hbefore
  · rw [hq]
    refine ⟨by rw [reporters_frame]; exact hbefore.gadget, fun hcb x hx hpriv => ?_⟩
    rw [announced_snoc]
    refine forall_snoc (hbefore.capture hcb x hx hpriv) fun fbx hfbx => ?_
    rcases List.mem_append.mp hx with hx | hx
    · exact hapart x (List.mem_append_left _ hx) fb fbx hfb hfbx
    · rcases List.mem_cons.mp hx with rfl | hx
      · exact absurd (haddr ▸ hpriv) (ht hcb)
      · exact hapart x (List.mem_append_right _ hx) fb fbx hfb hfbx

/-! ## The ledger of frames -/

/-- What the pointer still leads to, if to anything, is the frame `f`. -/
def Shows (captures : List CaptureView) (p : FramePtr) (f : Frame) : Prop :=
  ∀ c ∈ captures, ∀ fb, c.frames = some fb → fb.addr = p.addr → fb.frameAt p.off = f

/-- Of the frames posted since `posted`, those of the pending messages are the last ones, in order, and some
    of the others have been delivered since `delivered`, in order. -/
def Ledger (posted delivered : List Frame) (captures : List CaptureView) (q : List Message) (w : Board) :
    Prop :=
  ∃ done due fr, w.posted = posted ++ (done ++ due) ∧ w.delivered = delivered ++ fr ∧
    fr.Sublist done ∧ List.Forall₂ (Shows captures) (q.filterMap announced) due

theorem Ledger.unlogged {posted delivered : List Frame} (h : Ledger posted delivered captures q w)
    (hu : Unlogged w w')
    (hshow : ∀ p ∈ q.filterMap announced, ∀ f, Shows captures p f → Shows captures' p f) :
    Ledger posted delivered captures' q w' := by
  obtain ⟨done, due, fr, hp, hd, hfr, hdue⟩ := h
  refine ⟨done, due, fr, by rw [hu.posted, hp], by rw [hu.delivered, hd], hfr, ?_⟩
  rw [List.forall₂_iff_zip] at hdue ⊢
  exact ⟨hdue.1, fun hmem => hshow _ (List.of_mem_zip hmem).1 _ (hdue.2 hmem)⟩

theorem GadgetCalls.ledger {posted delivered : List Frame} (hcall : GadgetCalls env ev w g w' g')
    (h : Ledger posted delivered captures w.queue w) : Ledger posted delivered captures w'.queue w' := by
  have hq : w'.queue.filterMap announced = w.queue.filterMap announced := by
    obtain ⟨-, hq | ⟨m, hq, -, -, ha, -⟩⟩ := hcall.report
    · rw [hq]
    · rw [hq, announced_report ha]
  unfold Ledger
  rw [hq]
  exact h.unlogged hcall.unlogged fun p _ f hf => hf

theorem CaptureCalls.delivered_eq (h : CaptureCalls env w c w' c') : w'.delivered = w.delivered := by
  cases h with
  | quiet he => exact he.unlogged.delivered
  | frame hf hoff haddr hstride hstamp htick hp =>
      rw [hp.unlogged.delivered]
      unfold Board.publish
      split <;> rfl

theorem CaptureCalls.records_eq (h : CaptureCalls env w c w' c') : w'.records = w.records := by
  cases h with
  | quiet he => exact he.unlogged.records
  | frame hf hoff haddr hstride hstamp htick hp =>
      rw [hp.unlogged.records]
      unfold Board.publish
      split <;> rfl

theorem CaptureCalls.addr_eq (h : CaptureCalls env w c w' c') : c'.addr = c.addr := by
  cases h <;> rfl

/-- **A capture's callback**, none of its frames pending. -/
theorem CaptureCalls.ledger {posted delivered : List Frame} {pre post : List CaptureView}
    (hcall : CaptureCalls env w c w' c') (hapart : Apart c (pre ++ post))
    (hun : ∀ p ∈ w.queue.filterMap announced, ∀ fb, c.frames = some fb → fb.addr ≠ p.addr)
    (h : Ledger posted delivered (pre ++ c :: post) w.queue w) :
    Ledger posted delivered (pre ++ c' :: post) w'.queue w' := by
  obtain ⟨done, due, fr, hp, hd, hfr, hdue⟩ := h
  have hkeep : ∀ {fb fb' : FrameBufs}, c.frames = some fb → fb'.addr = fb.addr →
      List.Forall₂ (Shows (pre ++ { c with frames := some fb' } :: post))
        (w.queue.filterMap announced) due := by
    intro fb fb' hfb haddr
    rw [List.forall₂_iff_zip] at hdue ⊢
    refine ⟨hdue.1, fun hmem => forall_replaced rfl (hdue.2 hmem) fun fb₁ hfb₁ heq => ?_⟩
    cases hfb₁
    exact absurd (haddr ▸ heq) (hun _ (List.of_mem_zip hmem).1 fb hfb)
  rcases hcall.frame_or with ⟨hq, hposted, rfl | ⟨fb, fb', hfb, haddr, -, rfl⟩⟩ |
    ⟨fb, fb', off, hfb, haddr, -, -, rfl, hq, hposted⟩
  · exact ⟨done, due, fr, hposted.trans hp, hcall.delivered_eq.trans hd, hfr, by rw [hq]; exact hdue⟩
  · exact ⟨done, due, fr, hposted.trans hp, hcall.delivered_eq.trans hd, hfr, by
      rw [hq]; exact hkeep hfb haddr⟩
  · refine ⟨done, due ++ [fb'.frameAt off], fr, ?_, hcall.delivered_eq.trans hd, hfr, ?_⟩
    · rw [hposted, hp, List.append_assoc, List.append_assoc]
    · rw [hq, announced_snoc]
      refine List.rel_append (hkeep hfb haddr) (.cons ?_ .nil)
      -- the pointer leads into the capture's own block only
      intro x hx fb₁ hfb₁ heq
      rcases List.mem_append.mp hx with hx | hx
      · exact absurd heq (hapart x (List.mem_append_left _ hx) fb fb₁ hfb hfb₁)
      · rcases List.mem_cons.mp hx with rfl | hx
        · cases hfb₁; rfl
        · exact absurd heq (hapart x (List.mem_append_right _ hx) fb fb₁ hfb hfb₁)

/-- **A message of the batch.** A frame that is copied is the one its message was posted with. -/
theorem Handles.ledger {posted delivered : List Frame} (hm : Handles env refuses v m v')
    (hk : Streamed m) (hi : Issued v.board.brk (m :: v.board.queue))
    (h : Ledger posted delivered v.captures (m :: v.board.queue) v.board) :
    Ledger posted delivered v'.captures v'.board.queue v'.board := by
  have hq := (hm.streamed hk).2
  have hshow : ∀ p ∈ v.board.queue.filterMap announced, ∀ f, Shows v.captures p f → Shows v'.captures p f := by
    intro p hp f hf c' hc' fb hfb haddr
    have hlt : p.addr < v.board.brk :=
      hi p (((List.sublist_cons_self m _).filterMap announced).subset hp)
    rcases hm.blocks c' hc' fb hfb with hnew | ⟨c, hc, hfb₀, -⟩
    · omega
    · exact hf c hc fb hfb₀ haddr
  rw [hq]
  cases ha : announced m with
  | none =>
      unfold Ledger at h
      rw [List.filterMap_cons_none ha] at h
      rcases hm.logs with hu | ⟨id, p, f, size, rfl, -⟩
      · exact Ledger.unlogged h hu hshow
      · cases ha
  | some p =>
      obtain ⟨done, due, fr, hp, hd, hfr, hdue⟩ := h
      rw [List.filterMap_cons_some ha] at hdue
      cases hdue with
      | cons hf hdue =>
          rename_i f due
          have hrest : List.Forall₂ (Shows v'.captures) (v.board.queue.filterMap announced) due := by
            rw [List.forall₂_iff_zip] at hdue ⊢
            exact ⟨hdue.1, fun hmem => hshow _ (List.of_mem_zip hmem).1 _ (hdue.2 hmem)⟩
          have hsplit : posted ++ (done ++ f :: due) = posted ++ ((done ++ [f]) ++ due) := by simp
          rcases hm.logs with hu | ⟨id, p', f', size, rfl, hres, -, hw⟩
          · exact ⟨done ++ [f], due, fr, by rw [hu.posted, hp, hsplit], by rw [hu.delivered, hd],
              hfr.trans (List.sublist_append_left _ _), hrest⟩
          · cases ha
            obtain ⟨c, hc, hcf⟩ := List.exists_of_findSome?_eq_some hres
            obtain ⟨fb, hfb, hif⟩ := Option.bind_eq_some_iff.mp hcf
            split at hif
            · next haddr =>
                cases hif
                have hsame : fb.frameAt p.off = f := hf c hc fb hfb haddr
                refine ⟨done ++ [f], due, fr ++ [f], ?_, ?_, hfr.append (List.Sublist.refl _), hrest⟩
                · rw [hw]; exact hp.trans hsplit
                · rw [hw, ← hsame]
                  show v.board.delivered ++ _ = _
                  rw [hd, List.append_assoc]
            · cases hif

/-! ## Pointers to blocks that have been allocated -/

theorem Issued.mono {brk brk' : Nat} (h : Issued brk q) (hle : brk ≤ brk') : Issued brk' q :=
  fun p hp => Nat.lt_of_lt_of_le (h p hp) hle

theorem GadgetCalls.issued (hcall : GadgetCalls env ev w g w' g') (h : Issued w.brk w.queue) :
    Issued w'.brk w'.queue := by
  refine Issued.mono ?_ hcall.unlogged.brk
  obtain ⟨-, hq | ⟨m, hq, -, -, ha, -⟩⟩ := hcall.report
  · rw [hq]; exact h
  · unfold Issued
    rw [hq, announced_report ha]
    exact h

theorem CaptureCalls.issued {pre post : List CaptureView} (hcall : CaptureCalls env w c w' c')
    (hv : Housed v) (hc : v.captures = pre ++ c :: post) (hw : v.board = w) (h : Issued w.brk w.queue) :
    Issued w'.brk w'.queue := by
  have hbrk : w.brk ≤ w'.brk := by
    cases hcall with
    | quiet he => exact he.brk_le
    | frame hf hoff haddr hstride hstamp htick hp =>
        have hle := hp.brk_le
        unfold Board.publish at hle
        split at hle <;> exact hle
  refine Issued.mono ?_ hbrk
  rcases hcall.frame_or with ⟨hq, -⟩ | ⟨fb, fb', off, hfb, -, -, -, -, hq, -⟩
  · rw [hq]; exact h
  · unfold Issued
    rw [hq, announced_snoc]
    refine forall_snoc h ?_
    show fb.addr < w.brk
    rw [← hw]
    refine hv.placed.lt _ (List.mem_append_right _ (List.mem_flatMap.mpr ⟨c, by rw [hc]; simp, ?_⟩))
    simp [CaptureView.places, hfb]

theorem Handles.issued (hm : Handles env refuses v m v') (hk : Streamed m)
    (h : Issued v.board.brk (m :: v.board.queue)) : Issued v'.board.brk v'.board.queue := by
  have hbrk : v.board.brk ≤ v'.board.brk := by
    rcases hm.logs with hu | ⟨_, _, _, _, -, -, -, hw⟩
    · exact hu.brk
    · rw [hw]; exact Nat.le_refl _
  rw [(hm.streamed hk).2]
  exact Issued.mono (fun p hp => h p (((List.sublist_cons_self m _).filterMap announced).subset hp)) hbrk

end Uvcd
