import Uvcd.Protocol.Pairing
import Uvcd.Protocol.Places

/-!
# `Protocol.Frames` — the pointers that `MSG_VIDEO_FRAME_AVAILABLE` carries

A frame message borrows a pointer into the block of a capture. It is **aimed** while the first gadget with
its id streams, since only then is anything copied, and **held** while a streaming capture still has the
block. `FramesHeld` says that what is aimed is held; `Spares` is what a message must not do for that to
stay so.
-/

namespace Uvcd

open Split

variable {env : Env} {refuses : Prop} {v v' : View} {m : Message} {q ms : List Message}
  {gadgets : List GadgetView} {captures captures' : List CaptureView}

/-! ## Which objects a message detaches or stops -/

theorem detachedGadget_splits {p : Nat} {name : DevName} {pre post : List GadgetView} {g : GadgetView}
    (hs : SplitsAt (·.name = name) gadgets pre g post) :
    detachedGadget gadgets (.hotplugDetached p name) = some g := hs.find_eq

theorem detachedGadget_missed {p : Nat} {name : DevName} (hg : ∀ g ∈ gadgets, g.name ≠ name) :
    detachedGadget gadgets (.hotplugDetached p name) = none := find_none hg

theorem stoppedCapture_named {p : Nat} {name : DevName} {pre post : List CaptureView} {c : CaptureView}
    (hg : ∀ g ∈ gadgets, g.name ≠ name) (hs : SplitsAt (·.name = name) captures pre c post) :
    stoppedCapture gadgets captures (.hotplugDetached p name) = some c := by
  simp only [stoppedCapture, Message.hotplugDetached, find_none hg, hs.find_eq]
  rfl

theorem stoppedCapture_holder {id : UInt32} {pre post : List CaptureView} {c : CaptureView}
    (hs : SplitsAt (·.gadgetId = id) captures pre c post)
    (hm : m ∈ [Message.streamOff id, .uvcDetached id]) : stoppedCapture gadgets captures m = some c := by
  simp only [List.mem_cons, List.not_mem_nil, or_false] at hm
  rcases hm with rfl | rfl <;> exact hs.find_eq

/-! ## Aimed and held -/

/-- The pointer is one of the two frames of the capture's block. -/
def CaptureView.holds (c : CaptureView) (p : FramePtr) : Bool :=
  match c.frames with
  | some fb => decide (fb.addr = p.addr) && (decide (p.off = 0) || decide (p.off = fb.stride))
  | none => false

/-- A streaming capture still has the frame. -/
def held (captures : List CaptureView) (p : FramePtr) : Bool :=
  captures.any fun c => c.streaming && c.holds p

/-- The gadget a frame for `id` is copied into streams. -/
def aimed (gadgets : List GadgetView) (id : UInt32) : Bool :=
  match gadgets.find? fun g => decide (g.id = id) with
  | some g => g.streaming
  | none => false

/-- Every frame pending for a gadget that streams is still held. -/
def FramesHeld (gadgets : List GadgetView) (captures : List CaptureView) (q : List Message) : Prop :=
  ∀ id p, .frameAvailable id p ∈ q → aimed gadgets id = true → held captures p = true

/-- The capture that `m` stops has no part in the frame `x`, or `x` is for nobody; and the gadget `m`
    detaches does not leave `x` to another one when `x` has lost its buffer. -/
def spares (gadgets : List GadgetView) (captures : List CaptureView) (m x : Message) : Bool :=
  match x.what, x.lParam with
  | .videoFrameAvailable, .frame p =>
    (match stoppedCapture gadgets captures m with
      | some c => !c.holds p || !aimed gadgets x.wParam
      | none => true) &&
    match detachedGadget gadgets m with
      | some g => !aimed (gadgets.eraseP fun y => decide (y.name = g.name)) x.wParam || held captures p
      | none => true
  | _, _ => true

theorem held_iff {p : FramePtr} :
    held captures p = true ↔ ∃ c ∈ captures, c.streaming = true ∧ c.holds p = true := by
  simp [held]

theorem CaptureView.holds_iff {c : CaptureView} {p : FramePtr} :
    c.holds p = true ↔ ∃ fb, c.frames = some fb ∧ fb.addr = p.addr ∧ (p.off = 0 ∨ p.off = fb.stride) := by
  unfold CaptureView.holds
  cases c.frames with
  | none => simp
  | some fb => simp

theorem aimed_iff {id : UInt32} :
    aimed gadgets id = true ↔
      ∃ pre g post, SplitsAt (·.id = id) gadgets pre g post ∧ g.streaming = true := by
  unfold aimed
  constructor
  · intro h
    split at h
    · next g hg =>
        obtain ⟨pre, post, hs⟩ := SplitsAt.of_find hg
        exact ⟨pre, g, post, hs, h⟩
    · cases h
  · rintro ⟨pre, g, post, hs, hon⟩
    rw [hs.find_eq]; exact hon

/-! ## Gadgets -/

/-- Frames are aimed at no more gadgets when one of them is replaced by one that streams no more. -/
theorem aimed_replace {pre post : List GadgetView} {g g' : GadgetView} {id : UInt32}
    (hid : g'.id = g.id) (hon : g'.streaming = true → g.streaming = true)
    (h : aimed (pre ++ g' :: post) id = true) : aimed (pre ++ g :: post) id = true := by
  unfold aimed at h ⊢
  rw [List.find?_append, List.find?_cons] at h ⊢
  cases hpre : pre.find? fun x => decide (x.id = id) with
  | some x => rw [hpre] at h; exact h
  | none =>
      rw [hpre] at h
      by_cases hg : g.id = id
      · rw [hid] at h
        simp only [hg, decide_true, Option.none_or] at h ⊢
        exact hon h
      · rw [hid] at h
        simp only [hg, decide_false, Option.none_or] at h ⊢
        exact h

/-- A stream that starts aims those frames anew that are for its gadget. -/
theorem aimed_start {pre post : List GadgetView} {g : GadgetView} {id : UInt32}
    (h : aimed (pre ++ { g with streaming := true } :: post) id = true)
    (h₀ : aimed (pre ++ g :: post) id = false) :
    (pre ++ g :: post).find? (fun x => decide (x.id = id)) = some g ∧ g.streaming = false := by
  unfold aimed at h h₀
  rw [List.find?_append, List.find?_cons] at h h₀ ⊢
  cases hpre : pre.find? fun x => decide (x.id = id) with
  | some x =>
      rw [hpre] at h h₀
      simp only [Option.some_or] at h h₀
      rw [h] at h₀; cases h₀
  | none =>
      rw [hpre] at h h₀
      by_cases hg : g.id = id
      · simp only [hg, decide_true, Option.none_or] at h₀ ⊢
        exact ⟨trivial, h₀⟩
      · simp only [hg, decide_false, Option.none_or] at h h₀
        rw [h] at h₀; cases h₀

/-- A gadget that does not stream yet is not aimed at. -/
theorem aimed_append {g : GadgetView} {id : UInt32} (hoff : g.streaming = false)
    (h : aimed (gadgets ++ [g]) id = true) : aimed gadgets id = true := by
  unfold aimed at h ⊢
  rw [List.find?_append] at h
  cases hg : gadgets.find? fun x => decide (x.id = id) with
  | some x => rw [hg] at h; exact h
  | none =>
      rw [hg, Option.none_or] at h
      split at h
      · next x hx =>
          have hmem := List.mem_of_find?_eq_some hx
          rw [List.mem_singleton.mp hmem, hoff] at h
          cases h
      · cases h

/-! ## The callbacks -/

theorem FramesHeld.append (h : FramesHeld gadgets captures q)
    (hms : ∀ id p, .frameAvailable id p ∈ ms → aimed gadgets id = true → held captures p = true) :
    FramesHeld gadgets captures (q ++ ms) := by
  intro id p hm haim
  rcases List.mem_append.mp hm with hm | hm
  · exact h id p hm haim
  · exact hms id p hm haim

/-- **A gadget's callback** keeps frames held unless it starts to stream while frames for it have lost
    their buffers. -/
theorem GadgetCalls.framesHeld {pre post : List GadgetView} {g g' : GadgetView} {w w' : Board}
    {ev : Except Errno UvcEvent} (hcall : GadgetCalls env ev w g w' g')
    (hstart : ev = .ok .streamon → ∀ id p, .frameAvailable id p ∈ w.queue →
      aimed (pre ++ { g with streaming := true } :: post) id = true →
      aimed (pre ++ g :: post) id = false → held captures p = true)
    (h : FramesHeld (pre ++ g :: post) captures w.queue) :
    FramesHeld (pre ++ g' :: post) captures w'.queue := by
  have hold : ∀ id p, .frameAvailable id p ∈ w.queue → aimed (pre ++ g' :: post) id = true →
      held captures p = true := by
    intro id p hm haim
    cases haim₀ : aimed (pre ++ g :: post) id with
    | true => exact h id p hm haim₀
    | false =>
        -- only a stream that starts aims frames anew
        have hnew : ∀ {x : GadgetView}, aimed (pre ++ x :: post) id = true → x.id = g.id →
            (x.streaming = true → g.streaming = true) → held captures p = true := by
          intro x hx hid hon
          rw [aimed_replace hid hon hx] at haim₀
          cases haim₀
        cases hcall with
        | quiet _ => exact hnew haim rfl fun h => h
        | start hev hs =>
            cases hs with
            | idle _ => exact hnew haim rfl fun h => h
            | start _ _ _ => exact hstart hev id p hm haim haim₀
        | stop _ hs =>
            cases hs with
            | idle _ _ => exact hnew haim rfl fun h => h
            | stop _ _ => exact hnew haim rfl fun h => by cases h
        | commit _ _ => exact hnew haim rfl fun h => h
        | setFmt _ _ _ _ _ => exact hnew haim rfl fun h => h
  obtain ⟨ms, hms⟩ := hcall.sends
  rw [hms.queue]
  refine FramesHeld.append hold fun id p hm => ?_
  cases hms.announces _ hm

/-! ## Captures -/

section Captures

variable {pre post : List CaptureView} {c c' : CaptureView} {p : FramePtr}

theorem held_replace (h : held (pre ++ c :: post) p = true)
    (hc : c.streaming = true → c.holds p = true → c'.streaming = true ∧ c'.holds p = true) :
    held (pre ++ c' :: post) p = true := by
  exact held_iff.mpr (exists_replaced (held_iff.mp h) fun ⟨hon, hp⟩ => hc hon hp)

/-- A capture that does not hold a frame is not needed for it. -/
theorem held_without (hc : c.holds p = false) (h : held (pre ++ c :: post) p = true) :
    ∃ x ∈ pre ++ post, x.streaming = true ∧ x.holds p = true := by
  obtain ⟨x, hx, hon, hp⟩ := held_iff.mp h
  refine ⟨x, ?_, hon, hp⟩
  rcases List.mem_append.mp hx with hx | hx
  · simp [hx]
  · rcases List.mem_cons.mp hx with rfl | hx
    · rw [hc] at hp; cases hp
    · simp [hx]

theorem CaptureCalls.holds {w w' : Board} (h : CaptureCalls env w c w' c') : c'.holds p = c.holds p := by
  cases h with
  | quiet _ => rfl
  | frame hf hoff haddr hstride hstamp htick hp =>
      rename_i fb fb' off t
      unfold CaptureView.holds
      rw [hf]
      simp only [haddr, hstride]

/-- **A capture's callback** posts frames it holds. -/
theorem CaptureCalls.framesHeld {w w' : Board} (hcall : CaptureCalls env w c w' c') (hf : c.Framed)
    (h : FramesHeld gadgets (pre ++ c :: post) w.queue) :
    FramesHeld gadgets (pre ++ c' :: post) w'.queue := by
  obtain ⟨ms, hq, hms⟩ := hcall.frames
  rw [hq]
  refine FramesHeld.append (fun id p hm haim => ?_) fun id p hm _ => ?_
  · refine held_replace (h id p hm haim) fun hon hp => ?_
    rw [hcall.same.2, hcall.holds]
    exact ⟨hon, hp⟩
  · obtain ⟨fb, off, hfb, hoff, heq⟩ := hms _ hm
    have hp : p = ⟨fb.addr, off⟩ := by
      injection heq with _ _ _ heq
      injection heq
    refine held_iff.mpr ⟨c', by simp, ?_, ?_⟩
    · rw [hcall.same.2, hf, hfb]; rfl
    · rw [hcall.holds, CaptureView.holds_iff]
      exact ⟨fb, hfb, by rw [hp], by rw [hp]; exact hoff⟩

end Captures

/-! ## Messages -/

/-- Handling a message sends no frame. -/
theorem Handles.posts_no_frame (hm : Handles env refuses v m v') {id : UInt32} {p : FramePtr}
    (h : .frameAvailable id p ∈ v'.board.queue) : .frameAvailable id p ∈ v.board.queue := by
  obtain ⟨ms, hq, hms⟩ := hm.extends
  rw [hq] at h
  rcases List.mem_append.mp h with h | h
  · exact h
  · cases hms _ h

theorem Releases.held {id : UInt32} {p : FramePtr} (hr : Releases refuses id captures captures')
    (h : held captures p = true) : held captures' p = true := by
  cases hr with
  | none _ => exact h
  | refused _ hs =>
      rw [hs.eq] at h
      exact held_replace h fun hon hp => ⟨hon, hp⟩

/-- **A message that spares the frames behind it keeps them held.** -/
theorem Handles.framesHeld (hm : Handles env refuses v m v')
    (hspare : ∀ x ∈ v.board.queue, spares v.gadgets v.captures m x = true)
    (h : FramesHeld v.gadgets v.captures (m :: v.board.queue)) :
    FramesHeld v'.gadgets v'.captures v'.board.queue := by
  intro id p hq haim
  have hq := hm.posts_no_frame hq
  have hold := h id p (List.mem_cons_of_mem _ hq)
  have hsp := hspare _ hq
  -- a capture that is stopped had no part in an aimed frame
  have hstopped : ∀ {c : CaptureView}, stoppedCapture v.gadgets v.captures m = some c →
      aimed v.gadgets id = true → c.holds p = false := by
    intro c hc ha
    simp only [spares, Message.frameAvailable, hc, ha, Bool.not_true, Bool.or_false, Bool.and_eq_true,
      Bool.not_eq_true'] at hsp
    exact hsp.1
  have hstop : ∀ {pre post : List CaptureView} {c c' : CaptureView}, v.captures = pre ++ c :: post →
      stoppedCapture v.gadgets v.captures m = some c → aimed v.gadgets id = true →
      held (pre ++ c' :: post) p = true := by
    intro pre post c c' heq hc ha
    obtain ⟨x, hx, hon, hp⟩ := held_without (hstopped hc ha) (heq ▸ hold ha)
    refine held_iff.mpr ⟨x, ?_, hon, hp⟩
    rcases List.mem_append.mp hx with hx | hx <;> simp [hx]
  cases hm with
  | gadgetAttached hname hoff hfmt hfd haddr hlt hwatch hp => exact hold (aimed_append hoff haim)
  | captureAttached hname hoff hid hsize hframes hfd haddr hlt he =>
      obtain ⟨x, hx, hon, hp⟩ := held_iff.mp (hold haim)
      exact held_iff.mpr ⟨x, List.mem_append_left _ hx, hon, hp⟩
  | gadgetDetached hs hstop' hp =>
      rename_i _ name pre post g g' w₁ w₂
      have herase : (v.gadgets.eraseP fun y => decide (y.name = g.name)) = pre ++ post := by
        rw [show g.name = name from hs.hit, hs.eq]
        exact List.eraseP_append_right _ (fun x hx => by simpa using hs.miss x hx) |>.trans
          (by rw [List.eraseP_cons_of_pos (by simpa using hs.hit)])
      simp only [spares, Message.frameAvailable, detachedGadget_splits hs, herase] at hsp
      have haim : aimed (pre ++ post) id = true := haim
      simp only [haim, Bool.not_true, Bool.false_or, Bool.and_eq_true] at hsp
      exact hsp.2
  | captureDetached hg hs hstop' he =>
      obtain ⟨x, hx, hon, hp⟩ := held_without (hstopped (stoppedCapture_named hg hs) haim) (hs.eq ▸ hold haim)
      exact held_iff.mpr ⟨x, hx, hon, hp⟩
  | setFmtHeld hs he =>
      have hcs := hold haim
      rw [hs.eq] at hcs
      exact held_replace hcs fun hon hp => ⟨hon, hp⟩
  | setFmtPaired hr hs hfree he =>
      have hcs := hr.held (hold haim)
      rw [hs] at hcs
      exact held_replace hcs fun hon hp => ⟨hon, hp⟩
  | setFmtUnpaired hr he => exact hr.held (hold haim)
  | streamOn hs hstart =>
      rename_i id' pre post c c' w
      have hcs := hold haim
      rw [hs.eq] at hcs
      refine held_replace hcs fun hon hp => ?_
      cases hstart with
      | idle _ => exact ⟨hon, hp⟩
      | start hoff _ _ _ _ => rw [hoff] at hon; cases hon
  | streamOff hs hstop' => exact hstop hs.eq (stoppedCapture_holder hs (by simp)) haim
  | uvcDetached hs hstop' => exact hstop hs.eq (stoppedCapture_holder hs (by simp)) haim
  | signal | attachFailed _ | detachMissed _ _ | streamOnMissed _ | streamOffMissed _ | uvcAttached
  | uvcDetachedMissed _ | frameCopied _ _ _ | frameDropped _ => exact hold haim

end Uvcd
