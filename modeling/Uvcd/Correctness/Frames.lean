import Uvcd.Correctness.Standing
import Uvcd.Protocol.Frames
import Uvcd.Refinement.Traffic

/-!
# `Correctness.Frames` — frames are copied from buffers that are still there

`MSG_VIDEO_FRAME_AVAILABLE` carries a pointer into the buffers of a capture. `frames_held` is about the runs
in which no capture is made to release its buffers, and no gadget to stream, past a frame that this would
leave dangling (`SparesFrames`); `stale_frame` is a run in which a stream is stopped and started again while
a frame waits.
-/

namespace Uvcd

open Machine Split

variable {env : Env} {s s' : Sys} {a : Action}

/-! ## The property and the condition -/

/-- The frame about to be copied lies in the frame buffers of a capture that streams. -/
def Sys.CopyHeld (s : Sys) : Prop :=
  ∀ id p batch iter, s.phase = .process (.frameAvailable id p :: batch) iter →
    ∀ pre g post, SplitsAt (·.id = id) s.gadgets pre g post → g.isStreaming = true →
      ∃ c ∈ s.captures, c.isStreaming = true ∧
        ∃ fb, c.buffers = some fb ∧ fb.addr = p.addr ∧ (p.off = 0 ∨ p.off = fb.stride)

/-- The same, computed. -/
def Sys.copyHeld (s : Sys) : Bool :=
  match s.phase with
  | .process (m :: _) _ =>
    match m.what, m.lParam with
    | .videoFrameAvailable, .frame p => !aimed s.view.gadgets m.wParam || held s.view.captures p
    | _, _ => true
  | _ => true

/-- The step spares the frames pending: the message about to be handled releases no buffers of a frame for a
    gadget that streams, and the gadget about to take a STREAMON event has no frame waiting that has lost
    its buffers. -/
def Sys.sparesFrames (env : Env) (s : Sys) : Bool :=
  match s.phase with
  | .process (m :: batch) _ => (batch ++ s.io.queue).all fun x => spares s.view.gadgets s.view.captures m x
  | .dispatch (⟨_, .uvcGadgetProcess, .gadget addr⟩ :: _) =>
    match s.gadgets.find? fun g => decide (g.addr = addr) with
    | some g =>
      match env.dqevent s.io.kernel.tick g.vdev.file with
      | .ok .streamon => s.pending.all fun x =>
        match x.what, x.lParam with
        | .videoFrameAvailable, .frame p =>
          match s.gadgets.find? fun y => decide (y.id = x.wParam) with
          | some y => decide (y.addr ≠ addr) || held s.view.captures p
          | none => true
        | _, _ => true
      | _ => true
    | none => true
  | _ => true

/-- The steps the program itself takes spare the frames pending. -/
def SparesFrames (env : Env) : Action → Sys → Prop
  | .next, s => s.sparesFrames env = true
  | _, _ => True

instance (env : Env) : ∀ (a : Action) (s : Sys), Decidable (SparesFrames env a s)
  | .next, s => inferInstanceAs (Decidable (s.sparesFrames env = true))
  | .plug _, _ | .unplug _, _ | .signal _, _ | .select _, _ | .selectFailed, _ => .isTrue trivial

theorem Sys.aimed_view {id : UInt32} : aimed s.view.gadgets id = true ↔
    ∃ pre g post, SplitsAt (·.id = id) s.gadgets pre g post ∧ g.isStreaming = true := by
  rw [aimed_iff]
  constructor
  · rintro ⟨pre', g', post', hs', hon⟩
    obtain ⟨pre, g, post, hs, rfl⟩ := hs'.of_map (p := (·.id = id)) Gadget.view (fun _ => Iff.rfl)
    exact ⟨pre, g, post, hs, hon⟩
  · rintro ⟨pre, g, post, hs, hon⟩
    exact ⟨_, _, _, hs.map (q := (·.id = id)) Gadget.view (fun _ => Iff.rfl), hon⟩

theorem Sys.held_view {p : FramePtr} : held s.view.captures p = true ↔
    ∃ c ∈ s.captures, c.isStreaming = true ∧
      ∃ fb, c.buffers = some fb ∧ fb.addr = p.addr ∧ (p.off = 0 ∨ p.off = fb.stride) := by
  rw [held_iff]
  constructor
  · rintro ⟨_, hc, hon, hp⟩
    obtain ⟨c, hmem, rfl⟩ := List.mem_map.mp hc
    exact ⟨c, hmem, hon, CaptureView.holds_iff.mp hp⟩
  · rintro ⟨c, hc, hon, hp⟩
    exact ⟨c.view, List.mem_map_of_mem hc, hon, CaptureView.holds_iff.mpr hp⟩

theorem Sys.copyHeld_iff (hs : ∀ m ∈ s.pending, Sendable m) : s.CopyHeld ↔ s.copyHeld = true := by
  unfold Sys.copyHeld Sys.CopyHeld
  constructor
  · intro h
    split
    · next m batch iter hat =>
        split
        · next p hwhat hparam =>
            have hsend := hs m (by unfold Sys.pending; rw [hat]; simp)
            cases hsend with
            | frameAvailable id p' =>
                cases hparam
                cases haim : aimed s.view.gadgets (Message.frameAvailable id p).wParam with
                | false => rfl
                | true =>
                    obtain ⟨pre, g, post, hsp, hon⟩ := Sys.aimed_view.mp haim
                    rw [Sys.held_view.mpr (h id p batch iter hat pre g post hsp hon)]
                    rfl
            | signal | hotplugAttached | hotplugDetached | setFmt | streamOn | streamOff | uvcAttached
            | uvcDetached => cases hwhat
        · rfl
    · rfl
  · intro h id p batch iter hat pre g post hsp hon
    rw [hat] at h
    have haim : aimed s.view.gadgets id = true := Sys.aimed_view.mpr ⟨pre, g, post, hsp, hon⟩
    simp only [Message.frameAvailable, haim, Bool.not_true, Bool.false_or] at h
    exact Sys.held_view.mp h

/-! ## Runs -/

theorem Traffic.framesHeld (h : Traffic env s s' a) (hC : SparesFrames env a s)
    (hf : ∀ c ∈ s.view.captures, c.Framed)
    (hheld : FramesHeld s.view.gadgets s.view.captures s.view.board.queue) :
    FramesHeld s'.view.gadgets s'.view.captures s'.view.board.queue := by
  cases h with
  | quiet hg hc hq _ =>
      obtain ⟨ms, heq, hms⟩ := hq
      rw [hg, hc, heq]
      refine hheld.append fun id p hm => ?_
      cases hms _ hm with
      | hotplug hp => cases hp
  | gadget hat hs hcall hview =>
      rename_i fd addr rest pre post g g' w
      have hspare : s.sparesFrames env = true := hC
      rw [hview]
      rw [Sys.gadgets_view hs] at hheld
      refine hcall.framesHeld (fun hev id p hm haim haim₀ => ?_) hheld
      -- the frame is for the gadget that starts, so the condition speaks of it
      obtain ⟨hfind, hoff⟩ := aimed_start haim haim₀
      simp only [Sys.sparesFrames, hat, hs.find_eq, hev] at hspare
      rw [← Sys.pending_eq] at hm
      have hx : (match s.gadgets.find? fun y => decide (y.id = id) with
          | some y => decide (y.addr ≠ addr) || held s.view.captures p
          | none => true) = true := List.all_eq_true.mp hspare _ hm
      rw [← Sys.gadgets_view hs] at hfind
      obtain ⟨pre₁, post₁, hs₁⟩ := SplitsAt.of_find hfind
      obtain ⟨pre₂, x, post₂, hs₂, hxg⟩ := hs₁.of_map (p := (·.id = id)) Gadget.view (fun _ => Iff.rfl)
      have haddr : x.addr = addr := by
        have hgaddr : g.addr = addr := hs.hit
        rw [← hgaddr]; exact congrArg GadgetView.addr hxg
      rw [hs₂.find_eq] at hx
      simpa [haddr] using hx
  | capture hs hcall hview =>
      have hmem := hf _ (show Capture.view _ ∈ s.view.captures from List.mem_map_of_mem hs.mem)
      rw [hview]
      rw [Sys.captures_view hs] at hheld
      exact hcall.framesHeld hmem hheld
  | handle hat hm =>
      rename_i m batch rest
      have hspare : s.sparesFrames env = true := hC
      rw [Sys.pending_process hat] at hheld
      refine hm.framesHeld (fun x hx => ?_) hheld
      simp only [Sys.sparesFrames, hat] at hspare
      exact List.all_eq_true.mp hspare x hx

/-- **Run lemma.** Where every step spares the frames pending, every frame is copied from the buffers of a
    capture that streams. -/
theorem frames_held {nodes : List DevName} {inforce : Nat → PixFormat} {as : List Action}
    (hC : Along (step env) (SparesFrames env) as (boot env nodes inforce))
    (h : run env as (boot env nodes inforce) = .ok s) : s.CopyHeld := by
  rcases run_moves_inv_or (C := SparesFrames env)
    (I := fun s => Standing env s ∧ FramesHeld s.view.gadgets s.view.captures s.view.board.queue)
    (fun a s s' _ _ hI hCs hm => ⟨hm.standing hI.1, hm.traffic.framesHeld hCs hI.1.housed.framed hI.2⟩)
    ⟨boot_standing env nodes inforce, fun id p hm => by
      rw [← Sys.pending_eq, boot_pending] at hm; cases hm⟩ hC h with hover | ⟨-, -, hheld⟩
  · intro id p batch iter hat
    rw [hover.phase] at hat; cases hat
  · intro id p batch iter hat pre g post hs hon
    refine Sys.held_view.mp (hheld id p ?_ (Sys.aimed_view.mpr ⟨pre, g, post, hs, hon⟩))
    rw [Sys.pending_process hat]
    exact List.mem_cons_self

/-- A frame that is about to be copied while everything streams. -/
theorem frames_held_streaming :
    ∃ s, run (bench 900) (streamUp ++ turn [7] 12 ++ turn [3, 6, 7] 1) (benchBoot 900) = .ok s ∧
      (s.phase.batch.map (·.what)) = [.videoFrameAvailable] ∧ s.CopyHeld := by
  obtain ⟨s, h, hbatch⟩ : ∃ s, run (bench 900) (streamUp ++ turn [7] 12 ++ turn [3, 6, 7] 1) (benchBoot 900)
      = .ok s ∧ (s.phase.batch.map (·.what)) = [.videoFrameAvailable] := by
    decide +kernel
  exact ⟨s, h, hbatch, frames_held (by decide +kernel) h⟩

/-- The bench with a host that stops the stream and starts it again. -/
def restartBench : Env :=
  .obliging [videoName 0]
    [(36, commitRequest), (39, commitData), (90, .streamon), (120, .streamoff), (1000, .streamon)]

/-- **A frame outlives its buffers.** Sixteen nodes appear in the round in which the host stops the stream and
    the capture posts a frame, so the stop and the frame wait behind a full batch; meanwhile the host
    starts the stream again. The stop then releases the buffers, and the frame behind it is copied. -/
theorem stale_frame :
    ∃ s, run restartBench (streamUp ++ (List.range 16).map (fun n => .plug (videoName (n + 2)))
        ++ turn [5, 6, 7] 12 ++ turn [3, 6] 30 ++ turn [3] 2)
        (boot restartBench [videoName 0, videoName 1] fun _ => .zero) = .ok s ∧ ¬s.CopyHeld := by
  obtain ⟨s, h, hat, hstale⟩ : ∃ s, run restartBench
      (streamUp ++ (List.range 16).map (fun n => .plug (videoName (n + 2)))
        ++ turn [5, 6, 7] 12 ++ turn [3, 6] 30 ++ turn [3] 2)
      (boot restartBench [videoName 0, videoName 1] fun _ => .zero) = .ok s ∧
      s.phase ≠ .finished ∧ s.copyHeld = false := by
    decide +kernel
  refine ⟨s, h, fun hlive => ?_⟩
  have hal := (reaches_standing ⟨_, _, _, h⟩ hat).1
  rw [(Sys.copyHeld_iff hal.sendable).mp hlive] at hstale
  cases hstale

end Uvcd
