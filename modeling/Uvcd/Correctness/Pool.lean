import Uvcd.Refinement.Pool

/-!
# `Correctness.Pool` — no buffer of a stream is lost

The video callbacks ignore the result of `v4l2_queue_buffer`, so a buffer the driver does not take back is neither
its own nor queued again by anyone: `refused_buffer_lost`. As long as the driver takes back what it hands out, it
owns every buffer of every stream, once, whatever else fails: `streams_owned`.
-/

namespace Uvcd

open Machine Split

variable {env : Env} {s s' : Sys} {a : Action}

/-! ## The condition -/

/-- Each buffer of a stream that runs is owned by its driver, once. -/
structure Sys.Owned (s : Sys) : Prop where
  gadgets : ∀ g ∈ s.gadgets, g.isStreaming = true → g.vdev.Owned
  captures : ∀ c ∈ s.captures, c.isStreaming = true → c.vdev.Owned

/-- The driver takes back the buffer it hands out to the video callback that is next, of a stream that runs. -/
def Sys.takesBack (env : Env) (s : Sys) : Bool :=
  let t := s.io.kernel.tick
  match s.phase with
  | .dispatch (⟨_, .uvcVideoProcess, .gadget addr⟩ :: _) =>
    match s.gadgets.find? fun g => decide (g.addr = addr) with
    | some g => !g.isStreaming || decide (g.vdev.TakesBack env t (t + 1))
    | none => true
  | .dispatch (⟨_, .captureProcess, .capture addr⟩ :: _) =>
    match s.captures.find? fun c => decide (c.addr = addr) with
    | some c => !c.isStreaming || decide (c.vdev.TakesBack env t (c.givesAt t))
    | none => true
  | _ => true

/-- The same for the steps the program itself takes. -/
def BuffersTakenBack (env : Env) : Action → Sys → Prop
  | .next, s => s.takesBack env = true
  | _, _ => True

instance (env : Env) : ∀ (a : Action) (s : Sys), Decidable (BuffersTakenBack env a s)
  | .next, s => inferInstanceAs (Decidable (s.takesBack env = true))
  | .plug _, _ | .unplug _, _ | .signal _, _ | .select _, _ | .selectFailed, _ => .isTrue trivial

/-! ## One step -/

/-- The buffers of the streams that run are under their indices. -/
structure Sys.Indexed (s : Sys) : Prop where
  gadgets : ∀ g ∈ s.gadgets, g.isStreaming = true → g.vdev.Indexed
  captures : ∀ c ∈ s.captures, c.isStreaming = true → c.vdev.Indexed

theorem Sys.supplied_iff : s.Supplied ↔ s.Indexed ∧ s.Owned := by
  constructor
  · intro h
    exact ⟨⟨fun g hg hon => (h.gadgets g hg hon).indexed, fun c hc hon => (h.captures c hc hon).indexed⟩,
      ⟨fun g hg hon => (h.gadgets g hg hon).owned, fun c hc hon => (h.captures c hc hon).owned⟩⟩
  · rintro ⟨hidx, how⟩
    exact ⟨fun g hg hon => ⟨hidx.gadgets g hg hon, how.gadgets g hg hon⟩,
      fun c hc hon => ⟨hidx.captures c hc hon, how.captures c hc hon⟩⟩

theorem takesBack_gadget {fd addr : Nat} {rest : List EventIter} {pre post : List Gadget} {g : Gadget}
    (hat : s.phase = .dispatch (⟨fd, .uvcVideoProcess, .gadget addr⟩ :: rest))
    (hs : SplitsAt (·.addr = addr) s.gadgets pre g post) : BuffersTakenBack env .next s ↔
      (g.isStreaming = true → g.vdev.TakesBack env s.io.kernel.tick (s.io.kernel.tick + 1)) := by
  show s.takesBack env = true ↔ _
  simp only [Sys.takesBack, hat, hs.find_eq]
  cases g.isStreaming <;> simp

theorem takesBack_capture {fd addr : Nat} {rest : List EventIter} {pre post : List Capture} {c : Capture}
    (hat : s.phase = .dispatch (⟨fd, .captureProcess, .capture addr⟩ :: rest))
    (hs : SplitsAt (·.addr = addr) s.captures pre c post) : BuffersTakenBack env .next s ↔
      (c.isStreaming = true → c.vdev.TakesBack env s.io.kernel.tick (c.givesAt s.io.kernel.tick)) := by
  show s.takesBack env = true ↔ _
  simp only [Sys.takesBack, hat, hs.find_eq]
  cases c.isStreaming <;> simp

/-- Nothing is handed out unless a callback is next. -/
theorem takesBack_idle (hidle : a = .next → s.phase.Idle) : BuffersTakenBack env a s := by
  cases a with
  | next =>
      have hidle := hidle rfl
      show s.takesBack env = true
      unfold Sys.takesBack
      cases hat : s.phase with
      | dispatch iter =>
          rw [hat] at hidle
          cases iter with
          | nil => rfl
          | cons t rest => exact hidle.elim
      | start | inited | select | process | exit | finished => rfl
  | plug | unplug | signal | select | selectFailed => trivial

/-- **One step** keeps the buffers of the streams with their drivers exactly when a buffer handed out is taken
    back. -/
theorem Does.owned (hdrv : env.HandsOutOwned) (hst : s.Stands) (hidx : s.Indexed) (how : s.Owned)
    (h : Does env s a s') : s'.Indexed ∧ (s'.Owned ↔ BuffersTakenBack env a s) := by
  have hsup : s.Supplied := Sys.supplied_iff.mpr ⟨hidx, how⟩
  -- where no buffer is handed out
  have hquiet : s'.Supplied → BuffersTakenBack env a s → s'.Indexed ∧ (s'.Owned ↔ BuffersTakenBack env a s) :=
    fun hs' hC => ⟨(Sys.supplied_iff.mp hs').1, iff_of_true (Sys.supplied_iff.mp hs').2 hC⟩
  cases h with
  | turn hbatch hearly hover hidle =>
      exact hquiet ⟨hsup.gadgets, hsup.captures⟩ (takesBack_idle hidle)
  | plug | unplug | signal => exact hquiet ⟨hsup.gadgets, hsup.captures⟩ trivial
  | init hat | scan hat | looper hat | hotplug hat =>
      exact hquiet ⟨hsup.gadgets, hsup.captures⟩ (by simp [BuffersTakenBack, Sys.takesBack, hat])
  | gadget hat hs hcall =>
      refine hquiet ⟨?_, hsup.captures⟩ (by simp [BuffersTakenBack, Sys.takesBack, hat])
      exact forall_replaced hs.eq hsup.gadgets (hcall.supplied (hsup.gadgets _ hs.mem))
  | video hat hs hcall =>
      rename_i fd addr rest pre post g g' io
      rw [takesBack_gadget hat hs]
      have hsame : g'.isStreaming = g.isStreaming := by rw [(uvcVideoProcess_only hcall).1]
      have hpool := fun hon : g.isStreaming = true =>
        uvcVideoProcess_pool hdrv (hidx.gadgets g hs.mem hon) (how.gadgets g hs.mem hon) hcall
      refine ⟨⟨forall_replaced hs.eq hidx.gadgets fun hon => (hpool (hsame.symm.trans hon)).1, hidx.captures⟩, ?_⟩
      constructor
      · intro hs' hon
        exact (hpool hon).2.mp (hs'.gadgets g' (by simp [afterCall]) (hsame.trans hon))
      · intro hback
        refine ⟨forall_replaced hs.eq how.gadgets fun hon => ?_, how.captures⟩
        have hon := hsame.symm.trans hon
        exact (hpool hon).2.mpr (hback hon)
  | capture hat hs hcall =>
      rename_i fd addr rest pre post c c' io
      rw [takesBack_capture hat hs]
      have hsame : c'.isStreaming = c.isStreaming := (captureProcess_turns hcall).2.2.1
      have hpool := fun hon : c.isStreaming = true =>
        captureProcess_pool hdrv (hidx.captures c hs.mem hon) (how.captures c hs.mem hon) hcall
      refine ⟨⟨hidx.gadgets, forall_replaced hs.eq hidx.captures fun hon => (hpool (hsame.symm.trans hon)).1⟩, ?_⟩
      constructor
      · intro hs' hon
        exact (hpool hon).2.mp (hs'.captures c' (by simp [afterCall]) (hsame.trans hon))
      · intro hback
        refine ⟨how.gadgets, forall_replaced hs.eq how.captures fun hon => ?_⟩
        have hon := hsame.symm.trans hon
        exact (hpool hon).2.mpr (hback hon)
  | handle hat hm hserve =>
      have hs' := hserve.supplied hsup
      exact hquiet ⟨hs'.gadgets, hs'.captures⟩ (by simp [BuffersTakenBack, Sys.takesBack, hat])
  | cleanup hat hclean =>
      have halive := hst.alive (by rw [hat]; simp)
      obtain ⟨hg, hc⟩ := looperCleanup_empties halive.fit.staffed hclean
      refine hquiet ⟨fun g hmem => ?_, fun c hmem => ?_⟩ (by simp [BuffersTakenBack, Sys.takesBack, hat])
      · have hmem : g ∈ _ := hmem
        rw [hg] at hmem; cases hmem
      · have hmem : c ∈ _ := hmem
        rw [hc] at hmem; cases hmem

/-! ## Runs -/

theorem boot_indexed (env : Env) (nodes : List DevName) (inforce : Nat → PixFormat) :
    (boot env nodes inforce).Indexed ∧ (boot env nodes inforce).Owned :=
  ⟨⟨fun g hg => (by cases hg), fun c hc => (by cases hc)⟩, ⟨fun g hg => (by cases hg), fun c hc => (by cases hc)⟩⟩

/-- **No buffer of a stream is lost**, where drivers hand out buffers that they own: a run that does not fault keeps
    each buffer of every stream that runs with its driver, once and under its own index, exactly when the driver takes
    back every buffer it hands out to a video callback. -/
theorem streams_owned (hdrv : env.HandsOutOwned) {nodes : List DevName} {inforce : Nat → PixFormat}
    {as : List Action} (hrun : run env as (boot env nodes inforce) = .ok s) :
    Throughout (step env) Sys.Owned as (boot env nodes inforce) ↔
      Along (step env) (BuffersTakenBack env) as (boot env nodes inforce) := by
  obtain ⟨hidx, how⟩ := boot_indexed env nodes inforce
  refine throughout_iff_along_ok (R := fun s => s.Stands ∧ s.Indexed) ?_ ⟨.inr (boot_alive env nodes inforce), hidx⟩
    how hrun
  rintro a s t ⟨hst, hidx⟩ how h
  obtain ⟨hidx', hiff⟩ := (step_does hst h).owned hdrv hst hidx how
  exact ⟨⟨hst.step h, hidx'⟩, hiff⟩

theorem obliging_handsOutOwned (outputs : List DevName) (script : List (Nat × UvcEvent)) :
    (Env.obliging outputs script).HandsOutOwned := by
  intro t file f h
  simp only [Env.obliging] at h
  cases hq : file.queued with
  | nil => rw [hq] at h; cases h
  | cons i rest =>
      rw [hq] at h
      cases h
      exact List.mem_cons_self

/-- A stream starts, a frame is captured and passed on to the host. -/
theorem streams_owned_streaming :
    ∃ s, run (bench 900) (streamUp ++ turn [7] 12 ++ turn [3, 6, 7] 12) (benchBoot 900) = .ok s ∧
      (∃ c ∈ s.captures, c.isStreaming = true) ∧
      Throughout (step (bench 900)) Sys.Owned (streamUp ++ turn [7] 12 ++ turn [3, 6, 7] 12) (benchBoot 900) := by
  obtain ⟨s, h, hon⟩ : ∃ s, run (bench 900) (streamUp ++ turn [7] 12 ++ turn [3, 6, 7] 12) (benchBoot 900) = .ok s ∧
      ∃ c ∈ s.captures, c.isStreaming = true := by
    decide +kernel
  exact ⟨s, h, hon, (streams_owned (obliging_handsOutOwned _ _) h).mpr (by decide +kernel)⟩

/-- The bench with drivers that take no buffer back once the streams run. -/
def keepingBench : Env := { bench 900 with qbuf := fun t _ _ => if 81 ≤ t then some .EINVAL else none }

/-- **A refused buffer is lost.** The driver of the capture hands out its first frame and refuses the buffer when it
    is given back: the stream runs on with three buffers of four. -/
theorem refused_buffer_lost :
    keepingBench.HandsOutOwned ∧ ¬Throughout (step keepingBench) Sys.Owned (streamUp ++ turn [7] 12)
      (boot keepingBench [videoName 0, videoName 1] fun _ => .zero) := by
  refine ⟨fun t file f h => ?_, fun howned => ?_⟩
  · exact obliging_handsOutOwned [videoName 0] [] t file f h
  · obtain ⟨s, h, c, hc, hon, hlost⟩ : ∃ s, run keepingBench (streamUp ++ turn [7] 12)
        (boot keepingBench [videoName 0, videoName 1] fun _ => .zero) = .ok s ∧
        ∃ c ∈ s.captures, c.isStreaming = true ∧ ¬c.vdev.Owned := by
      decide +kernel
    exact hlost ((howned _ s (List.prefix_refl _) h).captures c hc hon)

end Uvcd
