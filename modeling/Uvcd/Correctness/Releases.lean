import Uvcd.Correctness.Starts
import Uvcd.Refinement.Does

/-!
# `Correctness.Releases` — a stopped device can be started again

`v4l2_free_buffers` gives up at the first `munmap` or `VIDIOC_REQBUFS` that fails and leaves `nbufs` as it is; the
functions that call it ignore its result, and nobody tries again. From then on `v4l2_alloc_buffers` answers
`-EBUSY`.

So an object that does not stream holds no buffers and can be started as long as the drivers consent to the
releases of stops and failed starts (`idle_devices_reusable`); `kept_mapping` is a device that can never be
started again because one `munmap` was refused.
-/

namespace Uvcd

open Machine Split

variable {env : Env} {s s' : Sys} {a : Action} {k k' : Kernel} {d d' : Device} {io io' : Io} {g g' : Gadget}
  {c c' : Capture}

/-! ## The property -/

/-- The device holds nothing, and a driver that gives buffers again is not refused with `-EBUSY`. -/
structure Device.Reusable (d : Device) : Prop where
  nbufs : d.nbufs = 0
  mapped : d.file.mapped = []
  not_busy : ∀ (env : Env) (k k' : Kernel) (ret : Int) (d' : Device),
    (∃ n, env.reqbufs k.tick d.file streamBuffers = .ok n) →
    v4l2AllocBuffers env k d .mmap streamBuffers = .ok (ret, k', d') → ret ≠ Errno.EBUSY.neg

structure Sys.Reusable (s : Sys) : Prop where
  gadgets : ∀ g ∈ s.gadgets, g.isStreaming = false → g.vdev.Reusable
  captures : ∀ c ∈ s.captures, c.isStreaming = false → c.vdev.Reusable

/-! ## The condition -/

/-- After `VIDIOC_STREAMOFF` the driver consents to the release. -/
def Device.StopSpared (env : Env) (k : Kernel) (d : Device) : Prop :=
  ∀ r k₁ d₁, v4l2StreamOff env k d = (r, k₁, d₁) → d₁.Granted env k₁.tick

/-- The driver consents to the release, if the call makes one. -/
def Gadget.Spared (env : Env) (k : Kernel) (g : Gadget) (on : Bool) : Prop :=
  g.isStreaming ≠ on → if on then g.StartSpared env k else g.vdev.StopSpared env k

def Capture.Spared (env : Env) (io : Io) (c : Capture) (on : Bool) : Prop :=
  c.isStreaming ≠ on → if on then c.StartSpared env io.kernel.ask else c.vdev.StopSpared env io.kernel

/-- The drivers consent to the releases of the step, but for those of devices that are given up. -/
structure Spares (env : Env) (s : Sys) : Prop where
  gadget : ∀ {fd addr : Nat} {rest : List EventIter} {pre post : List Gadget} {g : Gadget} {on : Bool},
    s.phase = .dispatch (⟨fd, .uvcGadgetProcess, .gadget addr⟩ :: rest) →
    SplitsAt (·.addr = addr) s.gadgets pre g post →
    env.dqevent s.io.kernel.tick g.vdev.file = .ok (if on then .streamon else .streamoff) →
    g.Spared env (s.io.polled g.vdev.fd).kernel on
  stream : ∀ {id : UInt32} {on : Bool} {batch : List Message} {rest : List EventIter} {pre post : List Capture}
    {c : Capture}, s.phase = .process (streamNews id on :: batch) rest →
    SplitsAt (·.gadgetId = id) s.captures pre c post → c.Spared env s.io on
  part : ∀ {id : UInt32} {batch : List Message} {rest : List EventIter} {pre post : List Capture} {c : Capture},
    s.phase = .process (.uvcDetached id :: batch) rest → SplitsAt (·.gadgetId = id) s.captures pre c post →
    c.Spared env s.io false

/-- The daemon's steps are spared. -/
def StepSpared (env : Env) (a : Action) (s : Sys) : Prop := a = .next → Spares env s

theorem ReleasesSucceed.spares (h : ReleasesSucceed env) (s : Sys) : Spares env s := by
  have hstop : ∀ (k : Kernel) (d : Device), d.StopSpared env k := fun _ _ _ _ _ _ => h.granted _ _
  refine ⟨?_, ?_, ?_⟩
  · intro fd addr rest pre post g on _ _ _ _
    cases on with
    | false => exact hstop _ _
    | true => exact fun _ _ _ _ _ => h.granted _ _
  · intro id on batch rest pre post c _ _ _
    cases on with
    | false => exact hstop _ _
    | true => exact fun _ _ _ _ _ => h.granted _ _
  · intro id batch rest pre post c _ _ _
    exact hstop _ _

/-! ## What a stream function leaves -/

/-- The program's and the kernel's bookkeeping agree, and a device without a stream has no buffers. -/
structure Device.Kept (d : Device) (streaming : Bool) : Prop where
  tracked : d.Tracked
  idle : streaming = false → d.nbufs = 0

theorem Device.Kept.reusable (h : d.Kept false) : d.Reusable := by
  have h0 := h.idle rfl
  refine ⟨h0, h.tracked.idle h0, fun env k k' ret d' ⟨n, hn⟩ halloc => ?_⟩
  cases (v4l2AllocBuffers_allocates (by decide) halloc).2 with
  | busy hn => exact absurd h0 hn
  | refused _ hreq => rw [hreq] at hn; cases hn
  | surplus | nomem | ok => decide

/-- A release the driver consents to. -/
theorem Frees.nbufs {ret : Int} (h : Frees env k d ret k' d') (ht : d.Tracked) (hg : d.Granted env k.tick) :
    d'.nbufs = 0 := by
  cases h with
  | idle h0 => exact h0
  | freed hn hg hfree => exact (hfree ht).nbufs
  | refused hn hno hret hn' => exact absurd hg hno

/-- Giving back what a start has got, if it has failed. -/
theorem giveBack_nbufs {ret ret' : Int} (hp : d.Plain) (ht : d.Tracked)
    (hg : ret < 0 → d.Granted env k.tick) (hret : ret' < 0) (h : giveBack env (ret, k, d) = .ok (ret', k', d')) :
    d'.nbufs = 0 := by
  obtain ⟨-, -, ⟨-, h0, -⟩ | ⟨hlt, -, r, hfrees⟩⟩ := giveBack_frees hp h
  · omega
  · exact hfrees.nbufs ht (hg hlt)

/-- Stopping a device. -/
theorem stop_nbufs {r r₁ : Int} {k₁ : Kernel} {d₁ : Device} (hp : d.Plain) (ht : d.Tracked)
    (hsp : d.StopSpared env k) (hoff : v4l2StreamOff env k d = (r₁, k₁, d₁))
    (hfree : v4l2FreeBuffers env k₁ d₁ = .ok (r, k', d')) : d'.nbufs = 0 := by
  have hp₁ := (v4l2StreamOff_steady hp hoff).plain
  have ht₁ := (v4l2StreamOff_works hoff).tracked ht
  exact (v4l2FreeBuffers_frees hp₁ hfree).2.nbufs ht₁ (hsp r₁ k₁ d₁ hoff)

theorem UvcStreams.kept {on : Bool} {ret : Int} (h : UvcStreams env io g on ret g' io') (hp : g.vdev.Plain)
    (hk : g.vdev.Kept g.isStreaming) (hs : g.Spared env io.kernel on) : g'.vdev.Kept g'.isStreaming := by
  refine ⟨(h.works hp).tracked hk.tracked, ?_⟩
  cases h with
  | idle h => exact hk.idle
  | stopped hon hoff hfree =>
      intro _
      exact stop_nbufs hp hk.tracked (hs (by rw [hon]; decide)) hoff hfree
  | failed hoff hret hstart =>
      intro _
      have h0 := hk.idle hoff
      have hsp : g.StartSpared env io.kernel := hs (by rw [hoff]; decide)
      rw [uvcVideoStart_eq h0] at hstart
      obtain ⟨⟨ret₁, k₁, d₁⟩, hacq, hback⟩ := bind_eq_ok.mp hstart
      obtain ⟨hw, hp₁, -⟩ := uvcAcquire_acquires h0 hacq
      exact giveBack_nbufs hp₁ (hw.tracked hk.tracked) (hsp ret₁ k₁ d₁ hacq) hret hback
  | started hoff hstart => intro h; cases h

theorem V4lStreams.kept {on : Bool} {ret : Int} (h : V4lStreams env io c on ret c' io') (hp : c.vdev.Plain)
    (hk : c.vdev.Kept c.isStreaming) (hs : c.Spared env io on) : c'.vdev.Kept c'.isStreaming := by
  refine ⟨(h.works hp).tracked hk.tracked, ?_⟩
  cases h with
  | idle h => exact hk.idle
  | stopped hon hoff hfree =>
      intro _
      exact stop_nbufs hp hk.tracked (hs (by rw [hon]; decide)) hoff hfree
  | nomem hoff hmem => exact hk.idle
  | failed hoff hmem hret hstart =>
      intro _
      have h0 := hk.idle hoff
      have hsp : c.StartSpared env io.kernel.ask := hs (by rw [hoff]; decide)
      rw [mallocFrames_kernel hmem, v4lVideoStart_eq h0] at hstart
      obtain ⟨⟨ret₁, k₁, d₁⟩, hacq, hback⟩ := bind_eq_ok.mp hstart
      obtain ⟨hw, hp₁, -⟩ := acquire_acquires (queueAll_queuesBuffers env) h0 hacq
      exact giveBack_nbufs hp₁ (hw.tracked hk.tracked) (hsp ret₁ k₁ d₁ hacq) hret hback
  | started hoff hmem hstart hon => intro h; cases h

/-! ## Every step -/

structure Sys.Kept (s : Sys) : Prop where
  gadgets : ∀ g ∈ s.gadgets, g.vdev.Kept g.isStreaming
  captures : ∀ c ∈ s.captures, c.vdev.Kept c.isStreaming

theorem Sys.Kept.reusable (h : s.Kept) : s.Reusable := by
  refine ⟨fun g hg hoff => ?_, fun c hc hoff => ?_⟩
  · have := h.gadgets g hg
    rw [hoff] at this
    exact this.reusable
  · have := h.captures c hc
    rw [hoff] at this
    exact this.reusable

theorem kept_fresh {name : DevName} (h : v4l2Open env k name = (some d, k')) : d.Kept false := by
  cases v4l2Open_opens h with
  | opened hchat => exact ⟨⟨fun i => by simp [File.fresh], List.nodup_nil⟩, fun _ => rfl⟩

theorem Turns.kept {streaming : Bool} (h : Turns env k d k' d') (hk : d.Kept streaming) : d'.Kept streaming :=
  ⟨h.tracked hk.tracked, fun hoff => h.nbufs.trans (hk.idle hoff)⟩

theorem UvcCalls.kept (h : UvcCalls env io g g' io') (hp : g.vdev.Plain) (hk : g.vdev.Kept g.isStreaming)
    (hs : ∀ on : Bool, env.dqevent io.kernel.tick g.vdev.file = .ok (if on then .streamon else .streamoff) →
      g.Spared env (io.polled g.vdev.fd).kernel on) : g'.vdev.Kept g'.isStreaming := by
  cases h with
  | quiet hev ht => exact ⟨⟨hk.tracked.mapped, hk.tracked.nodup⟩, hk.idle⟩
  | commit hev hcontrol hset =>
      obtain ⟨hd, hn, -⟩ := hset.drives
      refine ⟨hd.tracked hk.tracked, ?_⟩
      rw [hset.gadget]
      exact fun hoff => hn.trans (hk.idle hoff)
  | stream on hev hstream => exact hstream.kept hp hk (hs on hev)

theorem Tuned.kept (h : Tuned c c') (hk : c.vdev.Kept c.isStreaming) : c'.vdev.Kept c'.isStreaming := by
  rw [h.device, h.streaming]
  exact ⟨⟨hk.tracked.mapped, hk.tracked.nodup⟩, hk.idle⟩

theorem TunesAll.kept {captures captures' : List Capture} (h : TunesAll k captures k' captures')
    (hk : ∀ c ∈ captures, c.vdev.Kept c.isStreaming) : ∀ c ∈ captures', c.vdev.Kept c.isStreaming := by
  have heach := h.each
  clear h
  induction heach with
  | nil => exact hk
  | cons htune hrest ih =>
      intro x hx
      rcases List.mem_cons.mp hx with rfl | hx
      · exact htune.kept (hk _ List.mem_cons_self)
      · exact ih (fun y hy => hk y (List.mem_cons_of_mem _ hy)) x hx

theorem UvcServes.kept {m : Message} {r : Int} (h : UvcServes env s m r s') (hk : s.Kept) :
    s'.Kept ∧ s'.captures = s.captures := by
  cases h with
  | skipped => exact ⟨hk, rfl⟩
  | attach hreg hatt =>
      cases hatt with
      | missing hopen => exact ⟨⟨hk.gadgets, hk.captures⟩, rfl⟩
      | rejected hup => exact ⟨⟨hk.gadgets, hk.captures⟩, rfl⟩
      | attached hopen htype hmem hinit hret =>
          refine ⟨⟨forall_snoc hk.gadgets ?_, hk.captures⟩, rfl⟩
          rw [(uvcGadgetInit_talks hinit).2]
          exact kept_fresh hopen
  | detach hdet =>
      cases hdet with
      | missed h => exact ⟨⟨hk.gadgets, hk.captures⟩, rfl⟩
      | detached hsp hstop => exact ⟨⟨forall_erased hsp.eq hk.gadgets, hk.captures⟩, rfl⟩
  | copied hsp =>
      have hg := hk.gadgets _ hsp.mem
      exact ⟨⟨forall_replaced hsp.eq hk.gadgets hg, hk.captures⟩, rfl⟩

theorem CaptureServes.kept {m : Message} (h : CaptureServes env s m s') (hp : AllPlain s.captures) (hk : s.Kept)
    (hstream : ∀ {id : UInt32} {on : Bool} {pre post : List Capture} {c : Capture}, m = streamNews id on →
      SplitsAt (·.gadgetId = id) s.captures pre c post → c.Spared env s.io on)
    (hpart : ∀ {id : UInt32} {pre post : List Capture} {c : Capture}, m = .uvcDetached id →
      SplitsAt (·.gadgetId = id) s.captures pre c post → c.Spared env s.io false) : s'.Kept := by
  cases h with
  | skipped => exact hk
  | attach hatt =>
      cases hatt with
      | missing hopen => exact ⟨hk.gadgets, hk.captures⟩
      | rejected hup => exact ⟨hk.gadgets, hk.captures⟩
      | attached hopen htype hmem => exact ⟨hk.gadgets, forall_snoc hk.captures (kept_fresh hopen)⟩
  | detach hdet =>
      cases hdet with
      | missed h => exact ⟨hk.gadgets, hk.captures⟩
      | detached hsp hstop => exact ⟨hk.gadgets, forall_erased hsp.eq hk.captures⟩
  | setFmt htune => exact ⟨hk.gadgets, htune.kept hk.captures⟩
  | stream on hcall =>
      cases hcall with
      | missed => exact ⟨hk.gadgets, hk.captures⟩
      | found hsp hcall =>
          refine ⟨hk.gadgets, forall_replaced hsp.eq hk.captures ?_⟩
          exact hcall.kept (hp _ hsp.mem) (hk.captures _ hsp.mem) (hstream rfl hsp)
  | part hcall =>
      cases hcall with
      | missed => exact ⟨hk.gadgets, hk.captures⟩
      | found hsp hcall =>
          refine ⟨hk.gadgets, forall_replaced hsp.eq hk.captures ?_⟩
          exact hcall.kept (hp _ hsp.mem) (hk.captures _ hsp.mem) (hpart rfl hsp)

theorem Does.kept (hst : s.Stands) (h : Does env s a s') (hk : s.Kept) (hsp : StepSpared env a s) :
    s'.Kept := by
  cases h with
  | turn | plug | unplug | signal | init | scan | looper | hotplug => exact ⟨hk.gadgets, hk.captures⟩
  | gadget hat hs hcall =>
      have hal := hst.alive (by rw [hat]; simp)
      refine ⟨forall_replaced hs.eq hk.gadgets ?_, hk.captures⟩
      -- a stop gives the buffers back, as `hsp` says
      exact hcall.kept (hal.fit.gadgets _ hs.mem).1 (hk.gadgets _ hs.mem) fun on hev =>
        (hsp rfl).gadget hat hs hev
  | video hat hs hcall =>
      refine ⟨forall_replaced hs.eq hk.gadgets ?_, hk.captures⟩
      have hturn := (uvcVideoProcess_turns hcall).kept (hk.gadgets _ hs.mem)
      rw [(uvcVideoProcess_only hcall).1]
      exact hturn
  | capture hat hs hcall =>
      refine ⟨hk.gadgets, forall_replaced hs.eq hk.captures ?_⟩
      obtain ⟨hturn, -, hstreaming, -⟩ := captureProcess_turns hcall
      rw [hstreaming]
      exact hturn.kept (hk.captures _ hs.mem)
  | handle hat hm hserve =>
      have hal := hst.alive (by rw [hat]; simp)
      obtain ⟨r, s₂, hu, hc⟩ := hserve
      obtain ⟨hk₂, hcaptures⟩ := hu.kept hk
      rcases hc with ⟨-, rfl⟩ | hc
      · exact ⟨hk₂.gadgets, hk₂.captures⟩
      · -- the captures handle what the gadgets have passed on
        have hplain : AllPlain s₂.captures := by rw [hcaptures]; exact hal.fit.captures
        have hk' := hc.kept hplain hk₂ (fun {id on pre post c} hmsg hsplit => ?_)
          fun {id pre post c} hmsg hsplit => ?_
        · exact ⟨hk'.gadgets, hk'.captures⟩
        · subst hmsg
          have hwhat : (streamNews id on).what = .videoStreamOn ∨ (streamNews id on).what = .videoStreamOff := by
            cases on
            · exact .inr rfl
            · exact .inl rfl
          obtain rfl := hu.passed (by rcases hwhat with h | h <;> rw [h] <;> decide)
            (by rcases hwhat with h | h <;> rw [h] <;> decide) (by rcases hwhat with h | h <;> rw [h] <;> decide)
          exact (hsp rfl).stream hat hsplit
        · subst hmsg
          obtain rfl := hu.passed (by simp [Message.uvcDetached]) (by simp [Message.uvcDetached])
            (by simp [Message.uvcDetached])
          exact (hsp rfl).part hat hsplit
  | cleanup hat h =>
      have hal := hst.alive (by rw [hat]; simp)
      obtain ⟨hg, hc⟩ := looperCleanup_empties hal.fit.staffed h
      refine ⟨fun g hgm => ?_, fun c hcm => ?_⟩
      · rw [show (Sys.gadgets _) = [] from hg] at hgm; cases hgm
      · rw [show (Sys.captures _) = [] from hc] at hcm; cases hcm

/-- **An object that does not stream holds nothing and can be started again**, in every state of a run whose
    stops and failed starts are all granted their release. -/
theorem idle_devices_reusable {nodes : List DevName} {inforce : Nat → PixFormat} {as : List Action}
    (hC : Along (step env) (StepSpared env) as (boot env nodes inforce))
    (h : run env as (boot env nodes inforce) = .ok s) : s.Reusable := by
  have hk : s.Kept := (run_does (I := Sys.Kept) (fun a s s' hst hk hsp h => h.kept hst hk hsp)
    ⟨fun g hg => (by cases hg), fun c hc => (by cases hc)⟩ hC h).2
  exact hk.reusable

/-- An output device whose host starts the stream and stops it, and a driver that does not let go of a
    mapping. -/
def clingingBench (munmap : Option Errno) : Env :=
  { Env.obliging [videoName 0] [(25, .streamon), (1000, .streamoff)] with munmap := fun _ _ _ => munmap }

def startAndStop : List Action := [.next, .next] ++ [[3], [6], [6]].flatMap (turn · 12)

/-- A driver that lets go. -/
theorem idle_devices_reusable_stopped :
    ∃ s, run (clingingBench none) startAndStop (boot (clingingBench none) [videoName 0] fun _ => .zero) = .ok s ∧
      s.Reusable ∧ ∃ g ∈ s.gadgets, g.isStreaming = false ∧ g.vdev.file.count = 0 := by
  obtain ⟨s, hs, hg⟩ : ∃ s, run (clingingBench none) startAndStop
      (boot (clingingBench none) [videoName 0] fun _ => .zero) = .ok s ∧
      ∃ g ∈ s.gadgets, g.isStreaming = false ∧ g.vdev.file.count = 0 := by
    decide +kernel
  have hrel : ReleasesSucceed (clingingBench none) := ⟨fun _ _ _ => rfl, fun _ _ => ⟨_, rfl⟩⟩
  have hspared : ∀ a s, True → StepSpared (clingingBench none) a s := fun _ s _ _ => hrel.spares s
  exact ⟨s, hs, idle_devices_reusable ((along_true _ _).mono hspared) hs, hg⟩

/-- **A device that can never be started again**: it does not stream, it has kept its buffers, and a start is
    answered with `-EBUSY` although the driver would give buffers. -/
theorem kept_mapping :
    ∃ s, run (clingingBench (some .EINVAL)) startAndStop
        (boot (clingingBench (some .EINVAL)) [videoName 0] fun _ => .zero) = .ok s ∧ ¬s.Reusable := by
  obtain ⟨s, hs, g, hg, hoff, hn⟩ : ∃ s, run (clingingBench (some .EINVAL)) startAndStop
      (boot (clingingBench (some .EINVAL)) [videoName 0] fun _ => .zero) = .ok s ∧
      ∃ g ∈ s.gadgets, g.isStreaming = false ∧ g.vdev.nbufs ≠ 0 := by
    decide +kernel
  exact ⟨s, hs, fun h => hn (h.gadgets g hg hoff).nbufs⟩

end Uvcd
