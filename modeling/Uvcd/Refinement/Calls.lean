import Uvcd.Refinement.Steps
import Uvcd.Refinement.Logs

/-!
# `Refinement.Calls` — the callbacks, by what they call

`UvcCalls` is the inversion of a gadget's callback: one constructor for each thing it calls, with the result of
the call. `Turns` is what the video callbacks do to their devices.
-/

namespace Uvcd

open Machine Split

variable {env : Env} {k k' : Kernel} {d d' : Device} {io io' : Io} {g g' : Gadget} {c c' : Capture}

/-! ## The gadget's callback -/

/-- The event has been taken from the driver. -/
def Io.polled (io : Io) (fd : Nat) : Io := { io with kernel := io.kernel.call (.ioctl fd) }

/-- The gadget's fields after the data of a commit, before its driver is asked. -/
def Gadget.committed (g : Gadget) (data : RequestData) : Gadget :=
  { g with
    commit := (selectFormat uvcFormats (StreamingControl.ofBytes data.data)).apply g.commit
    fcc := (selectFormat uvcFormats (StreamingControl.ofBytes data.data)).format.fcc
    width := (selectFormat uvcFormats (StreamingControl.ofBytes data.data)).frame.width
    height := (selectFormat uvcFormats (StreamingControl.ofBytes data.data)).frame.height }

/-- The format a gadget asks its driver for. -/
def Gadget.asked (g : Gadget) : PixFormat := ⟨g.width, g.height, g.fcc, PixFormat.FIELD_NONE, 0⟩

/-- **What `uvc_video_set_format` does.** -/
inductive SetsVideo (env : Env) (io : Io) (g : Gadget) : Gadget → Io → Prop
  | nomem {io₁ : Io} (hmem : io.malloc env = (none, io₁)) : SetsVideo env io g g io₁
  | refused {p : Nat} {io₁ : Io} {ret : Int} {fmt : PixFormat} {k : Kernel} {d : Device}
      (hmem : io.malloc env = (some p, io₁)) (hret : ret < 0)
      (hset : v4l2SetFormat env io₁.kernel g.vdev g.asked = (ret, fmt, k, d)) :
      SetsVideo env io g { g with vdev := d }
        (Io.free { io₁ with allocs := io₁.allocs ++ [p], kernel := k } p)
  | posted {p : Nat} {io₁ : Io} {ret : Int} {fmt : PixFormat} {k : Kernel} {d : Device}
      (hmem : io.malloc env = (some p, io₁)) (hret : ¬ret < 0)
      (hset : v4l2SetFormat env io₁.kernel g.vdev g.asked = (ret, fmt, k, d)) :
      SetsVideo env io g { g with vdev := d }
        (Io.post env { io₁ with allocs := io₁.allocs ++ [p], kernel := k } (.setFmt g.id p fmt))

theorem uvcVideoSetFormat_sets {ret : Int} (h : uvcVideoSetFormat env io g = (ret, g', io')) :
    SetsVideo env io g g' io' := by
  unfold uvcVideoSetFormat at h
  split at h
  · next io₁ hmem => cases h; exact .nomem hmem
  · next p io₁ hmem =>
      dsimp only at h
      generalize hset : v4l2SetFormat env io₁.kernel g.vdev ⟨g.width, g.height, g.fcc, PixFormat.FIELD_NONE, 0⟩
        = r at h
      obtain ⟨ret₁, fmt, k₁, d₁⟩ := r
      dsimp only at h
      split at h
      · next hret => cases h; exact .refused hmem hret hset
      · next hret => cases h; exact .posted hmem hret hset

/-- An event that is neither the data of a commit nor about the stream. -/
structure Mundane (g : Gadget) (event : Except Errno UvcEvent) : Prop where
  commit : ∀ data, event = .ok (.data data) → g.control ≠ VS_COMMIT_CONTROL
  stream : ∀ on : Bool, event ≠ .ok (if on then .streamon else .streamoff)

/-- **What `uvc_gadget_process` does**, for a gadget that is not a bulk one. -/
inductive UvcCalls (env : Env) (io : Io) (g : Gadget) : Gadget → Io → Prop
  /-- an answer to the host, or nothing -/
  | quiet {probe : StreamingControl} {control : UInt8} {response : Option RequestData} {k : Kernel}
      (hev : Mundane g (env.dqevent io.kernel.tick g.vdev.file)) (ht : Talks g.vdev.fd io.kernel k) :
      UvcCalls env io g
        { g with
          probe := probe, control := control
          vdev := { g.vdev with file := { g.vdev.file with response := response } } }
        { io with kernel := k }
  | commit {data : RequestData} {g' : Gadget} {io' : Io}
      (hev : env.dqevent io.kernel.tick g.vdev.file = .ok (.data data)) (hcontrol : g.control = VS_COMMIT_CONTROL)
      (hset : SetsVideo env (io.polled g.vdev.fd) (g.committed data) g' io') : UvcCalls env io g g' io'
  | stream (on : Bool) {ret : Int} {g' : Gadget} {io' : Io}
      (hev : env.dqevent io.kernel.tick g.vdev.file = .ok (if on then .streamon else .streamoff))
      (hs : UvcStreams env (io.polled g.vdev.fd) g on ret g' io') : UvcCalls env io g g' io'

theorem SetsVideo.gadget (h : SetsVideo env io g g' io') : g' = { g with vdev := g'.vdev } := by
  cases h with
  | nomem hmem => rfl
  | refused hmem hret hset => rfl
  | posted hmem hret hset => rfl

theorem uvcEventsProcessData_calls' {data : RequestData} (hbulk : g.bulk = 0)
    (hev : env.dqevent io.kernel.tick g.vdev.file = .ok (.data data))
    (h : uvcEventsProcessData uvcFormats env (io.polled g.vdev.fd) g data = .ok (g', io')) :
    UvcCalls env io g g' io' := by
  have hpolled : Talks g.vdev.fd io.kernel (io.polled g.vdev.fd).kernel := .call _ _
  unfold uvcEventsProcessData at h
  dsimp only at h
  split at h
  · next hprobe =>
      cases h
      refine .quiet ⟨fun d _ hc => ?_, fun on => ?_⟩ hpolled
      · rw [hprobe] at hc; exact absurd hc (by decide)
      · rw [hev]; cases on <;> simp
  · split at h
    · next hcontrol =>
        generalize hs : uvcVideoSetFormat env (io.polled g.vdev.fd) (g.committed data) = r
        obtain ⟨ret, g₁, io₁⟩ := r
        have hset := uvcVideoSetFormat_sets hs
        have hbulk₁ : g₁.bulk = 0 := by rw [hset.gadget]; exact hbulk
        unfold Gadget.committed at hs
        rw [hs] at h
        dsimp only at h
        -- the function is not a bulk one, so a commit does not start it
        rw [if_neg (by rw [hbulk₁]; decide)] at h
        cases h
        exact .commit hev hcontrol hset
    · next hother =>
        cases h
        exact .quiet ⟨fun _ _ => hother, fun on => by rw [hev]; cases on <;> simp⟩ hpolled

theorem uvcGadgetProcess_does (hbulk : g.bulk = 0) (h : uvcGadgetProcess env io g = .ok (g', io')) :
    UvcCalls env io g g' io' := by
  have hpolled : Talks g.vdev.fd io.kernel (io.polled g.vdev.fd).kernel := .call _ _
  -- nothing but data and the stream events makes the callback do more than answer
  have hother : ∀ {event : Except Errno UvcEvent}, env.dqevent io.kernel.tick g.vdev.file = event →
      (∀ data, event ≠ .ok (.data data)) → event ≠ .ok .streamon → event ≠ .ok .streamoff →
      Mundane g (env.dqevent io.kernel.tick g.vdev.file) := by
    intro event hev hdata hon hoff
    rw [hev]
    refine ⟨fun data h => absurd h (hdata data), fun on => ?_⟩
    cases on
    · exact hoff
    · exact hon
  unfold uvcGadgetProcess at h
  dsimp only at h
  split at h
  · next e hev => cases h; exact .quiet (hother hev (by simp) (by simp) (by simp)) hpolled
  · next hev => cases h; exact .quiet (hother hev (by simp) (by simp) (by simp)) hpolled
  · next hev => cases h; exact .quiet (hother hev (by simp) (by simp) (by simp)) hpolled
  · next req hev =>
      obtain ⟨ctl, hc⟩ := uvcEventsProcessSetup_gadget uvcFormats g req .stall
      injection h with h
      have h₁ := congrArg Prod.fst h
      have h₂ := congrArg Prod.snd h
      dsimp only at h₁ h₂
      rw [hc] at h₁ h₂
      rw [← h₁, ← h₂]
      exact .quiet (hother hev (by simp) (by simp) (by simp)) (hpolled.trans (.call _ _))
  · next data hev => exact uvcEventsProcessData_calls' hbulk hev h
  · next hev =>
      obtain ⟨⟨ret, g₁, io₁⟩, hs, h⟩ := bind_eq_ok.mp h
      cases h
      exact .stream true hev (uvcVideoStream_streams hs)
  · next hev =>
      obtain ⟨⟨ret, g₁, io₁⟩, hs, h⟩ := bind_eq_ok.mp h
      cases h
      exact .stream false hev (uvcVideoStream_streams hs)
  · next hev =>
      cases h
      exact .quiet (hother hev (by simp) (by simp) (by simp)) (hpolled.trans (.call _ _))

/-! ## What a gadget's callback does to its device -/

theorem SetsVideo.drives (h : SetsVideo env io g g' io') :
    Drives io.kernel g.vdev io'.kernel g'.vdev ∧ g'.vdev.nbufs = g.vdev.nbufs ∧
      g'.vdev.file = g.vdev.file := by
  have hask : ∀ {r : Option Nat} {io₁ : Io}, io.malloc env = (r, io₁) →
      Drives io.kernel g.vdev io₁.kernel g.vdev := fun hmem => by
    unfold Io.malloc at hmem
    split at hmem <;> · cases hmem; exact (Works.ask _ _).toDrives
  cases h with
  | nomem hmem => exact ⟨hask hmem, rfl, rfl⟩
  | refused hmem hret hset =>
      obtain ⟨-, hd, -⟩ := v4l2SetFormat_spec hset
      exact ⟨(hask hmem).trans (v4l2SetFormat_drives hset), by rw [hd], by rw [hd]⟩
  | posted hmem hret hset =>
      obtain ⟨-, hd, -⟩ := v4l2SetFormat_spec hset
      refine ⟨(hask hmem).trans ?_, by rw [hd], by rw [hd]⟩
      rw [post_kernel]
      exact (v4l2SetFormat_drives hset).trans (Works.ask _ _).toDrives

theorem UvcCalls.drives (h : UvcCalls env io g g' io') (hp : g.vdev.Plain) :
    Drives io.kernel g.vdev io'.kernel g'.vdev := by
  have hpolled : Drives io.kernel g.vdev (io.polled g.vdev.fd).kernel g.vdev := (Works.call _ _).toDrives
  cases h with
  | quiet hev ht =>
      refine Works.toDrives (.of_eq ?_ rfl rfl rfl rfl rfl)
      exact ht
  | commit hev hcontrol hset => exact hpolled.trans hset.drives.1
  | stream on hev hs => exact hpolled.trans (hs.works hp).toDrives

/-- The callback keeps who the gadget is. -/
theorem UvcCalls.same (h : UvcCalls env io g g' io') : g'.addr = g.addr ∧ g'.id = g.id := by
  cases h with
  | quiet hev ht => exact ⟨rfl, rfl⟩
  | commit hev hcontrol hset => rw [hset.gadget]; exact ⟨rfl, rfl⟩
  | stream on hev hs => rw [hs.gadget]; exact ⟨rfl, rfl⟩

/-! ## The video callbacks -/

theorem v4l2DequeueBuffer_nbufs {r : Except Errno VideoBuffer}
    (h : v4l2DequeueBuffer env k d = .ok (r, k', d')) : d'.nbufs = d.nbufs := by
  unfold v4l2DequeueBuffer at h
  dsimp only at h
  split at h
  · cases h; rfl
  · split at h
    · cases h
    · cases h; rfl

theorem v4l2QueueBuffer_nbufs {b : VideoBuffer} {ret : Int} (h : v4l2QueueBuffer env k d b = (ret, k', d')) :
    d'.nbufs = d.nbufs := by
  unfold v4l2QueueBuffer at h
  split at h
  · cases h; rfl
  · dsimp only at h
    split at h <;> · cases h; rfl

/-- Writing into a mapped buffer. -/
theorem works_writeMem (k : Kernel) (d : Device) (i : Nat) {mem : Option Bytes} (hm : mem.isSome = true) :
    Works k d k (d.writeMem i mem) := by
  refine ⟨⟨.refl _ k, rfl, fun h => ⟨fun j => (h.mapped j).trans (and_congr_right fun _ => ?_), h.nodup⟩⟩, rfl⟩
  show _ ↔ ∃ c, (d.buffers.modify i _)[j]? = some c ∧ _
  rw [List.getElem?_modify, Option.map_eq_map]
  cases d.buffers[j]? with
  | none => simp
  | some b =>
      simp only [Option.map_some, Option.some.injEq, exists_eq_left']
      by_cases hij : i = j
      · -- it is mapped if and only if it was
        rw [if_pos hij]
        cases b.mem with
        | none => rfl
        | some m => exact iff_of_true rfl hm
      · rw [if_neg hij]

theorem uvcVideoFillBuffer_isSome {b b' : VideoBuffer} (hf : g.fcc = PixFormat.YUYV)
    (h : uvcVideoFillBuffer g b = .ok b') : b'.mem.isSome = true := by
  unfold uvcVideoFillBuffer at h
  rw [if_pos hf] at h
  split at h
  · cases h
  · split at h
    · cases h
    · cases h; rfl

/-- What a video callback does to its device. -/
structure Turns (env : Env) (k : Kernel) (d : Device) (k' : Kernel) (d' : Device) : Prop
    extends Works k d k' d' where
  nbufs : d'.nbufs = d.nbufs

theorem uvcVideoProcess_turns (h : uvcVideoProcess env io g = .ok (g', io')) :
    Turns env io.kernel g.vdev io'.kernel g'.vdev := by
  unfold uvcVideoProcess at h
  obtain ⟨⟨r, k₁, d₁⟩, hdq, h⟩ := bind_eq_ok.mp h
  have hw := v4l2DequeueBuffer_works hdq
  have hn := v4l2DequeueBuffer_nbufs hdq
  dsimp only at h
  split at h
  · cases h
    exact ⟨hw, hn⟩
  · obtain ⟨b, hfill, h⟩ := bind_eq_ok.mp h
    have hwrite : Works k₁ d₁ k₁ (if g.fcc = PixFormat.YUYV then d₁.writeMem b.index b.mem else d₁) ∧
        (if g.fcc = PixFormat.YUYV then d₁.writeMem b.index b.mem else d₁).nbufs = d₁.nbufs := by
      split
      · next hf => exact ⟨works_writeMem _ _ _ (uvcVideoFillBuffer_isSome hf hfill), rfl⟩
      · exact ⟨.refl _ _, rfl⟩
    cases h
    exact ⟨(hw.trans hwrite.1).trans (v4l2QueueBuffer_works rfl),
      (v4l2QueueBuffer_nbufs rfl).trans (hwrite.2.trans hn)⟩

/-- Nothing but the device and the kernel is touched. -/
theorem uvcVideoProcess_only (h : uvcVideoProcess env io g = .ok (g', io')) :
    g' = { g with vdev := g'.vdev } ∧ io' = { io with kernel := io'.kernel } := by
  unfold uvcVideoProcess at h
  obtain ⟨⟨r, k₁, d₁⟩, hdq, h⟩ := bind_eq_ok.mp h
  dsimp only at h
  split at h
  · cases h; exact ⟨rfl, rfl⟩
  · obtain ⟨b, hfill, h⟩ := bind_eq_ok.mp h
    cases h; exact ⟨rfl, rfl⟩

/-- Publishing a frame. -/
theorem publish_logs (env : Env) (io : Io) (id : UInt32) (p : FramePtr) (f : Frame) {io' : Io}
    (h : (if (looperSendMessage env io (.frameAvailable id p)).1 = 0 then
        { (looperSendMessage env io (.frameAvailable id p)).2 with
          posted := (looperSendMessage env io (.frameAvailable id p)).2.posted ++ [f] }
      else (looperSendMessage env io (.frameAvailable id p)).2) = io') :
    io'.kernel = io.kernel.ask ∧
      ∃ ms, (∀ m ∈ ms, ∃ id p, m = .frameAvailable id p) ∧ Logs ms [] [] io io' := by
  have hl := logs_post env io (.frameAvailable id p)
  have hk := post_kernel env io (.frameAvailable id p)
  unfold Io.post at hl hk
  refine ⟨?_, _, fun m hm => ⟨id, p, ?_⟩, Logs.before hl ?_⟩
  · rw [← h, ← hk]
    split <;> rfl
  · split at hm
    · exact List.mem_singleton.mp hm
    · cases hm
  · rw [← h]
    split <;> exact silent_of_eq rfl rfl rfl rfl (Nat.le_refl _)

/-- What `capture_process` does to its device, and what it logs. -/
theorem captureProcess_turns (h : captureProcess env io c = .ok (c', io')) :
    Turns env io.kernel c.vdev io'.kernel c'.vdev ∧ c'.addr = c.addr ∧ c'.isStreaming = c.isStreaming ∧
      ∃ ms, (∀ m ∈ ms, ∃ id p, m = .frameAvailable id p) ∧ Logs ms [] [] io io' := by
  unfold captureProcess at h
  obtain ⟨⟨r, k₁, d₁⟩, hdq, h⟩ := bind_eq_ok.mp h
  have hw := v4l2DequeueBuffer_works hdq
  have hn := v4l2DequeueBuffer_nbufs hdq
  dsimp only at h
  split at h
  · cases h
    exact ⟨⟨hw, hn⟩, rfl, rfl, [], fun m hm => (by cases hm), silent_kernel io _⟩
  · next buf =>
      obtain ⟨⟨ret, c₂, io₂⟩, hproc, h⟩ := bind_eq_ok.mp h
      dsimp only at h
      generalize hq : v4l2QueueBuffer env io₂.kernel c₂.vdev buf = q at h
      obtain ⟨ret₃, k₃, d₃⟩ := q
      cases h
      -- the conversion leaves the device alone and sends at most the frame's pointer
      have hmid : (io₂.kernel = k₁ ∨ io₂.kernel = k₁.ask) ∧ c₂.vdev = d₁ ∧ c₂.addr = c.addr ∧
          c₂.isStreaming = c.isStreaming ∧
          ∃ ms, (∀ m ∈ ms, ∃ id p, m = .frameAvailable id p) ∧ Logs ms [] [] io io₂ := by
        unfold v4lProcessBuffer at hproc
        dsimp only at hproc
        split at hproc
        · cases hproc
          exact ⟨.inl rfl, rfl, rfl, rfl, [], fun m hm => (by cases hm), silent_kernel io k₁⟩
        · split at hproc
          · split at hproc
            · cases hproc
            · injection hproc with hproc
              injection hproc with _ hproc
              injection hproc with hc hio
              subst hc
              obtain ⟨hk, ms, hms, hl⟩ := publish_logs env _ _ _ _ hio
              exact ⟨.inr hk, rfl, rfl, rfl, ms, hms, (silent_kernel io k₁).after hl⟩
          · cases hproc
      obtain ⟨hk, hd, ha, hst, ms, hms, hl⟩ := hmid
      rw [hd] at hq
      have hwq := v4l2QueueBuffer_works hq
      have hwk : Works k₁ d₁ io₂.kernel d₁ := by
        rcases hk with hk | hk
        · rw [hk]; exact .refl _ _
        · rw [hk]; exact .ask _ _
      exact ⟨⟨(hw.trans hwk).trans hwq, (v4l2QueueBuffer_nbufs hq).trans hn⟩, ha, hst, ms, hms,
        hl.before (silent_kernel io₂ k₃)⟩

end Uvcd
