import Mathlib.Tactic.SplitIfs
import Uvcd.Protocol.Controls
import Uvcd.Refinement.Board

/-!
# `Refinement.Gadgets` — the functions of `uvc_gadget.c` refine the protocol

One lemma per function: what it does to the shared state and to the view of its gadget is the protocol's
relation of the same name, and what it does to the device is `Uses` or `Steady`.
-/

namespace Uvcd

open Machine Split

variable {env : Env} {b : List Message}

/-! ## Video streaming -/

theorem uvcVideoFillBuffer_spec {g : Gadget} {b b' : VideoBuffer} (h : uvcVideoFillBuffer g b = .ok b') :
    b'.index = b.index ∧ b'.size = b.size ∧ b'.dmabuf = b.dmabuf ∧
      (b'.mem.isSome = true → b.mem.isSome = true) := by
  unfold uvcVideoFillBuffer at h
  split at h
  · split at h
    · cases h
    · next mem hmem =>
        split at h
        · cases h
        · cases h; exact ⟨rfl, rfl, rfl, fun _ => by rw [hmem]; rfl⟩
  · cases h; exact ⟨rfl, rfl, rfl, id⟩

/-- Writing a mapped buffer's memory changes no buffer's bounds. -/
theorem Device.writeMem_steady {k : Kernel} {d : Device} (hp : d.Plain) (i : Nat) (mem : Option Bytes) :
    Steady env k d k (d.writeMem i mem) := by
  have hget : ∀ {j : Nat} {c : VideoBuffer}, (d.writeMem i mem).buffers[j]? = some c →
      ∃ b, d.buffers[j]? = some b ∧ c.dmabuf = b.dmabuf ∧ c.size = b.size ∧
        (c.mem.isSome = true → b.mem.isSome = true) := by
    intro j c hc
    unfold Device.writeMem at hc
    rw [List.getElem?_modify, Option.map_eq_map, Option.map_eq_some_iff] at hc
    obtain ⟨b, hb, rfl⟩ := hc
    refine ⟨b, hb, ?_⟩
    split
    · refine ⟨rfl, rfl, fun hs => ?_⟩
      cases hbm : b.mem with
      | none => rw [hbm] at hs; cases hs
      | some m => rfl
    · exact ⟨rfl, rfl, id⟩
  refine ⟨⟨.refl k, ⟨rfl, rfl, rfl, rfl⟩, ?_, fun _ hs => ⟨?_, ?_⟩⟩, rfl, rfl, id⟩
  · intro j hj c hc
    obtain ⟨b, hb, hdma, -⟩ := hget hc
    rw [hdma]; exact hp j hj b hb
  · intro c hc hsome
    obtain ⟨j, hj⟩ := List.mem_iff_getElem?.mp hc
    obtain ⟨b, hb, -, hsize, hm⟩ := hget hj
    rw [hsize]; exact hs.mapped b (List.mem_of_getElem? hb) (hm hsome)
  · intro h0 c hc
    obtain ⟨j, hj⟩ := List.mem_iff_getElem?.mp hc
    obtain ⟨b, hb, -, -, hm⟩ := hget hj
    have hbn := hs.idle h0 b (List.mem_of_getElem? hb)
    cases hcm : c.mem with
    | none => rfl
    | some m => have hbs := hm (by rw [hcm]; rfl); rw [hbn] at hbs; cases hbs

theorem uvcVideoProcess_spec {io io' : Io} {g g' : Gadget} (hp : g.vdev.Plain)
    (h : uvcVideoProcess env io g = .ok (g', io')) :
    (∃ d, g' = { g with vdev := d }) ∧ (∃ k, io' = { io with kernel := k }) ∧
      Steady env io.kernel g.vdev io'.kernel g'.vdev := by
  unfold uvcVideoProcess at h
  obtain ⟨⟨r, k₁, d₁⟩, hdq, h⟩ := bind_eq_ok.mp h
  obtain ⟨h₁, -⟩ := v4l2DequeueBuffer_steady hp hdq
  dsimp only at h
  split at h
  · cases h; exact ⟨⟨_, rfl⟩, ⟨_, rfl⟩, h₁⟩
  · obtain ⟨b, -, h⟩ := bind_eq_ok.mp h
    have h₂ : Steady env k₁ d₁ k₁
        (if g.fcc = PixFormat.YUYV then d₁.writeMem b.index b.mem else d₁) := by
      split
      · exact d₁.writeMem_steady h₁.plain _ _
      · exact .refl h₁.plain
    cases h
    exact ⟨⟨_, rfl⟩, ⟨_, rfl⟩, (h₁.trans h₂).trans (v4l2QueueBuffer_steady h₂.plain rfl)⟩

/-- One turn of the filling loop. -/
theorem fillTurn_steady {g : Gadget} {i : Nat} {k k' : Kernel} {d d' : Device} {b b' : VideoBuffer}
    {ret : Int} (hp : d.Plain) (hb : d.buffers[i]? = some b) (hfill : uvcVideoFillBuffer g b = .ok b')
    (hq : v4l2QueueBuffer env k { d with buffers := d.buffers.set i b' } b' = (ret, k', d')) :
    Steady env k d k' d' := by
  obtain ⟨-, hsize, hdma, hmem⟩ := uvcVideoFillBuffer_spec hfill
  have hset : Steady env k d k { d with buffers := d.buffers.set i b' } :=
    .set hp hb (fun hd => hdma.trans hd) (fun _ hs => Or.inl ⟨hmem hs, hsize⟩) rfl rfl
  exact hset.trans (v4l2QueueBuffer_steady hset.plain hq)

theorem fillAndQueue_steady {g : Gadget} {n : Nat} : ∀ {i : Nat} {k k' : Kernel} {d d' : Device} {ret : Int},
    d.Plain → fillAndQueue env g i n k d = .ok (ret, k', d') → Steady env k d k' d' := by
  induction n with
  | zero =>
      intro i k k' d d' ret hp h
      cases h; exact .refl hp
  | succ n ih =>
      intro i k k' d d' ret hp h
      rw [fillAndQueue] at h
      split at h
      · cases h
      · next b hb =>
          obtain ⟨b', hfill, h⟩ := bind_eq_ok.mp h
          generalize hq : v4l2QueueBuffer env k { d with buffers := d.buffers.set i b' } b' = r at h
          obtain ⟨ret₁, k₁, d₁⟩ := r
          have h₁ := fillTurn_steady hp hb hfill hq
          dsimp only at h
          split at h
          · cases h; exact h₁
          · exact h₁.trans (ih h₁.plain h)

/-- A stream start up to `VIDIOC_STREAMON`; new buffers, also those a failure leaves behind, are those of the
    format in force. -/
theorem uvcVideoStart_uses {k k' : Kernel} {g : Gadget} {d : Device} {ret : Int} (hp : g.vdev.Plain)
    (h : uvcVideoStart env k g = .ok (ret, k', d)) :
    Uses env k g.vdev k' d ∧ k'.inforce = k.inforce ∧
      g.vdev.Requested (k.inforce g.vdev.file.dev) d := by
  unfold uvcVideoStart at h
  obtain ⟨⟨ret₁, k₁, d₁⟩, halloc, h⟩ := bind_eq_ok.mp h
  obtain ⟨h₁, hin, hasked⟩ := v4l2AllocBuffers_uses hp (by decide) halloc
  dsimp only at h
  split at h
  · cases h; exact ⟨h₁, hin, hasked⟩
  · next hret₁ =>
      obtain ⟨⟨ret₂, k₂, d₂⟩, hmap, h⟩ := bind_eq_ok.mp h
      have h₂ := v4l2MmapBuffers_steady h₁.plain hmap
      obtain ⟨⟨ret₃, k₃, d₃⟩, hfill, h⟩ := bind_eq_ok.mp h
      have h₃ : Steady env k₂ d₂ k₃ d₃ := by
        dsimp only at hfill
        split at hfill
        · cases hfill; exact .refl h₂.plain
        · exact fillAndQueue_steady h₂.plain hfill
      generalize hon : (if ret₃ < 0 then (ret₃, k₃, d₃) else v4l2StreamOn env k₃ d₃) = r at h
      obtain ⟨ret₄, k₄, d₄⟩ := r
      have h₄ : Steady env k₃ d₃ k₄ d₄ := by
        split at hon
        · cases hon; exact .refl h₃.plain
        · exact v4l2StreamOn_steady h₃.plain hon
      have h₅ := (h₂.trans h₃).trans h₄
      dsimp only at h
      split at h
      · obtain ⟨⟨_, k₆, d₆⟩, hfree, h⟩ := bind_eq_ok.mp h
        have h₆ := h₅.trans (v4l2FreeBuffers_steady h₅.plain hfree)
        cases h
        exact ⟨h₁.trans h₆.toUses, h₆.inforce.trans hin, hasked.trans (h₆.requested _)⟩
      · cases h
        exact ⟨h₁.trans h₅.toUses, h₅.inforce.trans hin, hasked.trans (h₅.requested _)⟩

/-- **`uvc_video_stream (gadget, 0)` refines `StopsGadget`.** -/
theorem uvcVideoStream_stops {io io' : Io} {g g' : Gadget} {ret : Int} (hp : g.vdev.Plain)
    (h : uvcVideoStream env io g false = .ok (ret, g', io')) :
    StopsGadget env (io.board b) g.view (io'.board b) g'.view ∧
      Steady env io.kernel g.vdev io'.kernel g'.vdev ∧ g'.bulk = g.bulk := by
  unfold uvcVideoStream at h
  rw [if_pos (by rfl)] at h
  split at h
  · next hoff =>
      cases h
      exact ⟨.idle (by simpa [Gadget.view] using hoff) (.refl _), .refl hp, rfl⟩
  · next hon =>
      have hon : g.isStreaming = true := by simpa using hon
      dsimp only at h
      generalize hso : v4l2StreamOff env (io.unwatch g.vdev.fd .write).kernel g.vdev = r at h
      obtain ⟨ret₁, k₁, d₁⟩ := r
      have h₁ := v4l2StreamOff_steady hp hso
      obtain ⟨⟨ret₂, k₂, d₂⟩, hfree, h⟩ := bind_eq_ok.mp h
      have h₂ := h₁.trans (v4l2FreeBuffers_steady h₁.plain hfree)
      cases h
      have hel : Elapses ((io.board b).unwatch g.vdev.fd .write)
          ({ io.unwatch g.vdev.fd .write with kernel := k₂ }.board b) :=
        elapses_kernel (i := io.unwatch g.vdev.fd .write) h₂.keeps
      have hview : ({ g with vdev := d₂, isStreaming := false } : Gadget).view
          = { g.view with streaming := false } := by
        simp only [Gadget.view, h₂.same.fd, h₂.same.name]
      rw [hview]
      refine ⟨.stop hon (hel.posts (posts_post env _ _)), ?_, rfl⟩
      rw [post_kernel]
      exact h₂.trans (.ask h₂.plain)

/-- **`uvc_video_stream (gadget, 1)` refines `StartsGadget`**; what it allocates are buffers of the format in
    force. -/
theorem uvcVideoStream_starts {io io' : Io} {g g' : Gadget} {ret : Int} (hp : g.vdev.Plain)
    (h : uvcVideoStream env io g true = .ok (ret, g', io')) :
    StartsGadget env (io.board b) g.view (io'.board b) g'.view ∧
      Uses env io.kernel g.vdev io'.kernel g'.vdev ∧ g'.bulk = g.bulk ∧
      (g.isStreaming = true → g' = g) ∧
      g.vdev.Requested (io.kernel.inforce g.vdev.file.dev) g'.vdev := by
  unfold uvcVideoStream at h
  rw [if_neg (by decide)] at h
  split at h
  · next hon =>
      cases h
      exact ⟨.idle (.refl _), .refl hp, rfl, fun _ => rfl, .inr ⟨rfl, id⟩⟩
  · next hoff =>
      have hoff : g.isStreaming = false := by simpa using hoff
      obtain ⟨⟨ret₁, k₁, d₁⟩, hstart, h⟩ := bind_eq_ok.mp h
      obtain ⟨h₁, -, hasked⟩ := uvcVideoStart_uses hp hstart
      have hel : Elapses (io.board b) ({ io with kernel := k₁ }.board b) :=
        elapses_kernel h₁.keeps
      have hnot : g.isStreaming = true → ∀ {p : Prop}, p := fun hon => by rw [hoff] at hon; cases hon
      dsimp only at h
      split at h
      · cases h
        have hview : ({ g with vdev := d₁ } : Gadget).view = g.view := by
          simp only [Gadget.view, h₁.same.fd, h₁.same.name]
        rw [hview]
        exact ⟨.idle hel, h₁, rfl, fun hon => hnot hon, hasked⟩
      · cases h
        have hview : ({ g with vdev := d₁, isStreaming := true } : Gadget).view
            = { g.view with streaming := true } := by
          simp only [Gadget.view, h₁.same.fd, h₁.same.name]
        rw [hview]
        have hwatch := watches_watch (b := b) env { io with kernel := k₁ } d₁.fd .write
          .uvcVideoProcess (.gadget g.addr)
        rw [h₁.same.fd] at hwatch
        refine ⟨.start hoff (hel.watches hwatch) ?_, ?_, rfl, fun hon => hnot hon, hasked⟩
        · have hpost := posts_post (b := b) env
            (Io.watch env { io with kernel := k₁ } d₁.fd .write .uvcVideoProcess (.gadget g.addr))
            (.streamOn g.id)
          rw [h₁.same.fd] at hpost ⊢
          exact hpost
        · rw [post_kernel, watch_kernel]
          exact h₁.trans ((Steady.ask h₁.plain).trans (.ask h₁.plain)).toUses

/-- `uvc_video_set_format` sends the size and pixel format it was asked for, or nothing. -/
theorem uvcVideoSetFormat_spec {io io' : Io} {g g' : Gadget} {ret : Int} (hp : g.vdev.Plain)
    (h : uvcVideoSetFormat env io g = (ret, g', io')) :
    (∃ d, g' = { g with vdev := d } ∧ Uses env io.kernel g.vdev io'.kernel d ∧
        d = { g.vdev with format := d.format }) ∧
      (Elapses (io.board b) (io'.board b) ∨ ∃ p fmt, fmt.width = g.width ∧
        fmt.height = g.height ∧ fmt.pixelformat = g.fcc ∧
        Posts env (.setFmt g.id p fmt) (io.board b) (io'.board b)) := by
  unfold uvcVideoSetFormat at h
  split at h
  · next hm =>
      have hm' := malloc_none hm
      cases h
      refine ⟨⟨g.vdev, rfl, ?_, rfl⟩, .inl (elapses_malloc hm)⟩
      rw [hm']; exact (Steady.ask hp).toUses
  · next p io₁ hm =>
      have hel := elapses_malloc (b := b) hm
      have hio₁ := (malloc_some hm).2
      dsimp only at h
      generalize hs : v4l2SetFormat env io₁.kernel g.vdev ⟨g.width, g.height, g.fcc, PixFormat.FIELD_NONE, 0⟩
        = r at h
      obtain ⟨ret₁, fmt, k₁, d₁⟩ := r
      obtain ⟨hk, hdev, hw, hh, hf⟩ := v4l2SetFormat_spec hs
      obtain ⟨hu, -⟩ := v4l2SetFormat_uses hp hs
      have hu' : Uses env io.kernel g.vdev k₁ d₁ := by
        have hask : Uses env io.kernel g.vdev io₁.kernel g.vdev := by
          rw [hio₁]; exact (Steady.ask hp).toUses
        exact hask.trans hu
      have hel₁ : Elapses (io.board b)
          ({ io₁ with allocs := io₁.allocs ++ [p], kernel := k₁ }.board b) :=
        hel.trans (elapses_kernel (i := { io₁ with allocs := io₁.allocs ++ [p] }) hk)
      dsimp only at h
      split at h
      · cases h
        exact ⟨⟨d₁, rfl, hu', hdev⟩, .inl hel₁⟩
      · cases h
        refine ⟨⟨d₁, rfl, ?_, hdev⟩, .inr ⟨p, fmt, hw, hh, hf, hel₁.posts (posts_post env _ _)⟩⟩
        rw [post_kernel]
        exact hu'.trans (Steady.ask hu'.plain).toUses

/-- Whatever the host asks for, the daemon's table offers one format with one frame size. -/
theorem selectFormat_uvcFormats (ctrl : StreamingControl) :
    (selectFormat uvcFormats ctrl).format.fcc = PixFormat.YUYV ∧
      (selectFormat uvcFormats ctrl).frame.width = 320 ∧
      (selectFormat uvcFormats ctrl).frame.height = 240 := by
  have hone : ∀ x, clamp x 1 1 = 1 := fun x => by
    have := clamp_bounds x (Nat.le_refl 1)
    omega
  have hlen : uvcFormats.length = 1 := rfl
  have hframes : countFrames uvcFramesYuyv = 1 := by decide
  have hformat : uvcFormats.getD 0 FormatInfo.zero = ⟨PixFormat.YUYV, uvcFramesYuyv⟩ := rfl
  unfold selectFormat
  dsimp only
  rw [hlen, hone, Nat.sub_self, hformat]
  dsimp only
  rw [hframes, hone]
  exact ⟨rfl, rfl, rfl⟩

theorem uvcEventsProcessStreaming_gadget (formats : List FormatInfo) (g : Gadget) (req cs : UInt8)
    (resp : RequestData) :
    ∃ c, (uvcEventsProcessStreaming formats g req cs resp).1 = { g with control := c } := by
  unfold uvcEventsProcessStreaming
  by_cases hcs : cs ≠ VS_PROBE_CONTROL ∧ cs ≠ VS_COMMIT_CONTROL
  · rw [if_pos hcs]; exact ⟨g.control, rfl⟩
  · rw [if_neg hcs]
    by_cases hset : req = UVC_SET_CUR
    · exact ⟨cs, by simp only [if_pos hset]⟩
    · refine ⟨g.control, ?_⟩
      simp only [if_neg hset]
      split_ifs <;> rfl

/-- A control request changes nothing of the gadget but which control it addresses. -/
theorem uvcEventsProcessSetup_gadget (formats : List FormatInfo) (g : Gadget) (ctrl : CtrlRequest)
    (resp : RequestData) :
    ∃ c, (uvcEventsProcessSetup formats g ctrl resp).1 = { g with control := c } := by
  unfold uvcEventsProcessSetup uvcEventsProcessClass
  dsimp only
  by_cases hty : ctrl.bRequestType &&& USB_TYPE_MASK = USB_TYPE_CLASS
  · rw [if_pos hty]
    by_cases hrecip : ctrl.bRequestType &&& USB_RECIP_MASK ≠ USB_RECIP_INTERFACE
    · rw [if_pos hrecip]; exact ⟨0, rfl⟩
    · rw [if_neg hrecip]
      by_cases hintf : ctrl.wIndex &&& 0xff = UVC_INTF_STREAMING
      · rw [if_pos hintf]
        exact uvcEventsProcessStreaming_gadget formats { g with control := 0 } _ _ _
      · rw [if_neg hintf]; exact ⟨0, rfl⟩
  · rw [if_neg hty]; exact ⟨0, rfl⟩

theorem sendResponse_spec {g : Gadget} (env : Env) (io : Io) (hp : g.vdev.Plain) (resp : RequestData) :
    (sendResponse io g resp).1.view = g.view ∧
      Elapses (io.board b) ((sendResponse io g resp).2.board b) ∧
      Steady env io.kernel g.vdev (sendResponse io g resp).2.kernel (sendResponse io g resp).1.vdev :=
  ⟨rfl, elapses_kernel (Kernel.keeps_call _ _),
    .of_eq hp (Kernel.keeps_call _ _) rfl ⟨rfl, rfl, rfl, rfl⟩ rfl rfl rfl⟩

/-- A `DATA` event: a probe, a commit, or nothing to do. -/
theorem uvcEventsProcessData_calls {io io' : Io} {g g' : Gadget} {d : RequestData} {w : Board}
    (hp : g.vdev.Plain) (hbulk : g.bulk = 0) (hel : Elapses w (io.board b))
    (h : uvcEventsProcessData uvcFormats env io g d = .ok (g', io')) :
    GadgetCalls env (.ok (.data d)) w g.view (io'.board b) g'.view ∧
      Uses env io.kernel g.vdev io'.kernel g'.vdev ∧ g'.bulk = 0 := by
  unfold uvcEventsProcessData at h
  dsimp only at h
  split at h
  · cases h; exact ⟨.quiet hel, .refl hp, hbulk⟩
  · split at h
    · obtain ⟨hf, hw, hh⟩ := selectFormat_uvcFormats (StreamingControl.ofBytes d.data)
      rw [hf, hw, hh] at h
      generalize hg₁ : ({ g with
        commit := (selectFormat uvcFormats (StreamingControl.ofBytes d.data)).apply g.commit
        fcc := PixFormat.YUYV, width := 320, height := 240 } : Gadget) = g₁ at h
      have hdev : g₁.vdev = g.vdev := by rw [← hg₁]
      have hview : g₁.view = { g.view with fcc := PixFormat.YUYV, width := 320, height := 240 } := by
        rw [← hg₁]; rfl
      have hid : g₁.id = g.id := by rw [← hg₁]
      have hsize : g₁.width = 320 ∧ g₁.height = 240 ∧ g₁.fcc = PixFormat.YUYV := by
        rw [← hg₁]; exact ⟨rfl, rfl, rfl⟩
      have hbulk₁ : g₁.bulk = 0 := by rw [← hg₁]; exact hbulk
      generalize hs : uvcVideoSetFormat env io g₁ = r at h
      obtain ⟨ret, g₂, io₂⟩ := r
      obtain ⟨⟨d₂, hg₂, hu, -⟩, hio⟩ := uvcVideoSetFormat_spec (b := b) (by rw [hdev]; exact hp) hs
      have hview₂ : g₂.view = g₁.view := by
        rw [hg₂]
        simp only [Gadget.view, hu.same.fd, hu.same.name]
      have hbulk₂ : g₂.bulk = 0 := by rw [hg₂]; exact hbulk₁
      dsimp only at h
      -- the function is not a bulk one, so a commit does not start it
      rw [if_neg (by rw [hbulk₂]; decide)] at h
      cases h
      rw [hview₂, hview]
      refine ⟨?_, ?_, hbulk₂⟩
      · rcases hio with hel' | ⟨p, fmt, hw', hh', hf', hpost⟩
        · exact .commit rfl (hel.trans hel')
        · rw [hid] at hpost
          exact .setFmt rfl (hw'.trans hsize.1) (hh'.trans hsize.2.1) (hf'.trans hsize.2.2)
            (hel.posts hpost)
      · rw [hdev] at hu
        rw [hg₂]; exact hu
    · cases h; exact ⟨.quiet hel, .refl hp, hbulk⟩

/-- **`uvc_gadget_process` refines `GadgetCalls`.** -/
theorem uvcGadgetProcess_calls {io io' : Io} {g g' : Gadget} (hp : g.vdev.Plain) (hbulk : g.bulk = 0)
    (h : uvcGadgetProcess env io g = .ok (g', io')) :
    GadgetCalls env (env.dqevent io.kernel.tick g.vdev.file) (io.board b) g.view (io'.board b)
        g'.view ∧
      Uses env io.kernel g.vdev io'.kernel g'.vdev ∧ g'.bulk = 0 := by
  have hel : Elapses (io.board b)
      ({ io with kernel := io.kernel.call (.ioctl g.vdev.fd) }.board b) :=
    elapses_kernel (Kernel.keeps_call _ _)
  have hcall : Uses env io.kernel g.vdev (io.kernel.call (.ioctl g.vdev.fd)) g.vdev :=
    (Steady.call hp _).toUses
  unfold uvcGadgetProcess at h
  dsimp only at h
  split at h
  · -- no event, or one of the connection
    cases h; exact ⟨.quiet hel, hcall, hbulk⟩
  · cases h; exact ⟨.quiet hel, hcall, hbulk⟩
  · cases h; exact ⟨.quiet hel, hcall, hbulk⟩
  · -- `UVC_EVENT_SETUP`
    next req _ =>
      obtain ⟨c, hc⟩ := uvcEventsProcessSetup_gadget uvcFormats g req .stall
      have hr := sendResponse_spec (b := b) (g := { g with control := c }) env
        { io with kernel := io.kernel.call (.ioctl g.vdev.fd) } hp
        (uvcEventsProcessSetup uvcFormats g req .stall).2
      injection h with h
      have h₁ := congrArg Prod.fst h
      have h₂ := congrArg Prod.snd h
      dsimp only at h₁ h₂
      rw [hc] at h₁ h₂
      rw [← h₁, ← h₂]
      refine ⟨?_, hcall.trans hr.2.2.toUses, hbulk⟩
      rw [hr.1]
      exact .quiet (hel.trans hr.2.1)
  · -- `UVC_EVENT_DATA`
    next d hd =>
      rw [hd]
      obtain ⟨h₁, h₂, h₃⟩ := uvcEventsProcessData_calls hp hbulk hel h
      exact ⟨h₁, hcall.trans h₂, h₃⟩
  · -- `UVC_EVENT_STREAMON`
    next hev =>
      obtain ⟨⟨ret, g₁, io₁⟩, hs, h⟩ := bind_eq_ok.mp h
      cases h
      obtain ⟨hstart, hu, hb, -⟩ := uvcVideoStream_starts (b := b) hp hs
      exact ⟨.start hev (hel.starts hstart), hcall.trans hu, hb.trans hbulk⟩
  · -- `UVC_EVENT_STREAMOFF`
    next hev =>
      obtain ⟨⟨ret, g₁, io₁⟩, hs, h⟩ := bind_eq_ok.mp h
      cases h
      obtain ⟨hstop, hu, hb⟩ := uvcVideoStream_stops (b := b) hp hs
      exact ⟨.stop hev (hel.stops hstop), hcall.trans hu.toUses, hb.trans hbulk⟩
  · -- any other event is stalled
    have hr := sendResponse_spec (b := b) env
        { io with kernel := io.kernel.call (.ioctl g.vdev.fd) } hp .stall
    cases h
    exact ⟨.quiet (hel.trans hr.2.1), hcall.trans hr.2.2.toUses, hbulk⟩

/-! ## Attaching a gadget -/

theorem subscribeAll_chats {fd : Nat} {file : File} {ts : List UvcEventType} {k k' : Kernel} :
    ∀ {k₁ : Kernel} {ret : Int}, Chats fd k k₁ → subscribeAll env fd file ts k₁ = (ret, k') → Chats fd k k' := by
  induction ts with
  | nil => intro k₁ ret hk h; cases h; exact hk
  | cons t ts ih =>
      intro k₁ ret hk h
      rw [subscribeAll] at h
      split at h
      · cases h; exact hk.call
      · exact ih hk.call h

theorem uvcGadgetInit_spec {formats : List FormatInfo} {k k' : Kernel} {g g' : Gadget} {ret : Int}
    (h : uvcGadgetInit formats env k g = (ret, g', k')) :
    k.Keeps k' ∧ ∃ probe commit, g' = { g with probe := probe, commit := commit } := by
  unfold uvcGadgetInit at h
  dsimp only at h
  split at h
  · cases h; exact ⟨(subscribeAll_chats .refl rfl).keeps, _, _, rfl⟩
  · cases h; exact ⟨(subscribeAll_chats .refl rfl).keeps, _, _, rfl⟩

/-- What a successful `uvc_gadget_attach` appends. -/
structure GadgetAttached (env : Env) (b : List Message) (name : DevName) (io : Io) (g : Gadget)
    (io' : Io) : Prop where
  plain : g.vdev.Plain
  sized : g.vdev.Sized
  bulk : g.bulk = 0
  name : g.view.name = baseName (v4l2Path name)
  off : g.view.streaming = false
  fmt : g.view.fcc = 0 ∧ g.view.width = 0 ∧ g.view.height = 0
  fresh : g.view.fd ∉ (io.board b).opened
  addr : (io.board b).brk ≤ g.view.addr
  lt : g.view.addr < (io'.board b).brk
  board : ∃ w₁, Watches env g.view.control ((io.board b).openFd g.view.fd) w₁ ∧
    Posts env (.uvcAttached g.view.id) w₁ (io'.board b)

theorem uvcGadgetAttach_spec {io io' : Io} {gadgets gadgets' : List Gadget} {name : DevName} {ret : Int}
    (h : uvcGadgetAttach env io gadgets name = (ret, gadgets', io')) :
    (ret = -1 ∧ gadgets' = gadgets ∧ Elapses (io.board b) (io'.board b)) ∨
      (ret = 0 ∧ ∃ g, gadgets' = gadgets ++ [g] ∧ GadgetAttached env b name io g io') := by
  unfold uvcGadgetAttach at h
  generalize hopen : v4l2Open env io.kernel name = r at h
  obtain ⟨r, k⟩ := r
  rcases v4l2Open_spec hopen with ⟨rfl, hk⟩ | ⟨d, rfl, hd⟩
  · cases h; exact .inl ⟨rfl, rfl, elapses_kernel hk⟩
  · have hel := elapses_opened (b := b) hd
    dsimp only at h
    split at h
    · -- not an output device
      cases h; exact .inl ⟨rfl, rfl, elapses_close hel⟩
    · split at h
      · -- no memory
        next hm => cases h; exact .inl ⟨rfl, rfl, elapses_close (hel.trans (elapses_malloc hm))⟩
      · next addr io₁ hm =>
          have hel₁ := hel.trans (elapses_malloc (b := b) hm)
          obtain ⟨haddr, hio₁⟩ := malloc_some hm
          generalize hinit : uvcGadgetInit uvcFormats env io₁.kernel.ask
            (.fresh addr d (current (env.clock io₁.kernel.tick))) = r at h
          obtain ⟨ret₁, g, k₁⟩ := r
          obtain ⟨hk₁, probe, commit, hg⟩ := uvcGadgetInit_spec hinit
          have hel₂ : Elapses ((io.board b).openFd d.fd) ({ io₁ with kernel := k₁ }.board b) :=
            hel₁.trans (elapses_kernel ((Kernel.keeps_ask _).trans hk₁))
          dsimp only at h
          split at h
          · -- a subscription failed
            cases h; exact .inl ⟨rfl, rfl, elapses_close hel₂⟩
          · cases h
            refine .inr ⟨rfl, g, rfl, ?_⟩
            have hbrk : io₁.brk = io.brk + 1 := by rw [hio₁]
            rw [hg]
            refine ⟨hd.plain, hd.sized, rfl, hd.name, rfl, ⟨rfl, rfl, rfl⟩, hd.fresh, ?_, ?_, ?_⟩
            · show io.brk ≤ addr
              exact Nat.le_of_eq haddr.symm
            · have hpost := posts_post (b := b) env
                (Io.watch env { io₁ with kernel := k₁ } d.fd .exception .uvcGadgetProcess (.gadget addr))
                (.uvcAttached (current (env.clock io₁.kernel.tick)))
              have hle := (watches_watch (b := b) env { io₁ with kernel := k₁ } d.fd .exception
                .uvcGadgetProcess (.gadget addr)).brk_le
              have hlt : addr < ({ io₁ with kernel := k₁ } : Io).brk := by
                show addr < io₁.brk
                rw [haddr, hbrk]; exact Nat.lt_succ_self _
              exact Nat.lt_of_lt_of_le hlt (Nat.le_trans hle hpost.brk_le)
            · exact ⟨_, hel₂.watches (watches_watch env _ _ _ _ _), posts_post env _ _⟩

/-! ## Messages -/

/-- `uvc_gadget_detach`: nobody has the name, or the first that has it goes. -/
theorem uvcGadgetDetach_spec {io io' : Io} {gadgets gadgets' : List Gadget} {name : DevName} {ret : Int}
    (hp : ∀ g ∈ gadgets, g.vdev.Plain)
    (h : uvcGadgetDetach env io gadgets name = .ok (ret, gadgets', io')) :
    (ret = -1 ∧ gadgets' = gadgets ∧ io' = io ∧ ∀ g ∈ gadgets, g.vdev.name ≠ name) ∨
      (ret = 0 ∧ ∃ pre g post g' w₁, SplitsAt (·.vdev.name = name) gadgets pre g post ∧
        gadgets' = pre ++ post ∧ StopsGadget env (io.board b) g.view w₁ g' ∧
        Posts env (.uvcDetached g.id) ((w₁.unwatch g.vdev.fd .exception).closeFd g.vdev.fd)
          (io'.board b)) := by
  unfold uvcGadgetDetach at h
  split at h
  · -- nobody has the name, and the stray cursor does no harm
    next hnone =>
      unfold strayCursor at h
      split at h
      · cases h
      · cases h
        refine .inl ⟨rfl, rfl, rfl, fun g hg => ?_⟩
        exact splitFirst_decide_none.mp hnone g hg
  · next pre g post hs =>
      have hsplit := splitFirst_decide.mp hs
      obtain ⟨⟨ret₁, g₁, io₁⟩, hstream, h⟩ := bind_eq_ok.mp h
      obtain ⟨hstop, hu, -⟩ := uvcVideoStream_stops (b := b) (hp g hsplit.mem) hstream
      have hfd : g₁.vdev.fd = g.vdev.fd := hu.same.fd
      dsimp only at h
      split at h
      · cases h
      · cases h
        refine .inr ⟨rfl, pre, g, post, g₁.view, io₁.board b, hsplit, rfl, hstop, ?_⟩
        have hid : g₁.id = g.id := by
          have : g₁.view.id = g.view.id := by
            generalize io₁.board b = w at hstop
            generalize g₁.view = gv at hstop
            cases hstop <;> rfl
          exact this
        rw [hid]
        refine Elapses.posts ?_ (posts_post env _ _)
        rw [← hfd]
        exact .mk (Nat.le_refl _) (Nat.le_succ _)

/-- `uvc_gadget_fill_buffer`: the first gadget with the id gets the frame if it streams. -/
theorem uvcGadgetFillBuffer_spec {io io' : Io} {gadgets gadgets' : List Gadget} {id : UInt32} {ret : Int}
    {obj : Option (Frame × Nat)}
    (h : uvcGadgetFillBuffer env io gadgets id obj = .ok (ret, gadgets', io')) :
    (ret = -1 ∧ gadgets' = gadgets ∧ io' = io ∧
        ∀ pre g post, SplitsAt (·.id = id) gadgets pre g post → g.isStreaming = false) ∨
      (ret = 0 ∧ ∃ pre g post f size img, SplitsAt (·.id = id) gadgets pre g post ∧
        g.isStreaming = true ∧ obj = some (f, size) ∧
        gadgets' = pre ++ { g with imgdata := img } :: post ∧
        io' = { io with delivered := io.delivered ++ [f] }) := by
  unfold uvcGadgetFillBuffer at h
  split at h
  · -- nobody has the id, and the stray cursor does no harm
    next hnone =>
      unfold strayCursor at h
      split at h
      · cases h
      · cases h
        refine .inl ⟨rfl, rfl, rfl, fun pre g post hs => ?_⟩
        exact absurd hs.hit (splitFirst_decide_none.mp hnone g hs.mem)
  · next pre g post hs =>
      have hsplit := splitFirst_decide.mp hs
      split at h
      · next hon =>
          split at h
          · cases h
          · next f size =>
              split at h
              · cases h
              · cases h
                exact .inr ⟨rfl, pre, g, post, f, size, _, hsplit, hon, rfl, rfl, rfl⟩
      · next hoff =>
          cases h
          refine .inl ⟨rfl, rfl, rfl, fun pre' g' post' hs' => ?_⟩
          obtain ⟨-, rfl, -⟩ := hsplit.unique hs'
          simpa using hoff

end Uvcd
