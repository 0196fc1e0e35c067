import Uvcd.Protocol.Formats
import Uvcd.Refinement.Steps

/-!
# `Refinement.Bounds` — the lengths behind the copies of a frame

A gadget copies `Gadget.frameSize` bytes, out of the frame buffer of a capture and into a buffer of its
device; nothing compares the three lengths. `Gadget.Bounded` is the invariant that makes the copies of a
gadget fit, given that its stream only starts, and a format is only committed under its buffers, when the
format its driver has in force is long enough (`Device.Roomy`). The copies are the only source of the fault
`overrun`; every other function avoids it outright.
-/

namespace Uvcd

open Machine Split

variable {env : Env} {k k' : Kernel} {d d' : Device}

/-! ## Device calls do not copy frames -/

section Calls

theorem releaseBuffers_avoids (env : Env) {n : Nat} :
    ∀ (i : Nat) (k : Kernel) (d : Device), Avoids .overrun (releaseBuffers env i n k d) := by
  induction n with
  | zero => intro i k d; exact .ok _
  | succ n ih =>
      intro i k d
      rw [releaseBuffers]
      split
      · exact .error (by decide)
      · dsimp only
        split
        · exact .ok _
        · exact ih _ _ _

theorem v4l2FreeBuffers_avoids (env : Env) (k : Kernel) (d : Device) :
    Avoids .overrun (v4l2FreeBuffers env k d) := by
  unfold v4l2FreeBuffers
  split
  · exact .ok _
  · refine (releaseBuffers_avoids env _ _ _).bind fun _ _ => ?_
    dsimp only
    split
    · exact .ok _
    · split <;> exact .ok _

theorem v4l2AllocBuffers_avoids (env : Env) (k : Kernel) (d : Device) (memtype : Memory) (nbufs : Nat) :
    Avoids .overrun (v4l2AllocBuffers env k d memtype nbufs) := by
  have hfree : ∀ {k : Kernel} {d : Device} (e : Errno), Avoids .overrun (v4l2FreeBuffers env k d >>=
      fun x => .ok (e.neg, x.2.1, x.2.2)) := fun e =>
    (v4l2FreeBuffers_avoids env _ _).bind fun _ _ => .ok _
  unfold v4l2AllocBuffers
  split
  · exact .ok _
  · split
    · exact .ok _
    · split
      · exact hfree _
      · split
        · exact hfree _
        · split
          · exact hfree _
          · exact .ok _

theorem mmapBuffers_avoids (env : Env) {n : Nat} :
    ∀ (i : Nat) (k : Kernel) (d : Device), Avoids .overrun (mmapBuffers env i n k d) := by
  induction n with
  | zero => intro i k d; exact .ok _
  | succ n ih =>
      intro i k d
      rw [mmapBuffers]
      split
      · exact .ok _
      · split
        · exact .ok _
        · split
          · exact .error (by decide)
          · exact ih _ _ _

theorem v4l2MmapBuffers_avoids (env : Env) (k : Kernel) (d : Device) :
    Avoids .overrun (v4l2MmapBuffers env k d) := by
  unfold v4l2MmapBuffers
  split
  · exact .ok _
  · exact mmapBuffers_avoids env _ _ _

theorem v4l2DequeueBuffer_avoids (env : Env) (k : Kernel) (d : Device) :
    Avoids .overrun (v4l2DequeueBuffer env k d) := by
  unfold v4l2DequeueBuffer
  dsimp only
  split
  · exact .ok _
  · split
    · exact .error (by decide)
    · exact .ok _

theorem queueAll_avoids (env : Env) {n : Nat} :
    ∀ (i : Nat) (k : Kernel) (d : Device), Avoids .overrun (queueAll env i n k d) := by
  induction n with
  | zero => intro i k d; exact .ok _
  | succ n ih =>
      intro i k d
      rw [queueAll]
      split
      · exact .error (by decide)
      · dsimp only
        split
        · exact .ok _
        · exact ih _ _ _

end Calls

/-! ## Captures do not copy frames into gadgets -/

theorem mallocFrames_avoids (env : Env) (io : Io) (size : Int) : Avoids .overrun (io.mallocFrames env size) := by
  unfold Io.mallocFrames
  split
  · exact .error (by decide)
  · split <;> exact .ok _

theorem v4lVideoStream_avoids (env : Env) (io : Io) (c : Capture) (on : Bool) :
    Avoids .overrun (v4lVideoStream env io c on) := by
  unfold v4lVideoStream
  split
  · split
    · exact .ok _
    · exact (v4l2FreeBuffers_avoids env _ _).bind fun _ _ => .ok _
  · split
    · exact .ok _
    · refine .bind (mallocFrames_avoids env io _) fun r _ => ?_
      obtain ⟨addr, io₁⟩ := r
      cases addr with
      | none => exact .ok _
      | some addr =>
          refine .bind ?_ fun _ _ => ?_
          · unfold v4lVideoStart
            refine (v4l2AllocBuffers_avoids env _ _ _ _).bind fun _ _ => ?_
            dsimp only
            split
            · exact .ok _
            · refine (v4l2MmapBuffers_avoids env _ _).bind fun _ _ => ?_
              refine .bind ?_ fun _ _ => ?_
              · split
                · exact .ok _
                · exact queueAll_avoids env _ _ _
              · split
                · exact (v4l2FreeBuffers_avoids env _ _).bind fun _ _ => .ok _
                · exact .ok _
          · dsimp only
            split <;> exact .ok _

theorem captureProcess_avoids (env : Env) (io : Io) (c : Capture) :
    Avoids .overrun (captureProcess env io c) := by
  unfold captureProcess
  refine (v4l2DequeueBuffer_avoids env _ _).bind fun _ _ => ?_
  dsimp only
  split
  · exact .ok _
  · refine .bind ?_ fun _ _ => .ok _
    unfold v4lProcessBuffer
    dsimp only
    split
    · exact .ok _
    · split
      · split
        · exact .error (by decide)
        · exact .ok _
      · exact .error (by decide)

theorem captureHandleMessage_avoids (env : Env) (s : Sys) (m : Message) :
    Avoids .overrun (captureHandleMessage env s m) := by
  have hstream : ∀ (id : UInt32) (on : Bool),
      Avoids .overrun (v4lCaptureStream env s.io s.captures id on) := by
    intro id on
    unfold v4lCaptureStream
    split
    · exact .ok _
    · exact (v4lVideoStream_avoids env _ _ _).bind fun _ _ => .ok _
  have hterminate : ∀ (cs : List Capture) (io : Io), Avoids .overrun (v4lCaptureTerminate env cs io) := by
    intro cs
    induction cs with
    | nil => intro io; exact .ok io
    | cons c cs ih => intro io; exact (v4lVideoStream_avoids env _ _ _).bind fun _ _ => ih _
  unfold captureHandleMessage
  split
  · exact .ok _
  · refine .bind ?_ fun _ _ => .ok _
    unfold v4lCaptureDetach
    split
    · exact .ok _
    · exact (v4lVideoStream_avoids env _ _ _).bind fun _ _ => .ok _
  · exact .ok _
  · exact .error (by decide)
  · exact .error (by decide)
  · exact .error (by decide)
  · exact (hstream _ _).bind fun _ _ => .ok _
  · exact (hstream _ _).bind fun _ _ => .ok _
  · refine .bind ?_ fun _ _ => .ok _
    unfold v4lCaptureDetachGadget
    split
    · exact .ok _
    · exact (v4lVideoStream_avoids env _ _ _).bind fun _ _ => .ok _
  · exact (hterminate _ _).bind fun _ _ => .ok _
  · exact .ok _

/-- The capture module leaves the gadgets alone. -/
theorem captureHandleMessage_gadgets {s s' : Sys} {m : Message} {r : Int}
    (h : captureHandleMessage env s m = .ok (r, s')) : s'.gadgets = s.gadgets := by
  unfold captureHandleMessage at h
  split at h
  · cases h; rfl
  · obtain ⟨_, _, h⟩ := bind_eq_ok.mp h; cases h; rfl
  · cases h; rfl
  · cases h
  · cases h
  · cases h
  · obtain ⟨_, _, h⟩ := bind_eq_ok.mp h; cases h; rfl
  · obtain ⟨_, _, h⟩ := bind_eq_ok.mp h; cases h; rfl
  · obtain ⟨_, _, h⟩ := bind_eq_ok.mp h; cases h; rfl
  · obtain ⟨_, _, h⟩ := bind_eq_ok.mp h; cases h; rfl
  · cases h; rfl

/-! ## Room in the buffers of a device -/

/-- Whatever buffers the device has were requested under a format of at least `n` bytes a frame. -/
def Device.Roomy (n : Nat) (d : Device) : Prop := d.nbufs ≠ 0 → n ≤ d.file.reqfmt.frameBytes

theorem Device.Requested.roomy {f : PixFormat} {n : Nat} (h : d.Requested f d') (hf : n ≤ f.frameBytes)
    (hr : d.Roomy n) : d'.Roomy n := by
  intro hn
  rcases h with h | ⟨h, h0⟩
  · rw [h]; exact hf
  · rw [h]; exact hr fun h => hn (h0 h)

theorem Steady.roomy {n : Nat} (h : Steady env k d k' d') (hr : d.Roomy n) : d'.Roomy n := by
  intro hn
  rw [h.reqfmt]
  exact hr fun h0 => hn (h.idle h0)

/-- A mapped buffer of a roomy device has room. -/
theorem Device.Roomy.le_size {n : Nat} (hr : d.Roomy n) (hs : d.Sized) {b : VideoBuffer} (hb : b ∈ d.buffers)
    (hm : b.mem.isSome = true) : n ≤ b.size := by
  refine Nat.le_trans (hr fun h0 => ?_) (hs.mapped b hb hm)
  rw [hs.idle h0 b hb] at hm; cases hm

/-! ## Gadgets -/

/-- **What keeps the copies of a gadget in bounds.** -/
structure Gadget.Bounded (g : Gadget) : Prop where
  fit : g.Fit
  sized : g.vdev.Sized
  /-- nothing was committed yet, or the format offered was -/
  size : (g.fcc = 0 ∧ g.width = 0 ∧ g.height = 0) ∨
    (g.fcc = PixFormat.YUYV ∧ g.width = 320 ∧ g.height = 240)
  room : g.fcc = PixFormat.YUYV → g.vdev.Roomy g.frameSize

/-- The event the driver is about to deliver finds room: a stream that starts under a committed format, in
    what the format in force gives; a commit, in the buffers there are. -/
structure FindsRoom (env : Env) (k : Kernel) (g : Gadget) : Prop where
  streamon : env.dqevent k.tick g.vdev.file = .ok .streamon → g.isStreaming = false →
    g.fcc = PixFormat.YUYV → g.frameSize ≤ (k.inforce g.vdev.file.dev).frameBytes
  commit : ∀ data, env.dqevent k.tick g.vdev.file = .ok (.data data) → g.control = VS_COMMIT_CONTROL →
    g.vdev.Roomy offeredSize

section Gadgets

variable {g g' : Gadget}

theorem Gadget.frameSize_offered (hw : g.width = 320) (hh : g.height = 240) : g.frameSize = offeredSize := by
  unfold Gadget.frameSize
  rw [hw, hh]; rfl

theorem Gadget.Bounded.frameSize_le (h : g.Bounded) : g.frameSize ≤ offeredSize := by
  rcases h.size with ⟨-, hw, hh⟩ | ⟨-, hw, hh⟩
  · unfold Gadget.frameSize
    rw [hw, hh]; decide
  · exact Nat.le_of_eq (Gadget.frameSize_offered hw hh)

theorem Gadget.Bounded.frameSize_le_imgdata (h : g.Bounded) : g.frameSize ≤ imgdataSize :=
  Nat.le_trans h.frameSize_le (by decide)

/-- What concerns neither format nor bulk mode may change, the device as far as it keeps its room. -/
theorem Gadget.Bounded.of_eq (h : g.Bounded)
    (hsize : g'.fcc = g.fcc ∧ g'.width = g.width ∧ g'.height = g.height) (hfit : g'.Fit)
    (hs : g'.vdev.Sized) (hr : g.fcc = PixFormat.YUYV → g'.vdev.Roomy g.frameSize) : g'.Bounded := by
  have hframe : g'.frameSize = g.frameSize := by unfold Gadget.frameSize; rw [hsize.2.1, hsize.2.2]
  refine ⟨hfit, hs, by rw [hsize.1, hsize.2.1, hsize.2.2]; exact h.size, ?_⟩
  rw [hsize.1, hframe]; exact hr

/-- The copy into a buffer of the device fits when the buffer has room. -/
theorem uvcVideoFillBuffer_avoids {b : VideoBuffer} (himg : g.frameSize ≤ imgdataSize)
    (hroom : g.fcc = PixFormat.YUYV → b.mem.isSome = true → g.frameSize ≤ b.size) :
    Avoids .overrun (uvcVideoFillBuffer g b) := by
  unfold uvcVideoFillBuffer
  split
  · next hf =>
      split
      · exact .error (by decide)
      · next mem hm =>
          have hle := hroom hf (by rw [hm]; rfl)
          rw [if_neg (by omega)]
          exact .ok _
  · exact .ok _

theorem uvcVideoProcess_avoids (env : Env) (io : Io) (h : g.Bounded) :
    Avoids .overrun (uvcVideoProcess env io g) := by
  unfold uvcVideoProcess
  refine (v4l2DequeueBuffer_avoids env _ _).bind ?_
  rintro ⟨r, k₁, d₁⟩ hdq
  dsimp only
  split
  · exact .ok _
  · next b =>
      refine (uvcVideoFillBuffer_avoids h.frameSize_le_imgdata fun hf hm => ?_).bind fun _ _ => .ok _
      obtain ⟨hn, hle⟩ := (v4l2DequeueBuffer_steady h.fit.1 hdq).2 b rfl hm h.sized
      exact Nat.le_trans (h.room hf hn) hle

theorem uvcVideoProcess_bounded (hl : LongBuffers env) {io io' : Io} (h : g.Bounded)
    (hok : uvcVideoProcess env io g = .ok (g', io')) : g'.Bounded := by
  obtain ⟨⟨d, rfl⟩, -, hu⟩ := uvcVideoProcess_spec h.fit.1 hok
  exact h.of_eq ⟨rfl, rfl, rfl⟩ ⟨hu.plain, h.fit.2⟩ (hu.sized hl h.sized) fun hf => hu.roomy (h.room hf)

theorem fillAndQueue_avoids (hl : LongBuffers env) (himg : g.frameSize ≤ imgdataSize) {n : Nat} :
    ∀ (i : Nat) (k : Kernel) (d : Device), d.Plain → d.Sized →
      (g.fcc = PixFormat.YUYV → d.Roomy g.frameSize) → Avoids .overrun (fillAndQueue env g i n k d) := by
  induction n with
  | zero => intro i k d _ _ _; exact .ok _
  | succ n ih =>
      intro i k d hp hs hr
      rw [fillAndQueue]
      split
      · exact .error (by decide)
      · next b hb =>
          refine (uvcVideoFillBuffer_avoids himg fun hf hm =>
            (hr hf).le_size hs (List.mem_of_getElem? hb) hm).bind fun b' hfill => ?_
          dsimp only
          split
          · exact .ok _
          · have h₁ : Steady env k d _ _ := fillTurn_steady hp hb hfill rfl
            exact ih _ _ _ h₁.plain (h₁.sized hl hs) fun hf => h₁.roomy (hr hf)

theorem uvcVideoStart_avoids (hl : LongBuffers env) (h : g.Bounded)
    (hroom : g.fcc = PixFormat.YUYV → g.frameSize ≤ (k.inforce g.vdev.file.dev).frameBytes) :
    Avoids .overrun (uvcVideoStart env k g) := by
  unfold uvcVideoStart
  refine (v4l2AllocBuffers_avoids env _ _ _ _).bind ?_
  rintro ⟨ret₁, k₁, d₁⟩ halloc
  obtain ⟨h₁, -, hasked⟩ := v4l2AllocBuffers_uses h.fit.1 (by decide) halloc
  dsimp only
  split
  · exact .ok _
  · refine (v4l2MmapBuffers_avoids env _ _).bind ?_
    rintro ⟨ret₂, k₂, d₂⟩ hmap
    have h₂ := v4l2MmapBuffers_steady h₁.plain hmap
    have hend : ∀ r : Int × Kernel × Device, Avoids .overrun (if r.1 < 0 then
        v4l2FreeBuffers env r.2.1 r.2.2 >>= fun x => .ok (r.1, x.2.1, x.2.2) else .ok (0, r.2.1, r.2.2)) := by
      intro r
      split
      · exact (v4l2FreeBuffers_avoids env _ _).bind fun _ _ => .ok _
      · exact .ok _
    refine .bind ?_ fun _ _ => hend _
    dsimp only
    split
    · exact .ok _
    · exact fillAndQueue_avoids hl h.frameSize_le_imgdata _ _ _ h₂.plain
        (h₂.sized hl (h₁.sized hl h.sized)) fun hf => h₂.roomy (hasked.roomy (hroom hf) (h.room hf))

/-- Stopping copies nothing; starting copies into the new buffers. -/
theorem uvcVideoStream_avoids (hl : LongBuffers env) {io : Io} (enable : Bool) (h : g.Bounded)
    (hroom : enable = true → g.isStreaming = false → g.fcc = PixFormat.YUYV →
      g.frameSize ≤ (io.kernel.inforce g.vdev.file.dev).frameBytes) :
    Avoids .overrun (uvcVideoStream env io g enable) := by
  unfold uvcVideoStream
  split
  · split
    · exact .ok _
    · exact (v4l2FreeBuffers_avoids env _ _).bind fun _ _ => .ok _
  · next hon =>
      split
      · exact .ok _
      · next hoff =>
          refine (uvcVideoStart_avoids hl h (hroom (by simpa using hon) (by simpa using hoff))).bind
            fun _ _ => ?_
          dsimp only
          split <;> exact .ok _

theorem StartsGadget.size {w w' : Board} {g g' : GadgetView} (h : StartsGadget env w g w' g') :
    g'.fcc = g.fcc ∧ g'.width = g.width ∧ g'.height = g.height := by
  cases h <;> exact ⟨rfl, rfl, rfl⟩

theorem StopsGadget.size {w w' : Board} {g g' : GadgetView} (h : StopsGadget env w g w' g') :
    g'.fcc = g.fcc ∧ g'.width = g.width ∧ g'.height = g.height := by
  cases h <;> exact ⟨rfl, rfl, rfl⟩

theorem uvcVideoStream_bounded (hl : LongBuffers env) {io io' : Io} {enable : Bool} {ret : Int}
    (h : g.Bounded)
    (hroom : enable = true → g.isStreaming = false → g.fcc = PixFormat.YUYV →
      g.frameSize ≤ (io.kernel.inforce g.vdev.file.dev).frameBytes)
    (hok : uvcVideoStream env io g enable = .ok (ret, g', io')) : g'.Bounded := by
  cases enable with
  | false =>
      obtain ⟨hstop, hu, hb⟩ := uvcVideoStream_stops (b := []) h.fit.1 hok
      exact h.of_eq hstop.size ⟨hu.plain, hb.trans h.fit.2⟩ (hu.sized hl h.sized) fun hf =>
        hu.roomy (h.room hf)
  | true =>
      obtain ⟨hstart, hu, hb, hsame, hasked⟩ := uvcVideoStream_starts (b := []) h.fit.1 hok
      cases hon : g.isStreaming with
      | true => rw [hsame hon]; exact h
      | false =>
          exact h.of_eq hstart.size ⟨hu.plain, hb.trans h.fit.2⟩ (hu.sized hl h.sized) fun hf =>
            hasked.roomy (hroom rfl hon hf) (h.room hf)

/-- A `DATA` event copies nothing, and a commit leaves room under the format committed. -/
theorem uvcEventsProcessData_bounded (env : Env) (io : Io) {data : RequestData} (h : g.Bounded)
    (hroom : g.control = VS_COMMIT_CONTROL → g.vdev.Roomy offeredSize) :
    ∃ r, uvcEventsProcessData uvcFormats env io g data = .ok r ∧ r.1.Bounded := by
  unfold uvcEventsProcessData
  dsimp only
  split
  · exact ⟨_, rfl, h.of_eq ⟨rfl, rfl, rfl⟩ h.fit h.sized h.room⟩
  · split
    · next hcommit =>
        obtain ⟨hf, hw, hh⟩ := selectFormat_uvcFormats (StreamingControl.ofBytes data.data)
        rw [hf, hw, hh]
        generalize hg₁ : ({ g with
          commit := (selectFormat uvcFormats (StreamingControl.ofBytes data.data)).apply g.commit
          fcc := PixFormat.YUYV, width := 320, height := 240 } : Gadget) = g₁
        have hdev : g₁.vdev = g.vdev := by rw [← hg₁]
        have hsize : g₁.fcc = PixFormat.YUYV ∧ g₁.width = 320 ∧ g₁.height = 240 := by
          rw [← hg₁]; exact ⟨rfl, rfl, rfl⟩
        have hbulk : g₁.bulk = 0 := by rw [← hg₁]; exact h.fit.2
        generalize hs : uvcVideoSetFormat env io g₁ = r
        obtain ⟨ret, g₂, io₂⟩ := r
        obtain ⟨⟨d, hg₂, hu, hd⟩, -⟩ := uvcVideoSetFormat_spec (b := []) (by rw [hdev]; exact h.fit.1) hs
        dsimp only
        rw [if_neg (by rw [hg₂, hbulk]; decide)]
        refine ⟨_, rfl, ?_⟩
        rw [hg₂]
        rw [hdev] at hd
        refine ⟨⟨hu.plain, hbulk⟩, ?_, .inr hsize, fun _ => ?_⟩
        · show d.Sized
          rw [hd]; exact ⟨h.sized.mapped, h.sized.idle⟩
        · have hframe : g₁.frameSize = offeredSize := Gadget.frameSize_offered hsize.2.1 hsize.2.2
          show d.Roomy g₁.frameSize
          rw [hframe, hd]; exact hroom hcommit
    · exact ⟨_, rfl, h⟩

/-- A gadget's callback, on an event that finds room. -/
theorem uvcGadgetProcess_avoids (hl : LongBuffers env) {io : Io} (h : g.Bounded)
    (hroom : FindsRoom env io.kernel g) : Avoids .overrun (uvcGadgetProcess env io g) := by
  unfold uvcGadgetProcess
  dsimp only
  split
  · exact .ok _
  · exact .ok _
  · exact .ok _
  · exact .ok _
  · next data hev =>
      obtain ⟨r, hr, -⟩ := uvcEventsProcessData_bounded env
        { io with kernel := io.kernel.call (.ioctl g.vdev.fd) } h (hroom.commit data hev)
      rw [hr]; exact .ok _
  · next hev =>
      refine .bind (uvcVideoStream_avoids hl true h fun _ => ?_) fun _ _ => .ok _
      exact hroom.streamon hev
  · exact .bind (uvcVideoStream_avoids hl false h fun h => by cases h) fun _ _ => .ok _
  · exact .ok _

theorem uvcGadgetProcess_bounded (hl : LongBuffers env) {io io' : Io} (h : g.Bounded)
    (hroom : FindsRoom env io.kernel g) (hok : uvcGadgetProcess env io g = .ok (g', io')) :
    g'.Bounded := by
  unfold uvcGadgetProcess at hok
  dsimp only at hok
  split at hok
  · cases hok; exact h
  · cases hok; exact h
  · cases hok; exact h
  · next req _ =>
      obtain ⟨c, hc⟩ := uvcEventsProcessSetup_gadget uvcFormats g req .stall
      injection hok with hok
      have hg := congrArg Prod.fst hok
      dsimp only at hg
      rw [hc] at hg
      rw [← hg]
      exact h.of_eq ⟨rfl, rfl, rfl⟩ h.fit ⟨h.sized.mapped, h.sized.idle⟩ h.room
  · next data hev =>
      obtain ⟨r, hr, hb⟩ := uvcEventsProcessData_bounded env
        { io with kernel := io.kernel.call (.ioctl g.vdev.fd) } h (hroom.commit data hev)
      rw [hr] at hok
      cases hok; exact hb
  · next hev =>
      obtain ⟨⟨ret, g₁, io₁⟩, hs, hok⟩ := bind_eq_ok.mp hok
      cases hok
      refine uvcVideoStream_bounded hl h (fun _ => ?_) hs
      exact hroom.streamon hev
  · obtain ⟨⟨ret, g₁, io₁⟩, hs, hok⟩ := bind_eq_ok.mp hok
    cases hok
    exact uvcVideoStream_bounded hl h (fun h => by cases h) hs
  · cases hok
    exact h.of_eq ⟨rfl, rfl, rfl⟩ h.fit ⟨h.sized.mapped, h.sized.idle⟩ h.room

theorem GadgetAttached.bounded {b : List Message} {name : DevName} {io io' : Io}
    (h : GadgetAttached env b name io g io') : g.Bounded :=
  ⟨⟨h.plain, h.bulk⟩, h.sized, .inl h.fmt, fun hf => by rw [show g.fcc = 0 from h.fmt.1] at hf; cases hf⟩

end Gadgets

/-! ## Messages and steps -/

/-- Every frame a pointer can refer to is at least as long as what a gadget copies out of it. -/
def LongFrames (captures : List Capture) : Prop :=
  ∀ p f size, resolveFrame captures p = some (f, size) → offeredSize ≤ size

section Messages

variable {s s' : Sys} {m : Message}

theorem uvcHandleMessage_avoids (hl : LongBuffers env) (hg : ∀ g ∈ s.gadgets, g.Bounded)
    (hframes : LongFrames s.captures) : Avoids .overrun (uvcHandleMessage env s m) := by
  have hstop : ∀ {io : Io} {g : Gadget}, g ∈ s.gadgets → Avoids .overrun (uvcVideoStream env io g false) :=
    fun hmem => uvcVideoStream_avoids hl false (hg _ hmem) fun h => by cases h
  have hstray : ∀ {α : Type} (noop : α), Avoids .overrun (strayCursor env noop) := by
    intro α noop
    unfold strayCursor
    split
    · exact .error (by decide)
    · exact .ok _
  unfold uvcHandleMessage
  split
  · exact .ok _
  · -- a detach stops the gadget's stream
    refine .bind ?_ fun _ _ => .ok _
    unfold uvcGadgetDetach
    split
    · exact hstray _
    · next hs =>
        refine (hstop (splitFirst_decide.mp hs).mem).bind fun _ _ => ?_
        dsimp only
        split
        · exact .error (by decide)
        · exact .ok _
  · -- a frame is at least as long as the gadget's, which fits `imgdata`
    next p hwhat hparam =>
      refine .bind ?_ fun _ _ => .ok _
      unfold uvcGadgetFillBuffer
      split
      · exact hstray _
      · next pre g post hs =>
          split
          · split
            · exact .error (by decide)
            · next f size hres =>
                have hle := hframes p f size hres
                have hb := hg g (splitFirst_decide.mp hs).mem
                have := hb.frameSize_le
                have := hb.frameSize_le_imgdata
                rw [if_neg (by omega)]
                exact .ok _
          · exact .ok _
  · -- a missing payload is another fault
    exact .error (by decide)
  · exact .error (by decide)
  · exact .error (by decide)
  · -- the termination stops every stream
    refine .bind ?_ fun _ _ => .ok _
    have hterminate : ∀ (gs : List Gadget) (io : Io), (∀ g ∈ gs, g ∈ s.gadgets) →
        Avoids .overrun (uvcGadgetTerminate env gs io) := by
      intro gs
      induction gs with
      | nil => intro io _; exact .ok io
      | cons g gs ih =>
          intro io hmem
          exact (hstop (hmem g List.mem_cons_self)).bind fun _ _ =>
            ih _ fun x hx => hmem x (List.mem_cons_of_mem _ hx)
    exact hterminate _ _ fun _ h => h
  · exact .ok _

theorem uvcHandleMessage_bounded {r : Int} (hg : ∀ g ∈ s.gadgets, g.Bounded)
    (h : uvcHandleMessage env s m = .ok (r, s')) : ∀ g ∈ s'.gadgets, g.Bounded := by
  unfold uvcHandleMessage at h
  split at h
  · next p name _ _ =>
      dsimp only at h
      generalize ha : uvcGadgetAttach env s.io s.gadgets name = res at h
      obtain ⟨ret, gadgets, io⟩ := res
      cases h
      rcases uvcGadgetAttach_spec (b := []) ha with ⟨-, rfl, -⟩ | ⟨-, g, rfl, hatt⟩
      · exact hg
      · exact forall_snoc hg hatt.bounded
  · obtain ⟨⟨ret, gadgets, io⟩, hd, h⟩ := bind_eq_ok.mp h
    cases h
    rcases uvcGadgetDetach_spec (b := []) (fun g hmem => (hg g hmem).fit.1) hd with
      ⟨-, rfl, -⟩ | ⟨-, pre, g, post, g', w₁, hs, rfl, -⟩
    · exact hg
    · exact forall_erased hs.eq hg
  · obtain ⟨⟨ret, gadgets, io⟩, hd, h⟩ := bind_eq_ok.mp h
    cases h
    rcases uvcGadgetFillBuffer_spec hd with
      ⟨-, rfl, -⟩ | ⟨-, pre, g, post, f, size, img, hs, -, -, rfl, -⟩
    · exact hg
    · have hb := hg g hs.mem
      exact forall_replaced hs.eq hg (hb.of_eq ⟨rfl, rfl, rfl⟩ hb.fit hb.sized hb.room)
  · cases h
  · cases h
  · cases h
  · obtain ⟨io, -, h⟩ := bind_eq_ok.mp h
    cases h
    intro g hmem; cases hmem
  · cases h; exact hg

/-- The capture module alone copies nothing. -/
theorem looperDispatch_avoids_captures {hs : List Handler} :
    ∀ s : Sys, .uvc ∉ hs → Avoids .overrun (looperDispatch env m hs s) := by
  induction hs with
  | nil => intro s _; exact .ok s
  | cons h hs ih =>
      intro s hno
      rw [List.mem_cons, not_or] at hno
      cases h with
      | uvc => exact absurd rfl hno.1
      | capture =>
          refine (captureHandleMessage_avoids env s m).bind fun _ _ => ?_
          dsimp only
          split
          · exact .ok _
          · exact ih _ hno.2

theorem looperHandle_avoids (hl : LongBuffers env) (hst : Staffed s) (hg : ∀ g ∈ s.gadgets, g.Bounded)
    (hframes : LongFrames s.captures) : Avoids .overrun (looperHandle env s m) := by
  have huvc : ∀ hs, .uvc ∉ hs → Avoids .overrun (looperDispatch env m (.uvc :: hs) s) := by
    intro hs hno
    refine (uvcHandleMessage_avoids hl hg hframes).bind fun _ _ => ?_
    dsimp only
    split
    · exact .ok _
    · exact looperDispatch_avoids_captures _ hno
  unfold looperHandle
  refine .bind ?_ fun _ _ => ?_
  · -- only the first handler can be the gadget module's
    cases hst with
    | none hh _ _ => rw [hh]; exact .ok s
    | uvc hh _ => rw [hh]; exact huvc [] (by decide)
    | capture hh _ => rw [hh]; exact looperDispatch_avoids_captures s (by decide)
    | both hh => rw [hh]; exact huvc [.capture] (by decide)
  · dsimp only
    split <;> exact .ok _

theorem looperHandle_bounded (hg : ∀ g ∈ s.gadgets, g.Bounded) (h : looperHandle env s m = .ok s') :
    ∀ g ∈ s'.gadgets, g.Bounded := by
  have hdispatch : ∀ (hs : List Handler) {s s' : Sys}, (∀ g ∈ s.gadgets, g.Bounded) →
      looperDispatch env m hs s = .ok s' → ∀ g ∈ s'.gadgets, g.Bounded := by
    intro hs
    induction hs with
    | nil => intro s s' hg h; cases h; exact hg
    | cons x hs ih =>
        intro s s' hg h
        obtain ⟨⟨r, s₁⟩, hx, h⟩ := bind_eq_ok.mp h
        have hg₁ : ∀ g ∈ s₁.gadgets, g.Bounded := by
          cases x with
          | uvc => exact uvcHandleMessage_bounded hg hx
          | capture => rw [captureHandleMessage_gadgets hx]; exact hg
        dsimp only at h
        split at h
        · cases h; exact hg₁
        · exact ih hg₁ h
  unfold looperHandle at h
  obtain ⟨s₁, hd, h⟩ := bind_eq_ok.mp h
  have hg₁ := hdispatch s.handlers hg hd
  have hstop : ∀ {s₂ : Sys}, s₂ = (if m.what = .signal then
      { s₁ with io := { s₁.io with events := eventsStop s₁.io.events } } else s₁) →
      s₂.gadgets = s₁.gadgets := by
    rintro s₂ rfl
    split <;> rfl
  dsimp only at h
  split at h
  · cases h
    intro g hmem
    exact hg₁ g ((hstop rfl).symm ▸ hmem)
  · cases h
    intro g hmem
    exact hg₁ g ((hstop rfl).symm ▸ hmem)

theorem looperCleanup_avoids (hl : LongBuffers env) (hst : Staffed s) (hg : ∀ g ∈ s.gadgets, g.Bounded)
    (hframes : LongFrames s.captures) : Avoids .overrun (looperCleanup env s) := by
  have hcaptures : ∀ (hs : List Handler) (s : Sys), .uvc ∉ hs →
      Avoids .overrun (looperCleanupHandlers env hs s) := by
    intro hs
    induction hs with
    | nil => intro s _; exact .ok s
    | cons h hs ih =>
        intro s hno
        rw [List.mem_cons, not_or] at hno
        cases h with
        | uvc => exact absurd rfl hno.1
        | capture =>
            rw [looperCleanupHandlers]
            refine .bind ?_ fun _ _ => ih _ hno.2
            show Avoids .overrun (captureHandleMessage env _ .terminate)
            exact captureHandleMessage_avoids env _ _
  have huvc : ∀ hs, .uvc ∉ hs → Avoids .overrun (looperCleanupHandlers env (.uvc :: hs) s) := by
    intro hs hno
    rw [looperCleanupHandlers]
    refine .bind ?_ fun _ _ => hcaptures _ _ hno
    show Avoids .overrun (uvcHandleMessage env _ .terminate)
    exact uvcHandleMessage_avoids hl hg hframes
  refine .bind ?_ fun _ _ => .ok _
  cases hst with
  | none hh _ _ => rw [hh]; exact .ok s
  | uvc hh _ => rw [hh]; exact huvc [] (by decide)
  | capture hh _ => rw [hh]; exact hcaptures _ s (by decide)
  | both hh => rw [hh]; exact huvc [.capture] (by decide)

/-- The gadget whose callback is next finds room for the event its driver is about to deliver. -/
def Sys.FindsRoom (env : Env) (s : Sys) : Prop :=
  ∀ fd addr rest, s.phase = .dispatch (⟨fd, .uvcGadgetProcess, .gadget addr⟩ :: rest) →
    ∀ pre g post, SplitsAt (·.addr = addr) s.gadgets pre g post → Uvcd.FindsRoom env s.io.kernel g

/-- **No step copies a frame out of bounds** from a state with bounded gadgets and long frames. -/
theorem step_avoids (hl : LongBuffers env) (hal : s.Alive) (hg : ∀ g ∈ s.gadgets, g.Bounded)
    (hframes : LongFrames s.captures) {a : Action} (hroom : a = .next → s.FindsRoom env) :
    Avoids .overrun (step env a s) := by
  cases a with
  | plug name => exact .ok _
  | unplug name => exact .ok _
  | signal n => exact .ok _
  | select r => rw [step]; split <;> exact .ok _
  | selectFailed => rw [step]; split <;> exact .ok _
  | next =>
      rw [step, next]
      split
      · exact .ok _
      · exact .ok _
      · exact .ok _
      · exact .ok _
      · -- a callback of the round
        next t rest hat =>
          unfold invoke
          split
          · exact .ok _
          · exact .ok _
          · -- a gadget's events
            next a hcb hpriv =>
              refine .bind ?_ fun _ _ => .ok _
              unfold onGadget
              split
              · exact .error (by decide)
              · next pre g post hs =>
                  obtain ⟨fd, cb, priv⟩ := t
                  cases hcb; cases hpriv
                  have hsplit := splitFirst_decide.mp hs
                  exact .bind (uvcGadgetProcess_avoids hl (hg g hsplit.mem)
                    (hroom rfl fd a rest hat pre g post hsplit)) fun _ _ => .ok _
          · -- a gadget's buffers
            refine .bind ?_ fun _ _ => .ok _
            unfold onGadget
            split
            · exact .error (by decide)
            · next pre g post hs =>
                exact .bind (uvcVideoProcess_avoids env _ (hg g (splitFirst_decide.mp hs).mem))
                  fun _ _ => .ok _
          · -- a capture's buffers
            refine .bind ?_ fun _ _ => .ok _
            unfold onCapture
            split
            · exact .error (by decide)
            · exact .bind (captureProcess_avoids env _ _) fun _ _ => .ok _
          · exact .error (by decide)
      · exact .ok _
      · -- a message of the batch, and the cleanup
        exact .bind (looperHandle_avoids hl hal.fit.staffed hg hframes) fun _ _ => .ok _
      · exact .bind (looperCleanup_avoids hl hal.fit.staffed hg hframes) fun _ _ => .ok _
      · exact .ok _

/-- **Every step keeps the gadgets bounded.** -/
theorem step_bounded (hl : LongBuffers env) (hal : s.Alive) (hg : ∀ g ∈ s.gadgets, g.Bounded)
    {a : Action} (hroom : a = .next → s.FindsRoom env) (h : step env a s = .ok s') : ∀ g ∈ s'.gadgets, g.Bounded := by
  cases a with
  | plug name => cases h; exact hg
  | unplug name => cases h; exact hg
  | signal n => cases h; exact hg
  | select r => rw [step] at h; split at h <;> · cases h; exact hg
  | selectFailed => rw [step] at h; split at h <;> · cases h; exact hg
  | next =>
      rw [step, next] at h
      split at h
      · cases h; exact hg
      · next hat =>
          obtain ⟨hs₁, heq₁, -⟩ := looperRegisterHandler_spec env s .uvc
          obtain ⟨hs₂, heq₂, -⟩ := looperRegisterHandler_spec env
            { s with handlers := hs₁, io := s.io.tick } .capture
          dsimp only at h
          rw [heq₁, heq₂] at h
          cases h
          exact hg
      · cases h; exact hg
      · cases h; exact hg
      · next t rest hat =>
          unfold invoke at h
          split at h
          · cases h; exact hg
          · cases h; exact hg
          · -- a gadget's events
            next a hcb hpriv =>
              obtain ⟨s₁, hon, h⟩ := bind_eq_ok.mp h
              cases h
              obtain ⟨pre, g, post, g', io, hs, hok, rfl⟩ := onGadget_ok hon
              obtain ⟨fd, cb, priv⟩ := t
              cases hcb; cases hpriv
              exact forall_replaced hs.eq hg (uvcGadgetProcess_bounded hl (hg g hs.mem)
                (hroom rfl fd a rest hat pre g post hs) hok)
          · -- a gadget's buffers
            obtain ⟨s₁, hon, h⟩ := bind_eq_ok.mp h
            cases h
            obtain ⟨pre, g, post, g', io, hs, hok, rfl⟩ := onGadget_ok hon
            exact forall_replaced hs.eq hg (uvcVideoProcess_bounded hl (hg g hs.mem) hok)
          · -- a capture's buffers
            obtain ⟨s₁, hon, h⟩ := bind_eq_ok.mp h
            cases h
            obtain ⟨pre, c, post, c', io, -, -, rfl⟩ := onCapture_ok hon
            exact hg
          · cases h
      · cases h; exact hg
      · obtain ⟨s₁, hm, h⟩ := bind_eq_ok.mp h
        cases h
        show ∀ g ∈ s₁.gadgets, g.Bounded
        exact looperHandle_bounded hg hm
      · obtain ⟨s₁, hclean, h⟩ := bind_eq_ok.mp h
        cases h
        show ∀ g ∈ s₁.gadgets, g.Bounded
        rw [(looperCleanup_empties hal.fit.staffed hclean).1]
        intro g hmem; cases hmem
      · cases h; exact hg

end Messages

end Uvcd
