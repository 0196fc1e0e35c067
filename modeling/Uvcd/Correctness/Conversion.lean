import Uvcd.Correctness.Pool
import Uvcd.Refinement.Conversion

/-!
# `Correctness.Conversion` — the frames a stream publishes

Between `v4l_video_stream (1)` and `(0)` the callback of a capture may be called, and format messages may be handled,
in any order. A driver that has buffers allocated refuses formats, so the size and the format are those of the start
whenever a frame is converted. `frames_published`: the frames go alternately into the two internal buffers, each
converted whole and with the grey of the start in the chroma bytes, for as many frames as the stream runs.
-/

namespace Uvcd

open Machine

variable {env : Env} {k k' : Kernel} {io io' : Io} {c c' c₁ : Capture} {n : Nat}

/-! ## One frame -/

/-- The offset of the internal buffer that the frame after `n` others goes to. -/
def Capture.slot (c : Capture) (n : Nat) : Nat := 2 * c.pixels * (n % internalBufferNumber)

/-- The message that publishes a frame at `off`. -/
def Capture.announces (c : Capture) (fb : FrameBufs) (off : Nat) : Message :=
  .frameAvailable c.gadgetId ⟨fb.addr, off⟩

/-- **The frame `y` is published**, the one after `n` others of a stream that started as `c₁`: the buffers of
    `c` turn from `fb` into `fb'`, and the pointer to the frame is sent, which only fails when the pipe takes
    nothing. -/
structure Publishes (env : Env) (c₁ : Capture) (n : Nat) (y : Bytes) (io io' : Io) (c c' : Capture)
    (fb fb' : FrameBufs) : Prop where
  before : c.buffers = some fb
  after : c'.buffers = some fb'
  addr : fb'.addr = fb.addr
  stride : fb.stride = 2 * c₁.pixels ∧ fb'.stride = 2 * c₁.pixels
  sent : io'.sent = if env.write (io.kernel.tick + 1) (c.announces fb (c₁.slot n)) then
    io.sent ++ [c.announces fb (c₁.slot n)] else io.sent
  grey : c₁.vdev.format.pixelformat = PixFormat.GREY →
    ∀ k < c₁.pixels, fb'.mem (c₁.slot n + 2 * k) = y k ∧ fb'.mem (c₁.slot n + 2 * k + 1) = 128
  yuyv : c₁.vdev.format.pixelformat = PixFormat.YUYV → ∀ k < 2 * c₁.pixels, fb'.mem (c₁.slot n + k) = y k
  other : ∀ a, a < c₁.slot n ∨ c₁.slot n + 2 * c₁.pixels ≤ a → fb'.mem a = fb.mem a

/-- **A stream that started as `c₁`**, `n` frames later. A driver that granted no buffers may take formats, but it has
    no frames either. -/
structure Running (c₁ : Capture) (n : Nat) (c : Capture) : Prop where
  ready : c.vdev.Ready c₁.fullFrame
  fixed : c.vdev.nbufs ≠ 0 → c.vdev.format = c₁.vdev.format ∧ c.width = c₁.width ∧ c.height = c₁.height
  index : c.index.toNat = n % 2 ^ 32
  block : ∃ fb, c.buffers = some fb ∧ fb.stride = 2 * c₁.pixels ∧
    (c₁.vdev.format.pixelformat = PixFormat.GREY → ∀ k < 2 * c₁.pixels, fb.mem (2 * k + 1) = 128)

theorem slot_lt (c : Capture) (n : Nat) : c.slot n + 2 * c.pixels ≤ internalBufferNumber * (2 * c.pixels) := by
  unfold Capture.slot internalBufferNumber
  rcases Nat.mod_two_eq_zero_or_one n with h | h <;> rw [h] <;> omega

theorem slot_even (c : Capture) (n : Nat) : ∃ j, c.slot n = 2 * j ∧ j + c.pixels ≤ 2 * c.pixels := by
  refine ⟨c.pixels * (n % internalBufferNumber), Nat.mul_assoc _ _ _, ?_⟩
  have hlt := slot_lt c n
  unfold Capture.slot internalBufferNumber at hlt
  rw [Nat.mul_assoc] at hlt
  unfold internalBufferNumber
  omega

/-- The wrap of the counter does not change which buffer is next. -/
theorem Running.slot_eq (h : Running c₁ n c) {fb : FrameBufs} (hs : fb.stride = 2 * c₁.pixels) :
    fb.stride * (c.index.toNat % internalBufferNumber) = c₁.slot n := by
  unfold Capture.slot
  rw [hs, h.index, Nat.mod_mod_of_dvd n (by decide : internalBufferNumber ∣ 2 ^ 32)]

theorem Running.frameSize (h : Running c₁ n c) (hsize : 4 * c₁.pixels < 2 ^ 31) (hn : c.vdev.nbufs ≠ 0) :
    c.frameSize = (2 * c₁.pixels : Nat) := by
  obtain ⟨-, hw, hh⟩ := h.fixed hn
  unfold Capture.frameSize
  rw [hw, hh, UInt32.mul_comm c₁.height]
  exact toInt_frameSize hsize

theorem sourceBytes_le {c : Capture} (hc : c.Converts) :
    sourceBytes c.vdev.format.pixelformat (2 * c.pixels) ≤ c.fullFrame := by
  unfold sourceBytes Capture.fullFrame
  rcases hc with hc | hc
  · rw [if_pos hc, if_pos hc]
    omega
  · have hne : c.vdev.format.pixelformat ≠ PixFormat.GREY := by
      rw [hc]
      decide
    rw [if_neg hne, if_neg hne, if_pos hc]

/-- A frame in another format only counts. -/
theorem v4lProcessBuffer_unsupported (hc : ¬c.Converts) (env : Env) (io : Io) (buf : VideoBuffer) (stamp : Nat) :
    v4lProcessBuffer env io c buf stamp = .ok (Errno.ENOSYS.neg, { c with index := c.index + 1 }, io) := by
  unfold v4lProcessBuffer
  exact if_pos (not_or.mp hc)

/-- A frame is sent unless the pipe takes nothing. -/
theorem publish_sent (env : Env) (io : Io) (m : Message) (f : Frame) :
    (if (looperSendMessage env io m).1 = 0 then
      { (looperSendMessage env io m).2 with posted := (looperSendMessage env io m).2.posted ++ [f] }
    else (looperSendMessage env io m).2).sent = if env.write io.kernel.tick m then io.sent ++ [m] else io.sent := by
  rw [publish_eq]
  split <;> rfl

/-- A frame that finds the source long enough, and room in the block, is converted and sent. -/
theorem v4lProcessBuffer_converts {buf : VideoBuffer} {stamp size off : Nat} {fb : FrameBufs} {y : Bytes}
    (hc : c.Converts) (hfb : c.buffers = some fb) (hy : buf.mem = some y) (hsize : c.frameSize = (size : Nat))
    (hoff : fb.stride * (c.index.toNat % internalBufferNumber) = off)
    (hsrc : sourceBytes c.vdev.format.pixelformat size ≤ buf.size)
    (hdst : off + size ≤ internalBufferNumber * fb.stride) :
    ∃ io', v4lProcessBuffer env io c buf stamp = .ok (0,
        { c with
          index := c.index + 1
          buffers := some (fb.convert c.vdev.format.pixelformat y off size stamp) }, io') ∧
      io'.sent = if env.write io.kernel.tick (c.announces fb off) then io.sent ++ [c.announces fb off]
        else io.sent := by
  unfold v4lProcessBuffer
  dsimp only
  have hno : ¬(c.vdev.format.pixelformat ≠ PixFormat.GREY ∧ c.vdev.format.pixelformat ≠ PixFormat.YUYV) := fun h =>
    hc.elim h.1 h.2
  rw [if_neg hno, hfb, hy]
  dsimp only
  rw [hoff, hsize]
  have hfits : ¬((c.vdev.format.pixelformat = PixFormat.YUYV ∧ ((size : Nat) : Int) < 0) ∨
      buf.size < sourceBytes c.vdev.format.pixelformat ((size : Nat) : Int).toNat ∨
      internalBufferNumber * fb.stride < off + ((size : Nat) : Int).toNat) := by
    rw [Int.toNat_natCast]
    omega
  rw [if_neg hfits, Int.toNat_natCast]
  exact ⟨_, rfl, publish_sent env io (c.announces fb off) _⟩

theorem index_succ {i : UInt32} (h : i.toNat = n % 2 ^ 32) : (i + 1).toNat = (n + 1) % 2 ^ 32 := by
  rw [UInt32.toNat_add, h]
  exact Nat.mod_add_mod n (2 ^ 32) 1

/-- Dequeueing and queueing buffers leaves the stream as it is. -/
theorem Running.device (h : Running c₁ n c) {d : Device} (hd : d.Ready c₁.fullFrame) (hn : d.nbufs = c.vdev.nbufs)
    (hfmt : d.format = c.vdev.format) : Running c₁ n { c with vdev := d } := by
  refine ⟨hd, fun hne => ?_, h.index, h.block⟩
  rw [hn] at hne
  obtain ⟨hformat, hw, hh⟩ := h.fixed hne
  exact ⟨hfmt.trans hformat, hw, hh⟩

/-- A frame in another format is counted and dropped. -/
theorem Running.skip (h : Running c₁ n c) (hn : c.vdev.nbufs ≠ 0) (hc : ¬c₁.Converts) (env : Env) (io : Io)
    (buf : VideoBuffer) (stamp : Nat) :
    ∃ c', v4lProcessBuffer env io c buf stamp = .ok (Errno.ENOSYS.neg, c', io) ∧ Running c₁ (n + 1) c' := by
  have hno : ¬c.Converts := by
    unfold Capture.Converts
    rw [(h.fixed hn).1]
    exact hc
  exact ⟨_, v4lProcessBuffer_unsupported hno env io buf stamp, h.ready, h.fixed, index_succ h.index, h.block⟩

/-- **Converting one frame** turns the buffers from `fb` into `fb'` and sends the pointer to it. -/
theorem Running.convert (h : Running c₁ n c) (hsize : 4 * c₁.pixels < 2 ^ 31) (hn : c.vdev.nbufs ≠ 0)
    (hc : c₁.Converts) {buf : VideoBuffer} {y : Bytes} (hy : buf.mem = some y) (hle : c₁.fullFrame ≤ buf.size)
    (env : Env) (io : Io) (stamp : Nat) :
    ∃ fb fb' c' io', c.buffers = some fb ∧ c'.buffers = some fb' ∧ c'.vdev = c.vdev ∧
      v4lProcessBuffer env io c buf stamp = .ok (0, c', io') ∧ Running c₁ (n + 1) c' ∧ fb'.addr = fb.addr ∧
      fb.stride = 2 * c₁.pixels ∧ fb'.stride = 2 * c₁.pixels ∧
      (c₁.vdev.format.pixelformat = PixFormat.GREY → ∀ k < 2 * c₁.pixels, fb.mem (2 * k + 1) = 128) ∧
      Converted c₁.vdev.format.pixelformat c₁.pixels (c₁.slot n) y fb.mem fb'.mem ∧
      io'.sent = if env.write io.kernel.tick (c.announces fb (c₁.slot n)) then
        io.sent ++ [c.announces fb (c₁.slot n)] else io.sent := by
  obtain ⟨fb, hfb, hstride, hgrey⟩ := h.block
  have hformat := (h.fixed hn).1
  have hyes : c.Converts := by
    unfold Capture.Converts
    rw [hformat]
    exact hc
  have hsrc : sourceBytes c.vdev.format.pixelformat (2 * c₁.pixels) ≤ buf.size := by
    rw [hformat]
    exact Nat.le_trans (sourceBytes_le hc) hle
  have hdst : c₁.slot n + 2 * c₁.pixels ≤ internalBufferNumber * fb.stride := by
    rw [hstride]
    exact slot_lt c₁ n
  obtain ⟨io', hproc, hsent⟩ := @v4lProcessBuffer_converts env io c buf stamp _ _ fb y hyes hfb hy
    (h.frameSize hsize hn) (h.slot_eq hstride) hsrc hdst
  have hconv := convertFrame_converts c₁.vdev.format.pixelformat y (c₁.slot n) c₁.pixels fb.mem
  obtain ⟨j, hj, -⟩ := slot_even c₁ n
  rw [hformat] at hproc
  refine ⟨fb, _, { c with index := c.index + 1, buffers := some _ }, io', hfb, rfl, rfl, hproc,
    ⟨h.ready, h.fixed, index_succ h.index, _, rfl, hstride, ?_⟩, rfl, hstride, hstride, hgrey, hconv, hsent⟩
  -- the chroma bytes are still those of the start
  intro hg k hk
  exact (hconv.odd hg (by omega) k).trans (hgrey hg k hk)

/-- **One call of `capture_process`** while the stream runs: it publishes the frame it finds, if the format is one
    that is converted. -/
theorem Running.process (hdrv : env.HandsOutOwned) (hsize : 4 * c₁.pixels < 2 ^ 31) (h : Running c₁ n c) (io : Io) :
    (∃ e c' io', env.dqbuf io.kernel.tick c.vdev.file = .error e ∧ captureProcess env io c = .ok (c', io') ∧
        Running c₁ n c') ∨
      ∃ f buf y k d c' io', env.dqbuf io.kernel.tick c.vdev.file = .ok f ∧
        v4l2DequeueBuffer env io.kernel c.vdev = .ok (.ok buf, k, d) ∧ buf.mem = some y ∧ c₁.fullFrame ≤ buf.size ∧
        captureProcess env io c = .ok (c', io') ∧ Running c₁ (n + 1) c' ∧
        (c₁.Converts → ∃ fb fb', Publishes env c₁ n y io io' c c' fb fb') := by
  -- `VIDIOC_DQBUF` fails, or hands out a mapped buffer that is long enough
  rcases h.ready.dequeue hdrv io.kernel with ⟨e, he, hdq⟩ | ⟨f, buf, y, d, hf, hdq, hy, hle, hd, hn, hnd, hfmt⟩
  · refine .inl ⟨e, c, { io with kernel := io.kernel.call (.ioctl c.vdev.fd) }, he, ?_, h⟩
    unfold captureProcess
    rw [hdq, ok_bind]
  · have hn₁ : d.nbufs ≠ 0 := by rw [hnd]; exact hn
    have h₁ := h.device hd hnd hfmt
    refine .inr ⟨f, buf, y, io.kernel.call (.ioctl c.vdev.fd), d, ?_⟩
    unfold captureProcess
    rw [hdq, ok_bind]
    dsimp only
    by_cases hc : c₁.Converts
    · -- the frame is converted and published, then the buffer goes back
      obtain ⟨fb, fb', c₂, io₂, hfb, hfb', hvdev, hproc, h₂, haddr, hs, hs', hgrey, hconv, hsent⟩ :=
        h₁.convert hsize hn₁ hc hy hle env { io with kernel := io.kernel.call (.ioctl c.vdev.fd) } io.kernel.tick
      rw [hproc, ok_bind]
      dsimp only
      generalize hq : v4l2QueueBuffer env io₂.kernel c₂.vdev buf = r
      obtain ⟨ret, k₃, d₃⟩ := r
      have hd₃ := v4l2QueueBuffer_keeps hq
      refine ⟨_, _, hf, rfl, hy, hle, rfl, h₂.device (h₂.ready.queue hq) (by rw [hd₃]) (by rw [hd₃]), fun _ => ?_⟩
      refine ⟨fb, fb', hfb, hfb', haddr, ⟨hs, hs'⟩, hsent, ?_, hconv.yuyv, hconv.other⟩
      intro hg k hk
      obtain ⟨j, hj, hjle⟩ := slot_even c₁ n
      refine ⟨hconv.luma hg k hk, (hconv.chroma hg k hk).trans ?_⟩
      rw [hj, ← Nat.mul_add]
      exact hgrey hg (j + k) (by omega)
    · obtain ⟨c₂, hproc, h₂⟩ := h₁.skip hn₁ hc env { io with kernel := io.kernel.call (.ioctl c.vdev.fd) } buf
        io.kernel.tick
      rw [hproc, ok_bind]
      dsimp only
      generalize hq : v4l2QueueBuffer env _ c₂.vdev buf = r
      obtain ⟨ret, k₃, d₃⟩ := r
      have hd₃ := v4l2QueueBuffer_keeps hq
      refine ⟨_, _, hf, rfl, hy, hle, rfl, h₂.device (h₂.ready.queue hq) (by rw [hd₃]) (by rw [hd₃]), fun h => ?_⟩
      exact absurd h hc

/-! ## From the start to the stop -/

/-- What happens to a capture whose stream runs: its callback is called, or a format message is handled, with the
    capture behind `pre` and before `post` in `g_captures`. The shared data `io` are whatever they are by then. -/
inductive StreamEvent where
  | process (io : Io)
  | setFmt (io : Io) (pre post : List Capture) (id : UInt32) (fmt : PixFormat)

/-- A capture whose stream runs, and how many frames it has dequeued since the start. -/
structure Stream where
  capture : Capture
  frames : Nat

def Stream.step (env : Env) : StreamEvent → Stream → Except Fault Stream
  | .process io, s => do
    let (c, _) ← captureProcess env io s.capture
    match env.dqbuf io.kernel.tick s.capture.vdev.file with
    | .error _ => .ok { s with capture := c }
    | .ok _ => .ok ⟨c, s.frames + 1⟩
  | .setFmt io pre post id fmt, s =>
    let (_, captures, _) := v4lCaptureSetFmt env io (pre ++ s.capture :: post) id fmt
    match captures[pre.length]? with
    | some c => .ok { s with capture := c }
    | none => .error .badPointer

/-- A stream as it is right after its start. -/
theorem running_start {ret : Int} (hstart : V4lStreams env io c true ret c₁ io') (hoff : c.isStreaming = false)
    (hret : ret = 0) (hsize : 4 * c.pixels < 2 ^ 31) (hfull : c₁.vdev.HoldsFrames c₁.fullFrame) :
    Running c₁ 0 c₁ := by
  cases hstart with
  | idle h => exact absurd (hoff.symm.trans h) (by decide)
  | nomem hoff hmem => exact absurd hret (Errno.neg_ne _)
  | failed hoff hmem hlt hstart => omega
  | started hoff hmem hstart hon =>
      rename_i addr io₁ k₁ k d₁ d r
      obtain ⟨hb, hn, hq⟩ := v4l2StreamOn_pool hon
      have hcount : d.file.count = d₁.file.count := by
        unfold v4l2StreamOn at hon
        dsimp only at hon
        split at hon <;> · cases hon; rfl
      have hfull₁ : d₁.HoldsFrames (Capture.fullFrame { c with vdev := d }) := by
        unfold Device.HoldsFrames
        rw [← hb, ← hn]
        exact hfull
      have hready := v4lVideoStart_ready hstart hfull₁
      refine ⟨⟨?_, ?_, ?_⟩, fun _ => ⟨rfl, rfl, rfl⟩, rfl, _, rfl, ?_, fun _ _ _ => rfl⟩
      · show ∀ i ∈ d.file.queued, i < d.nbufs
        rw [hq, hn]
        exact hready.queued
      · show ∀ i < d.nbufs, ∃ b, d.buffers[i]? = some b ∧ _
        rw [hb, hn]
        exact hready.filled
      · show d.file.count = d.nbufs
        rw [hcount, hn]
        exact hready.count
      · show (c.width * c.height * 2).toInt32.toInt.toNat = 2 * (c.width.toNat * c.height.toNat)
        rw [toInt_frameSize hsize, Int.toNat_natCast]

/-- A format message leaves a stream as it is. -/
theorem Running.retuned (h : Running c₁ n c) (ht : Retuned c c') : Running c₁ n c' := by
  have hd := ht.device
  obtain ⟨fb, hfb, hblock⟩ := h.block
  refine ⟨⟨?_, ?_, ?_⟩, fun hn => ?_, by rw [ht.index]; exact h.index, fb, ht.buffers.trans hfb, hblock⟩
  · rw [hd]; exact h.ready.queued
  · rw [hd]; exact h.ready.filled
  · rw [hd]; exact h.ready.count
  · -- the driver has buffers, so it takes no format
    have hn : c.vdev.nbufs ≠ 0 := by rw [hd] at hn; exact hn
    obtain ⟨hvdev, hw, hh⟩ := ht.busy (by rw [h.ready.count]; exact hn)
    rw [hvdev, hw, hh]
    exact h.fixed hn

/-- **One event** keeps a stream running. -/
theorem Running.step (hdrv : env.HandsOutOwned) (hbusy : env.RefusesBusy) (hsize : 4 * c₁.pixels < 2 ^ 31)
    {s : Stream} (h : Running c₁ s.frames s.capture) (e : StreamEvent) :
    ∃ s', s.step env e = .ok s' ∧ Running c₁ s'.frames s'.capture := by
  cases e with
  | process io =>
      dsimp only [Stream.step]
      rcases h.process hdrv hsize io with ⟨e, c', io', he, hproc, hrun⟩ |
        ⟨f, buf, y, k, d, c', io', hf, -, -, -, hproc, hrun, -⟩
      · rw [hproc, ok_bind, he]
        exact ⟨_, rfl, hrun⟩
      · rw [hproc, ok_bind, hf]
        exact ⟨_, rfl, hrun⟩
  | setFmt io pre post id fmt =>
      dsimp only [Stream.step]
      generalize hset : v4lCaptureSetFmt env io (pre ++ s.capture :: post) id fmt = r
      obtain ⟨ret, captures, io'⟩ := r
      obtain ⟨c', hc', htuned⟩ := forall₂_mid (v4lCaptureSetFmt_retunes hbusy hset)
      dsimp only
      rw [hc']
      exact ⟨_, rfl, h.retuned htuned⟩

theorem Running.run (hdrv : env.HandsOutOwned) (hbusy : env.RefusesBusy) (hsize : 4 * c₁.pixels < 2 ^ 31)
    (es : List StreamEvent) : ∀ {s : Stream}, Running c₁ s.frames s.capture →
      ∃ s', Machine.run (Stream.step env) es s = .ok s' ∧ Running c₁ s'.frames s'.capture := by
  induction es with
  | nil => exact fun h => ⟨_, rfl, h⟩
  | cons e es ih =>
      intro s h
      obtain ⟨s₁, hstep, h₁⟩ := h.step hdrv hbusy hsize e
      obtain ⟨s', hrun, h'⟩ := ih h₁
      exact ⟨s', run_cons_ok.mpr ⟨s₁, hstep, hrun⟩, h'⟩

/-- **The frames a stream publishes.** Let a stream start, with frames of fewer than `2 ^ 29` pixels, on a driver that
    hands out buffers it owns, refuses formats while buffers are allocated and whose buffers hold a full frame. Then
    nothing that happens to the capture faults, however many frames it has dequeued, and the next frame is published
    through the two internal buffers in turn. -/
theorem frames_published (hdrv : env.HandsOutOwned) (hbusy : env.RefusesBusy) (hoff : c.isStreaming = false)
    (hstart : v4lVideoStream env io c true = .ok (0, c₁, io')) (hsize : 4 * (c.width.toNat * c.height.toNat) < 2 ^ 31)
    (hfull : c₁.vdev.HoldsFrames c₁.fullFrame) (es : List StreamEvent) :
    ∃ s, Machine.run (Stream.step env) es ⟨c₁, 0⟩ = .ok s ∧ s.capture.index.toNat = s.frames % 2 ^ 32 ∧
      ∀ io buf k d, c₁.Converts → v4l2DequeueBuffer env io.kernel s.capture.vdev = .ok (.ok buf, k, d) →
        ∃ y c' io' fb fb', buf.mem = some y ∧ c₁.fullFrame ≤ buf.size ∧
          captureProcess env io s.capture = .ok (c', io') ∧
          Publishes env c₁ s.frames y io io' s.capture c' fb fb' := by
  have hstarted := v4lVideoStream_streams hstart
  have hsize₁ : 4 * c₁.pixels < 2 ^ 31 := by
    unfold Capture.pixels
    obtain ⟨hw, hh⟩ : c₁.width = c.width ∧ c₁.height = c.height := by cases hstarted <;> exact ⟨rfl, rfl⟩
    rw [hw, hh]
    exact hsize
  obtain ⟨s, hrun, h⟩ := Running.run hdrv hbusy hsize₁ es (s := ⟨c₁, 0⟩) (running_start hstarted hoff rfl hsize hfull)
  refine ⟨s, hrun, h.index, fun io buf k d hc hdq => ?_⟩
  rcases h.process hdrv hsize₁ io with ⟨e, c', io', he, -⟩ |
    ⟨f, buf', y, k', d', c', io', -, hdq', hy, hle, hproc, -, hpub⟩
  · unfold v4l2DequeueBuffer at hdq
    dsimp only at hdq
    rw [he] at hdq
    cases hdq
  · cases hdq.symm.trans hdq'
    obtain ⟨fb, fb', hpub⟩ := hpub hc
    exact ⟨y, c', io', fb, fb', hy, hle, hproc, hpub⟩

/-- Drivers that keep to a format while buffers are allocated. -/
def keepingFormat : Env :=
  { Env.obliging [] [] with
    sFmt := fun _ file fmt => if file.count = 0 then .ok fmt else .error .EBUSY }

/-- A grey camera with frames of four by two pixels. -/
def greyFormat : PixFormat := ⟨4, 2, PixFormat.GREY, PixFormat.FIELD_NONE, 8⟩
def greyCamera : Capture :=
  { Capture.fresh 9 ⟨7, videoName 0, .videoCapture, .unset, [], greyFormat, 0, [], .fresh 0⟩
    with width := 4, height := 2 }

/-- Two frames, and a format message between them. -/
theorem frames_published_grey :
    ∃ c₁ io₁, v4lVideoStream keepingFormat (boot keepingFormat [] fun _ => greyFormat).io greyCamera true
        = .ok (0, c₁, io₁) ∧ c₁.Converts ∧
      ∃ s, Machine.run (Stream.step keepingFormat)
          [.process io₁, .setFmt io₁ [] [] 1 ⟨8, 8, PixFormat.YUYV, PixFormat.FIELD_NONE, 128⟩, .process io₁] ⟨c₁, 0⟩
          = .ok s ∧
        ∀ io buf k d, v4l2DequeueBuffer keepingFormat io.kernel s.capture.vdev = .ok (.ok buf, k, d) →
          ∃ y c' io' fb fb', buf.mem = some y ∧ c₁.fullFrame ≤ buf.size ∧
            captureProcess keepingFormat io s.capture = .ok (c', io') ∧
            Publishes keepingFormat c₁ s.frames y io io' s.capture c' fb fb' := by
  obtain ⟨⟨ret, c₁, io₁⟩, hstart, hret, hfull, hc⟩ : ∃ r, v4lVideoStream keepingFormat
      (boot keepingFormat [] fun _ => greyFormat).io greyCamera true = .ok r ∧ r.1 = 0 ∧
      r.2.1.vdev.HoldsFrames r.2.1.fullFrame ∧ r.2.1.Converts := by
    decide +kernel
  cases hret
  have hdrv : keepingFormat.HandsOutOwned := fun t file f h => obliging_handsOutOwned [] [] t file f h
  have hbusy : keepingFormat.RefusesBusy := fun t file fmt hcount => ⟨.EBUSY, if_neg hcount⟩
  obtain ⟨s, hrun, -, hpub⟩ := frames_published hdrv hbusy rfl hstart (by decide) hfull
    [.process io₁, .setFmt io₁ [] [] 1 ⟨8, 8, PixFormat.YUYV, PixFormat.FIELD_NONE, 128⟩, .process io₁]
  exact ⟨c₁, io₁, hstart, hc, s, hrun, fun io buf k d hdq => hpub io buf k d hc hdq⟩

end Uvcd
