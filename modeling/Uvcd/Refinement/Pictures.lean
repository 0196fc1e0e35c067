import Uvcd.Protocol.Rounds
import Uvcd.Refinement.Bounds
import Uvcd.Refinement.Conversion
import Uvcd.Refinement.Notes

/-!
# `Refinement.Pictures` — what the frames show

A frame shows one picture, the one a driver handed out at the call of its stamp (`Depicts`): `captureProcess_films`
says so of the frame that is converted, and that the frame in the other internal buffer stays what it was. What a
gadget shows the host is all of the picture of one frame copied into it, or nothing yet (`Displays`), which its video
callbacks hand on to the driver's buffers (`Device.All`).
-/

namespace Uvcd

open Machine

variable {env : Env} {k k' : Kernel} {d d' : Device} {io io' : Io} {g g' : Gadget} {c c' : Capture}

/-! ## Pictures -/

/-- Byte `k` of what a source frame of a pixel format looks like in YUYV; grey pixels have no colour. -/
def pixelByte (pixelformat : UInt32) (y : Bytes) (k : Nat) : UInt8 :=
  if pixelformat = PixFormat.GREY then if k % 2 = 0 then y (k / 2) else 128 else y k

/-- The first `size` bytes of it. -/
def picture (pixelformat : UInt32) (y : Bytes) (size : Nat) : Bytes := fun k =>
  if k < size then pixelByte pixelformat y k else 0

/-- `m` is the picture, `size` bytes long, of what a driver handed out at call `t`, its pixels being in
    `pixelformat`. -/
def DepictsIn (env : Env) (pixelformat : UInt32) (t size : Nat) (m : Bytes) : Prop :=
  ∃ file d, env.dqbuf t file = .ok d ∧
    (pixelformat = PixFormat.GREY ∨ pixelformat = PixFormat.YUYV) ∧ m = picture pixelformat d.frame size

def Depicts (env : Env) (t size : Nat) (m : Bytes) : Prop := ∃ pixelformat, DepictsIn env pixelformat t size m

/-- What nobody has written to. -/
def blank : Bytes := fun _ => 0

/-- `m` is blank, or the picture one of the frames `fs` shows. -/
def Displays (env : Env) (fs : List Frame) (m : Bytes) : Prop :=
  m = blank ∨ ∃ f ∈ fs, Depicts env f.stamp offeredSize m ∧ ∀ k < offeredSize, m k = f.bytes k

theorem Depicts.byte {t size : Nat} {m : Bytes} (h : Depicts env t size m) {k : Nat} (hk : size ≤ k) : m k = 0 := by
  obtain ⟨pf, file, d, -, -, rfl⟩ := h
  exact if_neg (Nat.not_lt.mpr hk)

/-- The beginning of a picture. -/
theorem Depicts.take {t size n : Nat} {m : Bytes} (h : Depicts env t size m) (hn : n ≤ size) :
    Depicts env t n (fun k => if k < n then m k else 0) := by
  obtain ⟨pf, file, d, hd, hpf, rfl⟩ := h
  refine ⟨pf, file, d, hd, hpf, ?_⟩
  funext k
  unfold picture
  by_cases hk : k < n
  · rw [if_pos hk, if_pos hk, if_pos (Nat.lt_of_lt_of_le hk hn)]
  · rw [if_neg hk, if_neg hk]

theorem Displays.byte {fs : List Frame} {m : Bytes} (h : Displays env fs m) {k : Nat} (hk : offeredSize ≤ k) :
    m k = 0 := by
  rcases h with rfl | ⟨f, -, hd, -⟩
  · rfl
  · exact hd.byte hk

theorem Displays.mono {fs : List Frame} {m : Bytes} (h : Displays env fs m) (f : Frame) :
    Displays env (fs ++ [f]) m := by
  refine h.imp id ?_
  rintro ⟨x, hx, hd⟩
  exact ⟨x, List.mem_append_left _ hx, hd⟩

/-- What is copied over something of the same length is all there is. -/
theorem memcpy_over {dst src : Bytes} {n : Nat} (hdst : ∀ k, n ≤ k → dst k = 0) :
    memcpy dst 0 src 0 n = fun k => if k < n then src k else 0 := by
  funext k
  unfold memcpy
  by_cases hk : k < n
  · rw [if_pos ⟨Nat.zero_le k, by omega⟩, if_pos hk, Nat.zero_add, Nat.sub_zero]
  · rw [if_neg (by omega), if_neg hk, hdst k (by omega)]

/-- Copying nothing. -/
theorem memcpy_zero (dst src : Bytes) : memcpy dst 0 src 0 0 = dst := by
  funext k
  unfold memcpy
  rw [if_neg (by omega)]

/-! ## Steps without frames -/

/-- Between `io` and `io'` no frame is published or copied. -/
structure Unfilmed (io io' : Io) : Prop where
  posted : io'.posted = io.posted
  delivered : io'.delivered = io.delivered
  queue : io'.queue.filterMap announced = io.queue.filterMap announced
  brk : io.brk ≤ io'.brk

theorem Unfilmed.refl (io : Io) : Unfilmed io io := ⟨rfl, rfl, rfl, Nat.le_refl _⟩

theorem Unfilmed.trans {io'' : Io} (h : Unfilmed io io') (h' : Unfilmed io' io'') : Unfilmed io io'' :=
  ⟨h'.posted.trans h.posted, h'.delivered.trans h.delivered, h'.queue.trans h.queue, Nat.le_trans h.brk h'.brk⟩

theorem unfilmed_kernel (io : Io) (k : Kernel) : Unfilmed io { io with kernel := k } := ⟨rfl, rfl, rfl, Nat.le_refl _⟩

theorem unfilmed_malloc {r : Option Nat} (h : io.malloc env = (r, io')) : Unfilmed io io' := by
  unfold Io.malloc at h
  split at h
  · cases h; exact ⟨rfl, rfl, rfl, Nat.le_succ _⟩
  · cases h; exact ⟨rfl, rfl, rfl, Nat.le_refl _⟩

theorem unfilmed_mallocFrames {size : Int} {r : Option Nat} (h : io.mallocFrames env size = .ok (r, io')) :
    Unfilmed io io' := by
  rcases mallocFrames_cases h with ⟨-, rfl⟩ | ⟨-, h⟩
  · exact ⟨rfl, rfl, rfl, Nat.le_refl _⟩
  · exact unfilmed_malloc h

theorem unfilmed_watch (env : Env) (io : Io) (fd : Nat) (type : EventType) (callback : Callback) (priv : Priv) :
    Unfilmed io (io.watch env fd type callback priv) := by
  unfold Io.watch
  split <;> exact ⟨rfl, rfl, rfl, Nat.le_refl _⟩

theorem unfilmed_unwatch (io : Io) (fd : Nat) (type : EventType) : Unfilmed io (io.unwatch fd type) :=
  ⟨rfl, rfl, rfl, Nat.le_refl _⟩

/-- A message that is not about a frame. -/
theorem unfilmed_post (env : Env) (io : Io) {m : Message} (hm : announced m = none) : Unfilmed io (io.post env m) := by
  unfold Io.post looperSendMessage
  split
  · exact ⟨rfl, rfl, announced_report hm, Nat.le_refl _⟩
  · exact ⟨rfl, rfl, rfl, Nat.le_refl _⟩

theorem unfilmed_alloc (io : Io) (p : Nat) (k : Kernel) :
    Unfilmed io { io with allocs := io.allocs ++ [p], kernel := k } := ⟨rfl, rfl, rfl, Nat.le_refl _⟩

theorem unfilmed_free (io : Io) (p : Nat) : Unfilmed io (io.free p) := ⟨rfl, rfl, rfl, Nat.le_refl _⟩

theorem unfilmed_settle (io : Io) (m : Message) : Unfilmed io (io.settle m) := by
  unfold Io.settle
  dsimp only
  split <;> split <;> exact ⟨rfl, rfl, rfl, Nat.le_refl _⟩

theorem UvcStreams.unfilmed {on : Bool} {ret : Int} (h : UvcStreams env io g on ret g' io') : Unfilmed io io' := by
  cases h with
  | idle h => exact .refl io
  | stopped hon hoff hfree =>
      exact ((unfilmed_unwatch io _ _).trans (unfilmed_kernel _ _)).trans (unfilmed_post env _ rfl)
  | failed hoff hret hstart => exact unfilmed_kernel io _
  | started hoff hstart =>
      exact ((unfilmed_kernel io _).trans (unfilmed_watch env _ _ _ _ _)).trans (unfilmed_post env _ rfl)

theorem V4lStreams.unfilmed {on : Bool} {ret : Int} (h : V4lStreams env io c on ret c' io') : Unfilmed io io' := by
  cases h with
  | idle h => exact .refl io
  | stopped hon hoff hfree => exact (unfilmed_unwatch io _ _).trans (unfilmed_kernel _ _)
  | nomem hoff hmem => exact unfilmed_mallocFrames hmem
  | failed hoff hmem hret hstart => exact (unfilmed_mallocFrames hmem).trans (unfilmed_kernel _ _)
  | started hoff hmem hstart hon =>
      exact ((unfilmed_mallocFrames hmem).trans (unfilmed_kernel _ _)).trans (unfilmed_watch env _ _ _ _ _)

theorem sendNotes_unfilmed (env : Env) (notes : List Note) : ∀ io : Io, Unfilmed io (sendNotes env notes io) := by
  induction notes with
  | nil => exact .refl
  | cons n ns ih =>
      intro io
      rw [sendNotes_cons]
      refine Unfilmed.trans ?_ (ih _)
      by_cases hmem : env.malloc io.kernel.tick = true
      · rw [n.send_mem hmem]
        have hm : announced (n.message io.brk) = none := by cases n <;> rfl
        have hsent := unfilmed_post env { io.tick with brk := io.brk + 1, allocs := io.allocs ++ [io.brk] } hm
        exact ⟨hsent.posted, hsent.delivered, hsent.queue, Nat.le_trans (Nat.le_succ _) hsent.brk⟩
      · rw [n.send_nomem hmem]
        exact unfilmed_kernel io _

theorem hotplugScan_unfilmed (env : Env) (io : Io) : Unfilmed io (hotplugScan env io) := by
  unfold hotplugScan
  split
  · rw [scanNames_eq]
    exact (unfilmed_kernel io _).trans (sendNotes_unfilmed env _ _)
  · exact unfilmed_kernel io _

theorem hotplugProcess_unfilmed (env : Env) (io : Io) : Unfilmed io (hotplugProcess env io) := by
  rw [hotplugProcess_eq]
  exact (unfilmed_kernel io _).trans (sendNotes_unfilmed env _ _)

theorem hotplugInit_unfilmed (env : Env) (io : Io) : Unfilmed io (hotplugInit env io).2 := by
  unfold hotplugInit
  split
  · exact (unfilmed_kernel io _).trans (unfilmed_watch env _ _ _ _ _)
  · exact unfilmed_kernel io _

theorem uvcGadgetTerminate_unfilmed {gadgets : List Gadget} : ∀ {io io' : Io},
    uvcGadgetTerminate env gadgets io = .ok io' → Unfilmed io io' := by
  induction gadgets with
  | nil => intro io io' h; cases h; exact .refl io
  | cons g gs ih =>
      intro io io' h
      obtain ⟨⟨ret, g₁, io₁⟩, hstop, h⟩ := bind_eq_ok.mp h
      have hg := (uvcVideoStream_streams hstop).unfilmed
      exact ((hg.trans (unfilmed_unwatch _ _ _)).trans (unfilmed_kernel _ _)).trans (ih h)

theorem v4lCaptureTerminate_unfilmed {captures : List Capture} : ∀ {io io' : Io},
    v4lCaptureTerminate env captures io = .ok io' → Unfilmed io io' := by
  induction captures with
  | nil => intro io io' h; cases h; exact .refl io
  | cons c cs ih =>
      intro io io' h
      obtain ⟨⟨ret, c₁, io₁⟩, hstop, h⟩ := bind_eq_ok.mp h
      exact ((v4lVideoStream_streams hstop).unfilmed.trans (unfilmed_kernel _ _)).trans (ih h)

theorem looperCleanupHandlers_unfilmed : ∀ (hs : List Handler) {s s' : Sys},
    looperCleanupHandlers env hs s = .ok s' → Unfilmed s.io s'.io := by
  intro hs
  induction hs with
  | nil => intro s s' h; cases h; exact .refl _
  | cons x hs ih =>
      intro s s' h
      obtain ⟨⟨r, s₁⟩, hx, h⟩ := bind_eq_ok.mp h
      cases x with
      | uvc =>
          obtain ⟨io, hterm, heq⟩ := bind_eq_ok.mp hx
          cases heq
          exact (uvcGadgetTerminate_unfilmed hterm).trans (ih h)
      | capture =>
          obtain ⟨io, hterm, heq⟩ := bind_eq_ok.mp hx
          cases heq
          exact (v4lCaptureTerminate_unfilmed hterm).trans (ih h)

/-- The end of `main`. -/
theorem looperCleanup_unfilmed {s s' : Sys} (h : looperCleanup env s = .ok s') : Unfilmed s.io s'.io := by
  obtain ⟨s₁, hs₁, h⟩ := bind_eq_ok.mp h
  cases h
  exact (looperCleanupHandlers_unfilmed _ hs₁).trans ⟨rfl, rfl, rfl, Nat.le_refl _⟩

theorem SetsVideo.unfilmed (h : SetsVideo env io g g' io') : Unfilmed io io' := by
  cases h with
  | nomem hmem => exact unfilmed_malloc hmem
  | refused hmem hret hset =>
      exact ((unfilmed_malloc hmem).trans (unfilmed_alloc _ _ _)).trans (unfilmed_free _ _)
  | posted hmem hret hset =>
      exact ((unfilmed_malloc hmem).trans (unfilmed_alloc _ _ _)).trans (unfilmed_post env _ rfl)

theorem UvcCalls.unfilmed (h : UvcCalls env io g g' io') : Unfilmed io io' := by
  have hpolled : Unfilmed io (io.polled g.vdev.fd) := unfilmed_kernel io _
  cases h with
  | quiet hev ht => exact unfilmed_kernel io _
  | commit hev hcontrol hset => exact hpolled.trans hset.unfilmed
  | stream on hev hs => exact hpolled.trans hs.unfilmed

/-! ## The memory of the buffers -/

/-- Every mapped buffer holds what `P` says. -/
def Device.Holds (P : Bytes → Prop) (d : Device) : Prop := ∀ b ∈ d.buffers, ∀ m, b.mem = some m → P m

section Holds

variable {P : Bytes → Prop}

theorem Device.Holds.mono {Q : Bytes → Prop} (h : d.Holds P) (hPQ : ∀ m, P m → Q m) : d.Holds Q :=
  fun b hb m hm => hPQ m (h b hb m hm)

theorem Device.Holds.of_eq (h : d.Holds P) (hb : d'.buffers = d.buffers) : d'.Holds P := by
  unfold Holds
  rw [hb]
  exact h

theorem Device.Holds.set (h : d.Holds P) {i : Nat} {b : VideoBuffer} (hb : ∀ m, b.mem = some m → P m) (f : File) :
    Device.Holds P { d with buffers := d.buffers.set i b, file := f } := by
  intro x hx m hm
  rcases List.mem_or_eq_of_mem_set hx with hx | rfl
  · exact h x hx m hm
  · exact hb m hm

theorem releaseBuffers_holds {n : Nat} : ∀ {i : Nat} {k : Kernel} {d : Device} {ret : Int}, d.Holds P →
    releaseBuffers env i n k d = .ok (ret, k', d') → d'.Holds P := by
  induction n with
  | zero => intro i k d ret hd h; cases h; exact hd
  | succ n ih =>
      intro i k d ret hd h
      rw [releaseBuffers] at h
      split at h
      · cases h
      · dsimp only at h
        split at h
        · cases h; exact hd
        · exact ih (hd.set (fun m hm => by cases hm) _) h

theorem v4l2FreeBuffers_holds {ret : Int} (h : v4l2FreeBuffers env k d = .ok (ret, k', d')) (hd : d.Holds P) :
    d'.Holds P := by
  unfold v4l2FreeBuffers at h
  split at h
  · cases h; exact hd
  · obtain ⟨⟨ret₁, k₁, d₁⟩, hrel, h⟩ := bind_eq_ok.mp h
    have hd₁ : d₁.Holds P := releaseBuffers_holds hd hrel
    dsimp only at h
    split at h
    · cases h; exact hd₁
    · split at h
      · next e k₂ d₂ hreq =>
          cases h
          unfold ioctlReqbufs at hreq
          dsimp only at hreq
          split at hreq
          · cases hreq; exact hd₁
          · split at hreq <;> cases hreq
      · cases h
        exact fun b hb => by cases hb

theorem v4l2StreamOff_buffers {ret : Int} (h : v4l2StreamOff env k d = (ret, k', d')) : d'.buffers = d.buffers := by
  unfold v4l2StreamOff at h
  dsimp only at h
  split at h <;> · cases h; rfl

/-- The buffers of a stream that starts are blank. -/
theorem mmapBuffers_holds (hblank : P blank) {n : Nat} : ∀ {i : Nat} {k : Kernel} {d : Device} {ret : Int},
    d.Holds P → mmapBuffers env i n k d = .ok (ret, k', d') → d'.Holds P := by
  induction n with
  | zero => intro i k d ret hd h; cases h; exact hd
  | succ n ih =>
      intro i k d ret hd h
      rw [mmapBuffers] at h
      split at h
      · cases h; exact hd
      · split at h
        · cases h; exact hd
        · split at h
          · cases h
          · refine ih (hd.set (fun m hm => ?_) _) h
            cases hm
            exact hblank

/-- A gadget that fills the buffers one by one leaves in each what it fills it with. -/
theorem fillAndQueue_holds {n : Nat}
    (hfill : ∀ b b', uvcVideoFillBuffer g b = .ok b' → (∀ m, b.mem = some m → P m) → ∀ m, b'.mem = some m → P m) :
    ∀ {i : Nat} {k : Kernel} {d : Device} {ret : Int}, d.Holds P → fillAndQueue env g i n k d = .ok (ret, k', d') →
      d'.Holds P := by
  induction n with
  | zero => intro i k d ret hd h; cases h; exact hd
  | succ n ih =>
      intro i k d ret hd h
      rw [fillAndQueue] at h
      split at h
      · cases h
      · next b hb =>
          obtain ⟨b', hb', h⟩ := bind_eq_ok.mp h
          generalize hq : v4l2QueueBuffer env k { d with buffers := d.buffers.set i b' } b' = r at h
          obtain ⟨ret₁, k₁, d₁⟩ := r
          have hfilled := hd.set (i := i) (hfill b b' hb' (hd b (List.mem_of_getElem? hb))) d.file
          have hd₁ : d₁.Holds P := hfilled.of_eq (by rw [v4l2QueueBuffer_keeps hq])
          dsimp only at h
          split at h
          · cases h; exact hd₁
          · exact ih hd₁ h

/-- A request for mapped buffers leaves the old ones, or none that is mapped. -/
theorem v4l2AllocBuffers_holds {n : Nat} (hn : n ≠ 0) {ret : Int} (hd : d.Holds P)
    (h : v4l2AllocBuffers env k d .mmap n = .ok (ret, k', d')) : d'.Holds P := by
  obtain ⟨-, hall⟩ := v4l2AllocBuffers_allocates hn h
  cases hall with
  | busy hbusy => exact hd
  | refused h0 hreq => exact hd
  | surplus h0 hreq hm => exact hd.of_eq rfl
  | nomem h0 hreq hno => exact fun b hb => by cases hb
  | ok h0 hreq hm hmem ht =>
      intro b hb m hm
      obtain ⟨i, hi⟩ := List.mem_iff_getElem?.mp hb
      rw [(freshBuffers_getElem? hi).1] at hm
      cases hm

/-- **A stream start** leaves the buffers blank or filled, whether it comes through or gives them back. -/
theorem uvcVideoStart_holds {ret : Int} (hblank : P blank)
    (hfill : ∀ b b', uvcVideoFillBuffer g b = .ok b' → (∀ m, b.mem = some m → P m) → ∀ m, b'.mem = some m → P m)
    (hd : g.vdev.Holds P) (h : uvcVideoStart env k g = .ok (ret, k', d')) : d'.Holds P := by
  unfold uvcVideoStart at h
  obtain ⟨⟨ret₁, k₁, d₁⟩, halloc, h⟩ := bind_eq_ok.mp h
  have hd₁ : d₁.Holds P := v4l2AllocBuffers_holds (by decide) hd halloc
  dsimp only at h
  split at h
  · cases h; exact hd₁
  · obtain ⟨⟨ret₂, k₂, d₂⟩, hmap, h⟩ := bind_eq_ok.mp h
    have hd₂ : d₂.Holds P := by
      unfold v4l2MmapBuffers at hmap
      split at hmap
      · cases hmap; exact hd₁
      · exact mmapBuffers_holds hblank hd₁ hmap
    dsimp only at h
    obtain ⟨⟨ret₃, k₃, d₃⟩, hqueue, h⟩ := bind_eq_ok.mp h
    have hd₃ : d₃.Holds P := by
      split at hqueue
      · cases hqueue; exact hd₂
      · exact fillAndQueue_holds hfill hd₂ hqueue
    -- `VIDIOC_STREAMON` does not touch the buffers
    generalize hon : (if ret₃ < 0 then (ret₃, k₃, d₃) else v4l2StreamOn env k₃ d₃) = r at h
    obtain ⟨ret₄, k₄, d₄⟩ := r
    have hd₄ : d₄.Holds P := by
      split at hon
      · cases hon; exact hd₃
      · exact hd₃.of_eq (v4l2StreamOn_pool hon).1
    dsimp only at h
    split at h
    · obtain ⟨⟨r, k₅, d₅⟩, hfree, h⟩ := bind_eq_ok.mp h
      cases h
      exact v4l2FreeBuffers_holds hfree hd₄
    · cases h
      exact hd₄

theorem UvcStreams.holds {on : Bool} {ret : Int} (hblank : P blank)
    (hfill : ∀ b b', uvcVideoFillBuffer g b = .ok b' → (∀ m, b.mem = some m → P m) → ∀ m, b'.mem = some m → P m)
    (hd : g.vdev.Holds P) (h : UvcStreams env io g on ret g' io') : g'.vdev.Holds P := by
  cases h with
  | idle h => exact hd
  | stopped hon hoff hfree => exact v4l2FreeBuffers_holds hfree (hd.of_eq (v4l2StreamOff_buffers hoff))
  | failed hoff hret hstart => exact uvcVideoStart_holds hblank hfill hd hstart
  | started hoff hstart => exact uvcVideoStart_holds hblank hfill hd hstart

/-- The device of a gadget stays the one that was opened. -/
theorem UvcStreams.same {on : Bool} {ret : Int} (hp : g.vdev.Plain) (h : UvcStreams env io g on ret g' io') :
    g.vdev.Same g'.vdev := by
  cases h with
  | idle h => exact .refl _
  | stopped hon hoff hfree =>
      have hst := v4l2StreamOff_steady hp hoff
      exact hst.same.trans (v4l2FreeBuffers_steady hst.plain hfree).same
  | failed hoff hret hstart => exact (uvcVideoStart_uses hp hstart).1.same
  | started hoff hstart => exact (uvcVideoStart_uses hp hstart).1.same

theorem SetsVideo.holds (hd : g.vdev.Holds P) (h : SetsVideo env io g g' io') : g'.vdev.Holds P := by
  cases h with
  | nomem hmem => exact hd
  | refused hmem hret hset | posted hmem hret hset =>
      obtain ⟨-, heq, -⟩ := v4l2SetFormat_spec hset
      exact hd.of_eq (by rw [heq])

/-- **The video callback** of an output device leaves in the buffer it took what it filled it with. -/
theorem uvcVideoProcess_holds (htype : g.vdev.type = .videoOutput)
    (hfill : ∀ b b', uvcVideoFillBuffer g b = .ok b' → (∀ m, b.mem = some m → P m) → ∀ m, b'.mem = some m → P m)
    (hd : g.vdev.Holds P) (h : uvcVideoProcess env io g = .ok (g', io')) : g'.vdev.Holds P := by
  unfold uvcVideoProcess at h
  obtain ⟨⟨r, k₁, d₁⟩, hdq, h⟩ := bind_eq_ok.mp h
  have hdq : d₁.Holds P ∧ ∀ b, r = .ok b → ∀ m, b.mem = some m → P m := by
    unfold v4l2DequeueBuffer at hdq
    dsimp only at hdq
    split at hdq
    · cases hdq; exact ⟨hd, fun b hb => by cases hb⟩
    · split at hdq
      · cases hdq
      · next b hb =>
          have hmem : ∀ m, b.mem = some m → P m := hd b (List.mem_of_getElem? hb)
          rw [if_neg (by rw [htype]; decide)] at hdq
          cases hdq
          exact ⟨hd.set hmem _, fun b' hb' => by cases hb'; exact hmem⟩
  obtain ⟨hd₁, hr⟩ := hdq
  dsimp only at h
  split at h
  · cases h; exact hd₁
  · next b =>
      obtain ⟨b', hb', h⟩ := bind_eq_ok.mp h
      have hmem : ∀ m, b'.mem = some m → P m := hfill b b' hb' (hr b rfl)
      have hd₂ : Device.Holds P (if g.fcc = PixFormat.YUYV then d₁.writeMem b'.index b'.mem else d₁) := by
        split
        · intro x hx m hm
          obtain ⟨i, hi⟩ := List.mem_iff_getElem?.mp hx
          unfold Device.writeMem at hi
          rw [List.getElem?_modify] at hi
          obtain ⟨y, hy, hyx⟩ := Option.map_eq_some_iff.mp hi
          split at hyx
          · subst hyx
            obtain ⟨-, -, hm⟩ := Option.bind_eq_some_iff.mp hm
            exact hmem m hm
          · subst hyx
            exact hd₁ _ (List.mem_of_getElem? hy) m hm
        · exact hd₁
      generalize hq : v4l2QueueBuffer env k₁ _ b' = q at h
      obtain ⟨ret, k₃, d₃⟩ := q
      cases h
      exact hd₂.of_eq (by rw [v4l2QueueBuffer_keeps hq])

end Holds

/-! ## What a gadget shows -/

/-- **What a gadget shows**, once the frames `fs` have been copied. -/
structure Gadget.Screens (env : Env) (fs : List Frame) (g : Gadget) : Prop where
  output : g.vdev.type = .videoOutput
  /-- nothing was committed yet, or the format offered was -/
  size : (g.fcc = 0 ∧ g.width = 0 ∧ g.height = 0) ∨ (g.fcc = PixFormat.YUYV ∧ g.width = 320 ∧ g.height = 240)
  image : Displays env fs g.imgdata
  buffers : g.vdev.Holds (Displays env fs)

namespace Gadget.Screens

variable {fs : List Frame}

theorem frameSize (h : g.Screens env fs) : g.frameSize = 0 ∨ g.frameSize = offeredSize := by
  rcases h.size with ⟨-, hw, hh⟩ | ⟨-, hw, hh⟩
  · refine .inl ?_
    unfold Gadget.frameSize
    rw [hw, hh]
    rfl
  · exact .inr (Gadget.frameSize_offered hw hh)

theorem mono (h : g.Screens env fs) (f : Frame) : g.Screens env (fs ++ [f]) :=
  ⟨h.output, h.size, h.image.mono f, h.buffers.mono fun _ hm => hm.mono f⟩

/-- A buffer that is filled shows what the gadget does. -/
theorem fill (h : g.Screens env fs) (b b' : VideoBuffer) (hfill : uvcVideoFillBuffer g b = .ok b')
    (hb : ∀ m, b.mem = some m → Displays env fs m) : ∀ m, b'.mem = some m → Displays env fs m := by
  unfold uvcVideoFillBuffer at hfill
  split at hfill
  · next hfcc =>
      have hsize : g.frameSize = offeredSize := by
        rcases h.size with ⟨hf, -, -⟩ | ⟨-, hw, hh⟩
        · rw [hfcc] at hf
          exact absurd hf (by decide)
        · exact Gadget.frameSize_offered hw hh
      split at hfill
      · cases hfill
      · next mem hmem =>
          split at hfill
          · cases hfill
          · cases hfill
            intro m hm
            cases hm
            have hcopy : memcpy mem 0 g.imgdata 0 g.frameSize = g.imgdata := by
              rw [hsize, memcpy_over fun k hk => (hb mem hmem).byte hk]
              funext k
              split
              · rfl
              · next hk => exact (h.image.byte (Nat.not_lt.mp hk)).symm
            rw [hcopy]
            exact h.image
  · cases hfill
    exact hb

theorem streams (h : g.Screens env fs) (hp : g.vdev.Plain) {on : Bool} {ret : Int}
    (hs : UvcStreams env io g on ret g' io') : g'.Screens env fs := by
  have hbuffers := hs.holds (.inl rfl) h.fill h.buffers
  have hg := hs.gadget
  refine ⟨(hs.same hp).type.trans h.output, ?_, ?_, hbuffers⟩
  · rw [hg]; exact h.size
  · rw [hg]; exact h.image

/-- A commit changes the size to the one on offer. -/
theorem committed (h : g.Screens env fs) (data : RequestData) : (g.committed data).Screens env fs := by
  obtain ⟨hf, hw, hh⟩ := selectFormat_uvcFormats (StreamingControl.ofBytes data.data)
  exact ⟨h.output, .inr ⟨hf, hw, hh⟩, h.image, h.buffers⟩

theorem setsVideo (h : g.Screens env fs) (hs : SetsVideo env io g g' io') : g'.Screens env fs := by
  have hbuffers := hs.holds h.buffers
  cases hs with
  | nomem hmem => exact h
  | refused hmem hret hset | posted hmem hret hset =>
      obtain ⟨-, heq, -⟩ := v4l2SetFormat_spec hset
      exact ⟨by rw [heq]; exact h.output, h.size, h.image, hbuffers⟩

/-- **The control callback.** -/
theorem calls (h : g.Screens env fs) (hp : g.vdev.Plain) (hc : UvcCalls env io g g' io') : g'.Screens env fs := by
  cases hc with
  | quiet hev ht => exact ⟨h.output, h.size, h.image, h.buffers⟩
  | commit hev hcontrol hset => exact (h.committed _).setsVideo hset
  | stream on hev hs => exact h.streams hp hs

/-- **The video callback.** -/
theorem process (h : g.Screens env fs) (hp : g.vdev.Plain) (hc : uvcVideoProcess env io g = .ok (g', io')) :
    g'.Screens env fs := by
  have hbuffers := uvcVideoProcess_holds h.output h.fill h.buffers hc
  obtain ⟨⟨d, rfl⟩, -, hst⟩ := uvcVideoProcess_spec hp hc
  exact ⟨hst.same.type.trans h.output, h.size, h.image, hbuffers⟩

/-- **A frame is copied**: all of its picture that the gadget shows, or nothing. -/
theorem copy (h : g.Screens env fs) {f : Frame} {size : Nat} (hf : Depicts env f.stamp size f.bytes)
    (hlong : g.frameSize ≤ size) :
    Gadget.Screens env (fs ++ [f]) { g with imgdata := memcpy g.imgdata 0 f.bytes 0 g.frameSize } := by
  refine ⟨h.output, h.size, ?_, h.buffers.mono fun _ hm => hm.mono f⟩
  show Displays env (fs ++ [f]) (memcpy g.imgdata 0 f.bytes 0 g.frameSize)
  rcases h.frameSize with h0 | hall
  · rw [h0, memcpy_zero]
    exact h.image.mono f
  · refine .inr ⟨f, List.mem_append_right _ List.mem_cons_self, ?_⟩
    rw [hall] at hlong ⊢
    rw [memcpy_over fun k hk => h.image.byte hk]
    exact ⟨hf.take hlong, fun k hk => if_pos hk⟩

/-- A gadget that is attached. -/
theorem fresh {devname : DevName} (addr : Nat) (id : UInt32) (fs : List Frame)
    (h : v4l2Open env k devname = (some d, k')) (htype : d.type = .videoOutput) :
    (Gadget.fresh addr d id).Screens env fs := by
  refine ⟨htype, .inl ⟨rfl, rfl, rfl⟩, .inl rfl, ?_⟩
  cases v4l2Open_opens h with
  | opened hchat => exact fun b hb => by cases hb

end Gadget.Screens

/-! ## The buffers of a capture's driver -/

/-- Only buffers the driver has granted are mapped. -/
structure Device.Backed (d : Device) : Prop where
  count : d.file.count = d.nbufs
  mapped : ∀ i b, d.buffers[i]? = some b → b.mem.isSome = true → i < d.nbufs

theorem Device.Backed.of_eq (h : d.Backed) (hb : d'.buffers = d.buffers) (hn : d'.nbufs = d.nbufs)
    (hc : d'.file.count = d.file.count) : d'.Backed :=
  ⟨hc.trans (h.count.trans hn.symm), by rw [hb, hn]; exact h.mapped⟩

theorem mmapBuffers_backs {n : Nat} : ∀ {i : Nat} {k : Kernel} {d : Device} {ret : Int}, i + n ≤ d.nbufs →
    (∀ j b, d.buffers[j]? = some b → b.mem.isSome = true → j < d.nbufs) →
    mmapBuffers env i n k d = .ok (ret, k', d') →
      ∀ j b, d'.buffers[j]? = some b → b.mem.isSome = true → j < d'.nbufs := by
  induction n with
  | zero => intro i k d ret _ hd h; cases h; exact hd
  | succ n ih =>
      intro i k d ret hle hd h
      rw [mmapBuffers] at h
      split at h
      · cases h; exact hd
      · split at h
        · cases h; exact hd
        · split at h
          · cases h
          · refine ih (by dsimp only; omega) (fun j b hb hsome => ?_) h
            dsimp only at hb ⊢
            by_cases hij : i = j
            · omega
            · rw [List.getElem?_set_ne hij] at hb
              exact hd j b hb hsome

/-- A start that comes through has mapped what the driver has granted. -/
theorem v4lVideoStart_backed (h : v4lVideoStart env k d = .ok (0, k', d')) : d'.Backed := by
  refine ⟨(v4lVideoStart_ready h fun b _ => Nat.zero_le _).count, ?_⟩
  obtain ⟨h0, ret, hret, hacq⟩ := v4lVideoStart_acquired h
  unfold acquire at hacq
  obtain ⟨⟨ret₁, k₁, d₁⟩, halloc, hacq⟩ := bind_eq_ok.mp hacq
  obtain ⟨-, hall⟩ := v4l2AllocBuffers_allocates (by decide) halloc
  dsimp only at hacq
  cases hall with
  | busy hbusy => exact absurd h0 hbusy
  | refused | surplus | nomem =>
      rw [if_pos (Errno.neg_lt _)] at hacq
      cases hacq
      exact absurd (Errno.neg_lt _) hret
  | ok _ hreq hm hmem ht =>
      rw [if_neg (by decide)] at hacq
      obtain ⟨⟨ret₂, k₂, d₂⟩, hmap, hacq⟩ := bind_eq_ok.mp hacq
      dsimp only at hacq
      split at hacq
      · next hlt => cases hacq; exact absurd hlt hret
      · obtain ⟨hbuffers, hn⟩ := queueAll_buffers hacq
        unfold v4l2MmapBuffers at hmap
        rw [if_neg (by simp)] at hmap
        rw [hbuffers, hn]
        refine mmapBuffers_backs (Nat.le_of_eq (Nat.zero_add _)) (fun j b hb hsome => ?_) hmap
        -- nothing of a new array is mapped
        rw [(freshBuffers_getElem? hb).1] at hsome
        cases hsome

/-- **What is dequeued on a capture device** holds what the driver has handed out. -/
theorem v4l2DequeueBuffer_films {r : Except Errno VideoBuffer} (htype : d.type = .videoCapture)
    (h : v4l2DequeueBuffer env k d = .ok (r, k', d')) :
    d'.type = d.type ∧ d'.format = d.format ∧ d'.nbufs = d.nbufs ∧ (d.Backed → d'.Backed ∧ ∀ b y, r = .ok b →
      b.mem = some y → d.nbufs ≠ 0 ∧ ∃ f, env.dqbuf k.tick d.file = .ok f ∧ y = f.frame) := by
  unfold v4l2DequeueBuffer at h
  dsimp only at h
  split at h
  · cases h
    exact ⟨rfl, rfl, rfl, fun hd => ⟨hd, fun b y hb => by cases hb⟩⟩
  · next f hf =>
      split at h
      · cases h
      · next b hb =>
          rw [if_pos htype] at h
          cases h
          refine ⟨rfl, rfl, rfl, fun hd => ⟨⟨hd.count, fun i x hx hsome => ?_⟩, fun b' y hb' hy => ?_⟩⟩
          · dsimp only at hx ⊢
            by_cases hi : f.index = i
            · subst hi
              rw [List.getElem?_set_self (List.getElem?_eq_some_iff.mp hb).1] at hx
              cases hx
              dsimp only at hsome
              rw [Option.isSome_map] at hsome
              exact hd.mapped _ b hb hsome
            · rw [List.getElem?_set_ne hi] at hx
              exact hd.mapped i x hx hsome
          · cases hb'
            obtain ⟨y₀, hy₀, rfl⟩ := Option.map_eq_some_iff.mp hy
            have hlt := hd.mapped _ b hb (by rw [hy₀]; rfl)
            exact ⟨by omega, f, hf, rfl⟩

/-! ## What a capture films -/

/-- **The block of a capture that streams.** Its format stays once the driver has buffers, and grey frames do not
    write the chroma bytes. -/
structure Capture.Films (c : Capture) (fb : FrameBufs) : Prop where
  backed : c.vdev.Backed
  size : c.vdev.nbufs ≠ 0 → c.frameSize = (fb.stride : Nat)
  even : fb.stride % 2 = 0
  grey : c.vdev.nbufs ≠ 0 → c.vdev.format.pixelformat = PixFormat.GREY → ∀ k < fb.stride, fb.mem (2 * k + 1) = 128

/-- A capture whose driver has buffers keeps its format. -/
structure KeepsFormat (c c' : Capture) : Prop where
  nbufs : c'.vdev.nbufs = c.vdev.nbufs
  format : c.vdev.nbufs ≠ 0 → c'.vdev.format = c.vdev.format
  size : c.vdev.nbufs ≠ 0 → c'.frameSize = c.frameSize

theorem KeepsFormat.refl (c : Capture) : KeepsFormat c c := ⟨rfl, fun _ => rfl, fun _ => rfl⟩

/-- The frame is the picture of what a driver handed out, as long as the block's frames are and in the format the
    capture is in while its driver has buffers. -/
structure Frame.FilmedBy (env : Env) (c : Capture) (fb : FrameBufs) (f : Frame) : Prop where
  granted : c.vdev.nbufs ≠ 0
  size : c.frameSize = (fb.stride : Nat)
  frame : DepictsIn env c.vdev.format.pixelformat f.stamp fb.stride f.bytes

theorem Frame.FilmedBy.keep {fb fb' : FrameBufs} {f : Frame} (h : f.FilmedBy env c fb) (hk : KeepsFormat c c')
    (hs : fb'.stride = fb.stride) : f.FilmedBy env c' fb' := by
  refine ⟨by rw [hk.nbufs]; exact h.granted, ?_, ?_⟩
  · rw [hk.size h.granted, hs]; exact h.size
  · rw [hk.format h.granted, hs]; exact h.frame

/-- A new picture has been put to `off`; the one in the other internal buffer stays. -/
structure Shot (env : Env) (pixelformat : UInt32) (fb fb' : FrameBufs) (off : Nat) : Prop where
  addr : fb'.addr = fb.addr
  stride : fb'.stride = fb.stride
  slot : off = 0 ∨ off = fb.stride
  frame : DepictsIn env pixelformat (fb'.stamp off) fb.stride (fb'.frameAt off).bytes
  other : ∀ a, a = 0 ∨ a = fb.stride → a ≠ off → fb'.frameAt a = fb.frameAt a

/-- **One conversion.** -/
theorem convert_shot {fb : FrameBufs} {pixelformat : UInt32} {off t : Nat} {file : File} {f : Dequeued}
    (heven : fb.stride % 2 = 0) (hslot : off = 0 ∨ off = fb.stride) (hf : env.dqbuf t file = .ok f)
    (hpf : pixelformat = PixFormat.GREY ∨ pixelformat = PixFormat.YUYV)
    (hgrey : pixelformat = PixFormat.GREY → ∀ k < fb.stride, fb.mem (2 * k + 1) = 128) :
    Shot env pixelformat fb (fb.convert pixelformat f.frame off fb.stride t) off ∧
      (pixelformat = PixFormat.GREY → ∀ k < fb.stride,
        (fb.convert pixelformat f.frame off fb.stride t).mem (2 * k + 1) = 128) := by
  obtain ⟨n, hn⟩ : ∃ n, fb.stride = 2 * n := ⟨fb.stride / 2, by omega⟩
  have hoff : off % 2 = 0 := by omega
  have hconv := convertFrame_converts pixelformat f.frame off n fb.mem
  rw [← hn] at hconv
  refine ⟨⟨rfl, rfl, hslot, ⟨file, f, ?_, hpf, ?_⟩, fun a ha hne => ?_⟩, fun hg k hk => ?_⟩
  · show env.dqbuf (if off = off then t else fb.stamp off) file = _
    rw [if_pos rfl]
    exact hf
  · -- the bytes of the frame
    funext k
    show (if k < fb.stride then convertFrame pixelformat f.frame off fb.stride fb.mem (off + k) else 0) = _
    unfold picture
    by_cases hk : k < fb.stride
    · rw [if_pos hk, if_pos hk]
      unfold pixelByte
      by_cases hg : pixelformat = PixFormat.GREY
      · rw [if_pos hg]
        by_cases hodd : k % 2 = 0
        · rw [if_pos hodd]
          have hluma := hconv.luma hg (k / 2) (by omega)
          rw [show off + 2 * (k / 2) = off + k by omega] at hluma
          exact hluma
        · rw [if_neg hodd]
          have hchroma := hconv.odd hg hoff ((off + k) / 2)
          rw [show 2 * ((off + k) / 2) + 1 = off + k by omega] at hchroma
          rw [hchroma, show off + k = 2 * ((off + k) / 2) + 1 by omega]
          exact hgrey hg _ (by omega)
      · rw [if_neg hg]
        exact hconv.yuyv (hpf.resolve_left hg) k (by omega)
    · rw [if_neg hk, if_neg hk]
  · -- the other frame is clear of it
    unfold FrameBufs.frameAt
    congr 1
    · exact if_neg hne
    · funext k
      show (if k < fb.stride then convertFrame pixelformat f.frame off fb.stride fb.mem (a + k) else 0) = _
      split
      · exact hconv.other _ (by omega)
      · rfl
  · exact (hconv.odd hg hoff k).trans (hgrey hg k hk)

/-- The frame at `off` of the block `fb` is published, unless the pipe takes nothing. -/
structure Announced (c : Capture) (fb : FrameBufs) (off : Nat) (io io' : Io) : Prop where
  delivered : io'.delivered = io.delivered
  brk : io'.brk = io.brk
  sent : (io'.queue = io.queue ∧ io'.posted = io.posted) ∨
    (io'.queue = io.queue ++ [.frameAvailable c.gadgetId ⟨fb.addr, off⟩] ∧
      io'.posted = io.posted ++ [fb.frameAt off])

theorem publish_announces (env : Env) (io : Io) (c : Capture) (fb : FrameBufs) (off : Nat) {io' : Io}
    (h : (if (looperSendMessage env io (.frameAvailable c.gadgetId ⟨fb.addr, off⟩)).1 = 0 then
      { (looperSendMessage env io (.frameAvailable c.gadgetId ⟨fb.addr, off⟩)).2 with
        posted := (looperSendMessage env io (.frameAvailable c.gadgetId ⟨fb.addr, off⟩)).2.posted ++
          [fb.frameAt off] }
    else (looperSendMessage env io (.frameAvailable c.gadgetId ⟨fb.addr, off⟩)).2) = io') :
    Announced c fb off io io' := by
  rw [publish_eq] at h
  subst h
  split
  · exact ⟨rfl, rfl, .inr ⟨rfl, rfl⟩⟩
  · exact ⟨rfl, rfl, .inl ⟨rfl, rfl⟩⟩

/-- **What `v4l_process_buffer` films**, of a buffer that holds what its driver handed out. -/
theorem v4lProcessBuffer_films {b : VideoBuffer} {t : Nat} {ret : Int} {file : File}
    (hfilms : ∀ fb, c.buffers = some fb → c.Films fb)
    (hb : ∀ fb y, c.buffers = some fb → b.mem = some y →
      c.vdev.nbufs ≠ 0 ∧ ∃ f, env.dqbuf t file = .ok f ∧ y = f.frame)
    (h : v4lProcessBuffer env io c b t = .ok (ret, c', io')) :
    c'.vdev = c.vdev ∧ c'.frameSize = c.frameSize ∧ (∀ fb, c'.buffers = some fb → c'.Films fb) ∧
      ((c'.buffers = c.buffers ∧ io' = io) ∨ ∃ fb fb' off, c.buffers = some fb ∧ c'.buffers = some fb' ∧
        c.vdev.nbufs ≠ 0 ∧ Shot env c.vdev.format.pixelformat fb fb' off ∧ Announced c fb' off io io') := by
  unfold v4lProcessBuffer at h
  dsimp only at h
  split at h
  · cases h
    refine ⟨rfl, rfl, fun fb hfb => ?_, .inl ⟨rfl, rfl⟩⟩
    have hc := hfilms fb hfb
    exact ⟨hc.backed, hc.size, hc.even, hc.grey⟩
  · next hyes =>
      have hpf : c.vdev.format.pixelformat = PixFormat.GREY ∨ c.vdev.format.pixelformat = PixFormat.YUYV := by
        by_contra hno
        exact hyes (not_or.mp hno)
      split at h
      · next fb y hfb hy =>
          have hc := hfilms fb hfb
          obtain ⟨hn, f, hf, rfl⟩ := hb fb y hfb hy
          have hsize : c.frameSize.toNat = fb.stride := by rw [hc.size hn, Int.toNat_natCast]
          -- one of the two halves of the block
          generalize hoff : fb.stride * (c.index.toNat % internalBufferNumber) = off at h
          have hslot : off = 0 ∨ off = fb.stride := by
            have hlt : c.index.toNat % internalBufferNumber < 2 := Nat.mod_lt _ (by decide)
            rcases (by omega : c.index.toNat % internalBufferNumber = 0 ∨
              c.index.toNat % internalBufferNumber = 1) with h0 | h1
            · exact .inl (by rw [← hoff, h0, Nat.mul_zero])
            · exact .inr (by rw [← hoff, h1, Nat.mul_one])
          obtain ⟨hshot, hgrey⟩ := convert_shot hc.even hslot hf hpf (hc.grey hn)
          split at h
          · cases h
          · rw [hsize] at h
            injection h with h
            injection h with _ h
            injection h with hc' hio
            subst hc'
            refine ⟨rfl, rfl, fun fb' hfb' => ?_, .inr ⟨fb, _, off, hfb, rfl, hn, hshot, ?_⟩⟩
            rotate_left
            · exact publish_announces env io c (fb.convert c.vdev.format.pixelformat f.frame off fb.stride t) off hio
            cases hfb'
            exact ⟨hc.backed, hc.size, hc.even, fun _ => hgrey⟩
      · cases h

/-- **What `capture_process` films.** -/
theorem captureProcess_films (htype : c.vdev.type = .videoCapture) (hfilms : ∀ fb, c.buffers = some fb → c.Films fb)
    (h : captureProcess env io c = .ok (c', io')) :
    c'.vdev.type = .videoCapture ∧ KeepsFormat c c' ∧ (∀ fb, c'.buffers = some fb → c'.Films fb) ∧
      ((c'.buffers = c.buffers ∧ Unfilmed io io') ∨ ∃ fb fb' off, c.buffers = some fb ∧ c'.buffers = some fb' ∧
        c.vdev.nbufs ≠ 0 ∧ Shot env c.vdev.format.pixelformat fb fb' off ∧ Announced c fb' off io io') := by
  unfold captureProcess at h
  obtain ⟨⟨r, k₁, d₁⟩, hdq, h⟩ := bind_eq_ok.mp h
  obtain ⟨ht₁, hfmt, hn, hbacked⟩ := v4l2DequeueBuffer_films htype hdq
  -- what the block is stays, whatever buffers the driver owns
  have hfilms₁ : ∀ {x : Capture} {d : Device} {fb : FrameBufs}, x.Films fb → d.Backed → d.format = x.vdev.format →
      d.nbufs = x.vdev.nbufs → Capture.Films { x with vdev := d } fb := by
    intro x d fb hx hd hformat hnbufs
    refine ⟨hd, ?_, hx.even, ?_⟩
    · show d.nbufs ≠ 0 → _
      rw [hnbufs]
      exact hx.size
    · show d.nbufs ≠ 0 → d.format.pixelformat = _ → _
      rw [hnbufs, hformat]
      exact hx.grey
  dsimp only at h
  split at h
  · cases h
    refine ⟨ht₁.trans htype, ⟨hn, fun _ => hfmt, fun _ => rfl⟩, fun fb hfb => ?_, .inl ⟨rfl, unfilmed_kernel io _⟩⟩
    have hc := hfilms fb hfb
    exact hfilms₁ hc (hbacked hc.backed).1 hfmt hn
  · next b =>
      obtain ⟨⟨ret, c₂, io₂⟩, hproc, h⟩ := bind_eq_ok.mp h
      have hfb₁ : ∀ fb, c.buffers = some fb → Capture.Films { c with vdev := d₁ } fb := fun fb hfb =>
        hfilms₁ (hfilms fb hfb) (hbacked (hfilms fb hfb).backed).1 hfmt hn
      obtain ⟨hvdev, hsize, hfb₂, hcase⟩ := v4lProcessBuffer_films hfb₁ (fun fb y hfb hy => by
        obtain ⟨hne, hf⟩ := (hbacked (hfilms fb hfb).backed).2 b y rfl hy
        exact ⟨by rw [← hn] at hne; exact hne, hf⟩) hproc
      dsimp only at h
      generalize hq : v4l2QueueBuffer env io₂.kernel c₂.vdev b = q at h
      obtain ⟨ret₃, k₃, d₃⟩ := q
      cases h
      have hd₃ := v4l2QueueBuffer_keeps hq
      have ht₃ : d₃.type = .videoCapture := by
        rw [hd₃, hvdev]
        exact ht₁.trans htype
      have hkeeps : KeepsFormat c { c₂ with vdev := d₃ } := by
        refine ⟨?_, fun _ => ?_, fun _ => hsize⟩
        · show d₃.nbufs = _
          rw [hd₃, hvdev]
          exact hn
        · show d₃.format = _
          rw [hd₃, hvdev]
          exact hfmt
      refine ⟨ht₃, hkeeps, fun fb hfb => ?_, ?_⟩
      · have hc := hfb₂ fb hfb
        exact hfilms₁ hc (hc.backed.of_eq (by rw [hd₃]) (by rw [hd₃]) (by rw [hd₃])) (by rw [hd₃]) (by rw [hd₃])
      · rcases hcase with ⟨hsame, rfl⟩ | ⟨fb, fb', off, hfb, hfb', hne, hshot, hann⟩
        · exact .inl ⟨hsame, unfilmed_kernel io _⟩
        · dsimp only at hne hshot
          rw [hn] at hne
          rw [hfmt] at hshot
          exact .inr ⟨fb, fb', off, hfb, hfb', hne, hshot, hann.delivered, hann.brk, hann.sent⟩

/-! ## Streams and formats of a capture -/

theorem toInt_double_even (x : UInt32) : (x * 2).toInt32.toInt % 2 = 0 := by
  show BitVec.toInt (x * 2).toBitVec % 2 = 0
  have hnat : (x * 2).toBitVec.toNat = x.toNat * 2 % 2 ^ 32 := UInt32.toNat_mul x 2
  rw [BitVec.toInt_eq_toNat_cond, hnat]
  omega

/-- **A stream that starts** has an empty block at a new address. -/
theorem V4lStreams.films {on : Bool} {ret : Int} (h : V4lStreams env io c on ret c' io')
    (hfilms : ∀ fb, c.buffers = some fb → c.Films fb) (hoff : c.isStreaming = false → c.buffers = none) :
    (∀ fb, c'.buffers = some fb → c'.Films fb) ∧
      ∀ fb, c'.buffers = some fb → (c.buffers = some fb ∧ KeepsFormat c c') ∨ io.brk ≤ fb.addr := by
  have hnone : c.isStreaming = false → ∀ fb, c.buffers ≠ some fb := fun h fb hfb => by
    rw [hoff h] at hfb
    cases hfb
  cases h with
  | idle h => exact ⟨hfilms, fun fb hfb => .inl ⟨hfb, .refl c⟩⟩
  | stopped hon hoff hfree => exact ⟨fun fb hfb => (by cases hfb), fun fb hfb => (by cases hfb)⟩
  | nomem hno hmem => exact ⟨hfilms, fun fb hfb => .inl ⟨hfb, .refl c⟩⟩
  | failed hno hmem hret hstart =>
      exact ⟨fun fb hfb => absurd hfb (hnone hno fb), fun fb hfb => absurd hfb (hnone hno fb)⟩
  | started hno hmem hstart hon =>
      rename_i addr io₁ k₁ k d₁ d r
      obtain ⟨hb, hn, -⟩ := v4l2StreamOn_pool hon
      have hcount : d.file.count = d₁.file.count := by
        unfold v4l2StreamOn at hon
        dsimp only at hon
        split at hon <;> · cases hon; rfl
      have hfit : 0 ≤ (c.width * c.height * 2).toInt32.toInt ∧ addr = io.brk := by
        rcases mallocFrames_cases hmem with ⟨hnone, -⟩ | ⟨hsize, hmem⟩
        · cases hnone
        · exact ⟨hsize, (malloc_some hmem).1⟩
      refine ⟨fun fb hfb => ?_, fun fb hfb => ?_⟩
      · cases hfb
        refine ⟨(v4lVideoStart_backed hstart).of_eq hb hn hcount, fun _ => ?_, ?_, fun _ _ _ _ => rfl⟩
        · show (c.height * c.width * 2).toInt32.toInt = _
          rw [UInt32.mul_comm c.height, Int.toNat_of_nonneg hfit.1]
        · have heven := toInt_double_even (c.width * c.height)
          show (c.width * c.height * 2).toInt32.toInt.toNat % 2 = 0
          omega
      · cases hfb
        exact .inr (Nat.le_of_eq hfit.2.symm)

theorem V4lStreams.same {on : Bool} {ret : Int} (hp : c.vdev.Plain) (h : V4lStreams env io c on ret c' io') :
    c.vdev.Same c'.vdev := by
  cases h with
  | idle h => exact .refl _
  | stopped hon hoff hfree =>
      have hst := v4l2StreamOff_steady hp hoff
      exact hst.same.trans (v4l2FreeBuffers_steady hst.plain hfree).same
  | nomem hoff hmem => exact .refl _
  | failed hoff hmem hret hstart => exact (v4lVideoStart_uses hp hstart).same
  | started hoff hmem hstart hon =>
      have hu := v4lVideoStart_uses hp hstart
      exact hu.same.trans (v4l2StreamOn_steady hu.plain hon).same

/-- A driver that has buffers takes no format. -/
theorem Retuned.keepsFormat (h : Retuned c c') (hb : c.vdev.Backed) : KeepsFormat c c' := by
  have hn : c'.vdev.nbufs = c.vdev.nbufs := by rw [h.device]
  have hbusy : c.vdev.nbufs ≠ 0 → c'.vdev = c.vdev ∧ c'.width = c.width ∧ c'.height = c.height := fun hne =>
    h.busy (by rw [hb.count]; exact hne)
  refine ⟨hn, fun hne => by rw [(hbusy hne).1], fun hne => ?_⟩
  obtain ⟨-, hw, hh⟩ := hbusy hne
  unfold Capture.frameSize
  rw [hw, hh]

/-- A format message leaves the block alone. -/
theorem Retuned.films (h : Retuned c c') (hfilms : ∀ fb, c.buffers = some fb → c.Films fb) :
    ∀ fb, c'.buffers = some fb → c'.Films fb := by
  intro fb hfb
  rw [h.buffers] at hfb
  have hc := hfilms fb hfb
  have hd := h.device
  have hk := h.keepsFormat hc.backed
  refine ⟨hc.backed.of_eq (by rw [hd]) hk.nbufs (by rw [hd]), fun hne => ?_, hc.even, fun hne hg => ?_⟩
  · rw [hk.nbufs] at hne
    rw [hk.size hne]
    exact hc.size hne
  · rw [hk.nbufs] at hne
    rw [hk.format hne] at hg
    exact hc.grey hne hg

end Uvcd
