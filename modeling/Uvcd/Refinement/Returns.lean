import Uvcd.Refinement.Posts

/-!
# `Refinement.Returns` — when handling a message does not fault

A handler follows pointers: to the buffer array of a device, to the payload of a message, to the gadget a walk ends at,
to a gadget it has freed, and to the frame of a capture. `Handler.Safe` is what that takes of the state it is called in.
With devices whole and messages of their kinds, whatever the drivers answer, a handler returns exactly there
(`handleMessage_returns_iff`).
-/

namespace Uvcd

open Machine Split

variable {env : Env} {s s' : Sys} {m : Message} {io : Io} {g : Gadget} {c : Capture} {d : Device} {F : Fault → Prop}

/-! ## Devices -/

/-- The buffer array is as long as the device says. -/
def Device.Whole (d : Device) : Prop := d.nbufs ≤ d.buffers.length

theorem Device.Whole.of_eq {d' : Device} (h : d.Whole) (hn : d'.nbufs = d.nbufs)
    (hb : d'.buffers.length = d.buffers.length) : d'.Whole := by
  unfold Whole
  rw [hn, hb]
  exact h

theorem releaseBuffers_ends (env : Env) {n : Nat} : ∀ (i : Nat) (k : Kernel) (d : Device),
    i + n ≤ d.buffers.length →
    Ends (fun r => r.2.2.nbufs = d.nbufs ∧ r.2.2.buffers.length = d.buffers.length) F
      (releaseBuffers env i n k d) := by
  induction n with
  | zero => intro i k d _; exact .ok ⟨rfl, rfl⟩
  | succ n ih =>
      intro i k d hlen
      rw [releaseBuffers]
      have hi : i < d.buffers.length := by omega
      rw [List.getElem?_eq_getElem hi]
      dsimp only
      split
      · exact .ok ⟨rfl, rfl⟩
      · refine (ih (i + 1) _ _ ?_).mono fun r hr => ⟨hr.1, hr.2.trans List.length_set⟩
        show i + 1 + n ≤ (d.buffers.set i _).length
        rw [List.length_set]
        omega

theorem ioctlReqbufs_whole (env : Env) (k : Kernel) (hw : d.Whole) (n : Nat) :
    (ioctlReqbufs env k d n).2.2.Whole := by
  unfold ioctlReqbufs
  dsimp only
  split
  · exact hw
  · split <;> exact hw

theorem v4l2FreeBuffers_ends (env : Env) (k : Kernel) (hw : d.Whole) :
    Ends (fun r => r.2.2.Whole) F (v4l2FreeBuffers env k d) := by
  unfold v4l2FreeBuffers
  split
  · exact .ok hw
  · refine (releaseBuffers_ends env 0 k d (by rw [Nat.zero_add]; exact hw)).bind fun r hr => ?_
    obtain ⟨ret, k₁, d₁⟩ := r
    have hw₁ : d₁.Whole := hw.of_eq hr.1 hr.2
    dsimp only
    split
    · exact .ok hw₁
    · have hreq := ioctlReqbufs_whole env k₁ hw₁ 0
      split
      · next k₂ d₂ h => rw [h] at hreq; exact .ok hreq
      · exact .ok (Nat.le_refl 0)

/-- There is memory for the array of the buffers the driver grants, where call `t` asks it for `n`. -/
def Device.Funded (env : Env) (t : Nat) (d : Device) (n : Nat) : Prop :=
  d.nbufs = 0 → ∀ count, env.reqbufs t d.file n = .ok count → 0 < count → count ≤ n → env.malloc (t + 1) = true

theorem Device.funded_of_malloc (hmem : ∀ t, env.malloc t = true) (t : Nat) (d : Device) (n : Nat) :
    d.Funded env t n := fun _ _ _ _ _ => hmem (t + 1)

/-- The driver has granted buffers. -/
theorem ioctlReqbufs_grants {k k' : Kernel} {d' : Device} {n count : Nat}
    (h : ioctlReqbufs env k d n = (.ok count, k', d')) (hcount : 0 < count) :
    env.reqbufs k.tick d.file n = .ok count ∧ k'.tick = k.tick + 1 := by
  unfold ioctlReqbufs at h
  dsimp only at h
  split at h
  · cases h
  · next hgrant =>
      split at h
      · cases h; exact absurd hcount (Nat.lt_irrefl 0)
      · cases h; exact ⟨hgrant, rfl⟩

/-- Without its array a buffer cannot be released. -/
theorem v4l2FreeBuffers_null (k : Kernel) (hn : 0 < d.nbufs) (hb : d.buffers = []) :
    v4l2FreeBuffers env k d = .error .badPointer := by
  obtain ⟨n, hn⟩ := Nat.exists_eq_succ_of_ne_zero (Nat.pos_iff_ne_zero.mp hn)
  unfold v4l2FreeBuffers
  rw [hn, if_neg (Nat.succ_ne_zero n), releaseBuffers, hb]
  rfl

/-- Asking for buffers. -/
theorem v4l2AllocBuffers_ends (k : Kernel) (hw : d.Whole) (memtype : Memory) (nbufs : Nat)
    (hF : ¬d.Funded env k.tick nbufs → F .badPointer) :
    Ends (fun r => r.2.2.Whole) F (v4l2AllocBuffers env k d memtype nbufs) := by
  unfold v4l2AllocBuffers
  split
  · exact .ok hw
  · next h0 =>
    split
    · exact .ok hw
    · have hfree : ∀ (k : Kernel) {d' : Device} {e : Int}, d'.Whole →
          Ends (fun r : Int × Kernel × Device => r.2.2.Whole) F
            (v4l2FreeBuffers env k d' >>= fun r => .ok (e, r.2.1, r.2.2)) := fun k d' e hw' =>
        (v4l2FreeBuffers_ends env k hw').bind fun r hr => .ok hr
      have hreq := ioctlReqbufs_whole env k hw nbufs
      split
      · next k₁ d₁ h => rw [h] at hreq; exact hfree _ hreq
      · next count k₁ d₁ h =>
          rw [h] at hreq
          split
          · exact hfree _ hreq
          · next hle =>
              by_cases hmem : env.malloc k₁.tick = true
              · rw [hmem]
                refine .ok ?_
                -- the array has room for as many as were asked for
                show count ≤ (freshBuffers nbufs count).length
                unfold freshBuffers
                rw [List.length_map, List.length_range]
                exact Nat.le_of_not_lt hle
              · rw [if_pos (by simpa using hmem)]
                rcases Nat.eq_zero_or_pos count with rfl | hcount
                · exact .ok (Nat.le_refl 0)
                · -- the release looks for the array that could not be had
                  rw [v4l2FreeBuffers_null _ (show 0 < count from hcount) rfl]
                  obtain ⟨hgrant, htick⟩ := ioctlReqbufs_grants h hcount
                  refine .error (hF fun hback => hmem ?_)
                  rw [htick]
                  exact hback (not_not.mp h0) count hgrant hcount (Nat.le_of_not_lt hle)

theorem mmapBuffers_ends (env : Env) {n : Nat} : ∀ (i : Nat) (k : Kernel) (d : Device),
    i + n ≤ d.buffers.length →
    Ends (fun r => r.2.2.nbufs = d.nbufs ∧ r.2.2.buffers.length = d.buffers.length) F (mmapBuffers env i n k d) := by
  induction n with
  | zero => intro i k d _; exact .ok ⟨rfl, rfl⟩
  | succ n ih =>
      intro i k d hlen
      rw [mmapBuffers]
      have hi : i < d.buffers.length := by omega
      rw [List.getElem?_eq_getElem hi]
      dsimp only
      split
      · exact .ok ⟨rfl, rfl⟩
      · split
        · exact .ok ⟨rfl, rfl⟩
        · refine (ih (i + 1) _ _ ?_).mono fun r hr => ⟨hr.1, hr.2.trans List.length_set⟩
          show i + 1 + n ≤ (d.buffers.set i _).length
          rw [List.length_set]
          omega

theorem v4l2MmapBuffers_ends (env : Env) (k : Kernel) (hw : d.Whole) :
    Ends (fun r => r.2.2.Whole) F (v4l2MmapBuffers env k d) := by
  unfold v4l2MmapBuffers
  split
  · exact .ok hw
  · exact (mmapBuffers_ends env 0 k d (by rw [Nat.zero_add]; exact hw)).mono fun r hr => hw.of_eq hr.1 hr.2

theorem v4l2QueueBuffer_whole (env : Env) (k : Kernel) (d : Device) (b : VideoBuffer) :
    (v4l2QueueBuffer env k d b).2.2.nbufs = d.nbufs ∧ (v4l2QueueBuffer env k d b).2.2.buffers = d.buffers := by
  unfold v4l2QueueBuffer
  split
  · exact ⟨rfl, rfl⟩
  · dsimp only
    split <;> exact ⟨rfl, rfl⟩

theorem queueAll_ends (env : Env) {n : Nat} : ∀ (i : Nat) (k : Kernel) (d : Device), i + n ≤ d.buffers.length →
    Ends (fun r => r.2.2.nbufs = d.nbufs ∧ r.2.2.buffers = d.buffers) F (queueAll env i n k d) := by
  induction n with
  | zero => intro i k d _; exact .ok ⟨rfl, rfl⟩
  | succ n ih =>
      intro i k d hlen
      rw [queueAll]
      have hi : i < d.buffers.length := by omega
      rw [List.getElem?_eq_getElem hi]
      obtain ⟨hn, hb⟩ := v4l2QueueBuffer_whole env k d d.buffers[i]
      dsimp only
      split
      · exact .ok ⟨hn, hb⟩
      · refine (ih (i + 1) _ _ ?_).mono fun r hr => ⟨hr.1.trans hn, hr.2.trans hb⟩
        rw [hb]
        omega

theorem v4l2StreamOn_whole (k : Kernel) (hw : d.Whole) : (v4l2StreamOn env k d).2.2.Whole := by
  unfold v4l2StreamOn
  dsimp only
  split <;> exact hw

theorem v4l2StreamOff_whole (k : Kernel) (hw : d.Whole) : (v4l2StreamOff env k d).2.2.Whole := by
  unfold v4l2StreamOff
  dsimp only
  split <;> exact hw

/-! ## Streams -/

theorem v4lVideoStart_ends (k : Kernel) (hw : d.Whole) (hF : ¬d.Funded env k.tick streamBuffers → F .badPointer) :
    Ends (fun r => r.2.2.Whole) F (v4lVideoStart env k d) := by
  unfold v4lVideoStart
  refine (v4l2AllocBuffers_ends k hw .mmap streamBuffers hF).bind fun r hr => ?_
  obtain ⟨ret, k₁, d₁⟩ := r
  have hw₁ : d₁.Whole := hr
  dsimp only
  split
  · exact .ok hw₁
  · refine (v4l2MmapBuffers_ends env k₁ hw₁).bind fun r hr => ?_
    obtain ⟨ret₂, k₂, d₂⟩ := r
    have hw₂ : d₂.Whole := hr
    dsimp only
    have hqueue : Ends (fun r : Int × Kernel × Device => r.2.2.Whole) F
        (if ret₂ < 0 then .ok (ret₂, k₂, d₂) else queueAll env 0 d₂.nbufs k₂ d₂) := by
      split
      · exact .ok hw₂
      · refine (queueAll_ends env 0 k₂ d₂ (by rw [Nat.zero_add]; exact hw₂)).mono fun r hr => ?_
        exact hw₂.of_eq hr.1 (congrArg List.length hr.2)
    refine hqueue.bind fun r hr => ?_
    obtain ⟨ret₃, k₃, d₃⟩ := r
    dsimp only
    split
    · exact (v4l2FreeBuffers_ends env k₃ hr).bind fun r hr => .ok hr
    · exact .ok hr

/-- The size of the frame buffers for frames of this size is an `int`. -/
def Sized (width height : UInt32) : Prop :=
  -2 ^ 31 ≤ (width * height * 2).toInt32.toInt * internalBufferNumber ∧
    (width * height * 2).toInt32.toInt * internalBufferNumber < 2 ^ 31

/-- What a capture needs to start without a fault, if it does not stream yet. -/
def Capture.Startable (env : Env) (io : Io) (c : Capture) : Prop :=
  c.isStreaming = false → Sized c.width c.height ∧ (0 ≤ (c.width * c.height * 2).toInt32.toInt →
    env.malloc io.kernel.tick = true → c.vdev.Funded env (io.kernel.tick + 1) streamBuffers)

/-- Asking for the frame buffers. -/
theorem mallocFrames_ends (env : Env) (io : Io) (hF : ¬Sized c.width c.height → F .overflow) :
    Ends (fun r => ∀ addr, r.1 = some addr → 0 ≤ (c.width * c.height * 2).toInt32.toInt ∧
      env.malloc io.kernel.tick = true ∧ r.2.kernel = io.kernel.ask) F
      (io.mallocFrames env (c.width * c.height * 2).toInt32.toInt) := by
  unfold Io.mallocFrames
  split
  · exact .error (hF fun hsized => by obtain ⟨hlow, hhigh⟩ := hsized; omega)
  · split
    · exact .ok fun addr h => (by cases h)
    · next hsize =>
        unfold Io.malloc
        split
        · next hmem => exact .ok fun addr _ => ⟨Int.not_lt.mp hsize, hmem, rfl⟩
        · exact .ok fun addr h => (by cases h)

theorem v4lVideoStream_ends (io : Io) (hw : c.vdev.Whole) (on : Bool)
    (hF : on = true → ¬c.Startable env io → F .badPointer ∧ F .overflow) :
    Ends (fun r => r.2.1.vdev.Whole) F (v4lVideoStream env io c on) := by
  unfold v4lVideoStream
  split
  · split
    · exact .ok hw
    · refine (v4l2FreeBuffers_ends env _ (v4l2StreamOff_whole _ hw)).bind fun r hr => .ok hr
  · next hon =>
    have hF := hF (by simpa using hon)
    split
    · exact .ok hw
    · next hoff =>
      have hoff : c.isStreaming = false := by simpa using hoff
      refine (mallocFrames_ends env io fun hno => (hF fun hst => hno (hst hoff).1).2).bind fun r hr => ?_
      obtain ⟨addr, io₁⟩ := r
      cases addr with
      | none => exact .ok hw
      | some addr =>
          obtain ⟨hsize, hmem, hk⟩ := hr addr rfl
          dsimp only at hk
          have hback : ¬c.vdev.Funded env io₁.kernel.tick streamBuffers → F .badPointer := fun hno =>
            (hF fun hst => hno (by rw [hk]; exact (hst hoff).2 hsize hmem)).1
          refine (v4lVideoStart_ends io₁.kernel hw hback).bind fun r hr => ?_
          obtain ⟨ret, k, d⟩ := r
          dsimp only
          split
          · exact .ok hr
          · exact .ok (v4l2StreamOn_whole k hr)

/-- A driver that grants buffers there is no memory for. -/
theorem v4lVideoStart_faults (hno : ¬d.Funded env k.tick streamBuffers) :
    v4lVideoStart env k d = .error .badPointer := by
  obtain ⟨h0, hno⟩ := Classical.not_imp.mp hno
  obtain ⟨count, hno⟩ := not_forall.mp hno
  obtain ⟨hgrant, hno⟩ := Classical.not_imp.mp hno
  obtain ⟨hcount, hno⟩ := Classical.not_imp.mp hno
  obtain ⟨hle, hno⟩ := Classical.not_imp.mp hno
  have hreq : ioctlReqbufs env k d streamBuffers = (.ok count, k.call (.ioctl d.fd),
      { d with file := { d.file with count := count, reqfmt := k.inforce d.file.dev, queued := [] } }) := by
    unfold ioctlReqbufs
    dsimp only
    rw [hgrant]
    rfl
  have hnull : (!env.malloc (k.call (.ioctl d.fd)).tick) = true := by
    show (!env.malloc (k.tick + 1)) = true
    simpa using hno
  unfold v4lVideoStart v4l2AllocBuffers
  rw [if_neg (not_not.mpr h0), if_neg (by decide), hreq]
  dsimp only
  rw [if_neg (Nat.not_lt.mpr hle), if_pos hnull, v4l2FreeBuffers_null _ (show 0 < count from hcount) rfl]
  rfl

/-- A start that is not possible faults. -/
theorem v4lVideoStream_faults (h : ¬c.Startable env io) : ∃ e, v4lVideoStream env io c true = .error e := by
  obtain ⟨hoff, hno⟩ := Classical.not_imp.mp h
  unfold v4lVideoStream
  rw [if_neg (by decide), if_neg (by rw [hoff]; decide)]
  show ∃ e, (io.mallocFrames env (c.width * c.height * 2).toInt32.toInt >>= _) = .error e
  unfold Io.mallocFrames
  by_cases hsized : Sized c.width c.height
  · obtain ⟨hsize, hno⟩ := Classical.not_imp.mp fun himp => hno ⟨hsized, himp⟩
    obtain ⟨hmem, hno⟩ := Classical.not_imp.mp hno
    refine ⟨.badPointer, ?_⟩
    rw [if_neg (by obtain ⟨hlow, hhigh⟩ := hsized; omega), if_neg (Int.not_lt.mpr hsize), Io.malloc, if_pos hmem]
    show (v4lVideoStart env io.kernel.ask c.vdev >>= _) = _
    rw [v4lVideoStart_faults hno]
    rfl
  · refine ⟨.overflow, ?_⟩
    rw [if_pos (by unfold Sized at hsized; omega)]
    rfl

/-- A gadget that stops, or has stopped. -/
theorem uvcVideoStream_ends (env : Env) (io : Io) (hw : g.vdev.Whole) :
    Ends (fun _ => True) F (uvcVideoStream env io g false) := by
  unfold uvcVideoStream
  rw [if_pos (show (!false) = true from rfl)]
  split
  · exact .ok trivial
  · exact (v4l2FreeBuffers_ends env _ (v4l2StreamOff_whole _ hw)).bind fun _ _ => .ok trivial

/-! ## Messages -/

/-- The buffer arrays of all devices are as long as the devices say. -/
structure Sys.Whole (s : Sys) : Prop where
  gadgets : ∀ g ∈ s.gadgets, g.vdev.Whole
  captures : ∀ c ∈ s.captures, c.vdev.Whole

/-- A message that comes through the queue, with the payload of its kind. -/
structure Message.Proper (m : Message) : Prop where
  queued : m.what ≠ .terminate
  devname : m.what = .hotplugAttached ∨ m.what = .hotplugDetached → ∃ p name, m.lParam = .devname p name
  frame : m.what = .videoFrameAvailable → ∃ p, m.lParam = .frame p
  format : m.what = .videoSetFmt → ∃ p fmt, m.lParam = .format p fmt

/-- The frame behind the pointer can be copied into the gadget. -/
def Gadget.Takes (captures : List Capture) (p : FramePtr) (g : Gadget) : Prop :=
  ∃ f size, resolveFrame captures p = some (f, size) ∧ g.frameSize ≤ size ∧ g.frameSize ≤ imgdataSize

/-- What `uvc_gadget_detach` needs: the end of the list passes for a gadget, if there is none of the name, and a freed
    block can be read, if there is one. -/
def DetachSafe (env : Env) (gadgets : List Gadget) (name : DevName) : Prop :=
  match gadgets.find? fun g => decide (g.vdev.name = name) with
  | none => env.miss = .harmless
  | some _ => env.freed = .harmless

/-- What `uvc_gadget_fill_buffer` needs: the frame is there, if the gadget streams. -/
def CopySafe (env : Env) (gadgets : List Gadget) (captures : List Capture) (id : UInt32) (p : FramePtr) : Prop :=
  match gadgets.find? fun g => decide (g.id = id) with
  | none => env.miss = .harmless
  | some g => g.isStreaming = true → g.Takes captures p

/-- What the gadget module needs. -/
def UvcSafe (env : Env) (s : Sys) (m : Message) : Prop :=
  match m.what, m.lParam with
  | .hotplugDetached, .devname _ name => DetachSafe env s.gadgets name
  | .videoFrameAvailable, .frame p => CopySafe env s.gadgets s.captures m.wParam p
  | _, _ => True

/-- What the capture module needs: the capture to be started can be. -/
def CaptureSafe (env : Env) (s : Sys) (m : Message) : Prop :=
  m.what = .videoStreamOn →
    ∀ c, s.captures.find? (fun c => decide (c.gadgetId = m.wParam)) = some c → c.Startable env s.io

/-- What a handler needs of the state it is called in. -/
def Handler.Safe (env : Env) (s : Sys) (m : Message) : Handler → Prop
  | .uvc => UvcSafe env s m
  | .capture => CaptureSafe env s m

/-- Answers carry no payload. -/
theorem Answers.proper {ms : List Message} (h : Answers m ms) {x : Message} (hx : x ∈ ms) :
    x.Proper ∧ x.what ≠ .videoFrameAvailable := by
  have hplain : (x.what = .uvcAttached ∨ x.what = .videoStreamOff ∨ x.what = .uvcDetached) := by
    unfold Answers at h
    split at h
    · obtain ⟨id, hsub⟩ := h
      obtain rfl := List.mem_singleton.mp (hsub.subset hx)
      exact .inl rfl
    · obtain ⟨id, hsub⟩ := h
      rcases List.mem_cons.mp (hsub.subset hx) with rfl | hx
      · exact .inr (.inl rfl)
      · obtain rfl := List.mem_singleton.mp hx
        exact .inr (.inr rfl)
    · rw [h] at hx; cases hx
  rcases hplain with h | h | h <;>
    exact ⟨⟨by rw [h]; decide, by simp [h], by simp [h], by simp [h]⟩, by rw [h]; decide⟩

/-- A frame that is to be copied: the gadget it is for streams. -/
def Message.Copied (s : Sys) (m : Message) : Prop :=
  m.what = .videoFrameAvailable ∧ ∃ g ∈ s.gadgets, g.id = m.wParam ∧ g.isStreaming = true

/-- The frame to be copied has been released, or is not as long as the gadget copies. -/
def Message.Stale (s : Sys) (m : Message) : Prop :=
  m.what = .videoFrameAvailable ∧ ∃ p, m.lParam = .frame p ∧ ∃ g ∈ s.gadgets, g.id = m.wParam ∧
    g.isStreaming = true ∧ ∀ f size, resolveFrame s.captures p = some (f, size) →
      size < g.frameSize ∨ imgdataSize < g.frameSize

/-- A format message whose frames fit into frame buffers of an `int` size. -/
def Message.Sized (m : Message) : Prop := ∀ p fmt, m.lParam = .format p fmt → Uvcd.Sized fmt.width fmt.height

/-- Handling the message may start or stop a capture. -/
def Message.Touches (m : Message) : Prop :=
  m.what = .hotplugDetached ∨ m.what = .videoStreamOn ∨ m.what = .videoStreamOff ∨ m.what = .uvcDetached

/-- The answer to a message that touches no capture touches none. -/
theorem Answers.untouched {ms : List Message} (h : Answers m ms) (hm : ¬m.Touches) {x : Message} (hx : x ∈ ms) :
    ¬x.Touches := by
  unfold Answers at h
  split at h
  · obtain ⟨id, hsub⟩ := h
    obtain rfl := List.mem_singleton.mp (hsub.subset hx)
    exact nofun
  · next hwhat => exact absurd (.inl hwhat) hm
  · rw [h] at hx; cases hx

/-- The devices are whole, and no gadget has started to stream or changed its format. -/
structure Rests (gadgets gadgets' : List Gadget) : Prop where
  whole : ∀ g ∈ gadgets', g.vdev.Whole
  streams : ∀ g' ∈ gadgets', g'.isStreaming = true →
    ∃ g ∈ gadgets, g.id = g'.id ∧ g.isStreaming = true ∧ g.frameSize = g'.frameSize

theorem Rests.same {gadgets : List Gadget} (hw : ∀ g ∈ gadgets, g.vdev.Whole) : Rests gadgets gadgets :=
  ⟨hw, fun g hg hon => ⟨g, hg, rfl, hon, rfl⟩⟩

/-- **What handling the message leaves as it is**: devices stay whole, no gadget starts to stream or changes its format,
    frames stay where they are unless captures are touched, and captures have frames of an `int` size. -/
structure Sys.Settles (m : Message) (s s' : Sys) : Prop where
  gadgets : Rests s.gadgets s'.gadgets
  captures : ∀ c ∈ s'.captures, c.vdev.Whole
  frames : ¬m.Touches → ∀ p f size, resolveFrame s.captures p = some (f, size) →
    ∃ f', resolveFrame s'.captures p = some (f', size)
  sizes : m.Sized → (∀ c ∈ s.captures, Sized c.width c.height) → ∀ c ∈ s'.captures, Sized c.width c.height

namespace Sys.Settles

theorem whole (h : s.Settles m s') : s'.Whole := ⟨h.gadgets.whole, h.captures⟩

theorem trans {s'' : Sys} (h : s.Settles m s') (h' : s'.Settles m s'') : s.Settles m s'' := by
  refine ⟨⟨h'.gadgets.whole, fun g hg hon => ?_⟩, h'.captures, fun hno p f size hres => ?_, fun hm hs =>
    h'.sizes hm (h.sizes hm hs)⟩
  · obtain ⟨g₁, hg₁, hid, hon₁, hsize⟩ := h'.gadgets.streams g hg hon
    obtain ⟨g₂, hg₂, hid', hon₂, hsize'⟩ := h.gadgets.streams g₁ hg₁ hon₁
    exact ⟨g₂, hg₂, hid'.trans hid, hon₂, hsize'.trans hsize⟩
  · obtain ⟨f₁, hres₁⟩ := h.frames hno p f size hres
    exact h'.frames hno p f₁ size hres₁

/-- What is copied afterwards was to be copied before. -/
theorem copied (h : s.Settles m s') {x : Message} (hx : x.Copied s') : x.Copied s := by
  obtain ⟨hwhat, g', hg', hid', hon'⟩ := hx
  obtain ⟨g, hg, hid, hon, -⟩ := h.gadgets.streams g' hg' hon'
  exact ⟨hwhat, g, hg, hid.trans hid', hon⟩

/-- What is stale afterwards was stale before, if no capture has been touched. -/
theorem stale (h : s.Settles m s') (hno : ¬m.Touches) {x : Message} (hx : x.Stale s') : x.Stale s := by
  obtain ⟨hwhat, p, hp, g', hg', hid', hon', hshort⟩ := hx
  obtain ⟨g, hg, hid, hon, hsize⟩ := h.gadgets.streams g' hg' hon'
  refine ⟨hwhat, p, hp, g, hg, hid.trans hid', hon, fun f size hres => ?_⟩
  obtain ⟨f', hres'⟩ := h.frames hno p f size hres
  rw [hsize]
  exact hshort f' size hres'

end Sys.Settles

theorem Sys.Whole.settles (hw : s.Whole) : s.Settles m s :=
  ⟨.same hw.gadgets, hw.captures, fun _ _ f _ hres => ⟨f, hres⟩, fun _ hs => hs⟩

/-- A handler that changes the captures alone. -/
theorem Sys.Whole.captures_settle (hw : s.Whole) {captures : List Capture} {io : Io}
    (hc : ∀ c ∈ captures, c.vdev.Whole) (hframes : ¬m.Touches → ∀ p f size,
      resolveFrame s.captures p = some (f, size) → ∃ f', resolveFrame captures p = some (f', size))
    (hsizes : m.Sized → (∀ c ∈ s.captures, Sized c.width c.height) → ∀ c ∈ captures, Sized c.width c.height) :
    s.Settles m { s with captures := captures, io := io } :=
  ⟨.same hw.gadgets, hc, hframes, hsizes⟩

/-- One that changes the gadgets alone. -/
theorem Sys.Whole.gadgets_settle (hw : s.Whole) {gadgets : List Gadget} {io : Io} (h : Rests s.gadgets gadgets) :
    s.Settles m { s with gadgets := gadgets, io := io } :=
  ⟨h, hw.captures, fun _ _ f _ hres => ⟨f, hres⟩, fun _ hs => hs⟩

/-! ## The gadget module -/

theorem uvcGadgetAttach_settles {gadgets : List Gadget} {name : DevName} {r : Int} (hw : s.Whole)
    (h : UvcAttaches env s.io s.gadgets name r gadgets io) :
    s.Settles m { s with gadgets := gadgets, io := io } := by
  have hsame := Rests.same hw.gadgets
  cases h with
  | missing hopen => exact hw.gadgets_settle hsame
  | rejected hup => exact hw.gadgets_settle hsame
  | attached hopen htype hmem hinit hret =>
      rename_i dev k k₁ io₁ addr ret g
      have hg := (uvcGadgetInit_talks hinit).2
      obtain ⟨hno, -⟩ | ⟨d, hd, hop⟩ := v4l2Open_spec hopen
      · cases hno
      cases hd
      have hwhole : g.vdev.Whole := by
        rw [hg]
        show dev.nbufs ≤ dev.buffers.length
        rw [hop.idle.1]
        exact Nat.zero_le _
      have hoff : ¬g.isStreaming = true := by
        rw [hg]
        exact Bool.false_ne_true
      exact hw.gadgets_settle ⟨forall_snoc hw.gadgets hwhole, forall_snoc hsame.streams fun hon => absurd hon hoff⟩

/-- A lookup that finds nothing. -/
theorem strayCursor_ends {α : Type} {Q : α → Prop} {noop : α} (hQ : Q noop) (hF : env.miss ≠ .harmless → ∀ e, F e) :
    Ends Q F (strayCursor env noop) := by
  unfold strayCursor
  split
  · next htrap => exact .error (hF (fun h => by rw [h] at htrap; cases htrap) _)
  · exact .ok hQ

theorem uvcGadgetDetach_ends {gadgets : List Gadget} {name : DevName} (hw : ∀ g ∈ gadgets, g.vdev.Whole)
    (hF : ¬DetachSafe env gadgets name → ∀ e, F e) :
    Ends (fun r => Rests gadgets r.2.1) F (uvcGadgetDetach env io gadgets name) := by
  unfold uvcGadgetDetach
  unfold DetachSafe at hF
  split
  · next hs =>
      rw [find_none (splitFirst_decide_none.mp hs)] at hF
      exact strayCursor_ends (.same hw) hF
  · next pre g post hs =>
      have hsp := splitFirst_decide.mp hs
      rw [hsp.find_eq] at hF
      refine (uvcVideoStream_ends env io (hw g hsp.mem)).bind fun r _ => ?_
      dsimp only
      split
      · next htrap => exact .error (hF (fun h => by rw [h] at htrap; cases htrap) _)
      · exact .ok ⟨forall_erased hsp.eq hw, forall_erased hsp.eq (Rests.same hw).streams⟩

theorem uvcGadgetFillBuffer_ends {gadgets : List Gadget} {captures : List Capture} {id : UInt32} {p : FramePtr}
    (hw : ∀ g ∈ gadgets, g.vdev.Whole) (hF : ¬CopySafe env gadgets captures id p → ∀ e, F e) :
    Ends (fun r => Rests gadgets r.2.1) F
      (uvcGadgetFillBuffer env io gadgets id (resolveFrame captures p)) := by
  unfold uvcGadgetFillBuffer
  unfold CopySafe at hF
  split
  · next hs =>
      rw [find_none (splitFirst_decide_none.mp hs)] at hF
      exact strayCursor_ends (.same hw) hF
  · next pre g post hs =>
      have hsp := splitFirst_decide.mp hs
      rw [hsp.find_eq] at hF
      split
      · next hon =>
          split
          · next hres =>
              refine .error (hF (fun htakes => ?_) _)
              obtain ⟨f, size, hsome, -⟩ := htakes hon
              cases hres.symm.trans hsome
          · next f size hres =>
              split
              · next hshort =>
                  refine .error (hF (fun htakes => ?_) _)
                  obtain ⟨f', size', hsome, hsize, himg⟩ := htakes hon
                  cases hres.symm.trans hsome
                  omega
              · exact .ok ⟨forall_replaced hsp.eq hw (hw g hsp.mem),
                  forall_replaced hsp.eq (Rests.same hw).streams ((Rests.same hw).streams g hsp.mem)⟩
      · exact .ok (.same hw)

theorem uvcHandleMessage_ends (hw : s.Whole) (hm : m.Proper) (hF : ¬UvcSafe env s m → ∀ e, F e) :
    Ends (fun r => s.Settles m r.2) F (uvcHandleMessage env s m) := by
  unfold UvcSafe at hF
  unfold uvcHandleMessage
  split
  · next p name _ _ => exact .ok (uvcGadgetAttach_settles hw (uvcGadgetAttach_does rfl))
  · next p name hwhat hl =>
      rw [hwhat, hl] at hF
      exact (uvcGadgetDetach_ends hw.gadgets hF).bind fun r hr => .ok (hw.gadgets_settle hr)
  · next p hwhat hl =>
      rw [hwhat, hl] at hF
      exact (uvcGadgetFillBuffer_ends hw.gadgets hF).bind fun r hr => .ok (hw.gadgets_settle hr)
  · -- a proper message has its payload
    next hwhat hno =>
      obtain ⟨p, name, hl⟩ := hm.devname (.inl hwhat)
      exact (hno p name hl).elim
  · next hwhat hno =>
      obtain ⟨p, name, hl⟩ := hm.devname (.inr hwhat)
      exact (hno p name hl).elim
  · next hwhat hno =>
      obtain ⟨p, hl⟩ := hm.frame hwhat
      exact (hno p hl).elim
  · -- `MSG_TERMINATE` is never queued
    next hwhat => exact (hm.queued hwhat).elim
  · exact .ok hw.settles

theorem strayCursor_faults {α : Type} {noop : α} (h : env.miss ≠ .harmless) :
    strayCursor env noop = .error .strayGadget := by
  unfold strayCursor
  cases hmiss : env.miss with
  | trap => rfl
  | harmless => exact absurd hmiss h

theorem uvcGadgetDetach_faults {gadgets : List Gadget} {name : DevName} (h : ¬DetachSafe env gadgets name) :
    ∃ e, uvcGadgetDetach env io gadgets name = .error e := by
  unfold uvcGadgetDetach
  unfold DetachSafe at h
  cases hs : splitFirst (fun g : Gadget => decide (g.vdev.name = name)) gadgets with
  | none =>
      rw [find_none (splitFirst_decide_none.mp hs)] at h
      exact ⟨_, strayCursor_faults h⟩
  | some r =>
      obtain ⟨pre, g, post⟩ := r
      rw [(splitFirst_decide.mp hs).find_eq] at h
      dsimp only
      cases hstop : uvcVideoStream env io g false with
      | error e => exact ⟨e, rfl⟩
      | ok r =>
          refine ⟨.freedLooper, ?_⟩
          simp only [ok_bind]
          cases hfreed : env.freed with
          | trap => rfl
          | harmless => exact absurd hfreed h

theorem uvcGadgetFillBuffer_faults {gadgets : List Gadget} {captures : List Capture} {id : UInt32} {p : FramePtr}
    (h : ¬CopySafe env gadgets captures id p) :
    ∃ e, uvcGadgetFillBuffer env io gadgets id (resolveFrame captures p) = .error e := by
  unfold uvcGadgetFillBuffer
  unfold CopySafe at h
  cases hs : splitFirst (fun g : Gadget => decide (g.id = id)) gadgets with
  | none =>
      rw [find_none (splitFirst_decide_none.mp hs)] at h
      exact ⟨_, strayCursor_faults h⟩
  | some r =>
      obtain ⟨pre, g, post⟩ := r
      rw [(splitFirst_decide.mp hs).find_eq] at h
      obtain ⟨hon, hno⟩ := Classical.not_imp.mp h
      dsimp only
      rw [if_pos hon]
      cases hres : resolveFrame captures p with
      | none => exact ⟨_, rfl⟩
      | some r =>
          obtain ⟨f, size⟩ := r
          have hshort : size < g.frameSize ∨ imgdataSize < g.frameSize := by
            by_contra hlong
            exact hno ⟨f, size, hres, by omega, by omega⟩
          dsimp only
          rw [if_pos hshort]
          exact ⟨_, rfl⟩

theorem uvcHandleMessage_faults (h : ¬UvcSafe env s m) : ∃ e, uvcHandleMessage env s m = .error e := by
  unfold UvcSafe at h
  unfold uvcHandleMessage
  split at h
  · next hwhat hl =>
      obtain ⟨e, he⟩ := uvcGadgetDetach_faults h
      rw [hwhat, hl]
      exact ⟨e, by dsimp only; rw [he]; rfl⟩
  · next hwhat hl =>
      obtain ⟨e, he⟩ := uvcGadgetFillBuffer_faults h
      rw [hwhat, hl]
      exact ⟨e, by dsimp only; rw [he]; rfl⟩
  · exact absurd trivial h

/-! ## The capture module -/

/-- A frame stays where it is in a list that gets longer. -/
theorem resolveFrame_append {cs : List Capture} (more : List Capture) {p : FramePtr} {r : Frame × Nat}
    (h : resolveFrame cs p = some r) : resolveFrame (cs ++ more) p = some r := by
  unfold resolveFrame at h ⊢
  rw [List.findSome?_append, h]
  rfl

/-- An attach keeps the captures whole and the frames where they are. -/
theorem v4lCaptureAttach_settles {captures : List Capture} {name : DevName} {r : Int} (hw : s.Whole)
    (h : V4lAttaches env s.io s.captures name r captures io) :
    s.Settles m { s with captures := captures, io := io } := by
  cases h with
  | missing hopen => exact hw.captures_settle hw.captures (fun _ p f size hres => ⟨f, hres⟩) fun _ hs => hs
  | rejected hup => exact hw.captures_settle hw.captures (fun _ p f size hres => ⟨f, hres⟩) fun _ hs => hs
  | attached hopen htype hmem =>
      rename_i dev k addr
      obtain ⟨hno, -⟩ | ⟨d, hd, hop⟩ := v4l2Open_spec hopen
      · cases hno
      cases hd
      have hwhole : (Capture.fresh addr dev).vdev.Whole := by
        show dev.nbufs ≤ dev.buffers.length
        rw [hop.idle.1]
        exact Nat.zero_le _
      refine hw.captures_settle (forall_snoc hw.captures hwhole) (fun _ p f size hres => ?_) fun _ hs => ?_
      · exact ⟨f, resolveFrame_append _ hres⟩
      · exact forall_snoc hs (show Sized 0 0 from ⟨by decide, by decide⟩)

/-- Trying a format leaves the buffers alone. -/
theorem TunesAll.whole {k k' : Kernel} {cs cs' : List Capture} (h : TunesAll k cs k' cs')
    (hw : ∀ c ∈ cs, c.vdev.Whole) : ∀ c ∈ cs', c.vdev.Whole := by
  obtain ⟨heach, -⟩ := h
  induction heach with
  | nil => exact hw
  | cons ht _ ih =>
      intro c hc
      rcases List.mem_cons.mp hc with rfl | hc
      · rw [ht.device]
        exact hw _ List.mem_cons_self
      · exact ih (fun x hx => hw x (List.mem_cons_of_mem _ hx)) c hc

theorem TunesAll.resolveFrame_eq {k k' : Kernel} {cs cs' : List Capture} (h : TunesAll k cs k' cs') (p : FramePtr) :
    resolveFrame cs' p = resolveFrame cs p := by
  obtain ⟨heach, -⟩ := h
  unfold resolveFrame
  induction heach with
  | nil => rfl
  | cons ht _ ih => rw [List.findSome?_cons, List.findSome?_cons, ht.buffers, ih]

section SetFmt

variable {fmt : PixFormat} (hf : Sized fmt.width fmt.height)

include hf

/-- A format is recorded with the size it asks for. -/
theorem tryFormats_sized {pfs : List UInt32} : ∀ {k k' : Kernel} {c c' : Capture} {r : Int}, Sized c.width c.height →
    tryFormats env fmt pfs k c = (r, k', c') → Sized c'.width c'.height := by
  induction pfs with
  | nil => intro k k' c c' r hc h; cases h; exact hc
  | cons pf pfs ih =>
      intro k k' c c' r hc h
      rw [tryFormats] at h
      dsimp only at h
      split at h
      · cases h; exact hf
      · refine ih ?_ h
        exact hc

theorem v4lVideoTrySetFormat_sized {k k' : Kernel} {c c' : Capture} {r : Int} (hc : Sized c.width c.height)
    (h : v4lVideoTrySetFormat env k c fmt = (r, k', c')) : Sized c'.width c'.height := by
  unfold v4lVideoTrySetFormat at h
  split at h
  · cases h; exact hc
  · exact tryFormats_sized hf hc h

theorem setFmtHolder_sized {id : UInt32} {cs : List Capture} : ∀ {k k' : Kernel} {cs' : List Capture} {taken : Bool},
    (∀ c ∈ cs, Sized c.width c.height) → setFmtHolder env id fmt cs k = (taken, cs', k') →
    ∀ c ∈ cs', Sized c.width c.height := by
  induction cs with
  | nil => intro k k' cs' taken hcs h; cases h; exact hcs
  | cons c cs ih =>
      intro k k' cs' taken hcs h
      obtain ⟨hc, hcs⟩ := List.forall_mem_cons.mp hcs
      rw [setFmtHolder] at h
      split at h
      · generalize ht : v4lVideoTrySetFormat env k c fmt = r at h
        obtain ⟨ret, k₁, c₁⟩ := r
        have hc₁ := v4lVideoTrySetFormat_sized hf hc ht
        dsimp only at h
        split at h
        · cases h; exact List.forall_mem_cons.mpr ⟨hc₁, hcs⟩
        · cases h; exact List.forall_mem_cons.mpr ⟨hc₁, hcs⟩
      · generalize hr : setFmtHolder env id fmt cs k = r at h
        obtain ⟨taken₁, cs₁, k₁⟩ := r
        cases h
        exact List.forall_mem_cons.mpr ⟨hc, ih hcs hr⟩

theorem setFmtFree_sized {id : UInt32} {cs : List Capture} : ∀ {k k' : Kernel} {cs' : List Capture} {taken : Bool},
    (∀ c ∈ cs, Sized c.width c.height) → setFmtFree env id fmt cs k = (taken, cs', k') →
    ∀ c ∈ cs', Sized c.width c.height := by
  induction cs with
  | nil => intro k k' cs' taken hcs h; cases h; exact hcs
  | cons c cs ih =>
      intro k k' cs' taken hcs h
      obtain ⟨hc, hcs⟩ := List.forall_mem_cons.mp hcs
      rw [setFmtFree] at h
      split at h
      · generalize ht : v4lVideoTrySetFormat env k c fmt = r at h
        obtain ⟨ret, k₁, c₁⟩ := r
        have hc₁ := v4lVideoTrySetFormat_sized hf hc ht
        dsimp only at h
        split at h
        · generalize hr : setFmtFree env id fmt cs k₁ = r at h
          obtain ⟨taken₁, cs₁, k₂⟩ := r
          cases h
          exact List.forall_mem_cons.mpr ⟨hc₁, ih hcs hr⟩
        · cases h; exact List.forall_mem_cons.mpr ⟨hc₁, hcs⟩
      · generalize hr : setFmtFree env id fmt cs k = r at h
        obtain ⟨taken₁, cs₁, k₁⟩ := r
        cases h
        exact List.forall_mem_cons.mpr ⟨hc, ih hcs hr⟩

theorem v4lCaptureSetFmt_sized {id : UInt32} {cs cs' : List Capture} {io io' : Io} {r : Int}
    (hcs : ∀ c ∈ cs, Sized c.width c.height) (h : v4lCaptureSetFmt env io cs id fmt = (r, cs', io')) :
    ∀ c ∈ cs', Sized c.width c.height := by
  unfold v4lCaptureSetFmt at h
  generalize hh : setFmtHolder env id fmt cs io.kernel = res at h
  obtain ⟨taken, cs₁, k₁⟩ := res
  have h₁ := setFmtHolder_sized hf hcs hh
  dsimp only at h
  split at h
  · cases h; exact h₁
  · generalize hr : setFmtFree env id fmt cs₁ k₁ = res at h
    obtain ⟨taken₂, cs₂, k₂⟩ := res
    cases h
    exact setFmtFree_sized hf h₁ hr

end SetFmt

/-- A stream function keeps the format of the capture. -/
theorem v4lVideoStream_size {c c' : Capture} {io io' : Io} {on : Bool} {r : Int}
    (h : v4lVideoStream env io c on = .ok (r, c', io')) : c'.width = c.width ∧ c'.height = c.height := by
  cases v4lVideoStream_streams h <;> exact ⟨rfl, rfl⟩

/-- Captures that are whole and, where all were sized before, still are. -/
structure CapturesStand (captures captures' : List Capture) : Prop where
  whole : ∀ c ∈ captures', c.vdev.Whole
  sizes : (∀ c ∈ captures, Sized c.width c.height) → ∀ c ∈ captures', Sized c.width c.height

/-- One capture goes through a stream function, its gadget may change. -/
theorem CapturesStand.streamed {captures pre post : List Capture} {c c' : Capture} {io io' : Io} {on : Bool} {r : Int}
    (hw : ∀ c ∈ captures, c.vdev.Whole) (hsp : captures = pre ++ c :: post) (hr : c'.vdev.Whole)
    (heq : v4lVideoStream env io c on = .ok (r, c', io')) (id : UInt32) :
    CapturesStand captures (pre ++ { c' with gadgetId := id } :: post) := by
  refine ⟨forall_replaced hsp hw hr, fun hsizes => forall_replaced hsp hsizes ?_⟩
  show Sized c'.width c'.height
  obtain ⟨hwidth, hheight⟩ := v4lVideoStream_size heq
  rw [hwidth, hheight]
  exact hsizes c (hsp ▸ List.mem_append_right _ (List.mem_cons_self ..))

/-- Starting or stopping one capture of the list. -/
theorem v4lCaptureStream_ends {captures : List Capture} {id : UInt32} {on : Bool} (hw : ∀ c ∈ captures, c.vdev.Whole)
    (hF : on = true → ∀ c, captures.find? (fun c => decide (c.gadgetId = id)) = some c → ¬c.Startable env io →
      ∀ e, F e) :
    Ends (fun r => CapturesStand captures r.2.1) F (v4lCaptureStream env io captures id on) := by
  unfold v4lCaptureStream
  split
  · exact .ok ⟨hw, fun hs => hs⟩
  · next pre c post hs =>
      have hsp := splitFirst_decide.mp hs
      have hfault : on = true → ¬c.Startable env io → F .badPointer ∧ F .overflow := fun hon hno =>
        ⟨hF hon c hsp.find_eq hno _, hF hon c hsp.find_eq hno _⟩
      exact (v4lVideoStream_ends io (hw c hsp.mem) on hfault).result.bind fun r ⟨hr, heq⟩ =>
        .ok (.streamed hw hsp.eq hr heq r.2.1.gadgetId)

/-- Taking one capture off the list, its stream stopped first. -/
theorem v4lCaptureDetach_ends {captures : List Capture} {name : DevName} (hw : ∀ c ∈ captures, c.vdev.Whole) :
    Ends (fun r => CapturesStand captures r.2.1) F (v4lCaptureDetach env io captures name) := by
  unfold v4lCaptureDetach
  split
  · exact .ok ⟨hw, fun hs => hs⟩
  · next pre c post hs =>
      have hsp := splitFirst_decide.mp hs
      exact (v4lVideoStream_ends io (hw c hsp.mem) false fun h => (by cases h)).bind fun r _ =>
        .ok ⟨forall_erased hsp.eq hw, forall_erased hsp.eq⟩

/-- Parting one capture from its gadget, its stream stopped first. -/
theorem v4lCaptureDetachGadget_ends {captures : List Capture} {id : UInt32} (hw : ∀ c ∈ captures, c.vdev.Whole) :
    Ends (fun r => CapturesStand captures r.2.1) F (v4lCaptureDetachGadget env io captures id) := by
  unfold v4lCaptureDetachGadget
  split
  · exact .ok ⟨hw, fun hs => hs⟩
  · next pre c post hs =>
      have hsp := splitFirst_decide.mp hs
      exact (v4lVideoStream_ends io (hw c hsp.mem) false fun h => (by cases h)).result.bind fun r ⟨hr, heq⟩ =>
        .ok (.streamed hw hsp.eq hr heq 0)

theorem captureHandleMessage_ends (hw : s.Whole) (hm : m.Proper) (hF : ¬CaptureSafe env s m → ∀ e, F e) :
    Ends (fun r => s.Settles m r.2) F (captureHandleMessage env s m) := by
  -- a message that touches the captures may leave any frame stale
  have htouched {captures : List Capture} {io : Io} (ht : m.Touches) (hc : CapturesStand s.captures captures) :
      s.Settles m { s with captures := captures, io := io } :=
    hw.captures_settle hc.whole (fun hno => absurd ht hno) fun _ => hc.sizes
  unfold captureHandleMessage
  split
  · next p name _ _ => exact .ok (v4lCaptureAttach_settles hw (v4lCaptureAttach_does rfl))
  · next p name hwhat _ =>
      exact (v4lCaptureDetach_ends hw.captures).bind fun r hr => .ok (htouched (.inl hwhat) hr)
  · -- a format leaves the frames where they are
    next p fmt _ hl =>
      generalize hd : v4lCaptureSetFmt env s.io s.captures m.wParam fmt = res
      obtain ⟨r, captures, io⟩ := res
      have htunes := (v4lCaptureSetFmt_tunes hd).1
      refine .ok (hw.captures_settle (htunes.whole hw.captures) (fun _ p f size hres => ⟨f, ?_⟩) fun hsized hs => ?_)
      · rw [htunes.resolveFrame_eq]
        exact hres
      · exact v4lCaptureSetFmt_sized (hsized p fmt hl) hs hd
  · -- a proper message has its payload
    next hwhat hno =>
      obtain ⟨p, name, hl⟩ := hm.devname (.inl hwhat)
      exact (hno p name hl).elim
  · next hwhat hno =>
      obtain ⟨p, name, hl⟩ := hm.devname (.inr hwhat)
      exact (hno p name hl).elim
  · next hwhat hno =>
      obtain ⟨p, fmt, hl⟩ := hm.format hwhat
      exact (hno p fmt hl).elim
  · next hwhat =>
      refine (v4lCaptureStream_ends hw.captures fun _ c hc hno => hF fun hsafe => ?_).bind fun r hr =>
        .ok (htouched (.inr (.inl hwhat)) hr)
      exact hno (hsafe hwhat c hc)
  · next hwhat =>
      exact (v4lCaptureStream_ends hw.captures fun h => (by cases h)).bind fun r hr =>
        .ok (htouched (.inr (.inr (.inl hwhat))) hr)
  · next hwhat =>
      exact (v4lCaptureDetachGadget_ends hw.captures).bind fun r hr =>
        .ok (htouched (.inr (.inr (.inr hwhat))) hr)
  · -- `MSG_TERMINATE` is never queued
    next hwhat => exact (hm.queued hwhat).elim
  · exact .ok hw.settles

theorem captureHandleMessage_faults (h : ¬CaptureSafe env s m) : ∃ e, captureHandleMessage env s m = .error e := by
  obtain ⟨hwhat, hno⟩ := Classical.not_imp.mp h
  obtain ⟨c, hno⟩ := not_forall.mp hno
  obtain ⟨hfind, hno⟩ := Classical.not_imp.mp hno
  obtain ⟨pre, post, hsp⟩ := SplitsAt.of_find hfind
  obtain ⟨e, he⟩ := v4lVideoStream_faults hno
  refine ⟨e, ?_⟩
  unfold captureHandleMessage
  rw [hwhat]
  dsimp only
  unfold v4lCaptureStream
  rw [splitFirst_decide.mpr hsp]
  dsimp only
  rw [he]
  rfl

/-! ## Handlers -/

/-- A handler that is safe returns. -/
theorem handleMessage_ends (hw : s.Whole) (hm : m.Proper) (x : Handler) (hF : ¬x.Safe env s m → ∀ e, F e) :
    Ends (fun r => s.Settles m r.2) F (handleMessage env x s m) := by
  cases x with
  | uvc => exact uvcHandleMessage_ends hw hm hF
  | capture => exact captureHandleMessage_ends hw hm hF

/-- **A handler returns exactly where it is safe.** -/
theorem handleMessage_returns_iff (hw : s.Whole) (hm : m.Proper) (x : Handler) :
    (∃ r, handleMessage env x s m = .ok r) ↔ x.Safe env s m := by
  constructor
  · rintro ⟨r, hr⟩
    by_contra hno
    have hfault : ∃ e, handleMessage env x s m = .error e := by
      cases x with
      | uvc => exact uvcHandleMessage_faults hno
      | capture => exact captureHandleMessage_faults hno
    obtain ⟨e, he⟩ := hfault
    cases hr.symm.trans he
  · intro hsafe
    obtain ⟨r, hr, -⟩ := (handleMessage_ends (F := fun _ => False) hw hm x fun hno => absurd hsafe hno).returns
    exact ⟨r, hr⟩

end Uvcd
