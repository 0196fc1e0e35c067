import Uvcd.Correctness.Bounds
import Uvcd.Correctness.Starts
import Uvcd.Correctness.TestPattern
import Uvcd.Protocol.WatchList
import Uvcd.Refinement.Returns

/-!
# `Correctness.TestApp` — the test application does not fault, and leaves nothing behind

`test_app_sound`: with drivers that keep to their side and formats that fit, no run faults; the watch list is that of
the device's state at every moment, all buffers in use are mapped, and when the program ends, it has closed what it
opened. `Fits` is the condition on the formats: `uvc_video_fill_buffer` goes by the format committed, whatever
`v4l2_set_format` said to it.
-/

namespace Uvcd

namespace TestApp

open Machine

/-- Memory is there, and the driver maps buffers that hold a frame, hands out what it owns, lets go of what it is told
    to, and grants some of the buffers asked for. -/
structure Obeys (env : Env) : Prop where
  malloc : ∀ t, env.malloc t = true
  long : LongBuffers env
  owned : env.HandsOutOwned
  releases : ReleasesSucceed env
  grants : ∀ t file, env.reqbufs t file 4 ≠ .ok 0

/-! ## States -/

/-- A device in order, though perhaps not all of its buffers are mapped; `fds` are the other descriptors open. -/
structure App.Held (fds : List Nat) (app : App) : Prop where
  opened : app.kernel.opened = app.dev.vdev.fd :: fds
  offered : app.dev.Offered
  imaged : app.dev.Imaged
  racked : app.dev.vdev.Racked
  whole : app.dev.vdev.Whole
  sized : app.dev.vdev.Sized
  room : app.dev.vdev.Roomy app.dev.frameSize

/-- All buffers are mapped. -/
def App.Mounted (app : App) : Prop := ∀ j < app.dev.vdev.nbufs, app.dev.vdev.Mapped j

/-- The watches of a device: the write one is there while there are buffers. -/
def App.watches (app : App) : List EventFd :=
  ⟨app.dev.vdev.fd, .exception, .uvcGadgetProcess, .gadget 0⟩ ::
    if app.dev.vdev.nbufs = 0 then [] else [⟨app.dev.vdev.fd, .write, .uvcVideoProcess, .gadget 0⟩]

/-- What the calls on the device leave alone. -/
structure App.Same (app app' : App) : Prop where
  events : app'.dev.events = app.dev.events
  fd : app'.dev.vdev.fd = app.dev.vdev.fd
  phase : app'.phase = app.phase

theorem App.Same.trans {app app' app'' : App} (h : app.Same app') (h' : app'.Same app'') : app.Same app'' :=
  ⟨h'.events.trans h.events, h'.fd.trans h.fd, h'.phase.trans h.phase⟩

variable {env : Env} {fds : List Nat} {app app' : App} {k k' : Kernel} {d : Device} {F : Fault → Prop}

namespace App.Held

/-- Calls on the device. -/
theorem putVdev (h : app.Held fds) (hl : LongBuffers env) (hu : Uses env app.kernel app.dev.vdev k d)
    (ht : Tends app.dev.vdev d) (hw : d.Whole) (hr : d.Roomy app.dev.frameSize) :
    (app.putVdev k d).Held fds ∧ app.Same (app.putVdev k d) := by
  refine ⟨⟨?_, h.offered, h.imaged, ht.racked h.racked, hw, hu.sized hl h.sized, hr⟩, rfl, hu.same.fd, rfl⟩
  show k.opened = d.fd :: fds
  rw [hu.keeps.opened, hu.same.fd]
  exact h.opened

end App.Held

/-- Buffers that are gone. -/
theorem App.mounted_idle (h0 : app.dev.vdev.nbufs = 0) : app.Mounted := fun j hj => by
  rw [h0] at hj
  exact absurd hj (Nat.not_lt_zero j)

/-- Releasing the buffers leaves none. -/
theorem v4l2FreeBuffers_empties {ret : Int} {d' : Device} (hrel : ReleasesSucceed env) (hp : d.Plain)
    (h : v4l2FreeBuffers env k d = .ok (ret, k', d')) : d'.nbufs = 0 := by
  unfold v4l2FreeBuffers at h
  split at h
  · next h0 => cases h; exact h0
  · obtain ⟨⟨ret₁, k₁, d₁⟩, hrelease, h⟩ := bind_eq_ok.mp h
    obtain ⟨-, -, hcase⟩ := releaseBuffers_cases hp (by omega) hrelease
    have hret₁ : ¬ret₁ < 0 := by
      rcases hcase with ⟨hret, -⟩ | ⟨-, hno⟩
      · omega
      · exact absurd (hrel.grants _ _ _) hno
    dsimp only at h
    rw [if_neg hret₁] at h
    unfold ioctlReqbufs at h
    dsimp only at h
    obtain ⟨n, hn⟩ := hrel.2 k₁.tick d₁.file
    rw [hn] at h
    cases h
    rfl

/-- The end of a stream, or of the start of one. -/
theorem v4l2FreeBuffers_clears (hob : Obeys env) (h : app.Held fds) :
    Ends (fun r => (app.putVdev r.2.1 r.2.2).Held fds ∧ app.Same (app.putVdev r.2.1 r.2.2) ∧ r.2.2.nbufs = 0) F
      (v4l2FreeBuffers env app.kernel app.dev.vdev) := by
  refine (v4l2FreeBuffers_ends env app.kernel h.whole).result.mono fun r hr => ?_
  obtain ⟨ret, k, d⟩ := r
  obtain ⟨hw, hfree⟩ := hr
  have h0 := v4l2FreeBuffers_empties hob.releases h.racked.plain hfree
  have hst := v4l2FreeBuffers_steady h.racked.plain hfree
  obtain ⟨hh, hs⟩ := h.putVdev hob.long hst.toUses (v4l2FreeBuffers_tends hfree) hw fun hn => absurd h0 hn
  exact ⟨hh, hs, h0⟩

theorem streamError_ends (hob : Obeys env) (h : app.Held fds) (ret : Int) :
    Ends (fun r => r.2.Held fds ∧ app.Same r.2 ∧ r.2.dev.vdev.nbufs = 0) F (streamError env ret app) := by
  unfold streamError
  exact (v4l2FreeBuffers_clears hob h).bind fun r hr => .ok hr

/-! ## Streams -/

/-- The callbacks keep what is in order in order. -/
structure App.Keeps (fds : List Nat) (app app' : App) : Prop where
  held : app'.Held fds
  mounted : app'.Mounted
  same : app.Same app'

theorem mmapBuffers_mounts {ret : Int} {d' : Device} (hmt : d.memtype = .mmap)
    (h : v4l2MmapBuffers env k d = .ok (ret, k', d')) :
    d'.nbufs = d.nbufs ∧ (¬ret < 0 → ∀ j < d.nbufs, d'.Mapped j) := by
  unfold v4l2MmapBuffers at h
  rw [if_neg (not_not.mpr hmt)] at h
  obtain ⟨hn, hmaps⟩ := mmapBuffers_maps (fun j hj => absurd hj (Nat.not_lt_zero j)) h
  refine ⟨hn, fun hret j hj => hmaps hret j (by omega)⟩

/-- **Filling all buffers** of a device that has them mapped. -/
theorem fillAndQueue_ends (hob : Obeys env) {n : Nat} : ∀ {i : Nat} {app : App}, app.Held fds → app.Mounted →
    i + n ≤ app.dev.vdev.nbufs → (∀ j ∈ app.dev.vdev.file.queued, j < i) →
    Ends (fun r => app.Keeps fds r.2 ∧ r.2.dev.vdev.nbufs = app.dev.vdev.nbufs) F (fillAndQueue env i n app) := by
  induction n with
  | zero => intro i app h hm _ _; exact .ok ⟨⟨h, hm, rfl, rfl, rfl⟩, rfl⟩
  | succ n ih =>
      intro i app h hm hle hlt
      rw [fillAndQueue]
      obtain ⟨buf, hbuf, hsome⟩ := hm i (by omega)
      rw [hbuf]
      dsimp only
      have hmem := List.mem_of_getElem? hbuf
      obtain ⟨⟨dev, buf'⟩, hfill⟩ := uvcVideoFillBuffer_returns h.offered h.imaged hsome
        (h.room.le_size h.sized hmem hsome)
      have hf := uvcVideoFillBuffer_fills h.offered hfill
      have hdev := hf.device
      rw [hfill, Machine.ok_bind]
      dsimp only
      generalize hq : v4l2QueueBuffer env app.kernel
        { app.dev.vdev with buffers := app.dev.vdev.buffers.set i buf' } buf' = res
      obtain ⟨ret, k₁, d₁⟩ := res
      have hindex : buf'.index = i := hf.index.trans (h.racked.indexed.index (by omega) hbuf)
      have hnot : i ∉ app.dev.vdev.file.queued := fun hi => Nat.lt_irrefl i (hlt i hi)
      -- the buffer written, then given to the driver
      have hset : Tends app.dev.vdev
          { app.dev.vdev with buffers := app.dev.vdev.buffers.set i buf', file := app.dev.vdev.file } :=
        .set hbuf hf.index (fun hd => hf.dmabuf.trans hd) rfl fun hi => absurd hi hnot
      have hwrite : Steady env app.kernel app.dev.vdev app.kernel
          { app.dev.vdev with buffers := app.dev.vdev.buffers.set i buf', file := app.dev.vdev.file } :=
        .set h.racked.plain hbuf (fun hd => hf.dmabuf.trans hd) (fun _ _ => .inl ⟨hsome, hf.size⟩) rfl rfl
      have hqueue := v4l2QueueBuffer_steady hwrite.plain hq
      have hst := hwrite.trans hqueue
      obtain ⟨hracked, -, hgiven⟩ := v4l2QueueBuffer_gives (hset.racked h.racked) (P := fun _ => True)
        (fun _ _ _ _ _ _ => trivial) (hindex ▸ hnot) (fun _ _ _ _ => trivial) hq
      obtain ⟨hn₁, hb₁⟩ : d₁.nbufs = app.dev.vdev.nbufs ∧ d₁.buffers = app.dev.vdev.buffers.set i buf' := by
        have hwhole := v4l2QueueBuffer_whole env app.kernel
          { app.dev.vdev with buffers := app.dev.vdev.buffers.set i buf' } buf'
        rw [hq] at hwhole
        exact hwhole
      have hkeeps : app.Keeps fds { app with
          kernel := k₁, dev := { dev with vdev := d₁ }
          filled := app.filled ++ [dev.picture app.dev.vdev.file.queued buf'] } := by
        refine ⟨⟨?_, ?_, ?_, hracked, ?_, hst.sized hob.long h.sized, ?_⟩, fun j hj => ?_, ?_, hst.same.fd, rfl⟩
        · show k₁.opened = d₁.fd :: fds
          rw [hst.keeps.opened, hst.same.fd]
          exact h.opened
        · rw [hdev]; exact h.offered
        · rw [hdev]; exact h.imaged
        · exact h.whole.of_eq hn₁ (by rw [hb₁, List.length_set])
        · rw [hdev]; exact hst.roomy h.room
        · have hj : j < d₁.nbufs := hj
          obtain ⟨x, hx, hxs⟩ := (hm j (by omega)).set (i := i) (f := app.dev.vdev.file) (hf.mapped.trans hsome)
          exact ⟨x, by rw [show _ = d₁.buffers from rfl, hb₁]; exact hx, hxs⟩
        · show dev.events = _
          rw [hdev]
      split
      · exact .ok ⟨hkeeps, hn₁⟩
      · next hret =>
          refine (ih hkeeps.held hkeeps.mounted ?_ fun j hj => ?_).mono fun r hr =>
            ⟨⟨hr.1.held, hr.1.mounted, hkeeps.same.trans hr.1.same⟩, hr.2.trans hn₁⟩
          · show i + 1 + n ≤ d₁.nbufs
            omega
          · have hj : j ∈ d₁.file.queued := hj
            rw [hgiven hret, List.mem_append, List.mem_singleton, hindex] at hj
            rcases hj with hj | hj
            · exact Nat.lt_succ_of_lt (hlt j hj)
            · omega

/-- **The program between two steps of its loop.** -/
structure App.Sound (fds : List Nat) (app : App) : Prop extends App.Held fds app where
  mounted : app.Mounted
  watched : app.dev.events.events = app.watches

/-- What a callback leaves as it was. -/
structure App.Goes (fds : List Nat) (app app' : App) : Prop where
  sound : app'.Sound fds
  phase : app'.phase = app.phase
  done : app'.dev.events.done = app.dev.events.done

/-- Taking the write watch off, if there is one. -/
theorem App.Sound.unwatch (h : app.Sound fds) :
    (eventsUnwatchFd app.dev.events app.dev.vdev.fd .write).events =
      [⟨app.dev.vdev.fd, .exception, .uvcGadgetProcess, .gadget 0⟩] := by
  have hw := h.watched
  unfold App.watches at hw
  unfold eventsUnwatchFd
  by_cases h0 : app.dev.vdev.nbufs = 0
  · rw [if_pos h0] at hw
    rw [hw, if_neg (by simp [EventFd.hits])]
    exact hw
  · rw [if_neg h0] at hw
    rw [hw, if_pos (by simp [EventFd.hits])]
    simp [removeLastHit, EventFd.hits]

/-- The event loop's `done` and the other fields, after a watch. -/
theorem App.watch_eq (hob : Obeys env) (type : EventType) (callback : Callback) :
    app.watch env type callback = { app with
      kernel := app.kernel.ask
      dev := { app.dev with
        events := eventsWatchFd app.dev.events app.dev.vdev.fd type callback (.gadget 0) } } := by
  unfold App.watch
  rw [if_pos (hob.malloc _)]

/-- The write watch of a stream that has started. -/
theorem App.Held.watched (hob : Obeys env) (h : app.Held fds) (hm : app.Mounted) (hn : app.dev.vdev.nbufs ≠ 0)
    (hev : app.dev.events.events = [⟨app.dev.vdev.fd, .exception, .uvcGadgetProcess, .gadget 0⟩]) :
    app.Goes fds (app.watch env .write .uvcVideoProcess) := by
  rw [App.watch_eq hob]
  refine ⟨⟨⟨h.opened, h.offered, h.imaged, h.racked, h.whole, h.sized, h.room⟩, hm, ?_⟩, rfl, eventsWatchFd_done⟩
  unfold App.watches
  rw [if_neg hn, eventsWatchFd_events, hev]
  rfl

theorem uvcVideoStream_stops (hob : Obeys env) (h : app.Sound fds) :
    Ends (fun r => app.Goes fds r.2) F (uvcVideoStream env app false) := by
  have hun := h.unwatch
  have hdone : (eventsUnwatchFd app.dev.events app.dev.vdev.fd .write).done = app.dev.events.done :=
    eventsUnwatchFd_done
  unfold uvcVideoStream
  rw [if_pos (show (!false) = true from rfl)]
  dsimp only
  generalize hev : eventsUnwatchFd app.dev.events app.dev.vdev.fd .write = ev at hun hdone
  generalize hoff : v4l2StreamOff env app.kernel app.dev.vdev = res
  obtain ⟨ret, k₁, d₁⟩ := res
  have hst := v4l2StreamOff_steady h.racked.plain hoff
  have hw : d₁.Whole := by
    have hwhole : (v4l2StreamOff env app.kernel app.dev.vdev).2.2.Whole := v4l2StreamOff_whole app.kernel h.whole
    rw [hoff] at hwhole
    exact hwhole
  obtain ⟨hheld, hsame⟩ := h.putVdev hob.long hst.toUses (v4l2StreamOff_tends hoff) hw (hst.roomy h.room)
  refine (v4l2FreeBuffers_clears hob hheld).bind fun r hr => ?_
  obtain ⟨ret₂, k₂, d₂⟩ := r
  obtain ⟨hheld₂, hsame₂, h0⟩ := hr
  refine .ok ⟨⟨⟨hheld₂.opened, hheld₂.offered, hheld₂.imaged, hheld₂.racked, hheld₂.whole, hheld₂.sized,
    hheld₂.room⟩, App.mounted_idle h0, ?_⟩, rfl, hdone⟩
  show ev.events = _ :: if d₂.nbufs = 0 then [] else _
  rw [hun, if_pos h0]
  exact congrArg (fun fd => [EventFd.mk fd .exception .uvcGadgetProcess (.gadget 0)])
    (hsame₂.fd.trans hsame.fd).symm

theorem uvcVideoStream_starts (hob : Obeys env) (h : app.Sound fds)
    (hroom : app.dev.vdev.nbufs = 0 →
      app.dev.frameSize ≤ (app.kernel.inforce app.dev.vdev.file.dev).frameBytes) :
    Ends (fun r => app.Goes fds r.2) F (uvcVideoStream env app true) := by
  unfold uvcVideoStream
  rw [if_neg (by simp)]
  have hback : app.dev.vdev.Funded env app.kernel.tick 4 := Device.funded_of_malloc hob.malloc _ _ _
  refine (v4l2AllocBuffers_ends app.kernel h.whole _ _ fun hno => absurd hback hno).result.bind fun r hr => ?_
  obtain ⟨ret₁, k₁, d₁⟩ := r
  obtain ⟨hw₁, halloc⟩ := hr
  have hw₁ : d₁.Whole := hw₁
  obtain ⟨ht₁, hbusy, hnew⟩ := v4l2AllocBuffers_tends (by decide) halloc
  obtain ⟨hu₁, -, hasked⟩ := v4l2AllocBuffers_uses h.racked.plain (by decide) halloc
  dsimp only
  split
  · next hret =>
      -- there are buffers already, or there are none now either
      rcases hbusy hret with rfl | h0
      · obtain ⟨hheld, hsame⟩ := h.putVdev hob.long hu₁ ht₁ hw₁ h.room
        exact .ok ⟨⟨hheld, h.mounted, h.watched⟩, rfl, rfl⟩
      · obtain ⟨hheld, hsame⟩ := h.putVdev hob.long hu₁ ht₁ hw₁ fun hn => absurd h0.2 hn
        refine .ok ⟨⟨hheld, App.mounted_idle h0.2, ?_⟩, rfl, rfl⟩
        have hwatched := h.watched
        unfold App.watches at hwatched ⊢
        rw [if_pos h0.1] at hwatched
        rw [if_pos (show (app.putVdev k₁ d₁).dev.vdev.nbufs = 0 from h0.2), hsame.fd]
        exact hwatched
  · next hret =>
      obtain ⟨h0, hq₁, hgranted⟩ := hnew hret
      have hn₁ : d₁.nbufs ≠ 0 := fun hn => hob.grants _ _ (hn ▸ hgranted)
      obtain ⟨hheld₁, hsame₁⟩ := h.putVdev hob.long hu₁ ht₁ hw₁ (hasked.roomy (hroom h0) h.room)
      have hwatched : app.dev.events.events = [⟨app.dev.vdev.fd, .exception, .uvcGadgetProcess, .gadget 0⟩] := by
        have hwatched := h.watched
        unfold App.watches at hwatched
        rw [if_pos h0] at hwatched
        exact hwatched
      -- a start that fails leaves the device as it was
      have herror : ∀ {app₁ : App} (ret : Int), app₁.Held fds → app.Same app₁ →
          Ends (fun r => app.Goes fds r.2) F (streamError env ret app₁) := fun {app₁} ret hheld hsame =>
        (streamError_ends hob hheld ret).mono fun r hr => by
          obtain ⟨hheld', hsame', hidle⟩ := hr
          have hall := hsame.trans hsame'
          refine ⟨⟨hheld', App.mounted_idle hidle, ?_⟩, hall.phase, congrArg (·.done) hall.events⟩
          unfold App.watches
          rw [if_pos hidle, hall.events, hall.fd]
          exact hwatched
      refine (v4l2MmapBuffers_ends env k₁ hw₁).result.bind fun r hr => ?_
      obtain ⟨ret₂, k₂, d₂⟩ := r
      obtain ⟨hw₂, hmap⟩ := hr
      have hmt : d₁.memtype = .mmap := by
        obtain ⟨-, hall⟩ := v4l2AllocBuffers_allocates (by decide) halloc
        cases hall with
        | busy => exact absurd (Errno.neg_lt _) hret
        | refused => exact absurd (Errno.neg_lt _) hret
        | surplus => exact absurd (Errno.neg_lt _) hret
        | nomem => exact absurd (Errno.neg_lt _) hret
        | ok => rfl
      obtain ⟨hn₂, hmaps⟩ := mmapBuffers_mounts hmt hmap
      have hst₂ := v4l2MmapBuffers_steady hheld₁.racked.plain hmap
      have ht₂ : Tends d₁ d₂ ∧ d₂.file.queued = [] := by
        unfold v4l2MmapBuffers at hmap
        rw [if_neg (not_not.mpr hmt)] at hmap
        exact mmapBuffers_tends hq₁ hmap
      obtain ⟨hheld₂, hsame₂⟩ := hheld₁.putVdev hob.long hst₂.toUses ht₂.1 hw₂ (hst₂.roomy hheld₁.room)
      have hsame := hsame₁.trans hsame₂
      dsimp only
      split
      · exact herror ret₂ hheld₂ hsame
      · next hret₂ =>
          have hmounted₂ : ((app.putVdev k₁ d₁).putVdev k₂ d₂).Mounted := fun j hj =>
            hmaps hret₂ j (hn₂ ▸ hj)
          refine (fillAndQueue_ends hob hheld₂ hmounted₂ (Nat.le_of_eq (Nat.zero_add _)) fun j hj => ?_).bind
            fun r hr => ?_
          · have hj : j ∈ d₂.file.queued := hj
            rw [ht₂.2] at hj
            cases hj
          · obtain ⟨ret₃, app₃⟩ := r
            obtain ⟨hkeeps, hn₃⟩ := hr
            have hn₃ : app₃.dev.vdev.nbufs = d₂.nbufs := hn₃
            have hsame₃ := hsame.trans hkeeps.same
            have hheld₃ := hkeeps.held
            dsimp only at hheld₃ hsame₃ ⊢
            split
            · exact herror ret₃ hheld₃ hsame₃
            · generalize hon : v4l2StreamOn env app₃.kernel app₃.dev.vdev = res
              obtain ⟨ret₄, k₄, d₄⟩ := res
              have hst₄ := v4l2StreamOn_steady hheld₃.racked.plain hon
              obtain ⟨hb₄, hn₄, -⟩ := v4l2StreamOn_pool hon
              obtain ⟨hheld₄, hsame₄⟩ := hheld₃.putVdev hob.long hst₄.toUses (v4l2StreamOn_tends hon)
                (hheld₃.whole.of_eq hn₄ (by rw [hb₄])) (hst₄.roomy hheld₃.room)
              have hall := hsame₃.trans hsame₄
              have hmounted₄ : (app₃.putVdev k₄ d₄).Mounted := fun j hj => by
                obtain ⟨x, hx, hsome⟩ := hkeeps.mounted j (hn₄ ▸ hj)
                exact ⟨x, (congrArg (·[j]?) hb₄).trans hx, hsome⟩
              have hgoes := hheld₄.watched hob hmounted₄ (by
                show d₄.nbufs ≠ 0
                rw [hn₄, hn₃, hn₂]
                exact hn₁) (by rw [hall.events, hall.fd]; exact hwatched)
              exact .ok ⟨hgoes.sound, hgoes.phase.trans hall.phase,
                hgoes.done.trans (congrArg (·.done) hall.events)⟩

/-! ## The video callback -/

/-- A buffer is dequeued from a device in order, if any is ready: mapped, and with room for a frame. -/
theorem v4l2DequeueBuffer_ends (hob : Obeys env) (h : app.Sound fds) :
    Ends (fun r => v4l2DequeueBuffer env app.kernel app.dev.vdev = .ok r ∧ r.2.2.nbufs = app.dev.vdev.nbufs ∧
        (∀ j, app.dev.vdev.Mapped j → r.2.2.Mapped j) ∧
        ∀ b, r.1 = .ok b → b.mem.isSome = true ∧ app.dev.frameSize ≤ b.size) F
      (v4l2DequeueBuffer env app.kernel app.dev.vdev) := by
  cases hdq : env.dqbuf app.kernel.tick app.dev.vdev.file with
  | error e =>
      have heq : v4l2DequeueBuffer env app.kernel app.dev.vdev =
          .ok (.error e, app.kernel.call (.ioctl app.dev.vdev.fd), app.dev.vdev) := by
        unfold v4l2DequeueBuffer
        rw [hdq]
      rw [heq]
      exact .ok ⟨rfl, rfl, fun _ => id, fun b hb => by cases hb⟩
  | ok f =>
      have hmem := hob.owned _ _ _ hdq
      obtain ⟨x, hx, hsome⟩ := h.mounted f.index (h.racked.lt _ hmem)
      have hleft : (if app.dev.vdev.type = .videoCapture then x.mem.map fun _ => f.frame else x.mem).isSome = true := by
        split
        · rw [Option.isSome_map]; exact hsome
        · exact hsome
      have hxm := List.mem_of_getElem? hx
      refine Ends.mono (P := fun r => v4l2DequeueBuffer env app.kernel app.dev.vdev = .ok r ∧ r = (.ok { x with
          mem := if app.dev.vdev.type = .videoCapture then x.mem.map fun _ => f.frame else x.mem
          bytesused := f.bytesused }, app.kernel.call (.ioctl app.dev.vdev.fd), { app.dev.vdev with
          buffers := app.dev.vdev.buffers.set f.index { x with
            mem := if app.dev.vdev.type = .videoCapture then x.mem.map fun _ => f.frame else x.mem }
          file := { app.dev.vdev.file with queued := app.dev.vdev.file.queued.erase f.index } })) ?_ ?_
      · unfold v4l2DequeueBuffer
        rw [hdq]
        dsimp only
        rw [hx]
        exact .ok ⟨rfl, rfl⟩
      · rintro r ⟨hr, rfl⟩
        refine ⟨hr, rfl, fun j hj => hj.set hleft, fun b hb => ?_⟩
        cases hb
        have hroom : app.dev.frameSize ≤ x.size := h.room.le_size h.sized hxm hsome
        exact ⟨hleft, hroom⟩

/-- Buffers that are mapped are there. -/
theorem App.Mounted.whole (h : app.Mounted) : app.dev.vdev.Whole := by
  unfold Device.Whole
  by_contra hlt
  obtain ⟨x, hx, -⟩ := h app.dev.vdev.buffers.length (by omega)
  rw [List.getElem?_eq_none (Nat.le_refl _)] at hx
  cases hx

theorem Device.Mapped.writeMem {i j : Nat} {mem : Option Bytes} (hj : d.Mapped j) (hm : mem.isSome = true) :
    (d.writeMem i mem).Mapped j := by
  obtain ⟨x, hx, hsome⟩ := hj
  obtain ⟨m, hm⟩ := Option.isSome_iff_exists.mp hm
  obtain ⟨y, hy⟩ := Option.isSome_iff_exists.mp hsome
  by_cases hij : i = j
  · subst hij
    refine ⟨_, (List.getElem?_modify_eq _ _ _).trans (by rw [hx]; rfl), ?_⟩
    dsimp only
    rw [hy, hm]
    rfl
  · exact ⟨x, (List.getElem?_modify_ne _ _ hij).trans hx, hsome⟩

theorem uvcVideoProcess_ends (hob : Obeys env) (h : app.Sound fds) :
    Ends (fun app' => app.Goes fds app') F (uvcVideoProcess env app) := by
  unfold uvcVideoProcess
  refine (v4l2DequeueBuffer_ends hob h).bind fun r hr => ?_
  obtain ⟨ret, k₁, d₁⟩ := r
  obtain ⟨hdq, hn₁, hmap₁, hbuf⟩ := hr
  obtain ⟨ht₁, hgot⟩ := v4l2DequeueBuffer_tends hob.owned h.racked hdq
  obtain ⟨hst₁, -⟩ := v4l2DequeueBuffer_steady h.racked.plain hdq
  have hmounted₁ : (app.putVdev k₁ d₁).Mounted := fun j hj => hmap₁ j (h.mounted j (hn₁ ▸ hj))
  obtain ⟨hheld₁, hsame₁⟩ := h.putVdev hob.long hst₁.toUses ht₁ hmounted₁.whole (hst₁.roomy h.room)
  -- the buffers in use are as many as before
  have hwatched : ∀ {app' : App}, app'.dev.vdev.nbufs = app.dev.vdev.nbufs → app.Same app' →
      app'.dev.events.events = app'.watches := fun {app'} hn hsame => by
    unfold App.watches
    rw [hn, hsame.events, hsame.fd]
    exact h.watched
  cases ret with
  | error e =>
      exact .ok ⟨⟨hheld₁, hmounted₁, hwatched hn₁ hsame₁⟩, rfl, rfl⟩
  | ok buf =>
      obtain ⟨hsome, hsize⟩ := hbuf buf rfl
      obtain ⟨⟨dev, buf'⟩, hfill⟩ := uvcVideoFillBuffer_returns h.offered h.imaged hsome hsize
      have hf := uvcVideoFillBuffer_fills h.offered hfill
      dsimp only
      rw [hfill, Machine.ok_bind]
      dsimp only
      generalize hq : v4l2QueueBuffer env k₁ (d₁.writeMem buf'.index buf'.mem) buf' = res
      obtain ⟨ret₂, k₂, d₂⟩ := res
      have hh : d₁.Handled (d₁.writeMem buf'.index buf'.mem) := .writeMem _ _ _
      have hracked₁ : (d₁.writeMem buf'.index buf'.mem).Racked :=
        ⟨hh.plain hheld₁.racked.plain, hheld₁.racked.indexed.handled hh, hheld₁.racked.nodup, hheld₁.racked.lt⟩
      obtain ⟨hracked₂, -, -⟩ := v4l2QueueBuffer_gives hracked₁ (P := fun _ => True) (fun _ _ _ _ _ _ => trivial)
        (hf.index ▸ hgot buf rfl) (fun _ _ _ _ => trivial) hq
      have hst₂ := (hst₁.trans (Device.writeMem_steady hheld₁.racked.plain buf'.index buf'.mem)).trans
        (v4l2QueueBuffer_steady hracked₁.plain hq)
      have hwhole₂ := v4l2QueueBuffer_whole env k₁ (d₁.writeMem buf'.index buf'.mem) buf'
      rw [hq] at hwhole₂
      obtain ⟨hn₂, hb₂⟩ := hwhole₂
      have hn₂ : d₂.nbufs = app.dev.vdev.nbufs := hn₂.trans hn₁
      have hdev := hf.device
      have hmounted₂ : App.Mounted { app with
          kernel := k₂, dev := { dev with vdev := d₂ }
          filled := app.filled ++ [dev.picture d₁.file.queued buf'] } := fun j hj => by
        have hj : j < d₂.nbufs := hj
        obtain ⟨x, hx, hxs⟩ := Device.Mapped.writeMem (i := buf'.index) (hmap₁ j (h.mounted j (hn₂ ▸ hj)))
          (hf.mapped.trans hsome)
        exact ⟨x, (congrArg (·[j]?) hb₂).trans hx, hxs⟩
      have hsame : app.Same { app with
          kernel := k₂, dev := { dev with vdev := d₂ }
          filled := app.filled ++ [dev.picture d₁.file.queued buf'] } :=
        ⟨by rw [hdev], hst₂.same.fd, rfl⟩
      refine .ok ⟨⟨⟨?_, ?_, ?_, hracked₂, hmounted₂.whole, hst₂.sized hob.long h.sized, ?_⟩, hmounted₂,
        hwatched hn₂ hsame⟩, rfl, congrArg (·.done) hsame.events⟩
      · show k₂.opened = d₂.fd :: fds
        rw [hst₂.keeps.opened, hst₂.same.fd]
        exact h.opened
      · rw [hdev]; exact h.offered
      · rw [hdev]; exact h.imaged
      · rw [hdev]; exact hst₂.roomy h.room

/-! ## The event callback -/

/-- **The formats fit** the event that the driver delivers next: a stream that starts finds a format in force as long
    as the one committed, and a commit finds the buffers there are long enough and the size it asks for in range. -/
def App.fits (env : Env) (app : App) : Bool :=
  match env.dqevent app.kernel.tick app.dev.vdev.file with
  | .ok .streamon => decide (app.dev.vdev.nbufs ≠ 0) ||
      decide (app.dev.frameSize ≤ (app.kernel.inforce app.dev.vdev.file.dev).frameBytes)
  | .ok (.data data) => decide (app.dev.control ≠ VS_COMMIT_CONTROL) ||
      match uvcVideoSetFormat env { app with
          kernel := app.kernel.call (.ioctl app.dev.vdev.fd), dev := app.dev.committed data } with
      | .error _ => false
      | .ok (_, app') =>
        if app.dev.vdev.nbufs = 0 then !app.dev.bulk ||
          decide ((app.dev.committed data).frameSize ≤ (app'.kernel.inforce app.dev.vdev.file.dev).frameBytes)
        else decide ((app.dev.committed data).frameSize ≤ app.dev.vdev.file.reqfmt.frameBytes)
  | _ => true

/-- Changes that do not concern the device. -/
theorem App.Sound.of_eq (h : app.Sound fds) (hk : app'.kernel.opened = app.kernel.opened)
    (hv : app'.dev.vdev = app.dev.vdev) (hoff : app'.dev.Offered) (himg : app'.dev.Imaged)
    (hroom : app'.dev.vdev.Roomy app'.dev.frameSize) (hev : app'.dev.events.events = app.dev.events.events) :
    app'.Sound fds := by
  refine ⟨⟨?_, hoff, himg, ?_, ?_, ?_, hroom⟩, ?_, ?_⟩
  · rw [hk, hv]; exact h.opened
  · rw [hv]; exact h.racked
  · rw [hv]; exact h.whole
  · rw [hv]; exact h.sized
  · unfold App.Mounted
    rw [hv]; exact h.mounted
  · unfold App.watches
    rw [hev, hv]; exact h.watched

/-- Setting a format touches no buffer. -/
theorem uvcVideoSetFormat_goes {ret : Int} (hob : Obeys env) (h : app.Sound fds)
    (h' : uvcVideoSetFormat env app = .ok (ret, app')) :
    app.Goes fds app' ∧ app'.dev.vdev.nbufs = app.dev.vdev.nbufs ∧ app'.dev.frameSize = app.dev.frameSize ∧
      app'.dev.vdev.file = app.dev.vdev.file := by
  obtain ⟨k, fmt, fmt', vdev, hset, rfl⟩ := uvcVideoSetFormat_spec h'
  obtain ⟨hu, hfile⟩ := v4l2SetFormat_uses h.racked.plain hset
  obtain ⟨-, hd, -⟩ := v4l2SetFormat_spec hset
  have hn : vdev.nbufs = app.dev.vdev.nbufs := by rw [hd]
  have hb : vdev.buffers = app.dev.vdev.buffers := by rw [hd]
  have hmounted : (app.putVdev k vdev).Mounted := fun j hj => by
    obtain ⟨x, hx, hsome⟩ := h.mounted j (hn ▸ hj)
    exact ⟨x, (congrArg (·[j]?) hb).trans hx, hsome⟩
  obtain ⟨hheld, hsame⟩ := h.putVdev hob.long hu (v4l2SetFormat_tends hset) (h.whole.of_eq hn (by rw [hb])) (by
    unfold Device.Roomy
    rw [hn, hfile]
    exact h.room)
  refine ⟨⟨⟨hheld, hmounted, ?_⟩, rfl, rfl⟩, hn, rfl, hfile⟩
  unfold App.watches
  rw [hsame.events, hsame.fd, show (app.putVdev k vdev).dev.vdev.nbufs = app.dev.vdev.nbufs from hn]
  exact h.watched

theorem sendResponse_goes (h : app.Sound fds) (resp : RequestData) : app.Goes fds (sendResponse app resp) :=
  ⟨⟨⟨h.opened, h.offered, h.imaged, ⟨h.racked.plain, h.racked.indexed, h.racked.nodup, h.racked.lt⟩, h.whole,
    ⟨h.sized.mapped, h.sized.idle⟩, h.room⟩, h.mounted, h.watched⟩, rfl, rfl⟩

theorem uvcEventsProcessData_ends (hob : Obeys env) (h : app.Sound fds) {data : RequestData}
    (hcommits : app.dev.control = VS_COMMIT_CONTROL → ∃ ret app',
      uvcVideoSetFormat env { app with dev := app.dev.committed data } = .ok (ret, app') ∧
        app.dev.vdev.Roomy (app.dev.committed data).frameSize ∧
        (app.dev.bulk = true → app.dev.vdev.nbufs = 0 →
          (app.dev.committed data).frameSize ≤ (app'.kernel.inforce app.dev.vdev.file.dev).frameBytes)) :
    Ends (fun app' => app.Goes fds app') F (uvcEventsProcessData env app data) := by
  by_cases hc : app.dev.control = VS_COMMIT_CONTROL
  · obtain ⟨ret, app₁, hset, hbusy, hidle⟩ := hcommits hc
    have hcommit : App.Sound fds { app with dev := app.dev.committed data } :=
      h.of_eq rfl rfl (app.dev.committed_offered data) h.imaged hbusy rfl
    obtain ⟨hgoes, hn, hsize, hfile⟩ := uvcVideoSetFormat_goes hob hcommit hset
    rw [uvcEventsProcessData_commit hc, hset, ok_bind]
    split
    · next hbulk =>
        refine (uvcVideoStream_starts hob hgoes.sound fun h0 => ?_).bind fun r hr => .ok ?_
        · rw [hsize, hfile]
          exact hidle hbulk (hn.symm.trans h0)
        · exact ⟨hr.sound, hr.phase.trans hgoes.phase, hr.done.trans hgoes.done⟩
    · exact .ok ⟨hgoes.sound, hgoes.phase, hgoes.done⟩
  · unfold uvcEventsProcessData
    dsimp only
    rw [if_neg hc]
    split
    · exact .ok ⟨h.of_eq rfl rfl h.offered h.imaged h.room rfl, rfl, rfl⟩
    · exact .ok ⟨h, rfl, rfl⟩

theorem uvcEventsProcess_ends (hob : Obeys env) (h : app.Sound fds) (hfits : app.fits env = true) :
    Ends (fun app' => app.Goes fds app') F (uvcEventsProcess env app) := by
  have hpoll : App.Sound fds { app with kernel := app.kernel.call (.ioctl app.dev.vdev.fd) } :=
    h.of_eq rfl rfl h.offered h.imaged h.room rfl
  have hgoes : ∀ {app' : App}, App.Goes fds { app with kernel := app.kernel.call (.ioctl app.dev.vdev.fd) } app' →
      app.Goes fds app' := fun hg => ⟨hg.sound, hg.phase, hg.done⟩
  unfold App.fits at hfits
  unfold uvcEventsProcess
  dsimp only
  split
  · exact .ok (hgoes ⟨hpoll, rfl, rfl⟩)
  · exact .ok (hgoes ⟨hpoll, rfl, rfl⟩)
  · exact .ok (hgoes ⟨hpoll, rfl, rfl⟩)
  · next req _ =>
      obtain ⟨c, hc⟩ := uvcEventsProcessSetup_device app.dev req .stall
      rw [hc]
      have hset : App.Sound fds { app with
          kernel := app.kernel.call (.ioctl app.dev.vdev.fd), dev := { app.dev with control := c } } :=
        hpoll.of_eq rfl rfl h.offered h.imaged h.room rfl
      obtain ⟨hs, hp, hd⟩ := sendResponse_goes hset (uvcEventsProcessSetup app.dev req .stall).2
      exact .ok ⟨hs, hp, hd⟩
  · next data hev =>
      rw [hev] at hfits
      dsimp only at hfits
      refine (uvcEventsProcessData_ends hob hpoll fun hc => ?_).mono fun _ hr => hgoes hr
      have hc : app.dev.control = VS_COMMIT_CONTROL := hc
      rw [decide_eq_false (not_not.mpr hc), Bool.false_or] at hfits
      split at hfits
      · cases hfits
      · next ret app₁ hset =>
          refine ⟨ret, app₁, hset, fun hn => ?_, fun hb h0 => ?_⟩
          · have hn : app.dev.vdev.nbufs ≠ 0 := hn
            simpa [hn] using hfits
          · have h0 : app.dev.vdev.nbufs = 0 := h0
            have hb : app.dev.bulk = true := hb
            simpa [h0, hb] using hfits
  · next hev =>
      rw [hev] at hfits
      refine (uvcVideoStream_starts hob hpoll fun h0 => ?_).bind fun r hr => .ok (hgoes hr)
      have h0 : app.dev.vdev.nbufs = 0 := h0
      have hfits : app.dev.frameSize ≤ (app.kernel.inforce app.dev.vdev.file.dev).frameBytes := by
        simpa [h0] using hfits
      exact hfits
  · exact (uvcVideoStream_stops hob hpoll).bind fun r hr => .ok (hgoes hr)
  · exact .ok (hgoes (sendResponse_goes hpoll _))

/-! ## The loop -/

/-- The callbacks that are ever registered. -/
def Ours (t : EventIter) : Prop := t.callback = .uvcGadgetProcess ∨ t.callback = .uvcVideoProcess

/-- **The program at any moment**: before its loop nothing is watched, and after it nothing is left. -/
def App.InOrder (fds : List Nat) (app : App) : Prop :=
  match app.phase with
  | .init => app.Held fds ∧ app.dev.vdev.nbufs = 0 ∧ app.dev.events.events = []
  | .dispatch iter => app.Sound fds ∧ ∀ t ∈ iter, Ours t
  | .finished => app.kernel.opened = fds ∧ app.dev.events.events = []
  | _ => app.Sound fds

/-- The next callback is `uvc_events_process`. -/
def App.processing (app : App) : Bool :=
  match app.phase with
  | .dispatch (⟨_, .uvcGadgetProcess, _⟩ :: _) => true
  | _ => false

/-- **The side condition of a step**: the formats fit an event that is processed, and no signal comes once the device
    is closed. -/
def Fits (env : Env) : Action → App → Prop
  | .signal, app => app.phase ≠ .finished
  | .next, app => app.processing = true → app.fits env = true
  | _, _ => True

instance (env : Env) : ∀ (a : Action) (app : App), Decidable (Fits env a app)
  | .signal, app => inferInstanceAs (Decidable (app.phase ≠ .finished))
  | .next, app => inferInstanceAs (Decidable (app.processing = true → app.fits env = true))
  | .select _, _ | .interrupted, _ | .selectFailed, _ => .isTrue trivial

theorem App.Sound.phase (h : app.Sound fds) (phase : Phase) : App.Sound fds { app with phase := phase } :=
  h.of_eq rfl rfl h.offered h.imaged h.room rfl

theorem App.Sound.ours (h : app.Sound fds) {r : Ready} {t : EventIter} (ht : t ∈ snapshot app.dev.events r) :
    Ours t := by
  obtain ⟨e, he, rfl, -⟩ := mem_snapshot ht
  rw [h.watched] at he
  unfold App.watches at he
  split at he
  · rw [List.mem_singleton.mp he]
    exact .inl rfl
  · rcases List.mem_pair.mp he with rfl | rfl
    · exact .inl rfl
    · exact .inr rfl

/-- The first watch. -/
theorem App.Held.watch (hob : Obeys env) (h : app.Held fds) (h0 : app.dev.vdev.nbufs = 0)
    (hev : app.dev.events.events = []) : (app.watch env .exception .uvcGadgetProcess).Sound fds := by
  rw [App.watch_eq hob]
  refine ⟨⟨h.opened, h.offered, h.imaged, h.racked, h.whole, h.sized, h.room⟩, App.mounted_idle h0, ?_⟩
  unfold App.watches
  rw [if_pos h0, eventsWatchFd_events, hev]
  rfl

theorem invoke_ends (hob : Obeys env) (h : app.Sound fds) {t : EventIter} (ht : Ours t)
    (hfits : t.callback = .uvcGadgetProcess → app.fits env = true) :
    Ends (fun app' => app.Goes fds app') F (invoke env app t) := by
  unfold invoke
  rcases ht with hc | hc
  · rw [hc]
    exact uvcEventsProcess_ends hob h (hfits hc)
  · rw [hc]
    exact uvcVideoProcess_ends hob h

/-- The next callback of a round. -/
theorem invoke_goes (hob : Obeys env) {t : EventIter} {rest : List EventIter} (hp : app.phase = .dispatch (t :: rest))
    (h : app.Sound fds) (ht : Ours t) (hfits : app.processing = true → app.fits env = true) :
    ∃ app', invoke env app t = .ok app' ∧ app.Goes fds app' := by
  refine (invoke_ends hob h ht fun hc => hfits ?_).returns
  unfold App.processing
  obtain ⟨fd, callback, priv⟩ := t
  rw [hp, show callback = .uvcGadgetProcess from hc]

/-- `events_cleanup` and `uvc_close` -/
theorem App.Sound.close (h : app.Sound fds) : app.close.InOrder fds := by
  refine ⟨?_, rfl⟩
  show app.kernel.opened.erase app.dev.vdev.fd = fds
  rw [h.opened, List.erase_cons_head]

/-- **A step of the program's own.** -/
theorem next_inOrder (hob : Obeys env) (h : app.InOrder fds)
    (hfits : app.processing = true → app.fits env = true) :
    ∃ app', next env app = .ok app' ∧ app'.InOrder fds := by
  unfold App.InOrder at h
  unfold next
  cases hp : app.phase with
  | init =>
      rw [hp] at h
      obtain ⟨hheld, h0, hev⟩ := h
      have hs := hheld.watch hob h0 hev
      have hinit : App.Sound fds { app.watch env .exception .uvcGadgetProcess with
          dev := { (app.watch env .exception .uvcGadgetProcess).dev with
            events := { (app.watch env .exception .uvcGadgetProcess).dev.events with done := false } }
          phase := .test } := hs.of_eq rfl rfl hs.offered hs.imaged hs.room rfl
      exact ⟨_, rfl, hinit⟩
  | test =>
      rw [hp] at h
      refine ⟨_, rfl, ?_⟩
      split
      · exact h.phase .exit
      · exact h.phase .select
  | select =>
      refine ⟨app, rfl, ?_⟩
      unfold App.InOrder
      rw [hp] at h ⊢
      exact h
  | dispatch iter =>
      rw [hp] at h
      obtain ⟨hs, hiter⟩ := h
      cases iter with
      | nil => exact ⟨_, rfl, hs.phase .test⟩
      | cons t rest =>
          obtain ⟨app₁, hcall, hgoes⟩ := invoke_goes hob hp hs (hiter t (.head _)) hfits
          refine ⟨{ app₁ with phase := if app₁.dev.events.done then .test else .dispatch rest },
            by dsimp only; rw [hcall]; rfl, ?_⟩
          split
          · exact hgoes.sound.phase .test
          · exact ⟨hgoes.sound.phase _, fun u hu => hiter u (.tail _ hu)⟩
  | exit =>
      rw [hp] at h
      exact ⟨_, rfl, h.close⟩
  | finished =>
      refine ⟨app, rfl, ?_⟩
      unfold App.InOrder
      rw [hp] at h ⊢
      exact h

/-- `select` and signals leave the device alone. -/
theorem App.InOrder.stop (h : app.InOrder fds) : app.stop.InOrder fds := by
  unfold App.InOrder at h ⊢
  have hsound : app.Sound fds → app.stop.Sound fds := fun hs =>
    hs.of_eq rfl rfl hs.offered hs.imaged hs.room rfl
  rw [show app.stop.phase = app.phase from rfl]
  split at h
  · obtain ⟨hheld, h0, hev⟩ := h
    exact ⟨⟨hheld.opened, hheld.offered, hheld.imaged, hheld.racked, hheld.whole, hheld.sized, hheld.room⟩, h0, hev⟩
  · exact ⟨hsound h.1, h.2⟩
  · exact h
  · exact hsound h

theorem step_inOrder (hob : Obeys env) {a : Action} (h : app.InOrder fds) (hfits : Fits env a app) :
    ∃ app', step env a app = .ok app' ∧ app'.InOrder fds := by
  have hselect : app.phase = .select → app.Sound fds := fun hp => by
    unfold App.InOrder at h
    rw [hp] at h
    exact h
  cases a with
  | signal =>
      refine ⟨app.stop, ?_, h.stop⟩
      rw [step, if_neg hfits]
  | select r =>
      by_cases hp : app.phase = .select
      · refine ⟨_, by rw [step, hp], ?_⟩
        exact ⟨(hselect hp).phase _, fun t ht => (hselect hp).ours ht⟩
      · refine ⟨app, ?_, h⟩
        rw [step]
        split
        · next hsel => exact absurd hsel hp
        · rfl
  | interrupted =>
      refine ⟨_, rfl, ?_⟩
      split
      · next hp => exact (hselect hp).phase .test
      · exact h
  | selectFailed =>
      refine ⟨_, rfl, ?_⟩
      split
      · next hp => exact (hselect hp).phase .exit
      · exact h
  | next => exact next_inOrder hob h hfits

/-! ## Runs -/

/-- The image file is closed once it is read. -/
theorem imageLoad_opened (hob : Obeys env) (k : Kernel) (dev : UvcDevice) (image : Option Image) :
    (imageLoad env k dev image).1.opened = k.opened := by
  cases image with
  | none => rfl
  | some img =>
      rw [imageLoad]
      dsimp only
      rw [if_pos (hob.malloc _)]
      show (k.openFd.1 :: k.opened).erase k.openFd.1 = k.opened
      rw [List.erase_cons_head]

theorem boot_opened (hob : Obeys env) {opts : Options} (h : boot env k opts = some app) :
    app.kernel.opened = app.dev.vdev.fd :: k.opened := by
  unfold boot at h
  split at h
  · cases h
  · next dev k₁ hopen =>
      unfold uvcOpen at hopen
      rw [hob.malloc, if_neg (by simp)] at hopen
      split at hopen
      · cases hopen
      · next vdev k₂ hdev =>
          cases hopen
          obtain ⟨hno, -⟩ | ⟨d, hd, hop⟩ := v4l2Open_spec hdev
          · cases hno
          · cases hd
            have himage := imageLoad_opened hob k₁ (.zero vdev) opts.image
            generalize hload : imageLoad env k₁ (.zero vdev) opts.image = loaded at h himage
            obtain ⟨k₃, dev₃⟩ := loaded
            obtain ⟨hdev₃, -⟩ := imageLoad_device rfl hload
            have hinit := uvcEventsInit_device k₃ { dev₃ with bulk := opts.bulk }
            cases h
            show k₃.opened = (uvcEventsInit k₃ { dev₃ with bulk := opts.bulk }).2.vdev.fd :: k.opened
            rw [hinit, hdev₃]
            exact himage.trans hop.opened

theorem boot_inOrder (hob : Obeys env) {opts : Options} (h : boot env k opts = some app) : app.InOrder k.opened := by
  have hb := boot_boots h
  obtain ⟨hn, hbuf, -⟩ := hb.vdev
  unfold App.InOrder
  rw [hb.phase]
  refine ⟨⟨boot_opened hob h, .inl hb.format, hb.imaged, hb.racked, ?_, ⟨fun b hbm => ?_, fun _ b hbm => ?_⟩,
    fun h0 => absurd hn h0⟩, hn, by rw [hb.events]; rfl⟩
  · unfold Device.Whole
    omega
  · rw [hbuf] at hbm
    cases hbm
  · rw [hbuf] at hbm
    cases hbm

/-- **The test application does not fault.** With drivers that obey and formats that fit, every run goes through. At
    every moment of it the watches are those of the device's state, all buffers in use are mapped and long enough for a
    frame of the format committed, and only the device is open beyond what was open before; nothing is at the end. -/
theorem test_app_sound (hob : Obeys env) {opts : Options} {as : List Action} (hboot : boot env k opts = some app)
    (hfits : Along (step env) (Fits env) as app) : ∃ app', run env as app = .ok app' ∧ app'.InOrder k.opened :=
  run_progress (fun _ _ h hfits => step_inOrder hob h hfits) (boot_inOrder hob hboot) hfits

theorem testBench_obeys : Obeys testBench where
  malloc _ := rfl
  long := obliging_longBuffers _ _
  owned := obliging_handsOutOwned _ _
  releases := obliging_releases _ _
  grants _ _ := by
    intro h
    cases h

/-- A stream starts, a buffer is filled again, and a signal ends the program. -/
def testRun : List Action :=
  .next :: testTurn ++ testTurn ++ testTurn ++ testTurn ++ [.next, .signal, .select (readyFds [3]), .next, .next, .next]

theorem test_app_sound_signal :
    ∃ app app', testBoot = some app ∧ run testBench testRun app = .ok app' ∧ app'.phase = .finished ∧
      app'.filled.length = 5 ∧ app'.InOrder stdFds := by
  obtain ⟨app, hboot, hfits, hend⟩ : ∃ app, testBoot = some app ∧ Along (step testBench) (Fits testBench) testRun app ∧
      ∃ app', run testBench testRun app = .ok app' ∧ app'.phase = .finished ∧ app'.filled.length = 5 := by
    decide +kernel
  obtain ⟨app', hrun, hphase, hfilled⟩ := hend
  obtain ⟨app'', hrun', horder⟩ := test_app_sound testBench_obeys hboot hfits
  rw [hrun] at hrun'
  cases hrun'
  exact ⟨app, app', hboot, hrun, hphase, hfilled, horder⟩

end TestApp

end Uvcd
