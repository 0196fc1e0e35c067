import Uvcd.Refinement.Books

/-!
# `Refinement.Pool` — the buffers a driver owns

A stream starts with all its buffers queued. The video callbacks take one from the driver and give it back under
its own index: the driver then owns all of them again, each once, exactly when it has taken it back
(`uvcVideoProcess_pool`, `captureProcess_pool`).
-/

namespace Uvcd

open Machine

variable {env : Env} {k k' : Kernel} {d d' : Device} {io io' : Io} {g g' : Gadget} {c c' : Capture}

/-! ## Whose a buffer is -/

/-- The driver owns each buffer of the device, once. -/
def Device.Owned (d : Device) : Prop := d.file.queued.Perm (List.range d.nbufs)

instance (d : Device) : Decidable d.Owned := by unfold Device.Owned; infer_instance

/-- A driver hands out buffers that it owns. -/
def Env.HandsOutOwned (env : Env) : Prop := ∀ t file f, env.dqbuf t file = .ok f → f.index ∈ file.queued

/-- The buffer that the driver hands out at call `t`, if any, it takes back at call `t'`. -/
def Device.TakesBack (env : Env) (d : Device) (t t' : Nat) : Prop :=
  ∀ f, env.dqbuf t d.file = .ok f →
    env.qbuf t' { d.file with queued := d.file.queued.erase f.index } f.index = none

instance (env : Env) (d : Device) (t t' : Nat) : Decidable (d.TakesBack env t t') :=
  match h : env.dqbuf t d.file with
  | .error _ => .isTrue fun f hf => by rw [h] at hf; cases hf
  | .ok f => decidable_of_iff
      (env.qbuf t' { d.file with queued := d.file.queued.erase f.index } f.index = none)
      ⟨fun hq f' hf => by rw [h] at hf; cases hf; exact hq, fun hall => hall f h⟩

/-- A buffer given back is owned again, one that is not is lost. -/
theorem Device.Owned.given {i : Nat} (how : d.Owned) (hi : i ∈ d.file.queued) (hn : d'.nbufs = d.nbufs) :
    (d'.file.queued = d.file.queued.erase i ++ [i] → d'.Owned) ∧
      (d'.file.queued = d.file.queued.erase i → ¬d'.Owned) := by
  unfold Owned at how ⊢
  rw [hn]
  refine ⟨fun hq => ?_, fun hq hperm => ?_⟩
  · rw [hq]
    have hback : (d.file.queued.erase i ++ [i]).Perm d.file.queued :=
      (List.perm_append_singleton i _).trans (List.perm_cons_erase hi).symm
    exact hback.trans how
  · -- one is missing
    have hlen := hperm.length_eq.trans how.length_eq.symm
    rw [hq, List.length_erase_of_mem hi] at hlen
    have hpos := List.length_pos_of_mem hi
    omega

/-! ## Taking one and giving it back -/

/-- **What `v4l2_dequeue_buffer` takes**: a buffer of the driver's, under its index. -/
theorem v4l2DequeueBuffer_takes {r : Except Errno VideoBuffer} (hdrv : env.HandsOutOwned) (hidx : d.Indexed)
    (how : d.Owned) (h : v4l2DequeueBuffer env k d = .ok (r, k', d')) :
    d.Handled d' ∧ d'.format = d.format ∧ k'.tick = k.tick + 1 ∧
      ((∃ e, r = .error e ∧ env.dqbuf k.tick d.file = .error e ∧ d'.file = d.file) ∨
        ∃ f b, r = .ok b ∧ env.dqbuf k.tick d.file = .ok f ∧ b.index = f.index ∧ f.index ∈ d.file.queued ∧
          f.index < d.nbufs ∧ d'.file = { d.file with queued := d.file.queued.erase f.index }) := by
  unfold v4l2DequeueBuffer at h
  dsimp only at h
  cases hdq : env.dqbuf k.tick d.file with
  | error e =>
      rw [hdq] at h
      cases h
      exact ⟨.refl d, rfl, rfl, .inl ⟨e, rfl, rfl, rfl⟩⟩
  | ok f =>
      rw [hdq] at h
      dsimp only at h
      have hmem : f.index ∈ d.file.queued := hdrv _ _ _ hdq
      have hlt : f.index < d.nbufs := List.mem_range.mp (how.subset hmem)
      split at h
      · cases h
      · next b hb =>
          cases h
          have hindex : b.index = f.index := hidx.index hlt hb
          exact ⟨.set hb rfl rfl rfl, rfl, rfl, .inr ⟨f, _, rfl, rfl, hindex, hmem, hlt, rfl⟩⟩

/-- **Giving it back**, under the same index and with the file as it is since. -/
theorem v4l2QueueBuffer_pool {d₁ : Device} {f : Dequeued} {b : VideoBuffer} {ret : Int} {t : Nat}
    (hidx : d.Indexed) (how : d.Owned) (hdq : env.dqbuf t d.file = .ok f) (hmem : f.index ∈ d.file.queued)
    (hlt : f.index < d.nbufs) (hb : b.index = f.index) (hh : d.Handled d₁)
    (hfile : d₁.file = { d.file with queued := d.file.queued.erase f.index })
    (h : v4l2QueueBuffer env k d₁ b = (ret, k', d')) :
    d'.Indexed ∧ (d'.Owned ↔ d.TakesBack env t k.tick) := by
  have hlt₁ : b.index < d₁.nbufs := by rw [hb, hh.nbufs]; exact hlt
  obtain ⟨hh', -, -⟩ := v4l2QueueBuffer_queues hlt₁ h
  have hn : d'.nbufs = d.nbufs := hh'.nbufs.trans hh.nbufs
  refine ⟨(hidx.handled hh).handled hh', ?_⟩
  obtain ⟨hgiven, hlost⟩ := how.given hmem hn
  have htakes : d.TakesBack env t k.tick ↔ env.qbuf k.tick d₁.file b.index = none := by
    rw [hfile, hb]
    refine ⟨fun hall => hall f hdq, fun hq f' hf => ?_⟩
    rw [hdq] at hf
    cases hf
    exact hq
  rw [htakes]
  unfold v4l2QueueBuffer at h
  rw [if_neg (Nat.not_le_of_lt hlt₁)] at h
  dsimp only at h
  cases hq : env.qbuf k.tick d₁.file b.index with
  | some e =>
      rw [hq] at h
      cases h
      exact iff_of_false (hlost (by rw [hfile])) (by simp)
  | none =>
      rw [hq] at h
      cases h
      refine iff_of_true (hgiven ?_) rfl
      show d₁.file.queued ++ [b.index] = _
      rw [hfile, hb]

/-! ## The video callbacks -/

theorem Device.Handled.writeMem (d : Device) (i : Nat) (mem : Option Bytes) : d.Handled (d.writeMem i mem) := by
  refine ⟨rfl, rfl, rfl, fun j => ?_⟩
  show ((d.buffers.modify i _)[j]?).map _ = _
  rw [List.getElem?_modify, Option.map_eq_map, Option.map_map]
  congr 1
  funext b
  dsimp only [Function.comp]
  split <;> rfl

/-- **What `uvc_video_process` leaves to the driver.** -/
theorem uvcVideoProcess_pool (hdrv : env.HandsOutOwned) (hidx : g.vdev.Indexed) (how : g.vdev.Owned)
    (h : uvcVideoProcess env io g = .ok (g', io')) :
    g'.vdev.Indexed ∧ (g'.vdev.Owned ↔ g.vdev.TakesBack env io.kernel.tick (io.kernel.tick + 1)) := by
  unfold uvcVideoProcess at h
  obtain ⟨⟨r, k₁, d₁⟩, hdq, h⟩ := bind_eq_ok.mp h
  obtain ⟨hh, -, htick, hcase⟩ := v4l2DequeueBuffer_takes hdrv hidx how hdq
  rcases hcase with ⟨e, rfl, herr, hfile⟩ | ⟨f, b, rfl, hf, hb, hmem, hlt, hfile⟩
  · cases h
    have howned : d₁.Owned := by
      unfold Device.Owned
      rw [hfile, hh.nbufs]
      exact how
    refine ⟨hidx.handled hh, iff_of_true howned fun f hf => ?_⟩
    rw [herr] at hf
    cases hf
  · obtain ⟨b', hfill, h⟩ := bind_eq_ok.mp h
    have hb' : b'.index = f.index := (uvcVideoFillBuffer_spec hfill).1.trans hb
    generalize hd₂ : (if g.fcc = PixFormat.YUYV then d₁.writeMem b'.index b'.mem else d₁) = d₂ at h
    have hwrite : d₁.Handled d₂ ∧ d₂.file = d₁.file := by
      rw [← hd₂]
      split
      · exact ⟨.writeMem _ _ _, rfl⟩
      · exact ⟨.refl _, rfl⟩
    dsimp only at h
    cases hq : v4l2QueueBuffer env k₁ d₂ b' with
    | mk ret rest =>
        obtain ⟨k₃, d₃⟩ := rest
        rw [hq] at h
        cases h
        rw [← htick]
        exact v4l2QueueBuffer_pool hidx how hf hmem hlt hb' (hh.trans hwrite.1) (hwrite.2.trans hfile) hq

/-- The format of the frames is one that is converted and published. -/
def Capture.Converts (c : Capture) : Prop :=
  c.vdev.format.pixelformat = PixFormat.GREY ∨ c.vdev.format.pixelformat = PixFormat.YUYV

instance (c : Capture) : Decidable c.Converts := by unfold Capture.Converts; infer_instance

/-- The call that gives a buffer back after the one, at `t`, that takes it: publishing the frame is a call, too. -/
def Capture.givesAt (c : Capture) (t : Nat) : Nat := if c.Converts then t + 2 else t + 1

theorem v4lProcessBuffer_pool {b : VideoBuffer} {stamp : Nat} {ret : Int}
    (h : v4lProcessBuffer env io c b stamp = .ok (ret, c', io')) :
    c'.vdev = c.vdev ∧ c'.isStreaming = c.isStreaming ∧
      io'.kernel.tick = if c.Converts then io.kernel.tick + 1 else io.kernel.tick := by
  unfold v4lProcessBuffer at h
  dsimp only at h
  split at h
  · next hno =>
      cases h
      exact ⟨rfl, rfl, (if_neg (show ¬c.Converts from not_or.mpr hno)).symm⟩
  · next hyes =>
      have hconv : c.Converts := by
        unfold Capture.Converts
        by_contra hno
        exact hyes (not_or.mp hno)
      rw [if_pos hconv]
      split at h
      · split at h
        · cases h
        · injection h with h
          injection h with _ h
          injection h with hc hio
          subst hc
          obtain ⟨hk, -⟩ := publish_logs env _ _ _ _ hio
          rw [hk]
          exact ⟨rfl, rfl, rfl⟩
      · cases h

/-- **What `capture_process` leaves to the driver**, whatever the format. -/
theorem captureProcess_pool (hdrv : env.HandsOutOwned) (hidx : c.vdev.Indexed) (how : c.vdev.Owned)
    (h : captureProcess env io c = .ok (c', io')) :
    c'.vdev.Indexed ∧ (c'.vdev.Owned ↔ c.vdev.TakesBack env io.kernel.tick (c.givesAt io.kernel.tick)) := by
  unfold captureProcess at h
  obtain ⟨⟨r, k₁, d₁⟩, hdq, h⟩ := bind_eq_ok.mp h
  obtain ⟨hh, hfmt, htick, hcase⟩ := v4l2DequeueBuffer_takes hdrv hidx how hdq
  rcases hcase with ⟨e, rfl, herr, hfile⟩ | ⟨f, b, rfl, hf, hb, hmem, hlt, hfile⟩
  · cases h
    have howned : d₁.Owned := by
      unfold Device.Owned
      rw [hfile, hh.nbufs]
      exact how
    refine ⟨hidx.handled hh, iff_of_true howned fun f hf => ?_⟩
    rw [herr] at hf
    cases hf
  · obtain ⟨⟨ret, c₂, io₂⟩, hproc, h⟩ := bind_eq_ok.mp h
    obtain ⟨hvdev, -, htick₂⟩ := v4lProcessBuffer_pool hproc
    cases hq : v4l2QueueBuffer env io₂.kernel c₂.vdev b with
    | mk ret₃ rest =>
        obtain ⟨k₃, d₃⟩ := rest
        dsimp only at h
        rw [hq] at h
        cases h
        -- the frame is published before the buffer goes back
        have hgives : io₂.kernel.tick = c.givesAt io.kernel.tick := by
          have hconv : ({ c with vdev := d₁ } : Capture).Converts ↔ c.Converts := by
            unfold Capture.Converts
            dsimp only
            rw [hfmt]
          rw [htick₂]
          unfold Capture.givesAt
          by_cases h : c.Converts
          · rw [if_pos h, if_pos (hconv.mpr h)]
            show k₁.tick + 1 = _
            rw [htick]
          · rw [if_neg h, if_neg (h ∘ hconv.mp)]
            exact htick
        rw [hvdev] at hq
        rw [← hgives]
        exact v4l2QueueBuffer_pool hidx how hf hmem hlt hb hh hfile hq

/-! ## Stream starts and stops -/

/-- The array of a start that comes through holds the buffers under their indices. -/
theorem acquire_indexed {queue : Queueing} (hqueue : QueuesBuffers env queue) (h0 : d.nbufs = 0) {ret : Int}
    (hret : ¬ret < 0) (h : acquire env queue k d = .ok (ret, k', d')) : d'.Indexed := by
  unfold acquire at h
  obtain ⟨⟨ret₁, k₁, d₁⟩, halloc, h⟩ := bind_eq_ok.mp h
  obtain ⟨-, hall⟩ := v4l2AllocBuffers_allocates (by decide) halloc
  dsimp only at h
  cases hall with
  | busy hn => exact absurd h0 hn
  | refused _ hreq =>
      rw [if_pos (Errno.neg_lt _)] at h
      cases h
      exact absurd (Errno.neg_lt _) hret
  | surplus _ hreq hm =>
      rw [if_pos (Errno.neg_lt _)] at h
      cases h
      exact absurd (Errno.neg_lt _) hret
  | nomem _ hreq hno =>
      rw [if_pos (Errno.neg_lt _)] at h
      cases h
      exact absurd (Errno.neg_lt _) hret
  | ok _ hreq hm hmem ht =>
      rw [if_neg (by decide)] at h
      obtain ⟨⟨ret₂, k₂, d₂⟩, hmap, h⟩ := bind_eq_ok.mp h
      unfold v4l2MmapBuffers at hmap
      rw [if_neg (by simp)] at hmap
      obtain ⟨-, hh₂, -⟩ := mmapBuffers_works (Nat.le_of_eq (Nat.zero_add _))
        (fun j b _ hb => (freshBuffers_getElem? hb).1) hmap
      have hidx : d₂.Indexed := by
        refine Device.Indexed.handled ?_ hh₂
        exact freshBuffers_indexed hm
      dsimp only at h
      split at h
      · cases h; exact hidx
      · exact hidx.handled (hqueue (Nat.le_of_eq (Nat.zero_add _)) hidx h).handled

/-- So the driver owns them all. -/
theorem acquire_owned {queue : Queueing} (hqueue : QueuesBuffers env queue) (h0 : d.nbufs = 0) {ret : Int}
    (hret : ¬ret < 0) (h : acquire env queue k d = .ok (ret, k', d')) : d'.Indexed ∧ d'.Owned := by
  refine ⟨acquire_indexed hqueue h0 hret h, ?_⟩
  obtain ⟨-, -, -, hacq⟩ := acquire_acquires hqueue h0 h
  cases hacq with
  | surplus hreq hn hcount h0 => exact absurd (Errno.neg_lt _) hret
  | failed hlt hle hno hcount => exact absurd hlt hret
  | supplied hs ht hn hfile =>
      unfold Device.Owned
      rw [hfile, hn]
      exact .refl _

/-- Starting or stopping the stream of a device leaves its buffers alone. -/
theorem v4l2StreamOn_pool {ret : Int} (h : v4l2StreamOn env k d = (ret, k', d')) :
    d'.buffers = d.buffers ∧ d'.nbufs = d.nbufs ∧ d'.file.queued = d.file.queued := by
  unfold v4l2StreamOn at h
  dsimp only at h
  split at h <;> · cases h; exact ⟨rfl, rfl, rfl⟩

/-- What has the buffers, the indices and the queue of another device is as well supplied. -/
theorem Device.Owned.of_eq (hidx : d.Indexed) (how : d.Owned) (hb : d'.buffers = d.buffers)
    (hn : d'.nbufs = d.nbufs) (hq : d'.file.queued = d.file.queued) : d'.Indexed ∧ d'.Owned := by
  unfold Indexed Owned at *
  rw [hb, hn, hq]
  exact ⟨hidx, how⟩

/-- A start that comes through has acquired what it needs, and found no buffers before. -/
theorem v4lVideoStart_acquired (h : v4lVideoStart env k d = .ok (0, k', d')) :
    d.nbufs = 0 ∧ ∃ ret, ¬ret < 0 ∧ acquire env (queueAll env) k d = .ok (ret, k', d') := by
  by_cases h0 : d.nbufs = 0
  · rw [v4lVideoStart_eq h0] at h
    obtain ⟨⟨ret, k₁, d₁⟩, hacq, h⟩ := bind_eq_ok.mp h
    by_cases hret : ret < 0
    · -- a start that failed gives everything back and reports it
      rw [giveBack_failed hret] at h
      obtain ⟨⟨r, k₂, d₂⟩, -, h⟩ := bind_eq_ok.mp h
      cases h
      exact absurd hret (by decide)
    · rw [giveBack_ok hret] at h
      cases h
      exact ⟨h0, ret, hret, hacq⟩
  · rw [v4lVideoStart_busy h0] at h
    cases h

theorem v4lVideoStart_owned (h : v4lVideoStart env k d = .ok (0, k', d')) : d'.Indexed ∧ d'.Owned := by
  obtain ⟨h0, ret, hret, hacq⟩ := v4lVideoStart_acquired h
  exact acquire_owned (queueAll_queuesBuffers env) h0 hret hacq

theorem uvcVideoStart_owned (h : uvcVideoStart env k g = .ok (0, k', d')) : d'.Indexed ∧ d'.Owned := by
  by_cases h0 : g.vdev.nbufs = 0
  · rw [uvcVideoStart_eq h0] at h
    obtain ⟨⟨ret, k₁, d₁⟩, hacq, h⟩ := bind_eq_ok.mp h
    by_cases hret : ret < 0
    · rw [giveBack_failed hret] at h
      obtain ⟨⟨r, k₂, d₂⟩, -, h⟩ := bind_eq_ok.mp h
      cases h
      exact absurd hret (by decide)
    · rw [giveBack_ok hret] at h
      cases h
      obtain ⟨⟨ret₂, k₂, d₂⟩, hacq, hon⟩ := bind_eq_ok.mp hacq
      dsimp only at hon
      split at hon
      · next hlt => cases hon; exact absurd hlt hret
      · next hge =>
          obtain ⟨hidx, how⟩ := acquire_owned (fillAndQueue_queuesBuffers env g) h0 hge hacq
          obtain ⟨hb, hn, hq⟩ := v4l2StreamOn_pool (Except.ok.inj hon)
          exact how.of_eq hidx hb hn hq
  · rw [uvcVideoStart_busy h0] at h
    cases h

/-! ## What keeps the buffers of a stream with the driver -/

/-- The buffers are under their indices, and the driver owns them. -/
structure Device.Supplied (d : Device) : Prop where
  indexed : d.Indexed
  owned : d.Owned

theorem Device.Supplied.of_eq (h : d.Supplied) (hb : d'.buffers = d.buffers) (hn : d'.nbufs = d.nbufs)
    (hq : d'.file.queued = d.file.queued) : d'.Supplied := by
  obtain ⟨hidx, how⟩ := h.owned.of_eq h.indexed hb hn hq
  exact ⟨hidx, how⟩

/-- A stream that runs has its buffers with the driver. -/
def Gadget.Supplied (g : Gadget) : Prop := g.isStreaming = true → g.vdev.Supplied
def Capture.Supplied (c : Capture) : Prop := c.isStreaming = true → c.vdev.Supplied

theorem UvcStreams.supplied {on : Bool} {ret : Int} (h : UvcStreams env io g on ret g' io') (hg : g.Supplied) :
    g'.Supplied := by
  cases h with
  | idle h => exact hg
  | stopped hon hoff hfree => exact nofun
  | failed hoff hret hstart => exact fun hon => absurd (hoff.symm.trans hon) (by decide)
  | started hoff hstart =>
      obtain ⟨hidx, how⟩ := uvcVideoStart_owned hstart
      exact fun _ => ⟨hidx, how⟩

theorem V4lStreams.supplied {on : Bool} {ret : Int} (h : V4lStreams env io c on ret c' io') (hc : c.Supplied) :
    c'.Supplied := by
  cases h with
  | idle h => exact hc
  | stopped hon hoff hfree => exact nofun
  | nomem hoff hmem => exact hc
  | failed hoff hmem hret hstart => exact fun hon => absurd (hoff.symm.trans hon) (by decide)
  | started hoff hmem hstart hon =>
      obtain ⟨hidx, how⟩ := v4lVideoStart_owned hstart
      obtain ⟨hb, hn, hq⟩ := v4l2StreamOn_pool hon
      exact fun _ => (Device.Supplied.mk hidx how).of_eq hb hn hq

/-- Setting a format does not touch the buffers. -/
theorem SetsVideo.supplied (h : SetsVideo env io g g' io') (hg : g.Supplied) : g'.Supplied := by
  cases h with
  | nomem hmem => exact hg
  | refused hmem hret hset =>
      obtain ⟨-, hd, -⟩ := v4l2SetFormat_spec hset
      exact fun hon => (hg hon).of_eq (by rw [hd]) (by rw [hd]) (by rw [hd])
  | posted hmem hret hset =>
      obtain ⟨-, hd, -⟩ := v4l2SetFormat_spec hset
      exact fun hon => (hg hon).of_eq (by rw [hd]) (by rw [hd]) (by rw [hd])

theorem Tuned.supplied (h : Tuned c c') (hc : c.Supplied) : c'.Supplied := by
  intro hon
  have hd := h.device
  rw [h.streaming] at hon
  exact (hc hon).of_eq (by rw [hd]) (by rw [hd]) (by rw [hd])

theorem UvcCalls.supplied (h : UvcCalls env io g g' io') (hg : g.Supplied) : g'.Supplied := by
  cases h with
  | quiet hev ht => exact fun hon => (hg hon).of_eq rfl rfl rfl
  | commit hev hcontrol hset => exact hset.supplied hg
  | stream on hev hs => exact hs.supplied hg

/-! ## Over the lists -/

open Split

/-- All streams that run have their buffers with the driver. -/
structure Sys.Supplied (s : Sys) : Prop where
  gadgets : ∀ g ∈ s.gadgets, g.Supplied
  captures : ∀ c ∈ s.captures, c.Supplied

theorem TunesAll.supplied {cs cs' : List Capture} (h : TunesAll k cs k' cs') (hc : ∀ c ∈ cs, c.Supplied) :
    ∀ c ∈ cs', c.Supplied := by
  obtain ⟨heach, -⟩ := h
  induction heach with
  | nil => exact hc
  | cons ht _ ih =>
      intro c hmem
      rcases List.mem_cons.mp hmem with rfl | hmem
      · exact ht.supplied (hc _ List.mem_cons_self)
      · exact ih (fun x hx => hc x (List.mem_cons_of_mem _ hx)) c hmem

theorem UvcServes.supplied {s s' : Sys} {m : Message} {r : Int} (h : UvcServes env s m r s') (hs : s.Supplied) :
    s'.Supplied := by
  refine ⟨?_, ?_⟩
  · cases h with
    | skipped => exact hs.gadgets
    | attach hreg hatt =>
        rcases hatt.logs with ⟨hsame, -⟩ | ⟨g, t, hsame, hoff, -⟩
        · rw [hsame]; exact hs.gadgets
        · rw [hsame]
          exact forall_snoc hs.gadgets fun hon => absurd (hoff.symm.trans hon) (by decide)
    | detach hdet =>
        cases hdet with
        | missed h => exact hs.gadgets
        | detached hsp hstop => exact forall_erased hsp.eq hs.gadgets
    | copied hsp =>
        have hg := hs.gadgets _ hsp.mem
        exact forall_replaced hsp.eq hs.gadgets hg
  · cases h <;> exact hs.captures

theorem CaptureServes.supplied {s s' : Sys} {m : Message} (h : CaptureServes env s m s') (hs : s.Supplied) :
    s'.Supplied := by
  refine ⟨?_, ?_⟩
  · rw [h.gadgets_eq]; exact hs.gadgets
  · cases h with
    | skipped => exact hs.captures
    | attach hatt =>
        cases hatt with
        | missing hopen => exact hs.captures
        | rejected hup => exact hs.captures
        | attached hopen htype hmem => exact forall_snoc hs.captures nofun
    | detach hdet =>
        cases hdet with
        | missed h => exact hs.captures
        | detached hsp hstop => exact forall_erased hsp.eq hs.captures
    | setFmt htunes => exact htunes.supplied hs.captures
    | stream on hstr =>
        cases hstr with
        | missed => exact hs.captures
        | found hsp hstr =>
            exact forall_replaced hsp.eq hs.captures (hstr.supplied (hs.captures _ hsp.mem))
    | part hpart =>
        cases hpart with
        | missed => exact hs.captures
        | found hsp hstr =>
            exact forall_replaced hsp.eq hs.captures (hstr.supplied (hs.captures _ hsp.mem))

theorem Serves.supplied {s s' : Sys} {m : Message} (h : Serves env s m s') (hs : s.Supplied) : s'.Supplied := by
  obtain ⟨r, s₁, hu, hc⟩ := h
  have hs₁ := hu.supplied hs
  rcases hc with ⟨-, rfl⟩ | hc
  · exact hs₁
  · exact hc.supplied hs₁

end Uvcd
