import Uvcd.Refinement.Pool

/-!
# `Refinement.Conversion` — frames converted into the two internal buffers

`v4l_process_buffer` writes a frame into one of two buffers of `2 * pixels` bytes. The chroma bytes of a grey frame
are not written: they are those of the start, which `Capture.Running` carries along, together with the size and the
format the capture was started with (`Capture.Running.process`).
-/

namespace Uvcd

open Machine

variable {env : Env} {k k' : Kernel} {d d' : Device} {io io' : Io} {c c' c₁ : Capture}

/-! ## The conversion loops -/

section Loops

variable {y m : Bytes} {off : Nat}

theorem greyLoop_other {n : Nat} {a : Nat} : ∀ {k : Nat} {m : Bytes}, (∀ j, k ≤ j → j < k + n → a ≠ off + 2 * j) →
    greyLoop y off k n m a = m a := by
  induction n with
  | zero => intro k m _; rfl
  | succ n ih =>
      intro k m ha
      rw [greyLoop, ih fun j hj hlt => ha j (by omega) (by omega)]
      exact if_neg (ha k (Nat.le_refl k) (by omega))

theorem greyLoop_pixel {n : Nat} : ∀ {k j : Nat} {m : Bytes}, k ≤ j → j < k + n →
    greyLoop y off k n m (off + 2 * j) = y j := by
  induction n with
  | zero => intro k j m hle hlt; omega
  | succ n ih =>
      intro k j m hle hlt
      rw [greyLoop]
      by_cases hj : j = k
      · -- written now, and not again
        subst hj
        rw [greyLoop_other fun i hi _ => by omega]
        exact if_pos rfl
      · exact ih (by omega) (by omega)

/-- The frame `y` of `pixels` pixels is converted to `off`, which turns the contents `m` into `m'`. -/
structure Converted (pixelformat : UInt32) (pixels off : Nat) (y m m' : Bytes) : Prop where
  luma : pixelformat = PixFormat.GREY → ∀ k < pixels, m' (off + 2 * k) = y k
  chroma : pixelformat = PixFormat.GREY → ∀ k < pixels, m' (off + 2 * k + 1) = m (off + 2 * k + 1)
  yuyv : pixelformat = PixFormat.YUYV → ∀ k < 2 * pixels, m' (off + k) = y k
  other : ∀ a, a < off ∨ off + 2 * pixels ≤ a → m' a = m a

/-- A grey frame leaves the odd bytes alone, in the buffer and outside. -/
theorem Converted.odd {pixelformat : UInt32} {pixels : Nat} {m' : Bytes}
    (h : Converted pixelformat pixels off y m m') (hgrey : pixelformat = PixFormat.GREY) (heven : off % 2 = 0)
    (k : Nat) : m' (2 * k + 1) = m (2 * k + 1) := by
  by_cases hin : off ≤ 2 * k ∧ 2 * k < off + 2 * pixels
  · have hchroma := h.chroma hgrey (k - off / 2) (by omega)
    rw [show off + 2 * (k - off / 2) + 1 = 2 * k + 1 by omega] at hchroma
    exact hchroma
  · exact h.other _ (by omega)

theorem convertFrame_converts (pixelformat : UInt32) (y : Bytes) (off pixels : Nat) (m : Bytes) :
    Converted pixelformat pixels off y m (convertFrame pixelformat y off (2 * pixels) m) := by
  unfold convertFrame
  by_cases hgrey : pixelformat = PixFormat.GREY
  · rw [if_pos hgrey, show (2 * pixels + 1) / 2 = pixels by omega]
    refine ⟨fun _ k hk => ?_, fun _ k _ => ?_, fun hyuyv => ?_, fun a ha => ?_⟩
    · exact greyLoop_pixel (Nat.zero_le k) (by omega)
    · exact greyLoop_other fun j _ _ => by omega
    · rw [hgrey] at hyuyv
      exact absurd hyuyv (by decide)
    · exact greyLoop_other fun j _ hj => by omega
  · rw [if_neg hgrey]
    refine ⟨fun h => absurd h hgrey, fun h => absurd h hgrey, fun _ k hk => ?_, fun a ha => ?_⟩
    · unfold memcpy
      rw [if_pos (by omega)]
      congr 1
      omega
    · unfold memcpy
      rw [if_neg (by omega)]

end Loops

/-! ## The size of a frame -/

/-- The pixels of the frames a capture converts. -/
def Capture.pixels (c : Capture) : Nat := c.width.toNat * c.height.toNat

/-- The bytes of a source frame that is converted; frames in other formats are not read. -/
def Capture.fullFrame (c : Capture) : Nat :=
  if c.vdev.format.pixelformat = PixFormat.GREY then c.pixels
  else if c.vdev.format.pixelformat = PixFormat.YUYV then 2 * c.pixels
  else 0

theorem toInt_frameSize {w h : UInt32} (hsize : 4 * (w.toNat * h.toNat) < 2 ^ 31) :
    (w * h * 2).toInt32.toInt = (2 * (w.toNat * h.toNat) : Nat) := by
  have hnat : (w * h * 2).toNat = 2 * (w.toNat * h.toNat) := by
    rw [UInt32.toNat_mul, UInt32.toNat_mul, show (2 : UInt32).toNat = 2 from rfl]
    rw [Nat.mod_eq_of_lt (a := w.toNat * h.toNat) (by omega), Nat.mod_eq_of_lt (by omega), Nat.mul_comm]
  rw [← hnat]
  exact BitVec.toInt_eq_toNat_of_lt (x := (w * h * 2).toBitVec) (by rw [UInt32.toNat_toBitVec]; omega)

/-! ## The buffers of the driver -/

/-- Buffer `i` is mapped. -/
def Device.Mapped (d : Device) (i : Nat) : Prop := ∃ b, d.buffers[i]? = some b ∧ b.mem.isSome = true

theorem Device.Mapped.set {i j : Nat} {b : VideoBuffer} {f : File} (hj : d.Mapped j) (hb : b.mem.isSome = true) :
    Device.Mapped { d with buffers := d.buffers.set i b, file := f } j := by
  obtain ⟨x, hx, hsome⟩ := hj
  by_cases hij : i = j
  · subst hij
    refine ⟨b, ?_, hb⟩
    exact List.getElem?_set_self (List.getElem?_eq_some_iff.mp hx).1
  · refine ⟨x, ?_, hsome⟩
    show (d.buffers.set i b)[j]? = _
    rw [List.getElem?_set_ne hij]
    exact hx

theorem mmapBuffers_maps {n : Nat} : ∀ {i : Nat} {k : Kernel} {d : Device} {ret : Int}, (∀ j < i, d.Mapped j) →
    mmapBuffers env i n k d = .ok (ret, k', d') → d'.nbufs = d.nbufs ∧ (¬ret < 0 → ∀ j < i + n, d'.Mapped j) := by
  induction n with
  | zero =>
      intro i k d ret hd h
      cases h
      exact ⟨rfl, fun _ => hd⟩
  | succ n ih =>
      intro i k d ret hd h
      rw [mmapBuffers] at h
      split at h
      · next e _ _ =>
          cases h
          exact ⟨rfl, fun hret => absurd (Errno.neg_lt e) hret⟩
      · split at h
        · next e _ =>
            cases h
            exact ⟨rfl, fun hret => absurd (Errno.neg_lt e) hret⟩
        · split at h
          · cases h
          · next b hb =>
              refine (ih (fun j hj => ?_) h).imp id fun hmaps hret j hj => hmaps hret j (by omega)
              by_cases hij : j = i
              · subst hij
                exact ⟨_, List.getElem?_set_self (List.getElem?_eq_some_iff.mp hb).1, rfl⟩
              · exact (hd j (by omega)).set rfl

/-- Queueing changes what the driver owns, and nothing else. -/
theorem v4l2QueueBuffer_keeps {b : VideoBuffer} {ret : Int} (h : v4l2QueueBuffer env k d b = (ret, k', d')) :
    d' = { d with file := { d.file with queued := d'.file.queued } } := by
  unfold v4l2QueueBuffer at h
  dsimp only at h
  split at h
  · cases h; rfl
  · split at h <;> · cases h; rfl

theorem queueAll_buffers {n : Nat} : ∀ {i : Nat} {k : Kernel} {d : Device} {ret : Int},
    queueAll env i n k d = .ok (ret, k', d') → d'.buffers = d.buffers ∧ d'.nbufs = d.nbufs := by
  induction n with
  | zero => intro i k d ret h; cases h; exact ⟨rfl, rfl⟩
  | succ n ih =>
      intro i k d ret h
      rw [queueAll] at h
      split at h
      · cases h
      · next b hb =>
          generalize hq : v4l2QueueBuffer env k d b = r at h
          obtain ⟨ret₁, k₁, d₁⟩ := r
          have hd₁ : d₁.buffers = d.buffers ∧ d₁.nbufs = d.nbufs := by
            rw [v4l2QueueBuffer_keeps hq]
            exact ⟨rfl, rfl⟩
          dsimp only at h
          split at h
          · cases h; exact hd₁
          · obtain ⟨hb, hn⟩ := ih h
            exact ⟨hb.trans hd₁.1, hn.trans hd₁.2⟩

/-- A start that comes through has all its buffers mapped. -/
theorem v4lVideoStart_maps (h : v4lVideoStart env k d = .ok (0, k', d')) : ∀ i < d'.nbufs, d'.Mapped i := by
  obtain ⟨-, ret, hret, hacq⟩ := v4lVideoStart_acquired h
  unfold acquire at hacq
  obtain ⟨⟨ret₁, k₁, d₁⟩, halloc, hacq⟩ := bind_eq_ok.mp hacq
  dsimp only at hacq
  split at hacq
  · next hlt => cases hacq; exact absurd hlt hret
  · obtain ⟨⟨ret₂, k₂, d₂⟩, hmap, hacq⟩ := bind_eq_ok.mp hacq
    dsimp only at hacq
    split at hacq
    · next hlt => cases hacq; exact absurd hlt hret
    · next hret₂ =>
        unfold v4l2MmapBuffers at hmap
        split at hmap
        · cases hmap
          exact absurd (Errno.neg_lt _) hret₂
        · obtain ⟨hn₂, hmaps⟩ := mmapBuffers_maps (fun j hj => absurd hj (Nat.not_lt_zero j)) hmap
          -- queueing leaves the mappings alone
          obtain ⟨hbuffers, hn⟩ := queueAll_buffers hacq
          intro i hi
          unfold Device.Mapped
          rw [hbuffers]
          exact hmaps hret₂ i (by omega)

/-- Whatever buffers the driver owns are mapped, under their indices, and hold `n` bytes. -/
structure Device.Ready (n : Nat) (d : Device) : Prop where
  queued : ∀ i ∈ d.file.queued, i < d.nbufs
  filled : ∀ i < d.nbufs, ∃ b, d.buffers[i]? = some b ∧ b.mem.isSome = true ∧ n ≤ b.size
  count : d.file.count = d.nbufs

/-- The buffers of the driver hold `n` bytes each. -/
def Device.HoldsFrames (n : Nat) (d : Device) : Prop := ∀ b ∈ d.buffers.take d.nbufs, n ≤ b.size

instance (n : Nat) (d : Device) : Decidable (d.HoldsFrames n) := by unfold Device.HoldsFrames; infer_instance

theorem v4lVideoStart_ready {n : Nat} (h : v4lVideoStart env k d = .ok (0, k', d')) (hfull : d'.HoldsFrames n) :
    d'.Ready n := by
  obtain ⟨-, howned⟩ := v4lVideoStart_owned h
  refine ⟨fun i hi => List.mem_range.mp (howned.subset hi), fun i hi => ?_, ?_⟩
  · obtain ⟨b, hb, hsome⟩ := v4lVideoStart_maps h i hi
    exact ⟨b, hb, hsome, hfull b (List.mem_of_getElem? (by rw [List.getElem?_take_of_lt hi]; exact hb))⟩
  · obtain ⟨h0, ret, hret, hacq⟩ := v4lVideoStart_acquired h
    obtain ⟨-, -, -, hacq⟩ := acquire_acquires (queueAll_queuesBuffers env) h0 hacq
    cases hacq with
    | surplus hreq hn hcount h0 => exact absurd (Errno.neg_lt _) hret
    | failed hlt hle hno hcount => exact absurd hlt hret
    | supplied hs ht hn hfile =>
        rw [hfile, hn]
        rfl

/-- **What is dequeued**: a mapped buffer of full length, if anything. -/
theorem Device.Ready.dequeue {n : Nat} (hdrv : env.HandsOutOwned) (hr : d.Ready n) (k : Kernel) :
    (∃ e, env.dqbuf k.tick d.file = .error e ∧
        v4l2DequeueBuffer env k d = .ok (.error e, k.call (.ioctl d.fd), d)) ∨
      ∃ f buf y d', env.dqbuf k.tick d.file = .ok f ∧
        v4l2DequeueBuffer env k d = .ok (.ok buf, k.call (.ioctl d.fd), d') ∧ buf.mem = some y ∧ n ≤ buf.size ∧
        d'.Ready n ∧ d.nbufs ≠ 0 ∧ d'.nbufs = d.nbufs ∧ d'.format = d.format := by
  unfold v4l2DequeueBuffer
  cases hdq : env.dqbuf k.tick d.file with
  | error e => exact .inl ⟨e, rfl, rfl⟩
  | ok f =>
      have hmem : f.index ∈ d.file.queued := hdrv _ _ _ hdq
      have hlt := hr.queued _ hmem
      obtain ⟨b, hb, hsome, hle⟩ := hr.filled _ hlt
      obtain ⟨y, hy⟩ : ∃ y, (if d.type = .videoCapture then b.mem.map (fun _ => f.frame) else b.mem) = some y := by
        obtain ⟨y₀, hy₀⟩ := Option.isSome_iff_exists.mp hsome
        rw [hy₀]
        split
        · exact ⟨_, rfl⟩
        · exact ⟨_, rfl⟩
      dsimp only
      rw [hb]
      refine .inr ⟨f, _, y, _, rfl, rfl, hy, hle, ?_, by omega, rfl, rfl⟩
      refine ⟨fun i hi => hr.queued i (List.mem_of_mem_erase hi), fun i hi => ?_, hr.count⟩
      by_cases hif : f.index = i
      · subst hif
        refine ⟨_, List.getElem?_set_self (List.getElem?_eq_some_iff.mp hb).1, ?_, hle⟩
        dsimp only
        rw [hy]
        rfl
      · obtain ⟨x, hx, hfilled⟩ := hr.filled i hi
        refine ⟨x, ?_, hfilled⟩
        show (d.buffers.set f.index _)[i]? = _
        rw [List.getElem?_set_ne hif]
        exact hx

theorem Device.Ready.queue {n : Nat} (hr : d.Ready n) {b : VideoBuffer} {ret : Int}
    (h : v4l2QueueBuffer env k d b = (ret, k', d')) : d'.Ready n := by
  have hd := v4l2QueueBuffer_keeps h
  refine ⟨fun i hi => ?_, by rw [hd]; exact hr.filled, by rw [hd]; exact hr.count⟩
  have hn : d'.nbufs = d.nbufs := by rw [hd]
  rw [hn]
  unfold v4l2QueueBuffer at h
  split at h
  · cases h; exact hr.queued i hi
  · next hlt =>
      dsimp only at h
      split at h
      · cases h; exact hr.queued i hi
      · cases h
        rcases List.mem_append.mp hi with hi | hi
        · exact hr.queued i hi
        · rw [List.mem_singleton.mp hi]
          omega

/-! ## Format messages -/

/-- The driver refuses formats while buffers are allocated. -/
def Env.RefusesBusy (env : Env) : Prop := ∀ t file fmt, file.count ≠ 0 → ∃ e, env.sFmt t file fmt = .error e

/-- What a format message does to a capture: nothing but pair it, once its driver has buffers. -/
structure Retuned (c c' : Capture) : Prop extends Tuned c c' where
  index : c'.index = c.index
  busy : c.vdev.file.count ≠ 0 → c'.vdev = c.vdev ∧ c'.width = c.width ∧ c'.height = c.height

theorem Retuned.refl (c : Capture) : Retuned c c := ⟨.refl c, rfl, fun _ => ⟨rfl, rfl, rfl⟩⟩

theorem Retuned.trans {c'' : Capture} (h : Retuned c c') (h' : Retuned c' c'') : Retuned c c'' := by
  refine ⟨h.toTuned.trans h'.toTuned, h'.index.trans h.index, fun hc => ?_⟩
  obtain ⟨hd, hw, hh⟩ := h.busy hc
  obtain ⟨hd', hw', hh'⟩ := h'.busy (by rw [hd]; exact hc)
  exact ⟨hd'.trans hd, hw'.trans hw, hh'.trans hh⟩

theorem Retuned.paired (h : Retuned c c') (id : UInt32) : Retuned c { c' with gadgetId := id } :=
  ⟨⟨h.device, h.addr, h.streaming, h.buffers⟩, h.index, h.busy⟩

theorem tryFormats_retunes (hbusy : env.RefusesBusy) {fmt : PixFormat} {pfs : List UInt32} :
    ∀ {k k' : Kernel} {c c' : Capture} {ret : Int}, tryFormats env fmt pfs k c = (ret, k', c') → Retuned c c' := by
  induction pfs with
  | nil => intro k k' c c' ret h; cases h; exact .refl c
  | cons pf pfs ih =>
      intro k k' c c' ret h
      have htuned := (tryFormats_tunes h).1
      rw [tryFormats] at h
      by_cases hc : c.vdev.file.count = 0
      · -- the format may be taken, which leaves the frames and their count alone
        generalize v4l2SetFormat env k c.vdev ⟨fmt.width, fmt.height, pf, PixFormat.FIELD_ANY, 0⟩ = r at h
        obtain ⟨ret₁, fmt₁, k₁, d₁⟩ := r
        dsimp only at h
        split at h
        · cases h; exact ⟨htuned, rfl, fun hno => absurd hc hno⟩
        · exact ⟨htuned, (ih h).index, fun hno => absurd hc hno⟩
      · obtain ⟨e, he⟩ := hbusy k.tick c.vdev.file ⟨fmt.width, fmt.height, pf, PixFormat.FIELD_ANY, 0⟩ hc
        have hset : v4l2SetFormat env k c.vdev ⟨fmt.width, fmt.height, pf, PixFormat.FIELD_ANY, 0⟩ =
            (e.neg, ⟨fmt.width, fmt.height, pf, PixFormat.FIELD_ANY, 0⟩, k.call (.ioctl c.vdev.fd), c.vdev) := by
          unfold v4l2SetFormat ioctlSFmt
          dsimp only
          rw [he]
        rw [hset] at h
        dsimp only at h
        rw [if_neg (Errno.neg_ne e)] at h
        exact ih h

theorem v4lVideoTrySetFormat_retunes (hbusy : env.RefusesBusy) {fmt : PixFormat} {ret : Int}
    (h : v4lVideoTrySetFormat env k c fmt = (ret, k', c')) : Retuned c c' := by
  unfold v4lVideoTrySetFormat at h
  split at h
  · cases h; exact .refl c
  · exact tryFormats_retunes hbusy h

theorem setFmtHolder_retunes (hbusy : env.RefusesBusy) {id : UInt32} {fmt : PixFormat} {cs : List Capture} :
    ∀ {k k' : Kernel} {cs' : List Capture} {taken : Bool}, setFmtHolder env id fmt cs k = (taken, cs', k') →
      List.Forall₂ Retuned cs cs' := by
  induction cs with
  | nil => intro k k' cs' taken h; cases h; exact .nil
  | cons c cs ih =>
      intro k k' cs' taken h
      have hsame := List.forall₂_same.mpr fun (x : Capture) (_ : x ∈ cs) => Retuned.refl x
      rw [setFmtHolder] at h
      split at h
      · generalize ht : v4lVideoTrySetFormat env k c fmt = r at h
        obtain ⟨ret, k₁, c₁⟩ := r
        have hc := v4lVideoTrySetFormat_retunes hbusy ht
        dsimp only at h
        split at h
        · cases h; exact .cons hc hsame
        · cases h; exact .cons (hc.paired 0) hsame
      · generalize hr : setFmtHolder env id fmt cs k = r at h
        obtain ⟨taken₁, cs₁, k₁⟩ := r
        cases h
        exact .cons (.refl c) (ih hr)

theorem setFmtFree_retunes (hbusy : env.RefusesBusy) {id : UInt32} {fmt : PixFormat} {cs : List Capture} :
    ∀ {k k' : Kernel} {cs' : List Capture} {taken : Bool}, setFmtFree env id fmt cs k = (taken, cs', k') →
      List.Forall₂ Retuned cs cs' := by
  induction cs with
  | nil => intro k k' cs' taken h; cases h; exact .nil
  | cons c cs ih =>
      intro k k' cs' taken h
      rw [setFmtFree] at h
      split at h
      · generalize ht : v4lVideoTrySetFormat env k c fmt = r at h
        obtain ⟨ret, k₁, c₁⟩ := r
        have hc := v4lVideoTrySetFormat_retunes hbusy ht
        dsimp only at h
        split at h
        · generalize hr : setFmtFree env id fmt cs k₁ = r at h
          obtain ⟨taken₁, cs₁, k₂⟩ := r
          cases h
          exact .cons hc (ih hr)
        · cases h
          exact .cons (hc.paired id) (List.forall₂_same.mpr fun x _ => .refl x)
      · generalize hr : setFmtFree env id fmt cs k = r at h
        obtain ⟨taken₁, cs₁, k₁⟩ := r
        cases h
        exact .cons (.refl c) (ih hr)

/-- **A format message retunes every capture.** -/
theorem v4lCaptureSetFmt_retunes (hbusy : env.RefusesBusy) {id : UInt32} {fmt : PixFormat} {cs cs' : List Capture}
    {ret : Int} (h : v4lCaptureSetFmt env io cs id fmt = (ret, cs', io')) : List.Forall₂ Retuned cs cs' := by
  unfold v4lCaptureSetFmt at h
  generalize hh : setFmtHolder env id fmt cs io.kernel = res at h
  obtain ⟨taken, cs₁, k₁⟩ := res
  have h₁ := setFmtHolder_retunes hbusy hh
  dsimp only at h
  split at h
  · cases h; exact h₁
  · generalize hf : setFmtFree env id fmt cs₁ k₁ = res at h
    obtain ⟨taken₂, cs₂, k₂⟩ := res
    cases h
    exact forall₂_trans (R := Retuned) (fun _ _ _ => Retuned.trans) h₁ (setFmtFree_retunes hbusy hf)

end Uvcd
