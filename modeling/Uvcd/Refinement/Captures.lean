import Uvcd.Refinement.Board

/-!
# `Refinement.Captures` — the functions of `capture.c` refine the protocol

One lemma per function, as in `Refinement.Gadgets`.
-/

namespace Uvcd

open Machine Split

variable {env : Env} {b : List Message}

/-! ## Streaming -/

theorem queueAll_steady {n : Nat} : ∀ {i : Nat} {k k' : Kernel} {d d' : Device} {ret : Int},
    d.Plain → queueAll env i n k d = .ok (ret, k', d') → Steady env k d k' d' := by
  induction n with
  | zero =>
      intro i k k' d d' ret hp h
      cases h; exact .refl hp
  | succ n ih =>
      intro i k k' d d' ret hp h
      rw [queueAll] at h
      split at h
      · cases h
      · next b _ =>
          generalize hq : v4l2QueueBuffer env k d b = r at h
          obtain ⟨ret₁, k₁, d₁⟩ := r
          have h₁ := v4l2QueueBuffer_steady hp hq
          dsimp only at h
          split at h
          · cases h; exact h₁
          · exact h₁.trans (ih h₁.plain h)

theorem v4lVideoStart_uses {k k' : Kernel} {d d' : Device} {ret : Int} (hp : d.Plain)
    (h : v4lVideoStart env k d = .ok (ret, k', d')) : Uses env k d k' d' := by
  unfold v4lVideoStart at h
  obtain ⟨⟨ret₁, k₁, d₁⟩, halloc, h⟩ := bind_eq_ok.mp h
  obtain ⟨h₁, -⟩ := v4l2AllocBuffers_uses hp (by decide) halloc
  dsimp only at h
  split at h
  · cases h; exact h₁
  · obtain ⟨⟨ret₂, k₂, d₂⟩, hmap, h⟩ := bind_eq_ok.mp h
    have h₂ := v4l2MmapBuffers_steady h₁.plain hmap
    obtain ⟨⟨ret₃, k₃, d₃⟩, hfill, h⟩ := bind_eq_ok.mp h
    have h₃ : Steady env k₂ d₂ k₃ d₃ := by
      dsimp only at hfill
      split at hfill
      · cases hfill; exact .refl h₂.plain
      · exact queueAll_steady h₂.plain hfill
    have h₄ := h₁.trans (h₂.trans h₃).toUses
    dsimp only at h
    split at h
    · obtain ⟨⟨_, k₅, d₅⟩, hfree, h⟩ := bind_eq_ok.mp h
      have h₅ := v4l2FreeBuffers_steady h₄.plain hfree
      cases h
      exact h₄.trans h₅.toUses
    · cases h; exact h₄

/-- **`v4l_video_stream (capture, 0)` refines `StopsCapture`.** -/
theorem v4lVideoStream_stops {io io' : Io} {c c' : Capture} {ret : Int} (hp : c.vdev.Plain)
    (h : v4lVideoStream env io c false = .ok (ret, c', io')) :
    StopsCapture (io.board b) c.view (io'.board b) c'.view ∧
      Steady env io.kernel c.vdev io'.kernel c'.vdev := by
  unfold v4lVideoStream at h
  rw [if_pos (by rfl)] at h
  split at h
  · next hoff =>
      cases h
      exact ⟨.idle (by simpa [Capture.view] using hoff) (.refl _), .refl hp⟩
  · next hon =>
      have hon : c.isStreaming = true := by simpa using hon
      dsimp only at h
      generalize hso : v4l2StreamOff env (io.unwatch c.vdev.fd .read).kernel c.vdev = r at h
      obtain ⟨ret₁, k₁, d₁⟩ := r
      have h₁ := v4l2StreamOff_steady hp hso
      obtain ⟨⟨ret₂, k₂, d₂⟩, hfree, h⟩ := bind_eq_ok.mp h
      have h₂ := h₁.trans (v4l2FreeBuffers_steady h₁.plain hfree)
      cases h
      have hel : Elapses ((io.board b).unwatch c.vdev.fd .read)
          ({ io.unwatch c.vdev.fd .read with kernel := k₂ }.board b) :=
        elapses_kernel (i := io.unwatch c.vdev.fd .read) h₂.keeps
      have hview : ({ c with vdev := d₂, buffers := none, index := 0, isStreaming := false } : Capture).view
          = { c.view with streaming := false, frames := none } := by
        simp only [Capture.view, h₂.same.fd, h₂.same.name]
      rw [hview]
      exact ⟨.stop hon hel, h₂⟩

/-- The frame buffers are asked for when their size can be had at all. -/
theorem mallocFrames_cases {io io' : Io} {size : Int} {r : Option Nat} (h : io.mallocFrames env size = .ok (r, io')) :
    (r = none ∧ io' = io.tick) ∨ (0 ≤ size ∧ io.malloc env = (r, io')) := by
  unfold Io.mallocFrames at h
  split at h
  · cases h
  · split at h
    · cases h; exact .inl ⟨rfl, rfl⟩
    · next hno => exact .inr ⟨Int.not_lt.mp hno, Except.ok.inj h⟩

theorem mallocFrames_spec {io io' : Io} {size : Int} {r : Option Nat}
    (h : io.mallocFrames env size = .ok (r, io')) :
    Elapses (io.board b) (io'.board b) ∧ io.kernel.Keeps io'.kernel ∧
      ∀ addr, r = some addr → addr = io.brk ∧ io'.brk = io.brk + 1 := by
  rcases mallocFrames_cases h with ⟨rfl, rfl⟩ | ⟨-, h⟩
  · exact ⟨elapses_tick io, Kernel.keeps_ask _, fun _ h => by cases h⟩
  · cases r with
    | none =>
        have := malloc_none h
        exact ⟨elapses_malloc h, by rw [this]; exact Kernel.keeps_ask _, fun _ h => by cases h⟩
    | some a =>
        obtain ⟨ha, hio⟩ := malloc_some h
        refine ⟨elapses_malloc h, by rw [hio]; exact Kernel.keeps_ask _, ?_⟩
        intro addr haddr
        cases haddr
        exact ⟨ha, by rw [hio]⟩

/-- **`v4l_video_stream (capture, 1)` refines `StartsCapture`.** -/
theorem v4lVideoStream_starts {io io' : Io} {c c' : Capture} {ret : Int} (hp : c.vdev.Plain)
    (h : v4lVideoStream env io c true = .ok (ret, c', io')) :
    StartsCapture env (io.board b) c.view (io'.board b) c'.view ∧
      Uses env io.kernel c.vdev io'.kernel c'.vdev := by
  unfold v4lVideoStream at h
  rw [if_neg (by decide)] at h
  split at h
  · cases h; exact ⟨.idle (.refl _), .refl hp⟩
  · next hoff =>
      have hoff : c.isStreaming = false := by simpa using hoff
      obtain ⟨⟨r, io₁⟩, hm, h⟩ := bind_eq_ok.mp h
      obtain ⟨hel, hk, haddr⟩ := mallocFrames_spec (b := b) hm
      cases r with
      | none =>
          -- no memory for the frames
          cases h
          exact ⟨.idle hel, (Uses.of_keeps hp hk)⟩
      | some addr =>
          obtain ⟨haddr, hbrk⟩ := haddr addr rfl
          obtain ⟨⟨ret₁, k₁, d₁⟩, hstart, h⟩ := bind_eq_ok.mp h
          have h₁ := v4lVideoStart_uses hp hstart
          have hel₁ : Elapses (io.board b) ({ io₁ with kernel := k₁ }.board b) :=
            hel.trans (elapses_kernel h₁.keeps)
          dsimp only at h
          split at h
          · -- the buffers could not be had
            cases h
            have hview : ({ c with vdev := d₁ } : Capture).view = c.view := by
              simp only [Capture.view, h₁.same.fd, h₁.same.name]
            rw [hview]
            exact ⟨.idle hel₁, (Uses.of_keeps hp hk).trans h₁⟩
          · -- the result of `v4l2_stream_on` makes no difference
            generalize hon : v4l2StreamOn env k₁ d₁ = r at h
            obtain ⟨ret₂, k₂, d₂⟩ := r
            have h₂ := v4l2StreamOn_steady h₁.plain hon
            have hel₂ : Elapses (io.board b) ({ io₁ with kernel := k₂ }.board b) :=
              hel.trans (elapses_kernel (h₁.keeps.trans h₂.keeps))
            have hu := h₁.trans h₂.toUses
            cases h
            have hview : ({ c with
                vdev := d₂
                buffers := some ⟨addr, (c.width * c.height * 2).toInt32.toInt.toNat, fun _ => 128, fun _ => 0⟩
                index := 0, isStreaming := true } : Capture).view
                = { c.view with
                    streaming := true
                    frames := some ⟨addr, frameStride c.view.width c.view.height, fun _ => 128, fun _ => 0⟩ } := by
              simp only [Capture.view, hu.same.fd, hu.same.name, frameStride]
            rw [hview]
            have hw := watches_watch (b := b) env { io₁ with kernel := k₂ } d₂.fd .read
              .captureProcess (.capture c.addr)
            have hlt := hw.brk_le
            rw [hu.same.fd] at hw hlt ⊢
            refine ⟨.start hoff ?_ ?_ rfl (hel₂.watches hw), ?_⟩
            · show io.brk ≤ addr
              exact Nat.le_of_eq haddr.symm
            · refine Nat.lt_of_lt_of_le ?_ hlt
              show addr < io₁.brk
              rw [haddr, hbrk]; exact Nat.lt_succ_self _
            · rw [watch_kernel]
              exact ((Uses.of_keeps hp hk).trans hu).trans (Steady.ask hu.plain).toUses

/-! ## Frames -/

/-- A frame whose send fails leaves no trace but the time it took. -/
theorem publish_eq (env : Env) (io : Io) (m : Message) (f : Frame) :
    (if (looperSendMessage env io m).1 = 0 then
        { (looperSendMessage env io m).2 with posted := (looperSendMessage env io m).2.posted ++ [f] }
      else (looperSendMessage env io m).2) =
    if env.write io.kernel.tick m then
      { io.tick with queue := io.queue ++ [m], sent := io.sent ++ [m], posted := io.posted ++ [f] }
    else io.tick := by
  unfold looperSendMessage
  cases env.write io.kernel.tick m with
  | false => rfl
  | true => rfl

/-- A frame that is sent is logged, one whose send fails is not. -/
theorem publish_spec (env : Env) (io : Io) (m : Message) (f : Frame) {io' : Io}
    (h : (if (looperSendMessage env io m).1 = 0 then
        { (looperSendMessage env io m).2 with posted := (looperSendMessage env io m).2.posted ++ [f] }
      else (looperSendMessage env io m).2) = io') :
    io'.kernel = io.kernel.ask ∧
      Elapses ((io.board b).publish (env.write io.kernel.tick m) m f) (io'.board b) := by
  rw [publish_eq] at h
  subst h
  cases env.write io.kernel.tick m with
  | false => exact ⟨rfl, elapses_tick io⟩
  | true =>
      refine ⟨rfl, ?_⟩
      have heq : { io.tick with
            queue := io.queue ++ [m], sent := io.sent ++ [m], posted := io.posted ++ [f] }.board b
          = { (io.board b).publish true m f with brk := io.brk, tick := io.kernel.tick + 1 } := by
        simp only [Io.board, Board.publish, if_true, List.append_assoc]
        rfl
      show Elapses _ ({ io.tick with
        queue := io.queue ++ [m], sent := io.sent ++ [m], posted := io.posted ++ [f] }.board b)
      rw [heq]
      exact .mk (Nat.le_refl _) (Nat.le_succ _)

/-- `v4l_process_buffer` converts a frame into a buffer of the capture's block and sends a pointer to it;
    a pixel format it does not know leaves everything alone. -/
theorem v4lProcessBuffer_spec {io io' : Io} {c c' : Capture} {buf : VideoBuffer} {stamp : Nat} {ret : Int}
    (h : v4lProcessBuffer env io c buf stamp = .ok (ret, c', io')) :
    c'.vdev = c.vdev ∧ c'.view = { c.view with frames := c'.buffers } ∧
      ((c'.buffers = c.buffers ∧ io' = io) ∨
        ∃ fb fb' off, c.buffers = some fb ∧ c'.buffers = some fb' ∧ fb'.addr = fb.addr ∧
          fb'.stride = fb.stride ∧ (off = 0 ∨ off = fb.stride) ∧ fb'.stamp off = stamp ∧
          io'.kernel = io.kernel.ask ∧
          Elapses ((io.board b).publish
            (env.write io.kernel.tick (.frameAvailable c.gadgetId ⟨fb.addr, off⟩))
            (.frameAvailable c.gadgetId ⟨fb.addr, off⟩) (fb'.frameAt off)) (io'.board b)) := by
  unfold v4lProcessBuffer at h
  dsimp only at h
  split at h
  · cases h; exact ⟨rfl, rfl, .inl ⟨rfl, rfl⟩⟩
  · split at h
    · next fb y hfb hy =>
        split at h
        · cases h
        · injection h with h
          injection h with _ h
          injection h with hc hio
          subst hc
          obtain ⟨hk, hel⟩ := publish_spec (b := b) env io _ _ hio
          refine ⟨rfl, rfl, .inr ⟨fb, _, _, hfb, rfl, rfl, rfl, ?_, if_pos rfl, hk, hel⟩⟩
          -- one of the two halves of the block
          have hslot : c.index.toNat % internalBufferNumber < 2 := Nat.mod_lt _ (by decide)
          rcases (by omega : c.index.toNat % internalBufferNumber = 0 ∨
            c.index.toNat % internalBufferNumber = 1) with h0 | h1
          · exact .inl (by rw [h0, Nat.mul_zero])
          · exact .inr (by rw [h1, Nat.mul_one])
    · cases h

/-- **`capture_process` refines `CaptureCalls`.** -/
theorem captureProcess_calls {io io' : Io} {c c' : Capture} (hp : c.vdev.Plain)
    (h : captureProcess env io c = .ok (c', io')) :
    CaptureCalls env (io.board b) c.view (io'.board b) c'.view ∧
      Steady env io.kernel c.vdev io'.kernel c'.vdev := by
  unfold captureProcess at h
  obtain ⟨⟨r, k₁, d₁⟩, hdq, h⟩ := bind_eq_ok.mp h
  obtain ⟨h₁, -⟩ := v4l2DequeueBuffer_steady hp hdq
  have hel₁ : Elapses (io.board b) ({ io with kernel := k₁ }.board b) := elapses_kernel h₁.keeps
  have hview : ({ c with vdev := d₁ } : Capture).view = c.view := by
    simp only [Capture.view, h₁.same.fd, h₁.same.name]
  dsimp only at h
  split at h
  · cases h
    rw [hview]
    exact ⟨.quiet hel₁, h₁⟩
  · next buf =>
      obtain ⟨⟨ret, c₂, io₂⟩, hproc, h⟩ := bind_eq_ok.mp h
      obtain ⟨hdev, hview₂, hcase⟩ := v4lProcessBuffer_spec (b := b) hproc
      rw [hview] at hview₂
      dsimp only at h
      generalize hq : v4l2QueueBuffer env io₂.kernel c₂.vdev buf = r at h
      obtain ⟨ret₃, k₃, d₃⟩ := r
      cases h
      rw [hdev] at hq
      have h₃ := v4l2QueueBuffer_steady h₁.plain hq
      have hview₃ : ({ c₂ with vdev := d₃ } : Capture).view = { c.view with frames := c₂.buffers } := by
        rw [← hview₂]
        simp only [Capture.view, h₃.same.fd, h₃.same.name, hdev]
      rw [hview₃]
      have hel₃ : Elapses (io₂.board b) ({ io₂ with kernel := k₃ }.board b) := elapses_kernel h₃.keeps
      rcases hcase with ⟨hb, rfl⟩ | ⟨fb, fb', off, hfb, hfb', haddr, hstride, hoff, hstamp, hk, hel⟩
      · -- nothing was converted
        have hsame : ({ c.view with frames := c₂.buffers } : CaptureView) = c.view := by rw [hb]; rfl
        rw [hsame]
        exact ⟨.quiet (hel₁.trans hel₃), h₁.trans h₃⟩
      · rw [hfb']
        refine ⟨.frame hfb hoff haddr hstride hstamp ?_ (((hel₁.publish _ _ _).trans hel).trans hel₃), ?_⟩
        · -- the dequeue, the send and the requeue each use up an answer
          have ht₁ := h₁.keeps.tick
          have ht₃ := h₃.keeps.tick
          rw [hk] at ht₃
          have : k₁.tick < k₁.ask.tick := Nat.lt_succ_self _
          show io.kernel.tick < k₃.tick
          have ht₃' : k₁.ask.tick ≤ k₃.tick := ht₃
          omega
        · rw [hk] at h₃
          exact h₁.trans ((Steady.ask h₁.plain).trans h₃)

/-! ## Formats and pairing -/

/-- The candidate loop either puts a format in force and takes the size over, or changes nothing the
    protocol sees. -/
theorem tryFormats_spec {fmt : PixFormat} {pfs : List UInt32} :
    ∀ {k k' : Kernel} {c c' : Capture} {ret : Int}, c.vdev.Plain →
      tryFormats env fmt pfs k c = (ret, k', c') →
      Uses env k c.vdev k' c'.vdev ∧
        ((ret = 0 ∧ c'.view = { c.view with width := fmt.width, height := fmt.height }) ∨
          (ret = -1 ∧ c'.view = c.view)) := by
  induction pfs with
  | nil =>
      intro k k' c c' ret hp h
      cases h; exact ⟨.refl hp, .inr ⟨rfl, rfl⟩⟩
  | cons pf pfs ih =>
      intro k k' c c' ret hp h
      rw [tryFormats] at h
      generalize hs : v4l2SetFormat env k c.vdev
        ⟨fmt.width, fmt.height, pf, PixFormat.FIELD_ANY, 0⟩ = r at h
      obtain ⟨ret₁, fmt₁, k₁, d₁⟩ := r
      obtain ⟨hu, -⟩ := v4l2SetFormat_uses hp hs
      dsimp only at h
      split at h
      · cases h
        refine ⟨hu, .inl ⟨rfl, ?_⟩⟩
        simp only [Capture.view, hu.same.fd, hu.same.name]
      · obtain ⟨hu', hcase⟩ := ih hu.plain h
        have hview : ({ c with vdev := d₁ } : Capture).view = c.view := by
          simp only [Capture.view, hu.same.fd, hu.same.name]
        rw [hview] at hcase
        exact ⟨hu.trans hu', hcase⟩

theorem v4lVideoTrySetFormat_spec {k k' : Kernel} {c c' : Capture} {fmt : PixFormat} {ret : Int}
    (hp : c.vdev.Plain) (h : v4lVideoTrySetFormat env k c fmt = (ret, k', c')) :
    Uses env k c.vdev k' c'.vdev ∧
      ((ret = 0 ∧ c'.view = { c.view with width := fmt.width, height := fmt.height }) ∨
        (ret = -1 ∧ c'.view = c.view)) := by
  unfold v4lVideoTrySetFormat at h
  split at h
  · cases h; exact ⟨.refl hp, .inr ⟨rfl, rfl⟩⟩
  · exact tryFormats_spec hp h

/-- The holder of `id`, the first capture paired with it, turns the format down. -/
def FmtRefused (env : Env) (k : Kernel) (captures : List Capture) (id : UInt32) (fmt : PixFormat) : Prop :=
  ∃ pre c post, SplitsAt (·.gadgetId = id) captures pre c post ∧
    (v4lVideoTrySetFormat env k c fmt).1 ≠ 0

/-- All captures' buffers are plain. -/
def AllPlain (captures : List Capture) : Prop := ∀ c ∈ captures, c.vdev.Plain

theorem AllPlain.replace {pre post : List Capture} {c c' : Capture} (h : AllPlain (pre ++ c :: post))
    (hc : c'.vdev.Plain) : AllPlain (pre ++ c' :: post) := by
  intro x hx
  rcases List.mem_append.mp hx with hx | hx
  · exact h x (by simp [hx])
  · rcases List.mem_cons.mp hx with rfl | hx
    · exact hc
    · exact h x (by simp [hx])

theorem AllPlain.head {c c' : Capture} {cs : List Capture} (h : AllPlain (c :: cs))
    (hc : c'.vdev.Plain) : AllPlain (c' :: cs) :=
  fun x hx => (List.mem_cons.mp hx).elim (fun heq => heq ▸ hc) fun hx => h x (List.mem_cons_of_mem _ hx)

theorem setFmtHolder_spec {id : UInt32} {fmt : PixFormat} {cs : List Capture} :
    ∀ {k k' : Kernel} {cs' : List Capture} {taken : Bool}, AllPlain cs →
      setFmtHolder env id fmt cs k = (taken, cs', k') →
      k.Keeps k' ∧ AllPlain cs' ∧
        ((taken = true ∧ ∃ pre c post, SplitsAt (·.gadgetId = id) (cs.map Capture.view) pre c post ∧
            cs'.map Capture.view = pre ++ { c with width := fmt.width, height := fmt.height } :: post) ∨
          (taken = false ∧
            Releases (FmtRefused env k cs id fmt) id (cs.map Capture.view) (cs'.map Capture.view))) := by
  induction cs with
  | nil =>
      intro k k' cs' taken hp h
      cases h
      exact ⟨.refl k, hp, .inr ⟨rfl, .none (fun c hc => by cases hc)⟩⟩
  | cons c cs ih =>
      intro k k' cs' taken hp h
      rw [setFmtHolder] at h
      by_cases hid : c.gadgetId = id
      · -- `c` is the holder
        rw [if_pos hid] at h
        generalize ht : v4lVideoTrySetFormat env k c fmt = r at h
        obtain ⟨ret, k₁, c₁⟩ := r
        obtain ⟨hu, hcase⟩ := v4lVideoTrySetFormat_spec (hp c List.mem_cons_self) ht
        have hsplit : SplitsAt (·.gadgetId = id) ((c :: cs).map Capture.view) [] c.view
            (cs.map Capture.view) := ⟨rfl, hid, fun x hx => by cases hx⟩
        have hplain : AllPlain (c₁ :: cs) := AllPlain.head hp hu.plain
        dsimp only at h
        rcases hcase with ⟨rfl, hview⟩ | ⟨rfl, hview⟩
        · rw [if_pos rfl] at h
          cases h
          refine ⟨hu.keeps, hplain, .inl ⟨rfl, [], c.view, cs.map Capture.view, hsplit, ?_⟩⟩
          rw [List.map_cons, hview, List.nil_append]
        · rw [if_neg (by decide)] at h
          cases h
          have hplain' : AllPlain ({ c₁ with gadgetId := 0 } :: cs) :=
            AllPlain.head hp hu.plain
          refine ⟨hu.keeps, hplain', .inr ⟨rfl, ?_⟩⟩
          have href : FmtRefused env k (c :: cs) id fmt :=
            ⟨[], c, cs, ⟨rfl, hid, fun x hx => by cases hx⟩, by rw [ht]; show (-1 : Int) ≠ 0; decide⟩
          have hrel := Releases.refused href hsplit
          have hzero : ({ c₁ with gadgetId := 0 } : Capture).view = { c.view with gadgetId := 0 } := by
            rw [← hview]; rfl
          show Releases _ id ((c :: cs).map Capture.view)
            (({ c₁ with gadgetId := 0 } : Capture).view :: cs.map Capture.view)
          rw [hzero]
          exact hrel
      · -- the holder is further on
        rw [if_neg hid] at h
        generalize hr : setFmtHolder env id fmt cs k = r at h
        obtain ⟨taken₁, cs₁, k₁⟩ := r
        cases h
        obtain ⟨hk, hplain, hcase⟩ := ih (fun x hx => hp x (List.mem_cons_of_mem _ hx)) hr
        refine ⟨hk, ?_, ?_⟩
        · intro x hx
          rcases List.mem_cons.mp hx with rfl | hx
          · exact hp x List.mem_cons_self
          · exact hplain x hx
        · have hskip : ∀ {pre : List CaptureView}, (∀ x ∈ pre, ¬x.gadgetId = id) →
              ∀ x ∈ c.view :: pre, ¬x.gadgetId = id := by
            intro pre hpre x hx
            rcases List.mem_cons.mp hx with rfl | hx
            · exact hid
            · exact hpre x hx
          rcases hcase with ⟨ht, pre, c₂, post, hs, heq⟩ | ⟨ht, hrel⟩
          · refine .inl ⟨ht, c.view :: pre, c₂, post, ⟨?_, hs.hit, hskip hs.miss⟩, ?_⟩
            · rw [List.map_cons, hs.eq]; rfl
            · rw [List.map_cons, heq]; rfl
          · refine .inr ⟨ht, ?_⟩
            rw [List.map_cons, List.map_cons]
            generalize cs₁.map Capture.view = vs₁ at hrel
            cases hrel with
            | none hnone => exact .none (hskip hnone)
            | refused href hs =>
                have href' : FmtRefused env k (c :: cs) id fmt := by
                  obtain ⟨pre, c₃, post, hs₃, hne⟩ := href
                  refine ⟨c :: pre, c₃, post, ⟨by rw [hs₃.eq]; rfl, hs₃.hit, ?_⟩, hne⟩
                  intro x hx
                  rcases List.mem_cons.mp hx with rfl | hx
                  · exact hid
                  · exact hs₃.miss x hx
                exact .refused href' ⟨by rw [hs.eq]; rfl, hs.hit, hskip hs.miss⟩

theorem setFmtFree_spec {id : UInt32} {fmt : PixFormat} {cs : List Capture} :
    ∀ {k k' : Kernel} {cs' : List Capture} {taken : Bool}, AllPlain cs →
      setFmtFree env id fmt cs k = (taken, cs', k') →
      k.Keeps k' ∧ AllPlain cs' ∧
        ((taken = true ∧ ∃ pre c post, cs.map Capture.view = pre ++ c :: post ∧ c.gadgetId = 0 ∧
            cs'.map Capture.view
              = pre ++ { c with gadgetId := id, width := fmt.width, height := fmt.height } :: post) ∨
          (taken = false ∧ cs'.map Capture.view = cs.map Capture.view)) := by
  induction cs with
  | nil =>
      intro k k' cs' taken hp h
      cases h
      exact ⟨.refl k, hp, .inr ⟨rfl, rfl⟩⟩
  | cons c cs ih =>
      intro k k' cs' taken hp h
      -- passing an element by leaves its view alone
      have hskip : ∀ {k₁ : Kernel} {c₁ : Capture} {r : Bool × List Capture × Kernel},
          setFmtFree env id fmt cs k₁ = r → k.Keeps k₁ → c₁.view = c.view → c₁.vdev.Plain →
          k.Keeps r.2.2 ∧ AllPlain (c₁ :: r.2.1) ∧
            ((r.1 = true ∧ ∃ pre c₂ post, (c :: cs).map Capture.view = pre ++ c₂ :: post ∧
                c₂.gadgetId = 0 ∧ (c₁ :: r.2.1).map Capture.view
                  = pre ++ { c₂ with gadgetId := id, width := fmt.width, height := fmt.height } :: post) ∨
              (r.1 = false ∧ (c₁ :: r.2.1).map Capture.view = (c :: cs).map Capture.view)) := by
        intro k₁ c₁ r hr hk hview hc₁
        obtain ⟨taken₁, cs₁, k₂⟩ := r
        obtain ⟨hk₂, hplain, hcase⟩ := ih (fun x hx => hp x (List.mem_cons_of_mem _ hx)) hr
        refine ⟨hk.trans hk₂, ?_, ?_⟩
        · intro x hx
          rcases List.mem_cons.mp hx with rfl | hx
          · exact hc₁
          · exact hplain x hx
        · rcases hcase with ⟨ht, pre, c₂, post, heq, h0, heq'⟩ | ⟨ht, heq⟩
          · refine .inl ⟨ht, c.view :: pre, c₂, post, by rw [List.map_cons, heq]; rfl, h0, ?_⟩
            rw [List.map_cons, heq', hview]; rfl
          · exact .inr ⟨ht, by rw [List.map_cons, List.map_cons, heq, hview]⟩
      rw [setFmtFree] at h
      by_cases hfree : c.gadgetId = 0
      · rw [if_pos hfree] at h
        generalize ht : v4lVideoTrySetFormat env k c fmt = r at h
        obtain ⟨ret, k₁, c₁⟩ := r
        obtain ⟨hu, hcase⟩ := v4lVideoTrySetFormat_spec (hp c List.mem_cons_self) ht
        dsimp only at h
        rcases hcase with ⟨rfl, hview⟩ | ⟨rfl, hview⟩
        · rw [if_neg (by decide)] at h
          cases h
          refine ⟨hu.keeps, AllPlain.head hp hu.plain, .inl ⟨rfl, [], c.view,
            cs.map Capture.view, rfl, hfree, ?_⟩⟩
          have hpair : ({ c₁ with gadgetId := id } : Capture).view
              = { c.view with gadgetId := id, width := fmt.width, height := fmt.height } := by
            show ({ c₁.view with gadgetId := id } : CaptureView) = _
            rw [hview]
          rw [List.map_cons, hpair, List.nil_append]
        · rw [if_pos (by decide)] at h
          generalize hr : setFmtFree env id fmt cs k₁ = r at h
          cases h
          exact hskip hr hu.keeps hview hu.plain
      · rw [if_neg hfree] at h
        generalize hr : setFmtFree env id fmt cs k = r at h
        cases h
        exact hskip hr (.refl k) rfl (hp c List.mem_cons_self)

/-! ## Messages -/

/-- What a successful `v4l_capture_attach` appends. -/
structure CaptureAttached (b : List Message) (name : DevName) (io : Io) (c : Capture) (io' : Io) :
    Prop where
  plain : c.vdev.Plain
  name : c.view.name = baseName (v4l2Path name)
  off : c.view.streaming = false
  unpaired : c.view.gadgetId = 0
  size : c.view.width = 0 ∧ c.view.height = 0
  frames : c.view.frames = none
  fresh : c.view.fd ∉ (io.board b).opened
  addr : (io.board b).brk ≤ c.view.addr
  lt : c.view.addr < (io'.board b).brk
  board : Elapses ((io.board b).openFd c.view.fd) (io'.board b)

theorem v4lCaptureAttach_spec {io io' : Io} {captures captures' : List Capture} {name : DevName}
    {ret : Int} (h : v4lCaptureAttach env io captures name = (ret, captures', io')) :
    (ret = -1 ∧ captures' = captures ∧ Elapses (io.board b) (io'.board b)) ∨
      (ret = 0 ∧ ∃ c, captures' = captures ++ [c] ∧ CaptureAttached b name io c io') := by
  unfold v4lCaptureAttach at h
  generalize hopen : v4l2Open env io.kernel name = r at h
  obtain ⟨r, k⟩ := r
  rcases v4l2Open_spec hopen with ⟨rfl, hk⟩ | ⟨d, rfl, hd⟩
  · cases h; exact .inl ⟨rfl, rfl, elapses_kernel hk⟩
  · have hel := elapses_opened (b := b) hd
    dsimp only at h
    split at h
    · cases h; exact .inl ⟨rfl, rfl, elapses_close hel⟩
    · split at h
      · next hm => cases h; exact .inl ⟨rfl, rfl, elapses_close (hel.trans (elapses_malloc hm))⟩
      · next addr io₁ hm =>
          obtain ⟨haddr, hio⟩ := malloc_some hm
          have hbrk : io₁.brk = io.brk + 1 := by rw [hio]
          cases h
          refine .inr ⟨rfl, .fresh addr d, rfl, ?_⟩
          refine ⟨hd.plain, hd.name, rfl, rfl, ⟨rfl, rfl⟩, rfl, hd.fresh, ?_, ?_, hel.trans (elapses_malloc hm)⟩
          · show io.brk ≤ addr
            exact Nat.le_of_eq haddr.symm
          · show addr < io'.brk
            rw [haddr, hbrk]; exact Nat.lt_succ_self _

theorem v4lCaptureDetach_spec {io io' : Io} {captures captures' : List Capture} {name : DevName}
    {ret : Int} (hp : AllPlain captures)
    (h : v4lCaptureDetach env io captures name = .ok (ret, captures', io')) :
    (ret = -1 ∧ captures' = captures ∧ io' = io ∧ ∀ c ∈ captures, c.vdev.name ≠ name) ∨
      (ret = 0 ∧ ∃ pre c post c' w₁, SplitsAt (·.vdev.name = name) captures pre c post ∧
        captures' = pre ++ post ∧ StopsCapture (io.board b) c.view w₁ c' ∧
        Elapses (w₁.closeFd c.vdev.fd) (io'.board b)) := by
  unfold v4lCaptureDetach at h
  split at h
  · next hnone =>
      cases h
      refine .inl ⟨rfl, rfl, rfl, fun c hc => ?_⟩
      exact splitFirst_decide_none.mp hnone c hc
  · next pre c post hs =>
      have hsplit := splitFirst_decide.mp hs
      obtain ⟨⟨ret₁, c₁, io₁⟩, hstream, h⟩ := bind_eq_ok.mp h
      obtain ⟨hstop, hu⟩ := v4lVideoStream_stops (b := b) (hp c hsplit.mem) hstream
      cases h
      refine .inr ⟨rfl, pre, c, post, c₁.view, io₁.board b, hsplit, rfl, hstop, ?_⟩
      rw [← hu.same.fd]
      exact .mk (Nat.le_refl _) (Nat.le_succ _)

theorem v4lCaptureStream_spec {io io' : Io} {captures captures' : List Capture} {id : UInt32} {on : Bool}
    {ret : Int} (hp : AllPlain captures)
    (h : v4lCaptureStream env io captures id on = .ok (ret, captures', io')) :
    (captures' = captures ∧ io' = io ∧ ∀ c ∈ captures, c.gadgetId ≠ id) ∨
      ∃ pre c post c', SplitsAt (·.gadgetId = id) captures pre c post ∧ captures' = pre ++ c' :: post ∧
        AllPlain captures' ∧
        (on = true → StartsCapture env (io.board b) c.view (io'.board b) c'.view) ∧
        (on = false → StopsCapture (io.board b) c.view (io'.board b) c'.view) := by
  unfold v4lCaptureStream at h
  split at h
  · next hnone =>
      cases h
      refine .inl ⟨rfl, rfl, fun c hc => ?_⟩
      exact splitFirst_decide_none.mp hnone c hc
  · next pre c post hs =>
      have hsplit := splitFirst_decide.mp hs
      obtain ⟨⟨ret₁, c₁, io₁⟩, hstream, h⟩ := bind_eq_ok.mp h
      cases h
      have hplain : ∀ {x : Capture}, x.vdev.Plain → AllPlain (pre ++ x :: post) := fun hx =>
        AllPlain.replace (hsplit.eq ▸ hp) hx
      cases on with
      | true =>
          obtain ⟨hstart, hu⟩ := v4lVideoStream_starts (b := b) (hp c hsplit.mem) hstream
          exact .inr ⟨pre, c, post, c₁, hsplit, rfl, hplain hu.plain, fun _ => hstart, fun h => by cases h⟩
      | false =>
          obtain ⟨hstop, hu⟩ := v4lVideoStream_stops (b := b) (hp c hsplit.mem) hstream
          exact .inr ⟨pre, c, post, c₁, hsplit, rfl, hplain hu.plain, fun h => (by cases h), fun _ => hstop⟩

theorem v4lCaptureDetachGadget_spec {io io' : Io} {captures captures' : List Capture} {id : UInt32}
    {ret : Int} (hp : AllPlain captures)
    (h : v4lCaptureDetachGadget env io captures id = .ok (ret, captures', io')) :
    (captures' = captures ∧ io' = io ∧ ∀ c ∈ captures, c.gadgetId ≠ id) ∨
      ∃ pre c post, ∃ c' : Capture, SplitsAt (·.gadgetId = id) captures pre c post ∧
        captures' = pre ++ { c' with gadgetId := 0 } :: post ∧ AllPlain captures' ∧
        StopsCapture (io.board b) c.view (io'.board b) c'.view := by
  unfold v4lCaptureDetachGadget at h
  split at h
  · next hnone =>
      cases h
      refine .inl ⟨rfl, rfl, fun c hc => ?_⟩
      exact splitFirst_decide_none.mp hnone c hc
  · next pre c post hs =>
      have hsplit := splitFirst_decide.mp hs
      obtain ⟨⟨ret₁, c₁, io₁⟩, hstream, h⟩ := bind_eq_ok.mp h
      cases h
      obtain ⟨hstop, hu⟩ := v4lVideoStream_stops (b := b) (hp c hsplit.mem) hstream
      refine .inr ⟨pre, c, post, c₁, hsplit, rfl, ?_, hstop⟩
      exact AllPlain.replace (hsplit.eq ▸ hp) (show ({ c₁ with gadgetId := 0 } : Capture).vdev.Plain from hu.plain)

/-- `v4l_capture_set_fmt`: the holder takes the format, or is released and the first unpaired capture that
    takes it is paired. -/
theorem v4lCaptureSetFmt_spec {io io' : Io} {captures captures' : List Capture} {id : UInt32}
    {fmt : PixFormat} {ret : Int} (hp : AllPlain captures)
    (h : v4lCaptureSetFmt env io captures id fmt = (ret, captures', io')) :
    AllPlain captures' ∧ Elapses (io.board b) (io'.board b) ∧
      ((∃ pre c post, SplitsAt (·.gadgetId = id) (captures.map Capture.view) pre c post ∧
          captures'.map Capture.view
            = pre ++ { c with width := fmt.width, height := fmt.height } :: post) ∨
        ∃ cs, Releases (FmtRefused env io.kernel captures id fmt) id (captures.map Capture.view) cs ∧
          ((∃ pre c post, cs = pre ++ c :: post ∧ c.gadgetId = 0 ∧ captures'.map Capture.view
              = pre ++ { c with gadgetId := id, width := fmt.width, height := fmt.height } :: post) ∨
            captures'.map Capture.view = cs)) := by
  unfold v4lCaptureSetFmt at h
  generalize hh : setFmtHolder env id fmt captures io.kernel = r at h
  obtain ⟨taken, cs₁, k₁⟩ := r
  obtain ⟨hk₁, hp₁, hcase⟩ := setFmtHolder_spec hp hh
  dsimp only at h
  rcases hcase with ⟨rfl, hheld⟩ | ⟨rfl, hrel⟩
  · rw [if_pos rfl] at h
    cases h
    exact ⟨hp₁, elapses_kernel hk₁, .inl hheld⟩
  · rw [if_neg (by decide)] at h
    generalize hf : setFmtFree env id fmt cs₁ k₁ = r at h
    obtain ⟨taken₂, cs₂, k₂⟩ := r
    obtain ⟨hk₂, hp₂, hcase⟩ := setFmtFree_spec hp₁ hf
    cases h
    refine ⟨hp₂, elapses_kernel (hk₁.trans hk₂), .inr ⟨cs₁.map Capture.view, hrel, ?_⟩⟩
    exact hcase.imp And.right And.right

end Uvcd
