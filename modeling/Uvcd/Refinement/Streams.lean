import Uvcd.Refinement.Starting

/-!
# `Refinement.Streams` — the two stream functions

`UvcStreams` and `V4lStreams` are the inversions of `uvc_video_stream` and `v4l_video_stream`: one constructor
for each way through them. What they do to a device is then a lemma on these.

A stop releases the device once `VIDIOC_STREAMOFF` is answered, a failed start once the step that failed is.
`Gadget.Spared` and `Capture.Spared` say that the driver consents to the release, if there is one.
-/

namespace Uvcd

open Machine

variable {env : Env} {k k' : Kernel} {d d' : Device} {io io' : Io} {g g' : Gadget} {c c' : Capture}

/-! ## Starting a device -/

/-- Giving back what a start has got. -/
theorem giveBack_frees (hp : d.Plain) {ret ret' : Int} (h : giveBack env (ret, k, d) = .ok (ret', k', d')) :
    Works k d k' d' ∧ d'.Plain ∧
      ((¬ret < 0 ∧ ret' = 0 ∧ k' = k ∧ d' = d) ∨ (ret < 0 ∧ ret' = ret ∧ ∃ r, Frees env k d r k' d')) := by
  by_cases hret : ret < 0
  · rw [giveBack_failed hret] at h
    obtain ⟨⟨r, k₁, d₁⟩, hfree, h⟩ := bind_eq_ok.mp h
    cases h
    obtain ⟨hw, hf⟩ := v4l2FreeBuffers_frees hp hfree
    exact ⟨hw, (v4l2FreeBuffers_steady hp hfree).plain, .inr ⟨hret, rfl, r, hf⟩⟩
  · rw [giveBack_ok hret] at h
    cases h
    exact ⟨.refl _ _, hp, .inl ⟨hret, rfl, rfl, rfl⟩⟩

/-- What a start up to `VIDIOC_STREAMON` comes to. -/
theorem uvcAcquire_acquires (h0 : g.vdev.nbufs = 0) {ret : Int} (h : uvcAcquire env k g = .ok (ret, k', d')) :
    Works k g.vdev k' d' ∧ d'.Plain ∧ ∃ ret₁ k₁ d₁, Acquires env k g.vdev ret₁ k₁ d₁ ∧
      d₁.file.streaming = g.vdev.file.streaming ∧ d'.nbufs = d₁.nbufs ∧
      ((ret₁ < 0 ∧ ret = ret₁ ∧ k' = k₁ ∧ d' = d₁) ∨
        (¬ret₁ < 0 ∧ v4l2StreamOn env k₁ d₁ = (ret, k', d'))) := by
  obtain ⟨⟨ret₁, k₁, d₁⟩, hacq, h⟩ := bind_eq_ok.mp h
  obtain ⟨hw, hp, hst, hacq⟩ := acquire_acquires (fillAndQueue_queuesBuffers env g) h0 hacq
  dsimp only at h
  split at h
  · next hret =>
      cases h
      exact ⟨hw, hp, _, _, _, hacq, hst, rfl, .inl ⟨hret, rfl, rfl, rfl⟩⟩
  · next hret =>
      have hon : v4l2StreamOn env k₁ d₁ = (ret, k', d') := Except.ok.inj h
      have hn : d'.nbufs = d₁.nbufs := by
        unfold v4l2StreamOn at hon
        dsimp only at hon
        split at hon <;> · cases hon; rfl
      exact ⟨hw.trans (v4l2StreamOn_works hon), (v4l2StreamOn_steady hp hon).plain, _, _, _, hacq, hst, hn,
        .inr ⟨hret, hon⟩⟩

theorem uvcVideoStart_works {ret : Int} (h : uvcVideoStart env k g = .ok (ret, k', d')) :
    Works k g.vdev k' d' := by
  by_cases h0 : g.vdev.nbufs = 0
  · rw [uvcVideoStart_eq h0] at h
    obtain ⟨⟨ret₁, k₁, d₁⟩, hacq, h⟩ := bind_eq_ok.mp h
    obtain ⟨hw, hp₁, -⟩ := uvcAcquire_acquires h0 hacq
    exact hw.trans (giveBack_frees hp₁ h).1
  · rw [uvcVideoStart_busy h0] at h
    cases h
    exact .refl _ _

theorem v4lVideoStart_works {ret : Int} (h : v4lVideoStart env k d = .ok (ret, k', d')) :
    Works k d k' d' := by
  by_cases h0 : d.nbufs = 0
  · rw [v4lVideoStart_eq h0] at h
    obtain ⟨⟨ret₁, k₁, d₁⟩, hacq, h⟩ := bind_eq_ok.mp h
    obtain ⟨hw, hp₁, -⟩ := acquire_acquires (queueAll_queuesBuffers env) h0 hacq
    exact hw.trans (giveBack_frees hp₁ h).1
  · rw [v4lVideoStart_busy h0] at h
    cases h
    exact .refl _ _

/-! ## `uvc_video_stream` -/

/-- **What `uvc_video_stream` does.** -/
inductive UvcStreams (env : Env) (io : Io) (g : Gadget) : Bool → Int → Gadget → Io → Prop
  | idle {on : Bool} (h : g.isStreaming = on) : UvcStreams env io g on 0 g io
  | stopped {r : Int} {k₁ k : Kernel} {d₁ d : Device} (hon : g.isStreaming = true) {r₁ : Int}
      (hoff : v4l2StreamOff env io.kernel g.vdev = (r₁, k₁, d₁))
      (hfree : v4l2FreeBuffers env k₁ d₁ = .ok (r, k, d)) :
      UvcStreams env io g false 0 { g with vdev := d, isStreaming := false }
        (Io.post env { io.unwatch g.vdev.fd .write with kernel := k } (.streamOff g.id))
  | failed {ret : Int} {k : Kernel} {d : Device} (hoff : g.isStreaming = false) (hret : ret < 0)
      (hstart : uvcVideoStart env io.kernel g = .ok (ret, k, d)) :
      UvcStreams env io g true ret { g with vdev := d } { io with kernel := k }
  | started {k : Kernel} {d : Device} (hoff : g.isStreaming = false)
      (hstart : uvcVideoStart env io.kernel g = .ok (0, k, d)) :
      UvcStreams env io g true 0 { g with vdev := d, isStreaming := true }
        ((Io.watch env { io with kernel := k } d.fd .write .uvcVideoProcess (.gadget g.addr)).post env
          (.streamOn g.id))

theorem uvcVideoStart_ret {ret : Int} (h : uvcVideoStart env k g = .ok (ret, k', d')) :
    ret < 0 ∨ ret = 0 := by
  by_cases h0 : g.vdev.nbufs = 0
  · rw [uvcVideoStart_eq h0] at h
    obtain ⟨⟨ret₁, k₁, d₁⟩, hacq, h⟩ := bind_eq_ok.mp h
    obtain ⟨-, hp, -⟩ := uvcAcquire_acquires h0 hacq
    obtain ⟨-, -, ⟨-, hret, -⟩ | ⟨hlt, hret, -⟩⟩ := giveBack_frees hp h
    · exact .inr hret
    · exact .inl (hret ▸ hlt)
  · rw [uvcVideoStart_busy h0] at h
    cases h
    exact .inl (Errno.neg_lt _)

theorem uvcVideoStream_streams {on : Bool} {ret : Int}
    (h : uvcVideoStream env io g on = .ok (ret, g', io')) : UvcStreams env io g on ret g' io' := by
  unfold uvcVideoStream at h
  cases on with
  | false =>
      rw [if_pos (show (!false) = true from rfl)] at h
      cases hon : g.isStreaming with
      | false =>
          rw [if_pos (by rw [hon]; rfl)] at h
          cases h
          exact .idle hon
      | true =>
          rw [if_neg (by rw [hon]; decide)] at h
          obtain ⟨⟨r, k, d⟩, hfree, h⟩ := bind_eq_ok.mp h
          cases h
          exact .stopped hon rfl hfree
  | true =>
      rw [if_neg (show ¬(!true) = true by decide)] at h
      cases hoff : g.isStreaming with
      | true =>
          rw [if_pos hoff] at h
          cases h
          exact .idle hoff
      | false =>
          rw [if_neg (by rw [hoff]; decide)] at h
          obtain ⟨⟨ret₁, k, d⟩, hstart, h⟩ := bind_eq_ok.mp h
          dsimp only at h
          split at h
          · next hret =>
              cases h
              exact .failed hoff hret hstart
          · next hret =>
              obtain rfl := (uvcVideoStart_ret hstart).resolve_left hret
              cases h
              exact .started hoff hstart

/-- The stream functions leave a gadget's other fields alone. -/
theorem UvcStreams.gadget {on : Bool} {ret : Int} (h : UvcStreams env io g on ret g' io') :
    g' = { g with vdev := g'.vdev, isStreaming := g'.isStreaming } := by
  cases h with
  | idle h => rfl
  | stopped hon hoff hfree => rfl
  | failed hoff hret hstart => rfl
  | started hoff hstart => rfl

/-- A post and a registration take time. -/
theorem works_post {m : Message} (h : Works k d io.kernel d') : Works k d (io.post env m).kernel d' := by
  rw [post_kernel]
  exact h.trans (.ask _ _)

theorem works_watch {fd : Nat} {type : EventType} {callback : Callback} {priv : Priv}
    (h : Works k d io.kernel d') : Works k d (io.watch env fd type callback priv).kernel d' := by
  rw [watch_kernel]
  exact h.trans (.ask _ _)

theorem UvcStreams.works {on : Bool} {ret : Int} (h : UvcStreams env io g on ret g' io')
    (hp : g.vdev.Plain) : Works io.kernel g.vdev io'.kernel g'.vdev := by
  cases h with
  | idle h => exact .refl _ _
  | stopped hon hoff hfree =>
      have hw := v4l2StreamOff_works hoff
      have hp₁ := (v4l2StreamOff_steady hp hoff).plain
      exact works_post (hw.trans (v4l2FreeBuffers_frees hp₁ hfree).1)
  | failed hoff hret hstart => exact uvcVideoStart_works hstart
  | started hoff hstart => exact works_post (works_watch (uvcVideoStart_works hstart))

/-! ## `v4l_video_stream` -/

/-- **What `v4l_video_stream` does.** -/
inductive V4lStreams (env : Env) (io : Io) (c : Capture) : Bool → Int → Capture → Io → Prop
  | idle {on : Bool} (h : c.isStreaming = on) : V4lStreams env io c on 0 c io
  | stopped {r r₁ : Int} {k₁ k : Kernel} {d₁ d : Device} (hon : c.isStreaming = true)
      (hoff : v4l2StreamOff env io.kernel c.vdev = (r₁, k₁, d₁))
      (hfree : v4l2FreeBuffers env k₁ d₁ = .ok (r, k, d)) :
      V4lStreams env io c false 0 { c with vdev := d, buffers := none, index := 0, isStreaming := false }
        { io.unwatch c.vdev.fd .read with kernel := k }
  | nomem {io₁ : Io} (hoff : c.isStreaming = false)
      (hmem : io.mallocFrames env (c.width * c.height * 2).toInt32.toInt = .ok (none, io₁)) :
      V4lStreams env io c true Errno.ENOMEM.neg c io₁
  | failed {ret : Int} {addr : Nat} {io₁ : Io} {k : Kernel} {d : Device} (hoff : c.isStreaming = false)
      (hmem : io.mallocFrames env (c.width * c.height * 2).toInt32.toInt = .ok (some addr, io₁)) (hret : ret < 0)
      (hstart : v4lVideoStart env io₁.kernel c.vdev = .ok (ret, k, d)) :
      V4lStreams env io c true ret { c with vdev := d } { io₁ with kernel := k }
  | started {addr : Nat} {io₁ : Io} {k₁ k : Kernel} {d₁ d : Device} {r : Int} (hoff : c.isStreaming = false)
      (hmem : io.mallocFrames env (c.width * c.height * 2).toInt32.toInt = .ok (some addr, io₁))
      (hstart : v4lVideoStart env io₁.kernel c.vdev = .ok (0, k₁, d₁))
      (hon : v4l2StreamOn env k₁ d₁ = (r, k, d)) :
      V4lStreams env io c true 0
        { c with
          vdev := d
          buffers := some ⟨addr, (c.width * c.height * 2).toInt32.toInt.toNat, fun _ => 128, fun _ => 0⟩
          index := 0, isStreaming := true }
        (Io.watch env { io₁ with kernel := k } d.fd .read .captureProcess (.capture c.addr))

theorem v4lVideoStart_ret {ret : Int} (h : v4lVideoStart env k d = .ok (ret, k', d')) : ret < 0 ∨ ret = 0 := by
  by_cases h0 : d.nbufs = 0
  · rw [v4lVideoStart_eq h0] at h
    obtain ⟨⟨ret₁, k₁, d₁⟩, hacq, h⟩ := bind_eq_ok.mp h
    obtain ⟨-, hp, -⟩ := acquire_acquires (queueAll_queuesBuffers env) h0 hacq
    obtain ⟨-, -, ⟨-, hret, -⟩ | ⟨hlt, hret, -⟩⟩ := giveBack_frees hp h
    · exact .inr hret
    · exact .inl (hret ▸ hlt)
  · rw [v4lVideoStart_busy h0] at h
    cases h
    exact .inl (Errno.neg_lt _)

theorem v4lVideoStream_streams {on : Bool} {ret : Int}
    (h : v4lVideoStream env io c on = .ok (ret, c', io')) : V4lStreams env io c on ret c' io' := by
  unfold v4lVideoStream at h
  cases on with
  | false =>
      rw [if_pos (show (!false) = true from rfl)] at h
      cases hon : c.isStreaming with
      | false =>
          rw [if_pos (by rw [hon]; rfl)] at h
          cases h
          exact .idle hon
      | true =>
          rw [if_neg (by rw [hon]; decide)] at h
          obtain ⟨⟨r, k, d⟩, hfree, h⟩ := bind_eq_ok.mp h
          cases h
          exact .stopped hon rfl hfree
  | true =>
      rw [if_neg (show ¬(!true) = true by decide)] at h
      cases hoff : c.isStreaming with
      | true =>
          rw [if_pos hoff] at h
          cases h
          exact .idle hoff
      | false =>
          rw [if_neg (by rw [hoff]; decide)] at h
          obtain ⟨⟨r, io₁⟩, hmem, h⟩ := bind_eq_ok.mp h
          cases r with
          | none =>
              cases h
              exact .nomem hoff hmem
          | some addr =>
              obtain ⟨⟨ret₁, k₁, d₁⟩, hstart, h⟩ := bind_eq_ok.mp h
              dsimp only at h
              split at h
              · next hret =>
                  cases h
                  exact .failed hoff hmem hret hstart
              · next hret =>
                  obtain rfl := (v4lVideoStart_ret hstart).resolve_left hret
                  cases h
                  exact .started hoff hmem hstart rfl

/-- Allocating the frame buffers takes time. -/
theorem mallocFrames_kernel {size : Int} {r : Option Nat} {io₁ : Io} (h : io.mallocFrames env size = .ok (r, io₁)) :
    io₁.kernel = io.kernel.ask := by
  rcases mallocFrames_cases h with ⟨-, rfl⟩ | ⟨-, h⟩
  · rfl
  · unfold Io.malloc at h
    split at h <;> · cases h; rfl

theorem V4lStreams.works {on : Bool} {ret : Int} (h : V4lStreams env io c on ret c' io')
    (hp : c.vdev.Plain) : Works io.kernel c.vdev io'.kernel c'.vdev := by
  have hask : ∀ {size : Int} {r : Option Nat} {io₁ : Io}, io.mallocFrames env size = .ok (r, io₁) →
      Works io.kernel c.vdev io₁.kernel c.vdev := fun hmem => by
    rw [mallocFrames_kernel hmem]
    exact .ask _ _
  cases h with
  | idle h => exact .refl _ _
  | stopped hon hoff hfree =>
      have hp₁ := (v4l2StreamOff_steady hp hoff).plain
      exact (v4l2StreamOff_works hoff).trans (v4l2FreeBuffers_frees hp₁ hfree).1
  | nomem hoff hmem => exact hask hmem
  | failed hoff hmem hret hstart => exact (hask hmem).trans (v4lVideoStart_works hstart)
  | started hoff hmem hstart hon =>
      exact works_watch (((hask hmem).trans (v4lVideoStart_works hstart)).trans (v4l2StreamOn_works hon))

end Uvcd
