import Uvcd.Protocol.Board

/-!
# `Protocol.Formats` — the one format on offer, and the frame buffers it makes

Every `MSG_VIDEO_SET_FMT` asks for the one frame size the gadgets offer. A capture therefore has that size
or none yet, and it has none only while it was never paired; its frame buffers are as long as a frame of
that size, unless it is started without one.
-/

namespace Uvcd

open Split

/-- The length of a frame of the one format the daemon offers, `320 * 240 * 2`. -/
def offeredSize : Nat := 153600

/-- A capture has the size on offer or none; a paired one has it, and so have its frame buffers. -/
structure CaptureView.Offered (c : CaptureView) : Prop where
  size : (c.width = 0 ∧ c.height = 0) ∨ (c.width = 320 ∧ c.height = 240)
  paired : c.gadgetId ≠ 0 → c.width ≠ 0
  frames : ∀ fb, c.frames = some fb → fb.stride = offeredSize

/-- A message that asks for a format asks for the one on offer. -/
def AsksOffered (m : Message) : Prop :=
  ∀ id p fmt, m = .setFmt id p fmt → fmt.width = 320 ∧ fmt.height = 240

/-- The message starts no capture that has no format. -/
def startsFormatted (captures : List CaptureView) (m : Message) : Bool :=
  match m.what with
  | .videoStreamOn =>
    match captures.find? fun c => decide (c.gadgetId = m.wParam) with
    | some c => c.streaming || decide (c.width ≠ 0)
    | none => true
  | _ => true

variable {env : Env} {w w' : Board} {c c' : CaptureView} {v v' : View} {m : Message} {refuses : Prop}

theorem Reports.asksOffered (h : Reports m) : AsksOffered m := by
  intro id p fmt hm
  cases h with
  | setFmt hw hh => cases hm; exact ⟨hw, hh⟩
  | streamOn | streamOff | uvcAttached | uvcDetached => cases hm

theorem CaptureView.Offered.resized (h : c.Offered) {fmt : PixFormat}
    (hf : fmt.width = 320 ∧ fmt.height = 240) (id : UInt32) :
    ({ c with gadgetId := id, width := fmt.width, height := fmt.height } : CaptureView).Offered :=
  ⟨.inr hf, fun _ => by show fmt.width ≠ 0; rw [hf.1]; decide, h.frames⟩

theorem CaptureView.Offered.unpaired (h : c.Offered) : ({ c with gadgetId := 0 } : CaptureView).Offered :=
  ⟨h.size, fun h0 => absurd rfl h0, h.frames⟩

theorem StartsCapture.offered (h : StartsCapture env w c w' c') (hc : c.Offered)
    (hsize : c.streaming = true ∨ c.width ≠ 0) : c'.Offered := by
  cases h with
  | idle _ => exact hc
  | start hoff hfresh hlt hstride hw =>
      have hw0 := hsize.resolve_left (by rw [hoff]; decide)
      obtain ⟨hwidth, hheight⟩ := hc.size.resolve_left fun h => hw0 h.1
      refine ⟨hc.size, hc.paired, fun fb hfb => ?_⟩
      cases hfb
      rw [hstride, hwidth, hheight]
      decide

theorem StopsCapture.offered (h : StopsCapture w c w' c') (hc : c.Offered) : c'.Offered := by
  cases h with
  | idle _ _ => exact hc
  | stop _ _ => exact ⟨hc.size, hc.paired, fun fb hfb => by cases hfb⟩

theorem CaptureCalls.offered (h : CaptureCalls env w c w' c') (hc : c.Offered) : c'.Offered := by
  cases h with
  | quiet _ => exact hc
  | frame hf hoff haddr hstride hstamp htick hp =>
      refine ⟨hc.size, hc.paired, fun fb hfb => ?_⟩
      cases hfb
      rw [hstride]
      exact hc.frames _ hf

theorem Releases.offered {id : UInt32} {cs cs' : List CaptureView} (hr : Releases refuses id cs cs')
    (h : ∀ c ∈ cs, c.Offered) : ∀ c ∈ cs', c.Offered := by
  cases hr with
  | none _ => exact h
  | refused _ hs => exact forall_replaced hs.eq h (h _ hs.mem).unpaired

/-- **A message that asks for the format on offer, and starts no capture without one**, keeps the captures on
    it. -/
theorem Handles.offered (hm : Handles env refuses v m v') (hfmt : AsksOffered m)
    (hstart : startsFormatted v.captures m = true) (h : ∀ c ∈ v.captures, c.Offered) :
    ∀ c ∈ v'.captures, c.Offered := by
  cases hm with
  | captureAttached hname hoff hid hsize hframes hfd haddr hlt he =>
      exact forall_snoc h ⟨.inl hsize, fun h0 => absurd hid h0, fun fb hfb => by
        rw [hframes] at hfb; cases hfb⟩
  | captureDetached hg hs hstop he => exact forall_erased hs.eq h
  | setFmtHeld hs he =>
      exact forall_replaced hs.eq h ((h _ hs.mem).resized (hfmt _ _ _ rfl) _)
  | setFmtPaired hr hs hfree he =>
      have hcs := hr.offered h
      exact forall_replaced hs hcs ((hcs _ (by rw [hs]; simp)).resized (hfmt _ _ _ rfl) _)
  | setFmtUnpaired hr he => exact hr.offered h
  | streamOn hs hon =>
      rename_i id pre post c c' w
      refine forall_replaced hs.eq h (hon.offered (h _ hs.mem) ?_)
      have hsome : (match v.captures.find? fun c => decide (c.gadgetId = id) with
          | some c => c.streaming || decide (c.width ≠ 0)
          | none => true) = true := hstart
      rw [hs.find_eq] at hsome
      simpa using hsome
  | streamOff hs hstop => exact forall_replaced hs.eq h (hstop.offered (h _ hs.mem))
  | uvcDetached hs hstop => exact forall_replaced hs.eq h (hstop.offered (h _ hs.mem)).unpaired
  | signal | attachFailed _ | gadgetAttached _ _ _ _ _ _ _ _ | gadgetDetached _ _ _ | detachMissed _ _
  | streamOnMissed _ | streamOffMissed _ | uvcAttached | uvcDetachedMissed _ | frameCopied _ _ _
  | frameDropped _ => exact h

end Uvcd
