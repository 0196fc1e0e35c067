import Uvcd.Model.TestApp
import Uvcd.Refinement.Pool
import Uvcd.Refinement.Conversion

/-!
# `Refinement.TestApp` — what the functions of the test application do

The filling loop in closed form (`fillRows_eq`), and what a filled buffer shows (`Picture.Drawn`). Then the buffers of
the device: `Device.Racked` says that they are where they belong and that the driver owns each at most once, and
`Device.Lends` what those it owns hold; both are kept by every call on the device.
-/

namespace Uvcd

open Machine

namespace TestApp

/-! ## Rows -/

/-- Memory after `n` rows of `bpl` bytes, from row `i` on, in running colour. -/
def paint (bpl i n : Nat) (color : UInt8) (mem : Bytes) : Bytes := fun k =>
  if i * bpl ≤ k ∧ k < (i + n) * bpl then color + UInt8.ofNat (k / bpl - i) else mem k

/-- One row, and the rows behind it. -/
theorem paint_memset (bpl i n : Nat) (color : UInt8) (mem : Bytes) :
    paint bpl (i + 1) n (color + 1) (memset mem (i * bpl) color bpl) = paint bpl i (n + 1) color mem := by
  funext k
  unfold paint memset
  have hrow : (i + 1) * bpl = i * bpl + bpl := Nat.succ_mul i bpl
  rw [show i + 1 + n = i + (n + 1) by omega]
  have hend : (i + 1) * bpl ≤ (i + (n + 1)) * bpl := Nat.mul_le_mul_right _ (by omega)
  by_cases hlater : (i + 1) * bpl ≤ k ∧ k < (i + (n + 1)) * bpl
  · rw [if_pos hlater, if_pos ⟨by omega, hlater.2⟩]
    -- a later row is one further from row `i`
    have hbpl : 0 < bpl := by
      rcases Nat.eq_zero_or_pos bpl with h0 | h0
      · rw [h0, Nat.mul_zero] at hlater
        omega
      · exact h0
    have hdiv : i + 1 ≤ k / bpl := (Nat.le_div_iff_mul_le hbpl).mpr hlater.1
    rw [show k / bpl - i = (k / bpl - (i + 1)) + 1 by omega, UInt8.ofNat_add, UInt8.add_comm _ (UInt8.ofNat 1),
      ← UInt8.add_assoc]
    rfl
  · rw [if_neg hlater]
    by_cases hthis : i * bpl ≤ k ∧ k < i * bpl + bpl
    · rw [if_pos hthis, if_pos ⟨hthis.1, by omega⟩]
      have hdiv : k / bpl = i := by
        refine (Nat.div_eq_iff (by omega)).mpr ⟨hthis.1, ?_⟩
        omega
      rw [hdiv, Nat.sub_self]
      exact (UInt8.add_zero color).symm
    · rw [if_neg hthis, if_neg (by omega)]

/-- **The filling loop**, where the buffer offsets do not wrap: it paints all rows if the buffer has room for them. -/
theorem fillRows_eq {bpl : UInt32} {size n : Nat} : ∀ {i : UInt32} (color : UInt8) (mem : Bytes),
    i.toNat + n < 2 ^ 32 → (i.toNat + n) * bpl.toNat < 2 ^ 32 →
    fillRows bpl size i n color mem = if n = 0 ∨ (i.toNat + n) * bpl.toNat ≤ size
      then .ok (color + UInt8.ofNat n, paint bpl.toNat i.toNat n color mem) else .error .overrun := by
  induction n with
  | zero =>
      intro i color mem _ _
      rw [fillRows, if_pos (Or.inl rfl), show UInt8.ofNat 0 = 0 from rfl, UInt8.add_zero]
      refine congrArg (fun m => Except.ok (color, m)) (funext fun k => ?_)
      unfold paint
      rw [if_neg (by rw [Nat.add_zero]; omega)]
  | succ n ih =>
      intro i color mem hi hb
      have hle : (i.toNat + 1) * bpl.toNat ≤ (i.toNat + (n + 1)) * bpl.toNat := Nat.mul_le_mul_right _ (by omega)
      have hrow : (i.toNat + 1) * bpl.toNat = i.toNat * bpl.toNat + bpl.toNat := Nat.succ_mul _ _
      have hoff : (i * bpl).toNat = i.toNat * bpl.toNat := by
        rw [UInt32.toNat_mul, Nat.mod_eq_of_lt (by omega)]
      have hnext : (i + 1).toNat = i.toNat + 1 := by
        rw [UInt32.toNat_add, show (1 : UInt32).toNat = 1 from rfl, Nat.mod_eq_of_lt (by omega)]
      have hsum : (i + 1).toNat + n = i.toNat + (n + 1) := by omega
      rw [fillRows, hoff]
      by_cases hsize : size < i.toNat * bpl.toNat + bpl.toNat
      · rw [if_pos hsize, if_neg (by omega)]
      · rw [if_neg hsize, ih _ _ (by omega) (by rw [hsum]; exact hb), hsum, hnext, paint_memset]
        by_cases hroom : (i.toNat + (n + 1)) * bpl.toNat ≤ size
        · rw [if_pos (Or.inr hroom), if_pos (Or.inr hroom), UInt8.ofNat_add, UInt8.add_assoc,
            UInt8.add_comm (UInt8.ofNat n)]
          rfl
        · have hn : n ≠ 0 := by
            rintro rfl
            exact hroom (by rw [Nat.zero_add, hrow]; omega)
          rw [if_neg (by omega), if_neg (by omega)]

/-! ## Filling a buffer -/

/-- The rows a picture shows in running colour. -/
def Picture.rows (p : Picture) : Nat := if p.fcc = PixFormat.YUYV then p.height.toNat else 0

/-- **What a filled buffer shows**: rows of running colour from `color` on, or the image. -/
structure Picture.Drawn (imgsize : UInt32) (imgdata : Option Bytes) (color : UInt8) (p : Picture) : Prop where
  pattern : p.fcc = PixFormat.YUYV → p.bytesused = p.width.toNat * 2 * p.height.toNat ∧
    ∀ r < p.height.toNat, ∀ x < p.width.toNat * 2,
      ∃ m, p.mem = some m ∧ m (r * (p.width.toNat * 2) + x) = color + UInt8.ofNat r
  image : p.fcc = PixFormat.MJPEG → p.bytesused = imgsize.toNat ∧
    ∀ x < imgsize.toNat, ∃ m img, p.mem = some m ∧ imgdata = some img ∧ m x = img x

/-- Nothing was committed yet, or a frame of the tables was. -/
def UvcDevice.Offered (dev : UvcDevice) : Prop :=
  (dev.fcc = 0 ∧ dev.width = 0 ∧ dev.height = 0) ∨
    ((dev.fcc = PixFormat.YUYV ∨ dev.fcc = PixFormat.MJPEG) ∧
      ((dev.width = 640 ∧ dev.height = 360) ∨ (dev.width = 1280 ∧ dev.height = 720)))

/-- The length of a frame as committed. -/
def UvcDevice.frameSize (dev : UvcDevice) : Nat :=
  if dev.fcc = PixFormat.YUYV then dev.width.toNat * 2 * dev.height.toNat
  else if dev.fcc = PixFormat.MJPEG then dev.imgsize.toNat
  else 0

/-- A frame that is offered is small: its rows do not wrap. -/
theorem UvcDevice.Offered.sizes {dev : UvcDevice} (h : dev.Offered) :
    (dev.width * 2).toNat = dev.width.toNat * 2 ∧ dev.height.toNat * (dev.width.toNat * 2) < 2 ^ 32 ∧
      (dev.width * 2 * dev.height).toNat = dev.width.toNat * 2 * dev.height.toNat := by
  rcases h with ⟨-, hw, hh⟩ | ⟨-, ⟨hw, hh⟩ | ⟨hw, hh⟩⟩ <;>
    · rw [hw, hh]
      decide

/-- What filling a buffer leaves alone, and what it makes of the rest. -/
structure Fills (dev : UvcDevice) (buf : VideoBuffer) (dev' : UvcDevice) (buf' : VideoBuffer) : Prop where
  device : dev' = { dev with color := dev.color + UInt8.ofNat (dev.picture [] buf').rows }
  index : buf'.index = buf.index
  size : buf'.size = buf.size
  dmabuf : buf'.dmabuf = buf.dmabuf
  mapped : buf'.mem.isSome = buf.mem.isSome
  drawn : ∀ queued, (dev.picture queued buf').Drawn dev.imgsize dev.imgdata dev.color

theorem uvcVideoFillBuffer_fills {dev dev' : UvcDevice} {buf buf' : VideoBuffer} (hoff : dev.Offered)
    (h : uvcVideoFillBuffer dev buf = .ok (dev', buf')) : Fills dev buf dev' buf' := by
  obtain ⟨hbpl, hwrap, hused⟩ := hoff.sizes
  unfold uvcVideoFillBuffer at h
  split at h
  · next hf =>
      have hrows : ∀ queued b, (dev.picture queued b).rows = dev.height.toNat := fun queued b => if_pos hf
      have hno : ∀ queued b, (dev.picture queued b).fcc ≠ PixFormat.MJPEG := fun queued b => by
        show dev.fcc ≠ _
        rw [hf]; decide
      dsimp only at h
      split at h
      · next hm =>
          -- there is nothing to write to, and nothing to write
          split at h
          · next h0 =>
              cases h
              refine ⟨?_, rfl, rfl, rfl, rfl, fun queued => ⟨fun _ => ⟨hused, fun r hr => ?_⟩, fun hj =>
                absurd hj (hno _ _)⟩⟩
              · rw [hrows, show dev.height.toNat = 0 by rw [h0]; rfl]
                show _ = { dev with color := dev.color + 0 }
                rw [UInt8.add_zero]
              · have hr : r < dev.height.toNat := hr
                rw [h0] at hr
                exact absurd hr (Nat.not_lt_zero r)
          · cases h
      · next mem hm =>
          obtain ⟨⟨color, mem'⟩, hfill, h⟩ := bind_eq_ok.mp h
          rw [fillRows_eq _ _ (by rw [show (0 : UInt32).toNat = 0 from rfl, Nat.zero_add]; exact UInt32.toNat_lt _)
            (by rw [hbpl, show (0 : UInt32).toNat = 0 from rfl, Nat.zero_add]; exact hwrap)] at hfill
          split at hfill
          · cases hfill
            cases h
            refine ⟨?_, rfl, rfl, rfl, by rw [hm]; rfl, fun queued => ⟨fun _ => ⟨hused, fun r hr x hx => ⟨_, rfl, ?_⟩⟩,
              fun hj => absurd hj (hno _ _)⟩⟩
            · rw [hrows]
            · have hr : r < dev.height.toNat := hr
              have hx : x < dev.width.toNat * 2 := hx
              show paint _ _ _ _ _ (r * (dev.width.toNat * 2) + x) = _
              unfold paint
              rw [hbpl, show (0 : UInt32).toNat = 0 from rfl, Nat.zero_mul, Nat.zero_add]
              have hlt : r * (dev.width.toNat * 2) + x < dev.height.toNat * (dev.width.toNat * 2) := by
                have hle : (r + 1) * (dev.width.toNat * 2) ≤ dev.height.toNat * (dev.width.toNat * 2) :=
                  Nat.mul_le_mul_right _ hr
                rw [Nat.succ_mul] at hle
                omega
              rw [if_pos ⟨Nat.zero_le _, hlt⟩, Nat.sub_zero]
              refine congrArg (fun n => dev.color + UInt8.ofNat n) ?_
              rw [Nat.mul_comm, Nat.mul_add_div (by omega), Nat.div_eq_of_lt hx, Nat.add_zero]
          · cases hfill
  · next hf =>
      have hrows : ∀ queued b, (dev.picture queued b).rows = 0 := fun queued b => if_neg hf
      have hcolor : ∀ b : VideoBuffer,
          dev = { dev with color := dev.color + UInt8.ofNat (dev.picture [] b).rows } := fun b => by
        rw [hrows]
        show _ = { dev with color := dev.color + 0 }
        rw [UInt8.add_zero]
      have hno : ∀ queued b, (dev.picture queued b).fcc ≠ PixFormat.YUYV := fun queued b => hf
      split at h
      · split at h
        · next h0 =>
            cases h
            refine ⟨hcolor _, rfl, rfl, rfl, rfl, fun queued => ⟨fun hy => absurd hy (hno _ _), fun _ =>
              ⟨by rw [h0]; rfl, fun x hx => ?_⟩⟩⟩
            rw [h0] at hx
            exact absurd hx (Nat.not_lt_zero x)
        · split at h
          · next mem img hm himg =>
              split at h
              · cases h
              · cases h
                refine ⟨hcolor _, rfl, rfl, rfl, by rw [hm]; rfl, fun queued => ⟨fun hy => absurd hy (hno _ _), fun _ =>
                  ⟨rfl, fun x hx => ⟨_, img, rfl, himg, ?_⟩⟩⟩⟩
                unfold memcpy
                rw [if_pos ⟨Nat.zero_le _, by omega⟩, Nat.zero_add, Nat.sub_zero]
          · cases h
      · next hj =>
          cases h
          exact ⟨hcolor _, rfl, rfl, rfl, rfl, fun queued => ⟨fun hy => absurd hy (hno _ _), fun hmj => absurd hmj hj⟩⟩

/-- **Filling does not fault** where the buffer is mapped and long enough, and an image that has a size is there. -/
theorem uvcVideoFillBuffer_returns {dev : UvcDevice} {buf : VideoBuffer} (hoff : dev.Offered)
    (himg : dev.imgsize ≠ 0 → dev.imgdata.isSome = true) (hm : buf.mem.isSome = true)
    (hsize : dev.frameSize ≤ buf.size) : ∃ r, uvcVideoFillBuffer dev buf = .ok r := by
  obtain ⟨hbpl, hwrap, -⟩ := hoff.sizes
  obtain ⟨mem, hmem⟩ := Option.isSome_iff_exists.mp hm
  unfold UvcDevice.frameSize at hsize
  unfold uvcVideoFillBuffer
  by_cases hf : dev.fcc = PixFormat.YUYV
  · rw [if_pos hf] at hsize
    have hfill : fillRows (dev.width * 2) buf.size 0 dev.height.toNat dev.color mem = _ := fillRows_eq _ _
      (by rw [show (0 : UInt32).toNat = 0 from rfl, Nat.zero_add]; exact UInt32.toNat_lt _)
      (by rw [hbpl, show (0 : UInt32).toNat = 0 from rfl, Nat.zero_add]; exact hwrap)
    rw [show (0 : UInt32).toNat = 0 from rfl, Nat.zero_add, hbpl,
      if_pos (Or.inr (by rw [Nat.mul_comm]; exact hsize))] at hfill
    rw [if_pos hf, hmem]
    dsimp only
    rw [hfill]
    exact ⟨_, rfl⟩
  · rw [if_neg hf] at hsize
    rw [if_neg hf]
    by_cases hj : dev.fcc = PixFormat.MJPEG
    · rw [if_pos hj] at hsize
      rw [if_pos hj]
      by_cases h0 : dev.imgsize = 0
      · rw [if_pos h0]
        exact ⟨_, rfl⟩
      · obtain ⟨img, hi⟩ := Option.isSome_iff_exists.mp (himg h0)
        rw [if_neg h0, hmem, hi]
        dsimp only
        rw [if_neg (by omega)]
        exact ⟨_, rfl⟩
    · rw [if_neg hj]
      exact ⟨_, rfl⟩

/-! ## Requests -/

/-- The entry of the tables at the indices `i` and `j`, which count from one. -/
structure Entry (i j : Nat) (format : FormatInfo) (frame : FrameInfo) : Prop where
  format_pos : 1 ≤ i
  format_at : uvcFormats[i - 1]? = some format
  frame_pos : 1 ≤ j
  frame_at : format.listed[j - 1]? = some frame

theorem Entry.mem {i j : Nat} {format : FormatInfo} {frame : FrameInfo} (h : Entry i j format frame) :
    format ∈ uvcFormats ∧ frame ∈ format.listed :=
  ⟨List.mem_of_getElem? h.format_at, List.mem_of_getElem? h.frame_at⟩

/-- What a `DATA` event selects is an entry of the tables, and its indices fit into their bytes. -/
theorem selectFormat_entry (ctrl : StreamingControl) : ∃ i j format frame, Entry i j format frame ∧
    (UInt8.ofNat i).toNat = i ∧ (UInt8.ofNat j).toNat = j ∧ selectFormat uvcFormats ctrl =
      ⟨i, j, format, frame, scanInterval ctrl.dwFrameInterval frame.intervals⟩ := by
  have hclamp : ∀ x, clamp x 1 2 = 1 ∨ clamp x 1 2 = 2 := fun x => by
    unfold clamp
    dsimp only
    split <;> split <;> omega
  unfold selectFormat
  dsimp only
  rw [show uvcFormats.length = 2 from rfl]
  rcases hclamp ctrl.bFormatIndex.toNat with hi | hi <;> rw [hi]
  · rw [show countFrames (uvcFormats.getD (1 - 1) FormatInfo.zero).frames = 2 from rfl]
    rcases hclamp ctrl.bFrameIndex.toNat with hj | hj <;> rw [hj] <;>
      exact ⟨_, _, _, _, ⟨by decide, rfl, by decide, rfl⟩, rfl, rfl, rfl⟩
  · rw [show countFrames (uvcFormats.getD (2 - 1) FormatInfo.zero).frames = 2 from rfl]
    rcases hclamp ctrl.bFrameIndex.toNat with hj | hj <;> rw [hj] <;>
      exact ⟨_, _, _, _, ⟨by decide, rfl, by decide, rfl⟩, rfl, rfl, rfl⟩

/-- The format that buffers are filled in: that of the entry, or none at all. -/
def UvcDevice.DrawsIn (dev : UvcDevice) (format : FormatInfo) (frame : FrameInfo) : Prop :=
  (dev.fcc = 0 ∧ dev.width = 0 ∧ dev.height = 0) ∨
    (dev.fcc = format.fcc ∧ dev.width = frame.width ∧ dev.height = frame.height)

theorem Entry.offered {dev : UvcDevice} {i j : Nat} {format : FormatInfo} {frame : FrameInfo}
    (h : Entry i j format frame) (hd : dev.DrawsIn format frame) : dev.Offered := by
  have htable : ∀ format ∈ uvcFormats, (format.fcc = PixFormat.YUYV ∨ format.fcc = PixFormat.MJPEG) ∧
      ∀ frame ∈ format.listed, (frame.width = 640 ∧ frame.height = 360) ∨
        (frame.width = 1280 ∧ frame.height = 720) := by
    decide
  obtain ⟨hformat, hframe⟩ := h.mem
  obtain ⟨hfcc, hsize⟩ := htable format hformat
  rcases hd with hd | ⟨hf, hw, hh⟩
  · exact .inl hd
  · unfold UvcDevice.Offered
    rw [hf, hw, hh]
    exact .inr ⟨hfcc, hsize frame hframe⟩

/-- What a commit makes of the device. -/
def UvcDevice.committed (dev : UvcDevice) (data : RequestData) : UvcDevice :=
  let sel := selectFormat uvcFormats (StreamingControl.ofBytes data.data)
  { dev with
    commit := applySelection dev.imgsize sel dev.commit
    fcc := sel.format.fcc
    width := sel.frame.width
    height := sel.frame.height }

theorem UvcDevice.committed_offered (dev : UvcDevice) (data : RequestData) : (dev.committed data).Offered := by
  obtain ⟨i, j, format, frame, hentry, -, -, hsel⟩ := selectFormat_entry (StreamingControl.ofBytes data.data)
  refine hentry.offered (.inr ?_)
  unfold committed
  rw [hsel]
  exact ⟨rfl, rfl, rfl⟩

theorem uvcVideoSetFormat_spec {env : Env} {app app' : App} {ret : Int}
    (h : uvcVideoSetFormat env app = .ok (ret, app')) :
    ∃ k fmt fmt' vdev, v4l2SetFormat env app.kernel app.dev.vdev fmt = (ret, fmt', k, vdev) ∧
      app' = app.putVdev k vdev := by
  unfold uvcVideoSetFormat at h
  obtain ⟨sizeimage, -, h⟩ := bind_eq_ok.mp h
  dsimp only at h
  generalize hset : v4l2SetFormat env app.kernel app.dev.vdev _ = res at h
  obtain ⟨r, fmt', k, vdev⟩ := res
  cases h
  exact ⟨k, _, fmt', vdev, hset, rfl⟩

/-- A commit sets the format, and in bulk mode starts the stream. -/
theorem uvcEventsProcessData_commit {env : Env} {app : App} {data : RequestData}
    (hc : app.dev.control = VS_COMMIT_CONTROL) : uvcEventsProcessData env app data =
      uvcVideoSetFormat env { app with dev := app.dev.committed data } >>= fun r =>
        if app.dev.bulk = true then uvcVideoStream env r.2 true >>= fun x => .ok x.2 else .ok r.2 := by
  unfold uvcEventsProcessData
  rw [if_neg (by rw [hc]; decide), if_pos hc]
  rfl

theorem uvcEventsProcessStreaming_device (dev : UvcDevice) (req cs : UInt8) (resp : RequestData) :
    ∃ c, (uvcEventsProcessStreaming dev req cs resp).1 = { dev with control := c } := by
  unfold uvcEventsProcessStreaming
  by_cases hcs : cs ≠ VS_PROBE_CONTROL ∧ cs ≠ VS_COMMIT_CONTROL
  · rw [if_pos hcs]; exact ⟨dev.control, rfl⟩
  · rw [if_neg hcs]
    by_cases hset : req = UVC_SET_CUR
    · exact ⟨cs, by simp only [if_pos hset]⟩
    · refine ⟨dev.control, ?_⟩
      simp only [if_neg hset]
      split_ifs <;> rfl

/-- A SETUP stage changes what the next data is for. -/
theorem uvcEventsProcessSetup_device (dev : UvcDevice) (ctrl : CtrlRequest) (resp : RequestData) :
    ∃ c, (uvcEventsProcessSetup dev ctrl resp).1 = { dev with control := c } := by
  unfold uvcEventsProcessSetup uvcEventsProcessClass
  dsimp only
  by_cases hty : ctrl.bRequestType &&& USB_TYPE_MASK = USB_TYPE_CLASS
  · rw [if_pos hty]
    by_cases hrecip : ctrl.bRequestType &&& USB_RECIP_MASK ≠ USB_RECIP_INTERFACE
    · rw [if_pos hrecip]; exact ⟨0, rfl⟩
    · rw [if_neg hrecip]
      by_cases hintf : ctrl.wIndex &&& 0xff = UVC_INTF_STREAMING
      · rw [if_pos hintf]
        exact uvcEventsProcessStreaming_device { dev with control := 0 } _ _ _
      · rw [if_neg hintf]; exact ⟨0, rfl⟩
  · rw [if_neg hty]; exact ⟨0, rfl⟩

/-! ## Start -/

/-- An image that has a size is in memory. -/
def UvcDevice.Imaged (dev : UvcDevice) : Prop := dev.imgsize ≠ 0 → dev.imgdata.isSome = true

theorem imageLoad_device {env : Env} {k k' : Kernel} {dev dev' : UvcDevice} {image : Option Image}
    (hnone : dev.imgsize = 0) (h : imageLoad env k dev image = (k', dev')) :
    dev' = { dev with imgsize := dev'.imgsize, imgdata := dev'.imgdata } ∧ dev'.Imaged := by
  cases image with
  | none =>
      cases h
      exact ⟨rfl, fun hsize => absurd hnone hsize⟩
  | some img =>
      rw [imageLoad] at h
      dsimp only at h
      split at h
      · cases h
        exact ⟨rfl, fun _ => rfl⟩
      · cases h
        exact ⟨rfl, fun hsize => absurd rfl hsize⟩

theorem uvcEventsInit_device (k : Kernel) (dev : UvcDevice) :
    (uvcEventsInit k dev).2 = { dev with
      probe := (uvcEventsInit k dev).2.probe, commit := (uvcEventsInit k dev).2.commit } := by
  unfold uvcEventsInit
  dsimp only
  split <;> rfl

/-- Both controls are filled in for the first entry. -/
theorem uvcEventsInit_controls (k : Kernel) (dev : UvcDevice) :
    ∃ payload, ∀ c, c = (uvcEventsInit k dev).2.probe ∨ c = (uvcEventsInit k dev).2.commit →
      c = { uvcFillStreamingControl dev.imgsize .zero 0 0 with dwMaxPayloadTransferSize := payload } := by
  unfold uvcEventsInit
  dsimp only
  split
  · refine ⟨16 * 1024, fun c hc => ?_⟩
    rcases hc with rfl | rfl <;> rfl
  · refine ⟨512, fun c hc => ?_⟩
    rcases hc with rfl | rfl <;> rfl

/-- **The program as it enters its loop.** -/
structure Boots (app : App) : Prop where
  vdev : app.dev.vdev.nbufs = 0 ∧ app.dev.vdev.buffers = [] ∧ app.dev.vdev.file.queued = []
  format : app.dev.fcc = 0 ∧ app.dev.width = 0 ∧ app.dev.height = 0
  color : app.dev.color = 0
  control : app.dev.control = 0
  controls : ∃ payload, ∀ c, c = app.dev.probe ∨ c = app.dev.commit →
    c = { uvcFillStreamingControl app.dev.imgsize .zero 0 0 with dwMaxPayloadTransferSize := payload }
  imaged : app.dev.Imaged
  events : app.dev.events = eventsInit
  filled : app.filled = []
  phase : app.phase = .init

theorem boot_boots {env : Env} {k : Kernel} {opts : Options} {app : App} (h : boot env k opts = some app) :
    Boots app := by
  unfold boot at h
  split at h
  · cases h
  · next dev k₁ hopen =>
      unfold uvcOpen at hopen
      split at hopen
      · cases hopen
      · split at hopen
        · cases hopen
        · next vdev k₂ hdev =>
            cases hopen
            generalize hload : imageLoad env k₁ (.zero vdev) opts.image = loaded at h
            obtain ⟨k₃, dev₃⟩ := loaded
            obtain ⟨hdev₃, himg⟩ := imageLoad_device rfl hload
            dsimp only at h
            have hinit := uvcEventsInit_device k₃ { dev₃ with bulk := opts.bulk }
            have hcontrols := uvcEventsInit_controls k₃ { dev₃ with bulk := opts.bulk }
            have himgsize := congrArg UvcDevice.imgsize hinit
            cases h
            rw [hdev₃] at hinit
            have hidle : vdev.nbufs = 0 ∧ vdev.buffers = [] ∧ vdev.file.queued = [] := by
              cases v4l2Open_opens hdev with
              | opened hchat => exact ⟨rfl, rfl, rfl⟩
            rw [← hdev₃] at hinit
            refine ⟨?_, ?_, ?_, ?_, by rw [himgsize]; exact hcontrols, ?_, ?_, rfl, rfl⟩
            all_goals dsimp only; rw [hinit]; dsimp only
            · rw [hdev₃]; exact hidle
            · rw [hdev₃]; exact ⟨rfl, rfl, rfl⟩
            · rw [hdev₃]; rfl
            · rw [hdev₃]; rfl
            · exact himg
            · rw [hdev₃]; rfl

end TestApp

/-! ## The buffers of the device -/

/-- Every buffer in use is in its place, and the driver owns each at most once. -/
structure Device.Racked (d : Device) : Prop where
  plain : d.Plain
  indexed : d.Indexed
  nodup : d.file.queued.Nodup
  lt : ∀ i ∈ d.file.queued, i < d.nbufs

theorem TestApp.Boots.racked {app : TestApp.App} (h : TestApp.Boots app) : app.dev.vdev.Racked := by
  obtain ⟨hn, -, hq⟩ := h.vdev
  refine ⟨fun i hi => ?_, fun i hi => ?_, ?_, fun i hi => ?_⟩
  · rw [hn] at hi
    exact absurd hi (Nat.not_lt_zero i)
  · rw [hn] at hi
    exact absurd hi (Nat.not_lt_zero i)
  · rw [hq]
    exact List.nodup_nil
  · rw [hq] at hi
    cases hi

/-- What the buffers that the driver owns hold. -/
def Device.Lends (P : Bytes → Prop) (d : Device) : Prop :=
  ∀ i ∈ d.file.queued, ∀ b m, d.buffers[i]? = some b → b.mem = some m → P m

/-- **What a call on the device keeps**, other than the one that gives a buffer to the driver. -/
structure Tends (d d' : Device) : Prop where
  racked : d.Racked → d'.Racked
  lends : ∀ P, d.Lends P → d'.Lends P

section Tends

variable {env : Env} {k k' : Kernel} {d d' d'' : Device}

theorem Tends.refl (d : Device) : Tends d d := ⟨id, fun _ => id⟩

theorem Tends.trans (h : Tends d d') (h' : Tends d' d'') : Tends d d'' :=
  ⟨fun hr => h'.racked (h.racked hr), fun P hl => h'.lends P (h.lends P hl)⟩

/-- The buffers stay, with the driver or not. -/
theorem Tends.of_eq (hn : d'.nbufs = d.nbufs) (hb : d'.buffers = d.buffers)
    (hq : d'.file.queued = d.file.queued ∨ d'.file.queued = []) : Tends d d' := by
  have hsub : ∀ i ∈ d'.file.queued, i ∈ d.file.queued := fun i hi => by
    rcases hq with hq | hq
    · exact hq ▸ hi
    · rw [hq] at hi
      cases hi
  refine ⟨fun hr => ⟨?_, ?_, ?_, fun i hi => hn ▸ hr.lt i (hsub i hi)⟩, fun P hl i hi b m hbi hm => ?_⟩
  · intro i hi b hbi
    exact hr.plain i (hn ▸ hi) b (hb ▸ hbi)
  · intro i hi
    rw [hb]
    exact hr.indexed i (hn ▸ hi)
  · rcases hq with hq | hq
    · rw [hq]
      exact hr.nodup
    · rw [hq]
      exact List.nodup_nil
  · exact hl i (hsub i hi) b m (hb ▸ hbi) hm

/-- No buffers at all. -/
theorem Tends.emptied (hn : d'.nbufs = 0) (hq : d'.file.queued = []) : Tends d d' := by
  refine ⟨fun _ => ⟨fun i hi => ?_, fun i hi => ?_, ?_, fun i hi => ?_⟩, fun P _ i hi => ?_⟩
  · rw [hn] at hi
    exact absurd hi (Nat.not_lt_zero i)
  · rw [hn] at hi
    exact absurd hi (Nat.not_lt_zero i)
  · rw [hq]
    exact List.nodup_nil
  · rw [hq] at hi
    cases hi
  · rw [hq] at hi
    cases hi

/-- Overwriting a buffer in its place; one that the driver owns keeps its memory or loses it. -/
theorem Tends.set {i : Nat} {b b' : VideoBuffer} {f : File} (hb : d.buffers[i]? = some b) (hi : b'.index = b.index)
    (hdma : b.dmabuf = none → b'.dmabuf = none) (hq : f.queued = d.file.queued)
    (hmem : i ∈ d.file.queued → ∀ m, b'.mem = some m → b.mem = some m) :
    Tends d { d with buffers := d.buffers.set i b', file := f } := by
  have hat : ∀ {j : Nat} {x : VideoBuffer}, (d.buffers.set i b')[j]? = some x →
      (j = i ∧ x = b') ∨ d.buffers[j]? = some x := fun {j x} hx => by
    rw [List.getElem?_set] at hx
    split at hx
    · next hij =>
        split at hx
        · cases hx; exact .inl ⟨hij.symm, rfl⟩
        · cases hx
    · exact .inr hx
  refine ⟨fun hr => ⟨fun j hj x hx => ?_, fun j hj => ?_, ?_, fun j hj => ?_⟩, fun P hl j hj x m hx hm => ?_⟩
  · rcases hat hx with ⟨rfl, rfl⟩ | hx
    · exact hdma (hr.plain j hj b hb)
    · exact hr.plain j hj x hx
  · show ((d.buffers.set i b')[j]?).map (·.index) = some j
    have hold := hr.indexed j hj
    rw [List.getElem?_set]
    split
    · next hij =>
        subst hij
        rw [hb] at hold
        rw [if_pos (List.getElem?_eq_some_iff.mp hb).1, Option.map_some, hi]
        exact hold
    · exact hold
  · show f.queued.Nodup
    rw [hq]
    exact hr.nodup
  · have hj : j ∈ f.queued := hj
    exact hr.lt j (hq ▸ hj)
  · replace hj : j ∈ d.file.queued := by
      rw [← hq]
      exact hj
    rcases hat hx with ⟨rfl, rfl⟩ | hx
    · exact hl j hj b m hb (hmem hj m hm)
    · exact hl j hj x m hx hm

theorem v4l2SetFormat_tends {fmt fmt' : PixFormat} {ret : Int} (h : v4l2SetFormat env k d fmt = (ret, fmt', k', d')) :
    Tends d d' := by
  obtain ⟨-, hd, -⟩ := v4l2SetFormat_spec h
  rw [hd]
  exact .of_eq rfl rfl (.inl rfl)

theorem v4l2StreamOn_tends {ret : Int} (h : v4l2StreamOn env k d = (ret, k', d')) : Tends d d' := by
  unfold v4l2StreamOn at h
  dsimp only at h
  split at h
  · cases h; exact .refl _
  · cases h; exact .of_eq rfl rfl (.inl rfl)

theorem v4l2StreamOff_tends {ret : Int} (h : v4l2StreamOff env k d = (ret, k', d')) : Tends d d' := by
  unfold v4l2StreamOff at h
  dsimp only at h
  split at h
  · cases h; exact .refl _
  · cases h; exact .of_eq rfl rfl (.inr rfl)

theorem releaseBuffers_tends {n : Nat} : ∀ {i : Nat} {k : Kernel} {d : Device} {ret : Int},
    releaseBuffers env i n k d = .ok (ret, k', d') → Tends d d' := by
  induction n with
  | zero => intro i k d ret h; cases h; exact .refl _
  | succ n ih =>
      intro i k d ret h
      rw [releaseBuffers] at h
      split at h
      · cases h
      · next b hb =>
          dsimp only at h
          split at h
          · cases h; exact .refl _
          · next file hf =>
              have hq : file.queued = d.file.queued := by
                split at hf
                · cases hf; rfl
                · injection hf with _ hf
                  injection hf with _ hf
                  rw [← hf]
              have hrest := ih h
              refine (Tends.set hb ?_ (fun _ => ?_) hq fun _ m hm => ?_).trans hrest
              · rfl
              · rfl
              · cases hm

theorem v4l2FreeBuffers_tends {ret : Int} (h : v4l2FreeBuffers env k d = .ok (ret, k', d')) : Tends d d' := by
  unfold v4l2FreeBuffers at h
  split at h
  · cases h; exact .refl _
  · obtain ⟨⟨ret₁, k₁, d₁⟩, hrel, h⟩ := bind_eq_ok.mp h
    have h₁ := releaseBuffers_tends hrel
    dsimp only at h
    split at h
    · cases h; exact h₁
    · unfold ioctlReqbufs at h
      dsimp only at h
      cases hreq : env.reqbufs k₁.tick d₁.file 0 with
      | error e => rw [hreq] at h; cases h; exact h₁
      | ok m => rw [hreq] at h; cases h; exact h₁.trans (.emptied rfl rfl)

/-- New buffers are with the program; without them the device stays, or has none. -/
theorem v4l2AllocBuffers_tends {n : Nat} (hn : n ≠ 0) {ret : Int}
    (h : v4l2AllocBuffers env k d .mmap n = .ok (ret, k', d')) :
    Tends d d' ∧ (ret < 0 → d' = d ∨ (d.nbufs = 0 ∧ d'.nbufs = 0)) ∧
      (¬ret < 0 → d.nbufs = 0 ∧ d'.file.queued = [] ∧ env.reqbufs k.tick d.file n = .ok d'.nbufs) := by
  obtain ⟨-, hall⟩ := v4l2AllocBuffers_allocates hn h
  have hneg : ∀ {e : Errno} {P : Prop}, ¬e.neg < 0 → P := fun {e P} h => absurd e.neg_lt h
  cases hall with
  | busy => exact ⟨.refl d, fun _ => .inl rfl, hneg⟩
  | refused h0 => exact ⟨.refl d, fun _ => .inl rfl, hneg⟩
  | surplus h0 => exact ⟨.of_eq rfl rfl (.inr rfl), fun _ => .inr ⟨h0, h0⟩, hneg⟩
  | nomem h0 => exact ⟨.emptied rfl rfl, fun _ => .inr ⟨h0, rfl⟩, hneg⟩
  | ok h0 hreq hm =>
      refine ⟨⟨fun _ => ⟨fun i hi b hb => (freshBuffers_getElem? hb).2 hi, freshBuffers_indexed hm, List.nodup_nil,
        fun i hi => by cases hi⟩, fun P _ i hi => by cases hi⟩, fun h => absurd h (by decide), fun _ => ⟨h0, rfl, hreq⟩⟩

theorem mmapBuffers_tends {n : Nat} : ∀ {i : Nat} {k : Kernel} {d : Device} {ret : Int}, d.file.queued = [] →
    mmapBuffers env i n k d = .ok (ret, k', d') → Tends d d' ∧ d'.file.queued = [] := by
  induction n with
  | zero => intro i k d ret hq h; cases h; exact ⟨.refl _, hq⟩
  | succ n ih =>
      intro i k d ret hq h
      rw [mmapBuffers] at h
      split at h
      · cases h; exact ⟨.refl _, hq⟩
      · split at h
        · cases h; exact ⟨.refl _, hq⟩
        · split at h
          · cases h
          · next b hb =>
              dsimp only at h
              have hrest := fun hq => ih hq h
              obtain ⟨ht, hq'⟩ := hrest hq
              refine ⟨(Tends.set hb ?_ ?_ ?_ fun hi => ?_).trans ht, hq'⟩
              · rfl
              · exact id
              · rfl
              · rw [hq] at hi
                cases hi

/-- **Taking a buffer** from a driver that hands out what it owns: the program has it alone. -/
theorem v4l2DequeueBuffer_tends {r : Except Errno VideoBuffer} (hdrv : env.HandsOutOwned) (hr : d.Racked)
    (h : v4l2DequeueBuffer env k d = .ok (r, k', d')) :
    Tends d d' ∧ ∀ b, r = .ok b → b.index ∉ d'.file.queued := by
  unfold v4l2DequeueBuffer at h
  dsimp only at h
  cases hdq : env.dqbuf k.tick d.file with
  | error e =>
      rw [hdq] at h
      cases h
      exact ⟨.refl _, fun b hb => by cases hb⟩
  | ok f =>
      rw [hdq] at h
      dsimp only at h
      have hmem : f.index ∈ d.file.queued := hdrv _ _ _ hdq
      split at h
      · cases h
      · next x hx =>
          have hindex : x.index = f.index := hr.indexed.index (hr.lt _ hmem) hx
          have hnot : f.index ∉ d.file.queued.erase f.index := fun h => (hr.nodup.mem_erase_iff.mp h).1 rfl
          -- the driver may have left a frame in it
          have hset : ∀ {b : VideoBuffer}, b.index = x.index → b.dmabuf = x.dmabuf → Tends d { d with
              buffers := d.buffers.set f.index b
              file := { d.file with queued := d.file.queued.erase f.index } } := fun {b} hi hdma => by
            have hgone : Tends d { d with file := { d.file with queued := d.file.queued.erase f.index } } :=
              ⟨fun _ => ⟨hr.plain, hr.indexed, hr.nodup.erase _, fun i hi => hr.lt i (List.mem_of_mem_erase hi)⟩,
                fun P hl i hi => hl i (List.mem_of_mem_erase hi)⟩
            exact hgone.trans (.set (show d.buffers[f.index]? = some x from hx) hi (fun h => hdma.trans h) rfl
              fun h => absurd h hnot)
          cases h
          refine ⟨hset rfl rfl, fun b hb => ?_⟩
          cases hb
          show x.index ∉ _
          rw [hindex]
          exact hnot

/-- **Giving a buffer** that the program has to the driver. -/
theorem v4l2QueueBuffer_gives {P : Bytes → Prop} {b : VideoBuffer} {ret : Int} (hr : d.Racked) (hl : d.Lends P)
    (hb : b.index ∉ d.file.queued) (hP : ∀ x m, d.buffers[b.index]? = some x → x.mem = some m → P m)
    (h : v4l2QueueBuffer env k d b = (ret, k', d')) :
    d'.Racked ∧ d'.Lends P ∧ (¬ret < 0 → d'.file.queued = d.file.queued ++ [b.index]) := by
  unfold v4l2QueueBuffer at h
  split at h
  · cases h
    exact ⟨hr, hl, fun hret => absurd (Errno.neg_lt _) hret⟩
  · next hlt =>
      dsimp only at h
      split at h
      · cases h
        exact ⟨hr, hl, fun hret => absurd (Errno.neg_lt _) hret⟩
      · cases h
        refine ⟨⟨hr.plain, hr.indexed, ?_, fun i hi => ?_⟩, fun i hi x m hx hm => ?_, fun _ => rfl⟩
        · refine List.nodup_append.mpr ⟨hr.nodup, List.pairwise_singleton _ _, ?_⟩
          rintro i hi j hj rfl
          rw [List.mem_singleton] at hj
          exact hb (hj ▸ hi)
        · have hi : i ∈ d.file.queued ++ [b.index] := hi
          show i < d.nbufs
          rcases List.mem_append.mp hi with hi | hi
          · exact hr.lt i hi
          · rw [List.mem_singleton] at hi
            omega
        · have hi : i ∈ d.file.queued ++ [b.index] := hi
          rcases List.mem_append.mp hi with hi | hi
          · exact hl i hi x m hx hm
          · rw [List.mem_singleton] at hi
            exact hP x m (hi ▸ hx) hm

end Tends

end Uvcd
