import Uvcd.Model.Base

/-!
# `Model.Control` — the UVC streaming controls (`uvc_gadget.c`, `linux/usb/video.h`)

`struct uvc_streaming_control` is packed into 34 little-endian bytes at the start of the 60 bytes of
`struct uvc_request_data`. The negotiation functions take the format table as a parameter; `uvcFormats`
is the one the daemon is built with.
-/

namespace Uvcd

/-! ## `struct uvc_streaming_control` -/

structure StreamingControl where
  bmHint : UInt16
  bFormatIndex : UInt8
  bFrameIndex : UInt8
  dwFrameInterval : UInt32
  wKeyFrameRate : UInt16
  wPFrameRate : UInt16
  wCompQuality : UInt16
  wCompWindowSize : UInt16
  wDelay : UInt16
  dwMaxVideoFrameSize : UInt32
  dwMaxPayloadTransferSize : UInt32
  dwClockFrequency : UInt32
  bmFramingInfo : UInt8
  bPreferedVersion : UInt8
  bMinVersion : UInt8
  bMaxVersion : UInt8
  deriving DecidableEq

namespace StreamingControl

/-- `memset (ctrl, 0, sizeof *ctrl)` -/
def zero : StreamingControl := ⟨0, 0, 0, 0, 0, 0, 0, 0, 0, 0, 0, 0, 0, 0, 0, 0⟩

end StreamingControl

def le16 (x : UInt16) : List UInt8 := [x.toUInt8, (x >>> 8).toUInt8]
def le32 (x : UInt32) : List UInt8 :=
  [x.toUInt8, (x >>> 8).toUInt8, (x >>> 16).toUInt8, (x >>> 24).toUInt8]

/-- The byte at `i`, `0` past the end. -/
def byteAt (bs : List UInt8) (i : Nat) : UInt8 := bs.getD i 0

def get16 (bs : List UInt8) (i : Nat) : UInt16 :=
  (byteAt bs i).toUInt16 ||| ((byteAt bs (i + 1)).toUInt16 <<< 8)
def get32 (bs : List UInt8) (i : Nat) : UInt32 :=
  (byteAt bs i).toUInt32 ||| ((byteAt bs (i + 1)).toUInt32 <<< 8)
    ||| ((byteAt bs (i + 2)).toUInt32 <<< 16) ||| ((byteAt bs (i + 3)).toUInt32 <<< 24)

namespace StreamingControl

/-- The packed bytes of a control. -/
def toBytes (c : StreamingControl) : List UInt8 :=
  le16 c.bmHint ++ [c.bFormatIndex, c.bFrameIndex] ++ le32 c.dwFrameInterval
    ++ le16 c.wKeyFrameRate ++ le16 c.wPFrameRate ++ le16 c.wCompQuality ++ le16 c.wCompWindowSize
    ++ le16 c.wDelay ++ le32 c.dwMaxVideoFrameSize ++ le32 c.dwMaxPayloadTransferSize
    ++ le32 c.dwClockFrequency
    ++ [c.bmFramingInfo, c.bPreferedVersion, c.bMinVersion, c.bMaxVersion]

/-- The control a `struct uvc_streaming_control *` into the bytes reads. -/
def ofBytes (bs : List UInt8) : StreamingControl :=
  { bmHint := get16 bs 0, bFormatIndex := byteAt bs 2, bFrameIndex := byteAt bs 3
    dwFrameInterval := get32 bs 4, wKeyFrameRate := get16 bs 8, wPFrameRate := get16 bs 10
    wCompQuality := get16 bs 12, wCompWindowSize := get16 bs 14, wDelay := get16 bs 16
    dwMaxVideoFrameSize := get32 bs 18, dwMaxPayloadTransferSize := get32 bs 22
    dwClockFrequency := get32 bs 26, bmFramingInfo := byteAt bs 30, bPreferedVersion := byteAt bs 31
    bMinVersion := byteAt bs 32, bMaxVersion := byteAt bs 33 }

end StreamingControl

/-! ## Format tables -/

/-- `struct uvc_frame_info`; `intervals` is the array, `0` after the last interval. -/
structure FrameInfo where
  width : UInt32
  height : UInt32
  intervals : List UInt32
  deriving DecidableEq

/-- `struct uvc_format_info`; `frames` is the array up to and including its `{ 0, 0, { 0, } }` end. -/
structure FormatInfo where
  fcc : UInt32
  frames : List FrameInfo
  deriving DecidableEq

def uvcFramesYuyv : List FrameInfo :=
  [⟨320, 240, [333333, 0, 0, 0, 0, 0, 0, 0]⟩, ⟨0, 0, [0, 0, 0, 0, 0, 0, 0, 0]⟩]

def uvcFormats : List FormatInfo := [⟨PixFormat.YUYV, uvcFramesYuyv⟩]

def FrameInfo.zero : FrameInfo := ⟨0, 0, []⟩
def FormatInfo.zero : FormatInfo := ⟨0, []⟩

/-- `while (format->frames[nframes].width != 0) ++nframes;` -/
def countFrames (frames : List FrameInfo) : Nat := (frames.takeWhile (·.width ≠ 0)).length

/-- `dwMaxVideoFrameSize` as set for a format's frame; other formats leave the field alone. -/
def maxVideoFrameSize (fcc : UInt32) (frame : FrameInfo) (old : UInt32) : UInt32 :=
  if fcc = PixFormat.YUYV then frame.width * frame.height * 2 else old

/-- `uvc_fill_streaming_control`, on the control `ctrl` holds before the call. -/
def uvcFillStreamingControl (formats : List FormatInfo) (ctrl : StreamingControl)
    (iframe iformat : Int) : StreamingControl :=
  let iformat := if iformat < 0 then formats.length + iformat else iformat
  if iformat < 0 ∨ (formats.length : Int) ≤ iformat then ctrl
  else
    let format := formats.getD iformat.toNat FormatInfo.zero
    let nframes := countFrames format.frames
    let iframe := if iframe < 0 then nframes + iframe else iframe
    if iframe < 0 ∨ (nframes : Int) ≤ iframe then ctrl
    else
      let frame := format.frames.getD iframe.toNat FrameInfo.zero
      { StreamingControl.zero with
        bmHint := 1
        bFormatIndex := UInt8.ofNat (iformat.toNat + 1)
        bFrameIndex := UInt8.ofNat (iframe.toNat + 1)
        dwFrameInterval := frame.intervals.headD 0
        dwMaxVideoFrameSize := maxVideoFrameSize format.fcc frame 0
        dwMaxPayloadTransferSize := 512
        bmFramingInfo := 3
        bPreferedVersion := 1
        bMaxVersion := 1 }

/-- `clamp (val, min, max)` -/
def clamp (val min max : Nat) : Nat :=
  let val := if val < min then min else val
  if max < val then max else val

/-- `while (interval[0] < want && interval[1]) ++interval;` and the interval it stops at. -/
def scanInterval (want : UInt32) : List UInt32 → UInt32
  | [] => 0
  | [i] => i
  | i :: j :: is => if i < want ∧ j ≠ 0 then scanInterval want (j :: is) else i

/-- What a `DATA` event makes of the host's control: the format, the frame and the interval chosen. -/
structure Selection where
  iformat : Nat
  iframe : Nat
  format : FormatInfo
  frame : FrameInfo
  interval : UInt32
  deriving DecidableEq

def selectFormat (formats : List FormatInfo) (ctrl : StreamingControl) : Selection :=
  let iformat := clamp ctrl.bFormatIndex.toNat 1 formats.length
  let format := formats.getD (iformat - 1) FormatInfo.zero
  let iframe := clamp ctrl.bFrameIndex.toNat 1 (countFrames format.frames)
  let frame := format.frames.getD (iframe - 1) FrameInfo.zero
  ⟨iformat, iframe, format, frame, scanInterval ctrl.dwFrameInterval frame.intervals⟩

/-- The fields of `target` a `DATA` event writes. -/
def Selection.apply (sel : Selection) (target : StreamingControl) : StreamingControl :=
  { target with
    bFormatIndex := UInt8.ofNat sel.iformat
    bFrameIndex := UInt8.ofNat sel.iframe
    dwMaxVideoFrameSize := maxVideoFrameSize sel.format.fcc sel.frame target.dwMaxVideoFrameSize
    dwFrameInterval := sel.interval }

end Uvcd
