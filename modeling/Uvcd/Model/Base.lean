import Mathlib.Algebra.Group.Int.Defs
import Mathlib.Algebra.GroupWithZero.Nat

/-!
# `Model.Base` — error numbers, faults, bytes, pixel formats, the UVC gadget driver's events

C's undefined behaviour ends a run with a `Fault` that names it. Two accesses the sources make outside
any live object get a `Stray` answer from the environment instead, `trap` (undefined behaviour) or
`harmless`: the cursor an exhausted `list_for_each_entry_safe` leaves behind, and `gadget->looper` read
just after `free(gadget)`.
-/

namespace Uvcd

/-! ## Error numbers and faults -/

/-- An `errno` value; a failing call never leaves `0` there. -/
structure Errno where
  val : Nat
  pos : 0 < val
  deriving DecidableEq

namespace Errno

/-- The value a function returns for it, `-errno`. -/
def neg (e : Errno) : Int := -(e.val : Int)

theorem neg_lt (e : Errno) : e.neg < 0 := by
  have := e.pos
  unfold neg; omega

theorem neg_ne (e : Errno) : e.neg ≠ 0 := by have := e.neg_lt; omega

def E2BIG : Errno := ⟨7, by decide⟩
def ENOMEM : Errno := ⟨12, by decide⟩
def EBUSY : Errno := ⟨16, by decide⟩
def EINVAL : Errno := ⟨22, by decide⟩
def ENOSYS : Errno := ⟨38, by decide⟩
def EL2HLT : Errno := ⟨51, by decide⟩

end Errno

/-- The undefined behaviours the program can run into. -/
inductive Fault where
  /-- a callback is called with a `priv` that has been freed -/
  | danglingCallback
  /-- the container of the list head is used as a gadget -/
  | strayGadget
  /-- `gadget->looper` is read after `free(gadget)` -/
  | freedLooper
  /-- a frame is read through a pointer into a freed buffer -/
  | danglingFrame
  /-- the copy of a frame into or out of a gadget leaves one of its two buffers -/
  | overrun
  /-- the conversion of a captured frame leaves one of its two buffers -/
  | conversion
  /-- a null or otherwise invalid pointer is followed -/
  | badPointer
  /-- an `int` product, or a `double` that becomes an integer, is out of range -/
  | overflow
  deriving DecidableEq

/-- What an access outside any live object does: undefined behaviour, or nothing visible. -/
inductive Stray where
  | trap
  | harmless
  deriving DecidableEq

/-! ## Memory contents -/

/-- The bytes behind a pointer. -/
abbrev Bytes := Nat → UInt8

/-- `memcpy (dst + dstOff) (src + srcOff) n`. -/
def memcpy (dst : Bytes) (dstOff : Nat) (src : Bytes) (srcOff n : Nat) : Bytes :=
  fun k => if dstOff ≤ k ∧ k < dstOff + n then src (srcOff + (k - dstOff)) else dst k

/-- A C string, without its terminating NUL. -/
abbrev DevName := List UInt8

instance : LawfulBEq DevName := inferInstance

/-! ## Pixel formats -/

/-- `struct v4l2_pix_format`, the fields the program or its drivers use. -/
structure PixFormat where
  width : UInt32
  height : UInt32
  pixelformat : UInt32
  field : UInt32
  sizeimage : UInt32
  deriving DecidableEq

namespace PixFormat

/-- `memset (&format, 0, sizeof format)` -/
def zero : PixFormat := ⟨0, 0, 0, 0, 0⟩

/-- `V4L2_PIX_FMT_YUYV`, `V4L2_PIX_FMT_GREY`, `V4L2_PIX_FMT_MJPEG` -/
def YUYV : UInt32 := 0x56595559
def GREY : UInt32 := 0x59455247
def MJPEG : UInt32 := 0x47504A4D

/-- `V4L2_FIELD_ANY`, `V4L2_FIELD_NONE` -/
def FIELD_ANY : UInt32 := 0
def FIELD_NONE : UInt32 := 1

/-- The length in bytes of one frame of a format. -/
def frameBytes (f : PixFormat) : Nat :=
  if f.pixelformat = YUYV then f.width.toNat * f.height.toNat * 2
  else if f.pixelformat = GREY then f.width.toNat * f.height.toNat
  else f.sizeimage.toNat

end PixFormat

/-! ## The UVC gadget driver's events (`g_uvc.h`) -/

/-- `struct usb_ctrlrequest` -/
structure CtrlRequest where
  bRequestType : UInt8
  bRequest : UInt8
  wValue : UInt16
  wIndex : UInt16
  wLength : UInt16
  deriving DecidableEq

/-- `struct uvc_request_data`: the answer to a control request, or the data stage of one. -/
structure RequestData where
  length : Int
  data : List UInt8
  deriving DecidableEq

/-- What `VIDIOC_DQEVENT` delivers. -/
inductive UvcEvent where
  | connect
  | disconnect
  | setup (req : CtrlRequest)
  | data (d : RequestData)
  | streamon
  | streamoff
  | other
  deriving DecidableEq

end Uvcd
