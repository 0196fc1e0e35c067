import Uvcd.Model.Gadget

/-!
# `Model.Capture` — V4L2 captures (`capture.c`)

A capture is taken by value and returned updated; `g_captures` is the list of captures in list order.
`Capture.buffers` is the block `v4l_video_stream` allocates, the two frame buffers one after the other.
-/

namespace Uvcd

open Split

/-- `INTERNAL_BUFFER_NUMBER` -/
def internalBufferNumber : Nat := 2

/-- The internal frame buffers: `internalBufferNumber` buffers of `stride` bytes in one allocation.
    `stamp` is the call that dequeued the frame last converted to an offset. -/
structure FrameBufs where
  addr : Nat
  stride : Nat
  mem : Bytes
  stamp : Nat → Nat

/-- `struct v4l_capture` -/
structure Capture where
  addr : Nat
  vdev : Device
  isStreaming : Bool
  gadgetId : UInt32
  fcc : UInt32
  width : UInt32
  height : UInt32
  index : UInt32
  buffers : Option FrameBufs

/-- The frame at an offset of the block. -/
def FrameBufs.frameAt (fb : FrameBufs) (off : Nat) : Frame :=
  ⟨fb.stamp off, fun k => if k < fb.stride then fb.mem (off + k) else 0⟩

/-- What a frame pointer resolves to: the frame and the length of its buffer. -/
def resolveFrame (captures : List Capture) (p : FramePtr) : Option (Frame × Nat) :=
  captures.findSome? fun c => c.buffers.bind fun fb =>
    if fb.addr = p.addr then some (fb.frameAt p.off, fb.stride) else none

/-- `int size = capture->height * capture->width * 2;` -/
def Capture.frameSize (c : Capture) : Int := (c.height * c.width * 2).toInt32.toInt

/-! ## Frame conversion -/

/-- `for (i = 0; i < size; i += 2) yuyv[i] = *y++;`, `n` steps from `y[k]` on. -/
def greyLoop (y : Bytes) (off : Nat) : Nat → Nat → Bytes → Bytes
  | _, 0, m => m
  | k, n + 1, m => greyLoop y off (k + 1) n fun a => if a = off + 2 * k then y k else m a

/-- The bytes a conversion of `size` bytes of YUYV reads. -/
def sourceBytes (pixelformat : UInt32) (size : Nat) : Nat :=
  if pixelformat = PixFormat.GREY then (size + 1) / 2 else size

/-- The block's contents after a frame is converted to `off`. -/
def convertFrame (pixelformat : UInt32) (y : Bytes) (off size : Nat) (m : Bytes) : Bytes :=
  if pixelformat = PixFormat.GREY then greyLoop y off 0 ((size + 1) / 2) m
  else memcpy m off y 0 size

def FrameBufs.convert (fb : FrameBufs) (pixelformat : UInt32) (y : Bytes) (off size stamp : Nat) :
    FrameBufs :=
  { fb with
    mem := convertFrame pixelformat y off size fb.mem
    stamp := fun a => if a = off then stamp else fb.stamp a }

/-- `stamp` is the call that dequeued `buf`. -/
def v4lProcessBuffer (env : Env) (io : Io) (c : Capture) (buf : VideoBuffer) (stamp : Nat) :
    Except Fault (Int × Capture × Io) :=
  let slot := c.index.toNat % internalBufferNumber
  let size := c.frameSize
  -- the index moves on even when the format is refused below
  let c := { c with index := c.index + 1 }
  let pixelformat := c.vdev.format.pixelformat
  if pixelformat ≠ PixFormat.GREY ∧ pixelformat ≠ PixFormat.YUYV then .ok (Errno.ENOSYS.neg, c, io)
  else match c.buffers, buf.mem with
    | some fb, some y =>
      let off := fb.stride * slot
      if (pixelformat = PixFormat.YUYV ∧ size < 0) ∨ buf.size < sourceBytes pixelformat size.toNat
          ∨ internalBufferNumber * fb.stride < off + size.toNat then .error .conversion
      else
        let fb := fb.convert pixelformat y off size.toNat stamp
        -- the result is not looked at; `posted` keeps the frames that went out
        let (ret, io) := looperSendMessage env io (.frameAvailable c.gadgetId ⟨fb.addr, off⟩)
        let io := if ret = 0 then { io with posted := io.posted ++ [fb.frameAt off] } else io
        .ok (0, { c with buffers := some fb }, io)
    | _, _ => .error .badPointer

def captureProcess (env : Env) (io : Io) (c : Capture) : Except Fault (Capture × Io) := do
  let stamp := io.kernel.tick
  let (ret, k, dev) ← v4l2DequeueBuffer env io.kernel c.vdev
  let c := { c with vdev := dev }
  let io := { io with kernel := k }
  match ret with
  | .error _ => .ok (c, io)
  | .ok buf =>
    let (_, c, io) ← v4lProcessBuffer env io c buf stamp
    let (_, k, dev) := v4l2QueueBuffer env io.kernel c.vdev buf
    .ok ({ c with vdev := dev }, { io with kernel := k })

/-! ## Formats and streaming -/

def v4lVideoSupportedFormat : List UInt32 := [PixFormat.YUYV, PixFormat.GREY]

/-- The candidate loop of `v4l_video_try_set_format`. -/
def tryFormats (env : Env) (fmt : PixFormat) :
    List UInt32 → Kernel → Capture → Int × Kernel × Capture
  | [], k, c => (-1, k, c)
  | pf :: pfs, k, c =>
    let (ret, _, k, dev) := v4l2SetFormat env k c.vdev ⟨fmt.width, fmt.height, pf, PixFormat.FIELD_ANY, 0⟩
    if ret = 0 then
      -- whichever candidate the driver took, the format asked for is recorded
      (0, k, { c with vdev := dev, fcc := fmt.pixelformat, width := fmt.width, height := fmt.height })
    else tryFormats env fmt pfs k { c with vdev := dev }

def v4lVideoTrySetFormat (env : Env) (k : Kernel) (c : Capture) (fmt : PixFormat) :
    Int × Kernel × Capture :=
  if fmt.pixelformat ≠ PixFormat.YUYV then (-1, k, c)
  else tryFormats env fmt v4lVideoSupportedFormat k c

/-- The queueing loop of `v4l_video_stream` from buffer `i` on, `n` buffers to go. -/
def queueAll (env : Env) : Nat → Nat → Kernel → Device → Except Fault (Int × Kernel × Device)
  | _, 0, k, dev => .ok (0, k, dev)
  | i, n + 1, k, dev =>
    match dev.buffers[i]? with
    | none => .error .badPointer
    | some buf =>
      let (ret, k, dev) := v4l2QueueBuffer env k dev buf
      if ret < 0 then .ok (ret, k, dev) else queueAll env (i + 1) n k dev

/-- The part of a stream start up to queueing the buffers, with the release of its error paths. -/
def v4lVideoStart (env : Env) (k : Kernel) (dev : Device) : Except Fault (Int × Kernel × Device) := do
  let (ret, k, dev) ← v4l2AllocBuffers env k dev .mmap streamBuffers
  if ret < 0 then .ok (ret, k, dev)
  else
    let (ret, k, dev) ← v4l2MmapBuffers env k dev
    let (ret, k, dev) ←
      (if ret < 0 then .ok (ret, k, dev) else queueAll env 0 dev.nbufs k dev :
        Except Fault (Int × Kernel × Device))
    if ret < 0 then do
      let (_, k, dev) ← v4l2FreeBuffers env k dev
      .ok (ret, k, dev)
    else .ok (0, k, dev)

/-- `malloc (size * INTERNAL_BUFFER_NUMBER)`: the product is an `int`. -/
def Io.mallocFrames (env : Env) (io : Io) (size : Int) : Except Fault (Option Nat × Io) :=
  if size * internalBufferNumber < -2 ^ 31 ∨ 2 ^ 31 ≤ size * internalBufferNumber then .error .overflow
  -- as a `size_t`, more than there is
  else if size < 0 then .ok (none, io.tick)
  else .ok (io.malloc env)

def v4lVideoStream (env : Env) (io : Io) (c : Capture) (on : Bool) :
    Except Fault (Int × Capture × Io) :=
  if !on then
    if !c.isStreaming then .ok (0, c, io)
    else do
      let io := io.unwatch c.vdev.fd .read
      let (_, k, dev) := v4l2StreamOff env io.kernel c.vdev
      let (_, k, dev) ← v4l2FreeBuffers env k dev
      .ok (0, { c with vdev := dev, buffers := none, index := 0, isStreaming := false },
        { io with kernel := k })
  else if c.isStreaming then .ok (0, c, io)
  else do
    let size := (c.width * c.height * 2).toInt32.toInt
    let (addr, io) ← io.mallocFrames env size
    match addr with
    | none => .ok (Errno.ENOMEM.neg, c, io)
    | some addr =>
      let (ret, k, dev) ← v4lVideoStart env io.kernel c.vdev
      -- the block is freed again
      if ret < 0 then .ok (ret, { c with vdev := dev }, { io with kernel := k })
      else
        let fb : FrameBufs := ⟨addr, size.toNat, fun _ => 128, fun _ => 0⟩
        -- the result of `v4l2_stream_on` is not looked at
        let (_, k, dev) := v4l2StreamOn env k dev
        let c := { c with vdev := dev, buffers := some fb, index := 0, isStreaming := true }
        .ok (0, c, Io.watch env { io with kernel := k } dev.fd .read .captureProcess (.capture c.addr))

/-! ## Attach and detach -/

/-- The capture `v4l_capture_attach` allocates. -/
def Capture.fresh (addr : Nat) (dev : Device) : Capture := ⟨addr, dev, false, 0, 0, 0, 0, 0, none⟩

def v4lCaptureAttach (env : Env) (io : Io) (captures : List Capture) (devname : DevName) :
    Int × List Capture × Io :=
  match v4l2Open env io.kernel devname with
  | (none, k) => (-1, captures, { io with kernel := k })
  | (some dev, k) =>
    let io := { io with kernel := k }
    let close (io : Io) : Io := { io with kernel := v4l2Close io.kernel dev }
    if dev.type ≠ .videoCapture then (-1, captures, close io)
    else match io.malloc env with
      | (none, io) => (-1, captures, close io)
      | (some addr, io) => (0, captures ++ [.fresh addr dev], io)

def v4lCaptureDetach (env : Env) (io : Io) (captures : List Capture) (devname : DevName) :
    Except Fault (Int × List Capture × Io) :=
  match splitFirst (fun c => decide (c.vdev.name = devname)) captures with
  | none => .ok (-1, captures, io)
  | some (pre, c, post) => do
    let (_, c, io) ← v4lVideoStream env io c false
    .ok (0, pre ++ post, { io with kernel := v4l2Close io.kernel c.vdev })

def v4lCaptureTerminate (env : Env) : List Capture → Io → Except Fault Io
  | [], io => .ok io
  | c :: cs, io => do
    let (_, c, io) ← v4lVideoStream env io c false
    v4lCaptureTerminate env cs { io with kernel := v4l2Close io.kernel c.vdev }

/-! ## Pairing with a gadget -/

/-- The first loop of `v4l_capture_set_fmt`: the holder of `id` either takes the format, and the call is
    over (`true`), or is released. -/
def setFmtHolder (env : Env) (id : UInt32) (fmt : PixFormat) :
    List Capture → Kernel → Bool × List Capture × Kernel
  | [], k => (false, [], k)
  | c :: cs, k =>
    if c.gadgetId = id then
      let (ret, k, c) := v4lVideoTrySetFormat env k c fmt
      if ret = 0 then (true, c :: cs, k) else (false, { c with gadgetId := 0 } :: cs, k)
    else
      let (taken, cs, k) := setFmtHolder env id fmt cs k
      (taken, c :: cs, k)

/-- The second loop: the first unpaired capture that takes the format is paired. -/
def setFmtFree (env : Env) (id : UInt32) (fmt : PixFormat) :
    List Capture → Kernel → Bool × List Capture × Kernel
  | [], k => (false, [], k)
  | c :: cs, k =>
    if c.gadgetId = 0 then
      let (ret, k, c) := v4lVideoTrySetFormat env k c fmt
      if ret < 0 then
        let (taken, cs, k) := setFmtFree env id fmt cs k
        (taken, c :: cs, k)
      else (true, { c with gadgetId := id } :: cs, k)
    else
      let (taken, cs, k) := setFmtFree env id fmt cs k
      (taken, c :: cs, k)

def v4lCaptureSetFmt (env : Env) (io : Io) (captures : List Capture) (id : UInt32) (fmt : PixFormat) :
    Int × List Capture × Io :=
  let (taken, captures, k) := setFmtHolder env id fmt captures io.kernel
  if taken then (0, captures, { io with kernel := k })
  else
    let (taken, captures, k) := setFmtFree env id fmt captures k
    (if taken then 0 else -1, captures, { io with kernel := k })

def v4lCaptureStream (env : Env) (io : Io) (captures : List Capture) (id : UInt32) (on : Bool) :
    Except Fault (Int × List Capture × Io) :=
  match splitFirst (fun c => decide (c.gadgetId = id)) captures with
  | none => .ok (-1, captures, io)
  | some (pre, c, post) => do
    let (ret, c, io) ← v4lVideoStream env io c on
    .ok (if ret = 0 then 0 else -1, pre ++ c :: post, io)

def v4lCaptureDetachGadget (env : Env) (io : Io) (captures : List Capture) (id : UInt32) :
    Except Fault (Int × List Capture × Io) :=
  match splitFirst (fun c => decide (c.gadgetId = id)) captures with
  | none => .ok (-1, captures, io)
  | some (pre, c, post) => do
    let (_, c, io) ← v4lVideoStream env io c false
    .ok (0, pre ++ { c with gadgetId := 0 } :: post, io)

end Uvcd
