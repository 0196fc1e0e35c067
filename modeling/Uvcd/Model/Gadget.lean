import Uvcd.Lib.Split
import Uvcd.Model.Io
import Uvcd.Model.Control

/-!
# `Model.Gadget` — UVC gadgets (`uvc_gadget.c`)

A gadget is taken by value and returned updated; `g_gadgets` is the list of gadgets in list order.
-/

namespace Uvcd

open Split

/-- `struct uvc_gadget`; `addr` is its address, which watches hold as `priv`. -/
structure Gadget where
  addr : Nat
  vdev : Device
  isStreaming : Bool
  id : UInt32
  probe : StreamingControl
  commit : StreamingControl
  control : UInt8
  fcc : UInt32
  width : UInt32
  height : UInt32
  bulk : UInt32
  imgdata : Bytes

/-- `sizeof gadget->imgdata` -/
def imgdataSize : Nat := 640 * 480 * 2

/-- `gadget->width * gadget->height * 2` -/
def Gadget.frameSize (g : Gadget) : Nat := (g.width * g.height * 2).toNat

/-! ## Video streaming -/

def uvcVideoFillBuffer (g : Gadget) (buf : VideoBuffer) : Except Fault VideoBuffer :=
  if g.fcc = PixFormat.YUYV then
    match buf.mem with
    | none => .error .badPointer
    | some mem =>
      if buf.size < g.frameSize ∨ imgdataSize < g.frameSize then .error .overrun
      else .ok { buf with mem := some (memcpy mem 0 g.imgdata 0 g.frameSize), bytesused := g.frameSize }
  -- the `MJPEG` case is empty
  else .ok buf

/-- The mapped memory of a buffer is shared with the device's buffer array. -/
def Device.writeMem (dev : Device) (i : Nat) (mem : Option Bytes) : Device :=
  { dev with buffers := dev.buffers.modify i fun b => { b with mem := b.mem.bind fun _ => mem } }

def uvcVideoProcess (env : Env) (io : Io) (g : Gadget) : Except Fault (Gadget × Io) := do
  let (ret, k, dev) ← v4l2DequeueBuffer env io.kernel g.vdev
  match ret with
  | .error _ => .ok ({ g with vdev := dev }, { io with kernel := k })
  | .ok buf =>
    let buf ← uvcVideoFillBuffer g buf
    -- `buf` is a copy of the array's entry, its memory is the same
    let dev := if g.fcc = PixFormat.YUYV then dev.writeMem buf.index buf.mem else dev
    let (_, k, dev) := v4l2QueueBuffer env k dev buf
    .ok ({ g with vdev := dev }, { io with kernel := k })

/-- The filling loop of `uvc_video_stream` from buffer `i` on, `n` buffers to go. -/
def fillAndQueue (env : Env) (g : Gadget) :
    Nat → Nat → Kernel → Device → Except Fault (Int × Kernel × Device)
  | _, 0, k, dev => .ok (0, k, dev)
  | i, n + 1, k, dev =>
    match dev.buffers[i]? with
    | none => .error .badPointer
    | some buf => do
      let buf ← uvcVideoFillBuffer g buf
      let (ret, k, dev) := v4l2QueueBuffer env k { dev with buffers := dev.buffers.set i buf } buf
      if ret < 0 then .ok (ret, k, dev) else fillAndQueue env g (i + 1) n k dev

/-- `V4L2_MEMORY_MMAP` buffers asked for at a stream start. -/
def streamBuffers : Nat := 4

/-- The part of a stream start up to `VIDIOC_STREAMON`, with the release of its error path. -/
def uvcVideoStart (env : Env) (k : Kernel) (g : Gadget) : Except Fault (Int × Kernel × Device) := do
  let (ret, k, dev) ← v4l2AllocBuffers env k g.vdev .mmap streamBuffers
  if ret < 0 then .ok (ret, k, dev)
  else
    let (ret, k, dev) ← v4l2MmapBuffers env k dev
    let (ret, k, dev) ←
      (if ret < 0 then .ok (ret, k, dev) else fillAndQueue env g 0 dev.nbufs k dev :
        Except Fault (Int × Kernel × Device))
    let (ret, k, dev) := if ret < 0 then (ret, k, dev) else v4l2StreamOn env k dev
    if ret < 0 then do
      let (_, k, dev) ← v4l2FreeBuffers env k dev
      .ok (ret, k, dev)
    else .ok (0, k, dev)

def uvcVideoStream (env : Env) (io : Io) (g : Gadget) (enable : Bool) :
    Except Fault (Int × Gadget × Io) :=
  if !enable then
    if !g.isStreaming then .ok (0, g, io)
    else do
      let io := io.unwatch g.vdev.fd .write
      -- neither result is looked at: the gadget stops even where its buffers stay
      let (_, k, dev) := v4l2StreamOff env io.kernel g.vdev
      let (_, k, dev) ← v4l2FreeBuffers env k dev
      let g := { g with vdev := dev, isStreaming := false }
      .ok (0, g, Io.post env { io with kernel := k } (.streamOff g.id))
  else if g.isStreaming then .ok (0, g, io)
  else do
    let (ret, k, dev) ← uvcVideoStart env io.kernel g
    let io := { io with kernel := k }
    if ret < 0 then .ok (ret, { g with vdev := dev }, io)
    else
      let g := { g with vdev := dev, isStreaming := true }
      let io := io.watch env g.vdev.fd .write .uvcVideoProcess (.gadget g.addr)
      .ok (0, g, io.post env (.streamOn g.id))

def uvcVideoSetFormat (env : Env) (io : Io) (g : Gadget) : Int × Gadget × Io :=
  match io.malloc env with
  | (none, io) => (-1, g, io)
  | (some p, io) =>
    let io := { io with allocs := io.allocs ++ [p] }
    let fmt : PixFormat := ⟨g.width, g.height, g.fcc, PixFormat.FIELD_NONE, 0⟩
    let (ret, fmt, k, dev) := v4l2SetFormat env io.kernel g.vdev fmt
    let g := { g with vdev := dev }
    let io := { io with kernel := k }
    if ret < 0 then (ret, g, io.free p)
    else (0, g, io.post env (.setFmt g.id p fmt))

/-! ## Request processing -/

/-- `UVC_VS_PROBE_CONTROL`, `UVC_VS_COMMIT_CONTROL` -/
def VS_PROBE_CONTROL : UInt8 := 0x01
def VS_COMMIT_CONTROL : UInt8 := 0x02

def UVC_SET_CUR : UInt8 := 0x01
def UVC_GET_CUR : UInt8 := 0x81
def UVC_GET_MIN : UInt8 := 0x82
def UVC_GET_MAX : UInt8 := 0x83
def UVC_GET_RES : UInt8 := 0x84
def UVC_GET_LEN : UInt8 := 0x85
def UVC_GET_INFO : UInt8 := 0x86
def UVC_GET_DEF : UInt8 := 0x87

def USB_TYPE_MASK : UInt8 := 0x60
def USB_TYPE_CLASS : UInt8 := 0x20
def USB_RECIP_MASK : UInt8 := 0x1f
def USB_RECIP_INTERFACE : UInt8 := 0x01

def UVC_INTF_STREAMING : UInt16 := 1

/-- `sizeof (struct uvc_streaming_control)` -/
def streamingControlSize : Nat := 34

/-- Write a control over the start of the answer's data. -/
def RequestData.putControl (r : RequestData) (c : StreamingControl) : RequestData :=
  { r with data := c.toBytes ++ r.data.drop streamingControlSize }

/-- `memset (&resp, 0, sizeof resp); resp.length = -EL2HLT;` -/
def RequestData.stall : RequestData := ⟨Errno.EL2HLT.neg, List.replicate 60 0⟩

def uvcEventsProcessStreaming (formats : List FormatInfo) (g : Gadget) (req cs : UInt8)
    (resp : RequestData) : Gadget × RequestData :=
  if cs ≠ VS_PROBE_CONTROL ∧ cs ≠ VS_COMMIT_CONTROL then (g, resp)
  else
    let resp := { resp with length := streamingControlSize }
    if req = UVC_SET_CUR then ({ g with control := cs }, { resp with length := 34 })
    else if req = UVC_GET_CUR then
      (g, resp.putControl (if cs = VS_PROBE_CONTROL then g.probe else g.commit))
    else if req = UVC_GET_MIN ∨ req = UVC_GET_MAX ∨ req = UVC_GET_DEF then
      -- `GET_MAX` asks for the last format and the last frame
      let i : Int := if req = UVC_GET_MAX then -1 else 0
      (g, resp.putControl (uvcFillStreamingControl formats (StreamingControl.ofBytes resp.data) i i))
    else if req = UVC_GET_RES then (g, resp.putControl StreamingControl.zero)
    else if req = UVC_GET_LEN then (g, { resp with data := 0x00 :: 0x22 :: resp.data.drop 2, length := 2 })
    else if req = UVC_GET_INFO then (g, { resp with data := 0x03 :: resp.data.drop 1, length := 1 })
    else (g, resp)

def uvcEventsProcessClass (formats : List FormatInfo) (g : Gadget) (ctrl : CtrlRequest)
    (resp : RequestData) : Gadget × RequestData :=
  if ctrl.bRequestType &&& USB_RECIP_MASK ≠ USB_RECIP_INTERFACE then (g, resp)
  else if ctrl.wIndex &&& 0xff = UVC_INTF_STREAMING then
    uvcEventsProcessStreaming formats g ctrl.bRequest (ctrl.wValue >>> 8).toUInt8 resp
  -- requests to the control interface are only printed
  else (g, resp)

def uvcEventsProcessSetup (formats : List FormatInfo) (g : Gadget) (ctrl : CtrlRequest)
    (resp : RequestData) : Gadget × RequestData :=
  let g := { g with control := 0 }
  if ctrl.bRequestType &&& USB_TYPE_MASK = USB_TYPE_CLASS then
    uvcEventsProcessClass formats g ctrl resp
  else (g, resp)

def uvcEventsProcessData (formats : List FormatInfo) (env : Env) (io : Io) (g : Gadget)
    (data : RequestData) : Except Fault (Gadget × Io) :=
  let sel := selectFormat formats (StreamingControl.ofBytes data.data)
  if g.control = VS_PROBE_CONTROL then .ok ({ g with probe := sel.apply g.probe }, io)
  else if g.control = VS_COMMIT_CONTROL then
    let g := { g with
      commit := sel.apply g.commit
      fcc := sel.format.fcc
      width := sel.frame.width
      height := sel.frame.height }
    -- a format the driver refuses leaves the commit as it is
    let (_, g, io) := uvcVideoSetFormat env io g
    if g.bulk ≠ 0 then do
      let (_, g, io) ← uvcVideoStream env io g true
      .ok (g, io)
    else .ok (g, io)
  else .ok (g, io)

/-- `UVCIOC_SEND_RESPONSE`; its result is ignored. -/
def sendResponse (io : Io) (g : Gadget) (resp : RequestData) : Gadget × Io :=
  ({ g with vdev := { g.vdev with file := { g.vdev.file with response := some resp } } },
    { io with kernel := io.kernel.call (.ioctl g.vdev.fd) })

def uvcGadgetProcess (env : Env) (io : Io) (g : Gadget) : Except Fault (Gadget × Io) :=
  let event := env.dqevent io.kernel.tick g.vdev.file
  let io := { io with kernel := io.kernel.call (.ioctl g.vdev.fd) }
  match event with
  | .error _ => .ok (g, io)
  -- neither these nor the data and stream events are answered
  | .ok .connect => .ok (g, io)
  | .ok .disconnect => .ok (g, io)
  | .ok (.setup req) =>
    let (g, resp) := uvcEventsProcessSetup uvcFormats g req .stall
    .ok (sendResponse io g resp)
  | .ok (.data d) => uvcEventsProcessData uvcFormats env io g d
  | .ok .streamon => do
    let (_, g, io) ← uvcVideoStream env io g true
    .ok (g, io)
  | .ok .streamoff => do
    let (_, g, io) ← uvcVideoStream env io g false
    .ok (g, io)
  -- any other event leaves the switch and is stalled
  | .ok .other => .ok (sendResponse io g .stall)

/-! ## Attach and detach -/

/-- `current ()` truncated to the `unsigned int` that holds the id. -/
def current (clock : Nat × Nat) : UInt32 := UInt32.ofNat (clock.1 * 1000000 + clock.2 / 1000)

/-- The subscriptions of `uvc_gadget_init`, which stop at the first that fails. -/
def subscribeAll (env : Env) (fd : Nat) (file : File) : List UvcEventType → Kernel → Int × Kernel
  | [], k => (0, k)
  | t :: ts, k =>
    match env.subscribe k.tick file t with
    | some _ => (-1, k.call (.ioctl fd))
    | none => subscribeAll env fd file ts (k.call (.ioctl fd))

def uvcGadgetInit (formats : List FormatInfo) (env : Env) (k : Kernel) (g : Gadget) :
    Int × Gadget × Kernel :=
  let g := { g with
    probe := uvcFillStreamingControl formats g.probe 0 0
    commit := uvcFillStreamingControl formats g.commit 0 0 }
  let g := if g.bulk ≠ 0 then { g with
      probe := { g.probe with dwMaxPayloadTransferSize := 16 * 1024 }
      commit := { g.commit with dwMaxPayloadTransferSize := 16 * 1024 } } else g
  let (ret, k) := subscribeAll env g.vdev.fd g.vdev.file [.setup, .data, .streamon, .streamoff] k
  (ret, g, k)

/-- The gadget `uvc_gadget_attach` allocates, before `uvc_gadget_init`. -/
def Gadget.fresh (addr : Nat) (dev : Device) (id : UInt32) : Gadget :=
  ⟨addr, dev, false, id, .zero, .zero, 0, 0, 0, 0, 0, fun _ => 0⟩

def uvcGadgetAttach (env : Env) (io : Io) (gadgets : List Gadget) (devname : DevName) :
    Int × List Gadget × Io :=
  match v4l2Open env io.kernel devname with
  | (none, k) => (-1, gadgets, { io with kernel := k })
  | (some dev, k) =>
    let io := { io with kernel := k }
    let close (io : Io) : Io := { io with kernel := v4l2Close io.kernel dev }
    if dev.type ≠ .videoOutput then (-1, gadgets, close io)
    else match io.malloc env with
      | (none, io) => (-1, gadgets, close io)
      | (some addr, io) =>
        let id := current (env.clock io.kernel.tick)
        let (ret, g, k) := uvcGadgetInit uvcFormats env io.kernel.ask (.fresh addr dev id)
        let io := { io with kernel := k }
        if ret < 0 then (-1, gadgets, close io)
        else
          let io := io.watch env g.vdev.fd .exception .uvcGadgetProcess (.gadget addr)
          (0, gadgets ++ [g], io.post env (.uvcAttached id))

def uvcGadgetDetach (env : Env) (io : Io) (gadgets : List Gadget) (devname : DevName) :
    Except Fault (Int × List Gadget × Io) :=
  match splitFirst (fun g => decide (g.vdev.name = devname)) gadgets with
  | none => strayCursor env (-1, gadgets, io)
  | some (pre, g, post) => do
    -- the gadget is unlinked first; its stream may still post `streamOff`
    let (_, g, io) ← uvcVideoStream env io g false
    let io := io.unwatch g.vdev.fd .exception
    let io := { io with kernel := v4l2Close io.kernel g.vdev }
    -- `gadget->looper` is read from the freed block
    match env.freed with
    | .trap => .error .freedLooper
    | .harmless => .ok (0, pre ++ post, io.post env (.uvcDetached g.id))

/-- `obj` is what the message's pointer resolves to: the frame and the length of its buffer. -/
def uvcGadgetFillBuffer (env : Env) (io : Io) (gadgets : List Gadget) (id : UInt32)
    (obj : Option (Frame × Nat)) : Except Fault (Int × List Gadget × Io) :=
  match splitFirst (fun g => decide (g.id = id)) gadgets with
  | none => strayCursor env (-1, gadgets, io)
  | some (pre, g, post) =>
    if g.isStreaming then
      match obj with
      | none => .error .danglingFrame
      | some (frame, size) =>
        if size < g.frameSize ∨ imgdataSize < g.frameSize then .error .overrun
        else
          let g := { g with imgdata := memcpy g.imgdata 0 frame.bytes 0 g.frameSize }
          .ok (0, pre ++ g :: post, { io with delivered := io.delivered ++ [frame] })
    else .ok (-1, gadgets, io)

def uvcGadgetTerminate (env : Env) : List Gadget → Io → Except Fault Io
  | [], io => .ok io
  | g :: gs, io => do
    let (_, g, io) ← uvcVideoStream env io g false
    let io := io.unwatch g.vdev.fd .exception
    uvcGadgetTerminate env gs { io with kernel := v4l2Close io.kernel g.vdev }

end Uvcd
