import Uvcd.Lib.Machine
import Uvcd.Model.Gadget

/-!
# `Model.TestApp` — the UVC gadget test application (`uvc-gadget.c`)

The other program built from `events.c` and `v4l2.c`: one device, shown to the host as rows of running colour or as a
still image. Its functions have the names of those of `uvc_gadget.c`, here in a namespace of their own, and differ
from them. `events.c` does not look into a callback: `uvc_events_process` is kept in the watch list as
`Callback.uvcGadgetProcess`, and the `priv` of both callbacks is the one `struct uvc_device` there is.

The program is a machine again (`App.step`): it takes one callback or one stage of `main` or `events_loop` at a time,
and a signal may come between any two of them.
-/

namespace Uvcd

namespace TestApp

/-! ## The device -/

/-- `struct uvc_device` -/
structure UvcDevice where
  vdev : Device
  probe : StreamingControl
  commit : StreamingControl
  control : UInt8
  fcc : UInt32
  width : UInt32
  height : UInt32
  bulk : Bool
  color : UInt8
  imgsize : UInt32
  /-- `none` for a null pointer, else a block of `imgsize` bytes -/
  imgdata : Option Bytes
  events : Events

/-- What `uvc_video_fill_buffer` has made of a buffer, and whether the driver owned the buffer then. -/
structure Picture where
  fcc : UInt32
  width : UInt32
  height : UInt32
  mem : Option Bytes
  bytesused : Nat
  lent : Bool

/-- Where `main` and `events_loop` stand. -/
inductive Phase where
  /-- `main`, once the signal handler is installed -/
  | init
  /-- the condition of the loop of `events_loop` -/
  | test
  | select
  /-- `events_dispatch`, the callbacks still to be called -/
  | dispatch (iter : List EventIter)
  /-- after `events_loop` -/
  | exit
  | finished
  deriving DecidableEq

/-- The program. `filled` records every buffer filled, oldest first; the program does not read it. -/
structure App where
  kernel : Kernel
  dev : UvcDevice
  filled : List Picture
  phase : Phase

/-! ## Video streaming -/

/-- `memset (dst + off, c, n)` -/
def memset (dst : Bytes) (off : Nat) (c : UInt8) (n : Nat) : Bytes :=
  fun k => if off ≤ k ∧ k < off + n then c else dst k

/-- The loop of `uvc_video_fill_buffer` over a buffer of `size` bytes, from row `i` on, `n` rows to go: `dev->color` and
    the memory after it. -/
def fillRows (bpl : UInt32) (size : Nat) : UInt32 → Nat → UInt8 → Bytes → Except Fault (UInt8 × Bytes)
  | _, 0, color, mem => .ok (color, mem)
  | i, n + 1, color, mem =>
    if size < (i * bpl).toNat + bpl.toNat then .error .overrun
    else fillRows bpl size (i + 1) n (color + 1) (memset mem (i * bpl).toNat color bpl.toNat)

def uvcVideoFillBuffer (dev : UvcDevice) (buf : VideoBuffer) : Except Fault (UvcDevice × VideoBuffer) :=
  if dev.fcc = PixFormat.YUYV then
    let bpl := dev.width * 2
    let bytesused := (bpl * dev.height).toNat
    match buf.mem with
    | none => if dev.height = 0 then .ok (dev, { buf with bytesused := bytesused }) else .error .badPointer
    | some mem => do
      let (color, mem) ← fillRows bpl buf.size 0 dev.height.toNat dev.color mem
      .ok ({ dev with color := color }, { buf with mem := some mem, bytesused := bytesused })
  else if dev.fcc = PixFormat.MJPEG then
    if dev.imgsize = 0 then .ok (dev, { buf with bytesused := 0 })
    else match buf.mem, dev.imgdata with
      | some mem, some img =>
        if buf.size < dev.imgsize.toNat then .error .overrun
        else .ok (dev, { buf with
          mem := some (memcpy mem 0 img 0 dev.imgsize.toNat), bytesused := dev.imgsize.toNat })
      | _, _ => .error .badPointer
  else .ok (dev, buf)

/-- The record of a filled buffer, `queued` being the buffers the driver owns. -/
def UvcDevice.picture (dev : UvcDevice) (queued : List Nat) (buf : VideoBuffer) : Picture :=
  ⟨dev.fcc, dev.width, dev.height, buf.mem, buf.bytesused, decide (buf.index ∈ queued)⟩

def uvcVideoProcess (env : Env) (app : App) : Except Fault App := do
  let (ret, k, vdev) ← v4l2DequeueBuffer env app.kernel app.dev.vdev
  match ret with
  | .error _ => .ok { app with kernel := k, dev := { app.dev with vdev := vdev } }
  | .ok buf =>
    let (dev, buf) ← uvcVideoFillBuffer app.dev buf
    -- `buf` is a copy of the array's entry, its memory is the same
    let filled := app.filled ++ [dev.picture vdev.file.queued buf]
    let (_, k, vdev) := v4l2QueueBuffer env k (vdev.writeMem buf.index buf.mem) buf
    .ok { app with kernel := k, dev := { dev with vdev := vdev }, filled := filled }

/-- The filling loop of `uvc_video_stream` from buffer `i` on, `n` buffers to go. -/
def fillAndQueue (env : Env) : Nat → Nat → App → Except Fault (Int × App)
  | _, 0, app => .ok (0, app)
  | i, n + 1, app =>
    match app.dev.vdev.buffers[i]? with
    | none => .error .badPointer
    | some buf => do
      let (dev, buf) ← uvcVideoFillBuffer app.dev buf
      let vdev := { app.dev.vdev with buffers := app.dev.vdev.buffers.set i buf }
      let filled := app.filled ++ [dev.picture vdev.file.queued buf]
      let (ret, k, vdev) := v4l2QueueBuffer env app.kernel vdev buf
      let app := { app with kernel := k, dev := { dev with vdev := vdev }, filled := filled }
      if ret < 0 then .ok (ret, app) else fillAndQueue env (i + 1) n app

/-- `events_watch_fd`, with its allocation. -/
def App.watch (env : Env) (app : App) (type : EventType) (callback : Callback) : App :=
  if env.malloc app.kernel.tick then { app with
    kernel := app.kernel.ask
    dev := { app.dev with events := eventsWatchFd app.dev.events app.dev.vdev.fd type callback (.gadget 0) } }
  else { app with kernel := app.kernel.ask }

/-- The calls on the V4L2 device alone. -/
def App.putVdev (app : App) (k : Kernel) (vdev : Device) : App :=
  { app with kernel := k, dev := { app.dev with vdev := vdev } }

/-- `error:` in `uvc_video_stream` -/
def streamError (env : Env) (ret : Int) (app : App) : Except Fault (Int × App) := do
  let (_, k, vdev) ← v4l2FreeBuffers env app.kernel app.dev.vdev
  .ok (ret, app.putVdev k vdev)

def uvcVideoStream (env : Env) (app : App) (enable : Bool) : Except Fault (Int × App) :=
  if !enable then do
    let app := { app with dev := { app.dev with
      events := eventsUnwatchFd app.dev.events app.dev.vdev.fd .write } }
    let (_, k, vdev) := v4l2StreamOff env app.kernel app.dev.vdev
    let (_, k, vdev) ← v4l2FreeBuffers env k vdev
    .ok (0, app.putVdev k vdev)
  else do
    let (ret, k, vdev) ← v4l2AllocBuffers env app.kernel app.dev.vdev .mmap 4
    let app := app.putVdev k vdev
    if ret < 0 then .ok (ret, app)
    else
      let (ret, k, vdev) ← v4l2MmapBuffers env app.kernel app.dev.vdev
      let app := app.putVdev k vdev
      if ret < 0 then streamError env ret app
      else
        let (ret, app) ← fillAndQueue env 0 app.dev.vdev.nbufs app
        if ret < 0 then streamError env ret app
        else
          -- the result of `VIDIOC_STREAMON` is not looked at
          let (_, k, vdev) := v4l2StreamOn env app.kernel app.dev.vdev
          .ok (0, (app.putVdev k vdev).watch env .write .uvcVideoProcess)

/-- The size asked for, `dev->imgsize * 1.5` for an image: a `double` that has to be an `unsigned int`. -/
def UvcDevice.sizeimage (dev : UvcDevice) : Except Fault UInt32 :=
  if dev.fcc = PixFormat.MJPEG then
    if 2 ^ 32 ≤ dev.imgsize.toNat * 3 / 2 then .error .overflow
    else .ok (UInt32.ofNat (dev.imgsize.toNat * 3 / 2))
  else .ok 0

def uvcVideoSetFormat (env : Env) (app : App) : Except Fault (Int × App) := do
  let dev := app.dev
  let sizeimage ← dev.sizeimage
  let (ret, _, k, vdev) := v4l2SetFormat env app.kernel dev.vdev
    ⟨dev.width, dev.height, dev.fcc, PixFormat.FIELD_NONE, sizeimage⟩
  .ok (ret, app.putVdev k vdev)

/-! ## Request processing -/

def uvcFramesYuyv : List FrameInfo :=
  [⟨640, 360, [666666, 10000000, 50000000, 0, 0, 0, 0, 0]⟩, ⟨1280, 720, [50000000, 0, 0, 0, 0, 0, 0, 0]⟩,
    ⟨0, 0, [0, 0, 0, 0, 0, 0, 0, 0]⟩]

def uvcFramesMjpeg : List FrameInfo :=
  [⟨640, 360, [666666, 10000000, 50000000, 0, 0, 0, 0, 0]⟩, ⟨1280, 720, [50000000, 0, 0, 0, 0, 0, 0, 0]⟩,
    ⟨0, 0, [0, 0, 0, 0, 0, 0, 0, 0]⟩]

def uvcFormats : List FormatInfo := [⟨PixFormat.YUYV, uvcFramesYuyv⟩, ⟨PixFormat.MJPEG, uvcFramesMjpeg⟩]

/-- `dwMaxVideoFrameSize` as set for a format's frame; other formats leave the field alone. -/
def maxVideoFrameSize (imgsize fcc : UInt32) (frame : FrameInfo) (old : UInt32) : UInt32 :=
  if fcc = PixFormat.YUYV then frame.width * frame.height * 2
  else if fcc = PixFormat.MJPEG then imgsize
  else old

def uvcFillStreamingControl (imgsize : UInt32) (ctrl : StreamingControl) (iframe iformat : Int) :
    StreamingControl :=
  let iformat := if iformat < 0 then uvcFormats.length + iformat else iformat
  if iformat < 0 ∨ (uvcFormats.length : Int) ≤ iformat then ctrl
  else
    let format := uvcFormats.getD iformat.toNat FormatInfo.zero
    let nframes := countFrames format.frames
    let iframe := if iframe < 0 then nframes + iframe else iframe
    if iframe < 0 ∨ (nframes : Int) ≤ iframe then ctrl
    else
      let frame := format.frames.getD iframe.toNat FrameInfo.zero
      { StreamingControl.zero with
        bmHint := 1
        bFormatIndex := UInt8.ofNat (iformat.toNat + 1)
        bFrameIndex := UInt8.ofNat (iframe.toNat + 1)
        dwFrameInterval := frame.intervals.headD 0
        dwMaxVideoFrameSize := maxVideoFrameSize imgsize format.fcc frame 0
        dwMaxPayloadTransferSize := 512
        bmFramingInfo := 3
        bPreferedVersion := 1
        bMaxVersion := 1 }

def uvcEventsProcessStreaming (dev : UvcDevice) (req cs : UInt8) (resp : RequestData) :
    UvcDevice × RequestData :=
  if cs ≠ VS_PROBE_CONTROL ∧ cs ≠ VS_COMMIT_CONTROL then (dev, resp)
  else
    let resp := { resp with length := streamingControlSize }
    if req = UVC_SET_CUR then ({ dev with control := cs }, { resp with length := 34 })
    else if req = UVC_GET_CUR then
      (dev, resp.putControl (if cs = VS_PROBE_CONTROL then dev.probe else dev.commit))
    else if req = UVC_GET_MIN ∨ req = UVC_GET_MAX ∨ req = UVC_GET_DEF then
      let i : Int := if req = UVC_GET_MAX then -1 else 0
      (dev, resp.putControl (uvcFillStreamingControl dev.imgsize (StreamingControl.ofBytes resp.data) i i))
    else if req = UVC_GET_RES then (dev, resp.putControl StreamingControl.zero)
    else if req = UVC_GET_LEN then
      (dev, { resp with data := 0x00 :: 0x22 :: resp.data.drop 2, length := 2 })
    else if req = UVC_GET_INFO then (dev, { resp with data := 0x03 :: resp.data.drop 1, length := 1 })
    else (dev, resp)

def uvcEventsProcessClass (dev : UvcDevice) (ctrl : CtrlRequest) (resp : RequestData) :
    UvcDevice × RequestData :=
  if ctrl.bRequestType &&& USB_RECIP_MASK ≠ USB_RECIP_INTERFACE then (dev, resp)
  else if ctrl.wIndex &&& 0xff = UVC_INTF_STREAMING then
    uvcEventsProcessStreaming dev ctrl.bRequest (ctrl.wValue >>> 8).toUInt8 resp
  -- requests to the control interface are only printed
  else (dev, resp)

def uvcEventsProcessSetup (dev : UvcDevice) (ctrl : CtrlRequest) (resp : RequestData) :
    UvcDevice × RequestData :=
  let dev := { dev with control := 0 }
  if ctrl.bRequestType &&& USB_TYPE_MASK = USB_TYPE_CLASS then uvcEventsProcessClass dev ctrl resp
  else (dev, resp)

/-- The fields of `target` a `DATA` event writes; format, frame and interval are chosen as in the daemon. -/
def applySelection (imgsize : UInt32) (sel : Selection) (target : StreamingControl) : StreamingControl :=
  { target with
    bFormatIndex := UInt8.ofNat sel.iformat
    bFrameIndex := UInt8.ofNat sel.iframe
    dwMaxVideoFrameSize := maxVideoFrameSize imgsize sel.format.fcc sel.frame target.dwMaxVideoFrameSize
    dwFrameInterval := sel.interval }

def uvcEventsProcessData (env : Env) (app : App) (data : RequestData) : Except Fault App :=
  let dev := app.dev
  let sel := selectFormat uvcFormats (StreamingControl.ofBytes data.data)
  if dev.control = VS_PROBE_CONTROL then
    .ok { app with dev := { dev with probe := applySelection dev.imgsize sel dev.probe } }
  else if dev.control = VS_COMMIT_CONTROL then do
    let dev := { dev with
      commit := applySelection dev.imgsize sel dev.commit
      fcc := sel.format.fcc
      width := sel.frame.width
      height := sel.frame.height }
    -- a format the driver refuses leaves the commit as it is
    let (_, app) ← uvcVideoSetFormat env { app with dev := dev }
    if dev.bulk then do
      let (_, app) ← uvcVideoStream env app true
      .ok app
    else .ok app
  else .ok app

/-- `UVCIOC_SEND_RESPONSE`; its result is not looked at. -/
def sendResponse (app : App) (resp : RequestData) : App :=
  let vdev := app.dev.vdev
  app.putVdev (app.kernel.call (.ioctl vdev.fd)) { vdev with file := { vdev.file with response := some resp } }

def uvcEventsProcess (env : Env) (app : App) : Except Fault App :=
  let event := env.dqevent app.kernel.tick app.dev.vdev.file
  let app := { app with kernel := app.kernel.call (.ioctl app.dev.vdev.fd) }
  match event with
  | .error _ => .ok app
  | .ok .connect => .ok app
  | .ok .disconnect => .ok app
  | .ok (.setup req) =>
    let (dev, resp) := uvcEventsProcessSetup app.dev req .stall
    .ok (sendResponse { app with dev := dev } resp)
  | .ok (.data d) => uvcEventsProcessData env app d
  | .ok .streamon => do
    let (_, app) ← uvcVideoStream env app true
    .ok app
  | .ok .streamoff => do
    let (_, app) ← uvcVideoStream env app false
    .ok app
  -- any other event leaves the switch and is stalled
  | .ok .other => .ok (sendResponse app .stall)

def uvcEventsInit (k : Kernel) (dev : UvcDevice) : Kernel × UvcDevice :=
  let dev := { dev with
    probe := uvcFillStreamingControl dev.imgsize dev.probe 0 0
    commit := uvcFillStreamingControl dev.imgsize dev.commit 0 0 }
  let dev := if dev.bulk then { dev with
      probe := { dev.probe with dwMaxPayloadTransferSize := 16 * 1024 }
      commit := { dev.commit with dwMaxPayloadTransferSize := 16 * 1024 } } else dev
  -- the results of the four subscriptions are not looked at
  let ioctl (k : Kernel) : Kernel := k.call (.ioctl dev.vdev.fd)
  (ioctl (ioctl (ioctl (ioctl k))), dev)

/-! ## `main` -/

/-- The file that `-i` names, if it can be opened: what `lseek` returns for its end, as an `unsigned int`, and what
    `read` leaves in a block of that size. -/
structure Image where
  size : UInt32
  bytes : Bytes

def imageLoad (env : Env) (k : Kernel) (dev : UvcDevice) : Option Image → Kernel × UvcDevice
  | none => (k, dev)
  | some img =>
    let (fd, k) := k.openFd
    if env.malloc k.tick then
      (k.ask.closeFd fd, { dev with imgsize := img.size, imgdata := some img.bytes })
    -- the file stays open
    else (k.ask, { dev with imgsize := 0 })

/-- `memset (dev, 0, sizeof *dev)` with the device that `v4l2_open` returns, and `events_init`. -/
def UvcDevice.zero (vdev : Device) : UvcDevice :=
  ⟨vdev, .zero, .zero, 0, 0, 0, 0, false, 0, 0, none, eventsInit⟩

def uvcOpen (env : Env) (k : Kernel) (devname : DevName) : Option UvcDevice × Kernel :=
  if !env.malloc k.tick then (none, k.ask)
  else match v4l2Open env k.ask devname with
    | (none, k) => (none, k)
    | (some vdev, k) => (some (.zero vdev), k)

/-- The command line: `-d`, `-b`, `-i`. -/
structure Options where
  device : DevName
  bulk : Bool
  image : Option Image

/-- `main` up to the registration of the signal handler, on a kernel as the program finds it; `none` when the device
    does not open. -/
def boot (env : Env) (k : Kernel) (opts : Options) : Option App :=
  match uvcOpen env k opts.device with
  | (none, _) => none
  | (some dev, k) =>
    let (k, dev) := imageLoad env k dev opts.image
    let (k, dev) := uvcEventsInit k { dev with bulk := opts.bulk }
    some ⟨k, dev, [], .init⟩

inductive Action where
  /-- SIGINT -/
  | signal
  /-- `select` returns, with `r` the state of all descriptors -/
  | select (r : Ready)
  /-- `select` fails with `EINTR` -/
  | interrupted
  /-- `select` fails with another error -/
  | selectFailed
  /-- the program takes its next step -/
  | next

/-- `iter[i].callback (iter[i].fd, iter[i].priv)` -/
def invoke (env : Env) (app : App) (t : EventIter) : Except Fault App :=
  match t.callback with
  | .uvcGadgetProcess => uvcEventsProcess env app
  | .uvcVideoProcess => uvcVideoProcess env app
  -- no other callback is ever registered
  | _ => .error .badPointer

/-- `events_stop (&uvc_device->events)` -/
def App.stop (app : App) : App := { app with dev := { app.dev with events := eventsStop app.dev.events } }

/-- `events_cleanup` and `uvc_close` -/
def App.close (app : App) : App :=
  { app with
    kernel := v4l2Close app.kernel app.dev.vdev
    dev := { app.dev with events := { app.dev.events with events := [] } }
    phase := .finished }

def next (env : Env) (app : App) : Except Fault App :=
  match app.phase with
  | .init =>
    let app := app.watch env .exception .uvcGadgetProcess
    -- `events_loop` begins by clearing `done`
    .ok { app with dev := { app.dev with events := { app.dev.events with done := false } }, phase := .test }
  | .test => .ok { app with phase := if app.dev.events.done then .exit else .select }
  -- waits for `select`
  | .select => .ok app
  | .dispatch [] => .ok { app with phase := .test }
  | .dispatch (t :: rest) => do
    let app ← invoke env app t
    .ok { app with phase := if app.dev.events.done then .test else .dispatch rest }
  | .exit => .ok app.close
  | .finished => .ok app

/-- An action that cannot happen in the present phase changes nothing. -/
def step (env : Env) : Action → App → Except Fault App
  -- `uvc_device` dangles once `main` has closed the device
  | .signal, app => if app.phase = .finished then .error .badPointer else .ok app.stop
  | .select r, app =>
    match app.phase with
    | .select => .ok { app with phase := .dispatch (snapshot app.dev.events (app.dev.events.select r)) }
    | _ => .ok app
  | .interrupted, app => .ok (if app.phase = .select then { app with phase := .test } else app)
  | .selectFailed, app => .ok (if app.phase = .select then { app with phase := .exit } else app)
  | .next, app => next env app

/-- The runs of the program. -/
abbrev run (env : Env) : List Action → App → Except Fault App := Machine.run (step env)

end TestApp

end Uvcd
