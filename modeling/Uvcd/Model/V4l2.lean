import Uvcd.Model.Kernel

/-!
# `Model.V4l2` — V4L2 devices (`v4l2.c`)

Each function takes the kernel tables and the device by value and returns them updated, after the value
the C function returns. `Device.file` is the kernel's side of the descriptor; the format in force belongs
to the device behind the node and lives in `Kernel.inforce`.
-/

namespace Uvcd

/-- `struct v4l2_video_buffer`; `mem` is the mapped memory, `none` for a null pointer. -/
structure VideoBuffer where
  index : Nat
  size : Nat
  bytesused : Nat
  mem : Option Bytes
  dmabuf : Option Nat

inductive BufType where
  | videoCapture
  | videoOutput
  deriving DecidableEq

inductive Memory where
  | unset
  | mmap
  | dmabuf
  deriving DecidableEq

/-- `struct v4l2_ival_desc`, `struct v4l2_frame_desc`, `struct v4l2_format_desc` -/
structure IvalDesc where
  min : Fract
  max : Fract
  step : Fract
  deriving DecidableEq

structure FrameDesc where
  minWidth : UInt32
  minHeight : UInt32
  maxWidth : UInt32
  maxHeight : UInt32
  stepWidth : UInt32
  stepHeight : UInt32
  ivals : List IvalDesc
  deriving DecidableEq

structure FormatDesc where
  pixelformat : UInt32
  frames : List FrameDesc
  deriving DecidableEq

/-- `struct v4l2_device`. `buffers` is the allocated array, `[]` for a null pointer. -/
structure Device where
  fd : Nat
  name : DevName
  type : BufType
  memtype : Memory
  formats : List FormatDesc
  format : PixFormat
  nbufs : Nat
  buffers : List VideoBuffer
  file : File

/-! ## Formats enumeration -/

/-- The descriptor built for one enumerated interval; `none` for a type the code does not accept. -/
def ivalDesc (e : FrmIvalEnum) : Option IvalDesc :=
  if e.type = TYPE_DISCRETE then some ⟨e.discrete, e.discrete, ⟨1, 1⟩⟩
  else if e.type = TYPE_STEPWISE then some ⟨e.min, e.max, e.step⟩
  else none

/-- The descriptor built for one enumerated size; stepwise falls through to continuous. -/
def frameDesc (e : FrmSizeEnum) : Option FrameDesc :=
  if e.type = TYPE_DISCRETE then some ⟨e.width, e.height, e.width, e.height, 1, 1, []⟩
  else if e.type = TYPE_STEPWISE then
    some ⟨e.minWidth, e.minHeight, e.maxWidth, e.maxHeight, e.stepWidth, e.stepHeight, []⟩
  else if e.type = TYPE_CONTINUOUS then
    some ⟨e.minWidth, e.minHeight, e.maxWidth, e.maxHeight, 1, 1, []⟩
  else none

def v4l2EnumFrameIntervals (env : Env) (fd : Nat) :
    List FrmIvalEnum → Kernel → List IvalDesc → Int × List IvalDesc × Kernel
  -- the first index the driver refuses ends the enumeration
  | [], k, ivals => (0, ivals, k.call (.ioctl fd))
  | e :: es, k, ivals =>
    let k := k.call (.ioctl fd)
    if !env.malloc k.tick then (Errno.ENOMEM.neg, ivals, k.ask)
    else match ivalDesc e with
      | none => (Errno.EINVAL.neg, ivals, k.ask)
      | some ival => v4l2EnumFrameIntervals env fd es k.ask (ivals ++ [ival])

def v4l2EnumFrameSizes (env : Env) (fd : Nat) :
    List FrmSizeEnum → Kernel → List FrameDesc → Int × List FrameDesc × Kernel
  | [], k, frames => (0, frames, k.call (.ioctl fd))
  | e :: es, k, frames =>
    let k := k.call (.ioctl fd)
    if !env.malloc k.tick then (Errno.ENOMEM.neg, frames, k.ask)
    else match frameDesc e with
      | none => (Errno.EINVAL.neg, frames, k.ask)
      | some frame =>
        let (ret, ivals, k) := v4l2EnumFrameIntervals env fd e.ivals k.ask []
        -- the size is linked before its intervals are enumerated
        let frames := frames ++ [{ frame with ivals := ivals }]
        if ret < 0 then (ret, frames, k) else v4l2EnumFrameSizes env fd es k frames

def v4l2EnumFormats (env : Env) (fd : Nat) :
    List FmtEnum → Kernel → List FormatDesc → Int × List FormatDesc × Kernel
  | [], k, formats => (0, formats, k.call (.ioctl fd))
  | e :: es, k, formats =>
    let k := k.call (.ioctl fd)
    if !env.malloc k.tick then (Errno.ENOMEM.neg, formats, k.ask)
    else
      let (ret, frames, k) := v4l2EnumFrameSizes env fd e.sizes k.ask []
      let formats := formats ++ [⟨e.pixelformat, frames⟩]
      if ret < 0 then (ret, formats, k) else v4l2EnumFormats env fd es k formats

/-! ## Open/close -/

/-- `'/'`, and `"/dev/"` -/
def slash : UInt8 := 47
def devPrefix : List UInt8 := [47, 100, 101, 118, 47]

/-- The 64-byte `path` buffer of `v4l2_open`. `snprintf` cuts a name that is too long. `strncpy` leaves the buffer
    without a terminator for an absolute path of 64 bytes or more, which only a command line can name: reading on is
    undefined, and here the path is what the buffer holds. -/
def v4l2Path (devname : DevName) : DevName :=
  if devname.head? = some slash then devname.take 64 else (devPrefix ++ devname).take 63

/-- The path names a node that is in `/dev` now. -/
def Kernel.hasPath (k : Kernel) (path : DevName) : Bool := k.nodes.any fun n => devPrefix ++ n == path

/-- What follows the last `'/'` of the path. -/
def baseName (path : DevName) : DevName := (path.reverse.takeWhile (· ≠ slash)).reverse

def v4l2Close (k : Kernel) (dev : Device) : Kernel := k.closeFd dev.fd

/-- `cap.device_caps ? : cap.capabilities` -/
def Capability.effective (cap : Capability) : UInt32 :=
  if cap.deviceCaps ≠ 0 then cap.deviceCaps else cap.capabilities

/-- The buffer type `v4l2_open` picks; `none` for neither capture nor output. -/
def Capability.bufType (cap : Capability) : Option BufType :=
  if cap.effective &&& V4L2_CAP_VIDEO_CAPTURE ≠ 0 then some .videoCapture
  else if cap.effective &&& V4L2_CAP_VIDEO_OUTPUT ≠ 0 then some .videoOutput
  else none

/-- The `strdup` of the name is taken to find memory; nothing looks at its result. -/
def v4l2Open (env : Env) (k : Kernel) (devname : DevName) : Option Device × Kernel :=
  let path := v4l2Path devname
  if !env.malloc k.tick then (none, k.ask)
  else
    let k := k.ask
    -- a name that is not there cannot be opened, one that is may still be refused
    match if k.hasPath path then env.openNode k.tick path else none with
    | none => (none, k.ask)
    | some node =>
      let (fd, k) := k.openFd
      match node.querycap with
      | none => (none, (k.call (.ioctl fd)).closeFd fd)
      | some cap =>
        let k := k.call (.ioctl fd)
        match cap.bufType with
        | none => (none, k.closeFd fd)
        | some type =>
          if cap.effective &&& V4L2_CAP_STREAMING = 0 then (none, k.closeFd fd)
          else
            let (ret, formats, k) := v4l2EnumFormats env fd node.formats k []
            if ret < 0 then (none, k.closeFd fd)
            else (some ⟨fd, baseName path, type, .unset, formats, .zero, 0, [], .fresh node.dev⟩, k)

/-! ## Formats and frame rates -/

/-- `VIDIOC_S_FMT`: an accepting driver puts a format of its choice in force. -/
def ioctlSFmt (env : Env) (k : Kernel) (dev : Device) (fmt : PixFormat) :
    Except Errno PixFormat × Kernel :=
  let k' := k.call (.ioctl dev.fd)
  match env.sFmt k.tick dev.file fmt with
  | .error e => (.error e, k')
  | .ok f => (.ok f, { k' with inforce := fun d => if d = dev.file.dev then f else k.inforce d })

/-- `VIDIOC_G_FMT` reports the format in force. -/
def ioctlGFmt (env : Env) (k : Kernel) (dev : Device) : Except Errno PixFormat × Kernel :=
  let k' := k.call (.ioctl dev.fd)
  match env.gFmt k.tick dev.file with
  | some e => (.error e, k')
  | none => (.ok (k.inforce dev.file.dev), k')

/-- The second component is `*format` on return. -/
def v4l2SetFormat (env : Env) (k : Kernel) (dev : Device) (format : PixFormat) :
    Int × PixFormat × Kernel × Device :=
  let fmt : PixFormat := ⟨format.width, format.height, format.pixelformat, PixFormat.FIELD_ANY, 0⟩
  match ioctlSFmt env k dev fmt with
  | (.error e, k) => (e.neg, format, k, dev)
  | (.ok _, k) =>
    match ioctlGFmt env k dev with
    | (.error e, k) => (e.neg, format, k, dev)
    | (.ok pix, k) =>
      -- a driver may accept a format and put another in force
      if pix.width ≠ format.width then (Errno.EINVAL.neg, format, k, dev)
      else if pix.height ≠ format.height then (Errno.EINVAL.neg, format, k, dev)
      else if pix.pixelformat ≠ format.pixelformat then (Errno.EINVAL.neg, format, k, dev)
      else (0, pix, k, { dev with format := pix })

/-! ## Buffers management -/

/-- `VIDIOC_REQBUFS`. A count of `0` frees the driver's buffers and stops it. -/
def ioctlReqbufs (env : Env) (k : Kernel) (dev : Device) (count : Nat) :
    Except Errno Nat × Kernel × Device :=
  let k' := k.call (.ioctl dev.fd)
  match env.reqbufs k.tick dev.file count with
  | .error e => (.error e, k', dev)
  | .ok n =>
    if count = 0 then
      (.ok 0, k', { dev with file := { dev.file with count := 0, queued := [], streaming := false } })
    else
      let reqfmt := k.inforce dev.file.dev
      (.ok n, k', { dev with file := { dev.file with count := n, reqfmt := reqfmt, queued := [] } })

/-- The release loop of `v4l2_free_buffers` from buffer `i` on, `n` buffers to go. -/
def releaseBuffers (env : Env) : Nat → Nat → Kernel → Device → Except Fault (Int × Kernel × Device)
  | _, 0, k, dev => .ok (0, k, dev)
  | i, n + 1, k, dev =>
    match dev.buffers[i]? with
    | none => .error .badPointer
    | some buffer =>
      let unmapped : Option Errno × Kernel × File :=
        match buffer.mem with
        | none => (none, k, dev.file)
        | some _ =>
          (env.munmap k.tick dev.file i, k.ask, { dev.file with mapped := dev.file.mapped.erase i })
      match unmapped with
      -- the buffers from this one on stay mapped
      | (some e, k, _) => .ok (e.neg, k, dev)
      | (none, k, file) =>
        let k := match buffer.dmabuf with
          | none => k
          | some fd => k.closeFd fd
        let buffer := { buffer with mem := none, dmabuf := none, size := 0 }
        releaseBuffers env (i + 1) n k { dev with buffers := dev.buffers.set i buffer, file := file }

def v4l2FreeBuffers (env : Env) (k : Kernel) (dev : Device) : Except Fault (Int × Kernel × Device) :=
  if dev.nbufs = 0 then .ok (0, k, dev)
  else do
    let (ret, k, dev) ← releaseBuffers env 0 dev.nbufs k dev
    if ret < 0 then .ok (ret, k, dev)
    else match ioctlReqbufs env k dev 0 with
      | (.error e, k, dev) => .ok (e.neg, k, dev)
      | (.ok _, k, dev) => .ok (0, k, { dev with buffers := [], nbufs := 0 })

/-- The buffer objects of a fresh allocation of `nbufs`, the first `count` of them initialised. -/
def freshBuffers (nbufs count : Nat) : List VideoBuffer :=
  (List.range nbufs).map fun i =>
    if i < count then ⟨i, 0, 0, none, none⟩ else ⟨0, 0, 0, none, some 0⟩

def v4l2AllocBuffers (env : Env) (k : Kernel) (dev : Device) (memtype : Memory) (nbufs : Nat) :
    Except Fault (Int × Kernel × Device) :=
  if dev.nbufs ≠ 0 then .ok (Errno.EBUSY.neg, k, dev)
  else if memtype ≠ .mmap ∧ memtype ≠ .dmabuf then .ok (Errno.EINVAL.neg, k, dev)
  else match ioctlReqbufs env k dev nbufs with
    -- `nbufs` is still `0` here: the release has nothing to do
    | (.error e, k, dev) => do
      let (_, k, dev) ← v4l2FreeBuffers env k dev
      .ok (e.neg, k, dev)
    | (.ok count, k, dev) =>
      if nbufs < count then do
        let (_, k, dev) ← v4l2FreeBuffers env k dev
        .ok (Errno.E2BIG.neg, k, dev)
      else if !env.malloc k.tick then do
        -- `nbufs` is set already and `buffers` is null
        let (_, k, dev) ← v4l2FreeBuffers env k.ask
          { dev with memtype := memtype, nbufs := count, buffers := [] }
        .ok (Errno.ENOMEM.neg, k, dev)
      else
        .ok (0, k.ask, { dev with memtype := memtype, nbufs := count, buffers := freshBuffers nbufs count })

/-- `VIDIOC_QUERYBUF` gives the length of buffer `i`. -/
def ioctlQuerybuf (env : Env) (k : Kernel) (dev : Device) (i : Nat) : Except Errno Nat × Kernel :=
  (env.querybuf k.tick dev.file i, k.call (.ioctl dev.fd))

/-- The loop of `v4l2_mmap_buffers` from buffer `i` on, `n` buffers to go. -/
def mmapBuffers (env : Env) : Nat → Nat → Kernel → Device → Except Fault (Int × Kernel × Device)
  | _, 0, k, dev => .ok (0, k, dev)
  | i, n + 1, k, dev =>
    match ioctlQuerybuf env k dev i with
    | (.error e, k) => .ok (e.neg, k, dev)
    | (.ok length, k) =>
      match env.mmap k.tick dev.file i with
      | some e => .ok (e.neg, k.ask, dev)
      | none =>
        match dev.buffers[i]? with
        | none => .error .badPointer
        | some buffer =>
          let buffer := { buffer with mem := some (fun _ => 0), size := length }
          mmapBuffers env (i + 1) n k.ask { dev with
            buffers := dev.buffers.set i buffer
            file := { dev.file with mapped := dev.file.mapped ++ [i] } }

def v4l2MmapBuffers (env : Env) (k : Kernel) (dev : Device) : Except Fault (Int × Kernel × Device) :=
  if dev.memtype ≠ .mmap then .ok (Errno.EINVAL.neg, k, dev)
  else mmapBuffers env 0 dev.nbufs k dev

/-- `VIDIOC_DQBUF`; on a capture device the buffer's memory holds the frame it reports. -/
def v4l2DequeueBuffer (env : Env) (k : Kernel) (dev : Device) :
    Except Fault (Except Errno VideoBuffer × Kernel × Device) :=
  let k' := k.call (.ioctl dev.fd)
  match env.dqbuf k.tick dev.file with
  | .error e => .ok (.error e, k', dev)
  | .ok d =>
    -- the driver's index is not checked
    match dev.buffers[d.index]? with
    | none => .error .badPointer
    | some b =>
      let mem := if dev.type = .videoCapture then b.mem.map (fun _ => d.frame) else b.mem
      let dev := { dev with
        buffers := dev.buffers.set d.index { b with mem := mem }
        file := { dev.file with queued := dev.file.queued.erase d.index } }
      .ok (.ok { b with mem := mem, bytesused := d.bytesused }, k', dev)

/-- `VIDIOC_QBUF` of the buffer's index. -/
def v4l2QueueBuffer (env : Env) (k : Kernel) (dev : Device) (buffer : VideoBuffer) :
    Int × Kernel × Device :=
  if dev.nbufs ≤ buffer.index then (Errno.EINVAL.neg, k, dev)
  else
    let k' := k.call (.ioctl dev.fd)
    match env.qbuf k.tick dev.file buffer.index with
    | some e => (e.neg, k', dev)
    | none =>
      (0, k', { dev with file := { dev.file with queued := dev.file.queued ++ [buffer.index] } })

/-! ## Stream management -/

def v4l2StreamOn (env : Env) (k : Kernel) (dev : Device) : Int × Kernel × Device :=
  let k' := k.call (.ioctl dev.fd)
  match env.streamon k.tick dev.file with
  | some e => (e.neg, k', dev)
  | none => (0, k', { dev with file := { dev.file with streaming := true } })

def v4l2StreamOff (env : Env) (k : Kernel) (dev : Device) : Int × Kernel × Device :=
  let k' := k.call (.ioctl dev.fd)
  match env.streamoff k.tick dev.file with
  | some e => (e.neg, k', dev)
  | none => (0, k', { dev with file := { dev.file with streaming := false, queued := [] } })

end Uvcd
