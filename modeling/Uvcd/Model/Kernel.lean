import Uvcd.Model.Message

/-!
# `Model.Kernel` — what the program does not decide: drivers, allocator, pipe, clock, host

`Env` is an arbitrary environment: every answer is a function of a call counter (`Kernel.tick`) and of
the kernel's side of the open file, so any history of answers is some `Env`. `Kernel` is the part of the
kernel's state the program can see or change.
-/

namespace Uvcd

/-! ## The kernel's side of an open V4L2 file -/

structure File where
  /-- the device behind the node -/
  dev : Nat
  /-- buffers allocated by `VIDIOC_REQBUFS`, and the format in force at that time -/
  count : Nat
  reqfmt : PixFormat
  /-- the buffer indices the driver owns, oldest first -/
  queued : List Nat
  /-- the buffer indices mapped by the program -/
  mapped : List Nat
  streaming : Bool
  /-- the last answer given by `UVCIOC_SEND_RESPONSE` -/
  response : Option RequestData
  deriving DecidableEq

/-- A freshly opened file. -/
def File.fresh (dev : Nat) : File := ⟨dev, 0, .zero, [], [], false, none⟩

/-- What a successful `VIDIOC_DQBUF` reports, with the frame the driver left in the buffer. -/
structure Dequeued where
  index : Nat
  bytesused : Nat
  frame : Bytes

/-! ### Enumeration (`VIDIOC_ENUM_FMT`, `VIDIOC_ENUM_FRAMESIZES`, `VIDIOC_ENUM_FRAMEINTERVALS`) -/

structure Fract where
  numerator : UInt32
  denominator : UInt32
  deriving DecidableEq

/-- `struct v4l2_frmivalenum`; `type` is `V4L2_FRMIVAL_TYPE_*`. -/
structure FrmIvalEnum where
  type : Nat
  discrete : Fract
  min : Fract
  max : Fract
  step : Fract
  deriving DecidableEq

/-- `struct v4l2_frmsizeenum` with the intervals enumerated for it; `type` is `V4L2_FRMSIZE_TYPE_*`. -/
structure FrmSizeEnum where
  type : Nat
  width : UInt32
  height : UInt32
  minWidth : UInt32
  maxWidth : UInt32
  stepWidth : UInt32
  minHeight : UInt32
  maxHeight : UInt32
  stepHeight : UInt32
  ivals : List FrmIvalEnum
  deriving DecidableEq

/-- `struct v4l2_fmtdesc` with the frame sizes enumerated for it. -/
structure FmtEnum where
  pixelformat : UInt32
  sizes : List FrmSizeEnum
  deriving DecidableEq

/-- `V4L2_FRMSIZE_TYPE_*` and `V4L2_FRMIVAL_TYPE_*` share their numbers. -/
def TYPE_DISCRETE : Nat := 1
def TYPE_CONTINUOUS : Nat := 2
def TYPE_STEPWISE : Nat := 3

/-- `struct v4l2_capability` -/
structure Capability where
  capabilities : UInt32
  deviceCaps : UInt32
  deriving DecidableEq

def V4L2_CAP_VIDEO_CAPTURE : UInt32 := 0x00000001
def V4L2_CAP_VIDEO_OUTPUT : UInt32 := 0x00000002
def V4L2_CAP_STREAMING : UInt32 := 0x04000000

/-- The device a successful `open` reaches: its identity, what `VIDIOC_QUERYCAP` reports (`none` when it
    fails) and what it enumerates. -/
structure Node where
  dev : Nat
  querycap : Option Capability
  formats : List FmtEnum

/-! ## The environment -/

/-- Event numbers of `VIDIOC_SUBSCRIBE_EVENT`. -/
inductive UvcEventType where
  | setup
  | data
  | streamon
  | streamoff
  deriving DecidableEq

/-- A record of the inotify stream: `mask`, `name` and the padded length `len` of the name field. -/
structure Record where
  mask : UInt32
  name : DevName
  len : Nat
  deriving DecidableEq

/-- Everything the environment answers. The first argument is the call counter. -/
structure Env where
  /-- an allocation succeeds -/
  malloc : Nat → Bool
  /-- a write of one message to the looper's non-blocking pipe goes through -/
  write : Nat → Message → Bool
  /-- `CLOCK_MONOTONIC`: seconds and nanoseconds -/
  clock : Nat → Nat × Nat
  /-- bytes left on the stack behind what a short `read` fills in -/
  stale : Nat → List UInt8
  inotifyInit : Nat → Bool
  opendir : Nat → Bool
  openNode : Nat → DevName → Option Node
  sFmt : Nat → File → PixFormat → Except Errno PixFormat
  gFmt : Nat → File → Option Errno
  reqbufs : Nat → File → Nat → Except Errno Nat
  querybuf : Nat → File → Nat → Except Errno Nat
  mmap : Nat → File → Nat → Option Errno
  munmap : Nat → File → Nat → Option Errno
  qbuf : Nat → File → Nat → Option Errno
  dqbuf : Nat → File → Except Errno Dequeued
  streamon : Nat → File → Option Errno
  streamoff : Nat → File → Option Errno
  subscribe : Nat → File → UvcEventType → Option Errno
  dqevent : Nat → File → Except Errno UvcEvent
  /-- the cursor left by an exhausted list walk is used as a gadget -/
  miss : Stray
  /-- `gadget->looper` is read after `free(gadget)` -/
  freed : Stray

/-- A system call on a file descriptor. -/
inductive Call where
  | open (fd : Nat)
  | close (fd : Nat)
  | ioctl (fd : Nat)
  deriving DecidableEq

/-- The kernel tables the program can see or change. -/
structure Kernel where
  /-- calls answered so far -/
  tick : Nat
  /-- open file descriptors -/
  opened : List Nat
  /-- the format in force of each device -/
  inforce : Nat → PixFormat
  /-- the names in `/dev` -/
  nodes : List DevName
  /-- inotify records not read yet, oldest first -/
  records : List Record
  /-- the inotify watch on `/dev` is installed -/
  watching : Bool
  /-- every `open`, `close` and `ioctl` made, oldest first -/
  trace : List Call

namespace Kernel

/-- A call on a descriptor: it is traced and uses up one answer. -/
def call (k : Kernel) (c : Call) : Kernel := { k with tick := k.tick + 1, trace := k.trace ++ [c] }

/-- A call on no descriptor. -/
def ask (k : Kernel) : Kernel := { k with tick := k.tick + 1 }

/-- The lowest descriptor not in use, which `open`, `pipe2` and `inotify_init` return. -/
def lowestFree (opened : List Nat) : Nat :=
  ((List.range (opened.length + 1)).find? (fun fd => decide (fd ∉ opened))).getD opened.length

/-- Install a new descriptor. -/
def openFd (k : Kernel) : Nat × Kernel :=
  let fd := lowestFree k.opened
  (fd, { k.call (.open fd) with opened := fd :: k.opened })

/-- `close (fd)` -/
def closeFd (k : Kernel) (fd : Nat) : Kernel :=
  { k.call (.close fd) with opened := k.opened.erase fd }

end Kernel

end Uvcd
