import Uvcd.Lib.Blocks
import Uvcd.Model.List
import Uvcd.Model.V4l2

/-!
# `Model.DescMem` — V4L2 devices and their format descriptors in memory (`v4l2.c`)

`Model.V4l2` takes the formats of a device by value. Here they are what the C code builds and frees: a list head in the
`struct v4l2_device`, the format descriptors linked behind it, behind a head in each of them its frame sizes, and behind
a head in each of those its frame intervals, all in blocks from `malloc`. A block that has been freed cannot be read,
written, linked or freed again.
-/

namespace Uvcd

namespace Mem

open Ring Blocks

/-- The `struct list_entry` members. -/
inductive Member where
  | list
  | ivals
  | frames
  | formats
  deriving DecidableEq

/-- `&block->member` -/
abbrev Node := Nat × Member

/-- What a block holds, but for its links: `fd` is `none` for `-1`. -/
inductive Desc where
  | ival (d : IvalDesc)
  | frame (d : FrameDesc)
  | format (pixelformat : UInt32)
  | device (fd : Option Nat)
  deriving DecidableEq

/-- The links in a `struct v4l2_ival_desc`, `v4l2_frame_desc`, `v4l2_format_desc` and `v4l2_device`. -/
def Desc.members : Desc → List Member
  | .ival _ => [.list]
  | .frame _ => [.list, .ivals]
  | .format _ => [.list, .frames]
  | .device _ => [.formats]

abbrev Store := Blocks.Store Desc Member

/-- No block is at the null pointer. -/
def null : Node := (0, .list)

/-- `malloc` and `memset`, `b` being the cleared block. -/
def alloc (m : Store) (p : Nat) (b : Desc) : Store := m.malloc Desc.members null p b

/-- The cleared descriptors. -/
def zeroIval : Desc := .ival ⟨⟨0, 0⟩, ⟨0, 0⟩, ⟨0, 0⟩⟩
def zeroFrame : Desc := .frame ⟨0, 0, 0, 0, 0, 0, []⟩

def init (m : Store) (list : Node) : Option Store := do
  let links ← listInit m.links list
  some { m with links := links }

def append (m : Store) (entry list : Node) : Option Store := do
  let links ← listAppend m.links entry list
  some { m with links := links }

/-! ## Formats enumeration -/

section Enum

variable (env : Env) (al : Allocator) (fd : Nat)

/-- The rest of the enumeration for the frame size in the block `frame`. -/
def v4l2EnumFrameIntervals (frame : Nat) : List FrmIvalEnum → Kernel → Store → Option (Int × Kernel × Store)
  | [], k, m => some (0, k.call (.ioctl fd), m)
  | e :: es, k, m =>
    let k := k.call (.ioctl fd)
    if !env.malloc k.tick then some (Errno.ENOMEM.neg, k.ask, m)
    else
      let ival := al.place k.tick m.live
      let m := alloc m ival zeroIval
      match ivalDesc e with
      -- the descriptor is in no list yet
      | none => some (Errno.EINVAL.neg, k.ask, m)
      | some d => do
        let m ← m.put ival (.ival d)
        let m ← append m (ival, .list) (frame, .ivals)
        v4l2EnumFrameIntervals frame es k.ask m

def v4l2EnumFrameSizes (format : Nat) : List FrmSizeEnum → Kernel → Store → Option (Int × Kernel × Store)
  | [], k, m => some (0, k.call (.ioctl fd), m)
  | e :: es, k, m =>
    let k := k.call (.ioctl fd)
    if !env.malloc k.tick then some (Errno.ENOMEM.neg, k.ask, m)
    else do
      let frame := al.place k.tick m.live
      let m ← init (alloc m frame zeroFrame) (frame, .ivals)
      match frameDesc e with
      | none => some (Errno.EINVAL.neg, k.ask, m)
      | some d =>
        let m ← m.put frame (.frame d)
        let m ← append m (frame, .list) (format, .frames)
        let (ret, k, m) ← v4l2EnumFrameIntervals env al fd frame e.ivals k.ask m
        if ret < 0 then some (ret, k, m) else v4l2EnumFrameSizes format es k m

def v4l2EnumFormats (dev : Nat) : List FmtEnum → Kernel → Store → Option (Int × Kernel × Store)
  | [], k, m => some (0, k.call (.ioctl fd), m)
  | e :: es, k, m =>
    let k := k.call (.ioctl fd)
    if !env.malloc k.tick then some (Errno.ENOMEM.neg, k.ask, m)
    else do
      let format := al.place k.tick m.live
      let m ← init (alloc m format (.format 0)) (format, .frames)
      let m ← m.put format (.format e.pixelformat)
      let m ← append m (format, .list) (dev, .formats)
      let (ret, k, m) ← v4l2EnumFrameSizes env al fd format e.sizes k.ask m
      if ret < 0 then some (ret, k, m) else v4l2EnumFormats dev es k m

end Enum

/-! ## Open/close

`n` bounds the walks. -/

/-- The loops of `v4l2_close`, from the innermost to the outermost. -/
def freeIvals (n frame : Nat) (m : Store) : Option Store :=
  listForEachSafe (fun m : Store => m.links) (fun ival m => do
    let m ← m.free ival.1
    some (true, m)) (frame, .ivals) n m

def freeFrames (n format : Nat) (m : Store) : Option Store :=
  listForEachSafe (fun m : Store => m.links) (fun frame m => do
    let m ← freeIvals n frame.1 m
    let m ← m.free frame.1
    some (true, m)) (format, .frames) n m

def freeFormats (n dev : Nat) (m : Store) : Option Store :=
  listForEachSafe (fun m : Store => m.links) (fun format m => do
    let m ← freeFrames n format.1 m
    let m ← m.free format.1
    some (true, m)) (dev, .formats) n m

/-- `close (dev->fd)`; `-1` is none of the kernel's. -/
def closeFd (k : Kernel) : Option Nat → Kernel
  | none => k
  | some fd => k.closeFd fd

def v4l2Close (n dev : Nat) (k : Kernel) (m : Store) : Option (Kernel × Store) := do
  let m ← freeFormats n dev m
  match ← m.block dev with
  | .device fd =>
    let m ← m.free dev
    some (closeFd k fd, m)
  | _ => none

/-- The pointer `v4l2_open` returns, `none` for a null pointer. -/
def v4l2Open (env : Env) (al : Allocator) (n : Nat) (devname : DevName) (k : Kernel) (m : Store) :
    Option (Option Nat × Kernel × Store) :=
  let path := v4l2Path devname
  if !env.malloc k.tick then some (none, k.ask, m)
  else do
    let dev := al.place k.tick m.live
    let m ← init (alloc m dev (.device none)) (dev, .formats)
    let k := k.ask
    let fail (k : Kernel) (m : Store) : Option (Option Nat × Kernel × Store) := do
      let (k, m) ← v4l2Close n dev k m
      some (none, k, m)
    match if k.hasPath path then env.openNode k.tick path else none with
    | none => fail k.ask m
    | some node =>
      let (fd, k) := k.openFd
      let m ← m.put dev (.device (some fd))
      let k := k.call (.ioctl fd)
      match node.querycap with
      | none => fail k m
      | some cap =>
        match cap.bufType with
        | none => fail k m
        | some _ =>
          if cap.effective &&& V4L2_CAP_STREAMING = 0 then fail k m
          else
            let (ret, k, m) ← v4l2EnumFormats env al fd dev node.formats k m
            if ret < 0 then fail k m
            else some (some dev, k, m)

/-! ## Programs that open and close devices -/

/-- Memory, and the pointers `v4l2_open` has returned that have not been given to `v4l2_close`. -/
structure Shelf where
  kernel : Kernel
  store : Store
  devs : List Nat

inductive DeviceCall where
  | open (devname : DevName)
  /-- `v4l2_close` on the `i`-th of the pointers -/
  | close (i : Nat)

def DeviceCall.apply (env : Env) (al : Allocator) (n : Nat) (s : Shelf) : DeviceCall → Option Shelf
  | .open devname => do
    let (dev, k, m) ← v4l2Open env al n devname s.kernel s.store
    some ⟨k, m, s.devs ++ dev.toList⟩
  | .close i =>
    match s.devs[i]? with
    | none => some s
    | some dev => do
      let (k, m) ← v4l2Close n dev s.kernel s.store
      some ⟨k, m, s.devs.eraseIdx i⟩

end Mem

end Uvcd
