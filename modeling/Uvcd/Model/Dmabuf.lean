import Uvcd.Model.V4l2

/-!
# `Model.Dmabuf` — buffers that are shared between devices (`v4l2.c`)

`v4l2_export_buffers` hands out the buffers of a device as dma-bufs, `v4l2_import_buffers` has another device work on
them. A dma-buf is held through a descriptor in `VideoBuffer.dmabuf`; `v4l2_free_buffers` closes it.
-/

namespace Uvcd

/-- What `VIDIOC_EXPBUF` answers for a buffer, and whether there is a descriptor left for `dup`. -/
structure Sharing where
  expbuf : Nat → File → Nat → Bool
  dup : Nat → Nat → Bool

/-- `dup`; it fails for `-1` and for a descriptor that is not open. -/
def dupFd (sh : Sharing) (k : Kernel) : Option Nat → Option Nat × Kernel
  | none => (none, k.ask)
  | some fd =>
    if fd ∈ k.opened ∧ sh.dup k.tick fd = true then (some k.openFd.1, k.openFd.2) else (none, k.ask)

/-- The loop of `v4l2_export_buffers` from buffer `i` on, `n` buffers to go. -/
def exportBuffers (sh : Sharing) : Nat → Nat → Kernel → Device → Except Fault (Int × Kernel × Device)
  | _, 0, k, dev => .ok (0, k, dev)
  | i, n + 1, k, dev =>
    let k' := k.call (.ioctl dev.fd)
    -- the result is that of `ioctl`, not an error number
    if !sh.expbuf k.tick dev.file i then .ok (-1, k', dev)
    else
      let (fd, k) := k'.openFd
      match dev.buffers[i]? with
      | none => .error .badPointer
      | some buffer =>
        exportBuffers sh (i + 1) n k { dev with buffers := dev.buffers.set i { buffer with dmabuf := some fd } }

def v4l2ExportBuffers (sh : Sharing) (k : Kernel) (dev : Device) : Except Fault (Int × Kernel × Device) :=
  if dev.nbufs = 0 then .ok (Errno.EINVAL.neg, k, dev)
  else if dev.memtype ≠ .mmap then .ok (Errno.EINVAL.neg, k, dev)
  else exportBuffers sh 0 dev.nbufs k dev

/-- The loop of `v4l2_import_buffers` from buffer `i` on, `n` buffers to go. -/
def importBuffers (env : Env) (sh : Sharing) (buffers : List VideoBuffer) :
    Nat → Nat → Kernel → Device → Except Fault (Int × Kernel × Device)
  | _, 0, k, dev => .ok (0, k, dev)
  | i, n + 1, k, dev =>
    match ioctlQuerybuf env k dev i with
    | (.error e, k) => .ok (e.neg, k, dev)
    | (.ok length, k) =>
      match buffers[i]? with
      | none => .error .badPointer
      | some buffer =>
        if buffer.size < length then .ok (Errno.EINVAL.neg, k, dev)
        else match dupFd sh k buffer.dmabuf with
          -- `ret` is still that of `VIDIOC_QUERYBUF`
          | (none, k) => .ok (0, k, dev)
          | (some fd, k) =>
            match dev.buffers[i]? with
            | none => .error .badPointer
            | some b =>
              importBuffers env sh buffers (i + 1) n k
                { dev with buffers := dev.buffers.set i { b with dmabuf := some fd, size := buffer.size } }

def v4l2ImportBuffers (env : Env) (sh : Sharing) (k : Kernel) (dev : Device) (nbufs : Nat)
    (buffers : List VideoBuffer) : Except Fault (Int × Kernel × Device) :=
  if dev.nbufs = 0 ∨ nbufs < dev.nbufs then .ok (Errno.EINVAL.neg, k, dev)
  else if dev.memtype ≠ .dmabuf then .ok (Errno.EINVAL.neg, k, dev)
  else importBuffers env sh buffers 0 dev.nbufs k dev

/-! ## Programs that share buffers -/

/-- The kernel, and the devices that are open. -/
structure Rack where
  kernel : Kernel
  devs : List Device

/-- The calls that open a device or are on the `i`-th of them. -/
inductive BufferCall where
  | open (devname : DevName)
  | close (i : Nat)
  | alloc (i : Nat) (memtype : Memory) (nbufs : Nat)
  | mmap (i : Nat)
  | export (i : Nat)
  /-- of the buffers of the `j`-th -/
  | import (i j : Nat)
  | free (i : Nat)
  deriving DecidableEq

/-- A call on the `i`-th device, if there is one. -/
def Rack.drive (s : Rack) (i : Nat) (f : Kernel → Device → Except Fault (Int × Kernel × Device)) : Except Fault Rack :=
  match s.devs[i]? with
  | none => .ok s
  | some d => do
    let (_, k, d) ← f s.kernel d
    .ok ⟨k, s.devs.set i d⟩

def BufferCall.step (env : Env) (sh : Sharing) (c : BufferCall) (s : Rack) : Except Fault Rack :=
  match c with
  | .open devname => .ok ⟨(v4l2Open env s.kernel devname).2, s.devs ++ (v4l2Open env s.kernel devname).1.toList⟩
  | .close i =>
    match s.devs[i]? with
    | none => .ok s
    | some d => .ok ⟨v4l2Close s.kernel d, s.devs.eraseIdx i⟩
  | .alloc i memtype nbufs => s.drive i fun k d => v4l2AllocBuffers env k d memtype nbufs
  | .mmap i => s.drive i (v4l2MmapBuffers env)
  | .export i => s.drive i (v4l2ExportBuffers sh)
  | .import i j =>
    match s.devs[j]? with
    | none => .ok s
    | some src => s.drive i fun k d => v4l2ImportBuffers env sh k d src.nbufs src.buffers
  | .free i => s.drive i (v4l2FreeBuffers env)

end Uvcd
