import Uvcd.Model.Io
import Uvcd.Model.Control

/-!
# `Model.Hotplug` — hotplug notifications (`hotplug.c`)

inotify hands over bytes: a record is 16 bytes of `struct inotify_event` (`wd`, `mask`, `cookie`, `len`)
and a name padded with NULs to `len`. `hotplug_process` walks them in a 512-byte stack buffer.
-/

namespace Uvcd

def IN_CREATE : UInt32 := 0x00000100
def IN_DELETE : UInt32 := 0x00000200
def IN_ISDIR : UInt32 := 0x40000000

/-- `sizeof (struct inotify_event)`, and `sizeof buffer` -/
def inotifyEventSize : Nat := 16
def hotplugBufferSize : Nat := 512

/-! ## The kernel's side of the stream -/

/-- The padded length of a name: a multiple of the header size, with room for a NUL. -/
def paddedLen (name : DevName) : Nat :=
  (name.length + inotifyEventSize) / inotifyEventSize * inotifyEventSize

/-- The record for a name that appears in or vanishes from `/dev`. -/
def nodeRecord (mask : UInt32) (name : DevName) : Record := ⟨mask, name, paddedLen name⟩

def Record.toBytes (r : Record) : List UInt8 :=
  le32 1 ++ le32 r.mask ++ le32 0 ++ le32 (UInt32.ofNat r.len)
    ++ (r.name ++ List.replicate (r.len - r.name.length) 0)

/-- A read hands over the oldest records that fit whole into `room` bytes. -/
def readRecords : Nat → List Record → List UInt8 × List Record
  | _, [] => ([], [])
  | room, r :: rs =>
    if r.toBytes.length ≤ room then
      let (bytes, rest) := readRecords (room - r.toBytes.length) rs
      (r.toBytes ++ bytes, rest)
    else ([], r :: rs)

/-! ## `hotplug.c` -/

/-- `"video"` -/
def videoPrefix : List UInt8 := [118, 105, 100, 101, 111]

/-- The C string at the start of the bytes. -/
def cstr (bs : List UInt8) : DevName := bs.takeWhile (· ≠ 0)

/-- `hotplug_attach` and `hotplug_detach`: send `what` with a heap copy of the name. -/
def hotplugSend (what : Nat → DevName → Message) (env : Env) (io : Io) (devname : DevName) : Io :=
  match io.malloc env with
  | (none, io) => io
  | (some p, io) => Io.post env { io with allocs := io.allocs ++ [p] } (what p devname)

def hotplugAttach (env : Env) (io : Io) (devname : DevName) : Io :=
  hotplugSend .hotplugAttached env io devname

def hotplugDetach (env : Env) (io : Io) (devname : DevName) : Io :=
  hotplugSend .hotplugDetached env io devname

/-- The record loop of `hotplug_process` at offset `ptr`; `fuel` bounds the records left. -/
def hotplugWalk (env : Env) (buffer : List UInt8) (r : Nat) : Nat → Nat → Io → Io
  | 0, _, io => io
  | fuel + 1, ptr, io =>
    if ptr < r then
      let mask := get32 buffer (ptr + 4)
      let next := ptr + inotifyEventSize + (get32 buffer (ptr + 12)).toNat
      -- `continue` advances the cursor too
      if mask &&& IN_ISDIR ≠ 0 then hotplugWalk env buffer r fuel next io
      else
        let name := buffer.drop (ptr + inotifyEventSize)
        let io :=
          if name.take 5 = videoPrefix then
            if mask &&& IN_CREATE ≠ 0 then hotplugAttach env io (cstr name)
            else if mask &&& IN_DELETE ≠ 0 then hotplugDetach env io (cstr name)
            else io
          else io
        hotplugWalk env buffer r fuel next io
    else io

def hotplugProcess (env : Env) (io : Io) : Io :=
  let (bytes, records) := readRecords hotplugBufferSize io.kernel.records
  -- the rest of the stack buffer is what was there before
  let buffer := bytes ++ env.stale io.kernel.tick
  let io := { io with kernel := { io.kernel.ask with records := records } }
  if bytes.length = 0 then io
  else hotplugWalk env buffer bytes.length bytes.length 0 io

/-- `hotplug_init`: the inotify descriptor, when there is one. -/
def hotplugInit (env : Env) (io : Io) : Option Nat × Io :=
  if env.inotifyInit io.kernel.tick then
    let (fd, k) := io.kernel.openFd
    let io := { io with kernel := { k with watching := true } }
    (some fd, io.watch env fd .read .hotplugProcess .looper)
  else (none, io.tick)

/-- The `readdir` loop of `hotplug_scan`. -/
def scanNames (env : Env) : List DevName → Io → Io
  | [], io => io
  | name :: names, io =>
    scanNames env names (if name.take 5 = videoPrefix then hotplugAttach env io name else io)

def hotplugScan (env : Env) (io : Io) : Io :=
  if env.opendir io.kernel.tick then scanNames env io.kernel.nodes io.tick else io.tick

end Uvcd
