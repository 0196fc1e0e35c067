import Uvcd.Model.Base

/-!
# `Model.Message` — the looper's messages (`looper.h`, `message.h`)

`struct message` carries `what`, `flag`, an int `wParam` and a long `lParam`. The `lParam` is typed here
by what the sender puts there: nothing, a heap copy of a device name, a heap `struct v4l2_pix_format`, or
a borrowed pointer into a capture's frame buffers. No sender uses `MSG_FLAG_LPARAM_REFERENCE`.
-/

namespace Uvcd

/-- `MSG_*` -/
inductive What where
  | signal
  | terminate
  | hotplugAttached
  | hotplugDetached
  | videoSetFmt
  | videoStreamOn
  | videoStreamOff
  | videoFrameAvailable
  | uvcAttached
  | uvcDetached
  deriving DecidableEq

/-- A pointer into a frame allocation: the allocation's address and the byte offset in it. -/
structure FramePtr where
  addr : Nat
  off : Nat
  deriving DecidableEq

/-- The contents of `lParam`; heap payloads come with their address. -/
inductive LParam where
  | null
  | devname (p : Nat) (name : DevName)
  | format (p : Nat) (fmt : PixFormat)
  | frame (p : FramePtr)
  deriving DecidableEq

/-- `MSG_FLAG_*` -/
inductive Flag where
  | none
  | lparamAllocated
  deriving DecidableEq

/-- `struct message` -/
structure Message where
  what : What
  flag : Flag
  wParam : UInt32
  lParam : LParam
  deriving DecidableEq

namespace Message

/-! The messages each module sends. -/

def signal (n : UInt32) : Message := ⟨.signal, .none, n, .null⟩
def hotplugAttached (p : Nat) (name : DevName) : Message :=
  ⟨.hotplugAttached, .lparamAllocated, 0, .devname p name⟩
def hotplugDetached (p : Nat) (name : DevName) : Message :=
  ⟨.hotplugDetached, .lparamAllocated, 0, .devname p name⟩
def setFmt (id : UInt32) (p : Nat) (fmt : PixFormat) : Message :=
  ⟨.videoSetFmt, .lparamAllocated, id, .format p fmt⟩
def streamOn (id : UInt32) : Message := ⟨.videoStreamOn, .none, id, .null⟩
def streamOff (id : UInt32) : Message := ⟨.videoStreamOff, .none, id, .null⟩
def frameAvailable (id : UInt32) (p : FramePtr) : Message :=
  ⟨.videoFrameAvailable, .none, id, .frame p⟩
def uvcAttached (id : UInt32) : Message := ⟨.uvcAttached, .none, id, .null⟩
def uvcDetached (id : UInt32) : Message := ⟨.uvcDetached, .none, id, .null⟩
def terminate : Message := ⟨.terminate, .none, 0, .null⟩

end Message

end Uvcd
