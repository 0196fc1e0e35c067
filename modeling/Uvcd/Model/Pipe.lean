import Uvcd.Lib.Framing
import Uvcd.Lib.Machine
import Uvcd.Model.Message

/-!
# `Model.Pipe` — the looper's pipe byte by byte (`looper.c`)

`looper_send_message` writes a `struct message` as it lies in memory, padding included, and
`looper_process` reads up to sixteen of them at once and cuts them out of its buffer by pointer
arithmetic. A write of one message goes through whole or not at all, and a read returns what it asks for or
all there is. The rest of the model keeps whole messages in the pipe; `Correctness.Queue` relates the two.
-/

namespace Uvcd

open Framing

/-! ## `struct message` in memory -/

/-- The two data models Linux has; `long` decides the layout of `struct message`. -/
inductive Abi where
  | ilp32
  | lp64
  deriving DecidableEq

namespace Abi

def sizeofLong : Abi → Nat
  | ilp32 => 4
  | lp64 => 8

/-- The bytes between `wParam` and `lParam`, which nothing initialises. -/
def padding : Abi → Nat
  | ilp32 => 0
  | lp64 => 4

/-- `sizeof (struct message)` -/
def sizeofMessage (abi : Abi) : Nat := 12 + abi.padding + abi.sizeofLong

end Abi

/-- The fields of `struct message` as bit patterns. -/
structure RawMessage (abi : Abi) where
  what : UInt32
  flag : UInt32
  wParam : UInt32
  lParam : BitVec (8 * abi.sizeofLong)
  deriving DecidableEq

namespace RawMessage

variable {abi : Abi}

def toBytes (pad : Vector UInt8 abi.padding) (m : RawMessage abi) : List UInt8 :=
  leBytes 4 m.what.toNat ++ (leBytes 4 m.flag.toNat ++ (leBytes 4 m.wParam.toNat
    ++ (pad.toList ++ leBytes abi.sizeofLong m.lParam.toNat)))

/-- What a `struct message *` into the bytes reads. -/
def ofBytes (abi : Abi) (bs : List UInt8) : RawMessage abi :=
  { what := UInt32.ofNat (leValue (bs.take 4))
    flag := UInt32.ofNat (leValue ((bs.drop 4).take 4))
    wParam := UInt32.ofNat (leValue ((bs.drop 8).take 4))
    lParam := BitVec.ofNat _ (leValue ((bs.drop (12 + abi.padding)).take abi.sizeofLong)) }

end RawMessage

/-! ## Sending and receiving -/

/-- The pipe, the progress of `looper_process`, and the history of both ends. -/
structure Pipe (abi : Abi) where
  /-- the bytes in the pipe, oldest first -/
  bytes : List UInt8
  /-- `buffer`, from `msg` on -/
  buffer : List UInt8
  /-- `n - i`, the messages of the buffer still to be dispatched -/
  left : Nat
  /-- every call of `looper_send_message`, with what it returned -/
  sends : List (RawMessage abi × Int)
  /-- every message passed to `looper_dispatch` -/
  dispatched : List (RawMessage abi)

namespace Pipe

variable {abi : Abi}

/-- After `pipe2`. -/
def empty (abi : Abi) : Pipe abi := ⟨[], [], 0, [], []⟩

/-- `write (ctrl_fd, &msg, sizeof msg)`, which goes through when `ok`. -/
def write (p : Pipe abi) (bs : List UInt8) (ok : Bool) : Int × Pipe abi :=
  if ok then (bs.length, { p with bytes := p.bytes ++ bs }) else (-1, p)

def looperSendMessage (p : Pipe abi) (m : RawMessage abi) (pad : Vector UInt8 abi.padding) (ok : Bool) :
    Int × Pipe abi :=
  let (r, p) := p.write (m.toBytes pad) ok
  let ret : Int := if r = abi.sizeofMessage then 0 else -1
  (ret, { p with sends := p.sends ++ [(m, ret)] })

/-- `sizeof buffer / sizeof (struct message)` -/
def bufferMessages : Nat := 16

/-- `looper_process` up to its loop. -/
def looperRead (p : Pipe abi) : Pipe abi :=
  let n := min (bufferMessages * abi.sizeofMessage) p.bytes.length
  if n = 0 then p
  else { p with
    bytes := p.bytes.drop n
    buffer := p.bytes.take n
    left := n / abi.sizeofMessage }

/-- One turn of its loop; a message that is not all there would be read from beyond the bytes received. -/
def looperDispatchNext (p : Pipe abi) : Except Fault (Pipe abi) :=
  match p.left with
  | 0 => .ok p
  | left + 1 =>
    if p.buffer.length < abi.sizeofMessage then .error .badPointer
    else .ok { p with
      buffer := p.buffer.drop abi.sizeofMessage
      left := left
      dispatched := p.dispatched ++ [RawMessage.ofBytes abi (p.buffer.take abi.sizeofMessage)] }

end Pipe

/-- What can happen at the pipe. `send` stands for a call from a callback, from a handler or from the signal
    handler, which may come at any time. -/
inductive PipeAction (abi : Abi) where
  | send (m : RawMessage abi) (pad : Vector UInt8 abi.padding) (ok : Bool)
  /-- `looper_process` is called -/
  | read
  /-- `looper_process` goes on with its loop -/
  | dispatch

/-- `looper_process` is not entered again while its loop runs. -/
def pipeStep {abi : Abi} : PipeAction abi → Pipe abi → Except Fault (Pipe abi)
  | .send m pad ok, p => .ok (p.looperSendMessage m pad ok).2
  | .read, p => .ok (if p.left = 0 then p.looperRead else p)
  | .dispatch, p => p.looperDispatchNext

/-! ## The typed messages in memory -/

/-- `MSG_*` -/
def What.code : What → UInt32
  | .signal => 0
  | .terminate => 1
  | .hotplugAttached => 0x10
  | .hotplugDetached => 0x11
  | .videoSetFmt => 0x20
  | .videoStreamOn => 0x30
  | .videoStreamOff => 0x40
  | .videoFrameAvailable => 0x50
  | .uvcAttached => 0x60
  | .uvcDetached => 0x61

/-- `MSG_FLAG_*` -/
def Flag.code : Flag → UInt32
  | .none => 0
  | .lparamAllocated => 1

/-- A message in memory, `place` telling where its `lParam` points. -/
def Message.raw {abi : Abi} (place : LParam → BitVec (8 * abi.sizeofLong)) (m : Message) : RawMessage abi :=
  ⟨m.what.code, m.flag.code, m.wParam, place m.lParam⟩

end Uvcd
