import Uvcd.Lib.Machine
import Uvcd.Model.Capture
import Uvcd.Model.Hotplug

/-!
# `Model.Daemon` — the looper, the event loop and `main` (`looper.c`, `events.c`, `main.c`)

The daemon is a machine (`Lib.Machine`) that takes one callback, one message or one `main` stage at a
time. `Phase` is where it stands: within `events_dispatch` it holds the callbacks of the round still to be
called, within `looper_process` also the messages of the batch still to be handled. Between any two steps
nodes may come and go and a signal may arrive.
-/

namespace Uvcd

open Split

/-- The two `handle_message` functions registered with the looper. -/
inductive Handler where
  | uvc
  | capture
  deriving DecidableEq

inductive Phase where
  /-- `main`, before `hotplug_init` -/
  | start
  /-- `main`, after `hotplug_init` -/
  | inited
  /-- the top of the loop of `events_loop` -/
  | select
  /-- `events_dispatch`, the callbacks still to be called -/
  | dispatch (iter : List EventIter)
  /-- `looper_process` within `events_dispatch`, the messages still to be handled -/
  | process (batch : List Message) (iter : List EventIter)
  /-- after `looper_loop` -/
  | exit
  | finished
  deriving DecidableEq

structure Sys where
  io : Io
  gadgets : List Gadget
  captures : List Capture
  handlers : List Handler
  pipeFd : Nat
  ctrlFd : Nat
  inotifyFd : Option Nat
  phase : Phase

/-- The messages sent and not handled yet, oldest first. -/
def Sys.pending (s : Sys) : List Message :=
  match s.phase with
  | .process batch _ => batch ++ s.io.queue
  | _ => s.io.queue

/-- The callbacks of the round still to be called. -/
def Sys.iter (s : Sys) : List EventIter :=
  match s.phase with
  | .dispatch iter => iter
  | .process _ iter => iter
  | _ => []

/-! ## Message handlers -/

def uvcHandleMessage (env : Env) (s : Sys) (m : Message) : Except Fault (Int × Sys) :=
  match m.what, m.lParam with
  | .hotplugAttached, .devname _ name =>
    let (r, gadgets, io) := uvcGadgetAttach env s.io s.gadgets name
    .ok (if r = 0 then 1 else 0, { s with gadgets := gadgets, io := io })
  | .hotplugDetached, .devname _ name => do
    let (r, gadgets, io) ← uvcGadgetDetach env s.io s.gadgets name
    .ok (if r = 0 then 1 else 0, { s with gadgets := gadgets, io := io })
  | .videoFrameAvailable, .frame p => do
    let (r, gadgets, io) ←
      uvcGadgetFillBuffer env s.io s.gadgets m.wParam (resolveFrame s.captures p)
    .ok (if r = 0 then 1 else 0, { s with gadgets := gadgets, io := io })
  -- senders always put a payload there
  | .hotplugAttached, _ | .hotplugDetached, _ | .videoFrameAvailable, _ => .error .badPointer
  | .terminate, _ => do
    let io ← uvcGadgetTerminate env s.gadgets s.io
    .ok (0, { s with gadgets := [], io := io })
  | _, _ => .ok (0, s)

def captureHandleMessage (env : Env) (s : Sys) (m : Message) : Except Fault (Int × Sys) :=
  match m.what, m.lParam with
  | .hotplugAttached, .devname _ name =>
    let (r, captures, io) := v4lCaptureAttach env s.io s.captures name
    .ok (if r = 0 then 1 else 0, { s with captures := captures, io := io })
  | .hotplugDetached, .devname _ name => do
    let (r, captures, io) ← v4lCaptureDetach env s.io s.captures name
    .ok (if r = 0 then 1 else 0, { s with captures := captures, io := io })
  | .videoSetFmt, .format _ fmt =>
    let (_, captures, io) := v4lCaptureSetFmt env s.io s.captures m.wParam fmt
    .ok (0, { s with captures := captures, io := io })
  | .hotplugAttached, _ | .hotplugDetached, _ | .videoSetFmt, _ => .error .badPointer
  | .videoStreamOn, _ => do
    let (_, captures, io) ← v4lCaptureStream env s.io s.captures m.wParam true
    .ok (0, { s with captures := captures, io := io })
  | .videoStreamOff, _ => do
    let (_, captures, io) ← v4lCaptureStream env s.io s.captures m.wParam false
    .ok (0, { s with captures := captures, io := io })
  | .uvcDetached, _ => do
    let (_, captures, io) ← v4lCaptureDetachGadget env s.io s.captures m.wParam
    .ok (0, { s with captures := captures, io := io })
  | .terminate, _ => do
    let io ← v4lCaptureTerminate env s.captures s.io
    .ok (0, { s with captures := [], io := io })
  | _, _ => .ok (0, s)

def handleMessage (env : Env) : Handler → Sys → Message → Except Fault (Int × Sys)
  | .uvc => uvcHandleMessage env
  | .capture => captureHandleMessage env

/-! ## The looper -/

/-- `looper_dispatch` without broadcast: a handler that returns `1` ends the walk. -/
def looperDispatch (env : Env) (m : Message) : List Handler → Sys → Except Fault Sys
  | [], s => .ok s
  | h :: hs, s => do
    let (r, s) ← handleMessage env h s m
    if r = 1 then .ok s else looperDispatch env m hs s

/-- The heap block behind an `lParam`. -/
def LParam.payload : LParam → Option Nat
  | .devname p _ => some p
  | .format p _ => some p
  | _ => none

/-- One turn of the loop of `looper_process`. -/
def looperHandle (env : Env) (s : Sys) (m : Message) : Except Fault Sys := do
  let s ← looperDispatch env m s.handlers s
  -- the default handler, even when a handler has returned `1`
  let s := if m.what = .signal then { s with io := { s.io with events := eventsStop s.io.events } } else s
  match m.flag, m.lParam.payload with
  | .lparamAllocated, some p => .ok { s with io := s.io.free p }
  | _, _ => .ok s

/-- Messages `looper_process` reads at once. -/
def batchSize : Nat := 16

/-- `looper_cleanup_handlers` -/
def looperCleanupHandlers (env : Env) : List Handler → Sys → Except Fault Sys
  | [], s => .ok s
  | h :: hs, s => do
    let (_, s) ← handleMessage env h { s with handlers := hs } .terminate
    looperCleanupHandlers env hs s

def looperCleanup (env : Env) (s : Sys) : Except Fault Sys := do
  let s ← looperCleanupHandlers env s.handlers s
  -- the read end of the pipe and the inotify descriptor are not closed
  .ok { s with io := { s.io with
    events := { s.io.events with events := [] }
    kernel := s.io.kernel.closeFd s.ctrlFd } }

/-- `looper_register_handler`, its result ignored. -/
def looperRegisterHandler (env : Env) (s : Sys) (h : Handler) : Sys :=
  if env.malloc s.io.kernel.tick then { s with handlers := s.handlers ++ [h], io := s.io.tick }
  else { s with io := s.io.tick }

/-! ## `events_dispatch` -/

/-- After a callback: go on with the round unless it stopped the loop. -/
def afterCall (s : Sys) (rest : List EventIter) : Sys :=
  { s with phase := if s.io.events.done then .exit else .dispatch rest }

/-- Run a gadget's callback on the gadget `priv` points to. -/
def onGadget (s : Sys) (addr : Nat) (f : Io → Gadget → Except Fault (Gadget × Io)) : Except Fault Sys :=
  match splitFirst (fun g => decide (g.addr = addr)) s.gadgets with
  | none => .error .danglingCallback
  | some (pre, g, post) => do
    let (g, io) ← f s.io g
    .ok { s with gadgets := pre ++ g :: post, io := io }

def onCapture (s : Sys) (addr : Nat) (f : Io → Capture → Except Fault (Capture × Io)) :
    Except Fault Sys :=
  match splitFirst (fun c => decide (c.addr = addr)) s.captures with
  | none => .error .danglingCallback
  | some (pre, c, post) => do
    let (c, io) ← f s.io c
    .ok { s with captures := pre ++ c :: post, io := io }

/-- `iter[i].callback (iter[i].fd, iter[i].priv)`, `rest` being the entries after it. -/
def invoke (env : Env) (s : Sys) (t : EventIter) (rest : List EventIter) : Except Fault Sys :=
  match t.callback, t.priv with
  | .looperProcess, .looper =>
    -- one `read` of the non-blocking pipe
    .ok { s with
      io := { s.io.tick with queue := s.io.queue.drop batchSize }
      phase := .process (s.io.queue.take batchSize) rest }
  | .hotplugProcess, .looper => .ok (afterCall { s with io := hotplugProcess env s.io } rest)
  | .uvcGadgetProcess, .gadget a => do
    let s ← onGadget s a (uvcGadgetProcess env)
    .ok (afterCall s rest)
  | .uvcVideoProcess, .gadget a => do
    let s ← onGadget s a (uvcVideoProcess env)
    .ok (afterCall s rest)
  | .captureProcess, .capture a => do
    let s ← onCapture s a (captureProcess env)
    .ok (afterCall s rest)
  | _, _ => .error .badPointer

/-! ## The machine -/

inductive Action where
  /-- a node appears in `/dev` -/
  | plug (name : DevName)
  /-- a node vanishes from `/dev` -/
  | unplug (name : DevName)
  /-- `signal_handler` runs -/
  | signal (n : UInt32)
  /-- `select` returns, with the state of all descriptors -/
  | select (r : Ready)
  /-- `select` fails with an error other than `EINTR` -/
  | selectFailed
  /-- the program takes its next step -/
  | next

namespace Kernel

/-- inotify reports a change of `/dev` once the watch is installed. -/
def report (k : Kernel) (r : Record) : Kernel :=
  if k.watching then { k with records := k.records ++ [r] } else k

def plug (k : Kernel) (name : DevName) : Kernel :=
  if name ∈ k.nodes then k
  else { k with nodes := k.nodes ++ [name] }.report (nodeRecord IN_CREATE name)

def unplug (k : Kernel) (name : DevName) : Kernel :=
  if name ∈ k.nodes then { k with nodes := k.nodes.filter (· ≠ name) }.report (nodeRecord IN_DELETE name)
  else k

end Kernel

/-- The program's next step, by where it stands. -/
def next (env : Env) (s : Sys) : Except Fault Sys :=
  match s.phase with
  | .start =>
    let (fd, io) := hotplugInit env s.io
    .ok { s with io := io, inotifyFd := fd, phase := .inited }
  | .inited =>
    let s := looperRegisterHandler env s .uvc
    let s := looperRegisterHandler env s .capture
    .ok { s with io := hotplugScan env s.io, phase := .select }
  -- waits for `select`
  | .select => .ok s
  | .dispatch [] => .ok { s with phase := .select }
  | .dispatch (t :: rest) => invoke env s t rest
  | .process [] rest => .ok (afterCall s rest)
  | .process (m :: batch) rest => do
    let s ← looperHandle env s m
    .ok { s with phase := .process batch rest }
  | .exit => do
    let s ← looperCleanup env s
    .ok { s with phase := .finished }
  | .finished => .ok s

/-- An action that cannot happen in the present phase changes nothing. -/
def step (env : Env) : Action → Sys → Except Fault Sys
  | .plug name, s => .ok { s with io := { s.io with kernel := s.io.kernel.plug name } }
  | .unplug name, s => .ok { s with io := { s.io with kernel := s.io.kernel.unplug name } }
  | .signal n, s => .ok { s with io := s.io.post env (.signal n) }
  | .select r, s =>
    match s.phase with
    | .select => .ok { s with phase := .dispatch (snapshot s.io.events (s.io.events.select r)) }
    | _ => .ok s
  | .selectFailed, s =>
    match s.phase with
    | .select => .ok { s with phase := .exit }
    | _ => .ok s
  | .next, s => next env s

/-- The standard descriptors. -/
def stdFds : List Nat := [2, 1, 0]

/-- `looper_init`: the pipe and its watch, on a machine with these nodes and formats in force. -/
def boot (env : Env) (nodes : List DevName) (inforce : Nat → PixFormat) : Sys :=
  let k : Kernel := ⟨0, stdFds, inforce, nodes, [], false, []⟩
  let (rd, k) := k.openFd
  let (wr, k) := k.openFd
  let io : Io := ⟨k, eventsInit, [], 0, [], [], [], [], []⟩
  { io := io.watch env rd .read .looperProcess .looper
    gadgets := [], captures := [], handlers := []
    pipeFd := rd, ctrlFd := wr, inotifyFd := none, phase := .start }

/-- The runs of the daemon. -/
abbrev run (env : Env) : List Action → Sys → Except Fault Sys := Machine.run (step env)

/-- The states the daemon reaches on a machine with these nodes and formats. -/
def Reaches (env : Env) (s : Sys) : Prop :=
  ∃ nodes inforce, Machine.Reachable (step env) (boot env nodes inforce) s

/-! ## A machine that obliges -/

/-- `"video0"` to `"video9"` -/
def videoName (n : Nat) : DevName := videoPrefix ++ [UInt8.ofNat (48 + n)]

/-- A streaming output device, and a streaming capture device. -/
def Node.output (dev : Nat) : Node := ⟨dev, some ⟨V4L2_CAP_VIDEO_OUTPUT ||| V4L2_CAP_STREAMING, 0⟩, []⟩
def Node.capture (dev : Nat) : Node := ⟨dev, some ⟨V4L2_CAP_VIDEO_CAPTURE ||| V4L2_CAP_STREAMING, 0⟩, []⟩

/-- The event of `script` whose call number has not passed yet. -/
def scripted (script : List (Nat × UvcEvent)) (t : Nat) : Except Errno UvcEvent :=
  match script.find? fun e => t < e.1 with
  | some e => .ok e.2
  | none => .error .EINVAL

/-- Every call succeeds: the nodes of `outputs` are output devices and all others captures, told apart by the
    last digit of their names; drivers accept what they are asked for, map buffers of the length of a frame
    and hand out the oldest buffer they own; gadgets deliver the events of `script`. -/
def Env.obliging (outputs : List DevName) (script : List (Nat × UvcEvent)) : Env where
  malloc _ := true
  write _ _ := true
  clock t := (0, 1000 * t)
  stale _ := []
  inotifyInit _ := true
  opendir _ := true
  openNode _ path :=
    let dev := (path.getLastD 0).toNat
    some (if path ∈ outputs.map (devPrefix ++ ·) then .output dev else .capture dev)
  sFmt _ _ fmt := .ok { fmt with sizeimage := fmt.width * fmt.height * 2 }
  gFmt _ _ := none
  reqbufs _ _ count := .ok count
  querybuf _ file _ := .ok file.reqfmt.frameBytes
  mmap _ _ _ := none
  munmap _ _ _ := none
  qbuf _ _ _ := none
  dqbuf _ file := match file.queued with
    | [] => .error .EINVAL
    | i :: _ => .ok ⟨i, file.reqfmt.frameBytes, fun _ => 0⟩
  streamon _ _ := none
  streamoff _ _ := none
  subscribe _ _ _ := none
  dqevent t _ := scripted script t
  miss := .harmless
  freed := .harmless

/-- `select` finds exactly the descriptors of `fds` ready. -/
def readyFds (fds : List Nat) : Ready := ⟨(fds.contains ·), (fds.contains ·), (fds.contains ·)⟩

/-- One turn of the event loop with the descriptors of `fds` ready, `n` steps long. -/
def turn (fds : List Nat) (n : Nat) : List Action := .select (readyFds fds) :: List.replicate n .next

/-- `UVC_SET_CUR` of the commit control, and its data stage: the first format and frame. -/
def commitRequest : UvcEvent := .setup ⟨0x21, UVC_SET_CUR, 0x0200, UVC_INTF_STREAMING, 34⟩
def commitData : UvcEvent := .data ⟨34, List.replicate 60 0⟩

/-- An output device `video0` and a capture device `video1`; the host commits a format, starts the stream
    and, from call `t` on, stops it. -/
def bench (t : Nat) : Env :=
  .obliging [videoName 0] [(36, commitRequest), (39, commitData), (t, .streamon), (1000, .streamoff)]

/-- Both attach, the format is committed and handed to the capture, both start to stream: the pipe is
    descriptor `3`, inotify `5`, the gadget `6` and the capture `7`. -/
def streamUp : List Action :=
  [.next, .next] ++ [[3], [6], [6], [3], [6], [3]].flatMap (turn · 12)

/-- The bench with its two nodes in `/dev`. -/
def benchBoot (t : Nat) : Sys := boot (bench t) [videoName 0, videoName 1] fun _ => .zero

end Uvcd
