import Uvcd.Model.V4l2
import Uvcd.Model.Events

/-!
# `Model.Io` — what the modules share: the kernel, the watch list, the message pipe, the heap

The pipe is the FIFO of whole messages (`Correctness.Queue` justifies this against the byte stream). `sent` is
every message whose send returned `0`; `allocs` and `frees` record the heap payloads of messages, and
`posted` and `delivered` the frames published by captures and copied into gadgets. None of these logs
is read by the program.
-/

namespace Uvcd

/-- A converted frame: the call that dequeued it, and its bytes. -/
structure Frame where
  stamp : Nat
  bytes : Bytes

structure Io where
  kernel : Kernel
  events : Events
  /-- the looper pipe, oldest message first -/
  queue : List Message
  /-- the next address `malloc` gives out -/
  brk : Nat
  sent : List Message
  allocs : List Nat
  frees : List Nat
  posted : List Frame
  delivered : List Frame

namespace Io

def tick (io : Io) : Io := { io with kernel := io.kernel.ask }

/-- `malloc` of a process object: its address, or none. -/
def malloc (env : Env) (io : Io) : Option Nat × Io :=
  if env.malloc io.kernel.tick then (some io.brk, { io.tick with brk := io.brk + 1 })
  else (none, io.tick)

/-- `events_watch_fd`, with its allocation. -/
def watch (env : Env) (io : Io) (fd : Nat) (type : EventType) (callback : Callback) (priv : Priv) : Io :=
  if env.malloc io.kernel.tick then
    { io.tick with events := eventsWatchFd io.events fd type callback priv }
  else io.tick

def unwatch (io : Io) (fd : Nat) (type : EventType) : Io :=
  { io with events := eventsUnwatchFd io.events fd type }

/-- `free` of a message payload. -/
def free (io : Io) (p : Nat) : Io := { io with frees := io.frees ++ [p] }

end Io

def looperSendMessage (env : Env) (io : Io) (m : Message) : Int × Io :=
  if env.write io.kernel.tick m then
    (0, { io.tick with queue := io.queue ++ [m], sent := io.sent ++ [m] })
  else (-1, io.tick)

/-- A send whose result is ignored, as every caller in the daemon does. -/
def Io.post (env : Env) (io : Io) (m : Message) : Io := (looperSendMessage env io m).2

/-- `container_of (&head)`: what using the cursor of an exhausted list walk as an object comes to. The walk does end in
    the head (`lookup_cursor`), and `env.miss` says what the memory around it makes of that. -/
def strayCursor {α : Type} (env : Env) (noop : α) : Except Fault α :=
  match env.miss with
  | .trap => .error .strayGadget
  | .harmless => .ok noop

end Uvcd
