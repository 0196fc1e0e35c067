/-!
# `Model.Events` — the watch list and the dispatch snapshot (`events.c`)

The watch list is a list in registration order; an `fd_set` is a predicate on descriptors. Callbacks are
named by the function they are, `priv` by the object it points to: an object is identified by the address
`malloc` gave it, and addresses are never given out twice.
-/

namespace Uvcd

inductive EventType where
  | read
  | write
  | exception
  deriving DecidableEq

inductive Callback where
  | looperProcess
  | hotplugProcess
  | uvcGadgetProcess
  | uvcVideoProcess
  | captureProcess
  deriving DecidableEq

inductive Priv where
  | looper
  | gadget (addr : Nat)
  | capture (addr : Nat)
  deriving DecidableEq

/-- `struct event_fd` -/
structure EventFd where
  fd : Nat
  type : EventType
  callback : Callback
  priv : Priv
  deriving DecidableEq

/-- `struct event_iter` -/
structure EventIter where
  fd : Nat
  callback : Callback
  priv : Priv
  deriving DecidableEq

abbrev FdSet := Nat → Bool

namespace FdSet

def zero : FdSet := fun _ => false
/-- `FD_SET`, `FD_CLR` -/
def set (s : FdSet) (fd : Nat) : FdSet := fun x => x == fd || s x
def clr (s : FdSet) (fd : Nat) : FdSet := fun x => x != fd && s x

end FdSet

/-- `struct events` -/
structure Events where
  events : List EventFd
  done : Bool
  maxfd : Nat
  rfds : FdSet
  wfds : FdSet
  efds : FdSet

def eventsInit : Events := ⟨[], false, 0, FdSet.zero, FdSet.zero, FdSet.zero⟩

namespace Events

/-- The `fd_set` of an event type. -/
def fds (ev : Events) : EventType → FdSet
  | .read => ev.rfds
  | .write => ev.wfds
  | .exception => ev.efds

def setFds (ev : Events) : EventType → FdSet → Events
  | .read, s => { ev with rfds := s }
  | .write, s => { ev with wfds := s }
  | .exception, s => { ev with efds := s }

end Events

/-- `events_watch_fd`, once the allocation of the entry has succeeded. -/
def eventsWatchFd (ev : Events) (fd : Nat) (type : EventType) (callback : Callback) (priv : Priv) :
    Events :=
  let ev := ev.setFds type ((ev.fds type).set fd)
  { ev with maxfd := max ev.maxfd fd, events := ev.events ++ [⟨fd, type, callback, priv⟩] }

/-- The test of `events_unwatch_fd`. -/
def EventFd.hits (e : EventFd) (fd : Nat) (type : EventType) : Bool :=
  decide (e.fd = fd) && decide (e.type = type)

/-- `maxfd` as the loop of `events_unwatch_fd` computes it: over the entries that do not match. -/
def maxfdWithout (es : List EventFd) (fd : Nat) (type : EventType) : Nat :=
  es.foldl (fun m e => if e.hits fd type then m else max m e.fd) 0

/-- Unlink the last entry that matches, the one the loop leaves in `event`. -/
def removeLastHit (es : List EventFd) (fd : Nat) (type : EventType) : List EventFd :=
  (es.reverse.eraseP (·.hits fd type)).reverse

def eventsUnwatchFd (ev : Events) (fd : Nat) (type : EventType) : Events :=
  if ev.events.any (·.hits fd type) then
    let ev' := ev.setFds type ((ev.fds type).clr fd)
    { ev' with
      maxfd := maxfdWithout ev.events fd type
      events := removeLastHit ev.events fd type }
  else ev

def eventsStop (ev : Events) : Events := { ev with done := true }

/-! ## `events_dispatch` -/

/-- The sets `select` leaves: the ready descriptors among those it was given. -/
structure Ready where
  rfds : FdSet
  wfds : FdSet
  efds : FdSet

def Ready.fds (r : Ready) : EventType → FdSet
  | .read => r.rfds
  | .write => r.wfds
  | .exception => r.efds

/-- `select` on the watched sets, `r` being the state of all descriptors. -/
def Events.select (ev : Events) (r : Ready) : Ready :=
  ⟨fun fd => ev.rfds fd && r.rfds fd, fun fd => ev.wfds fd && r.wfds fd,
    fun fd => ev.efds fd && r.efds fd⟩

/-- The readiness test of the collecting loop. -/
def EventFd.isReady (e : EventFd) (r : Ready) : Bool := r.fds e.type e.fd

def EventFd.iter (e : EventFd) : EventIter := ⟨e.fd, e.callback, e.priv⟩

/-- `ARRAY_SIZE (iter)` -/
def iterSize : Nat := 10

/-- The collecting loop of `events_dispatch`, with `n` free slots left in `iter`. -/
def collectIter (r : Ready) : Nat → List EventFd → List EventIter
  | 0, _ => []
  | _ + 1, [] => []
  | n + 1, e :: es =>
    if e.isReady r then e.iter :: collectIter r n es else collectIter r (n + 1) es

/-- The callbacks one round of `events_dispatch` is going to call, in order. -/
def snapshot (ev : Events) (r : Ready) : List EventIter := collectIter r iterSize ev.events

section Dispatch

/-! The states of the program and what its callbacks do to them are parameters here. -/

variable {σ : Type} (events : σ → Events) (call : EventIter → σ → σ)

/-- The calling loop of `events_dispatch`: the callbacks it calls, and the state after them. -/
def callAll : List EventIter → σ → List EventIter × σ
  | [], s => ([], s)
  | t :: ts, s =>
    let s := call t s
    -- the ready callbacks behind this one are dropped
    if (events s).done then ([t], s)
    else
      let (called, s) := callAll ts s
      (t :: called, s)

/-- `events_dispatch`, on the sets that `select` left. -/
def eventsDispatch (r : Ready) (s : σ) : List EventIter × σ := callAll events call (snapshot (events s) r) s

/-- The walk under `#if 0`, from entry `i` of the list on, `n` entries to go. It reads the list as the callbacks
    leave it; a list they change is not modelled. -/
def eventsWalk (r : Ready) : Nat → Nat → σ → List EventIter × σ
  | _, 0, s => ([], s)
  | i, n + 1, s =>
    match (events s).events[i]? with
    | none => ([], s)
    | some e =>
      let (called, s) := if e.isReady r then ([e.iter], call e.iter s) else ([], s)
      if (events s).done then (called, s)
      else
        let (more, s) := eventsWalk r (i + 1) n s
        (called ++ more, s)

/-- The body of `events_dispatch` under `#if 0`. -/
def eventsDispatchDirect (r : Ready) (s : σ) : List EventIter × σ :=
  eventsWalk events call r 0 (events s).events.length s

end Dispatch

end Uvcd
