import Uvcd.Model.Events
import Uvcd.Model.List

/-!
# `Model.EventMem` — the watch list in memory (`events.c`)

`Model.Events` takes the watch list by value. Here it is what the C code works on: a list head in the
`struct events` and, linked behind it, a block from `malloc` for each watch. A block that has been freed cannot be
read, linked or unlinked.
-/

namespace Uvcd

namespace Mem

open Ring

/-- `struct events` and the `struct event_fd` blocks. -/
structure Events where
  /-- `&events->events` -/
  list : Nat
  /-- the links of all live nodes, the head's and the blocks' among them -/
  links : Heap Nat
  /-- the fields of the live blocks -/
  block : Nat → Option EventFd
  done : Bool
  maxfd : Nat
  fds : EventType → FdSet

/-- `events_init`, in memory where `list` is live. -/
def eventsInit (links : Heap Nat) (list : Nat) : Option Events := do
  let links ← listInit links list
  some ⟨list, links, fun _ => none, false, 0, fun _ => FdSet.zero⟩

/-- `free (event)` -/
def Events.free (ev : Events) (event : Nat) : Option Events := do
  let links ← ev.links.free event
  some { ev with links := links, block := Function.update ev.block event none }

/-- `event` is what `malloc` returned, `left` what stands where the links of the new block are. -/
def eventsWatchFd (ev : Events) (event : Option Nat) (left : Links Nat) (fd : Nat) (type : EventType)
    (callback : Callback) (priv : Priv) : Option Events :=
  match event with
  | none => some ev
  | some event => do
    let ev := { ev with
      links := ev.links.set event (some left)
      block := Function.update ev.block event (some ⟨fd, type, callback, priv⟩)
      fds := Function.update ev.fds type ((ev.fds type).set fd)
      maxfd := max ev.maxfd fd }
    let links ← listAppend ev.links event ev.list
    some { ev with links := links }

/-- The loop of `events_unwatch_fd` over the entries still to be passed: `event` and `maxfd` as it leaves them. -/
def scanWatches (ev : Events) (fd : Nat) (type : EventType) :
    List Nat → Option Nat → Nat → Option (Option Nat × Nat)
  | [], event, maxfd => some (event, maxfd)
  | entry :: entries, event, maxfd => do
    let e ← ev.block entry
    if e.hits fd type then scanWatches ev fd type entries (some entry) maxfd
    else scanWatches ev fd type entries event (max maxfd e.fd)

/-- `n` bounds the walk, here and below. -/
def eventsUnwatchFd (ev : Events) (n : Nat) (fd : Nat) (type : EventType) : Option Events := do
  let entries ← listForEach ev.links ev.list n
  match ← scanWatches ev fd type entries none 0 with
  | (none, _) => some ev
  | (some event, maxfd) =>
    let e ← ev.block event
    let ev := { ev with fds := Function.update ev.fds e.type ((ev.fds e.type).clr fd), maxfd := maxfd }
    let links ← listRemove ev.links event
    { ev with links := links }.free event

def eventsStop (ev : Events) : Events := { ev with done := true }

/-- The body of the collecting loop of `events_dispatch`: it breaks off when `iter` is full. -/
def collectStep (ev : Events) (r : Ready) (event : Nat) (iter : List EventIter) : Option (Bool × List EventIter) := do
  let e ← ev.block event
  if e.isReady r then
    let iter := iter ++ [e.iter]
    some (decide (iter.length < iterSize), iter)
  else some (true, iter)

/-- The callbacks `events_dispatch` collects. -/
def snapshot (ev : Events) (n : Nat) (r : Ready) : Option (List EventIter) :=
  listForEachSafe (fun _ => ev.links) (collectStep ev r) ev.list n []

/-- `events_cleanup` -/
def eventsCleanup : Nat → Events → Option Events
  | 0, _ => none
  | n + 1, ev => do
    if ← listEmpty ev.links ev.list then some ev
    else
      let event ← ev.links.next ev.list
      let links ← listRemove ev.links event
      let ev ← { ev with links := links }.free event
      eventsCleanup n ev

/-- A call of `events.c`. -/
inductive EventsCall where
  | watch (event : Option Nat) (left : Links Nat) (fd : Nat) (type : EventType) (callback : Callback) (priv : Priv)
  | unwatch (fd : Nat) (type : EventType)
  | stop

def EventsCall.apply (n : Nat) (ev : Events) : EventsCall → Option Events
  | .watch event left fd type callback priv => eventsWatchFd ev event left fd type callback priv
  | .unwatch fd type => eventsUnwatchFd ev n fd type
  | .stop => some (eventsStop ev)

end Mem

end Uvcd
