import Uvcd.Model.Capture

/-!
# `Protocol.View` — the daemon as a protocol between gadgets and captures

The abstract layer. A `View` forgets drivers, buffers and control requests and keeps what the objects
share: the watch list, the open descriptors, the pipe, and of each object its identity, its pairing and
whether it streams. What the daemon does is given as relations on views, one per operation:

* `Elapses` — driver calls and allocations that change nothing else;
* `Posts`, `Watches` — a send and a registration, which the environment may refuse;
* `StartsGadget`, `StopsGadget`, `StartsCapture`, `StopsCapture` — the stream functions;
* `GadgetCalls`, `CaptureCalls` — the callbacks of an object;
* `Handles` — the effect of one message on both lists.

`Refinement.Steps` shows that every step of the model is one of these.
-/

namespace Uvcd

open Split

/-! ## Views -/

/-- What the protocol sees of a gadget. -/
structure GadgetView where
  addr : Nat
  fd : Nat
  name : DevName
  id : UInt32
  streaming : Bool
  fcc : UInt32
  width : UInt32
  height : UInt32

/-- What the protocol sees of a capture. -/
structure CaptureView where
  addr : Nat
  fd : Nat
  name : DevName
  gadgetId : UInt32
  streaming : Bool
  width : UInt32
  height : UInt32
  frames : Option FrameBufs

def Gadget.view (g : Gadget) : GadgetView :=
  ⟨g.addr, g.vdev.fd, g.vdev.name, g.id, g.isStreaming, g.fcc, g.width, g.height⟩

def Capture.view (c : Capture) : CaptureView :=
  ⟨c.addr, c.vdev.fd, c.vdev.name, c.gadgetId, c.isStreaming, c.width, c.height, c.buffers⟩

/-- What all objects share. `queue` holds every message that is sent and not handled. -/
structure Board where
  events : Events
  opened : List Nat
  queue : List Message
  brk : Nat
  tick : Nat
  nodes : List DevName
  records : List Record
  watching : Bool
  posted : List Frame
  delivered : List Frame

/-- The shared state, with the messages `batch` taken out of the pipe already. -/
def Io.board (batch : List Message) (io : Io) : Board :=
  ⟨io.events, io.kernel.opened, batch ++ io.queue, io.brk, io.kernel.tick, io.kernel.nodes,
    io.kernel.records, io.kernel.watching, io.posted, io.delivered⟩

structure View where
  board : Board
  gadgets : List GadgetView
  captures : List CaptureView
  pipeFd : Nat
  ctrlFd : Nat
  inotifyFd : Option Nat

/-- The messages the daemon's senders make up. -/
inductive Sendable : Message → Prop
  | signal (n : UInt32) : Sendable (.signal n)
  | hotplugAttached (p : Nat) (name : DevName) : Sendable (.hotplugAttached p name)
  | hotplugDetached (p : Nat) (name : DevName) : Sendable (.hotplugDetached p name)
  | setFmt (id : UInt32) (p : Nat) (fmt : PixFormat) : Sendable (.setFmt id p fmt)
  | streamOn (id : UInt32) : Sendable (.streamOn id)
  | streamOff (id : UInt32) : Sendable (.streamOff id)
  | frameAvailable (id : UInt32) (p : FramePtr) : Sendable (.frameAvailable id p)
  | uvcAttached (id : UInt32) : Sendable (.uvcAttached id)
  | uvcDetached (id : UInt32) : Sendable (.uvcDetached id)

/-! ## Operations on the shared state -/

namespace Board

/-- A send that goes through when `ok`. -/
def post (w : Board) (ok : Bool) (m : Message) : Board :=
  if ok then { w with queue := w.queue ++ [m] } else w

/-- The send of a frame, logged when it goes through. -/
def publish (w : Board) (ok : Bool) (m : Message) (f : Frame) : Board :=
  if ok then { w with queue := w.queue ++ [m], posted := w.posted ++ [f] } else w

def watch (w : Board) (ok : Bool) (e : EventFd) : Board :=
  if ok then { w with events := eventsWatchFd w.events e.fd e.type e.callback e.priv } else w

def unwatch (w : Board) (fd : Nat) (type : EventType) : Board :=
  { w with events := eventsUnwatchFd w.events fd type }

def openFd (w : Board) (fd : Nat) : Board := { w with opened := fd :: w.opened }
def closeFd (w : Board) (fd : Nat) : Board := { w with opened := w.opened.erase fd }
def stop (w : Board) : Board := { w with events := eventsStop w.events }
def deliver (w : Board) (f : Frame) : Board := { w with delivered := w.delivered ++ [f] }

end Board

/-- Driver calls and allocations: only the counters move on. -/
inductive Elapses (w : Board) : Board → Prop
  | mk {brk tick : Nat} (hbrk : w.brk ≤ brk) (htick : w.tick ≤ tick) :
      Elapses w { w with brk := brk, tick := tick }

variable (env : Env)

/-- A send of `m`, whatever comes of it. -/
def Posts (m : Message) (w w' : Board) : Prop := ∃ t, Elapses (w.post (env.write t m) m) w'

/-- The registration of a watch, unless its allocation fails. -/
def Watches (e : EventFd) (w w' : Board) : Prop := ∃ t, Elapses (w.watch (env.malloc t) e) w'

/-- Sends of the messages of `ms`, in order. -/
inductive PostsAll : List Message → Board → Board → Prop
  | done {w w' : Board} (he : Elapses w w') : PostsAll [] w w'
  | send {w w₁ w' : Board} {m : Message} {ms : List Message} (hp : Posts env m w w₁)
      (hrest : PostsAll ms w₁ w') : PostsAll (m :: ms) w w'

/-! ## Objects -/

namespace GadgetView

/-- The watch a gadget registers when it attaches, and the one it holds while it streams. -/
def control (g : GadgetView) : EventFd := ⟨g.fd, .exception, .uvcGadgetProcess, .gadget g.addr⟩
def video (g : GadgetView) : EventFd := ⟨g.fd, .write, .uvcVideoProcess, .gadget g.addr⟩

end GadgetView

/-- The watch a capture holds while it streams. -/
def CaptureView.source (c : CaptureView) : EventFd := ⟨c.fd, .read, .captureProcess, .capture c.addr⟩

/-- `uvc_video_stream (gadget, 1)` -/
inductive StartsGadget (w : Board) (g : GadgetView) : Board → GadgetView → Prop
  | idle {w' : Board} (he : Elapses w w') : StartsGadget w g w' g
  | start {w₁ w' : Board} (hoff : g.streaming = false) (hw : Watches env g.video w w₁)
      (hp : Posts env (.streamOn g.id) w₁ w') : StartsGadget w g w' { g with streaming := true }

/-- `uvc_video_stream (gadget, 0)` -/
inductive StopsGadget (w : Board) (g : GadgetView) : Board → GadgetView → Prop
  | idle {w' : Board} (hoff : g.streaming = false) (he : Elapses w w') : StopsGadget w g w' g
  | stop {w' : Board} (hon : g.streaming = true)
      (hp : Posts env (.streamOff g.id) (w.unwatch g.fd .write) w') :
      StopsGadget w g w' { g with streaming := false }

/-- `uvc_gadget_process`, on the event its driver delivers. -/
inductive GadgetCalls (ev : Except Errno UvcEvent) (w : Board) (g : GadgetView) :
    Board → GadgetView → Prop
  | quiet {w' : Board} (he : Elapses w w') : GadgetCalls ev w g w' g
  | start {w' : Board} {g' : GadgetView} (hev : ev = .ok .streamon) (h : StartsGadget env w g w' g') :
      GadgetCalls ev w g w' g'
  | stop {w' : Board} {g' : GadgetView} (hev : ev = .ok .streamoff) (h : StopsGadget env w g w' g') :
      GadgetCalls ev w g w' g'
  /-- a commit that gets no further than the gadget's own fields -/
  | commit {w' : Board} {d : RequestData} (hev : ev = .ok (.data d)) (he : Elapses w w') :
      GadgetCalls ev w g w' { g with fcc := PixFormat.YUYV, width := 320, height := 240 }
  | setFmt {w' : Board} {d : RequestData} {p : Nat} {fmt : PixFormat} (hev : ev = .ok (.data d))
      (hw : fmt.width = 320) (hh : fmt.height = 240) (hf : fmt.pixelformat = PixFormat.YUYV)
      (hp : Posts env (.setFmt g.id p fmt) w w') :
      GadgetCalls ev w g w' { g with fcc := PixFormat.YUYV, width := 320, height := 240 }

/-- The size of one of the two frame buffers a capture allocates for its format. -/
def frameStride (width height : UInt32) : Nat := (width * height * 2).toInt32.toInt.toNat

/-- `v4l_video_stream (capture, 1)` -/
inductive StartsCapture (w : Board) (c : CaptureView) : Board → CaptureView → Prop
  | idle {w' : Board} (he : Elapses w w') : StartsCapture w c w' c
  | start {w' : Board} {fb : FrameBufs} (hoff : c.streaming = false) (hfresh : w.brk ≤ fb.addr)
      (hlt : fb.addr < w'.brk) (hstride : fb.stride = frameStride c.width c.height)
      (hw : Watches env c.source w w') :
      StartsCapture w c w' { c with streaming := true, frames := some fb }

/-- `v4l_video_stream (capture, 0)` -/
inductive StopsCapture (w : Board) (c : CaptureView) : Board → CaptureView → Prop
  | idle {w' : Board} (hoff : c.streaming = false) (he : Elapses w w') : StopsCapture w c w' c
  | stop {w' : Board} (hon : c.streaming = true) (he : Elapses (w.unwatch c.fd .read) w') :
      StopsCapture w c w' { c with streaming := false, frames := none }

/-- `capture_process` -/
inductive CaptureCalls (w : Board) (c : CaptureView) : Board → CaptureView → Prop
  | quiet {w' : Board} (he : Elapses w w') : CaptureCalls w c w' c
  | frame {w' : Board} {fb fb' : FrameBufs} {off t : Nat} (hf : c.frames = some fb)
      (hoff : off = 0 ∨ off = fb.stride)
      (haddr : fb'.addr = fb.addr) (hstride : fb'.stride = fb.stride) (hstamp : fb'.stamp off = w.tick)
      (htick : w.tick < w'.tick)
      (hp : Elapses (w.publish (env.write t (.frameAvailable c.gadgetId ⟨fb.addr, off⟩))
        (.frameAvailable c.gadgetId ⟨fb.addr, off⟩) (fb'.frameAt off)) w') :
      CaptureCalls w c w' { c with frames := some fb' }

/-! ## Messages -/

/-- The gadget a message detaches. -/
def detachedGadget (gadgets : List GadgetView) (m : Message) : Option GadgetView :=
  match m.what, m.lParam with
  | .hotplugDetached, .devname _ name => gadgets.find? fun g => decide (g.name = name)
  | _, _ => none

/-- The capture a message detaches, parts from its gadget or stops. -/
def stoppedCapture (gadgets : List GadgetView) (captures : List CaptureView) (m : Message) :
    Option CaptureView :=
  match m.what, m.lParam with
  | .hotplugDetached, .devname _ name =>
    if (gadgets.find? fun g => decide (g.name = name)).isSome then none
    else captures.find? fun c => decide (c.name = name)
  | .videoStreamOff, _ | .uvcDetached, _ => captures.find? fun c => decide (c.gadgetId = m.wParam)
  | _, _ => none

/-- The frame a pointer refers to, by the views of the captures. -/
def resolveView (captures : List CaptureView) (p : FramePtr) : Option (Frame × Nat) :=
  captures.findSome? fun c => c.frames.bind fun fb =>
    if fb.addr = p.addr then some (fb.frameAt p.off, fb.stride) else none

/-- The first capture that holds `id` refuses the format and is released. -/
inductive Releases (refuses : Prop) (id : UInt32) : List CaptureView → List CaptureView → Prop
  | none {cs : List CaptureView} (h : ∀ c ∈ cs, c.gadgetId ≠ id) : Releases refuses id cs cs
  | refused {cs pre post : List CaptureView} {c : CaptureView} (hr : refuses)
      (h : SplitsAt (·.gadgetId = id) cs pre c post) :
      Releases refuses id cs (pre ++ { c with gadgetId := 0 } :: post)

theorem Releases.mono {p q : Prop} {id : UInt32} {cs cs' : List CaptureView} (hpq : p → q)
    (h : Releases p id cs cs') : Releases q id cs cs' := by
  cases h with
  | none hn => exact .none hn
  | refused hr hs => exact .refused (hpq hr) hs

/-- The effect of one message, `refuses` telling whether the holder of a `MSG_VIDEO_SET_FMT` turns the
    format down. -/
inductive Handles (refuses : Prop) (v : View) : Message → View → Prop
  | signal {n : UInt32} : Handles refuses v (.signal n) { v with board := v.board.stop }
  | attachFailed {p : Nat} {name : DevName} {w : Board} (he : Elapses v.board w) :
      Handles refuses v (.hotplugAttached p name) { v with board := w }
  | gadgetAttached {p : Nat} {name : DevName} {g : GadgetView} {w₁ w : Board}
      (hname : g.name = baseName (v4l2Path name)) (hoff : g.streaming = false)
      (hfmt : g.fcc = 0 ∧ g.width = 0 ∧ g.height = 0)
      (hfd : g.fd ∉ v.board.opened) (haddr : v.board.brk ≤ g.addr) (hlt : g.addr < w.brk)
      (hw : Watches env g.control (v.board.openFd g.fd) w₁) (hp : Posts env (.uvcAttached g.id) w₁ w) :
      Handles refuses v (.hotplugAttached p name) { v with board := w, gadgets := v.gadgets ++ [g] }
  | captureAttached {p : Nat} {name : DevName} {c : CaptureView} {w : Board}
      (hname : c.name = baseName (v4l2Path name)) (hoff : c.streaming = false) (hid : c.gadgetId = 0)
      (hsize : c.width = 0 ∧ c.height = 0) (hframes : c.frames = none)
      (hfd : c.fd ∉ v.board.opened) (haddr : v.board.brk ≤ c.addr) (hlt : c.addr < w.brk)
      (he : Elapses (v.board.openFd c.fd) w) :
      Handles refuses v (.hotplugAttached p name) { v with board := w, captures := v.captures ++ [c] }
  | gadgetDetached {p : Nat} {name : DevName} {pre post : List GadgetView} {g g' : GadgetView}
      {w₁ w : Board} (hs : SplitsAt (·.name = name) v.gadgets pre g post)
      (hstop : StopsGadget env v.board g w₁ g')
      (hp : Posts env (.uvcDetached g.id) ((w₁.unwatch g.fd .exception).closeFd g.fd) w) :
      Handles refuses v (.hotplugDetached p name) { v with board := w, gadgets := pre ++ post }
  | captureDetached {p : Nat} {name : DevName} {pre post : List CaptureView} {c c' : CaptureView}
      {w₁ w : Board} (hg : ∀ g ∈ v.gadgets, g.name ≠ name)
      (hs : SplitsAt (·.name = name) v.captures pre c post) (hstop : StopsCapture v.board c w₁ c')
      (he : Elapses (w₁.closeFd c.fd) w) :
      Handles refuses v (.hotplugDetached p name) { v with board := w, captures := pre ++ post }
  | detachMissed {p : Nat} {name : DevName} (hg : ∀ g ∈ v.gadgets, g.name ≠ name)
      (hc : ∀ c ∈ v.captures, c.name ≠ name) : Handles refuses v (.hotplugDetached p name) v
  | setFmtHeld {id : UInt32} {p : Nat} {fmt : PixFormat} {pre post : List CaptureView} {c : CaptureView}
      {w : Board} (hs : SplitsAt (·.gadgetId = id) v.captures pre c post) (he : Elapses v.board w) :
      Handles refuses v (.setFmt id p fmt)
        { v with board := w, captures := pre ++ { c with width := fmt.width, height := fmt.height } :: post }
  | setFmtPaired {id : UInt32} {p : Nat} {fmt : PixFormat} {cs pre post : List CaptureView}
      {c : CaptureView} {w : Board} (hr : Releases refuses id v.captures cs)
      (hs : cs = pre ++ c :: post) (hfree : c.gadgetId = 0) (he : Elapses v.board w) :
      Handles refuses v (.setFmt id p fmt)
        { v with
          board := w
          captures := pre ++ { c with gadgetId := id, width := fmt.width, height := fmt.height } :: post }
  | setFmtUnpaired {id : UInt32} {p : Nat} {fmt : PixFormat} {cs : List CaptureView} {w : Board}
      (hr : Releases refuses id v.captures cs) (he : Elapses v.board w) :
      Handles refuses v (.setFmt id p fmt) { v with board := w, captures := cs }
  | streamOn {id : UInt32} {pre post : List CaptureView} {c c' : CaptureView} {w : Board}
      (hs : SplitsAt (·.gadgetId = id) v.captures pre c post)
      (hstart : StartsCapture env v.board c w c') :
      Handles refuses v (.streamOn id) { v with board := w, captures := pre ++ c' :: post }
  | streamOnMissed {id : UInt32} (hc : ∀ c ∈ v.captures, c.gadgetId ≠ id) :
      Handles refuses v (.streamOn id) v
  | streamOff {id : UInt32} {pre post : List CaptureView} {c c' : CaptureView} {w : Board}
      (hs : SplitsAt (·.gadgetId = id) v.captures pre c post) (hstop : StopsCapture v.board c w c') :
      Handles refuses v (.streamOff id) { v with board := w, captures := pre ++ c' :: post }
  | streamOffMissed {id : UInt32} (hc : ∀ c ∈ v.captures, c.gadgetId ≠ id) :
      Handles refuses v (.streamOff id) v
  | uvcAttached {id : UInt32} : Handles refuses v (.uvcAttached id) v
  | uvcDetached {id : UInt32} {pre post : List CaptureView} {c c' : CaptureView} {w : Board}
      (hs : SplitsAt (·.gadgetId = id) v.captures pre c post) (hstop : StopsCapture v.board c w c') :
      Handles refuses v (.uvcDetached id)
        { v with board := w, captures := pre ++ { c' with gadgetId := 0 } :: post }
  | uvcDetachedMissed {id : UInt32} (hc : ∀ c ∈ v.captures, c.gadgetId ≠ id) :
      Handles refuses v (.uvcDetached id) v
  | frameCopied {id : UInt32} {p : FramePtr} {pre post : List GadgetView} {g : GadgetView} {f : Frame}
      {size : Nat} (hs : SplitsAt (·.id = id) v.gadgets pre g post) (hon : g.streaming = true)
      (hf : resolveView v.captures p = some (f, size)) :
      Handles refuses v (.frameAvailable id p) { v with board := v.board.deliver f }
  | frameDropped {id : UInt32} {p : FramePtr}
      (hs : ∀ pre g post, SplitsAt (·.id = id) v.gadgets pre g post → g.streaming = false) :
      Handles refuses v (.frameAvailable id p) v

end Uvcd
