import Uvcd.Model.Daemon
import Uvcd.Refinement.Gadgets
import Uvcd.Refinement.Captures

/-!
# `Refinement.Messages` — handling a message refines `Handles`

`Sys.Fit` is what the refinement needs of a state: plain buffers, no bulk gadget, and no object of a
module whose handler was never registered. A message is looked at by the gadget module first and by the
capture module unless the former claims it (`looper_dispatch`).
-/

namespace Uvcd

open Machine Split

/-! ## The protocol's view of a state -/

/-- The view of a state, with the messages `batch` still to be handled before those in the pipe. -/
def Sys.viewOf (batch : List Message) (s : Sys) : View :=
  ⟨s.io.board batch, s.gadgets.map Gadget.view, s.captures.map Capture.view, s.pipeFd, s.ctrlFd,
    s.inotifyFd⟩

/-- The messages `looper_process` has read and not handled. -/
def Phase.batch : Phase → List Message
  | .process batch _ => batch
  | _ => []

def Sys.view (s : Sys) : View := s.viewOf s.phase.batch

theorem Sys.pending_eq (s : Sys) : s.pending = s.view.board.queue := by
  unfold Sys.pending Sys.view Sys.viewOf Io.board Phase.batch
  cases s.phase <;> rfl

/-- Each module has objects only once its handler is registered, the gadget module first. -/
inductive Staffed (s : Sys) : Prop
  | none (h : s.handlers = []) (hg : s.gadgets = []) (hc : s.captures = [])
  | uvc (h : s.handlers = [.uvc]) (hc : s.captures = [])
  | capture (h : s.handlers = [.capture]) (hg : s.gadgets = [])
  | both (h : s.handlers = [.uvc, .capture])

/-- A gadget the refinement can follow. -/
def Gadget.Fit (g : Gadget) : Prop := g.vdev.Plain ∧ g.bulk = 0

structure Sys.Fit (s : Sys) : Prop where
  gadgets : ∀ g ∈ s.gadgets, g.Fit
  captures : AllPlain s.captures
  staffed : Staffed s

/-- The message asks for a format the capture holding the id turns down. -/
def SetFmtRefused (env : Env) (s : Sys) (m : Message) : Prop :=
  ∃ id p fmt, m = .setFmt id p fmt ∧ FmtRefused env s.io.kernel s.captures id fmt

variable {env : Env} {b : List Message}

/-! ## The two handlers in turn -/

/-- What the gadget module makes of a message, if it is registered. -/
def uvcPart (env : Env) (s : Sys) (m : Message) : Except Fault (Int × Sys) :=
  if .uvc ∈ s.handlers then uvcHandleMessage env s m else .ok (0, s)

def capturePart (env : Env) (s : Sys) (m : Message) : Except Fault (Int × Sys) :=
  if .capture ∈ s.handlers then captureHandleMessage env s m else .ok (0, s)

/-- The handlers do not register or unregister one another. -/
theorem uvcPart_handlers {s s₁ : Sys} {m : Message} {r : Int} (h : uvcPart env s m = .ok (r, s₁)) :
    s₁.handlers = s.handlers := by
  unfold uvcPart at h
  split at h
  · unfold uvcHandleMessage at h
    split at h
    · cases h; rfl
    · obtain ⟨_, _, h⟩ := bind_eq_ok.mp h; cases h; rfl
    · obtain ⟨_, _, h⟩ := bind_eq_ok.mp h; cases h; rfl
    · cases h
    · cases h
    · cases h
    · obtain ⟨_, _, h⟩ := bind_eq_ok.mp h; cases h; rfl
    · cases h; rfl
  · cases h; rfl

theorem looperDispatch_parts {s s' : Sys} {m : Message} (hst : Staffed s)
    (h : looperDispatch env m s.handlers s = .ok s') :
    ∃ r s₁, uvcPart env s m = .ok (r, s₁) ∧
      ((r = 1 ∧ s' = s₁) ∨ (r ≠ 1 ∧ ∃ r', capturePart env s₁ m = .ok (r', s'))) := by
  -- the handler of the captures is the last in the list
  have hcap : ∀ {s₁ : Sys}, s₁.handlers = s.handlers → .capture ∈ s.handlers →
      looperDispatch env m [.capture] s₁ = .ok s' → ∃ r', capturePart env s₁ m = .ok (r', s') := by
    intro s₁ hh hmem hd
    obtain ⟨⟨r', s₂⟩, hc, hd⟩ := bind_eq_ok.mp hd
    refine ⟨r', ?_⟩
    unfold capturePart
    rw [hh, if_pos hmem]
    show captureHandleMessage env s₁ m = _
    have hs₂ : s₂ = s' := by
      dsimp only at hd
      split at hd <;> · cases hd; rfl
    rw [← hs₂]; exact hc
  have habsent : ∀ {s₁ : Sys}, s₁.handlers = s.handlers → .capture ∉ s.handlers →
      capturePart env s₁ m = .ok (0, s₁) := by
    intro s₁ hh hmem
    unfold capturePart
    rw [hh, if_neg hmem]
  -- the handler of the gadgets is the first
  have huvc : ∀ {hs : List Handler}, s.handlers = .uvc :: hs →
      ∃ r s₁, uvcPart env s m = .ok (r, s₁) ∧
        ((r = 1 ∧ s' = s₁) ∨ (r ≠ 1 ∧ looperDispatch env m hs s₁ = .ok s')) := by
    intro hs hh
    rw [hh] at h
    obtain ⟨⟨r, s₁⟩, hu, h⟩ := bind_eq_ok.mp h
    refine ⟨r, s₁, ?_, ?_⟩
    · unfold uvcPart
      rw [hh, if_pos List.mem_cons_self]
      exact hu
    · dsimp only at h
      split at h
      · next hr => cases h; exact .inl ⟨hr, rfl⟩
      · next hr => exact .inr ⟨hr, h⟩
  cases hst with
  | none hh _ _ =>
      rw [hh] at h
      cases h
      refine ⟨0, s, ?_, .inr ⟨by decide, 0, habsent rfl (by rw [hh]; decide)⟩⟩
      unfold uvcPart; rw [hh]; rfl
  | uvc hh _ =>
      obtain ⟨r, s₁, hu, hcase⟩ := huvc hh
      refine ⟨r, s₁, hu, hcase.imp id fun ⟨hr, hd⟩ => ⟨hr, 0, ?_⟩⟩
      cases hd
      exact habsent (uvcPart_handlers hu) (by rw [hh]; decide)
  | capture hh _ =>
      rw [hh] at h
      refine ⟨0, s, ?_, .inr ⟨by decide, hcap rfl (by rw [hh]; decide) h⟩⟩
      unfold uvcPart; rw [hh]; rfl
  | both hh =>
      obtain ⟨r, s₁, hu, hcase⟩ := huvc hh
      refine ⟨r, s₁, hu, hcase.imp id fun ⟨hr, hd⟩ => ⟨hr, ?_⟩⟩
      exact hcap (uvcPart_handlers hu) (by rw [hh]; decide) hd

/-! ## One message -/

theorem Staffed.gadgets_nil {s : Sys} (h : Staffed s) (hno : .uvc ∉ s.handlers) : s.gadgets = [] := by
  cases h with
  | none _ hg _ => exact hg
  | uvc hh _ => rw [hh] at hno; exact absurd List.mem_cons_self hno
  | capture _ hg => exact hg
  | both hh => rw [hh] at hno; exact absurd List.mem_cons_self hno

theorem Staffed.captures_nil {s : Sys} (h : Staffed s) (hno : .capture ∉ s.handlers) :
    s.captures = [] := by
  cases h with
  | none _ _ hc => exact hc
  | uvc _ hc => exact hc
  | capture hh _ => rw [hh] at hno; exact absurd List.mem_cons_self hno
  | both hh => rw [hh] at hno; exact absurd (by simp) hno

/-- Objects appear only under a registered handler. -/
theorem Staffed.of_eq {s s' : Sys} (h : Staffed s) (hh : s'.handlers = s.handlers)
    (hg : .uvc ∈ s.handlers ∨ s'.gadgets = s.gadgets)
    (hc : .capture ∈ s.handlers ∨ s'.captures = s.captures) : Staffed s' := by
  cases h with
  | none hh₀ hg₀ hc₀ =>
      rw [hh₀] at hg hc
      exact .none (hh.trans hh₀) ((hg.resolve_left (by decide)).trans hg₀)
        ((hc.resolve_left (by decide)).trans hc₀)
  | uvc hh₀ hc₀ =>
      rw [hh₀] at hc
      exact .uvc (hh.trans hh₀) ((hc.resolve_left (by decide)).trans hc₀)
  | capture hh₀ hg₀ =>
      rw [hh₀] at hg
      exact .capture (hh.trans hh₀) ((hg.resolve_left (by decide)).trans hg₀)
  | both hh₀ => exact .both (hh.trans hh₀)

theorem uvcPart_skip {s s₁ : Sys} {m : Message} {r : Int}
    (hm : uvcHandleMessage env s m = .ok (0, s)) (h : uvcPart env s m = .ok (r, s₁)) :
    r = 0 ∧ s₁ = s := by
  unfold uvcPart at h
  split at h
  · rw [hm] at h; cases h; exact ⟨rfl, rfl⟩
  · cases h; exact ⟨rfl, rfl⟩

theorem capturePart_skip {s s₁ : Sys} {m : Message} {r : Int}
    (hm : captureHandleMessage env s m = .ok (0, s)) (h : capturePart env s m = .ok (r, s₁)) :
    s₁ = s := by
  unfold capturePart at h
  split at h
  · rw [hm] at h; cases h; rfl
  · cases h; rfl

/-- A handler that answers `-1` does not claim the message. -/
theorem passed : (if (-1 : Int) = 0 then (1 : Int) else 0) ≠ 1 := by decide

/-- A gadget is attached, or the gadget module passes the message on. -/
theorem uvcPart_attached {s s₁ : Sys} {p : Nat} {name : DevName} {r : Int}
    (h : uvcPart env s (.hotplugAttached p name) = .ok (r, s₁)) :
    (r ≠ 1 ∧ ∃ io, s₁ = { s with io := io } ∧ Elapses (s.io.board b) (io.board b)) ∨
      (r = 1 ∧ .uvc ∈ s.handlers ∧ ∃ g io, s₁ = { s with gadgets := s.gadgets ++ [g], io := io } ∧
        GadgetAttached env b name s.io g io) := by
  unfold uvcPart at h
  split at h
  · next hmem =>
      unfold uvcHandleMessage Message.hotplugAttached at h
      dsimp only at h
      generalize ha : uvcGadgetAttach env s.io s.gadgets name = res at h
      obtain ⟨ret, gadgets, io⟩ := res
      rcases uvcGadgetAttach_spec (b := b) ha with ⟨rfl, rfl, hel⟩ | ⟨rfl, g, rfl, hg⟩
      · cases h; exact .inl ⟨passed, io, rfl, hel⟩
      · cases h; exact .inr ⟨rfl, hmem, g, io, rfl, hg⟩
  · cases h; exact .inl ⟨by decide, s.io, rfl, .refl _⟩

theorem looperDispatch_attached {s s' : Sys} {p : Nat} {name : DevName} {refuses : Prop} (hf : s.Fit)
    (h : looperDispatch env (.hotplugAttached p name) s.handlers s = .ok s') :
    Handles env refuses (s.viewOf b) (.hotplugAttached p name) (s'.viewOf b) ∧ s'.Fit ∧
      s'.phase = s.phase ∧ s'.handlers = s.handlers := by
  obtain ⟨r, s₁, hu, hcase⟩ := looperDispatch_parts hf.staffed h
  rcases uvcPart_attached (b := b) hu with ⟨hr, io, rfl, hel⟩ | ⟨rfl, hmem, g, io, rfl, hg⟩
  · -- the gadgets pass the name on
    obtain ⟨-, r', hc⟩ := hcase.resolve_left (fun h => hr h.1)
    unfold capturePart at hc
    split at hc
    · next hmem =>
        unfold captureHandleMessage Message.hotplugAttached at hc
        dsimp only at hc
        generalize ha : v4lCaptureAttach env io s.captures name = res at hc
        obtain ⟨ret, captures, io₁⟩ := res
        rcases v4lCaptureAttach_spec (b := b) ha with ⟨rfl, rfl, hel₁⟩ | ⟨rfl, c, rfl, hatt⟩
        · cases hc
          exact ⟨.attachFailed (hel.trans hel₁), ⟨hf.gadgets, hf.captures,
            hf.staffed.of_eq rfl (.inr rfl) (.inr rfl)⟩, rfl, rfl⟩
        · cases hc
          refine ⟨?_, ⟨hf.gadgets, ?_, hf.staffed.of_eq rfl (.inr rfl) (.inl hmem)⟩, rfl, rfl⟩
          · have hmap : (s.captures ++ [c]).map Capture.view = s.captures.map Capture.view ++ [c.view] := by
              simp
            unfold Sys.viewOf
            dsimp only
            rw [hmap]
            have hopened : (io.board b).opened = (s.io.board b).opened := hel.opened_eq
            refine .captureAttached hatt.name hatt.off hatt.unpaired hatt.size hatt.frames ?_
              (Nat.le_trans hel.brk_le hatt.addr) hatt.lt ((hel.openFd _).trans hatt.board)
            rw [← hopened]; exact hatt.fresh
          · exact forall_snoc hf.captures hatt.plain
    · cases hc
      exact ⟨.attachFailed hel, ⟨hf.gadgets, hf.captures, hf.staffed.of_eq rfl (.inr rfl) (.inr rfl)⟩,
        rfl, rfl⟩
  · -- a gadget takes it, and the walk over the handlers ends
    obtain ⟨-, rfl⟩ := hcase.resolve_right (fun h => h.1 rfl)
    refine ⟨?_, ⟨?_, hf.captures, hf.staffed.of_eq rfl (.inl hmem) (.inr rfl)⟩, rfl, rfl⟩
    · have hmap : (s.gadgets ++ [g]).map Gadget.view = s.gadgets.map Gadget.view ++ [g.view] := by simp
      unfold Sys.viewOf
      dsimp only
      rw [hmap]
      obtain ⟨w₁, hw, hp⟩ := hg.board
      exact .gadgetAttached hg.name hg.off hg.fmt hg.fresh hg.addr hg.lt hw hp
    · exact forall_snoc hf.gadgets ⟨hg.plain, hg.bulk⟩

theorem looperDispatch_detached {s s' : Sys} {p : Nat} {name : DevName} {refuses : Prop} (hf : s.Fit)
    (h : looperDispatch env (.hotplugDetached p name) s.handlers s = .ok s') :
    Handles env refuses (s.viewOf b) (.hotplugDetached p name) (s'.viewOf b) ∧ s'.Fit ∧
      s'.phase = s.phase ∧ s'.handlers = s.handlers := by
  obtain ⟨r, s₁, hu, hcase⟩ := looperDispatch_parts hf.staffed h
  have hgplain : ∀ g ∈ s.gadgets, g.vdev.Plain := fun g hg => (hf.gadgets g hg).1
  -- the gadget module either removes its first gadget of the name or has none
  have huvc : (r ≠ 1 ∧ s₁ = s ∧ ∀ g ∈ s.gadgets.map Gadget.view, g.name ≠ name) ∨
      (r = 1 ∧ .uvc ∈ s.handlers ∧ ∃ pre g post g' w₁ io,
        SplitsAt (·.vdev.name = name) s.gadgets pre g post ∧
        s₁ = { s with gadgets := pre ++ post, io := io } ∧
        StopsGadget env (s.io.board b) g.view w₁ g' ∧
        Posts env (.uvcDetached g.id) ((w₁.unwatch g.vdev.fd .exception).closeFd g.vdev.fd)
          (io.board b)) := by
    have hviews : (∀ g ∈ s.gadgets, g.vdev.name ≠ name) →
        ∀ g ∈ s.gadgets.map Gadget.view, g.name ≠ name := by
      intro hall v hv
      obtain ⟨g, hg, rfl⟩ := List.mem_map.mp hv
      exact hall g hg
    unfold uvcPart at hu
    split at hu
    · next hmem =>
        unfold uvcHandleMessage Message.hotplugDetached at hu
        obtain ⟨⟨ret, gadgets, io⟩, hd, hu⟩ := bind_eq_ok.mp hu
        rcases uvcGadgetDetach_spec (b := b) hgplain hd with
          ⟨rfl, rfl, rfl, hall⟩ | ⟨rfl, pre, g, post, g', w₁, hs, rfl, hstop, hp⟩
        · cases hu; exact .inl ⟨passed, rfl, hviews hall⟩
        · cases hu; exact .inr ⟨rfl, hmem, pre, g, post, g', w₁, io, hs, rfl, hstop, hp⟩
    · next hmem =>
        cases hu
        refine .inl ⟨by decide, rfl, hviews fun g hg => ?_⟩
        rw [hf.staffed.gadgets_nil hmem] at hg; cases hg
  rcases huvc with ⟨hr, rfl, hnames⟩ | ⟨rfl, hmem, pre, g, post, g', w₁, io, hs, rfl, hstop, hp⟩
  · obtain ⟨-, r', hc⟩ := hcase.resolve_left (fun h => hr h.1)
    have hcviews : (∀ c ∈ s₁.captures, c.vdev.name ≠ name) →
        ∀ c ∈ s₁.captures.map Capture.view, c.name ≠ name := by
      intro hall v hv
      obtain ⟨c, hc, rfl⟩ := List.mem_map.mp hv
      exact hall c hc
    unfold capturePart at hc
    split at hc
    · next hmem =>
        unfold captureHandleMessage Message.hotplugDetached at hc
        obtain ⟨⟨ret, captures, io⟩, hd, hc⟩ := bind_eq_ok.mp hc
        rcases v4lCaptureDetach_spec (b := b) hf.captures hd with
          ⟨rfl, rfl, rfl, hall⟩ | ⟨rfl, pre, c, post, c', w₁, hs, rfl, hstop, hel⟩
        · cases hc
          exact ⟨.detachMissed hnames (hcviews hall), ⟨hf.gadgets, hf.captures,
            hf.staffed.of_eq rfl (.inr rfl) (.inr rfl)⟩, rfl, rfl⟩
        · cases hc
          refine ⟨?_, ⟨hf.gadgets, ?_, hf.staffed.of_eq rfl (.inr rfl) (.inl hmem)⟩, rfl, rfl⟩
          · unfold Sys.viewOf
            rw [List.map_append]
            exact .captureDetached hnames (hs.map Capture.view (fun _ => Iff.rfl)) hstop hel
          · exact forall_erased hs.eq hf.captures
    · next hmem =>
        cases hc
        refine ⟨.detachMissed hnames (hcviews fun c hc => ?_), hf, rfl, rfl⟩
        rw [hf.staffed.captures_nil hmem] at hc; cases hc
  · obtain ⟨-, rfl⟩ := hcase.resolve_right (fun h => h.1 rfl)
    refine ⟨?_, ⟨?_, hf.captures, hf.staffed.of_eq rfl (.inl hmem) (.inr rfl)⟩, rfl, rfl⟩
    · unfold Sys.viewOf
      rw [List.map_append]
      exact .gadgetDetached (hs.map Gadget.view (fun _ => Iff.rfl)) hstop hp
    · exact forall_erased hs.eq hf.gadgets

theorem resolveView_map (captures : List Capture) (p : FramePtr) :
    resolveView (captures.map Capture.view) p = resolveFrame captures p := by
  unfold resolveView resolveFrame
  rw [List.findSome?_map]
  rfl

theorem looperDispatch_frame {s s' : Sys} {id : UInt32} {p : FramePtr} {refuses : Prop} (hf : s.Fit)
    (h : looperDispatch env (.frameAvailable id p) s.handlers s = .ok s') :
    Handles env refuses (s.viewOf b) (.frameAvailable id p) (s'.viewOf b) ∧ s'.Fit ∧
      s'.phase = s.phase ∧ s'.handlers = s.handlers := by
  obtain ⟨r, s₁, hu, hcase⟩ := looperDispatch_parts hf.staffed h
  have hdrop : (∀ pre g post, SplitsAt (·.id = id) s.gadgets pre g post → g.isStreaming = false) →
      ∀ pre g post, SplitsAt (·.id = id) (s.gadgets.map Gadget.view) pre g post → g.streaming = false := by
    intro hall pre g post hs
    obtain ⟨pre', g', post', hs', hg⟩ := hs.of_map (q := (·.id = id)) Gadget.view (fun _ => Iff.rfl)
    rw [← hg]; exact hall pre' g' post' hs'
  unfold uvcPart at hu
  split at hu
  · next hmem =>
      unfold uvcHandleMessage Message.frameAvailable at hu
      obtain ⟨⟨ret, gadgets, io⟩, hd, hu⟩ := bind_eq_ok.mp hu
      rcases uvcGadgetFillBuffer_spec hd with
        ⟨rfl, rfl, rfl, hall⟩ | ⟨rfl, pre, g, post, f, size, img, hs, hon, hres, rfl, rfl⟩
      · cases hu
        obtain ⟨-, r', hc⟩ := hcase.resolve_left (fun h => passed h.1)
        have hs' := capturePart_skip (by rfl) hc
        rw [hs']
        exact ⟨.frameDropped (hdrop hall), hf, rfl, rfl⟩
      · cases hu
        obtain ⟨-, rfl⟩ := hcase.resolve_right (fun h => h.1 rfl)
        have hgadgets : (pre ++ { g with imgdata := img } :: post).map Gadget.view
            = s.gadgets.map Gadget.view := by
          rw [hs.eq, List.map_append, List.map_append, List.map_cons, List.map_cons]
          rfl
        refine ⟨?_, ⟨?_, hf.captures, hf.staffed.of_eq rfl (.inl hmem) (.inr rfl)⟩, rfl, rfl⟩
        · unfold Sys.viewOf
          dsimp only
          rw [hgadgets]
          rw [← resolveView_map] at hres
          exact .frameCopied (hs.map Gadget.view (fun _ => Iff.rfl)) hon hres
        · exact forall_replaced hs.eq hf.gadgets (hf.gadgets g hs.mem)
  · -- without the handler there are no gadgets
    next hmem =>
      cases hu
      obtain ⟨-, r', hc⟩ := hcase.resolve_left (fun h => absurd h.1 (by decide))
      have hs' := capturePart_skip (by rfl) hc
      rw [hs']
      refine ⟨.frameDropped (hdrop fun pre g post hs => ?_), hf, rfl, rfl⟩
      have := hs.mem
      rw [hf.staffed.gadgets_nil hmem] at this; cases this

theorem looperDispatch_setFmt {s s' : Sys} {id : UInt32} {p : Nat} {fmt : PixFormat} (hf : s.Fit)
    (h : looperDispatch env (.setFmt id p fmt) s.handlers s = .ok s') :
    Handles env (SetFmtRefused env s (.setFmt id p fmt)) (s.viewOf b) (.setFmt id p fmt)
        (s'.viewOf b) ∧ s'.Fit ∧ s'.phase = s.phase ∧ s'.handlers = s.handlers := by
  obtain ⟨r, s₁, hu, hcase⟩ := looperDispatch_parts hf.staffed h
  obtain ⟨rfl, rfl⟩ := uvcPart_skip (by rfl) hu
  obtain ⟨-, r', hc⟩ := hcase.resolve_left (fun h => absurd h.1 (by decide))
  unfold capturePart at hc
  split at hc
  · next hmem =>
      unfold captureHandleMessage Message.setFmt at hc
      dsimp only at hc
      generalize hd : v4lCaptureSetFmt env s₁.io s₁.captures id fmt = res at hc
      obtain ⟨ret, captures, io⟩ := res
      obtain ⟨hp, hel, hset⟩ := v4lCaptureSetFmt_spec (b := b) hf.captures hd
      cases hc
      refine ⟨?_, ⟨hf.gadgets, hp, hf.staffed.of_eq rfl (.inr rfl) (.inl hmem)⟩, rfl, rfl⟩
      unfold Sys.viewOf
      dsimp only
      rcases hset with ⟨pre, c, post, hs, heq⟩ | ⟨cs, hrel, ⟨pre, c, post, heq, hfree, heq'⟩ | heq⟩
      · rw [heq]; exact .setFmtHeld hs hel
      · rw [heq']
        exact .setFmtPaired (hrel.mono fun hr => ⟨id, p, fmt, rfl, hr⟩) heq hfree hel
      · rw [heq]
        exact .setFmtUnpaired (hrel.mono fun hr => ⟨id, p, fmt, rfl, hr⟩) hel
  · -- without the handler there are no captures
    next hmem =>
      cases hc
      have hnil := hf.staffed.captures_nil hmem
      refine ⟨?_, hf, rfl, rfl⟩
      unfold Sys.viewOf
      rw [hnil]
      exact .setFmtUnpaired (.none fun c hc => by cases hc) (.refl _)

/-- The messages that switch the stream of a gadget's capture. -/
theorem looperDispatch_stream {s s' : Sys} {id : UInt32} (on : Bool) {refuses : Prop} (hf : s.Fit)
    (h : looperDispatch env (if on then .streamOn id else .streamOff id) s.handlers s = .ok s') :
    Handles env refuses (s.viewOf b) (if on then .streamOn id else .streamOff id)
        (s'.viewOf b) ∧ s'.Fit ∧ s'.phase = s.phase ∧ s'.handlers = s.handlers := by
  obtain ⟨r, s₁, hu, hcase⟩ := looperDispatch_parts hf.staffed h
  obtain ⟨rfl, rfl⟩ := uvcPart_skip (by cases on <;> rfl) hu
  obtain ⟨-, r', hc⟩ := hcase.resolve_left (fun h => absurd h.1 (by decide))
  have hmissed : (∀ c ∈ s₁.captures, c.gadgetId ≠ id) →
      Handles env refuses (s₁.viewOf b) (if on then .streamOn id else .streamOff id)
        (s₁.viewOf b) := by
    intro hall
    have hviews : ∀ c ∈ s₁.captures.map Capture.view, c.gadgetId ≠ id := by
      intro v hv
      obtain ⟨c, hc, rfl⟩ := List.mem_map.mp hv
      exact hall c hc
    cases on with
    | true => exact .streamOnMissed hviews
    | false => exact .streamOffMissed hviews
  unfold capturePart at hc
  split at hc
  · next hmem =>
      have hc' : (v4lCaptureStream env s₁.io s₁.captures id on >>= fun x =>
          Except.ok ((0 : Int), { s₁ with captures := x.2.1, io := x.2.2 })) = .ok (r', s') := by
        cases on <;> exact hc
      obtain ⟨⟨ret, captures, io⟩, hd, hc⟩ := bind_eq_ok.mp hc'
      cases hc
      rcases v4lCaptureStream_spec (b := b) hf.captures hd with
        ⟨rfl, rfl, hall⟩ | ⟨pre, c, post, c', hs, rfl, hp, hstart, hstop⟩
      · exact ⟨hmissed hall, ⟨hf.gadgets, hf.captures, hf.staffed.of_eq rfl (.inr rfl) (.inr rfl)⟩, rfl, rfl⟩
      · refine ⟨?_, ⟨hf.gadgets, hp, hf.staffed.of_eq rfl (.inr rfl) (.inl hmem)⟩, rfl, rfl⟩
        have hsv := hs.map (q := (·.gadgetId = id)) Capture.view (fun _ => Iff.rfl)
        unfold Sys.viewOf
        rw [List.map_append, List.map_cons]
        cases on with
        | true => exact .streamOn hsv (hstart rfl)
        | false => exact .streamOff hsv (hstop rfl)
  · -- without the handler there are no captures
    next hmem =>
      cases hc
      refine ⟨hmissed fun c hc => ?_, hf, rfl, rfl⟩
      rw [hf.staffed.captures_nil hmem] at hc; cases hc

theorem looperDispatch_uvcDetached {s s' : Sys} {id : UInt32} {refuses : Prop} (hf : s.Fit)
    (h : looperDispatch env (.uvcDetached id) s.handlers s = .ok s') :
    Handles env refuses (s.viewOf b) (.uvcDetached id) (s'.viewOf b) ∧ s'.Fit ∧
      s'.phase = s.phase ∧ s'.handlers = s.handlers := by
  obtain ⟨r, s₁, hu, hcase⟩ := looperDispatch_parts hf.staffed h
  obtain ⟨rfl, rfl⟩ := uvcPart_skip (by rfl) hu
  obtain ⟨-, r', hc⟩ := hcase.resolve_left (fun h => absurd h.1 (by decide))
  have hmissed : (∀ c ∈ s₁.captures, c.gadgetId ≠ id) →
      Handles env refuses (s₁.viewOf b) (.uvcDetached id) (s₁.viewOf b) := by
    intro hall
    refine .uvcDetachedMissed fun v hv => ?_
    obtain ⟨c, hc, rfl⟩ := List.mem_map.mp hv
    exact hall c hc
  unfold capturePart at hc
  split at hc
  · next hmem =>
      unfold captureHandleMessage Message.uvcDetached at hc
      obtain ⟨⟨ret, captures, io⟩, hd, hc⟩ := bind_eq_ok.mp hc
      cases hc
      rcases v4lCaptureDetachGadget_spec (b := b) hf.captures hd with
        ⟨rfl, rfl, hall⟩ | ⟨pre, c, post, c', hs, rfl, hp, hstop⟩
      · exact ⟨hmissed hall, ⟨hf.gadgets, hf.captures, hf.staffed.of_eq rfl (.inr rfl) (.inr rfl)⟩, rfl, rfl⟩
      · refine ⟨?_, ⟨hf.gadgets, hp, hf.staffed.of_eq rfl (.inr rfl) (.inl hmem)⟩, rfl, rfl⟩
        unfold Sys.viewOf
        have hview : ({ c' with gadgetId := 0 } : Capture).view = { c'.view with gadgetId := 0 } := rfl
        rw [List.map_append, List.map_cons, hview]
        exact .uvcDetached (hs.map (q := (·.gadgetId = id)) Capture.view (fun _ => Iff.rfl)) hstop
  · -- without the handler there are no captures
    next hmem =>
      cases hc
      refine ⟨hmissed fun c hc => ?_, hf, rfl, rfl⟩
      rw [hf.staffed.captures_nil hmem] at hc; cases hc

/-- Neither module looks at the message. -/
theorem looperDispatch_ignored {s s' : Sys} {m : Message} (hf : s.Fit)
    (hu : uvcHandleMessage env s m = .ok (0, s)) (hc : captureHandleMessage env s m = .ok (0, s))
    (h : looperDispatch env m s.handlers s = .ok s') : s' = s := by
  obtain ⟨r, s₁, hu', hcase⟩ := looperDispatch_parts hf.staffed h
  obtain ⟨rfl, rfl⟩ := uvcPart_skip hu hu'
  obtain ⟨-, r', hc'⟩ := hcase.resolve_left (fun h => absurd h.1 (by decide))
  exact capturePart_skip hc hc'

/-- **One turn of the loop of `looper_process` refines `Handles`.** -/
theorem looperHandle_handles {s s' : Sys} {m : Message} (hf : s.Fit) (hm : Sendable m)
    (h : looperHandle env s m = .ok s') :
    Handles env (SetFmtRefused env s m) (s.viewOf b) m (s'.viewOf b) ∧ s'.Fit ∧
      s'.phase = s.phase ∧ s'.handlers = s.handlers := by
  unfold looperHandle at h
  obtain ⟨s₁, hd, hend⟩ := bind_eq_ok.mp h
  clear h
  -- freeing the payload shows nowhere in the view
  have hfree : ∀ {s₂ : Sys} (p : Nat), s₂.viewOf b = { s₂ with io := s₂.io.free p }.viewOf b :=
    fun _ => rfl
  have hfit : ∀ {s₂ : Sys} (p : Nat), s₂.Fit → ({ s₂ with io := s₂.io.free p } : Sys).Fit :=
    fun _ hf => ⟨hf.gadgets, hf.captures, hf.staffed.of_eq rfl (.inr rfl) (.inr rfl)⟩
  cases hm with
  | signal n =>
      have hs := looperDispatch_ignored hf (by rfl) (by rfl) hd
      subst hs
      cases hend
      exact ⟨.signal, ⟨hf.gadgets, hf.captures, hf.staffed.of_eq rfl (.inr rfl) (.inr rfl)⟩, rfl, rfl⟩
  | hotplugAttached p name =>
      obtain ⟨h₁, h₂, h₃, h₄⟩ := looperDispatch_attached (b := b) hf hd
      cases hend
      exact ⟨(hfree p) ▸ h₁, hfit p h₂, h₃, h₄⟩
  | hotplugDetached p name =>
      obtain ⟨h₁, h₂, h₃, h₄⟩ := looperDispatch_detached (b := b) hf hd
      cases hend
      exact ⟨(hfree p) ▸ h₁, hfit p h₂, h₃, h₄⟩
  | setFmt id p fmt =>
      obtain ⟨h₁, h₂, h₃, h₄⟩ := looperDispatch_setFmt (b := b) hf hd
      cases hend
      exact ⟨(hfree p) ▸ h₁, hfit p h₂, h₃, h₄⟩
  | streamOn id =>
      obtain ⟨h₁, h₂, h₃, h₄⟩ := looperDispatch_stream (b := b) true hf hd
      cases hend
      exact ⟨h₁, h₂, h₃, h₄⟩
  | streamOff id =>
      obtain ⟨h₁, h₂, h₃, h₄⟩ := looperDispatch_stream (b := b) false hf hd
      cases hend
      exact ⟨h₁, h₂, h₃, h₄⟩
  | frameAvailable id p =>
      obtain ⟨h₁, h₂, h₃, h₄⟩ := looperDispatch_frame (b := b) hf hd
      cases hend
      exact ⟨h₁, h₂, h₃, h₄⟩
  | uvcAttached id =>
      have hs := looperDispatch_ignored hf (by rfl) (by rfl) hd
      subst hs
      cases hend
      exact ⟨.uvcAttached, hf, rfl, rfl⟩
  | uvcDetached id =>
      obtain ⟨h₁, h₂, h₃, h₄⟩ := looperDispatch_uvcDetached (b := b) hf hd
      cases hend
      exact ⟨h₁, h₂, h₃, h₄⟩

end Uvcd
