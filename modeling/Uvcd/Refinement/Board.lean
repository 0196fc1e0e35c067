import Uvcd.Protocol.Board
import Uvcd.Refinement.Devices

/-!
# `Refinement.Board` — time, sends and registrations on `Io`

The primitives the gadget and capture modules are written with, as the relations of `Protocol.View` on
the shared state.
-/

namespace Uvcd

variable {env : Env} {b : List Message}

/-! ## The primitives on `Io` -/

/-- Kernel calls that keep the tables let time elapse. -/
theorem elapses_kernel {i : Io} {k : Kernel} (hk : i.kernel.Keeps k) :
    Elapses (i.board b) ({ i with kernel := k }.board b) := by
  have heq : { i with kernel := k }.board b = { i.board b with brk := i.brk, tick := k.tick } := by
    simp only [Io.board, hk.opened, hk.nodes, hk.records, hk.watching]
  rw [heq]
  exact .mk (Nat.le_refl _) hk.tick

theorem elapses_tick (io : Io) : Elapses (io.board b) (io.tick.board b) :=
  elapses_kernel (Kernel.keeps_ask _)

theorem elapses_malloc {io io' : Io} {r : Option Nat} (h : io.malloc env = (r, io')) :
    Elapses (io.board b) (io'.board b) := by
  unfold Io.malloc at h
  split at h <;> cases h
  · exact .mk (Nat.le_succ _) (Nat.le_succ _)
  · exact elapses_tick io

/-- An allocation that succeeds returns an address no object has. -/
theorem malloc_some {io io' : Io} {addr : Nat} (h : io.malloc env = (some addr, io')) :
    addr = io.brk ∧ io' = { io.tick with brk := io.brk + 1 } := by
  unfold Io.malloc at h
  split at h <;> cases h
  exact ⟨rfl, rfl⟩

theorem post_kernel (env : Env) (io : Io) (m : Message) : (io.post env m).kernel = io.kernel.ask := by
  unfold Io.post looperSendMessage
  split <;> rfl

theorem watch_kernel (env : Env) (io : Io) (fd : Nat) (type : EventType) (callback : Callback)
    (priv : Priv) : (io.watch env fd type callback priv).kernel = io.kernel.ask := by
  unfold Io.watch
  split <;> rfl

theorem malloc_none {io io' : Io} (h : io.malloc env = (none, io')) : io' = io.tick := by
  unfold Io.malloc at h
  split at h <;> cases h
  rfl

theorem posts_post (env : Env) (io : Io) (m : Message) :
    Posts env m (io.board b) ((io.post env m).board b) := by
  refine ⟨io.kernel.tick, ?_⟩
  unfold Io.post looperSendMessage
  cases hw : env.write io.kernel.tick m with
  | false => exact elapses_tick io
  | true =>
      have heq : { io.tick with queue := io.queue ++ [m], sent := io.sent ++ [m] }.board b
          = { (io.board b).post true m with brk := io.brk, tick := io.kernel.tick + 1 } := by
        simp only [Io.board, Board.post, if_true, List.append_assoc]
        rfl
      show Elapses _ ({ io.tick with queue := io.queue ++ [m], sent := io.sent ++ [m] }.board b)
      rw [heq]
      exact .mk (Nat.le_refl _) (Nat.le_succ _)

theorem watches_watch (env : Env) (io : Io) (fd : Nat) (type : EventType) (callback : Callback)
    (priv : Priv) :
    Watches env ⟨fd, type, callback, priv⟩ (io.board b)
      ((io.watch env fd type callback priv).board b) := by
  refine ⟨io.kernel.tick, ?_⟩
  unfold Io.watch
  cases env.malloc io.kernel.tick with
  | false => exact elapses_tick io
  | true => exact .mk (Nat.le_refl _) (Nat.le_succ _)

/-! ## Open and close -/

theorem elapses_opened {io : Io} {name : DevName} {d : Device} {k : Kernel}
    (h : Opened io.kernel name d k) :
    Elapses ((io.board b).openFd d.fd) ({ io with kernel := k }.board b) := by
  have heq : { io with kernel := k }.board b
      = { (io.board b).openFd d.fd with brk := io.brk, tick := k.tick } := by
    simp only [Io.board, Board.openFd, h.opened, h.nodes, h.records, h.watching]
  rw [heq]
  exact .mk (Nat.le_refl _) h.tick

/-- Closing a descriptor just opened leaves what there was before. -/
theorem elapses_close {io io' : Io} {d : Device} (h : Elapses ((io.board b).openFd d.fd) (io'.board b)) :
    Elapses (io.board b) ({ io' with kernel := v4l2Close io'.kernel d }.board b) := by
  have hclose := h.closeFd d.fd
  have hlast : Elapses ((io'.board b).closeFd d.fd)
      ({ io' with kernel := v4l2Close io'.kernel d }.board b) := .mk (Nat.le_refl _) (Nat.le_succ _)
  have hsame : ((io.board b).openFd d.fd).closeFd d.fd = io.board b := by
    simp [Board.openFd, Board.closeFd]
  rw [hsame] at hclose
  exact hclose.trans hlast

end Uvcd
