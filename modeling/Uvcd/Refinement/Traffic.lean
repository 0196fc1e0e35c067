import Uvcd.Refinement.Steps

/-!
# `Refinement.Traffic` — the moves that matter to the messages

Between the objects and the queue only four things happen (`Traffic`): signals and hotplug notes join the
queue, a gadget runs its callback, a capture runs its callback, or the oldest message is handled. The
invariants that relate captures, gadgets and pending messages are proved by cases on it.
-/

namespace Uvcd

open Machine Split

/-- Messages that concern no object attached. -/
inductive Neutral : Message → Prop
  | signal (n : UInt32) : Neutral (.signal n)
  | hotplug {m : Message} (h : Hotplugged m) : Neutral m

/-- **What a step does to objects and messages.** -/
inductive Traffic (env : Env) (s s' : Sys) : Action → Prop
  | quiet {a : Action} (hg : s'.view.gadgets = s.view.gadgets) (hc : s'.view.captures = s.view.captures)
      (hq : Extends Neutral s.view.board s'.view.board) (hbrk : s.view.board.brk ≤ s'.view.board.brk) :
      Traffic env s s' a
  | gadget {fd addr : Nat} {rest : List EventIter} {pre post : List Gadget} {g : Gadget}
      {g' : GadgetView} {w : Board}
      (hat : s.phase = .dispatch (⟨fd, .uvcGadgetProcess, .gadget addr⟩ :: rest))
      (hs : SplitsAt (·.addr = addr) s.gadgets pre g post)
      (hcall : GadgetCalls env (env.dqevent s.io.kernel.tick g.vdev.file) s.view.board g.view w g')
      (hview : s'.view = { s.view with
        board := w, gadgets := pre.map Gadget.view ++ g' :: post.map Gadget.view }) :
      Traffic env s s' .next
  | capture {addr : Nat} {pre post : List Capture} {c : Capture} {c' : CaptureView} {w : Board}
      (hs : SplitsAt (·.addr = addr) s.captures pre c post)
      (hcall : CaptureCalls env s.view.board c.view w c')
      (hview : s'.view = { s.view with
        board := w, captures := pre.map Capture.view ++ c' :: post.map Capture.view }) :
      Traffic env s s' .next
  | handle {m : Message} {batch : List Message} {rest : List EventIter}
      (hat : s.phase = .process (m :: batch) rest)
      (hm : Handles env (SetFmtRefused env s m) (s.viewOf batch) m s'.view) : Traffic env s s' .next

variable {env : Env} {s s' : Sys} {a : Action}

theorem Moves.traffic (h : Moves env s s' a) : Traffic env s s' a := by
  -- only the shared state changes
  have hquiet : ∀ {w : Board} {fd : Option Nat}, s'.view = { s.view with board := w, inotifyFd := fd } →
      Extends Neutral s.view.board w → s.view.board.brk ≤ w.brk → Traffic env s s' a := by
    intro w fd hview hq hbrk
    exact .quiet (by rw [hview]) (by rw [hview]) (by rw [hview]; exact hq) (by rw [hview]; exact hbrk)
  have hsame : s'.view = s.view → Traffic env s s' a := fun hview =>
    hquiet (w := s.view.board) hview (.refl _) (Nat.le_refl _)
  cases h with
  | idle _ hview => exact hsame hview
  | dev _ hview =>
      exact hquiet hview ⟨[], by rw [List.append_nil], fun m hm => by cases hm⟩ (Nat.le_refl _)
  | signal _ hp hview => exact hquiet hview (hp.extends (.signal _)) hp.brk_le
  | select _ _ hview => exact hsame hview
  | selectFailed _ _ hview => exact hsame hview
  | unwatched _ _ _ _ he hview => exact hquiet hview he.extends he.brk_le
  | watched _ _ _ _ hw hview =>
      have hbrk := hw.brk_le
      exact hquiet hview ⟨[], by rw [List.append_nil, hw.queue_eq]; rfl, fun m hm => by cases hm⟩ hbrk
  | scanned _ _ hms hp hview => exact hquiet hview (hp.extends fun m hm => .hotplug (hms m hm)) hp.brk_le
  | roundDone _ _ hview => exact hsame hview
  | looper _ _ he hview => exact hquiet hview he.extends he.brk_le
  | hotplug hat hphase hms hp hview hnil =>
      rename_i fd rest records ms w
      have hq : Extends Neutral { s.view.board with records := records } w :=
        hp.extends fun m hm => .hotplug (hms m hm)
      exact hquiet hview hq hp.brk_le
  | gadget hat _ hs hcall hview => exact .gadget hat hs hcall hview
  | video _ _ _ he hview => exact hquiet hview he.extends he.brk_le
  | capture _ _ hs hcall hview => exact .capture hs hcall hview
  | batchDone _ _ hview => exact hsame hview
  | handle hat _ hm => exact .handle hat hm

/-- The message handled was the oldest one pending. -/
theorem Sys.pending_process {m : Message} {batch : List Message} {rest : List EventIter}
    (hat : s.phase = .process (m :: batch) rest) :
    s.view.board.queue = m :: (s.viewOf batch).board.queue := by
  rw [← Sys.pending_eq]
  unfold Sys.pending
  rw [hat]; rfl

end Uvcd
