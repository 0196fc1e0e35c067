import Uvcd.Refinement.Messages

/-!
# `Refinement.Steps` — every step of the daemon is a move of the protocol

`Moves env s s' a` says all that a step with action `a` can do, by what the daemon stands at: one
constructor for each callback, for a handled message and for each turn of the event loop. `step_moves` is
the inversion of `step`; the invariants of `Correctness` are proved by cases on it.
-/

namespace Uvcd

open Machine Split

/-- The invariant the inversion needs of a state that still runs. -/
structure Sys.Alive (s : Sys) : Prop where
  fit : s.Fit
  sendable : ∀ m ∈ s.pending, Sendable m
  fresh : s.phase = .start ∨ s.phase = .inited → s.handlers = [] ∧ s.gadgets = [] ∧ s.captures = []
  unwatched : s.phase = .start → s.inotifyFd = none
  running : s.phase ≠ .finished

/-- Messages about nodes of `/dev`. -/
inductive Hotplugged : Message → Prop
  | attached (p : Nat) (name : DevName) : Hotplugged (.hotplugAttached p name)
  | detached (p : Nat) (name : DevName) : Hotplugged (.hotplugDetached p name)

theorem Hotplugged.sendable {m : Message} (h : Hotplugged m) : Sendable m := by
  cases h with
  | attached p name => exact .hotplugAttached p name
  | detached p name => exact .hotplugDetached p name

/-! ## Changes of `/dev` -/

namespace Board

/-- inotify reports a change of `/dev` once the watch is installed. -/
def report (w : Board) (r : Record) : Board :=
  if w.watching then { w with records := w.records ++ [r] } else w

def plug (w : Board) (name : DevName) : Board :=
  if name ∈ w.nodes then w
  else { w with nodes := w.nodes ++ [name] }.report (nodeRecord IN_CREATE name)

def unplug (w : Board) (name : DevName) : Board :=
  if name ∈ w.nodes then { w with nodes := w.nodes.filter (· ≠ name) }.report (nodeRecord IN_DELETE name)
  else w

end Board

/-- The nodes and the unread records after a change of `/dev`. -/
inductive Changes (w : Board) : Action → List DevName → List Record → Prop
  | plug (name : DevName) : Changes w (.plug name) (w.plug name).nodes (w.plug name).records
  | unplug (name : DevName) : Changes w (.unplug name) (w.unplug name).nodes (w.unplug name).records

theorem board_plug (io : Io) (b : List Message) (name : DevName) :
    ({ io with kernel := io.kernel.plug name }.board b) = { io.board b with
      nodes := ((io.board b).plug name).nodes, records := ((io.board b).plug name).records } := by
  unfold Kernel.plug Kernel.report Board.plug Board.report Io.board
  dsimp only
  split
  · rfl
  · split <;> rfl

theorem board_unplug (io : Io) (b : List Message) (name : DevName) :
    ({ io with kernel := io.kernel.unplug name }.board b) = { io.board b with
      nodes := ((io.board b).unplug name).nodes, records := ((io.board b).unplug name).records } := by
  unfold Kernel.unplug Kernel.report Board.unplug Board.report Io.board
  dsimp only
  split
  · split <;> rfl
  · rfl

/-- Where the daemon goes on after a callback. -/
def Phase.after (done : Bool) (rest : List EventIter) : Phase := if done then .exit else .dispatch rest

/-- **What a step does.** -/
inductive Moves (env : Env) (s s' : Sys) : Action → Prop
  /-- nothing, or nothing the protocol sees -/
  | idle {a : Action} (hphase : s'.phase = s.phase) (hview : s'.view = s.view) : Moves env s s' a
  /-- `/dev` changes -/
  | dev {a : Action} {n : List DevName} {r : List Record} (hphase : s'.phase = s.phase)
      (hview : s'.view = { s.view with board := { s.view.board with nodes := n, records := r } })
      (hdev : Changes s.view.board a n r) : Moves env s s' a
  | signal {n : UInt32} {w : Board} (hphase : s'.phase = s.phase)
      (hp : Posts env (.signal n) s.view.board w) (hview : s'.view = { s.view with board := w }) :
      Moves env s s' (.signal n)
  | select {r : Ready} (hat : s.phase = .select)
      (hphase : s'.phase = .dispatch (snapshot s.io.events (s.io.events.select r)))
      (hview : s'.view = s.view) : Moves env s s' (.select r)
  | selectFailed (hat : s.phase = .select) (hphase : s'.phase = .exit) (hview : s'.view = s.view) :
      Moves env s s' .selectFailed
  /-- `hotplug_init` without inotify -/
  | unwatched {w : Board} (hat : s.phase = .start) (hphase : s'.phase = .inited)
      (hno : ∃ t, env.inotifyInit t = false) (hnone : s.inotifyFd = none) (he : Elapses s.view.board w)
      (hview : s'.view = { s.view with board := w }) : Moves env s s' .next
  | watched {fd : Nat} {w : Board} (hat : s.phase = .start) (hphase : s'.phase = .inited)
      (hnone : s.inotifyFd = none) (hfd : fd ∉ s.view.board.opened)
      (hw : Watches env ⟨fd, .read, .hotplugProcess, .looper⟩
        { s.view.board.openFd fd with watching := true } w)
      (hview : s'.view = { s.view with board := w, inotifyFd := some fd }) : Moves env s s' .next
  /-- the handlers register and `hotplug_scan` runs -/
  | scanned {ms : List Message} {w : Board} (hat : s.phase = .inited) (hphase : s'.phase = .select)
      (hms : ∀ m ∈ ms, Hotplugged m) (hp : PostsAll env ms s.view.board w)
      (hview : s'.view = { s.view with board := w }) : Moves env s s' .next
  | roundDone (hat : s.phase = .dispatch []) (hphase : s'.phase = .select) (hview : s'.view = s.view) :
      Moves env s s' .next
  /-- `looper_process` reads a batch -/
  | looper {fd : Nat} {rest : List EventIter} {w : Board}
      (hat : s.phase = .dispatch (⟨fd, .looperProcess, .looper⟩ :: rest))
      (hphase : s'.phase = .process (s.io.queue.take batchSize) rest) (he : Elapses s.view.board w)
      (hview : s'.view = { s.view with board := w }) : Moves env s s' .next
  | hotplug {fd : Nat} {rest : List EventIter} {records : List Record} {ms : List Message} {w : Board}
      (hat : s.phase = .dispatch (⟨fd, .hotplugProcess, .looper⟩ :: rest))
      (hphase : s'.phase = .after s'.io.events.done rest) (hms : ∀ m ∈ ms, Hotplugged m)
      (hp : PostsAll env ms { s.view.board with records := records } w)
      (hview : s'.view = { s.view with board := w })
      (hnil : s.view.board.records = [] → records = [] ∧ ms = []) : Moves env s s' .next
  | gadget {fd addr : Nat} {rest : List EventIter} {pre post : List Gadget} {g : Gadget} {g' : GadgetView}
      {w : Board} (hat : s.phase = .dispatch (⟨fd, .uvcGadgetProcess, .gadget addr⟩ :: rest))
      (hphase : s'.phase = .after s'.io.events.done rest)
      (hs : SplitsAt (·.addr = addr) s.gadgets pre g post)
      (hcall : GadgetCalls env (env.dqevent s.io.kernel.tick g.vdev.file) s.view.board g.view w g')
      (hview : s'.view = { s.view with
        board := w, gadgets := pre.map Gadget.view ++ g' :: post.map Gadget.view }) :
      Moves env s s' .next
  | video {fd addr : Nat} {rest : List EventIter} {pre post : List Gadget} {g : Gadget} {w : Board}
      (hat : s.phase = .dispatch (⟨fd, .uvcVideoProcess, .gadget addr⟩ :: rest))
      (hphase : s'.phase = .after s'.io.events.done rest)
      (hs : SplitsAt (·.addr = addr) s.gadgets pre g post)
      (he : Elapses s.view.board w) (hview : s'.view = { s.view with board := w }) :
      Moves env s s' .next
  | capture {fd addr : Nat} {rest : List EventIter} {pre post : List Capture} {c : Capture}
      {c' : CaptureView} {w : Board}
      (hat : s.phase = .dispatch (⟨fd, .captureProcess, .capture addr⟩ :: rest))
      (hphase : s'.phase = .after s'.io.events.done rest)
      (hs : SplitsAt (·.addr = addr) s.captures pre c post)
      (hcall : CaptureCalls env s.view.board c.view w c')
      (hview : s'.view = { s.view with
        board := w, captures := pre.map Capture.view ++ c' :: post.map Capture.view }) :
      Moves env s s' .next
  | batchDone {rest : List EventIter} (hat : s.phase = .process [] rest)
      (hphase : s'.phase = .after s'.io.events.done rest) (hview : s'.view = s.view) :
      Moves env s s' .next
  | handle {m : Message} {batch : List Message} {rest : List EventIter}
      (hat : s.phase = .process (m :: batch) rest) (hphase : s'.phase = .process batch rest)
      (hm : Handles env (SetFmtRefused env s m) (s.viewOf batch) m s'.view) : Moves env s s' .next

variable {env : Env} {b : List Message}

theorem Sys.gadgets_view {s : Sys} {p : Gadget → Prop} {pre post : List Gadget} {g : Gadget}
    (h : SplitsAt p s.gadgets pre g post) :
    s.view.gadgets = pre.map Gadget.view ++ g.view :: post.map Gadget.view := by
  show s.gadgets.map Gadget.view = _
  rw [h.eq]; simp

theorem Sys.captures_view {s : Sys} {p : Capture → Prop} {pre post : List Capture} {c : Capture}
    (h : SplitsAt p s.captures pre c post) :
    s.view.captures = pre.map Capture.view ++ c.view :: post.map Capture.view := by
  show s.captures.map Capture.view = _
  rw [h.eq]; simp

/-! ## Hotplug -/

/-- A notification is one send, or none when the name cannot be copied. -/
theorem hotplugSend_posts (env : Env) (what : Nat → DevName → Message) (io : Io) (name : DevName) :
    ∃ ms, (∀ m ∈ ms, ∃ p, m = what p name) ∧
      PostsAll env ms (io.board b) ((hotplugSend what env io name).board b) := by
  unfold hotplugSend
  split
  · next io₁ hm => exact ⟨[], fun m hm => (by cases hm), .done (elapses_malloc hm)⟩
  · next p io₁ hm =>
      refine ⟨[what p name], fun m hm => ⟨p, List.mem_singleton.mp hm⟩, ?_⟩
      have hel := elapses_malloc (b := b) hm
      exact .send (hel.posts (posts_post env { io₁ with allocs := io₁.allocs ++ [p] } _))
        (.done (.refl _))

theorem hotplugAttach_posts (env : Env) (io : Io) (name : DevName) :
    ∃ ms, (∀ m ∈ ms, Hotplugged m) ∧
      PostsAll env ms (io.board b) ((hotplugAttach env io name).board b) := by
  obtain ⟨ms, hms, hp⟩ := hotplugSend_posts (b := b) env .hotplugAttached io name
  refine ⟨ms, fun m hm => ?_, hp⟩
  obtain ⟨p, rfl⟩ := hms m hm
  exact .attached p name

theorem hotplugDetach_posts (env : Env) (io : Io) (name : DevName) :
    ∃ ms, (∀ m ∈ ms, Hotplugged m) ∧
      PostsAll env ms (io.board b) ((hotplugDetach env io name).board b) := by
  obtain ⟨ms, hms, hp⟩ := hotplugSend_posts (b := b) env .hotplugDetached io name
  refine ⟨ms, fun m hm => ?_, hp⟩
  obtain ⟨p, rfl⟩ := hms m hm
  exact .detached p name

theorem hotplugWalk_posts (env : Env) (buffer : List UInt8) (r : Nat) : ∀ (fuel ptr : Nat) (io : Io),
    ∃ ms, (∀ m ∈ ms, Hotplugged m) ∧
      PostsAll env ms (io.board b) ((hotplugWalk env buffer r fuel ptr io).board b) := by
  intro fuel
  induction fuel with
  | zero => intro ptr io; exact ⟨[], fun m hm => (by cases hm), .done (.refl _)⟩
  | succ fuel ih =>
      intro ptr io
      have hnone : ∃ ms, (∀ m ∈ ms, Hotplugged m) ∧ PostsAll env ms (io.board b) (io.board b) :=
        ⟨[], fun m hm => (by cases hm), .done (.refl _)⟩
      -- whatever this record sends, the rest of the buffer comes after it
      have hthen : ∀ {io₁ : Io} (next : Nat), (∃ ms, (∀ m ∈ ms, Hotplugged m) ∧
          PostsAll env ms (io.board b) (io₁.board b)) →
          ∃ ms, (∀ m ∈ ms, Hotplugged m) ∧
            PostsAll env ms (io.board b) ((hotplugWalk env buffer r fuel next io₁).board b) := by
        rintro io₁ next ⟨ms, hms, hp⟩
        obtain ⟨ms', hms', hp'⟩ := ih next io₁
        refine ⟨ms ++ ms', fun m hm => ?_, hp.append hp'⟩
        exact (List.mem_append.mp hm).elim (hms m) (hms' m)
      rw [hotplugWalk]
      split
      · dsimp only
        split
        · exact hthen _ hnone
        · refine hthen _ ?_
          split
          · split
            · exact hotplugAttach_posts env io _
            · split
              · exact hotplugDetach_posts env io _
              · exact hnone
          · exact hnone
      · exact hnone

theorem scanNames_posts (env : Env) : ∀ (names : List DevName) (io : Io),
    ∃ ms, (∀ m ∈ ms, Hotplugged m) ∧
      PostsAll env ms (io.board b) ((scanNames env names io).board b) := by
  intro names
  induction names with
  | nil => intro io; exact ⟨[], fun m hm => (by cases hm), .done (.refl _)⟩
  | cons name names ih =>
      intro io
      rw [scanNames]
      split
      · obtain ⟨ms, hms, hp⟩ := hotplugAttach_posts (b := b) env io name
        obtain ⟨ms', hms', hp'⟩ := ih (hotplugAttach env io name)
        refine ⟨ms ++ ms', fun m hm => ?_, hp.append hp'⟩
        exact (List.mem_append.mp hm).elim (hms m) (hms' m)
      · exact ih io

theorem hotplugScan_posts (env : Env) (io : Io) :
    ∃ ms, (∀ m ∈ ms, Hotplugged m) ∧
      PostsAll env ms (io.board b) ((hotplugScan env io).board b) := by
  unfold hotplugScan
  split
  · obtain ⟨ms, hms, hp⟩ := scanNames_posts (b := b) env io.kernel.nodes io.tick
    exact ⟨ms, hms, hp.elapses (elapses_tick io)⟩
  · exact ⟨[], fun m hm => (by cases hm), .done (elapses_tick io)⟩

theorem hotplugProcess_posts (env : Env) (io : Io) :
    ∃ records ms, (∀ m ∈ ms, Hotplugged m) ∧
      PostsAll env ms { io.board b with records := records }
        ((hotplugProcess env io).board b) ∧
      (io.kernel.records = [] → records = [] ∧ ms = []) := by
  unfold hotplugProcess
  have hempty : io.kernel.records = [] → readRecords hotplugBufferSize io.kernel.records = ([], []) := by
    intro h
    rw [h, readRecords]
  generalize readRecords hotplugBufferSize io.kernel.records = r at hempty ⊢
  obtain ⟨bytes, records⟩ := r
  dsimp only
  have hel : Elapses { io.board b with records := records }
      ({ io with kernel := { io.kernel.ask with records := records } }.board b) :=
    .mk (Nat.le_refl _) (Nat.le_succ _)
  split
  · refine ⟨records, [], fun m hm => (by cases hm), .done hel, fun h => ?_⟩
    cases hempty h; exact ⟨rfl, rfl⟩
  · next hlen =>
      obtain ⟨ms, hms, hp⟩ := hotplugWalk_posts (b := b) env
        (bytes ++ env.stale io.kernel.tick) bytes.length bytes.length 0
        { io with kernel := { io.kernel.ask with records := records } }
      refine ⟨records, ms, hms, hp.elapses hel, fun h => ?_⟩
      cases hempty h
      exact absurd rfl hlen

/-! ## Inversion of a step -/

theorem Sys.Alive.of_extends {s s' : Sys} (hf : s'.Fit) (hs : s.Alive)
    (hext : Extends Sendable s.view.board s'.view.board)
    (hphase : s'.phase ≠ .start ∧ s'.phase ≠ .inited ∧ s'.phase ≠ .finished) : s'.Alive := by
  refine ⟨hf, ?_, fun h => h.elim (fun h => absurd h hphase.1) (fun h => absurd h hphase.2.1),
    fun h => absurd h hphase.1, hphase.2.2⟩
  rw [Sys.pending_eq]
  exact hext.forall (by rw [← Sys.pending_eq]; exact hs.sendable)

theorem Sys.view_eq {s : Sys} {b : List Message} (h : s.phase.batch = b) :
    s.view = s.viewOf b := by
  unfold Sys.view; rw [h]

theorem Phase.after_batch (done : Bool) (rest : List EventIter) : (Phase.after done rest).batch = [] := by
  cases done <;> rfl

theorem Phase.after_running (done : Bool) (rest : List EventIter) :
    Phase.after done rest ≠ .start ∧ Phase.after done rest ≠ .inited ∧
      Phase.after done rest ≠ .finished := by
  cases done <;> simp [Phase.after]

/-- Running a callback on the gadget it was registered for. -/
theorem onGadget_ok {s s' : Sys} {addr : Nat} {f : Io → Gadget → Except Fault (Gadget × Io)}
    (h : onGadget s addr f = .ok s') :
    ∃ pre g post g' io, SplitsAt (·.addr = addr) s.gadgets pre g post ∧ f s.io g = .ok (g', io) ∧
      s' = { s with gadgets := pre ++ g' :: post, io := io } := by
  unfold onGadget at h
  split at h
  · cases h
  · next pre g post hs =>
      obtain ⟨⟨g', io⟩, hf, h⟩ := bind_eq_ok.mp h
      cases h
      exact ⟨pre, g, post, g', io, splitFirst_decide.mp hs, hf, rfl⟩

theorem onCapture_ok {s s' : Sys} {addr : Nat} {f : Io → Capture → Except Fault (Capture × Io)}
    (h : onCapture s addr f = .ok s') :
    ∃ pre c post c' io, SplitsAt (·.addr = addr) s.captures pre c post ∧ f s.io c = .ok (c', io) ∧
      s' = { s with captures := pre ++ c' :: post, io := io } := by
  unfold onCapture at h
  split at h
  · cases h
  · next pre c post hs =>
      obtain ⟨⟨c', io⟩, hf, h⟩ := bind_eq_ok.mp h
      cases h
      exact ⟨pre, c, post, c', io, splitFirst_decide.mp hs, hf, rfl⟩

theorem Staffed.replace {s s' : Sys} (h : Staffed s) (hh : s'.handlers = s.handlers)
    (hg : s.gadgets = [] → s'.gadgets = []) (hc : s.captures = [] → s'.captures = []) : Staffed s' := by
  cases h with
  | none hh₀ hg₀ hc₀ => exact .none (hh.trans hh₀) (hg hg₀) (hc hc₀)
  | uvc hh₀ hc₀ => exact .uvc (hh.trans hh₀) (hc hc₀)
  | capture hh₀ hg₀ => exact .capture (hh.trans hh₀) (hg hg₀)
  | both hh₀ => exact .both (hh.trans hh₀)

/-- **A callback refines its move.** -/
theorem invoke_moves {s s' : Sys} {t : EventIter} {rest : List EventIter} (hs : s.Alive)
    (hat : s.phase = .dispatch (t :: rest)) (h : invoke env s t rest = .ok s') :
    s'.Alive ∧ Moves env s s' .next := by
  have hv : s.view = s.viewOf [] := s.view_eq (by rw [hat]; rfl)
  -- a callback leaves the daemon between two callbacks
  have hfinish : ∀ {s₁ : Sys} {w : Board}, s₁.Fit → s₁.io.board [] = w →
      Extends Sendable s.view.board w → (afterCall s₁ rest).Alive := by
    intro s₁ w hf hw hext
    refine Sys.Alive.of_extends (s := s) ⟨hf.gadgets, hf.captures, hf.staffed.replace rfl id id⟩ hs ?_
      (Phase.after_running _ _)
    rw [(afterCall s₁ rest).view_eq (Phase.after_batch _ _)]
    rw [← hw] at hext
    exact hext
  obtain ⟨fd, callback, priv⟩ := t
  unfold invoke at h
  split at h
  · next hcb hpr =>
      dsimp only at hcb hpr
      subst hcb hpr
      cases h
      have hview : ({ s with
          io := { s.io.tick with queue := s.io.queue.drop batchSize }
          phase := .process (s.io.queue.take batchSize) rest } : Sys).view
          = { s.view with board := { s.view.board with tick := s.io.kernel.tick + 1 } } := by
        rw [hv]
        simp only [Sys.view, Sys.viewOf, Phase.batch, Io.board, List.take_append_drop, List.nil_append]
        rfl
      have hel : Elapses s.view.board { s.view.board with tick := s.io.kernel.tick + 1 } := by
        rw [hv]; exact .mk (Nat.le_refl _) (Nat.le_succ _)
      refine ⟨?_, .looper hat rfl hel hview⟩
      refine Sys.Alive.of_extends ⟨hs.fit.gadgets, hs.fit.captures, hs.fit.staffed.replace rfl id id⟩ hs
        ?_ ⟨by simp, by simp, by simp⟩
      rw [hview]
      exact hel.extends
  · next hcb hpr =>
      dsimp only at hcb hpr
      subst hcb hpr
      cases h
      obtain ⟨records, ms, hms, hp, hnil⟩ := hotplugProcess_posts (b := []) env s.io
      have hext : Extends Sendable s.view.board ((hotplugProcess env s.io).board []) := by
        rw [hv]
        have hsend : ∀ m ∈ ms, Sendable m := fun m hm => (hms m hm).sendable
        exact (show Extends Sendable { s.io.board [] with records := records } _ from hp.extends hsend)
      refine ⟨hfinish (show ({ s with io := hotplugProcess env s.io } : Sys).Fit from
        ⟨hs.fit.gadgets, hs.fit.captures, hs.fit.staffed.replace rfl id id⟩) rfl hext, ?_⟩
      have hp' : PostsAll env ms { s.view.board with records := records }
          ((hotplugProcess env s.io).board []) := by rw [hv]; exact hp
      refine .hotplug hat rfl hms hp' ?_ hnil
      rw [hv]; exact Sys.view_eq (Phase.after_batch _ _)
  · next addr hcb hpr =>
      dsimp only at hcb hpr
      subst hcb hpr
      obtain ⟨s₁, hon, h⟩ := bind_eq_ok.mp h
      obtain ⟨pre, g, post, g', io, hsp, hf, rfl⟩ := onGadget_ok hon
      cases h
      obtain ⟨hp, hb⟩ := hs.fit.gadgets g hsp.mem
      obtain ⟨hcall, hu, hb'⟩ := uvcGadgetProcess_calls (b := []) hp hb hf
      have hext := hcall.extends.mono fun _ => Reports.sendable
      have hfit : ({ s with gadgets := pre ++ g' :: post, io := io } : Sys).Fit :=
        ⟨forall_replaced hsp.eq hs.fit.gadgets ⟨hu.plain, hb'⟩, hs.fit.captures,
          hs.fit.staffed.replace rfl (fun h => by rw [hsp.eq] at h; simp at h) id⟩
      refine ⟨hfinish hfit rfl (by rw [hv]; exact hext), ?_⟩
      refine .gadget hat rfl hsp (by rw [hv]; exact hcall) ?_
      rw [hv, Sys.view_eq (Phase.after_batch _ _)]
      simp only [Sys.viewOf, afterCall, List.map_append, List.map_cons]
  · next addr hcb hpr =>
      dsimp only at hcb hpr
      subst hcb hpr
      obtain ⟨s₁, hon, h⟩ := bind_eq_ok.mp h
      obtain ⟨pre, g, post, g', io, hsp, hf, rfl⟩ := onGadget_ok hon
      cases h
      obtain ⟨hp, hb⟩ := hs.fit.gadgets g hsp.mem
      obtain ⟨⟨d, hg'⟩, ⟨k, hio⟩, hst⟩ := uvcVideoProcess_spec hp hf
      have hsame : g.vdev.Same d := by
        rw [hg'] at hst
        exact hst.same
      have hview : g'.view = g.view := by
        rw [hg']
        simp only [Gadget.view, hsame.fd, hsame.name]
      have hel : Elapses (s.io.board []) (io.board []) := by
        rw [hio] at hst ⊢
        exact elapses_kernel hst.keeps
      have hfit : ({ s with gadgets := pre ++ g' :: post, io := io } : Sys).Fit :=
        ⟨forall_replaced hsp.eq hs.fit.gadgets ⟨hst.plain, by rw [hg']; exact hb⟩, hs.fit.captures,
          hs.fit.staffed.replace rfl (fun h => by rw [hsp.eq] at h; simp at h) id⟩
      refine ⟨hfinish hfit rfl (by rw [hv]; exact hel.extends), ?_⟩
      refine .video hat rfl hsp (by rw [hv]; exact hel) ?_
      rw [hv, Sys.view_eq (Phase.after_batch _ _)]
      simp only [Sys.viewOf, afterCall, hsp.eq, List.map_append, List.map_cons, hview]
  · next addr hcb hpr =>
      dsimp only at hcb hpr
      subst hcb hpr
      obtain ⟨s₁, hon, h⟩ := bind_eq_ok.mp h
      obtain ⟨pre, c, post, c', io, hsp, hf, rfl⟩ := onCapture_ok hon
      cases h
      obtain ⟨hcall, hst⟩ := captureProcess_calls (b := []) (hs.fit.captures c hsp.mem) hf
      have hfit : ({ s with captures := pre ++ c' :: post, io := io } : Sys).Fit :=
        ⟨hs.fit.gadgets, AllPlain.replace (hsp.eq ▸ hs.fit.captures) hst.plain,
          hs.fit.staffed.replace rfl id (fun h => by rw [hsp.eq] at h; simp at h)⟩
      refine ⟨hfinish hfit rfl (by rw [hv]; exact hcall.extends), ?_⟩
      refine .capture hat rfl hsp (by rw [hv]; exact hcall) ?_
      rw [hv, Sys.view_eq (Phase.after_batch _ _)]
      simp only [Sys.viewOf, afterCall, List.map_append, List.map_cons]
  · cases h

/-! ## Start-up -/

theorem hotplugInit_moves {s : Sys} (hs : s.Alive) (hat : s.phase = .start) :
    ({ s with
      io := (hotplugInit env s.io).2
      inotifyFd := (hotplugInit env s.io).1
      phase := .inited } : Sys).Alive ∧
    Moves env s { s with
      io := (hotplugInit env s.io).2
      inotifyFd := (hotplugInit env s.io).1
      phase := .inited } .next := by
  have hv : s.view = s.viewOf [] := s.view_eq (by rw [hat]; rfl)
  have hfresh := hs.fresh (.inl hat)
  have halive : ∀ {io : Io} {fd : Option Nat}, io.queue = s.io.queue →
      ({ s with io := io, inotifyFd := fd, phase := .inited } : Sys).Alive := by
    intro io fd hq
    refine ⟨⟨hs.fit.gadgets, hs.fit.captures, hs.fit.staffed.replace rfl id id⟩, ?_, fun _ => hfresh,
      fun h => (by cases h), by simp⟩
    have hsend := hs.sendable
    unfold Sys.pending at hsend ⊢
    rw [hat] at hsend
    dsimp only at hsend ⊢
    rw [hq]; exact hsend
  unfold hotplugInit
  split
  · have hw := watches_watch (b := []) env
      { s.io with kernel := { s.io.kernel.openFd.2 with watching := true } } s.io.kernel.openFd.1 .read
      .hotplugProcess .looper
    refine ⟨halive ?_, ?_⟩
    · have hq := hw.queue_eq
      exact hq
    · refine .watched hat rfl (hs.unwatched hat) (by rw [hv]; exact lowestFree_not_mem _) ?_
        (by rw [hv]; rfl)
      rw [hv]
      exact (show Elapses { (s.viewOf []).board.openFd s.io.kernel.openFd.1 with watching := true }
        (Io.board [] { s.io with kernel := { s.io.kernel.openFd.2 with watching := true } })
        from .mk (Nat.le_refl _) (Nat.le_succ _)).watches hw
  · next hno =>
      have hnone := hs.unwatched hat
      refine ⟨halive rfl, .unwatched hat rfl ⟨s.io.kernel.tick, by simpa using hno⟩ hnone
        (w := s.io.tick.board []) ?_ ?_⟩
      · rw [hv]; exact elapses_tick s.io
      · rw [hv]
        show _ = ({ s.viewOf [] with board := s.io.tick.board [] } : View)
        simp only [Sys.viewOf, hnone]
        rfl

/-- The two registrations, either of which may run out of memory. -/
theorem looperRegisterHandler_spec (env : Env) (s : Sys) (h : Handler) :
    ∃ hs, looperRegisterHandler env s h = { s with handlers := hs, io := s.io.tick } ∧
      (hs = s.handlers ∨ hs = s.handlers ++ [h]) := by
  unfold looperRegisterHandler
  split
  · exact ⟨_, rfl, .inr rfl⟩
  · exact ⟨_, rfl, .inl rfl⟩

theorem inited_moves {s s' : Sys} (hs : s.Alive) (hat : s.phase = .inited)
    (h : next env s = .ok s') : s'.Alive ∧ Moves env s s' .next := by
  have hv : s.view = s.viewOf [] := s.view_eq (by rw [hat]; rfl)
  obtain ⟨hh, hg, hc⟩ := hs.fresh (.inr hat)
  unfold next at h
  rw [hat] at h
  dsimp only at h
  obtain ⟨hs₁, heq₁, hcase₁⟩ := looperRegisterHandler_spec env s .uvc
  rw [heq₁] at h
  obtain ⟨hs₂, heq₂, hcase₂⟩ := looperRegisterHandler_spec env
    { s with handlers := hs₁, io := s.io.tick } .capture
  rw [heq₂] at h
  cases h
  obtain ⟨ms, hms, hp⟩ := hotplugScan_posts (b := []) env s.io.tick.tick
  have hp' : PostsAll env ms s.view.board ((hotplugScan env s.io.tick.tick).board []) := by
    rw [hv]
    exact hp.elapses ((elapses_tick s.io).trans (elapses_tick s.io.tick))
  refine ⟨?_, .scanned hat rfl hms hp' (by rw [hv]; rfl)⟩
  refine Sys.Alive.of_extends ⟨hs.fit.gadgets, hs.fit.captures, ?_⟩ hs
    (hp'.extends fun m hm => (hms m hm).sendable) ⟨by simp, by simp, by simp⟩
  rw [hh] at hcase₁
  dsimp only at hcase₂
  rcases hcase₁ with rfl | rfl <;> rcases hcase₂ with rfl | rfl
  · exact .none rfl hg hc
  · exact .capture rfl hg
  · exact .uvc rfl hc
  · exact .both rfl

/-! ## The step -/

theorem batchDone_moves {s : Sys} {rest : List EventIter} (hs : s.Alive)
    (hat : s.phase = .process [] rest) :
    (afterCall s rest).Alive ∧ Moves env s (afterCall s rest) .next := by
  have hv : s.view = s.viewOf [] := s.view_eq (by rw [hat]; rfl)
  have hview : (afterCall s rest).view = s.view := by
    rw [hv, Sys.view_eq (Phase.after_batch _ _)]
    rfl
  refine ⟨?_, .batchDone hat rfl hview⟩
  refine Sys.Alive.of_extends ⟨hs.fit.gadgets, hs.fit.captures, hs.fit.staffed.replace rfl id id⟩ hs
    (by rw [hview]; exact .refl _) (Phase.after_running _ _)

theorem handle_moves {s s' : Sys} {m : Message} {batch : List Message} {rest : List EventIter}
    (hs : s.Alive) (hat : s.phase = .process (m :: batch) rest) (h : looperHandle env s m = .ok s') :
    ({ s' with phase := .process batch rest } : Sys).Alive ∧
      Moves env s { s' with phase := .process batch rest } .next := by
  have hpend : s.pending = m :: (s.viewOf batch).board.queue := by
    unfold Sys.pending; rw [hat]; rfl
  have hsend := hs.sendable
  rw [hpend] at hsend
  obtain ⟨hm, hfit, -, -⟩ := looperHandle_handles (b := batch) hs.fit
    (hsend m List.mem_cons_self) h
  refine ⟨⟨⟨hfit.gadgets, hfit.captures, hfit.staffed.replace rfl id id⟩, ?_, ?_,
    fun h => (by cases h), by simp⟩, .handle hat rfl hm⟩
  · intro x hx
    refine (hm.extends.mono fun _ => Reports.sendable).forall (fun y hy => hsend y (List.mem_cons_of_mem _ hy)) x ?_
    exact hx
  · rintro (h | h) <;> cases h

/-- `looper_cleanup_handlers` detaches what the handlers have attached. -/
theorem looperCleanupHandlers_empties (env : Env) : ∀ (hs : List Handler) (s : Sys) {s' : Sys},
    (s.gadgets = [] ∨ .uvc ∈ hs) → (s.captures = [] ∨ .capture ∈ hs) →
    looperCleanupHandlers env hs s = .ok s' → s'.gadgets = [] ∧ s'.captures = [] := by
  intro hs
  induction hs with
  | nil =>
      intro s s' hg hc h
      cases h
      simp only [List.not_mem_nil, or_false] at hg hc
      exact ⟨hg, hc⟩
  | cons x hs ih =>
      intro s s' hg hc h
      obtain ⟨⟨r, s₁⟩, hx, h⟩ := bind_eq_ok.mp h
      dsimp only at h
      cases x with
      | uvc =>
          obtain ⟨io, -, heq⟩ := bind_eq_ok.mp hx
          cases heq
          exact ih _ (.inl rfl) (by simpa using hc) h
      | capture =>
          obtain ⟨io, -, heq⟩ := bind_eq_ok.mp hx
          cases heq
          exact ih _ (by simpa using hg) (.inl rfl) h

theorem looperCleanup_empties {s s' : Sys} (hst : Staffed s) (h : looperCleanup env s = .ok s') :
    s'.gadgets = [] ∧ s'.captures = [] := by
  obtain ⟨s₁, hs₁, h⟩ := bind_eq_ok.mp h
  cases h
  show s₁.gadgets = [] ∧ s₁.captures = []
  refine looperCleanupHandlers_empties env s.handlers s ?_ ?_ hs₁
  · cases hst with
    | none _ hg _ => exact .inl hg
    | uvc hh _ => exact .inr (by simp [hh])
    | capture _ hg => exact .inl hg
    | both hh => exact .inr (by simp [hh])
  · cases hst with
    | none _ _ hc => exact .inl hc
    | uvc _ hc => exact .inl hc
    | capture hh _ => exact .inr (by simp [hh])
    | both hh => exact .inr (by simp [hh])

/-- `main` has returned: nothing is attached any more. -/
structure Sys.Over (s : Sys) : Prop where
  phase : s.phase = .finished
  gadgets : s.gadgets = []
  captures : s.captures = []

/-- Nothing happens any more once `main` has returned. -/
theorem Sys.Over.step {s s' : Sys} {a : Action} (hs : s.Over) (h : step env a s = .ok s') : s'.Over := by
  have hat := hs.phase
  cases a with
  | plug name => cases h; exact ⟨hat, hs.gadgets, hs.captures⟩
  | unplug name => cases h; exact ⟨hat, hs.gadgets, hs.captures⟩
  | signal n => cases h; exact ⟨hat, hs.gadgets, hs.captures⟩
  | select r => rw [Uvcd.step, hat] at h; cases h; exact hs
  | selectFailed => rw [Uvcd.step, hat] at h; cases h; exact hs
  | next => rw [Uvcd.step, next, hat] at h; cases h; exact hs

/-- A step that keeps the phase and lets the queue grow keeps the invariant. -/
theorem Sys.Alive.same_phase {s s' : Sys} (hs : s.Alive) (hphase : s'.phase = s.phase)
    (hi : s'.inotifyFd = s.inotifyFd) (hh : s'.handlers = s.handlers) (hg : s'.gadgets = s.gadgets)
    (hc : s'.captures = s.captures)
    (hext : Extends Sendable s.view.board s'.view.board) : s'.Alive := by
  refine ⟨⟨by rw [hg]; exact hs.fit.gadgets, by rw [hc]; exact hs.fit.captures,
    hs.fit.staffed.of_eq hh (.inr hg) (.inr hc)⟩, ?_, ?_, by rw [hphase, hi]; exact hs.unwatched,
    by rw [hphase]; exact hs.running⟩
  · rw [Sys.pending_eq]
    exact hext.forall (by rw [← Sys.pending_eq]; exact hs.sendable)
  · rw [hphase, hh, hg, hc]; exact hs.fresh

/-- **Inversion of `step`.** A step is a move, or the end of `main`. -/
theorem step_moves {s s' : Sys} {a : Action} (hs : s.Alive)
    (h : step env a s = .ok s') :
    (s.phase = .exit ∧ s'.Over) ∨ (s'.Alive ∧ Moves env s s' a) := by
  cases a with
  | plug name =>
      cases h
      have hview := board_plug s.io s.phase.batch name
      refine .inr ⟨hs.same_phase rfl rfl rfl rfl rfl ?_, .dev rfl ?_ (.plug name)⟩
      · exact ⟨[], by rw [List.append_nil]; rfl, fun m hm => by cases hm⟩
      · exact congrArg (fun w => { s.view with board := w }) hview
  | unplug name =>
      cases h
      have hview := board_unplug s.io s.phase.batch name
      refine .inr ⟨hs.same_phase rfl rfl rfl rfl rfl ?_, .dev rfl ?_ (.unplug name)⟩
      · exact ⟨[], by rw [List.append_nil]; rfl, fun m hm => by cases hm⟩
      · exact congrArg (fun w => { s.view with board := w }) hview
  | signal n =>
      cases h
      have hp := posts_post (b := s.phase.batch) env s.io (.signal n)
      refine .inr ⟨hs.same_phase rfl rfl rfl rfl rfl ?_, .signal rfl hp rfl⟩
      exact (show Extends Sendable (s.io.board s.phase.batch) _ from hp.extends (.signal n))
  | select r =>
      have hkeep : ∀ {s₁ : Sys}, s₁.phase.batch = s.phase.batch → s₁.io = s.io → s₁.gadgets = s.gadgets →
          s₁.captures = s.captures → s₁.pipeFd = s.pipeFd → s₁.ctrlFd = s.ctrlFd →
          s₁.inotifyFd = s.inotifyFd → s₁.view = s.view := by
        intro s₁ hb hio hg hc hpi hct hin
        unfold Sys.view Sys.viewOf
        rw [hb, hio, hg, hc, hpi, hct, hin]
      rw [step] at h
      split at h
      · next hat =>
          cases h
          have hview : ({ s with
              phase := .dispatch (snapshot s.io.events (s.io.events.select r)) } : Sys).view = s.view :=
            hkeep (by rw [hat]; rfl) rfl rfl rfl rfl rfl rfl
          refine .inr ⟨?_, .select hat rfl hview⟩
          exact Sys.Alive.of_extends ⟨hs.fit.gadgets, hs.fit.captures, hs.fit.staffed.replace rfl id id⟩
            hs (by rw [hview]; exact .refl _) ⟨by simp, by simp, by simp⟩
      · cases h; exact .inr ⟨hs, .idle rfl rfl⟩
  | selectFailed =>
      rw [step] at h
      split at h
      · next hat =>
          cases h
          have hview : ({ s with phase := .exit } : Sys).view = s.view := by
            rw [s.view_eq (b := []) (by rw [hat]; rfl)]; rfl
          refine .inr ⟨?_, .selectFailed hat rfl hview⟩
          exact Sys.Alive.of_extends ⟨hs.fit.gadgets, hs.fit.captures, hs.fit.staffed.replace rfl id id⟩
            hs (by rw [hview]; exact .refl _) ⟨by simp, by simp, by simp⟩
      · cases h; exact .inr ⟨hs, .idle rfl rfl⟩
  | next =>
      change next env s = .ok s' at h
      cases hat : s.phase with
      | start =>
          unfold next at h
          rw [hat] at h
          cases h
          exact .inr (hotplugInit_moves hs hat)
      | inited => exact .inr (inited_moves hs hat h)
      | select =>
          unfold next at h
          rw [hat] at h
          cases h
          exact .inr ⟨hs, .idle rfl rfl⟩
      | dispatch iter =>
          unfold next at h
          rw [hat] at h
          cases iter with
          | nil =>
              cases h
              have hview : ({ s with phase := .select } : Sys).view = s.view := by
                rw [s.view_eq (b := []) (by rw [hat]; rfl)]; rfl
              refine .inr ⟨?_, .roundDone hat rfl hview⟩
              exact Sys.Alive.of_extends
                ⟨hs.fit.gadgets, hs.fit.captures, hs.fit.staffed.replace rfl id id⟩
                hs (by rw [hview]; exact .refl _) ⟨by simp, by simp, by simp⟩
          | cons t rest => exact .inr (invoke_moves hs hat h)
      | process batch rest =>
          unfold next at h
          rw [hat] at h
          cases batch with
          | nil => cases h; exact .inr (batchDone_moves hs hat)
          | cons m batch =>
              obtain ⟨s₁, hm, h⟩ := bind_eq_ok.mp h
              cases h
              exact .inr (handle_moves hs hat hm)
      | exit =>
          unfold next at h
          rw [hat] at h
          obtain ⟨s₁, hclean, h⟩ := bind_eq_ok.mp h
          cases h
          obtain ⟨hg, hc⟩ := looperCleanup_empties hs.fit.staffed hclean
          exact .inl ⟨rfl, rfl, hg, hc⟩
      | finished => exact absurd hat hs.running

/-! ## Runs -/

theorem boot_pending (env : Env) (nodes : List DevName) (inforce : Nat → PixFormat) :
    (boot env nodes inforce).pending = [] := by
  unfold Sys.pending boot Io.watch
  dsimp only
  split <;> rfl

theorem boot_alive (env : Env) (nodes : List DevName) (inforce : Nat → PixFormat) :
    (boot env nodes inforce).Alive := by
  refine ⟨⟨fun g hg => (by cases hg), fun c hc => (by cases hc), .none rfl rfl rfl⟩, ?_,
    fun _ => ⟨rfl, rfl, rfl⟩, fun _ => rfl, by simp [boot]⟩
  intro m hm
  rw [boot_pending] at hm; cases hm

/-- **The invariant rule for the daemon.** What holds at boot and is kept by every move from a state where
    the side condition holds is true at the end of every run along the side condition, unless `main` has
    returned. -/
theorem run_moves_inv_or {C : Action → Sys → Prop} {I : Sys → Prop}
    (hstep : ∀ a s s', s.Alive → s'.Alive → I s → C a s → Moves env s s' a → I s')
    {nodes : List DevName} {inforce : Nat → PixFormat} (h0 : I (boot env nodes inforce))
    {as : List Action} {s : Sys} (hC : Along (step env) C as (boot env nodes inforce))
    (h : run env as (boot env nodes inforce) = .ok s) : s.Over ∨ (s.Alive ∧ I s) := by
  refine run_inv_along (I := fun s => s.Over ∨ (s.Alive ∧ I s)) ?_
    (.inr ⟨boot_alive env nodes inforce, h0⟩) hC h
  intro a s s' hs hCs hst
  rcases hs with hover | ⟨hal, hI⟩
  · exact .inl (hover.step hst)
  · exact (step_moves hal hst).imp And.right fun ⟨hal', hm⟩ => ⟨hal', hstep a s s' hal hal' hI hCs hm⟩

theorem run_moves_inv {C : Action → Sys → Prop} {I : Sys → Prop}
    (hstep : ∀ a s s', s.Alive → s'.Alive → I s → C a s → Moves env s s' a → I s')
    {nodes : List DevName} {inforce : Nat → PixFormat} (h0 : I (boot env nodes inforce))
    {as : List Action} {s : Sys} (hC : Along (step env) C as (boot env nodes inforce))
    (h : run env as (boot env nodes inforce) = .ok s) (hrun : s.phase ≠ .finished) : s.Alive ∧ I s :=
  (run_moves_inv_or hstep h0 hC h).resolve_left fun hover => hrun hover.phase

end Uvcd
