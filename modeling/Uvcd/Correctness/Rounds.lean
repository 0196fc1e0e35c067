import Uvcd.Correctness.Dispatch
import Uvcd.Correctness.Frames
import Uvcd.Protocol.Rounds

/-!
# `Correctness.Rounds` — frames and the rounds of the event loop

The looper's watch is registered first and a round calls at most ten callbacks, so the messages of one
round are all handled before any callback of the next posts another one (`Paced`). `frames_in_rounds`
draws from this what becomes of every frame, where the ids of the gadgets tell them apart;
`twin_gadget` is a run in which they do not.
-/

namespace Uvcd

open Machine Split

variable {env : Env}

/-! ## The first watch -/

/-- The watch list begins with `e`. -/
def Leads (e : EventFd) (w : Board) : Prop := ∃ rest, w.events.events = e :: rest

section Leads

variable {w w' : Board} {g g' : GadgetView} {c c' : CaptureView} {ev : Except Errno UvcEvent}
  {e : EventFd}

theorem Leads.of_eq (h : Leads e w) (hev : w'.events.events = w.events.events) : Leads e w' := by
  obtain ⟨rest, hrest⟩ := h
  exact ⟨rest, hev.trans hrest⟩

theorem Elapses.leads (h : Elapses w w') (hl : Leads e w) : Leads e w' :=
  hl.of_eq (by rw [h.events_eq])

theorem Posts.events_eq {m : Message} (h : Posts env m w w') : w'.events = w.events := by
  obtain ⟨t, ht⟩ := h
  rw [ht.events_eq]
  unfold Board.post
  split <;> rfl

theorem PostsAll.events_eq {ms : List Message} (h : PostsAll env ms w w') : w'.events = w.events := by
  induction h with
  | done he => exact he.events_eq
  | send hp _ ih => exact ih.trans hp.events_eq

theorem Watches.leads {x : EventFd} (h : Watches env x w w') (hl : Leads e w) : Leads e w' := by
  obtain ⟨t, ht⟩ := h
  refine ht.leads ?_
  unfold Board.watch
  split
  · obtain ⟨rest, hrest⟩ := hl
    refine ⟨rest ++ [x], ?_⟩
    rw [eventsWatchFd_events, hrest]
    rfl
  · exact hl

theorem Leads.unwatch {fd : Nat} {type : EventType} (hl : Leads e w) (hne : e.fd ≠ fd) :
    Leads e (w.unwatch fd type) := by
  obtain ⟨rest, hrest⟩ := hl
  unfold Leads Board.unwatch eventsUnwatchFd
  split
  · dsimp only
    rw [hrest]
    exact removeLastHit_cons (by simp [EventFd.hits, hne])
  · exact ⟨rest, hrest⟩

theorem StopsGadget.leads (h : StopsGadget env w g w' g') (hl : Leads e w) (hne : e.fd ≠ g.fd) :
    Leads e w' := by
  cases h with
  | idle _ he => exact he.leads hl
  | stop _ hp => exact (hl.unwatch hne).of_eq (by rw [hp.events_eq])

theorem GadgetCalls.leads (h : GadgetCalls env ev w g w' g') (hl : Leads e w) (hne : e.fd ≠ g.fd) :
    Leads e w' := by
  cases h with
  | quiet he => exact he.leads hl
  | start _ hs =>
      cases hs with
      | idle he => exact he.leads hl
      | start _ hw hp => exact (hw.leads hl).of_eq (by rw [hp.events_eq])
  | stop _ hs => exact hs.leads hl hne
  | commit _ he => exact he.leads hl
  | setFmt _ _ _ _ hp => exact hl.of_eq (by rw [hp.events_eq])

theorem StopsCapture.leads (h : StopsCapture w c w' c') (hl : Leads e w) (hne : e.fd ≠ c.fd) :
    Leads e w' := by
  cases h with
  | idle _ he => exact he.leads hl
  | stop _ he => exact he.leads (hl.unwatch hne)

theorem CaptureCalls.leads (h : CaptureCalls env w c w' c') (hl : Leads e w) : Leads e w' := by
  cases h with
  | quiet he => exact he.leads hl
  | frame hf hoff haddr hstride hstamp htick hp =>
      refine hp.leads (hl.of_eq ?_)
      unfold Board.publish
      split <;> rfl

/-- A message keeps a first watch that is no object's. -/
theorem Handles.leads {refuses : Prop} {v v' : View} {m : Message} (h : Handles env refuses v m v')
    (hl : Leads e v.board) (hg : ∀ g ∈ v.gadgets, e.fd ≠ g.fd) (hc : ∀ c ∈ v.captures, e.fd ≠ c.fd) :
    Leads e v'.board := by
  cases h with
  | signal => exact hl
  | attachFailed he => exact he.leads hl
  | gadgetAttached _ _ _ _ _ _ hw hp =>
      exact (hw.leads (w := v.board.openFd _) hl).of_eq (by rw [hp.events_eq])
  | captureAttached _ _ _ _ _ _ _ _ he => exact he.leads (w := v.board.openFd _) hl
  | gadgetDetached hs hstop hp =>
      rename_i p name pre post g g' w₁ w₂
      have h₁ : Leads e (w₁.unwatch g.fd .exception) := (hstop.leads hl (hg g hs.mem)).unwatch (hg g hs.mem)
      have h₂ : Leads e ((w₁.unwatch g.fd .exception).closeFd g.fd) := h₁
      exact h₂.of_eq (by rw [hp.events_eq])
  | captureDetached hmiss hs hstop he =>
      rename_i p name pre post c c' w₁ w₂
      have h₁ : Leads e (w₁.closeFd c.fd) := hstop.leads hl (hc c hs.mem)
      exact he.leads h₁
  | setFmtHeld _ he => exact he.leads hl
  | setFmtPaired _ _ _ he => exact he.leads hl
  | setFmtUnpaired _ he => exact he.leads hl
  | streamOn hs hstart =>
      cases hstart with
      | idle he => exact he.leads hl
      | start _ _ _ _ hw => exact hw.leads hl
  | streamOff hs hstop => exact hstop.leads hl (hc _ hs.mem)
  | uvcDetached hs hstop => exact hstop.leads hl (hc _ hs.mem)
  | detachMissed _ _ | streamOnMissed _ | streamOffMissed _ | uvcAttached | uvcDetachedMissed _
  | frameCopied _ _ _ | frameDropped _ => exact hl

end Leads

/-- The pipe is not watched, so nothing is ever attached. -/
structure Deaf (s : Sys) : Prop where
  gadgets : s.gadgets = []
  captures : s.captures = []
  watches : ∀ e ∈ s.view.board.events.events, e.callback ≠ .looperProcess
  iter : ∀ t ∈ s.iter, t.callback ≠ .looperProcess
  phase : ∀ batch rest, s.phase ≠ .process batch rest

/-- The pipe's watch comes first, or it could not be registered. -/
def Led (s : Sys) : Prop := Leads (pipeWatch s.pipeFd) s.view.board ∨ Deaf s

/-- No object's descriptor is the pipe's. -/
theorem Standing.pipe_ne {s : Sys} (hs : Standing env s) :
    (∀ g ∈ s.view.gadgets, s.pipeFd ≠ g.fd) ∧ ∀ c ∈ s.view.captures, s.pipeFd ≠ c.fd := by
  have hpipe : ∀ {v : View}, (⟨v.pipeFd, [pipeWatch v.pipeFd]⟩ : Owner) ∈ v.owners :=
    List.mem_append_left _ (List.mem_append_left _ List.mem_cons_self)
  constructor
  · intro g hg
    obtain ⟨pre, post, heq⟩ := List.append_of_mem hg
    exact (hs.wired.perm (View.owners_gadget heq)).fd_ne _ hpipe
  · intro c hc
    obtain ⟨pre, post, heq⟩ := List.append_of_mem hc
    exact (hs.wired.perm (View.owners_capture heq)).fd_ne _ hpipe

theorem Moves.pipeFd {s s' : Sys} {a : Action} (h : Moves env s s' a) : s'.pipeFd = s.pipeFd := by
  show s'.view.pipeFd = s.view.pipeFd
  cases h with
  | handle _ _ hm => exact hm.fds.1
  | idle _ hview | dev _ hview | signal _ _ hview | select _ _ hview | selectFailed _ _ hview
  | unwatched _ _ _ _ _ hview | watched _ _ _ _ _ hview | scanned _ _ _ _ hview | roundDone _ _ hview
  | looper _ _ _ hview | hotplug _ _ _ _ hview | gadget _ _ _ _ hview | video _ _ _ _ hview
  | capture _ _ _ _ hview | batchDone _ _ hview => rw [hview]

theorem Moves.leads {s s' : Sys} {a : Action} (h : Moves env s s' a) (hs : Standing env s)
    (hl : Leads (pipeWatch s.pipeFd) s.view.board) : Leads (pipeWatch s.pipeFd) s'.view.board := by
  obtain ⟨hgne, hcne⟩ := hs.pipe_ne
  cases h with
  | idle _ hview => rw [hview]; exact hl
  | dev _ hview => rw [hview]; exact hl
  | signal _ hp hview => rw [hview]; exact hl.of_eq (by rw [hp.events_eq])
  | select _ _ hview => rw [hview]; exact hl
  | selectFailed _ _ hview => rw [hview]; exact hl
  | unwatched _ _ _ _ he hview => rw [hview]; exact he.leads hl
  | watched _ _ _ _ hw hview =>
      rw [hview]
      exact hw.leads (w := { s.view.board.openFd _ with watching := true }) hl
  | scanned _ _ _ hp hview => rw [hview]; exact hl.of_eq (by rw [hp.events_eq])
  | roundDone _ _ hview => rw [hview]; exact hl
  | looper _ _ he hview => rw [hview]; exact he.leads hl
  | hotplug _ _ _ hp hview =>
      rw [hview]
      have hev := hp.events_eq
      exact hl.of_eq (by rw [hev])
  | gadget _ _ hsp hcall hview =>
      rw [hview]
      exact hcall.leads hl (hgne _ (by rw [Sys.gadgets_view hsp]; simp))
  | video _ _ _ he hview => rw [hview]; exact he.leads hl
  | capture _ _ _ hcall hview => rw [hview]; exact hcall.leads hl
  | batchDone _ _ hview => rw [hview]; exact hl
  | handle hat _ hm => exact hm.leads (v := s.viewOf _) hl hgne hcne

theorem Moves.deaf {s s' : Sys} {a : Action} (h : Moves env s s' a) (hd : Deaf s) : Deaf s' := by
  -- nothing but the list of objects, the watches and the phase matters
  have hkeep : s'.view.gadgets = s.view.gadgets → s'.view.captures = s.view.captures →
      (∀ e ∈ s'.view.board.events.events, e.callback ≠ .looperProcess) →
      (∀ t ∈ s'.iter, t.callback ≠ .looperProcess) → (∀ batch rest, s'.phase ≠ .process batch rest) →
      Deaf s' := by
    intro hg hc hev hiter hproc
    have hg : s'.gadgets.map Gadget.view = s.gadgets.map Gadget.view := hg
    have hc : s'.captures.map Capture.view = s.captures.map Capture.view := hc
    rw [hd.gadgets] at hg
    rw [hd.captures] at hc
    exact ⟨List.map_eq_nil_iff.mp hg, List.map_eq_nil_iff.mp hc, hev, hiter, hproc⟩
  have hsame : s'.phase = s.phase → (∀ t ∈ s'.iter, t.callback ≠ .looperProcess) ∧
      ∀ batch rest, s'.phase ≠ .process batch rest := by
    intro hphase
    refine ⟨fun t ht => hd.iter t ?_, by rw [hphase]; exact hd.phase⟩
    unfold Sys.iter at ht ⊢
    rwa [hphase] at ht
  have hidle : s'.iter = [] → ∀ t ∈ s'.iter, t.callback ≠ .looperProcess := by
    intro hnil t ht
    rw [hnil] at ht; cases ht
  cases h with
  | idle hphase hview =>
      exact hkeep (by rw [hview]) (by rw [hview]) (by rw [hview]; exact hd.watches) (hsame hphase).1
        (hsame hphase).2
  | dev hphase hview =>
      exact hkeep (by rw [hview]) (by rw [hview]) (by rw [hview]; exact hd.watches) (hsame hphase).1
        (hsame hphase).2
  | signal hphase hp hview =>
      exact hkeep (by rw [hview]) (by rw [hview]) (by rw [hview, hp.events_eq]; exact hd.watches)
        (hsame hphase).1 (hsame hphase).2
  | select hat hphase hview =>
      refine hkeep (by rw [hview]) (by rw [hview]) (by rw [hview]; exact hd.watches) (fun t ht => ?_)
        (by rw [hphase]; simp)
      rw [Sys.iter_dispatch hphase] at ht
      obtain ⟨e, he, rfl, -⟩ := mem_snapshot ht
      exact hd.watches e he
  | selectFailed hat hphase hview =>
      exact hkeep (by rw [hview]) (by rw [hview]) (by rw [hview]; exact hd.watches)
        (hidle (by unfold Sys.iter; rw [hphase])) (by rw [hphase]; simp)
  | unwatched hat hphase hno hnone he hview =>
      exact hkeep (by rw [hview]) (by rw [hview]) (by rw [hview, he.events_eq]; exact hd.watches)
        (hidle (by unfold Sys.iter; rw [hphase])) (by rw [hphase]; simp)
  | watched hat hphase hnone hfd hw hview =>
      refine hkeep (by rw [hview]) (by rw [hview]) ?_ (hidle (by unfold Sys.iter; rw [hphase]))
        (by rw [hphase]; simp)
      rw [hview]
      obtain ⟨t, ht⟩ := hw
      rw [ht.events_eq]
      unfold Board.watch
      split
      · intro e he
        rcases mem_watchFd.mp he with he | rfl
        · exact hd.watches e he
        · simp
      · exact hd.watches
  | scanned hat hphase hms hp hview =>
      exact hkeep (by rw [hview]) (by rw [hview]) (by rw [hview, hp.events_eq]; exact hd.watches)
        (hidle (by unfold Sys.iter; rw [hphase])) (by rw [hphase]; simp)
  | roundDone hat hphase hview =>
      exact hkeep (by rw [hview]) (by rw [hview]) (by rw [hview]; exact hd.watches)
        (hidle (by unfold Sys.iter; rw [hphase])) (by rw [hphase]; simp)
  -- nobody listens to the pipe
  | looper hat _ _ _ =>
      exact absurd rfl (hd.iter _ (by rw [Sys.iter_dispatch hat]; exact List.mem_cons_self))
  | hotplug hat hphase hms hp hview hnil =>
      have hev := hp.events_eq
      refine hkeep (by rw [hview]) (by rw [hview]) (by rw [hview]; dsimp only; rw [hev]; exact hd.watches)
        (fun t ht => hd.iter t ?_) (by rw [hphase]; unfold Phase.after; split <;> simp)
      rw [Sys.iter_dispatch hat]
      exact List.mem_cons_of_mem _ (Phase.iter_after hphase t ht)
  | gadget hat hphase hsp hcall hview => have := hsp.mem; rw [hd.gadgets] at this; cases this
  | video hat hphase hsp he hview => have := hsp.mem; rw [hd.gadgets] at this; cases this
  | capture hat hphase hsp hcall hview => have := hsp.mem; rw [hd.captures] at this; cases this
  | batchDone hat _ _ => exact absurd hat (hd.phase _ _)
  | handle hat _ _ => exact absurd hat (hd.phase _ _)

/-- **Step lemma.** -/
theorem Moves.led {s s' : Sys} {a : Action} (h : Moves env s s' a) (hs : Standing env s) (hl : Led s) :
    Led s' := by
  rcases hl with hl | hd
  · exact .inl (by rw [h.pipeFd]; exact h.leads hs hl)
  · exact .inr (h.deaf hd)

theorem boot_led (env : Env) (nodes : List DevName) (inforce : Nat → PixFormat) :
    Led (boot env nodes inforce) := by
  unfold Led boot Io.watch
  dsimp only
  split
  · exact .inl ⟨[], rfl⟩
  · exact .inr ⟨rfl, rfl, fun e he => (by cases he), fun t ht => (by cases ht), fun b r h => by cases h⟩

/-! ## The entries of a round -/

/-- Every watch is the looper's, inotify's, or an object's. -/
theorem Standing.watch_kinds {s : Sys} (hs : Standing env s) : ∀ e ∈ s.view.board.events.events,
    e = pipeWatch s.view.pipeFd ∨ (∃ fd, s.view.inotifyFd = some fd ∧ e = inotifyWatch fd) ∨
      (∃ g ∈ s.view.gadgets, e = g.control ∨ e = g.video) ∨ ∃ c ∈ s.view.captures, e = c.source := by
  intro e he
  obtain ⟨o, ho, heo⟩ := hs.wired.sound e he
  rcases List.mem_append.mp ho with ho | ho
  · rcases List.mem_append.mp ho with ho | ho
    · rcases List.mem_cons.mp ho with rfl | ho
      · exact .inl (List.mem_singleton.mp heo)
      rcases List.mem_cons.mp ho with rfl | ho
      · cases heo
      · obtain ⟨fd, hfd, rfl⟩ := Option.map_eq_some_iff.mp (Option.mem_toList.mp ho)
        exact .inr (.inl ⟨fd, hfd, List.mem_singleton.mp heo⟩)
    · obtain ⟨g, hg, rfl⟩ := List.mem_map.mp ho
      refine .inr (.inr (.inl ⟨g, hg, ?_⟩))
      rcases List.mem_cons.mp heo with rfl | heo
      · exact .inl rfl
      · split at heo
        · exact .inr (List.mem_singleton.mp heo)
        · cases heo
  · obtain ⟨c, hc, rfl⟩ := List.mem_map.mp ho
    refine .inr (.inr (.inr ⟨c, hc, ?_⟩))
    simp only [CaptureView.owner] at heo
    split at heo
    · exact List.mem_singleton.mp heo
    · cases heo

/-- A callback is registered once for each object. -/
theorem Standing.registered_once {s : Sys} (hs : Standing env s) : ∀ e ∈ s.view.board.events.events,
    ∀ e' ∈ s.view.board.events.events, (e.callback, e.priv) = (e'.callback, e'.priv) → e = e' := by
  have hnd := List.nodup_append.mp hs.housed.placed.nodup
  have hgadget : ∀ g ∈ s.view.gadgets, ∀ g' ∈ s.view.gadgets, g.addr = g'.addr → g = g' :=
    fun g hg g' hg' h => List.inj_on_of_nodup_map hnd.1 hg hg' h
  have hcapture : ∀ c ∈ s.view.captures, ∀ c' ∈ s.view.captures, c.addr = c'.addr → c = c' := by
    have haddrs : (s.view.captures.map (·.addr)).Nodup :=
      hnd.2.1.sublist (map_sublist_flatMap fun c => List.Sublist.cons_cons _ (List.nil_sublist _))
    exact fun c hc c' hc' h => List.inj_on_of_nodup_map haddrs hc hc' h
  intro e he e' he' hkey
  injection hkey with hcb hpriv
  rcases hs.watch_kinds e he with rfl | ⟨fd, hfd, rfl⟩ | ⟨g, hg, rfl | rfl⟩ | ⟨c, hc, rfl⟩ <;>
    rcases hs.watch_kinds e' he' with rfl | ⟨fd', hfd', rfl⟩ | ⟨g', hg', rfl | rfl⟩ | ⟨c', hc', rfl⟩
  case inl.inl => rfl
  case inr.inl.inr.inl => rw [hfd] at hfd'; cases hfd'; rfl
  case inr.inr.inl.inl.inr.inr.inl.inl => rw [hgadget g hg g' hg' (by injection hpriv)]
  case inr.inr.inl.inr.inr.inr.inl.inr => rw [hgadget g hg g' hg' (by injection hpriv)]
  case inr.inr.inr.inr.inr.inr => rw [hcapture c hc c' hc' (by injection hpriv)]
  all_goals cases hcb

theorem Standing.looper_watch {s : Sys} (hs : Standing env s) {e : EventFd} (he : e ∈ s.io.events.events)
    (hcb : e.callback = .looperProcess) : e = pipeWatch s.pipeFd := by
  rcases hs.watch_kinds e he with rfl | ⟨fd, -, rfl⟩ | ⟨g, -, rfl | rfl⟩ | ⟨c, -, rfl⟩
  · rfl
  all_goals cases hcb

/-- Entries still to be called: of different objects or callbacks, the looper's not among them. -/
structure Lineup (iter : List EventIter) : Prop where
  keys : (iter.map fun t => (t.callback, t.priv)).Nodup
  looper : ∀ t ∈ iter, t.callback ≠ .looperProcess

theorem Lineup.tail {t : EventIter} {rest : List EventIter} (h : Lineup (t :: rest)) : Lineup rest :=
  ⟨(List.nodup_cons.mp h.keys).2, fun x hx => h.looper x (List.mem_cons_of_mem _ hx)⟩

/-- The entries behind one that has the callback `cb` for `p` are not for that. -/
theorem Lineup.other {t : EventIter} {rest : List EventIter} (h : Lineup (t :: rest)) {x : EventIter}
    (hx : x ∈ rest) (hcb : x.callback = t.callback) : x.priv ≠ t.priv := by
  intro hpriv
  refine (List.nodup_cons.mp h.keys).1 (List.mem_map.mpr ⟨x, hx, ?_⟩)
  rw [hcb, hpriv]

theorem Standing.snapshot_keys {s : Sys} (hs : Standing env s) (r : Ready) :
    ((snapshot s.io.events r).map fun t => (t.callback, t.priv)).Nodup := by
  have hsub : ((s.io.events.events.filter (·.isReady r)).take iterSize).Sublist s.io.events.events :=
    (List.take_sublist _ _).trans List.filter_sublist
  rw [snapshot_eq, List.map_map]
  refine List.Nodup.map_on ?_ (hs.wired.ok.nodup.sublist hsub)
  intro e he e' he' hkey
  exact hs.registered_once e (hsub.subset he) e' (hsub.subset he') hkey

/-- **What a round calls.** The looper first, if its pipe is ready, and at most nine others; or at most ten
    others. -/
theorem snapshot_opens {s : Sys} (hs : Standing env s) (hl : Led s) (r : Ready) :
    (∃ rest, snapshot s.io.events (s.io.events.select r) = ⟨s.pipeFd, .looperProcess, .looper⟩ :: rest ∧
      Lineup rest ∧ rest.length < iterSize) ∨
    ((Leads (pipeWatch s.pipeFd) s.view.board → r.rfds s.pipeFd = false) ∧
      Lineup (snapshot s.io.events (s.io.events.select r)) ∧
      (snapshot s.io.events (s.io.events.select r)).length ≤ iterSize) := by
  have hkeys := hs.snapshot_keys (s.io.events.select r)
  have hlen : (snapshot s.io.events (s.io.events.select r)).length ≤ iterSize := by
    rw [snapshot_eq, List.length_map]
    exact List.length_take_le _ _
  have hready : ∀ fd, (s.io.events.select r).fds .read fd = true → r.rfds fd = true :=
    fun fd h => (Bool.and_eq_true_iff.mp h).2
  by_cases hpipe : Leads (pipeWatch s.pipeFd) s.view.board ∧ r.rfds s.pipeFd = true
  · obtain ⟨⟨rest, hrest⟩, hrd⟩ := hpipe
    -- the first watch is that of the pipe, and it is ready
    have hrest : s.io.events.events = pipeWatch s.pipeFd :: rest := hrest
    have hset : s.io.events.fds .read s.pipeFd = true :=
      (hs.wired.ok.sets .read s.pipeFd).mpr ⟨pipeWatch s.pipeFd, by
        show _ ∈ s.io.events.events; rw [hrest]; exact List.mem_cons_self, rfl, rfl⟩
    have hpiperdy : (pipeWatch s.pipeFd).isReady (s.io.events.select r) = true := by
      show (s.io.events.rfds s.pipeFd && r.rfds s.pipeFd) = true
      rw [show s.io.events.rfds s.pipeFd = true from hset, hrd]; rfl
    have hsnap : snapshot s.io.events (s.io.events.select r) = ⟨s.pipeFd, .looperProcess, .looper⟩
        :: ((rest.filter (·.isReady (s.io.events.select r))).take 9).map EventFd.iter := by
      rw [snapshot_eq, hrest, List.filter_cons_of_pos (by exact hpiperdy)]
      rfl
    rw [hsnap] at hkeys
    refine .inl ⟨_, hsnap, ⟨(List.nodup_cons.mp hkeys).2, fun t ht hcb => ?_⟩, ?_⟩
    · -- no second watch has the looper's callback
      obtain ⟨e, he, rfl⟩ := List.mem_map.mp ht
      have hmem : e ∈ rest := (List.mem_filter.mp (List.mem_of_mem_take he)).1
      have heq := hs.looper_watch (by rw [hrest]; exact List.mem_cons_of_mem _ hmem) hcb
      have hnd : s.io.events.events.Nodup := hs.wired.ok.nodup
      rw [hrest] at hnd
      exact (List.nodup_cons.mp hnd).1 (heq ▸ hmem)
    · rw [List.length_map]
      exact Nat.lt_succ_of_le (List.length_take_le _ _)
  · refine .inr ⟨fun hleads => ?_, ⟨hkeys, fun t ht hcb => ?_⟩, hlen⟩
    · exact Bool.eq_false_iff.mpr fun hrd => hpipe ⟨hleads, hrd⟩
    · obtain ⟨e, he, rfl, hrdy⟩ := mem_snapshot ht
      rcases hl with hleads | hd
      · have heq := hs.looper_watch he hcb
        -- a looper watch in the snapshot would be the pipe's, and ready
        rw [heq] at hrdy
        exact hpipe ⟨hleads, hready _ hrdy⟩
      · exact hd.watches e he hcb

/-! ## The pace of a round -/

/-- Before the looper's turn in a round, and after it. -/
def Opening (v : View) (iter : List EventIter) : Prop :=
  ∃ rest, iter = ⟨v.pipeFd, .looperProcess, .looper⟩ :: rest ∧ Lineup rest ∧ rest.length < iterSize ∧
    v.board.queue.length ≤ iterSize

structure Closing (v : View) (iter : List EventIter) : Prop where
  lineup : Lineup iter
  length : v.board.queue.length + iter.length ≤ iterSize
  unheard : ∀ t ∈ iter, Unheard v.gadgets v.captures v.board.queue t

def Paced : Phase → View → Prop
  | .select, v => Fresh v.captures v.board.queue ∧ v.board.queue.length ≤ iterSize
  | .dispatch iter, v => Fresh v.captures v.board.queue ∧ (Opening v iter ∨ Closing v iter)
  | .process batch rest, v => v.board.queue = batch ∧ Parting v.captures batch ∧
      FramesHeld v.gadgets v.captures batch ∧ Lineup rest ∧ rest.length < iterSize
  | .exit, _ => True
  | .start, _ | .inited, _ | .finished, _ => False

theorem Paced.after {v : View} {done : Bool} {rest : List EventIter}
    (hf : Fresh v.captures v.board.queue) (hc : Closing v rest) : Paced (.after done rest) v := by
  unfold Phase.after
  split
  · trivial
  · exact ⟨hf, .inr hc⟩

/-- **The invariant of a run of rounds**, `posted` and `delivered` being the logs at its start. -/
structure Calm (posted delivered : List Frame) (s : Sys) : Prop where
  ids : (s.view.gadgets.map (·.id)).Nodup
  nonzero : ∀ g ∈ s.view.gadgets, g.id ≠ 0
  records : s.view.board.records = []
  led : s.view.board.queue ≠ [] → Leads (pipeWatch s.pipeFd) s.view.board
  streams : Streams s.view.gadgets s.view.board.queue
  issued : Issued s.view.board.brk s.view.board.queue
  ledger : Ledger posted delivered s.view.captures s.view.board.queue s.view.board
  paced : Paced s.phase s.view

/-- A step of the event loop: `select` finds the pipe ready whenever it holds a message, and no node comes
    or goes, no signal arrives and the loop is not left. -/
def InLoop : Action → Sys → Prop
  | .select r, s => s.io.queue ≠ [] → r.rfds s.pipeFd = true
  | .next, s => s.phase ≠ .exit
  | .plug _, _ | .unplug _, _ | .signal _, _ | .selectFailed, _ => False

instance : ∀ (a : Action) (s : Sys), Decidable (InLoop a s)
  | .select r, s => inferInstanceAs (Decidable (s.io.queue ≠ [] → r.rfds s.pipeFd = true))
  | .next, s => inferInstanceAs (Decidable (s.phase ≠ .exit))
  | .plug _, _ | .unplug _, _ | .signal _, _ | .selectFailed, _ => .isFalse fun h => h

section Calm

variable {posted delivered : List Frame} {s s' : Sys}

/-- Only the counters, the phase and the ready entries change. -/
theorem Calm.elapses {w : Board} (h : Calm posted delivered s) (he : Elapses s.view.board w)
    (hview : s'.view = { s.view with board := w }) (hp : Paced s'.phase s'.view) :
    Calm posted delivered s' := by
  have hpipe : s'.pipeFd = s.pipeFd := congrArg View.pipeFd hview
  have hq := he.queue_eq
  refine ⟨by rw [hview]; exact h.ids, by rw [hview]; exact h.nonzero, ?_, ?_, ?_, ?_, ?_, hp⟩
  · rw [hview]; exact he.unlogged.records.trans h.records
  · rw [hview, hpipe]
    show w.queue ≠ [] → Leads _ w
    rw [hq]
    exact fun hne => he.leads (h.led hne)
  · rw [hview]
    show Streams s.view.gadgets w.queue
    rw [hq]; exact h.streams
  · rw [hview]
    show Issued w.brk w.queue
    rw [hq]; exact h.issued.mono he.brk_le
  · rw [hview]
    show Ledger posted delivered s.view.captures w.queue w
    rw [hq]; exact h.ledger.unlogged he.unlogged fun p _ f hf => hf

theorem Calm.same (h : Calm posted delivered s) (hview : s'.view = s.view)
    (hp : Paced s'.phase s'.view) : Calm posted delivered s' :=
  h.elapses (.refl _) hview hp

/-- Time alone closes no round. -/
theorem Closing.elapses {v : View} {w : Board} {t : EventIter} {rest : List EventIter}
    (h : Closing v (t :: rest)) (he : Elapses v.board w) : Closing { v with board := w } rest := by
  refine ⟨h.lineup.tail, ?_, fun x hx => ?_⟩
  · show w.queue.length + rest.length ≤ iterSize
    have := h.length
    rw [he.queue_eq]
    rw [List.length_cons] at this
    omega
  · show Unheard v.gadgets v.captures w.queue x
    rw [he.queue_eq]
    exact h.unheard x (List.mem_cons_of_mem _ hx)

/-- An entry that is not the looper's is called after the looper's turn. -/
theorem Calm.closing {t : EventIter} {rest : List EventIter} (h : Calm posted delivered s)
    (hat : s.phase = .dispatch (t :: rest)) (ht : t.callback ≠ .looperProcess) :
    Fresh s.view.captures s.view.board.queue ∧ Closing s.view (t :: rest) := by
  have hp := h.paced
  rw [hat] at hp
  refine ⟨hp.1, hp.2.resolve_left ?_⟩
  rintro ⟨rest', heq, -⟩
  rw [(List.cons.inj heq).1] at ht
  exact ht rfl

/-- A gadget's callback in its turn. -/
theorem Calm.gadget {fd addr : Nat} {rest : List EventIter} {pre post : List Gadget} {g : Gadget}
    {g' : GadgetView} {w : Board} {ev : Except Errno UvcEvent} {done : Bool} (h : Calm posted delivered s)
    (hs : Standing env s) (hl : Led s)
    (hat : s.phase = .dispatch (⟨fd, .uvcGadgetProcess, .gadget addr⟩ :: rest))
    (hphase : s'.phase = .after done rest) (hsp : SplitsAt (·.addr = addr) s.gadgets pre g post)
    (hcall : GadgetCalls env ev s.view.board g.view w g')
    (hview : s'.view = { s.view with
      board := w, gadgets := pre.map Gadget.view ++ g' :: post.map Gadget.view }) :
    Calm posted delivered s' := by
  obtain ⟨hfresh, hclosing⟩ := h.closing hat (by simp)
  have hgs := Sys.gadgets_view hsp
  have hmem : g.view ∈ s.view.gadgets := by rw [hgs]; simp
  have haddr : g.view.addr = addr := hsp.hit
  have hun := (hclosing.unheard _ List.mem_cons_self).gadget rfl g.view hmem (by rw [haddr])
  have hids := h.ids
  rw [hgs] at hids
  obtain ⟨hid, hq⟩ := hcall.report
  -- a daemon that has lost its looper has no gadgets
  have hleads : Leads (pipeWatch s.pipeFd) s.view.board := hl.resolve_right fun hd => by
    have := hsp.mem
    rw [hd.gadgets] at this; cases this
  have hpipe : s'.pipeFd = s.pipeFd := congrArg View.pipeFd hview
  have hlen : w.queue.length ≤ s.view.board.queue.length + 1 := by
    rcases hq with hq | ⟨m, hq, -⟩ <;> rw [hq] <;> simp
  have hstreams := h.streams
  rw [hgs] at hstreams
  refine ⟨?_, ?_, ?_, ?_, ?_, ?_, ?_, ?_⟩
  · -- the ids are those of before
    have hsame : (pre.map Gadget.view ++ g' :: post.map Gadget.view).map (·.id)
        = (pre.map Gadget.view ++ g.view :: post.map Gadget.view).map (·.id) := by
      simp only [List.map_append, List.map_cons, hid]
    rw [hview]
    dsimp only
    rw [hsame]
    exact hids
  · rw [hview]
    exact forall_replaced hgs h.nonzero (by rw [hid]; exact h.nonzero _ hmem)
  · rw [hview]; exact hcall.unlogged.records.trans h.records
  · rw [hview, hpipe]
    exact fun _ => hcall.leads hleads (hs.pipe_ne.1 _ hmem)
  · rw [hview]; exact hcall.streams hids hun hstreams
  · rw [hview]; exact hcall.issued h.issued
  · rw [hview]; exact hcall.ledger h.ledger
  · rw [hphase, hview]
    refine Paced.after (hcall.fresh hfresh) ⟨hclosing.lineup.tail, ?_, fun x hx => ?_⟩
    · -- one callback less, at most one message more
      have := hclosing.length
      rw [List.length_cons] at this
      show w.queue.length + rest.length ≤ iterSize
      omega
    · have hx' := hclosing.unheard x (List.mem_cons_of_mem _ hx)
      rw [hgs] at hx'
      exact hcall.unheard hids (fun hcb => haddr ▸ hclosing.lineup.other hx hcb) hx'

/-- A capture's callback in its turn. -/
theorem Calm.capture {fd addr : Nat} {rest : List EventIter} {pre post : List Capture} {c : Capture}
    {c' : CaptureView} {w : Board} {done : Bool} (h : Calm posted delivered s) (hs : Standing env s)
    (hl : Led s) (hat : s.phase = .dispatch (⟨fd, .captureProcess, .capture addr⟩ :: rest))
    (hphase : s'.phase = .after done rest) (hsp : SplitsAt (·.addr = addr) s.captures pre c post)
    (hcall : CaptureCalls env s.view.board c.view w c')
    (hview : s'.view = { s.view with
      board := w, captures := pre.map Capture.view ++ c' :: post.map Capture.view }) :
    Calm posted delivered s' := by
  obtain ⟨hfresh, hclosing⟩ := h.closing hat (by simp)
  have hcs := Sys.captures_view hsp
  have hmem : c.view ∈ s.view.captures := by rw [hcs]; simp
  have haddr : c.view.addr = addr := hsp.hit
  have hun := (hclosing.unheard _ List.mem_cons_self).capture rfl c.view hmem (by rw [haddr])
  have hapart := hs.housed.apart hcs
  have hframed := hs.housed.framed _ hmem
  -- a daemon that has lost its looper has no captures
  have hleads : Leads (pipeWatch s.pipeFd) s.view.board := hl.resolve_right fun hd => by
    have := hsp.mem
    rw [hd.captures] at this; cases this
  have hpipe : s'.pipeFd = s.pipeFd := congrArg View.pipeFd hview
  have hlen : w.queue.length ≤ s.view.board.queue.length + 1 := by
    rcases hcall.frame_or with ⟨hq, -⟩ | ⟨_, _, _, -, -, -, -, -, hq, -⟩ <;> rw [hq] <;> simp
  have hrecords : w.records = s.view.board.records := hcall.records_eq
  have hledger := h.ledger
  rw [hcs] at hledger hfresh
  refine ⟨?_, ?_, ?_, ?_, ?_, ?_, ?_, ?_⟩
  · rw [hview]; exact h.ids
  · rw [hview]; exact h.nonzero
  · rw [hview]; exact hrecords.trans h.records
  · rw [hview, hpipe]; exact fun _ => hcall.leads hleads
  · rw [hview]; exact hcall.streams h.streams
  · rw [hview]; exact hcall.issued hs.housed hcs rfl h.issued
  · rw [hview]; exact hcall.ledger hapart hun hledger
  · rw [hphase, hview]
    refine Paced.after (hcall.fresh hframed hfresh) ⟨hclosing.lineup.tail, ?_, fun x hx => ?_⟩
    · -- one callback less, at most one message more
      have := hclosing.length
      rw [List.length_cons] at this
      show w.queue.length + rest.length ≤ iterSize
      omega
    · have hx' := hclosing.unheard x (List.mem_cons_of_mem _ hx)
      rw [hcs] at hx'
      exact hcall.unheard hapart hcall.addr_eq (fun hcb => haddr ▸ hclosing.lineup.other hx hcb) hx'

/-- A message of the batch. -/
theorem Calm.handle {m : Message} {batch : List Message} {rest : List EventIter} {refuses : Prop}
    (h : Calm posted delivered s) (hs : Standing env s)
    (hat : s.phase = .process (m :: batch) rest) (hphase : s'.phase = .process batch rest)
    (hm : Handles env refuses (s.viewOf batch) m s'.view) : Calm posted delivered s' := by
  have hp := h.paced
  rw [hat] at hp
  obtain ⟨hq, hpart, hheld, hlineup, hlen⟩ := hp
  have hpend := Sys.pending_process hat
  -- the batch is all there is
  have hrest : (s.viewOf batch).board.queue = batch := by
    rw [hpend] at hq
    exact (List.cons.inj hq).2
  have hk : Streamed m := h.streams.kinds m (by rw [hq]; exact List.mem_cons_self)
  obtain ⟨hgs, hqs⟩ := hm.streamed hk
  have hstreams := h.streams
  have hissued := h.issued
  have hledger := h.ledger
  rw [hpend] at hstreams hissued hledger
  have hsparing : ∀ x ∈ (s.viewOf batch).board.queue, spares s.view.gadgets s.view.captures m x = true :=
    hstreams.spares h.nonzero (by rw [hrest]; exact hpart)
  have hheld' := hm.framesHeld hsparing (by rw [hrest]; exact hheld)
  have hpart' := hm.parting hstreams hissued (by rw [hrest]; exact hpart)
  have hbatch : s'.view.board.queue = batch := hqs.trans hrest
  refine ⟨by rw [hgs]; exact h.ids, by rw [hgs]; exact h.nonzero, ?_, ?_, ?_, ?_, ?_, ?_⟩
  · rcases hm.logs with hu | ⟨_, _, _, _, -, -, -, hw⟩
    · exact hu.records.trans h.records
    · rw [hw]; exact h.records
  · have hpipe : s'.pipeFd = s.pipeFd := hm.fds.1
    obtain ⟨hgne, hcne⟩ := hs.pipe_ne
    have hne : s.view.board.queue ≠ [] := by rw [hpend]; simp
    rw [hpipe]
    exact fun _ => hm.leads (h.led hne) hgne hcne
  · rw [hgs, hqs]; exact hstreams.tail
  · exact hm.issued hk hissued
  · exact hm.ledger hk hissued hledger
  · rw [hphase]
    exact ⟨hbatch, hbatch ▸ hpart', hbatch ▸ hheld', hlineup, hlen⟩

/-- **Step lemma.** -/
theorem Moves.calm {a : Action} (h : Moves env s s' a) (hs : Standing env s)
    (hl : Led s) (hC : InLoop a s) (hI : Calm posted delivered s) : Calm posted delivered s' := by
  have hp := hI.paced
  cases h with
  | idle hphase hview => exact hI.same hview (by rw [hphase, hview]; exact hp)
  | dev _ _ hdev => cases hdev <;> exact hC.elim
  | signal _ _ _ => exact hC.elim
  | selectFailed _ _ _ => exact hC.elim
  | unwatched hat | watched hat | scanned hat => rw [hat] at hp; exact hp.elim
  | select hat hphase hview =>
      rename_i r
      rw [hat] at hp
      refine hI.same hview ?_
      rw [hphase, hview]
      refine ⟨hp.1, ?_⟩
      rcases snapshot_opens hs hl r with ⟨rest, heq, hlineup, hlen⟩ | ⟨hno, hlineup, hlen⟩
      · exact .inl ⟨rest, heq, hlineup, hlen, hp.2⟩
      · -- a pipe that is not ready is empty
        have hnil : s.view.board.queue = [] := by
          by_contra hne
          have hio : s.io.queue = s.view.board.queue := by
            rw [s.view_eq (b := []) (by rw [hat]; rfl)]; rfl
          have hrd : r.rfds s.pipeFd = true := hC (by rw [hio]; exact hne)
          rw [hno (hI.led hne)] at hrd
          cases hrd
        refine .inr ⟨hlineup, by rw [hnil]; simpa using hlen, fun t ht => ?_⟩
        rw [hnil]; exact unheard_nil t
  | roundDone hat hphase hview =>
      rw [hat] at hp
      refine hI.same hview ?_
      rw [hphase, hview]
      refine ⟨hp.1, ?_⟩
      rcases hp.2 with ⟨rest, heq, -⟩ | hclosing
      · cases heq
      · have := hclosing.length
        rw [List.length_nil] at this
        omega
  | looper hat hphase he hview =>
      rename_i fd rest w
      rw [hat] at hp
      obtain ⟨hfresh, hopen | hclosing⟩ := hp
      · -- the round opens with the looper, which takes the whole pipe
        obtain ⟨rest', heq, hlineup, hlen, hq⟩ := hopen
        cases heq
        have hio : s.io.queue = s.view.board.queue := by
          rw [s.view_eq (b := []) (by rw [hat]; rfl)]; rfl
        have htake : s.io.queue.take batchSize = s.view.board.queue := by
          rw [hio]
          exact List.take_of_length_le (Nat.le_trans hq (by decide))
        refine hI.elapses he hview ?_
        rw [hphase, hview, htake]
        exact ⟨he.queue_eq, hfresh.parting hs.housed, hfresh.framesHeld, hlineup, hlen⟩
      · -- the looper is called no later than that
        exact absurd rfl (hclosing.lineup.looper _ List.mem_cons_self)
  | hotplug hat hphase hms hpost hview hnil =>
      rename_i fd rest records ms w
      obtain ⟨hfresh, hclosing⟩ := hI.closing hat (by simp)
      -- nothing is plugged in the loop, so inotify has nothing to say
      obtain ⟨hrec, hnone⟩ := hnil hI.records
      subst hnone
      have he : Elapses s.view.board w := by
        cases hpost with
        | done he =>
            rw [hrec, ← hI.records] at he
            exact he
      refine hI.elapses he hview ?_
      rw [hphase, hview]
      exact Paced.after (by dsimp only; rw [he.queue_eq]; exact hfresh) (hclosing.elapses he)
  | gadget hat hphase hsp hcall hview => exact hI.gadget hs hl hat hphase hsp hcall hview
  | video hat hphase hsp he hview =>
      obtain ⟨hfresh, hclosing⟩ := hI.closing hat (by simp)
      refine hI.elapses he hview ?_
      rw [hphase, hview]
      exact Paced.after (by dsimp only; rw [he.queue_eq]; exact hfresh) (hclosing.elapses he)
  | capture hat hphase hsp hcall hview => exact hI.capture hs hl hat hphase hsp hcall hview
  | batchDone hat hphase hview =>
      rw [hat] at hp
      -- the batch is done, and the pipe holds what the callbacks have sent since
      obtain ⟨hq, -, -, hlineup, hlen⟩ := hp
      refine hI.same hview ?_
      rw [hphase, hview]
      refine Paced.after (by rw [hq]; exact fresh_nil) ⟨hlineup, ?_, fun t ht => by rw [hq]; exact unheard_nil t⟩
      rw [hq, List.length_nil]
      omega
  | handle hat hphase hm => exact hI.handle hs hat hphase hm

end Calm

/-! ## Runs -/

theorem Moves.stamped {s s' : Sys} {a : Action} (h : Moves env s s' a) (hst : Stamped s.view.board) :
    Stamped s'.view.board := by
  cases h with
  | idle _ hview => rw [hview]; exact hst
  | dev _ hview _ => rw [hview]; exact ⟨hst.sorted, hst.past⟩
  | signal _ hp hview => rw [hview]; exact hst.unlogged hp.unlogged
  | select _ _ hview => rw [hview]; exact hst
  | selectFailed _ _ hview => rw [hview]; exact hst
  | unwatched _ _ _ _ he hview => rw [hview]; exact hst.unlogged he.unlogged
  | watched hat hphase hnone hfd hw hview =>
      rename_i fd w
      rw [hview]
      have h₁ : Stamped { s.view.board.openFd fd with watching := true } := ⟨hst.sorted, hst.past⟩
      exact h₁.unlogged hw.unlogged
  | scanned _ _ _ hp hview => rw [hview]; exact hst.unlogged hp.unlogged
  | roundDone _ _ hview => rw [hview]; exact hst
  | looper _ _ he hview => rw [hview]; exact hst.unlogged he.unlogged
  | hotplug hat hphase hms hp hview hnil =>
      rename_i fd rest records ms w
      rw [hview]
      have h₁ : Stamped { s.view.board with records := records } := ⟨hst.sorted, hst.past⟩
      exact h₁.unlogged hp.unlogged
  | gadget _ _ _ hcall hview => rw [hview]; exact hst.unlogged hcall.unlogged
  | video _ _ _ he hview => rw [hview]; exact hst.unlogged he.unlogged
  | capture _ _ _ hcall hview => rw [hview]; exact hcall.stamped hst
  | batchDone _ _ hview => rw [hview]; exact hst
  | handle _ _ hm => exact hm.stamped (v := s.viewOf _) ⟨hst.sorted, hst.past⟩

/-- What becomes of the frames since `s₀`. -/
structure Sys.Timely (s₀ s : Sys) : Prop where
  /-- A round starts with at most one batch pending. -/
  bounded : s.phase = .select → s.pending.length ≤ batchSize
  /-- A capture that is about to dequeue has no frame pending: every pending frame lies in the buffers of
      another one. -/
  handled : ∀ fd addr rest, s.phase = .dispatch (⟨fd, .captureProcess, .capture addr⟩ :: rest) →
    ∀ id p, .frameAvailable id p ∈ s.pending →
      ∃ c ∈ s.captures, c.addr ≠ addr ∧ ∃ fb, c.buffers = some fb ∧ fb.addr = p.addr
  /-- A frame is copied from buffers that are still there. -/
  copied : s.CopyHeld
  /-- The frames of the pending messages are the last ones posted, in order, and what is behind their
      pointers if anything is; those copied into gadgets are some of the others, in order. -/
  ledger : Ledger s₀.io.posted s₀.io.delivered s.view.captures s.pending s.view.board
  /-- No frame is posted twice, and each after the ones dequeued before it. -/
  once : s.io.posted.Pairwise fun a b => a.stamp < b.stamp

theorem Calm.timely {s₀ s : Sys} (h : Calm s₀.io.posted s₀.io.delivered s) (hst : Stamped s.view.board) :
    s₀.Timely s := by
  have hp := h.paced
  refine ⟨fun hat => ?_, fun fd addr rest hat id p hm => ?_, fun id p batch iter hat => ?_, ?_, hst.sorted⟩
  · rw [hat] at hp
    rw [Sys.pending_eq]
    exact Nat.le_trans hp.2 (by decide)
  · obtain ⟨hfresh, hclosing⟩ := h.closing hat (by simp)
    rw [Sys.pending_eq] at hm
    obtain ⟨_, hc, hon, hhold, -⟩ := hfresh id p hm
    obtain ⟨c, hmem, rfl⟩ := List.mem_map.mp hc
    obtain ⟨fb, hfb, haddr, -⟩ := CaptureView.holds_iff.mp hhold
    refine ⟨c, hmem, fun heq => ?_, fb, hfb, haddr⟩
    have hun := (hclosing.unheard _ List.mem_cons_self).capture rfl c.view hc
      (show Priv.capture addr = .capture c.addr by rw [heq])
    exact hun p (mem_announced hm) fb hfb haddr
  · intro pre g post hsp hon
    rw [hat] at hp
    obtain ⟨-, -, hheld, -, -⟩ := hp
    exact Sys.held_view.mp (hheld id p List.mem_cons_self (Sys.aimed_view.mpr ⟨pre, g, post, hsp, hon⟩))
  · rw [Sys.pending_eq]; exact h.ledger

/-- **Run lemma.** From an empty queue on, rounds of the event loop lose no order among frames: at most one
    batch is pending when a round starts, a frame's message is handled before its capture dequeues again,
    and every frame delivered is the one its message was posted with, copied from buffers still allocated,
    in capture order and once — where the gadgets attached have different ids other than `0`. -/
theorem frames_in_rounds {s₀ s : Sys} {as : List Action} (hr : Reaches env s₀) (hat : s₀.phase = .select)
    (hnil : s₀.pending = []) (hrec : s₀.io.kernel.records = []) (hids : (s₀.gadgets.map (·.id)).Nodup)
    (hzero : ∀ g ∈ s₀.gadgets, g.id ≠ 0) (hC : Along (step env) InLoop as s₀)
    (h : run env as s₀ = .ok s) : s₀.Timely s := by
  obtain ⟨nodes, inforce, as₀, has₀⟩ := hr
  -- up to `s₀` the run is any run
  obtain ⟨hal, hs, hl, hst⟩ := run_moves_inv (C := fun _ _ => True)
    (I := fun s => Standing env s ∧ Led s ∧ Stamped s.view.board)
    (fun a s s' _ _ hI _ hm => ⟨hm.standing hI.1, hm.led hI.1 hI.2.1, hm.stamped hI.2.2⟩)
    ⟨boot_standing env nodes inforce, boot_led env nodes inforce, by
      unfold boot Io.watch
      dsimp only
      split <;> exact ⟨List.Pairwise.nil, fun f hf => by cases hf⟩⟩ (along_true as₀ _) has₀ (by rw [hat]; simp)
  have hq : s₀.view.board.queue = [] := by rw [← Sys.pending_eq]; exact hnil
  -- with no message pending nothing has been announced
  have hcalm : Calm s₀.io.posted s₀.io.delivered s₀ := by
    refine ⟨?_, fun g hg => ?_, hrec, fun hne => absurd hq hne, by rw [hq]; exact streams_nil, ?_, ?_, ?_⟩
    · show ((s₀.gadgets.map Gadget.view).map (·.id)).Nodup
      rw [List.map_map]; exact hids
    · obtain ⟨g₀, hg₀, rfl⟩ := List.mem_map.mp hg
      exact hzero g₀ hg₀
    · rw [hq]; exact fun p hp => by cases hp
    · refine ⟨[], [], [], ?_, ?_, List.Sublist.refl _, by rw [hq]; exact .nil⟩
      · exact (List.append_nil _).symm
      · exact (List.append_nil _).symm
    · rw [hat]
      exact ⟨by rw [hq]; exact fresh_nil, by rw [hq]; exact Nat.zero_le _⟩
  have hend := run_inv_along (C := InLoop)
    (I := fun s => s.Alive ∧ Standing env s ∧ Led s ∧ Stamped s.view.board ∧
      Calm s₀.io.posted s₀.io.delivered s) ?_ ⟨hal, hs, hl, hst, hcalm⟩ hC h
  · exact hend.2.2.2.2.timely hend.2.2.2.1
  · intro a s s' ⟨hal, hs, hl, hst, hcalm⟩ hCs hstep
    rcases step_moves hal hstep with ⟨hexit, -⟩ | ⟨hal', hm⟩
    · -- the loop is not left
      cases a with
      | next => exact absurd hexit hCs
      | select r =>
          rw [Uvcd.step, hexit] at hstep
          cases hstep
          exact ⟨hal, hs, hl, hst, hcalm⟩
      | plug _ | unplug _ | signal _ | selectFailed => exact hCs.elim
    · exact ⟨hal', hm.standing hs, hm.led hs hl, hm.stamped hst, hm.calm hs hl hCs hcalm⟩

/-- A pair that streams, over rounds in which everything is ready. -/
theorem frames_in_rounds_streaming :
    ∃ s₀ s, run (bench 900) streamUp (benchBoot 900) = .ok s₀ ∧
      run (bench 900) (turn [3, 6, 7] 12 ++ turn [3, 6, 7] 12 ++ turn [3, 6, 7] 1) s₀ = .ok s ∧
      (s.phase.batch.map (·.what), s.io.delivered.length) = ([.videoFrameAvailable], 1) ∧ s₀.Timely s := by
  obtain ⟨s₀, h₀, hat, hnil, hrec, hids, hzero, hC, s, h, hlog⟩ :
      ∃ s₀, run (bench 900) streamUp (benchBoot 900) = .ok s₀ ∧ s₀.phase = .select ∧ s₀.pending = [] ∧
        s₀.io.kernel.records = [] ∧ (s₀.gadgets.map (·.id)).Nodup ∧ (∀ g ∈ s₀.gadgets, g.id ≠ 0) ∧
        Along (step (bench 900)) InLoop
          (turn [3, 6, 7] 12 ++ turn [3, 6, 7] 12 ++ turn [3, 6, 7] 1) s₀ ∧
        ∃ s, run (bench 900) (turn [3, 6, 7] 12 ++ turn [3, 6, 7] 12 ++ turn [3, 6, 7] 1) s₀ = .ok s ∧
          (s.phase.batch.map (·.what), s.io.delivered.length) = ([.videoFrameAvailable], 1) := by
    decide +kernel
  exact ⟨s₀, s, h₀, h, hlog, frames_in_rounds ⟨_, _, _, h₀⟩ hat hnil hrec hids hzero hC h⟩

/-- Two output devices `video0` and `video2`, attached `2 ^ 32` microseconds apart, and a capture `video1`. -/
def twinBench : Env :=
  { Env.obliging [videoName 0, videoName 2]
      [(52, commitRequest), (55, commitData), (110, .streamon), (1000, .streamoff)] with
    clock := fun t => if t < 30 then (0, 1000 * t) else (4294, 967296000 + 1000 * (t - 22)) }

/-- **Two gadgets with one id.** The first commits, both stream, and the capture follows. The second stops in
    the round in which the capture posts a frame: the stop releases the buffers, and the frame behind it is
    copied into the first. -/
theorem twin_gadget :
    ∃ s₀ s, run twinBench ([.next, .next] ++ turn [3] 12 ++ turn [3] 12)
        (boot twinBench [videoName 0, videoName 1, videoName 2] fun _ => .zero) = .ok s₀ ∧
      s₀.phase = .select ∧ s₀.pending = [] ∧ s₀.io.kernel.records = [] ∧
      Along (step twinBench) InLoop
        ([[6], [6], [3], [6], [3, 8], [3], [7, 8]].flatMap (turn · 6) ++ turn [3] 2) s₀ ∧
      run twinBench ([[6], [6], [3], [6], [3, 8], [3], [7, 8]].flatMap (turn · 6) ++ turn [3] 2) s₀ = .ok s ∧
      ¬s₀.Timely s := by
  obtain ⟨s₀, h₀, hat, hnil, hrec, hC, s, h, hrun, hstale⟩ :
      ∃ s₀, run twinBench ([.next, .next] ++ turn [3] 12 ++ turn [3] 12)
          (boot twinBench [videoName 0, videoName 1, videoName 2] fun _ => .zero) = .ok s₀ ∧
        s₀.phase = .select ∧ s₀.pending = [] ∧ s₀.io.kernel.records = [] ∧
        Along (step twinBench) InLoop
          ([[6], [6], [3], [6], [3, 8], [3], [7, 8]].flatMap (turn · 6) ++ turn [3] 2) s₀ ∧
        ∃ s, run twinBench ([[6], [6], [3], [6], [3, 8], [3], [7, 8]].flatMap (turn · 6) ++ turn [3] 2) s₀
            = .ok s ∧ s.phase ≠ .finished ∧ s.copyHeld = false := by
    decide +kernel
  refine ⟨s₀, s, h₀, hat, hnil, hrec, hC, h, fun htimely => ?_⟩
  have hal := (reaches_standing ⟨_, _, _, run_append_ok.mpr ⟨s₀, h₀, h⟩⟩ hrun).1
  rw [(Sys.copyHeld_iff hal.sendable).mp htimely.copied] at hstale
  cases hstale

end Uvcd
