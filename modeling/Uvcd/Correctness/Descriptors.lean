import Uvcd.Refinement.Trades

/-!
# `Correctness.Descriptors` — every device that is opened is closed

A node may be opened twice for one message, once by each module, and there are many ways to give a device up. On
all of them the descriptors stay in order: what is open are the daemon's own descriptors and those of the attached
devices (`Sys.Kept`). So when `main` is through every device has been closed once, and not been used after that
(`devices_closed_once`).
-/

namespace Uvcd

open Machine Split Custody

variable {env : Env} {s s' : Sys} {a : Action}

/-- The descriptors the daemon never closes. -/
def Sys.lastingFds (s : Sys) : List Nat := s.inotifyFd.toList ++ s.pipeFd :: stdFds

/-- The descriptors that are not a device's. -/
def Sys.ownFds (s : Sys) : List Nat := if s.phase = .finished then s.lastingFds else s.ctrlFd :: s.lastingFds

def Sys.deviceFds (s : Sys) : List Nat := gadgetFds s.gadgets ++ captureFds s.captures

/-- The device with descriptor `fd` streams, for the daemon or for its driver. -/
def Sys.Streams (s : Sys) (fd : Nat) : Prop :=
  (∃ g ∈ s.gadgets, g.vdev.fd = fd ∧ (g.isStreaming = true ∨ g.vdev.file.streaming = true)) ∨
    ∃ c ∈ s.captures, c.vdev.fd = fd ∧ (c.isStreaming = true ∨ c.vdev.file.streaming = true)

/-- The calls so far are in order, what is open is accounted for, and the descriptors that are never closed have
    been opened and nothing else; at first nothing but the pipe has been opened. -/
structure Sys.InOrder (s : Sys) : Prop where
  replayed : replay (s.io.kernel.trace.map Call.op) stdFds = some s.io.kernel.opened
  opened : s.io.kernel.opened.Perm (s.deviceFds ++ s.ownFds)
  lasting : ∀ x ∈ s.io.kernel.trace, x.fd ∈ s.lastingFds → x = .open x.fd
  std : ∀ x ∈ s.io.kernel.trace, x.fd ∉ stdFds
  early : s.phase = .start → ∀ x ∈ s.io.kernel.trace, x = .open x.fd

theorem stdFds_nodup : stdFds.Nodup := by decide

theorem Sys.InOrder.nodup (h : s.InOrder) : s.io.kernel.opened.Nodup := replay_nodup h.replayed stdFds_nodup

theorem std_lasting (s : Sys) {fd : Nat} (h : fd ∈ stdFds) : fd ∈ s.lastingFds :=
  List.mem_append_right _ (List.mem_cons_of_mem _ h)

/-- A step that leaves the descriptors alone. -/
theorem Sys.InOrder.quiet (h : s.InOrder) (htrace : s'.io.kernel.trace = s.io.kernel.trace)
    (hopened : s'.io.kernel.opened = s.io.kernel.opened) (hdev : s'.deviceFds = s.deviceFds)
    (hlast : s'.lastingFds = s.lastingFds) (hown : s'.ownFds = s.ownFds)
    (hstart : s'.phase = .start → s.phase = .start) : s'.InOrder := by
  refine ⟨?_, ?_, ?_, ?_, fun hs => ?_⟩
  · rw [htrace, hopened]; exact h.replayed
  · rw [hopened, hdev, hown]; exact h.opened
  · rw [htrace, hlast]; exact h.lasting
  · rw [htrace]; exact h.std
  · rw [htrace]; exact h.early (hstart hs)

/-- A step of the running daemon that opens, drives and closes devices. -/
theorem Sys.InOrder.trades (h : s.InOrder) (hrun : s.phase ≠ .finished) (hrun' : s'.phase ≠ .finished)
    (hstart : s'.phase ≠ .start) (hctrl : s'.ctrlFd = s.ctrlFd) (hlast : s'.lastingFds = s.lastingFds)
    (ht : Trades (s.ctrlFd :: s.lastingFds) s.io.kernel s.deviceFds s'.io.kernel s'.deviceFds) : s'.InOrder := by
  have hopened := h.opened
  unfold Sys.ownFds at hopened
  rw [if_neg hrun] at hopened
  obtain ⟨⟨l, htrace, hreplay, hown⟩, hopened'⟩ := ht h.nodup hopened
  refine ⟨?_, ?_, fun x hx hfd => ?_, fun x hx => ?_, fun hs => absurd hs hstart⟩
  · rw [htrace, List.map_append]
    exact replay_append_some.mpr ⟨_, h.replayed, hreplay⟩
  · unfold Sys.ownFds
    rw [if_neg hrun', hctrl, hlast]
    exact hopened'
  · rw [htrace] at hx
    rw [hlast] at hfd
    rcases List.mem_append.mp hx with hx | hx
    · exact h.lasting x hx hfd
    · exact absurd (List.mem_cons_of_mem _ hfd) (hown x hx)
  · rw [htrace] at hx
    rcases List.mem_append.mp hx with hx | hx
    · exact h.std x hx
    · exact fun hstd => hown x hx (List.mem_cons_of_mem _ (std_lasting s hstd))

/-- A callback in the round. -/
theorem Sys.InOrder.after {t : Sys} {rest : List EventIter} (h : s.InOrder) (hrun : s.phase ≠ .finished)
    (hctrl : t.ctrlFd = s.ctrlFd) (hlast : t.lastingFds = s.lastingFds)
    (ht : Trades (s.ctrlFd :: s.lastingFds) s.io.kernel s.deviceFds t.io.kernel t.deviceFds) :
    (afterCall t rest).InOrder := by
  obtain ⟨hstart, -, hfin⟩ := Phase.after_running t.io.events.done rest
  exact h.trades hrun hfin hstart hctrl hlast ht

/-- Sending notes about nodes. -/
theorem sendNotes_kernel (notes : List Note) : ∀ io : Io, (sendNotes env notes io).kernel.trace = io.kernel.trace ∧
    (sendNotes env notes io).kernel.opened = io.kernel.opened := by
  induction notes with
  | nil => intro io; exact ⟨rfl, rfl⟩
  | cons n ns ih =>
      intro io
      rw [sendNotes_cons]
      obtain ⟨htrace, hopened⟩ := ih (n.send env io)
      by_cases hmem : env.malloc io.kernel.tick = true
      · rw [n.send_mem hmem, post_kernel] at htrace hopened
        rw [n.send_mem hmem]
        exact ⟨htrace, hopened⟩
      · rw [n.send_nomem hmem] at htrace hopened
        rw [n.send_nomem hmem]
        exact ⟨htrace, hopened⟩

/-- The daemon's own descriptors stay. -/
structure SameOwn (s s' : Sys) : Prop where
  ctrl : s'.ctrlFd = s.ctrlFd
  lasting : s'.lastingFds = s.lastingFds

theorem SameOwn.refl (s : Sys) : SameOwn s s := ⟨rfl, rfl⟩

theorem SameOwn.trans {s'' : Sys} (h : SameOwn s s') (h' : SameOwn s' s'') : SameOwn s s'' :=
  ⟨h'.ctrl.trans h.ctrl, h'.lasting.trans h.lasting⟩

theorem Serves.own {m : Message} (h : Serves env s m s') : SameOwn s s' := by
  obtain ⟨r, s₁, hu, hc⟩ := h
  have hgadget : SameOwn s s₁ := by cases hu <;> exact ⟨rfl, rfl⟩
  rcases hc with ⟨-, rfl⟩ | hc
  · exact hgadget
  · refine hgadget.trans ?_
    cases hc <;> exact ⟨rfl, rfl⟩

theorem looperCleanupHandlers_own : ∀ (hs : List Handler) {s s' : Sys},
    looperCleanupHandlers env hs s = .ok s' → SameOwn s s' := by
  intro hs
  induction hs with
  | nil => intro s s' h; cases h; exact .refl s
  | cons x hs ih =>
      intro s s' h
      obtain ⟨⟨r, s₁⟩, hx, h⟩ := bind_eq_ok.mp h
      have hfirst : SameOwn s s₁ := by
        cases x with
        | uvc => obtain ⟨io, -, heq⟩ := bind_eq_ok.mp hx; cases heq; exact ⟨rfl, rfl⟩
        | capture => obtain ⟨io, -, heq⟩ := bind_eq_ok.mp hx; cases heq; exact ⟨rfl, rfl⟩
      exact hfirst.trans (ih h)

theorem plug_calls (k : Kernel) (name : DevName) : (k.plug name).trace = k.trace ∧ (k.plug name).opened = k.opened := by
  unfold Kernel.plug Kernel.report
  split
  · exact ⟨rfl, rfl⟩
  · split <;> exact ⟨rfl, rfl⟩

theorem unplug_calls (k : Kernel) (name : DevName) :
    (k.unplug name).trace = k.trace ∧ (k.unplug name).opened = k.opened := by
  unfold Kernel.unplug Kernel.report
  split
  · split <;> exact ⟨rfl, rfl⟩
  · exact ⟨rfl, rfl⟩

theorem settle_kernel (io : Io) (m : Message) : (io.settle m).kernel = io.kernel := by
  unfold Io.settle
  dsimp only
  split <;> · split <;> rfl

/-- `hotplug_init`, before anything is attached. -/
theorem Sys.InOrder.init (h : s.InOrder) (hat : s.phase = .start) (hnone : s.inotifyFd = none) :
    ({ s with io := (hotplugInit env s.io).2, inotifyFd := (hotplugInit env s.io).1, phase := .inited } :
      Sys).InOrder := by
  have hopened := h.opened
  unfold Sys.ownFds Sys.lastingFds at hopened
  rw [if_neg (by rw [hat]; simp), hnone] at hopened
  unfold hotplugInit
  split
  · -- the new descriptor is one of the daemon's own
    have hfree : s.io.kernel.openFd.1 ∉ s.io.kernel.opened := lowestFree_not_mem _
    have hstd : s.io.kernel.openFd.1 ∉ stdFds := fun h => hfree (hopened.mem_iff.mpr
      (List.mem_append_right _ (List.mem_cons_of_mem _ (List.mem_append_right _ (List.mem_cons_of_mem _ h)))))
    refine ⟨?_, ?_, fun x hx _ => ?_, fun x hx => ?_, fun hs => (by cases hs)⟩
    · dsimp only
      rw [watch_kernel]
      show replay ((s.io.kernel.trace ++ [Call.open s.io.kernel.openFd.1]).map Call.op) stdFds = some _
      rw [List.map_append]
      refine replay_append_some.mpr ⟨_, h.replayed, replay_cons_some.mpr ⟨_, if_neg hfree, rfl⟩⟩
    · dsimp only
      rw [watch_kernel]
      show (s.io.kernel.openFd.1 :: s.io.kernel.opened).Perm (s.deviceFds ++
        s.ctrlFd :: s.io.kernel.openFd.1 :: s.pipeFd :: stdFds)
      exact ((hopened.cons _).trans List.perm_middle.symm).trans (List.Perm.append_left _ (List.Perm.swap _ _ _))
    · dsimp only at hx
      rw [watch_kernel] at hx
      rcases List.mem_append.mp hx with hx | hx
      · exact h.early hat x hx
      · rw [List.mem_singleton.mp hx]; rfl
    · dsimp only at hx
      rw [watch_kernel] at hx
      rcases List.mem_append.mp hx with hx | hx
      · exact h.std x hx
      · rw [List.mem_singleton.mp hx]; exact hstd
  · exact ⟨h.replayed, hopened, fun x hx _ => h.early hat x hx, h.std, fun hs => (by cases hs)⟩

/-- `looper_cleanup` closes the devices, and its end of the pipe. -/
theorem Sys.InOrder.cleanup {s₁ : Sys} (ho : s.InOrder) (hat : s.phase = .exit) (hfit : s.Fit)
    (h : looperCleanup env s = .ok s₁) : ({ s₁ with phase := .finished } : Sys).InOrder := by
  obtain ⟨s₂, hs₂, h⟩ := bind_eq_ok.mp h
  cases h
  have hopened := ho.opened
  unfold Sys.ownFds at hopened
  rw [if_neg (by rw [hat]; simp)] at hopened
  have hown := looperCleanupHandlers_own s.handlers hs₂
  obtain ⟨⟨l, htrace, hreplay, hclean⟩, hopened'⟩ :=
    looperCleanupHandlers_trades s.handlers (fun g hg => (hfit.gadgets g hg).1) hfit.captures hs₂ ho.nodup hopened
  have hnd : s₂.io.kernel.opened.Nodup := replay_nodup hreplay ho.nodup
  have hclose : Trades s.lastingFds s₂.io.kernel (s.ctrlFd :: s₂.deviceFds) (s₂.io.kernel.closeFd s.ctrlFd)
      s₂.deviceFds := trades_close_head _ _ _
  obtain ⟨⟨l', htrace', hreplay', hclean'⟩, hopened''⟩ := hclose hnd (hopened'.trans List.perm_middle)
  -- the handlers have closed the devices; the write end of the pipe goes last
  have hall : ∀ x ∈ l ++ l', x.fd ∉ s.lastingFds := fun x hx hlast => by
    rcases List.mem_append.mp hx with hx | hx
    · exact hclean x hx (List.mem_cons_of_mem _ hlast)
    · exact hclean' x hx hlast
  have htrace₃ : (s₂.io.kernel.closeFd s₂.ctrlFd).trace = s.io.kernel.trace ++ (l ++ l') := by
    rw [hown.ctrl, htrace', htrace, List.append_assoc]
  refine ⟨?_, ?_, fun x hx hfd => ?_, fun x hx => ?_, fun hs => (by cases hs)⟩
  · show replay ((s₂.io.kernel.closeFd s₂.ctrlFd).trace.map Call.op) stdFds =
      some (s₂.io.kernel.closeFd s₂.ctrlFd).opened
    rw [hown.ctrl, htrace', htrace, List.map_append, List.map_append]
    exact replay_append_some.mpr ⟨_, replay_append_some.mpr ⟨_, ho.replayed, hreplay⟩, hreplay'⟩
  · unfold Sys.ownFds
    rw [if_pos rfl]
    show (s₂.io.kernel.closeFd s₂.ctrlFd).opened.Perm (s₂.deviceFds ++ s₂.lastingFds)
    rw [hown.ctrl, hown.lasting]
    exact hopened''
  · have hx' : x ∈ s.io.kernel.trace ++ (l ++ l') := htrace₃ ▸ hx
    have hlast : x.fd ∈ s.lastingFds := hown.lasting ▸ hfd
    rcases List.mem_append.mp hx' with hx' | hx'
    · exact ho.lasting x hx' hlast
    · exact absurd hlast (hall x hx')
  · have hx' : x ∈ s.io.kernel.trace ++ (l ++ l') := htrace₃ ▸ hx
    rcases List.mem_append.mp hx' with hx' | hx'
    · exact ho.std x hx'
    · exact fun hstd => hall x hx' (std_lasting s hstd)

theorem Does.inOrder (hst : s.Stands) (h : Does env s a s') (ho : s.InOrder) : s'.InOrder := by
  cases h with
  | turn hbatch hearly hover hidle =>
      rename_i phase
      refine ho.quiet rfl rfl rfl rfl ?_ fun hs => ?_
      · unfold Sys.ownFds
        by_cases hfin : s.phase = .finished
        · rw [if_pos hfin, if_pos (hover.mpr hfin)]; rfl
        · rw [if_neg hfin, if_neg fun h => hfin (hover.mp h)]; rfl
      · rcases hearly with heq | hne
        · exact heq.symm.trans hs
        · exact absurd hs (hne .start (by simp)).1
  | plug name => exact ho.quiet (plug_calls _ _).1 (plug_calls _ _).2 rfl rfl rfl id
  | unplug name => exact ho.quiet (unplug_calls _ _).1 (unplug_calls _ _).2 rfl rfl rfl id
  | signal n =>
      have hk := post_kernel env s.io (.signal n)
      refine ho.quiet ?_ ?_ rfl rfl rfl id <;> · dsimp only; rw [hk]; rfl
  | init hat =>
      have hal := hst.alive (by rw [hat]; simp)
      exact ho.init hat (hal.unwatched hat)
  | scan hat =>
      rename_i handlers
      have hk : (hotplugScan env s.io.tick.tick).kernel.trace = s.io.kernel.trace ∧
          (hotplugScan env s.io.tick.tick).kernel.opened = s.io.kernel.opened := by
        unfold hotplugScan
        split
        · rw [scanNames_eq]; exact sendNotes_kernel _ _
        · exact ⟨rfl, rfl⟩
      exact ho.trades (by rw [hat]; simp) (by simp) (by simp) rfl rfl (trades_quiet hk.1 hk.2)
  | looper hat =>
      exact ho.trades (by rw [hat]; simp) (by simp) (by simp) rfl rfl (trades_quiet rfl rfl)
  | hotplug hat =>
      refine ho.after (by rw [hat]; simp) rfl rfl ?_
      have hk := @sendNotes_kernel env (processNotes env s.io.kernel)
        { s.io with kernel := { s.io.kernel.ask with records :=
          (readRecords hotplugBufferSize s.io.kernel.records).2 } }
      rw [← hotplugProcess_eq] at hk
      exact trades_quiet hk.1 hk.2
  | gadget hat hs hcall =>
      -- a device's callback calls on the descriptor of the device only
      have hal := hst.alive (by rw [hat]; simp)
      have hdr := hcall.drives (hal.fit.gadgets _ hs.mem).1
      refine ho.after (by rw [hat]; simp) rfl rfl ?_
      unfold Sys.deviceFds
      rw [gadgetFds_replaced hs.eq hdr.fd]
      exact hdr.trades (List.mem_append_left _ (mem_gadgetFds hs.mem))
  | video hat hs hcall =>
      have hdr := (uvcVideoProcess_turns hcall).toDrives
      refine ho.after (by rw [hat]; simp) rfl rfl ?_
      unfold Sys.deviceFds
      rw [gadgetFds_replaced hs.eq hdr.fd]
      exact hdr.trades (List.mem_append_left _ (mem_gadgetFds hs.mem))
  | capture hat hs hcall =>
      have hdr := (captureProcess_turns hcall).1.toDrives
      refine ho.after (by rw [hat]; simp) rfl rfl ?_
      unfold Sys.deviceFds
      rw [captureFds_replaced hs.eq hdr.fd]
      exact hdr.trades (List.mem_append_right _ (mem_captureFds hs.mem))
  | handle hat hm hserve =>
      rename_i m batch rest s₁
      have hal := hst.alive (by rw [hat]; simp)
      have hown := hserve.own
      refine ho.trades (by rw [hat]; simp) (by simp) (by simp) hown.ctrl hown.lasting ?_
      dsimp only
      rw [settle_kernel]
      exact hserve.trades hal.fit
  | cleanup hat h =>
      have hal := hst.alive (by rw [hat]; simp)
      exact ho.cleanup hat hal.fit h

theorem boot_inOrder (env : Env) (nodes : List DevName) (inforce : Nat → PixFormat) :
    (boot env nodes inforce).InOrder := by
  have hk : (boot env nodes inforce).io.kernel =
      ((Kernel.openFd ⟨0, stdFds, inforce, nodes, [], false, []⟩).2.openFd.2).ask := watch_kernel env _ _ _ _ _
  have htrace : (boot env nodes inforce).io.kernel.trace = [.open 3, .open 4] := by rw [hk]; rfl
  have hopened : (boot env nodes inforce).io.kernel.opened = [4, 3, 2, 1, 0] := by rw [hk]; rfl
  have hopens : ∀ x ∈ [Call.open 3, .open 4], x = .open x.fd := by decide
  refine ⟨?_, ?_, ?_, ?_, fun _ => ?_⟩
  · rw [htrace, hopened]; decide
  · rw [hopened]; exact .refl _
  · rw [htrace]; exact fun x hx _ => hopens x hx
  · rw [htrace]; decide
  · rw [htrace]; exact hopens

/-- **The descriptors are in order** in every state a run reaches. -/
theorem run_inOrder {nodes : List DevName} {inforce : Nat → PixFormat} {as : List Action}
    (h : run env as (boot env nodes inforce) = .ok s) : s.Stands ∧ s.InOrder :=
  run_does (I := Sys.InOrder) (fun _ _ _ hst ho _ h => h.inOrder hst ho) (boot_inOrder env nodes inforce)
    (along_true as _) h

/-- A device that streams has its descriptor open. -/
theorem Sys.InOrder.streams_open {fd : Nat} (h : s.InOrder) (hs : s.Streams fd) : fd ∈ s.io.kernel.opened := by
  refine h.opened.mem_iff.mpr (List.mem_append_left _ ?_)
  rcases hs with ⟨g, hg, rfl, -⟩ | ⟨c, hc, rfl, -⟩
  · exact List.mem_append_left _ (List.mem_map_of_mem hg)
  · exact List.mem_append_right _ (List.mem_map_of_mem hc)

/-- **Every device that is opened is closed once**, and not used after that, in a run that ends; no device is left
    attached, open or streaming, a stream being at all times one of a device that is open. The two descriptors that are
    never closed are no devices: nothing is called on them. -/
theorem devices_closed_once {nodes : List DevName} {inforce : Nat → PixFormat} {as : List Action}
    (h : run env as (boot env nodes inforce) = .ok s) (hend : s.phase = .finished) :
    (∀ pre fd post, s.io.kernel.trace = pre ++ .open fd :: post → fd ≠ s.pipeFd → s.inotifyFd ≠ some fd →
      ReleasedOnce fd (post.map Call.op)) ∧
    (∀ fd, fd = s.pipeFd ∨ s.inotifyFd = some fd → .ioctl fd ∉ s.io.kernel.trace ∧ .close fd ∉ s.io.kernel.trace) ∧
    s.gadgets = [] ∧ s.captures = [] ∧ (∀ fd, ¬s.Streams fd) ∧
    Throughout (step env) (fun t => ∀ fd, t.Streams fd → fd ∈ t.io.kernel.opened) as (boot env nodes inforce) ∧
    s.io.kernel.opened.Perm (s.inotifyFd.toList ++ s.pipeFd :: stdFds) := by
  obtain ⟨hst, ho⟩ := run_inOrder h
  have hover : s.Over := hst.resolve_right fun hal => hal.running hend
  have hopened : s.io.kernel.opened.Perm s.lastingFds := by
    have hopened := ho.opened
    unfold Sys.deviceFds Sys.ownFds at hopened
    rw [if_pos hend, hover.gadgets, hover.captures] at hopened
    exact hopened
  refine ⟨fun pre fd post htrace hpipe hinotify => ?_, fun fd hfd => ?_, hover.gadgets, hover.captures, fun fd hs => ?_,
    fun as' t _ ht fd => (run_inOrder ht).2.streams_open, hopened⟩
  · have hreplay := ho.replayed
    rw [htrace, List.map_append, List.map_cons] at hreplay
    refine released_once hreplay stdFds_nodup fun hheld => ?_
    have hstd : fd ∉ stdFds := ho.std (.open fd) (by rw [htrace]; exact List.mem_append_right _ List.mem_cons_self)
    rcases List.mem_append.mp (hopened.mem_iff.mp hheld) with hmem | hmem
    · exact hinotify (Option.mem_toList.mp hmem)
    · rcases List.mem_cons.mp hmem with heq | hmem
      · exact hpipe heq
      · exact hstd hmem
  · have hlast : fd ∈ s.lastingFds := by
      unfold Sys.lastingFds
      rcases hfd with rfl | hfd
      · exact List.mem_append_right _ List.mem_cons_self
      · exact List.mem_append_left _ (Option.mem_toList.mpr hfd)
    constructor
    · intro hm
      cases ho.lasting _ hm hlast
    · intro hm
      cases ho.lasting _ hm hlast
  · unfold Sys.Streams at hs
    rw [hover.gadgets, hover.captures] at hs
    rcases hs with ⟨g, hg, -⟩ | ⟨c, hc, -⟩
    · cases hg
    · cases hc

/-- Both devices of the bench stream when a signal ends the loop. -/
theorem devices_closed_once_streaming :
    ∃ s, run (bench 900) (streamUp ++ .signal 15 :: turn [3] 6) (benchBoot 900) = .ok s ∧ s.phase = .finished ∧
      (∃ pre post, s.io.kernel.trace = pre ++ .open 6 :: post ∧ ReleasedOnce 6 (post.map Call.op)) ∧
      s.io.kernel.opened.Perm [5, 3, 2, 1, 0] := by
  obtain ⟨s, h, hend, hpipe, hinotify, hopen⟩ : ∃ s, run (bench 900) (streamUp ++ .signal 15 :: turn [3] 6)
      (benchBoot 900) = .ok s ∧ s.phase = .finished ∧ s.pipeFd = 3 ∧ s.inotifyFd = some 5 ∧
      .open 6 ∈ s.io.kernel.trace := by
    decide +kernel
  obtain ⟨honce, -, -, -, -, -, hopened⟩ := devices_closed_once h hend
  obtain ⟨pre, post, htrace⟩ := List.append_of_mem hopen
  rw [hpipe, hinotify] at honce hopened
  exact ⟨s, h, hend, ⟨pre, post, htrace, honce pre 6 post htrace (by decide) (by decide)⟩, hopened⟩

end Uvcd
