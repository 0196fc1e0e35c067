import Uvcd.Protocol.Places
import Uvcd.Protocol.Wiring
import Uvcd.Refinement.Steps

/-!
# `Correctness.Standing` — the invariant every run of the daemon keeps

`Standing` puts the wiring of the watch list and the addresses of the objects together; it holds at boot
and every move keeps it, whatever drivers, hosts and allocators do. The results on single mechanisms
build on it.

* `watch_list_exact` — with allocations and `hotplug_init` succeeding, the watch list is exactly the
  looper's and inotify's watch, a control watch for each gadget, and a stream watch for each streaming
  gadget and capture; the sets and `maxfd` agree with it.
-/

namespace Uvcd

open Machine Split

variable {env : Env}

structure Standing (env : Env) (s : Sys) : Prop where
  wired : Wired env s.view.board s.view.owners
  housed : Housed s.view

/-! ## Every move keeps it -/

theorem View.owners_watched {v : View} {w : Board} {fd : Nat} (hnone : v.inotifyFd = none) :
    (⟨fd, [inotifyWatch fd]⟩ :: v.owners).Perm { v with board := w, inotifyFd := some fd }.owners := by
  unfold View.owners View.base
  rw [hnone]
  simp only [Option.map_none, Option.toList_none, Option.map_some, Option.toList_some,
    List.cons_append, List.nil_append]
  exact (List.Perm.swap _ _ _).trans ((List.Perm.swap _ _ _).cons _)

theorem Moves.wired {s s' : Sys} {a : Action} (h : Moves env s s' a)
    (hw : Wired env s.view.board s.view.owners) : Wired env s'.view.board s'.view.owners := by
  cases h with
  | idle _ hview => rw [hview]; exact hw
  | dev _ hview => rw [hview]; exact hw.of_eq rfl hw.ok rfl
  | signal _ hp hview => rw [hview]; exact hw.posts hp
  | select _ _ hview => rw [hview]; exact hw
  | selectFailed _ _ hview => rw [hview]; exact hw
  | unwatched _ _ _ _ he hview => rw [hview]; exact hw.elapses he
  | watched hat _ hnone hfd hwatch hview =>
      rw [hview]
      have h₀ : Wired env { s.view.board.openFd _ with watching := true } _ :=
        (hw.openFd hfd).of_eq rfl hw.ok rfl
      have h₁ := h₀.watch hwatch rfl (fun x hx => by cases hx)
      exact h₁.perm (View.owners_watched hnone)
  | scanned _ _ _ hp hview => rw [hview]; exact hw.postsAll hp
  | roundDone _ _ hview => rw [hview]; exact hw
  | looper _ _ he hview => rw [hview]; exact hw.elapses he
  | hotplug hat hphase hms hp hview hnil =>
      rename_i fd rest records ms w
      rw [hview]
      have h₀ : Wired env { s.view.board with records := records } _ := hw.of_eq rfl hw.ok rfl
      exact h₀.postsAll hp
  | gadget _ _ hs hcall hview =>
      rw [hview]
      exact (hcall.wired (hw.perm (View.owners_gadget (Sys.gadgets_view hs)))).perm
        (View.owners_gadget (v := { s.view with board := _, gadgets := _ }) rfl).symm
  | video _ _ _ he hview => rw [hview]; exact hw.elapses he
  | capture _ _ hs hcall hview =>
      rw [hview]
      exact (hcall.wired (hw.perm (View.owners_capture (Sys.captures_view hs)))).perm
        (View.owners_capture (v := { s.view with board := _, captures := _ }) rfl).symm
  | batchDone _ _ hview => rw [hview]; exact hw
  | handle _ _ hm => exact hm.wired (hw.of_eq rfl hw.ok rfl)

theorem Moves.housed {s s' : Sys} {a : Action} (h : Moves env s s' a) (hh : Housed s.view) :
    Housed s'.view := by
  have hlater : ∀ {w : Board}, s.view.board.brk ≤ w.brk → Housed { s.view with board := w } :=
    fun hle => ⟨hh.placed.mono hle, hh.framed⟩
  cases h with
  | idle _ hview => rw [hview]; exact hh
  | dev _ hview => rw [hview]; exact hlater (Nat.le_refl _)
  | signal _ hp hview => rw [hview]; exact hlater hp.brk_le
  | select _ _ hview => rw [hview]; exact hh
  | selectFailed _ _ hview => rw [hview]; exact hh
  | unwatched _ _ _ _ he hview => rw [hview]; exact hlater he.brk_le
  | watched _ _ _ _ hwatch hview =>
      rw [hview]
      exact ⟨hh.placed.mono hwatch.brk_le, hh.framed⟩
  | scanned _ _ _ hp hview => rw [hview]; exact hlater hp.brk_le
  | roundDone _ _ hview => rw [hview]; exact hh
  | looper _ _ he hview => rw [hview]; exact hlater he.brk_le
  | hotplug _ _ _ hp hview => rw [hview]; exact hlater hp.brk_le
  | gadget hat hphase hs hcall hview =>
      -- the gadget keeps its address
      rename_i fd addr rest pre post g g' w
      obtain ⟨hle, haddr⟩ := hcall.brk_le
      rw [hview]
      refine ⟨?_, hh.framed⟩
      have hplaces : { s.view with
          board := w, gadgets := pre.map Gadget.view ++ g' :: post.map Gadget.view }.places
          = s.view.places := by
        simp only [View.places, Sys.gadgets_view hs, List.map_append, List.map_cons, haddr]
      rw [hplaces]
      exact hh.placed.mono hle
  | video _ _ _ he hview => rw [hview]; exact hlater he.brk_le
  | capture hat hphase hs hcall hview =>
      rename_i fd addr rest pre post c c' w
      have heq := Sys.captures_view hs
      have hc : c.view ∈ s.view.captures := by rw [heq]; simp
      obtain ⟨h₁, h₂⟩ := hcall.placed (hh.framed _ hc) (hh.placed.perm (View.places_capture heq))
      -- a start puts the frames of the capture at a new address
      rw [hview]
      refine ⟨h₁.perm (View.places_capture (v := { s.view with
        board := w, captures := pre.map Capture.view ++ c' :: post.map Capture.view }) rfl).symm,
        fun x hx => ?_⟩
      rcases List.mem_append.mp hx with hx | hx
      · exact hh.framed x (by rw [heq]; simp [hx])
      · rcases List.mem_cons.mp hx with rfl | hx
        · exact h₂
        · exact hh.framed x (by rw [heq]; simp [hx])
  | batchDone _ _ hview => rw [hview]; exact hh
  | handle _ _ hm => exact hm.housed ⟨hh.placed, hh.framed⟩

theorem Moves.standing {s s' : Sys} {a : Action} (h : Moves env s s' a) (hs : Standing env s) :
    Standing env s' := ⟨h.wired hs.wired, h.housed hs.housed⟩

/-! ## Boot -/

/-- The pipe's descriptors are the first two after the standard ones. -/
theorem boot_standing (env : Env) (nodes : List DevName) (inforce : Nat → PixFormat) :
    Standing env (boot env nodes inforce) := by
  refine ⟨?_, ⟨⟨List.nodup_nil, fun a ha => by cases ha⟩, fun c hc => by cases hc⟩⟩
  have h0 : Wired env ⟨eventsInit, stdFds, [], 0, 2, nodes, [], false, [], []⟩ [] :=
    ⟨eventsInit_ok, fun o ho => (by cases ho), fun e he => (by cases he), fun _ o ho => (by cases ho),
      List.nodup_nil, fun o ho => by cases ho⟩
  have h1 := (h0.openFd (show 3 ∉ stdFds by decide)).openFd (show 4 ∉ 3 :: stdFds by decide)
  have h2 := h1.perm (List.Perm.swap _ _ _)
  have hw := watches_watch (b := []) env
    ⟨⟨2, 4 :: 3 :: stdFds, inforce, nodes, [], false, [.open 3, .open 4]⟩, eventsInit, [], 0, [], [], [], [],
      []⟩ 3 .read .looperProcess .looper
  exact h2.watch hw rfl (fun x hx => by cases hx)

theorem reaches_standing {s : Sys} (hr : Reaches env s) (hrun : s.phase ≠ .finished) :
    s.Alive ∧ Standing env s := by
  obtain ⟨nodes, inforce, as, has⟩ := hr
  exact run_moves_inv (C := fun _ _ => True) (fun a s s' _ _ hs _ hm => hm.standing hs)
    (boot_standing env nodes inforce) (along_true as _) has hrun

/-! ## The watch list between callbacks -/

theorem Handles.fds {refuses : Prop} {v v' : View} {m : Message} (h : Handles env refuses v m v') :
    v'.pipeFd = v.pipeFd ∧ v'.ctrlFd = v.ctrlFd ∧ v'.inotifyFd = v.inotifyFd := by
  cases h <;> exact ⟨rfl, rfl, rfl⟩

theorem map_sublist_flatMap {α β : Type} {f : α → β} {g : α → List β} {l : List α}
    (h : ∀ a, [f a].Sublist (g a)) : (l.map f).Sublist (l.flatMap g) := by
  induction l with
  | nil => exact List.Sublist.refl _
  | cons a l ih =>
      rw [List.map_cons, List.flatMap_cons]
      exact (h a).append ih

/-- The watches the daemon is meant to hold. -/
def Sys.watches (s : Sys) (inotify : Nat) : List EventFd :=
  [⟨s.pipeFd, .read, .looperProcess, .looper⟩, ⟨inotify, .read, .hotplugProcess, .looper⟩]
    ++ (s.gadgets.flatMap fun g =>
      ⟨g.vdev.fd, .exception, .uvcGadgetProcess, .gadget g.addr⟩
        :: if g.isStreaming then [⟨g.vdev.fd, .write, .uvcVideoProcess, .gadget g.addr⟩] else [])
    ++ s.captures.flatMap fun c =>
      if c.isStreaming then [⟨c.vdev.fd, .read, .captureProcess, .capture c.addr⟩] else []

theorem Sys.owners_watches {s : Sys} {inotify : Nat} (h : s.inotifyFd = some inotify) :
    s.view.owners.flatMap (·.watches) = s.watches inotify := by
  have hbase : s.view.base
      = [⟨s.pipeFd, [pipeWatch s.pipeFd]⟩, ⟨s.ctrlFd, []⟩, ⟨inotify, [inotifyWatch inotify]⟩] := by
    show View.base ⟨_, _, _, s.pipeFd, s.ctrlFd, s.inotifyFd⟩ = _
    rw [h]; rfl
  have hg : s.view.gadgets = s.gadgets.map Gadget.view := rfl
  have hc : s.view.captures = s.captures.map Capture.view := rfl
  unfold View.owners Sys.watches
  rw [hbase, hg, hc]
  simp only [List.flatMap_append, List.flatMap_map, List.map_map]
  rfl

theorem Moves.inotify {s s' : Sys} {a : Action} (h : Moves env s s' a)
    (hi : ∀ t, env.inotifyInit t = true) (hs : s.phase ≠ .start → s.inotifyFd.isSome = true) :
    s'.phase ≠ .start → s'.inotifyFd.isSome = true := by
  have hkeep : s'.view.inotifyFd = s.view.inotifyFd → s.phase ≠ .start → s'.inotifyFd.isSome = true := by
    intro heq hne
    have : s'.inotifyFd = s.inotifyFd := heq
    rw [this]; exact hs hne
  intro hne
  cases h with
  | idle hphase hview => exact hkeep (by rw [hview]) (hphase ▸ hne)
  | dev hphase hview => exact hkeep (by rw [hview]) (hphase ▸ hne)
  | signal hphase hp hview => exact hkeep (by rw [hview]) (hphase ▸ hne)
  | select hat _ hview => exact hkeep (by rw [hview]) (by rw [hat]; simp)
  | selectFailed hat _ hview => exact hkeep (by rw [hview]) (by rw [hat]; simp)
  | unwatched _ _ hno _ _ _ =>
      obtain ⟨t, ht⟩ := hno
      rw [hi t] at ht; cases ht
  | watched _ _ _ _ _ hview =>
      have : s'.view.inotifyFd.isSome = true := by rw [hview]; rfl
      exact this
  | scanned hat _ _ _ hview => exact hkeep (by rw [hview]) (by rw [hat]; simp)
  | roundDone hat _ hview => exact hkeep (by rw [hview]) (by rw [hat]; simp)
  | looper hat _ _ hview => exact hkeep (by rw [hview]) (by rw [hat]; simp)
  | hotplug hat _ _ _ hview => exact hkeep (by rw [hview]) (by rw [hat]; simp)
  | gadget hat _ _ _ hview => exact hkeep (by rw [hview]) (by rw [hat]; simp)
  | video hat _ _ _ hview => exact hkeep (by rw [hview]) (by rw [hat]; simp)
  | capture hat _ _ _ hview => exact hkeep (by rw [hview]) (by rw [hat]; simp)
  | batchDone hat _ hview => exact hkeep (by rw [hview]) (by rw [hat]; simp)
  | handle hat _ hm => exact hkeep (hm.fds).2.2 (by rw [hat]; simp)

/-- **The watch list, exactly.** From `hotplug_init` until `main` returns every watch the daemon is meant
    to hold is there once, on an open descriptor, and nothing else is; the sets hold exactly the watched
    descriptors and `maxfd` bounds them. Addresses are not shared, so each `priv` leads to the object it
    was registered for. -/
theorem watch_list_exact (hm : ∀ t, env.malloc t = true) (hi : ∀ t, env.inotifyInit t = true) {s : Sys}
    (hr : Reaches env s) (hstart : s.phase ≠ .start) (hend : s.phase ≠ .finished) :
    ∃ inotify, s.inotifyFd = some inotify ∧
      s.io.events.events.Perm (s.watches inotify) ∧
      (∀ e ∈ s.io.events.events, e.fd ∈ s.io.kernel.opened) ∧
      (s.gadgets.map (·.addr) ++ s.captures.map (·.addr)).Nodup ∧
      (∀ type fd, s.io.events.fds type fd = true ↔ ∃ e ∈ s.io.events.events, e.fd = fd ∧ e.type = type) ∧
      ∀ e ∈ s.io.events.events, e.fd ≤ s.io.events.maxfd := by
  obtain ⟨nodes, inforce, as, has⟩ := hr
  obtain ⟨-, hs, hino⟩ := run_moves_inv (C := fun _ _ => True)
    (I := fun s => Standing env s ∧ (s.phase ≠ .start → s.inotifyFd.isSome = true))
    (fun a s s' _ _ hI _ hmv => ⟨hmv.standing hI.1, hmv.inotify hi hI.2⟩)
    ⟨boot_standing env nodes inforce, fun h => absurd rfl h⟩ (along_true as _) has hend
  obtain ⟨inotify, hinotify⟩ := Option.isSome_iff_exists.mp (hino hstart)
  have hw := hs.wired
  refine ⟨inotify, hinotify, ?_, ?_, ?_, hw.ok.sets, hw.ok.maxfd⟩
  · rw [← Sys.owners_watches hinotify]
    exact hw.perm_watches hm
  · intro e he
    obtain ⟨o, ho, heo⟩ := hw.sound e he
    rw [(hw.owner o ho).fd e heo]
    exact hw.opened o ho
  · refine hs.housed.placed.nodup.sublist ?_
    have hsub : (s.captures.map (·.addr)).Sublist (s.view.captures.flatMap CaptureView.places) := by
      show (s.captures.map (·.addr)).Sublist ((s.captures.map Capture.view).flatMap CaptureView.places)
      rw [List.flatMap_map]
      exact map_sublist_flatMap fun c => List.Sublist.cons_cons _ (List.nil_sublist _)
    have hg : s.view.gadgets.map (·.addr) = s.gadgets.map (·.addr) := by
      show (s.gadgets.map Gadget.view).map (·.addr) = _
      rw [List.map_map]; rfl
    show (s.gadgets.map (·.addr) ++ s.captures.map (·.addr)).Sublist s.view.places
    unfold View.places
    rw [hg]
    exact hsub.append_left _

/-- The list while both ends of a stream run. -/
theorem watch_list_exact_streaming :
    ∃ s inotify, run (bench 900) streamUp (benchBoot 900) = .ok s ∧
      (s.gadgets.map (·.isStreaming), s.captures.map (·.isStreaming)) = ([true], [true]) ∧
      s.io.events.events.Perm (s.watches inotify) := by
  obtain ⟨s, h, hon, hat⟩ : ∃ s, run (bench 900) streamUp (benchBoot 900) = .ok s ∧
      (s.gadgets.map (·.isStreaming), s.captures.map (·.isStreaming)) = ([true], [true]) ∧
      s.phase = .select := by
    decide +kernel
  obtain ⟨inotify, -, hperm, -⟩ := watch_list_exact (fun _ => rfl) (fun _ => rfl)
    (show Reaches (bench 900) s from ⟨_, _, _, h⟩) (by rw [hat]; simp) (by rw [hat]; simp)
  exact ⟨s, inotify, h, hon, hperm⟩

end Uvcd
