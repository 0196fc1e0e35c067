import Uvcd.Correctness.Standing
import Uvcd.Protocol.Frames

/-!
# `Correctness.Dispatch` — the callbacks of a round against the watches there still are

`events_dispatch` copies the ready watches before it calls anything. An entry of that copy stays good only
while nothing unregisters its watch: `Outlives` is the condition on a step that nothing it drops is still
to be called in the round. Along such steps every callback is called with its watch registered and its
object attached (`callbacks_live`); without it one is not (`stale_callback`).
-/

namespace Uvcd

open Machine Split

variable {env : Env}

/-! ## What the operations unregister -/

section Drops

variable {w w' : Board} {g g' : GadgetView} {c c' : CaptureView} {rest : List Owner}
  {ev : Except Errno UvcEvent} {e : EventFd}

theorem Elapses.keeps (h : Elapses w w') (he : e ∈ w.events.events) : e ∈ w'.events.events := by
  rw [h.events_eq]; exact he

theorem Posts.keeps {m : Message} (h : Posts env m w w') (he : e ∈ w.events.events) :
    e ∈ w'.events.events := by
  obtain ⟨t, ht⟩ := h
  refine ht.keeps ?_
  unfold Board.post
  split <;> exact he

theorem PostsAll.keeps {ms : List Message} (h : PostsAll env ms w w') (he : e ∈ w.events.events) :
    e ∈ w'.events.events := by
  induction h with
  | done hel => exact hel.keeps he
  | send hp _ ih => exact ih (hp.keeps he)

theorem Watches.keeps {x : EventFd} (h : Watches env x w w') (he : e ∈ w.events.events) :
    e ∈ w'.events.events := by
  obtain ⟨t, ht⟩ := h
  refine ht.keeps ?_
  unfold Board.watch
  split
  · exact mem_watchFd.mpr (.inl he)
  · exact he

theorem StartsGadget.keeps (h : StartsGadget env w g w' g') (he : e ∈ w.events.events) :
    e ∈ w'.events.events := by
  cases h with
  | idle hel => exact hel.keeps he
  | start hoff hw hp => exact hp.keeps (hw.keeps he)

theorem StopsGadget.drops (h : StopsGadget env w g w' g') (hw : Wired env w (g.owner :: rest))
    (he : e ∈ w.events.events) : e ∈ w'.events.events ∨ e = g.video := by
  cases h with
  | idle hoff hel => exact .inl (hel.keeps he)
  | stop hon hp =>
      by_cases hhit : e.fd = g.fd ∧ e.type = .write
      · have hmem := hw.owned he hhit.1
        simp only [GadgetView.owner, hon, if_true, List.mem_cons, List.not_mem_nil, or_false] at hmem
        rcases hmem with rfl | rfl
        · exact absurd hhit.2 (show EventType.exception ≠ .write by decide)
        · exact .inr rfl
      · exact .inl (hp.keeps ((mem_unwatchFd hw.ok).mpr ⟨he, hhit⟩))

theorem GadgetCalls.drops (h : GadgetCalls env ev w g w' g') (hw : Wired env w (g.owner :: rest))
    (he : e ∈ w.events.events) : e ∈ w'.events.events ∨ (ev = .ok .streamoff ∧ e = g.video) := by
  cases h with
  | quiet hel => exact .inl (hel.keeps he)
  | start hev h => exact .inl (h.keeps he)
  | stop hev h => exact (h.drops hw he).imp id fun h => ⟨hev, h⟩
  | commit hev hel => exact .inl (hel.keeps he)
  | setFmt hev hwi hh hf hp => exact .inl (hp.keeps he)

theorem StartsCapture.keeps (h : StartsCapture env w c w' c') (he : e ∈ w.events.events) :
    e ∈ w'.events.events := by
  cases h with
  | idle hel => exact hel.keeps he
  | start hoff hfresh hlt hstride hw => exact hw.keeps he

theorem StopsCapture.drops (h : StopsCapture w c w' c') (hw : Wired env w (c.owner :: rest))
    (he : e ∈ w.events.events) : e ∈ w'.events.events ∨ e = c.source := by
  cases h with
  | idle hoff hel => exact .inl (hel.keeps he)
  | stop hon hel =>
      by_cases hhit : e.fd = c.fd ∧ e.type = .read
      · have hmem := hw.owned he hhit.1
        simp only [CaptureView.owner, hon, if_true, List.mem_singleton] at hmem
        exact .inr hmem
      · exact .inl (hel.keeps ((mem_unwatchFd hw.ok).mpr ⟨he, hhit⟩))

theorem CaptureCalls.keeps (h : CaptureCalls env w c w' c') (he : e ∈ w.events.events) :
    e ∈ w'.events.events := by
  cases h with
  | quiet hel => exact hel.keeps he
  | frame hf hoff haddr hstride hstamp htick hp =>
      refine hp.keeps ?_
      unfold Board.publish
      split <;> exact he

/-- The object whose watches a message may unregister, as the `priv` of these watches. -/
def unregisters (gadgets : List GadgetView) (captures : List CaptureView) (m : Message) : Option Priv :=
  match detachedGadget gadgets m with
  | some g => some (.gadget g.addr)
  | none => (stoppedCapture gadgets captures m).map fun c => .capture c.addr

/-- **What a message unregisters** belongs to the object it drops. -/
theorem Handles.drops {refuses : Prop} {v v' : View} {m : Message} (h : Handles env refuses v m v')
    (hw : Wired env v.board v.owners) (he : e ∈ v.board.events.events) :
    e ∈ v'.board.events.events ∨ unregisters v.gadgets v.captures m = some e.priv := by
  -- what a stopped capture loses is the watch of its stream
  have hcapture : ∀ {c : CaptureView}, detachedGadget v.gadgets m = none →
      stoppedCapture v.gadgets v.captures m = some c →
      unregisters v.gadgets v.captures m = some (.capture c.addr) := by
    intro c hg hc
    simp only [unregisters, hg, hc, Option.map_some]
  cases h with
  | signal => exact .inl he
  | attachFailed hel => exact .inl (hel.keeps he)
  | gadgetAttached hname hoff hfmt hfd haddr hlt hwatch hp => exact .inl (hp.keeps (hwatch.keeps he))
  | captureAttached hname hoff hid hsize hframes hfd haddr hlt hel => exact .inl (hel.keeps he)
  | gadgetDetached hs hstop hp =>
      rename_i p name pre post g g' w₁ w₂
      have hw₀ := hw.perm (View.owners_gadget hs.eq)
      -- the stop drops the watch of the stream, the detach that of the events
      rcases hstop.drops hw₀ he with he₁ | rfl
      · have hw₁ := hstop.wired hw₀
        rw [hstop.owner] at hw₁
        by_cases hhit : e.fd = g.fd ∧ e.type = .exception
        · have hmem := hw₁.owned he₁ hhit.1
          rw [List.mem_singleton] at hmem
          subst hmem
          exact .inr (by simp only [unregisters, detachedGadget_splits hs]; rfl)
        · exact .inl (hp.keeps ((mem_unwatchFd hw₁.ok).mpr ⟨he₁, hhit⟩))
      · exact .inr (by simp only [unregisters, detachedGadget_splits hs]; rfl)
  | captureDetached hg hs hstop hel =>
      rcases hstop.drops (hw.perm (View.owners_capture hs.eq)) he with he₁ | rfl
      · exact .inl (hel.keeps he₁)
      · exact .inr (hcapture (detachedGadget_missed hg) (stoppedCapture_named hg hs))
  | detachMissed hg hc => exact .inl he
  | setFmtHeld hs hel => exact .inl (hel.keeps he)
  | setFmtPaired hr hs hfree hel => exact .inl (hel.keeps he)
  | setFmtUnpaired hr hel => exact .inl (hel.keeps he)
  | streamOn hs hstart => exact .inl (hstart.keeps he)
  | streamOnMissed hc => exact .inl he
  | streamOff hs hstop =>
      rcases hstop.drops (hw.perm (View.owners_capture hs.eq)) he with he₁ | rfl
      · exact .inl he₁
      · exact .inr (hcapture rfl (stoppedCapture_holder hs (by simp)))
  | streamOffMissed hc => exact .inl he
  | uvcAttached => exact .inl he
  | uvcDetached hs hstop =>
      rcases hstop.drops (hw.perm (View.owners_capture hs.eq)) he with he₁ | rfl
      · exact .inl he₁
      · exact .inr (hcapture rfl (stoppedCapture_holder hs (by simp)))
  | uvcDetachedMissed hc => exact .inl he
  | frameCopied hs hon hf => exact .inl he
  | frameDropped hs => exact .inl he

end Drops

/-! ## The property and the condition -/

/-- The entry was made from a watch that is still registered. -/
def Sys.Registered (s : Sys) (t : EventIter) : Prop := ∃ e ∈ s.io.events.events, e.iter = t

/-- The object `priv` points to is attached. -/
def Sys.Attached (s : Sys) : Priv → Prop
  | .looper => True
  | .gadget addr => ∃ g ∈ s.gadgets, g.addr = addr
  | .capture addr => ∃ c ∈ s.captures, c.addr = addr

instance (s : Sys) (t : EventIter) : Decidable (s.Registered t) :=
  inferInstanceAs (Decidable (∃ e ∈ s.io.events.events, e.iter = t))

instance (s : Sys) : ∀ p : Priv, Decidable (s.Attached p)
  | .looper => .isTrue trivial
  | .gadget addr => inferInstanceAs (Decidable (∃ g ∈ s.gadgets, g.addr = addr))
  | .capture addr => inferInstanceAs (Decidable (∃ c ∈ s.captures, c.addr = addr))

/-- The callback about to be called. -/
def Phase.call : Phase → Option EventIter
  | .dispatch (t :: _) => some t
  | _ => none

/-- The callback about to be called is registered and its object attached. -/
def Sys.CallbackLive (s : Sys) : Prop := ∀ t ∈ s.phase.call, s.Registered t ∧ s.Attached t.priv

instance (s : Sys) : Decidable s.CallbackLive :=
  inferInstanceAs (Decidable (∀ t ∈ s.phase.call, s.Registered t ∧ s.Attached t.priv))

theorem Phase.call_some {p : Phase} {t : EventIter} (h : t ∈ p.call) : ∃ rest, p = .dispatch (t :: rest) := by
  unfold Phase.call at h
  split at h
  · next u rest =>
      rw [Option.mem_some_iff] at h
      exact ⟨rest, by rw [h]⟩
  · cases h

/-- **Nothing a step drops is still to be called in the round.** A handled message drops no object with an
    entry left, and a gadget that is told to stop streaming has no entry of its stream left. -/
def Sys.outlives (env : Env) (s : Sys) : Bool :=
  match s.phase with
  | .process (m :: _) iter =>
    iter.all fun t => decide (unregisters s.view.gadgets s.view.captures m ≠ some t.priv)
  | .dispatch (⟨_, .uvcGadgetProcess, .gadget addr⟩ :: rest) =>
    match s.gadgets.find? fun g => decide (g.addr = addr) with
    | some g =>
      match env.dqevent s.io.kernel.tick g.vdev.file with
      | .ok .streamoff =>
        rest.all fun t => decide (t.callback ≠ .uvcVideoProcess) || decide (t.priv ≠ .gadget addr)
      | _ => true
    | none => true
  | _ => true

/-- The steps the program itself takes outlive their round. -/
def Outlives (env : Env) : Action → Sys → Prop
  | .next, s => s.outlives env = true
  | _, _ => True

instance (env : Env) : ∀ (a : Action) (s : Sys), Decidable (Outlives env a s)
  | .next, s => inferInstanceAs (Decidable (s.outlives env = true))
  | .plug _, _ | .unplug _, _ | .signal _, _ | .select _, _ | .selectFailed, _ => .isTrue trivial

theorem Phase.iter_after {s : Sys} {done : Bool} {rest : List EventIter}
    (h : s.phase = .after done rest) : ∀ t ∈ s.iter, t ∈ rest := by
  intro t ht
  unfold Sys.iter at ht
  rw [h] at ht
  unfold Phase.after at ht
  cases done with
  | false => exact ht
  | true => cases ht

theorem Sys.iter_dispatch {s : Sys} {iter : List EventIter} (h : s.phase = .dispatch iter) :
    s.iter = iter := by unfold Sys.iter; rw [h]

theorem Sys.iter_process {s : Sys} {batch : List Message} {iter : List EventIter}
    (h : s.phase = .process batch iter) : s.iter = iter := by unfold Sys.iter; rw [h]

/-! ## Every entry stays registered -/

/-- Only attached objects hold watches. -/
theorem Standing.attached {s : Sys} {e : EventFd} (hs : Standing env s)
    (he : e ∈ s.io.events.events) : s.Attached e.priv := by
  obtain ⟨o, ho, heo⟩ := hs.wired.sound e he
  rcases List.mem_append.mp ho with ho | ho
  · rcases List.mem_append.mp ho with ho | ho
    · have hpriv : e.priv = .looper := by
        rcases List.mem_cons.mp ho with rfl | ho
        · rw [List.mem_singleton.mp heo]; rfl
        rcases List.mem_cons.mp ho with rfl | ho
        · cases heo
        · obtain ⟨fd, -, rfl⟩ := Option.map_eq_some_iff.mp (Option.mem_toList.mp ho)
          rw [List.mem_singleton.mp heo]; rfl
      rw [hpriv]; trivial
    · obtain ⟨_, hg, rfl⟩ := List.mem_map.mp ho
      obtain ⟨g, hmem, rfl⟩ := List.mem_map.mp hg
      have hpriv : e.priv = .gadget g.addr := by
        rcases List.mem_cons.mp heo with rfl | heo
        · rfl
        · split at heo
          · rw [List.mem_singleton.mp heo]; rfl
          · cases heo
      rw [hpriv]; exact ⟨g, hmem, rfl⟩
  · obtain ⟨_, hc, rfl⟩ := List.mem_map.mp ho
    obtain ⟨c, hmem, rfl⟩ := List.mem_map.mp hc
    have hpriv : e.priv = .capture c.addr := by
      simp only [CaptureView.owner] at heo
      split at heo
      · rw [List.mem_singleton.mp heo]; rfl
      · cases heo
    rw [hpriv]; exact ⟨c, hmem, rfl⟩

/-- **Step lemma.** -/
theorem Moves.registered {s s' : Sys} {a : Action} (h : Moves env s s' a) (hs : Standing env s)
    (hC : Outlives env a s) (hI : ∀ t ∈ s.iter, s.Registered t) : ∀ t ∈ s'.iter, s'.Registered t := by
  have hw := hs.wired
  -- where entries of the round are only dropped and no watch goes, every entry keeps its watch
  have hsame : (∀ t ∈ s'.iter, t ∈ s.iter) →
      (∀ t ∈ s'.iter, ∀ e ∈ s.view.board.events.events, e.iter = t → e ∈ s'.view.board.events.events) →
      ∀ t ∈ s'.iter, s'.Registered t := by
    intro hsub hkeep t ht
    obtain ⟨e, he, rfl⟩ := hI t (hsub t ht)
    exact ⟨e, hkeep _ ht e he rfl, rfl⟩
  have hphase : s'.phase = s.phase → ∀ t ∈ s'.iter, t ∈ s.iter := by
    intro heq t ht
    unfold Sys.iter at ht ⊢
    rwa [heq] at ht
  have htail : ∀ {t₀ : EventIter} {rest : List EventIter} {done : Bool}, s.phase = .dispatch (t₀ :: rest) →
      s'.phase = .after done rest → (∀ t ∈ s'.iter, t ∈ rest) ∧ ∀ t ∈ s'.iter, t ∈ s.iter := by
    intro t₀ rest done hat hafter
    refine ⟨Phase.iter_after hafter, fun t ht => ?_⟩
    rw [Sys.iter_dispatch hat]
    exact List.mem_cons_of_mem _ (Phase.iter_after hafter t ht)
  cases h with
  | idle hp hview => exact hsame (hphase hp) fun t _ e he _ => by rw [hview]; exact he
  | dev hp hview => exact hsame (hphase hp) fun t _ e he _ => by rw [hview]; exact he
  | signal hp hpost hview => exact hsame (hphase hp) fun t _ e he _ => by rw [hview]; exact hpost.keeps he
  | select hat hp hview =>
      -- the snapshot is taken from the watch list
      intro t ht
      rw [Sys.iter_dispatch hp] at ht
      obtain ⟨e, he, heq, -⟩ := mem_snapshot ht
      refine ⟨e, ?_, heq⟩
      have hev : s'.view.board.events = s.view.board.events := by rw [hview]
      have hev : s'.io.events = s.io.events := hev
      rw [hev]; exact he
  | selectFailed hat hp hview => intro t ht; unfold Sys.iter at ht; rw [hp] at ht; cases ht
  | unwatched hat hp hno hnone he hview => intro t ht; unfold Sys.iter at ht; rw [hp] at ht; cases ht
  | watched hat hp hnone hfd hwatch hview => intro t ht; unfold Sys.iter at ht; rw [hp] at ht; cases ht
  | scanned hat hp hms hpost hview => intro t ht; unfold Sys.iter at ht; rw [hp] at ht; cases ht
  | roundDone hat hp hview => intro t ht; unfold Sys.iter at ht; rw [hp] at ht; cases ht
  | looper hat hp hel hview =>
      refine hsame (fun t ht => ?_) fun t _ e he _ => by rw [hview]; exact hel.keeps he
      rw [Sys.iter_process hp] at ht
      rw [Sys.iter_dispatch hat]
      exact List.mem_cons_of_mem _ ht
  | hotplug hat hp hms hpost hview =>
      exact hsame (htail hat hp).2 fun t _ e he _ => by rw [hview]; exact hpost.keeps he
  | gadget hat hp hsp hcall hview =>
      refine hsame (htail hat hp).2 fun t ht e he heq => ?_
      rw [hview]
      -- the callback may end the gadget's stream, and with it one watch
      rcases hcall.drops (hw.perm (View.owners_gadget (Sys.gadgets_view hsp))) he with he' | ⟨hev, rfl⟩
      · exact he'
      · -- the only watch a gadget's own callback drops is that of its stream
        have hno : s.outlives env = true := hC
        simp only [Sys.outlives, hat, hsp.find_eq, hev] at hno
        have hthis := List.all_eq_true.mp hno t ((htail hat hp).1 t ht)
        rw [← heq] at hthis
        simp [GadgetView.video, EventFd.iter, Gadget.view, hsp.hit] at hthis
  | video hat hp hsp hel hview =>
      exact hsame (htail hat hp).2 fun t _ e he _ => by rw [hview]; exact hel.keeps he
  | capture hat hp hsp hcall hview =>
      exact hsame (htail hat hp).2 fun t _ e he _ => by rw [hview]; exact hcall.keeps he
  | batchDone hat hp hview =>
      refine hsame (fun t ht => ?_) fun t _ e he _ => by rw [hview]; exact he
      rw [Sys.iter_process hat]
      exact Phase.iter_after hp t ht
  | handle hat hp hm =>
      rename_i m batch rest
      refine hsame (fun t ht => ?_) fun t ht e he heq => ?_
      · rw [Sys.iter_process hp] at ht
        rw [Sys.iter_process hat]; exact ht
      · rw [Sys.iter_process hp] at ht
        have hw' : Wired env (s.viewOf batch).board (s.viewOf batch).owners := hw.of_eq rfl hw.ok rfl
        -- a handler drops a watch by a detach or a stop, which the hypothesis keeps off the round
        rcases hm.drops hw' he with he' | hdrop
        · exact he'
        · have hno : s.outlives env = true := hC
          simp only [Sys.outlives, hat] at hno
          have hthis := List.all_eq_true.mp hno t ht
          rw [← heq] at hthis
          exact absurd hdrop (of_decide_eq_true hthis)

/-- **Run lemma.** Where every step outlives its round, every callback is called with its watch registered
    and its object attached. -/
theorem callbacks_live {nodes : List DevName} {inforce : Nat → PixFormat} {as : List Action} {s : Sys}
    (hC : Along (step env) (Outlives env) as (boot env nodes inforce))
    (h : run env as (boot env nodes inforce) = .ok s) : s.CallbackLive := by
  intro t ht
  obtain ⟨rest, hat⟩ := Phase.call_some ht
  obtain ⟨-, hs, hI⟩ := run_moves_inv (C := Outlives env)
    (I := fun s => Standing env s ∧ ∀ t ∈ s.iter, s.Registered t)
    (fun a s s' _ _ hI hCs hm => ⟨hm.standing hI.1, hm.registered hI.1 hCs hI.2⟩)
    ⟨boot_standing env nodes inforce, fun t ht => by cases ht⟩ hC h (by rw [hat]; simp)
  have hreg := hI t (by rw [Sys.iter_dispatch hat]; exact List.mem_cons_self)
  refine ⟨hreg, ?_⟩
  obtain ⟨e, he, rfl⟩ := hreg
  exact hs.attached he

/-- A stream that runs with everything ready, stopped before the capture's callback of the second round. -/
theorem callbacks_live_streaming :
    ∃ s, run (bench 900) (streamUp ++ turn [7] 12 ++ turn [3, 6, 7] 12 ++ turn [3, 6, 7] 5) (benchBoot 900)
        = .ok s ∧ s.phase.call.isSome ∧ s.CallbackLive := by
  obtain ⟨s, h, hcall⟩ : ∃ s, run (bench 900)
      (streamUp ++ turn [7] 12 ++ turn [3, 6, 7] 12 ++ turn [3, 6, 7] 5) (benchBoot 900) = .ok s ∧
      s.phase.call.isSome := by
    decide +kernel
  exact ⟨s, h, hcall, callbacks_live (by decide +kernel) h⟩

/-- **A callback is called for a gadget that is gone.** The node of an attached gadget vanishes; in the round
    whose `looper_process` handles `MSG_HOTPLUG_DETACHED` the gadget's descriptor is ready as well. -/
theorem stale_callback :
    ∃ s, run (bench 900) (streamUp ++ .unplug (videoName 0) :: turn [5] 2 ++ turn [3, 6] 3) (benchBoot 900)
        = .ok s ∧ ¬s.CallbackLive := by
  decide +kernel

end Uvcd
