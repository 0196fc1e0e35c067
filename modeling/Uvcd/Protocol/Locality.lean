import Uvcd.Protocol.Pairing
import Uvcd.Protocol.Wiring

/-!
# `Protocol.Locality` — operations for one descriptor leave the watches of the others alone

`Unmoved fd ev ev'` says that the watches on `fd`, and its bits in the sets, are the same in both. What is
done for a gadget moves watches on its own descriptor only, what a message does for a capture on that of the
capture with its id.
-/

namespace Uvcd

open Split

variable {env : Env} {refuses : Prop} {fd : Nat} {type : EventType} {callback : Callback} {priv : Priv}
  {ev ev' ev'' : Events} {w w' : Board} {v v' : View} {g g' : GadgetView} {c c' : CaptureView}
  {m : Message}

structure Unmoved (fd : Nat) (ev ev' : Events) : Prop where
  watches : ev'.events.filter (·.fd = fd) = ev.events.filter (·.fd = fd)
  sets : ∀ type, ev'.fds type fd = ev.fds type fd

theorem Unmoved.refl (fd : Nat) (ev : Events) : Unmoved fd ev ev := ⟨rfl, fun _ => rfl⟩

theorem Unmoved.trans (h : Unmoved fd ev ev') (h' : Unmoved fd ev' ev'') : Unmoved fd ev ev'' :=
  ⟨h'.watches.trans h.watches, fun type => (h'.sets type).trans (h.sets type)⟩

/-! ## The watch list -/

/-- Erasing something that is filtered out anyway. -/
theorem filter_eraseP {α : Type} {p q : α → Bool} (l : List α) (h : ∀ x, q x = true → p x = false) :
    (l.eraseP q).filter p = l.filter p := by
  induction l with
  | nil => rfl
  | cons x l ih =>
      cases hq : q x with
      | true => rw [List.eraseP_cons_of_pos hq, List.filter_cons_of_neg (by simp [h x hq])]
      | false =>
          rw [List.eraseP_cons_of_neg (by simp [hq])]
          cases hp : p x with
          | true => rw [List.filter_cons_of_pos hp, List.filter_cons_of_pos hp, ih]
          | false => rw [List.filter_cons_of_neg (by simp [hp]), List.filter_cons_of_neg (by simp [hp]), ih]

theorem eventsWatchFd_unmoved {x : Nat} (hne : fd ≠ x) :
    Unmoved fd ev (eventsWatchFd ev x type callback priv) := by
  constructor
  · rw [eventsWatchFd_events, List.filter_append, List.filter_cons_of_neg (by simpa using Ne.symm hne)]
    exact List.append_nil _
  · intro type'
    rw [eventsWatchFd_fds]
    split
    · next ht =>
        rw [ht]
        show (fd == x || ev.fds type fd) = ev.fds type fd
        rw [beq_false_of_ne hne, Bool.false_or]
    · rfl

theorem eventsUnwatchFd_unmoved {x : Nat} (hne : fd ≠ x) : Unmoved fd ev (eventsUnwatchFd ev x type) := by
  unfold eventsUnwatchFd
  split
  · constructor
    · show (removeLastHit ev.events x type).filter _ = _
      unfold removeLastHit
      rw [List.filter_reverse, filter_eraseP, List.filter_reverse, List.reverse_reverse]
      intro e he
      rw [EventFd.hits_iff] at he
      simp only [he.1, decide_eq_false_iff_not]
      exact Ne.symm hne
    · intro type'
      show (ev.setFds type ((ev.fds type).clr x)).fds type' fd = _
      rw [Events.fds_setFds]
      split
      · next ht =>
          rw [ht]
          show (fd != x && ev.fds type fd) = ev.fds type fd
          rw [bne_iff_ne.mpr hne, Bool.true_and]
      · rfl
  · exact .refl fd ev

/-! ## Operations of the protocol -/

theorem Elapses.unmoved (h : Elapses w w') : Unmoved fd w.events w'.events := by
  rw [h.events_eq]
  exact .refl fd w.events

theorem Posts.unmoved (h : Posts env m w w') : Unmoved fd w.events w'.events := by
  obtain ⟨t, ht⟩ := h
  rw [ht.events_eq]
  unfold Board.post
  split <;> exact .refl fd w.events

theorem Watches.unmoved {e : EventFd} (h : Watches env e w w') (hne : fd ≠ e.fd) :
    Unmoved fd w.events w'.events := by
  obtain ⟨t, ht⟩ := h
  rw [ht.events_eq]
  unfold Board.watch
  split
  · exact eventsWatchFd_unmoved hne
  · exact .refl fd w.events

theorem GadgetCalls.unmoved {e : Except Errno UvcEvent} (h : GadgetCalls env e w g w' g')
    (hne : fd ≠ g.fd) : Unmoved fd w.events w'.events := by
  cases h with
  | quiet he => exact he.unmoved
  | start _ hs =>
      cases hs with
      | idle he => exact he.unmoved
      | start _ hw hp => exact (hw.unmoved hne).trans hp.unmoved
  | stop _ hs =>
      cases hs with
      | idle _ he => exact he.unmoved
      | stop _ hp => exact Unmoved.trans (eventsUnwatchFd_unmoved hne) hp.unmoved
  | commit _ he => exact he.unmoved
  | setFmt _ _ _ _ hp => exact hp.unmoved

theorem StartsCapture.unmoved (h : StartsCapture env w c w' c') (hne : fd ≠ c.fd) :
    Unmoved fd w.events w'.events := by
  cases h with
  | idle he => exact he.unmoved
  | start _ _ _ _ hw => exact hw.unmoved hne

theorem StopsCapture.unmoved (h : StopsCapture w c w' c') (hne : fd ≠ c.fd) :
    Unmoved fd w.events w'.events := by
  cases h with
  | idle _ he => exact he.unmoved
  | stop _ he => exact Unmoved.trans (eventsUnwatchFd_unmoved hne) he.unmoved

/-- A message that is about the pairing or the stream of the gadget with its id. -/
def AboutGadget (m : Message) : Prop :=
  m.what ∈ [What.videoSetFmt, .videoStreamOn, .videoStreamOff, .videoFrameAvailable, .uvcDetached]

/-- **A message about a gadget** moves watches of the capture paired with it only. -/
theorem Handles.unmoved (hm : Handles env refuses v m v') (hab : AboutGadget m)
    (hne : ∀ c ∈ v.captures, c.gadgetId = m.wParam → fd ≠ c.fd) :
    Unmoved fd v.board.events v'.board.events := by
  cases hm with
  | signal | attachFailed _ | gadgetAttached _ _ _ _ _ _ _ _ | captureAttached _ _ _ _ _ _ _ _ _
  | gadgetDetached _ _ _ | captureDetached _ _ _ _ | detachMissed _ _ | uvcAttached =>
      simp [AboutGadget, Message.signal, Message.hotplugAttached, Message.hotplugDetached,
        Message.uvcAttached] at hab
  | setFmtHeld _ he => exact he.unmoved
  | setFmtPaired _ _ _ he => exact he.unmoved
  | setFmtUnpaired _ he => exact he.unmoved
  | streamOn hs hon => exact hon.unmoved (hne _ hs.mem hs.hit)
  | streamOff hs hstop => exact hstop.unmoved (hne _ hs.mem hs.hit)
  | uvcDetached hs hstop => exact hstop.unmoved (hne _ hs.mem hs.hit)
  | streamOnMissed _ | streamOffMissed _ | uvcDetachedMissed _ | frameCopied _ _ _ | frameDropped _ =>
      exact .refl fd _

/-! ## Descriptors of different objects -/

/-- No other gadget and no capture has the descriptor of a gadget. -/
theorem Wired.gadget_fd_ne {pre post : List GadgetView} (hw : Wired env w v.owners)
    (h : v.gadgets = pre ++ g :: post) :
    (∀ x ∈ pre ++ post, x.fd ≠ g.fd) ∧ ∀ x ∈ v.captures, x.fd ≠ g.fd := by
  have hne := (hw.perm (View.owners_gadget h)).fd_ne
  constructor
  · intro x hx
    exact hne x.owner (List.mem_append_left _ (List.mem_append_right _ (List.mem_map_of_mem hx)))
  · intro x hx
    exact hne x.owner (List.mem_append_right _ (List.mem_map_of_mem hx))

/-- No other capture and no gadget has the descriptor of a capture. -/
theorem Wired.capture_fd_ne {pre post : List CaptureView} (hw : Wired env w v.owners)
    (h : v.captures = pre ++ c :: post) :
    (∀ x ∈ pre ++ post, x.fd ≠ c.fd) ∧ ∀ x ∈ v.gadgets, x.fd ≠ c.fd := by
  have hne := (hw.perm (View.owners_capture h)).fd_ne
  constructor
  · intro x hx
    exact hne x.owner (List.mem_append_right _ (List.mem_map_of_mem hx))
  · intro x hx
    exact hne x.owner (List.mem_append_left _ (List.mem_append_right _ (List.mem_map_of_mem hx)))

end Uvcd
