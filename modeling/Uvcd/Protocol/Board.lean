import Uvcd.Protocol.View

/-!
# `Protocol.Board` — how the shared state moves

Time may be taken before or after any operation on the shared state (`Elapses.posts`, `Elapses.starts`, …),
so the relations of `Protocol.View` are closed under it. `Extends P` says that the queue only grew, by
messages that satisfy `P`.
-/

namespace Uvcd

variable {env : Env}

/-! ## Elapsing time -/

namespace Elapses

variable {w w' w'' : Board}

theorem refl (w : Board) : Elapses w w := .mk (Nat.le_refl _) (Nat.le_refl _)

theorem trans (h : Elapses w w') (h' : Elapses w' w'') : Elapses w w'' := by
  cases h with
  | mk hb ht =>
      cases h' with
      | mk hb' ht' => exact .mk (Nat.le_trans hb hb') (Nat.le_trans ht ht')

theorem post (h : Elapses w w') (ok : Bool) (m : Message) : Elapses (w.post ok m) (w'.post ok m) := by
  cases h with
  | mk hb ht => cases ok <;> exact .mk hb ht

theorem publish (h : Elapses w w') (ok : Bool) (m : Message) (f : Frame) :
    Elapses (w.publish ok m f) (w'.publish ok m f) := by
  cases h with
  | mk hb ht => cases ok <;> exact .mk hb ht

theorem watch (h : Elapses w w') (ok : Bool) (e : EventFd) : Elapses (w.watch ok e) (w'.watch ok e) := by
  cases h with
  | mk hb ht => cases ok <;> exact .mk hb ht

theorem unwatch (h : Elapses w w') (fd : Nat) (type : EventType) :
    Elapses (w.unwatch fd type) (w'.unwatch fd type) := by
  cases h with
  | mk hb ht => exact .mk hb ht

theorem openFd (h : Elapses w w') (fd : Nat) : Elapses (w.openFd fd) (w'.openFd fd) := by
  cases h with
  | mk hb ht => exact .mk hb ht

theorem closeFd (h : Elapses w w') (fd : Nat) : Elapses (w.closeFd fd) (w'.closeFd fd) := by
  cases h with
  | mk hb ht => exact .mk hb ht

/-- Time before a send and after it belongs to the send. -/
theorem posts {m : Message} (h : Elapses w w') (hp : Posts env m w' w'') : Posts env m w w'' := by
  obtain ⟨t, ht⟩ := hp
  exact ⟨t, (h.post _ m).trans ht⟩

theorem watches {e : EventFd} (h : Elapses w w') (hw : Watches env e w' w'') : Watches env e w w'' := by
  obtain ⟨t, ht⟩ := hw
  exact ⟨t, (h.watch _ e).trans ht⟩

theorem starts {g g' : GadgetView} (h : Elapses w w') (hs : StartsGadget env w' g w'' g') :
    StartsGadget env w g w'' g' := by
  cases hs with
  | idle he => exact .idle (h.trans he)
  | start hoff hw hp => exact .start hoff (h.watches hw) hp

theorem stops {g g' : GadgetView} (h : Elapses w w') (hs : StopsGadget env w' g w'' g') :
    StopsGadget env w g w'' g' := by
  cases hs with
  | idle hoff he => exact .idle hoff (h.trans he)
  | stop hon hp => exact .stop hon ((h.unwatch _ _).posts hp)

end Elapses

theorem Elapses.brk_le {w w' : Board} (h : Elapses w w') : w.brk ≤ w'.brk := by
  cases h with
  | mk hb _ => exact hb

theorem Elapses.opened_eq {w w' : Board} (h : Elapses w w') : w'.opened = w.opened := by
  cases h with
  | mk _ _ => rfl

theorem Board.post_brk (w : Board) (ok : Bool) (m : Message) : (w.post ok m).brk = w.brk := by
  cases ok <;> rfl

theorem Board.watch_brk (w : Board) (ok : Bool) (e : EventFd) : (w.watch ok e).brk = w.brk := by
  cases ok <;> rfl

theorem Posts.brk_le {m : Message} {w w' : Board} (h : Posts env m w w') : w.brk ≤ w'.brk := by
  obtain ⟨t, ht⟩ := h
  have := ht.brk_le
  rwa [Board.post_brk] at this

theorem Watches.brk_le {e : EventFd} {w w' : Board} (h : Watches env e w w') : w.brk ≤ w'.brk := by
  obtain ⟨t, ht⟩ := h
  have := ht.brk_le
  rwa [Board.watch_brk] at this

/-! ## The queue only grows at its end -/

/-- `w'` has the messages of `w` and then others, all satisfying `P`. -/
def Extends (P : Message → Prop) (w w' : Board) : Prop :=
  ∃ ms, w'.queue = w.queue ++ ms ∧ ∀ m ∈ ms, P m

variable {P : Message → Prop} {w w' w'' : Board}

theorem Extends.refl (w : Board) : Extends P w w := ⟨[], (List.append_nil _).symm, fun m hm => by cases hm⟩

theorem Extends.trans (h : Extends P w w') (h' : Extends P w' w'') : Extends P w w'' := by
  obtain ⟨ms, heq, hms⟩ := h
  obtain ⟨ms', heq', hms'⟩ := h'
  refine ⟨ms ++ ms', by rw [heq', heq, List.append_assoc], fun m hm => ?_⟩
  exact (List.mem_append.mp hm).elim (hms m) (hms' m)

theorem Extends.mono {Q : Message → Prop} (hPQ : ∀ m, P m → Q m) (h : Extends P w w') :
    Extends Q w w' := by
  obtain ⟨ms, heq, hms⟩ := h
  exact ⟨ms, heq, fun m hm => hPQ m (hms m hm)⟩

theorem Extends.forall (h : Extends P w w') (hw : ∀ m ∈ w.queue, P m) : ∀ m ∈ w'.queue, P m := by
  obtain ⟨ms, heq, hms⟩ := h
  intro m hm
  rw [heq] at hm
  exact (List.mem_append.mp hm).elim (hw m) (hms m)

theorem Elapses.queue_eq (h : Elapses w w') : w'.queue = w.queue := by
  cases h with
  | mk _ _ => rfl

theorem Elapses.extends (h : Elapses w w') : Extends P w w' :=
  ⟨[], by rw [h.queue_eq, List.append_nil], fun m hm => by cases hm⟩

theorem Elapses.events_eq (h : Elapses w w') : w'.events = w.events := by
  cases h with
  | mk _ _ => rfl

/-- A send either appends the message or leaves the queue alone. -/
theorem Posts.queue {m : Message} (h : Posts env m w w') :
    w'.queue = w.queue ++ [m] ∨ (w'.queue = w.queue ∧ ∃ t, env.write t m = false) := by
  obtain ⟨t, ht⟩ := h
  rw [ht.queue_eq]
  cases hw : env.write t m with
  | false => exact .inr ⟨rfl, t, hw⟩
  | true => exact .inl rfl

theorem Posts.sent {m : Message} (h : Posts env m w w') (hw : ∀ t, env.write t m = true) :
    w'.queue = w.queue ++ [m] := by
  rcases h.queue with hq | ⟨-, t, ht⟩
  · exact hq
  · rw [hw t] at ht; cases ht

theorem Posts.extends {m : Message} (hm : P m) (h : Posts env m w w') : Extends P w w' := by
  rcases h.queue with h | ⟨h, -⟩
  · exact ⟨[m], h, fun x hx => by rw [List.mem_singleton.mp hx]; exact hm⟩
  · exact ⟨[], by rw [h, List.append_nil], fun x hx => by cases hx⟩

theorem Board.watch_queue (w : Board) (ok : Bool) (e : EventFd) : (w.watch ok e).queue = w.queue := by
  cases ok <;> rfl

theorem Watches.queue_eq {e : EventFd} (h : Watches env e w w') : w'.queue = w.queue := by
  obtain ⟨t, ht⟩ := h
  rw [ht.queue_eq, Board.watch_queue]

theorem PostsAll.elapses {ms : List Message} {w w' w'' : Board} (h : Elapses w w')
    (hp : PostsAll env ms w' w'') : PostsAll env ms w w'' := by
  cases hp with
  | done he => exact .done (h.trans he)
  | send hp hrest => exact .send (h.posts hp) hrest

theorem PostsAll.append {ms ms' : List Message} {w w' w'' : Board} (h : PostsAll env ms w w')
    (h' : PostsAll env ms' w' w'') : PostsAll env (ms ++ ms') w w'' := by
  induction h with
  | done he => exact h'.elapses he
  | send hp _ ih => exact .send hp (ih h')

theorem PostsAll.brk_le {ms : List Message} {w w' : Board} (h : PostsAll env ms w w') :
    w.brk ≤ w'.brk := by
  induction h with
  | done he => exact he.brk_le
  | send hp _ ih => exact Nat.le_trans hp.brk_le ih

theorem PostsAll.extends {ms : List Message} (hms : ∀ m ∈ ms, P m) (h : PostsAll env ms w w') :
    Extends P w w' := by
  induction h with
  | done he => exact he.extends
  | send hp _ ih =>
      exact (hp.extends (hms _ List.mem_cons_self)).trans (ih fun m hm => hms m (List.mem_cons_of_mem _ hm))

/-! ## What objects and messages send -/

variable {g g' : GadgetView} {c c' : CaptureView} {v v' : View} {ev : Except Errno UvcEvent}

/-- What the gadget module sends: a gadget's news about itself. -/
inductive Reports : Message → Prop
  | setFmt {id : UInt32} {p : Nat} {fmt : PixFormat} (hw : fmt.width = 320) (hh : fmt.height = 240) :
      Reports (.setFmt id p fmt)
  | streamOn (id : UInt32) : Reports (.streamOn id)
  | streamOff (id : UInt32) : Reports (.streamOff id)
  | uvcAttached (id : UInt32) : Reports (.uvcAttached id)
  | uvcDetached (id : UInt32) : Reports (.uvcDetached id)

theorem Reports.sendable {m : Message} (h : Reports m) : Sendable m := by
  cases h with
  | setFmt hw hh => exact .setFmt _ _ _
  | streamOn id => exact .streamOn id
  | streamOff id => exact .streamOff id
  | uvcAttached id => exact .uvcAttached id
  | uvcDetached id => exact .uvcDetached id

theorem StartsGadget.extends (h : StartsGadget env w g w' g') : Extends Reports w w' := by
  cases h with
  | idle he => exact he.extends
  | start hoff hw hp =>
      obtain ⟨ms, heq, hms⟩ := hp.extends (P := Reports) (.streamOn g.id)
      exact ⟨ms, by rw [heq, hw.queue_eq], hms⟩

theorem StopsGadget.extends (h : StopsGadget env w g w' g') : Extends Reports w w' := by
  cases h with
  | idle hoff he => exact he.extends
  | stop hon hp =>
      exact (show Extends Reports (w.unwatch g.fd .write) w' from hp.extends (.streamOff g.id))

theorem GadgetCalls.extends (h : GadgetCalls env ev w g w' g') : Extends Reports w w' := by
  cases h with
  | quiet he => exact he.extends
  | start hev h => exact h.extends
  | stop hev h => exact h.extends
  | commit hev he => exact he.extends
  | setFmt hev hw hh hf hp => exact hp.extends (.setFmt hw hh)

theorem StartsCapture.queue_eq (h : StartsCapture env w c w' c') : w'.queue = w.queue := by
  cases h with
  | idle he => exact he.queue_eq
  | start hoff hfresh hlt hstride hw => exact hw.queue_eq

theorem StopsCapture.queue_eq (h : StopsCapture w c w' c') : w'.queue = w.queue := by
  cases h with
  | idle hoff he => exact he.queue_eq
  | stop hon he => exact he.queue_eq

theorem Board.publish_queue (w : Board) (ok : Bool) (m : Message) (f : Frame) :
    (w.publish ok m f).queue = (w.post ok m).queue := by
  cases ok <;> rfl

/-- A capture's callback posts frames in its own buffers, for the gadget it is paired with. -/
theorem CaptureCalls.frames (h : CaptureCalls env w c w' c') :
    Extends (fun m => ∃ fb off, c.frames = some fb ∧ (off = 0 ∨ off = fb.stride) ∧
      m = .frameAvailable c.gadgetId ⟨fb.addr, off⟩) w w' := by
  cases h with
  | quiet he => exact he.extends
  | frame hf hoff haddr hstride hstamp htick hp =>
      rename_i fb fb' off t
      have hpost : Posts env (.frameAvailable c.gadgetId ⟨fb.addr, off⟩) w
          (w.post (env.write t (.frameAvailable c.gadgetId ⟨fb.addr, off⟩))
            (.frameAvailable c.gadgetId ⟨fb.addr, off⟩)) := ⟨t, .refl _⟩
      obtain ⟨ms, heq, hms⟩ := hpost.extends
        (P := fun m => ∃ fb off, c.frames = some fb ∧ (off = 0 ∨ off = fb.stride) ∧
          m = .frameAvailable c.gadgetId ⟨fb.addr, off⟩) ⟨fb, off, hf, hoff, rfl⟩
      exact ⟨ms, by rw [hp.queue_eq, Board.publish_queue]; exact heq, hms⟩

theorem CaptureCalls.extends (h : CaptureCalls env w c w' c') : Extends Sendable w w' :=
  h.frames.mono fun _ ⟨_, _, _, _, hm⟩ => hm ▸ .frameAvailable _ _

/-- Handling a message sends nothing but gadgets' news. -/
theorem Handles.extends {refuses : Prop} {m : Message} (h : Handles env refuses v m v') :
    Extends Reports v.board v'.board := by
  cases h with
  | signal => exact .refl _
  | attachFailed he => exact he.extends
  | gadgetAttached hname hoff hfmt hfd haddr hlt hw hp =>
      obtain ⟨ms, heq, hms⟩ := hp.extends (P := Reports) (.uvcAttached _)
      exact ⟨ms, by rw [heq, hw.queue_eq]; rfl, hms⟩
  | captureAttached hname hoff hid hsize hframes hfd haddr hlt he =>
      exact ⟨[], by rw [List.append_nil]; exact he.queue_eq, fun x hx => by cases hx⟩
  | gadgetDetached hs hstop hp =>
      obtain ⟨ms, heq, hms⟩ := hp.extends (P := Reports) (.uvcDetached _)
      exact hstop.extends.trans ⟨ms, heq, hms⟩
  | captureDetached hg hs hstop he =>
      refine ⟨[], ?_, fun x hx => by cases hx⟩
      rw [List.append_nil]
      exact he.queue_eq.trans hstop.queue_eq
  | detachMissed hg hc => exact .refl _
  | setFmtHeld hs he => exact he.extends
  | setFmtPaired hr hs hfree he => exact he.extends
  | setFmtUnpaired hr he => exact he.extends
  | streamOn hs hstart =>
      exact ⟨[], by rw [List.append_nil]; exact hstart.queue_eq, fun x hx => by cases hx⟩
  | streamOnMissed hc => exact .refl _
  | streamOff hs hstop =>
      exact ⟨[], by rw [List.append_nil]; exact hstop.queue_eq, fun x hx => by cases hx⟩
  | streamOffMissed hc => exact .refl _
  | uvcAttached => exact .refl _
  | uvcDetached hs hstop =>
      exact ⟨[], by rw [List.append_nil]; exact hstop.queue_eq, fun x hx => by cases hx⟩
  | uvcDetachedMissed hc => exact .refl _
  | frameCopied hs hon hf => exact .refl _
  | frameDropped hs => exact .refl _

end Uvcd
