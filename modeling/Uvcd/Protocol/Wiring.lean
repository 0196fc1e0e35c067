import Mathlib.Data.List.Nodup
import Uvcd.Protocol.WatchList
import Uvcd.Protocol.Board

/-!
# `Protocol.Wiring` — whose descriptor, which watches

Every descriptor the daemon watches has one `Owner`: the looper's pipe, inotify, a gadget or a capture. An
owner has the watches its state calls for, all on its own descriptor and of different types. `Wired` says
that the watch list holds only such watches, that the descriptors are open and pairwise different, and,
when no allocation fails, that no watch is missing. Registering, unregistering, opening and closing on
behalf of one owner keep it, whatever the other owners are.
-/

namespace Uvcd

open Split

structure Owner where
  fd : Nat
  watches : List EventFd

/-- An owner's watches are on its descriptor, of different types. -/
structure Owner.Ok (o : Owner) : Prop where
  fd : ∀ e ∈ o.watches, e.fd = o.fd
  types : (o.watches.map (·.type)).Nodup

variable {env : Env}

/-- **The watch list against the owners of the descriptors.** -/
structure Wired (env : Env) (w : Board) (owners : List Owner) : Prop where
  ok : w.events.Ok
  owner : ∀ o ∈ owners, o.Ok
  sound : ∀ e ∈ w.events.events, ∃ o ∈ owners, e ∈ o.watches
  full : (∀ t, env.malloc t = true) → ∀ o ∈ owners, ∀ e ∈ o.watches, e ∈ w.events.events
  nodup : (owners.map (·.fd)).Nodup
  opened : ∀ o ∈ owners, o.fd ∈ w.opened

namespace Wired

variable {w w' : Board} {owners owners' rest : List Owner} {o : Owner}

theorem perm (h : Wired env w owners) (hp : owners.Perm owners') : Wired env w owners' where
  ok := h.ok
  owner o ho := h.owner o (hp.mem_iff.mpr ho)
  sound e he := by
    obtain ⟨o, ho, heo⟩ := h.sound e he
    exact ⟨o, hp.mem_iff.mp ho, heo⟩
  full hm o ho := h.full hm o (hp.mem_iff.mpr ho)
  nodup := (hp.map _).nodup_iff.mp h.nodup
  opened o ho := h.opened o (hp.mem_iff.mpr ho)

/-- Only the watch list and the open descriptors matter. -/
theorem of_eq (h : Wired env w owners) (hev : w'.events.events = w.events.events)
    (hok : w'.events.Ok) (hop : w'.opened = w.opened) : Wired env w' owners where
  ok := hok
  owner := h.owner
  sound := by rw [hev]; exact h.sound
  full := by rw [hev]; exact h.full
  nodup := h.nodup
  opened := by rw [hop]; exact h.opened

theorem elapses (h : Wired env w owners) (he : Elapses w w') : Wired env w' owners :=
  h.of_eq (by rw [he.events_eq]) (by rw [he.events_eq]; exact h.ok) he.opened_eq

theorem posts {m : Message} (h : Wired env w owners) (hp : Posts env m w w') : Wired env w' owners := by
  obtain ⟨t, ht⟩ := hp
  refine Wired.elapses ?_ ht
  unfold Board.post
  split
  · exact h.of_eq rfl h.ok rfl
  · exact h

theorem postsAll {ms : List Message} (h : Wired env w owners) (hp : PostsAll env ms w w') :
    Wired env w' owners := by
  induction hp with
  | done he => exact h.elapses he
  | send hp _ ih => exact ih (h.posts hp)

theorem publish {ok : Bool} {m : Message} {f : Frame} (h : Wired env w owners)
    (he : Elapses (w.publish ok m f) w') : Wired env w' owners := by
  refine Wired.elapses ?_ he
  unfold Board.publish
  split
  · exact h.of_eq rfl h.ok rfl
  · exact h

/-- The descriptor of an owner is no other owner's. -/
theorem fd_ne (h : Wired env w (o :: rest)) : ∀ x ∈ rest, x.fd ≠ o.fd := by
  intro x hx heq
  have hnd := h.nodup
  rw [List.map_cons, List.nodup_cons] at hnd
  exact hnd.1 (heq ▸ List.mem_map_of_mem hx)

/-- A watch on an owner's descriptor is one of the owner's. -/
theorem owned {e : EventFd} (h : Wired env w (o :: rest)) (he : e ∈ w.events.events) (hfd : e.fd = o.fd) :
    e ∈ o.watches := by
  obtain ⟨o', ho', heo⟩ := h.sound e he
  rcases List.mem_cons.mp ho' with rfl | ho'
  · exact heo
  · exact absurd (((h.owner o' (List.mem_cons_of_mem _ ho')).fd e heo).symm.trans hfd) (h.fd_ne o' ho')

/-- Registering one more watch for an owner. -/
theorem watch {e : EventFd} (h : Wired env w (o :: rest)) (hw : Watches env e w w') (hfd : e.fd = o.fd)
    (hnew : ∀ x ∈ o.watches, x.type ≠ e.type) :
    Wired env w' ({ o with watches := o.watches ++ [e] } :: rest) := by
  obtain ⟨t, ht⟩ := hw
  refine Wired.elapses ?_ ht
  have hfree : ∀ x ∈ w.events.events, ¬(x.fd = e.fd ∧ x.type = e.type) := by
    rintro x hx ⟨hxfd, hxty⟩
    obtain ⟨o', ho', hxo⟩ := h.sound x hx
    have hown : x.fd = o'.fd := (h.owner o' ho').fd x hxo
    rcases List.mem_cons.mp ho' with rfl | ho'
    · exact hnew x hxo hxty
    · exact h.fd_ne o' ho' (by rw [← hown, hxfd, hfd])
  have hown : ({ o with watches := o.watches ++ [e] } : Owner).Ok := by
    have ho := h.owner o List.mem_cons_self
    refine ⟨fun x hx => ?_, ?_⟩
    · rcases List.mem_append.mp hx with hx | hx
      · exact ho.fd x hx
      · rw [List.mem_singleton.mp hx]; exact hfd
    · rw [List.map_append, List.map_singleton, List.nodup_append]
      refine ⟨ho.types, by simp, ?_⟩
      intro a ha b hb
      obtain ⟨x, hx, rfl⟩ := List.mem_map.mp ha
      rw [List.mem_singleton.mp hb]
      exact hnew x hx
  have howner : ∀ x ∈ { o with watches := o.watches ++ [e] } :: rest, x.Ok := by
    intro x hx
    rcases List.mem_cons.mp hx with rfl | hx
    · exact hown
    · exact h.owner x (List.mem_cons_of_mem _ hx)
  have hopened : ∀ x ∈ { o with watches := o.watches ++ [e] } :: rest, x.fd ∈ w.opened := by
    intro x hx
    rcases List.mem_cons.mp hx with rfl | hx
    · exact h.opened o List.mem_cons_self
    · exact h.opened x (List.mem_cons_of_mem _ hx)
  -- what is registered for the owner before is registered for it afterwards
  have hkeep : ∀ x ∈ w.events.events, ∃ o' ∈ { o with watches := o.watches ++ [e] } :: rest,
      x ∈ o'.watches := by
    intro x hx
    obtain ⟨o', ho', hxo⟩ := h.sound x hx
    rcases List.mem_cons.mp ho' with rfl | ho'
    · exact ⟨_, List.mem_cons_self, List.mem_append_left _ hxo⟩
    · exact ⟨o', List.mem_cons_of_mem _ ho', hxo⟩
  unfold Board.watch
  split
  · refine ⟨eventsWatchFd_ok h.ok hfree, howner, ?_, ?_, h.nodup, hopened⟩
    · intro x hx
      rcases mem_watchFd.mp hx with hx | rfl
      · exact hkeep x hx
      · exact ⟨_, List.mem_cons_self, List.mem_append_right _ (List.mem_singleton.mpr rfl)⟩
    · intro hm o' ho' x hx
      refine mem_watchFd.mpr ?_
      rcases List.mem_cons.mp ho' with rfl | ho'
      · rcases List.mem_append.mp hx with hx | hx
        · exact .inl (h.full hm o List.mem_cons_self x hx)
        · exact .inr (List.mem_singleton.mp hx)
      · exact .inl (h.full hm o' (List.mem_cons_of_mem _ ho') x hx)
  · next hno =>
      exact ⟨h.ok, howner, hkeep, fun hm => absurd (hm t) hno, h.nodup, hopened⟩

/-- Dropping an owner's watch of one type. -/
theorem unwatch (type : EventType) (h : Wired env w (o :: rest)) :
    Wired env (w.unwatch o.fd type)
      ({ o with watches := o.watches.filter (·.type ≠ type) } :: rest) := by
  have hmem : ∀ {x : EventFd}, x ∈ (w.unwatch o.fd type).events.events ↔
      x ∈ w.events.events ∧ ¬(x.fd = o.fd ∧ x.type = type) := fun {x} => mem_unwatchFd h.ok
  have ho := h.owner o List.mem_cons_self
  refine ⟨eventsUnwatchFd_ok h.ok, ?_, ?_, ?_, h.nodup, ?_⟩
  · intro x hx
    rcases List.mem_cons.mp hx with rfl | hx
    · refine ⟨fun y hy => ho.fd y (List.mem_filter.mp hy).1, ?_⟩
      exact ho.types.sublist (List.filter_sublist.map _)
    · exact h.owner x (List.mem_cons_of_mem _ hx)
  · intro x hx
    obtain ⟨hxe, hmiss⟩ := hmem.mp hx
    obtain ⟨o', ho', hxo⟩ := h.sound x hxe
    rcases List.mem_cons.mp ho' with rfl | ho'
    · refine ⟨_, List.mem_cons_self, List.mem_filter.mpr ⟨hxo, ?_⟩⟩
      simpa using fun hty => hmiss ⟨ho.fd x hxo, hty⟩
    · exact ⟨o', List.mem_cons_of_mem _ ho', hxo⟩
  · intro hm o' ho' x hx
    refine hmem.mpr ?_
    rcases List.mem_cons.mp ho' with rfl | ho'
    · obtain ⟨hxo, hty⟩ := List.mem_filter.mp hx
      exact ⟨h.full hm o List.mem_cons_self x hxo, fun hk => by simp [hk.2] at hty⟩
    · refine ⟨h.full hm o' (List.mem_cons_of_mem _ ho') x hx, fun hk => ?_⟩
      exact h.fd_ne o' ho' (by rw [← (h.owner o' (List.mem_cons_of_mem _ ho')).fd x hx, hk.1])
  · intro x hx
    rcases List.mem_cons.mp hx with rfl | hx
    · exact h.opened o List.mem_cons_self
    · exact h.opened x (List.mem_cons_of_mem _ hx)

theorem openFd {fd : Nat} (h : Wired env w owners) (hfd : fd ∉ w.opened) :
    Wired env (w.openFd fd) (⟨fd, []⟩ :: owners) := by
  refine ⟨h.ok, ?_, ?_, ?_, ?_, ?_⟩
  · intro x hx
    rcases List.mem_cons.mp hx with rfl | hx
    · exact ⟨fun e he => (by cases he), List.nodup_nil⟩
    · exact h.owner x hx
  · intro e he
    obtain ⟨o, ho, heo⟩ := h.sound e he
    exact ⟨o, List.mem_cons_of_mem _ ho, heo⟩
  · intro hm x hx e he
    rcases List.mem_cons.mp hx with rfl | hx
    · cases he
    · exact h.full hm x hx e he
  · rw [List.map_cons, List.nodup_cons]
    refine ⟨fun hmem => ?_, h.nodup⟩
    obtain ⟨o, ho, heq⟩ := List.mem_map.mp hmem
    have heq : o.fd = fd := heq
    exact hfd (heq ▸ h.opened o ho)
  · intro x hx
    rcases List.mem_cons.mp hx with rfl | hx
    · exact List.mem_cons_self
    · exact List.mem_cons_of_mem _ (h.opened x hx)

/-- Closing the descriptor of an owner without watches. -/
theorem closeFd (h : Wired env w (o :: owners)) (hnone : o.watches = []) :
    Wired env (w.closeFd o.fd) owners := by
  refine ⟨h.ok, fun x hx => h.owner x (List.mem_cons_of_mem _ hx), ?_,
    fun hm x hx => h.full hm x (List.mem_cons_of_mem _ hx), (List.nodup_cons.mp h.nodup).2, ?_⟩
  · intro e he
    obtain ⟨x, hx, hex⟩ := h.sound e he
    rcases List.mem_cons.mp hx with rfl | hx
    · rw [hnone] at hex; cases hex
    · exact ⟨x, hx, hex⟩
  · intro x hx
    exact (List.mem_erase_of_ne (h.fd_ne x hx)).mpr (h.opened x (List.mem_cons_of_mem _ hx))

/-- **With every allocation succeeding the watch list is, up to order, the owners' watches.** -/
theorem perm_watches (h : Wired env w owners) (hm : ∀ t, env.malloc t = true) :
    w.events.events.Perm (owners.flatMap (·.watches)) := by
  have hnd : (owners.flatMap (·.watches)).Nodup := by
    rw [List.nodup_flatMap]
    refine ⟨fun o ho => (h.owner o ho).types.of_map _, ?_⟩
    -- watches of different owners are on different descriptors
    refine (List.pairwise_map.mp h.nodup).imp_of_mem ?_
    intro a b ha hb hne
    refine List.disjoint_left.mpr ?_
    intro e hea heb
    exact hne (by rw [← (h.owner a ha).fd e hea, ← (h.owner b hb).fd e heb])
  rw [List.perm_ext_iff_of_nodup h.ok.nodup hnd]
  intro e
  rw [List.mem_flatMap]
  refine ⟨h.sound e, ?_⟩
  rintro ⟨o, ho, heo⟩
  exact h.full hm o ho e heo

end Wired

/-! ## The owners of a view -/

def GadgetView.owner (g : GadgetView) : Owner := ⟨g.fd, g.control :: if g.streaming then [g.video] else []⟩
def CaptureView.owner (c : CaptureView) : Owner := ⟨c.fd, if c.streaming then [c.source] else []⟩

/-- The looper's watch of its pipe, and the one of inotify. -/
def pipeWatch (fd : Nat) : EventFd := ⟨fd, .read, .looperProcess, .looper⟩
def inotifyWatch (fd : Nat) : EventFd := ⟨fd, .read, .hotplugProcess, .looper⟩

/-- The looper's own descriptors and inotify's. -/
def View.base (v : View) : List Owner :=
  ⟨v.pipeFd, [pipeWatch v.pipeFd]⟩ :: ⟨v.ctrlFd, []⟩
    :: (v.inotifyFd.map fun fd => (⟨fd, [inotifyWatch fd]⟩ : Owner)).toList

def View.owners (v : View) : List Owner :=
  v.base ++ v.gadgets.map GadgetView.owner ++ v.captures.map CaptureView.owner

theorem View.owners_gadget {v : View} {pre post : List GadgetView} {g : GadgetView}
    (h : v.gadgets = pre ++ g :: post) :
    v.owners.Perm (g.owner :: { v with gadgets := pre ++ post }.owners) := by
  have hwith : v.owners = (v.base ++ pre.map GadgetView.owner)
      ++ g.owner :: (post.map GadgetView.owner ++ v.captures.map CaptureView.owner) := by
    simp [View.owners, h]
  have hout : { v with gadgets := pre ++ post }.owners = (v.base ++ pre.map GadgetView.owner)
      ++ (post.map GadgetView.owner ++ v.captures.map CaptureView.owner) := by
    simp [View.owners, View.base]
  rw [hwith, hout]
  exact List.perm_middle

theorem View.owners_capture {v : View} {pre post : List CaptureView} {c : CaptureView}
    (h : v.captures = pre ++ c :: post) :
    v.owners.Perm (c.owner :: { v with captures := pre ++ post }.owners) := by
  have hwith : v.owners = (v.base ++ v.gadgets.map GadgetView.owner ++ pre.map CaptureView.owner)
      ++ c.owner :: post.map CaptureView.owner := by
    simp [View.owners, h]
  have hout : { v with captures := pre ++ post }.owners
      = (v.base ++ v.gadgets.map GadgetView.owner ++ pre.map CaptureView.owner)
        ++ post.map CaptureView.owner := by
    simp [View.owners, View.base]
  rw [hwith, hout]
  exact List.perm_middle

/-! ## The operations of the protocol -/

section Operations

variable {w w' : Board} {g g' : GadgetView} {c c' : CaptureView} {rest : List Owner}
  {ev : Except Errno UvcEvent}

theorem StartsGadget.wired (h : StartsGadget env w g w' g') (hw : Wired env w (g.owner :: rest)) :
    Wired env w' (g'.owner :: rest) := by
  cases h with
  | idle he => exact hw.elapses he
  | start hoff hwatch hp =>
      have h₁ := hw.watch hwatch rfl (by
        intro x hx
        simp only [GadgetView.owner, hoff, Bool.false_eq_true, if_false, List.mem_singleton] at hx
        subst hx
        exact (by decide : EventType.exception ≠ .write))
      have heq : ({ g.owner with watches := g.owner.watches ++ [g.video] } : Owner)
          = GadgetView.owner { g with streaming := true } := by
        simp only [GadgetView.owner, hoff, Bool.false_eq_true, if_false, if_true]
        rfl
      rw [heq] at h₁
      exact h₁.posts hp

theorem StopsGadget.wired (h : StopsGadget env w g w' g') (hw : Wired env w (g.owner :: rest)) :
    Wired env w' (g'.owner :: rest) := by
  cases h with
  | idle hoff he => exact hw.elapses he
  | stop hon hp =>
      have h₁ := hw.unwatch .write
      have heq : ({ g.owner with watches := g.owner.watches.filter (·.type ≠ .write) } : Owner)
          = GadgetView.owner { g with streaming := false } := by
        simp only [GadgetView.owner, hon, if_true, Bool.false_eq_true, if_false]
        rfl
      rw [heq] at h₁
      exact h₁.posts hp

theorem GadgetCalls.wired (h : GadgetCalls env ev w g w' g') (hw : Wired env w (g.owner :: rest)) :
    Wired env w' (g'.owner :: rest) := by
  cases h with
  | quiet he => exact hw.elapses he
  | start hev h => exact h.wired hw
  | stop hev h => exact h.wired hw
  | commit hev he => exact hw.elapses he
  | setFmt hev hwi hh hf hp => exact hw.posts hp

theorem StartsCapture.wired (h : StartsCapture env w c w' c') (hw : Wired env w (c.owner :: rest)) :
    Wired env w' (c'.owner :: rest) := by
  cases h with
  | idle he => exact hw.elapses he
  | start hoff hfresh hlt hstride hwatch =>
      have hnone : c.owner.watches = [] := by
        simp only [CaptureView.owner, hoff, Bool.false_eq_true, if_false]
      have h₁ := hw.watch hwatch rfl (fun x hx => by rw [hnone] at hx; cases hx)
      rw [hnone] at h₁
      exact h₁

theorem StopsCapture.wired (h : StopsCapture w c w' c') (hw : Wired env w (c.owner :: rest)) :
    Wired env w' (c'.owner :: rest) := by
  cases h with
  | idle hoff he => exact hw.elapses he
  | stop hon he =>
      have h₁ := hw.unwatch .read
      have hnone : c.owner.watches.filter (·.type ≠ .read) = [] := by
        simp only [CaptureView.owner, hon, if_true]
        rfl
      rw [hnone] at h₁
      exact h₁.elapses he

theorem StopsCapture.owner (h : StopsCapture w c w' c') : c'.owner = ⟨c.fd, []⟩ := by
  cases h with
  | idle hoff he => simp only [CaptureView.owner, hoff, Bool.false_eq_true, if_false]
  | stop hon he => rfl

theorem StopsGadget.owner (h : StopsGadget env w g w' g') : g'.owner = ⟨g.fd, [g.control]⟩ := by
  cases h with
  | idle hoff he => simp only [GadgetView.owner, hoff, Bool.false_eq_true, if_false]
  | stop hon hp => rfl

theorem CaptureCalls.wired (h : CaptureCalls env w c w' c') (hw : Wired env w (c.owner :: rest)) :
    Wired env w' (c'.owner :: rest) := by
  cases h with
  | quiet he => exact hw.elapses he
  | frame hf hoff haddr hstride hstamp htick hp => exact hw.publish hp

/-- Releasing a capture changes nothing about descriptors. -/
theorem Releases.owners {refuses : Prop} {id : UInt32} {cs cs' : List CaptureView}
    (h : Releases refuses id cs cs') : cs'.map CaptureView.owner = cs.map CaptureView.owner := by
  cases h with
  | none _ => rfl
  | refused _ hs => rw [hs.eq]; simp [CaptureView.owner, CaptureView.source]

/-- **A message keeps the wiring.** -/
theorem Handles.wired {refuses : Prop} {v v' : View} {m : Message} (h : Handles env refuses v m v')
    (hw : Wired env v.board v.owners) : Wired env v'.board v'.owners := by
  -- captures whose owners are the same ones
  have hsame : ∀ {w : Board} {cs : List CaptureView}, Elapses v.board w →
      cs.map CaptureView.owner = v.captures.map CaptureView.owner →
      Wired env w { v with board := w, captures := cs }.owners := by
    intro w cs he heq
    have howners : { v with board := w, captures := cs }.owners = v.owners := by
      simp only [View.owners, View.base, heq]
    rw [howners]; exact hw.elapses he
  have hreplace : ∀ {w : Board} {pre post : List CaptureView} {c c' : CaptureView},
      v.captures = pre ++ c :: post → (∀ rest, Wired env v.board (c.owner :: rest) →
        Wired env w (c'.owner :: rest)) →
      Wired env w { v with board := w, captures := pre ++ c' :: post }.owners := by
    intro w pre post c c' heq hstep
    have h₁ := hstep _ (hw.perm (View.owners_capture heq))
    exact h₁.perm (View.owners_capture (v := { v with board := w, captures := pre ++ c' :: post }) rfl).symm
  cases h with
  | signal => exact hw.of_eq rfl ⟨hw.ok.nodup, hw.ok.keys, hw.ok.sets, hw.ok.maxfd⟩ rfl
  | attachFailed he => exact hw.elapses he
  | gadgetAttached hname hoff hfmt hfd haddr hlt hwatch hp =>
      rename_i name g w₁ w₂
      have h₁ := (hw.openFd hfd).watch hwatch rfl (fun x hx => by cases hx)
      have heq : (⟨g.fd, [] ++ [g.control]⟩ : Owner) = g.owner := by
        simp only [GadgetView.owner, hoff, Bool.false_eq_true, if_false, List.nil_append]
      rw [heq] at h₁
      have hperm := View.owners_gadget (v := { v with board := w₂, gadgets := v.gadgets ++ [g] })
        (show _ = v.gadgets ++ g :: [] from rfl)
      rw [List.append_nil] at hperm
      exact (h₁.posts hp).perm hperm.symm
  | captureAttached hname hoff hid hsize hframes hfd haddr hlt he =>
      rename_i name c w₂
      have h₁ := (hw.openFd hfd).elapses he
      have heq : (⟨c.fd, []⟩ : Owner) = c.owner := by
        simp only [CaptureView.owner, hoff, Bool.false_eq_true, if_false]
      rw [heq] at h₁
      have hp := View.owners_capture (v := { v with board := w₂, captures := v.captures ++ [c] })
        (show _ = v.captures ++ c :: [] from rfl)
      rw [List.append_nil] at hp
      exact h₁.perm hp.symm
  | gadgetDetached hs hstop hp =>
      have h₁ := hstop.wired (hw.perm (View.owners_gadget hs.eq))
      rw [hstop.owner] at h₁
      have h₂ := (h₁.unwatch .exception).closeFd rfl
      exact h₂.posts hp
  | captureDetached hg hs hstop he =>
      have h₁ := hstop.wired (hw.perm (View.owners_capture hs.eq))
      rw [hstop.owner] at h₁
      exact (h₁.closeFd rfl).elapses he
  | detachMissed hg hc => exact hw
  | setFmtHeld hs he =>
      refine hsame he ?_
      rw [hs.eq]; simp [CaptureView.owner, CaptureView.source]
  | setFmtPaired hr hs hfree he =>
      refine hsame he ?_
      rw [← hr.owners, hs]; simp [CaptureView.owner, CaptureView.source]
  | setFmtUnpaired hr he => exact hsame he hr.owners
  | streamOn hs hstart => exact hreplace hs.eq fun rest hr => hstart.wired hr
  | streamOnMissed hc => exact hw
  | streamOff hs hstop => exact hreplace hs.eq fun rest hr => hstop.wired hr
  | streamOffMissed hc => exact hw
  | uvcAttached => exact hw
  | uvcDetached hs hstop => exact hreplace hs.eq fun rest hr => hstop.wired hr
  | uvcDetachedMissed hc => exact hw
  | frameCopied hs hon hf => exact hw.of_eq rfl hw.ok rfl
  | frameDropped hs => exact hw

end Operations

end Uvcd
