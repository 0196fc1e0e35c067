import Uvcd.Correctness.Standing
import Uvcd.Protocol.Locality

/-!
# `Correctness.Isolation` — what is done for one gadget leaves the others alone

Gadgets and captures share the lists, the pipe and the watch list. `isolation` says that a callback of one
gadget, or a message with its id, changes nothing of another gadget and nothing of the captures paired with
that one (`Sys.Undisturbed`).
-/

namespace Uvcd

open Machine Split

variable {env : Env} {s s' : Sys}

/-! ## The property -/

/-- Everything that belongs to the gadget `b` is as before: the gadget itself, the captures paired with it,
    and the watches on their descriptors. -/
structure Sys.Undisturbed (b : Gadget) (s s' : Sys) : Prop where
  gadget : b ∈ s'.gadgets
  paired : s'.captures.filter (·.gadgetId = b.id) = s.captures.filter (·.gadgetId = b.id)
  watches : ∀ fd, (fd = b.vdev.fd ∨ ∃ c ∈ s.captures, c.gadgetId = b.id ∧ fd = c.vdev.fd) →
    Unmoved fd s.io.events s'.io.events

/-- The step the program is about to take is for the gadget with this id: one of its callbacks, or a message
    about it. -/
inductive Sys.Concerns (s : Sys) (id : UInt32) : Prop
  | callback {fd : Nat} {callback : Callback} {rest : List EventIter} {a : Gadget}
      (hat : s.phase = .dispatch (⟨fd, callback, .gadget a.addr⟩ :: rest)) (ha : a ∈ s.gadgets)
      (hid : a.id = id)
  | message {m : Message} {batch : List Message} {rest : List EventIter}
      (hat : s.phase = .process (m :: batch) rest) (hab : AboutGadget m) (hid : m.wParam = id)

/-! ## Callbacks -/

/-- What a gadget's callback does to the shared events. -/
theorem invoke_gadget {t : EventIter} {addr : Nat} {rest : List EventIter} (hs : s.Alive)
    (ht : t.priv = .gadget addr) (h : invoke env s t rest = .ok s') :
    ∃ pre g post g', SplitsAt (·.addr = addr) s.gadgets pre g post ∧ s'.gadgets = pre ++ g' :: post ∧
      s'.captures = s.captures ∧ ∀ fd, fd ≠ g.vdev.fd → Unmoved fd s.io.events s'.io.events := by
  obtain ⟨fd, callback, priv⟩ := t
  dsimp only at ht
  subst ht
  cases callback with
  | looperProcess | hotplugProcess | captureProcess => cases h
  | uvcGadgetProcess =>
      obtain ⟨s₁, h₁, h⟩ := bind_eq_ok.mp h
      obtain ⟨pre, g, post, g', io, hsp, hf, rfl⟩ := onGadget_ok h₁
      cases h
      have hfit := hs.fit.gadgets g hsp.mem
      obtain ⟨hcall, -, -⟩ := uvcGadgetProcess_calls (b := []) hfit.1 hfit.2 hf
      exact ⟨pre, g, post, g', hsp, rfl, rfl, fun fd hne => hcall.unmoved hne⟩
  | uvcVideoProcess =>
      obtain ⟨s₁, h₁, h⟩ := bind_eq_ok.mp h
      obtain ⟨pre, g, post, g', io, hsp, hf, rfl⟩ := onGadget_ok h₁
      cases h
      obtain ⟨-, ⟨k, rfl⟩, -⟩ := uvcVideoProcess_spec (hs.fit.gadgets g hsp.mem).1 hf
      exact ⟨pre, g, post, g', hsp, rfl, rfl, fun fd _ => .refl fd _⟩

/-! ## Messages -/

section Captures

variable {io io' : Io} {captures captures' : List Capture} {k k' : Kernel} {id x : UInt32}
  {fmt : PixFormat} {r : Int} {taken : Bool}

theorem v4lVideoTrySetFormat_gadgetId {c c' : Capture} (hp : c.vdev.Plain)
    (h : v4lVideoTrySetFormat env k c fmt = (r, k', c')) : c'.gadgetId = c.gadgetId := by
  obtain ⟨-, ⟨-, hview⟩ | ⟨-, hview⟩⟩ := v4lVideoTrySetFormat_spec hp h
  · exact congrArg CaptureView.gadgetId hview
  · exact congrArg CaptureView.gadgetId hview

/-- Only the capture that holds `id` is released. -/
theorem setFmtHolder_paired (hne : id ≠ x) (h0 : x ≠ 0) (hp : AllPlain captures)
    (h : setFmtHolder env id fmt captures k = (taken, captures', k')) :
    captures'.filter (·.gadgetId = x) = captures.filter (·.gadgetId = x) := by
  induction captures generalizing k taken captures' k' with
  | nil => cases h; rfl
  | cons c cs ih =>
      have hc : c.vdev.Plain := hp c List.mem_cons_self
      rw [setFmtHolder] at h
      split at h
      · next hid =>
          generalize htry : v4lVideoTrySetFormat env k c fmt = res at h
          obtain ⟨ret, k₁, c₁⟩ := res
          have hid₁ : c₁.gadgetId = id := (v4lVideoTrySetFormat_gadgetId hc htry).trans hid
          dsimp only at h
          split at h
          · cases h
            exact @filter_replaced _ _ [] cs _ _ (by simpa [hid] using hne) (by simpa [hid₁] using hne)
          · cases h
            exact @filter_replaced _ _ [] cs _ _ (by simpa [hid] using hne) (by simpa using Ne.symm h0)
      · generalize hrec : setFmtHolder env id fmt cs k = res at h
        obtain ⟨taken₁, cs₁, k₁⟩ := res
        have htail := ih (fun y hy => hp y (List.mem_cons_of_mem _ hy)) hrec
        cases h
        rw [List.filter_cons, List.filter_cons, htail]

/-- Only an unpaired capture is paired with `id`. -/
theorem setFmtFree_paired (hne : id ≠ x) (h0 : x ≠ 0) (hp : AllPlain captures)
    (h : setFmtFree env id fmt captures k = (taken, captures', k')) :
    captures'.filter (·.gadgetId = x) = captures.filter (·.gadgetId = x) := by
  induction captures generalizing k taken captures' k' with
  | nil => cases h; rfl
  | cons c cs ih =>
      have hcs : AllPlain cs := fun y hy => hp y (List.mem_cons_of_mem _ hy)
      rw [setFmtFree] at h
      split at h
      · next hfree =>
          generalize htry : v4lVideoTrySetFormat env k c fmt = res at h
          obtain ⟨ret, k₁, c₁⟩ := res
          have hfree₁ : c₁.gadgetId = 0 :=
            (v4lVideoTrySetFormat_gadgetId (hp c List.mem_cons_self) htry).trans hfree
          dsimp only at h
          split at h
          · generalize hrec : setFmtFree env id fmt cs k₁ = res at h
            obtain ⟨taken₁, cs₁, k₂⟩ := res
            have htail := ih hcs hrec
            cases h
            rw [List.filter_cons, List.filter_cons, htail, hfree, hfree₁]
            simp [Ne.symm h0]
          · cases h
            exact @filter_replaced _ _ [] cs _ _ (by simpa [hfree] using Ne.symm h0) (by simpa using hne)
      · generalize hrec : setFmtFree env id fmt cs k = res at h
        obtain ⟨taken₁, cs₁, k₁⟩ := res
        have htail := ih hcs hrec
        cases h
        rw [List.filter_cons, List.filter_cons, htail]

theorem v4lCaptureSetFmt_paired (hne : id ≠ x) (h0 : x ≠ 0) (hp : AllPlain captures)
    (h : v4lCaptureSetFmt env io captures id fmt = (r, captures', io')) :
    captures'.filter (·.gadgetId = x) = captures.filter (·.gadgetId = x) := by
  unfold v4lCaptureSetFmt at h
  generalize hhold : setFmtHolder env id fmt captures io.kernel = res at h
  obtain ⟨taken₁, cs₁, k₁⟩ := res
  have h₁ := setFmtHolder_paired hne h0 hp hhold
  dsimp only at h
  split at h
  · cases h; exact h₁
  · generalize hfree : setFmtFree env id fmt cs₁ k₁ = res at h
    obtain ⟨taken₂, cs₂, k₂⟩ := res
    have h₂ := setFmtFree_paired hne h0 (setFmtHolder_spec hp hhold).2.1 hfree
    cases h
    exact h₂.trans h₁

theorem v4lVideoStream_gadgetId {c c' : Capture} {on : Bool} (hp : c.vdev.Plain)
    (h : v4lVideoStream env io c on = .ok (r, c', io')) : c'.gadgetId = c.gadgetId := by
  cases on with
  | true => exact (v4lVideoStream_starts (b := []) hp h).1.gadgetId
  | false => exact (v4lVideoStream_stops (b := []) hp h).1.stopped.1

theorem v4lCaptureStream_paired {on : Bool} (hne : id ≠ x) (hp : AllPlain captures)
    (h : v4lCaptureStream env io captures id on = .ok (r, captures', io')) :
    captures'.filter (·.gadgetId = x) = captures.filter (·.gadgetId = x) := by
  unfold v4lCaptureStream at h
  split at h
  · cases h; rfl
  · next pre c post hs =>
      have hs := splitFirst_decide.mp hs
      obtain ⟨⟨r₁, c₁, io₁⟩, hstream, h⟩ := bind_eq_ok.mp h
      cases h
      have hid : c.gadgetId = id := hs.hit
      have hid₁ : c₁.gadgetId = id := (v4lVideoStream_gadgetId (hp c hs.mem) hstream).trans hid
      rw [hs.eq]
      exact filter_replaced (by simpa [hid] using hne) (by simpa [hid₁] using hne)

theorem v4lCaptureDetachGadget_paired (hne : id ≠ x) (h0 : x ≠ 0)
    (h : v4lCaptureDetachGadget env io captures id = .ok (r, captures', io')) :
    captures'.filter (·.gadgetId = x) = captures.filter (·.gadgetId = x) := by
  unfold v4lCaptureDetachGadget at h
  split at h
  · cases h; rfl
  · next pre c post hs =>
      have hs := splitFirst_decide.mp hs
      obtain ⟨⟨r₁, c₁, io₁⟩, hstream, h⟩ := bind_eq_ok.mp h
      cases h
      have hid : c.gadgetId = id := hs.hit
      rw [hs.eq]
      exact filter_replaced (by simpa [hid] using hne) (by simpa using Ne.symm h0)

/-- **The capture module** keeps the captures of another gadget, and all gadgets. -/
theorem capturePart_paired {m : Message} (hp : AllPlain s.captures) (hm : Sendable m) (hab : AboutGadget m)
    (hne : m.wParam ≠ x) (h0 : x ≠ 0) (h : capturePart env s m = .ok (r, s')) :
    s'.gadgets = s.gadgets ∧
      s'.captures.filter (·.gadgetId = x) = s.captures.filter (·.gadgetId = x) := by
  unfold capturePart at h
  split at h
  · cases hm with
    | signal | hotplugAttached | hotplugDetached | uvcAttached =>
        simp [AboutGadget, Message.signal, Message.hotplugAttached, Message.hotplugDetached,
          Message.uvcAttached] at hab
    | setFmt id p fmt =>
        have h : Except.ok (0, { s with
            captures := (v4lCaptureSetFmt env s.io s.captures id fmt).2.1
            io := (v4lCaptureSetFmt env s.io s.captures id fmt).2.2 }) = .ok (r, s') := h
        cases h
        exact ⟨rfl, v4lCaptureSetFmt_paired hne h0 hp rfl⟩
    | streamOn id =>
        obtain ⟨⟨r₁, cs, io₁⟩, hstream, h⟩ := bind_eq_ok.mp h
        cases h
        exact ⟨rfl, v4lCaptureStream_paired hne hp hstream⟩
    | streamOff id =>
        obtain ⟨⟨r₁, cs, io₁⟩, hstream, h⟩ := bind_eq_ok.mp h
        cases h
        exact ⟨rfl, v4lCaptureStream_paired hne hp hstream⟩
    | frameAvailable id p => cases h; exact ⟨rfl, rfl⟩
    | uvcDetached id =>
        obtain ⟨⟨r₁, cs, io₁⟩, hstream, h⟩ := bind_eq_ok.mp h
        cases h
        exact ⟨rfl, v4lCaptureDetachGadget_paired hne h0 hstream⟩
  · cases h; exact ⟨rfl, rfl⟩

end Captures

/-- **The gadget module** keeps every gadget with another id, and all captures. -/
theorem uvcPart_kept {m : Message} {b : Gadget} {r : Int} (hm : Sendable m) (hab : AboutGadget m)
    (hne : m.wParam ≠ b.id) (hb : b ∈ s.gadgets) (h : uvcPart env s m = .ok (r, s')) :
    b ∈ s'.gadgets ∧ s'.captures = s.captures := by
  unfold uvcPart at h
  split at h
  · cases hm with
    | signal | hotplugAttached | hotplugDetached | uvcAttached =>
        simp [AboutGadget, Message.signal, Message.hotplugAttached, Message.hotplugDetached,
          Message.uvcAttached] at hab
    | setFmt | streamOn | streamOff | uvcDetached => cases h; exact ⟨hb, rfl⟩
    | frameAvailable id p =>
        obtain ⟨⟨r₁, gs, io₁⟩, hfill, h⟩ := bind_eq_ok.mp h
        cases h
        refine ⟨?_, rfl⟩
        unfold uvcGadgetFillBuffer at hfill
        split at hfill
        · unfold strayCursor at hfill
          split at hfill
          · cases hfill
          · cases hfill; exact hb
        · next pre g post hs =>
            have hs := splitFirst_decide.mp hs
            -- the frame goes into the gadget with the id, which `b` is not
            have hrest : b ∈ pre ++ post := mem_erased hs.eq hb fun heq => hne (heq ▸ hs.hit).symm
            split at hfill
            · split at hfill
              · cases hfill
              · split at hfill
                · cases hfill
                · cases hfill
                  exact mem_replaced hrest
            · cases hfill
              exact hb
  · cases h; exact ⟨hb, rfl⟩

/-! ## One step -/

/-- Gadgets at different addresses have different descriptors, and no capture has one of theirs. -/
theorem Standing.callback_fd_ne (hs : Standing env s) {pre post : List Gadget} {g b : Gadget} {addr : Nat}
    (hsp : SplitsAt (·.addr = addr) s.gadgets pre g post) (hb : b ∈ pre ++ post) :
    b.vdev.fd ≠ g.vdev.fd ∧ ∀ c ∈ s.captures, c.vdev.fd ≠ g.vdev.fd := by
  obtain ⟨hg, hc⟩ := hs.wired.gadget_fd_ne (Sys.gadgets_view hsp)
  rw [← List.map_append] at hg
  exact ⟨hg _ (List.mem_map_of_mem hb), fun c hcm => hc _ (List.mem_map_of_mem hcm)⟩

/-- Captures paired differently have different descriptors, and no gadget has one of theirs. -/
theorem Standing.capture_fd_ne (hs : Standing env s) {c : Capture} (hc : c ∈ s.captures) :
    (∀ g ∈ s.gadgets, g.vdev.fd ≠ c.vdev.fd) ∧
      ∀ x ∈ s.captures, x.gadgetId ≠ c.gadgetId → x.vdev.fd ≠ c.vdev.fd := by
  obtain ⟨pre, post, heq⟩ := List.append_of_mem (List.mem_map_of_mem (f := Capture.view) hc)
  obtain ⟨hcs, hgs⟩ := hs.wired.capture_fd_ne heq
  refine ⟨fun g hg => hgs _ (List.mem_map_of_mem hg), fun x hx hne => ?_⟩
  exact hcs _ (mem_erased heq (List.mem_map_of_mem hx) fun h => hne (congrArg CaptureView.gadgetId h))

/-- A gadget is found again by its address. -/
theorem Standing.gadget_at (hs : Standing env s) {pre post : List Gadget} {g a : Gadget}
    (hsp : SplitsAt (·.addr = a.addr) s.gadgets pre g post) (ha : a ∈ s.gadgets) : g = a := by
  by_contra hne
  have hrest : a ∈ pre ++ post := mem_erased hsp.eq ha (Ne.symm hne)
  have hnd := (hs.housed.placed.perm (View.places_gadget (Sys.gadgets_view hsp))).nodup
  have haddr : g.addr = a.addr := hsp.hit
  refine (List.nodup_cons.mp hnd).1 ?_
  show g.addr ∈ _
  rw [haddr]
  refine List.mem_append_left _ ?_
  show a.addr ∈ List.map (·.addr) (pre.map Gadget.view ++ post.map Gadget.view)
  rw [← List.map_append, List.map_map]
  exact List.mem_map_of_mem (f := (·.addr) ∘ Gadget.view) hrest

/-- **Step lemma.** A step that concerns another id leaves a gadget and its captures alone. -/
theorem Standing.undisturbed (hs : Standing env s) (hal : s.Alive) {b : Gadget} {id : UInt32}
    (hb : b ∈ s.gadgets) (h0 : b.id ≠ 0) (hfor : s.Concerns id) (hne : id ≠ b.id)
    (h : next env s = .ok s') : s.Undisturbed b s' := by
  cases hfor with
  | callback hat ha hid =>
      rename_i fd callback rest a
      unfold next at h
      rw [hat] at h
      obtain ⟨pre, g, post, g', hsp, hgs, hcs, hmoved⟩ := invoke_gadget hal rfl h
      have hga : g = a := hs.gadget_at hsp ha
      have hrest : b ∈ pre ++ post := mem_erased hsp.eq hb fun heq => hne (by rw [← hid, ← hga, heq])
      obtain ⟨hfd, hfds⟩ := hs.callback_fd_ne hsp hrest
      refine ⟨by rw [hgs]; exact mem_replaced hrest, by rw [hcs], fun fd hfd' => hmoved fd ?_⟩
      rcases hfd' with rfl | ⟨c, hc, -, rfl⟩
      · exact hfd
      · exact hfds c hc
  | message hat hab hid =>
      rename_i m batch rest
      unfold next at h
      rw [hat] at h
      obtain ⟨s₁, hh, h⟩ := bind_eq_ok.mp h
      cases h
      have hsend : Sendable m := hal.sendable m (by unfold Sys.pending; rw [hat]; simp)
      obtain ⟨hm, -, -, -⟩ := looperHandle_handles (b := batch) hal.fit hsend hh
      have hmoved : ∀ fd, (∀ c ∈ s.captures, c.gadgetId = id → fd ≠ c.vdev.fd) →
          Unmoved fd s.io.events s₁.io.events := by
        intro fd hfd
        refine hm.unmoved hab fun c hc hcid => ?_
        obtain ⟨x, hx, rfl⟩ := List.mem_map.mp hc
        exact hfd x hx (hcid.trans hid)
      obtain ⟨s₂, hd, hend⟩ := bind_eq_ok.mp hh
      -- the rest of the turn touches no object
      have hlists : s₁.gadgets = s₂.gadgets ∧ s₁.captures = s₂.captures := by
        dsimp only at hend
        split at hend
        · split at hend <;> · cases hend; exact ⟨rfl, rfl⟩
        · split at hend <;> · cases hend; exact ⟨rfl, rfl⟩
      have hparts : b ∈ s₂.gadgets ∧
          s₂.captures.filter (·.gadgetId = b.id) = s.captures.filter (·.gadgetId = b.id) := by
        obtain ⟨r, s₃, hu, hcase⟩ := looperDispatch_parts hal.fit.staffed hd
        obtain ⟨hb₃, hc₃⟩ := uvcPart_kept hsend hab (hid.symm ▸ hne) hb hu
        rcases hcase with ⟨-, rfl⟩ | ⟨-, r', hc⟩
        · exact ⟨hb₃, by rw [hc₃]⟩
        · have hp₃ : AllPlain s₃.captures := by rw [hc₃]; exact hal.fit.captures
          obtain ⟨hg₂, hc₂⟩ := capturePart_paired hp₃ hsend hab (hid.symm ▸ hne) h0 hc
          exact ⟨by rw [hg₂]; exact hb₃, by rw [hc₂, hc₃]⟩
      refine ⟨by rw [hlists.1]; exact hparts.1, by rw [hlists.2]; exact hparts.2, fun fd hfd => ?_⟩
      refine hmoved fd fun c hc hcid => ?_
      obtain ⟨hgs, hcs⟩ := hs.capture_fd_ne hc
      rcases hfd with rfl | ⟨x, hx, hxid, rfl⟩
      · exact hgs b hb
      · exact hcs x hx (by rw [hxid, hcid]; exact Ne.symm hne)

/-! ## Reachable states -/

/-- **Isolation.** While the ids of the attached gadgets are distinct and not `0`, whatever is done for a
    gadget, attached or gone, leaves every other gadget, its captures and their watches as they are. -/
theorem isolation (hr : Reaches env s) (hids : (s.gadgets.map (·.id)).Nodup)
    (h0 : ∀ g ∈ s.gadgets, g.id ≠ 0) {b : Gadget} (hb : b ∈ s.gadgets) {id : UInt32}
    (hfor : s.Concerns id)
    (hother : (∃ a ∈ s.gadgets, a.addr ≠ b.addr ∧ a.id = id) ∨ ∀ g ∈ s.gadgets, g.id ≠ id)
    (h : next env s = .ok s') : s.Undisturbed b s' := by
  have hrun : s.phase ≠ .finished := by
    cases hfor with
    | callback hat _ _ => rw [hat]; simp
    | message hat _ _ => rw [hat]; simp
  obtain ⟨hal, hs⟩ := reaches_standing hr hrun
  have hne : id ≠ b.id := by
    rcases hother with ⟨a, ha, haddr, rfl⟩ | hgone
    · intro heq
      exact haddr (congrArg Gadget.addr (List.inj_on_of_nodup_map hids ha hb heq))
    · exact Ne.symm (hgone b hb)
  exact hs.undisturbed hal hb (h0 b hb) hfor hne h

/-- Two gadgets and a capture, and a host that commits a format on the first gadget. -/
def pairBench : Env := .obliging [videoName 0, videoName 2] [(50, commitRequest), (53, commitData)]

/-- The format of the first gadget is handed on to a capture, the second gadget is not disturbed. -/
theorem isolation_setFmt :
    ∃ s s' b, run pairBench ([.next, .next] ++ [[3], [6], [6]].flatMap (turn · 12) ++ turn [3] 3)
        (boot pairBench [videoName 0, videoName 1, videoName 2] fun _ => .zero) = .ok s ∧
      next pairBench s = .ok s' ∧ s.Undisturbed b s' := by
  obtain ⟨s, h, hids, h0, ⟨a, ha, b, hb, haddr, hm⟩, hok⟩ :
      ∃ s, run pairBench ([.next, .next] ++ [[3], [6], [6]].flatMap (turn · 12) ++ turn [3] 3)
        (boot pairBench [videoName 0, videoName 1, videoName 2] fun _ => .zero) = .ok s ∧
      (s.gadgets.map (·.id)).Nodup ∧ (∀ g ∈ s.gadgets, g.id ≠ 0) ∧
      (∃ a ∈ s.gadgets, ∃ b ∈ s.gadgets, a.addr ≠ b.addr ∧
        (s.phase.batch.head?.map fun m => (m.what, m.wParam)) = some (.videoSetFmt, a.id)) ∧
      ∃ s', next pairBench s = .ok s' ∧ s'.phase ≠ .finished := by
    decide +kernel
  obtain ⟨s', hnext, -⟩ := hok
  have hfor : s.Concerns a.id := by
    cases hat : s.phase with
    | process batch rest =>
        cases batch with
        | nil => rw [hat] at hm; cases hm
        | cons m batch =>
            rw [hat] at hm
            obtain ⟨hwhat, hid⟩ := Prod.mk.inj (Option.some.inj hm)
            exact .message hat (by unfold AboutGadget; rw [hwhat]; decide) hid
    | start | inited | select | dispatch iter | exit | finished => rw [hat] at hm; cases hm
  exact ⟨s, s', b, h, hnext, isolation ⟨_, _, _, h⟩ hids h0 hb hfor (.inl ⟨a, ha, haddr, rfl⟩) hnext⟩

end Uvcd
