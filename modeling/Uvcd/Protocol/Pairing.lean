import Uvcd.Lib.Fifo
import Uvcd.Protocol.Board

/-!
# `Protocol.Pairing` — captures, the gadgets they are paired with, and the messages in between

A capture refers to a gadget by id only, and learns of it through the queue: `MSG_VIDEO_SET_FMT` pairs,
`MSG_UVC_DETACHED` parts, `MSG_VIDEO_STREAM_ON` and `MSG_VIDEO_STREAM_OFF` start and stop.

* `HeldOnce` — no two captures hold one id.
* `Relies` — the captures that need their gadget have it backed: by a gadget, or by the announcement of its
  end in the queue. `Settled` is the case of pairings, `Supplied` that of streams.

Each is kept by gadget callbacks, capture callbacks and handled messages.
-/

namespace Uvcd

open Split Fifo

variable {env : Env} {refuses : Prop} {v v' : View} {m : Message} {ms q : List Message}
  {gadgets gadgets' : List GadgetView} {captures captures' : List CaptureView}

/-! ## Each id is held once -/

/-- No two captures hold the same id; `0` stands for none. -/
def HeldOnce (captures : List CaptureView) : Prop :=
  captures.Pairwise fun a b => a.gadgetId ≠ 0 → a.gadgetId ≠ b.gadgetId

theorem HeldOnce.replace {pre post : List CaptureView} {c c' : CaptureView}
    (h : HeldOnce (pre ++ c :: post))
    (hc : c'.gadgetId = c.gadgetId ∨ c'.gadgetId = 0 ∨ ∀ x ∈ pre ++ post, x.gadgetId ≠ c'.gadgetId) :
    HeldOnce (pre ++ c' :: post) := by
  obtain ⟨hpre, hpost, hcross⟩ := List.pairwise_append.mp h
  obtain ⟨hhead, htail⟩ := List.pairwise_cons.mp hpost
  refine List.pairwise_append.mpr ⟨hpre, List.pairwise_cons.mpr ⟨?_, htail⟩, ?_⟩
  · intro x hx h0
    rcases hc with hc | hc | hc
    · rw [hc] at h0 ⊢; exact hhead x hx h0
    · exact absurd hc h0
    · exact fun heq => hc x (List.mem_append_right _ hx) heq.symm
  · intro x hx y hy h0
    rcases List.mem_cons.mp hy with rfl | hy
    · rcases hc with hc | hc | hc
      · rw [hc]; exact hcross x hx c List.mem_cons_self h0
      · rw [hc]; exact h0
      · exact hc x (List.mem_append_left _ hx)
    · exact hcross x hx y (List.mem_cons_of_mem _ hy) h0

/-- Nobody else holds the id of the first that holds it. -/
theorem HeldOnce.others {pre post : List CaptureView} {c : CaptureView} {id : UInt32}
    (h : HeldOnce captures) (hs : SplitsAt (·.gadgetId = id) captures pre c post) (h0 : id ≠ 0) :
    ∀ x ∈ pre ++ post, x.gadgetId ≠ id := by
  rw [hs.eq] at h
  obtain ⟨-, hpost, -⟩ := List.pairwise_append.mp h
  have hc : c.gadgetId = id := hs.hit
  intro x hx
  rcases List.mem_append.mp hx with hx | hx
  · exact hs.miss x hx
  · have := (List.pairwise_cons.mp hpost).1 x hx
    rw [hc] at this
    exact fun heq => this h0 heq.symm

theorem Releases.heldOnce {id : UInt32} (hr : Releases refuses id captures captures')
    (h : HeldOnce captures) : HeldOnce captures' ∧ (id ≠ 0 → ∀ c ∈ captures', c.gadgetId ≠ id) := by
  cases hr with
  | none hn => exact ⟨h, fun _ => hn⟩
  | refused _ hs =>
      refine ⟨(hs.eq ▸ h).replace (.inr (.inl rfl)), fun h0 c hc => ?_⟩
      have hother := h.others hs h0
      rcases List.mem_append.mp hc with hc | hc
      · exact hother c (List.mem_append_left _ hc)
      · rcases List.mem_cons.mp hc with rfl | hc
        · exact fun heq => h0 heq.symm
        · exact hother c (List.mem_append_right _ hc)

/-- A capture that is released holds nothing any more, the others are as they were. -/
theorem Releases.mem {id : UInt32} (hr : Releases refuses id captures captures') {c : CaptureView}
    (hc : c ∈ captures') : c ∈ captures ∨ (c.gadgetId = 0 ∧ refuses ∧
      ∃ pre c₀ post, SplitsAt (·.gadgetId = id) captures pre c₀ post ∧ c.streaming = c₀.streaming) := by
  cases hr with
  | none _ => exact .inl hc
  | refused href hs =>
      rcases List.mem_append.mp hc with hc | hc
      · exact .inl (by rw [hs.eq]; simp [hc])
      · rcases List.mem_cons.mp hc with rfl | hc
        · exact .inr ⟨rfl, href, _, _, _, hs, rfl⟩
        · exact .inl (by rw [hs.eq]; simp [hc])

theorem StartsCapture.gadgetId {w w' : Board} {c c' : CaptureView} (h : StartsCapture env w c w' c') :
    c'.gadgetId = c.gadgetId := by cases h <;> rfl

theorem StopsCapture.stopped {w w' : Board} {c c' : CaptureView} (h : StopsCapture w c w' c') :
    c'.gadgetId = c.gadgetId ∧ c'.streaming = false := by
  cases h with
  | idle hoff _ => exact ⟨rfl, hoff⟩
  | stop _ _ => exact ⟨rfl, rfl⟩

theorem CaptureCalls.same {w w' : Board} {c c' : CaptureView} (h : CaptureCalls env w c w' c') :
    c'.gadgetId = c.gadgetId ∧ c'.streaming = c.streaming := by cases h <;> exact ⟨rfl, rfl⟩

/-- **A message pairs at most one capture with an id.** -/
theorem Handles.heldOnce (hm : Handles env refuses v m v') (h : HeldOnce v.captures) :
    HeldOnce v'.captures := by
  cases hm with
  | captureAttached hname hoff hid hsize hframes hfd haddr hlt he =>
      refine List.pairwise_append.mpr ⟨h, List.pairwise_singleton _ _, ?_⟩
      intro x hx y hy h0
      rw [List.mem_singleton.mp hy, hid]; exact h0
  | captureDetached hg hs hstop he =>
      exact h.sublist (by rw [hs.eq]; exact (List.sublist_cons_self _ _).append_left _)
  | setFmtHeld hs he => exact (hs.eq ▸ h).replace (.inl rfl)
  | setFmtPaired hr hs hfree he =>
      rename_i id p fmt cs pre post c w
      obtain ⟨hcs, hnone⟩ := hr.heldOnce h
      rw [hs] at hcs hnone
      by_cases h0 : id = 0
      · exact hcs.replace (.inl (by rw [h0, hfree]))
      · refine hcs.replace (.inr (.inr fun x hx => hnone h0 x ?_))
        rcases List.mem_append.mp hx with hx | hx <;> simp [hx]
  | setFmtUnpaired hr he => exact (hr.heldOnce h).1
  | streamOn hs hstart => exact (hs.eq ▸ h).replace (.inl hstart.gadgetId)
  | streamOff hs hstop => exact (hs.eq ▸ h).replace (.inl hstop.stopped.1)
  | uvcDetached hs hstop => exact (hs.eq ▸ h).replace (.inr (.inl rfl))
  | signal | attachFailed _ | gadgetAttached _ _ _ _ _ _ _ _ | gadgetDetached _ _ _ | detachMissed _ _
  | streamOnMissed _ | streamOffMissed _ | uvcAttached | uvcDetachedMissed _ | frameCopied _ _ _
  | frameDropped _ => exact h

/-! ## Ids that are relied upon -/

/-- The captures that `need` their gadget and the messages that open an id have it backed. -/
structure Relies (need : CaptureView → Prop) (live : UInt32 → Prop) (close : UInt32 → Message)
    (opens : Message → UInt32 → Prop) (captures : List CaptureView) (q : List Message) : Prop where
  held : ∀ c ∈ captures, need c → Backed live close c.gadgetId q
  asked : Pledged live close opens q

section Relies

variable {need : CaptureView → Prop} {live live' : UInt32 → Prop} {close : UInt32 → Message}
  {opens : Message → UInt32 → Prop}

/-- More messages, other gadgets. -/
theorem Relies.append (h : Relies need live close opens captures q)
    (hlive : ∀ id, live id → live' id ∨ close id ∈ ms) (hms : Pledged live' close opens ms) :
    Relies need live' close opens captures (q ++ ms) :=
  ⟨fun c hc hn => (h.held c hc hn).append (hlive _), h.asked.append hlive hms⟩

/-- Other captures, the oldest message taken out: each that needs an id had it before or was given it by
    that message, which does not end it. -/
theorem Relies.pop (h : Relies need live close opens captures (m :: q))
    (hc : ∀ c ∈ captures', need c → m ≠ close c.gadgetId ∧
      (opens m c.gadgetId ∨ ∃ c₀ ∈ captures, need c₀ ∧ c₀.gadgetId = c.gadgetId)) :
    Relies need live close opens captures' q := by
  refine ⟨fun c hmem hn => ?_, h.asked.2⟩
  obtain ⟨hne, hopen | ⟨c₀, hc₀, hn₀, heq⟩⟩ := hc c hmem hn
  · exact h.asked.1 _ hopen
  · exact (heq ▸ h.held c₀ hc₀ hn₀).pop hne

/-- The frames a capture posts open nothing. -/
theorem CaptureCalls.relies {pre post : List CaptureView} {c c' : CaptureView} {w w' : Board}
    (hcall : CaptureCalls env w c w' c') (hneed : need c' → need c)
    (hopens : ∀ id p k, ¬opens (.frameAvailable id p) k)
    (h : Relies need live close opens (pre ++ c :: post) w.queue) :
    Relies need live close opens (pre ++ c' :: post) w'.queue := by
  obtain ⟨ms, hq, hms⟩ := hcall.frames
  have h₁ : Relies need live close opens (pre ++ c' :: post) w.queue := by
    refine ⟨fun x hx hn => ?_, h.asked⟩
    rcases List.mem_append.mp hx with hx | hx
    · exact h.held x (by simp [hx]) hn
    · rcases List.mem_cons.mp hx with rfl | hx
      · rw [hcall.same.1]; exact h.held c (by simp) (hneed hn)
      · exact h.held x (by simp [hx]) hn
  rw [hq]
  refine h₁.append (fun _ h => .inl h) (pledged_of_forall ?_)
  intro m hm k hk
  obtain ⟨fb, off, -, -, rfl⟩ := hms m hm
  exact hopens _ _ _ hk

end Relies

/-! ## What gadgets send -/

section Gadgets

variable {w w' : Board} {g g' : GadgetView} {ev : Except Errno UvcEvent}

/-- What a gadget makes known of itself: formats, a stream it has started, a stream it has stopped. -/
inductive Announces (g g' : GadgetView) : Message → Prop
  | setFmt (p : Nat) (fmt : PixFormat) : Announces g g' (.setFmt g.id p fmt)
  | streamOn (hon : g'.streaming = true) : Announces g g' (.streamOn g.id)
  | streamOff : Announces g g' (.streamOff g.id)

/-- The messages of a gadget's callback; a stream that stops is announced when its send goes through. -/
structure Sends (env : Env) (w : Board) (g : GadgetView) (w' : Board) (g' : GadgetView)
    (ms : List Message) : Prop where
  queue : w'.queue = w.queue ++ ms
  id : g'.id = g.id
  announces : ∀ m ∈ ms, Announces g g' m
  stopped : (∀ t id, env.write t (.streamOff id) = true) → g.streaming = true →
    g'.streaming = true ∨ .streamOff g.id ∈ ms

theorem Posts.sends (h : Posts env m w w') (hid : g'.id = g.id) (hm : Announces g g' m)
    (hstop : g.streaming = true → g'.streaming = true ∨ m = .streamOff g.id) :
    ∃ ms, Sends env w g w' g' ms := by
  rcases h.queue with hq | ⟨hq, t, ht⟩
  · refine ⟨[m], hq, hid, fun x hx => ?_, fun _ hon => ?_⟩
    · rw [List.mem_singleton.mp hx]; exact hm
    · exact (hstop hon).imp id fun h => by rw [h]; exact List.mem_singleton_self _
  · refine ⟨[], by rw [hq, List.append_nil], hid, fun x hx => (by cases hx), fun hoff hon => ?_⟩
    refine (hstop hon).imp id fun h => ?_
    rw [h, hoff] at ht; cases ht

theorem Elapses.sends (h : Elapses w w') (hid : g'.id = g.id) (hon : g'.streaming = g.streaming) :
    ∃ ms, Sends env w g w' g' ms :=
  ⟨[], by rw [h.queue_eq, List.append_nil], hid, fun x hx => (by cases hx), fun _ h => .inl (hon.trans h)⟩

theorem StopsGadget.sends (h : StopsGadget env w g w' g') :
    ∃ ms, Sends env w g w' g' ms ∧ ∀ m ∈ ms, m = .streamOff g.id := by
  cases h with
  | idle _ he =>
      refine ⟨[], ?_, fun m hm => by cases hm⟩
      exact ⟨by rw [he.queue_eq, List.append_nil], rfl, fun m hm => (by cases hm), fun _ h => .inl h⟩
  | stop _ hp =>
      rcases hp.queue with hq | ⟨hq, t, ht⟩
      · refine ⟨[.streamOff g.id], ⟨hq, rfl, ?_, fun _ _ => .inr (by simp)⟩, ?_⟩
        · intro m hm
          rw [List.mem_singleton.mp hm]; exact .streamOff
        · exact fun m hm => List.mem_singleton.mp hm
      · refine ⟨[], ⟨by rw [hq, List.append_nil]; rfl, rfl, fun m hm => (by cases hm), ?_⟩,
          fun m hm => by cases hm⟩
        intro hoff
        rw [hoff] at ht; cases ht

theorem StopsGadget.off (h : StopsGadget env w g w' g') : g'.streaming = false := by
  cases h with
  | idle hoff _ => exact hoff
  | stop _ _ => rfl

theorem GadgetCalls.sends (h : GadgetCalls env ev w g w' g') : ∃ ms, Sends env w g w' g' ms := by
  cases h with
  | quiet he => exact he.sends rfl rfl
  | start _ hs =>
      cases hs with
      | idle he => exact he.sends rfl rfl
      | start hoff hw hp =>
          obtain ⟨ms, hms⟩ : ∃ ms, Sends env _ g w' { g with streaming := true } ms :=
            hp.sends rfl (.streamOn rfl) fun _ => .inl rfl
          exact ⟨ms, by rw [hms.queue, hw.queue_eq], hms.id, hms.announces, hms.stopped⟩
  | stop _ hs =>
      obtain ⟨ms, hms, -⟩ := hs.sends
      exact ⟨ms, hms⟩
  | commit _ he => exact he.sends rfl rfl
  | setFmt _ _ _ _ hp => exact hp.sends rfl (.setFmt _ _) .inl

end Gadgets

/-! ## Pairings -/

/-- What backs a pairing: an attached gadget with the id, or `MSG_UVC_DETACHED` still to be handled. -/
abbrev Settled (gadgets : List GadgetView) (captures : List CaptureView) (q : List Message) : Prop :=
  Relies (fun c => c.gadgetId ≠ 0) (fun id => ∃ g ∈ gadgets, g.id = id) Message.uvcDetached
    (fun m id => ∃ p fmt, m = .setFmt id p fmt) captures q

theorem GadgetCalls.settled {pre post : List GadgetView} {g g' : GadgetView} {w w' : Board}
    {ev : Except Errno UvcEvent} (hcall : GadgetCalls env ev w g w' g')
    (h : Settled (pre ++ g :: post) captures w.queue) :
    Settled (pre ++ g' :: post) captures w'.queue := by
  obtain ⟨ms, hms⟩ := hcall.sends
  rw [hms.queue]
  refine h.append (fun id hlive => .inl (exists_replaced hlive hms.id.trans)) ?_
  -- a format is asked for by a gadget that is attached
  refine behind_of_forall fun m hm post' id ⟨p, fmt, heq⟩ => .inl ⟨g', by simp, ?_⟩
  cases hms.announces m hm with
  | setFmt p' fmt' => rw [hms.id]; exact congrArg Message.wParam heq
  | streamOn _ => cases heq
  | streamOff => cases heq

/-- The capture is paired with nobody, or as one of `captures` is. -/
def PairedAs (captures : List CaptureView) (c : CaptureView) : Prop :=
  c.gadgetId = 0 ∨ ∃ c₀ ∈ captures, c₀.gadgetId = c.gadgetId

theorem pairedAs_of_mem {c : CaptureView} (hc : c ∈ captures) : PairedAs captures c := .inr ⟨c, hc, rfl⟩

/-- One capture changes, and keeps its gadget or is parted from it. -/
theorem pairedAs_replaced {pre post : List CaptureView} {c c' : CaptureView} (heq : captures = pre ++ c :: post)
    (hc : c'.gadgetId = c.gadgetId ∨ c'.gadgetId = 0) : ∀ x ∈ pre ++ c' :: post, PairedAs captures x :=
  forall_replaced heq (fun _ hx => pairedAs_of_mem hx) (hc.symm.imp id fun hc => ⟨c, by simp [heq], hc.symm⟩)

namespace Settled

variable {id : UInt32} {p : Nat} {fmt : PixFormat}

/-- A message that ends no pairing, and captures that are paired as before. -/
theorem kept (h : Settled gadgets captures (m :: q)) (hne : m.what ≠ .uvcDetached)
    (hcs : ∀ c ∈ captures', PairedAs captures c) : Settled gadgets captures' q := by
  refine h.pop fun c hc hn => ⟨fun heq => hne (by rw [heq]; rfl), .inr ?_⟩
  obtain ⟨c₀, hc₀, heq⟩ := (hcs c hc).resolve_left hn
  exact ⟨c₀, hc₀, by rw [heq]; exact hn, heq⟩

/-- The end of a gadget, from which no capture stays paired with it. -/
theorem parted (h : Settled gadgets captures (.uvcDetached id :: q))
    (hcs : ∀ c ∈ captures', c.gadgetId ≠ 0 → c ∈ captures ∧ c.gadgetId ≠ id) : Settled gadgets captures' q := by
  refine h.pop fun c hc hn => ⟨fun heq => (hcs c hc hn).2 ?_, .inr ⟨c, (hcs c hc hn).1, hn, rfl⟩⟩
  exact congrArg Message.wParam heq.symm

/-- A gadget comes, and says so. -/
theorem attached (h : Settled gadgets captures q) (g : GadgetView) :
    Settled (gadgets ++ [g]) captures (q ++ [.uvcAttached g.id]) := by
  refine h.append (fun id ⟨x, hx, hid⟩ => .inl ⟨x, List.mem_append_left _ hx, hid⟩) (pledged_of_forall ?_)
  rintro m hm id ⟨p, fmt, rfl⟩
  cases List.mem_singleton.mp hm

/-- A gadget goes: its own end is announced, every other gadget is still there. -/
theorem detached {pre post : List GadgetView} {g : GadgetView} (h : Settled (pre ++ g :: post) captures q)
    (hms : ∀ m ∈ ms, m = .streamOff g.id) :
    Settled (pre ++ post) captures (q ++ (ms ++ [.uvcDetached g.id])) := by
  refine h.append (fun id hlive => ?_) (pledged_of_forall ?_)
  · rcases exists_erased hlive with rfl | hlive
    · exact .inr (by simp)
    · exact .inl hlive
  · rintro m hm id ⟨p, fmt, rfl⟩
    rcases List.mem_append.mp hm with hm | hm
    · cases hms _ hm
    · cases List.mem_singleton.mp hm

/-- A format that is asked for pairs a capture with who asks; the others are paired as before. -/
theorem paired {pre post : List CaptureView} {c c' : CaptureView}
    (h : Settled gadgets captures (.setFmt id p fmt :: q)) (hr : Releases refuses id captures (pre ++ c :: post))
    (hc' : c'.gadgetId = id) : Settled gadgets (pre ++ c' :: post) q := by
  refine h.pop fun x hx hn => ⟨fun heq => (by cases heq), ?_⟩
  rcases mem_replaced_cases hx with rfl | hx
  · exact .inl ⟨p, fmt, by rw [hc']⟩
  · -- one that was released is paired with nobody
    have hold : x ∈ captures := (hr.mem (mem_replaced hx)).resolve_right fun hfree => hn hfree.1
    exact .inr ⟨x, hold, hn, rfl⟩

end Settled

/-- The capture that held the id is parted from it, and nobody else held it. -/
theorem HeldOnce.parted {pre post : List CaptureView} {c c' : CaptureView} {id : UInt32} (h : HeldOnce captures)
    (hs : SplitsAt (·.gadgetId = id) captures pre c post) (hc' : c'.gadgetId = 0) :
    ∀ x ∈ pre ++ c' :: post, x.gadgetId ≠ 0 → x ∈ captures ∧ x.gadgetId ≠ id := by
  intro x hx hn
  rcases mem_replaced_cases hx with rfl | hx
  · exact absurd hc' hn
  · refine ⟨mem_of_erased hs.eq hx, ?_⟩
    by_cases h0 : id = 0
    · rw [h0]; exact hn
    · exact h.others hs h0 x hx

/-- **A message keeps pairings backed.** -/
theorem Handles.settled (hw : ∀ t m, env.write t m = true) (hm : Handles env refuses v m v')
    (hh : HeldOnce v.captures) (h : Settled v.gadgets v.captures (m :: v.board.queue)) :
    Settled v'.gadgets v'.captures v'.board.queue := by
  have hsame : ∀ c ∈ v.captures, PairedAs v.captures c := fun c hc => pairedAs_of_mem hc
  -- the queue as it is behind the message, whatever the board is by then
  have hkept : ∀ {cs : List CaptureView} {q : List Message}, q = v.board.queue → m.what ≠ .uvcDetached →
      (∀ c ∈ cs, PairedAs v.captures c) → Settled v.gadgets cs q := fun hq hne hcs => by rw [hq]; exact h.kept hne hcs
  cases hm with
  | signal => exact h.kept (by simp [Message.signal]) hsame
  | attachFailed he => exact hkept he.queue_eq (by simp [Message.hotplugAttached]) hsame
  | gadgetAttached hname hoff hfmt hfd haddr hlt hwatch hp =>
      rename_i p name g w₁ w₂
      show Settled (v.gadgets ++ [g]) v.captures w₂.queue
      rw [hp.sent (hw · _)]
      exact (hkept hwatch.queue_eq (by simp [Message.hotplugAttached]) hsame).attached g
  | captureAttached hname hoff hid hsize hframes hfd haddr hlt he =>
      exact hkept he.queue_eq (by simp [Message.hotplugAttached]) (forall_snoc hsame (.inl hid))
  | gadgetDetached hs hstop hp =>
      rename_i p name pre post g g' w₁ w₂
      obtain ⟨ms, hms, hoffs⟩ := hstop.sends
      have hq : w₂.queue = v.board.queue ++ (ms ++ [.uvcDetached g.id]) := by
        rw [hp.sent (hw · _), ← List.append_assoc, ← hms.queue]; rfl
      show Settled (pre ++ post) v.captures w₂.queue
      rw [hq]
      have hpop := h.kept (by simp [Message.hotplugDetached]) hsame
      rw [hs.eq] at hpop
      exact hpop.detached hoffs
  | captureDetached hg hs hstop he =>
      exact hkept (he.queue_eq.trans hstop.queue_eq) (by simp [Message.hotplugDetached]) (forall_erased hs.eq hsame)
  | detachMissed hg hc => exact h.kept (by simp [Message.hotplugDetached]) hsame
  | setFmtHeld hs he => exact hkept he.queue_eq (by simp [Message.setFmt]) (pairedAs_replaced hs.eq (.inl rfl))
  | setFmtPaired hr hs hfree he =>
      rename_i id p fmt cs pre post c w
      show Settled v.gadgets _ w.queue
      rw [he.queue_eq]
      rw [hs] at hr
      exact h.paired hr rfl
  | setFmtUnpaired hr he =>
      refine hkept he.queue_eq (by simp [Message.setFmt]) fun c hc => ?_
      exact (hr.mem hc).symm.imp And.left fun hc => ⟨c, hc, rfl⟩
  | streamOn hs hstart =>
      exact hkept hstart.queue_eq (by simp [Message.streamOn]) (pairedAs_replaced hs.eq (.inl hstart.gadgetId))
  | streamOnMissed hc => exact h.kept (by simp [Message.streamOn]) hsame
  | streamOff hs hstop =>
      exact hkept hstop.queue_eq (by simp [Message.streamOff]) (pairedAs_replaced hs.eq (.inl hstop.stopped.1))
  | streamOffMissed hc => exact h.kept (by simp [Message.streamOff]) hsame
  | uvcAttached => exact h.kept (by simp [Message.uvcAttached]) hsame
  | uvcDetached hs hstop =>
      show Settled v.gadgets _ _
      rw [hstop.queue_eq]
      exact h.parted (hh.parted hs rfl)
  | uvcDetachedMissed hc => exact h.parted fun x hx _ => ⟨hx, hc x hx⟩
  | frameCopied hs hon hf => exact hkept rfl (by simp [Message.frameAvailable]) hsame
  | frameDropped hs => exact h.kept (by simp [Message.frameAvailable]) hsame

/-! ## Streams -/

/-- What backs a stream: a streaming gadget with the id the capture is paired with, or
    `MSG_VIDEO_STREAM_OFF` still to be handled. -/
structure Supplied (gadgets : List GadgetView) (captures : List CaptureView) (q : List Message) : Prop where
  paired : ∀ c ∈ captures, c.streaming = true → c.gadgetId ≠ 0
  relies : Relies (fun c => c.streaming = true) (fun id => ∃ g ∈ gadgets, g.id = id ∧ g.streaming = true)
    Message.streamOff (fun m id => m = .streamOn id) captures q

theorem GadgetCalls.supplied {pre post : List GadgetView} {g g' : GadgetView} {w w' : Board}
    {ev : Except Errno UvcEvent} (hoff : ∀ t id, env.write t (.streamOff id) = true)
    (hcall : GadgetCalls env ev w g w' g') (h : Supplied (pre ++ g :: post) captures w.queue) :
    Supplied (pre ++ g' :: post) captures w'.queue := by
  obtain ⟨ms, hms⟩ := hcall.sends
  refine ⟨h.paired, ?_⟩
  rw [hms.queue]
  refine h.relies.append (fun id hlive => ?_) ?_
  · rcases exists_erased hlive with ⟨rfl, hon⟩ | ⟨x, hx, hlive⟩
    · -- the gadget itself goes on streaming or has told so
      exact (hms.stopped hoff hon).imp (fun hon' => ⟨g', by simp, hms.id, hon'⟩) id
    · exact .inl ⟨x, mem_replaced hx, hlive⟩
  · refine behind_of_forall fun m hm post' id heq => .inl ⟨g', by simp, ?_⟩
    cases hms.announces m hm with
    | setFmt p' fmt' => cases heq
    | streamOn hon => exact ⟨hms.id.trans (congrArg Message.wParam heq), hon⟩
    | streamOff => cases heq

/-- The message does not stop the capture, and one of `captures` streams for the same gadget. -/
def StreamsAs (captures : List CaptureView) (m : Message) (c : CaptureView) : Prop :=
  m ≠ .streamOff c.gadgetId ∧ ∃ c₀ ∈ captures, c₀.streaming = true ∧ c₀.gadgetId = c.gadgetId

theorem streamsAs_of_mem {c : CaptureView} (hne : m.what ≠ .videoStreamOff) (hc : c ∈ captures)
    (hn : c.streaming = true) : StreamsAs captures m c :=
  ⟨fun heq => hne (by rw [heq]; rfl), c, hc, hn, rfl⟩

/-- One capture changes, and streams as before or not at all. -/
theorem streamsAs_replaced {pre post : List CaptureView} {c c' : CaptureView} (heq : captures = pre ++ c :: post)
    (hne : m.what ≠ .videoStreamOff) (hc : c'.streaming = true → StreamsAs captures m c') :
    ∀ x ∈ pre ++ c' :: post, x.streaming = true → StreamsAs captures m x :=
  forall_replaced heq (fun _ hx hn => streamsAs_of_mem hne hx hn) hc

/-- A format that is asked for leaves every stream as it was, when no streaming capture is released. -/
theorem Releases.streaming {id : UInt32} (hr : Releases refuses id captures captures')
    (hrefused : refuses → ∀ pre c post, SplitsAt (·.gadgetId = id) captures pre c post → c.streaming = false)
    {c : CaptureView} (hc : c ∈ captures') (hon : c.streaming = true) : c ∈ captures := by
  rcases hr.mem hc with hc | ⟨-, href, pre, c₀, post, hs, heq⟩
  · exact hc
  · rw [hrefused href pre c₀ post hs] at heq
    rw [heq] at hon; cases hon

namespace Supplied

variable {id : UInt32}

/-- A message that stops no stream, and captures that stream as before. -/
theorem kept (h : Supplied gadgets captures (m :: q))
    (hcs : ∀ c ∈ captures', c.streaming = true → StreamsAs captures m c) : Supplied gadgets captures' q := by
  refine ⟨fun c hc hn => ?_, h.relies.pop fun c hc hn => ?_⟩
  · obtain ⟨-, c₀, hc₀, hn₀, heq⟩ := hcs c hc hn
    rw [← heq]; exact h.paired c₀ hc₀ hn₀
  · obtain ⟨hne, c₀, hc₀, hn₀, heq⟩ := hcs c hc hn
    exact ⟨hne, .inr ⟨c₀, hc₀, hn₀, heq⟩⟩

/-- A gadget comes, which does not stream. -/
theorem attached (h : Supplied gadgets captures q) (g : GadgetView) (hms : ∀ m ∈ ms, m = .uvcAttached g.id) :
    Supplied (gadgets ++ [g]) captures (q ++ ms) := by
  refine ⟨h.paired, h.relies.append (fun id ⟨x, hx, hlive⟩ => .inl ⟨x, List.mem_append_left _ hx, hlive⟩)
    (pledged_of_forall ?_)⟩
  rintro m hm id rfl
  cases hms _ hm

/-- A gadget goes: when it streamed, the end of its stream is announced. -/
theorem detached {pre post : List GadgetView} {g : GadgetView} {ms' : List Message}
    (h : Supplied (pre ++ g :: post) captures q) (hms : ∀ m ∈ ms, m = .streamOff g.id)
    (hms' : ∀ m ∈ ms', m = .uvcDetached g.id) (hstopped : g.streaming = true → .streamOff g.id ∈ ms) :
    Supplied (pre ++ post) captures (q ++ (ms ++ ms')) := by
  refine ⟨h.paired, h.relies.append (fun id hlive => ?_) (pledged_of_forall ?_)⟩
  · rcases exists_erased hlive with ⟨rfl, hon⟩ | hlive
    · exact .inr (List.mem_append_left _ (hstopped hon))
    · exact .inl hlive
  · rintro m hm id rfl
    rcases List.mem_append.mp hm with hm | hm
    · cases hms _ hm
    · cases hms' _ hm

/-- A capture starts for the gadget that has asked for it. -/
theorem started {pre post : List CaptureView} {c c' : CaptureView} (h : Supplied gadgets captures (.streamOn id :: q))
    (heq : captures = pre ++ c :: post) (hc' : c'.gadgetId = id) (h0 : id ≠ 0) :
    Supplied gadgets (pre ++ c' :: post) q := by
  refine ⟨?_, h.relies.pop fun x hx hn => ⟨fun heq => (by cases heq), ?_⟩⟩
  · exact forall_replaced heq h.paired fun _ => by rw [hc']; exact h0
  · rcases mem_replaced_cases hx with rfl | hx
    · exact .inl (by rw [hc'])
    · exact .inr ⟨x, mem_of_erased heq hx, hn, rfl⟩

/-- A capture stops for its gadget; nobody else streams for that one. -/
theorem stopped {pre post : List CaptureView} {c c' : CaptureView} (h : Supplied gadgets captures (.streamOff id :: q))
    (hh : HeldOnce captures) (hs : SplitsAt (·.gadgetId = id) captures pre c post) (hc' : c'.streaming = false) :
    Supplied gadgets (pre ++ c' :: post) q := by
  refine h.kept fun x hx hn => ?_
  rcases mem_replaced_cases hx with rfl | hx
  · rw [hc'] at hn; cases hn
  · have hmem := mem_of_erased hs.eq hx
    refine ⟨fun heq => ?_, x, hmem, hn, rfl⟩
    have hid : id = x.gadgetId := congrArg Message.wParam heq
    have h0 : id ≠ 0 := by rw [hid]; exact h.paired x hmem hn
    exact hh.others hs h0 x hx hid.symm

end Supplied

/-- **A message keeps streams backed**, when no streaming capture is released and no stream is asked for on
    behalf of nobody. -/
theorem Handles.supplied (hoff : ∀ t id, env.write t (.streamOff id) = true)
    (hm : Handles env refuses v m v') (hh : HeldOnce v.captures)
    (hon0 : m = .streamOn 0 → ∀ c ∈ v.captures, c.gadgetId ≠ 0)
    (hrefused : ∀ id p fmt, m = .setFmt id p fmt → refuses →
      ∀ pre c post, SplitsAt (·.gadgetId = id) v.captures pre c post → c.streaming = false)
    (h : Supplied v.gadgets v.captures (m :: v.board.queue)) :
    Supplied v'.gadgets v'.captures v'.board.queue := by
  have hsame : m.what ≠ .videoStreamOff → ∀ c ∈ v.captures, c.streaming = true → StreamsAs v.captures m c :=
    fun hne c hc hn => streamsAs_of_mem hne hc hn
  -- the queue as it is behind the message, whatever the board is by then
  have hkept : ∀ {cs : List CaptureView} {q : List Message}, q = v.board.queue →
      (∀ c ∈ cs, c.streaming = true → StreamsAs v.captures m c) → Supplied v.gadgets cs q :=
    fun hq hcs => by rw [hq]; exact h.kept hcs
  cases hm with
  | signal => exact h.kept (hsame (by simp [Message.signal]))
  | attachFailed he => exact hkept he.queue_eq (hsame (by simp [Message.hotplugAttached]))
  | gadgetAttached hname hoffg hfmt hfd haddr hlt hwatch hp =>
      rename_i p name g w₁ w₂
      obtain ⟨ms, hq, hms⟩ := hp.extends (P := (· = .uvcAttached g.id)) rfl
      show Supplied (v.gadgets ++ [g]) v.captures w₂.queue
      rw [hq]
      exact (hkept hwatch.queue_eq (hsame (by simp [Message.hotplugAttached]))).attached g hms
  | captureAttached hname hoffc hid hsize hframes hfd haddr hlt he =>
      refine hkept he.queue_eq (forall_snoc (hsame (by simp [Message.hotplugAttached])) fun hn => ?_)
      rw [hoffc] at hn; cases hn
  | gadgetDetached hs hstop hp =>
      rename_i p name pre post g g' w₁ w₂
      obtain ⟨ms, hms, hoffs⟩ := hstop.sends
      obtain ⟨ms', hq', hms'⟩ := hp.extends (P := (· = .uvcDetached g.id)) rfl
      have hq : w₂.queue = v.board.queue ++ (ms ++ ms') := by
        rw [hq', ← List.append_assoc, ← hms.queue]; rfl
      have hstopped : g.streaming = true → .streamOff g.id ∈ ms := fun hon =>
        (hms.stopped hoff hon).resolve_left fun hon' => by rw [hstop.off] at hon'; cases hon'
      show Supplied (pre ++ post) v.captures w₂.queue
      rw [hq]
      have hpop := h.kept (hsame (by simp [Message.hotplugDetached]))
      rw [hs.eq] at hpop
      exact hpop.detached hoffs hms' hstopped
  | captureDetached hg hs hstop he =>
      exact hkept (he.queue_eq.trans hstop.queue_eq)
        (forall_erased hs.eq (hsame (by simp [Message.hotplugDetached])))
  | detachMissed hg hc => exact h.kept (hsame (by simp [Message.hotplugDetached]))
  | setFmtHeld hs he =>
      refine hkept he.queue_eq (streamsAs_replaced hs.eq (by simp [Message.setFmt]) fun hn => ?_)
      exact ⟨fun heq => (by cases heq), _, hs.mem, hn, rfl⟩
  | setFmtPaired hr hs hfree he =>
      rename_i id p fmt cs pre post c w
      have hold : ∀ x ∈ cs, x.streaming = true → x ∈ v.captures := fun x hx hn =>
        hr.streaming (hrefused id p fmt rfl) hx hn
      rw [hs] at hold
      refine hkept he.queue_eq fun x hx hn => ?_
      rcases mem_replaced_cases hx with rfl | hx
      · -- a capture that holds nothing does not stream
        exact absurd hfree (h.paired c (hold c (by simp) hn) hn)
      · exact hsame (by simp [Message.setFmt]) x (hold x (mem_replaced hx) hn) hn
  | setFmtUnpaired hr he =>
      rename_i id p fmt cs w
      exact hkept he.queue_eq fun x hx hn =>
        hsame (by simp [Message.setFmt]) x (hr.streaming (hrefused id p fmt rfl) hx hn) hn
  | streamOn hs hstart =>
      rename_i id pre post c c' w
      have hid : c.gadgetId = id := hs.hit
      have h0 : id ≠ 0 := fun heq => hon0 (by rw [heq]) c hs.mem (hid.trans heq)
      show Supplied v.gadgets (pre ++ c' :: post) w.queue
      rw [hstart.queue_eq]
      exact h.started hs.eq (hstart.gadgetId.trans hid) h0
  | streamOnMissed hc => exact h.kept (hsame (by simp [Message.streamOn]))
  | streamOff hs hstop =>
      rename_i id pre post c c' w
      show Supplied v.gadgets (pre ++ c' :: post) w.queue
      rw [hstop.queue_eq]
      exact h.stopped hh hs hstop.stopped.2
  | streamOffMissed hc =>
      refine h.kept fun x hx hn => ⟨fun heq => ?_, x, hx, hn, rfl⟩
      exact hc x hx (congrArg Message.wParam heq).symm
  | uvcAttached => exact h.kept (hsame (by simp [Message.uvcAttached]))
  | uvcDetached hs hstop =>
      refine hkept hstop.queue_eq (streamsAs_replaced hs.eq (by simp [Message.uvcDetached]) fun hn => ?_)
      have hstopped := hstop.stopped.2
      rw [hstopped] at hn; cases hn
  | uvcDetachedMissed hc => exact h.kept (hsame (by simp [Message.uvcDetached]))
  | frameCopied hs hon hf => exact hkept rfl (hsame (by simp [Message.frameAvailable]))
  | frameDropped hs => exact h.kept (hsame (by simp [Message.frameAvailable]))

end Uvcd
