import Uvcd.Protocol.WatchList
import Uvcd.Refinement.Lists
import Uvcd.Refinement.Returns

/-!
# `Correctness.Lookup` — messages for gadgets that are not there

`uvc_gadget_detach` and `uvc_gadget_fill_buffer` test the cursor of a finished `list_for_each_entry_safe`
for `NULL`, which it never is (`lookup_cursor`). `DetachMeets` and `FrameMeets` say what the two are meant to do
with any list of gadgets; where the head of the list does not pass for a gadget they do it exactly when the message
is for an attached one (`lookup_meets_iff`). `unplugged_camera` is the smallest run in which one is not. That a
detach which finds its gadget reads the freed block is another matter: where that is not harmless either, no such
detach returns.
-/

namespace Uvcd

open Machine Ring Split

variable {env : Env}

/-! ## What is meant -/

/-- Only the gadget is detached: the others stay in place, and so do all watches on other descriptors; the
    messages sent are about it. -/
structure OnlyDetaches (io : Io) (pre : List Gadget) (g : Gadget) (post : List Gadget)
    (gadgets' : List Gadget) (io' : Io) : Prop where
  gadgets : gadgets' = pre ++ post
  watches : ∀ e, e.fd ≠ g.vdev.fd → (e ∈ io'.events.events ↔ e ∈ io.events.events)
  queue : ∃ ms, io'.queue = io.queue ++ ms ∧ ∀ m ∈ ms, m = .streamOff g.id ∨ m = .uvcDetached g.id

/-- `MSG_HOTPLUG_DETACHED` for `name`: without a gadget of that name the gadget module changes nothing and
    the capture module removes its first capture of that name; with one only that gadget goes, and is said to. -/
structure DetachMeets (env : Env) (s : Sys) (name : DevName) : Prop where
  missed : (∀ g ∈ s.gadgets, g.vdev.name ≠ name) →
    uvcGadgetDetach env s.io s.gadgets name = .ok (-1, s.gadgets, s.io)
  onward : (∀ g ∈ s.gadgets, g.vdev.name ≠ name) → ∀ p s',
    looperDispatch env (.hotplugDetached p name) [.uvc, .capture] s = .ok s' →
    s'.gadgets = s.gadgets ∧
    (∀ pre c post, SplitsAt (·.vdev.name = name) s.captures pre c post → s'.captures = pre ++ post) ∧
    ((∀ c ∈ s.captures, c.vdev.name ≠ name) → s' = s)
  matched : ∀ pre g post, SplitsAt (·.vdev.name = name) s.gadgets pre g post →
    ∀ r gadgets' io', uvcGadgetDetach env s.io s.gadgets name = .ok (r, gadgets', io') →
    r = 0 ∧ OnlyDetaches s.io pre g post gadgets' io'
  returned : env.freed = .harmless → ∀ pre g post, SplitsAt (·.vdev.name = name) s.gadgets pre g post → g.vdev.Whole →
    ∃ gadgets' io', uvcGadgetDetach env s.io s.gadgets name = .ok (0, gadgets', io') ∧
      ((∀ t, env.write t (.uvcDetached g.id) = true) → .uvcDetached g.id ∈ io'.queue)

/-- `MSG_VIDEO_FRAME_AVAILABLE` for `id`: without a gadget of that id nothing changes; with one only its
    `imgdata` does, and only while it streams. -/
structure FrameMeets (env : Env) (s : Sys) (id : UInt32) (p : FramePtr) : Prop where
  missed : (∀ g ∈ s.gadgets, g.id ≠ id) →
    uvcGadgetFillBuffer env s.io s.gadgets id (resolveFrame s.captures p) = .ok (-1, s.gadgets, s.io)
  matched : ∀ pre g post, SplitsAt (·.id = id) s.gadgets pre g post →
    ∀ r gadgets' io',
    uvcGadgetFillBuffer env s.io s.gadgets id (resolveFrame s.captures p) = .ok (r, gadgets', io') →
    ∃ imgdata, gadgets' = pre ++ { g with imgdata := imgdata } :: post ∧
      (g.isStreaming = false → imgdata = g.imgdata) ∧
      io'.events = s.io.events ∧ io'.queue = s.io.queue
  returned : ∀ pre g post, SplitsAt (·.id = id) s.gadgets pre g post →
    (g.isStreaming = true → g.Takes s.captures p) → ∃ gadgets' io',
      uvcGadgetFillBuffer env s.io s.gadgets id (resolveFrame s.captures p) =
        .ok (if g.isStreaming then 0 else -1, gadgets', io')

/-! ## The cursor -/

/-- **The cursor of a lookup** is the node of the first gadget looked for, or the head of `g_gadgets`; in neither
    case is the gadget it stands for at address `0`, no memory being live below the offset of the links. -/
theorem lookup_cursor {m : Heap Nat} {head off : Nat} {node : Gadget → Nat} {gadgets : List Gadget} {p : Gadget → Prop}
    [DecidablePred p] {hit : Nat → Bool} (hring : IsRing m head (gadgets.map node))
    (hhit : ∀ g ∈ gadgets, hit (node g) = decide (p g)) (hlow : ∀ a, m.Live a → off < a) :
    ∃ cursor, listCursor m hit head (gadgets.length + 1) = some cursor ∧ listEntry off cursor ≠ 0 ∧
      ((∀ g ∈ gadgets, ¬p g) → cursor = head) ∧ ∀ pre g post, SplitsAt p gadgets pre g post → cursor = node g := by
  have hwalk : listCursor m hit head (gadgets.length + 1) = some (((gadgets.map node).find? hit).getD head) :=
    listCursor_eq hring (by rw [List.length_map]; omega)
  have hfind : (gadgets.map node).find? hit = (gadgets.find? fun g => decide (p g)).map node := by
    clear hring hwalk
    induction gadgets with
    | nil => rfl
    | cons g gadgets ih =>
        rw [List.map_cons, List.find?_cons, List.find?_cons, hhit g List.mem_cons_self]
        cases decide (p g) with
        | true => rfl
        | false => exact ih fun x hx => hhit x (List.mem_cons_of_mem _ hx)
  rw [hfind] at hwalk
  refine ⟨_, hwalk, ?_, fun hnone => ?_, fun pre g post hsp => ?_⟩
  · have hmem : ((gadgets.find? fun g => decide (p g)).map node).getD head ∈ head :: gadgets.map node := by
      cases hg : gadgets.find? fun g => decide (p g) with
      | none => exact List.mem_cons_self
      | some g => exact List.mem_cons_of_mem _ (List.mem_map_of_mem (List.mem_of_find?_eq_some hg))
    have hlt := hlow _ (hring.live hmem)
    unfold listEntry
    omega
  · rw [find_none hnone]
    rfl
  · rw [hsp.find_eq]
    rfl

/-! ## A gadget that is there -/

theorem mem_unwatchFd_ne {ev : Events} {e : EventFd} {fd : Nat} {type : EventType} (hne : e.fd ≠ fd) :
    e ∈ (eventsUnwatchFd ev fd type).events ↔ e ∈ ev.events := by
  have hmiss : ¬e.hits fd type = true := fun h => hne (EventFd.hits_iff.mp h).1
  unfold eventsUnwatchFd
  split
  · show e ∈ (ev.events.reverse.eraseP (·.hits fd type)).reverse ↔ _
    rw [List.mem_reverse, List.mem_eraseP_of_neg (p := fun x : EventFd => x.hits fd type) hmiss, List.mem_reverse]
  · rfl

theorem releaseBuffers_fd : ∀ {n i : Nat} {k k' : Kernel} {d d' : Device} {ret : Int},
    releaseBuffers env i n k d = .ok (ret, k', d') → d'.fd = d.fd := by
  intro n
  induction n with
  | zero => intro i k k' d d' ret h; cases h; rfl
  | succ n ih =>
      intro i k k' d d' ret h
      rw [releaseBuffers] at h
      split at h
      · cases h
      · dsimp only at h
        split at h
        · cases h; rfl
        · exact (ih h).trans rfl

theorem ioctlReqbufs_fd (env : Env) (k : Kernel) (d : Device) (count : Nat) :
    (ioctlReqbufs env k d count).2.2.fd = d.fd := by
  unfold ioctlReqbufs
  dsimp only
  split
  · rfl
  · split <;> rfl

theorem v4l2FreeBuffers_fd {k k' : Kernel} {d d' : Device} {ret : Int}
    (h : v4l2FreeBuffers env k d = .ok (ret, k', d')) : d'.fd = d.fd := by
  unfold v4l2FreeBuffers at h
  split at h
  · cases h; rfl
  · obtain ⟨⟨ret₁, k₁, d₁⟩, hrel, h⟩ := bind_eq_ok.mp h
    have hfd := releaseBuffers_fd hrel
    have hreq := ioctlReqbufs_fd env k₁ d₁ 0
    dsimp only at h
    split at h
    · cases h; exact hfd
    · split at h
      · next heq =>
          rw [heq] at hreq
          cases h; exact hreq.trans hfd
      · next heq =>
          rw [heq] at hreq
          cases h; exact hreq.trans hfd

theorem post_io (env : Env) (io : Io) (m : Message) :
    (io.post env m).events = io.events ∧
      ∃ ms, (io.post env m).queue = io.queue ++ ms ∧ ∀ x ∈ ms, x = m := by
  unfold Io.post looperSendMessage
  split
  · exact ⟨rfl, [m], rfl, fun x hx => List.mem_singleton.mp hx⟩
  · exact ⟨rfl, [], (List.append_nil _).symm, fun x hx => by cases hx⟩

/-- Stopping a stream changes nothing on other descriptors and speaks of its own gadget only. -/
theorem uvcVideoStream_stop_only {io io' : Io} {g g' : Gadget} {r : Int}
    (h : uvcVideoStream env io g false = .ok (r, g', io')) :
    g'.vdev.fd = g.vdev.fd ∧ g'.id = g.id ∧
      (∀ e, e.fd ≠ g.vdev.fd → (e ∈ io'.events.events ↔ e ∈ io.events.events)) ∧
      ∃ ms, io'.queue = io.queue ++ ms ∧ ∀ m ∈ ms, m = .streamOff g.id := by
  unfold uvcVideoStream at h
  simp only [Bool.not_false, if_true] at h
  split at h
  · cases h
    exact ⟨rfl, rfl, fun e _ => Iff.rfl, [], (List.append_nil _).symm, fun m hm => by cases hm⟩
  · obtain ⟨⟨ret, k, dev⟩, hfree, h⟩ := bind_eq_ok.mp h
    cases h
    have hfd := v4l2FreeBuffers_fd hfree
    obtain ⟨hev, hq⟩ := post_io env { io.unwatch g.vdev.fd .write with kernel := k } (.streamOff g.id)
    refine ⟨hfd.trans ?_, rfl, fun e he => ?_, hq⟩
    · unfold v4l2StreamOff
      dsimp only
      split <;> rfl
    · rw [hev]; exact mem_unwatchFd_ne he

/-- **A gadget that is there is detached alone.** -/
theorem uvcGadgetDetach_matched {io io' : Io} {gadgets gadgets' pre post : List Gadget} {g : Gadget}
    {name : DevName} {r : Int} (hs : SplitsAt (·.vdev.name = name) gadgets pre g post)
    (h : uvcGadgetDetach env io gadgets name = .ok (r, gadgets', io')) :
    r = 0 ∧ OnlyDetaches io pre g post gadgets' io' := by
  unfold uvcGadgetDetach at h
  rw [splitFirst_decide.mpr hs] at h
  obtain ⟨⟨ret, g₁, io₁⟩, hstop, h⟩ := bind_eq_ok.mp h
  obtain ⟨hfd, hid, hwatch, ms, hq, hms⟩ := uvcVideoStream_stop_only hstop
  dsimp only at h
  split at h
  · cases h
  · cases h
    obtain ⟨hev, ms', hq', hms'⟩ := post_io env
      { io₁.unwatch g₁.vdev.fd .exception with
        kernel := v4l2Close (io₁.unwatch g₁.vdev.fd .exception).kernel g₁.vdev } (.uvcDetached g₁.id)
    refine ⟨rfl, rfl, fun e he => ?_, ms ++ ms', ?_, fun m hm => ?_⟩
    · rw [hev, ← hwatch e he]
      exact mem_unwatchFd_ne (by rw [hfd]; exact he)
    · rw [hq', ← List.append_assoc, ← hq]; rfl
    · rw [← hid]
      exact (List.mem_append.mp hm).imp (fun hm => by rw [hid]; exact hms m hm) (hms' m)

/-- It is, where the freed block can be read, and says so. -/
theorem uvcGadgetDetach_returned {io : Io} {gadgets pre post : List Gadget} {g : Gadget} {name : DevName}
    (hfreed : env.freed = .harmless) (hs : SplitsAt (·.vdev.name = name) gadgets pre g post) (hw : g.vdev.Whole) :
    ∃ gadgets' io', uvcGadgetDetach env io gadgets name = .ok (0, gadgets', io') ∧
      ((∀ t, env.write t (.uvcDetached g.id) = true) → .uvcDetached g.id ∈ io'.queue) := by
  obtain ⟨⟨ret, g₁, io₁⟩, hstop, -⟩ := (uvcVideoStream_ends (F := fun _ => False) env io hw).returns
  have hid := (uvcVideoStream_stop_only hstop).2.1
  refine ⟨pre ++ post, Io.post env { io₁.unwatch g₁.vdev.fd .exception with
    kernel := v4l2Close (io₁.unwatch g₁.vdev.fd .exception).kernel g₁.vdev } (.uvcDetached g₁.id), ?_, fun hroom => ?_⟩
  · unfold uvcGadgetDetach
    rw [splitFirst_decide.mpr hs]
    dsimp only
    rw [hstop]
    simp only [ok_bind, hfreed]
  · unfold Io.post looperSendMessage
    rw [hid, if_pos (hroom _)]
    exact List.mem_append_right _ List.mem_cons_self

theorem uvcGadgetFillBuffer_returned {io : Io} {gadgets pre post : List Gadget} {captures : List Capture} {g : Gadget}
    {id : UInt32} {p : FramePtr} (hs : SplitsAt (·.id = id) gadgets pre g post)
    (htakes : g.isStreaming = true → g.Takes captures p) : ∃ gadgets' io',
      uvcGadgetFillBuffer env io gadgets id (resolveFrame captures p) =
        .ok (if g.isStreaming then 0 else -1, gadgets', io') := by
  unfold uvcGadgetFillBuffer
  rw [splitFirst_decide.mpr hs]
  dsimp only
  by_cases hon : g.isStreaming = true
  · obtain ⟨f, size, hres, hsize, himg⟩ := htakes hon
    have hfits : ¬(size < g.frameSize ∨ imgdataSize < g.frameSize) := by omega
    rw [if_pos hon, if_pos hon, hres]
    dsimp only
    rw [if_neg hfits]
    exact ⟨_, _, rfl⟩
  · rw [if_neg hon, if_neg hon]
    exact ⟨_, _, rfl⟩

theorem uvcGadgetFillBuffer_matched {io io' : Io} {gadgets gadgets' pre post : List Gadget} {g : Gadget}
    {id : UInt32} {obj : Option (Frame × Nat)} {r : Int} (hs : SplitsAt (·.id = id) gadgets pre g post)
    (h : uvcGadgetFillBuffer env io gadgets id obj = .ok (r, gadgets', io')) :
    ∃ imgdata, gadgets' = pre ++ { g with imgdata := imgdata } :: post ∧
      (g.isStreaming = false → imgdata = g.imgdata) ∧ io'.events = io.events ∧ io'.queue = io.queue := by
  unfold uvcGadgetFillBuffer at h
  rw [splitFirst_decide.mpr hs] at h
  dsimp only at h
  split at h
  · next hon =>
      split at h
      · cases h
      · split at h
        · cases h
        · cases h
          exact ⟨_, rfl, fun hoff => absurd hon (by rw [hoff]; decide), rfl, rfl⟩
  · cases h
    exact ⟨g.imgdata, hs.eq, fun _ => rfl, rfl, rfl⟩

/-! ## A gadget that is not there -/

/-- The capture module removes its first capture of the name. -/
theorem v4lCaptureDetach_first {io io' : Io} {captures captures' : List Capture} {name : DevName} {r : Int}
    (h : v4lCaptureDetach env io captures name = .ok (r, captures', io')) :
    (∀ pre c post, SplitsAt (·.vdev.name = name) captures pre c post → captures' = pre ++ post) ∧
    ((∀ c ∈ captures, c.vdev.name ≠ name) → captures' = captures ∧ io' = io) := by
  unfold v4lCaptureDetach at h
  split at h
  · next hnone =>
      cases h
      refine ⟨fun pre c post hs => ?_, fun _ => ⟨rfl, rfl⟩⟩
      exact absurd hs.hit (splitFirst_decide_none.mp hnone c hs.mem)
  · next pre c post hs =>
      have hs := splitFirst_decide.mp hs
      obtain ⟨⟨ret, c₁, io₁⟩, -, h⟩ := bind_eq_ok.mp h
      cases h
      refine ⟨fun pre' c' post' hs' => ?_, fun hnone => absurd hs.hit (hnone c hs.mem)⟩
      obtain ⟨rfl, -, rfl⟩ := hs.unique hs'
      rfl

/-- Where a walk that finds nothing is a no-op, both do what is meant. -/
theorem lookup_meets_of_noop (hmiss : env.miss = .harmless) (s : Sys) :
    (∀ name, DetachMeets env s name) ∧ ∀ id p, FrameMeets env s id p := by
  have hdetach : ∀ name, (∀ g ∈ s.gadgets, g.vdev.name ≠ name) →
      uvcGadgetDetach env s.io s.gadgets name = .ok (-1, s.gadgets, s.io) := by
    intro name hnone
    unfold uvcGadgetDetach
    rw [splitFirst_decide_none.mpr hnone]
    simp only [strayCursor, hmiss]
  refine ⟨fun name => ⟨hdetach name, fun hnone p s' h => ?_, fun pre g post hs r gadgets' io' h =>
    uvcGadgetDetach_matched hs h, fun hfreed pre g post hs hw => uvcGadgetDetach_returned hfreed hs hw⟩,
    fun id p => ⟨fun hnone => ?_, fun pre g post hs r gadgets' io' h => uvcGadgetFillBuffer_matched hs h,
      fun pre g post hs htakes => uvcGadgetFillBuffer_returned hs htakes⟩⟩
  · -- the gadget module passes the message on, the capture module is the last to see it
    obtain ⟨⟨r, s₁⟩, hu, h⟩ := bind_eq_ok.mp h
    obtain ⟨⟨r', gadgets', io'⟩, hd, hu⟩ := bind_eq_ok.mp hu
    rw [hdetach name hnone] at hd
    cases hd
    cases hu
    obtain ⟨⟨r₂, s₂⟩, hc, h⟩ := bind_eq_ok.mp h
    obtain ⟨⟨r₃, captures', io₃⟩, hcap, hc⟩ := bind_eq_ok.mp hc
    have hs' : s₂ = s' := by
      dsimp only at h
      split at h <;> · cases h; rfl
    subst hs'
    cases hc
    obtain ⟨hfirst, hnone'⟩ := v4lCaptureDetach_first hcap
    refine ⟨rfl, hfirst, fun hno => ?_⟩
    obtain ⟨rfl, rfl⟩ := hnone' hno
    rfl
  · unfold uvcGadgetFillBuffer
    rw [splitFirst_decide_none.mpr hnone]
    simp only [strayCursor, hmiss]

/-! ## Exactly when -/

/-- Neither function survives a walk that finds nothing. -/
theorem missed_strays (hmiss : env.miss = .trap) (s : Sys) :
    (∀ name, (∀ g ∈ s.gadgets, g.vdev.name ≠ name) →
      uvcGadgetDetach env s.io s.gadgets name = .error .strayGadget) ∧
    (∀ id obj, (∀ g ∈ s.gadgets, g.id ≠ id) →
      uvcGadgetFillBuffer env s.io s.gadgets id obj = .error .strayGadget) := by
  constructor
  · intro name hnone
    unfold uvcGadgetDetach
    rw [splitFirst_decide_none.mpr hnone]
    simp only [strayCursor, hmiss]
  · intro id obj hnone
    unfold uvcGadgetFillBuffer
    rw [splitFirst_decide_none.mpr hnone]
    simp only [strayCursor, hmiss]

/-- Where it is not, exactly when the gadget looked for is there. -/
theorem lookup_meets_of_trap (hmiss : env.miss = .trap) (s : Sys) :
    (∀ name, DetachMeets env s name ↔ ∃ g ∈ s.gadgets, g.vdev.name = name) ∧
      ∀ id p, FrameMeets env s id p ↔ ∃ g ∈ s.gadgets, g.id = id := by
  obtain ⟨hdetach, hframe⟩ := missed_strays hmiss s
  constructor
  · intro name
    constructor
    · intro h
      by_contra hno
      have hnone : ∀ g ∈ s.gadgets, g.vdev.name ≠ name := fun g hg heq => hno ⟨g, hg, heq⟩
      have hmissed := h.missed hnone
      rw [hdetach name hnone] at hmissed
      cases hmissed
    · rintro ⟨g, hg, hname⟩
      exact ⟨fun hnone => absurd hname (hnone g hg), fun hnone => absurd hname (hnone g hg),
        fun pre x post hs r gadgets' io' h => uvcGadgetDetach_matched hs h,
        fun hfreed pre x post hs hw => uvcGadgetDetach_returned hfreed hs hw⟩
  · intro id p
    constructor
    · intro h
      by_contra hno
      have hnone : ∀ g ∈ s.gadgets, g.id ≠ id := fun g hg heq => hno ⟨g, hg, heq⟩
      have hmissed := h.missed hnone
      rw [hframe id _ hnone] at hmissed
      cases hmissed
    · rintro ⟨g, hg, hid⟩
      exact ⟨fun hnone => absurd hid (hnone g hg),
        fun pre x post hs r gadgets' io' h => uvcGadgetFillBuffer_matched hs h,
        fun pre x post hs htakes => uvcGadgetFillBuffer_returned hs htakes⟩

/-- **The two lookups do what is meant exactly for gadgets that are attached**, where the head of the list does not
    pass for one; where it does, they always do. Where a freed block cannot be read, no detach of an attached gadget
    returns. -/
theorem lookup_meets_iff (env : Env) (s : Sys) :
    (env.miss = .trap →
      (∀ name, DetachMeets env s name ↔ ∃ g ∈ s.gadgets, g.vdev.name = name) ∧
        ∀ id p, FrameMeets env s id p ↔ ∃ g ∈ s.gadgets, g.id = id) ∧
    (env.miss = .harmless → (∀ name, DetachMeets env s name) ∧ ∀ id p, FrameMeets env s id p) ∧
    (env.freed = .trap → ∀ name, (∃ g ∈ s.gadgets, g.vdev.name = name) →
      ∃ e, uvcGadgetDetach env s.io s.gadgets name = .error e) := by
  refine ⟨fun hmiss => ?_, fun hmiss => lookup_meets_of_noop hmiss s, fun hfreed name ⟨g, hg, hname⟩ => ?_⟩
  · exact lookup_meets_of_trap hmiss s
  · refine uvcGadgetDetach_faults ?_
    unfold DetachSafe
    split
    · next hnone => exact absurd hname (by simpa using List.find?_eq_none.mp hnone g hg)
    · rw [hfreed]
      decide

/-- The bench without mercy for a walk that finds nothing, both devices attached: the gadget is found, the capture is
    not. -/
theorem lookup_meets_iff_attached :
    ∃ s, run { bench 900 with miss := .trap } streamUp (benchBoot 900) = .ok s ∧
      DetachMeets { bench 900 with miss := .trap } s (videoName 0) ∧
      ¬DetachMeets { bench 900 with miss := .trap } s (videoName 1) ∧
      FrameMeets { bench 900 with miss := .trap } s 18 ⟨0, 0⟩ := by
  obtain ⟨s, h, h₀, h₁, hid⟩ : ∃ s, run { bench 900 with miss := .trap } streamUp (benchBoot 900) = .ok s ∧
      (∃ g ∈ s.gadgets, g.vdev.name = videoName 0) ∧ (¬∃ g ∈ s.gadgets, g.vdev.name = videoName 1) ∧
      ∃ g ∈ s.gadgets, g.id = 18 := by
    decide +kernel
  obtain ⟨hdetach, hframe⟩ := (lookup_meets_iff { bench 900 with miss := .trap } s).1 rfl
  exact ⟨s, h, (hdetach _).mpr h₀, fun hno => h₁ ((hdetach _).mp hno), (hframe _ _).mpr hid⟩

/-- **A camera is unplugged while no gadget is attached.** The walk over the empty `g_gadgets` ends in its
    head, and that is what `uvc_gadget_detach` goes on to stop, close and free. -/
theorem unplugged_camera :
    run { bench 900 with miss := .trap }
      ([.next, .next] ++ turn [3] 12 ++ .unplug (videoName 1) :: turn [5] 12 ++ turn [3] 12)
      (boot (bench 900) [videoName 1] fun _ => .zero) = .error .strayGadget ∧
    ¬DetachMeets { bench 900 with miss := .trap } (boot (bench 900) [videoName 1] fun _ => .zero)
      (videoName 1) := by
  refine ⟨by decide +kernel, fun h => ?_⟩
  have := h.missed fun g hg => by cases hg
  cases this

end Uvcd
