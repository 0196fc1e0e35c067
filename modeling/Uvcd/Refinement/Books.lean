import Uvcd.Lib.Ledger
import Uvcd.Refinement.Does

/-!
# `Refinement.Books` — where the payloads of the messages go

A payload is allocated for a message, goes with it, and is freed by whoever handles it. `Books ms ls` says that
between two states of the shared data the messages `ms` were sent and the payloads `ls` lost their message: they
were allocated, and the send failed. Everything else allocated has been freed again or travels in `ms`.

Where a payload is sent there is the condition that it is not lost, by the room in the pipe: `SetFits` here,
`NotesFit` for the payloads of `hotplug.c` in `Refinement.Notes`.
-/

namespace Uvcd

open Machine Split

variable {env : Env} {io io' io'' : Io} {g g' : Gadget} {c c' : Capture} {ms ms' : List Message} {ls ls' : List Nat}

/-- The messages `ms` have been sent, the payloads `ls` are lost. -/
def Books (ms : List Message) (ls : List Nat) (io io' : Io) : Prop :=
  ∃ ps fs, Logs ms ps fs io io' ∧ ps.Perm (fs ++ ms.filterMap Message.heap ++ ls)

theorem Books.trans (h : Books ms ls io io') (h' : Books ms' ls' io' io'') :
    Books (ms ++ ms') (ls ++ ls') io io'' := by
  obtain ⟨ps, fs, hl, hp⟩ := h
  obtain ⟨ps', fs', hl', hp'⟩ := h'
  refine ⟨ps ++ ps', fs ++ fs', hl.trans hl', List.perm_iff_count.mpr fun a => ?_⟩
  have h₁ := hp.count_eq a
  have h₂ := hp'.count_eq a
  simp only [List.filterMap_append, List.count_append] at h₁ h₂ ⊢
  omega

theorem Silent.books (h : Silent io io') : Books [] [] io io' := ⟨[], [], h, .refl _⟩

theorem Books.before (h : Books ms ls io io') (h' : Silent io' io'') : Books ms ls io io'' := by
  obtain ⟨ps, fs, hl, hp⟩ := h
  exact ⟨ps, fs, hl.before h', hp⟩

theorem Books.after (h : Silent io io') (h' : Books ms ls io' io'') : Books ms ls io io'' := by
  obtain ⟨ps, fs, hl, hp⟩ := h'
  exact ⟨ps, fs, Logs.after h hl, hp⟩

/-- Messages without payloads. -/
theorem Logs.books (h : Logs ms [] [] io io') (hm : ∀ m ∈ ms, m.heap = none) : Books ms [] io io' := by
  refine ⟨[], [], h, ?_⟩
  rw [List.filterMap_eq_nil_iff.mpr hm]
  exact .refl _

/-- Allocating a payload and sending it. -/
theorem books_send {p : Nat} {io₁ : Io} (hm : io.malloc env = (some p, io₁)) (k : Kernel) {m : Message}
    (hheap : m.heap = some p) :
    Books (if env.write k.tick m then [m] else []) (if env.write k.tick m then [] else [p]) io
      (Io.post env { io₁ with allocs := io₁.allocs ++ [p], kernel := k } m) := by
  have halloc := logs_alloc hm k
  have hpost := logs_post env { io₁ with allocs := io₁.allocs ++ [p], kernel := k } m
  refine ⟨_, _, halloc.trans hpost, ?_⟩
  by_cases hw : env.write k.tick m = true
  · simp [hw, hheap]
  · simp [hw]

/-! ## The gadget module -/

/-- There is room for the message about the format, if the driver takes it. -/
def SetFits (env : Env) (io : Io) (g : Gadget) : Prop :=
  ∀ p io₁ ret fmt k d, io.malloc env = (some p, io₁) → ¬ret < 0 →
    v4l2SetFormat env io₁.kernel g.vdev g.asked = (ret, fmt, k, d) → env.write k.tick (.setFmt g.id p fmt) = true

theorem SetsVideo.books (h : SetsVideo env io g g' io') : ∃ ms ls, Books ms ls io io' ∧
    (∀ m ∈ ms, ∃ p fmt, m = .setFmt g.id p fmt) ∧ (ls = [] ↔ SetFits env io g) := by
  unfold SetFits
  cases h with
  | nomem hmem =>
      refine ⟨[], [], (silent_malloc hmem).books, fun m hm => (by cases hm), iff_of_true rfl ?_⟩
      intro p io₁ ret fmt k d hm
      rw [hmem] at hm; cases hm
  | refused hmem hret hset =>
      rename_i p io₁ ret fmt k d
      refine ⟨[], [], ?_, fun m hm => (by cases hm), iff_of_true rfl ?_⟩
      · exact ⟨_, _, (logs_alloc hmem k).trans (logs_free _ p), .refl _⟩
      · intro p' io₂ ret' fmt' k' d' hm hret' hset'
        rw [hmem] at hm
        cases hm
        rw [hset] at hset'
        cases hset'
        exact absurd hret hret'
  | posted hmem hret hset =>
      rename_i p io₁ ret fmt k d
      refine ⟨_, _, books_send hmem k rfl, fun m hm => ?_, ?_⟩
      · split at hm
        · exact ⟨p, fmt, List.mem_singleton.mp hm⟩
        · cases hm
      · constructor
        · intro hnil p' io₂ ret' fmt' k' d' hm _ hset'
          rw [hmem] at hm
          cases hm
          rw [hset] at hset'
          cases hset'
          split at hnil
          · assumption
          · cases hnil
        · intro hall
          rw [if_pos (hall p io₁ ret fmt k d hmem hret hset)]

/-- There is room for the message of a commit. -/
def CallFits (env : Env) (io : Io) (g : Gadget) : Prop :=
  ∀ data, env.dqevent io.kernel.tick g.vdev.file = .ok (.data data) → g.control = VS_COMMIT_CONTROL →
    SetFits env (io.polled g.vdev.fd) (g.committed data)

theorem streamNews_heap (id : UInt32) (on : Bool) : (streamNews id on).heap = none := by
  cases on <;> rfl

theorem UvcStreams.books {on : Bool} {ret : Int} (h : UvcStreams env io g on ret g' io') :
    ∃ ms, Books ms [] io io' ∧ ∀ m ∈ ms, m = streamNews g.id on := by
  rcases h.logs with ⟨-, hl⟩ | ⟨-, -, t, hl⟩
  · exact ⟨[], Silent.books hl, fun m hm => (by cases hm)⟩
  · have hms : ∀ m ∈ (if env.write t (streamNews g.id on) then [streamNews g.id on] else []),
        m = streamNews g.id on := fun m hm => by
      split at hm
      · exact List.mem_singleton.mp hm
      · cases hm
    exact ⟨_, hl.books fun m hm => by rw [hms m hm, streamNews_heap], hms⟩

theorem UvcCalls.books (h : UvcCalls env io g g' io') :
    ∃ ms ls, Books ms ls io io' ∧ (ls = [] ↔ CallFits env io g) := by
  unfold CallFits
  cases h with
  | quiet hev ht =>
      refine ⟨[], [], (silent_kernel io _).books, iff_of_true rfl fun data hdata hc => ?_⟩
      exact absurd hc (hev.commit data hdata)
  | commit hev hcontrol hset =>
      rename_i data
      obtain ⟨ms, ls, hb, -, hls⟩ := hset.books
      refine ⟨ms, ls, hb.after (silent_kernel io _), hls.trans ⟨fun h data' hdata _ => ?_,
        fun h => h data hev hcontrol⟩⟩
      rw [hev] at hdata
      cases hdata
      exact h
  | stream on hev hs =>
      obtain ⟨ms, hb, -⟩ := hs.books
      refine ⟨ms, [], hb.after (silent_kernel io _), iff_of_true rfl fun data hdata => ?_⟩
      rw [hev] at hdata
      cases on <;> cases hdata

/-! ## Attaching and detaching -/

/-- What the streaming ones of these gadgets say when they are stopped. -/
def stops (gadgets : List Gadget) : List Message :=
  gadgets.flatMap fun g => if g.isStreaming then [.streamOff g.id] else []

theorem stops_cons (g : Gadget) (gadgets : List Gadget) : stops (g :: gadgets) = stops [g] ++ stops gadgets := by
  unfold stops
  rw [List.flatMap_cons, List.flatMap_singleton]

theorem stops_heap (gadgets : List Gadget) : ∀ m ∈ stops gadgets, m.heap = none := by
  intro m hm
  obtain ⟨g, -, hg⟩ := List.mem_flatMap.mp hm
  split at hg
  · rw [List.mem_singleton.mp hg]; rfl
  · cases hg

/-- Between `io` and `io'` the gadgets are stopped: they say so as far as the pipe has room. -/
def Quiets (env : Env) (gadgets : List Gadget) (io io' : Io) : Prop :=
  ∃ ms, Logs ms [] [] io io' ∧ ms.Sublist (stops gadgets) ∧
    ((∀ t m, env.write t m = true) → ms = stops gadgets)

theorem Quiets.before {gadgets : List Gadget} (h : Quiets env gadgets io io') (h' : Silent io' io'') :
    Quiets env gadgets io io'' := by
  obtain ⟨ms, hl, hsub, hall⟩ := h
  exact ⟨ms, hl.before h', hsub, hall⟩

theorem Quiets.cons {gadgets : List Gadget} (h : Quiets env [g] io io') (h' : Quiets env gadgets io' io'') :
    Quiets env (g :: gadgets) io io'' := by
  obtain ⟨ms, hl, hsub, hall⟩ := h
  obtain ⟨ms', hl', hsub', hall'⟩ := h'
  refine ⟨ms ++ ms', hl.trans hl', ?_, fun hw => ?_⟩
  · rw [stops_cons]; exact hsub.append hsub'
  · rw [stops_cons, hall hw, hall' hw]

theorem Silent.quiets (h : Silent io io') : Quiets env [] io io' := ⟨[], h, .slnil, fun _ => rfl⟩

theorem Quiets.books {gadgets : List Gadget} (h : Quiets env gadgets io io') : ∃ ms, Books ms [] io io' := by
  obtain ⟨ms, hl, hsub, -⟩ := h
  exact ⟨ms, hl.books fun m hm => stops_heap gadgets m (hsub.subset hm)⟩

theorem UvcStreams.quiets {ret : Int} (h : UvcStreams env io g false ret g' io') : Quiets env [g] io io' := by
  have hstops : stops [g] = if g.isStreaming then [.streamOff g.id] else [] := List.flatMap_singleton _ _
  unfold Quiets
  rw [hstops]
  rcases h.logs with ⟨hsame, hl⟩ | ⟨hon, -, t, hl⟩
  · have hoff : g.isStreaming = false := by
      cases h with
      | idle h => exact h
      | stopped hon hoff hfree => exact hsame.symm
    rw [hoff]
    exact ⟨[], hl, .slnil, fun _ => rfl⟩
  · rw [show g.isStreaming = true from hon]
    refine ⟨_, hl, ?_, fun hw => ?_⟩
    · split
      · exact .refl _
      · exact List.nil_sublist _
    · rw [if_pos (hw _ _)]; rfl

/-- An attached gadget is announced. -/
theorem UvcAttaches.logs {gadgets gadgets' : List Gadget} {name : DevName} {r : Int}
    (h : UvcAttaches env io gadgets name r gadgets' io') :
    (gadgets' = gadgets ∧ Silent io io') ∨ ∃ g t, gadgets' = gadgets ++ [g] ∧ g.isStreaming = false ∧
      Logs (if env.write t (.uvcAttached g.id) then [.uvcAttached g.id] else []) [] [] io io' := by
  cases h with
  | missing hopen => exact .inl ⟨rfl, silent_kernel io _⟩
  | rejected hup => exact .inl ⟨rfl, hup.silent⟩
  | attached hopen htype hmem hinit hret =>
      rename_i dev k k₁ io₁ addr ret g
      have hg := (uvcGadgetInit_talks hinit).2
      have hid : g.id = current (env.clock io₁.kernel.tick) := by rw [hg]; rfl
      have h₁ : Silent io { io₁ with kernel := k₁ } :=
        ((silent_kernel io k).before (silent_malloc hmem)).before (silent_kernel _ _)
      have h₂ := h₁.before (silent_watch env _ g.vdev.fd .exception .uvcGadgetProcess (.gadget addr))
      have hl := Logs.after h₂ (logs_post env _ (.uvcAttached g.id))
      rw [← hid]
      exact .inr ⟨g, _, rfl, by rw [hg]; rfl, hl⟩

/-- A detached gadget is stopped and then taken leave of. -/
theorem UvcDetaches.logs {gadgets gadgets' : List Gadget} {name : DevName} {r : Int}
    (h : UvcDetaches env io gadgets name r gadgets' io') :
    (gadgets' = gadgets ∧ Silent io io') ∨ ∃ pre g post io₁ t, SplitsAt (·.vdev.name = name) gadgets pre g post ∧
      gadgets' = pre ++ post ∧ Quiets env [g] io io₁ ∧
      Logs (if env.write t (.uvcDetached g.id) then [.uvcDetached g.id] else []) [] [] io₁ io' := by
  cases h with
  | missed h => exact .inl ⟨rfl, .refl io⟩
  | detached hs hstop =>
      rename_i pre post g g₁ io₁ ret
      have hid : g₁.id = g.id := by rw [hstop.gadget]
      have hq := (hstop.quiets.before (silent_unwatch _ g₁.vdev.fd .exception)).before
        (silent_kernel _ (v4l2Close io₁.kernel g₁.vdev))
      have hl := logs_post env { io₁.unwatch g₁.vdev.fd .exception with kernel := v4l2Close io₁.kernel g₁.vdev }
        (.uvcDetached g₁.id)
      rw [hid] at hl ⊢
      exact .inr ⟨pre, g, post, _, _, hs, rfl, hq, hl⟩

theorem V4lAttaches.silent {captures captures' : List Capture} {name : DevName} {r : Int}
    (h : V4lAttaches env io captures name r captures' io') : Silent io io' := by
  cases h with
  | missing hopen => exact silent_kernel io _
  | rejected hup => exact hup.silent
  | attached hopen htype hmem => exact (silent_kernel io _).before (silent_malloc hmem)

theorem V4lDetaches.silent {captures captures' : List Capture} {name : DevName} {r : Int}
    (h : V4lDetaches env io captures name r captures' io') : Silent io io' := by
  cases h with
  | missed h => exact .refl io
  | detached hs hstop => exact hstop.silent.before (silent_kernel _ _)

theorem V4lCaptureStreams.silent {captures captures' : List Capture} {id : UInt32} {on : Bool}
    (h : V4lCaptureStreams env io captures id on captures' io') : Silent io io' := by
  cases h with
  | missed => exact .refl io
  | found hs h => exact h.silent

theorem V4lParts.silent {captures captures' : List Capture} {id : UInt32}
    (h : V4lParts env io captures id captures' io') : Silent io io' := by
  cases h with
  | missed => exact .refl io
  | found hs h => exact h.silent

theorem CaptureServes.silent {s s' : Sys} {m : Message} (h : CaptureServes env s m s') : Silent s.io s'.io := by
  cases h with
  | skipped => exact .refl _
  | attach h => exact h.silent
  | detach h => exact h.silent
  | setFmt h => exact silent_kernel _ _
  | stream on h => exact h.silent
  | part h => exact h.silent

theorem UvcServes.books {s s' : Sys} {m : Message} {r : Int} (h : UvcServes env s m r s') :
    ∃ ms, Books ms [] s.io s'.io := by
  cases h with
  | skipped => exact ⟨[], (Silent.refl _).books⟩
  | attach hreg hatt =>
      rcases hatt.logs with ⟨-, hl⟩ | ⟨g, t, -, -, hl⟩
      · exact ⟨[], Silent.books hl⟩
      · refine ⟨_, hl.books fun m hm => ?_⟩
        split at hm
        · rw [List.mem_singleton.mp hm]; rfl
        · cases hm
  | detach hdet =>
      rcases hdet.logs with ⟨-, hl⟩ | ⟨pre, g, post, io₁, t, -, -, hq, hl⟩
      · exact ⟨[], Silent.books hl⟩
      · obtain ⟨ms, hb⟩ := hq.books
        refine ⟨_, hb.trans (hl.books fun m hm => ?_)⟩
        split at hm
        · rw [List.mem_singleton.mp hm]; rfl
        · cases hm
  | copied hs =>
      refine ⟨[], Silent.books ?_⟩
      exact silent_of_eq rfl rfl rfl rfl (Nat.le_refl _)

theorem Serves.books {s s' : Sys} {m : Message} (h : Serves env s m s') : ∃ ms, Books ms [] s.io s'.io := by
  obtain ⟨r, s₁, hu, hc⟩ := h
  obtain ⟨ms, hb⟩ := hu.books
  rcases hc with ⟨-, rfl⟩ | hc
  · exact ⟨ms, hb⟩
  · exact ⟨ms, hb.before hc.silent⟩

/-! ## The end of `main` -/

theorem uvcGadgetTerminate_quiets {gadgets : List Gadget} : ∀ {io io' : Io},
    uvcGadgetTerminate env gadgets io = .ok io' → Quiets env gadgets io io' := by
  induction gadgets with
  | nil => intro io io' h; cases h; exact Silent.quiets (.refl io)
  | cons g gs ih =>
      intro io io' h
      obtain ⟨⟨ret, g₁, io₁⟩, hstop, h⟩ := bind_eq_ok.mp h
      have hq := (uvcVideoStream_streams hstop).quiets
      exact ((hq.before (silent_unwatch _ _ _)).before (silent_kernel _ _)).cons (ih h)

theorem v4lCaptureTerminate_silent {captures : List Capture} : ∀ {io io' : Io},
    v4lCaptureTerminate env captures io = .ok io' → Silent io io' := by
  induction captures with
  | nil => intro io io' h; cases h; exact .refl io
  | cons c cs ih =>
      intro io io' h
      obtain ⟨⟨ret, c₁, io₁⟩, hstop, h⟩ := bind_eq_ok.mp h
      exact ((v4lVideoStream_streams hstop).silent.before (silent_kernel _ _)).before (ih h)

theorem looperCleanupHandlers_quiets : ∀ (hs : List Handler) {s s' : Sys}, s.gadgets = [] ∨ .uvc ∈ hs →
    looperCleanupHandlers env hs s = .ok s' → Quiets env s.gadgets s.io s'.io := by
  intro hs
  induction hs with
  | nil =>
      intro s s' hg h
      cases h
      rw [hg.resolve_right (by simp)]
      exact Silent.quiets (.refl _)
  | cons x hs ih =>
      intro s s' hg h
      obtain ⟨⟨r, s₁⟩, hx, h⟩ := bind_eq_ok.mp h
      dsimp only at h
      cases x with
      | uvc =>
          obtain ⟨io, hterm, heq⟩ := bind_eq_ok.mp hx
          cases heq
          obtain ⟨ms, hl, hsub, hall⟩ := ih (.inl rfl) h
          have hnil : ms = [] := List.sublist_nil.mp hsub
          subst hnil
          exact (uvcGadgetTerminate_quiets hterm).before hl
      | capture =>
          obtain ⟨io, hterm, heq⟩ := bind_eq_ok.mp hx
          cases heq
          have hg' : s.gadgets = [] ∨ .uvc ∈ hs := hg.imp id fun h => by simpa using h
          obtain ⟨ms, hl, hsub, hall⟩ := @ih { s with captures := [], handlers := hs, io := io } s' hg' h
          exact ⟨ms, Logs.after (v4lCaptureTerminate_silent hterm) hl, hsub, hall⟩

theorem looperCleanup_quiets {s s' : Sys} (hst : Staffed s) (h : looperCleanup env s = .ok s') :
    Quiets env s.gadgets s.io s'.io := by
  obtain ⟨s₁, hs₁, h⟩ := bind_eq_ok.mp h
  cases h
  have hq : Quiets env s.gadgets s.io s₁.io := by
    refine looperCleanupHandlers_quiets s.handlers ?_ hs₁
    cases hst with
    | none _ hg _ => exact .inl hg
    | uvc hh _ => exact .inr (by simp [hh])
    | capture _ hg => exact .inl hg
    | both hh => exact .inr (by simp [hh])
  exact hq.before (silent_of_eq rfl rfl rfl rfl (Nat.le_refl _))

end Uvcd
