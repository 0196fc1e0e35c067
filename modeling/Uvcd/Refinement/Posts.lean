import Uvcd.Refinement.Books
import Uvcd.Lib.Worklist

/-!
# `Refinement.Posts` — what handling a message posts

Only two kinds of messages are answered with others: the attach of a node with at most one message, and its
detach with at most two, none of which is answered in turn (`looperHandle_posts`). That holds in every state of the
modules. In a sound one handling a message also returns (`looperHandle_returns`).
-/

namespace Uvcd

open Machine Split Worklist

variable {env : Env} {s s' : Sys} {m : Message} {r : Int} {io io' : Io} {k k' : Kernel} {d d' : Device}

/-! ## What is posted -/

/-- What handling a message may post. -/
def Answers (m : Message) (ms : List Message) : Prop :=
  match m.what with
  | .hotplugAttached => ∃ id, ms.Sublist [.uvcAttached id]
  | .hotplugDetached => ∃ id, ms.Sublist [.streamOff id, .uvcDetached id]
  | _ => ms = []

theorem Answers.nil (m : Message) : Answers m [] := by
  unfold Answers
  split
  · exact ⟨0, List.nil_sublist _⟩
  · exact ⟨0, List.nil_sublist _⟩
  · rfl

theorem sublist_ite (b : Bool) (m : Message) : List.Sublist (if b then [m] else []) [m] := by
  split
  · exact .refl _
  · exact List.nil_sublist _

/-- An attach that is announced succeeds. -/
theorem UvcAttaches.posts {gadgets gadgets' : List Gadget} {name : DevName}
    (h : UvcAttaches env io gadgets name r gadgets' io') :
    Silent io io' ∨ (r = 0 ∧ ∃ id, ∃ b : Bool, Logs (if b then [.uvcAttached id] else []) [] [] io io') := by
  rcases h.logs with ⟨-, hl⟩ | ⟨g, t, hg, -, hl⟩
  · exact .inl hl
  · refine .inr ⟨?_, g.id, _, hl⟩
    cases h with
    | missing hopen => exact absurd (List.self_eq_append_right.mp hg) (List.cons_ne_nil _ _)
    | rejected hup => exact absurd (List.self_eq_append_right.mp hg) (List.cons_ne_nil _ _)
    | attached hopen htype hmem hinit hret => rfl

/-- So does a detach that is. -/
theorem UvcDetaches.posts {gadgets gadgets' : List Gadget} {name : DevName}
    (h : UvcDetaches env io gadgets name r gadgets' io') :
    Silent io io' ∨ (r = 0 ∧ ∃ id ms, Logs ms [] [] io io' ∧ ms.Sublist [.streamOff id, .uvcDetached id]) := by
  cases h with
  | missed h => exact .inl (.refl io)
  | detached hs hstop =>
      rename_i pre post g g₁ io₁ ret
      have hid : g₁.id = g.id := by rw [hstop.gadget]
      obtain ⟨ms, hl, hsub, -⟩ := hstop.quiets
      have hunwatched := (hl.before (silent_unwatch _ g₁.vdev.fd .exception)).before
        (silent_kernel _ (v4l2Close io₁.kernel g₁.vdev))
      refine .inr ⟨rfl, g.id, _, hunwatched.trans (logs_post env _ (.uvcDetached g₁.id)), ?_⟩
      rw [hid]
      have hstops : (stops [g]).Sublist [.streamOff g.id] := by
        unfold stops
        rw [List.flatMap_singleton]
        exact sublist_ite _ _
      exact (hsub.trans hstops).append (sublist_ite _ _)

/-- The gadget module claims a message that it answers. -/
theorem uvcHandleMessage_posts (hm : m.what ≠ .terminate) (h : uvcHandleMessage env s m = .ok (r, s')) :
    ∃ ms, s'.io.queue = s.io.queue ++ ms ∧ Answers m ms ∧ (r ≠ 1 → ms = []) := by
  have hquiet : Silent s.io s'.io → ∃ ms, s'.io.queue = s.io.queue ++ ms ∧ Answers m ms ∧ (r ≠ 1 → ms = []) :=
    fun hl => ⟨[], hl.queue, .nil m, fun _ => rfl⟩
  unfold uvcHandleMessage at h
  split at h
  · next p name hwhat _ =>
      generalize ha : uvcGadgetAttach env s.io s.gadgets name = res at h
      obtain ⟨r₁, gadgets, io⟩ := res
      cases h
      rcases (uvcGadgetAttach_does ha).posts with hl | ⟨rfl, id, b, hl⟩
      · exact hquiet hl
      · refine ⟨_, hl.queue, ?_, fun hr => absurd rfl hr⟩
        rw [Answers, hwhat]
        exact ⟨id, sublist_ite b _⟩
  · next p name hwhat _ =>
      obtain ⟨⟨r₁, gadgets, io⟩, hd, h⟩ := bind_eq_ok.mp h
      cases h
      rcases (uvcGadgetDetach_does hd).posts with hl | ⟨rfl, id, ms, hl, hsub⟩
      · exact hquiet hl
      · refine ⟨ms, hl.queue, ?_, fun hr => absurd rfl hr⟩
        rw [Answers, hwhat]
        exact ⟨id, hsub⟩
  · next p hwhat _ =>
      obtain ⟨⟨r₁, gadgets, io⟩, hd, h⟩ := bind_eq_ok.mp h
      cases h
      have hl : Silent s.io io := by
        rcases uvcGadgetFillBuffer_spec hd with ⟨_, _, rfl, _⟩ | ⟨_, _, _, _, _, _, _, _, _, _, _, rfl⟩
        · exact .refl _
        · exact silent_of_eq rfl rfl rfl rfl (Nat.le_refl _)
      exact hquiet hl
  · cases h
  · cases h
  · cases h
  · next hwhat => exact absurd hwhat hm
  · cases h; exact hquiet (.refl _)

/-- The capture module answers none. -/
theorem captureHandleMessage_silent (hm : m.what ≠ .terminate) (h : captureHandleMessage env s m = .ok (r, s')) :
    Silent s.io s'.io := by
  unfold captureHandleMessage at h
  split at h
  · next p name _ _ =>
      cases h
      exact (v4lCaptureAttach_does rfl).silent
  · obtain ⟨⟨r₁, captures, io⟩, hd, h⟩ := bind_eq_ok.mp h
    cases h
    exact (v4lCaptureDetach_does hd).silent
  · next p fmt _ _ =>
      generalize hd : v4lCaptureSetFmt env s.io s.captures m.wParam fmt = res at h
      obtain ⟨r₁, captures, io⟩ := res
      cases h
      rw [(v4lCaptureSetFmt_tunes hd).2]
      exact silent_kernel _ _
  · cases h
  · cases h
  · cases h
  · obtain ⟨⟨r₁, captures, io⟩, hd, h⟩ := bind_eq_ok.mp h
    cases h
    exact (v4lCaptureStream_does hd).silent
  · obtain ⟨⟨r₁, captures, io⟩, hd, h⟩ := bind_eq_ok.mp h
    cases h
    exact (v4lCaptureStream_does hd).silent
  · obtain ⟨⟨r₁, captures, io⟩, hd, h⟩ := bind_eq_ok.mp h
    cases h
    exact (v4lCaptureDetachGadget_does hd).silent
  · next hwhat => exact absurd hwhat hm
  · cases h; exact .refl _

/-- **What dispatching a message posts**, whatever handlers are registered. -/
theorem looperDispatch_posts (hm : m.what ≠ .terminate) (hs : List Handler) : ∀ {s : Sys},
    looperDispatch env m hs s = .ok s' → ∃ ms, s'.io.queue = s.io.queue ++ ms ∧ Answers m ms := by
  induction hs with
  | nil => intro s h; cases h; exact ⟨[], (List.append_nil _).symm, .nil m⟩
  | cons x hs ih =>
      intro s h
      rw [looperDispatch] at h
      obtain ⟨⟨r, s₁⟩, hx, h⟩ := bind_eq_ok.mp h
      have hposts : ∃ ms, s₁.io.queue = s.io.queue ++ ms ∧ Answers m ms ∧ (r ≠ 1 → ms = []) := by
        cases x with
        | uvc => exact uvcHandleMessage_posts hm hx
        | capture => exact ⟨[], (captureHandleMessage_silent hm hx).queue, .nil m, fun _ => rfl⟩
      obtain ⟨ms, hq, hms, hnot⟩ := hposts
      dsimp only at h
      split at h
      · cases h; exact ⟨ms, hq, hms⟩
      · next hr =>
          -- not claimed, so nothing has been posted yet
          obtain ⟨ms', hq', hms'⟩ := ih h
          rw [hnot hr, List.append_nil] at hq
          exact ⟨ms', by rw [hq', hq], hms'⟩

/-- **What handling a message posts.** -/
theorem looperHandle_posts (hm : m.what ≠ .terminate) (h : looperHandle env s m = .ok s') :
    ∃ ms, s'.io.queue = s.io.queue ++ ms ∧ Answers m ms := by
  unfold looperHandle at h
  obtain ⟨s₁, hd, h⟩ := bind_eq_ok.mp h
  obtain ⟨ms, hq, hms⟩ := looperDispatch_posts hm _ hd
  refine ⟨ms, ?_, hms⟩
  rw [← hq]
  dsimp only at h
  split at h
  · cases h
    split <;> rfl
  · cases h
    split <;> rfl

/-! ## What it weighs -/

/-- The weight of a message: `1`, and what its answers weigh. -/
def Message.weight (m : Message) : Nat :=
  match m.what with
  | .hotplugDetached => 3
  | .hotplugAttached => 2
  | _ => 1

theorem Message.weight_pos (m : Message) : 0 < m.weight := by
  unfold weight
  split <;> omega

theorem Answers.weight {ms : List Message} (h : Answers m ms) : total Message.weight ms < m.weight := by
  unfold Answers at h
  unfold Message.weight
  split at h
  · next hwhat =>
      obtain ⟨id, hsub⟩ := h
      rw [hwhat]
      exact Nat.lt_of_le_of_lt (total_sublist hsub) (Nat.lt_succ_self 1)
  · next hwhat =>
      obtain ⟨id, hsub⟩ := h
      rw [hwhat]
      exact Nat.lt_of_le_of_lt (total_sublist hsub) (Nat.lt_succ_self 2)
  · rw [h, total_nil]
    split <;> omega

/-- Answers are light: none is answered in turn. -/
theorem Answers.light {ms : List Message} (h : Answers m ms) {x : Message} (hx : x ∈ ms) :
    x.weight = 1 ∧ 1 < m.weight ∧ x.what ≠ .terminate := by
  unfold Answers at h
  unfold Message.weight
  split at h
  · next hwhat =>
      obtain ⟨id, hsub⟩ := h
      obtain rfl := List.mem_singleton.mp (hsub.subset hx)
      rw [hwhat]
      exact ⟨rfl, by decide, nofun⟩
  · next hwhat =>
      obtain ⟨id, hsub⟩ := h
      rw [hwhat]
      rcases List.mem_cons.mp (hsub.subset hx) with rfl | hx
      · exact ⟨rfl, by decide, nofun⟩
      · obtain rfl := List.mem_singleton.mp hx
        exact ⟨rfl, by decide, nofun⟩
  · rw [h] at hx; cases hx

/-- **Handling a message lightens the queue.** -/
theorem looperHandle_lightens (env : Env) :
    Lightens (fun s : Sys => s.io.queue) (looperHandle env) (·.what ≠ .terminate) Message.weight := by
  intro s s' m hm h
  obtain ⟨ms, hq, hms⟩ := looperHandle_posts hm h
  exact ⟨ms, hq, fun x hx => (hms.light hx).2.2, hms.weight⟩

end Uvcd
