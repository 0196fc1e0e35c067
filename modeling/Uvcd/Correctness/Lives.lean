import Uvcd.Refinement.Tells
import Uvcd.Correctness.Starts

/-!
# `Correctness.Lives` — the messages with the id of a gadget

With room in the pipe, and an id that only one gadget gets, what the gadget module says with that id is in order
(`streams_alternate`): starts and stops in turn, a start only when the stream is on, nothing after
`MSG_UVC_DETACHED`, and before that no start without its stop. The captures follow these messages blindly.
-/

namespace Uvcd

open Machine Split

variable {env : Env} {s s' : Sys} {a : Action} {ms : List Message} {id : UInt32}

/-- The gadget streams on the buffers its driver has granted it: they were mapped and queued, all of them, then
    `VIDIOC_STREAMON` was accepted, and three calls later it is `now`. -/
def Gadget.Underway (env : Env) (g : Gadget) (now : Nat) : Prop :=
  ∃ t file fmt n, Supplies env t file fmt n ∧ env.streamon (t + 2 + 3 * n) (file.supplied n fmt) = none ∧
    g.vdev.nbufs = n ∧ g.vdev.file = { file.supplied n fmt with streaming := true } ∧ now = t + 2 + 3 * n + 3

/-- If the step says that the stream of the gadget with the id is on, it is, and saying so is the last call. -/
def OnWhenUnderway (env : Env) (id : UInt32) (a : Action) (s : Sys) : Prop :=
  ∀ s' (ms : List Message), step env a s = .ok s' → s'.io.sent = s.io.sent ++ ms → .streamOn id ∈ ms →
    ∃ g ∈ s'.gadgets, g.id = id ∧ g.isStreaming = true ∧ g.Underway env s'.io.kernel.tick

theorem uvcVideoStart_underway {k₀ k : Kernel} {g : Gadget} {d : Device}
    (h : uvcVideoStart env k₀ g = .ok (0, k, d)) :
    Gadget.Underway env { g with vdev := d, isStreaming := true } (k.tick + 2) := by
  by_cases h0 : g.vdev.nbufs = 0
  · rw [uvcVideoStart_eq h0] at h
    obtain ⟨⟨ret₁, k₁, d₁⟩, hacq, h⟩ := bind_eq_ok.mp h
    obtain ⟨-, hp, ret₂, k₂, d₂, hsteps, -, hn, hend⟩ := uvcAcquire_acquires h0 hacq
    obtain ⟨-, -, ⟨hret, -, rfl, rfl⟩ | ⟨hlt, hret, -⟩⟩ := giveBack_frees hp h
    · rcases hend with ⟨hlt, rfl, -⟩ | ⟨hge, hon⟩
      · exact absurd hlt hret
      · cases hsteps with
        | surplus hreq hn hcount h0 => exact absurd (Errno.neg_lt _) hge
        | failed hlt hle hno hcount => exact absurd hlt hge
        | supplied hs ht hn₂ hfile =>
            rename_i n
            unfold v4l2StreamOn at hon
            dsimp only at hon
            split at hon
            · next e hans =>
                cases hon
                exact absurd (Errno.neg_lt e) hret
            · next hans =>
                cases hon
                rw [ht, hfile] at hans
                refine ⟨_, _, _, n, hs, hans, hn₂, ?_, ?_⟩
                · show ({ d₂.file with streaming := true } : File) = _
                  rw [hfile]
                · show k₂.tick + 1 + 2 = _
                  omega
    · omega
  · rw [uvcVideoStart_busy h0] at h
    cases h

theorem Utters.underway (h : Utters env s s' ms) (hon : .streamOn id ∈ ms) :
    ∃ g ∈ s'.gadgets, g.id = id ∧ g.isStreaming = true ∧ g.Underway env s'.io.kernel.tick := by
  have hstops : ∀ {gadgets : List Gadget}, .streamOn id ∉ stops gadgets := by
    intro gadgets hm
    obtain ⟨g, -, hg⟩ := List.mem_flatMap.mp hm
    split at hg
    · exact absurd (List.mem_singleton.mp hg) (by simp [Message.streamOn, Message.streamOff])
    · cases hg
  cases h with
  | others hms hgs => exact absurd (hms _ hon) (by simp [Message.fromGadget, Message.streamOn])
  | format hg hgs => exact absurd (List.mem_singleton.mp hon) (by simp [Message.streamOn, Message.setFmt])
  | started hs hoff hstart hgs htick =>
      rename_i pre post g k₀ k d
      have hid : id = g.id := congrArg Message.wParam (List.mem_singleton.mp hon)
      refine ⟨{ g with vdev := d, isStreaming := true }, ?_, hid.symm, rfl, ?_⟩
      · rw [hgs]
        exact List.mem_append_right _ List.mem_cons_self
      rw [htick]
      exact uvcVideoStart_underway hstart
  | stopped hs hoff hgs => exact absurd (List.mem_singleton.mp hon) (by simp [Message.streamOn, Message.streamOff])
  | attached hrun hoff hgs => exact absurd (List.mem_singleton.mp hon) (by simp [Message.streamOn, Message.uvcAttached])
  | detached hs hgs =>
      rcases List.mem_append.mp hon with hm | hm
      · exact absurd hm hstops
      · exact absurd (List.mem_singleton.mp hm) (by simp [Message.streamOn, Message.uvcDetached])
  | ended hphase hgs => exact absurd hon hstops

theorem step_underway (hw : ∀ t m, env.write t m = true) (id : UInt32) (hst : s.Stands) :
    OnWhenUnderway env id a s := by
  intro s' ms h hsent hon
  obtain ⟨ms', hsent', hu⟩ := (step_does hst h).utters hw hst
  rw [hsent', List.append_cancel_left_eq] at hsent
  exact hu.underway (hsent ▸ hon)

theorem Life.true_mem_present {ℓ : Life} : true ∈ ℓ.present ↔ ℓ = .streaming := by
  cases ℓ <;> decide

theorem true_mem_streamsOf : true ∈ streamsOf id s.speakers ↔ ∃ g ∈ s.gadgets, g.id = id ∧ g.isStreaming = true := by
  unfold streamsOf Sys.speakers
  constructor
  · intro hm
    obtain ⟨x, hx, hon⟩ := List.mem_map.mp hm
    obtain ⟨hx, hid⟩ := List.mem_filter.mp hx
    obtain ⟨g, hg, rfl⟩ := List.mem_map.mp hx
    exact ⟨g, hg, of_decide_eq_true hid, hon⟩
  · rintro ⟨g, hg, hid, hon⟩
    have hx : g.speaker ∈ s.gadgets.map Gadget.speaker := List.mem_map_of_mem hg
    exact List.mem_map.mpr ⟨g.speaker, List.mem_filter.mpr ⟨hx, decide_eq_true hid⟩, hon⟩

/-- **The messages with the id of a gadget are in order**, when sends go through and no other gadget gets the id:

* starts and stops are told in turn, a start first, and the last one told is a start as long as a gadget with the
  id streams;
* once its leave is taken every start has been followed by its stop, and nothing more is told of the gadget;
* its leave has been taken if it is no longer attached, unless `main` is through;
* a start is told when the stream is on. -/
theorem streams_alternate (hw : ∀ t m, env.write t m = true) {nodes : List DevName} {inforce : Nat → PixFormat}
    {as : List Action} (h : run env as (boot env nodes inforce) = .ok s)
    (honce : (s.io.sent.filter (Message.announces id)).length ≤ 1) :
    Alternates (streamWord id s.io.sent) ∧
    ((streamWord id s.io.sent).getLast? = some true ↔ ∃ g ∈ s.gadgets, g.id = id ∧ g.isStreaming = true) ∧
    (∀ pre m post, s.io.sent = pre ++ m :: post → m.what = .uvcDetached → m.wParam = id →
      (streamWord id pre).getLast? ≠ some true ∧ ∀ x ∈ post, x.wParam = id → x.fromGadget = false) ∧
    ((∃ m ∈ s.io.sent, m.announces id = true) → (∀ g ∈ s.gadgets, g.id ≠ id) → s.phase ≠ .finished →
      ∃ m ∈ s.io.sent, m.what = .uvcDetached ∧ m.wParam = id) ∧
    Along (step env) (OnWhenUnderway env id) as (boot env nodes inforce) := by
  obtain ⟨hst, gs, htell, hgs⟩ := run_candid hw h
  obtain ⟨ℓ, hℓ, hsee⟩ := @TellsAll.lived _ _ _ id htell .unborn rfl honce
  refine ⟨(lived_alternates hℓ).1, (lived_last hℓ).trans ?_, ?_, ?_, ?_⟩
  · -- the last word is `true` exactly where the life is streaming, and the list shows it
    rw [← Life.true_mem_present, ← hsee]
    rcases hgs with rfl | ⟨-, hnil, hoff⟩
    · exact true_mem_streamsOf
    · rw [hnil]
      refine iff_of_false (fun hm => ?_) (by simp)
      obtain ⟨g, hg, hon⟩ := List.mem_map.mp hm
      rw [hoff g (List.mem_of_mem_filter hg)] at hon
      cases hon
  · intro pre m post hsent hm hid
    rw [hsent] at hℓ
    obtain ⟨hidle, hpost⟩ := lived_detached hℓ hm hid
    refine ⟨fun hlast => ?_, hpost⟩
    cases (lived_last hidle).mp hlast
  · -- a gadget announced and no longer listed has been detached, unless the daemon has ended
    rintro ⟨m, hm, hann⟩ hno hrun
    obtain ⟨hgone, hunborn⟩ := lived_ends hℓ
    obtain rfl := hgs.resolve_right fun hend => hrun hend.1
    have hnil : streamsOf id s.speakers = [] := by
      unfold streamsOf Sys.speakers
      rw [List.map_eq_nil_iff, List.filter_eq_nil_iff]
      intro x hx
      obtain ⟨g, hg, rfl⟩ := List.mem_map.mp hx
      exact fun hid => hno g hg (of_decide_eq_true hid)
    unfold Sees at hsee
    rw [hnil] at hsee
    cases ℓ with
    | gone => exact hgone rfl
    | unborn => rw [hunborn rfl m hm] at hann; cases hann
    | idle => cases hsee
    | streaming => cases hsee
  · refine Along.mono_inv (R := Sys.Stands) (fun a s s' hst hstep => hst.step hstep)
      (fun a s hst _ => step_underway hw id hst) (.inr (boot_alive env nodes inforce)) (along_true as _)

/-- The bench whose gadget starts to stream and is then unplugged. -/
theorem streams_alternate_unplugged :
    ∃ s, run (bench 900) (streamUp ++ .unplug (videoName 0) :: turn [5] 3 ++ turn [3] 8) (benchBoot 900) = .ok s ∧
      s.gadgets.length = 0 ∧ streamWord 18 s.io.sent = [true, false] ∧ Alternates (streamWord 18 s.io.sent) ∧
      ∃ m ∈ s.io.sent, m.what = .uvcDetached ∧ m.wParam = 18 := by
  obtain ⟨s, h, hnone, hphase, hword, honce, hann⟩ : ∃ s, run (bench 900)
      (streamUp ++ .unplug (videoName 0) :: turn [5] 3 ++ turn [3] 8) (benchBoot 900) = .ok s ∧
      s.gadgets.length = 0 ∧ s.phase ≠ .finished ∧ streamWord 18 s.io.sent = [true, false] ∧
      (s.io.sent.filter (Message.announces 18)).length ≤ 1 ∧ ∃ m ∈ s.io.sent, m.announces 18 = true := by
    decide +kernel
  obtain ⟨halt, -, -, hleft, -⟩ := streams_alternate (fun _ _ => rfl) h honce
  refine ⟨s, h, hnone, hword, halt, hleft hann (fun g hg => ?_) hphase⟩
  rw [List.eq_nil_of_length_eq_zero hnone] at hg
  cases hg

end Uvcd

