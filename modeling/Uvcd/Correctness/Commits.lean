import Uvcd.Correctness.Formats
import Uvcd.Refinement.Does

/-!
# `Correctness.Commits` — the format a gadget remembers and the format of its device

A commit writes the gadget's `fcc`, `width` and `height` and then asks the driver for that format; the answer is
not looked at. The fields should be the format that the output device took last.

They are, in every state a run passes, exactly when at each commit the driver takes the format asked for or the
fields already say what is asked for (`commits_agree`).
-/

namespace Uvcd

open Machine Split

variable {env : Env} {s s' : Sys} {a : Action} {k k' : Kernel} {d d' : Device} {io io' : Io} {g g' : Gadget}

/-! ## The property -/

/-- The gadget's fields are the format its device took last; both are zero before the first one. -/
def Gadget.Agrees (g : Gadget) : Prop :=
  g.fcc = g.vdev.format.pixelformat ∧ g.width = g.vdev.format.width ∧ g.height = g.vdev.format.height

def Sys.Agrees (s : Sys) : Prop := ∀ g ∈ s.gadgets, g.Agrees

/-- The next step is the callback of the gadget `g`, for the data of a commit. -/
structure Commits (env : Env) (s : Sys) (fd addr : Nat) (rest : List EventIter) (pre post : List Gadget)
    (g : Gadget) (data : RequestData) : Prop where
  at_callback : s.phase = .dispatch (⟨fd, .uvcGadgetProcess, .gadget addr⟩ :: rest)
  gadget : SplitsAt (·.addr = addr) s.gadgets pre g post
  event : env.dqevent s.io.kernel.tick g.vdev.file = .ok (.data data)
  control : g.control = VS_COMMIT_CONTROL

/-- `v4l2_set_format` accepts the format of the commit. -/
def Gadget.isAccepted (env : Env) (k : Kernel) (g : Gadget) (data : RequestData) : Prop :=
  (v4l2SetFormat env k g.vdev (g.committed data).asked).1 = 0

/-- With memory and room in the pipe: a format that is accepted is in the gadget's fields and in the one message
    sent, one that is refused changes neither. -/
structure CommitsRight (env : Env) (s : Sys) (pre post : List Gadget) (g : Gadget) (data : RequestData)
    (s' : Sys) : Prop where
  accepted : g.isAccepted env (s.io.polled g.vdev.fd).kernel.ask data →
    ∃ g' p, s'.gadgets = pre ++ g' :: post ∧ g'.Agrees ∧
      s'.io.queue = s.io.queue ++ [.setFmt g.id p g'.vdev.format]
  refused : ¬g.isAccepted env (s.io.polled g.vdev.fd).kernel.ask data →
    ∃ g', s'.gadgets = pre ++ g' :: post ∧ g'.fcc = g.fcc ∧ g'.width = g.width ∧ g'.height = g.height ∧
      s'.io.queue = s.io.queue

/-- Every commit of the step goes right; its one write is the fifth call, behind `VIDIOC_DQEVENT`, `malloc`,
    `VIDIOC_S_FMT` and `VIDIOC_G_FMT`. -/
def StepsRight (env : Env) (a : Action) (s : Sys) : Prop :=
  a = .next → ∀ fd addr rest pre post g data, Commits env s fd addr rest pre post g data →
    env.malloc (s.io.kernel.tick + 1) = true →
    (∀ p fmt, env.write (s.io.kernel.tick + 4) (.setFmt g.id p fmt) = true) →
    ∀ s', step env a s = .ok s' → CommitsRight env s pre post g data s'

/-! ## The condition -/

/-- From call `t` on the driver takes the format and reports it back. -/
def TakesFormat (env : Env) (t : Nat) (file : File) (fmt : PixFormat) : Prop :=
  ∃ f, env.sFmt t file (requested fmt.width fmt.height fmt.pixelformat) = .ok f ∧
    env.gFmt (t + 1) file = none ∧ f.Meets fmt

/-- At a commit there is memory for the message and the driver takes the format, or the format is the one the
    fields have. -/
def Accepts (env : Env) (a : Action) (s : Sys) : Prop :=
  a = .next → ∀ fd addr rest pre post g data, Commits env s fd addr rest pre post g data →
    (env.malloc (s.io.kernel.tick + 1) = true ∧
      TakesFormat env (s.io.kernel.tick + 2) g.vdev.file (g.committed data).asked) ∨
    (g.committed data).asked = g.asked

/-! ## One commit -/

theorem v4l2SetFormat_takes {fmt fmt' : PixFormat} {ret : Int}
    (h : v4l2SetFormat env k d fmt = (ret, fmt', k', d')) :
    (ret = 0 ∧ TakesFormat env k.tick d.file fmt ∧ d'.format = fmt' ∧ fmt'.Meets fmt ∧ k'.tick = k.tick + 2) ∨
      (ret < 0 ∧ ¬TakesFormat env k.tick d.file fmt ∧ d'.format = d.format) := by
  have hsets := v4l2SetFormat_sets env k d fmt
  rw [h] at hsets
  cases hsets with
  | refused hset hin ht =>
      refine .inr ⟨Errno.neg_lt _, ?_, rfl⟩
      rintro ⟨f, hf, -⟩
      rw [hset] at hf; cases hf
  | dropped hset hin ht hno =>
      refine .inr ⟨Errno.neg_lt _, ?_, rfl⟩
      rintro ⟨f, hf, hget, hmeet⟩
      rw [hset] at hf; cases hf
      exact hno ⟨hget, hmeet⟩
  | taken hset hin ht hget hmeet => exact .inl ⟨rfl, ⟨_, hset, hget, hmeet⟩, rfl, hmeet, ht⟩

theorem isAccepted_iff {data : RequestData} :
    g.isAccepted env k data ↔ TakesFormat env k.tick g.vdev.file (g.committed data).asked := by
  unfold Gadget.isAccepted
  generalize hset : v4l2SetFormat env k g.vdev (g.committed data).asked = r
  obtain ⟨ret, fmt, k₁, d₁⟩ := r
  rcases v4l2SetFormat_takes hset with ⟨hret, ht, -⟩ | ⟨hret, ht, -⟩
  · exact iff_of_true hret ht
  · exact iff_of_false (by dsimp only; omega) ht

/-- A gadget agrees with its device if the device's format is the one the gadget would ask for. -/
theorem agrees_iff : g.Agrees ↔ g.vdev.format.Meets g.asked := by
  constructor
  · rintro ⟨hf, hw, hh⟩; exact ⟨hw.symm, hh.symm, hf.symm⟩
  · rintro ⟨hw, hh, hf⟩; exact ⟨hf.symm, hw.symm, hh.symm⟩

theorem asked_eq_of_meets {f : PixFormat} (h : f.Meets g.asked) (h' : f.Meets g'.asked) : g.asked = g'.asked := by
  obtain ⟨hw, hh, hf⟩ := h
  obtain ⟨hw', hh', hf'⟩ := h'
  have hw₁ : g.width = g'.width := hw.symm.trans hw'
  have hh₁ : g.height = g'.height := hh.symm.trans hh'
  have hf₁ : g.fcc = g'.fcc := hf.symm.trans hf'
  unfold Gadget.asked
  rw [hw₁, hh₁, hf₁]

/-- **One commit** leaves the gadget in agreement exactly under the condition. -/
theorem SetsVideo.agrees {data : RequestData} (h : SetsVideo env io (g.committed data) g' io') (hg : g.Agrees) :
    g'.Agrees ↔ (env.malloc io.kernel.tick = true ∧
      TakesFormat env (io.kernel.tick + 1) g.vdev.file (g.committed data).asked) ∨
      (g.committed data).asked = g.asked := by
  have hmalloc : ∀ {p : Option Nat} {io₁ : Io}, io.malloc env = (p, io₁) →
      p.isSome = env.malloc io.kernel.tick ∧ io₁.kernel.tick = io.kernel.tick + 1 := fun hmem => by
    refine ⟨?_, by rw [malloc_kernel hmem]; rfl⟩
    unfold Io.malloc at hmem
    split at hmem
    · next hm => cases hmem; exact hm.symm
    · next hm => cases hmem; simpa using hm
  -- with the device's format as it was, agreement means that the fields have not changed
  have hkept : ∀ {d : Device}, d.format = g.vdev.format →
      (({ g.committed data with vdev := d } : Gadget).Agrees ↔ (g.committed data).asked = g.asked) := by
    intro d hd
    rw [agrees_iff] at hg ⊢
    constructor
    · intro hm
      have hm' : g.vdev.format.Meets (g.committed data).asked := hd ▸ hm
      exact asked_eq_of_meets hm' hg
    · intro heq
      show d.format.Meets (g.committed data).asked
      rw [hd, heq]
      exact hg
  rw [agrees_iff] at hg
  cases h with
  | nomem hmem =>
      have hno : ¬env.malloc io.kernel.tick = true := by rw [← (hmalloc hmem).1]; simp
      rw [or_iff_right fun h => hno h.1]
      exact hkept rfl
  | refused hmem hret hset =>
      rcases v4l2SetFormat_takes hset with ⟨h0, -⟩ | ⟨-, hno, hd⟩
      · omega
      · rw [(hmalloc hmem).2] at hno
        rw [or_iff_right fun h => hno h.2]
        exact hkept hd
  | posted hmem hret hset =>
      rcases v4l2SetFormat_takes hset with ⟨-, ht, hd, hmeet, -⟩ | ⟨hlt, -⟩
      · rw [(hmalloc hmem).2] at ht
        refine iff_of_true ?_ (.inl ⟨by rw [← (hmalloc hmem).1]; rfl, ht⟩)
        rw [agrees_iff]
        show (Device.format _).Meets (g.committed data).asked
        rw [hd]
        exact hmeet
      · exact absurd hlt hret

/-! ## What a step does to the formats -/

/-- The callback of a commit. -/
theorem Commits.steps {fd addr : Nat} {rest : List EventIter} {pre post : List Gadget} {data : RequestData}
    (hc : Commits env s fd addr rest pre post g data) (hal : s.Alive) :
    ∃ g' io', step env .next s = .ok (afterCall { s with gadgets := pre ++ g' :: post, io := io' } rest) ∧
      SetsVideo env (s.io.polled g.vdev.fd) (g.committed data) g' io' := by
  generalize hset : uvcVideoSetFormat env (s.io.polled g.vdev.fd) (g.committed data) = r
  obtain ⟨ret, g', io'⟩ := r
  have hsets := uvcVideoSetFormat_sets hset
  refine ⟨g', io', ?_, hsets⟩
  have hbulk : g'.bulk = 0 := by
    rw [hsets.gadget]
    exact (hal.fit.gadgets g hc.gadget.mem).2
  have hprocess : uvcGadgetProcess env s.io g = .ok (g', io') := by
    unfold uvcGadgetProcess
    dsimp only
    rw [hc.event]
    show uvcEventsProcessData uvcFormats env (s.io.polled g.vdev.fd) g data = _
    unfold uvcEventsProcessData
    dsimp only
    rw [if_neg (by rw [hc.control]; decide), if_pos hc.control]
    unfold Gadget.committed at hset
    rw [hset]
    dsimp only
    rw [if_neg (by rw [hbulk]; decide)]
  rw [step, next, hc.at_callback]
  unfold invoke
  dsimp only
  unfold onGadget
  rw [splitFirst_decide.mpr hc.gadget]
  dsimp only
  rw [hprocess]
  rfl

/-- Two descriptions of the same commit. -/
theorem Commits.unique {fd fd' addr addr' : Nat} {rest rest' : List EventIter} {pre pre' post post' : List Gadget}
    {data data' : RequestData} (h : Commits env s fd addr rest pre post g data)
    (h' : Commits env s fd' addr' rest' pre' post' g' data') :
    rest = rest' ∧ pre = pre' ∧ post = post' ∧ g = g' ∧ data = data' := by
  have hat := Phase.dispatch.inj (h.at_callback.symm.trans h'.at_callback)
  cases hat
  obtain ⟨rfl, rfl, rfl⟩ := h.gadget.unique h'.gadget
  have hev := h.event.symm.trans h'.event
  cases hev
  exact ⟨rfl, rfl, rfl, rfl, rfl⟩

theorem UvcAttaches.agrees {gadgets gadgets' : List Gadget} {name : DevName} {r : Int}
    (h : UvcAttaches env io gadgets name r gadgets' io') :
    gadgets' = gadgets ∨ ∃ g, gadgets' = gadgets ++ [g] ∧ g.Agrees := by
  cases h with
  | missing hopen => exact .inl rfl
  | rejected hup => exact .inl rfl
  | attached hopen htype hmem hinit hret =>
      refine .inr ⟨_, rfl, ?_⟩
      rw [(uvcGadgetInit_talks hinit).2]
      cases v4l2Open_opens hopen with
      | opened hchat => exact ⟨rfl, rfl, rfl⟩

/-- A step that is not a commit keeps the agreement. -/
theorem Does.agrees (hst : s.Stands) (h : Does env s a s')
    (hno : ∀ fd addr rest pre post g data, ¬Commits env s fd addr rest pre post g data) (hs : s.Agrees) :
    s'.Agrees := by
  -- the list with one gadget replaced agrees as soon as the new gadget agrees where the old one did
  have hreplace : ∀ {pre post : List Gadget} {g g' : Gadget}, s.gadgets = pre ++ g :: post →
      g'.asked = g.asked → g'.vdev.format = g.vdev.format → ∀ x ∈ pre ++ g' :: post, x.Agrees := by
    intro pre post g g' heq hasked hformat
    refine forall_replaced heq hs ?_
    have hg := hs g (by rw [heq]; exact List.mem_append_right _ List.mem_cons_self)
    rw [agrees_iff] at hg ⊢
    rw [hasked, hformat]
    exact hg
  cases h with
  | turn | plug | unplug | signal | init | scan | looper | hotplug | capture => exact hs
  | gadget hat hsp hcall =>
      cases hcall with
      | quiet hev ht => exact hreplace hsp.eq rfl rfl
      -- a commit is what the hypothesis rules out
      | commit hev hcontrol hset => exact absurd ⟨hat, hsp, hev, hcontrol⟩ (hno _ _ _ _ _ _ _)
      | stream on hev hstream =>
          have hal := hst.alive (by rw [hat]; simp)
          refine hreplace hsp.eq ?_ (hstream.works (hal.fit.gadgets _ hsp.mem).1).format
          rw [hstream.gadget]
          rfl
  | video hat hsp hcall =>
      refine hreplace hsp.eq ?_ (uvcVideoProcess_turns hcall).format
      rw [(uvcVideoProcess_only hcall).1]
      rfl
  | handle hat hm hserve =>
      rename_i m batch rest s₁
      obtain ⟨r, s₂, hu, hgadgets⟩ := hserve.uvc
      show ∀ g ∈ s₁.gadgets, g.Agrees
      rw [hgadgets]
      -- only the handler of the gadgets changes the list
      cases hu with
      | skipped => exact hs
      | attach hreg hatt =>
          rcases hatt.agrees with heq | ⟨g, heq, hg⟩
          · dsimp only; rw [heq]; exact hs
          · dsimp only; rw [heq]; exact forall_snoc hs hg
      | detach hdet =>
          cases hdet with
          | missed h => exact hs
          | detached hsp hstop => exact forall_erased hsp.eq hs
      | copied hsp => exact hreplace hsp.eq rfl rfl
  | cleanup hat h =>
      have hal := hst.alive (by rw [hat]; simp)
      show ∀ g ∈ _, _
      rw [(looperCleanup_empties hal.fit.staffed h).1]
      intro g hg
      cases hg

/-! ## Runs -/

theorem malloc_queue {r : Option Nat} (h : io.malloc env = (r, io')) : io'.queue = io.queue := by
  have := (silent_malloc h).queue
  rwa [List.append_nil] at this

theorem post_queue {m : Message} (hw : env.write io.kernel.tick m = true) :
    (io.post env m).queue = io.queue ++ [m] := by
  have := (logs_post env io m).queue
  rwa [if_pos hw] at this

/-- Under the condition a commit goes right. -/
theorem Accepts.stepsRight (hst : s.Stands) (h : Accepts env a s) : StepsRight env a s := by
  intro hnext fd addr rest pre post g data hc hmem hw s' hs'
  have hacc := h hnext fd addr rest pre post g data hc
  subst hnext
  have hal := hst.alive (by rw [hc.at_callback]; simp)
  obtain ⟨g', io', hstep, hsets⟩ := hc.steps hal
  rw [hs'] at hstep
  cases hstep
  have haccepted := @isAccepted_iff env (s.io.polled g.vdev.fd).kernel.ask g data
  have htick : ∀ {p : Option Nat} {io₁ : Io}, (s.io.polled g.vdev.fd).malloc env = (p, io₁) →
      io₁.kernel.tick = (s.io.polled g.vdev.fd).kernel.ask.tick := fun hm => by rw [malloc_kernel hm]
  have hqueue : ∀ {p : Option Nat} {io₁ : Io}, (s.io.polled g.vdev.fd).malloc env = (p, io₁) →
      io₁.queue = s.io.queue := fun hm => by
    have hq := malloc_queue hm
    exact hq
  -- the commit finds no memory, is refused by the driver, or is accepted and posted
  cases hsets with
  | nomem hm =>
      unfold Io.malloc at hm
      rw [if_pos (show env.malloc (s.io.polled g.vdev.fd).kernel.tick = true from hmem)] at hm
      cases hm
  | refused hm hret hset =>
      rcases v4l2SetFormat_takes hset with ⟨h0, -⟩ | ⟨-, hno, -⟩
      · omega
      · rw [htick hm] at hno
        have hsame := hacc.resolve_left fun h => hno h.2
        have hq := hqueue hm
        refine ⟨fun hyes => absurd (haccepted.mp hyes) hno, fun _ => ⟨_, rfl, ?_, ?_, ?_, hq⟩⟩
        · exact congrArg PixFormat.pixelformat hsame
        · exact congrArg PixFormat.width hsame
        · exact congrArg PixFormat.height hsame
  | posted hm hret hset =>
      rcases v4l2SetFormat_takes hset with ⟨-, ht, hd, hmeet, htook⟩ | ⟨hlt, -⟩
      · rename_i p io₁ ret fmt k₁ d₁
        rw [htick hm] at ht
        have hq := hqueue hm
        refine ⟨fun _ => ⟨{ g.committed data with vdev := d₁ }, p, rfl, ?_, ?_⟩,
          fun hno => absurd (haccepted.mpr ht) hno⟩
        · rw [agrees_iff]
          show d₁.format.Meets (g.committed data).asked
          rw [hd]
          exact hmeet
        · show (Io.post env _ _).queue = _
          have hlater : k₁.tick = s.io.kernel.tick + 4 := by rw [htook, htick hm]; rfl
          rw [post_queue (by rw [hlater]; exact hw p fmt), hd]
          exact congrArg (· ++ _) hq
      · exact absurd hlt hret

theorem step_agrees (hst : s.Stands) (hs : s.Agrees) (h : step env a s = .ok s') :
    s'.Agrees ↔ Accepts env a s := by
  by_cases hcommit : a = .next ∧ ∃ fd addr rest pre post g data, Commits env s fd addr rest pre post g data
  · obtain ⟨rfl, fd, addr, rest, pre, post, g, data, hc⟩ := hcommit
    have hal := hst.alive (by rw [hc.at_callback]; simp)
    obtain ⟨g', io', hstep, hsets⟩ := hc.steps hal
    rw [h] at hstep
    cases hstep
    have hone := hsets.agrees (hs g hc.gadget.mem)
    constructor
    · intro hall _ fd' addr' rest' pre' post' g₁ data' hc'
      obtain ⟨-, rfl, rfl, rfl, rfl⟩ := hc.unique hc'
      exact hone.mp (hall g' (List.mem_append_right _ List.mem_cons_self))
    · intro hacc
      exact forall_replaced hc.gadget.eq hs (hone.mpr (hacc rfl fd addr rest pre post g data hc))
  · refine iff_of_true ?_ fun hnext fd addr rest pre post g data hc => ?_
    · by_cases hnext : a = .next
      · refine (step_does hst h).agrees hst (fun fd addr rest pre post g data hc => ?_) hs
        exact hcommit ⟨hnext, fd, addr, rest, pre, post, g, data, hc⟩
      · -- only a step of the program touches the gadgets
        have hg : s'.gadgets = s.gadgets := by
          cases step_does hst h with
          | turn | plug | unplug | signal => rfl
          | init | scan | looper | hotplug | gadget | video | capture | handle | cleanup => exact absurd rfl hnext
        intro g hgm
        exact hs g (hg ▸ hgm)
    · exact absurd ⟨hnext, fd, addr, rest, pre, post, g, data, hc⟩ hcommit

/-- **Commits.** The gadgets' fields are the formats their devices took last in every state a run passes, and
    every commit on it goes right, exactly when at each commit the driver takes the format or nothing changes. -/
theorem commits_agree (env : Env) (nodes : List DevName) (inforce : Nat → PixFormat) (as : List Action) :
    (Throughout (step env) Sys.Agrees as (boot env nodes inforce) ∧
      Along (step env) (StepsRight env) as (boot env nodes inforce)) ↔
      Along (step env) (Accepts env) as (boot env nodes inforce) := by
  have hrun : Throughout (step env) Sys.Agrees as (boot env nodes inforce) ↔
      Along (step env) (Accepts env) as (boot env nodes inforce) := by
    refine throughout_iff_along (R := Sys.Stands) (fun a s t hs h => hs.step h)
      (fun a s t hs hP h => step_agrees hs hP h) ?_ (.inr (boot_alive env nodes inforce)) fun g hg => by cases hg
    -- a commit does not fault
    intro a s e hs _ herr hnext fd addr rest pre post g data hc
    subst hnext
    have hal := hs.alive (by rw [hc.at_callback]; simp)
    obtain ⟨g', io', hstep, -⟩ := hc.steps hal
    rw [herr] at hstep
    cases hstep
  rw [hrun, and_iff_left_iff_imp]
  intro hacc
  exact hacc.mono_inv (R := Sys.Stands) (fun a s t hs h => hs.step h) (fun a s hs h => h.stepsRight hs)
    (.inr (boot_alive env nodes inforce))

/-- A host that commits a format on an output device that takes none. -/
def refusingBench : Env :=
  { Env.obliging [videoName 0] [(25, commitRequest), (28, commitData)] with sFmt := fun _ _ _ => .error .EINVAL }

/-- The gadget's fields say what the driver has refused. -/
theorem refused_commit :
    ¬Throughout (step refusingBench) Sys.Agrees ([.next, .next] ++ [[3], [6], [6]].flatMap (turn · 12))
      (boot refusingBench [videoName 0] fun _ => .zero) := by
  intro h
  obtain ⟨s, hs, g, hg, hfcc⟩ : ∃ s, run refusingBench ([.next, .next] ++ [[3], [6], [6]].flatMap (turn · 12))
      (boot refusingBench [videoName 0] fun _ => .zero) = .ok s ∧
      ∃ g ∈ s.gadgets, g.fcc ≠ g.vdev.format.pixelformat := by
    decide +kernel
  exact hfcc (h _ s (List.prefix_refl _) hs g hg).1

end Uvcd
