import Uvcd.Refinement.Served

/-!
# `Refinement.Does` — every step, by what it calls

`Does` is the inversion of `step`: one constructor for each callback, for a handled message, for each stage of
`main` and for what happens around the daemon, with the call made and its result. `Moves` (`Refinement.Steps`)
says what of a step the other objects see; `Does` is for what happens to the devices, the heap and the kernel.

`run_does` is the invariant rule on it.
-/

namespace Uvcd

open Machine Split

variable {env : Env} {s s' : Sys} {a : Action}

/-- The daemon has nothing to do but go on. -/
def Phase.Idle : Phase → Prop
  | .select | .dispatch [] | .process [] _ | .finished => True
  | .start | .inited | .dispatch (_ :: _) | .process (_ :: _) _ | .exit => False

/-- **What a step does.** -/
inductive Does (env : Env) (s : Sys) : Action → Sys → Prop
  /-- the daemon goes on, with the same messages to handle -/
  | turn {a : Action} {phase : Phase} (hbatch : phase.batch = s.phase.batch)
      (hearly : phase = s.phase ∨ ∀ early ∈ [Phase.start, .inited], phase ≠ early ∧ s.phase ≠ early)
      (hover : phase = .finished ↔ s.phase = .finished) (hidle : a = .next → s.phase.Idle) :
      Does env s a { s with phase := phase }
  | plug (name : DevName) :
      Does env s (.plug name) { s with io := { s.io with kernel := s.io.kernel.plug name } }
  | unplug (name : DevName) :
      Does env s (.unplug name) { s with io := { s.io with kernel := s.io.kernel.unplug name } }
  | signal (n : UInt32) : Does env s (.signal n) { s with io := s.io.post env (.signal n) }
  | init (hat : s.phase = .start) :
      Does env s .next
        { s with io := (hotplugInit env s.io).2, inotifyFd := (hotplugInit env s.io).1, phase := .inited }
  | scan {handlers : List Handler} (hat : s.phase = .inited) :
      Does env s .next
        { s with handlers := handlers, io := hotplugScan env s.io.tick.tick, phase := .select }
  | looper {fd : Nat} {rest : List EventIter} (hat : s.phase = .dispatch (⟨fd, .looperProcess, .looper⟩ :: rest)) :
      Does env s .next
        { s with
          io := { s.io.tick with queue := s.io.queue.drop batchSize }
          phase := .process (s.io.queue.take batchSize) rest }
  | hotplug {fd : Nat} {rest : List EventIter}
      (hat : s.phase = .dispatch (⟨fd, .hotplugProcess, .looper⟩ :: rest)) :
      Does env s .next (afterCall { s with io := hotplugProcess env s.io } rest)
  | gadget {fd addr : Nat} {rest : List EventIter} {pre post : List Gadget} {g g' : Gadget} {io : Io}
      (hat : s.phase = .dispatch (⟨fd, .uvcGadgetProcess, .gadget addr⟩ :: rest))
      (hs : SplitsAt (·.addr = addr) s.gadgets pre g post) (hcall : UvcCalls env s.io g g' io) :
      Does env s .next (afterCall { s with gadgets := pre ++ g' :: post, io := io } rest)
  | video {fd addr : Nat} {rest : List EventIter} {pre post : List Gadget} {g g' : Gadget} {io : Io}
      (hat : s.phase = .dispatch (⟨fd, .uvcVideoProcess, .gadget addr⟩ :: rest))
      (hs : SplitsAt (·.addr = addr) s.gadgets pre g post) (hcall : uvcVideoProcess env s.io g = .ok (g', io)) :
      Does env s .next (afterCall { s with gadgets := pre ++ g' :: post, io := io } rest)
  | capture {fd addr : Nat} {rest : List EventIter} {pre post : List Capture} {c c' : Capture} {io : Io}
      (hat : s.phase = .dispatch (⟨fd, .captureProcess, .capture addr⟩ :: rest))
      (hs : SplitsAt (·.addr = addr) s.captures pre c post) (hcall : captureProcess env s.io c = .ok (c', io)) :
      Does env s .next (afterCall { s with captures := pre ++ c' :: post, io := io } rest)
  | handle {m : Message} {batch : List Message} {rest : List EventIter} {s₁ : Sys}
      (hat : s.phase = .process (m :: batch) rest) (hm : Sendable m) (h : Serves env s m s₁) :
      Does env s .next { s₁ with io := s₁.io.settle m, phase := .process batch rest }
  | cleanup {s₁ : Sys} (hat : s.phase = .exit) (h : looperCleanup env s = .ok s₁) :
      Does env s .next { s₁ with phase := .finished }

/-- A state of a run: the daemon runs, or `main` has returned. -/
def Sys.Stands (s : Sys) : Prop := s.Over ∨ s.Alive

/-- A daemon that is not through is alive. -/
theorem Sys.Stands.alive (hs : s.Stands) (hne : s.phase ≠ .finished) : s.Alive :=
  hs.resolve_left fun hover => hne hover.phase

/-- The daemon stands where it stood. -/
theorem Does.stay (hidle : a = .next → s.phase.Idle) : Does env s a s := .turn rfl (.inl rfl) Iff.rfl hidle

theorem invoke_does {t : EventIter} {rest : List EventIter} (hs : s.Alive) (hat : s.phase = .dispatch (t :: rest))
    (h : invoke env s t rest = .ok s') : Does env s .next s' := by
  obtain ⟨fd, callback, priv⟩ := t
  unfold invoke at h
  split at h
  · next hcb hpr =>
      dsimp only at hcb hpr
      subst hcb hpr
      cases h
      exact .looper hat
  · next hcb hpr =>
      dsimp only at hcb hpr
      subst hcb hpr
      cases h
      exact .hotplug hat
  · next hcb hpr =>
      dsimp only at hcb hpr
      subst hcb hpr
      obtain ⟨s₁, hon, h⟩ := bind_eq_ok.mp h
      obtain ⟨pre, g, post, g', io, hsp, hf, rfl⟩ := onGadget_ok hon
      cases h
      exact .gadget hat hsp (uvcGadgetProcess_does (hs.fit.gadgets g hsp.mem).2 hf)
  · next hcb hpr =>
      dsimp only at hcb hpr
      subst hcb hpr
      obtain ⟨s₁, hon, h⟩ := bind_eq_ok.mp h
      obtain ⟨pre, g, post, g', io, hsp, hf, rfl⟩ := onGadget_ok hon
      cases h
      exact .video hat hsp hf
  · next hcb hpr =>
      dsimp only at hcb hpr
      subst hcb hpr
      obtain ⟨s₁, hon, h⟩ := bind_eq_ok.mp h
      obtain ⟨pre, c, post, c', io, hsp, hf, rfl⟩ := onCapture_ok hon
      cases h
      exact .capture hat hsp hf
  · cases h

theorem next_does (hs : s.Alive) (h : next env s = .ok s') : Does env s .next s' := by
  cases hat : s.phase with
  | start =>
      unfold next at h
      rw [hat] at h
      cases h
      exact .init hat
  | inited =>
      unfold next at h
      rw [hat] at h
      dsimp only at h
      obtain ⟨hs₁, heq₁, -⟩ := looperRegisterHandler_spec env s .uvc
      rw [heq₁] at h
      obtain ⟨hs₂, heq₂, -⟩ := looperRegisterHandler_spec env { s with handlers := hs₁, io := s.io.tick } .capture
      rw [heq₂] at h
      cases h
      exact .scan hat
  | select =>
      unfold next at h
      rw [hat] at h
      cases h
      exact .stay fun _ => by rw [hat]; trivial
  | dispatch iter =>
      unfold next at h
      rw [hat] at h
      cases iter with
      | nil =>
          cases h
          exact .turn (by rw [hat]; rfl) (.inr (by rw [hat]; simp)) (by rw [hat]; simp) fun _ => by rw [hat]; trivial
      | cons t rest => exact invoke_does hs hat h
  | process batch rest =>
      unfold next at h
      rw [hat] at h
      cases batch with
      | nil =>
          cases h
          obtain ⟨hstart, hinited, hfin⟩ := Phase.after_running s.io.events.done rest
          refine .turn ?_ (.inr ?_) ?_ fun _ => by rw [hat]; trivial
          · rw [hat]; exact Phase.after_batch _ _
          · rw [hat]
            simp only [List.mem_cons, List.not_mem_nil, or_false, forall_eq_or_imp, forall_eq]
            exact ⟨⟨hstart, by simp⟩, hinited, by simp⟩
          · rw [hat]
            exact iff_of_false hfin (by simp)
      | cons m batch =>
          obtain ⟨s₁, hm, h⟩ := bind_eq_ok.mp h
          cases h
          -- the message handled was pending, so it is one that is sent
          have hsend : Sendable m := by
            refine hs.sendable m ?_
            unfold Sys.pending
            rw [hat]
            exact List.mem_cons_self
          obtain ⟨s₂, hserve, rfl⟩ := looperHandle_serves hs.fit.staffed hsend hm
          exact .handle hat hsend hserve
  | exit =>
      unfold next at h
      rw [hat] at h
      obtain ⟨s₁, hclean, h⟩ := bind_eq_ok.mp h
      cases h
      exact .cleanup hat hclean
  | finished =>
      unfold next at h
      rw [hat] at h
      cases h
      exact .stay fun _ => by rw [hat]; trivial

/-- **Inversion of `step`.** -/
theorem step_does (hs : s.Stands) (h : step env a s = .ok s') : Does env s a s' := by
  cases a with
  | plug name => cases h; exact .plug name
  | unplug name => cases h; exact .unplug name
  | signal n => cases h; exact .signal n
  | select r =>
      rw [step] at h
      split at h
      · next hat =>
          cases h
          exact .turn (by rw [hat]; rfl) (.inr (by rw [hat]; simp)) (by rw [hat]; simp) fun hnext => by cases hnext
      · cases h; exact .stay fun hnext => by cases hnext
  | selectFailed =>
      rw [step] at h
      split at h
      · next hat =>
          cases h
          exact .turn (by rw [hat]; rfl) (.inr (by rw [hat]; simp)) (by rw [hat]; simp) fun hnext => by cases hnext
      · cases h; exact .stay fun hnext => by cases hnext
  | next =>
      rcases hs with hover | hal
      · rw [step, next, hover.phase] at h
        cases h
        exact .stay fun _ => by rw [hover.phase]; trivial
      · exact next_does hal h

theorem Sys.Stands.step (hs : s.Stands) (h : step env a s = .ok s') : s'.Stands := by
  rcases hs with hover | hal
  · exact .inl (hover.step h)
  · exact (step_moves hal h).imp And.right And.left

/-- **The invariant rule for the daemon**, on what the steps do. -/
theorem run_does {C : Action → Sys → Prop} {I : Sys → Prop}
    (hstep : ∀ a s s', s.Stands → I s → C a s → Does env s a s' → I s') {nodes : List DevName}
    {inforce : Nat → PixFormat} (h0 : I (boot env nodes inforce)) {as : List Action}
    (hC : Along (step env) C as (boot env nodes inforce)) (h : run env as (boot env nodes inforce) = .ok s) :
    s.Stands ∧ I s := by
  refine run_inv_along (I := fun s => s.Stands ∧ I s) ?_ ⟨.inr (boot_alive env nodes inforce), h0⟩ hC h
  intro a s s' ⟨hst, hI⟩ hCs h
  exact ⟨hst.step h, hstep a s s' hst hI hCs (step_does hst h)⟩

end Uvcd
