import Uvcd.Lib.Rank
import Uvcd.Correctness.TestApp

/-!
# `Correctness.TestSignals` — a signal ends the test application

`events_stop` may be called at any moment. `signal_ends`: once `events_loop` has begun, the signal ends it within four
steps, after at most one more callback, and the program has closed what it opened. A signal that comes before is
forgotten.
-/

namespace Uvcd

namespace TestApp

open Machine

variable {env : Env} {fds : List Nat} {app app' : App} {k : Kernel}

/-- The program takes a step, or `select` returns to it. -/
def Acts : Action → App → Bool
  | .signal, _ => false
  | .next, app => decide (app.phase ≠ .select)
  | _, app => decide (app.phase = .select)

/-- A callback is called. -/
def Calls : Action → App → Bool
  | .next, app => match app.phase with
    | .dispatch (_ :: _) => true
    | _ => false
  | _, _ => false

/-- The steps that a stopped program has left. -/
def Phase.left : Phase → Nat
  | .init => 0
  | .test => 2
  | .select => 4
  | .dispatch _ => 3
  | .exit => 1
  | .finished => 0

/-- The callbacks. -/
def Phase.calls : Phase → Nat
  | .select => 1
  | .dispatch (_ :: _) => 1
  | _ => 0

/-- The loop has been told to end. -/
structure App.Stopped (app : App) : Prop where
  done : app.dev.events.done = true
  begun : app.phase ≠ .init

/-- A stopped program on its way. -/
structure App.Ending (fds : List Nat) (app : App) : Prop extends App.Stopped app where
  inOrder : app.InOrder fds

theorem App.Ending.step (hob : Obeys env) {a : Action} (h : app.Ending fds) (hfits : Fits env a app)
    (hstep : step env a app = .ok app') : app'.Ending fds ∧ app'.phase.left ≤ app.phase.left - (Acts a app).toNat ∧
      app'.phase.calls + (Calls a app).toNat ≤ app.phase.calls := by
  obtain ⟨app₁, hstep₁, horder⟩ := step_inOrder hob h.inOrder hfits
  rw [hstep] at hstep₁
  cases hstep₁
  have hdone := h.done
  have hbegun := h.begun
  cases a with
  | signal =>
      rw [TestApp.step, if_neg hfits] at hstep
      cases hstep
      exact ⟨⟨⟨rfl, hbegun⟩, horder⟩, Nat.le_refl _, Nat.le_refl _⟩
  | select r =>
      rw [TestApp.step] at hstep
      split at hstep
      · next hp =>
          cases hstep
          refine ⟨⟨⟨hdone, fun hi => by cases hi⟩, horder⟩, ?_, ?_⟩
          · simp [Acts, hp, Phase.left]
          · dsimp only
            rw [hp]
            cases snapshot app.dev.events (app.dev.events.select r) with
            | nil => exact Nat.zero_le _
            | cons t rest => exact Nat.le_refl _
      · next hp =>
          cases hstep
          have hp : app.phase ≠ .select := hp
          refine ⟨h, ?_, Nat.le_refl _⟩
          simp [Acts, hp]
  | interrupted =>
      rw [TestApp.step] at hstep
      by_cases hp : app.phase = .select
      · rw [if_pos hp] at hstep
        cases hstep
        refine ⟨⟨⟨hdone, fun hi => by cases hi⟩, horder⟩, ?_, Nat.zero_le _⟩
        simp [Acts, hp, Phase.left]
      · rw [if_neg hp] at hstep
        cases hstep
        refine ⟨h, ?_, Nat.le_refl _⟩
        simp [Acts, hp]
  | selectFailed =>
      rw [TestApp.step] at hstep
      by_cases hp : app.phase = .select
      · rw [if_pos hp] at hstep
        cases hstep
        refine ⟨⟨⟨hdone, fun hi => by cases hi⟩, horder⟩, ?_, Nat.zero_le _⟩
        simp [Acts, hp, Phase.left]
      · rw [if_neg hp] at hstep
        cases hstep
        refine ⟨h, ?_, Nat.le_refl _⟩
        simp [Acts, hp]
  | next =>
      rw [TestApp.step, next] at hstep
      cases hp : app.phase with
      | init => exact absurd hp hbegun
      | test =>
          rw [hp] at hstep
          cases hstep
          rw [if_pos hdone] at horder ⊢
          exact ⟨⟨⟨hdone, fun hi => by cases hi⟩, horder⟩, by simp [Acts, hp, Phase.left],
            by simp [Calls, hp, Phase.calls]⟩
      | select =>
          rw [hp] at hstep
          cases hstep
          refine ⟨h, ?_, ?_⟩
          · simp [Acts, hp]
          · simp [Calls, hp]
      | dispatch iter =>
          rw [hp] at hstep
          cases iter with
          | nil =>
              cases hstep
              refine ⟨⟨⟨hdone, fun hi => by cases hi⟩, horder⟩, ?_, ?_⟩
              · simp [Acts, hp, Phase.left]
              · simp [Calls, hp, Phase.calls]
          | cons t rest =>
              have hin := h.inOrder
              unfold App.InOrder at hin
              rw [hp] at hin
              obtain ⟨app₂, hcall, hgoes⟩ := invoke_goes hob hp hin.1 (hin.2 t (.head _)) hfits
              have hdone₂ := hgoes.done.trans hdone
              dsimp only at hstep
              rw [hcall, ok_bind, if_pos hdone₂] at hstep
              cases hstep
              refine ⟨⟨⟨hdone₂, fun hi => by cases hi⟩, horder⟩, ?_, ?_⟩
              · simp [Acts, hp, Phase.left]
              · simp [Calls, hp, Phase.calls]
      | exit =>
          rw [hp] at hstep
          cases hstep
          refine ⟨⟨⟨hdone, fun hi => by cases hi⟩, horder⟩, ?_, ?_⟩
          · simp [Acts, hp, Phase.left, App.close]
          · simp [Calls, hp, Phase.calls, App.close]
      | finished =>
          rw [hp] at hstep
          cases hstep
          refine ⟨h, ?_, ?_⟩
          · simp [hp, Phase.left]
          · simp [Calls, hp]

theorem App.Ending.finished (h : app.Ending fds) (hleft : app.phase.left = 0) : app.phase = .finished := by
  cases hp : app.phase with
  | init => exact absurd hp h.begun
  | finished => rfl
  | _ => rw [hp] at hleft; cases hleft

/-- **A signal ends the program.** In a run that goes through, a signal that comes once the loop has begun lets at most
    one more callback be called, and after four more steps the program has finished, and has closed what it opened. A
    signal that comes before the loop changes nothing. -/
theorem signal_ends (hob : Obeys env) {opts : Options} {as : List Action} (hboot : boot env k opts = some app)
    (hfits : Along (step env) (Fits env) as app) (hrun : run env as app = .ok app') :
    (app'.phase ≠ .init → ∀ bs, Along (step env) (Fits env) (.signal :: bs) app' →
      ∃ app₁, run env (.signal :: bs) app' = .ok app₁ ∧ busy (step env) Calls bs app'.stop ≤ 1 ∧
        (4 ≤ busy (step env) Acts bs app'.stop → app₁.phase = .finished ∧ app₁.kernel.opened = k.opened)) ∧
    (app'.phase = .init → ∀ bs, run env (.signal :: .next :: bs) app' = run env (.next :: bs) app') := by
  obtain ⟨app₂, hrun₂, horder⟩ := test_app_sound hob hboot hfits
  rw [hrun] at hrun₂
  cases hrun₂
  constructor
  · intro hbegun bs hfits'
    obtain ⟨app₁, hrun₁, horder₁⟩ := run_progress (fun _ _ h hf => step_inOrder hob h hf) horder hfits'
    refine ⟨app₁, hrun₁, ?_⟩
    have hstop : step env .signal app' = .ok app'.stop := by
      rw [step, if_neg (show ¬app'.phase = .finished from hfits'.1)]
    obtain ⟨u, hu, hrest⟩ := run_cons_ok.mp hrun₁
    rw [hstop] at hu
    cases hu
    have hending : app'.stop.Ending k.opened := ⟨⟨rfl, hbegun⟩, horder.stop⟩
    have hfits₁ := hfits'.2 _ hstop
    obtain ⟨-, hcalls⟩ := run_lowers (P := Calls) (μ := fun app => app.phase.calls) (fun a s t hs hC hst =>
      ⟨(hs.step hob hC hst).1, (hs.step hob hC hst).2.2⟩) hending hfits₁ hrest
    obtain ⟨hend₁, hleft⟩ := run_exhausts (P := Acts) (μ := fun app => app.phase.left) (fun a s t hs hC hst =>
      ⟨(hs.step hob hC hst).1, (hs.step hob hC hst).2.1⟩) hending hfits₁ hrest
    have hone : app'.stop.phase.calls ≤ 1 := by
      unfold Phase.calls
      split <;> omega
    have hfour : app'.stop.phase.left ≤ 4 := by
      unfold Phase.left
      split <;> omega
    refine ⟨by omega, fun hacts => ?_⟩
    have hfin := hend₁.finished (by omega)
    refine ⟨hfin, ?_⟩
    unfold App.InOrder at horder₁
    rw [hfin] at horder₁
    exact horder₁.1
  · intro hinit bs
    have hstop : step env .signal app' = .ok app'.stop := by
      rw [step, if_neg (by rw [hinit]; simp)]
    -- `done` is cleared on entry
    have hnext : step env .next app'.stop = step env .next app' := by
      rw [step, step, next, next, show app'.stop.phase = app'.phase from rfl, hinit]
      unfold App.watch App.stop eventsStop
      dsimp only
      split <;> rfl
    rw [run, run_cons, hstop, ok_bind, run_cons, hnext, run_cons]

/-- A stream is up and `select` waits. -/
def testStream : List Action := .next :: testTurn ++ testTurn ++ testTurn ++ [.next]

/-- The video callback is called once more, for a round that had begun. -/
theorem signal_ends_streaming :
    ∃ app app' app₁, testBoot = some app ∧ run testBench testStream app = .ok app' ∧
      run testBench [.signal, .select (readyFds [3]), .next, .next, .next] app' = .ok app₁ ∧
      app₁.phase = .finished ∧ app₁.kernel.opened = stdFds := by
  obtain ⟨app, hboot, hfits, app', hrun, hbegun, hfits', hacts⟩ : ∃ app, testBoot = some app ∧
      Along (step testBench) (Fits testBench) testStream app ∧ ∃ app', run testBench testStream app = .ok app' ∧
        app'.phase ≠ .init ∧
        Along (step testBench) (Fits testBench) [.signal, .select (readyFds [3]), .next, .next, .next] app' ∧
        4 ≤ busy (step testBench) Acts [.select (readyFds [3]), .next, .next, .next] app'.stop := by
    decide +kernel
  obtain ⟨app₁, hrun₁, -, hend⟩ := (signal_ends testBench_obeys hboot hfits hrun).1 hbegun _ hfits'
  exact ⟨app, app', app₁, hboot, hrun, hrun₁, hend hacts⟩

end TestApp

end Uvcd
