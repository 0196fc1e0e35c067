import Uvcd.Lib.Rank
import Uvcd.Correctness.Rounds
import Uvcd.Refinement.Does

/-!
# `Correctness.Shutdown` — a signal ends the daemon

`signal_handler` only sends a message, so the daemon goes on until the looper comes to it. `shutdown_after_signal`: the
looper gets to the `j`-th message pending within a bounded number of rounds, whatever else arrives, fails or is plugged
in meanwhile, and when that message is a signal's `main` returns.
-/

namespace Uvcd

open Machine Split

variable {env : Env} {s s' : Sys} {a : Action} {w w' : Board}

/-! ## Nothing takes `done` back -/

theorem Elapses.done (h : Elapses w w') : w'.events.done = w.events.done := by rw [h.events_eq]

theorem Posts.done {m : Message} (h : Posts env m w w') : w'.events.done = w.events.done := by rw [h.events_eq]

theorem Watches.done {e : EventFd} (h : Watches env e w w') : w'.events.done = w.events.done := by
  obtain ⟨t, ht⟩ := h
  rw [ht.done]
  unfold Board.watch
  split
  · exact eventsWatchFd_done
  · rfl

theorem StopsGadget.done {g g' : GadgetView} (h : StopsGadget env w g w' g') : w'.events.done = w.events.done := by
  cases h with
  | idle _ he => exact he.done
  | stop _ hp => exact hp.done.trans eventsUnwatchFd_done

theorem StartsCapture.done {c c' : CaptureView} (h : StartsCapture env w c w' c') :
    w'.events.done = w.events.done := by
  cases h with
  | idle he => exact he.done
  | start _ _ _ _ hw => exact hw.done

theorem StopsCapture.done {c c' : CaptureView} (h : StopsCapture w c w' c') : w'.events.done = w.events.done := by
  cases h with
  | idle _ he => exact he.done
  | stop _ he => exact he.done.trans eventsUnwatchFd_done

theorem Handles.done {refuses : Prop} {v v' : View} {m : Message} (h : Handles env refuses v m v')
    (hd : v.board.events.done = true) : v'.board.events.done = true := by
  cases h with
  | signal => rfl
  | attachFailed he => exact he.done.trans hd
  | gadgetAttached _ _ _ _ _ _ hw hp => exact hp.done.trans (hw.done.trans hd)
  | captureAttached _ _ _ _ _ _ _ _ he => exact he.done.trans hd
  | gadgetDetached hs hstop hp => exact hp.done.trans (eventsUnwatchFd_done.trans (hstop.done.trans hd))
  | captureDetached hg hs hstop he => exact he.done.trans (hstop.done.trans hd)
  | setFmtHeld _ he => exact he.done.trans hd
  | setFmtPaired _ _ _ he => exact he.done.trans hd
  | setFmtUnpaired _ he => exact he.done.trans hd
  | streamOn _ hstart => exact hstart.done.trans hd
  | streamOff _ hstop => exact hstop.done.trans hd
  | uvcDetached _ hstop => exact hstop.done.trans hd
  | detachMissed _ _ | streamOnMissed _ | streamOffMissed _ | uvcAttached | uvcDetachedMissed _
  | frameCopied _ _ _ | frameDropped _ => exact hd

/-! ## Rounds -/

/-- The daemon takes a step, or `select` returns to it. -/
def Acts : Action → Sys → Bool
  | .next, s => decide (s.phase ≠ .select)
  | .select _, s | .selectFailed, s => decide (s.phase = .select)
  | .plug _, _ | .unplug _, _ | .signal _, _ => false

/-- `select` finds the pipe ready whenever it holds a message. -/
def PipeReady : Action → Sys → Prop
  | .select r, s => s.io.queue ≠ [] → r.rfds s.pipeFd = true
  | _, _ => True

instance : ∀ (a : Action) (s : Sys), Decidable (PipeReady a s)
  | .select r, s => inferInstanceAs (Decidable (s.io.queue ≠ [] → r.rfds s.pipeFd = true))
  | .plug _, _ | .unplug _, _ | .signal _, _ | .selectFailed, _ | .next, _ => .isTrue trivial

/-- The steps of a round: `select` and its end, the callbacks, the messages of a batch and their end. -/
def roundSteps : Nat := 2 + iterSize + (batchSize + 1)

/-- The steps from `select` on until `main` returns, for a signal that is the `j`-th message pending. -/
def stepsToEnd (j : Nat) : Nat := j / batchSize * roundSteps + (batchSize + 4)

/-- The steps from any phase on. -/
def Phase.stepsToEnd (j : Nat) : Phase → Nat
  | .start => Uvcd.stepsToEnd j + 2
  | .inited => Uvcd.stepsToEnd j + 1
  | .select => Uvcd.stepsToEnd j
  | .dispatch iter =>
    match iter with
    | ⟨_, .looperProcess, _⟩ :: _ => Uvcd.stepsToEnd j - 1
    | _ => Uvcd.stepsToEnd j + iter.length + 1
  | .process batch rest =>
    if j < batch.length then batch.length + 2
    else Uvcd.stepsToEnd (j - batch.length) + (batch.length + rest.length + 2)
  | .exit => 1
  | .finished => 0

/-- `main` is to return within `n` steps. -/
inductive Due (s : Sys) (n : Nat) : Prop
  | ended (hat : s.phase = .finished)
  | leaving (hat : s.phase = .exit) (hn : 1 ≤ n)
  | stopped {batch : List Message} {rest : List EventIter} (hat : s.phase = .process batch rest)
      (hdone : s.io.events.done = true) (hn : batch.length + 2 ≤ n)
  | pending {j : Nat} {m : UInt32} (hat : s.pending[j]? = some (.signal m)) (hn : s.phase.stepsToEnd j ≤ n)

/-- The callbacks of a round are few, and so are the messages of a batch. -/
def Phase.Short : Phase → Prop
  | .dispatch iter => iter.length ≤ iterSize
  | .process batch rest => batch.length ≤ batchSize ∧ rest.length < iterSize
  | _ => True

theorem Phase.after_ne {done : Bool} {t : EventIter} {rest : List EventIter} :
    Phase.after done rest ≠ .dispatch (t :: rest) := by
  unfold Phase.after
  split
  · simp
  · intro heq
    injection heq with heq
    exact List.cons_ne_self _ _ heq.symm

/-- A step of the daemon takes it to another phase. -/
theorem acts_moves (hal : s.Alive) (hstep : step env a s = .ok s') (hacts : Acts a s = true) : s'.phase ≠ s.phase := by
  cases a with
  | plug _ | unplug _ | signal _ => cases hacts
  | select r =>
      have hat := of_decide_eq_true hacts
      rw [step, hat] at hstep
      cases hstep
      rw [hat]
      simp
  | selectFailed =>
      have hat := of_decide_eq_true hacts
      rw [step, hat] at hstep
      cases hstep
      rw [hat]
      simp
  | next =>
      have hne := of_decide_eq_true hacts
      have hdoes := next_does hal hstep
      rw [step, next] at hstep
      cases hat : s.phase with
      | start =>
          rw [hat] at hstep
          cases hstep
          simp
      | inited =>
          rw [hat] at hstep
          cases hstep
          simp
      | select => exact absurd hat hne
      | dispatch iter =>
          cases iter with
          | nil =>
              rw [hat] at hstep
              cases hstep
              simp
          | cons t rest =>
              cases hdoes with
              | turn _ _ _ hidle =>
                  have hidle := hidle rfl
                  rw [hat] at hidle
                  exact hidle.elim
              | looper => simp
              | hotplug hat' | gadget hat' _ _ | video hat' _ _ | capture hat' _ _ =>
                  rw [hat] at hat'
                  cases hat'
                  exact Phase.after_ne
              | init hat' | scan hat' | handle hat' _ _ | cleanup hat' _ => rw [hat] at hat'; cases hat'
      | process batch rest =>
          cases batch with
          | nil =>
              rw [hat] at hstep
              cases hstep
              show (if s.io.events.done then Phase.exit else Phase.dispatch rest) ≠ _
              split <;> simp
          | cons m batch =>
              rw [hat] at hstep
              obtain ⟨s₁, -, hstep⟩ := bind_eq_ok.mp hstep
              cases hstep
              intro heq
              injection heq with heq
              exact List.cons_ne_self _ _ heq.symm
      | exit =>
          rw [hat] at hstep
          obtain ⟨s₁, -, hstep⟩ := bind_eq_ok.mp hstep
          cases hstep
          simp
      | finished => exact absurd hat hal.running

theorem Phase.after_short {done : Bool} {rest : List EventIter} (h : rest.length ≤ iterSize) :
    (Phase.after done rest).Short := by
  unfold Phase.after
  split
  · trivial
  · exact h

theorem Moves.short (h : Moves env s s' a) (hs : Standing env s) (hl : Led s) (hsh : s.phase.Short) :
    s'.phase.Short := by
  cases h with
  | idle hphase _ | dev hphase _ _ | signal hphase _ _ => rw [hphase]; exact hsh
  | @select r hat hphase _ =>
      rw [hphase]
      rcases snapshot_opens hs hl r with ⟨rest, heq, -, hlt⟩ | ⟨-, -, hle⟩
      · rw [heq]; exact hlt
      · exact hle
  | selectFailed _ hphase _ | unwatched _ hphase _ _ _ _ | watched _ hphase _ _ _ _ | scanned _ hphase _ _ _
  | roundDone _ hphase _ => rw [hphase]; trivial
  | looper hat hphase _ _ =>
      rw [hat] at hsh
      rw [hphase]
      exact ⟨List.length_take_le .., hsh⟩
  | hotplug hat hphase _ _ _ _ | gadget hat hphase _ _ _ | video hat hphase _ _ _ | capture hat hphase _ _ _ =>
      rw [hat] at hsh
      rw [hphase]
      exact Phase.after_short (Nat.le_of_succ_le hsh)
  | batchDone hat hphase _ =>
      rw [hat] at hsh
      rw [hphase]
      exact Phase.after_short (Nat.le_of_lt hsh.2)
  | handle hat hphase _ =>
      rw [hat] at hsh
      rw [hphase]
      exact ⟨Nat.le_of_succ_le hsh.1, hsh.2⟩

/-- What is pending stays so in its place, until a message is handled. -/
theorem Moves.keeps (h : Moves env s s' a)
    (hno : ∀ m batch rest, s.phase = .process (m :: batch) rest → s'.phase = s.phase) {j : Nat} {m : Message}
    (hm : s.pending[j]? = some m) : s'.pending[j]? = some m := by
  have hext : ∀ {P : Message → Prop} {w : Board}, s'.view.board = w → Extends P s.view.board w →
      s'.pending[j]? = some m := by
    rintro P w rfl ⟨ms, hms, -⟩
    rw [Sys.pending_eq] at hm ⊢
    rw [hms, List.getElem?_append_left (List.getElem?_eq_some_iff.mp hm).1]
    exact hm
  cases h with
  | idle _ hview | select _ _ hview | selectFailed _ _ hview | roundDone _ _ hview | batchDone _ _ hview =>
      rw [Sys.pending_eq, hview, ← Sys.pending_eq]
      exact hm
  | dev _ hview _ =>
      rw [Sys.pending_eq, hview]
      rw [Sys.pending_eq] at hm
      exact hm
  | signal _ hp hview => exact hext (congrArg View.board hview) (hp.extends (P := fun _ => True) trivial)
  | unwatched _ _ _ _ he hview | looper _ _ he hview | video _ _ _ he hview =>
      exact hext (congrArg View.board hview) (P := fun _ => True) he.extends
  | watched _ _ _ _ hw hview =>
      rw [Sys.pending_eq] at hm ⊢
      rw [hview]
      show _[j]? = _
      rw [hw.queue_eq]
      exact hm
  | scanned _ _ hms hp hview => exact hext (congrArg View.board hview) (hp.extends hms)
  | @hotplug fd rest records ms w _ _ hms hp hview _ =>
      have hq : Extends Hotplugged { s.view.board with records := records } w := hp.extends hms
      exact hext (congrArg View.board hview) hq
  | gadget _ _ _ hcall hview => exact hext (congrArg View.board hview) hcall.extends
  | capture _ _ _ hcall hview => exact hext (congrArg View.board hview) hcall.extends
  | handle hat hphase _ =>
      have hsame := hno _ _ _ hat
      rw [hphase, hat] at hsame
      injection hsame with hbatch _
      exact absurd hbatch.symm (List.cons_ne_self _ _)

/-! ## One step -/

theorem stepsToEnd_pos (j : Nat) : batchSize + 4 ≤ stepsToEnd j := Nat.le_add_left ..

theorem Phase.stepsToEnd_dispatch (j : Nat) (iter : List EventIter) :
    (Phase.dispatch iter).stepsToEnd j ≤ Uvcd.stepsToEnd j + iter.length + 1 := by
  unfold Phase.stepsToEnd
  dsimp only
  split
  · rw [List.length_cons]
    omega
  · exact Nat.le_refl _

theorem Phase.stepsToEnd_after {done : Bool} {rest : List EventIter} {j : Nat} :
    (Phase.after done rest).stepsToEnd j ≤ Uvcd.stepsToEnd j + rest.length + 1 := by
  unfold Phase.after
  split
  · show 1 ≤ _
    omega
  · exact Phase.stepsToEnd_dispatch j rest

/-- The looper reads the message, or a full batch of those in front of it. -/
theorem stepsToEnd_read {j : Nat} {queue : List Message} {m : Message} {rest : List EventIter}
    (hm : queue[j]? = some m) (hrest : rest.length < iterSize) :
    (Phase.process (queue.take batchSize) rest).stepsToEnd j + 1 ≤ stepsToEnd j - 1 := by
  have hj := (List.getElem?_eq_some_iff.mp hm).1
  have htake : (queue.take batchSize).length = min batchSize queue.length := List.length_take ..
  have hround : roundSteps = 2 + iterSize + (batchSize + 1) := rfl
  unfold Phase.stepsToEnd Uvcd.stepsToEnd
  dsimp only
  rw [htake]
  split
  · have hle : min batchSize queue.length ≤ batchSize := Nat.min_le_left ..
    omega
  · next hge =>
      have hbatch : min batchSize queue.length = batchSize := by omega
      rw [hbatch] at hge ⊢
      rw [Nat.div_eq_sub_div (by decide) (Nat.le_of_not_lt hge), Nat.succ_mul]
      omega

/-- What is no step of the daemon leaves it where it stands. -/
theorem still (hstep : step env a s = .ok s') (hacts : Acts a s = false) :
    s'.phase = s.phase ∧ s'.io.events = s.io.events := by
  cases a with
  | plug _ | unplug _ =>
      cases hstep
      exact ⟨rfl, rfl⟩
  | signal m =>
      cases hstep
      exact ⟨rfl, (posts_post (b := []) env s.io (.signal m)).events_eq⟩
  | select r =>
      have hat : s.phase ≠ .select := of_decide_eq_false hacts
      rw [step] at hstep
      split at hstep
      · next heq => exact absurd heq hat
      · cases hstep
        exact ⟨rfl, rfl⟩
  | selectFailed =>
      have hat : s.phase ≠ .select := of_decide_eq_false hacts
      rw [step] at hstep
      split at hstep
      · next heq => exact absurd heq hat
      · cases hstep
        exact ⟨rfl, rfl⟩
  | next =>
      have hat : s.phase = .select := Decidable.not_not.mp (of_decide_eq_false hacts)
      rw [step, next, hat] at hstep
      cases hstep
      exact ⟨rfl, rfl⟩

theorem Due.still {n : Nat} (h : Due s n) (hm : Moves env s s' a) (hphase : s'.phase = s.phase)
    (hevents : s'.io.events = s.io.events) : Due s' n := by
  cases h with
  | ended hat => exact .ended (hphase.trans hat)
  | leaving hat hn => exact .leaving (hphase.trans hat) hn
  | stopped hat hdone hn => exact .stopped (hphase.trans hat) ((congrArg Events.done hevents).trans hdone) hn
  | pending hat hn =>
      refine .pending (hm.keeps (fun _ _ _ _ => hphase) hat) ?_
      rw [hphase]
      exact hn

theorem Phase.stepsToEnd_other {t : EventIter} {rest : List EventIter} (ht : t.callback ≠ .looperProcess) (j : Nat) :
    (Phase.dispatch (t :: rest)).stepsToEnd j = Uvcd.stepsToEnd j + rest.length + 2 := by
  unfold Phase.stepsToEnd
  dsimp only
  split
  · next heq =>
      cases heq
      exact absurd rfl ht
  · rfl

/-- The message in front is handled. -/
theorem Due.handled {n j : Nat} {m : UInt32} {msg : Message} {batch : List Message} {rest : List EventIter}
    (hat : s.phase = .process (msg :: batch) rest) (hphase : s'.phase = .process batch rest)
    (hm : Handles env (SetFmtRefused env s msg) (s.viewOf batch) msg s'.view)
    (hsig : s.pending[j]? = some (.signal m)) (hn : s.phase.stepsToEnd j ≤ n) : Due s' (n - 1) := by
  rw [Sys.pending_eq, Sys.pending_process hat] at hsig
  rw [hat] at hn
  unfold Phase.stepsToEnd at hn
  dsimp only at hn
  rw [List.length_cons] at hn
  cases j with
  | zero =>
      cases hsig
      rw [if_pos (Nat.succ_pos _)] at hn
      refine .stopped hphase ?_ (by omega)
      generalize hv : s'.view = v at hm
      have hev : s'.io.events = v.board.events := congrArg (·.board.events) hv
      rw [hev]
      cases hm
      rfl
  | succ j =>
      obtain ⟨ms, hms, -⟩ := hm.extends
      have hsig : (s.viewOf batch).board.queue[j]? = some (.signal m) := hsig
      refine .pending (j := j) (m := m) ?_ ?_
      · rw [Sys.pending_eq, hms, List.getElem?_append_left (List.getElem?_eq_some_iff.mp hsig).1]
        exact hsig
      · rw [hphase]
        unfold Phase.stepsToEnd
        dsimp only
        split
        · next hlt =>
            rw [if_pos (by omega)] at hn
            omega
        · next hlt =>
            rw [if_neg (by omega), Nat.add_sub_add_right] at hn
            omega

/-- The daemon comes closer to a signal. -/
theorem Due.approached {n j : Nat} {m : UInt32} (hs : Standing env s)
    (hl : Leads (pipeWatch s.pipeFd) s.view.board) (hsh : s.phase.Short) (hready : PipeReady a s)
    (hm : Moves env s s' a) (hmoved : s'.phase ≠ s.phase) (hat : s.pending[j]? = some (.signal m))
    (hn : s.phase.stepsToEnd j ≤ n) : Due s' (n - 1) := by
  have hkeep : (∀ m batch rest, s.phase ≠ .process (m :: batch) rest) →
      s'.pending[j]? = some (.signal m) :=
    fun hno => hm.keeps (fun m batch rest heq => absurd heq (hno m batch rest)) hat
  have hpos := stepsToEnd_pos j
  have hqueue : s.phase.batch = [] → s.io.queue[j]? = some (.signal m) := fun hb => by
    rw [Sys.pending_eq, Sys.view_eq hb] at hat
    exact hat
  -- a callback, after which the round goes on
  have hcall : ∀ {t : EventIter} {rest : List EventIter} {done : Bool}, s.phase = .dispatch (t :: rest) →
      t.callback ≠ .looperProcess → s'.phase = .after done rest → Due s' (n - 1) := by
    intro t rest done hat' ht hphase
    rw [hat', Phase.stepsToEnd_other ht] at hn
    refine .pending (hkeep (by rw [hat']; simp)) ?_
    rw [hphase]
    exact Nat.le_trans Phase.stepsToEnd_after (by omega)
  cases hm with
  | idle hphase _ | dev hphase _ _ | signal hphase _ _ => exact absurd hphase hmoved
  | @select r hat' hphase hview =>
      rw [hat'] at hn
      have hne : s.io.queue ≠ [] := fun hnil => by
        have hq := hqueue (by rw [hat']; rfl)
        rw [hnil] at hq
        cases hq
      rcases snapshot_opens hs (.inl hl) r with ⟨rest, heq, -, -⟩ | ⟨hno, -, -⟩
      · refine .pending (hkeep (by rw [hat']; simp)) ?_
        rw [hphase, heq]
        exact Nat.sub_le_sub_right hn 1
      · rw [hready hne] at hno
        cases hno hl
  | selectFailed hat' hphase _ =>
      rw [hat'] at hn
      have hn : stepsToEnd j ≤ n := hn
      exact .leaving hphase (by omega)
  | unwatched hat' hphase _ _ _ _ | watched hat' hphase _ _ _ _ | scanned hat' hphase _ _ _
  | roundDone hat' hphase _ =>
      rw [hat'] at hn
      refine .pending (hkeep (by rw [hat']; simp)) ?_
      rw [hphase]
      exact Nat.le_sub_of_add_le hn
  | looper hat' hphase _ _ =>
      rw [hat'] at hn hsh
      refine .pending (hkeep (by rw [hat']; simp)) ?_
      rw [hphase]
      exact Nat.le_sub_of_add_le ((stepsToEnd_read (hqueue (by rw [hat']; rfl)) hsh).trans hn)
  | hotplug hat' hphase _ _ _ _ => exact hcall hat' (by simp) hphase
  | gadget hat' hphase _ _ _ => exact hcall hat' (by simp) hphase
  | video hat' hphase _ _ _ => exact hcall hat' (by simp) hphase
  | capture hat' hphase _ _ _ => exact hcall hat' (by simp) hphase
  | batchDone hat' hphase hview =>
      rw [hat'] at hn
      unfold Phase.stepsToEnd at hn
      dsimp only at hn
      rw [List.length_nil, if_neg (Nat.not_lt_zero _), Nat.sub_zero] at hn
      refine .pending (hkeep (by rw [hat']; simp)) ?_
      rw [hphase]
      exact Nat.le_trans Phase.stepsToEnd_after (by omega)
  | handle hat' hphase hm => exact .handled hat' hphase hm hat hn

/-- **Step lemma.** -/
theorem Due.step {n : Nat} (h : Due s n) (hal : s.Alive) (hs : Standing env s)
    (hl : Leads (pipeWatch s.pipeFd) s.view.board) (hsh : s.phase.Short) (hready : PipeReady a s)
    (hstep : step env a s = .ok s') (hm : Moves env s s' a) : Due s' (n - (Acts a s).toNat) := by
  cases hacts : Acts a s with
  | false =>
      obtain ⟨hphase, hevents⟩ := Uvcd.still hstep hacts
      exact h.still hm hphase hevents
  | true =>
      have hmoved := acts_moves hal hstep hacts
      show Due s' (n - 1)
      cases h with
      | ended hat => exact absurd hat hal.running
      | leaving hat hn =>
          cases hm with
          | idle hphase _ | dev hphase _ _ | signal hphase _ _ => exact absurd hphase hmoved
          | select hat' _ _ | selectFailed hat' _ _ | unwatched hat' _ _ _ _ _ | watched hat' _ _ _ _ _
          | scanned hat' _ _ _ _ | roundDone hat' _ _ | looper hat' _ _ _ | hotplug hat' _ _ _ _ _ | gadget hat' _ _ _ _
          | video hat' _ _ _ _ | capture hat' _ _ _ _ | batchDone hat' _ _ | handle hat' _ _ =>
              rw [hat] at hat'
              cases hat'
      | stopped hat hdone hn =>
          cases hm with
          | idle hphase _ | dev hphase _ _ | signal hphase _ _ => exact absurd hphase hmoved
          | batchDone hat' hphase hview =>
              have hdone' : s'.io.events.done = true := (congrArg (·.board.events.done) hview).trans hdone
              rw [hdone'] at hphase
              exact .leaving hphase (by omega)
          | handle hat' hphase hm =>
              rw [hat] at hat'
              cases hat'
              exact .stopped hphase (hm.done hdone) (by rw [List.length_cons] at hn; omega)
          | select hat' _ _ | selectFailed hat' _ _ | unwatched hat' _ _ _ _ _ | watched hat' _ _ _ _ _
          | scanned hat' _ _ _ _ | roundDone hat' _ _ | looper hat' _ _ _ | hotplug hat' _ _ _ _ _ | gadget hat' _ _ _ _
          | video hat' _ _ _ _ | capture hat' _ _ _ _ => rw [hat] at hat'; cases hat'
      | pending hat hn => exact .approached hs hl hsh hready hm hmoved hat hn

/-! ## Any run -/

/-- Whatever the daemon is at, the signal is not further away than the rounds of the messages in front of it and two. -/
theorem Phase.stepsToEnd_le {p : Phase} (h : p.Short) (j : Nat) :
    p.stepsToEnd j ≤ (j / batchSize + 2) * roundSteps := by
  have hround : roundSteps = 29 := rfl
  have hbatch : batchSize = 16 := rfl
  have hiter : iterSize = 10 := rfl
  have hsteps : ∀ j, Uvcd.stepsToEnd j = j / 16 * 29 + 20 := fun _ => rfl
  rw [hround, hbatch]
  cases p with
  | start | inited | select =>
      unfold Phase.stepsToEnd
      dsimp only
      rw [hsteps]
      omega
  | dispatch iter =>
      have hle := Phase.stepsToEnd_dispatch j iter
      have hlen : iter.length ≤ iterSize := h
      rw [hsteps] at hle
      omega
  | process batch rest =>
      obtain ⟨hlen, hrest⟩ := h
      unfold Phase.stepsToEnd
      dsimp only
      rw [hsteps]
      split <;> omega
  | exit =>
      show 1 ≤ _
      omega
  | finished => exact Nat.zero_le _

theorem Due.finished (h : Due s 0) : s.phase = .finished := by
  cases h with
  | ended hat => exact hat
  | leaving _ hn => cases hn
  | stopped _ _ hn => cases hn
  | @pending j _ _ hn =>
      have hpos := stepsToEnd_pos j
      cases hp : s.phase with
      | finished => rfl
      | dispatch iter =>
          rw [hp] at hn
          unfold Phase.stepsToEnd at hn
          dsimp only at hn
          split at hn <;> omega
      | process batch rest =>
          rw [hp] at hn
          unfold Phase.stepsToEnd at hn
          dsimp only at hn
          split at hn <;> omega
      | start | inited | select | exit =>
          rw [hp] at hn
          unfold Phase.stepsToEnd at hn
          dsimp only at hn
          omega

theorem boot_leads {nodes : List DevName} {inforce : Nat → PixFormat}
    (h : (boot env nodes inforce).io.events.events ≠ []) :
    Leads (pipeWatch (boot env nodes inforce).pipeFd) (boot env nodes inforce).view.board := by
  unfold boot Io.watch at h ⊢
  dsimp only at h ⊢
  split
  · exact ⟨[], rfl⟩
  · next hno =>
      rw [if_neg hno] at h
      exact absurd rfl h

/-- The daemon on its way to the end. -/
structure Sys.Ending (env : Env) (s : Sys) (n : Nat) : Prop where
  standing : Standing env s
  leads : Leads (pipeWatch s.pipeFd) s.view.board
  short : s.phase.Short
  due : Due s n

/-- **A signal ends the daemon.** Once a signal is the `j`-th message pending, `main` returns within `j / 16 + 2` rounds
    of at most 29 steps each, in every run that goes through: whatever drivers answer and sends fail, whatever nodes
    come and go and whatever other messages are sent meanwhile. -/
theorem shutdown_after_signal {nodes : List DevName} {inforce : Nat → PixFormat} {as bs : List Action} {j : Nat}
    {m : UInt32} (hlistens : (boot env nodes inforce).io.events.events ≠ [])
    (hrun : run env as (boot env nodes inforce) = .ok s) (hsig : s.pending[j]? = some (.signal m))
    (hready : Along (step env) PipeReady bs s) (hrun' : run env bs s = .ok s')
    (hbusy : (j / batchSize + 2) * roundSteps ≤ busy (step env) Acts bs s) : s'.phase = .finished := by
  have hs := run_moves_inv_or (C := fun _ _ => True)
    (I := fun s => Standing env s ∧ Leads (pipeWatch s.pipeFd) s.view.board ∧ s.phase.Short)
    (fun a s s' _ _ hI _ hm => ⟨hm.standing hI.1, by rw [hm.pipeFd]; exact hm.leads hI.1 hI.2.1,
      hm.short hI.1 (.inl hI.2.1) hI.2.2⟩)
    ⟨boot_standing env nodes inforce, boot_leads hlistens, trivial⟩ (along_true as _) hrun
  have hend := run_spends (P := Acts) (I := fun s n => s.Over ∨ (s.Alive ∧ s.Ending env n))
    (fun a s t n h hC hstep => ?_) (n := (j / batchSize + 2) * roundSteps)
    (hs.imp_right fun h => ⟨h.1, h.2.1, h.2.2.1, h.2.2.2, .pending hsig (Phase.stepsToEnd_le h.2.2.2 j)⟩) hready hrun'
  · rw [Nat.sub_eq_zero_of_le hbusy] at hend
    rcases hend with hover | ⟨hal, hend⟩
    · exact hover.phase
    · exact hend.due.finished
  · rcases h with hover | ⟨hal, h⟩
    · exact .inl (hover.step hstep)
    · refine (step_moves hal hstep).imp And.right fun ⟨hal', hm⟩ => ⟨hal', hm.standing h.standing, ?_,
        hm.short h.standing (.inl h.leads) h.short, h.due.step hal h.standing h.leads h.short hC hstep hm⟩
      rw [hm.pipeFd]
      exact hm.leads h.standing h.leads

/-- The signal comes behind a frame, and more frames come behind it. -/
def signalBehindFrame : List Action := streamUp ++ turn [7] 2 ++ [.signal 2]
def framesBehindSignal : List Action := turn [3, 6, 7] 12 ++ List.replicate 46 .next

theorem shutdown_after_signal_streaming :
    ∃ s s', run (bench 900) signalBehindFrame (benchBoot 900) = .ok s ∧
      s.pending.map (·.what) = [.videoFrameAvailable, .signal] ∧ run (bench 900) framesBehindSignal s = .ok s' ∧
      s'.phase = .finished := by
  obtain ⟨s, hrun, hwhat, hsig, hready, hbusy, s', hrun', -⟩ :
      ∃ s, run (bench 900) signalBehindFrame (benchBoot 900) = .ok s ∧
        s.pending.map (·.what) = [.videoFrameAvailable, .signal] ∧ s.pending[1]? = some (.signal 2) ∧
        Along (step (bench 900)) PipeReady framesBehindSignal s ∧
        (1 / batchSize + 2) * roundSteps ≤ busy (step (bench 900)) Acts framesBehindSignal s ∧
        ∃ s', run (bench 900) framesBehindSignal s = .ok s' ∧ s'.gadgets.length = 0 := by
    decide +kernel
  exact ⟨s, s', hrun, hwhat, hrun', shutdown_after_signal (by decide) hrun hsig hready hrun' hbusy⟩

end Uvcd
