import Uvcd.Refinement.Notes

/-!
# `Correctness.Payloads` — the heap payloads of the messages

A payload belongs to its sender until the send, to the queue after it, and to `looper_process` once its message is
handled. All three free nothing of their own accord: the senders ignore a failed send, and `looper_cleanup` closes
a pipe that may still hold messages. So in a run that ends every payload is freed exactly once if and only if no
send fails and nothing is queued when the loop stops (`payloads_freed_iff`). Whatever happens, no message is
handled whose payload is freed.
-/

namespace Uvcd

open Machine Split

variable {env : Env} {s s' : Sys} {a : Action} {ms : List Message} {ls : List Nat}

/-- The payloads somebody is still going to free. -/
def Sys.inFlight (s : Sys) : List Nat :=
  match s.phase with
  | .finished => []
  | _ => s.pending.filterMap Message.heap

/-- Every payload allocated so far has been freed exactly once, and nothing else has. -/
def Sys.FreedOnce (s : Sys) : Prop := s.io.allocs.Perm s.io.frees ∧ s.io.frees.Nodup

/-- The message about to be handled has the payload it came with. -/
def Sys.PayloadLive (s : Sys) : Prop :=
  ∀ m batch rest, s.phase = .process (m :: batch) rest → ∀ p, m.heap = some p → p ∈ s.io.allocs ∧ p ∉ s.io.frees

/-- There is room for each message that the next step sends with a payload, and none is left in the pipe when the
    loop has stopped. -/
def Delivers (env : Env) (s : Sys) : Prop :=
  match s.phase with
  | .inited => ScanFits env s.io.tick.tick
  | .dispatch (⟨_, .hotplugProcess, .looper⟩ :: _) => ProcessFits env s.io
  | .dispatch (⟨_, .uvcGadgetProcess, .gadget addr⟩ :: _) =>
    ∀ pre g post, SplitsAt (·.addr = addr) s.gadgets pre g post → CallFits env s.io g
  | .exit => ∀ m ∈ s.io.queue, m.heap = none
  | _ => True

def StepDelivers (env : Env) (a : Action) (s : Sys) : Prop := a = .next → Delivers env s

/-! ## What a step does to the payloads -/

/-- A step mints the payloads it allocates and hands on what is in flight; `ls` are lost. -/
structure Accounts (s s' : Sys) (ls : List Nat) : Prop where
  brk : s.io.brk ≤ s'.io.brk
  flow : ∃ ps fs, s'.io.allocs = s.io.allocs ++ ps ∧ s'.io.frees = s.io.frees ++ fs ∧ ps.Nodup ∧
    (∀ p ∈ ps, s.io.brk ≤ p ∧ p < s'.io.brk) ∧ (ps ++ s.inFlight).Perm (fs ++ s'.inFlight ++ ls)

theorem Sys.inFlight_running (h : s.phase ≠ .finished) :
    s.inFlight = (s.phase.batch ++ s.io.queue).filterMap Message.heap := by
  unfold Sys.inFlight Sys.pending Phase.batch
  cases hat : s.phase with
  | finished => exact absurd hat h
  | start | inited | select | dispatch | process | exit => rfl

theorem Sys.inFlight_finished (h : s.phase = .finished) : s.inFlight = [] := by
  unfold Sys.inFlight
  rw [h]

/-- What stays in flight, and what is sent. -/
theorem Books.accounts (h : Books ms ls s.io s'.io) (hflow : s'.inFlight = s.inFlight ++ ms.filterMap Message.heap) :
    Accounts s s' ls := by
  obtain ⟨ps, fs, hl, hp⟩ := h
  refine ⟨hl.brk, ps, fs, hl.allocs, hl.frees, hl.nodup, hl.fresh, List.perm_iff_count.mpr fun a => ?_⟩
  have hcount := hp.count_eq a
  rw [hflow]
  simp only [List.count_append] at hcount ⊢
  omega

/-- Nothing happens to any payload. -/
theorem accounts_quiet (hbrk : s'.io.brk = s.io.brk) (ha : s'.io.allocs = s.io.allocs) (hf : s'.io.frees = s.io.frees)
    (hflow : s'.inFlight = s.inFlight) : Accounts s s' [] := by
  refine ⟨Nat.le_of_eq hbrk.symm, [], [], ?_, ?_, List.nodup_nil, fun p hp => (by cases hp), ?_⟩
  · rw [ha, List.append_nil]
  · rw [hf, List.append_nil]
  · rw [hflow, List.append_nil]

theorem Books.accounts_running (h : Books ms ls s.io s'.io) (hrun : s.phase ≠ .finished)
    (hrun' : s'.phase ≠ .finished) (hbatch : s'.phase.batch = s.phase.batch) : Accounts s s' ls := by
  refine h.accounts ?_
  obtain ⟨ps, fs, hl, -⟩ := h
  rw [Sys.inFlight_running hrun, Sys.inFlight_running hrun', hbatch, hl.queue, ← List.append_assoc,
    List.filterMap_append]

/-- A callback in the round. -/
theorem Books.accounts_after {t : Sys} {rest : List EventIter} (h : Books ms ls s.io t.io) (hrun : s.phase ≠ .finished)
    (hbatch : s.phase.batch = []) : Accounts s (afterCall t rest) ls := by
  have hb : Books ms ls s.io (afterCall t rest).io := h
  refine hb.accounts_running hrun (Phase.after_running _ _).2.2 ?_
  rw [hbatch]
  exact Phase.after_batch _ _

theorem delivers_idle (h : s.phase.Idle) : Delivers env s := by
  unfold Delivers
  cases hat : s.phase with
  | select | start | finished | process => trivial
  | inited => rw [hat] at h; exact h.elim
  | exit => rw [hat] at h; exact h.elim
  | dispatch iter =>
      rw [hat] at h
      cases iter with
      | nil => trivial
      | cons t rest => exact h.elim

/-- **What a step does to the payloads**: none is lost if and only if the step delivers. -/
theorem Does.accounts (hst : s.Stands) (h : Does env s a s') :
    ∃ ls, Accounts s s' ls ∧ (ls = [] ↔ StepDelivers env a s) := by
  have hgood : ∀ {s' : Sys}, Accounts s s' [] → StepDelivers env a s →
      ∃ ls, Accounts s s' ls ∧ (ls = [] ↔ StepDelivers env a s) := fun hacc hd => ⟨[], hacc, iff_of_true rfl hd⟩
  have hkept : ∀ {io : Io}, Silent s.io io → Accounts s { s with io := io } [] := by
    intro io hsilent
    refine hsilent.books.accounts ?_
    unfold Sys.inFlight Sys.pending
    rw [hsilent.queue, List.append_nil, List.filterMap_nil, List.append_nil]
  have hnext : ∀ {P : Prop}, (Delivers env s ↔ P) → (P ↔ StepDelivers env .next s) := fun h =>
    h.symm.trans ⟨fun hd _ => hd, fun hd => hd rfl⟩
  cases h with
  | turn hbatch hearly hover hidle =>
      rename_i phase
      refine hgood (accounts_quiet rfl rfl rfl ?_) fun hn => delivers_idle (hidle hn)
      by_cases hfin : s.phase = .finished
      · rw [Sys.inFlight_finished hfin, Sys.inFlight_finished (hover.mpr hfin)]
      · have hrun : phase ≠ .finished := fun h => hfin (hover.mp h)
        rw [Sys.inFlight_running hfin, Sys.inFlight_running hrun, hbatch]
  | plug name => exact hgood (hkept (silent_kernel _ _)) nofun
  | unplug name => exact hgood (hkept (silent_kernel _ _)) nofun
  | signal n =>
      refine hgood ?_ nofun
      have hl := logs_post env s.io (.signal n)
      have hnone : ∀ m ∈ (if env.write s.io.kernel.tick (.signal n) then [Message.signal n] else []),
          m.heap = none := fun m hm => by
        split at hm
        · rw [List.mem_singleton.mp hm]; rfl
        · cases hm
      have hb : Books _ [] s.io ({ s with io := s.io.post env (.signal n) } : Sys).io := hl.books hnone
      by_cases hfin : s.phase = .finished
      · refine hb.accounts ?_
        rw [List.filterMap_eq_nil_iff.mpr hnone, List.append_nil, Sys.inFlight_finished hfin]
        exact Sys.inFlight_finished hfin
      · exact hb.accounts_running hfin hfin rfl
  | init hat =>
      refine hgood ?_ fun _ => by unfold Delivers; rw [hat]; trivial
      exact (hotplugInit_silent s.io).books.accounts_running (by rw [hat]; simp) (by simp) (by rw [hat]; rfl)
  | scan hat =>
      obtain ⟨ms, ls, hb, -, hls⟩ := @hotplugScan_books env s.io.tick.tick
      refine ⟨ls, ?_, hls.trans (hnext (by unfold Delivers; rw [hat]))⟩
      have hb' := hb.after (silent_kernel s.io s.io.kernel.ask.ask)
      exact hb'.accounts_running (by rw [hat]; simp) (by simp) (by rw [hat]; rfl)
  | looper hat =>
      rename_i fd rest
      refine hgood (accounts_quiet rfl rfl rfl ?_) fun _ => by unfold Delivers; rw [hat]; trivial
      have hrun : s.phase ≠ .finished := by rw [hat]; simp
      rw [Sys.inFlight_running hrun, Sys.inFlight_running (by simp), hat]
      show (List.take batchSize s.io.queue ++ List.drop batchSize s.io.queue).filterMap _ = _
      rw [List.take_append_drop]
      rfl
  | hotplug hat =>
      obtain ⟨ms, ls, hb, -, hls⟩ := @hotplugProcess_books env s.io
      refine ⟨ls, ?_, hls.trans (hnext (by unfold Delivers; rw [hat]))⟩
      exact hb.accounts_after (by rw [hat]; simp) (by rw [hat]; rfl)
  | gadget hat hs hcall =>
      obtain ⟨ms, ls, hb, hls⟩ := hcall.books
      refine ⟨ls, hb.accounts_after (by rw [hat]; simp) (by rw [hat]; rfl), hls.trans (hnext ?_)⟩
      unfold Delivers
      rw [hat]
      constructor
      · intro h; exact h _ _ _ hs
      · intro h pre g post hs'
        obtain ⟨-, rfl, -⟩ := hs.unique hs'
        exact h
  | video hat hs hcall =>
      refine hgood ?_ fun _ => by unfold Delivers; rw [hat]; trivial
      rename_i io
      have hsilent : Silent s.io io := by
        rw [(uvcVideoProcess_only hcall).2]
        exact silent_kernel s.io io.kernel
      exact hsilent.books.accounts_after (by rw [hat]; simp) (by rw [hat]; rfl)
  | capture hat hs hcall =>
      refine hgood ?_ fun _ => by unfold Delivers; rw [hat]; trivial
      obtain ⟨-, -, -, ms, hms, hl⟩ := captureProcess_turns hcall
      have hb := hl.books fun m hm => by obtain ⟨id, p, rfl⟩ := hms m hm; rfl
      exact hb.accounts_after (by rw [hat]; simp) (by rw [hat]; rfl)
  | handle hat hm hserve =>
      rename_i m batch rest s₁
      refine hgood ?_ fun _ => by unfold Delivers; rw [hat]; trivial
      obtain ⟨ms, ps, fs, hl, hp⟩ := hserve.books
      have hl' := hl.trans (logs_settle s₁.io m)
      rw [List.append_nil] at hp
      refine ⟨hl'.brk, _, _, hl'.allocs, hl'.frees, hl'.nodup, hl'.fresh, ?_⟩
      have hrun : s.phase ≠ .finished := by rw [hat]; simp
      rw [Sys.inFlight_running hrun, Sys.inFlight_running (by simp), hat]
      show (_ ++ (m :: batch ++ s.io.queue).filterMap _).Perm (_ ++ (batch ++ (s₁.io.settle m).queue).filterMap _ ++ _)
      rw [hl'.queue]
      -- the payload of the message goes from those in flight to those freed
      refine List.perm_iff_count.mpr fun x => ?_
      have hcount := hp.count_eq x
      have hm : (m :: batch).filterMap Message.heap = m.heap.toList ++ batch.filterMap Message.heap := by
        rw [List.filterMap_cons]
        cases m.heap <;> rfl
      simp only [List.filterMap_append, List.count_append, List.append_nil, hm] at hcount ⊢
      omega
  | cleanup hat h =>
      rename_i s₁
      obtain ⟨ms, hl, hsub, -⟩ := looperCleanup_quiets (hst.alive (by rw [hat]; simp)).fit.staffed h
      refine ⟨s.io.queue.filterMap Message.heap, ?_, ?_⟩
      · refine ⟨hl.brk, [], [], hl.allocs, hl.frees, List.nodup_nil, fun p hp => (by cases hp), ?_⟩
        have hrun : s.phase ≠ .finished := by rw [hat]; simp
        rw [Sys.inFlight_running hrun, Sys.inFlight_finished rfl, hat]
        exact .refl _
      · refine Iff.trans ?_ (hnext (by unfold Delivers; rw [hat]))
        rw [List.filterMap_eq_nil_iff]

/-! ## The ledger of a run -/

/-- The payloads are accounted for, and lie below the break. -/
structure Sys.Accounted (s : Sys) (lost : List Nat) : Prop where
  balanced : Ledger.Balanced s.io.allocs s.io.frees s.inFlight lost
  below : ∀ p ∈ s.io.allocs, p < s.io.brk

theorem Accounts.step {lost : List Nat} (h : Accounts s s' ls) (hacc : s.Accounted lost) :
    s'.Accounted (lost ++ ls) := by
  obtain ⟨ps, fs, ha, hf, hnd, hfresh, hflow⟩ := h.flow
  refine ⟨?_, fun p hp => ?_⟩
  · rw [ha, hf]
    refine hacc.balanced.step hnd (fun p hp hold => ?_) hflow
    -- what is minted lies above all that was
    have hnew := (hfresh p hp).1
    have hlt := hacc.below p hold
    omega
  · rw [ha] at hp
    have hbrk := h.brk
    rcases List.mem_append.mp hp with hold | hnew
    · have hlt := hacc.below p hold
      omega
    · exact (hfresh p hnew).2

/-- What a run loses. -/
theorem run_accounted {as : List Action} : ∀ {s : Sys} {lost : List Nat}, s.Stands → s.Accounted lost →
    run env as s = .ok s' → ∃ ls, s'.Accounted (lost ++ ls) ∧ (ls = [] ↔ Along (step env) (StepDelivers env) as s) := by
  induction as with
  | nil =>
      intro s lost _ hacc h
      cases h
      exact ⟨[], by rwa [List.append_nil], iff_of_true rfl trivial⟩
  | cons a as ih =>
      intro s lost hst hacc h
      obtain ⟨t, ht, hrest⟩ := run_cons_ok.mp h
      obtain ⟨ls, hstep, hls⟩ := (step_does hst ht).accounts hst
      obtain ⟨ls', hacc', hls'⟩ := ih (hst.step ht) (hstep.step hacc) hrest
      refine ⟨ls ++ ls', by rwa [← List.append_assoc], ?_⟩
      rw [List.append_eq_nil_iff, hls, hls']
      constructor
      · rintro ⟨hnow, hlater⟩
        refine ⟨hnow, fun u hu => ?_⟩
        rw [ht] at hu
        cases hu
        exact hlater
      · rintro ⟨hnow, hlater⟩
        exact ⟨hnow, hlater t ht⟩

theorem boot_accounted (env : Env) (nodes : List DevName) (inforce : Nat → PixFormat) :
    (boot env nodes inforce).Accounted [] := by
  have hwatch := silent_watch env ⟨((Kernel.openFd ⟨0, stdFds, inforce, nodes, [], false, []⟩).2.openFd).2, eventsInit,
    [], 0, [], [], [], [], []⟩ (Kernel.openFd ⟨0, stdFds, inforce, nodes, [], false, []⟩).1 .read .looperProcess .looper
  have ha : (boot env nodes inforce).io.allocs = [] := hwatch.allocs
  have hf : (boot env nodes inforce).io.frees = [] := hwatch.frees
  have hq : (boot env nodes inforce).io.queue = [] := hwatch.queue
  have hflight : (boot env nodes inforce).inFlight = [] := by
    rw [Sys.inFlight_running (by simp [boot]), hq]
    rfl
  refine ⟨?_, ?_⟩
  · rw [ha, hf, hflight]
    exact .empty
  · rw [ha]
    exact fun p hp => by cases hp

theorem Sys.Accounted.live {lost : List Nat} (h : s.Accounted lost) : s.PayloadLive := by
  intro m batch rest hat p hp
  have hheld : p ∈ s.inFlight := by
    rw [Sys.inFlight_running (by rw [hat]; simp), hat]
    exact List.mem_filterMap.mpr ⟨m, List.mem_cons_self, hp⟩
  refine ⟨h.balanced.perm.mem_iff.mpr ?_, h.balanced.held_unspent hheld⟩
  exact List.mem_append_left _ (List.mem_append_right _ hheld)

/-- **No payload is used once it is freed**, on any run. -/
theorem payloads_live (env : Env) (nodes : List DevName) (inforce : Nat → PixFormat) (as : List Action) :
    Throughout (step env) Sys.PayloadLive as (boot env nodes inforce) := by
  intro bs t _ ht
  obtain ⟨ls, hacc, -⟩ := run_accounted (.inr (boot_alive env nodes inforce)) (boot_accounted env nodes inforce) ht
  exact hacc.live

/-- **Every payload is freed exactly once** in a run that ends, and none is used once it is freed, exactly when
    each step of the run delivers. -/
theorem payloads_freed_iff {nodes : List DevName} {inforce : Nat → PixFormat} {as : List Action}
    (h : run env as (boot env nodes inforce) = .ok s) (hend : s.phase = .finished) :
    (s.FreedOnce ∧ Throughout (step env) Sys.PayloadLive as (boot env nodes inforce)) ↔
      Along (step env) (StepDelivers env) as (boot env nodes inforce) := by
  obtain ⟨ls, hacc, hls⟩ :=
    run_accounted (.inr (boot_alive env nodes inforce)) (boot_accounted env nodes inforce) h
  rw [← hls, and_iff_left (payloads_live env nodes inforce as)]
  refine hacc.balanced.spent_once_iff.trans ?_
  rw [Sys.inFlight_finished hend, List.nil_append]
  exact and_iff_right rfl

/-- Both devices of the bench attach and stream, then a signal ends the loop. -/
theorem payloads_freed_streaming :
    ∃ s, run (bench 900) (streamUp ++ .signal 15 :: turn [3] 6) (benchBoot 900) = .ok s ∧ s.phase = .finished ∧
      s.io.allocs.length = 3 ∧ s.FreedOnce ∧
      Along (step (bench 900)) (StepDelivers (bench 900)) (streamUp ++ .signal 15 :: turn [3] 6) (benchBoot 900) := by
  obtain ⟨s, h, hend, hlen, hperm, hnd⟩ : ∃ s, run (bench 900) (streamUp ++ .signal 15 :: turn [3] 6) (benchBoot 900) =
      .ok s ∧ s.phase = .finished ∧ s.io.allocs.length = 3 ∧ s.io.allocs.Perm s.io.frees ∧ s.io.frees.Nodup := by
    decide +kernel
  exact ⟨s, h, hend, hlen, ⟨hperm, hnd⟩, (payloads_freed_iff h hend).mp ⟨⟨hperm, hnd⟩, payloads_live _ _ _ _⟩⟩

/-- The pipe has room for signals only. -/
def fullPipe : Env := { Env.obliging [] [] with write := fun _ m => decide (m.what = .signal) }

/-- A signal comes before `hotplug_scan` finds these nodes. -/
def signalledScan : List Action := [.signal 15, .next, .next] ++ turn [3] 19

/-- The payload of a message is not freed when the pipe is full, nor when it is queued behind the first sixteen
    messages, of which one ends the loop. -/
theorem leaked_payloads :
    (∃ s, run fullPipe signalledScan (boot fullPipe [videoName 0] fun _ => .zero) = .ok s ∧ s.phase = .finished ∧
      ¬s.FreedOnce) ∧
    ∃ s, run (Env.obliging [] []) signalledScan
      (boot (Env.obliging [] []) ((List.range 16).map videoName) fun _ => .zero) = .ok s ∧ s.phase = .finished ∧
      ¬s.FreedOnce := by
  have hleak : ∀ {s : Sys}, s.io.allocs.length ≠ s.io.frees.length → ¬s.FreedOnce :=
    fun hne hfreed => hne hfreed.1.length_eq
  constructor
  · obtain ⟨s, h, hend, hne⟩ : ∃ s, run fullPipe signalledScan (boot fullPipe [videoName 0] fun _ => .zero) = .ok s ∧
        s.phase = .finished ∧ s.io.allocs.length ≠ s.io.frees.length := by
      decide +kernel
    exact ⟨s, h, hend, hleak hne⟩
  · obtain ⟨s, h, hend, hne⟩ : ∃ s, run (Env.obliging [] []) signalledScan
        (boot (Env.obliging [] []) ((List.range 16).map videoName) fun _ => .zero) = .ok s ∧ s.phase = .finished ∧
        s.io.allocs.length ≠ s.io.frees.length := by
      decide +kernel
    exact ⟨s, h, hend, hleak hne⟩

end Uvcd
