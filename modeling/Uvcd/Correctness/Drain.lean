import Uvcd.Refinement.Returns

/-!
# `Correctness.Drain` — the queue of messages runs empty

Handlers post to the queue that is being drained. Left alone, `looper_process` empties it all the same
(`queue_drains`): what is posted for a message is never answered in turn, so each message costs at most what it
weighs. What may come in between is a fault of a handler: the queue is emptied exactly when each handler is safe in the
state it is called in. It is not on the way to `unplugged_undrained`.
-/

namespace Uvcd

open Machine Split Worklist

variable {env : Env} {s s' : Sys} {m : Message}

/-! ## One call of `looper_process` -/

/-- `looper_process` as one call, with the number of messages it handles. -/
def looperProcess (env : Env) (s : Sys) : Except Fault (Nat × Sys) := do
  let batch := s.io.queue.take batchSize
  let s ← batch.foldlM (looperHandle env) { s with io := { s.io.tick with queue := s.io.queue.drop batchSize } }
  .ok (batch.length, s)

/-- The same, with the machine standing at `phase`. -/
def Sys.at (phase : Phase) (s : Sys) : Sys := { s with phase := phase }

/-- The handlers do not look at where the machine stands. -/
theorem uvcHandleMessage_at (phase : Phase) (s : Sys) (m : Message) :
    uvcHandleMessage env (s.at phase) m = (uvcHandleMessage env s m).map fun r => (r.1, r.2.at phase) := by
  unfold uvcHandleMessage
  split
  · rfl
  · next name _ _ =>
      show (uvcGadgetDetach env s.io s.gadgets name >>= _) = _
      cases uvcGadgetDetach env s.io s.gadgets name <;> rfl
  · next p _ _ =>
      show (uvcGadgetFillBuffer env s.io s.gadgets m.wParam (resolveFrame s.captures p) >>= _) = _
      cases uvcGadgetFillBuffer env s.io s.gadgets m.wParam (resolveFrame s.captures p) <;> rfl
  · rfl
  · rfl
  · rfl
  · show (uvcGadgetTerminate env s.gadgets s.io >>= _) = _
    cases uvcGadgetTerminate env s.gadgets s.io <;> rfl
  · rfl

theorem captureHandleMessage_at (phase : Phase) (s : Sys) (m : Message) :
    captureHandleMessage env (s.at phase) m = (captureHandleMessage env s m).map fun r => (r.1, r.2.at phase) := by
  unfold captureHandleMessage
  split
  · rfl
  · next name _ _ =>
      show (v4lCaptureDetach env s.io s.captures name >>= _) = _
      cases v4lCaptureDetach env s.io s.captures name <;> rfl
  · rfl
  · rfl
  · rfl
  · rfl
  · show (v4lCaptureStream env s.io s.captures m.wParam true >>= _) = _
    cases v4lCaptureStream env s.io s.captures m.wParam true <;> rfl
  · show (v4lCaptureStream env s.io s.captures m.wParam false >>= _) = _
    cases v4lCaptureStream env s.io s.captures m.wParam false <;> rfl
  · show (v4lCaptureDetachGadget env s.io s.captures m.wParam >>= _) = _
    cases v4lCaptureDetachGadget env s.io s.captures m.wParam <;> rfl
  · show (v4lCaptureTerminate env s.captures s.io >>= _) = _
    cases v4lCaptureTerminate env s.captures s.io <;> rfl
  · rfl

theorem looperDispatch_at (phase : Phase) (m : Message) (hs : List Handler) : ∀ s : Sys,
    looperDispatch env m hs (s.at phase) = (looperDispatch env m hs s).map (Sys.at phase) := by
  induction hs with
  | nil => intro s; rfl
  | cons x hs ih =>
      intro s
      have hx : handleMessage env x (s.at phase) m = (handleMessage env x s m).map fun r => (r.1, r.2.at phase) := by
        cases x with
        | uvc => exact uvcHandleMessage_at phase s m
        | capture => exact captureHandleMessage_at phase s m
      rw [looperDispatch, looperDispatch, hx]
      cases handleMessage env x s m with
      | error e => rfl
      | ok r =>
          show (if r.1 = 1 then .ok (r.2.at phase) else looperDispatch env m hs (r.2.at phase)) =
            Except.map (Sys.at phase) (if r.1 = 1 then .ok r.2 else looperDispatch env m hs r.2)
          split
          · rfl
          · exact ih r.2

theorem looperHandle_at (phase : Phase) (s : Sys) (m : Message) :
    looperHandle env (s.at phase) m = (looperHandle env s m).map (Sys.at phase) := by
  unfold looperHandle
  have hd := @looperDispatch_at env phase m s.handlers s
  show (looperDispatch env m s.handlers (s.at phase) >>= _) = _
  rw [hd]
  cases looperDispatch env m s.handlers s with
  | error e => rfl
  | ok s₁ =>
      simp only [Except.map, ok_bind]
      by_cases hw : m.what = .signal
      · simp only [if_pos hw]
        split <;> rfl
      · simp only [if_neg hw]
        split <;> rfl

/-- The machine handles the messages of a batch one after the other. -/
theorem batch_run (rest : List EventIter) (batch : List Message) : ∀ s : Sys,
    run env (List.replicate batch.length .next) (s.at (.process batch rest)) =
      (batch.foldlM (looperHandle env) s).map (Sys.at (.process [] rest)) := by
  induction batch with
  | nil => intro s; rfl
  | cons m batch ih =>
      intro s
      have hstep : step env .next (s.at (.process (m :: batch) rest)) =
          (looperHandle env s m).map (Sys.at (.process batch rest)) := by
        show (looperHandle env (s.at (.process (m :: batch) rest)) m >>= _) = _
        rw [looperHandle_at]
        cases looperHandle env s m <;> rfl
      rw [List.length_cons, List.replicate_succ, List.foldlM_cons]
      show (step env .next _ >>= run env _) = _
      rw [hstep]
      cases looperHandle env s m with
      | error e => rfl
      | ok s₁ => exact ih s₁

/-- **`looper_process` is what the machine does** from its callback on until the batch is handled. -/
theorem looperProcess_run {fd : Nat} {rest : List EventIter} (s : Sys) :
    run env (List.replicate ((s.io.queue.take batchSize).length + 1) .next)
        (s.at (.dispatch (⟨fd, .looperProcess, .looper⟩ :: rest))) =
      (looperProcess env s).map fun r => r.2.at (.process [] rest) := by
  rw [List.replicate_succ]
  show run env _ (({ s with io := { s.io.tick with queue := s.io.queue.drop batchSize } } : Sys).at
    (.process (s.io.queue.take batchSize) rest)) = _
  rw [batch_run]
  unfold looperProcess
  dsimp only
  cases (s.io.queue.take batchSize).foldlM (looperHandle env)
    { s with io := { s.io.tick with queue := s.io.queue.drop batchSize } } <;> rfl

/-! ## Draining -/

/-- `looper_process` again and again, at most `fuel` times, until the queue is empty; with the number of messages
    handled. -/
def drainQueue (env : Env) : Nat → Sys → Except Fault (Nat × Sys) := drain (·.io.queue) (looperProcess env)

theorem looperProcess_lowers {n : Nat} (hq : ∀ m ∈ s.io.queue, m.what ≠ .terminate) (hne : s.io.queue ≠ [])
    (h : looperProcess env s = .ok (n, s')) :
    Lowers (·.io.queue) (looperProcess env) (·.what ≠ .terminate) Message.weight s n s' := by
  obtain ⟨s₁, hb, h⟩ := bind_eq_ok.mp h
  cases h
  have htake : ∀ m ∈ s.io.queue.take batchSize, m.what ≠ .terminate := fun m hm => hq m (List.mem_of_mem_take hm)
  obtain ⟨ms, hms, hok, hle⟩ := (looperHandle_lightens env).batch _ htake hb
  have hsplit := congrArg (total Message.weight) (List.take_append_drop batchSize s.io.queue)
  rw [total_append] at hsplit
  refine ⟨?_, ?_, ?_⟩
  · exact List.length_pos_iff.mpr fun h => hne (by simpa [batchSize] using h)
  · intro m hm
    rw [hms] at hm
    exact (List.mem_append.mp hm).elim (fun h => hq m (List.mem_of_mem_drop h)) (hok m)
  · show _ + total Message.weight s'.io.queue ≤ total Message.weight s.io.queue
    rw [hms, total_append]
    dsimp only
    omega

/-- The weight of a queue, by the kinds of its messages. -/
theorem total_weight (ms : List Message) : total Message.weight ms =
    3 * ms.countP (fun m => decide (m.what = .hotplugDetached)) +
      2 * ms.countP (fun m => decide (m.what = .hotplugAttached)) +
      ms.countP (fun m => decide (m.what ≠ .hotplugDetached ∧ m.what ≠ .hotplugAttached)) := by
  induction ms with
  | nil => rfl
  | cons m ms ih =>
      rw [total_cons, ih, List.countP_cons, List.countP_cons, List.countP_cons]
      by_cases hdet : m.what = .hotplugDetached
      · have hw : m.weight = 3 := by rw [Message.weight, hdet]
        rw [hw, if_pos (by simpa using hdet), if_neg (by simp [hdet]), if_neg (by simp [hdet])]
        omega
      · by_cases hatt : m.what = .hotplugAttached
        · have hw : m.weight = 2 := by rw [Message.weight, hatt]
          rw [hw, if_neg (by simp [hatt]), if_pos (by simpa using hatt), if_neg (by simp [hatt])]
          omega
        · have hw : m.weight = 1 := by
            unfold Message.weight
            split
            · next h => exact absurd h hdet
            · next h => exact absurd h hatt
            · rfl
          rw [hw, if_neg (by simpa using hdet), if_neg (by simpa using hatt), if_pos (decide_eq_true ⟨hdet, hatt⟩)]
          omega

/-! ## What a drain needs -/

/-- Dispatching `m` to the handlers `hs` calls `x` in state `t`. -/
inductive Calls (env : Env) (m : Message) : List Handler → Sys → Sys → Handler → Prop
  | head {x : Handler} {hs : List Handler} {s : Sys} : Calls env m (x :: hs) s s x
  | tail {x y : Handler} {hs : List Handler} {s s₁ t : Sys} {r : Int} (h : handleMessage env y s m = .ok (r, s₁))
      (hr : r ≠ 1) (ht : Calls env m hs s₁ t x) : Calls env m (y :: hs) s t x

/-- A message can be handled where each handler it is given to is safe. -/
def Message.Safe (env : Env) (s : Sys) (m : Message) : Prop :=
  ∀ t x, Calls env m s.handlers s t x → x.Safe env t m

/-- Draining takes up `m` in state `t`. -/
def Drawn (env : Env) : Sys → Sys → Message → Prop :=
  DrainTakes (·.io.queue) (looperProcess env) fun s =>
    BatchTakes (looperHandle env) (s.io.queue.take batchSize)
      { s with io := { s.io.tick with queue := s.io.queue.drop batchSize } }

theorem handleMessage_settles {r : Int} (hw : s.Whole) (hm : m.Proper) {x : Handler}
    (h : handleMessage env x s m = .ok (r, s')) : s.Settles m s' := by
  have hends : Ends (fun r => s.Settles m r.2) (fun _ => True) (handleMessage env x s m) :=
    handleMessage_ends hw hm x fun _ _ => trivial
  rw [h] at hends
  exact hends

theorem Calls.settles {hs : List Handler} {t : Sys} {x : Handler} (h : Calls env m hs s t x) (hw : s.Whole)
    (hm : m.Proper) : s.Settles m t := by
  induction h with
  | head => exact hw.settles
  | tail hy _ _ ih =>
      have hy := handleMessage_settles hw hm hy
      exact hy.trans (ih hy.whole)

/-- **A message is dispatched** exactly when each handler it is given to is safe. -/
theorem looperDispatch_returns_iff (hm : m.Proper) (hs : List Handler) : ∀ {s : Sys}, s.Whole →
    ((∃ s', looperDispatch env m hs s = .ok s') ↔ ∀ t x, Calls env m hs s t x → x.Safe env t m) := by
  induction hs with
  | nil => exact fun _ => ⟨fun _ t x ht => (by cases ht), fun _ => ⟨_, rfl⟩⟩
  | cons y hs ih =>
      intro s hw
      rw [looperDispatch]
      constructor
      · rintro ⟨s', h⟩ t x ht
        obtain ⟨⟨r, s₁⟩, hy, h⟩ := bind_eq_ok.mp h
        cases ht with
        | head => exact (handleMessage_returns_iff hw hm _).mp ⟨_, hy⟩
        | tail hy' hr ht =>
            cases hy.symm.trans hy'
            dsimp only at h
            rw [if_neg hr] at h
            exact (ih (handleMessage_settles hw hm hy).whole).mp ⟨s', h⟩ t x ht
      · intro hall
        obtain ⟨⟨r, s₁⟩, hy⟩ := (handleMessage_returns_iff hw hm y).mpr (hall s y .head)
        by_cases hr : r = 1
        · exact ⟨s₁, bind_eq_ok.mpr ⟨_, hy, if_pos hr⟩⟩
        · obtain ⟨s', h⟩ := (ih (handleMessage_settles hw hm hy).whole).mpr fun t x ht => hall t x (.tail hy hr ht)
          exact ⟨s', bind_eq_ok.mpr ⟨_, hy, (if_neg hr).trans h⟩⟩

theorem looperDispatch_settles (hm : m.Proper) (hs : List Handler) : ∀ {s : Sys}, s.Whole →
    looperDispatch env m hs s = .ok s' → s.Settles m s' := by
  induction hs with
  | nil => intro s hw h; cases h; exact hw.settles
  | cons y hs ih =>
      intro s hw h
      rw [looperDispatch] at h
      obtain ⟨⟨r, s₁⟩, hy, h⟩ := bind_eq_ok.mp h
      have hy := handleMessage_settles hw hm hy
      dsimp only at h
      split at h
      · cases h; exact hy
      · exact hy.trans (ih hy.whole h)

/-- What comes after the handlers leaves their modules alone. -/
theorem looperHandle_dispatch :
    (∃ s', looperHandle env s m = .ok s') ↔ ∃ s', looperDispatch env m s.handlers s = .ok s' := by
  unfold looperHandle
  cases looperDispatch env m s.handlers s with
  | error e => exact ⟨fun ⟨_, h⟩ => (by cases h), fun ⟨_, h⟩ => (by cases h)⟩
  | ok s₁ =>
      refine ⟨fun _ => ⟨s₁, rfl⟩, fun _ => ?_⟩
      simp only [ok_bind]
      split <;> exact ⟨_, rfl⟩

theorem looperHandle_settles (hw : s.Whole) (hm : m.Proper) (h : looperHandle env s m = .ok s') : s.Settles m s' := by
  unfold looperHandle at h
  obtain ⟨s₁, hd, h⟩ := bind_eq_ok.mp h
  have hs₁ := looperDispatch_settles hm _ hw hd
  have hio : ∀ io : Io, s.Settles m { s₁ with io := io } := fun _ =>
    ⟨hs₁.gadgets, hs₁.captures, hs₁.frames, hs₁.sizes⟩
  dsimp only at h
  split at h
  · split at h <;> · cases h; exact hio _
  · split at h
    · cases h; exact hio _
    · cases h; exact hs₁

/-- What a drain starts from: devices are whole, and messages of their kinds; `batch` is still to be handled. -/
structure Drainable (batch : List Message) (s : Sys) : Prop where
  whole : s.Whole
  proper : ∀ m ∈ batch ++ s.io.queue, m.Proper

/-- The messages pending after one has been handled. -/
theorem looperHandle_pending {batch : List Message} (hm : m.Proper) (h : looperHandle env s m = .ok s') :
    ∃ ms, Answers m ms ∧ ∀ x ∈ batch ++ s'.io.queue, x ∈ (m :: batch) ++ s.io.queue ∨ x ∈ ms := by
  obtain ⟨ms, hq, hms⟩ := looperHandle_posts hm.queued h
  refine ⟨ms, hms, fun x hx => ?_⟩
  rw [hq, ← List.append_assoc] at hx
  exact (List.mem_append.mp hx).imp (List.mem_cons_of_mem m) id

theorem Drainable.handled {batch : List Message} (h : Drainable (m :: batch) s) (hok : looperHandle env s m = .ok s') :
    Drainable batch s' := by
  have hm := h.proper m List.mem_cons_self
  obtain ⟨ms, hms, hold⟩ := looperHandle_pending hm hok
  exact ⟨(looperHandle_settles h.whole hm hok).whole, fun x hx => (hold x hx).elim (h.proper x) fun hx =>
    (hms.proper hx).1⟩

/-- A batch is read off the queue. -/
theorem Drainable.read (h : Drainable [] s) : Drainable (s.io.queue.take batchSize)
    { s with io := { s.io.tick with queue := s.io.queue.drop batchSize } } := by
  refine ⟨⟨h.whole.gadgets, h.whole.captures⟩, ?_⟩
  show ∀ m ∈ s.io.queue.take batchSize ++ s.io.queue.drop batchSize, m.Proper
  rw [List.take_append_drop]
  exact h.proper

theorem Drainable.batch {ms : List Message} : ∀ {s s' : Sys}, Drainable ms s → ms.foldlM (looperHandle env) s = .ok s' →
    Drainable [] s' := by
  induction ms with
  | nil => intro s s' h hok; cases hok; exact h
  | cons m ms ih =>
      intro s s' h hok
      rw [List.foldlM_cons] at hok
      obtain ⟨s₁, hm, hok⟩ := bind_eq_ok.mp hok
      exact ih (h.handled hm) hok

theorem looperHandle_returns_iff {batch : List Message} (h : Drainable (m :: batch) s) :
    (∃ s', looperHandle env s m = .ok s') ↔ m.Safe env s :=
  looperHandle_dispatch.trans (looperDispatch_returns_iff (h.proper m List.mem_cons_self) _ h.whole)

theorem looperProcess_returns_iff (h : Drainable [] s) : (∃ r, looperProcess env s = .ok r) ↔
    ∀ t m, BatchTakes (looperHandle env) (s.io.queue.take batchSize)
      { s with io := { s.io.tick with queue := s.io.queue.drop batchSize } } t m → m.Safe env t := by
  have hbatch : (∃ s', (s.io.queue.take batchSize).foldlM (looperHandle env)
      { s with io := { s.io.tick with queue := s.io.queue.drop batchSize } } = .ok s') ↔ _ :=
    batch_returns_iff (fun h => looperHandle_returns_iff h) (fun h hok => h.handled hok) _ h.read
  rw [← hbatch]
  unfold looperProcess
  constructor
  · rintro ⟨r, hr⟩
    obtain ⟨s', hs', -⟩ := bind_eq_ok.mp hr
    exact ⟨s', hs'⟩
  · rintro ⟨s', hs'⟩
    exact ⟨_, bind_eq_ok.mpr ⟨s', hs', rfl⟩⟩

/-- **A drain returns** exactly when each message is taken up in a state it is safe in. -/
theorem drainQueue_returns_iff (h : Drainable [] s) {fuel : Nat} (hfuel : total Message.weight s.io.queue ≤ fuel) :
    (∃ r, drainQueue env fuel s = .ok r) ↔ ∀ t m, Drawn env s t m → m.Safe env t := by
  have hqueued : ∀ {s : Sys}, Drainable [] s → ∀ m ∈ s.io.queue, m.what ≠ .terminate :=
    fun h m hm => (h.proper m hm).queued
  refine drain_returns_iff hqueued ?_ ?_ ?_ ?_ h hfuel
  · exact fun h => looperProcess_returns_iff h
  · intro s r h hr
    obtain ⟨s', hs', hr⟩ := bind_eq_ok.mp hr
    cases hr
    exact h.read.batch hs'
  · exact fun hok hne h => looperProcess_lowers hok hne h
  · exact fun m _ => m.weight_pos

/-! ## Where a drain returns from the start -/

/-- Reads through stale pointers return, and there is memory. -/
structure Env.Calm (env : Env) : Prop where
  miss : env.miss = .harmless
  freed : env.freed = .harmless
  malloc : ∀ t, env.malloc t = true

/-- With `batch` still to be handled, captures have and are told sizes that fit, and a frame to be copied is neither
    stale nor touched by any of the messages. -/
structure Quiet (batch : List Message) (s : Sys) : Prop where
  sizes : ∀ c ∈ s.captures, Sized c.width c.height
  formats : ∀ m ∈ batch ++ s.io.queue, m.Sized
  frames : ∀ m ∈ batch ++ s.io.queue, m.Copied s → ¬m.Stale s ∧ ∀ x ∈ batch ++ s.io.queue, ¬x.Touches

/-- A frame that is not stale is taken. -/
theorem Message.takes_of_fresh {g : Gadget} {p : FramePtr} (hwhat : m.what = .videoFrameAvailable)
    (hp : m.lParam = .frame p) (hg : g ∈ s.gadgets) (hid : g.id = m.wParam) (hon : g.isStreaming = true)
    (hfresh : ¬m.Stale s) : g.Takes s.captures p := by
  by_contra hno
  refine hfresh ⟨hwhat, p, hp, g, hg, hid, hon, fun f size hres => ?_⟩
  by_contra hlong
  exact hno ⟨f, size, hres, by omega, by omega⟩

/-- In a calm environment the handlers of a quiet message are safe. -/
theorem Quiet.safe (hcalm : env.Calm) {batch : List Message} (ho : Drainable (m :: batch) s)
    (h : Quiet (m :: batch) s) : m.Safe env s := by
  have hmem : m ∈ (m :: batch) ++ s.io.queue := List.mem_cons_self
  intro t x hcall
  have hs := hcall.settles ho.whole (ho.proper m hmem)
  cases x with
  | uvc =>
      show UvcSafe env t m
      unfold UvcSafe
      split
      · unfold DetachSafe
        split
        · exact hcalm.miss
        · exact hcalm.freed
      · next p hwhat hp =>
          unfold CopySafe
          split
          · exact hcalm.miss
          · next g hfind =>
              intro hon
              obtain ⟨pre, post, hsp⟩ := SplitsAt.of_find hfind
              have hcopied : m.Copied s := hs.copied ⟨hwhat, g, hsp.mem, hsp.hit, hon⟩
              obtain ⟨hfresh, hno⟩ := h.frames m hmem hcopied
              exact Message.takes_of_fresh hwhat hp hsp.mem hsp.hit hon fun hstale =>
                hfresh (hs.stale (hno m hmem) hstale)
      · trivial
  | capture =>
      intro hwhat c hfind hoff
      obtain ⟨pre, post, hsp⟩ := SplitsAt.of_find hfind
      exact ⟨hs.sizes (h.formats m hmem) h.sizes c hsp.mem, fun _ _ => Device.funded_of_malloc hcalm.malloc _ _ _⟩

/-- What is posted is about no frame and no format. -/
theorem Answers.sized {ms : List Message} (h : Answers m ms) {x : Message} (hx : x ∈ ms) : x.Sized := by
  intro p fmt hl
  unfold Answers at h
  split at h
  · obtain ⟨id, hsub⟩ := h
    obtain rfl := List.mem_singleton.mp (hsub.subset hx)
    cases hl
  · obtain ⟨id, hsub⟩ := h
    rcases List.mem_pair.mp (hsub.subset hx) with rfl | rfl <;> cases hl
  · rw [h] at hx; cases hx

theorem Quiet.handled {batch : List Message} (ho : Drainable (m :: batch) s) (h : Quiet (m :: batch) s)
    (hok : looperHandle env s m = .ok s') : Quiet batch s' := by
  have hmem : m ∈ (m :: batch) ++ s.io.queue := List.mem_cons_self
  have hm := ho.proper m hmem
  have hs := looperHandle_settles ho.whole hm hok
  obtain ⟨ms, hms, hold⟩ := looperHandle_pending hm hok
  refine ⟨hs.sizes (h.formats m hmem) h.sizes, fun x hx => ?_, fun x hx hcopied => ?_⟩
  · exact (hold x hx).elim (h.formats x) hms.sized
  · rcases hold x hx with hx | hx
    · obtain ⟨hfresh, hno⟩ := h.frames x hx (hs.copied hcopied)
      exact ⟨fun hstale => hfresh (hs.stale (hno m hmem) hstale), fun y hy =>
        (hold y hy).elim (hno y) (hms.untouched (hno m hmem))⟩
    · exact absurd hcopied.1 (hms.proper hx).2

theorem Quiet.read (h : Quiet [] s) : Quiet (s.io.queue.take batchSize)
    { s with io := { s.io.tick with queue := s.io.queue.drop batchSize } } := by
  refine ⟨h.sizes, ?_, ?_⟩
  · show ∀ m ∈ s.io.queue.take batchSize ++ s.io.queue.drop batchSize, m.Sized
    rw [List.take_append_drop]
    exact h.formats
  · show ∀ m ∈ s.io.queue.take batchSize ++ s.io.queue.drop batchSize, m.Copied s →
      ¬m.Stale s ∧ ∀ x ∈ s.io.queue.take batchSize ++ s.io.queue.drop batchSize, ¬x.Touches
    rw [List.take_append_drop]
    exact h.frames

/-- **A quiet queue is drained.** -/
theorem drainQueue_quiet (hcalm : env.Calm) (ho : Drainable [] s) (h : Quiet [] s) (fuel : Nat) :
    ∃ r, drainQueue env fuel s = .ok r := by
  have hhandle : ∀ {m : Message} {batch : List Message} {s : Sys}, Drainable (m :: batch) s ∧ Quiet (m :: batch) s →
      Ends (fun s' => Drainable batch s' ∧ Quiet batch s') (fun _ => False) (looperHandle env s m) := by
    rintro m batch s ⟨ho, h⟩
    obtain ⟨s', hs'⟩ := (looperHandle_returns_iff ho).mpr (h.safe hcalm ho)
    rw [hs']
    exact .ok ⟨ho.handled hs', h.handled ho hs'⟩
  have hround : ∀ {s : Sys}, Drainable [] s ∧ Quiet [] s →
      Ends (fun r => Drainable [] r.2 ∧ Quiet [] r.2) (fun _ => False) (looperProcess env s) := by
    rintro s ⟨ho, h⟩
    exact (batch_ends (I := fun batch s => Drainable batch s ∧ Quiet batch s) hhandle _ ⟨ho.read, h.read⟩).bind
      fun s' hs' => .ok hs'
  obtain ⟨r, hr, -⟩ := (drain_ends (I := fun s => Drainable [] s ∧ Quiet [] s) hround fuel ⟨ho, h⟩).returns
  exact ⟨r, hr⟩

/-! ## The queue -/

/-- The queue is emptied, and no more messages are handled than its messages are worth by their kinds. -/
def Drains (env : Env) (fuel : Nat) (s : Sys) : Prop :=
  ∃ n s', drainQueue env fuel s = .ok (n, s') ∧ s'.io.queue = [] ∧
    n ≤ 3 * s.io.queue.countP (fun m => decide (m.what = .hotplugDetached)) +
      2 * s.io.queue.countP (fun m => decide (m.what = .hotplugAttached)) +
      s.io.queue.countP (fun m => decide (m.what ≠ .hotplugDetached ∧ m.what ≠ .hotplugAttached))

theorem drains_iff_returns (hq : ∀ m ∈ s.io.queue, m.what ≠ .terminate) {fuel : Nat}
    (hfuel : total Message.weight s.io.queue ≤ fuel) : Drains env fuel s ↔ ∃ r, drainQueue env fuel s = .ok r := by
  constructor
  · rintro ⟨n, s', hd, -⟩
    exact ⟨_, hd⟩
  · rintro ⟨⟨n, s'⟩, hd⟩
    obtain ⟨hnil, hle⟩ := drain_empties (fun hok hne h => looperProcess_lowers hok hne h)
      (fun m _ => m.weight_pos) hq hfuel hd
    exact ⟨n, s', hd, hnil, by rw [← total_weight]; exact hle⟩

/-- **The queue runs empty** exactly when the handlers are safe in the states they are called in. What handling a
    message posts is lighter than it and never answered with another message, whatever the state and the answers of the
    kernel; so a drain that returns has emptied the queue within the bound. With whole devices and messages of their
    kinds, it returns exactly when each message is taken up in a state it is safe in. That is so from the start where
    stale reads return, there is memory, captures have sizes that fit and no frame for a gadget that streams is stale or
    queued with a message that may start or stop captures. -/
theorem queue_drains (env : Env) {s : Sys} (hq : ∀ m ∈ s.io.queue, m.what ≠ .terminate) {fuel : Nat}
    (hfuel : total Message.weight s.io.queue ≤ fuel) :
    (∀ (m : Message) (t t' : Sys), m.what ≠ .terminate → looperHandle env t m = .ok t' →
      ∃ ms, t'.io.queue = t.io.queue ++ ms ∧ total Message.weight ms < m.weight ∧
        ∀ x ∈ ms, ∀ (u u' : Sys), looperHandle env u x = .ok u' → u'.io.queue = u.io.queue) ∧
    (∀ r, drainQueue env fuel s = .ok r → Drains env fuel s) ∧
    (Drainable [] s →
      (Drains env fuel s ↔ ∀ t m, Drawn env s t m → m.Safe env t) ∧ (env.Calm → Quiet [] s → Drains env fuel s)) := by
  have hdrains : Drains env fuel s ↔ ∃ r, drainQueue env fuel s = .ok r := drains_iff_returns hq hfuel
  refine ⟨fun m t t' hm h => ?_, fun r hr => hdrains.mpr ⟨r, hr⟩, fun ho => ⟨?_, fun hcalm h => ?_⟩⟩
  · obtain ⟨ms, hms, ha⟩ := looperHandle_posts hm h
    refine ⟨ms, hms, ha.weight, fun x hx u u' hu => ?_⟩
    obtain ⟨hlight, -, hterm⟩ := ha.light hx
    obtain ⟨ms', hms', ha'⟩ := looperHandle_posts hterm hu
    -- a message of weight 1 has no answers
    have hnil : ms' = [] := by
      by_contra hne
      obtain ⟨y, hy⟩ := List.exists_mem_of_ne_nil _ hne
      have hheavy := (ha'.light hy).2.1
      omega
    rw [hms', hnil, List.append_nil]
  · exact hdrains.trans (drainQueue_returns_iff ho hfuel)
  · exact hdrains.mpr (drainQueue_quiet hcalm ho h fuel)

/-- The bench, with the output device to be attached and detached again before a signal is handled. -/
def crowded : Sys :=
  let s := boot (bench 900) [videoName 0] fun _ => .zero
  { s with
    handlers := [.uvc, .capture]
    io := { s.io with queue := [.hotplugAttached 0 (videoName 0), .hotplugDetached 1 (videoName 0), .signal 2] } }

/-- At most six messages are handled. -/
theorem queue_drains_crowded : ∃ n s', drainQueue (bench 900) 6 crowded = .ok (n, s') ∧ s'.io.queue = [] ∧ n ≤ 6 := by
  have ho : Drainable [] crowded := by
    refine ⟨⟨fun g hg => (by cases hg), fun c hc => (by cases hc)⟩, fun m hm => ?_⟩
    rcases List.mem_cons.mp hm with rfl | hm
    · exact ⟨nofun, fun _ => ⟨0, videoName 0, rfl⟩, nofun, nofun⟩
    · rcases List.mem_cons.mp hm with rfl | hm
      · exact ⟨nofun, fun _ => ⟨1, videoName 0, rfl⟩, nofun, nofun⟩
      · obtain rfl := List.mem_singleton.mp hm
        exact ⟨nofun, fun h => (by cases h <;> contradiction), nofun, nofun⟩
  have hquiet : Quiet [] crowded := by
    refine ⟨fun c hc => (by cases hc), fun m hm => ?_, fun m _ ⟨_, g, hg, _⟩ => (by cases hg)⟩
    rcases List.mem_cons.mp hm with rfl | hm
    · exact fun p fmt h => (by cases h)
    · rcases List.mem_pair.mp hm with rfl | rfl <;> exact fun p fmt h => (by cases h)
  exact ((queue_drains (bench 900) (by decide) (by decide)).2.2 ho).2 ⟨rfl, rfl, fun _ => rfl⟩ hquiet

/-- A batch that faults ends the drain. -/
theorem not_drains_of_fault {e : Fault} (hne : s.io.queue ≠ []) (h : looperProcess env s = .error e) {fuel : Nat}
    (hfuel : 0 < fuel) : ¬Drains env fuel s := by
  obtain ⟨fuel, rfl⟩ := Nat.exists_eq_succ_of_ne_zero (Nat.pos_iff_ne_zero.mp hfuel)
  rintro ⟨n, s', hd, -⟩
  unfold drainQueue at hd
  rw [drain] at hd
  split at hd
  · next hnil => exact hne hnil
  · rw [h] at hd
    cases hd

/-- **A queue that is not emptied.** A camera is unplugged while no gadget is attached, and the walk that looks for one
    of its name ends in the list's head; or a gadget is unplugged, and its looper is read from the freed block. -/
theorem unplugged_undrained :
    (∃ s, run { bench 900 with miss := .trap }
        ([.next, .next] ++ turn [3] 12 ++ .unplug (videoName 1) :: turn [5] 12)
        (boot (bench 900) [videoName 1] fun _ => .zero) = .ok s ∧
      s.io.queue.map (·.what) = [.hotplugDetached] ∧
      ∀ fuel, 0 < fuel → ¬Drains { bench 900 with miss := .trap } fuel s) ∧
    ∃ s, run { bench 900 with freed := .trap }
        ([.next, .next] ++ turn [3] 12 ++ .unplug (videoName 0) :: turn [5] 12)
        (boot (bench 900) [videoName 0] fun _ => .zero) = .ok s ∧
      s.io.queue.map (·.what) = [.uvcAttached, .hotplugDetached] ∧
      ∀ fuel, 0 < fuel → ¬Drains { bench 900 with freed := .trap } fuel s := by
  constructor
  · obtain ⟨s, hrun, hq, hne, hfault⟩ : ∃ s, run { bench 900 with miss := .trap }
        ([.next, .next] ++ turn [3] 12 ++ .unplug (videoName 1) :: turn [5] 12)
        (boot (bench 900) [videoName 1] fun _ => .zero) = .ok s ∧ s.io.queue.map (·.what) = [.hotplugDetached] ∧
        s.io.queue ≠ [] ∧ looperProcess { bench 900 with miss := .trap } s = .error .strayGadget := by
      decide +kernel
    exact ⟨s, hrun, hq, fun fuel hfuel => not_drains_of_fault hne hfault hfuel⟩
  · obtain ⟨s, hrun, hq, hne, hfault⟩ : ∃ s, run { bench 900 with freed := .trap }
        ([.next, .next] ++ turn [3] 12 ++ .unplug (videoName 0) :: turn [5] 12)
        (boot (bench 900) [videoName 0] fun _ => .zero) = .ok s ∧
        s.io.queue.map (·.what) = [.uvcAttached, .hotplugDetached] ∧
        s.io.queue ≠ [] ∧ looperProcess { bench 900 with freed := .trap } s = .error .freedLooper := by
      decide +kernel
    exact ⟨s, hrun, hq, fun fuel hfuel => not_drains_of_fault hne hfault hfuel⟩

end Uvcd
