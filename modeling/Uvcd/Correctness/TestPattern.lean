import Uvcd.Correctness.Pool
import Uvcd.Refinement.TestApp

/-!
# `Correctness.TestPattern` — the test application shows an unbroken pattern

`pattern_unbroken`: over any run, whatever the host commits and however often the stream starts and stops, the rows of
colour go on from one buffer to the next without a gap, a still image is shown whole, only buffers that the driver has
given back are written to, and each buffer the driver owns holds a picture.
-/

namespace Uvcd

namespace TestApp

open Machine

/-- The rows in running colour of a series of pictures. -/
def rows (ps : List Picture) : Nat := (ps.map (·.rows)).sum

theorem rows_snoc (ps : List Picture) (p : Picture) : rows (ps ++ [p]) = rows ps + p.rows := by
  simp [rows]

/-- The memory of one of the pictures. -/
def Pictured (ps : List Picture) (m : Bytes) : Prop := ∃ p ∈ ps, p.mem = some m

/-- **The pattern.** -/
structure App.Drawn (size : UInt32) (img : Option Bytes) (app : App) : Prop where
  image : app.dev.imgsize = size ∧ app.dev.imgdata = img
  offered : app.dev.Offered
  racked : app.dev.vdev.Racked
  /-- the driver's buffers hold pictures -/
  lends : app.dev.vdev.Lends (Pictured app.filled)
  /-- the next row goes on where the last one ended -/
  color : app.dev.color = UInt8.ofNat (rows app.filled)
  /-- each picture does, and was drawn while the driver did not own the buffer -/
  shows : ∀ pre p post, app.filled = pre ++ p :: post →
    p.lent = false ∧ p.Drawn size img (UInt8.ofNat (rows pre))

variable {env : Env} {size : UInt32} {img : Option Bytes} {app app' : App} {k : Kernel}

namespace App.Drawn

/-- What has nothing to do with pictures may change. -/
theorem of_eq (h : app.Drawn size img)
    (himg : app'.dev.imgsize = app.dev.imgsize ∧ app'.dev.imgdata = app.dev.imgdata) (hoff : app'.dev.Offered)
    (hv : Tends app.dev.vdev app'.dev.vdev) (hc : app'.dev.color = app.dev.color) (hf : app'.filled = app.filled) :
    app'.Drawn size img := by
  refine ⟨⟨himg.1.trans h.image.1, himg.2.trans h.image.2⟩, hoff, hv.racked h.racked, ?_, ?_, ?_⟩
  · rw [hf]
    exact hv.lends _ h.lends
  · rw [hc, hf]
    exact h.color
  · rw [hf]
    exact h.shows

theorem putVdev (h : app.Drawn size img) {d : Device} (hd : Tends app.dev.vdev d) :
    (app.putVdev k d).Drawn size img := h.of_eq ⟨rfl, rfl⟩ h.offered hd rfl rfl

theorem watch (h : app.Drawn size img) (type : EventType) (callback : Callback) :
    (app.watch env type callback).Drawn size img := by
  unfold App.watch
  split <;> exact h.of_eq ⟨rfl, rfl⟩ h.offered (.refl _) rfl rfl

/-- **One buffer**: `d` is the device the driver does not own it on, `d₁` with its memory written. -/
theorem fill (h : app.Drawn size img) {d d₁ d₂ : Device} {buf buf' : VideoBuffer} {dev : UvcDevice} {ret : Int}
    {k k' : Kernel} (hr : d₁.Racked) (hl : d.Lends (Pictured app.filled)) (hq : d₁.file.queued = d.file.queued)
    (hhas : buf'.index ∉ d.file.queued) (hold : ∀ j, j ≠ buf'.index → d₁.buffers[j]? = d.buffers[j]?)
    (hnew : ∀ x m, d₁.buffers[buf'.index]? = some x → x.mem = some m → buf'.mem = some m)
    (hfill : Fills app.dev buf dev buf') (hqueue : v4l2QueueBuffer env k d₁ buf' = (ret, k', d₂)) :
    App.Drawn size img { app with
      kernel := k', dev := { dev with vdev := d₂ }
      filled := app.filled ++ [dev.picture d.file.queued buf'] } ∧
      (¬ret < 0 → d₂.file.queued = d.file.queued ++ [buf'.index]) := by
  have hdev := hfill.device
  have hpic : dev.picture d.file.queued buf' = app.dev.picture d.file.queued buf' := by rw [hdev]; rfl
  -- the other buffers of the driver hold what they held
  have hl₁ : d₁.Lends (Pictured (app.filled ++ [dev.picture d.file.queued buf'])) := fun i hi b m hb hm => by
    rw [hq] at hi
    have hi' : i ≠ buf'.index := fun heq => hhas (heq ▸ hi)
    rw [hold i hi'] at hb
    obtain ⟨p, hp, hpm⟩ := hl i hi b m hb hm
    exact ⟨p, List.mem_append_left _ hp, hpm⟩
  obtain ⟨hr₂, hl₂, hgiven⟩ := v4l2QueueBuffer_gives hr hl₁ (hq ▸ hhas)
    (fun x m hx hm => ⟨_, List.mem_append_right _ (List.mem_singleton.mpr rfl), hnew x m hx hm⟩) hqueue
  refine ⟨⟨?_, ?_, hr₂, hl₂, ?_, ?_⟩, fun hret => (hgiven hret).trans (by rw [hq])⟩
  · rw [hdev]
    exact h.image
  · rw [hdev]
    exact h.offered
  · show dev.color = UInt8.ofNat (rows (app.filled ++ [_]))
    rw [rows_snoc, UInt8.ofNat_add, ← h.color, hpic, hdev]
    rfl
  · intro pre p post heq
    have heq : app.filled ++ [dev.picture d.file.queued buf'] = pre ++ p :: post := heq
    rcases List.eq_nil_or_concat post with rfl | ⟨post', q, rfl⟩
    · -- the new picture
      obtain ⟨rfl, hp⟩ := List.append_inj' heq rfl
      cases hp
      refine ⟨decide_eq_false hhas, ?_⟩
      rw [hpic, ← h.color, ← h.image.1, ← h.image.2]
      exact hfill.drawn _
    · rw [List.concat_eq_append, ← List.cons_append, ← List.append_assoc] at heq
      exact h.shows pre p post' (List.append_inj_left' heq rfl)

end App.Drawn

/-! ## The callbacks -/

theorem uvcVideoProcess_drawn (hdrv : env.HandsOutOwned) (h : app.Drawn size img)
    (hok : uvcVideoProcess env app = .ok app') : app'.Drawn size img := by
  unfold uvcVideoProcess at hok
  obtain ⟨⟨r, k₁, d₁⟩, hdq, hok⟩ := bind_eq_ok.mp hok
  obtain ⟨ht, hgot⟩ := v4l2DequeueBuffer_tends hdrv h.racked hdq
  dsimp only at hok
  split at hok
  · cases hok
    exact h.putVdev ht
  · next buf =>
      obtain ⟨⟨dev, buf'⟩, hfill, hok⟩ := bind_eq_ok.mp hok
      have hfills := uvcVideoFillBuffer_fills h.offered hfill
      have hr₁ := ht.racked h.racked
      have hh : d₁.Handled (d₁.writeMem buf'.index buf'.mem) := .writeMem _ _ _
      generalize hq : v4l2QueueBuffer env k₁ (d₁.writeMem buf'.index buf'.mem) buf' = res at hok
      obtain ⟨ret, k₂, d₂⟩ := res
      cases hok
      refine (h.fill ⟨hh.plain hr₁.plain, hr₁.indexed.handled hh, hr₁.nodup, hr₁.lt⟩ (ht.lends _ h.lends) rfl
        ?_ (fun j hj => ?_) (fun x m hx hm => ?_) hfills hq).1
      · rw [hfills.index]
        exact hgot buf rfl
      · exact List.getElem?_modify_ne _ _ (Ne.symm hj)
      · have hx : (d₁.buffers.modify buf'.index _)[buf'.index]? = some x := hx
        rw [List.getElem?_modify_eq, Option.map_eq_map, Option.map_eq_some_iff] at hx
        obtain ⟨y, -, rfl⟩ := hx
        obtain ⟨-, -, hm⟩ := Option.bind_eq_some_iff.mp hm
        exact hm

theorem fillAndQueue_drawn {n : Nat} : ∀ {i : Nat} {app : App} {ret : Int}, app.Drawn size img →
    i + n ≤ app.dev.vdev.nbufs → (∀ j ∈ app.dev.vdev.file.queued, j < i) →
    fillAndQueue env i n app = .ok (ret, app') → app'.Drawn size img := by
  induction n with
  | zero => intro i app ret h _ _ hok; cases hok; exact h
  | succ n ih =>
      intro i app ret h hle hlt hok
      rw [fillAndQueue] at hok
      split at hok
      · cases hok
      · next buf hbuf =>
          obtain ⟨⟨dev, buf'⟩, hfill, hok⟩ := bind_eq_ok.mp hok
          have hfills := uvcVideoFillBuffer_fills h.offered hfill
          have hindex : buf'.index = i := hfills.index.trans (h.racked.indexed.index (by omega) hbuf)
          have hnot : i ∉ app.dev.vdev.file.queued := fun hi => Nat.lt_irrefl i (hlt i hi)
          have hset : Tends app.dev.vdev
              { app.dev.vdev with buffers := app.dev.vdev.buffers.set i buf', file := app.dev.vdev.file } :=
            .set hbuf hfills.index (fun hd => hfills.dmabuf.trans hd) rfl fun hi => absurd hi hnot
          dsimp only at hok
          generalize hq : v4l2QueueBuffer env app.kernel
            { app.dev.vdev with buffers := app.dev.vdev.buffers.set i buf' } buf' = res at hok
          obtain ⟨ret₁, k₁, d₁⟩ := res
          obtain ⟨hdrawn, hgiven⟩ := h.fill (hset.racked h.racked) h.lends rfl (hindex ▸ hnot)
            (fun j hj => List.getElem?_set_ne (by rw [← hindex]; exact Ne.symm hj))
            (fun x m hx hm => by
              have hx : (app.dev.vdev.buffers.set i buf')[buf'.index]? = some x := hx
              rw [hindex, List.getElem?_set_self (List.getElem?_eq_some_iff.mp hbuf).1] at hx
              cases hx
              exact hm) hfills hq
          dsimp only at hok
          split at hok
          · cases hok
            exact hdrawn
          · next hret =>
              refine ih hdrawn ?_ (fun j hj => ?_) hok
              · show i + 1 + n ≤ d₁.nbufs
                rw [v4l2QueueBuffer_nbufs hq]
                show i + 1 + n ≤ app.dev.vdev.nbufs
                omega
              · have hj : j ∈ d₁.file.queued := hj
                rw [hgiven hret, List.mem_append, List.mem_singleton, hindex] at hj
                rcases hj with hj | hj
                · exact Nat.lt_succ_of_lt (hlt j hj)
                · omega

theorem streamError_drawn {ret ret' : Int} (h : app.Drawn size img)
    (hok : streamError env ret app = .ok (ret', app')) : app'.Drawn size img := by
  unfold streamError at hok
  obtain ⟨⟨r, k₁, d₁⟩, hfree, hok⟩ := bind_eq_ok.mp hok
  cases hok
  exact h.putVdev (v4l2FreeBuffers_tends hfree)

theorem uvcVideoStream_drawn {enable : Bool} {ret : Int} (h : app.Drawn size img)
    (hok : uvcVideoStream env app enable = .ok (ret, app')) : app'.Drawn size img := by
  unfold uvcVideoStream at hok
  split at hok
  · have hun : App.Drawn size img { app with dev := { app.dev with
        events := eventsUnwatchFd app.dev.events app.dev.vdev.fd .write } } :=
      h.of_eq ⟨rfl, rfl⟩ h.offered (.refl _) rfl rfl
    dsimp only at hok
    generalize hoff : v4l2StreamOff env app.kernel app.dev.vdev = res at hok
    obtain ⟨r₁, k₁, d₁⟩ := res
    obtain ⟨⟨r₂, k₂, d₂⟩, hfree, hok⟩ := bind_eq_ok.mp hok
    cases hok
    exact hun.putVdev ((v4l2StreamOff_tends hoff).trans (v4l2FreeBuffers_tends hfree))
  · obtain ⟨⟨r₁, k₁, d₁⟩, halloc, hok⟩ := bind_eq_ok.mp hok
    obtain ⟨ht₁, -, hnew⟩ := v4l2AllocBuffers_tends (by decide) halloc
    have h₁ : (app.putVdev k₁ d₁).Drawn size img := h.putVdev ht₁
    dsimp only at hok
    split at hok
    · cases hok
      exact h₁
    · next hret₁ =>
        obtain ⟨-, hq₁, -⟩ := hnew hret₁
        obtain ⟨⟨r₂, k₂, d₂⟩, hmap, hok⟩ := bind_eq_ok.mp hok
        have ht₂ : Tends d₁ d₂ ∧ d₂.file.queued = [] := by
          unfold v4l2MmapBuffers at hmap
          split at hmap
          · cases hmap
            exact ⟨.refl _, hq₁⟩
          · exact mmapBuffers_tends hq₁ hmap
        have h₂ : ((app.putVdev k₁ d₁).putVdev k₂ d₂).Drawn size img := h₁.putVdev ht₂.1
        dsimp only at hok
        split at hok
        · exact streamError_drawn h₂ hok
        · obtain ⟨⟨r₃, app₃⟩, hfill, hok⟩ := bind_eq_ok.mp hok
          have h₃ : app₃.Drawn size img := fillAndQueue_drawn h₂ (Nat.le_of_eq (Nat.zero_add _))
            (fun j hj => by
              have hj : j ∈ d₂.file.queued := hj
              rw [ht₂.2] at hj
              cases hj) hfill
          dsimp only at hok
          split at hok
          · exact streamError_drawn h₃ hok
          · generalize hon : v4l2StreamOn env app₃.kernel app₃.dev.vdev = res at hok
            obtain ⟨r₄, k₄, d₄⟩ := res
            cases hok
            exact (h₃.putVdev (v4l2StreamOn_tends hon)).watch _ _

theorem uvcVideoSetFormat_drawn {ret : Int} (h : app.Drawn size img)
    (hok : uvcVideoSetFormat env app = .ok (ret, app')) : app'.Drawn size img := by
  obtain ⟨k, fmt, fmt', vdev, hset, rfl⟩ := uvcVideoSetFormat_spec hok
  exact h.putVdev (v4l2SetFormat_tends hset)

theorem uvcEventsProcessData_drawn {data : RequestData} (h : app.Drawn size img)
    (hok : uvcEventsProcessData env app data = .ok app') : app'.Drawn size img := by
  by_cases hc : app.dev.control = VS_COMMIT_CONTROL
  · rw [uvcEventsProcessData_commit hc] at hok
    obtain ⟨⟨r, app₁⟩, hset, hok⟩ := bind_eq_ok.mp hok
    have hcommit : App.Drawn size img { app with dev := app.dev.committed data } :=
      h.of_eq ⟨rfl, rfl⟩ (app.dev.committed_offered data) (.refl _) rfl rfl
    have h₁ := uvcVideoSetFormat_drawn hcommit hset
    split at hok
    · obtain ⟨⟨r₂, app₂⟩, hstream, hok⟩ := bind_eq_ok.mp hok
      cases hok
      exact uvcVideoStream_drawn h₁ hstream
    · cases hok
      exact h₁
  · unfold uvcEventsProcessData at hok
    dsimp only at hok
    rw [if_neg hc] at hok
    split at hok
    · cases hok
      exact h.of_eq ⟨rfl, rfl⟩ h.offered (.refl _) rfl rfl
    · cases hok
      exact h

theorem sendResponse_drawn (h : app.Drawn size img) (resp : RequestData) : (sendResponse app resp).Drawn size img :=
  h.putVdev (.of_eq rfl rfl (.inl rfl))

theorem uvcEventsProcess_drawn (h : app.Drawn size img) (hok : uvcEventsProcess env app = .ok app') :
    app'.Drawn size img := by
  unfold uvcEventsProcess at hok
  have hpoll : App.Drawn size img { app with kernel := app.kernel.call (.ioctl app.dev.vdev.fd) } :=
    h.of_eq ⟨rfl, rfl⟩ h.offered (.refl _) rfl rfl
  dsimp only at hok
  split at hok
  · cases hok; exact hpoll
  · cases hok; exact hpoll
  · cases hok; exact hpoll
  · next req _ =>
      obtain ⟨c, hc⟩ := uvcEventsProcessSetup_device app.dev req .stall
      cases hok
      rw [hc]
      refine sendResponse_drawn ?_ _
      exact h.of_eq ⟨rfl, rfl⟩ h.offered (.refl _) rfl rfl
  · exact uvcEventsProcessData_drawn hpoll hok
  · obtain ⟨⟨r, app₁⟩, hstream, hok⟩ := bind_eq_ok.mp hok
    cases hok
    exact uvcVideoStream_drawn hpoll hstream
  · obtain ⟨⟨r, app₁⟩, hstream, hok⟩ := bind_eq_ok.mp hok
    cases hok
    exact uvcVideoStream_drawn hpoll hstream
  · cases hok; exact sendResponse_drawn hpoll _

/-! ## Runs -/

theorem step_drawn (hdrv : env.HandsOutOwned) {a : Action} (h : app.Drawn size img)
    (hstep : step env a app = .ok app') : app'.Drawn size img := by
  have hphase : ∀ phase, App.Drawn size img { app with phase := phase } := fun _ =>
    h.of_eq ⟨rfl, rfl⟩ h.offered (.refl _) rfl rfl
  cases a with
  | signal =>
      rw [step] at hstep
      split at hstep
      · cases hstep
      · cases hstep
        exact h.of_eq ⟨rfl, rfl⟩ h.offered (.refl _) rfl rfl
  | select r =>
      rw [step] at hstep
      split at hstep
      · cases hstep; exact hphase _
      · cases hstep; exact h
  | interrupted =>
      rw [step] at hstep
      injection hstep with hstep
      rw [← hstep]
      split
      · exact hphase _
      · exact h
  | selectFailed =>
      rw [step] at hstep
      injection hstep with hstep
      rw [← hstep]
      split
      · exact hphase _
      · exact h
  | next =>
      rw [step, next] at hstep
      split at hstep
      · cases hstep
        have hwatch : (app.watch env .exception .uvcGadgetProcess).Drawn size img := h.watch _ _
        exact hwatch.of_eq ⟨rfl, rfl⟩ hwatch.offered (.refl _) rfl rfl
      · cases hstep; exact hphase _
      · cases hstep; exact h
      · cases hstep; exact hphase _
      · next t rest hp =>
          obtain ⟨app₁, hcall, hstep⟩ := bind_eq_ok.mp hstep
          have h₁ : app₁.Drawn size img := by
            unfold invoke at hcall
            split at hcall
            · exact uvcEventsProcess_drawn h hcall
            · exact uvcVideoProcess_drawn hdrv h hcall
            · cases hcall
          cases hstep
          exact h₁.of_eq ⟨rfl, rfl⟩ h₁.offered (.refl _) rfl rfl
      · cases hstep
        exact h.of_eq ⟨rfl, rfl⟩ h.offered (.refl _) rfl rfl
      · cases hstep; exact h

theorem Boots.drawn (h : Boots app) : app.Drawn app.dev.imgsize app.dev.imgdata := by
  refine ⟨⟨rfl, rfl⟩, .inl h.format, h.racked, fun i hi => ?_, ?_, fun pre p post heq => ?_⟩
  · rw [h.vdev.2.2] at hi
    cases hi
  · rw [h.color, h.filled]
    rfl
  · rw [h.filled] at heq
    exact absurd heq (by simp)

/-- **The pattern never breaks.** From a driver that hands out buffers it owns, a run that does not fault writes to
    buffers only while the program has them; rows of colour go on from buffer to buffer in running colour over all
    commits, starts and stops, an image is shown from its first byte to its last, and every buffer with the driver
    holds one of these pictures. -/
theorem pattern_unbroken (hdrv : env.HandsOutOwned) {opts : Options} {as : List Action}
    (hboot : boot env k opts = some app) (hrun : run env as app = .ok app') :
    app'.Drawn app.dev.imgsize app.dev.imgdata :=
  run_inv (fun _ _ _ h hstep => step_drawn hdrv h hstep) (boot_boots hboot).drawn hrun

/-- A machine with one device, `video0`. -/
def bareKernel : Kernel := ⟨0, stdFds, fun _ => .zero, [videoName 0], [], false, []⟩

/-- The host commits the first frame of the first format and starts the stream. -/
def testBench : Env := .obliging [videoName 0] [(11, commitRequest), (13, commitData), (16, .streamon)]

/-- A turn of the loop, the device being descriptor `3`. -/
def testTurn : List Action := [.next, .select (readyFds [3]), .next, .next, .next]

def testBoot : Option App := boot testBench bareKernel ⟨videoName 0, false, none⟩

/-- Four buffers are filled at the start, and the first once more: each begins with the colour the last one ended
    before. -/
theorem pattern_unbroken_streaming :
    ∃ app app', testBoot = some app ∧
      run testBench (.next :: testTurn ++ testTurn ++ testTurn ++ testTurn) app = .ok app' ∧
      app'.filled.map (fun p => p.mem.map fun m => (m 0, m 460799)) =
        [some (0, 103), some (104, 207), some (208, 55), some (56, 159), some (160, 7)] ∧
      app'.Drawn app.dev.imgsize app.dev.imgdata := by
  obtain ⟨app, hboot, app', hrun, hfilled⟩ : ∃ app, testBoot = some app ∧ ∃ app',
      run testBench (.next :: testTurn ++ testTurn ++ testTurn ++ testTurn) app = .ok app' ∧
      app'.filled.map (fun p => p.mem.map fun m => (m 0, m 460799)) =
        [some (0, 103), some (104, 207), some (208, 55), some (56, 159), some (160, 7)] := by
    decide +kernel
  exact ⟨app, app', hboot, hrun, hfilled, pattern_unbroken (obliging_handsOutOwned _ _) hboot hrun⟩

end TestApp

end Uvcd
