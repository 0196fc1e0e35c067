import Uvcd.Correctness.TestPattern
import Uvcd.Protocol.Controls

/-!
# `Correctness.TestNegotiation` — what the test application agrees on with the host, and what it sends

`commits_kept`: in every state of every run, probe and commit describe entries of the two tables and differ in nothing
else, buffers are filled in the format of the commit, and each holds as many bytes as `dwMaxVideoFrameSize` said for
its entry. A host that commits what it read back as probe gets just that.
-/

namespace Uvcd

namespace TestApp

open Machine

/-! ## Controls -/

/-- The control describes the entry `frame` of `format`. -/
structure Describes (imgsize : UInt32) (c : StreamingControl) (format : FormatInfo) (frame : FrameInfo) : Prop where
  entry : Entry c.bFormatIndex.toNat c.bFrameIndex.toNat format frame
  size : c.dwMaxVideoFrameSize = maxVideoFrameSize imgsize format.fcc frame 0
  interval : c.dwFrameInterval.toNat ∈ frame.listed

variable {env : Env} {imgsize : UInt32} {app app' : App} {k : Kernel} {c t : StreamingControl} {format : FormatInfo}
  {frame : FrameInfo}

theorem uvcFormats_frames : ∀ format ∈ uvcFormats, ∀ frame ∈ format.listed, frame.WellFormed := by
  have hyuyv : ∀ frame ∈ uvcFramesYuyv.takeWhile (·.width ≠ 0), frame.WellFormed := fun frame hframe => by
    rw [show uvcFramesYuyv.takeWhile (·.width ≠ 0) = [⟨640, 360, [666666, 10000000, 50000000, 0, 0, 0, 0, 0]⟩,
      ⟨1280, 720, [50000000, 0, 0, 0, 0, 0, 0, 0]⟩] by decide] at hframe
    rcases List.mem_pair.mp hframe with rfl | rfl
    · exact ⟨rfl, by decide, by decide, by decide⟩
    · exact ⟨rfl, by decide, by decide, by decide⟩
  intro format hformat
  rcases List.mem_pair.mp hformat with rfl | rfl
  · exact hyuyv
  -- the frames of the two formats are the same
  · exact hyuyv

/-- All entries have a size of their own. -/
theorem maxVideoFrameSize_entry (hformat : format ∈ uvcFormats) (old : UInt32) :
    maxVideoFrameSize imgsize format.fcc frame old = maxVideoFrameSize imgsize format.fcc frame 0 := by
  rcases List.mem_pair.mp hformat with rfl | rfl <;> rfl

/-- The bytes of a picture, as `uvc_video_fill_buffer` and as `uvc_fill_streaming_control` compute them. -/
theorem Picture.Drawn.bytesused {p : Picture} {imgdata : Option Bytes} {color : UInt8}
    (h : p.Drawn imgsize imgdata color) (hformat : format ∈ uvcFormats) (hframe : frame ∈ format.listed)
    (hf : p.fcc = format.fcc) (hw : p.width = frame.width) (hh : p.height = frame.height) :
    p.bytesused = (maxVideoFrameSize imgsize format.fcc frame 0).toNat := by
  have hsizes : ∀ format ∈ uvcFormats, ∀ frame ∈ format.listed,
      (frame.width * frame.height * 2).toNat = frame.width.toNat * 2 * frame.height.toNat := by
    decide
  have hsize := hsizes format hformat frame hframe
  rcases List.mem_pair.mp hformat with rfl | rfl
  · rw [(h.pattern hf).1, hw, hh, ← hsize]
    rfl
  · exact (h.image hf).1

/-- **What a `DATA` event selects** is an entry, at the interval it is to pick. -/
theorem describes_select (c t : StreamingControl) :
    Describes imgsize (applySelection imgsize (selectFormat uvcFormats c) t) (selectFormat uvcFormats c).format
        (selectFormat uvcFormats c).frame ∧
      (selectFormat uvcFormats c).frame.Picks c.dwFrameInterval (selectFormat uvcFormats c).interval := by
  obtain ⟨i, j, format, frame, hentry, hi, hj, hsel⟩ := selectFormat_entry c
  obtain ⟨hformat, hframe⟩ := hentry.mem
  have hpicks := (uvcFormats_frames format hformat frame hframe).picks c.dwFrameInterval
  rw [hsel]
  refine ⟨⟨?_, maxVideoFrameSize_entry hformat _, hpicks.mem⟩, hpicks⟩
  show Entry (UInt8.ofNat i).toNat (UInt8.ofNat j).toNat format frame
  rw [hi, hj]
  exact hentry

/-- **A control that describes an entry selects that entry.** -/
theorem Describes.select (h : Describes imgsize c format frame) (t : StreamingControl) :
    applySelection imgsize (selectFormat uvcFormats c) t = t.adopt c ∧
      (selectFormat uvcFormats c).format = format ∧ (selectFormat uvcFormats c).frame = frame := by
  obtain ⟨hi₁, hformat, hj₁, hframe⟩ := h.entry
  obtain ⟨hmem, hlisted⟩ := h.entry.mem
  obtain ⟨hi, -⟩ := List.getElem?_eq_some_iff.mp hformat
  obtain ⟨hj, -⟩ := List.getElem?_eq_some_iff.mp hframe
  have hiclamp : clamp c.bFormatIndex.toNat 1 uvcFormats.length = c.bFormatIndex.toNat :=
    clamp_of_mem hi₁ (by omega)
  have hform : uvcFormats.getD (c.bFormatIndex.toNat - 1) FormatInfo.zero = format :=
    Option.some.inj ((formats_getElem? hi).symm.trans hformat)
  have hjclamp : clamp c.bFrameIndex.toNat 1 (countFrames format.frames) = c.bFrameIndex.toNat :=
    clamp_of_mem hj₁ (by show _ ≤ format.listed.length; omega)
  have hfr : format.frames.getD (c.bFrameIndex.toNat - 1) FrameInfo.zero = frame :=
    Option.some.inj ((format.listed_getElem? hj).symm.trans hframe)
  have hsel : selectFormat uvcFormats c =
      ⟨c.bFormatIndex.toNat, c.bFrameIndex.toNat, format, frame, c.dwFrameInterval⟩ := by
    simp only [selectFormat, hiclamp, hform, hjclamp, hfr,
      (uvcFormats_frames format hmem frame hlisted).scan_listed h.interval]
  rw [hsel]
  refine ⟨?_, rfl, rfl⟩
  rw [applySelection, StreamingControl.adopt, h.size]
  simp only [UInt8.ofNat_toNat, maxVideoFrameSize_entry hmem]

/-- Controls that differ in their entry only stay so when one of them is given another entry. -/
theorem adopt_applySelection (sel : Selection) (h : t.adopt c = c) :
    t.adopt (applySelection imgsize sel c) = applySelection imgsize sel c := by
  have heq : t.adopt (applySelection imgsize sel (t.adopt c)) = applySelection imgsize sel (t.adopt c) := rfl
  rwa [h] at heq

/-- **The control filled in** at the start describes the first entry. -/
theorem describes_fill (imgsize payload : UInt32) : ∃ format frame,
    Describes imgsize { uvcFillStreamingControl imgsize .zero 0 0 with dwMaxPayloadTransferSize := payload }
      format frame :=
  ⟨_, _, ⟨⟨Nat.le_refl 1, rfl, Nat.le_refl 1, rfl⟩, rfl, .head _⟩⟩

/-! ## The invariant -/

/-- A filled buffer holds a frame of an entry, or nothing. -/
def Picture.Listed (imgsize : UInt32) (p : Picture) : Prop :=
  (p.fcc = 0 ∧ p.width = 0 ∧ p.height = 0) ∨
    ∃ format ∈ uvcFormats, ∃ frame ∈ format.listed, p.fcc = format.fcc ∧ p.width = frame.width ∧
      p.height = frame.height ∧ p.bytesused = (maxVideoFrameSize imgsize format.fcc frame 0).toNat

/-- **What the program and the host have agreed on.** -/
structure App.Agreed (app : App) : Prop where
  probe : ∃ format frame, Describes app.dev.imgsize app.dev.probe format frame
  commit : ∃ format frame, Describes app.dev.imgsize app.dev.commit format frame ∧ app.dev.DrawsIn format frame
  adopt : app.dev.probe.adopt app.dev.commit = app.dev.commit
  filled : ∀ p ∈ app.filled, p.Listed app.dev.imgsize

/-- What leaves the agreement alone, and fills buffers by it. -/
structure App.Follows (app app' : App) : Prop where
  controls : app'.dev.probe = app.dev.probe ∧ app'.dev.commit = app.dev.commit
  draws : app'.dev.fcc = app.dev.fcc ∧ app'.dev.width = app.dev.width ∧ app'.dev.height = app.dev.height
  image : app'.dev.imgsize = app.dev.imgsize
  filled : ∀ p ∈ app'.filled, p ∈ app.filled ∨ ∃ color imgdata, p.fcc = app.dev.fcc ∧ p.width = app.dev.width ∧
    p.height = app.dev.height ∧ p.Drawn app.dev.imgsize imgdata color

theorem App.Follows.refl (app : App) : app.Follows app := ⟨⟨rfl, rfl⟩, ⟨rfl, rfl, rfl⟩, rfl, fun _ hp => .inl hp⟩

theorem App.Follows.trans {app'' : App} (h : app.Follows app') (h' : app'.Follows app'') : app.Follows app'' := by
  refine ⟨⟨h'.controls.1.trans h.controls.1, h'.controls.2.trans h.controls.2⟩, ⟨h'.draws.1.trans h.draws.1,
    h'.draws.2.1.trans h.draws.2.1, h'.draws.2.2.trans h.draws.2.2⟩, h'.image.trans h.image, fun p hp => ?_⟩
  rcases h'.filled p hp with hp | hp
  · exact h.filled p hp
  · rw [h.draws.1, h.draws.2.1, h.draws.2.2, h.image] at hp
    exact .inr hp

/-- Calls on the V4L2 device, and watches. -/
theorem App.Follows.of_eq (hf : app'.filled = app.filled)
    (hd : app'.dev = { app.dev with vdev := app'.dev.vdev, control := app'.dev.control, events := app'.dev.events }) :
    app.Follows app' := by
  refine ⟨?_, ?_, ?_, fun p hp => .inl (hf ▸ hp)⟩
  all_goals rw [hd]
  · exact ⟨rfl, rfl⟩
  · exact ⟨rfl, rfl, rfl⟩

theorem App.follows_watch (env : Env) (app : App) (type : EventType) (callback : Callback) :
    app.Follows (app.watch env type callback) := by
  unfold App.watch
  split
  · exact .of_eq rfl rfl
  · exact .of_eq rfl rfl

/-- A buffer is filled, and given to the driver. -/
theorem Fills.follows {dev : UvcDevice} {buf buf' : VideoBuffer} (h : Fills app.dev buf dev buf') (k : Kernel)
    (vdev : Device) (queued : List Nat) : app.Follows { app with
      kernel := k, dev := { dev with vdev := vdev }
      filled := app.filled ++ [dev.picture queued buf'] } := by
  have hdev := h.device
  have hdrawn := h.drawn queued
  refine ⟨?_, ?_, ?_, fun p hp => ?_⟩
  · rw [hdev]
    exact ⟨rfl, rfl⟩
  · rw [hdev]
    exact ⟨rfl, rfl, rfl⟩
  · rw [hdev]
  · rcases List.mem_append.mp hp with hp | hp
    · exact .inl hp
    · rw [List.mem_singleton.mp hp, show dev.picture queued buf' = app.dev.picture queued buf' by rw [hdev]; rfl]
      exact .inr ⟨_, _, rfl, rfl, rfl, hdrawn⟩

theorem App.Follows.offered (h : app.Follows app') (hoff : app.dev.Offered) : app'.dev.Offered := by
  unfold UvcDevice.Offered
  rw [h.draws.1, h.draws.2.1, h.draws.2.2]
  exact hoff

/-! ## The callbacks -/

theorem uvcVideoProcess_follows (hoff : app.dev.Offered) (hok : uvcVideoProcess env app = .ok app') :
    app.Follows app' := by
  unfold uvcVideoProcess at hok
  obtain ⟨⟨r, k₁, d₁⟩, -, hok⟩ := bind_eq_ok.mp hok
  dsimp only at hok
  split at hok
  · cases hok
    exact .of_eq rfl rfl
  · obtain ⟨⟨dev, buf'⟩, hfill, hok⟩ := bind_eq_ok.mp hok
    cases hok
    exact (uvcVideoFillBuffer_fills hoff hfill).follows _ _ _

theorem fillAndQueue_follows {n : Nat} : ∀ {i : Nat} {app : App} {ret : Int}, app.dev.Offered →
    fillAndQueue env i n app = .ok (ret, app') → app.Follows app' := by
  induction n with
  | zero => intro i app ret _ hok; cases hok; exact .refl _
  | succ n ih =>
      intro i app ret hoff hok
      rw [fillAndQueue] at hok
      split at hok
      · cases hok
      · obtain ⟨⟨dev, buf'⟩, hfill, hok⟩ := bind_eq_ok.mp hok
        dsimp only at hok
        generalize hq : v4l2QueueBuffer env app.kernel _ buf' = res at hok
        obtain ⟨ret₁, k₁, d₁⟩ := res
        have hone := (uvcVideoFillBuffer_fills hoff hfill).follows k₁ d₁ app.dev.vdev.file.queued
        dsimp only at hok
        split at hok
        · cases hok
          exact hone
        · exact hone.trans (ih (hone.offered hoff) hok)

theorem streamError_follows {ret ret' : Int} (hok : streamError env ret app = .ok (ret', app')) :
    app.Follows app' := by
  unfold streamError at hok
  obtain ⟨⟨r, k₁, d₁⟩, -, hok⟩ := bind_eq_ok.mp hok
  cases hok
  exact .of_eq rfl rfl

theorem uvcVideoStream_follows {enable : Bool} {ret : Int} (hoff : app.dev.Offered)
    (hok : uvcVideoStream env app enable = .ok (ret, app')) : app.Follows app' := by
  unfold uvcVideoStream at hok
  split at hok
  · obtain ⟨⟨r, k₁, d₁⟩, -, hok⟩ := bind_eq_ok.mp hok
    cases hok
    exact .of_eq rfl rfl
  · obtain ⟨⟨r₁, k₁, d₁⟩, -, hok⟩ := bind_eq_ok.mp hok
    have h₁ : app.Follows (app.putVdev k₁ d₁) := .of_eq rfl rfl
    dsimp only at hok
    split at hok
    · cases hok
      exact h₁
    · obtain ⟨⟨r₂, k₂, d₂⟩, -, hok⟩ := bind_eq_ok.mp hok
      have h₂ : app.Follows ((app.putVdev k₁ d₁).putVdev k₂ d₂) := .of_eq rfl rfl
      dsimp only at hok
      split at hok
      · exact h₂.trans (streamError_follows hok)
      · obtain ⟨⟨r₃, app₃⟩, hfill, hok⟩ := bind_eq_ok.mp hok
        have h₃ := h₂.trans (fillAndQueue_follows (h₂.offered hoff) hfill)
        dsimp only at hok
        split at hok
        · exact h₃.trans (streamError_follows hok)
        · generalize hon : v4l2StreamOn env app₃.kernel app₃.dev.vdev = res at hok
          obtain ⟨r₄, k₄, d₄⟩ := res
          cases hok
          have h₄ : app₃.Follows (app₃.putVdev k₄ d₄) := .of_eq rfl rfl
          exact h₃.trans (h₄.trans (App.follows_watch env _ _ _))

theorem uvcVideoSetFormat_follows {ret : Int} (hok : uvcVideoSetFormat env app = .ok (ret, app')) :
    app.Follows app' := by
  obtain ⟨k, fmt, fmt', vdev, -, rfl⟩ := uvcVideoSetFormat_spec hok
  exact .of_eq rfl rfl

namespace App.Agreed

theorem offered (h : app.Agreed) : app.dev.Offered := by
  obtain ⟨format, frame, hdesc, hdraws⟩ := h.commit
  exact hdesc.entry.offered hdraws

/-- Filling buffers keeps the agreement. -/
theorem follows (h : app.Agreed) (hf : app.Follows app') : app'.Agreed := by
  obtain ⟨⟨hprobe, hcommit⟩, ⟨hfcc, hwidth, hheight⟩, himage, hfilled⟩ := hf
  refine ⟨?_, ?_, ?_, fun p hp => ?_⟩
  · rw [himage, hprobe]
    exact h.probe
  · unfold UvcDevice.DrawsIn
    rw [himage, hcommit, hfcc, hwidth, hheight]
    exact h.commit
  · rw [hprobe, hcommit]
    exact h.adopt
  · rw [himage]
    rcases hfilled p hp with hp | ⟨color, imgdata, hpf, hpw, hph, hdrawn⟩
    · exact h.filled p hp
    · obtain ⟨format, frame, hdesc, hdraws⟩ := h.commit
      rcases hdraws with ⟨h0, hw0, hh0⟩ | ⟨hf', hw', hh'⟩
      · exact .inl ⟨hpf.trans h0, hpw.trans hw0, hph.trans hh0⟩
      · obtain ⟨hformat, hframe⟩ := hdesc.entry.mem
        refine .inr ⟨format, hformat, frame, hframe, hpf.trans hf', hpw.trans hw', hph.trans hh', ?_⟩
        exact hdrawn.bytesused hformat hframe (hpf.trans hf') (hpw.trans hw') (hph.trans hh')

/-- A `DATA` event for the probe. -/
theorem probes (h : app.Agreed) (ctrl : StreamingControl) : App.Agreed { app with
    dev := { app.dev with probe := applySelection app.dev.imgsize (selectFormat uvcFormats ctrl) app.dev.probe } } := by
  refine ⟨⟨_, _, (describes_select ctrl _).1⟩, h.commit, ?_, h.filled⟩
  have hadopt := h.adopt
  generalize selectFormat uvcFormats ctrl = sel
  exact hadopt

/-- A `DATA` event for the commit. -/
theorem commits (h : app.Agreed) (data : RequestData) : App.Agreed { app with dev := app.dev.committed data } := by
  refine ⟨h.probe, ⟨_, _, (describes_select (StreamingControl.ofBytes data.data) app.dev.commit).1,
    .inr ⟨rfl, rfl, rfl⟩⟩, ?_, h.filled⟩
  exact adopt_applySelection _ h.adopt

end App.Agreed

/-- **A commit**, and what comes of it. -/
theorem uvcEventsProcessData_commits {data : RequestData} (hc : app.dev.control = VS_COMMIT_CONTROL)
    (hok : uvcEventsProcessData env app data = .ok app') :
    App.Follows { app with dev := app.dev.committed data } app' := by
  rw [uvcEventsProcessData_commit hc] at hok
  obtain ⟨⟨r, app₁⟩, hset, hok⟩ := bind_eq_ok.mp hok
  have hoff := app.dev.committed_offered data
  have h₁ := uvcVideoSetFormat_follows hset
  split at hok
  · obtain ⟨⟨r₂, app₂⟩, hstream, hok⟩ := bind_eq_ok.mp hok
    cases hok
    exact h₁.trans (uvcVideoStream_follows (h₁.offered hoff) hstream)
  · cases hok
    exact h₁

theorem uvcEventsProcessData_agreed {data : RequestData} (h : app.Agreed)
    (hok : uvcEventsProcessData env app data = .ok app') : app'.Agreed := by
  by_cases hc : app.dev.control = VS_COMMIT_CONTROL
  · exact (h.commits data).follows (uvcEventsProcessData_commits hc hok)
  · unfold uvcEventsProcessData at hok
    dsimp only at hok
    rw [if_neg hc] at hok
    split at hok
    · cases hok
      exact h.probes _
    · cases hok
      exact h

theorem uvcEventsProcess_agreed (h : app.Agreed) (hok : uvcEventsProcess env app = .ok app') : app'.Agreed := by
  unfold uvcEventsProcess at hok
  have hpoll : App.Agreed { app with kernel := app.kernel.call (.ioctl app.dev.vdev.fd) } :=
    h.follows (.of_eq rfl rfl)
  dsimp only at hok
  split at hok
  · cases hok; exact hpoll
  · cases hok; exact hpoll
  · cases hok; exact hpoll
  · next req _ =>
      obtain ⟨c, hc⟩ := uvcEventsProcessSetup_device app.dev req .stall
      cases hok
      rw [hc]
      exact hpoll.follows (.of_eq rfl rfl)
  · exact uvcEventsProcessData_agreed hpoll hok
  · obtain ⟨⟨r, app₁⟩, hstream, hok⟩ := bind_eq_ok.mp hok
    cases hok
    exact hpoll.follows (uvcVideoStream_follows hpoll.offered hstream)
  · obtain ⟨⟨r, app₁⟩, hstream, hok⟩ := bind_eq_ok.mp hok
    cases hok
    exact hpoll.follows (uvcVideoStream_follows hpoll.offered hstream)
  · cases hok; exact hpoll.follows (.of_eq rfl rfl)

/-! ## Runs -/

theorem step_agreed {a : Action} (h : app.Agreed) (hstep : step env a app = .ok app') : app'.Agreed := by
  have hphase : ∀ phase, App.Agreed { app with phase := phase } := fun _ => h.follows (.of_eq rfl rfl)
  cases a with
  | signal =>
      rw [step] at hstep
      split at hstep
      · cases hstep
      · cases hstep
        exact h.follows (.of_eq rfl rfl)
  | select r =>
      rw [step] at hstep
      split at hstep
      · cases hstep; exact hphase _
      · cases hstep; exact h
  | interrupted =>
      rw [step] at hstep
      injection hstep with hstep
      rw [← hstep]
      split
      · exact hphase _
      · exact h
  | selectFailed =>
      rw [step] at hstep
      injection hstep with hstep
      rw [← hstep]
      split
      · exact hphase _
      · exact h
  | next =>
      rw [step, next] at hstep
      split at hstep
      · cases hstep
        exact (h.follows (App.follows_watch env _ _ _)).follows (.of_eq rfl rfl)
      · cases hstep; exact hphase _
      · cases hstep; exact h
      · cases hstep; exact hphase _
      · obtain ⟨app₁, hcall, hstep⟩ := bind_eq_ok.mp hstep
        have h₁ : app₁.Agreed := by
          unfold invoke at hcall
          split at hcall
          · exact uvcEventsProcess_agreed h hcall
          · exact h.follows (uvcVideoProcess_follows h.offered hcall)
          · cases hcall
        cases hstep
        exact h₁.follows (.of_eq rfl rfl)
      · cases hstep
        exact h.follows (.of_eq rfl rfl)
      · cases hstep; exact h

theorem Boots.agreed (h : Boots app) : app.Agreed := by
  obtain ⟨payload, hcontrols⟩ := h.controls
  obtain ⟨format, frame, hdesc⟩ := describes_fill app.dev.imgsize payload
  have hprobe := hcontrols _ (.inl rfl)
  have hcommit := hcontrols _ (.inr rfl)
  refine ⟨⟨format, frame, hprobe ▸ hdesc⟩, ⟨format, frame, hcommit ▸ hdesc, .inl h.format⟩, ?_, fun p hp => ?_⟩
  · rw [hprobe, hcommit]
    rfl
  · rw [h.filled] at hp
    cases hp

/-- **Commits are kept.** In every state of every run that does not fault, probe and commit describe entries of the
    tables and differ in nothing else, the program draws in the format of the commit, and every buffer filled is a frame
    of an entry, as long as `dwMaxVideoFrameSize` says for it. `DATA` for the probe picks the smallest listed interval
    that is not below the one asked for, or else the largest, and a host that commits what `GET_CUR` of the probe
    answers gets that. -/
theorem commits_kept {opts : Options} {as : List Action} (hboot : boot env k opts = some app)
    (hrun : run env as app = .ok app') : app'.Agreed ∧
      ∀ data app'', uvcEventsProcessData env app' data = .ok app'' →
        (app'.dev.control = VS_PROBE_CONTROL → ∃ format frame,
          Describes app'.dev.imgsize app''.dev.probe format frame ∧
            frame.Picks (StreamingControl.ofBytes data.data).dwFrameInterval app''.dev.probe.dwFrameInterval) ∧
        (app'.dev.control = VS_COMMIT_CONTROL → data.data.take 34 = app'.dev.probe.toBytes →
          app''.dev.commit = app'.dev.probe ∧ ∃ format frame,
            Describes app'.dev.imgsize app''.dev.commit format frame ∧ app''.dev.fcc = format.fcc ∧
              app''.dev.width = frame.width ∧ app''.dev.height = frame.height) := by
  have h : app'.Agreed := run_inv (fun _ _ _ h hstep => step_agreed h hstep) (boot_boots hboot).agreed hrun
  refine ⟨h, fun data app'' hok => ⟨fun hc => ?_, fun hc hecho => ?_⟩⟩
  · unfold uvcEventsProcessData at hok
    rw [if_pos hc] at hok
    cases hok
    exact ⟨_, _, describes_select _ _⟩
  · obtain ⟨⟨-, hcommit⟩, ⟨hfcc, hwidth, hheight⟩, -⟩ := uvcEventsProcessData_commits hc hok
    obtain ⟨format, frame, hdesc⟩ := h.probe
    have hdata : StreamingControl.ofBytes data.data = app'.dev.probe := by
      rw [← List.take_append_drop 34 data.data, hecho]
      exact app'.dev.probe.ofBytes_toBytes _
    obtain ⟨happly, hformat, hframe⟩ := hdesc.select app'.dev.commit
    have hswap : app'.dev.commit.adopt app'.dev.probe = app'.dev.probe := by
      rw [← h.adopt]
      rfl
    have hprobe : app''.dev.commit = app'.dev.probe := by
      rw [hcommit]
      show applySelection _ (selectFormat uvcFormats (StreamingControl.ofBytes data.data)) _ = _
      rw [hdata, happly, hswap]
    refine ⟨hprobe, format, frame, by rw [hprobe]; exact hdesc, ?_, ?_, ?_⟩
    · rw [hfcc, ← hformat, ← hdata]
      rfl
    · rw [hwidth, ← hframe, ← hdata]
      rfl
    · rw [hheight, ← hframe, ← hdata]
      rfl

/-- `UVC_SET_CUR` of the probe control, and its data stage: format 1, frame 1 and `dwFrameInterval` 700000. -/
def probeRequest : UvcEvent := .setup ⟨0x21, UVC_SET_CUR, 0x0100, UVC_INTF_STREAMING, 34⟩
def probeData : RequestData := ⟨34, [1, 0, 1, 1, 0x60, 0xae, 0x0a, 0] ++ List.replicate 52 0⟩

/-- The probe as it is read back, and the data stage that commits it. -/
def probeAnswer : StreamingControl := { uvcFillStreamingControl 0 .zero 0 0 with dwFrameInterval := 10000000 }
def echoData : RequestData := ⟨34, probeAnswer.toBytes ++ List.replicate 26 0⟩

/-- The host probes, commits what it reads back and starts the stream. -/
def negotiation : Env := .obliging [videoName 0]
  [(11, probeRequest), (13, .data probeData), (14, commitRequest), (16, .data echoData), (20, .streamon)]

/-- 700000 is between the first listed interval and the second, which is taken; the commit gets it too, and the four
    buffers of the stream hold frames of the entry. -/
theorem commits_kept_streaming :
    ∃ app, boot negotiation bareKernel ⟨videoName 0, false, none⟩ = some app ∧
      (∃ app₁ app₂, run negotiation (.next :: testTurn) app = .ok app₁ ∧
        uvcEventsProcessData negotiation app₁ probeData = .ok app₂ ∧ app₂.dev.probe.dwFrameInterval = 10000000 ∧
        ∃ format frame, Describes app₁.dev.imgsize app₂.dev.probe format frame ∧
          frame.Picks (StreamingControl.ofBytes probeData.data).dwFrameInterval app₂.dev.probe.dwFrameInterval) ∧
      (∃ app₁ app₂, run negotiation (.next :: testTurn ++ testTurn ++ testTurn) app = .ok app₁ ∧
        uvcEventsProcessData negotiation app₁ echoData = .ok app₂ ∧ app₂.dev.commit = app₁.dev.probe ∧
        ∃ format frame, Describes app₁.dev.imgsize app₂.dev.commit format frame ∧ app₂.dev.fcc = format.fcc ∧
          app₂.dev.width = frame.width ∧ app₂.dev.height = frame.height) ∧
      ∃ app', run negotiation (.next :: testTurn ++ testTurn ++ testTurn ++ testTurn ++ testTurn) app = .ok app' ∧
        app'.filled.map (·.bytesused) = [460800, 460800, 460800, 460800] ∧ app'.Agreed := by
  obtain ⟨app, hboot, ⟨app₁, hrun₁, hprobe, app₂, hdata, hpick⟩, ⟨app₃, hrun₃, hcommit, hecho, app₄, hdata', -⟩,
      app', hrun, hfilled⟩ : ∃ app, boot negotiation bareKernel ⟨videoName 0, false, none⟩ = some app ∧
      (∃ app₁, run negotiation (.next :: testTurn) app = .ok app₁ ∧ app₁.dev.control = VS_PROBE_CONTROL ∧
        ∃ app₂, uvcEventsProcessData negotiation app₁ probeData = .ok app₂ ∧
          app₂.dev.probe.dwFrameInterval = 10000000) ∧
      (∃ app₁, run negotiation (.next :: testTurn ++ testTurn ++ testTurn) app = .ok app₁ ∧
        app₁.dev.control = VS_COMMIT_CONTROL ∧ echoData.data.take 34 = app₁.dev.probe.toBytes ∧
        ∃ app₂, uvcEventsProcessData negotiation app₁ echoData = .ok app₂ ∧ app₂.dev.fcc = PixFormat.YUYV) ∧
      ∃ app', run negotiation (.next :: testTurn ++ testTurn ++ testTurn ++ testTurn ++ testTurn) app = .ok app' ∧
        app'.filled.map (·.bytesused) = [460800, 460800, 460800, 460800] := by
    decide +kernel
  refine ⟨app, hboot, ⟨app₁, app₂, hrun₁, hdata, hpick, ?_⟩, ⟨app₃, app₄, hrun₃, hdata', ?_⟩, app', hrun, hfilled,
    (commits_kept hboot hrun).1⟩
  · exact ((commits_kept hboot hrun₁).2 _ _ hdata).1 hprobe
  · exact ((commits_kept hboot hrun₃).2 _ _ hdata').2 hcommit hecho

end TestApp

end Uvcd
