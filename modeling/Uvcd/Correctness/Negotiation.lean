import Uvcd.Model.Daemon
import Uvcd.Refinement.Gadgets

/-!
# `Correctness.Negotiation` — what the host negotiates is an entry of the format table

`serve` is `uvc_gadget_process` for the two stages of a control request, over any format table. Over a
well-formed table a gadget's probe and commit controls describe entries of it after any requests
(`negotiation`), and the answer to `GET_CUR` given back as `SET_CUR` changes nothing.
-/

namespace Uvcd

open Machine

variable {env : Env} {formats : List FormatInfo} {g g' : Gadget} {io io' : Io}

/-! ## Requests of the host -/

/-- One stage of a control request. -/
inductive HostRequest where
  | setup (req : CtrlRequest)
  | data (d : RequestData)

def HostRequest.event : HostRequest → UvcEvent
  | .setup req => .setup req
  | .data d => .data d

/-- `uvc_gadget_process` on a SETUP or DATA event, with the format table it is built with. -/
def serve (formats : List FormatInfo) (env : Env) (r : HostRequest) (s : Gadget × Io) :
    Except Fault (Gadget × Io) :=
  let (g, io) := s
  let io := { io with kernel := io.kernel.call (.ioctl g.vdev.fd) }
  match r with
  | .setup req =>
    let (g, resp) := uvcEventsProcessSetup formats g req .stall
    .ok (sendResponse io g resp)
  | .data d => uvcEventsProcessData formats env io g d

/-- The daemon serves the requests its gadgets dequeue, over `uvcFormats`. -/
theorem uvcGadgetProcess_serve {r : HostRequest}
    (h : env.dqevent io.kernel.tick g.vdev.file = .ok r.event) :
    uvcGadgetProcess env io g = serve uvcFormats env r (g, io) := by
  unfold uvcGadgetProcess
  rw [h]
  cases r <;> rfl

/-- A gadget as `uvc_gadget_attach` leaves it, and the world it is in. -/
def attached (formats : List FormatInfo) (env : Env) (io : Io) (addr : Nat) (dev : Device) (id : UInt32) :
    Gadget × Io :=
  let (_, g, k) := uvcGadgetInit formats env io.kernel (.fresh addr dev id)
  (g, { io with kernel := k })

/-- The request is `request` of the control `cs` of the streaming interface. -/
structure Asks (req : CtrlRequest) (request cs : UInt8) : Prop where
  type : req.bRequestType &&& USB_TYPE_MASK = USB_TYPE_CLASS
  recipient : req.bRequestType &&& USB_RECIP_MASK = USB_RECIP_INTERFACE
  interface : req.wIndex &&& 0xff = UVC_INTF_STREAMING
  request : req.bRequest = request
  control : (req.wValue >>> 8).toUInt8 = cs

/-- The control describes an entry, at the interval the host's data asks for. -/
def Settles (formats : List FormatInfo) (d : RequestData) (c : StreamingControl) : Prop :=
  ∃ format frame, Describes formats c format frame ∧
    frame.Picks (StreamingControl.ofBytes d.data).dwFrameInterval c.dwFrameInterval

/-! ## One request -/

theorem uvcVideoSetFormat_gadget (env : Env) (io : Io) (g : Gadget) :
    ∃ dev, (uvcVideoSetFormat env io g).2.1 = { g with vdev := dev } := by
  unfold uvcVideoSetFormat
  split
  · exact ⟨g.vdev, rfl⟩
  · dsimp only
    split <;> exact ⟨_, rfl⟩

/-- `GET_CUR` of the probe control answers with the probe control. -/
theorem uvcEventsProcessSetup_getCur {req : CtrlRequest} (formats : List FormatInfo) (g : Gadget)
    (h : Asks req UVC_GET_CUR VS_PROBE_CONTROL) (resp : RequestData) :
    uvcEventsProcessSetup formats g req resp =
      ({ g with control := 0 }, ({ resp with length := streamingControlSize }).putControl g.probe) := by
  unfold uvcEventsProcessSetup uvcEventsProcessClass
  dsimp only
  rw [if_pos h.type, if_neg (not_not.mpr h.recipient), if_pos h.interface, h.control, h.request]
  rfl

/-- `SET_CUR` makes its control the one the next data is for. -/
theorem uvcEventsProcessSetup_setCur {req : CtrlRequest} {cs : UInt8} (formats : List FormatInfo) (g : Gadget)
    (h : Asks req UVC_SET_CUR cs) (hcs : cs = VS_PROBE_CONTROL ∨ cs = VS_COMMIT_CONTROL)
    (resp : RequestData) :
    uvcEventsProcessSetup formats g req resp = ({ g with control := cs }, { resp with length := 34 }) := by
  unfold uvcEventsProcessSetup uvcEventsProcessClass
  dsimp only
  rw [if_pos h.type, if_neg (not_not.mpr h.recipient), if_pos h.interface, h.control, h.request]
  rcases hcs with rfl | rfl <;> rfl

/-- A SETUP stage is answered; of the gadget it changes what the next data is for. -/
theorem serve_setup (formats : List FormatInfo) (env : Env) (req : CtrlRequest) (g : Gadget) (io : Io) :
    ∃ dev io', serve formats env (.setup req) (g, io) =
        .ok ({ (uvcEventsProcessSetup formats g req .stall).1 with vdev := dev }, io') ∧
      dev.file.response = some (uvcEventsProcessSetup formats g req .stall).2 :=
  ⟨_, _, rfl, rfl⟩

/-- The data of a probe. -/
theorem serve_probe (formats : List FormatInfo) (env : Env) (d : RequestData)
    (hc : g.control = VS_PROBE_CONTROL) (io : Io) :
    ∃ io', serve formats env (.data d) (g, io) =
      .ok ({ g with probe := (selectFormat formats (StreamingControl.ofBytes d.data)).apply g.probe }, io') := by
  unfold serve uvcEventsProcessData
  dsimp only
  rw [if_pos hc]
  exact ⟨_, rfl⟩

/-- The data of a commit, on a gadget that is not a bulk one. -/
theorem serve_commit (formats : List FormatInfo) (env : Env) (d : RequestData)
    (hc : g.control = VS_COMMIT_CONTROL) (hb : g.bulk = 0) (io : Io) :
    ∃ dev io', serve formats env (.data d) (g, io) = .ok ({ g with
      commit := (selectFormat formats (StreamingControl.ofBytes d.data)).apply g.commit
      fcc := (selectFormat formats (StreamingControl.ofBytes d.data)).format.fcc
      width := (selectFormat formats (StreamingControl.ofBytes d.data)).frame.width
      height := (selectFormat formats (StreamingControl.ofBytes d.data)).frame.height
      vdev := dev }, io') := by
  unfold serve uvcEventsProcessData
  dsimp only
  rw [if_neg (by rw [hc]; decide), if_pos hc]
  generalize hset : uvcVideoSetFormat env { io with kernel := io.kernel.call (.ioctl g.vdev.fd) } _ = r
  obtain ⟨dev, hdev⟩ := uvcVideoSetFormat_gadget env
    { io with kernel := io.kernel.call (.ioctl g.vdev.fd) }
    { g with
      commit := (selectFormat formats (StreamingControl.ofBytes d.data)).apply g.commit
      fcc := (selectFormat formats (StreamingControl.ofBytes d.data)).format.fcc
      width := (selectFormat formats (StreamingControl.ofBytes d.data)).frame.width
      height := (selectFormat formats (StreamingControl.ofBytes d.data)).frame.height }
  rw [hset] at hdev
  obtain ⟨ret, g₁, io₁⟩ := r
  dsimp only at hdev ⊢
  subst hdev
  rw [if_neg (not_not.mpr hb)]
  exact ⟨_, _, rfl⟩

/-- Data for anything else. -/
theorem serve_other (formats : List FormatInfo) (env : Env) (d : RequestData)
    (hp : g.control ≠ VS_PROBE_CONTROL) (hc : g.control ≠ VS_COMMIT_CONTROL) (io : Io) :
    ∃ io', serve formats env (.data d) (g, io) = .ok (g, io') := by
  unfold serve uvcEventsProcessData
  dsimp only
  rw [if_neg hp, if_neg hc]
  exact ⟨_, rfl⟩

/-! ## What requests keep -/

/-- Both controls describe an entry, and differ in their entry only. -/
structure Negotiating (formats : List FormatInfo) (g : Gadget) : Prop where
  probe : ∃ format frame, Describes formats g.probe format frame
  commit : ∃ format frame, Describes formats g.commit format frame
  agree : g.commit.adopt g.probe = g.probe
  isochronous : g.bulk = 0

theorem attached_negotiating (hf : TableWellFormed formats) (env : Env) (io : Io) (addr : Nat) (dev : Device)
    (id : UInt32) : Negotiating formats (attached formats env io addr dev id).1 where
  probe := hf.fill .zero (.inl rfl)
  commit := hf.fill .zero (.inl rfl)
  agree := rfl
  isochronous := rfl

/-- **Step lemma.** A request is served without a fault and keeps the controls negotiated; data settles the
    control it is for and leaves the other one alone. -/
theorem Negotiating.serve (hf : TableWellFormed formats) (hg : Negotiating formats g) (env : Env)
    (r : HostRequest) (io : Io) :
    ∃ g' io', Uvcd.serve formats env r (g, io) = .ok (g', io') ∧ Negotiating formats g' ∧
      ∀ d, r = .data d →
        (g.control = VS_PROBE_CONTROL → Settles formats d g'.probe ∧ g'.commit = g.commit) ∧
        (g.control = VS_COMMIT_CONTROL → Settles formats d g'.commit ∧ g'.probe = g.probe) := by
  cases r with
  | setup req =>
      obtain ⟨c, hc⟩ := uvcEventsProcessSetup_gadget formats g req .stall
      obtain ⟨dev, io', h, -⟩ := serve_setup formats env req g io
      rw [hc] at h
      exact ⟨_, io', h, ⟨hg.probe, hg.commit, hg.agree, hg.isochronous⟩, fun d hd => by cases hd⟩
  | data d =>
      by_cases hp : g.control = VS_PROBE_CONTROL
      · obtain ⟨io', h⟩ := serve_probe formats env d hp io
        obtain ⟨hd, hpick⟩ := hf.select (StreamingControl.ofBytes d.data) g.probe
        refine ⟨_, io', h, ⟨⟨_, _, hd⟩, hg.commit, adopt_apply _ hg.agree, hg.isochronous⟩, ?_⟩
        rintro _ ⟨⟩
        exact ⟨fun _ => ⟨⟨_, _, hd, hpick⟩, rfl⟩, fun hc => by rw [hp] at hc; cases hc⟩
      · by_cases hc : g.control = VS_COMMIT_CONTROL
        · obtain ⟨dev, io', h⟩ := serve_commit formats env d hc hg.isochronous io
          obtain ⟨hd, hpick⟩ := hf.select (StreamingControl.ofBytes d.data) g.commit
          refine ⟨_, io', h, ⟨hg.probe, ⟨_, _, hd⟩, hg.agree, hg.isochronous⟩, ?_⟩
          rintro _ ⟨⟩
          exact ⟨fun h => absurd h hp, fun _ => ⟨⟨_, _, hd, hpick⟩, rfl⟩⟩
        · obtain ⟨io', h⟩ := serve_other formats env d hp hc io
          exact ⟨g, io', h, hg, fun _ _ => ⟨fun h => absurd h hp, fun h => absurd h hc⟩⟩

/-- **Run lemma.** -/
theorem Negotiating.run (hf : TableWellFormed formats) (hg : Negotiating formats g) (env : Env)
    (rs : List HostRequest) (io : Io) :
    ∃ g' io', Machine.run (Uvcd.serve formats env) rs (g, io) = .ok (g', io') ∧ Negotiating formats g' := by
  induction rs generalizing g io with
  | nil => exact ⟨g, io, rfl, hg⟩
  | cons r rs ih =>
      obtain ⟨g₁, io₁, h₁, hg₁, -⟩ := hg.serve hf env r io
      obtain ⟨g₂, io₂, h₂, hg₂⟩ := ih hg₁ io₁
      exact ⟨g₂, io₂, run_cons_ok.mpr ⟨_, h₁, h₂⟩, hg₂⟩

/-- **The fixpoint.** Data that carries the probe control leaves it as it is when it is for the probe, and
    makes the commit control equal to it when it is for the commit. -/
theorem Negotiating.echo (hf : TableWellFormed formats) (hg : Negotiating formats g) (env : Env)
    {set : CtrlRequest} {d : RequestData} {cs : UInt8} (hset : Asks set UVC_SET_CUR cs)
    (hcs : cs = VS_PROBE_CONTROL ∨ cs = VS_COMMIT_CONTROL) (hd : StreamingControl.ofBytes d.data = g.probe)
    (io : Io) :
    ∃ g' io', Machine.run (Uvcd.serve formats env) [.setup set, .data d] (g, io) = .ok (g', io') ∧
      g'.probe = g.probe ∧ (cs = VS_COMMIT_CONTROL → g'.commit = g.probe) := by
  obtain ⟨dev, io₁, h₁, -⟩ := serve_setup formats env set g io
  rw [uvcEventsProcessSetup_setCur formats g hset hcs] at h₁
  obtain ⟨format, frame, hdesc⟩ := hg.probe
  rcases hcs with rfl | rfl
  · obtain ⟨io₂, h₂⟩ := serve_probe (g := { g with control := VS_PROBE_CONTROL, vdev := dev }) formats env d
      rfl io₁
    refine ⟨_, io₂, run_cons_ok.mpr ⟨_, h₁, run_cons_ok.mpr ⟨_, h₂, rfl⟩⟩, ?_, fun h => by cases h⟩
    rw [hd]
    exact hdesc.select hf g.probe
  · obtain ⟨dev₂, io₂, h₂⟩ :=
      serve_commit (g := { g with control := VS_COMMIT_CONTROL, vdev := dev }) formats env d rfl
        hg.isochronous io₁
    refine ⟨_, io₂, run_cons_ok.mpr ⟨_, h₁, run_cons_ok.mpr ⟨_, h₂, rfl⟩⟩, rfl, fun _ => ?_⟩
    dsimp only
    rw [hd, hdesc.select hf g.commit]
    exact hg.agree

/-! ## Runs -/

/-- **Negotiation.** However the host probes and commits, both controls describe an entry of the table, data
    picks the smallest listed interval that is not below the one it asks for, or the largest, and the
    answer to `GET_CUR` of the probe is a fixpoint of `SET_CUR`. -/
theorem negotiation (hf : TableWellFormed formats) (env : Env) (io : Io) (addr : Nat) (dev : Device)
    (id : UInt32) (rs : List HostRequest) :
    ∃ g io', Machine.run (serve formats env) rs (attached formats env io addr dev id) = .ok (g, io') ∧
      (∃ format frame, Describes formats g.probe format frame) ∧
      (∃ format frame, Describes formats g.commit format frame) ∧
      (∀ d, ∃ g₁ io₁, serve formats env (.data d) (g, io') = .ok (g₁, io₁) ∧
        (g.control = VS_PROBE_CONTROL → Settles formats d g₁.probe ∧ g₁.commit = g.commit) ∧
        (g.control = VS_COMMIT_CONTROL → Settles formats d g₁.commit ∧ g₁.probe = g.probe)) ∧
      ∀ get, Asks get UVC_GET_CUR VS_PROBE_CONTROL →
        ∃ g₁ io₁ answer, serve formats env (.setup get) (g, io') = .ok (g₁, io₁) ∧
          g₁.vdev.file.response = some answer ∧ answer.length = 34 ∧
          ∀ set d cs, Asks set UVC_SET_CUR cs → d.data.take 34 = answer.data.take 34 →
            (cs = VS_PROBE_CONTROL → ∃ g₂ io₂,
              Machine.run (serve formats env) [.setup set, .data d] (g₁, io₁) = .ok (g₂, io₂) ∧
                g₂.probe = g.probe) ∧
            (cs = VS_COMMIT_CONTROL → ∃ g₂ io₂,
              Machine.run (serve formats env) [.setup set, .data d] (g₁, io₁) = .ok (g₂, io₂) ∧
                g₂.probe = g.probe ∧ g₂.commit.toBytes = g₂.probe.toBytes) := by
  obtain ⟨g, io', h, hg⟩ := (attached_negotiating hf env io addr dev id).run hf env rs
    (attached formats env io addr dev id).2
  refine ⟨g, io', h, hg.probe, hg.commit, fun d => ?_, fun get hget => ?_⟩
  · obtain ⟨g₁, io₁, h₁, -, hset⟩ := hg.serve hf env (.data d) io'
    exact ⟨g₁, io₁, h₁, hset d rfl⟩
  · obtain ⟨dev₁, io₁, h₁, hresp⟩ := serve_setup formats env get g io'
    rw [uvcEventsProcessSetup_getCur formats g hget] at h₁ hresp
    refine ⟨_, io₁, _, h₁, hresp, rfl, fun set d cs hset hd => ?_⟩
    have hg₁ : Negotiating formats { g with control := 0, vdev := dev₁ } :=
      ⟨hg.probe, hg.commit, hg.agree, hg.isochronous⟩
    -- the host gives back the bytes of the probe control
    have hbytes : StreamingControl.ofBytes d.data = g.probe := by
      have htake : d.data.take 34 = g.probe.toBytes := hd
      rw [← List.take_append_drop 34 d.data, htake]
      exact g.probe.ofBytes_toBytes _
    constructor
    · rintro rfl
      obtain ⟨g₂, io₂, h₂, hprobe, -⟩ := hg₁.echo hf env hset (.inl rfl) hbytes io₁
      exact ⟨g₂, io₂, h₂, hprobe⟩
    · rintro rfl
      obtain ⟨g₂, io₂, h₂, hprobe, hcommit⟩ := hg₁.echo hf env hset (.inr rfl) hbytes io₁
      exact ⟨g₂, io₂, h₂, hprobe, by rw [hcommit rfl, hprobe]⟩

/-- A commit over the table the daemon is built with. -/
theorem negotiation_uvcFormats :
    ∃ g io', Machine.run (serve uvcFormats (.obliging [] [])) [.setup ⟨0x21, UVC_SET_CUR, 0x0200, 1, 34⟩,
      .data ⟨34, []⟩]
        (attached uvcFormats (.obliging [] []) (boot (.obliging [] []) [] fun _ => .zero).io 0
          ⟨6, videoName 0, .videoOutput, .unset, [], .zero, 0, [], .fresh 0⟩ 1) = .ok (g, io') ∧
      (∃ format frame, Describes uvcFormats g.probe format frame) ∧
      ∃ format frame, Describes uvcFormats g.commit format frame := by
  obtain ⟨g, io', h, hprobe, hcommit, -⟩ := negotiation uvcFormats_wellFormed (.obliging [] [])
    (boot (.obliging [] []) [] fun _ => .zero).io 0
    ⟨6, videoName 0, .videoOutput, .unset, [], .zero, 0, [], .fresh 0⟩ 1
    [.setup ⟨0x21, UVC_SET_CUR, 0x0200, 1, 34⟩, .data ⟨34, []⟩]
  exact ⟨g, io', h, hprobe, hcommit⟩

end Uvcd
