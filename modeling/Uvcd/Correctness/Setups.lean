import Mathlib.Data.List.Induction
import Uvcd.Correctness.Negotiation
import Uvcd.Lib.Framing

/-!
# `Correctness.Setups` — what SETUP packets are answered, and which data they let in

A packet **addresses** the probe or the commit control when it is a class request to the streaming interface
with that selector; every other packet passes the dispatchers untouched and stays a stall. `setup_answered_iff`
says for which packets the answer is the one to expect: a request no `case` of the innermost switch matches is
answered with the length set before the switch, and `GET_LEN` gives the length of a control with its two bytes
swapped.

`controls_last_set` is about the two stages together, over any sequence of events: the data stage writes the
control that the last packet set, and `GET_CUR` answers with what was last written.
-/

namespace Uvcd

open Machine Framing

variable {env : Env} {formats : List FormatInfo} {g g' : Gadget} {io io' : Io} {req : CtrlRequest} {cs : UInt8}

/-! ## Packets -/

/-- The two controls that are negotiated. -/
def controls : List UInt8 := [VS_PROBE_CONTROL, VS_COMMIT_CONTROL]

/-- The requests there are for each of them. -/
def requests : List UInt8 :=
  [UVC_SET_CUR, UVC_GET_CUR, UVC_GET_MIN, UVC_GET_MAX, UVC_GET_RES, UVC_GET_LEN, UVC_GET_INFO, UVC_GET_DEF]

/-- Those that carry a whole control. -/
def wholeRequests : List UInt8 :=
  [UVC_SET_CUR, UVC_GET_CUR, UVC_GET_MIN, UVC_GET_MAX, UVC_GET_RES, UVC_GET_DEF]

/-- The packet is some request of the control. -/
def Addresses (req : CtrlRequest) (cs : UInt8) : Prop := Asks req req.bRequest cs

theorem Asks.addresses {request : UInt8} (h : Asks req request cs) : Addresses req cs :=
  ⟨h.type, h.recipient, h.interface, rfl, h.control⟩

/-- What the gadget answers to a packet. -/
def setupAnswer (g : Gadget) (req : CtrlRequest) : RequestData :=
  (uvcEventsProcessSetup uvcFormats g req .stall).2

/-! ## The dispatchers -/

/-- A packet for one of the two controls gets through to the innermost dispatcher. -/
theorem Addresses.streaming (h : Addresses req cs) (formats : List FormatInfo) (g : Gadget) (resp : RequestData) :
    uvcEventsProcessSetup formats g req resp =
      uvcEventsProcessStreaming formats { g with control := 0 } req.bRequest cs resp := by
  unfold uvcEventsProcessSetup uvcEventsProcessClass
  dsimp only
  rw [if_pos h.type, if_neg (not_not.mpr h.recipient), if_pos h.interface, h.control]

/-- Any other packet is let drop, and no data is expected. -/
theorem uvcEventsProcessSetup_unaddressed (hno : ∀ cs ∈ controls, ¬Addresses req cs) (formats : List FormatInfo)
    (g : Gadget) (resp : RequestData) :
    uvcEventsProcessSetup formats g req resp = ({ g with control := 0 }, resp) := by
  unfold uvcEventsProcessSetup uvcEventsProcessClass
  dsimp only
  by_cases htype : req.bRequestType &&& USB_TYPE_MASK = USB_TYPE_CLASS
  · rw [if_pos htype]
    by_cases hrecip : req.bRequestType &&& USB_RECIP_MASK = USB_RECIP_INTERFACE
    · rw [if_neg (not_not.mpr hrecip)]
      by_cases hintf : req.wIndex &&& 0xff = UVC_INTF_STREAMING
      · rw [if_pos hintf]
        have hother : (req.wValue >>> 8).toUInt8 ≠ VS_PROBE_CONTROL ∧ (req.wValue >>> 8).toUInt8 ≠ VS_COMMIT_CONTROL :=
          ⟨fun hcs => hno _ (by simp [controls]) ⟨htype, hrecip, hintf, rfl, hcs⟩,
            fun hcs => hno _ (by simp [controls]) ⟨htype, hrecip, hintf, rfl, hcs⟩⟩
        rw [uvcEventsProcessStreaming, if_pos hother]
      · rw [if_neg hintf]
    · rw [if_pos hrecip]
  · rw [if_neg htype]

/-- The first test of the innermost dispatcher is passed. -/
theorem controls_passed (hcs : cs ∈ controls) : ¬(cs ≠ VS_PROBE_CONTROL ∧ cs ≠ VS_COMMIT_CONTROL) := by
  unfold controls at hcs
  rintro ⟨hp, hc⟩
  rcases List.mem_pair.mp hcs with rfl | rfl
  · exact hp rfl
  · exact hc rfl

/-! ## The answers -/

/-- Each request that carries a whole control has its length. -/
theorem setupAnswer_whole (hcs : cs ∈ controls) (h : Addresses req cs) (hreq : req.bRequest ∈ wholeRequests)
    (g : Gadget) : (setupAnswer g req).length = 34 := by
  unfold setupAnswer
  rw [h.streaming, uvcEventsProcessStreaming, if_neg (controls_passed hcs)]
  unfold wholeRequests at hreq
  simp only [List.mem_cons, List.not_mem_nil, or_false] at hreq
  rcases hreq with hr | hr | hr | hr | hr | hr <;> · rw [hr]; rfl

/-- The two bytes of the answer to `GET_LEN`. -/
theorem setupAnswer_getLen (hcs : cs ∈ controls) (h : Asks req UVC_GET_LEN cs) (g : Gadget) :
    (setupAnswer g req).data.take 2 = [0x00, 0x22] := by
  unfold setupAnswer
  rw [h.addresses.streaming, h.request, uvcEventsProcessStreaming, if_neg (controls_passed hcs)]
  rfl

/-- A request that no case matches is answered with the length set beforehand. -/
theorem setupAnswer_unknown (hcs : cs ∈ controls) (h : Addresses req cs) (hreq : req.bRequest ∉ requests)
    (g : Gadget) : (setupAnswer g req).length = 34 := by
  unfold setupAnswer
  rw [h.streaming, uvcEventsProcessStreaming, if_neg (controls_passed hcs)]
  unfold requests at hreq
  simp only [List.mem_cons, List.not_mem_nil, or_false, not_or] at hreq
  obtain ⟨hset, hcur, hmin, hmax, hres, hlen, hinfo, hdef⟩ := hreq
  dsimp only
  rw [if_neg hset, if_neg hcur, if_neg (by rintro (h | h | h) <;> contradiction), if_neg hres, if_neg hlen,
    if_neg hinfo]
  rfl

/-- **The answer to expect.** A packet that is none of the requests there are is stalled, and the length that
    `GET_LEN` gives, read little-endian, is that of every answer and data stage that carries a whole control. -/
structure Answered (g : Gadget) (req : CtrlRequest) (resp : RequestData) : Prop where
  stalled : (¬∃ request ∈ requests, ∃ cs ∈ controls, Asks req request cs) → resp.length = Errno.EL2HLT.neg
  lengths : ∀ cs ∈ controls, Asks req UVC_GET_LEN cs → ∀ other, ∀ request ∈ wholeRequests, Asks other request cs →
    (leValue (resp.data.take 2) : Int) = (setupAnswer g other).length

/-- A `SET_CUR` of a control. -/
def setCur (cs : UInt8) : CtrlRequest := ⟨0x21, UVC_SET_CUR, cs.toUInt16 <<< 8, UVC_INTF_STREAMING, 34⟩

theorem setCur_asks (hcs : cs ∈ controls) : Asks (setCur cs) UVC_SET_CUR cs := by
  unfold controls at hcs
  rcases List.mem_pair.mp hcs with rfl | rfl <;> exact ⟨by decide, by decide, by decide, rfl, by decide⟩

/-- Whatever the gadget negotiated, `GET_LEN` gives another length than a control has. -/
theorem not_answered_getLen (hcs : cs ∈ controls) (h : Asks req UVC_GET_LEN cs) (g : Gadget) :
    ¬Answered g req (setupAnswer g req) := by
  intro hok
  have hset := setCur_asks hcs
  have hlen := hok.lengths cs hcs h (setCur cs) UVC_SET_CUR (by decide) hset
  rw [setupAnswer_getLen hcs h, setupAnswer_whole hcs hset.addresses (by rw [hset.request]; decide)] at hlen
  exact absurd hlen (by decide)

/-- A request there is not is not stalled. -/
theorem not_answered_unknown (hcs : cs ∈ controls) (h : Addresses req cs) (hreq : req.bRequest ∉ requests)
    (g : Gadget) : ¬Answered g req (setupAnswer g req) := by
  intro hok
  have hno : ¬∃ request ∈ requests, ∃ cs ∈ controls, Asks req request cs := by
    rintro ⟨request, hmem, _, -, hasks⟩
    exact hreq (hasks.request ▸ hmem)
  have hlen := hok.stalled hno
  rw [setupAnswer_unknown hcs h hreq] at hlen
  exact absurd hlen (by decide)

/-- **Which packets are answered as expected**: those that address neither control, and the requests there are
    other than `GET_LEN`. -/
theorem setup_answered_iff (hev : env.dqevent io.kernel.tick g.vdev.file = .ok (.setup req)) :
    ∃ g' io' resp, uvcGadgetProcess env io g = .ok (g', io') ∧ g'.vdev.file.response = some resp ∧
      (Answered g req resp ↔
        ∀ cs ∈ controls, Addresses req cs → req.bRequest ∈ requests ∧ req.bRequest ≠ UVC_GET_LEN) := by
  have hproc := uvcGadgetProcess_serve (g := g) (r := .setup req) hev
  obtain ⟨dev, io', hserve, hresp⟩ := serve_setup uvcFormats env req g io
  refine ⟨_, io', setupAnswer g req, hproc.trans hserve, hresp, ?_⟩
  constructor
  · intro hok cs hcs haddr
    have hmem : req.bRequest ∈ requests := by
      by_contra hreq
      exact not_answered_unknown hcs haddr hreq g hok
    refine ⟨hmem, fun hlen => ?_⟩
    exact not_answered_getLen hcs ⟨haddr.type, haddr.recipient, haddr.interface, hlen, haddr.control⟩ g hok
  · intro hcond
    refine ⟨fun hno => ?_, fun cs hcs hasks => ?_⟩
    · -- one that addresses a control would be one of its requests
      have hun : ∀ cs ∈ controls, ¬Addresses req cs := fun cs hcs haddr =>
        hno ⟨req.bRequest, (hcond cs hcs haddr).1, cs, hcs, haddr⟩
      unfold setupAnswer
      rw [uvcEventsProcessSetup_unaddressed hun]
      rfl
    · exact absurd hasks.request (hcond cs hcs hasks.addresses).2

/-- A gadget just allocated, and a `GET_CUR` of its probe control. -/
def idleGadget : Gadget := .fresh 0 ⟨6, videoName 0, .videoOutput, .unset, [], .zero, 0, [], .fresh 0⟩ 1
def getCurProbe : CtrlRequest := ⟨0xa1, UVC_GET_CUR, 0x0100, UVC_INTF_STREAMING, 34⟩

/-- It is answered as expected. -/
theorem setup_answered_getCur : ∃ g' io' resp,
    uvcGadgetProcess (.obliging [] [(9, .setup getCurProbe)]) (boot (.obliging [] []) [] fun _ => .zero).io idleGadget
        = .ok (g', io') ∧
      g'.vdev.file.response = some resp ∧ Answered idleGadget getCurProbe resp := by
  obtain ⟨g', io', resp, h, hresp, hiff⟩ := @setup_answered_iff (.obliging [] [(9, .setup getCurProbe)]) idleGadget
    (boot (.obliging [] []) [] fun _ => .zero).io getCurProbe rfl
  exact ⟨g', io', resp, h, hresp, hiff.mpr fun _ _ _ => ⟨by decide, by decide⟩⟩

/-- The packets of a gadget in use that are not: `GET_LEN` of the probe control, and request `0x00` of it. -/
theorem not_answered : ∃ s, Reaches (bench 50) s ∧ ∃ g ∈ s.gadgets,
    ¬Answered g ⟨0xa1, UVC_GET_LEN, 0x0100, 1, 2⟩ (setupAnswer g ⟨0xa1, UVC_GET_LEN, 0x0100, 1, 2⟩) ∧
      ¬Answered g ⟨0xa1, 0x00, 0x0100, 1, 34⟩ (setupAnswer g ⟨0xa1, 0x00, 0x0100, 1, 34⟩) := by
  obtain ⟨s, h, hone⟩ : ∃ s, run (bench 50) ([.next, .next] ++ turn [3] 12) (benchBoot 50) = .ok s ∧
      s.gadgets.length = 1 := by
    decide +kernel
  obtain ⟨g, hg⟩ := List.length_eq_one_iff.mp hone
  have hprobe : VS_PROBE_CONTROL ∈ controls := by decide
  refine ⟨s, ⟨_, _, _, h⟩, g, by rw [hg]; exact List.mem_cons_self, ?_, ?_⟩
  · exact not_answered_getLen hprobe ⟨by decide, by decide, by decide, rfl, by decide⟩ g
  · exact not_answered_unknown hprobe ⟨by decide, by decide, by decide, rfl, by decide⟩ (by decide) g

/-! ## Histories -/

/-- The most recent packet of a history, which has its latest event first. -/
def lastSetup : List HostRequest → Option CtrlRequest
  | [] => none
  | .setup req :: _ => some req
  | .data _ :: earlier => lastSetup earlier

/-- The data stage that comes now is for the control `cs`. -/
def Armed (cs : UInt8) (history : List HostRequest) : Prop :=
  match lastSetup history with
  | none => False
  | some req => Asks req UVC_SET_CUR cs

instance (req : CtrlRequest) (request cs : UInt8) : Decidable (Asks req request cs) :=
  decidable_of_iff (_ ∧ _ ∧ _ ∧ _ ∧ _)
    ⟨fun ⟨ht, hr, hi, hq, hc⟩ => ⟨ht, hr, hi, hq, hc⟩,
      fun h => ⟨h.type, h.recipient, h.interface, h.request, h.control⟩⟩

instance (cs : UInt8) (history : List HostRequest) : Decidable (Armed cs history) :=
  match h : lastSetup history with
  | none => .isFalse (by unfold Armed; rw [h]; exact id)
  | some req => decidable_of_iff (Asks req UVC_SET_CUR cs) (by unfold Armed; rw [h])

/-- The data the control `cs` was last set to, none since it was attached. -/
def lastSet (cs : UInt8) : List HostRequest → Option RequestData
  | [] => none
  | .setup _ :: earlier => lastSet cs earlier
  | .data d :: earlier => if Armed cs earlier then some d else lastSet cs earlier

/-- What the data selects. -/
def RequestData.selection (formats : List FormatInfo) (d : RequestData) : Selection :=
  selectFormat formats (StreamingControl.ofBytes d.data)

/-- A control last set to some data, and the video format that goes with it. -/
def controlOf (formats : List FormatInfo) (d : Option RequestData) : StreamingControl :=
  let initial := uvcFillStreamingControl formats .zero 0 0
  d.elim initial fun d => (d.selection formats).apply initial

def formatOf (formats : List FormatInfo) (d : Option RequestData) : UInt32 × UInt32 × UInt32 :=
  d.elim (0, 0, 0) fun d =>
    ((d.selection formats).format.fcc, (d.selection formats).frame.width, (d.selection formats).frame.height)

def Gadget.videoFormat (g : Gadget) : UInt32 × UInt32 × UInt32 := (g.fcc, g.width, g.height)

/-- The control of a gadget that a selector names. -/
def Gadget.controlAt (g : Gadget) (cs : UInt8) : StreamingControl :=
  if cs = VS_PROBE_CONTROL then g.probe else g.commit

/-- The data stage is for one control at most. -/
theorem Armed.unique {history : List HostRequest} {cs' : UInt8} (h : Armed cs history) (h' : Armed cs' history) :
    cs = cs' := by
  unfold Armed at h h'
  cases hl : lastSetup history with
  | none => rw [hl] at h; exact h.elim
  | some req =>
      rw [hl] at h h'
      exact h.control.symm.trans h'.control

/-! ## What the stages write -/

/-- A packet arms the control it sets. -/
theorem uvcEventsProcessSetup_control (hcs : cs ∈ controls) (formats : List FormatInfo) (g : Gadget)
    (req : CtrlRequest) (resp : RequestData) :
    (uvcEventsProcessSetup formats g req resp).1.control = cs ↔ Asks req UVC_SET_CUR cs := by
  have hne : (0 : UInt8) ≠ cs := by
    unfold controls at hcs
    rcases List.mem_pair.mp hcs with rfl | rfl <;> decide
  by_cases haddr : ∃ cs' ∈ controls, Addresses req cs'
  · obtain ⟨cs', hcs', haddr⟩ := haddr
    rw [haddr.streaming, uvcEventsProcessStreaming, if_neg (controls_passed hcs')]
    dsimp only
    by_cases hset : req.bRequest = UVC_SET_CUR
    · rw [if_pos hset]
      exact ⟨fun h => ⟨haddr.type, haddr.recipient, haddr.interface, hset, haddr.control.trans h⟩,
        fun h => haddr.control.symm.trans h.control⟩
    · -- no other request touches it
      rw [if_neg hset]
      refine iff_of_false ?_ fun h => hset h.request
      repeat' split
      all_goals exact hne
  · have hno : ∀ cs' ∈ controls, ¬Addresses req cs' := fun cs' hcs' h => haddr ⟨cs', hcs', h⟩
    rw [uvcEventsProcessSetup_unaddressed hno]
    exact iff_of_false hne fun h => hno cs hcs h.addresses

/-- `GET_CUR` of either control answers with it. -/
theorem uvcEventsProcessSetup_getCur_either (hcs : cs ∈ controls) (h : Asks req UVC_GET_CUR cs)
    (formats : List FormatInfo) (g : Gadget) (resp : RequestData) :
    uvcEventsProcessSetup formats g req resp =
      ({ g with control := 0 }, ({ resp with length := streamingControlSize }).putControl (g.controlAt cs)) := by
  rw [h.addresses.streaming, h.request, uvcEventsProcessStreaming, if_neg (controls_passed hcs)]
  rfl

/-- Over a table of YUYV formats a selection overwrites all that an earlier one wrote. -/
theorem TableWellFormed.apply_controlOf (hf : TableWellFormed formats) (d : RequestData) (o : Option RequestData) :
    (d.selection formats).apply (controlOf formats o) = controlOf formats (some d) := by
  have hfcc : (d.selection formats).format.fcc = PixFormat.YUYV := by
    obtain ⟨hdesc, -⟩ := hf.select (StreamingControl.ofBytes d.data) .zero
    exact (hf.formats _ (List.mem_of_getElem? hdesc.format_at)).fcc
  cases o with
  | none => rfl
  | some d' => simp only [controlOf, Option.elim, Selection.apply, maxVideoFrameSize, hfcc, if_true]

/-- The gadget is as its history of events has it. -/
structure AsLastSet (formats : List FormatInfo) (history : List HostRequest) (g : Gadget) : Prop where
  probe : g.probe = controlOf formats (lastSet VS_PROBE_CONTROL history)
  commit : g.commit = controlOf formats (lastSet VS_COMMIT_CONTROL history)
  format : g.videoFormat = formatOf formats (lastSet VS_COMMIT_CONTROL history)
  control : ∀ cs ∈ controls, g.control = cs ↔ Armed cs history
  isochronous : g.bulk = 0

theorem attached_asLastSet (formats : List FormatInfo) (env : Env) (io : Io) (addr : Nat) (dev : Device) (id : UInt32) :
    AsLastSet formats [] (attached formats env io addr dev id).1 where
  probe := rfl
  commit := rfl
  format := rfl
  control cs hcs := by
    refine iff_of_false ?_ (fun h => h)
    unfold controls at hcs
    rcases List.mem_pair.mp hcs with rfl | rfl
    · exact (by decide : (0 : UInt8) ≠ VS_PROBE_CONTROL)
    · exact (by decide : (0 : UInt8) ≠ VS_COMMIT_CONTROL)
  isochronous := rfl

variable {history : List HostRequest}

/-- A packet leaves both controls and the format alone. -/
theorem AsLastSet.setup (hg : AsLastSet formats history g) (env : Env) (req : CtrlRequest) (io : Io) :
    ∃ g' io', serve formats env (.setup req) (g, io) = .ok (g', io') ∧ AsLastSet formats (.setup req :: history) g' ∧
      g'.probe = g.probe ∧ g'.commit = g.commit ∧ g'.videoFormat = g.videoFormat ∧
      ∀ cs ∈ controls, Asks req UVC_GET_CUR cs →
        ∃ answer, g'.vdev.file.response = some answer ∧ answer.length = 34 ∧
          answer.data.take 34 = (g'.controlAt cs).toBytes := by
  obtain ⟨c, hc⟩ := uvcEventsProcessSetup_gadget formats g req .stall
  obtain ⟨dev, io', h, hresp⟩ := serve_setup formats env req g io
  have hcontrol : ∀ cs ∈ controls, c = cs ↔ Asks req UVC_SET_CUR cs := by
    intro cs hcs
    rw [← uvcEventsProcessSetup_control hcs formats g req .stall, hc]
  rw [hc] at h
  refine ⟨_, io', h, ⟨hg.probe, hg.commit, hg.format, hcontrol, hg.isochronous⟩, rfl, rfl, rfl, ?_⟩
  intro cs hcs hasks
  refine ⟨_, hresp, ?_⟩
  rw [uvcEventsProcessSetup_getCur_either hcs hasks]
  exact ⟨rfl, rfl⟩

/-- A data stage writes the control it is for, and with the commit control the format. -/
theorem AsLastSet.data (hf : TableWellFormed formats) (hg : AsLastSet formats history g) (env : Env)
    (d : RequestData) (io : Io) :
    ∃ g' io', serve formats env (.data d) (g, io) = .ok (g', io') ∧ AsLastSet formats (.data d :: history) g' ∧
      (Armed VS_PROBE_CONTROL history → g' = { g with probe := (d.selection formats).apply g.probe }) ∧
      (Armed VS_COMMIT_CONTROL history → g' = { g with
        commit := (d.selection formats).apply g.commit
        fcc := (d.selection formats).format.fcc
        width := (d.selection formats).frame.width
        height := (d.selection formats).frame.height
        vdev := g'.vdev }) ∧
      (¬Armed VS_PROBE_CONTROL history → ¬Armed VS_COMMIT_CONTROL history → g' = g) := by
  have hprobe := hg.control VS_PROBE_CONTROL (by decide)
  have hcommit := hg.control VS_COMMIT_CONTROL (by decide)
  have hkeep : ∀ cs ∈ controls, g.control = cs ↔ Armed cs (.data d :: history) := hg.control
  by_cases hp : Armed VS_PROBE_CONTROL history
  · -- at most one control is armed: here the probe control
    have hc : ¬Armed VS_COMMIT_CONTROL history := fun hc => absurd (hp.unique hc) (by decide)
    obtain ⟨io', h⟩ := serve_probe formats env d (hprobe.mpr hp) io
    refine ⟨_, io', h, ⟨?_, ?_, ?_, hkeep, hg.isochronous⟩, fun _ => rfl, fun h => absurd h hc,
      fun h => absurd hp h⟩
    · rw [lastSet, if_pos hp, ← hf.apply_controlOf, ← hg.probe]
      rfl
    · rw [lastSet, if_neg hc]
      exact hg.commit
    · rw [lastSet, if_neg hc]
      exact hg.format
  · by_cases hc : Armed VS_COMMIT_CONTROL history
    · -- here the commit control
      obtain ⟨dev, io', h⟩ := serve_commit formats env d (hcommit.mpr hc) hg.isochronous io
      refine ⟨_, io', h, ⟨?_, ?_, ?_, hkeep, hg.isochronous⟩, fun h => absurd h hp, fun _ => rfl,
        fun _ h => absurd hc h⟩
      · rw [lastSet, if_neg hp]
        exact hg.probe
      · rw [lastSet, if_pos hc, ← hf.apply_controlOf, ← hg.commit]
        rfl
      · rw [lastSet, if_pos hc]
        rfl
    · -- here none
      obtain ⟨io', h⟩ := serve_other formats env d (mt hprobe.mp hp) (mt hcommit.mp hc) io
      refine ⟨g, io', h, ⟨?_, ?_, ?_, hkeep, hg.isochronous⟩, fun h => absurd h hp, fun h => absurd h hc,
        fun _ _ => rfl⟩
      · rw [lastSet, if_neg hp]
        exact hg.probe
      · rw [lastSet, if_neg hc]
        exact hg.commit
      · rw [lastSet, if_neg hc]
        exact hg.format

/-- **Run lemma.** -/
theorem attached_run_asLastSet (hf : TableWellFormed formats) (env : Env) (io : Io) (addr : Nat) (dev : Device)
    (id : UInt32) (rs : List HostRequest) :
    ∃ g io', Machine.run (serve formats env) rs (attached formats env io addr dev id) = .ok (g, io') ∧
      AsLastSet formats rs.reverse g := by
  induction rs using List.reverseRecOn with
  | nil => exact ⟨_, _, rfl, attached_asLastSet formats env io addr dev id⟩
  | append_singleton rs r ih =>
      obtain ⟨g, io₁, h, hg⟩ := ih
      rw [List.reverse_append, List.reverse_singleton, List.singleton_append]
      cases r with
      | setup req =>
          obtain ⟨g', io', hstep, hg', -⟩ := hg.setup env req io₁
          exact ⟨g', io', run_append_ok.mpr ⟨_, h, run_cons_ok.mpr ⟨_, hstep, rfl⟩⟩, hg'⟩
      | data d =>
          obtain ⟨g', io', hstep, hg', -⟩ := hg.data hf env d io₁
          exact ⟨g', io', run_append_ok.mpr ⟨_, h, run_cons_ok.mpr ⟨_, hstep, rfl⟩⟩, hg'⟩

/-- **Controls are as last set.** After any events the controls and the format are what the last data stage for
    them made of them. The next data stage writes the control that the most recent packet set, if it set one,
    and nothing else; a packet writes none, and `GET_CUR` answers with the control. -/
theorem controls_last_set (hf : TableWellFormed formats) (env : Env) (io : Io) (addr : Nat) (dev : Device)
    (id : UInt32) (rs : List HostRequest) :
    ∃ g io', Machine.run (serve formats env) rs (attached formats env io addr dev id) = .ok (g, io') ∧
      g.probe = controlOf formats (lastSet VS_PROBE_CONTROL rs.reverse) ∧
      g.commit = controlOf formats (lastSet VS_COMMIT_CONTROL rs.reverse) ∧
      g.videoFormat = formatOf formats (lastSet VS_COMMIT_CONTROL rs.reverse) ∧
      (∀ d, ∃ g₁ io₁, serve formats env (.data d) (g, io') = .ok (g₁, io₁) ∧
        (Armed VS_PROBE_CONTROL rs.reverse → g₁ = { g with probe := (d.selection formats).apply g.probe }) ∧
        (Armed VS_COMMIT_CONTROL rs.reverse → g₁ = { g with
          commit := (d.selection formats).apply g.commit
          fcc := (d.selection formats).format.fcc
          width := (d.selection formats).frame.width
          height := (d.selection formats).frame.height
          vdev := g₁.vdev }) ∧
        (¬Armed VS_PROBE_CONTROL rs.reverse → ¬Armed VS_COMMIT_CONTROL rs.reverse → g₁ = g)) ∧
      ∀ req, ∃ g₁ io₁, serve formats env (.setup req) (g, io') = .ok (g₁, io₁) ∧
        g₁.probe = g.probe ∧ g₁.commit = g.commit ∧ g₁.videoFormat = g.videoFormat ∧
        ∀ cs ∈ controls, Asks req UVC_GET_CUR cs →
          ∃ answer, g₁.vdev.file.response = some answer ∧ answer.length = 34 ∧
            answer.data.take 34 = (g₁.controlAt cs).toBytes := by
  obtain ⟨g, io', h, hg⟩ := attached_run_asLastSet hf env io addr dev id rs
  refine ⟨g, io', h, hg.probe, hg.commit, hg.format, fun d => ?_, fun req => ?_⟩
  · obtain ⟨g₁, io₁, h₁, -, hrest⟩ := hg.data hf env d io'
    exact ⟨g₁, io₁, h₁, hrest⟩
  · obtain ⟨g₁, io₁, h₁, -, hrest⟩ := hg.setup env req io'
    exact ⟨g₁, io₁, h₁, hrest⟩

/-- A commit interrupted by another packet, over the table the daemon is built with. -/
theorem controls_last_set_uvcFormats :
    ∃ g io', Machine.run (serve uvcFormats (.obliging [] []))
        [.setup (setCur VS_COMMIT_CONTROL), .setup getCurProbe, .data ⟨34, []⟩]
        (attached uvcFormats (.obliging [] []) (boot (.obliging [] []) [] fun _ => .zero).io 0 idleGadget.vdev 1)
          = .ok (g, io') ∧
      g.commit = uvcFillStreamingControl uvcFormats .zero 0 0 ∧ g.videoFormat = (0, 0, 0) := by
  obtain ⟨g, io', h, -, hcommit, hformat, -⟩ := controls_last_set uvcFormats_wellFormed (.obliging [] [])
    (boot (.obliging [] []) [] fun _ => .zero).io 0 idleGadget.vdev 1
    [.setup (setCur VS_COMMIT_CONTROL), .setup getCurProbe, .data ⟨34, []⟩]
  exact ⟨g, io', h, hcommit, hformat⟩

end Uvcd
