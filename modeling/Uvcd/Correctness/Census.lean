import Uvcd.Refinement.Census
import Uvcd.Correctness.Ids

/-!
# `Correctness.Census` — the nodes of `/dev` and the devices attached

`hotplug_scan` lists the nodes that are there, and inotify records what comes and goes from `hotplug_init` on. A
node that is created between the two is told of twice and attached twice; when it goes, one of the two entries
stays behind. Where no node on the list has its creation for its first record, what is attached follows `/dev`
(`nodes_attached_once`): once every record is read and every message handled, each video node is on the list of its
role exactly once, and nothing else is.
-/

namespace Uvcd

open Machine Split Roster

variable {env : Env} {s s' : Sys} {a : Action} {role : DevName → BufType} {name : DevName} {p : Nat}
  {batch : List Message} {rest : List EventIter}

/-- Every open of a node that is there succeeds, as a device of the role the node has. -/
def Env.Opens (env : Env) (role : DevName → BufType) : Prop :=
  ∀ k name, name ∈ k.nodes → isVideo name = true → IsName name →
    ∃ d k', v4l2Open env k name = (some d, k') ∧ d.type = role name

/-- Between the scan and the end of `main`. -/
def Phase.Looping : Phase → Prop
  | .start | .inited | .finished => False
  | .select | .dispatch _ | .process _ _ | .exit => True

instance : ∀ phase : Phase, Decidable phase.Looping
  | .start | .inited | .finished => .isFalse id
  | .select | .dispatch _ | .process _ _ | .exit => .isTrue trivial

/-- All records are read and all messages handled. -/
def Sys.CaughtUp (s : Sys) : Prop := s.phase.Looping ∧ s.pending = [] ∧ s.io.kernel.records = []

/-- How often a node is to be attached as a device of this role. -/
def Sys.due (role : DevName → BufType) (s : Sys) (type : BufType) (name : DevName) : Nat :=
  if name ∈ s.io.kernel.nodes ∧ isVideo name = true ∧ role name = type then 1 else 0

/-- Each node is attached as often as it should be. -/
def Sys.Enrolled (role : DevName → BufType) (s : Sys) : Prop :=
  ∀ name, (s.gadgets.map (·.vdev.name)).count name = s.due role .videoOutput name ∧
    (s.captures.map (·.vdev.name)).count name = s.due role .videoCapture name

/-! ## The condition -/

instance Subscribes.decide (env : Env) (file : File) : ∀ ts t, Decidable (Subscribes env file ts t)
  | [], _ => .isTrue trivial
  | _ :: ts, t =>
    have := Subscribes.decide env file ts (t + 1)
    inferInstanceAs (Decidable (_ ∧ _))

/-- The node can be attached by the module of its role: both handlers are registered, there is memory, and the
    driver of an output device takes the subscriptions. A capture is opened again after the gadget module has
    closed it. -/
def AttachFits (env : Env) (s : Sys) (name : DevName) : Prop :=
  s.handlers = [.uvc, .capture] ∧ ∀ dev ∈ (v4l2Open env s.io.kernel name).1,
    (dev.type = .videoOutput → env.malloc (v4l2Open env s.io.kernel name).2.tick = true ∧
      Subscribes env dev.file [.setup, .data, .streamon, .streamoff] ((v4l2Open env s.io.kernel name).2.tick + 2)) ∧
    (dev.type = .videoCapture →
      env.malloc (v4l2Open env (v4l2Close (v4l2Open env s.io.kernel name).2 dev) name).2.tick = true)

/-- No node that is there has its creation for its first record. -/
def Unraced (k : Kernel) : Prop :=
  ∀ name ∈ k.nodes, isVideo name = true → (word name (k.records.filterMap Record.change)).head? ≠ some true

/-- The callback that is called next, and the message that is handled next. -/
def Phase.callback : Phase → Option Callback
  | .dispatch (t :: _) => some t.callback
  | _ => none

/-- **The condition.** Nodes have names that can be opened; inotify and the scan work, and the nodes listed are not
    raced; what `hotplug.c` has to tell is told; what is there can be attached. -/
def TakesIn (env : Env) : Action → Sys → Prop
  | .plug name, _ => IsName name
  | .next, s =>
    (s.phase = .start → env.inotifyInit s.io.kernel.tick = true) ∧
    (s.phase = .inited → Unraced s.io.kernel ∧ env.opendir (s.io.kernel.tick + 2) = true ∧
      NotesSent env (scanNotes s.io.kernel.nodes) (s.io.kernel.tick + 3) s.io.brk) ∧
    (s.phase.callback = some .hotplugProcess →
      NotesSent env (processNotes env s.io.kernel) (s.io.kernel.tick + 1) s.io.brk) ∧
    ∀ m ∈ s.phase.batch.head?, ∀ c ∈ m.change, c.here = true → c.thing ∈ s.io.kernel.nodes →
      AttachFits env s c.thing
  | _, _ => True

instance (env : Env) (s : Sys) (name : DevName) : Decidable (AttachFits env s name) := by
  unfold AttachFits; infer_instance

instance (k : Kernel) : Decidable (Unraced k) := by unfold Unraced; infer_instance

instance TakesIn.decide (env : Env) : ∀ a s, Decidable (TakesIn env a s)
  | .plug name, _ => inferInstanceAs (Decidable (IsName name))
  | .next, _ => inferInstanceAs (Decidable (_ ∧ _ ∧ _ ∧ _))
  | .unplug _, _ | .signal _, _ | .select _, _ | .selectFailed, _ => .isTrue trivial

/-! ## Opening a node -/

theorem v4l2Path_eq (hname : IsName name) (hvideo : isVideo name = true) : v4l2Path name = devPrefix ++ name := by
  obtain ⟨-, hslash, -, hlen⟩ := hname
  have hhead : name.head? ≠ some slash := fun h => hslash (List.mem_of_head? h)
  have h58 := hlen hvideo
  have h5 : devPrefix.length = 5 := rfl
  unfold v4l2Path
  rw [if_neg hhead, List.take_of_length_le]
  rw [List.length_append]
  omega

theorem baseName_eq (hslash : slash ∉ name) : baseName (devPrefix ++ name) = name := by
  have hdev : devPrefix.reverse.takeWhile (· ≠ slash) = [] := by decide
  unfold baseName
  rw [List.reverse_append, List.takeWhile_append_of_pos, hdev, List.append_nil, List.reverse_reverse]
  intro x hx
  simp only [ne_eq, decide_eq_true_eq]
  rintro rfl
  exact hslash (List.mem_reverse.mp hx)

/-- A node that is gone cannot be opened. -/
theorem v4l2Open_absent {k : Kernel} (hname : IsName name) (hvideo : isVideo name = true) (habs : name ∉ k.nodes) :
    ∃ k', v4l2Open env k name = (none, k') ∧ k'.nodes = k.nodes := by
  have hpath : k.ask.hasPath (devPrefix ++ name) = false := by
    unfold Kernel.hasPath
    rw [List.any_eq_false]
    intro n hn heq
    exact habs (List.append_cancel_left (beq_iff_eq.mp heq) ▸ hn)
  unfold v4l2Open
  dsimp only
  rw [v4l2Path_eq hname hvideo, hpath]
  split
  · exact ⟨_, rfl, rfl⟩
  · exact ⟨_, rfl, rfl⟩

theorem v4l2Open_name {k k' : Kernel} {d : Device} (hname : IsName name) (hvideo : isVideo name = true)
    (h : v4l2Open env k name = (some d, k')) : d.name = name ∧ k'.nodes = k.nodes := by
  obtain ⟨hno, -⟩ | ⟨d', hd, hop⟩ := v4l2Open_spec h
  · cases hno
  · cases hd
    refine ⟨?_, hop.nodes⟩
    rw [hop.name, v4l2Path_eq hname hvideo, baseName_eq hname.2.1]

/-! ## Attaching a node -/

/-- The gadget module passes over a capture, and the capture module attaches it. -/
theorem looperDispatch_captures {dev dev' : Device} {k k' : Kernel}
    (hopen : v4l2Open env s.io.kernel name = (some dev, k)) (htype : dev.type = .videoCapture)
    (hopen' : v4l2Open env (v4l2Close k dev) name = (some dev', k')) (htype' : dev'.type = .videoCapture)
    (hmem : env.malloc k'.tick = true) :
    ∃ c io, looperDispatch env (.hotplugAttached p name) [.uvc, .capture] s =
      .ok { s with captures := s.captures ++ [c], io := io } ∧ c.vdev = dev' := by
  -- the gadget module opens the node first, finds no output device and closes it again
  have hreject : uvcGadgetAttach env s.io s.gadgets name =
      (-1, s.gadgets, { s.io with kernel := v4l2Close k dev }) := by
    unfold uvcGadgetAttach
    rw [hopen]
    dsimp only
    rw [if_pos (by rw [htype]; decide)]
  have hpass : uvcHandleMessage env s (.hotplugAttached p name) =
      .ok (0, { s with io := { s.io with kernel := v4l2Close k dev } }) := by
    unfold uvcHandleMessage Message.hotplugAttached
    dsimp only
    rw [hreject]
    rfl
  have huvc : handleMessage env .uvc s (.hotplugAttached p name) = _ := hpass
  -- the capture module opens it anew and keeps it
  obtain ⟨c, io, hattach, hdev⟩ : ∃ c io, v4lCaptureAttach env { s.io with kernel := v4l2Close k dev } s.captures name =
      (0, s.captures ++ [c], io) ∧ c.vdev = dev' := by
    have halloc : Io.malloc env { s.io with kernel := k' }
        = (some s.io.brk, { s.io with kernel := k'.ask, brk := s.io.brk + 1 }) := if_pos hmem
    unfold v4lCaptureAttach
    dsimp only
    rw [hopen']
    dsimp only
    rw [if_neg (not_not.mpr htype'), halloc]
    exact ⟨_, _, rfl, rfl⟩
  have hclaim : captureHandleMessage env { s with io := { s.io with kernel := v4l2Close k dev } }
      (.hotplugAttached p name) = .ok (1, { s with captures := s.captures ++ [c], io := io }) := by
    unfold captureHandleMessage Message.hotplugAttached
    dsimp only
    rw [hattach]
    rfl
  have hcapture : handleMessage env .capture { s with io := { s.io with kernel := v4l2Close k dev } }
      (.hotplugAttached p name) = _ := hclaim
  refine ⟨c, io, ?_, hdev⟩
  rw [looperDispatch, huvc, ok_bind]
  dsimp only
  rw [if_neg (by decide), looperDispatch, hcapture]
  rfl

/-- **A node that is there is attached**, as a device of its role. -/
theorem dispatch_present (hopens : env.Opens role) (hname : IsName name) (hvideo : isVideo name = true)
    (hthere : name ∈ s.io.kernel.nodes) (hfits : AttachFits env s name)
    (h : looperDispatch env (.hotplugAttached p name) s.handlers s = .ok s') :
    (role name = .videoOutput ∧ s'.captures = s.captures ∧ ∃ g, s'.gadgets = s.gadgets ++ [g] ∧ g.vdev.name = name) ∨
    (role name = .videoCapture ∧ s'.gadgets = s.gadgets ∧ ∃ c, s'.captures = s.captures ++ [c] ∧
      c.vdev.name = name) := by
  obtain ⟨dev, k, hopen, htype⟩ := hopens s.io.kernel name hthere hvideo hname
  obtain ⟨hdev, hnodes⟩ := v4l2Open_name hname hvideo hopen
  obtain ⟨hboth, hfits⟩ := hfits
  rw [hopen] at hfits
  obtain ⟨hout, hin⟩ := hfits dev rfl
  rw [hboth] at h
  cases hrole : role name with
  | videoOutput =>
      rw [hrole] at htype
      obtain ⟨hmem, hsub⟩ := hout htype
      obtain ⟨g, io, hd, hg, -⟩ := @looperDispatch_takes env s p name dev k [.capture] hopen htype hmem hsub
      rw [hd] at h
      cases h
      exact .inl ⟨rfl, rfl, g, rfl, by rw [hg, hdev]⟩
  | videoCapture =>
      rw [hrole] at htype
      obtain ⟨dev', k', hopen', htype'⟩ := hopens (v4l2Close k dev) name (hnodes ▸ hthere) hvideo hname
      rw [hrole] at htype'
      have hmem := hin htype
      dsimp only at hmem
      rw [hopen'] at hmem
      obtain ⟨c, io, hd, hc⟩ := @looperDispatch_captures env s name p dev dev' k k' hopen htype hopen' htype' hmem
      rw [hd] at h
      cases h
      exact .inr ⟨rfl, rfl, c, rfl, by rw [hc]; exact (v4l2Open_name hname hvideo hopen').1⟩

/-- **A node that is gone is not attached.** -/
theorem serves_absent (hname : IsName name) (hvideo : isVideo name = true) (hgone : name ∉ s.io.kernel.nodes)
    (h : Serves env s (.hotplugAttached p name) s') : s'.gadgets = s.gadgets ∧ s'.captures = s.captures := by
  obtain ⟨r, s₁, hu, hc⟩ := h
  -- neither module finds the node when it opens it
  have hsame : s₁.gadgets = s.gadgets ∧ s₁.captures = s.captures ∧ name ∉ s₁.io.kernel.nodes := by
    obtain ⟨k, hk, hnodes⟩ := @v4l2Open_absent env _ _ hname hvideo hgone
    cases hu with
    | skipped => exact ⟨rfl, rfl, hgone⟩
    | attach hreg hatt =>
        cases hatt with
        | missing hopen =>
            rw [hk] at hopen
            cases hopen
            exact ⟨rfl, rfl, hnodes ▸ hgone⟩
        | rejected hup =>
            obtain ⟨dev, k₁, k₂, hopen, -⟩ := hup.kernel
            rw [hk] at hopen
            cases hopen
        | attached hopen =>
            rw [hk] at hopen
            cases hopen
  obtain ⟨hg, hcs, hgone₁⟩ := hsame
  rcases hc with ⟨-, rfl⟩ | hc
  · exact ⟨hg, hcs⟩
  · obtain ⟨k, hk, -⟩ := @v4l2Open_absent env _ _ hname hvideo hgone₁
    generalize hm : Message.hotplugAttached p name = m at hc
    cases hc with
    | skipped => exact ⟨hg, hcs⟩
    | detach | setFmt | part => cases hm
    | stream on => cases on <;> cases hm
    | attach hatt =>
        cases hm
        cases hatt with
        | missing hopen => exact ⟨hg, hcs⟩
        | rejected hup =>
            obtain ⟨dev, k₁, k₂, hopen, -⟩ := hup.kernel
            rw [hk] at hopen
            cases hopen
        | attached hopen =>
            rw [hk] at hopen
            cases hopen

/-! ## The invariant -/

/-- The names are in order, and what is attached follows `/dev` as far as it is known, each device on the list of
    its role. -/
structure Sys.Counted (role : DevName → BufType) (s : Sys) : Prop where
  nodup : s.view.board.nodes.Nodup
  names : ∀ n ∈ s.view.board.nodes, IsName n
  reports : ∀ r ∈ s.view.board.records, IsReport r
  told : ∀ c ∈ s.view.board.news, IsName c.thing ∧ isVideo c.thing = true
  start : s.phase = .start → s.view.board.watching = false ∧ s.view.board.news = []
  inited : s.phase = .inited → s.view.board.watching = true ∧
    s.view.board.queue.filterMap Message.change = [] ∧ Watched s.view.board.news s.view.board.present
  looping : s.phase.Looping → s.view.board.watching = true ∧
    Follows s.view.roster s.view.board.news s.view.board.present
  outputs : ∀ n ∈ s.view.gadgets.map (·.name), role n = .videoOutput
  inputs : ∀ n ∈ s.view.captures.map (·.name), role n = .videoCapture

/-- What neither tells of `/dev` nor attaches anything. -/
theorem Sys.Counted.stays (h : s.Counted role) (hb : Stays s.view.board s'.view.board)
    (hr : SameRoster s.view s'.view) (hphase : s'.phase = s.phase ∨ (s.phase.Looping ∧ s'.phase.Looping)) :
    s'.Counted role := by
  have hnews := hb.news
  have hpresent := hb.present
  have hearly : ∀ {early : Phase}, ¬early.Looping → s'.phase = early → s.phase = early := by
    intro early hno hat
    rcases hphase with heq | ⟨-, hloop⟩
    · rw [← heq, hat]
    · rw [hat] at hloop
      exact absurd hloop hno
  refine ⟨hb.nodes ▸ h.nodup, hb.nodes ▸ h.names, hb.records ▸ h.reports, hnews ▸ h.told, fun hat => ?_, fun hat => ?_,
    fun hloop => ?_, hr.gadgets ▸ h.outputs, hr.captures ▸ h.inputs⟩
  · rw [hb.watching, hnews]
    exact h.start (hearly id hat)
  · rw [hb.watching, hnews, hpresent, hb.changes]
    exact h.inited (hearly id hat)
  · rw [hb.watching, hnews, hpresent, hr.roster]
    refine h.looping ?_
    rcases hphase with heq | ⟨hloop', -⟩
    · exact heq ▸ hloop
    · exact hloop'

/-! ## Nodes come and go -/

/-- What a change of `/dev` adds to the records. -/
theorem Board.report_eq (w : Board) (r : Record) :
    w.report r = { w with records := w.records ++ if w.watching then [r] else [] } := by
  unfold Board.report
  by_cases hw : w.watching = true
  · rw [if_pos hw, if_pos hw]
  · rw [if_neg hw, if_neg hw, List.append_nil]

/-- A change of `/dev` that is recorded, if it is of a video node. -/
structure Recorded (w w' : Board) (r : Record) : Prop where
  board : w' = { w with nodes := w'.nodes, records := w.records ++ if w.watching then [r] else [] }
  follows : ∀ {roster pending}, Follows roster pending w.present →
    Follows roster (pending ++ r.change.toList) w'.present
  watched : ∀ {pending}, Watched pending w.present → Watched (pending ++ r.change.toList) w'.present

theorem Sys.Counted.recorded {r : Record} (h : s.Counted role) (hrec : Recorded s.view.board s'.view.board r)
    (hreport : IsReport r) (hnd : s'.view.board.nodes.Nodup) (hnames : ∀ n ∈ s'.view.board.nodes, IsName n)
    (htold : ∀ c ∈ r.change, IsName c.thing ∧ isVideo c.thing = true) (hr : SameRoster s.view s'.view)
    (hphase : s'.phase = s.phase) : s'.Counted role := by
  have hb := hrec.board
  have hrecords : s'.view.board.records = s.view.board.records ++
    if s.view.board.watching then [r] else [] := by rw [hb]
  have hwatching : s'.view.board.watching = s.view.board.watching := by rw [hb]
  have hqueue : s'.view.board.queue = s.view.board.queue := by rw [hb]
  -- a record adds its change to the news while inotify watches, and nothing otherwise
  have hnews : s.view.board.watching = true → s'.view.board.news = s.view.board.news ++ r.change.toList := by
    intro hw
    unfold Board.news
    rw [hqueue, hrecords, hw, if_pos rfl, List.filterMap_append, List.append_assoc]
    cases hc : r.change with
    | none => rw [List.filterMap_cons_none hc]; rfl
    | some c => rw [List.filterMap_cons_some hc]; rfl
  have hquiet : s.view.board.watching = false → s'.view.board.news = s.view.board.news := by
    intro hw
    unfold Board.news
    rw [hqueue, hrecords, hw, if_neg (by decide), List.append_nil]
  refine ⟨hnd, hnames, ?_, ?_, fun hat => ?_, fun hat => ?_, fun hloop => ?_, hr.gadgets ▸ h.outputs,
    hr.captures ▸ h.inputs⟩
  · rw [hrecords]
    intro x hx
    rcases List.mem_append.mp hx with hx | hx
    · exact h.reports x hx
    · split at hx
      · rw [List.mem_singleton.mp hx]
        exact hreport
      · cases hx
  · cases hw : s.view.board.watching with
    | false => rw [hquiet hw]; exact h.told
    | true =>
        rw [hnews hw]
        intro c hc
        rcases List.mem_append.mp hc with hc | hc
        · exact h.told c hc
        · exact htold c (Option.mem_toList.mp hc)
  · have hs := h.start (hphase ▸ hat)
    rw [hwatching, hquiet hs.1]
    exact hs
  · obtain ⟨hw, hq, hwd⟩ := h.inited (hphase ▸ hat)
    rw [hwatching, hqueue, hnews hw]
    exact ⟨hw, hq, hrec.watched hwd⟩
  · obtain ⟨hw, hf⟩ := h.looping (hphase ▸ hloop)
    rw [hwatching, hnews hw, hr.roster]
    exact ⟨hw, hrec.follows hf⟩

theorem nodeRecord_change (mask : UInt32) (name : DevName) (hdir : mask &&& IN_ISDIR = 0) :
    (nodeRecord mask name).change = if isVideo name then
      if mask &&& IN_CREATE ≠ 0 then some ⟨name, true⟩
      else if mask &&& IN_DELETE ≠ 0 then some ⟨name, false⟩ else none
    else none := by
  unfold Record.change nodeRecord
  dsimp only
  rw [if_neg (not_not.mpr hdir)]

theorem create_change (name : DevName) :
    (nodeRecord IN_CREATE name).change = if isVideo name then some ⟨name, true⟩ else none := by
  have hcreate : IN_CREATE &&& IN_CREATE ≠ 0 := by decide
  rw [nodeRecord_change _ _ (by decide), if_pos hcreate]

theorem delete_change (name : DevName) :
    (nodeRecord IN_DELETE name).change = if isVideo name then some ⟨name, false⟩ else none := by
  have hcreate : ¬IN_DELETE &&& IN_CREATE ≠ 0 := by decide
  have hdelete : IN_DELETE &&& IN_DELETE ≠ 0 := by decide
  rw [nodeRecord_change _ _ (by decide), if_neg hcreate, if_pos hdelete]

theorem plug_recorded {w : Board} (hno : name ∉ w.nodes) :
    Recorded w (w.plug name) (nodeRecord IN_CREATE name) ∧ (w.plug name).nodes = w.nodes ++ [name] := by
  have heq : w.plug name = { w with
      nodes := w.nodes ++ [name]
      records := w.records ++ if w.watching then [nodeRecord IN_CREATE name] else [] } := by
    unfold Board.plug
    rw [if_neg hno, Board.report_eq]
  have hpresent : ∀ b, b ∈ (w.plug name).present ↔ (b = name ∧ isVideo name = true) ∨ b ∈ w.present := by
    intro b
    unfold Board.present
    rw [heq]
    simp only [List.mem_filter, List.mem_append, List.mem_singleton, or_and_right]
    rw [or_comm]
    exact or_congr_left (and_congr_right fun h => by rw [h])
  have hfresh : name ∉ w.present := fun h => hno (List.mem_filter.mp h).1
  refine ⟨⟨by rw [heq], fun {roster pending} hf => ?_, fun {pending} hw => ?_⟩, by rw [heq]⟩
  · rw [create_change]
    by_cases hvideo : isVideo name = true
    · rw [if_pos hvideo]
      exact hf.comes hfresh fun b => by rw [hpresent, and_iff_left hvideo]
    · rw [if_neg hvideo]
      show Follows roster (pending ++ []) _
      rw [List.append_nil]
      exact hf.congr fun b => by rw [hpresent]; exact or_iff_right fun h => hvideo h.2
  · rw [create_change]
    by_cases hvideo : isVideo name = true
    · rw [if_pos hvideo]
      exact hw.comes hfresh fun b => by rw [hpresent, and_iff_left hvideo]
    · rw [if_neg hvideo]
      show Watched (pending ++ []) _
      rw [List.append_nil]
      exact hw.congr fun b => by rw [hpresent]; exact or_iff_right fun h => hvideo h.2

theorem unplug_recorded {w : Board} (hthere : name ∈ w.nodes) :
    Recorded w (w.unplug name) (nodeRecord IN_DELETE name) ∧ (w.unplug name).nodes = w.nodes.filter (· ≠ name) := by
  have heq : w.unplug name = { w with
      nodes := w.nodes.filter (· ≠ name)
      records := w.records ++ if w.watching then [nodeRecord IN_DELETE name] else [] } := by
    unfold Board.unplug
    rw [if_pos hthere, Board.report_eq]
  have hpresent : ∀ b, b ∈ (w.unplug name).present ↔ b ≠ name ∧ b ∈ w.present := by
    intro b
    unfold Board.present
    rw [heq]
    simp only [List.mem_filter, decide_eq_true_eq, and_assoc, and_left_comm]
  refine ⟨⟨by rw [heq], fun {roster pending} hf => ?_, fun {pending} hw => ?_⟩, by rw [heq]⟩
  · rw [delete_change]
    by_cases hvideo : isVideo name = true
    · rw [if_pos hvideo]
      exact hf.goes hpresent
    · rw [if_neg hvideo]
      show Follows roster (pending ++ []) _
      rw [List.append_nil]
      refine hf.congr fun b => (hpresent b).trans (and_iff_right_of_imp ?_)
      rintro hb rfl
      exact hvideo (List.mem_filter.mp hb).2
  · rw [delete_change]
    by_cases hvideo : isVideo name = true
    · rw [if_pos hvideo]
      exact hw.goes hpresent
    · rw [if_neg hvideo]
      show Watched (pending ++ []) _
      rw [List.append_nil]
      refine hw.congr fun b => (hpresent b).trans (and_iff_right_of_imp ?_)
      rintro hb rfl
      exact hvideo (List.mem_filter.mp hb).2

/-! ## The stages of `main` and the callback of inotify -/

theorem present_nodup (h : s.Counted role) : s.view.board.present.Nodup := h.nodup.filter _

/-- The same nodes, records and objects, and other news. -/
theorem Sys.Counted.informed (h : s.Counted role) (hg : s'.gadgets = s.gadgets) (hc : s'.captures = s.captures)
    (hnodes : s'.io.kernel.nodes = s.io.kernel.nodes) (hrecords : ∀ r ∈ s'.io.kernel.records, r ∈ s.io.kernel.records)
    (htold : ∀ c ∈ s'.view.board.news, IsName c.thing ∧ isVideo c.thing = true) (hstart : s'.phase ≠ .start)
    (hinited : s'.phase = .inited → s'.view.board.watching = true ∧
      s'.view.board.queue.filterMap Message.change = [] ∧ Watched s'.view.board.news s.view.board.present)
    (hlooping : s'.phase.Looping → s'.view.board.watching = true ∧
      Follows s.view.roster s'.view.board.news s.view.board.present) : s'.Counted role := by
  have hpresent : s'.view.board.present = s.view.board.present := congrArg (List.filter isVideo) hnodes
  have hgs : s'.view.gadgets = s.view.gadgets := congrArg (List.map Gadget.view) hg
  have hcs : s'.view.captures = s.view.captures := congrArg (List.map Capture.view) hc
  have hroster : s'.view.roster = s.view.roster := by
    unfold View.roster
    rw [hgs, hcs]
  have hnodes' : s'.view.board.nodes = s.view.board.nodes := hnodes
  refine ⟨hnodes' ▸ h.nodup, hnodes' ▸ h.names, fun r hr => h.reports r (hrecords r hr), htold,
    fun hat => absurd hat hstart, ?_, ?_, hgs ▸ h.outputs, hcs ▸ h.inputs⟩
  · rw [hpresent]
    exact hinited
  · rw [hpresent, hroster]
    exact hlooping

/-- **`hotplug_init`** starts the record of what comes and goes. -/
theorem Sys.Counted.watched (h : s.Counted role) (hat : s.phase = .start)
    (hinit : env.inotifyInit s.io.kernel.tick = true) (hstep : step env .next s = .ok s') : s'.Counted role := by
  obtain ⟨hio, hphase, hg, hc⟩ : s'.io = (hotplugInit env s.io).2 ∧ s'.phase = .inited ∧ s'.gadgets = s.gadgets ∧
      s'.captures = s.captures := by
    rw [step, next, hat] at hstep
    cases hstep
    exact ⟨rfl, rfl, rfl, rfl⟩
  have hkernel : s'.io.kernel = Kernel.ask { s.io.kernel.openFd.2 with watching := true } := by
    rw [hio]
    unfold hotplugInit
    rw [if_pos hinit]
    exact watch_kernel env _ _ _ _ _
  have hqueue : s'.io.queue = s.io.queue := by rw [hio, (hotplugInit_silent s.io).queue, List.append_nil]
  have hnodes : s'.io.kernel.nodes = s.io.kernel.nodes := by rw [hkernel]; rfl
  have hrecords : s'.io.kernel.records = s.io.kernel.records := by rw [hkernel]; rfl
  have hold : s.view.board = s.io.board [] := by
    rw [s.view_eq (b := []) (by rw [hat]; rfl)]
    rfl
  have hnew : s'.view.board = s'.io.board [] := by
    rw [s'.view_eq (b := []) (by rw [hphase]; rfl)]
    rfl
  have hchanges : s'.view.board.queue.filterMap Message.change = s.view.board.queue.filterMap Message.change := by
    rw [hnew, hold]
    show s'.io.queue.filterMap _ = s.io.queue.filterMap _
    rw [hqueue]
  have hnone := (h.start hat).2
  -- what happened before the watch was not recorded, so there is no news
  have hnews : s'.view.board.news = [] := by
    rw [← hnone]
    unfold Board.news
    rw [hchanges]
    exact congrArg (fun r => _ ++ List.filterMap Record.change r) hrecords
  refine h.informed hg hc hnodes (fun r hr => hrecords ▸ hr) ?_ ?_ (fun _ => ⟨?_, ?_, ?_⟩) ?_
  · rw [hnews]
    exact fun c hc => by cases hc
  · intro hstart
    rw [hphase] at hstart
    cases hstart
  · show s'.io.kernel.watching = true
    rw [hkernel]
    rfl
  · rw [hchanges]
    exact (List.append_eq_nil_iff.mp hnone).1
  · rw [hnews]
    exact .start _
  · intro hselect
    rw [hphase] at hselect
    cases hselect

/-- **`hotplug_scan`** takes over from there when no node on its list is raced. -/
theorem Sys.Counted.scanned (h : s.Counted role) (hal : s.Alive) (hat : s.phase = .inited) (hrace : Unraced s.io.kernel)
    (hopen : env.opendir (s.io.kernel.tick + 2) = true)
    (hsent : NotesSent env (scanNotes s.io.kernel.nodes) (s.io.kernel.tick + 3) s.io.brk)
    (hstep : step env .next s = .ok s') : s'.Counted role := by
  obtain ⟨hio, hphase, hg, hc⟩ : s'.io = hotplugScan env s.io.tick.tick ∧ s'.phase = .select ∧
      s'.gadgets = s.gadgets ∧ s'.captures = s.captures := by
    rw [step, next, hat] at hstep
    dsimp only at hstep
    obtain ⟨hs₁, heq₁, -⟩ := looperRegisterHandler_spec env s .uvc
    rw [heq₁] at hstep
    obtain ⟨hs₂, heq₂, -⟩ := looperRegisterHandler_spec env { s with handlers := hs₁, io := s.io.tick } .capture
    rw [heq₂] at hstep
    cases hstep
    exact ⟨rfl, rfl, rfl, rfl⟩
  obtain ⟨hnews, hnodes, hwatching, hrecords⟩ := @hotplugScan_news env s.io.tick.tick hopen hsent
  rw [← hio] at hnews hnodes hwatching hrecords
  have hold : s.view.board = s.io.board [] := by
    rw [s.view_eq (b := []) (by rw [hat]; rfl)]
    rfl
  have hnew : s'.view.board = s'.io.board [] := by
    rw [s'.view_eq (b := []) (by rw [hphase]; rfl)]
    rfl
  obtain ⟨hw, hq, hwatched⟩ := h.inited hat
  have hpast : s.view.board.news = s.io.kernel.records.filterMap Record.change := by
    unfold Board.news
    rw [hq]
    rfl
  -- the scan posts what is there in front of the records made since the watch
  have hnews' : s'.view.board.news = arrivals s.view.board.present ++ s.view.board.news := by
    rw [hnew, hnews, hpast]
    rw [hold] at hq
    show s.io.queue.filterMap _ ++ _ ++ _ = _
    rw [show s.io.queue.filterMap Message.change = [] from hq]
    rfl
  -- nothing is attached before the scan
  have hroster : s.view.roster = [] := by
    obtain ⟨-, hgs, hcs⟩ := hal.fresh (.inr hat)
    have hgv : s.view.gadgets = s.gadgets.map Gadget.view := rfl
    have hcv : s.view.captures = s.captures.map Capture.view := rfl
    unfold View.roster
    rw [hgv, hcv, hgs, hcs]
    rfl
  refine h.informed hg hc hnodes (fun r hr => hrecords ▸ hr) ?_ (fun hstart => ?_) (fun hinited => ?_)
    fun _ => ⟨?_, ?_⟩
  · rw [hnews']
    intro c hc
    rcases List.mem_append.mp hc with hc | hc
    · obtain ⟨n, hn, rfl⟩ := List.mem_map.mp hc
      obtain ⟨hmem, hvideo⟩ := List.mem_filter.mp hn
      exact ⟨h.names n hmem, hvideo⟩
    · exact h.told c hc
  · rw [hphase] at hstart
    cases hstart
  · rw [hphase] at hinited
    cases hinited
  · show s'.io.kernel.watching = true
    rw [hwatching]
    exact hw
  · -- the roster follows exactly when nothing on the list is raced
    rw [hroster, hnews']
    refine (hwatched.scanned (present_nodup h)).mpr fun n hn => ?_
    rw [hpast]
    obtain ⟨hmem, hvideo⟩ := List.mem_filter.mp hn
    exact hrace n hmem hvideo

/-- **`hotplug_process`** moves news on. -/
theorem Sys.Counted.processed {fd : Nat} (h : s.Counted role)
    (hat : s.phase = .dispatch (⟨fd, .hotplugProcess, .looper⟩ :: rest))
    (hsent : NotesSent env (processNotes env s.io.kernel) (s.io.kernel.tick + 1) s.io.brk)
    (hstep : step env .next s = .ok s') : s'.Counted role := by
  rw [step, next, hat] at hstep
  cases hstep
  obtain ⟨hnews, hnodes, hwatching, hrecords⟩ := @hotplugProcess_news env s.io h.reports hsent
  have hold : s.view.board = s.io.board [] := by
    rw [s.view_eq (b := []) (by rw [hat]; rfl)]
    rfl
  have hnew : (afterCall { s with io := hotplugProcess env s.io } rest).view.board =
      (hotplugProcess env s.io).board [] := by
    rw [Sys.view_eq (Phase.after_batch _ _)]
    rfl
  have hsame : (afterCall { s with io := hotplugProcess env s.io } rest).view.board.news = s.view.board.news := by
    rw [hnew, hnews, hold]
  have hloop : s.phase.Looping := by rw [hat]; trivial
  obtain ⟨hw, hf⟩ := h.looping hloop
  obtain ⟨hstart, hinited, -⟩ := Phase.after_running (hotplugProcess env s.io).events.done rest
  refine h.informed rfl rfl hnodes hrecords ?_ hstart (fun hp => absurd hp hinited) fun _ => ⟨?_, ?_⟩
  · rw [hsame]
    exact h.told
  · show (hotplugProcess env s.io).kernel.watching = true
    rw [hwatching]
    exact hw
  · rw [hsame]
    exact hf

/-! ## Messages -/

theorem Sys.roster_eq (s : Sys) : s.view.roster = s.gadgets.map (·.vdev.name) ++ s.captures.map (·.vdev.name) := by
  have hg : s.view.gadgets = s.gadgets.map Gadget.view := rfl
  have hc : s.view.captures = s.captures.map Capture.view := rfl
  unfold View.roster
  rw [hg, hc, List.map_map, List.map_map]
  rfl

/-- A message about a node is handled. -/
theorem Sys.Counted.heeded {c : Change DevName} (h : s.Counted role) (hloop : s.phase.Looping)
    (hloop' : s'.phase.Looping) {w : Board} (hnews : s.view.board.news = c :: w.news)
    (hrest : w.present = s.view.board.present ∧ w.nodes = s.view.board.nodes ∧ w.records = s.view.board.records ∧
      w.watching = s.view.board.watching) (hb : Stays w s'.view.board)
    (hf : Follows s.view.roster (c :: w.news) s.view.board.present →
      Follows s'.view.roster w.news s.view.board.present)
    (hout : ∀ n ∈ s'.view.gadgets.map (·.name), role n = .videoOutput)
    (hin : ∀ n ∈ s'.view.captures.map (·.name), role n = .videoCapture) : s'.Counted role := by
  obtain ⟨hpresent, hnodes, hrecords, hwatching⟩ := hrest
  obtain ⟨hw, hfollows⟩ := h.looping hloop
  have hnews' : s'.view.board.news = w.news := hb.news
  refine ⟨?_, ?_, ?_, ?_, fun hat => ?_, fun hat => ?_, fun _ => ⟨?_, ?_⟩, hout, hin⟩
  · rw [hb.nodes, hnodes]
    exact h.nodup
  · rw [hb.nodes, hnodes]
    exact h.names
  · rw [hb.records, hrecords]
    exact h.reports
  · rw [hnews']
    exact fun x hx => h.told x (by rw [hnews]; exact List.mem_cons_of_mem _ hx)
  · rw [hat] at hloop'
    exact hloop'.elim
  · rw [hat] at hloop'
    exact hloop'.elim
  · rw [hb.watching, hwatching]
    exact hw
  · rw [hnews', hb.present, hpresent]
    exact hf (hnews ▸ hfollows)

/-- The message tells of a node that came. -/
theorem Sendable.came {m : Message} (hm : Sendable m) (h : m.change = some ⟨name, true⟩) :
    ∃ p, m = .hotplugAttached p name := by
  cases hm with
  | hotplugAttached p name => cases h; exact ⟨p, rfl⟩
  | signal | hotplugDetached | setFmt | streamOn | streamOff | frameAvailable | uvcAttached | uvcDetached => cases h

theorem Sendable.went {m : Message} (hm : Sendable m) (h : m.change = some ⟨name, false⟩) :
    ∃ p, m = .hotplugDetached p name := by
  cases hm with
  | hotplugDetached p name => cases h; exact ⟨p, rfl⟩
  | signal | hotplugAttached | setFmt | streamOn | streamOff | frameAvailable | uvcAttached | uvcDetached => cases h

theorem Sys.Counted.handled {m : Message} {refuses : Prop} (hopens : env.Opens role) (h : s.Counted role)
    (hal : s.Alive) (hat : s.phase = .process (m :: batch) rest) (hat' : s'.phase = .process batch rest)
    (hfits : ∀ c ∈ m.change, c.here = true → c.thing ∈ s.io.kernel.nodes → AttachFits env s c.thing)
    (hm : Handles env refuses (s.viewOf batch) m s'.view) (hstep : step env .next s = .ok s') :
    s'.Counted role := by
  have hloop : s.phase.Looping := by rw [hat]; trivial
  have hloop' : s'.phase.Looping := by rw [hat']; trivial
  have hb := hm.stays
  have hview : s.view.board = s.io.board (m :: batch) := by
    rw [s.view_eq (b := m :: batch) (by rw [hat]; rfl)]
    rfl
  have hqueue : s.view.board.queue = m :: (s.viewOf batch).board.queue := by rw [hview]; rfl
  have hsend : Sendable m := hal.sendable m (by rw [Sys.pending_eq, hqueue]; exact List.mem_cons_self)
  cases hc : m.change with
  | none =>
      have hr := hm.same_roster hc
      refine h.stays ⟨?_, hb.nodes, hb.records, hb.watching⟩ ⟨hr.gadgets, hr.captures⟩ (.inr ⟨hloop, hloop'⟩)
      rw [hb.changes, hqueue, List.filterMap_cons_none hc]
  | some c =>
      have hnews : s.view.board.news = c :: (s.viewOf batch).board.news := by
        unfold Board.news
        rw [hqueue, List.filterMap_cons_some hc]
        rfl
      obtain ⟨hname, hvideo⟩ := h.told c (by rw [hnews]; exact List.mem_cons_self)
      have hheeded := h.heeded hloop hloop' hnews ⟨rfl, rfl, rfl, rfl⟩ hb
      -- what the dispatch does to the two lists is what the step does
      obtain ⟨s₁, hd, hg₁, hc₁⟩ : ∃ s₁, looperDispatch env m s.handlers s = .ok s₁ ∧ s'.gadgets = s₁.gadgets ∧
          s'.captures = s₁.captures := by
        rw [step, next, hat] at hstep
        obtain ⟨s₂, hhandle, hstep⟩ := bind_eq_ok.mp hstep
        obtain ⟨s₁, hd, rfl⟩ := looperHandle_dispatches hsend hhandle
        cases hstep
        exact ⟨s₁, hd, rfl, rfl⟩
      obtain ⟨name, here⟩ := c
      cases here with
      | true =>
          obtain ⟨p, rfl⟩ := hsend.came hc
          have hgv : s'.view.gadgets = s₁.gadgets.map Gadget.view := congrArg (List.map Gadget.view) hg₁
          have hcv : s'.view.captures = s₁.captures.map Capture.view := congrArg (List.map Capture.view) hc₁
          have hroster : s'.view.roster = s₁.gadgets.map (·.vdev.name) ++ s₁.captures.map (·.vdev.name) := by
            rw [Sys.roster_eq, hg₁, hc₁]
          by_cases hthere : name ∈ s.io.kernel.nodes
          · rcases dispatch_present hopens hname hvideo hthere (hfits _ hc rfl hthere) hd with
              ⟨hrole, hcs, g, hgs, hgname⟩ | ⟨hrole, hgs, c, hcs, hcname⟩
            · refine hheeded (fun hf => hf.admits ?_) ?_ ?_
              · rw [hroster, hgs, hcs, Sys.roster_eq, List.map_append, List.map_singleton, hgname, List.append_assoc]
                exact List.perm_middle
              · rw [hgv, hgs, List.map_append, List.map_append]
                exact forall_snoc h.outputs (by rw [← hrole, ← hgname]; rfl)
              · rw [hcv, hcs]
                exact h.inputs
            · refine hheeded (fun hf => hf.admits ?_) ?_ ?_
              · rw [hroster, hgs, hcs, Sys.roster_eq, List.map_append, List.map_singleton, hcname, ← List.append_assoc]
                exact List.perm_append_comm
              · rw [hgv, hgs]
                exact h.outputs
              · rw [hcv, hcs, List.map_append, List.map_append]
                exact forall_snoc h.inputs (by rw [← hrole, ← hcname]; rfl)
          · obtain ⟨hgs, hcs⟩ := serves_absent hname hvideo hthere
              (looperDispatch_serves hal.fit.staffed hsend hd)
            refine hheeded (fun hf => ?_) ?_ ?_
            · rw [hroster, hgs, hcs, ← Sys.roster_eq]
              exact hf.refuses fun hmem => hthere (List.mem_filter.mp hmem).1
            · rw [hgv, hgs]
              exact h.outputs
            · rw [hcv, hcs]
              exact h.inputs
      | false =>
          obtain ⟨p, rfl⟩ := hsend.went hc
          rcases hm.detached with ⟨hno, hsame⟩ | ⟨hperm, hgsub, hcsub⟩
          · refine hheeded (fun hf => ?_) (hsame.gadgets ▸ h.outputs) (hsame.captures ▸ h.inputs)
            rw [hsame.roster]
            exact hf.misses hno
          · exact hheeded (fun hf => hf.drops hperm) (fun n hn => h.outputs n (hgsub.subset hn))
              fun n hn => h.inputs n (hcsub.subset hn)

/-! ## Every step -/

theorem step_counted (hopens : env.Opens role) (hal : s.Alive) (h : s.Counted role) (hC : TakesIn env a s)
    (hm : Moves env s s' a) (hstep : step env a s = .ok s') : s'.Counted role := by
  have hsame : ∀ {w : Board}, s'.view = { s.view with board := w } → SameRoster s.view s'.view := by
    intro w hview
    rw [hview]
    exact ⟨rfl, rfl⟩
  have hlooping : ∀ {done : Bool} {rest : List EventIter}, (Phase.after done rest).Looping := by
    intro done rest
    cases done <;> trivial
  cases hm with
  | idle hphase hview => exact h.stays (hview ▸ .refl _) (hview ▸ .refl _) (.inl hphase)
  | dev hphase hview hdev =>
      cases hdev with
      | plug name =>
          have hboard : s'.view.board = s.view.board.plug name := by
            rw [hview]
            unfold Board.plug Board.report
            split
            · rfl
            · split <;> rfl
          -- a node that is there already is not plugged in again
          by_cases hthere : name ∈ s.view.board.nodes
          · have hnone : s.view.board.plug name = s.view.board := if_pos hthere
            exact h.stays (by rw [hboard, hnone]; exact .refl _) (hsame hview) (.inl hphase)
          · obtain ⟨hrec, hnodes⟩ := plug_recorded hthere
            have hname : IsName name := hC
            refine h.recorded (hboard ▸ hrec) ⟨_, _, hname, rfl⟩ ?_ ?_ ?_ (hsame hview) hphase
            · rw [hboard, hnodes]
              exact List.nodup_append.mpr ⟨h.nodup, List.nodup_singleton _, fun x hx y hy hxy =>
                hthere (List.mem_singleton.mp hy ▸ hxy ▸ hx)⟩
            · rw [hboard, hnodes]
              exact forall_snoc h.names hname
            · intro c hc
              rw [create_change] at hc
              by_cases hvideo : isVideo name = true
              · rw [if_pos hvideo] at hc
                cases hc
                exact ⟨hname, hvideo⟩
              · rw [if_neg hvideo] at hc
                cases hc
      | unplug name =>
          have hboard : s'.view.board = s.view.board.unplug name := by
            rw [hview]
            unfold Board.unplug Board.report
            split
            · split <;> rfl
            · rfl
          -- only a node that is there can go
          by_cases hthere : name ∈ s.view.board.nodes
          · obtain ⟨hrec, hnodes⟩ := unplug_recorded hthere
            have hname := h.names name hthere
            refine h.recorded (hboard ▸ hrec) ⟨_, _, hname, rfl⟩ ?_ ?_ ?_ (hsame hview) hphase
            · rw [hboard, hnodes]
              exact h.nodup.filter _
            · rw [hboard, hnodes]
              exact fun n hn => h.names n (List.mem_filter.mp hn).1
            · intro c hc
              rw [delete_change] at hc
              by_cases hvideo : isVideo name = true
              · rw [if_pos hvideo] at hc
                cases hc
                exact ⟨hname, hvideo⟩
              · rw [if_neg hvideo] at hc
                cases hc
          · have hnone : s.view.board.unplug name = s.view.board := if_neg hthere
            exact h.stays (by rw [hboard, hnone]; exact .refl _) (hsame hview) (.inl hphase)
  | signal hphase hp hview => exact h.stays (hview ▸ hp.stays rfl) (hsame hview) (.inl hphase)
  | select hat hphase hview =>
      exact h.stays (hview ▸ .refl _) (hview ▸ .refl _) (.inr ⟨by rw [hat]; trivial, by rw [hphase]; trivial⟩)
  | selectFailed hat hphase hview =>
      exact h.stays (hview ▸ .refl _) (hview ▸ .refl _) (.inr ⟨by rw [hat]; trivial, by rw [hphase]; trivial⟩)
  | unwatched hat => exact h.watched hat (hC.1 hat) hstep
  | watched hat => exact h.watched hat (hC.1 hat) hstep
  | scanned hat =>
      obtain ⟨hrace, hopen, hsent⟩ := hC.2.1 hat
      exact h.scanned hal hat hrace hopen hsent hstep
  | roundDone hat hphase hview =>
      exact h.stays (hview ▸ .refl _) (hview ▸ .refl _) (.inr ⟨by rw [hat]; trivial, by rw [hphase]; trivial⟩)
  | looper hat hphase he hview =>
      exact h.stays (hview ▸ he.stays) (hsame hview) (.inr ⟨by rw [hat]; trivial, by rw [hphase]; trivial⟩)
  | hotplug hat => exact h.processed hat (hC.2.2.1 (by rw [hat]; rfl)) hstep
  | gadget hat hphase hs hcall hview =>
      refine h.stays (hview ▸ hcall.stays) ?_ (.inr ⟨by rw [hat]; trivial, hphase ▸ hlooping⟩)
      rw [hview]
      exact ⟨names_replaced (Sys.gadgets_view hs) hcall.name_eq, rfl⟩
  | video hat hphase hs he hview =>
      exact h.stays (hview ▸ he.stays) (hsame hview) (.inr ⟨by rw [hat]; trivial, hphase ▸ hlooping⟩)
  | capture hat hphase hs hcall hview =>
      refine h.stays (hview ▸ hcall.stays) ?_ (.inr ⟨by rw [hat]; trivial, hphase ▸ hlooping⟩)
      rw [hview]
      exact ⟨rfl, names_replaced (Sys.captures_view hs) hcall.name_eq⟩
  | batchDone hat hphase hview =>
      exact h.stays (hview ▸ .refl _) (hview ▸ .refl _) (.inr ⟨by rw [hat]; trivial, hphase ▸ hlooping⟩)
  | handle hat hphase hm =>
      exact h.handled hopens hal hat hphase (fun c hc => hC.2.2.2 _ (by rw [hat]; rfl) c hc) hm hstep

/-! ## Runs -/

theorem boot_counted {nodes : List DevName} (hnd : nodes.Nodup) (hnames : ∀ n ∈ nodes, IsName n)
    (inforce : Nat → PixFormat) : (boot env nodes inforce).Counted role := by
  have hboard : (boot env nodes inforce).view.board.nodes = nodes ∧ (boot env nodes inforce).view.board.records = [] ∧
      (boot env nodes inforce).view.board.watching = false := by
    have hkernel : (boot env nodes inforce).io.kernel =
        (Kernel.openFd ⟨0, stdFds, inforce, nodes, [], false, []⟩).2.openFd.2.ask := watch_kernel env _ _ _ _ _
    refine ⟨?_, ?_, ?_⟩
    · show (boot env nodes inforce).io.kernel.nodes = _
      rw [hkernel]
      rfl
    · show (boot env nodes inforce).io.kernel.records = _
      rw [hkernel]
      rfl
    · show (boot env nodes inforce).io.kernel.watching = _
      rw [hkernel]
      rfl
  obtain ⟨hnodes, hrecords, hwatching⟩ := hboard
  have hnews : (boot env nodes inforce).view.board.news = [] := by
    unfold Board.news
    rw [hrecords, ← Sys.pending_eq, boot_pending]
    rfl
  refine ⟨?_, ?_, ?_, ?_, fun _ => ⟨hwatching, hnews⟩, nofun, fun h => h.elim, nofun, nofun⟩
  · rw [hnodes]
    exact hnd
  · rw [hnodes]
    exact hnames
  · rw [hrecords]
    exact nofun
  · rw [hnews]
    exact nofun

/-- **Caught up**, what is attached is what is there. -/
theorem Sys.Counted.enrolled (h : s.Counted role) (hup : s.CaughtUp) : s.Enrolled role := by
  obtain ⟨hloop, hpend, hrecords⟩ := hup
  have hnews : s.view.board.news = [] := by
    unfold Board.news
    rw [← Sys.pending_eq, hpend, show s.view.board.records = [] from hrecords]
    rfl
  have hf := (h.looping hloop).2
  rw [hnews] at hf
  intro name
  obtain ⟨hone, hzero⟩ := hf.settled
  simp only [Sys.roster_eq, List.count_append] at hone hzero
  have hpresent : name ∈ s.view.board.present ↔ name ∈ s.io.kernel.nodes ∧ isVideo name = true := List.mem_filter
  have hout : (s.gadgets.map (·.vdev.name)).count name ≠ 0 → role name = .videoOutput := by
    intro hne
    refine h.outputs name ?_
    show name ∈ (s.gadgets.map Gadget.view).map _
    rw [List.map_map]
    exact List.count_pos_iff.mp (Nat.pos_of_ne_zero hne)
  have hin : (s.captures.map (·.vdev.name)).count name ≠ 0 → role name = .videoCapture := by
    intro hne
    refine h.inputs name ?_
    show name ∈ (s.captures.map Capture.view).map _
    rw [List.map_map]
    exact List.count_pos_iff.mp (Nat.pos_of_ne_zero hne)
  unfold Sys.due
  by_cases hthere : name ∈ s.io.kernel.nodes ∧ isVideo name = true
  · have hcount := hone name (hpresent.mpr hthere)
    -- it is attached once, so not on the list of the other role
    cases hrole : role name with
    | videoOutput =>
        have hzero : (s.captures.map (·.vdev.name)).count name = 0 := by
          by_contra hne
          rw [hin hne] at hrole
          cases hrole
        rw [if_pos ⟨hthere.1, hthere.2, rfl⟩, if_neg (by simp)]
        omega
    | videoCapture =>
        have hzero : (s.gadgets.map (·.vdev.name)).count name = 0 := by
          by_contra hne
          rw [hout hne] at hrole
          cases hrole
        rw [if_neg (by simp), if_pos ⟨hthere.1, hthere.2, rfl⟩]
        omega
  · have hcount := hzero name fun hmem => hthere (hpresent.mp hmem)
    rw [if_neg fun h => hthere ⟨h.1, h.2.1⟩, if_neg fun h => hthere ⟨h.1, h.2.1⟩]
    omega

/-- **Each node is attached once**: in every run along the condition, once all records are read and all messages
    handled, the video nodes in `/dev` are on the list of their role, once each, and nothing else is. -/
theorem nodes_attached_once (hopens : env.Opens role) {nodes : List DevName} (hnd : nodes.Nodup)
    (hnames : ∀ n ∈ nodes, IsName n) {inforce : Nat → PixFormat} {as : List Action}
    (hC : Along (step env) (TakesIn env) as (boot env nodes inforce)) :
    Throughout (step env) (fun s => s.CaughtUp → s.Enrolled role) as (boot env nodes inforce) := by
  intro bs t hpre ht hup
  have hinv : t.Over ∨ (t.Alive ∧ t.Counted role) := by
    refine run_inv_along (I := fun s => s.Over ∨ (s.Alive ∧ s.Counted role)) ?_
      (.inr ⟨boot_alive env nodes inforce, boot_counted hnd hnames inforce⟩) (hC.initial hpre) ht
    intro a s s' hs hCs hst
    rcases hs with hover | ⟨hal, hI⟩
    · exact .inl (hover.step hst)
    · exact (step_moves hal hst).imp And.right fun ⟨hal', hm⟩ => ⟨hal', step_counted hopens hal hI hCs hm hst⟩
  rcases hinv with hover | ⟨-, hcounted⟩
  · have hloop := hup.1
    rw [hover.phase] at hloop
    exact hloop.elim
  · exact hcounted.enrolled hup

/-! ## On the bench -/

/-- The roles of the nodes of an obliging machine. -/
def roleOf (outputs : List DevName) (name : DevName) : BufType :=
  if devPrefix ++ name ∈ outputs.map (devPrefix ++ ·) then .videoOutput else .videoCapture

theorem obliging_opens (outputs : List DevName) (script : List (Nat × UvcEvent)) :
    (Env.obliging outputs script).Opens (roleOf outputs) := by
  intro k name hthere hvideo hname
  have hpath : k.ask.hasPath (devPrefix ++ name) = true :=
    List.any_eq_true.mpr ⟨name, hthere, beq_self_eq_true _⟩
  unfold v4l2Open roleOf
  dsimp only
  rw [v4l2Path_eq hname hvideo, hpath]
  by_cases hout : devPrefix ++ name ∈ outputs.map (devPrefix ++ ·)
  · simp only [Env.obliging, if_pos hout]
    exact ⟨_, _, rfl, rfl⟩
  · simp only [Env.obliging, if_neg hout]
    exact ⟨_, _, rfl, rfl⟩

/-- The capture goes and comes back before the scan, the output device comes after it. -/
def comesAndGoes : List Action :=
  [.next, .unplug (videoName 1), .plug (videoName 1), .next, .plug (videoName 0)] ++ turn [3] 6 ++ turn [5] 3
    ++ turn [3] 8 ++ turn [3] 6

/-- Both are attached once. -/
theorem nodes_attached_once_between : ∃ s,
    run (bench 900) comesAndGoes (boot (bench 900) [videoName 1] fun _ => .zero) = .ok s ∧
      s.io.kernel.nodes = [videoName 1, videoName 0] ∧ s.CaughtUp ∧ s.Enrolled (roleOf [videoName 0]) := by
  obtain ⟨s, h, hnodes, hphase, hpend, hrecords⟩ : ∃ s,
      run (bench 900) comesAndGoes (boot (bench 900) [videoName 1] fun _ => .zero) = .ok s ∧
        s.io.kernel.nodes = [videoName 1, videoName 0] ∧ s.phase = .select ∧ s.pending = [] ∧
        s.io.kernel.records = [] := by
    decide +kernel
  have hup : s.CaughtUp := ⟨by rw [hphase]; trivial, hpend, hrecords⟩
  refine ⟨s, h, hnodes, hup, nodes_attached_once (obliging_opens _ _) (by decide) (by decide) ?_ comesAndGoes s
    (List.prefix_refl _) h hup⟩
  decide +kernel

/-- The output device comes after `hotplug_init` and before the scan. -/
def comesBetween : List Action :=
  [.next, .plug (videoName 0), .next] ++ turn [3] 6 ++ turn [5] 3 ++ turn [3] 8 ++ turn [3] 6

/-- **It is attached twice.** -/
theorem attached_twice : (bench 900).Opens (roleOf [videoName 0]) ∧
    ¬Throughout (step (bench 900)) (fun s => s.CaughtUp → s.Enrolled (roleOf [videoName 0])) comesBetween
      (boot (bench 900) [] fun _ => .zero) := by
  refine ⟨obliging_opens _ _, fun hall => ?_⟩
  obtain ⟨s, h, htwice, hphase, hpend, hrecords⟩ : ∃ s,
      run (bench 900) comesBetween (boot (bench 900) [] fun _ => .zero) = .ok s ∧
        (s.gadgets.map (·.vdev.name)) = [videoName 0, videoName 0] ∧ s.phase = .select ∧ s.pending = [] ∧
        s.io.kernel.records = [] := by
    decide +kernel
  have hcount := (hall comesBetween s (List.prefix_refl _) h ⟨by rw [hphase]; trivial, hpend, hrecords⟩ (videoName 0)).1
  rw [htwice] at hcount
  unfold Sys.due at hcount
  have htwo : [videoName 0, videoName 0].count (videoName 0) = 2 := by decide
  rw [htwo] at hcount
  split at hcount <;> omega

end Uvcd
