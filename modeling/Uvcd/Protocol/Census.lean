import Uvcd.Lib.Roster
import Uvcd.Model.Hotplug
import Uvcd.Protocol.Rounds

/-!
# `Protocol.Census` — the nodes of `/dev` and the lists of attached devices

A message or an unread record may tell of a video node that comes or goes (`Message.change`, `Record.change`).
The two lists of objects are a roster (`View.roster`) kept by these changes: only the message about a node changes
who is on it, and nothing but `hotplug.c` sends one.
-/

namespace Uvcd

open Split Roster

variable {env : Env} {w w' w'' : Board} {v v' : View} {m : Message} {name : DevName}

def isVideo (name : DevName) : Bool := decide (name.take 5 = videoPrefix)

/-- What a message tells of a node. -/
def Message.change (m : Message) : Option (Change DevName) :=
  match m.what, m.lParam with
  | .hotplugAttached, .devname _ name => some ⟨name, true⟩
  | .hotplugDetached, .devname _ name => some ⟨name, false⟩
  | _, _ => none

/-- What `hotplug_process` is going to make of a record. -/
def Record.change (r : Record) : Option (Change DevName) :=
  if r.mask &&& IN_ISDIR ≠ 0 then none
  else if isVideo r.name then
    if r.mask &&& IN_CREATE ≠ 0 then some ⟨r.name, true⟩
    else if r.mask &&& IN_DELETE ≠ 0 then some ⟨r.name, false⟩
    else none
  else none

/-- The changes of `/dev` that are known or recorded and not acted on yet. -/
def Board.news (w : Board) : List (Change DevName) :=
  w.queue.filterMap Message.change ++ w.records.filterMap Record.change

def Board.present (w : Board) : List DevName := w.nodes.filter isVideo

/-- The names of the attached devices. -/
def View.roster (v : View) : List DevName := v.gadgets.map (·.name) ++ v.captures.map (·.name)

/-! ## What stays -/

/-- Nothing is told of `/dev`, and nothing happens there. -/
structure Stays (w w' : Board) : Prop where
  changes : w'.queue.filterMap Message.change = w.queue.filterMap Message.change
  nodes : w'.nodes = w.nodes
  records : w'.records = w.records
  watching : w'.watching = w.watching

theorem Stays.refl (w : Board) : Stays w w := ⟨rfl, rfl, rfl, rfl⟩

theorem Stays.trans (h : Stays w w') (h' : Stays w' w'') : Stays w w'' :=
  ⟨h'.changes.trans h.changes, h'.nodes.trans h.nodes, h'.records.trans h.records,
    h'.watching.trans h.watching⟩

theorem Stays.news (h : Stays w w') : w'.news = w.news := by
  unfold Board.news
  rw [h.changes, h.records]

theorem Stays.present (h : Stays w w') : w'.present = w.present := by
  unfold Board.present
  rw [h.nodes]

theorem Unlogged.stays (h : Unlogged w w') {P : Message → Prop} (hext : Extends P w w')
    (hP : ∀ m, P m → m.change = none) : Stays w w' := by
  refine ⟨?_, h.nodes, h.records, h.watching⟩
  obtain ⟨ms, hq, hms⟩ := hext
  rw [hq, List.filterMap_append, List.filterMap_eq_nil_iff.mpr fun m hm => hP m (hms m hm), List.append_nil]

theorem Reports.unchanged (h : Reports m) : m.change = none := by
  cases h <;> rfl

theorem Elapses.stays (h : Elapses w w') : Stays w w' := by
  cases h with
  | mk _ _ => exact ⟨rfl, rfl, rfl, rfl⟩

theorem Posts.stays (h : Posts env m w w') (hm : m.change = none) : Stays w w' :=
  h.unlogged.stays (h.extends (P := (· = m)) rfl) fun _ hx => hx ▸ hm

theorem GadgetCalls.stays {ev : Except Errno UvcEvent} {g g' : GadgetView} (h : GadgetCalls env ev w g w' g') :
    Stays w w' :=
  h.unlogged.stays h.extends fun _ => Reports.unchanged

theorem CaptureCalls.stays {c c' : CaptureView} (h : CaptureCalls env w c w' c') : Stays w w' := by
  cases h with
  | quiet he => exact he.stays
  | frame hf hoff haddr hstride hstamp htick hp =>
      refine Stays.trans ?_ hp.stays
      unfold Board.publish
      split
      · refine ⟨?_, rfl, rfl, rfl⟩
        dsimp only
        rw [List.filterMap_append]
        exact List.append_nil _
      · exact .refl w

theorem Handles.stays {refuses : Prop} (h : Handles env refuses v m v') : Stays v.board v'.board := by
  rcases h.logs with hu | ⟨id, p, f, size, -, -, -, hw⟩
  · exact hu.stays h.extends fun _ => Reports.unchanged
  · rw [hw]
    exact ⟨rfl, rfl, rfl, rfl⟩

/-! ## Who is on the roster -/

theorem GadgetCalls.name_eq {ev : Except Errno UvcEvent} {g g' : GadgetView} (h : GadgetCalls env ev w g w' g') :
    g'.name = g.name := by
  cases h with
  | quiet | commit | setFmt => rfl
  | start _ hs => cases hs <;> rfl
  | stop _ hs => cases hs <;> rfl

theorem CaptureCalls.name_eq {c c' : CaptureView} (h : CaptureCalls env w c w' c') : c'.name = c.name := by
  cases h <;> rfl

theorem StopsCapture.name_eq {c c' : CaptureView} (h : StopsCapture w c w' c') : c'.name = c.name := by
  cases h <;> rfl

theorem StartsCapture.name_eq {c c' : CaptureView} (h : StartsCapture env w c w' c') : c'.name = c.name := by
  cases h <;> rfl

/-- The same devices are attached. -/
structure SameRoster (v v' : View) : Prop where
  gadgets : v'.gadgets.map (·.name) = v.gadgets.map (·.name)
  captures : v'.captures.map (·.name) = v.captures.map (·.name)

theorem SameRoster.refl (v : View) : SameRoster v v := ⟨rfl, rfl⟩

theorem SameRoster.roster (h : SameRoster v v') : v'.roster = v.roster := by
  unfold View.roster
  rw [h.gadgets, h.captures]

theorem names_replaced {α β : Type} {f : α → β} {l pre post : List α} {a b : α} (h : l = pre ++ a :: post)
    (hab : f b = f a) : (pre ++ b :: post).map f = l.map f := by
  rw [h, List.map_append, List.map_append, List.map_cons, List.map_cons, hab]

theorem Releases.names {refuses : Prop} {id : UInt32} {cs cs' : List CaptureView} (h : Releases refuses id cs cs') :
    cs'.map (·.name) = cs.map (·.name) := by
  cases h with
  | none => rfl
  | refused _ hs => exact names_replaced hs.eq rfl

/-- Only a message about a node changes who is attached. -/
theorem Handles.same_roster {refuses : Prop} (h : Handles env refuses v m v') (hm : m.change = none) :
    SameRoster v v' := by
  cases h with
  | attachFailed | gadgetAttached | captureAttached | gadgetDetached | captureDetached | detachMissed => cases hm
  | signal | streamOnMissed | streamOffMissed | uvcAttached | uvcDetachedMissed | frameCopied | frameDropped =>
      exact ⟨rfl, rfl⟩
  | setFmtHeld hs he => exact ⟨rfl, names_replaced hs.eq rfl⟩
  | setFmtPaired hr hs hfree he =>
      refine ⟨rfl, ?_⟩
      rw [← hr.names]
      exact names_replaced hs rfl
  | setFmtUnpaired hr he => exact ⟨rfl, hr.names⟩
  | streamOn hs hstart => exact ⟨rfl, names_replaced hs.eq hstart.name_eq⟩
  | streamOff hs hstop => exact ⟨rfl, names_replaced hs.eq hstop.name_eq⟩
  | uvcDetached hs hstop => exact ⟨rfl, names_replaced hs.eq hstop.name_eq⟩

/-- A device that is detached leaves one of the two lists, if it is on one. -/
theorem Handles.detached {refuses : Prop} {p : Nat} (h : Handles env refuses v (.hotplugDetached p name) v') :
    (name ∉ v.roster ∧ SameRoster v v') ∨ (v.roster.Perm (name :: v'.roster) ∧
      (v'.gadgets.map (·.name)).Sublist (v.gadgets.map (·.name)) ∧
      (v'.captures.map (·.name)).Sublist (v.captures.map (·.name))) := by
  cases h with
  | gadgetDetached hs hstop hp =>
      refine .inr ⟨?_, ?_, .refl _⟩
      · unfold View.roster
        rw [hs.eq]
        simp only [List.map_append, List.map_cons, List.append_assoc, List.cons_append]
        rw [hs.hit]
        exact List.perm_middle
      · rw [hs.eq]
        exact ((List.sublist_cons_self _ _).append_left _).map _
  | captureDetached hg hs hstop he =>
      refine .inr ⟨?_, .refl _, ?_⟩
      · unfold View.roster
        rw [hs.eq]
        simp only [List.map_append, List.map_cons]
        rw [hs.hit, ← List.append_assoc, ← List.append_assoc]
        exact List.perm_middle
      · rw [hs.eq]
        exact ((List.sublist_cons_self _ _).append_left _).map _
  | detachMissed hg hc =>
      -- nobody has the name
      refine .inl ⟨?_, .refl v⟩
      unfold View.roster
      intro hmem
      rcases List.mem_append.mp hmem with hmem | hmem
      · obtain ⟨g, hmem, hname⟩ := List.mem_map.mp hmem
        exact hg g hmem hname
      · obtain ⟨c, hmem, hname⟩ := List.mem_map.mp hmem
        exact hc c hmem hname

end Uvcd
