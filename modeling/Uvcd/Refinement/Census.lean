import Uvcd.Protocol.Census
import Uvcd.Protocol.Controls
import Uvcd.Refinement.Notes

/-!
# `Refinement.Census` — what `hotplug.c` makes of `/dev`

The bytes of the inotify descriptor are parsed back into the records they were made of (`processNotes_read`), so
`hotplug_process` moves news from the records to the queue (`hotplugProcess_news`) and `hotplug_scan` queues the
nodes it lists (`hotplugScan_news`), both when all they tell is sent.
-/

namespace Uvcd

open Roster

variable {env : Env} {io io' : Io} {k : Kernel}

/-! ## The bytes of a record -/

/-- A file name; that of a video node fits into the path buffer of `v4l2_open`. -/
def IsName (name : DevName) : Prop :=
  0 ∉ name ∧ slash ∉ name ∧ name.length ≤ 255 ∧ (isVideo name = true → name.length ≤ 58)

instance (name : DevName) : Decidable (IsName name) := by unfold IsName; infer_instance

/-- A record about a node. -/
def IsReport (r : Record) : Prop := ∃ mask name, IsName name ∧ r = nodeRecord mask name

theorem byteAt_append (pre bs : List UInt8) (i : Nat) : byteAt (pre ++ bs) (pre.length + i) = byteAt bs i := by
  unfold byteAt
  rw [List.getD_eq_getElem?_getD, List.getD_eq_getElem?_getD, List.getElem?_append_right (Nat.le_add_right _ _),
    Nat.add_sub_cancel_left]

theorem get32_le32 (pre rest : List UInt8) (x : UInt32) : get32 (pre ++ (le32 x ++ rest)) pre.length = x := by
  unfold get32
  have h0 := byteAt_append pre (le32 x ++ rest) 0
  rw [Nat.add_zero] at h0
  rw [h0, byteAt_append, byteAt_append, byteAt_append]
  exact join32 x

/-- The name field is longer than the name, so a NUL ends it. -/
theorem length_lt_paddedLen (name : DevName) : name.length < paddedLen name := by
  unfold paddedLen inotifyEventSize
  omega

theorem toBytes_length (mask : UInt32) (name : DevName) :
    (nodeRecord mask name).toBytes.length = inotifyEventSize + paddedLen name := by
  have hlt := length_lt_paddedLen name
  unfold Record.toBytes nodeRecord le32 inotifyEventSize
  simp only [List.length_append, List.length_cons, List.length_nil, List.length_replicate]
  omega

theorem cstr_padded {name : DevName} (h : 0 ∉ name) (n : Nat) (rest : List UInt8) :
    cstr (name ++ (List.replicate (n + 1) 0 ++ rest)) = name := by
  unfold cstr
  rw [List.takeWhile_append_of_pos]
  · rw [List.replicate_succ, List.cons_append, List.takeWhile_cons_of_neg (by simp), List.append_nil]
  · intro x hx
    simp only [decide_eq_true_eq]
    rintro rfl
    exact h hx

/-- The padding does not complete a short name to a video node's. -/
theorem isVideo_padded (name : DevName) (n : Nat) (rest : List UInt8) :
    (name ++ (List.replicate (n + 1) 0 ++ rest)).take 5 = videoPrefix ↔ isVideo name = true := by
  unfold isVideo
  rw [decide_eq_true_eq]
  by_cases hlen : 5 ≤ name.length
  · rw [List.take_append_of_le_length hlen]
  · refine iff_of_false (fun h => ?_) (fun h => ?_)
    · have hzero : (0 : UInt8) ∈ videoPrefix := by
        rw [← h, List.take_append, List.replicate_succ]
        obtain ⟨j, hj⟩ : ∃ j, 5 - name.length = j + 1 := ⟨4 - name.length, by omega⟩
        rw [hj, List.cons_append, List.take_succ_cons]
        exact List.mem_append_right _ List.mem_cons_self
      exact absurd hzero (by decide)
    · have hvideo := congrArg List.length h
      rw [List.length_take] at hvideo
      have hfive : videoPrefix.length = 5 := rfl
      omega

/-! ## The records of a read -/

/-- What a note tells. -/
def Note.change : Note → Change DevName
  | .attached name => ⟨name, true⟩
  | .detached name => ⟨name, false⟩

theorem Note.message_change (n : Note) (p : Nat) : (n.message p).change = some n.change := by
  cases n <;> rfl

/-- The header of a record gives its mask and its length field, wherever the record lies. -/
theorem header_at (pre : List UInt8) (wd mask cookie len : UInt32) (tail : List UInt8) {buffer : List UInt8}
    (h : buffer = pre ++ (le32 wd ++ (le32 mask ++ (le32 cookie ++ (le32 len ++ tail))))) :
    get32 buffer (pre.length + 4) = mask ∧ get32 buffer (pre.length + 12) = len ∧
      buffer.drop (pre.length + inotifyEventSize) = tail := by
  have hmask := get32_le32 (pre ++ le32 wd) (le32 cookie ++ (le32 len ++ tail)) mask
  have hlen := get32_le32 (pre ++ (le32 wd ++ (le32 mask ++ le32 cookie))) tail len
  simp only [List.append_assoc, List.length_append] at hmask hlen
  subst h
  refine ⟨hmask, hlen, ?_⟩
  rw [List.drop_length_add_append]
  rfl

/-- A record is read back from the bytes it was written as, wherever they are. -/
theorem recordNote_toBytes {r : Record} (hr : IsReport r) (pre rest : List UInt8) :
    (recordNote (pre ++ (r.toBytes ++ rest)) pre.length).map Note.change = r.change ∧
      get32 (pre ++ (r.toBytes ++ rest)) (pre.length + 12) = UInt32.ofNat r.len := by
  obtain ⟨mask, name, ⟨hnul, -, hlen, -⟩, rfl⟩ := hr
  obtain ⟨n, hn⟩ : ∃ n, paddedLen name - name.length = n + 1 :=
    ⟨paddedLen name - name.length - 1, by have := length_lt_paddedLen name; omega⟩
  have hbytes : (nodeRecord mask name).toBytes ++ rest = le32 1 ++ (le32 mask ++ (le32 0 ++
      (le32 (UInt32.ofNat (paddedLen name)) ++ (name ++ (List.replicate (n + 1) 0 ++ rest))))) := by
    unfold Record.toBytes nodeRecord
    dsimp only
    rw [hn]
    simp only [List.append_assoc]
  obtain ⟨hmask, hlast, hname⟩ := header_at pre 1 mask 0 (UInt32.ofNat (paddedLen name)) _ (congrArg (pre ++ ·) hbytes)
  refine ⟨?_, hlast⟩
  unfold recordNote Record.change
  dsimp only
  rw [hname, hmask, cstr_padded hnul]
  show Option.map Note.change (if mask &&& IN_ISDIR ≠ 0 then none else _) =
    if mask &&& IN_ISDIR ≠ 0 then none else if isVideo name = true then
      if mask &&& IN_CREATE ≠ 0 then some (Change.mk name true)
      else if mask &&& IN_DELETE ≠ 0 then some (Change.mk name false) else none
    else none
  split
  · rfl
  · by_cases hvideo : isVideo name = true
    · rw [if_pos ((isVideo_padded name n rest).mpr hvideo), if_pos hvideo]
      split
      · rfl
      · split <;> rfl
    · rw [if_neg (fun h => hvideo ((isVideo_padded name n rest).mp h)), if_neg hvideo]
      rfl

theorem toBytes_pos {r : Record} (hr : IsReport r) : 0 < r.toBytes.length := by
  obtain ⟨mask, name, -, rfl⟩ := hr
  rw [toBytes_length]
  exact Nat.lt_of_lt_of_le (by decide) (Nat.le_add_right inotifyEventSize _)

/-- The record after `r` starts where the bytes of `r` end. -/
theorem toBytes_next {r : Record} (hr : IsReport r) (pre : List UInt8) :
    pre.length + inotifyEventSize + (UInt32.ofNat r.len).toNat = (pre ++ r.toBytes).length := by
  obtain ⟨mask, name, ⟨-, -, hlen, -⟩, rfl⟩ := hr
  have hle : paddedLen name ≤ 272 := by
    unfold paddedLen inotifyEventSize
    omega
  rw [List.length_append, toBytes_length]
  show _ + (UInt32.ofNat (paddedLen name)).toNat = _
  rw [UInt32.toNat_ofNat_of_lt' (by show _ < 2 ^ 32; omega), Nat.add_assoc]

/-- **The record loop** tells what the records tell, and stops behind the last. -/
theorem walkNotes_toBytes (rest : List UInt8) (rs : List Record) : ∀ (pre : List UInt8) (fuel : Nat),
    (∀ r ∈ rs, IsReport r) → rs.length ≤ fuel →
    (walkNotes (pre ++ (rs.flatMap Record.toBytes ++ rest)) (pre ++ rs.flatMap Record.toBytes).length fuel
      pre.length).map Note.change = rs.filterMap Record.change := by
  induction rs with
  | nil =>
      intro pre fuel _ _
      cases fuel with
      | zero => rfl
      | succ fuel =>
          rw [walkNotes, if_neg (by simp)]
          rfl
  | cons r rs ih =>
      intro pre fuel hrs hfuel
      obtain ⟨fuel, rfl⟩ : ∃ n, fuel = n + 1 := ⟨fuel - 1, by simp only [List.length_cons] at hfuel; omega⟩
      have hr := hrs r List.mem_cons_self
      have hpos := toBytes_pos hr
      obtain ⟨hnote, hlen⟩ := recordNote_toBytes hr pre (rs.flatMap Record.toBytes ++ rest)
      have hrest := ih (pre ++ r.toBytes) fuel (fun x hx => hrs x (List.mem_cons_of_mem _ hx))
        (by simpa using hfuel)
      rw [List.append_assoc, List.append_assoc] at hrest
      rw [List.flatMap_cons, List.append_assoc, walkNotes, if_pos (by simp only [List.length_append]; omega), hlen,
        toBytes_next hr, List.map_append, hrest, List.filterMap_cons, ← hnote]
      cases recordNote (pre ++ (r.toBytes ++ (rs.flatMap Record.toBytes ++ rest))) pre.length <;> rfl

/-- A read hands over records from the front, whole. -/
theorem readRecords_eq (rs : List Record) : ∀ room : Nat, ∃ read, rs = read ++ (readRecords room rs).2 ∧
    (readRecords room rs).1 = read.flatMap Record.toBytes := by
  induction rs with
  | nil => intro room; exact ⟨[], rfl, rfl⟩
  | cons r rs ih =>
      intro room
      rw [readRecords]
      by_cases hroom : r.toBytes.length ≤ room
      · rw [if_pos hroom]
        obtain ⟨read, hrs, hbytes⟩ := ih (room - r.toBytes.length)
        refine ⟨r :: read, ?_, ?_⟩
        · show r :: rs = r :: (read ++ _)
          rw [← hrs]
        · show r.toBytes ++ _ = _
          rw [hbytes, List.flatMap_cons]
      · rw [if_neg hroom]
        exact ⟨[], rfl, rfl⟩

theorem length_le_flatMap {rs : List Record} (hrs : ∀ r ∈ rs, IsReport r) :
    rs.length ≤ (rs.flatMap Record.toBytes).length := by
  induction rs with
  | nil => exact Nat.le_refl _
  | cons r rs ih =>
      have hpos := toBytes_pos (hrs r List.mem_cons_self)
      have hle := ih fun x hx => hrs x (List.mem_cons_of_mem _ hx)
      rw [List.flatMap_cons, List.length_append, List.length_cons]
      omega

/-- **`hotplug_process` tells what the records it reads tell**, whatever lies on its stack. -/
theorem processNotes_read (hrs : ∀ r ∈ k.records, IsReport r) : ∃ read,
    k.records = read ++ (readRecords hotplugBufferSize k.records).2 ∧
    (processNotes env k).map Note.change = read.filterMap Record.change := by
  obtain ⟨read, heq, hbytes⟩ := readRecords_eq k.records hotplugBufferSize
  refine ⟨read, heq, ?_⟩
  have hread : ∀ r ∈ read, IsReport r := fun r hr => hrs r (by rw [heq]; exact List.mem_append_left _ hr)
  unfold processNotes
  dsimp only
  rw [hbytes]
  exact walkNotes_toBytes (env.stale k.tick) read [] _ hread (length_le_flatMap hread)

/-! ## Notes that are all sent -/

/-- There is memory and room for each of the notes, from call `t` and address `brk` on. -/
def NotesSent (env : Env) : List Note → Nat → Nat → Prop
  | [], _, _ => True
  | n :: ns, t, brk =>
    env.malloc t = true ∧ env.write (t + 1) (n.message brk) = true ∧ NotesSent env ns (t + 2) (brk + 1)

instance NotesSent.decide (env : Env) : ∀ ns t brk, Decidable (NotesSent env ns t brk)
  | [], _, _ => .isTrue trivial
  | _ :: ns, t, brk =>
    have := NotesSent.decide env ns (t + 2) (brk + 1)
    inferInstanceAs (Decidable (_ ∧ _ ∧ _))

theorem Note.send_sent (n : Note) (hmem : env.malloc io.kernel.tick = true)
    (hw : env.write (io.kernel.tick + 1) (n.message io.brk) = true) :
    (n.send env io).queue = io.queue ++ [n.message io.brk] ∧ (n.send env io).kernel = io.kernel.ask.ask ∧
      (n.send env io).brk = io.brk + 1 := by
  rw [n.send_mem hmem]
  unfold Io.post looperSendMessage
  split
  · exact ⟨rfl, rfl, rfl⟩
  · next hno => exact absurd hw hno

/-- What is sent, all of it. -/
theorem sendNotes_sent (ns : List Note) : ∀ {io : Io}, NotesSent env ns io.kernel.tick io.brk →
    (sendNotes env ns io).queue.filterMap Message.change =
      io.queue.filterMap Message.change ++ ns.map Note.change ∧
    (sendNotes env ns io).kernel.nodes = io.kernel.nodes ∧
    (sendNotes env ns io).kernel.records = io.kernel.records ∧
    (sendNotes env ns io).kernel.watching = io.kernel.watching := by
  induction ns with
  | nil => intro io _; exact ⟨(List.append_nil _).symm, rfl, rfl, rfl⟩
  | cons n ns ih =>
      intro io ⟨hmem, hw, hrest⟩
      obtain ⟨hq, hkernel, hbrk⟩ := n.send_sent hmem hw
      rw [sendNotes_cons]
      obtain ⟨hqs, hnodes, hrecords, hwatching⟩ := @ih (n.send env io) (by rw [hkernel, hbrk]; exact hrest)
      rw [hkernel] at hnodes hrecords hwatching
      refine ⟨?_, hnodes, hrecords, hwatching⟩
      rw [hqs, hq, List.filterMap_append, List.filterMap_cons_some (n.message_change _), List.filterMap_nil,
        List.append_assoc, List.map_cons]
      rfl

/-- **Reading the records** moves what they tell into the queue. -/
theorem hotplugProcess_news (hrs : ∀ r ∈ io.kernel.records, IsReport r)
    (hsent : NotesSent env (processNotes env io.kernel) (io.kernel.tick + 1) io.brk) :
    ((hotplugProcess env io).board []).news = (io.board []).news ∧
    (hotplugProcess env io).kernel.nodes = io.kernel.nodes ∧
    (hotplugProcess env io).kernel.watching = io.kernel.watching ∧
    ∀ r ∈ (hotplugProcess env io).kernel.records, r ∈ io.kernel.records := by
  obtain ⟨read, heq, hnotes⟩ := @processNotes_read env _ hrs
  rw [hotplugProcess_eq]
  obtain ⟨hq, hnodes, hrecords, hwatching⟩ := @sendNotes_sent env (processNotes env io.kernel)
    { io with kernel := { io.kernel.ask with records := (readRecords hotplugBufferSize io.kernel.records).2 } } hsent
  refine ⟨?_, hnodes, hwatching, fun r hr => ?_⟩
  · show (sendNotes env _ _).queue.filterMap _ ++ (sendNotes env _ _).kernel.records.filterMap _ =
      io.queue.filterMap _ ++ io.kernel.records.filterMap _
    rw [hq, hrecords, hnotes, List.append_assoc]
    dsimp only
    rw [← List.filterMap_append, ← heq]
  · rw [hrecords] at hr
    rw [heq]
    exact List.mem_append_right _ hr

/-- **The scan** queues the nodes it lists. -/
theorem hotplugScan_news (hopen : env.opendir io.kernel.tick = true)
    (hsent : NotesSent env (scanNotes io.kernel.nodes) (io.kernel.tick + 1) io.brk) :
    ((hotplugScan env io).board []).news =
      io.queue.filterMap Message.change ++ arrivals (io.board []).present ++ io.kernel.records.filterMap Record.change ∧
    (hotplugScan env io).kernel.nodes = io.kernel.nodes ∧
    (hotplugScan env io).kernel.watching = io.kernel.watching ∧
    (hotplugScan env io).kernel.records = io.kernel.records := by
  have hlist : (scanNotes io.kernel.nodes).map Note.change = arrivals (io.board []).present := by
    unfold scanNotes arrivals
    rw [List.map_map]
    rfl
  unfold hotplugScan
  rw [if_pos hopen, scanNames_eq]
  obtain ⟨hq, hnodes, hrecords, hwatching⟩ := @sendNotes_sent env (scanNotes io.kernel.nodes) io.tick hsent
  refine ⟨?_, hnodes, hwatching, hrecords⟩
  show (sendNotes env _ _).queue.filterMap _ ++ (sendNotes env _ _).kernel.records.filterMap _ = _
  rw [hq, hrecords, hlist]
  rfl

end Uvcd
