import Uvcd.Refinement.Census

/-!
# `Correctness.Records` — the record walk of `hotplug_process`

A read of the inotify descriptor is a row of records of different lengths. The walk finds the start of each from
the length field of the one before (`visits_starts`), and what it makes of a record depends on that record alone
(`recordNote_at`): the name test of a record without a name looks at the bytes behind it, but such a record has
neither mask bit, so nothing is sent for it whatever the test says.
-/

namespace Uvcd

/-- A record of the inotify stream: the fields of `struct inotify_event` and the name field that follows it. -/
structure InotifyEvent where
  wd : UInt32
  mask : UInt32
  cookie : UInt32
  field : List UInt8
  short : field.length < 2 ^ 32
  /-- a record about a name carries the name with its NUL -/
  named : mask &&& IN_CREATE ≠ 0 ∨ mask &&& IN_DELETE ≠ 0 → 0 ∈ field

namespace InotifyEvent

variable (r : InotifyEvent)

def toBytes : List UInt8 :=
  le32 r.wd ++ (le32 r.mask ++ (le32 r.cookie ++ (le32 (UInt32.ofNat r.field.length) ++ r.field)))

def name : DevName := cstr r.field

/-- What the program is to tell of the record. -/
def note : Option Note :=
  if r.mask &&& IN_ISDIR ≠ 0 then none
  else if isVideo r.name = true then
    if r.mask &&& IN_CREATE ≠ 0 then some (.attached r.name)
    else if r.mask &&& IN_DELETE ≠ 0 then some (.detached r.name)
    else none
  else none

theorem toBytes_length : r.toBytes.length = inotifyEventSize + r.field.length := by
  unfold toBytes le32 inotifyEventSize
  simp only [List.length_append, List.length_cons, List.length_nil]
  omega

/-- The length field gives the length. -/
theorem len_eq : (UInt32.ofNat r.field.length).toNat = r.field.length := UInt32.toNat_ofNat_of_lt' r.short

end InotifyEvent

/-! ## One record -/

section Bytes

variable {bs rest : List UInt8}

/-- A string that ends in the field does not depend on what follows the field. -/
theorem cstr_append (h : 0 ∈ bs) (rest : List UInt8) : cstr (bs ++ rest) = cstr bs := by
  obtain ⟨pre, post, rfl, hpre⟩ := List.eq_append_cons_of_mem h
  have hname : cstr (pre ++ 0 :: post) = pre := cstr_padded hpre 0 post
  rw [hname, List.append_assoc, List.cons_append]
  exact cstr_padded hpre 0 (post ++ rest)

/-- The first five bytes of a string in the field are those of its name. -/
theorem take_append_eq_videoPrefix (h : 0 ∈ bs) (rest : List UInt8) :
    (bs ++ rest).take 5 = videoPrefix ↔ isVideo (cstr bs) = true := by
  unfold isVideo
  rw [decide_eq_true_eq]
  obtain ⟨pre, post, rfl, hpre⟩ := List.eq_append_cons_of_mem h
  have hname : cstr (pre ++ 0 :: post) = pre := cstr_padded hpre 0 post
  rw [hname, List.append_assoc, List.cons_append]
  exact (isVideo_padded pre 0 (post ++ rest)).trans decide_eq_true_iff

end Bytes

/-- **One record** is read back wherever its bytes are, whatever lies before and behind them. -/
theorem recordNote_at (r : InotifyEvent) (pre rest : List UInt8) :
    recordNote (pre ++ (r.toBytes ++ rest)) pre.length = r.note ∧
      (get32 (pre ++ (r.toBytes ++ rest)) (pre.length + 12)).toNat = r.field.length := by
  have hbytes : r.toBytes ++ rest = le32 r.wd ++ (le32 r.mask ++ (le32 r.cookie ++
      (le32 (UInt32.ofNat r.field.length) ++ (r.field ++ rest)))) := by
    unfold InotifyEvent.toBytes
    simp only [List.append_assoc]
  obtain ⟨hmask, hlast, hname⟩ :=
    header_at pre r.wd r.mask r.cookie (UInt32.ofNat r.field.length) _ (congrArg (pre ++ ·) hbytes)
  constructor
  · -- the mask and the name are those of the record
    unfold recordNote InotifyEvent.note
    dsimp only
    rw [hname, hmask]
    by_cases hdir : r.mask &&& IN_ISDIR ≠ 0
    · rw [if_pos hdir, if_pos hdir]
    · rw [if_neg hdir, if_neg hdir]
      by_cases hnamed : r.mask &&& IN_CREATE ≠ 0 ∨ r.mask &&& IN_DELETE ≠ 0
      · -- the name ends in the field
        have hnul := r.named hnamed
        have hcstr : cstr (r.field ++ rest) = r.name := cstr_append hnul rest
        rw [hcstr]
        by_cases hvideo : isVideo r.name = true
        · rw [if_pos hvideo, if_pos ((take_append_eq_videoPrefix hnul rest).mpr hvideo)]
        · rw [if_neg hvideo, if_neg (fun h => hvideo ((take_append_eq_videoPrefix hnul rest).mp h))]
      · -- neither bit is set: whatever the test of the name says
        obtain ⟨hcreate, hdelete⟩ := not_or.mp hnamed
        rw [if_neg hcreate, if_neg hdelete, if_neg hcreate, if_neg hdelete]
        split <;> split <;> rfl
  · rw [hlast]
    exact r.len_eq

/-! ## The walk -/

/-- The record loop, at offset `ptr` of a read of `r` bytes, visits these offsets and leaves. -/
inductive Visits (buffer : List UInt8) (r : Nat) : Nat → List Nat → Prop
  | leave {ptr : Nat} (h : ¬ptr < r) : Visits buffer r ptr []
  | visit {ptr : Nat} {ptrs : List Nat} (h : ptr < r)
      (hrest : Visits buffer r (ptr + inotifyEventSize + (get32 buffer (ptr + 12)).toNat) ptrs) :
      Visits buffer r ptr (ptr :: ptrs)

/-- A loop that leaves tells what the records it visits are about, with any bound on its rounds that is no less. -/
theorem Visits.walkNotes_eq {buffer : List UInt8} {r ptr : Nat} {ptrs : List Nat} (h : Visits buffer r ptr ptrs) :
    ∀ fuel, ptrs.length ≤ fuel → walkNotes buffer r fuel ptr = (ptrs.map (recordNote buffer)).filterMap id := by
  induction h with
  | leave h =>
      intro fuel _
      cases fuel with
      | zero => rfl
      | succ fuel => rw [walkNotes, if_neg h]; rfl
  | @visit ptr ptrs h hrest ih =>
      intro fuel hfuel
      obtain ⟨fuel, rfl⟩ : ∃ n, fuel = n + 1 := ⟨fuel - 1, by simp only [List.length_cons] at hfuel; omega⟩
      rw [walkNotes, if_pos h, ih fuel (Nat.le_of_succ_le_succ hfuel), List.map_cons]
      cases recordNote buffer ptr <;> rfl

/-- Where the records start, the first of them at `ptr`. -/
def starts : Nat → List InotifyEvent → List Nat
  | _, [] => []
  | ptr, r :: rs => ptr :: starts (ptr + r.toBytes.length) rs

theorem starts_length (rs : List InotifyEvent) : ∀ ptr, (starts ptr rs).length = rs.length := by
  induction rs with
  | nil => intro ptr; rfl
  | cons r rs ih => intro ptr; rw [starts, List.length_cons, ih, List.length_cons]

/-- The bytes of the records of a read. -/
def readBytes (rs : List InotifyEvent) : List UInt8 := rs.flatMap InotifyEvent.toBytes

theorem readBytes_cons (r : InotifyEvent) (rs : List InotifyEvent) :
    readBytes (r :: rs) = r.toBytes ++ readBytes rs := List.flatMap_cons

/-- **The loop visits each record**, from its length field to the next, and leaves behind the last. -/
theorem visits_starts (rest : List UInt8) (rs : List InotifyEvent) : ∀ pre : List UInt8,
    Visits (pre ++ (readBytes rs ++ rest)) (pre ++ readBytes rs).length pre.length (starts pre.length rs) ∧
      (starts pre.length rs).map (recordNote (pre ++ (readBytes rs ++ rest))) = rs.map InotifyEvent.note := by
  induction rs with
  | nil =>
      intro pre
      exact ⟨.leave (by simp [readBytes]), rfl⟩
  | cons r rs ih =>
      intro pre
      obtain ⟨hnote, hlen⟩ := recordNote_at r pre (readBytes rs ++ rest)
      obtain ⟨hvisits, hnotes⟩ := ih (pre ++ r.toBytes)
      rw [List.append_assoc, List.append_assoc, @List.length_append _ pre r.toBytes] at hvisits
      rw [List.append_assoc, List.length_append] at hnotes
      rw [readBytes_cons, List.append_assoc]
      refine ⟨.visit ?_ ?_, ?_⟩
      · rw [List.length_append, List.length_append, r.toBytes_length]
        unfold inotifyEventSize
        omega
      · rw [hlen, Nat.add_assoc, ← r.toBytes_length]
        exact hvisits
      · rw [starts, List.map_cons, hnote, hnotes, List.map_cons]

theorem length_le_readBytes (rs : List InotifyEvent) : rs.length ≤ (readBytes rs).length := by
  induction rs with
  | nil => exact Nat.le_refl _
  | cons r rs ih =>
      rw [readBytes_cons, List.length_append, List.length_cons, r.toBytes_length]
      unfold inotifyEventSize
      omega

theorem filterMap_starts {buffer : List UInt8} {ptr : Nat} {rs : List InotifyEvent}
    (h : (starts ptr rs).map (recordNote buffer) = rs.map InotifyEvent.note) :
    ((starts ptr rs).map (recordNote buffer)).filterMap id = rs.filterMap InotifyEvent.note := by
  rw [h, List.filterMap_map]
  rfl

/-! ## What is sent -/

/-- The messages for these notes, the copy of the first name at `brk`. -/
def noteMessages : List Note → Nat → List Message
  | [], _ => []
  | n :: ns, brk => n.message brk :: noteMessages ns (brk + 1)

theorem sendNotes_queue {env : Env} (ns : List Note) : ∀ {io : Io}, NotesSent env ns io.kernel.tick io.brk →
    (sendNotes env ns io).queue = io.queue ++ noteMessages ns io.brk := by
  induction ns with
  | nil => intro io _; exact (List.append_nil _).symm
  | cons n ns ih =>
      intro io ⟨hmem, hw, hrest⟩
      obtain ⟨hq, hkernel, hbrk⟩ := n.send_sent hmem hw
      have hqs := @ih (n.send env io) (by rw [hkernel, hbrk]; exact hrest)
      rw [sendNotes_cons, hqs, hq, hbrk, List.append_assoc]
      rfl

/-- **A read of whole records.** The loop visits each record once, from the first to the last, and leaves; any bound
    on its rounds that is no less than the number of records gives the same. What the record at each offset is about
    is what that record is about, whatever lies behind the `r` bytes that were read; and where there is memory and
    room for them, the messages about these are what is added to the queue, in order. -/
theorem hotplugProcess_records (rs : List InotifyEvent) (stale : List UInt8) :
    Visits (readBytes rs ++ stale) (readBytes rs).length 0 (starts 0 rs) ∧
    (starts 0 rs).map (recordNote (readBytes rs ++ stale)) = rs.map InotifyEvent.note ∧
    (∀ env fuel io, rs.length ≤ fuel → NotesSent env (rs.filterMap InotifyEvent.note) io.kernel.tick io.brk →
      (hotplugWalk env (readBytes rs ++ stale) (readBytes rs).length fuel 0 io).queue =
        io.queue ++ noteMessages (rs.filterMap InotifyEvent.note) io.brk) ∧
    ∀ env io, (readRecords hotplugBufferSize io.kernel.records).1 = readBytes rs →
      NotesSent env (rs.filterMap InotifyEvent.note) (io.kernel.tick + 1) io.brk →
        (hotplugProcess env io).queue = io.queue ++ noteMessages (rs.filterMap InotifyEvent.note) io.brk := by
  have hwalk (stale : List UInt8) (fuel : Nat) (hfuel : rs.length ≤ fuel) :
      walkNotes (readBytes rs ++ stale) (readBytes rs).length fuel 0 = rs.filterMap InotifyEvent.note := by
    obtain ⟨hvisits, hnotes⟩ := visits_starts stale rs []
    rw [← filterMap_starts hnotes]
    exact hvisits.walkNotes_eq fuel (by rw [starts_length]; exact hfuel)
  obtain ⟨hvisits, hnotes⟩ := visits_starts stale rs []
  refine ⟨hvisits, hnotes, fun env fuel io hfuel hsent => ?_, fun env io hread hsent => ?_⟩
  · rw [hotplugWalk_eq, hwalk stale fuel hfuel]
    exact sendNotes_queue _ hsent
  · have hprocess : processNotes env io.kernel = rs.filterMap InotifyEvent.note := by
      unfold processNotes
      dsimp only
      rw [hread]
      exact hwalk _ _ (length_le_readBytes rs)
    rw [hotplugProcess_eq, hprocess]
    exact sendNotes_queue _ hsent

/-- `video0` comes, a watch is removed, which has no name, and `video1` goes. -/
def readEvents : List InotifyEvent :=
  [⟨1, IN_CREATE, 0, videoName 0 ++ List.replicate 10 0, by decide, by decide⟩,
    ⟨1, 0x8000, 0, [], by decide, by decide⟩,
    ⟨1, IN_DELETE, 0, videoName 1 ++ List.replicate 10 0, by decide, by decide⟩]

/-- A machine on which these are read. -/
def readIo : Io :=
  let io := (boot (bench 900) [] fun _ => .zero).io
  { io with kernel.records :=
      [nodeRecord IN_CREATE (videoName 0), ⟨0x8000, [], 0⟩, nodeRecord IN_DELETE (videoName 1)] }

/-- Two messages are sent. -/
theorem hotplugProcess_records_three : (hotplugProcess (bench 900) readIo).queue =
    readIo.queue ++ [.hotplugAttached readIo.brk (videoName 0), .hotplugDetached (readIo.brk + 1) (videoName 1)] :=
  (hotplugProcess_records readEvents []).2.2.2 (bench 900) readIo (by decide) (by decide)

end Uvcd
