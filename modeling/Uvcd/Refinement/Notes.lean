import Uvcd.Refinement.Books

/-!
# `Refinement.Notes` — what `hotplug.c` tells

`hotplug_scan` and `hotplug_process` come to a list of notes about nodes, which are sent one after the other.
What the list is does not depend on how the sends go (`scanNotes`, `processNotes`); `NotesFit` says for which
answers of the kernel all of it is sent.
-/

namespace Uvcd

variable {env : Env} {io io' : Io}

/-- What `hotplug.c` tells of a node, up to where the copy of the name is. -/
inductive Note where
  | attached (name : DevName)
  | detached (name : DevName)

def Note.message : Note → Nat → Message
  | .attached name, p => .hotplugAttached p name
  | .detached name, p => .hotplugDetached p name

def Note.send (env : Env) (io : Io) : Note → Io
  | .attached name => hotplugAttach env io name
  | .detached name => hotplugDetach env io name

/-- The notes are sent in order. -/
def sendNotes (env : Env) (notes : List Note) (io : Io) : Io := notes.foldl (Note.send env) io

/-- There is room for each of the notes there is memory for, from call `t` and address `brk` on. -/
def NotesFit (env : Env) : List Note → Nat → Nat → Prop
  | [], _, _ => True
  | n :: ns, t, brk =>
    if env.malloc t then env.write (t + 1) (n.message brk) = true ∧ NotesFit env ns (t + 2) (brk + 1)
    else NotesFit env ns (t + 1) brk

theorem sendNotes_cons (n : Note) (ns : List Note) (io : Io) :
    sendNotes env (n :: ns) io = sendNotes env ns (n.send env io) := rfl

theorem sendNotes_append (ns ns' : List Note) (io : Io) :
    sendNotes env (ns ++ ns') io = sendNotes env ns' (sendNotes env ns io) := List.foldl_append

theorem Note.hotplugged (n : Note) (p : Nat) : Hotplugged (n.message p) := by
  cases n with
  | attached name => exact .attached p name
  | detached name => exact .detached p name

theorem Note.heap (n : Note) (p : Nat) : (n.message p).heap = some p := by
  cases n <;> rfl

/-- Without memory for the name nothing is told. -/
theorem Note.send_nomem (n : Note) (h : ¬env.malloc io.kernel.tick = true) : n.send env io = io.tick := by
  cases n <;> · unfold Note.send; simp only [hotplugAttach, hotplugDetach, hotplugSend, Io.malloc, if_neg h]

theorem Note.send_mem (n : Note) (h : env.malloc io.kernel.tick = true) :
    n.send env io = Io.post env { io.tick with brk := io.brk + 1, allocs := io.allocs ++ [io.brk] }
      (n.message io.brk) := by
  cases n <;> · unfold Note.send; simp only [hotplugAttach, hotplugDetach, hotplugSend, Io.malloc, if_pos h]; rfl

theorem sendNotes_books (notes : List Note) : ∀ io : Io, ∃ ms ls, Books ms ls io (sendNotes env notes io) ∧
    (∀ m ∈ ms, Hotplugged m) ∧ (ls = [] ↔ NotesFit env notes io.kernel.tick io.brk) := by
  induction notes with
  | nil => intro io; exact ⟨[], [], (Silent.refl io).books, fun m hm => (by cases hm), iff_of_true rfl trivial⟩
  | cons n ns ih =>
      intro io
      rw [sendNotes_cons, NotesFit]
      by_cases hmem : env.malloc io.kernel.tick = true
      · rw [if_pos hmem, n.send_mem hmem]
        have hmalloc : io.malloc env = (some io.brk, { io.tick with brk := io.brk + 1 }) := if_pos hmem
        have hb := books_send hmalloc io.kernel.ask (n.heap io.brk)
        obtain ⟨ms, ls, hb', hms, hls⟩ := ih (Io.post env
          { io.tick with brk := io.brk + 1, allocs := io.allocs ++ [io.brk] } (n.message io.brk))
        refine ⟨_, _, hb.trans hb', fun m hm => ?_, ?_⟩
        · rcases List.mem_append.mp hm with hm | hm
          · split at hm
            · rw [List.mem_singleton.mp hm]; exact n.hotplugged _
            · cases hm
          · exact hms m hm
        · have hkernel : (Io.post env { io.tick with brk := io.brk + 1, allocs := io.allocs ++ [io.brk] }
              (n.message io.brk)).kernel.tick = io.kernel.tick + 2 := by rw [post_kernel]; rfl
          have hbrk : (Io.post env { io.tick with brk := io.brk + 1, allocs := io.allocs ++ [io.brk] }
              (n.message io.brk)).brk = io.brk + 1 := by
            unfold Io.post looperSendMessage
            split <;> rfl
          rw [hkernel, hbrk] at hls
          rw [List.append_eq_nil_iff, hls]
          refine and_congr_left fun _ => ?_
          show (if env.write (io.kernel.tick + 1) _ then [] else [_]) = [] ↔ _
          split
          · next hw => exact iff_of_true rfl hw
          · next hw => exact iff_of_false (by simp) hw
      · rw [if_neg hmem, n.send_nomem hmem]
        obtain ⟨ms, ls, hb, hms, hls⟩ := ih io.tick
        exact ⟨ms, ls, hb.after (silent_kernel io _), hms, hls⟩

/-! ## `hotplug_scan` -/

/-- The video nodes of `/dev`. -/
def scanNotes (names : List DevName) : List Note :=
  (names.filter (·.take 5 = videoPrefix)).map .attached

theorem scanNames_eq (names : List DevName) : ∀ io : Io,
    scanNames env names io = sendNotes env (scanNotes names) io := by
  induction names with
  | nil => intro io; rfl
  | cons name names ih =>
      intro io
      rw [scanNames, ih]
      unfold scanNotes
      rw [List.filter_cons]
      by_cases hvideo : name.take 5 = videoPrefix
      · rw [if_pos hvideo, if_pos (decide_eq_true hvideo)]; rfl
      · rw [if_neg hvideo, if_neg (by simpa using hvideo)]

/-- There is room for all that `hotplug_scan` sends. -/
def ScanFits (env : Env) (io : Io) : Prop :=
  env.opendir io.kernel.tick = true → NotesFit env (scanNotes io.kernel.nodes) (io.kernel.tick + 1) io.brk

theorem hotplugScan_books (io : Io) : ∃ ms ls, Books ms ls io (hotplugScan env io) ∧ (∀ m ∈ ms, Hotplugged m) ∧
    (ls = [] ↔ ScanFits env io) := by
  have htick : Silent io io.tick := silent_kernel io _
  unfold hotplugScan ScanFits
  split
  · next hopen =>
      obtain ⟨ms, ls, hb, hms, hls⟩ := @sendNotes_books env (scanNotes io.kernel.nodes) io.tick
      rw [scanNames_eq]
      exact ⟨ms, ls, hb.after htick, hms, by rw [hls, forall_prop_of_true hopen]; rfl⟩
  · next hopen => exact ⟨[], [], htick.books, fun m hm => (by cases hm), iff_of_true rfl fun h => absurd h hopen⟩

/-! ## `hotplug_process` -/

/-- What the record at offset `ptr` is about. -/
def recordNote (buffer : List UInt8) (ptr : Nat) : Option Note :=
  let mask := get32 buffer (ptr + 4)
  let name := buffer.drop (ptr + inotifyEventSize)
  if mask &&& IN_ISDIR ≠ 0 then none
  else if name.take 5 = videoPrefix then
    if mask &&& IN_CREATE ≠ 0 then some (.attached (cstr name))
    else if mask &&& IN_DELETE ≠ 0 then some (.detached (cstr name))
    else none
  else none

/-- What the records from offset `ptr` on are about. -/
def walkNotes (buffer : List UInt8) (r : Nat) : Nat → Nat → List Note
  | 0, _ => []
  | fuel + 1, ptr =>
    if ptr < r then
      (recordNote buffer ptr).toList ++
        walkNotes buffer r fuel (ptr + inotifyEventSize + (get32 buffer (ptr + 12)).toNat)
    else []

theorem hotplugWalk_eq (buffer : List UInt8) (r : Nat) : ∀ (fuel ptr : Nat) (io : Io),
    hotplugWalk env buffer r fuel ptr io = sendNotes env (walkNotes buffer r fuel ptr) io := by
  intro fuel
  induction fuel with
  | zero => intro ptr io; rfl
  | succ fuel ih =>
      intro ptr io
      rw [hotplugWalk, walkNotes]
      unfold recordNote
      dsimp only
      by_cases hlt : ptr < r
      · rw [if_pos hlt, if_pos hlt, sendNotes_append]
        split
        · exact ih _ io
        · rw [ih]
          split
          · split
            · rfl
            · split <;> rfl
          · rfl
      · rw [if_neg hlt, if_neg hlt]; rfl

/-- What the records are about that `hotplug_process` reads. -/
def processNotes (env : Env) (k : Kernel) : List Note :=
  let bytes := (readRecords hotplugBufferSize k.records).1
  walkNotes (bytes ++ env.stale k.tick) bytes.length bytes.length 0

theorem hotplugProcess_eq (io : Io) : hotplugProcess env io = sendNotes env (processNotes env io.kernel)
    { io with kernel := { io.kernel.ask with records := (readRecords hotplugBufferSize io.kernel.records).2 } } := by
  unfold hotplugProcess processNotes
  generalize readRecords hotplugBufferSize io.kernel.records = r
  obtain ⟨bytes, records⟩ := r
  dsimp only
  split
  · next hlen => rw [hlen]; rfl
  · exact hotplugWalk_eq _ _ _ _ _

/-- There is room for all that `hotplug_process` sends. -/
def ProcessFits (env : Env) (io : Io) : Prop :=
  NotesFit env (processNotes env io.kernel) (io.kernel.tick + 1) io.brk

theorem hotplugProcess_books (io : Io) : ∃ ms ls, Books ms ls io (hotplugProcess env io) ∧
    (∀ m ∈ ms, Hotplugged m) ∧ (ls = [] ↔ ProcessFits env io) := by
  rw [hotplugProcess_eq]
  obtain ⟨ms, ls, hb, hms, hls⟩ := @sendNotes_books env (processNotes env io.kernel)
    { io with kernel := { io.kernel.ask with records := (readRecords hotplugBufferSize io.kernel.records).2 } }
  exact ⟨ms, ls, hb.after (silent_kernel io _), hms, hls⟩

theorem hotplugInit_silent (io : Io) : Silent io (hotplugInit env io).2 := by
  unfold hotplugInit
  split
  · exact (silent_kernel io _).before (silent_watch env _ _ _ _ _)
  · exact silent_kernel io _

end Uvcd
