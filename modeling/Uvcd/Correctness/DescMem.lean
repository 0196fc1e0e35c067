import Mathlib.Algebra.Order.BigOperators.Group.List
import Mathlib.Algebra.Order.Group.Nat
import Uvcd.Lib.Machine
import Uvcd.Model.Daemon
import Uvcd.Refinement.DescMem

/-!
# `Correctness.DescMem` — the blocks of every device that is closed are freed, but for one

`descriptors_in_memory`: whatever devices a program opens and closes, in any order, no step reads, writes or frees a
block that is not there, each open device has its formats in memory, and the blocks allocated are those of the open
devices and the lost ones. A block is lost where a driver names a frame size, or a frame interval, of a type the code
does not know: the descriptor that is allocated for it comes into no list.
-/

namespace Uvcd

namespace Mem

open Machine Ring Blocks

/-- The same program by value; it counts the blocks that are lost. -/
structure Desk where
  kernel : Kernel
  devs : List Device
  lost : Nat

def DeviceCall.onDesk (env : Env) (a : Desk) : DeviceCall → Desk
  | .open devname =>
    { kernel := (Uvcd.v4l2Open env a.kernel devname).2
      devs := a.devs ++ (Uvcd.v4l2Open env a.kernel devname).1.toList
      lost := a.lost + lostIn env a.kernel devname }
  | .close i =>
    match a.devs[i]? with
    | none => a
    | some dev => { a with kernel := Uvcd.v4l2Close a.kernel dev, devs := a.devs.eraseIdx i }

def DeviceCall.step (env : Env) (al : Allocator) (n : Nat) (c : DeviceCall) (s : Shelf) : Except Fault Shelf :=
  deref (c.apply env al n s)

/-- Memory, `m` at first, has got the devices `ds`, and these are what is on the desk. -/
structure Holds (n : Nat) (m : Store) (ds : List PlacedDevice) (s : Shelf) (a : Desk) : Prop where
  kernel : s.kernel = a.kernel
  devs : s.devs = ds.map (·.addr)
  seen : ds.map (·.seen) = a.devs.map fun D => (some D.fd, D.formats)
  placed : ∀ d ∈ ds, d.In s.store ∧ d.Within n
  grown : ∃ lost : Multiset Nat, lost.card = a.lost ∧
    Grows Desc.members [] (lost + (ds.flatMap (·.blocks) : List Nat)) m s.store

variable {env : Env} {al : Allocator} {n : Nat} {m : Store} {ds : List PlacedDevice} {s : Shelf} {a : Desk}

theorem Holds.opened {devname : DevName} (h : Holds n m ds s a) (ht : m.Tidy Desc.members) (hpos : 0 < n)
    (hn : ∀ e, enumerated env a.kernel devname = some e → e.2.2.length < n ∧ SizesWithin n e.2.2) :
    ∃ ds' s', (DeviceCall.open devname).apply env al n s = some s' ∧
      Holds n m ds' s' ((DeviceCall.open devname).onDesk env a) := by
  obtain ⟨lost, hlost, hg⟩ := h.grown
  have hopened : Opened n s.store _ _ (v4l2Open env al n devname a.kernel s.store) := v4l2Open_opened hg.tidy hpos hn
  obtain ⟨o, ps, m', hopen, hseen, hnew, hg', hps⟩ := hopened
  refine ⟨ds ++ o.toList, ⟨_, m', s.devs ++ (o.map (·.addr)).toList⟩, ?_, rfl, ?_, ?_, fun d hd => ?_, lost + ps, ?_,
    ?_⟩
  · rw [DeviceCall.apply, h.kernel, hopen]
    rfl
  · rw [h.devs, List.map_append]
    cases o <;> rfl
  · rw [DeviceCall.onDesk, List.map_append, List.map_append, h.seen]
    refine congrArg _ ?_
    have htoList := congrArg Option.toList hseen
    rwa [Option.toList_map, Option.toList_map] at htoList
  · rcases List.mem_append.mp hd with hd | hd
    · exact ⟨(h.placed d hd).1.grows hg', (h.placed d hd).2⟩
    · exact hnew d (Option.mem_toList.mp hd)
  · rw [Multiset.card_add, hlost, hps]
    rfl
  · have htrans := hg.trans hg' ht fun n hn => absurd hn List.not_mem_nil
    rw [List.flatMap_append, ← Multiset.coe_add, show lost + ps + (((ds.flatMap (·.blocks) : List Nat) : Multiset Nat) +
      ((o.toList.flatMap (·.blocks) : List Nat) : Multiset Nat)) = ps + (o.toList.flatMap (·.blocks) : List Nat) +
      (lost + (ds.flatMap (·.blocks) : List Nat)) by ac_rfl]
    exact htrans

theorem Holds.closed {i : Nat} (h : Holds n m ds s a) (ht : m.Tidy Desc.members) :
    ∃ ds' s', (DeviceCall.close i).apply env al n s = some s' ∧
      Holds n m ds' s' ((DeviceCall.close i).onDesk env a) := by
  have hdev : (ds[i]?).map (·.seen) = (a.devs[i]?).map fun D => (some D.fd, D.formats) := by
    rw [← List.getElem?_map, h.seen, List.getElem?_map]
  cases hd : ds[i]? with
  | none =>
      rw [hd] at hdev
      have hnone : a.devs[i]? = none := Option.map_eq_none_iff.mp hdev.symm
      refine ⟨ds, s, ?_, ?_⟩
      · rw [DeviceCall.apply, h.devs, List.getElem?_map, hd]
        rfl
      · rw [DeviceCall.onDesk, hnone]
        exact h
  | some d =>
      rw [hd] at hdev
      obtain ⟨D, hD, hseen⟩ := Option.map_eq_some_iff.mp hdev.symm
      have hfd : d.fd = some D.fd := (congrArg Prod.fst hseen).symm
      have hdesk : (DeviceCall.close i).onDesk env a =
          { a with kernel := Uvcd.v4l2Close a.kernel D, devs := a.devs.eraseIdx i } := by
        rw [DeviceCall.onDesk, hD]
      obtain ⟨lost, hlost, hg⟩ := h.grown
      have hmem := List.mem_of_getElem? hd
      obtain ⟨hi, hdi⟩ := List.getElem?_eq_some_iff.mp hd
      have hperm : (d :: ds.eraseIdx i).Perm ds := hdi ▸ List.getElem_cons_eraseIdx_perm hi
      have hblocks : ((ds.flatMap (·.blocks) : List Nat) : Multiset Nat) =
          ((ds.eraseIdx i).flatMap (·.blocks) : List Nat) + (d.blocks : Multiset Nat) := by
        rw [← Multiset.coe_eq_coe.mpr (hperm.flatMap_right _), List.flatMap_cons, ← Multiset.coe_add, add_comm]
      rw [hblocks, ← add_assoc] at hg
      have hnd := Multiset.nodup_add.mp (Multiset.nodup_add.mp hg.nodup).1
      have hplaced := h.placed d hmem
      rw [hdesk]
      refine ⟨ds.eraseIdx i, ⟨Uvcd.v4l2Close a.kernel D, s.store.erase d.blocks, s.devs.eraseIdx i⟩, ?_, rfl, ?_, ?_,
        fun d' hd' => ?_, lost, hlost, hg.erase ht⟩
      · rw [DeviceCall.apply, h.devs, List.getElem?_map, hd, h.kernel]
        dsimp only [Option.map_some]
        rw [v4l2Close_frees hplaced.1 hplaced.2 (Multiset.coe_nodup.mp hnd.2.1), hfd]
        rfl
      · rw [h.devs, List.eraseIdx_map]
      · rw [← List.eraseIdx_map, h.seen, List.eraseIdx_map]
      · have hd'' := h.placed d' (List.mem_of_mem_eraseIdx hd')
        -- the blocks of one device are not those of another
        refine ⟨hd''.1.erase fun p hp hpd => ?_, hd''.2⟩
        refine Multiset.disjoint_left.mp hnd.2.2 (Multiset.mem_add.mpr (.inr ?_)) hpd
        exact List.mem_flatMap.mpr ⟨d', hd', hp⟩

/-! ## No list is longer than the drivers' answers -/

theorem exists_bound {α : Type} (f : α → Nat) (xs : List α) : ∃ N, ∀ x ∈ xs, f x < N :=
  ⟨(xs.map f).sum + 1, fun _ hx => Nat.lt_succ_of_le (List.le_sum_of_mem (List.mem_map_of_mem hx))⟩

theorem exists_within (es : List FmtEnum) : ∃ N, ∀ n, N ≤ n → es.length < n ∧ SizesWithin n es := by
  obtain ⟨N₁, h₁⟩ := exists_bound (fun e : FmtEnum => e.sizes.length) es
  obtain ⟨N₂, h₂⟩ := exists_bound (fun e : FrmSizeEnum => e.ivals.length) (es.flatMap (·.sizes))
  refine ⟨es.length + 1 + N₁ + N₂, fun n hn => ⟨by omega, fun e he => ⟨?_, fun size hsize => ?_⟩⟩⟩
  · have hlt := h₁ e he
    omega
  · have hlt := h₂ size (List.mem_flatMap.mpr ⟨e, he, hsize⟩)
    omega

theorem Holds.step (ht : m.Tidy Desc.members) (c : DeviceCall) (env : Env) (al : Allocator) (a : Desk) :
    ∃ N, ∀ n, N ≤ n → ∀ ds s, Holds n m ds s a → ∃ ds' s', c.step env al n s = .ok s' ∧
      Holds n m ds' s' (c.onDesk env a) := by
  cases c with
  | «open» devname =>
      obtain ⟨N, hN⟩ := exists_within (((enumerated env a.kernel devname).map (·.2.2)).getD [])
      refine ⟨N + 1, fun n hn ds s h => ?_⟩
      have hwithin : ∀ e, enumerated env a.kernel devname = some e → e.2.2.length < n ∧ SizesWithin n e.2.2 := by
        intro e he
        have hwithin := hN n (by omega)
        rwa [he] at hwithin
      obtain ⟨ds', s', happly, h'⟩ := h.opened ht (by omega) hwithin
      exact ⟨ds', s', by rw [DeviceCall.step, happly]; rfl, h'⟩
  | close i =>
      refine ⟨0, fun n _ ds s h => ?_⟩
      obtain ⟨ds', s', happly, h'⟩ := h.closed ht
      exact ⟨ds', s', by rw [DeviceCall.step, happly]; rfl, h'⟩

/-! ## Drivers that name known types only -/

/-- Every frame size and every frame interval is of a type the code knows. -/
def KnownTypes (env : Env) : Prop :=
  ∀ t path node, env.openNode t path = some node → ∀ e ∈ node.formats, ∀ size ∈ e.sizes,
    frameDesc size ≠ none ∧ ∀ ival ∈ size.ivals, ivalDesc ival ≠ none

theorem enumFrameIntervals_known {fd : Nat} {es : List FrmIvalEnum} {k : Kernel} {ivals : List IvalDesc}
    (h : ∀ e ∈ es, ivalDesc e ≠ none) : lostBy (Uvcd.v4l2EnumFrameIntervals env fd es k ivals).1 = 0 := by
  induction es generalizing k ivals with
  | nil => rfl
  | cons e es ih =>
      rw [Uvcd.v4l2EnumFrameIntervals]
      split
      · rfl
      · split
        · next hnone => exact absurd hnone (h e List.mem_cons_self)
        · exact ih fun e' he' => h e' (List.mem_cons_of_mem _ he')

theorem enumFrameSizes_known {fd : Nat} {es : List FrmSizeEnum} {k : Kernel} {frames : List FrameDesc}
    (h : ∀ e ∈ es, frameDesc e ≠ none ∧ ∀ i ∈ e.ivals, ivalDesc i ≠ none) :
    lostBy (Uvcd.v4l2EnumFrameSizes env fd es k frames).1 = 0 := by
  induction es generalizing k frames with
  | nil => rfl
  | cons e es ih =>
      obtain ⟨hframe, hivals⟩ := h e List.mem_cons_self
      rw [Uvcd.v4l2EnumFrameSizes]
      dsimp only
      split
      · rfl
      · split
        · next hnone => exact absurd hnone hframe
        · split
          · exact enumFrameIntervals_known hivals
          · exact ih fun e' he' => h e' (List.mem_cons_of_mem _ he')

theorem enumFormats_known {fd : Nat} {es : List FmtEnum} {k : Kernel} {formats : List FormatDesc}
    (h : ∀ e ∈ es, ∀ size ∈ e.sizes, frameDesc size ≠ none ∧ ∀ i ∈ size.ivals, ivalDesc i ≠ none) :
    lostBy (Uvcd.v4l2EnumFormats env fd es k formats).1 = 0 := by
  induction es generalizing k formats with
  | nil => rfl
  | cons e es ih =>
      rw [Uvcd.v4l2EnumFormats]
      dsimp only
      split
      · rfl
      · split
        · exact enumFrameSizes_known (h e List.mem_cons_self)
        · exact ih fun e' he' => h e' (List.mem_cons_of_mem _ he')

theorem lostIn_known (h : KnownTypes env) (k : Kernel) (devname : DevName) : lostIn env k devname = 0 := by
  unfold lostIn
  cases hen : enumerated env k devname with
  | none => rfl
  | some e =>
      obtain ⟨t, path, node, hopen, hformats⟩ := enumerated_opened hen
      refine enumFormats_known ?_
      rw [hformats]
      exact h t path node hopen

/-! ## Any program -/

theorem holds_start (n : Nat) (ht : m.Tidy Desc.members) (k : Kernel) : Holds n m [] ⟨k, m, []⟩ ⟨k, [], 0⟩ :=
  ⟨rfl, rfl, rfl, fun d hd => (by cases hd), 0, rfl, Grows.refl ht⟩

/-- **Programs that open and close devices**, in whatever memory: every call goes through, with walks that are long
    enough; in memory are the devices that are open by value, and what was there before; beside these blocks only the
    lost ones are allocated, and there are none if the drivers name known types only. -/
theorem descriptors_in_memory (env : Env) (al : Allocator) (ht : m.Tidy Desc.members) (k : Kernel)
    (calls : List DeviceCall) :
    (∃ N, ∀ n, N ≤ n → ∃ ds s, Machine.run (DeviceCall.step env al n) calls ⟨k, m, []⟩ = .ok s ∧
      Holds n m ds s (calls.foldl (DeviceCall.onDesk env) ⟨k, [], 0⟩)) ∧
    (KnownTypes env → (calls.foldl (DeviceCall.onDesk env) ⟨k, [], 0⟩).lost = 0) := by
  constructor
  · induction calls using List.reverseRecOn with
    | nil => exact ⟨0, fun n _ => ⟨[], _, rfl, holds_start n ht k⟩⟩
    | append_singleton calls c ih =>
        obtain ⟨N, hN⟩ := ih
        rw [List.foldl_append]
        obtain ⟨N', hN'⟩ := Holds.step ht c env al
          (calls.foldl (DeviceCall.onDesk env) ⟨k, [], 0⟩)
        refine ⟨max N N', fun n hn => ?_⟩
        obtain ⟨ds, s, hrun, h⟩ := hN n (le_of_max_le_left hn)
        obtain ⟨ds', s', hstep, h'⟩ := hN' n (le_of_max_le_right hn) ds s h
        exact ⟨ds', s', run_append_ok.mpr ⟨s, hrun, run_cons_ok.mpr ⟨s', hstep, rfl⟩⟩, h'⟩
  · intro hknown
    suffices hall : ∀ a : Desk, a.lost = 0 → (calls.foldl (DeviceCall.onDesk env) a).lost = 0 from
      hall ⟨k, [], 0⟩ rfl
    induction calls with
    | nil => exact fun a ha => ha
    | cons c calls ih =>
        intro a ha
        refine ih _ ?_
        cases c with
        | «open» devname =>
            show a.lost + lostIn env a.kernel devname = 0
            rw [ha, lostIn_known hknown]
        | close i =>
            rw [DeviceCall.onDesk]
            split <;> exact ha

/-! ## A camera that names a type the code does not know -/

/-- Memory with no block in it, and an allocator that goes on behind the blocks in use. -/
def noBlocks : Store := ⟨⟨fun _ => none⟩, fun _ => none, []⟩
def bump : Allocator := ⟨fun _ live => live.sum + 1, fun _ live hin => by
  have hle := List.le_sum_of_mem hin
  omega⟩

theorem noBlocks_tidy : noBlocks.Tidy Desc.members where
  nodup := List.nodup_nil
  block p := iff_of_false List.not_mem_nil (by simp [noBlocks])
  links p mem := iff_of_false (by simp [noBlocks, Heap.Live]) (by rintro ⟨b, hb, -⟩; cases hb)

/-- One discrete size, with an interval of a type of its own behind the discrete one. -/
def oddFormats : List FmtEnum :=
  [⟨PixFormat.YUYV, [⟨TYPE_DISCRETE, 320, 240, 0, 0, 0, 0, 0, 0,
    [⟨TYPE_DISCRETE, ⟨1, 30⟩, ⟨0, 0⟩, ⟨0, 0⟩, ⟨0, 0⟩⟩, ⟨TYPE_CONTINUOUS, ⟨0, 0⟩, ⟨1, 30⟩, ⟨1, 5⟩, ⟨1, 1⟩⟩]⟩]⟩]

/-- `/dev/video0` is a camera without formats, every other node is one with these. -/
def oddBench : Env :=
  { Env.obliging [] [] with
    openNode := fun _ path => some { Node.capture 0 with
      formats := if path = devPrefix ++ videoName 0 then [] else oddFormats } }
def oddKernel : Kernel := (boot oddBench [videoName 0, videoName 1] fun _ => .zero).io.kernel
def oddCalls : List DeviceCall := [.open (videoName 0), .open (videoName 1), .close 0, .close 0]

theorem descriptors_in_memory_odd :
    ((∃ N, ∀ n, N ≤ n → ∃ ds s, Machine.run (DeviceCall.step oddBench bump n) oddCalls ⟨oddKernel, noBlocks, []⟩ =
        .ok s ∧ Holds n noBlocks ds s (oddCalls.foldl (DeviceCall.onDesk oddBench) ⟨oddKernel, [], 0⟩)) ∧
      (KnownTypes oddBench → (oddCalls.foldl (DeviceCall.onDesk oddBench) ⟨oddKernel, [], 0⟩).lost = 0)) ∧
    (oddCalls.foldl (DeviceCall.onDesk oddBench) ⟨oddKernel, [], 0⟩).lost = 1 :=
  ⟨descriptors_in_memory oddBench bump noBlocks_tidy oddKernel oddCalls, by decide⟩

end Mem

end Uvcd
