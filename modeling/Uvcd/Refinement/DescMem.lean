import Uvcd.Model.DescMem
import Uvcd.Refinement.Lists

/-!
# `Refinement.DescMem` — the format descriptors in memory stand for the formats of a device

A descriptor with the address of its block, and the descriptors behind it with theirs, is *placed*;
`PlacedDevice.In m d` says that memory holds the device `d` with all its descriptors. The enumeration builds what its
counterpart in `Model.V4l2` computes (`enumFormats_builds`), `v4l2_close` frees the blocks of a device and no others
(`v4l2Close_frees`), and `v4l2_open` leaves the blocks of a device, or those it loses (`v4l2Open_opened`).
-/

namespace Uvcd

namespace Mem

open Ring Blocks

/-- `&block->list` -/
def entry (p : Nat) : Node := (p, .list)

structure PlacedFrame where
  addr : Nat
  desc : FrameDesc
  ivals : List (Nat × IvalDesc)

structure PlacedFormat where
  addr : Nat
  pixelformat : UInt32
  frames : List PlacedFrame

structure PlacedDevice where
  addr : Nat
  fd : Option Nat
  formats : List PlacedFormat

namespace PlacedFrame

/-- The descriptor by value. -/
def value (r : PlacedFrame) : FrameDesc := { r.desc with ivals := r.ivals.map (·.2) }

/-- The blocks, in the order in which they are freed. -/
def blocks (r : PlacedFrame) : List Nat := r.ivals.map (·.1) ++ [r.addr]

/-- The nodes of the list in it. -/
def nodes (r : PlacedFrame) : List Node := (r.addr, .ivals) :: r.ivals.map fun q => entry q.1

structure In (m : Store) (r : PlacedFrame) : Prop where
  block : m.block r.addr = some (.frame r.desc)
  ring : IsRing m.links (r.addr, .ivals) (r.ivals.map fun q => entry q.1)
  ivals : ∀ q ∈ r.ivals, m.block q.1 = some (.ival q.2)

end PlacedFrame

namespace PlacedFormat

def value (f : PlacedFormat) : FormatDesc := ⟨f.pixelformat, f.frames.map (·.value)⟩

def blocks (f : PlacedFormat) : List Nat := f.frames.flatMap (·.blocks) ++ [f.addr]

def nodes (f : PlacedFormat) : List Node := (f.addr, .frames) :: f.frames.map fun r => entry r.addr

structure In (m : Store) (f : PlacedFormat) : Prop where
  block : m.block f.addr = some (.format f.pixelformat)
  ring : IsRing m.links (f.addr, .frames) (f.frames.map fun r => entry r.addr)
  frames : ∀ r ∈ f.frames, r.In m

end PlacedFormat

namespace PlacedDevice

def value (d : PlacedDevice) : List FormatDesc := d.formats.map (·.value)

def blocks (d : PlacedDevice) : List Nat := d.formats.flatMap (·.blocks) ++ [d.addr]

def nodes (d : PlacedDevice) : List Node := (d.addr, .formats) :: d.formats.map fun f => entry f.addr

structure In (m : Store) (d : PlacedDevice) : Prop where
  block : m.block d.addr = some (.device d.fd)
  ring : IsRing m.links (d.addr, .formats) (d.formats.map fun f => entry f.addr)
  formats : ∀ f ∈ d.formats, f.In m

end PlacedDevice

variable {m m' m'' : Store} {ns : List Node} {new : Multiset Nat} {r : PlacedFrame} {f : PlacedFormat}
  {d : PlacedDevice}

/-! ## What is placed stays -/

/-- The blocks of a descriptor are of their kinds. -/
theorem PlacedFrame.In.node_block (h : r.In m) {n : Node} (hn : n ∈ r.nodes) :
    n = (r.addr, .ivals) ∨ ∃ i, m.block n.1 = some (.ival i) := by
  rcases List.mem_cons.mp hn with rfl | hn
  · exact .inl rfl
  · obtain ⟨q, hq, rfl⟩ := List.mem_map.mp hn
    exact .inr ⟨q.2, h.ivals q hq⟩

theorem PlacedFrame.In.grows (h : r.In m) (hg : Grows Desc.members ns new m m') (hns : ∀ n ∈ r.nodes, n ∉ ns) :
    r.In m' :=
  ⟨hg.block _ _ h.block, h.ring.frame fun n hn => hg.links n (h.ring.live hn) (hns n hn),
    fun q hq => hg.block _ _ (h.ivals q hq)⟩

theorem PlacedFormat.In.grows (h : f.In m) (hg : Grows Desc.members ns new m m') (hns : ∀ n ∈ f.nodes, n ∉ ns)
    (hframes : ∀ r ∈ f.frames, ∀ n ∈ r.nodes, n ∉ ns) : f.In m' :=
  ⟨hg.block _ _ h.block, h.ring.frame fun n hn => hg.links n (h.ring.live hn) (hns n hn),
    fun r hr => (h.frames r hr).grows hg (hframes r hr)⟩

/-- The lists of the frames have nothing of the list they are in. -/
theorem PlacedFormat.In.apart (h : f.In m) (hr : r ∈ f.frames) : ∀ n ∈ r.nodes, n ∉ f.nodes := by
  intro n hn hmem
  have hframe := h.frames r hr
  rcases hframe.node_block hn with rfl | ⟨i, hi⟩
  · rcases List.mem_cons.mp hmem with heq | hmem
    · exact absurd (congrArg Prod.snd heq) (by simp)
    · obtain ⟨r', -, heq⟩ := List.mem_map.mp hmem
      exact absurd (congrArg Prod.snd heq) (by simp [entry])
  · rcases List.mem_cons.mp hmem with rfl | hmem
    · have hi : m.block f.addr = _ := hi
      rw [h.block] at hi
      cases hi
    · obtain ⟨r', hr', rfl⟩ := List.mem_map.mp hmem
      have hi : m.block r'.addr = _ := hi
      rw [(h.frames r' hr').block] at hi
      cases hi

theorem PlacedDevice.In.grows (h : d.In m) (hg : Grows Desc.members [] new m m') : d.In m' :=
  ⟨hg.block _ _ h.block, h.ring.frame fun n hn => hg.links n (h.ring.live hn) List.not_mem_nil,
    fun f hf => (h.formats f hf).grows hg (fun _ _ => List.not_mem_nil) fun _ _ _ _ => List.not_mem_nil⟩

/-- The nodes of the list of a device are the head and entries of formats. -/
theorem PlacedDevice.In.node_block (h : d.In m) {n : Node} (hn : n ∈ d.nodes) :
    n.2 = .formats ∨ n.2 = .list ∧ ∃ pf, m.block n.1 = some (.format pf) := by
  rcases List.mem_cons.mp hn with rfl | hn
  · exact .inl rfl
  · obtain ⟨f, hf, rfl⟩ := List.mem_map.mp hn
    exact .inr ⟨rfl, f.pixelformat, (h.formats f hf).block⟩

/-- The lists of the formats, and those of their frames, have nothing of the list they are in. -/
theorem PlacedDevice.In.apart (h : d.In m) (hf : f ∈ d.formats) :
    (∀ n ∈ f.nodes, n ∉ d.nodes) ∧ ∀ r ∈ f.frames, ∀ n ∈ r.nodes, n ∉ d.nodes := by
  have hformat := h.formats f hf
  constructor
  · intro n hn hmem
    rcases List.mem_cons.mp hn with rfl | hn
    · rcases h.node_block hmem with hkind | ⟨hkind, -⟩
      · cases hkind
      · cases hkind
    · obtain ⟨r, hr, rfl⟩ := List.mem_map.mp hn
      rcases h.node_block hmem with hkind | ⟨-, pf, hpf⟩
      · cases hkind
      · have hpf : m.block r.addr = _ := hpf
        rw [(hformat.frames r hr).block] at hpf
        cases hpf
  · intro r hr n hn hmem
    rcases (hformat.frames r hr).node_block hn with rfl | ⟨i, hi⟩
    · rcases h.node_block hmem with hkind | ⟨hkind, -⟩
      · cases hkind
      · cases hkind
    · rcases List.mem_cons.mp hn with rfl | hn
      · rcases h.node_block hmem with hkind | ⟨hkind, -⟩
        · cases hkind
        · cases hkind
      · obtain ⟨q, -, rfl⟩ := List.mem_map.mp hn
        rcases h.node_block hmem with hkind | ⟨-, pf, hpf⟩
        · cases hkind
        · rw [hi] at hpf
          cases hpf

/-! ## Allocating and linking -/

/-- Of a list that got a new entry, only this was not live before. -/
theorem mem_snoc_live {α : Type} {xs : List α} {x : α} {node : α → Node} {h n : Node}
    (hn : n ∈ h :: (xs ++ [x]).map node) (hx : n ≠ node x) : n ∈ h :: xs.map node := by
  rcases List.mem_cons.mp hn with rfl | hn
  · exact List.mem_cons_self
  · rw [List.map_append] at hn
    rcases List.mem_append.mp hn with hn | hn
    · exact List.mem_cons_of_mem _ hn
    · exact absurd (List.mem_singleton.mp hn) hx

/-- `list_init` in a new block. -/
theorem init_grows (hg : Grows Desc.members ns new m m') {h : Node} (hlive : m'.links.Live h)
    (hold : ¬m.links.Live h) : ∃ m'', init m' h = some m'' ∧ Grows Desc.members ns new m m'' ∧ IsRing m''.links h [] ∧
      m''.block = m'.block := by
  obtain ⟨links, hinit, hring, hw⟩ := listInit_ring hlive
  refine ⟨{ m' with links := links }, by rw [init, hinit]; rfl, hg.relink (fun n => ?_) hw (fun n hn hl => ?_),
    hring, rfl⟩
  · by_cases hn : n ∈ [h]
    · rw [List.mem_singleton.mp hn]
      exact iff_of_true (hring.live List.mem_cons_self) hlive
    · exact Heap.live_congr (hw n hn)
  · rw [List.mem_singleton.mp hn] at hl
    exact absurd hl hold

/-- `list_append` of a new block. -/
theorem append_grows (hg : Grows Desc.members ns new m m') {p : Nat} {h : Node} {l : List Node}
    (hr : IsRing m'.links h l) (hx : entry p ∉ h :: l) (hlive : m'.links.Live (entry p))
    (hold : ¬m.links.Live (entry p)) (hns : ∀ n ∈ h :: l, m.links.Live n → n ∈ ns) :
    ∃ m'', append m' (entry p) h = some m'' ∧ Grows Desc.members ns new m m'' ∧
      IsRing m''.links h (l ++ [entry p]) ∧ m''.block = m'.block ∧
      ∀ n, n ∉ entry p :: h :: l → m''.links.node n = m'.links.node n := by
  obtain ⟨links, happend, hring, hw⟩ := listAppend_ring hr hx hlive
  refine ⟨{ m' with links := links }, by rw [append, happend]; rfl, hg.relink (fun n => ?_) hw (fun n hn hl => ?_),
    hring, rfl, hw⟩
  · by_cases hn : n ∈ entry p :: h :: l
    · refine iff_of_true (hring.live ?_) ?_
      · rcases List.mem_cons.mp hn with rfl | hn
        · exact List.mem_cons_of_mem _ (List.mem_append_right _ List.mem_cons_self)
        · rcases List.mem_cons.mp hn with rfl | hn
          · exact List.mem_cons_self
          · exact List.mem_cons_of_mem _ (List.mem_append_left _ hn)
      · rcases List.mem_cons.mp hn with rfl | hn
        · exact hlive
        · exact hr.live hn
    · exact Heap.live_congr (hw n hn)
  · rcases List.mem_cons.mp hn with rfl | hn
    · exact absurd hl hold
    · exact hns n hn hl

/-! ## Formats enumeration -/

/-- An enumeration that ends at a type it does not know loses the block it had allocated for it. -/
def lostBy (ret : Int) : Nat := if ret = Errno.EINVAL.neg then 1 else 0

variable {env : Env} {al : Allocator} {fd : Nat}

theorem alloc_block (m : Store) (p : Nat) (b : Desc) : (alloc m p b).block p = some b := Function.update_self ..

theorem alloc_live (hg : Grows Desc.members ns new m m') {p : Nat} {b : Desc} (hb : m'.block p = some b) (mem : Member)
    (hmem : mem ∈ b.members) : m'.links.Live (p, mem) := (hg.tidy.links p mem).mpr ⟨b, hb, hmem⟩

/-- Nothing of a block that is not there is live. -/
theorem not_live (ht : m.Tidy Desc.members) {p : Nat} (hp : p ∉ m.live) (mem : Member) : ¬m.links.Live (p, mem) := by
  intro hl
  obtain ⟨b, hb, -⟩ := (ht.links p mem).mp hl
  exact hp (ht.live_block hb)

theorem lostBy_of_nonneg {ret : Int} (h : ¬ret < 0) : lostBy ret = 0 := by
  unfold lostBy
  rw [if_neg]
  rintro rfl
  exact h (by decide)

/-- The blocks of a descriptor and of those behind it. -/
theorem blocks_cons {α : Type} (blocks : α → List Nat) {x : α} {inner : List Nat} {p : Nat}
    (hx : blocks x = inner ++ [p]) (xs : List α) (lost lost' : Multiset Nat) :
    lost' + (xs.flatMap blocks : List Nat) + (lost + (inner : Multiset Nat) + {p}) =
      lost + lost' + ((x :: xs).flatMap blocks : List Nat) := by
  rw [List.flatMap_cons, ← Multiset.coe_add, hx, ← Multiset.coe_add, Multiset.coe_singleton]
  ac_rfl

theorem blocks_one {α : Type} (blocks : α → List Nat) {x : α} {inner : List Nat} {p : Nat}
    (hx : blocks x = inner ++ [p]) (lost : Multiset Nat) :
    lost + (inner : Multiset Nat) + {p} = lost + ([x].flatMap blocks : List Nat) := by
  have hcons := blocks_cons blocks hx [] lost 0
  rwa [List.flatMap_nil, Multiset.coe_nil, add_zero, zero_add, add_zero] at hcons

/-- **What an enumeration has come to**: `mem` in memory and `v` by value, when it has put some more descriptors, of
    which `P` holds, behind the `old` ones, whose list has the nodes `ns`. -/
def Builds {α β : Type} (value : α → β) (blocks : α → List Nat) (placed : Store → List α → Prop) (ns : List Node)
    (m : Store) (old : List α) (P : List α → Prop) (mem : Option (Int × Kernel × Store)) (v : Int × List β × Kernel) :
    Prop :=
  ∃ xs lost ret k' m', mem = some (ret, k', m') ∧ v = (ret, (old ++ xs).map value, k') ∧ placed m' (old ++ xs) ∧
    Grows Desc.members ns (lost + (xs.flatMap blocks : List Nat)) m m' ∧ Multiset.card lost = lostBy ret ∧ P xs

section Building

variable {α β : Type} {value : α → β} {blocks : α → List Nat} {placed : Store → List α → Prop} {ns ns' : List Node}
  {old : List α} {P P' : List α → Prop} {lost : Multiset Nat} {ret : Int} {k' : Kernel} {x : α} {inner : List Nat}
  {p : Nat}

/-- It ends where nothing is linked any more. -/
theorem Builds.ended (hold : placed m' old) (hg : Grows Desc.members ns lost m m') (hlost : lost.card = lostBy ret)
    (hP : P []) : Builds value blocks placed ns m old P (some (ret, k', m')) (ret, old.map value, k') := by
  refine ⟨[], lost, ret, k', m', rfl, ?_, ?_, ?_, hlost, hP⟩
  · rw [List.append_nil]
  · rwa [List.append_nil]
  · rwa [List.flatMap_nil, Multiset.coe_nil, add_zero]

/-- It ends behind a descriptor. -/
theorem Builds.one (hx : blocks x = inner ++ [p]) (hnew : placed m' (old ++ [x]))
    (hg : Grows Desc.members ns (lost + (inner : Multiset Nat) + {p}) m m') (hlost : lost.card = lostBy ret)
    (hP : P [x]) :
    Builds value blocks placed ns m old P (some (ret, k', m')) (ret, old.map value ++ [value x], k') := by
  refine ⟨[x], lost, ret, k', m', rfl, ?_, hnew, ?_, hlost, hP⟩
  · rw [List.map_append]
    rfl
  · rwa [← blocks_one blocks hx]

/-- It goes on behind a descriptor. -/
theorem Builds.more {mem : Option (Int × Kernel × Store)} {v : Int × List β × Kernel} (hx : blocks x = inner ++ [p])
    (ht : m.Tidy Desc.members) (hg : Grows Desc.members ns (lost + (inner : Multiset Nat) + {p}) m m')
    (hlost : lost.card = 0) (h : Builds value blocks placed ns' m' (old ++ [x]) P' mem v)
    (hns : ∀ n ∈ ns', m.links.Live n → n ∈ ns) (hP : ∀ xs, P' xs → P (x :: xs)) :
    Builds value blocks placed ns m old P mem v := by
  obtain ⟨xs, lost', ret, k', m'', hmem, hv, hplaced, hg', hlost', hP'⟩ := h
  have hassoc : old ++ x :: xs = old ++ [x] ++ xs := by simp
  refine ⟨x :: xs, lost + lost', ret, k', m'', hmem, ?_, ?_, ?_, ?_, hP xs hP'⟩
  · rw [hassoc]
    exact hv
  · rw [hassoc]
    exact hplaced
  · rw [← blocks_cons blocks hx]
    exact hg.trans hg' ht hns
  · rw [Multiset.card_add, hlost, hlost', Nat.zero_add]

end Building

/-- **The intervals of a frame size.** -/
theorem enumFrameIntervals_builds : ∀ {es : List FrmIvalEnum} {k : Kernel} {m : Store} {r : PlacedFrame},
    m.Tidy Desc.members → r.In m →
    Builds (·.2) (fun q => [q.1]) (fun m' ivals => PlacedFrame.In m' { r with ivals := ivals }) r.nodes m r.ivals
      (·.length ≤ es.length) (v4l2EnumFrameIntervals env al fd r.addr es k m)
      (Uvcd.v4l2EnumFrameIntervals env fd es k (r.ivals.map (·.2))) := by
  intro es
  induction es with
  | nil =>
      intro k m r ht hr
      exact .ended hr ((Grows.refl ht).mono fun n hn => by cases hn) rfl (Nat.le_refl 0)
  | cons e es ih =>
      intro k m r ht hr
      rw [v4l2EnumFrameIntervals, Uvcd.v4l2EnumFrameIntervals]
      dsimp only
      generalize k.call (.ioctl fd) = k₁
      by_cases hmalloc : (!env.malloc k₁.tick) = true
      · rw [if_pos hmalloc, if_pos hmalloc]
        exact .ended hr ((Grows.refl ht).mono fun n hn => by cases hn) rfl (Nat.zero_le _)
      · rw [if_neg hmalloc, if_neg hmalloc]
        have hp := al.fresh k₁.tick m.live
        generalize al.place k₁.tick m.live = p at hp
        have hg₀ : Grows Desc.members [] {p} m (alloc m p zeroIval) := ht.malloc hp _ _
        cases hd : ivalDesc e with
        | none =>
            have hr₀ := hr.grows hg₀ fun n _ => List.not_mem_nil
            exact .ended hr₀ (hg₀.mono fun n hn => by cases hn) rfl (Nat.zero_le _)
        | some d =>
            obtain ⟨m₁, hput, hg₁, hb₁, hlinks₁, -⟩ := hg₀.put (.ival d) (ht.block_none hp)
              (alloc_block m p zeroIval) rfl
            have hr₁ := hr.grows hg₁ fun n _ => List.not_mem_nil
            have hlive₁ := alloc_live hg₁ hb₁ .list List.mem_cons_self
            have hx : entry p ∉ (r.addr, Member.ivals) :: r.ivals.map fun q => entry q.1 := by
              intro hmem
              exact not_live ht hp .list (hr.ring.live hmem)
            obtain ⟨m₂, happend, hg₂, hring₂, hb₂, -⟩ := append_grows (hg₁.mono fun n hn => by cases hn) hr₁.ring hx
              hlive₁ (not_live ht hp .list) fun n hn _ => hn
            have hr₂ : PlacedFrame.In m₂ { r with ivals := r.ivals ++ [(p, d)] } := by
              refine ⟨?_, ?_, fun q hq => ?_⟩
              · show m₂.block r.addr = _
                rw [hb₂]
                exact hr₁.block
              · show IsRing m₂.links _ ((r.ivals ++ [(p, d)]).map fun q => entry q.1)
                rw [List.map_append]
                exact hring₂
              · rw [hb₂]
                rcases List.mem_append.mp hq with hq | hq
                · exact hr₁.ivals q hq
                · rw [List.mem_singleton.mp hq]
                  exact hb₁
            have hrest := ih (k := k₁.ask) hg₂.tidy hr₂
            rw [List.map_append] at hrest
            have happend : append m₁ (p, .list) (r.addr, .ivals) = some m₂ := happend
            dsimp only
            rw [hput]
            dsimp only [bind, Option.bind]
            rw [happend]
            have hg : Grows Desc.members r.nodes (0 + (([] : List Nat) : Multiset Nat) + {p}) m m₂ := by
              rw [Multiset.coe_nil, zero_add, zero_add]
              exact hg₂
            refine .more rfl ht hg rfl hrest (fun n hn hl => ?_) fun ivals hlen => Nat.succ_le_succ hlen
            exact mem_snoc_live hn fun heq => not_live ht hp .list (by rw [heq] at hl; exact hl)

/-- A size list comes with its intervals: what the drivers' tables, or the descriptors, hold fewer than `n` of. -/
def IvalsWithin (n : Nat) (es : List FrmSizeEnum) : Prop := ∀ e ∈ es, e.ivals.length < n

/-- **A descriptor with a list of its own** is allocated, filled in and linked into the list `l` of `h`. -/
theorem link_grows (ht : m.Tidy Desc.members) {p : Nat} (hp : p ∉ m.live) (b b' : Desc) {head : Member}
    (hhead : head ≠ .list) (hb : b.members = [.list, head]) (hb' : b'.members = [.list, head]) {h : Node}
    {l : List Node} (hr : IsRing m.links h l) :
    ∃ m₁ m₂ m₃, init (alloc m p b) (p, head) = some m₁ ∧ Grows Desc.members [] {p} m m₁ ∧ m₁.put p b' = some m₂ ∧
      append m₂ (entry p) h = some m₃ ∧ Grows Desc.members (h :: l) {p} m m₃ ∧ m₃.block p = some b' ∧
      IsRing m₃.links (p, head) [] ∧ IsRing m₃.links h (l ++ [entry p]) := by
  have hg₀ : Grows Desc.members [] {p} m (alloc m p b) := ht.malloc hp _ _
  obtain ⟨m₁, hinit, hg₁, hring₁, hb₁⟩ := init_grows hg₀
    (alloc_live hg₀ (alloc_block m p b) head (by rw [hb]; simp)) (not_live ht hp _)
  have hblock₁ : m₁.block p = some b := by
    rw [hb₁]
    exact alloc_block m p b
  obtain ⟨m₂, hput, hg₂, hb₂, hlinks₂, -⟩ := hg₁.put b' (ht.block_none hp) hblock₁ (hb'.trans hb.symm)
  have hr₂ : IsRing m₂.links h l := hr.frame fun n hn => hg₂.links n (hr.live hn) List.not_mem_nil
  have hg₂' : Grows Desc.members (h :: l) {p} m m₂ := hg₂.mono fun n hn => by cases hn
  obtain ⟨m₃, happend, hg₃, hring₃, hb₃, hsame⟩ := append_grows hg₂' hr₂
    (fun hmem => not_live ht hp .list (hr.live hmem)) (alloc_live hg₂ hb₂ .list (by rw [hb']; simp))
    (not_live ht hp .list) fun n hn _ => hn
  refine ⟨m₁, m₂, m₃, hinit, hg₁, hput, happend, hg₃, by rw [hb₃]; exact hb₂, ?_, hring₃⟩
  have hring₂ : IsRing m₂.links (p, head) [] := by
    rw [hlinks₂]
    exact hring₁
  refine hring₂.frame fun n hn => hsame n fun hmem => ?_
  rw [List.mem_singleton.mp hn] at hmem
  -- the new head is none of the list's nodes
  rcases List.mem_cons.mp hmem with heq | hmem
  · exact hhead (congrArg Prod.snd heq)
  · exact not_live ht hp head (hr.live hmem)

/-- A new frame size is linked, its intervals still to come. -/
theorem PlacedFormat.In.link (h : f.In m) (ht : m.Tidy Desc.members) {p : Nat} (hp : p ∉ m.live) (d : FrameDesc) :
    ∃ m₁ m₂ m₃, init (alloc m p zeroFrame) (p, .ivals) = some m₁ ∧ Grows Desc.members [] {p} m m₁ ∧
      m₁.put p (.frame d) = some m₂ ∧ append m₂ (entry p) (f.addr, .frames) = some m₃ ∧
      Grows Desc.members f.nodes {p} m m₃ ∧ PlacedFrame.In m₃ ⟨p, d, []⟩ ∧
      PlacedFormat.In m₃ { f with frames := f.frames ++ [⟨p, d, []⟩] } := by
  obtain ⟨m₁, m₂, m₃, hinit, hg₁, hput, happend, hg₃, hb₃, hhead, hring⟩ := link_grows ht hp
    zeroFrame (.frame d) (by decide) rfl rfl h.ring
  have hframe : PlacedFrame.In m₃ ⟨p, d, []⟩ := ⟨hb₃, hhead, fun q hq => by cases hq⟩
  refine ⟨m₁, m₂, m₃, hinit, hg₁, hput, happend, hg₃, hframe, hg₃.block _ _ h.block, ?_, fun r hr => ?_⟩
  · rw [List.map_append]
    exact hring
  · rcases List.mem_append.mp hr with hr | hr
    · exact (h.frames r hr).grows hg₃ (h.apart hr)
    · rw [List.mem_singleton.mp hr]
      exact hframe

/-- The intervals of a new frame size come in, while it is the last of its format. -/
theorem PlacedFormat.In.filled {desc : FrameDesc} {p : Nat} {ivals : List (Nat × IvalDesc)} (hf : f.In m)
    (hf₃ : PlacedFormat.In m'' { f with frames := f.frames ++ [⟨p, desc, []⟩] }) (hp : ∀ mem, ¬m.links.Live (p, mem))
    (hg : Grows Desc.members (PlacedFrame.nodes ⟨p, desc, []⟩) new m'' m') (hr : PlacedFrame.In m' ⟨p, desc, ivals⟩) :
    PlacedFormat.In m' { f with frames := f.frames ++ [⟨p, desc, ivals⟩] } := by
  refine ⟨hg.block _ _ hf₃.block, ?_, fun r hr' => ?_⟩
  · have hring := hf₃.ring.frame fun n hn => hg.links n (hf₃.ring.live hn) fun hmem' => by
      rw [List.mem_singleton.mp hmem'] at hn
      rcases List.mem_cons.mp hn with heq | hn
      · exact absurd (congrArg Prod.snd heq) (by simp)
      · obtain ⟨r, -, heq⟩ := List.mem_map.mp hn
        exact absurd (congrArg Prod.snd heq) (by simp [entry])
    rw [List.map_append] at hring ⊢
    exact hring
  · rcases List.mem_append.mp hr' with hr' | hr'
    · -- its list is that of no other frame
      refine (hf₃.frames r (List.mem_append_left _ hr')).grows hg fun n hn hmem' => ?_
      rw [List.mem_singleton.mp hmem'] at hn
      exact hp .ivals ((hf.frames r hr').ring.live hn)
    · rw [List.mem_singleton.mp hr']
      exact hr

/-- **The sizes of a format**, with their intervals. -/
theorem enumFrameSizes_builds {n : Nat} : ∀ {es : List FrmSizeEnum} {k : Kernel} {m : Store} {f : PlacedFormat},
    m.Tidy Desc.members → f.In m → IvalsWithin n es →
    Builds (·.value) (·.blocks) (fun m' frames => PlacedFormat.In m' { f with frames := frames }) f.nodes m f.frames
      (fun frames => frames.length ≤ es.length ∧ ∀ r ∈ frames, r.ivals.length < n)
      (v4l2EnumFrameSizes env al fd f.addr es k m)
      (Uvcd.v4l2EnumFrameSizes env fd es k (f.frames.map (·.value))) := by
  intro es
  induction es with
  | nil =>
      intro k m f ht hf _
      exact .ended hf ((Grows.refl ht).mono fun n hn => by cases hn) rfl ⟨Nat.le_refl _, fun r hr => by cases hr⟩
  | cons e es ih =>
      intro k m f ht hf hes
      have hnone : ([] : List PlacedFrame).length ≤ (e :: es).length ∧
          ∀ r ∈ ([] : List PlacedFrame), r.ivals.length < n := ⟨Nat.zero_le _, fun r hr => by cases hr⟩
      rw [v4l2EnumFrameSizes, Uvcd.v4l2EnumFrameSizes]
      dsimp only
      generalize k.call (.ioctl fd) = k₁
      by_cases hmalloc : (!env.malloc k₁.tick) = true
      · rw [if_pos hmalloc, if_pos hmalloc]
        exact .ended hf ((Grows.refl ht).mono fun n hn => by cases hn) rfl hnone
      · rw [if_neg hmalloc, if_neg hmalloc]
        have hp := al.fresh k₁.tick m.live
        generalize al.place k₁.tick m.live = p at hp
        cases hd : frameDesc e with
        | none =>
            obtain ⟨m₁, m₂, m₃, hinit, hg₁, -⟩ := hf.link ht hp ⟨0, 0, 0, 0, 0, 0, []⟩
            have hf₁ := hf.grows hg₁ (fun n _ => List.not_mem_nil) fun _ _ n _ => List.not_mem_nil
            rw [hinit]
            exact .ended hf₁ (hg₁.mono fun n hn => by cases hn) rfl hnone
        | some desc =>
            obtain ⟨m₁, m₂, m₃, hinit, -, hput, happend, hg₃, hframe, hf₃⟩ := hf.link ht hp desc
            obtain ⟨ivals, lost, ret, k₄, m₄, hmem, hmodel, hr₄, hg₄, hlost, hlen⟩ :=
              @enumFrameIntervals_builds env al fd e.ivals k₁.ask _ _ hg₃.tidy hframe
            have hf₄ := hf.filled hf₃ (not_live ht hp) hg₄ hr₄
            have hg := hg₃.trans hg₄ ht fun n hn hl => by
              rw [List.mem_singleton.mp hn] at hl
              exact absurd hl (not_live ht hp .ivals)
            rw [← List.map_eq_flatMap] at hg
            have hivals : ivals.length < n := Nat.lt_of_le_of_lt hlen (hes e List.mem_cons_self)
            have hmodel : Uvcd.v4l2EnumFrameIntervals env fd e.ivals k₁.ask [] = (ret, ivals.map (·.2), k₄) := hmodel
            rw [hinit]
            dsimp only [bind, Option.bind]
            rw [hput]
            dsimp only [bind, Option.bind]
            rw [show append m₂ (p, .list) (f.addr, .frames) = some m₃ from happend]
            dsimp only
            rw [show v4l2EnumFrameIntervals env al fd p e.ivals k₁.ask m₃ = some (ret, k₄, m₄) from hmem, hmodel]
            dsimp only
            by_cases hret : ret < 0
            · rw [if_pos hret, if_pos hret]
              refine .one (x := (⟨p, desc, ivals⟩ : PlacedFrame)) rfl hf₄ hg hlost ⟨?_, fun r hr => ?_⟩
              · exact Nat.succ_le_succ (Nat.zero_le _)
              · rw [List.mem_singleton.mp hr]
                exact hivals
            · rw [if_neg hret, if_neg hret]
              have hrest := ih (k := k₄) hg₄.tidy hf₄ fun e' he' => hes e' (List.mem_cons_of_mem _ he')
              rw [List.map_append] at hrest
              refine .more (x := ⟨p, desc, ivals⟩) rfl ht hg (hlost.trans (lostBy_of_nonneg hret)) hrest
                (fun n hn hl => ?_) fun frames hP => ⟨Nat.succ_le_succ hP.1, fun r hr => ?_⟩
              · exact mem_snoc_live hn fun heq => not_live ht hp .list (by rw [heq] at hl; exact hl)
              · rcases List.mem_cons.mp hr with rfl | hr
                · exact hivals
                · exact hP.2 r hr

/-- A new format is linked, its sizes still to come. -/
theorem PlacedDevice.In.link (h : d.In m) (ht : m.Tidy Desc.members) {p : Nat} (hp : p ∉ m.live) (pf : UInt32) :
    ∃ m₁ m₂ m₃, init (alloc m p (.format 0)) (p, .frames) = some m₁ ∧ m₁.put p (.format pf) = some m₂ ∧
      append m₂ (entry p) (d.addr, .formats) = some m₃ ∧ Grows Desc.members d.nodes {p} m m₃ ∧
      PlacedFormat.In m₃ ⟨p, pf, []⟩ ∧ PlacedDevice.In m₃ { d with formats := d.formats ++ [⟨p, pf, []⟩] } := by
  obtain ⟨m₁, m₂, m₃, hinit, -, hput, happend, hg₃, hb₃, hhead, hring⟩ := link_grows ht hp
    (.format 0) (.format pf) (by decide) rfl rfl h.ring
  have hformat : PlacedFormat.In m₃ ⟨p, pf, []⟩ := ⟨hb₃, hhead, fun r hr => by cases hr⟩
  refine ⟨m₁, m₂, m₃, hinit, hput, happend, hg₃, hformat, hg₃.block _ _ h.block, ?_, fun f hf => ?_⟩
  · rw [List.map_append]
    exact hring
  · rcases List.mem_append.mp hf with hf | hf
    · exact (h.formats f hf).grows hg₃ (h.apart hf).1 (h.apart hf).2
    · rw [List.mem_singleton.mp hf]
      exact hformat

/-- What the enumeration of a device holds fewer than `n` of. -/
def SizesWithin (n : Nat) (es : List FmtEnum) : Prop := ∀ e ∈ es, e.sizes.length < n ∧ IvalsWithin n e.sizes

/-- The descriptors of a format, where no list has `n` entries. -/
def PlacedFormat.Within (n : Nat) (f : PlacedFormat) : Prop :=
  f.frames.length < n ∧ ∀ r ∈ f.frames, r.ivals.length < n

/-- The sizes of a new format come in, while it is the last of its device. -/
theorem PlacedDevice.In.filled {pf : UInt32} {p : Nat} {frames : List PlacedFrame} (hd : d.In m)
    (hd₃ : PlacedDevice.In m'' { d with formats := d.formats ++ [⟨p, pf, []⟩] }) (hp : ∀ mem, ¬m.links.Live (p, mem))
    (hg : Grows Desc.members (PlacedFormat.nodes ⟨p, pf, []⟩) new m'' m') (hf : PlacedFormat.In m' ⟨p, pf, frames⟩) :
    PlacedDevice.In m' { d with formats := d.formats ++ [⟨p, pf, frames⟩] } := by
  refine ⟨hg.block _ _ hd₃.block, ?_, fun f hf' => ?_⟩
  · have hring := hd₃.ring.frame fun n hn => hg.links n (hd₃.ring.live hn) fun hmem' => by
      rw [List.mem_singleton.mp hmem'] at hn
      rcases hd₃.node_block hn with hkind | ⟨hkind, -⟩
      · cases hkind
      · cases hkind
    rw [List.map_append] at hring ⊢
    exact hring
  · rcases List.mem_append.mp hf' with hf' | hf'
    · -- its list is that of no other format
      have hold : ∀ n ∈ PlacedFormat.nodes ⟨p, pf, []⟩, ¬m.links.Live n := by
        intro n hn
        rw [List.mem_singleton.mp hn]
        exact hp .frames
      have hf₀ := hd.formats f hf'
      refine (hd₃.formats f (List.mem_append_left _ hf')).grows hg (fun n hn hmem' => ?_) fun r hr n hn hmem' => ?_
      · exact hold n hmem' (hf₀.ring.live hn)
      · exact hold n hmem' ((hf₀.frames r hr).ring.live hn)
    · rw [List.mem_singleton.mp hf']
      exact hf

/-- **The formats of a device**, with their sizes. -/
theorem enumFormats_builds {n : Nat} : ∀ {es : List FmtEnum} {k : Kernel} {m : Store} {d : PlacedDevice},
    m.Tidy Desc.members → d.In m → SizesWithin n es →
    Builds (·.value) (·.blocks) (fun m' formats => PlacedDevice.In m' { d with formats := formats }) d.nodes m d.formats
      (fun formats => formats.length ≤ es.length ∧ ∀ f ∈ formats, f.Within n) (v4l2EnumFormats env al fd d.addr es k m)
      (Uvcd.v4l2EnumFormats env fd es k (d.formats.map (·.value))) := by
  intro es
  induction es with
  | nil =>
      intro k m d ht hd _
      exact .ended hd ((Grows.refl ht).mono fun n hn => by cases hn) rfl ⟨Nat.le_refl _, fun f hf => by cases hf⟩
  | cons e es ih =>
      intro k m d ht hd hes
      rw [v4l2EnumFormats, Uvcd.v4l2EnumFormats]
      dsimp only
      generalize k.call (.ioctl fd) = k₁
      by_cases hmalloc : (!env.malloc k₁.tick) = true
      · rw [if_pos hmalloc, if_pos hmalloc]
        refine .ended hd ((Grows.refl ht).mono fun n hn => by cases hn) rfl ⟨Nat.zero_le _, fun f hf => ?_⟩
        cases hf
      · rw [if_neg hmalloc, if_neg hmalloc]
        have hp := al.fresh k₁.tick m.live
        generalize al.place k₁.tick m.live = p at hp
        obtain ⟨m₁, m₂, m₃, hinit, hput, happend, hg₃, hformat, hd₃⟩ := hd.link ht hp e.pixelformat
        obtain ⟨frames, lost, ret, k₄, m₄, hmem, hmodel, hf₄, hg₄, hlost, hlen, hwithin⟩ :=
          @enumFrameSizes_builds env al fd _ e.sizes k₁.ask _ _ hg₃.tidy hformat
            (hes e List.mem_cons_self).2
        have hd₄ := hd.filled hd₃ (not_live ht hp) hg₄ hf₄
        have hg := hg₃.trans hg₄ ht fun n hn hl => by
          rw [List.mem_singleton.mp hn] at hl
          exact absurd hl (not_live ht hp .frames)
        have hsizes : PlacedFormat.Within n ⟨p, e.pixelformat, frames⟩ :=
          ⟨Nat.lt_of_le_of_lt hlen (hes e List.mem_cons_self).1, hwithin⟩
        have hmodel : Uvcd.v4l2EnumFrameSizes env fd e.sizes k₁.ask [] = (ret, frames.map (·.value), k₄) := hmodel
        rw [hinit]
        dsimp only [bind, Option.bind]
        rw [hput]
        dsimp only [bind, Option.bind]
        rw [show append m₂ (p, .list) (d.addr, .formats) = some m₃ from happend]
        dsimp only
        rw [show v4l2EnumFrameSizes env al fd p e.sizes k₁.ask m₃ = some (ret, k₄, m₄) from hmem, hmodel]
        dsimp only
        by_cases hret : ret < 0
        · rw [if_pos hret, if_pos hret]
          refine .one (x := (⟨p, e.pixelformat, frames⟩ : PlacedFormat)) rfl hd₄ hg hlost ⟨?_, fun f hf => ?_⟩
          · exact Nat.succ_le_succ (Nat.zero_le _)
          · rw [List.mem_singleton.mp hf]
            exact hsizes
        · rw [if_neg hret, if_neg hret]
          have hrest := ih (k := k₄) hg₄.tidy hd₄ fun e' he' => hes e' (List.mem_cons_of_mem _ he')
          rw [List.map_append] at hrest
          refine .more (x := ⟨p, e.pixelformat, frames⟩) rfl ht hg (hlost.trans (lostBy_of_nonneg hret)) hrest
            (fun n hn hl => ?_) fun formats hP => ⟨Nat.succ_le_succ hP.1, fun f hf => ?_⟩
          · exact mem_snoc_live hn fun heq => not_live ht hp .list (by rw [heq] at hl; exact hl)
          · rcases List.mem_cons.mp hf with rfl | hf
            · exact hsizes
            · exact hP.2 f hf

/-! ## Freeing -/

/-- **A loop that frees what is behind each entry, and the entry**: from memory without the blocks `pre` it leaves
    memory without those of the list, too. -/
theorem free_each {α : Type} {addr : α → Nat} {blocks : α → List Nat} {xs : List α} {h : Node} {n : Nat}
    {pre : List Nat} {body : Node → Store → Option (Bool × Store)}
    (hr : IsRing m.links h (xs.map fun x => entry (addr x))) (hn : xs.length < n) (hh : h.1 ∉ pre ++ xs.flatMap blocks)
    (hnd : (pre ++ xs.flatMap blocks).Nodup) (haddr : ∀ x ∈ xs, addr x ∈ blocks x)
    (hbody : ∀ done x todo, xs = done ++ x :: todo → body (entry (addr x)) (m.erase (pre ++ done.flatMap blocks)) =
      some (true, m.erase (pre ++ (done ++ [x]).flatMap blocks))) :
    listForEachSafe (fun m : Store => m.links) body h n (m.erase pre) = some (m.erase (pre ++ xs.flatMap blocks)) := by
  have hpre : h.1 ∉ pre := fun hm => hh (List.mem_append_left _ hm)
  -- the entries still to be passed are not freed yet
  have hkept : ∀ done todo, xs = done ++ todo → ∀ x ∈ todo, addr x ∉ pre ++ done.flatMap blocks := by
    rintro done todo rfl x hx hm
    rw [List.flatMap_append, ← List.append_assoc] at hnd
    exact (List.nodup_append.mp hnd).2.2 _ hm _
      (List.mem_flatMap.mpr ⟨x, hx, haddr x (List.mem_append_right _ hx)⟩) rfl
  have hhead : ∀ done todo, xs = done ++ todo → h.1 ∉ pre ++ done.flatMap blocks := by
    rintro done todo rfl hm
    rw [List.flatMap_append, ← List.append_assoc] at hh
    exact hh (List.mem_append_left _ hm)
  have hring : IsRing (m.erase pre).links h (xs.map fun x => entry (addr x)) := by
    refine hr.frame fun q hq => Store.erase_node ?_
    rcases List.mem_cons.mp hq with rfl | hq
    · exact hpre
    · obtain ⟨x, hx, rfl⟩ := List.mem_map.mp hq
      exact fun hm => hkept [] xs rfl x hx (List.mem_append_left _ hm)
  obtain ⟨m', hwalk, rfl⟩ := listForEachSafe_rule (fun m : Store => m.links)
    (fun todo s => ∃ done todo', xs = done ++ todo' ∧ todo = todo'.map (fun x => entry (addr x)) ∧
      s = m.erase (pre ++ done.flatMap blocks))
    (fun s => s = m.erase (pre ++ xs.flatMap blocks)) hring (by rw [List.length_map]; exact hn)
    ⟨[], xs, rfl, rfl, by rw [List.flatMap_nil, List.append_nil]⟩
    (fun p todo s hI => by
      obtain ⟨done, todo', hxs, htodo, rfl⟩ := hI
      cases todo' with
      | nil => cases htodo
      | cons x todo' =>
          obtain ⟨rfl, rfl⟩ := List.cons.inj htodo
          refine ⟨true, _, hbody done x todo' hxs, fun _ => ⟨done ++ [x], todo', ?_, rfl, rfl⟩,
            fun hoff => by cases hoff⟩
          rw [hxs, List.append_assoc]
          rfl)
    (fun todo s hI => by
      obtain ⟨done, todo', hxs, rfl, rfl⟩ := hI
      have hr' := hr
      rw [hxs, List.map_append] at hr'
      refine hr'.path.imp_of_mem_imp fun a b ha _ hab => ?_
      show ((m.erase (pre ++ done.flatMap blocks)).links.node a).map (·.next) = some b
      have hkeep : a.1 ∉ pre ++ done.flatMap blocks := by
        rcases List.mem_append.mp ha with ha | ha
        · obtain ⟨x, hx, rfl⟩ := List.mem_map.mp ha
          exact hkept done todo' hxs x hx
        · rw [List.mem_singleton.mp ha]
          exact hhead done todo' hxs
      rw [Store.erase_node hkeep]
      exact hab)
    (fun todo s hI => by
      obtain ⟨done, todo', hxs, rfl, rfl⟩ := hI
      refine ⟨(Heap.live_congr (Store.erase_node (hhead done todo' hxs))).mpr (hr.live List.mem_cons_self),
        fun hm => ?_⟩
      refine (List.nodup_cons.mp hr.nodup).1 ?_
      rw [hxs, List.map_append]
      exact List.mem_append_right _ hm)
    (fun s hI => by
      obtain ⟨done, todo', hxs, htodo, rfl⟩ := hI
      rw [List.map_eq_nil_iff.mp htodo.symm, List.append_nil] at hxs
      rw [hxs])
  exact hwalk

variable {n : Nat} {pre ps : List Nat} {k : Kernel}

/-- The same, for an entry that is freed after what hangs on it: `inner` is what `loop` frees. -/
theorem free_nested {α : Type} {addr : α → Nat} {blocks : α → List Nat} {xs : List α} {h : Node}
    (inner : α → List Nat) (loop : Nat → Store → Option Store)
    (hr : IsRing m.links h (xs.map fun x => entry (addr x))) (hn : xs.length < n)
    (hnd : (pre ++ xs.flatMap blocks ++ [h.1]).Nodup) (hblocks : ∀ x ∈ xs, blocks x = inner x ++ [addr x])
    (hlive : ∀ x ∈ xs, ∃ b, m.block (addr x) = some b)
    (hloop : ∀ x ∈ xs, ∀ pre, (pre ++ blocks x).Nodup →
      loop (addr x) (m.erase pre) = some (m.erase (pre ++ inner x))) :
    listForEachSafe (fun m : Store => m.links) (fun p m => do
      let m ← loop p.1 m
      let m ← m.free p.1
      some (true, m)) h n (m.erase pre) = some (m.erase (pre ++ xs.flatMap blocks)) := by
  obtain ⟨hnd, -, hlast⟩ := List.nodup_append.mp hnd
  refine free_each hr hn (fun hm => hlast _ hm _ List.mem_cons_self rfl) hnd (fun x hx => ?_) fun done x todo hxs => ?_
  · rw [hblocks x hx]
    exact List.mem_append_right _ List.mem_cons_self
  · have hx : x ∈ xs := hxs ▸ List.mem_append_right _ List.mem_cons_self
    obtain ⟨b, hb⟩ := hlive x hx
    have hnd' : (pre ++ done.flatMap blocks ++ blocks x).Nodup := by
      rw [hxs, List.flatMap_append, List.flatMap_cons, ← List.append_assoc, ← List.append_assoc] at hnd
      exact (List.nodup_append.mp hnd).1
    have hlast' := hnd'
    rw [hblocks x hx, ← List.append_assoc] at hlast'
    have hfree := Store.free_erase hb fun hm => (List.nodup_append.mp hlast').2.2 _ hm _ List.mem_cons_self rfl
    have hend : pre ++ (done ++ [x]).flatMap blocks = pre ++ done.flatMap blocks ++ inner x ++ [addr x] := by
      rw [List.flatMap_append, List.flatMap_singleton, hblocks x hx]
      simp only [List.append_assoc]
    rw [hend]
    show (loop (addr x) _ >>= _) = _
    rw [hloop x hx _ hnd']
    show ((m.erase _).free (addr x) >>= _) = _
    rw [hfree]
    rfl

theorem freeIvals_frees (h : r.In m) (hn : r.ivals.length < n) (hnd : (pre ++ r.blocks).Nodup) :
    freeIvals n r.addr (m.erase pre) = some (m.erase (pre ++ r.ivals.map (·.1))) := by
  rw [PlacedFrame.blocks, ← List.append_assoc] at hnd
  rw [List.map_eq_flatMap] at hnd ⊢
  exact free_nested (fun _ => []) (fun _ m => some m) h.ring hn hnd (fun _ _ => rfl)
    (fun q hq => ⟨_, h.ivals q hq⟩) fun _ _ _ _ => by rw [List.append_nil]

theorem freeFrames_frees (h : f.In m) (hn : f.Within n) (hnd : (pre ++ f.blocks).Nodup) :
    freeFrames n f.addr (m.erase pre) = some (m.erase (pre ++ f.frames.flatMap (·.blocks))) := by
  rw [PlacedFormat.blocks, ← List.append_assoc] at hnd
  exact free_nested _ (freeIvals n) h.ring hn.1 hnd (fun _ _ => rfl) (fun r hr => ⟨_, (h.frames r hr).block⟩)
    fun r hr _ => freeIvals_frees (h.frames r hr) (hn.2 r hr)

/-- No list of the device has `n` entries. -/
def PlacedDevice.Within (n : Nat) (d : PlacedDevice) : Prop := d.formats.length < n ∧ ∀ f ∈ d.formats, f.Within n

theorem freeFormats_frees (h : d.In m) (hn : d.Within n) (hnd : (pre ++ d.blocks).Nodup) :
    freeFormats n d.addr (m.erase pre) = some (m.erase (pre ++ d.formats.flatMap (·.blocks))) := by
  rw [PlacedDevice.blocks, ← List.append_assoc] at hnd
  exact free_nested _ (freeFrames n) h.ring hn.1 hnd (fun _ _ => rfl) (fun f hf => ⟨_, (h.formats f hf).block⟩)
    fun f hf _ => freeFrames_frees (h.formats f hf) (hn.2 f hf)

/-- **`v4l2_close` frees the blocks of the device**, each once, and no others. -/
theorem v4l2Close_frees (h : d.In m) (hn : d.Within n) (hnd : d.blocks.Nodup) (k : Kernel) :
    v4l2Close n d.addr k m = some (closeFd k d.fd, m.erase d.blocks) := by
  have hfree : freeFormats n d.addr (m.erase []) = some (m.erase ([] ++ d.formats.flatMap (·.blocks))) :=
    freeFormats_frees h hn hnd
  rw [Store.erase_nil, List.nil_append] at hfree
  have hlast : d.addr ∉ d.formats.flatMap (·.blocks) := fun hm =>
    (List.nodup_append.mp hnd).2.2 _ hm _ List.mem_cons_self rfl
  show (freeFormats n d.addr m >>= _) = _
  rw [hfree]
  show ((m.erase _).block d.addr >>= _) = _
  rw [Store.erase_block hlast, h.block]
  show ((m.erase _).free d.addr >>= _) = _
  rw [Store.free_erase h.block hlast]
  rfl

/-! ## What is placed elsewhere stays -/

theorem PlacedFrame.In.erase (h : r.In m) (hps : ∀ p ∈ r.blocks, p ∉ ps) : r.In (m.erase ps) := by
  have hadd : r.addr ∉ ps := hps _ (List.mem_append_right _ List.mem_cons_self)
  have hivals : ∀ q ∈ r.ivals, q.1 ∉ ps := fun q hq => hps _ (List.mem_append_left _ (List.mem_map_of_mem hq))
  refine ⟨(Store.erase_block hadd).trans h.block, h.ring.frame fun n hn => Store.erase_node ?_, fun q hq =>
    (Store.erase_block (hivals q hq)).trans (h.ivals q hq)⟩
  rcases List.mem_cons.mp hn with rfl | hn
  · exact hadd
  · obtain ⟨q, hq, rfl⟩ := List.mem_map.mp hn
    exact hivals q hq

/-- The descriptor at the end of the blocks of each is among them. -/
theorem mem_blocks {α : Type} {blocks : α → List Nat} {xs : List α} {x : α} {p : Nat} (hx : x ∈ xs)
    (hp : p ∈ blocks x) (q : Nat) : p ∈ xs.flatMap blocks ++ [q] :=
  List.mem_append_left _ (List.mem_flatMap.mpr ⟨x, hx, hp⟩)

theorem PlacedFormat.In.erase (h : f.In m) (hps : ∀ p ∈ f.blocks, p ∉ ps) : f.In (m.erase ps) := by
  have hadd : f.addr ∉ ps := hps _ (List.mem_append_right _ List.mem_cons_self)
  refine ⟨(Store.erase_block hadd).trans h.block, h.ring.frame fun n hn => Store.erase_node ?_, fun r hr =>
    (h.frames r hr).erase fun p hp => hps p (mem_blocks hr hp _)⟩
  rcases List.mem_cons.mp hn with rfl | hn
  · exact hadd
  · obtain ⟨r, hr, rfl⟩ := List.mem_map.mp hn
    exact hps _ (mem_blocks hr (List.mem_append_right _ List.mem_cons_self) _)

theorem PlacedDevice.In.erase (h : d.In m) (hps : ∀ p ∈ d.blocks, p ∉ ps) : d.In (m.erase ps) := by
  have hadd : d.addr ∉ ps := hps _ (List.mem_append_right _ List.mem_cons_self)
  refine ⟨(Store.erase_block hadd).trans h.block, h.ring.frame fun n hn => Store.erase_node ?_, fun f hf =>
    (h.formats f hf).erase fun p hp => hps p (mem_blocks hf hp _)⟩
  rcases List.mem_cons.mp hn with rfl | hn
  · exact hadd
  · obtain ⟨f, hf, rfl⟩ := List.mem_map.mp hn
    exact hps _ (mem_blocks hf (List.mem_append_right _ List.mem_cons_self) _)

/-! ## Opening -/

/-- A new device with nothing enumerated yet. -/
theorem device_grows (ht : m.Tidy Desc.members) {p : Nat} (hp : p ∉ m.live) :
    ∃ m₁, init (alloc m p (.device none)) (p, .formats) = some m₁ ∧ Grows Desc.members [] {p} m m₁ ∧
      PlacedDevice.In m₁ ⟨p, none, []⟩ := by
  have hg₀ : Grows Desc.members [] {p} m (alloc m p (.device none)) := ht.malloc hp _ _
  obtain ⟨m₁, hinit, hg₁, hring, hb⟩ := init_grows hg₀ (alloc_live hg₀ (alloc_block ..) .formats List.mem_cons_self)
    (not_live ht hp .formats)
  exact ⟨m₁, hinit, hg₁, by rw [hb]; exact alloc_block .., hring, fun f hf => by cases hf⟩

/-- The call of `v4l2_enum_formats` that `v4l2_open` comes to: the descriptor, and what the driver has. -/
def enumerated (env : Env) (k : Kernel) (devname : DevName) : Option (Nat × Kernel × List FmtEnum) := do
  guard (env.malloc k.tick)
  let node ← (if k.ask.hasPath (v4l2Path devname) then env.openNode k.ask.tick (v4l2Path devname) else none)
  let cap ← node.querycap
  guard (cap.bufType.isSome ∧ cap.effective &&& V4L2_CAP_STREAMING ≠ 0)
  let (fd, k) := k.ask.openFd
  some (fd, k.call (.ioctl fd), node.formats)

theorem enumerated_opened {env : Env} {k : Kernel} {devname : DevName} {e : Nat × Kernel × List FmtEnum}
    (h : enumerated env k devname = some e) :
    ∃ t path node, env.openNode t path = some node ∧ e.2.2 = node.formats := by
  unfold enumerated at h
  obtain ⟨-, -, h⟩ := Option.bind_eq_some_iff.mp h
  obtain ⟨node, hnode, h⟩ := Option.bind_eq_some_iff.mp h
  obtain ⟨cap, -, h⟩ := Option.bind_eq_some_iff.mp h
  obtain ⟨-, -, h⟩ := Option.bind_eq_some_iff.mp h
  split at hnode
  · cases h
    exact ⟨_, _, node, hnode, rfl⟩
  · cases hnode

/-- The blocks that `v4l2_open` loses. -/
def lostIn (env : Env) (k : Kernel) (devname : DevName) : Nat :=
  ((enumerated env k devname).map fun e => lostBy (Uvcd.v4l2EnumFormats env e.1 e.2.2 e.2.1 []).1).getD 0

/-- The descriptor, and the formats. -/
def PlacedDevice.seen (d : PlacedDevice) : Option Nat × List FormatDesc := (d.fd, d.value)

/-- What a call of `v4l2_open` has come to in memory, `v` being what its counterpart returns and `lost` the number of
    the blocks that are left without a pointer to them. -/
def Opened (n : Nat) (m : Store) (v : Option Device × Kernel) (lost : Nat) (r : Option (Option Nat × Kernel × Store)) :
    Prop :=
  ∃ (o : Option PlacedDevice) (ps : Multiset Nat) (m' : Store), r = some (o.map (·.addr), v.2, m') ∧
    o.map (·.seen) = v.1.map (fun D => (some D.fd, D.formats)) ∧ (∀ d ∈ o, d.In m' ∧ d.Within n) ∧
    Grows Desc.members [] (ps + (o.toList.flatMap (·.blocks) : List Nat)) m m' ∧ ps.card = lost

/-- **A failing `v4l2_open` frees the device again**, with the descriptors it has linked so far. -/
theorem Opened.failing {ps : Multiset Nat} (h : d.In m') (hn : d.Within n) (ht : m.Tidy Desc.members)
    (hg : Grows Desc.members [] (ps + (d.blocks : Multiset Nat)) m m') (k : Kernel) :
    Opened n m (none, closeFd k d.fd) ps.card (do
      let (k, m) ← v4l2Close n d.addr k m'
      some (none, k, m)) := by
  have hnd := (Multiset.nodup_add.mp (Multiset.nodup_add.mp hg.nodup).1).2.1
  refine ⟨none, ps, m'.erase d.blocks, ?_, rfl, fun d hd => (by cases hd), ?_, rfl⟩
  · rw [v4l2Close_frees h hn (Multiset.coe_nodup.mp hnd)]
    rfl
  · have hg' := hg.erase ht
    rwa [← add_zero ps] at hg'

/-- The end of `v4l2_open`, from the enumeration on. -/
theorem opened_enumerated {p fd : Nat} {es : List FmtEnum} {k : Kernel} {D : List FormatDesc → Device}
    (ht : m.Tidy Desc.members) (hp : p ∉ m.live) (hd : PlacedDevice.In m' ⟨p, some fd, []⟩)
    (hg : Grows Desc.members [] {p} m m') (hn : es.length < n ∧ SizesWithin n es)
    (hD : ∀ formats, (D formats).fd = fd ∧ (D formats).formats = formats) :
    Opened n m
      (let (ret, formats, k) := Uvcd.v4l2EnumFormats env fd es k []
       if ret < 0 then (none, k.closeFd fd) else (some (D formats), k))
      (lostBy (Uvcd.v4l2EnumFormats env fd es k []).1)
      (do
        let (ret, k, m) ← v4l2EnumFormats env al fd p es k m'
        if ret < 0 then do
          let (k, m) ← v4l2Close n p k m
          some (none, k, m)
        else some (some p, k, m)) := by
  obtain ⟨formats, lost, ret, k', m₃, hmem, hmodel, hd₃, hg₃, hlost, hlen, hall⟩ :=
    @enumFormats_builds env al fd n es k m' _ hg.tidy hd hn.2
  have hmodel : Uvcd.v4l2EnumFormats env fd es k [] = (ret, formats.map (·.value), k') := hmodel
  have hd₃ : PlacedDevice.In m₃ ⟨p, some fd, formats⟩ := hd₃
  have hin : PlacedDevice.Within n ⟨p, some fd, formats⟩ := ⟨Nat.lt_of_le_of_lt hlen hn.1, hall⟩
  have hg : Grows Desc.members [] (lost + (PlacedDevice.blocks ⟨p, some fd, formats⟩ : Multiset Nat)) m m₃ := by
    rw [PlacedDevice.blocks, ← Multiset.coe_add, ← add_assoc]
    refine hg.trans hg₃ ht fun n hn hl => ?_
    rw [List.mem_singleton.mp hn] at hl
    exact absurd hl (not_live ht hp .formats)
  have hmem : v4l2EnumFormats env al fd p es k m' = some (ret, k', m₃) := hmem
  rw [hmem, hmodel, ← hlost]
  dsimp only [bind, Option.bind]
  by_cases hret : ret < 0
  · rw [if_pos hret, if_pos hret]
    exact Opened.failing hd₃ hin ht hg k'
  · rw [if_neg hret, if_neg hret]
    refine ⟨some ⟨p, some fd, formats⟩, lost, m₃, rfl, ?_, fun d hd => ?_, ?_, rfl⟩
    · rw [Option.map_some, Option.map_some, (hD _).1, (hD _).2]
      rfl
    · cases hd
      exact ⟨hd₃, hin⟩
    · rw [Option.toList_some, List.flatMap_singleton]
      exact hg

/-- **`v4l2_open`** has in memory what its counterpart has by value. -/
theorem v4l2Open_opened {devname : DevName} (ht : m.Tidy Desc.members) (hpos : 0 < n)
    (hn : ∀ e, enumerated env k devname = some e → e.2.2.length < n ∧ SizesWithin n e.2.2) :
    Opened n m (Uvcd.v4l2Open env k devname) (lostIn env k devname) (v4l2Open env al n devname k m) := by
  unfold lostIn
  rw [v4l2Open, Uvcd.v4l2Open]
  dsimp only
  by_cases hmalloc : env.malloc k.tick = true
  case neg =>
    rw [Bool.not_eq_true] at hmalloc
    have hnone : enumerated env k devname = none := by simp [enumerated, hmalloc]
    rw [hnone, hmalloc]
    exact ⟨none, 0, m, rfl, rfl, fun d hd => (by cases hd), Grows.refl ht, rfl⟩
  have hp := al.fresh k.tick m.live
  generalize al.place k.tick m.live = p at hp ⊢
  obtain ⟨m₁, hinit, hg₁, hd₁⟩ := device_grows ht hp
  have hempty : ∀ fd, PlacedDevice.Within n ⟨p, fd, []⟩ := fun _ => ⟨hpos, fun f hf => by cases hf⟩
  rw [hmalloc, hinit]
  cases hnode : if k.ask.hasPath (v4l2Path devname) then env.openNode k.ask.tick (v4l2Path devname) else none with
  | none =>
      have hnone : enumerated env k devname = none := by
        simp only [enumerated, hmalloc, hnode]
        rfl
      rw [hnone]
      have hzero : Grows Desc.members [] (0 + (PlacedDevice.blocks ⟨p, none, []⟩ : Multiset Nat)) m m₁ := by
        rw [zero_add]
        exact hg₁
      exact Opened.failing hd₁ (hempty _) ht hzero k.ask.ask
  | some node =>
      obtain ⟨m₂, hput, hg₂, hb₂, hlinks₂, -⟩ := hg₁.put (.device (some k.ask.openFd.1))
        (ht.block_none hp) hd₁.block rfl
      have hd₂ : PlacedDevice.In m₂ ⟨p, some k.ask.openFd.1, []⟩ := by
        refine ⟨hb₂, ?_, fun f hf => by cases hf⟩
        rw [hlinks₂]
        exact hd₁.ring
      have hzero : Grows Desc.members [] (0 + (PlacedDevice.blocks ⟨p, some k.ask.openFd.1, []⟩ : Multiset Nat)) m
          m₂ := by
        rw [zero_add]
        exact hg₂
      -- until the enumeration only the device is there to be freed
      have hfail : enumerated env k devname = none → ∀ k', Opened n m (none, closeFd k' (some k.ask.openFd.1))
          (((enumerated env k devname).map fun e => lostBy (Uvcd.v4l2EnumFormats env e.1 e.2.2 e.2.1 []).1).getD 0)
          (do
            let (k, m) ← v4l2Close n p k' m₂
            some (none, k, m)) := by
        intro hnone k'
        rw [hnone]
        exact Opened.failing hd₂ (hempty _) ht hzero k'
      have henum : enumerated env k devname = (do
          let cap ← node.querycap
          guard (cap.bufType.isSome ∧ cap.effective &&& V4L2_CAP_STREAMING ≠ 0)
          some (k.ask.openFd.1, k.ask.openFd.2.call (.ioctl k.ask.openFd.1), node.formats)) := by
        rw [enumerated, hmalloc, hnode]
        rfl
      rw [if_neg (by decide), if_neg (by decide)]
      dsimp only [bind, Option.bind]
      rw [hput]
      dsimp only
      cases hcap : node.querycap with
      | none => exact hfail (by rw [henum, hcap]; rfl) _
      | some cap =>
          rw [hcap] at henum
          dsimp only
          cases htype : cap.bufType with
          | none => exact hfail (by rw [henum]; simp [htype]) _
          | some type =>
              dsimp only
              by_cases hstreaming : cap.effective &&& V4L2_CAP_STREAMING = 0
              · rw [if_pos hstreaming, if_pos hstreaming]
                exact hfail (by rw [henum]; simp [hstreaming]) _
              · have hsome : enumerated env k devname = some (k.ask.openFd.1,
                    k.ask.openFd.2.call (.ioctl k.ask.openFd.1), node.formats) := by
                  rw [henum]
                  simp [htype, hstreaming]
                rw [if_neg hstreaming, if_neg hstreaming, hsome]
                have hwithin := hn _ hsome
                exact opened_enumerated (D := fun formats => ⟨k.ask.openFd.1, baseName (v4l2Path devname), type, .unset,
                  formats, .zero, 0, [], .fresh node.dev⟩) ht hp hd₂ hg₂ hwithin fun formats => ⟨rfl, rfl⟩

end Mem

end Uvcd
