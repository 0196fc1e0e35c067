import Mathlib.Data.List.Perm.Subperm
import Uvcd.Lib.Machine
import Uvcd.Model.V4l2

/-!
# `Refinement.Devices` — what the V4L2 calls do to an open device, and what they leave alone

`Uses env k d k' d'` collects what every sequence of V4L2 calls on an open device keeps: the descriptor
table, `/dev`, the inotify stream, the device's identity and the two invariants of its buffer array
(`Device.Plain`, `Device.Sized`). It is a preorder, so a function made of such calls is handled by
`Uses.trans`. `Steady` adds that the formats in force and the format the buffers were requested under
stay; of the calls below only `VIDIOC_S_FMT` and `VIDIOC_REQBUFS` are not steady.
-/

namespace Uvcd

open Machine

/-! ## Frames -/

/-- What no call on an open descriptor changes in the kernel tables. -/
structure Kernel.Keeps (k k' : Kernel) : Prop where
  tick : k.tick ≤ k'.tick
  opened : k'.opened = k.opened
  nodes : k'.nodes = k.nodes
  records : k'.records = k.records
  watching : k'.watching = k.watching

theorem Kernel.Keeps.refl (k : Kernel) : k.Keeps k := ⟨Nat.le_refl _, rfl, rfl, rfl, rfl⟩

theorem Kernel.Keeps.trans {k k' k'' : Kernel} (h : k.Keeps k') (h' : k'.Keeps k'') : k.Keeps k'' :=
  ⟨Nat.le_trans h.tick h'.tick, h'.opened.trans h.opened, h'.nodes.trans h.nodes,
    h'.records.trans h.records, h'.watching.trans h.watching⟩

theorem Kernel.keeps_call (k : Kernel) (c : Call) : k.Keeps (k.call c) :=
  ⟨Nat.le_succ _, rfl, rfl, rfl, rfl⟩

theorem Kernel.keeps_ask (k : Kernel) : k.Keeps k.ask := ⟨Nat.le_succ _, rfl, rfl, rfl, rfl⟩

/-- What no V4L2 call changes in a device. -/
structure Device.Same (d d' : Device) : Prop where
  fd : d'.fd = d.fd
  name : d'.name = d.name
  type : d'.type = d.type
  dev : d'.file.dev = d.file.dev

theorem Device.Same.refl (d : Device) : d.Same d := ⟨rfl, rfl, rfl, rfl⟩

theorem Device.Same.trans {d d' d'' : Device} (h : d.Same d') (h' : d'.Same d'') : d.Same d'' :=
  ⟨h'.fd.trans h.fd, h'.name.trans h.name, h'.type.trans h.type, h'.dev.trans h.dev⟩

/-! ## The buffer array -/

/-- No buffer in use was exported as a dma-buf, so releasing them closes no descriptor. -/
def Device.Plain (d : Device) : Prop :=
  ∀ i < d.nbufs, ∀ b, d.buffers[i]? = some b → b.dmabuf = none

/-- The driver reports buffers that hold a frame of the format they were requested under. -/
def LongBuffers (env : Env) : Prop :=
  ∀ t f i n, env.querybuf t f i = .ok n → f.reqfmt.frameBytes ≤ n

/-- A mapped buffer holds a frame of the format the buffers were requested under. -/
structure Device.Sized (d : Device) : Prop where
  mapped : ∀ b ∈ d.buffers, b.mem.isSome = true → d.file.reqfmt.frameBytes ≤ b.size
  idle : d.nbufs = 0 → ∀ b ∈ d.buffers, b.mem = none

/-- **What a sequence of V4L2 calls on an open device keeps.** -/
structure Uses (env : Env) (k : Kernel) (d : Device) (k' : Kernel) (d' : Device) : Prop where
  keeps : k.Keeps k'
  same : d.Same d'
  plain : d'.Plain
  sized : LongBuffers env → d.Sized → d'.Sized

/-- The buffers of `d'` are those of `d`, or were requested under the format `f`. -/
def Device.Requested (f : PixFormat) (d d' : Device) : Prop :=
  d'.file.reqfmt = f ∨ (d'.file.reqfmt = d.file.reqfmt ∧ (d.nbufs = 0 → d'.nbufs = 0))

/-- The calls that touch no format. -/
structure Steady (env : Env) (k : Kernel) (d : Device) (k' : Kernel) (d' : Device) : Prop
    extends Uses env k d k' d' where
  inforce : k'.inforce = k.inforce
  reqfmt : d'.file.reqfmt = d.file.reqfmt
  idle : d.nbufs = 0 → d'.nbufs = 0

variable {env : Env} {k k' k'' : Kernel} {d d' d'' : Device}

theorem Uses.refl (hp : d.Plain) : Uses env k d k d := ⟨.refl k, .refl d, hp, fun _ h => h⟩

theorem Uses.of_keeps (hp : d.Plain) (hk : k.Keeps k') : Uses env k d k' d :=
  ⟨hk, .refl d, hp, fun _ h => h⟩

theorem Uses.trans (h : Uses env k d k' d') (h' : Uses env k' d' k'' d'') : Uses env k d k'' d'' :=
  ⟨h.keeps.trans h'.keeps, h.same.trans h'.same, h'.plain, fun hq hs => h'.sized hq (h.sized hq hs)⟩

theorem Steady.refl (hp : d.Plain) : Steady env k d k d := ⟨.refl hp, rfl, rfl, id⟩

theorem Steady.trans (h : Steady env k d k' d') (h' : Steady env k' d' k'' d'') :
    Steady env k d k'' d'' :=
  ⟨h.toUses.trans h'.toUses, h'.inforce.trans h.inforce, h'.reqfmt.trans h.reqfmt,
    fun h0 => h'.idle (h.idle h0)⟩

theorem Steady.requested (h : Steady env k d k' d') (f : PixFormat) : d.Requested f d' :=
  .inr ⟨h.reqfmt, h.idle⟩

theorem Device.Requested.trans {f : PixFormat} (h : d.Requested f d') (h' : d'.Requested f d'') :
    d.Requested f d'' := by
  rcases h' with h' | ⟨hr', hn'⟩
  · exact .inl h'
  · rcases h with h | ⟨hr, hn⟩
    · exact .inl (hr'.trans h)
    · exact .inr ⟨hr'.trans hr, fun h0 => hn' (hn h0)⟩

/-- Changes that stay clear of the buffer array. -/
theorem Steady.of_eq (hp : d.Plain) (hk : k.Keeps k') (hin : k'.inforce = k.inforce) (hd : d.Same d')
    (hn : d'.nbufs = d.nbufs) (hb : d'.buffers = d.buffers) (hr : d'.file.reqfmt = d.file.reqfmt) :
    Steady env k d k' d' := by
  refine ⟨⟨hk, hd, fun i hi b hbi => ?_, fun _ hs => ⟨fun b hbm => ?_, fun h0 b hbm => ?_⟩⟩, hin, hr, hn.trans⟩
  · exact hp i (hn ▸ hi) b (hb ▸ hbi)
  · rw [hr]; exact hs.mapped b (hb ▸ hbm)
  · exact hs.idle (hn ▸ h0) b (hb ▸ hbm)

theorem Steady.call (hp : d.Plain) (c : Call) : Steady env k d (k.call c) d :=
  .of_eq hp (k.keeps_call c) rfl (.refl d) rfl rfl rfl

theorem Steady.ask (hp : d.Plain) : Steady env k d k.ask d :=
  .of_eq hp k.keeps_ask rfl (.refl d) rfl rfl rfl

/-- Overwriting one buffer in place: it is exported only if it was, it is mapped only if it was, with the
    same length, or with a length the driver reported. -/
theorem Steady.set (hp : d.Plain) {i : Nat} {b b' : VideoBuffer} {f : File}
    (hb : d.buffers[i]? = some b) (hdma : b.dmabuf = none → b'.dmabuf = none)
    (hsize : LongBuffers env → b'.mem.isSome = true →
      (b.mem.isSome = true ∧ b'.size = b.size) ∨ (d.nbufs ≠ 0 ∧ d.file.reqfmt.frameBytes ≤ b'.size))
    (hdev : f.dev = d.file.dev) (hreq : f.reqfmt = d.file.reqfmt) :
    Steady env k d k { d with buffers := d.buffers.set i b', file := f } := by
  refine ⟨⟨.refl k, ⟨rfl, rfl, rfl, hdev⟩, ?_, fun hq hs => ⟨?_, ?_⟩⟩, rfl, hreq, id⟩
  · intro j hj c hc
    have hc' : (d.buffers.set i b')[j]? = some c := hc
    rw [List.getElem?_set] at hc'
    split at hc'
    · next hij =>
        subst hij
        split at hc'
        · cases hc'; exact hdma (hp i hj b hb)
        · cases hc'
    · exact hp j hj c hc'
  · intro c hc hsome
    show f.reqfmt.frameBytes ≤ c.size
    rw [hreq]
    rcases List.mem_or_eq_of_mem_set hc with h | rfl
    · exact hs.mapped c h hsome
    · rcases hsize hq hsome with ⟨hbm, heq⟩ | ⟨-, hle⟩
      · rw [heq]; exact hs.mapped b (List.mem_of_getElem? hb) hbm
      · exact hle
  · intro h0 c hc
    rcases List.mem_or_eq_of_mem_set hc with h | rfl
    · exact hs.idle h0 c h
    · cases hcm : c.mem with
      | none => rfl
      | some m =>
          rcases hsize hq (by rw [hcm]; rfl) with ⟨hbm, -⟩ | ⟨hn, -⟩
          · rw [hs.idle h0 b (List.mem_of_getElem? hb)] at hbm; cases hbm
          · exact absurd h0 hn

/-! ## Formats -/

theorem ioctlSFmt_keeps (env : Env) (k : Kernel) (d : Device) (fmt : PixFormat) :
    k.Keeps (ioctlSFmt env k d fmt).2 := by
  unfold ioctlSFmt
  split
  · exact k.keeps_call _
  · exact ⟨Nat.le_succ _, rfl, rfl, rfl, rfl⟩

theorem ioctlGFmt_keeps (env : Env) (k : Kernel) (d : Device) : k.Keeps (ioctlGFmt env k d).2 := by
  unfold ioctlGFmt
  split <;> exact k.keeps_call _

/-- Setting a format leaves the file alone, and reports back the size and pixel format it was given. -/
theorem v4l2SetFormat_spec {fmt fmt' : PixFormat} {ret : Int}
    (h : v4l2SetFormat env k d fmt = (ret, fmt', k', d')) :
    k.Keeps k' ∧ d' = { d with format := d'.format } ∧
      fmt'.width = fmt.width ∧ fmt'.height = fmt.height ∧ fmt'.pixelformat = fmt.pixelformat := by
  have hset := ioctlSFmt_keeps env k d ⟨fmt.width, fmt.height, fmt.pixelformat, PixFormat.FIELD_ANY, 0⟩
  unfold v4l2SetFormat at h
  dsimp only at h
  split at h
  · next k₁ hs =>
      cases h; rw [hs] at hset
      exact ⟨hset, rfl, rfl, rfl, rfl⟩
  · next k₁ hs =>
      rw [hs] at hset
      have hget := ioctlGFmt_keeps env k₁ d
      split at h
      · next k₂ hg => cases h; rw [hg] at hget; exact ⟨hset.trans hget, rfl, rfl, rfl, rfl⟩
      · next pix k₂ hg =>
          rw [hg] at hget
          -- the driver's format is compared field by field with the one asked for
          split at h
          · cases h; exact ⟨hset.trans hget, rfl, rfl, rfl, rfl⟩
          · next hw =>
              split at h
              · cases h; exact ⟨hset.trans hget, rfl, rfl, rfl, rfl⟩
              · next hh =>
                  split at h
                  · cases h; exact ⟨hset.trans hget, rfl, rfl, rfl, rfl⟩
                  · next hp =>
                      cases h
                      exact ⟨hset.trans hget, rfl, Decidable.not_not.mp hw, Decidable.not_not.mp hh,
                        Decidable.not_not.mp hp⟩

theorem v4l2SetFormat_uses (hp : d.Plain) {fmt fmt' : PixFormat} {ret : Int}
    (h : v4l2SetFormat env k d fmt = (ret, fmt', k', d')) :
    Uses env k d k' d' ∧ d'.file = d.file := by
  obtain ⟨hk, hd, -⟩ := v4l2SetFormat_spec h
  rw [hd]
  exact ⟨⟨hk, ⟨rfl, rfl, rfl, rfl⟩, hp, fun _ hs => ⟨hs.mapped, hs.idle⟩⟩, rfl⟩

/-! ## Buffers management -/

theorem ioctlReqbufs_zero_steady (hp : d.Plain) {r : Except Errno Nat}
    (h : ioctlReqbufs env k d 0 = (r, k', d')) : Steady env k d k' d' := by
  unfold ioctlReqbufs at h
  dsimp only at h
  split at h
  · cases h; exact .call hp _
  · cases h; exact .of_eq hp (k.keeps_call _) rfl ⟨rfl, rfl, rfl, rfl⟩ rfl rfl rfl

/-- Dropping the whole array. -/
theorem Steady.emptied (k : Kernel) (d : Device) :
    Steady env k d k { d with buffers := [], nbufs := 0 } := by
  refine ⟨⟨.refl k, ⟨rfl, rfl, rfl, rfl⟩, ?_, fun _ _ => ⟨?_, ?_⟩⟩, rfl, rfl, fun _ => rfl⟩
  · intro i hi; exact absurd hi (Nat.not_lt_zero i)
  · intro b hb; cases hb
  · intro _ b hb; cases hb

/-- The release loop, while it stays within the buffers in use. -/
theorem releaseBuffers_steady {n : Nat} : ∀ {i : Nat} {k : Kernel} {d : Device} {ret : Int},
    d.Plain → i + n ≤ d.nbufs → releaseBuffers env i n k d = .ok (ret, k', d') →
    Steady env k d k' d' := by
  induction n with
  | zero =>
      intro i k d ret hp _ h
      cases h; exact .refl hp
  | succ n ih =>
      intro i k d ret hp hle h
      rw [releaseBuffers] at h
      split at h
      · cases h
      · next b hb =>
          have hdma : b.dmabuf = none := hp i (by omega) b hb
          -- unmapping, or nothing to unmap, leaves the kernel tables alone, and the loop goes on
          have hrest : ∀ {k₁ : Kernel} {f : File}, Steady env k d k₁ d → f.dev = d.file.dev →
              f.reqfmt = d.file.reqfmt →
              releaseBuffers env (i + 1) n k₁ { d with
                buffers := d.buffers.set i { b with mem := none, dmabuf := none, size := 0 }
                file := f } = .ok (ret, k', d') → Steady env k d k' d' := by
            intro k₁ f hs hdev hreq h
            have hset : Steady env k₁ d k₁
                { d with
                  buffers := d.buffers.set i { b with mem := none, dmabuf := none, size := 0 }
                  file := f } :=
              .set hp hb (fun _ => rfl) (fun _ hm => by cases hm) hdev hreq
            exact (hs.trans hset).trans (ih hset.plain (by show i + 1 + n ≤ d.nbufs; omega) h)
          dsimp only at h
          cases hm : b.mem with
          | none =>
              rw [hm] at h
              dsimp only at h
              rw [hdma] at h
              exact hrest (.refl hp) rfl rfl h
          | some m =>
              rw [hm] at h
              dsimp only at h
              cases hu : env.munmap k.tick d.file i with
              | some e =>
                  rw [hu] at h
                  cases h
                  exact .ask hp
              | none =>
                  rw [hu] at h
                  dsimp only at h
                  rw [hdma] at h
                  refine hrest (.ask hp) ?_ ?_ h
                  · rfl
                  · rfl

theorem v4l2FreeBuffers_steady (hp : d.Plain) {ret : Int}
    (h : v4l2FreeBuffers env k d = .ok (ret, k', d')) : Steady env k d k' d' := by
  unfold v4l2FreeBuffers at h
  split at h
  · cases h; exact .refl hp
  · obtain ⟨⟨ret₁, k₁, d₁⟩, hrel, h⟩ := bind_eq_ok.mp h
    have h₁ : Steady env k d k₁ d₁ := releaseBuffers_steady hp (by omega) hrel
    dsimp only at h
    split at h
    · cases h; exact h₁
    · split at h
      · next hreq => cases h; exact h₁.trans (ioctlReqbufs_zero_steady h₁.plain hreq)
      · next hreq =>
          have h₂ := h₁.trans (ioctlReqbufs_zero_steady h₁.plain hreq)
          cases h
          exact h₂.trans (.emptied _ _)

theorem freshBuffers_getElem? {nbufs count i : Nat} {b : VideoBuffer}
    (h : (freshBuffers nbufs count)[i]? = some b) : b.mem = none ∧ (i < count → b.dmabuf = none) := by
  unfold freshBuffers at h
  rw [List.getElem?_map, Option.map_eq_some_iff] at h
  obtain ⟨j, hj, rfl⟩ := h
  obtain ⟨hlt, hji⟩ := List.getElem?_eq_some_iff.mp hj
  rw [List.getElem_range] at hji
  subst hji
  split
  · exact ⟨rfl, fun _ => rfl⟩
  · next hlt => exact ⟨rfl, fun h => absurd h hlt⟩

/-- A request for buffers when there are none puts the format in force behind them. -/
theorem ioctlReqbufs_uses (h0 : d.nbufs = 0) {n : Nat} (hn : n ≠ 0) {r : Except Errno Nat}
    (h : ioctlReqbufs env k d n = (r, k', d')) :
    Uses env k d k' d' ∧ k'.inforce = k.inforce ∧ d.Requested (k.inforce d.file.dev) d' ∧
      (∀ c, r = .ok c → d'.file.reqfmt = k.inforce d.file.dev) := by
  have hp : d.Plain := fun i hi => absurd hi (by omega)
  unfold ioctlReqbufs at h
  dsimp only at h
  split at h
  · cases h
    exact ⟨(Steady.call hp _).toUses, rfl, .inr ⟨rfl, id⟩, fun _ hc => by cases hc⟩
  · rw [if_neg hn] at h
    cases h
    refine ⟨⟨k.keeps_call _, ⟨rfl, rfl, rfl, rfl⟩, hp, fun _ hs => ⟨fun b hb hsome => ?_, hs.idle⟩⟩, rfl,
      .inl rfl, fun _ _ => rfl⟩
    rw [hs.idle h0 b hb] at hsome
    cases hsome

/-- `v4l2_alloc_buffers`: new buffers are those of the format in force. -/
theorem v4l2AllocBuffers_uses (hp : d.Plain) {memtype : Memory} {nbufs : Nat} (hn : nbufs ≠ 0) {ret : Int}
    (h : v4l2AllocBuffers env k d memtype nbufs = .ok (ret, k', d')) :
    Uses env k d k' d' ∧ k'.inforce = k.inforce ∧
      d.Requested (k.inforce d.file.dev) d' := by
  unfold v4l2AllocBuffers at h
  split at h
  · cases h; exact ⟨.refl hp, rfl, .inr ⟨rfl, id⟩⟩
  · next h0 =>
      have h0 : d.nbufs = 0 := Decidable.not_not.mp h0
      split at h
      · cases h; exact ⟨.refl hp, rfl, .inr ⟨rfl, id⟩⟩
      · split at h
        · -- `VIDIOC_REQBUFS` is refused
          next e k₁ d₁ hreq =>
            obtain ⟨hu, hin, hasked, -⟩ := ioctlReqbufs_uses h0 hn hreq
            obtain ⟨⟨_, k₂, d₂⟩, hfree, h⟩ := bind_eq_ok.mp h
            have hf := v4l2FreeBuffers_steady hu.plain hfree
            cases h
            exact ⟨hu.trans hf.toUses, hf.inforce.trans hin, hasked.trans (hf.requested _)⟩
        · next count k₁ d₁ hreq =>
            obtain ⟨hu, hin, -, hfmt⟩ := ioctlReqbufs_uses h0 hn hreq
            have hfmt := hfmt count rfl
            split at h
            · -- the driver gives more than was asked for
              obtain ⟨⟨_, k₂, d₂⟩, hfree, h⟩ := bind_eq_ok.mp h
              have hf := v4l2FreeBuffers_steady hu.plain hfree
              cases h
              exact ⟨hu.trans hf.toUses, hf.inforce.trans hin, .inl (hf.reqfmt.trans hfmt)⟩
            · split at h
              · -- the array is the null pointer: releasing it either does nothing or faults
                obtain ⟨⟨_, k₂, d₂⟩, hfree, h⟩ := bind_eq_ok.mp h
                have hnil : Uses env k₁ d₁ k₁.ask { d₁ with memtype := memtype, nbufs := count, buffers := [] } :=
                  (Steady.ask hu.plain).toUses.trans
                    ⟨.refl _, ⟨rfl, rfl, rfl, rfl⟩, fun i _ b hb => (by cases hb),
                      fun _ _ => ⟨fun b hb => (by cases hb), fun _ b hb => (by cases hb)⟩⟩
                have hf := v4l2FreeBuffers_steady hnil.plain hfree
                cases h
                exact ⟨(hu.trans hnil).trans hf.toUses, hf.inforce.trans hin,
                  .inl (hf.reqfmt.trans hfmt)⟩
              · -- the buffer objects are new, none is mapped
                cases h
                refine ⟨hu.trans ⟨k₁.keeps_ask, ⟨rfl, rfl, rfl, rfl⟩, ?_, fun _ _ => ⟨?_, ?_⟩⟩, hin,
                  .inl hfmt⟩
                · intro i hi b hb
                  exact (freshBuffers_getElem? hb).2 hi
                · intro b hb hsome
                  obtain ⟨i, hi⟩ := List.mem_iff_getElem?.mp hb
                  rw [(freshBuffers_getElem? hi).1] at hsome; cases hsome
                · intro _ b hb
                  obtain ⟨i, hi⟩ := List.mem_iff_getElem?.mp hb
                  exact (freshBuffers_getElem? hi).1

theorem mmapBuffers_steady {n : Nat} : ∀ {i : Nat} {k : Kernel} {d : Device} {ret : Int},
    d.Plain → i + n ≤ d.nbufs → mmapBuffers env i n k d = .ok (ret, k', d') → Steady env k d k' d' := by
  induction n with
  | zero =>
      intro i k d ret hp _ h
      cases h; exact .refl hp
  | succ n ih =>
      intro i k d ret hp hle h
      rw [mmapBuffers] at h
      unfold ioctlQuerybuf at h
      split at h
      · next hq =>
          injection hq with _ hk
          subst hk
          cases h; exact .call hp _
      · next length k₁ hq =>
          injection hq with hq hk
          subst hk
          split at h
          · cases h; exact (Steady.call hp _).trans (.ask hp)
          · split at h
            · cases h
            · next b hb =>
                have h₁ : Steady env k d (k.call (.ioctl d.fd)).ask d := (Steady.call hp _).trans (.ask hp)
                have hset : Steady env (k.call (.ioctl d.fd)).ask d (k.call (.ioctl d.fd)).ask
                    { d with
                      buffers := d.buffers.set i { b with mem := some fun _ => 0, size := length }
                      file := { d.file with mapped := d.file.mapped ++ [i] } } :=
                  Steady.set hp hb id (fun hlong _ => Or.inr ⟨by omega, hlong _ _ _ _ hq⟩) rfl rfl
                exact (h₁.trans hset).trans (ih hset.plain (by show i + 1 + n ≤ d.nbufs; omega) h)

theorem v4l2MmapBuffers_steady (hp : d.Plain) {ret : Int}
    (h : v4l2MmapBuffers env k d = .ok (ret, k', d')) : Steady env k d k' d' := by
  unfold v4l2MmapBuffers at h
  split at h
  · cases h; exact .refl hp
  · exact mmapBuffers_steady hp (by omega) h

/-- `VIDIOC_DQBUF`; the buffer handed out, when it is mapped, is in use and holds a frame as requested. -/
theorem v4l2DequeueBuffer_steady (hp : d.Plain) {r : Except Errno VideoBuffer}
    (h : v4l2DequeueBuffer env k d = .ok (r, k', d')) :
    Steady env k d k' d' ∧ ∀ b, r = .ok b → b.mem.isSome = true → d.Sized →
      d.nbufs ≠ 0 ∧ d.file.reqfmt.frameBytes ≤ b.size := by
  unfold v4l2DequeueBuffer at h
  dsimp only at h
  split at h
  · cases h; exact ⟨.call hp _, fun _ hb => by cases hb⟩
  · next dq _ =>
      split at h
      · cases h
      · next b hb =>
          have hsome : ∀ {m : Option Bytes},
              m = (if d.type = .videoCapture then b.mem.map (fun _ => dq.frame) else b.mem) →
              m.isSome = true → b.mem.isSome = true := by
            intro m hm hs
            subst hm
            split at hs
            · rwa [Option.isSome_map] at hs
            · exact hs
          cases h
          refine ⟨(Steady.call hp _).trans
            (.set hp hb id (fun _ hs => Or.inl ⟨hsome rfl hs, rfl⟩) rfl rfl), ?_⟩
          intro b' hb' hs hsz
          cases hb'
          have hmem := List.mem_of_getElem? hb
          refine ⟨fun h0 => ?_, hsz.mapped b hmem (hsome rfl hs)⟩
          have hsome' := hsome rfl hs
          rw [hsz.idle h0 b hmem] at hsome'; cases hsome'

theorem v4l2QueueBuffer_steady (hp : d.Plain) {b : VideoBuffer} {ret : Int}
    (h : v4l2QueueBuffer env k d b = (ret, k', d')) : Steady env k d k' d' := by
  unfold v4l2QueueBuffer at h
  split at h
  · cases h; exact .refl hp
  · dsimp only at h
    split at h
    · cases h; exact .call hp _
    · cases h; exact .of_eq hp (k.keeps_call _) rfl ⟨rfl, rfl, rfl, rfl⟩ rfl rfl rfl

/-! ## Stream management -/

theorem v4l2StreamOn_steady (hp : d.Plain) {ret : Int} (h : v4l2StreamOn env k d = (ret, k', d')) :
    Steady env k d k' d' := by
  unfold v4l2StreamOn at h
  dsimp only at h
  split at h
  · cases h; exact .call hp _
  · cases h; exact .of_eq hp (k.keeps_call _) rfl ⟨rfl, rfl, rfl, rfl⟩ rfl rfl rfl

theorem v4l2StreamOff_steady (hp : d.Plain) {ret : Int} (h : v4l2StreamOff env k d = (ret, k', d')) :
    Steady env k d k' d' := by
  unfold v4l2StreamOff at h
  dsimp only at h
  split at h
  · cases h; exact .call hp _
  · cases h; exact .of_eq hp (k.keeps_call _) rfl ⟨rfl, rfl, rfl, rfl⟩ rfl rfl rfl

/-! ## Open and close -/

/-- From `k` to `k'` by `ioctl`s on `fd` and calls on no descriptor. -/
inductive Chats (fd : Nat) (k : Kernel) : Kernel → Prop
  | refl : Chats fd k k
  | call {k' : Kernel} (h : Chats fd k k') : Chats fd k (k'.call (.ioctl fd))
  | ask {k' : Kernel} (h : Chats fd k k') : Chats fd k k'.ask

theorem Chats.keeps {fd : Nat} (h : Chats fd k k') : k.Keeps k' := by
  induction h with
  | refl => exact .refl k
  | call _ ih => exact ih.trans (Kernel.keeps_call _ _)
  | ask _ ih => exact ih.trans (Kernel.keeps_ask _)

theorem v4l2EnumFrameIntervals_chats {fd : Nat} {es : List FrmIvalEnum} :
    ∀ {k₁ : Kernel} {ivals ivals' : List IvalDesc} {ret : Int}, Chats fd k k₁ →
      v4l2EnumFrameIntervals env fd es k₁ ivals = (ret, ivals', k') → Chats fd k k' := by
  induction es with
  | nil => intro k₁ ivals ivals' ret hk h; cases h; exact hk.call
  | cons e es ih =>
      intro k₁ ivals ivals' ret hk h
      rw [v4l2EnumFrameIntervals] at h
      split at h
      · cases h; exact hk.call.ask
      · split at h
        · cases h; exact hk.call.ask
        · exact ih hk.call.ask h

theorem v4l2EnumFrameSizes_chats {fd : Nat} {es : List FrmSizeEnum} :
    ∀ {k₁ : Kernel} {frames frames' : List FrameDesc} {ret : Int}, Chats fd k k₁ →
      v4l2EnumFrameSizes env fd es k₁ frames = (ret, frames', k') → Chats fd k k' := by
  induction es with
  | nil => intro k₁ frames frames' ret hk h; cases h; exact hk.call
  | cons e es ih =>
      intro k₁ frames frames' ret hk h
      rw [v4l2EnumFrameSizes] at h
      dsimp only at h
      split at h
      · cases h; exact hk.call.ask
      · split at h
        · cases h; exact hk.call.ask
        · next frame _ =>
            generalize hi : v4l2EnumFrameIntervals env fd e.ivals (k₁.call (.ioctl fd)).ask [] = r at h
            obtain ⟨ret₁, ivals, k₂⟩ := r
            have h₂ := v4l2EnumFrameIntervals_chats hk.call.ask hi
            dsimp only at h
            split at h
            · cases h; exact h₂
            · exact ih h₂ h

theorem v4l2EnumFormats_chats {fd : Nat} {es : List FmtEnum} :
    ∀ {k₁ : Kernel} {formats formats' : List FormatDesc} {ret : Int}, Chats fd k k₁ →
      v4l2EnumFormats env fd es k₁ formats = (ret, formats', k') → Chats fd k k' := by
  induction es with
  | nil => intro k₁ formats formats' ret hk h; cases h; exact hk.call
  | cons e es ih =>
      intro k₁ formats formats' ret hk h
      rw [v4l2EnumFormats] at h
      dsimp only at h
      split at h
      · cases h; exact hk.call.ask
      · generalize hi : v4l2EnumFrameSizes env fd e.sizes (k₁.call (.ioctl fd)).ask [] = r at h
        obtain ⟨ret₁, frames, k₂⟩ := r
        have h₂ := v4l2EnumFrameSizes_chats hk.call.ask hi
        dsimp only at h
        split at h
        · cases h; exact h₂
        · exact ih h₂ h

/-- The descriptor `open` returns is not in use. -/
theorem lowestFree_not_mem (opened : List Nat) : Kernel.lowestFree opened ∉ opened := by
  unfold Kernel.lowestFree
  cases hf : (List.range (opened.length + 1)).find? (fun fd => decide (fd ∉ opened)) with
  | some fd => simpa using List.find?_some hf
  | none =>
      -- otherwise `opened` would hold more numbers than it has elements
      have hsub : List.range (opened.length + 1) ⊆ opened := by
        intro fd hfd
        simpa using List.find?_eq_none.mp hf fd hfd
      have hlen := (List.nodup_range.subperm hsub).length_le
      rw [List.length_range] at hlen
      omega

/-- What a successful `v4l2_open` gives. -/
structure Opened (k : Kernel) (devname : DevName) (d : Device) (k' : Kernel) : Prop where
  fresh : d.fd ∉ k.opened
  opened : k'.opened = d.fd :: k.opened
  tick : k.tick ≤ k'.tick
  nodes : k'.nodes = k.nodes
  records : k'.records = k.records
  watching : k'.watching = k.watching
  name : d.name = baseName (v4l2Path devname)
  idle : d.nbufs = 0 ∧ d.buffers = []

/-- Opening a descriptor, calls on it, and closing it again. -/
theorem Kernel.keeps_closeFd {k k₁ : Kernel} (h : k.openFd.2.Keeps k₁) :
    k.Keeps (k₁.closeFd k.openFd.1) := by
  refine ⟨?_, ?_, h.nodes, h.records, h.watching⟩
  · have h₁ := h.tick
    show k.tick ≤ k₁.tick + 1
    have h₂ : k.openFd.2.tick = k.tick + 1 := rfl
    omega
  · show k₁.opened.erase k.openFd.1 = k.opened
    rw [h.opened]
    show (lowestFree k.opened :: k.opened).erase (lowestFree k.opened) = k.opened
    rw [List.erase_cons_head]

/-- **What `v4l2_open` does**, by how far it gets. -/
inductive V4lOpens (k : Kernel) (devname : DevName) : Option Device → Kernel → Prop
  /-- no memory for the device, or no such node -/
  | missing {k' : Kernel} (h : k' = k.ask ∨ k' = k.ask.ask) : V4lOpens k devname none k'
  | rejected {k₁ : Kernel} (h : Chats k.ask.openFd.1 k.ask.openFd.2 k₁) :
      V4lOpens k devname none (k₁.closeFd k.ask.openFd.1)
  | opened {type : BufType} {formats : List FormatDesc} {dev : Nat} {k' : Kernel}
      (h : Chats k.ask.openFd.1 k.ask.openFd.2 k') :
      V4lOpens k devname (some ⟨k.ask.openFd.1, baseName (v4l2Path devname), type, .unset, formats, .zero, 0, [],
        .fresh dev⟩) k'

theorem v4l2Open_opens {devname : DevName} {r : Option Device} (h : v4l2Open env k devname = (r, k')) :
    V4lOpens k devname r k' := by
  unfold v4l2Open at h
  dsimp only at h
  split at h
  · cases h; exact .missing (.inl rfl)
  · split at h
    · cases h; exact .missing (.inr rfl)
    · next node _ =>
        have hcall : Chats k.ask.openFd.1 k.ask.openFd.2 (k.ask.openFd.2.call (.ioctl k.ask.openFd.1)) :=
          Chats.refl.call
        split at h
        · cases h; exact .rejected hcall
        · split at h
          · cases h; exact .rejected hcall
          · split at h
            · cases h; exact .rejected hcall
            · generalize he : v4l2EnumFormats env k.ask.openFd.1 node.formats
                (k.ask.openFd.2.call (.ioctl k.ask.openFd.1)) [] = r at h
              obtain ⟨ret₂, formats, k₂⟩ := r
              have h₂ := v4l2EnumFormats_chats hcall he
              dsimp only at h
              split at h
              · cases h; exact .rejected h₂
              · cases h; exact .opened h₂

theorem v4l2Open_spec {devname : DevName} {r : Option Device} (h : v4l2Open env k devname = (r, k')) :
    (r = none ∧ k.Keeps k') ∨ ∃ d, r = some d ∧ Opened k devname d k' := by
  have hask : k.Keeps k.ask := k.keeps_ask
  cases v4l2Open_opens h with
  | missing h =>
      rcases h with rfl | rfl
      · exact .inl ⟨rfl, hask⟩
      · exact .inl ⟨rfl, hask.trans (Kernel.keeps_ask _)⟩
  | rejected hchat => exact .inl ⟨rfl, hask.trans (Kernel.keeps_closeFd hchat.keeps)⟩
  | opened hchat =>
      have hk := hchat.keeps
      refine .inr ⟨_, rfl, lowestFree_not_mem _, hk.opened, ?_, hk.nodes, hk.records, hk.watching, rfl, rfl, rfl⟩
      have := hk.tick
      have hopen : k.ask.openFd.2.tick = k.tick + 2 := rfl
      omega

theorem Opened.plain {devname : DevName} (h : Opened k devname d k') : d.Plain := by
  intro i hi
  rw [h.idle.1] at hi
  exact absurd hi (Nat.not_lt_zero i)

theorem Opened.sized {devname : DevName} (h : Opened k devname d k') : d.Sized := by
  refine ⟨?_, ?_⟩ <;> rw [h.idle.2]
  · intro b hb; cases hb
  · intro _ b hb; cases hb

end Uvcd
