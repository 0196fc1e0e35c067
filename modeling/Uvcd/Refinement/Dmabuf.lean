import Mathlib.Data.List.Perm.Basic
import Uvcd.Model.Dmabuf
import Uvcd.Refinement.Returns
import Uvcd.Refinement.Trades

/-!
# `Refinement.Dmabuf` — the dma-bufs a device holds

`Hands own k d k' d' lost` says of a call on a device that it trades the descriptors of `d`'s dma-bufs for those of `d'`
and `lost` ones, which stay open though nobody holds them. What gives buffers back, asks for them or maps them loses
none; what exports or imports writes descriptors over (`Collects`), and has lost those the device held before and does
not hold after it.
-/

namespace Uvcd

open Machine

variable {env : Env} {sh : Sharing} {own rest lost lost' : List Nat} {k k' k'' k₁ : Kernel} {d d' d'' : Device}
  {b b' : VideoBuffer} {ret : Int}

/-! ## The descriptors of a device -/

/-- The dma-bufs of the buffers in use. -/
def Device.handles (d : Device) : List Nat := (d.buffers.take d.nbufs).filterMap (·.dmabuf)

theorem handles_empty (h : d.nbufs = 0) : d.handles = [] := by
  unfold Device.handles
  rw [h]
  rfl

/-- One buffer is written over, the others keep what they have. -/
theorem handles_at {i : Nat} (hi : i < d.nbufs) (hb : d.buffers[i]? = some b) :
    ∃ others, d.handles.Perm (b.dmabuf.toList ++ others) ∧
      ∀ (b' : VideoBuffer) (f : File), Device.handles { d with buffers := d.buffers.set i b', file := f } |>.Perm
        (b'.dmabuf.toList ++ others) := by
  obtain ⟨hlen, rfl⟩ := List.getElem?_eq_some_iff.mp hb
  have hlen' : i < (d.buffers.take d.nbufs).length := by rw [List.length_take]; omega
  have hput : ∀ b' : VideoBuffer, (((d.buffers.take d.nbufs).set i b').filterMap (·.dmabuf)).Perm
      (b'.dmabuf.toList ++ ((d.buffers.take d.nbufs).eraseIdx i).filterMap (·.dmabuf)) := by
    intro b'
    refine ((List.set_perm_cons_eraseIdx hlen' b').filterMap _).trans ?_
    rw [List.filterMap_cons]
    cases b'.dmabuf <;> exact .refl _
  refine ⟨((d.buffers.take d.nbufs).eraseIdx i).filterMap (·.dmabuf), ?_, fun b' f => ?_⟩
  · have hself := hput (d.buffers.take d.nbufs)[i]
    rwa [List.set_getElem_self, List.getElem_take] at hself
  · show List.Perm (((d.buffers.set i b').take d.nbufs).filterMap (·.dmabuf)) _
    rw [List.take_set]
    exact hput b'

/-- The device goes on with other dma-bufs, and some are lost. -/
structure Hands (own : List Nat) (k : Kernel) (d : Device) (k' : Kernel) (d' : Device) (lost : List Nat) : Prop where
  fd : d'.fd = d.fd
  trades : ∀ rest, d.fd ∈ rest → Trades own k (d.handles ++ rest) k' (d'.handles ++ (lost ++ rest))

theorem Hands.quiet (hk : Talks d.fd k k') (hfd : d'.fd = d.fd) (hh : d'.handles = d.handles) :
    Hands own k d k' d' [] := by
  refine ⟨hfd, fun rest hrest => ?_⟩
  rw [hh]
  exact hk.trades (List.mem_append_right _ hrest)

theorem Hands.refl (own : List Nat) (k : Kernel) (d : Device) : Hands own k d k d [] := .quiet (.refl _ _) rfl rfl

theorem Hands.trans (h : Hands own k d k₁ d' lost) (h' : Hands own k₁ d' k' d'' lost') :
    Hands own k d k' d'' (lost' ++ lost) := by
  refine ⟨h'.fd.trans h.fd, fun rest hrest => ?_⟩
  rw [List.append_assoc]
  refine (h.trades rest hrest).trans (h'.trades (lost ++ rest) ?_)
  rw [h.fd]
  exact List.mem_append_right _ hrest

theorem Hands.next (h : Hands own k d k₁ d' lost) (hk : Talks d'.fd k₁ k') (hfd : d''.fd = d'.fd)
    (hh : d''.handles = d'.handles) : Hands own k d k' d'' lost := h.trans (.quiet hk hfd hh)

/-- A buffer is written over, which opens or closes its descriptor. -/
theorem Hands.put {i : Nat} {f : File} (hi : i < d.nbufs) (hb : d.buffers[i]? = some b)
    (h : ∀ fds, d.fd ∈ fds → Trades own k (b.dmabuf.toList ++ fds) k' (b'.dmabuf.toList ++ (lost ++ fds))) :
    Hands own k d k' { d with buffers := d.buffers.set i b', file := f } lost := by
  obtain ⟨others, hold, hnew⟩ := handles_at hi hb
  refine ⟨rfl, fun rest hrest => (h (others ++ rest) (List.mem_append_right _ hrest)).perm ?_ ?_⟩
  · rw [← List.append_assoc]
    exact hold.append_right rest
  · have hswap : (lost ++ (others ++ rest)).Perm (others ++ (lost ++ rest)) := by
      rw [← List.append_assoc, ← List.append_assoc]
      exact List.perm_append_comm.append_right rest
    refine (hswap.append_left _).trans ?_
    rw [← List.append_assoc]
    exact (hnew b' f).symm.append_right _

/-! ## What each call does -/

/-- The first `n` buffers hold no dma-buf. -/
def Device.Bare (d : Device) (n : Nat) : Prop := ∀ j < n, ∀ b, d.buffers[j]? = some b → b.dmabuf = none

theorem Device.Bare.handles (h : d.Bare d.nbufs) : d.handles = [] := by
  refine List.filterMap_eq_nil_iff.mpr fun b hb => ?_
  obtain ⟨j, hj, rfl⟩ := List.getElem_of_mem hb
  rw [List.getElem_take]
  rw [List.length_take] at hj
  exact h j (by omega) _ (List.getElem?_eq_getElem (by omega))

theorem Device.Bare.set {i : Nat} {f : File} (h : d.Bare i) (hb : b'.dmabuf = none) :
    Device.Bare { d with buffers := d.buffers.set i b', file := f } (i + 1) := by
  intro j hj b hjb
  have hjb : (d.buffers.set i b')[j]? = some b := hjb
  rw [List.getElem?_set] at hjb
  split at hjb
  · split at hjb
    · cases hjb
      exact hb
    · cases hjb
  · exact h j (by omega) b hjb

theorem releaseBuffers_hands {n : Nat} : ∀ {i : Nat} {k : Kernel} {d : Device}, i + n ≤ d.nbufs →
    releaseBuffers env i n k d = .ok (ret, k', d') → ∀ own,
    Hands own k d k' d' [] ∧ d'.nbufs = d.nbufs ∧ (¬ret < 0 → d.Bare i → d'.Bare (i + n)) := by
  induction n with
  | zero =>
      intro i k d _ h own
      cases h
      exact ⟨.refl _ _ _, rfl, fun _ h => h⟩
  | succ n ih =>
      intro i k d hle h own
      rw [releaseBuffers] at h
      split at h
      · cases h
      · next b hb =>
          -- once the buffer is unmapped its descriptor is closed, and the loop goes on
          have hrest : ∀ {k₁ k₂ : Kernel} {f : File}, Hands own k d k₁ d [] → k₂ = b.dmabuf.elim k₁ k₁.closeFd →
              releaseBuffers env (i + 1) n k₂
                { d with buffers := d.buffers.set i { b with mem := none, dmabuf := none, size := 0 }, file := f } =
                .ok (ret, k', d') →
              Hands own k d k' d' [] ∧ d'.nbufs = d.nbufs ∧ (¬ret < 0 → d.Bare i → d'.Bare (i + (n + 1))) := by
            rintro k₁ k₂ f hk rfl h
            have hclose : Hands own k₁ d (b.dmabuf.elim k₁ k₁.closeFd)
                { d with
                  buffers := d.buffers.set i { b with mem := none, dmabuf := none, size := 0 }
                  file := f } [] := by
              refine .put (by omega) hb fun fds _ => ?_
              cases b.dmabuf with
              | none => exact trades_quiet rfl rfl
              | some fd => exact trades_close_head fd fds k₁
            obtain ⟨hloop, hn, hbare⟩ := ih (by show i + 1 + n ≤ d.nbufs; omega) h own
            refine ⟨(hk.trans hclose).trans hloop, hn, fun hret hi => ?_⟩
            rw [← Nat.add_assoc, Nat.add_right_comm]
            exact hbare hret (hi.set rfl)
          dsimp only at h
          cases hm : b.mem with
          | none =>
              rw [hm] at h
              exact hrest (.refl _ _ _) (by cases b.dmabuf <;> rfl) h
          | some m =>
              rw [hm] at h
              dsimp only at h
              cases hu : env.munmap k.tick d.file i with
              | some e =>
                  rw [hu] at h
                  cases h
                  exact ⟨.quiet (.ask _ _) rfl rfl, rfl, fun hret => absurd e.neg_lt hret⟩
              | none =>
                  rw [hu] at h
                  exact hrest (.quiet (.ask _ _) rfl rfl) (by cases b.dmabuf <;> rfl) h

theorem ioctlReqbufs_hands (own : List Nat) {n : Nat} {r : Except Errno Nat}
    (h : ioctlReqbufs env k d n = (r, k', d')) :
    Hands own k d k' d' [] ∧ d'.nbufs = d.nbufs ∧ d'.handles = d.handles := by
  unfold ioctlReqbufs at h
  dsimp only at h
  split at h
  · cases h
    exact ⟨.quiet (.call _ _) rfl rfl, rfl, rfl⟩
  · split at h
    · cases h
      exact ⟨.quiet (.call _ _) rfl rfl, rfl, rfl⟩
    · cases h
      exact ⟨.quiet (.call _ _) rfl rfl, rfl, rfl⟩

theorem v4l2FreeBuffers_hands (h : v4l2FreeBuffers env k d = .ok (ret, k', d')) : Hands own k d k' d' [] := by
  unfold v4l2FreeBuffers at h
  split at h
  · cases h
    exact .refl _ _ _
  · obtain ⟨⟨ret₁, k₁, d₁⟩, hrel, h⟩ := bind_eq_ok.mp h
    obtain ⟨hloop, hn, hbare⟩ := releaseBuffers_hands (by omega) hrel own
    dsimp only at h
    split at h
    · cases h
      exact hloop
    · next hret =>
        split at h
        · next hreq =>
            cases h
            exact hloop.trans (ioctlReqbufs_hands own hreq).1
        · next k₂ d₂ hreq =>
            cases h
            obtain ⟨hask, -, hsame⟩ := ioctlReqbufs_hands own hreq
            -- the array is given up when no buffer of it holds anything
            have hempty : d₁.handles = [] := by
              refine Device.Bare.handles ?_
              rw [hn, ← Nat.zero_add d.nbufs]
              exact hbare hret fun j hj => absurd hj (Nat.not_lt_zero j)
            refine (hloop.trans hask).next (.refl _ _) rfl ?_
            rw [hsame, hempty]
            exact handles_empty rfl

theorem v4l2AllocBuffers_hands {memtype : Memory} {nbufs : Nat}
    (h : v4l2AllocBuffers env k d memtype nbufs = .ok (ret, k', d')) : Hands own k d k' d' [] := by
  unfold v4l2AllocBuffers at h
  split at h
  · cases h
    exact .refl _ _ _
  · next hidle =>
      split at h
      · cases h
        exact .refl _ _ _
      · split at h
        · next hreq =>
            obtain ⟨⟨r, k₂, d₂⟩, hfree, h⟩ := bind_eq_ok.mp h
            cases h
            exact (ioctlReqbufs_hands own hreq).1.trans (v4l2FreeBuffers_hands hfree)
        · next count k₁ d₁ hreq =>
            obtain ⟨hask, hn, hsame⟩ := ioctlReqbufs_hands own hreq
            have hempty : d₁.handles = [] := handles_empty (by omega)
            split at h
            · obtain ⟨⟨r, k₂, d₂⟩, hfree, h⟩ := bind_eq_ok.mp h
              cases h
              exact hask.trans (v4l2FreeBuffers_hands hfree)
            · split at h
              · obtain ⟨⟨r, k₂, d₂⟩, hfree, h⟩ := bind_eq_ok.mp h
                cases h
                have hnull : Hands own k d k₁.ask { d₁ with memtype := memtype, nbufs := count, buffers := [] } [] := by
                  refine hask.next (.ask _ _) rfl ?_
                  rw [hempty, Device.handles, List.take_nil]
                  rfl
                exact hnull.trans (v4l2FreeBuffers_hands hfree)
              · cases h
                refine hask.next (.ask _ _) rfl ?_
                rw [hempty]
                exact Device.Bare.handles fun j hj b hb => (freshBuffers_getElem? hb).2 hj

theorem ioctlQuerybuf_talks {i : Nat} {r : Except Errno Nat} (h : ioctlQuerybuf env k d i = (r, k')) :
    Talks d.fd k k' := by
  cases h
  exact .call _ _

theorem mmapBuffers_hands {n : Nat} : ∀ {i : Nat} {k : Kernel} {d : Device}, i + n ≤ d.nbufs →
    mmapBuffers env i n k d = .ok (ret, k', d') → Hands own k d k' d' [] := by
  induction n with
  | zero =>
      intro i k d _ h
      cases h
      exact .refl _ _ _
  | succ n ih =>
      intro i k d hle h
      rw [mmapBuffers] at h
      split at h
      · next hquery =>
          cases h
          exact .quiet (ioctlQuerybuf_talks hquery) rfl rfl
      · next hquery =>
          have hcall := ioctlQuerybuf_talks hquery
          split at h
          · cases h
            exact .quiet (hcall.trans (.ask _ _)) rfl rfl
          · split at h
            · cases h
            · next b hb =>
                have hmap := ih (by show i + 1 + n ≤ d.nbufs; omega) h
                refine Hands.trans (.put (by omega) hb fun fds hfds => ?_) hmap
                exact (hcall.trans (.ask _ _)).trades (List.mem_append_right _ hfds)

theorem v4l2MmapBuffers_hands (h : v4l2MmapBuffers env k d = .ok (ret, k', d')) : Hands own k d k' d' [] := by
  unfold v4l2MmapBuffers at h
  split at h
  · cases h
    exact .refl _ _ _
  · exact mmapBuffers_hands (by omega) h

/-! ## Descriptors that are written over -/

/-- A loop that opens a descriptor for one buffer after another, from the `i`-th on, and may give up. -/
inductive Collects : Nat → Kernel → Device → Kernel → Device → Prop where
  | ended {i : Nat} {k : Kernel} {d : Device} {k' : Kernel} (hk : Talks d.fd k k') : Collects i k d k' d
  | one {i : Nat} {k : Kernel} {d : Device} {k₁ k' : Kernel} {d' : Device} {b b' : VideoBuffer} (hk : Talks d.fd k k₁)
      (hi : i < d.nbufs) (hb : d.buffers[i]? = some b) (hfd : b'.dmabuf = some k₁.openFd.1)
      (h : Collects (i + 1) k₁.openFd.2 { d with buffers := d.buffers.set i b' } k' d') : Collects i k d k' d'

theorem mem_handles {x : Nat} :
    x ∈ d.handles ↔ ∃ j b, j < d.nbufs ∧ d.buffers[j]? = some b ∧ b.dmabuf = some x := by
  unfold Device.handles
  rw [List.mem_filterMap]
  constructor
  · rintro ⟨b, hb, hx⟩
    obtain ⟨j, hj⟩ := List.getElem?_of_mem hb
    rw [List.getElem?_take] at hj
    split at hj
    · next hlt => exact ⟨j, b, hlt, hj, hx⟩
    · cases hj
  · rintro ⟨j, b, hj, hb, hx⟩
    refine ⟨b, List.mem_of_getElem? (i := j) ?_, hx⟩
    rw [List.getElem?_take, if_pos hj]
    exact hb

/-- What is lost is of the buffers from the `i`-th on. -/
theorem Collects.spills {i : Nat} (h : Collects i k d k' d') (own : List Nat) :
    ∃ lost, Hands own k d k' d' lost ∧ (∀ x ∈ d.handles, x ∈ d'.handles ∨ x ∈ lost) ∧
      ∀ x ∈ lost, ∃ j b, i ≤ j ∧ j < d.nbufs ∧ d.buffers[j]? = some b ∧ b.dmabuf = some x := by
  induction h with
  | ended hk => exact ⟨[], .quiet hk rfl rfl, fun x hx => .inl hx, fun x hx => by cases hx⟩
  | @one i k d k₁ k' d' b b' hk hi hb hfd h ih =>
      obtain ⟨lost, hrest, hkept, hlost⟩ := ih
      have hone : Hands own k d k₁.openFd.2 { d with buffers := d.buffers.set i b' } b.dmabuf.toList := by
        refine .put hi hb fun fds hfds => (hk.trades (List.mem_append_right _ hfds)).trans ?_
        rw [hfd]
        exact trades_open k₁
      refine ⟨lost ++ b.dmabuf.toList, hone.trans hrest, fun x hx => ?_, fun x hx => ?_⟩
      · obtain ⟨others, hold, hnew⟩ := handles_at hi hb
        rcases List.mem_append.mp (hold.mem_iff.mp hx) with hx | hx
        · exact .inr (List.mem_append_right _ hx)
        · exact (hkept x ((hnew b' d.file).mem_iff.mpr (List.mem_append_right _ hx))).imp_right
            (List.mem_append_left _)
      · rcases List.mem_append.mp hx with hx | hx
        · obtain ⟨j, c, hj, hlt, hc, hcx⟩ := hlost x hx
          refine ⟨j, c, by omega, hlt, ?_, hcx⟩
          rwa [List.getElem?_set_ne (by omega)] at hc
        · exact ⟨i, b, Nat.le_refl i, hi, hb, Option.mem_toList.mp hx⟩

/-- The device has lost what it held before and does not hold any more. -/
theorem Collects.hands {i : Nat} (h : Collects i k d k' d') :
    Hands own k d k' d' (d.handles.filter fun fd => fd ∉ d'.handles) := by
  obtain ⟨lost, hhands, hkept, hlost⟩ := h.spills own
  refine ⟨hhands.fd, fun rest hrest hnd hp => ?_⟩
  obtain ⟨horder, hp'⟩ := hhands.trades rest hrest hnd hp
  have hold := (List.nodup_append.mp (List.nodup_append.mp (hp.nodup_iff.mp hnd)).1).1
  have hnew := (List.nodup_append.mp (hp'.nodup_iff.mp (horder.nodup hnd))).1
  obtain ⟨-, hnd', hdisj⟩ := List.nodup_append.mp hnew
  have hsame : lost.Perm (d.handles.filter fun fd => fd ∉ d'.handles) := by
    refine (List.perm_ext_iff_of_nodup (List.nodup_append.mp hnd').1 (hold.filter _)).mpr fun x => ?_
    rw [List.mem_filter, decide_eq_true_iff]
    constructor
    · intro hx
      obtain ⟨j, b, -, hj, hb, hbx⟩ := hlost x hx
      exact ⟨mem_handles.mpr ⟨j, b, hj, hb, hbx⟩, fun hx' => hdisj x hx' x (List.mem_append_left _ hx) rfl⟩
    · rintro ⟨hx, hx'⟩
      exact (hkept x hx).resolve_left hx'
  exact ⟨horder, hp'.trans (((hsame.append_right rest).append_left _).append_right own)⟩

theorem dupFd_cases {fd? r : Option Nat} (h : dupFd sh k fd? = (r, k')) :
    r = none ∧ k' = k.ask ∨ r = some k.openFd.1 ∧ k' = k.openFd.2 := by
  unfold dupFd at h
  split at h
  · cases h
    exact .inl ⟨rfl, rfl⟩
  · split at h
    · cases h
      exact .inr ⟨rfl, rfl⟩
    · cases h
      exact .inl ⟨rfl, rfl⟩

theorem exportBuffers_collects {n : Nat} : ∀ {i : Nat} {k : Kernel} {d : Device}, i + n ≤ d.nbufs →
    exportBuffers sh i n k d = .ok (ret, k', d') → Collects i k d k' d' := by
  induction n with
  | zero =>
      intro i k d _ h
      cases h
      exact .ended (.refl _ _)
  | succ n ih =>
      intro i k d hle h
      rw [exportBuffers] at h
      dsimp only at h
      split at h
      · cases h
        exact .ended (.call _ _)
      · split at h
        · cases h
        · next b hb =>
            exact .one (.call _ _) (by omega) hb rfl (ih (by show i + 1 + n ≤ d.nbufs; omega) h)

theorem importBuffers_collects {buffers : List VideoBuffer} {n : Nat} : ∀ {i : Nat} {k : Kernel} {d : Device},
    i + n ≤ d.nbufs → importBuffers env sh buffers i n k d = .ok (ret, k', d') → Collects i k d k' d' := by
  induction n with
  | zero =>
      intro i k d _ h
      cases h
      exact .ended (.refl _ _)
  | succ n ih =>
      intro i k d hle h
      rw [importBuffers] at h
      split at h
      · next hquery =>
          cases h
          exact .ended (ioctlQuerybuf_talks hquery)
      · next hquery =>
          have hcall := ioctlQuerybuf_talks hquery
          split at h
          · cases h
          · next src hsrc =>
              split at h
              · cases h
                exact .ended hcall
              · split at h
                · next hdup =>
                    cases h
                    rcases dupFd_cases hdup with ⟨-, rfl⟩ | ⟨hsome, -⟩
                    · exact .ended (hcall.trans (.ask _ _))
                    · cases hsome
                · next hdup =>
                    rcases dupFd_cases hdup with ⟨hnone, -⟩ | ⟨hsome, rfl⟩
                    · cases hnone
                    · split at h
                      · cases h
                      · next b hb =>
                          exact .one hcall (by omega) hb hsome (ih (by show i + 1 + n ≤ d.nbufs; omega) h)

/-- What the device held and neither holds nor has closed. -/
def Device.spilt (d d' : Device) : List Nat := d.handles.filter fun fd => fd ∉ d'.handles

theorem filter_notMem_self (l : List Nat) : (l.filter fun x => x ∉ l) = [] := by
  refine List.filter_eq_nil_iff.mpr fun x hx => ?_
  rw [decide_eq_true_iff]
  exact fun hno => hno hx

theorem Hands.self (own : List Nat) (k : Kernel) (d : Device) : Hands own k d k d (d.spilt d) := by
  unfold Device.spilt
  rw [filter_notMem_self]
  exact .refl own k d

theorem v4l2ExportBuffers_hands (h : v4l2ExportBuffers sh k d = .ok (ret, k', d')) :
    Hands own k d k' d' (d.spilt d') := by
  unfold v4l2ExportBuffers at h
  split at h
  · cases h
    exact .self own k d
  · split at h
    · cases h
      exact .self own k d
    · exact (exportBuffers_collects (by omega) h).hands

theorem v4l2ImportBuffers_hands {nbufs : Nat} {buffers : List VideoBuffer}
    (h : v4l2ImportBuffers env sh k d nbufs buffers = .ok (ret, k', d')) : Hands own k d k' d' (d.spilt d') := by
  unfold v4l2ImportBuffers at h
  split at h
  · cases h
    exact .self own k d
  · split at h
    · cases h
      exact .self own k d
    · exact (importBuffers_collects (by omega) h).hands

/-! ## Returning -/

theorem exportBuffers_ends {F : Fault → Prop} (sh : Sharing) {n : Nat} : ∀ (i : Nat) (k : Kernel) (d : Device),
    i + n ≤ d.buffers.length →
    Ends (fun r => r.2.2.nbufs = d.nbufs ∧ r.2.2.buffers.length = d.buffers.length) F (exportBuffers sh i n k d) := by
  induction n with
  | zero => intro i k d _; exact .ok ⟨rfl, rfl⟩
  | succ n ih =>
      intro i k d hlen
      rw [exportBuffers]
      have hi : i < d.buffers.length := by omega
      rw [List.getElem?_eq_getElem hi]
      dsimp only
      split
      · exact .ok ⟨rfl, rfl⟩
      · refine (ih (i + 1) _ _ ?_).mono fun r hr => ⟨hr.1, hr.2.trans List.length_set⟩
        show i + 1 + n ≤ (d.buffers.set i _).length
        rw [List.length_set]
        omega

theorem importBuffers_ends {F : Fault → Prop} (env : Env) (sh : Sharing) {buffers : List VideoBuffer} {n : Nat} :
    ∀ (i : Nat) (k : Kernel) (d : Device), i + n ≤ d.buffers.length → i + n ≤ buffers.length →
    Ends (fun r => r.2.2.nbufs = d.nbufs ∧ r.2.2.buffers.length = d.buffers.length) F
      (importBuffers env sh buffers i n k d) := by
  induction n with
  | zero => intro i k d _ _; exact .ok ⟨rfl, rfl⟩
  | succ n ih =>
      intro i k d hlen hsrc
      rw [importBuffers]
      have hi : i < d.buffers.length := by omega
      have hi' : i < buffers.length := by omega
      rw [List.getElem?_eq_getElem hi, List.getElem?_eq_getElem hi']
      dsimp only
      split
      · exact .ok ⟨rfl, rfl⟩
      · split
        · exact .ok ⟨rfl, rfl⟩
        · split
          · exact .ok ⟨rfl, rfl⟩
          · refine (ih (i + 1) _ _ ?_ (by omega)).mono fun r hr => ⟨hr.1, hr.2.trans List.length_set⟩
            show i + 1 + n ≤ (d.buffers.set i _).length
            rw [List.length_set]
            omega

end Uvcd
