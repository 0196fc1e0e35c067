import Uvcd.Refinement.Devices

/-!
# `Refinement.Buffers` — what a driver holds for the program

`Device.Tracked` says that the buffers mapped by the program are those the kernel has mapped for it.
`Drives` is what the calls on an open device keep: they are `ioctl`s on its descriptor, and buffers stay
tracked; `Works` adds that the format the program remembers stays, which only `v4l2_set_format` changes.

What allocating and releasing buffers comes to is said once, by the driver's answers: `Allocates` for
`v4l2_alloc_buffers`, `Frees` for `v4l2_free_buffers`. `Device.Granted` is the driver's consent to a release.
-/

namespace Uvcd

open Machine

variable {env : Env} {k k' k'' : Kernel} {d d' d'' : Device}

/-! ## Calls on an open device -/

/-- Between `k` and `k'` the program calls nothing but `ioctl` on `fd`. -/
structure Talks (fd : Nat) (k k' : Kernel) : Prop where
  trace : ∃ n, k'.trace = k.trace ++ List.replicate n (.ioctl fd)
  opened : k'.opened = k.opened

theorem Talks.refl (fd : Nat) (k : Kernel) : Talks fd k k := ⟨⟨0, by simp⟩, rfl⟩

theorem Talks.trans {fd : Nat} (h : Talks fd k k') (h' : Talks fd k' k'') : Talks fd k k'' := by
  obtain ⟨n, hn⟩ := h.trace
  obtain ⟨m, hm⟩ := h'.trace
  exact ⟨⟨n + m, by rw [hm, hn, List.append_assoc, List.replicate_append_replicate]⟩,
    h'.opened.trans h.opened⟩

theorem Talks.call (fd : Nat) (k : Kernel) : Talks fd k (k.call (.ioctl fd)) := ⟨⟨1, rfl⟩, rfl⟩

theorem Talks.ask (fd : Nat) (k : Kernel) : Talks fd k k.ask := ⟨⟨0, by simp [Kernel.ask]⟩, rfl⟩

theorem Chats.talks {fd : Nat} (h : Chats fd k k') : Talks fd k k' := by
  induction h with
  | refl => exact .refl _ _
  | call _ ih => exact ih.trans (.call _ _)
  | ask _ ih => exact ih.trans (.ask _ _)

/-- The program and the kernel agree on what is mapped. -/
structure Device.Tracked (d : Device) : Prop where
  mapped : ∀ i, i ∈ d.file.mapped ↔ i < d.nbufs ∧ ∃ b, d.buffers[i]? = some b ∧ b.mem.isSome = true
  nodup : d.file.mapped.Nodup

/-- A device without buffers has nothing mapped. -/
theorem Device.Tracked.idle (h : d.Tracked) (h0 : d.nbufs = 0) : d.file.mapped = [] := by
  rw [List.eq_nil_iff_forall_not_mem]
  intro i hi
  have := ((h.mapped i).mp hi).1
  omega

/-- **What every call on an open device keeps.** -/
structure Drives (k : Kernel) (d : Device) (k' : Kernel) (d' : Device) : Prop where
  talks : Talks d.fd k k'
  fd : d'.fd = d.fd
  tracked : d.Tracked → d'.Tracked

/-- The calls that are not about the format. -/
structure Works (k : Kernel) (d : Device) (k' : Kernel) (d' : Device) : Prop extends Drives k d k' d' where
  format : d'.format = d.format

theorem Drives.refl (k : Kernel) (d : Device) : Drives k d k d := ⟨.refl _ k, rfl, id⟩

theorem Drives.trans (h : Drives k d k' d') (h' : Drives k' d' k'' d'') : Drives k d k'' d'' := by
  refine ⟨h.talks.trans ?_, h'.fd.trans h.fd, fun ht => h'.tracked (h.tracked ht)⟩
  rw [← h.fd]
  exact h'.talks

theorem Works.refl (k : Kernel) (d : Device) : Works k d k d := ⟨.refl k d, rfl⟩

theorem Works.trans (h : Works k d k' d') (h' : Works k' d' k'' d'') : Works k d k'' d'' :=
  ⟨h.toDrives.trans h'.toDrives, h'.format.trans h.format⟩

theorem Works.call (k : Kernel) (d : Device) : Works k d (k.call (.ioctl d.fd)) d :=
  ⟨⟨.call _ k, rfl, id⟩, rfl⟩

theorem Works.ask (k : Kernel) (d : Device) : Works k d k.ask d := ⟨⟨.ask _ k, rfl, id⟩, rfl⟩

/-- Changes that stay clear of the buffers and of what is mapped. -/
theorem Works.of_eq (ht : Talks d.fd k k') (hfd : d'.fd = d.fd) (hf : d'.format = d.format)
    (hn : d'.nbufs = d.nbufs) (hb : d'.buffers = d.buffers) (hm : d'.file.mapped = d.file.mapped) :
    Works k d k' d' :=
  ⟨⟨ht, hfd, fun h => ⟨by rw [hn, hb, hm]; exact h.mapped, by rw [hm]; exact h.nodup⟩⟩, hf⟩

/-- Overwriting a buffer in place, mapped if it was. -/
theorem Works.set {i : Nat} {b b' : VideoBuffer} (hb : d.buffers[i]? = some b)
    (hmem : b'.mem.isSome = b.mem.isSome) (k : Kernel) :
    Works k d k { d with buffers := d.buffers.set i b' } := by
  refine ⟨⟨.refl _ k, rfl, fun h => ⟨fun j => (h.mapped j).trans (and_congr_right fun _ => ?_), h.nodup⟩⟩, rfl⟩
  show _ ↔ ∃ c, (d.buffers.set i b')[j]? = some c ∧ _
  rw [List.getElem?_set]
  by_cases hij : i = j
  · subst hij
    have hlt := (List.getElem?_eq_some_iff.mp hb).1
    simp only [hlt, if_true, hb, Option.some.injEq, exists_eq_left']
    rw [hmem]
  · rw [if_neg hij]

/-! ## The calls -/

theorem v4l2SetFormat_drives {fmt fmt' : PixFormat} {ret : Int}
    (h : v4l2SetFormat env k d fmt = (ret, fmt', k', d')) : Drives k d k' d' := by
  have hset : Talks d.fd k (ioctlSFmt env k d ⟨fmt.width, fmt.height, fmt.pixelformat, PixFormat.FIELD_ANY, 0⟩).2 := by
    unfold ioctlSFmt
    split
    · exact .call _ k
    · exact ⟨⟨1, rfl⟩, rfl⟩
  have hget : ∀ k₁, Talks d.fd k₁ (ioctlGFmt env k₁ d).2 := fun k₁ => by
    unfold ioctlGFmt
    split <;> exact .call _ k₁
  obtain ⟨-, hd, -⟩ := v4l2SetFormat_spec h
  have htalks : Talks d.fd k k' := by
    unfold v4l2SetFormat at h
    dsimp only at h
    split at h
    · next k₁ hs => cases h; rw [hs] at hset; exact hset
    · next k₁ hs =>
        rw [hs] at hset
        have hget₁ := hget k₁
        split at h
        · next k₂ hg => cases h; rw [hg] at hget₁; exact hset.trans hget₁
        · next pix k₂ hg =>
            rw [hg] at hget₁
            repeat' split at h
            all_goals cases h; exact hset.trans hget₁
  rw [hd]
  exact ⟨htalks, rfl, fun ht => ⟨ht.mapped, ht.nodup⟩⟩

theorem v4l2StreamOn_works {ret : Int} (h : v4l2StreamOn env k d = (ret, k', d')) : Works k d k' d' := by
  unfold v4l2StreamOn at h
  dsimp only at h
  split at h
  · cases h; exact .call k d
  · cases h; exact .of_eq (.call _ k) rfl rfl rfl rfl rfl

theorem v4l2StreamOff_works {ret : Int} (h : v4l2StreamOff env k d = (ret, k', d')) : Works k d k' d' := by
  unfold v4l2StreamOff at h
  dsimp only at h
  split at h
  · cases h; exact .call k d
  · cases h; exact .of_eq (.call _ k) rfl rfl rfl rfl rfl

theorem v4l2QueueBuffer_works {b : VideoBuffer} {ret : Int}
    (h : v4l2QueueBuffer env k d b = (ret, k', d')) : Works k d k' d' := by
  unfold v4l2QueueBuffer at h
  split at h
  · cases h; exact .refl k d
  · dsimp only at h
    split at h
    · cases h; exact .call k d
    · cases h; exact .of_eq (.call _ k) rfl rfl rfl rfl rfl

theorem v4l2DequeueBuffer_works {r : Except Errno VideoBuffer}
    (h : v4l2DequeueBuffer env k d = .ok (r, k', d')) : Works k d k' d' := by
  unfold v4l2DequeueBuffer at h
  dsimp only at h
  split at h
  · cases h; exact .call k d
  · split at h
    · cases h
    · next b hb =>
        cases h
        refine ((Works.call k d).trans (Works.set hb ?_ _)).trans (.of_eq (.refl _ _) rfl rfl rfl rfl rfl)
        dsimp only
        split
        · rw [Option.isSome_map]
        · rfl

/-! ## Releasing buffers -/

def File.unmap (file : File) (i : Nat) : File := { file with mapped := file.mapped.erase i }

/-- The mapped ones of the `n` buffers from `i` on. -/
def Device.heldFrom (d : Device) (i n : Nat) : List Nat :=
  (List.range' i n).filter fun j => ((d.buffers[j]?).bind (·.mem)).isSome

/-- From call `t` on the driver lets go of the buffers of `is`, and then of all it has allocated. -/
def Grants (env : Env) : List Nat → File → Nat → Prop
  | [], file, t => ∃ n, env.reqbufs t file 0 = .ok n
  | i :: is, file, t => env.munmap t file i = none ∧ Grants env is (file.unmap i) (t + 1)

/-- **The driver's consent to a release**: it needs none when there are no buffers. -/
def Device.Granted (env : Env) (t : Nat) (d : Device) : Prop :=
  d.nbufs = 0 ∨ Grants env (d.heldFrom 0 d.nbufs) d.file t

/-- A driver that always consents. -/
def ReleasesSucceed (env : Env) : Prop :=
  (∀ t file i, env.munmap t file i = none) ∧ ∀ t file, ∃ n, env.reqbufs t file 0 = .ok n

theorem ReleasesSucceed.grants (h : ReleasesSucceed env) (is : List Nat) (file : File) (t : Nat) :
    Grants env is file t := by
  induction is generalizing file t with
  | nil => exact h.2 t file
  | cons i is ih => exact ⟨h.1 t file i, ih _ _⟩

theorem ReleasesSucceed.granted (h : ReleasesSucceed env) (t : Nat) (d : Device) : d.Granted env t :=
  .inr (h.grants _ _ _)

theorem Device.heldFrom_set {i j n : Nat} {b : VideoBuffer} {f : File} (hij : i < j) :
    ({ d with buffers := d.buffers.set i b, file := f } : Device).heldFrom j n = d.heldFrom j n := by
  unfold Device.heldFrom
  refine List.filter_congr fun x hx => ?_
  have hx := (List.mem_range'_1.mp hx).1
  show (((d.buffers.set i b)[x]?).bind (·.mem)).isSome = _
  rw [List.getElem?_set_ne (by omega)]

theorem Device.heldFrom_mapped {i n : Nat} {b : VideoBuffer} {m : Bytes} (hb : d.buffers[i]? = some b)
    (hm : b.mem = some m) : d.heldFrom i (n + 1) = i :: d.heldFrom (i + 1) n := by
  unfold Device.heldFrom
  rw [List.range'_succ, List.filter_cons_of_pos (by rw [hb]; simp [hm])]

theorem Device.heldFrom_unmapped {i n : Nat} {b : VideoBuffer} (hb : d.buffers[i]? = some b)
    (hm : b.mem = none) : d.heldFrom i (n + 1) = d.heldFrom (i + 1) n := by
  unfold Device.heldFrom
  rw [List.range'_succ, List.filter_cons_of_neg (by rw [hb]; simp [hm])]

/-- Unmapping one buffer on both sides. -/
theorem Works.unmap {i : Nat} {b : VideoBuffer} (hb : d.buffers[i]? = some b) (k : Kernel) :
    Works k d k { d with
      buffers := d.buffers.set i { b with mem := none, dmabuf := none, size := 0 }
      file := d.file.unmap i } := by
  refine ⟨⟨.refl _ k, rfl, fun h => ⟨fun j => ?_, h.nodup.erase i⟩⟩, rfl⟩
  show j ∈ d.file.mapped.erase i ↔ _ ∧ ∃ c, (d.buffers.set i _)[j]? = some c ∧ _
  rw [h.nodup.mem_erase_iff, h.mapped, List.getElem?_set]
  have hlt := (List.getElem?_eq_some_iff.mp hb).1
  by_cases hij : i = j
  · subst hij
    simp [hlt]
  · rw [if_neg hij]
    exact ⟨fun h => h.2, fun h => ⟨Ne.symm hij, h⟩⟩

/-- The release loop: it runs to its end as far as the driver lets go of the buffers. -/
theorem releaseBuffers_cases {n : Nat} : ∀ {i : Nat} {k : Kernel} {d : Device} {ret : Int},
    d.Plain → i + n ≤ d.nbufs → releaseBuffers env i n k d = .ok (ret, k', d') →
    Works k d k' d' ∧ d'.nbufs = d.nbufs ∧
      ((ret = 0 ∧ (∀ j b, i ≤ j → j < i + n → d'.buffers[j]? = some b → b.mem = none) ∧
          (∀ j, j < i → d'.buffers[j]? = d.buffers[j]?) ∧
          (Grants env (d.heldFrom i n) d.file k.tick ↔ ∃ m, env.reqbufs k'.tick d'.file 0 = .ok m)) ∨
        (ret < 0 ∧ ¬Grants env (d.heldFrom i n) d.file k.tick)) := by
  induction n with
  | zero =>
      intro i k d ret hp _ h
      cases h
      exact ⟨.refl _ _, rfl, .inl ⟨rfl, fun j b _ _ _ => by omega, fun _ _ => rfl, Iff.rfl⟩⟩
  | succ n ih =>
      intro i k d ret hp hle h
      rw [releaseBuffers] at h
      split at h
      · cases h
      · next b hb =>
          have hdma : b.dmabuf = none := hp i (by omega) b hb
          -- the buffer is given up, the loop goes on with the ones behind it
          have hrest : ∀ {k₁ : Kernel} {f : File}, f = d.file ∨ f = d.file.unmap i →
              Works k d k₁ { d with
                buffers := d.buffers.set i { b with mem := none, dmabuf := none, size := 0 }, file := f } →
              (Grants env (d.heldFrom i (n + 1)) d.file k.tick ↔
                Grants env (d.heldFrom (i + 1) n) f k₁.tick) →
              releaseBuffers env (i + 1) n k₁ { d with
                buffers := d.buffers.set i { b with mem := none, dmabuf := none, size := 0 }
                file := f } = .ok (ret, k', d') →
              Works k d k' d' ∧ d'.nbufs = d.nbufs ∧
                ((ret = 0 ∧ (∀ j b, i ≤ j → j < i + (n + 1) → d'.buffers[j]? = some b → b.mem = none) ∧
                    (∀ j, j < i → d'.buffers[j]? = d.buffers[j]?) ∧
                    (Grants env (d.heldFrom i (n + 1)) d.file k.tick ↔
                      ∃ m, env.reqbufs k'.tick d'.file 0 = .ok m)) ∨
                  (ret < 0 ∧ ¬Grants env (d.heldFrom i (n + 1)) d.file k.tick)) := by
            intro k₁ f hf hw hgr hrel
            have hp₁ : ({ d with
                buffers := d.buffers.set i { b with mem := none, dmabuf := none, size := 0 }
                file := f } : Device).Plain := by
              refine (@Steady.set env k d hp i b _ f hb (fun _ => rfl) (fun _ hm => by cases hm) ?_ ?_).plain
              · rcases hf with rfl | rfl <;> rfl
              · rcases hf with rfl | rfl <;> rfl
            obtain ⟨hw', hn', hcase⟩ := ih hp₁ (by show i + 1 + n ≤ d.nbufs; omega) hrel
            have hlt := (List.getElem?_eq_some_iff.mp hb).1
            have hheld := Device.heldFrom_set (d := d) (n := n) (f := f)
              (b := { b with mem := none, dmabuf := none, size := 0 }) (Nat.lt_succ_self i)
            rw [hheld] at hcase
            refine ⟨hw.trans hw', hn', ?_⟩
            rcases hcase with ⟨hret, hnone, hold, hiff⟩ | ⟨hret, hno⟩
            · refine .inl ⟨hret, fun j c hj hj' hc => ?_, fun j hj => ?_, hgr.trans hiff⟩
              · by_cases hij : j = i
                · subst hij
                  have hset := (hold j (Nat.lt_succ_self j)).symm.trans hc
                  have hset : (d.buffers.set j { b with mem := none, dmabuf := none, size := 0 })[j]?
                      = some c := hset
                  rw [List.getElem?_set_self hlt] at hset
                  cases hset; rfl
                · exact hnone j c (by omega) (by omega) hc
              · rw [hold j (by omega)]
                show (d.buffers.set i _)[j]? = _
                rw [List.getElem?_set_ne (by omega)]
            · exact .inr ⟨hret, fun h => hno (hgr.mp h)⟩
          dsimp only at h
          cases hm : b.mem with
          | none =>
              rw [hm] at h
              dsimp only at h
              rw [hdma] at h
              refine hrest (.inl rfl) (Works.set hb (by rw [hm]) k) ?_ h
              rw [Device.heldFrom_unmapped hb hm]
          | some m =>
              rw [hm] at h
              dsimp only at h
              cases hu : env.munmap k.tick d.file i with
              | some e =>
                  rw [hu] at h
                  cases h
                  refine ⟨.ask _ _, rfl, .inr ⟨e.neg_lt, fun hg => ?_⟩⟩
                  rw [Device.heldFrom_mapped hb hm, Grants, hu] at hg
                  cases hg.1
              | none =>
                  rw [hu] at h
                  dsimp only at h
                  rw [hdma] at h
                  refine hrest (.inr rfl) ((Works.ask k d).trans (Works.unmap hb _)) ?_ h
                  rw [Device.heldFrom_mapped hb hm, Grants, hu]
                  exact ⟨fun hg => hg.2, fun hg => ⟨rfl, hg⟩⟩

/-- Neither the program nor the driver has any buffers. -/
structure Device.Released (d : Device) : Prop where
  nbufs : d.nbufs = 0
  count : d.file.count = 0
  mapped : d.file.mapped = []
  streaming : d.file.streaming = false

/-- **What `v4l2_free_buffers` does**, by the driver's answers. -/
inductive Frees (env : Env) (k : Kernel) (d : Device) : Int → Kernel → Device → Prop
  | idle (h0 : d.nbufs = 0) : Frees env k d 0 k d
  | freed {k' : Kernel} {d' : Device} (hn : d.nbufs ≠ 0) (hg : d.Granted env k.tick)
      (hfree : d.Tracked → d'.Released) : Frees env k d 0 k' d'
  | refused {ret : Int} {k' : Kernel} {d' : Device} (hn : d.nbufs ≠ 0) (hno : ¬d.Granted env k.tick)
      (hret : ret < 0) (hn' : d'.nbufs = d.nbufs) : Frees env k d ret k' d'

theorem ioctlReqbufs_works {r : Except Errno Nat} (h : ioctlReqbufs env k d 0 = (r, k', d')) :
    Works k d k' d' ∧ d'.nbufs = d.nbufs ∧ d'.buffers = d.buffers ∧ d'.file.mapped = d.file.mapped ∧
      ((∃ e, r = .error e ∧ env.reqbufs k.tick d.file 0 = .error e) ∨
        (r = .ok 0 ∧ (∃ n, env.reqbufs k.tick d.file 0 = .ok n) ∧ d'.file.count = 0 ∧
          d'.file.streaming = false)) := by
  unfold ioctlReqbufs at h
  dsimp only at h
  split at h
  · next e he => cases h; exact ⟨.call _ _, rfl, rfl, rfl, .inl ⟨e, rfl, he⟩⟩
  · next n hn =>
      rw [if_pos rfl] at h
      cases h
      exact ⟨.of_eq (.call _ k) rfl rfl rfl rfl rfl, rfl, rfl, rfl, .inr ⟨rfl, ⟨n, hn⟩, rfl, rfl⟩⟩

theorem v4l2FreeBuffers_frees (hp : d.Plain) {ret : Int} (h : v4l2FreeBuffers env k d = .ok (ret, k', d')) :
    Works k d k' d' ∧ Frees env k d ret k' d' := by
  unfold v4l2FreeBuffers at h
  split at h
  · next h0 => cases h; exact ⟨.refl _ _, .idle h0⟩
  · next hn =>
      obtain ⟨⟨ret₁, k₁, d₁⟩, hrel, h⟩ := bind_eq_ok.mp h
      obtain ⟨hw₁, hn₁, hcase⟩ := releaseBuffers_cases hp (by omega) hrel
      have hgranted : d.Granted env k.tick ↔ Grants env (d.heldFrom 0 d.nbufs) d.file k.tick :=
        or_iff_right hn
      dsimp only at h
      rcases hcase with ⟨hret₁, hnone, -, hiff⟩ | ⟨hret₁, hno⟩
      · rw [if_neg (by omega)] at h
        generalize hreq : ioctlReqbufs env k₁ d₁ 0 = res at h
        obtain ⟨r, k₂, d₂⟩ := res
        obtain ⟨hw₂, hn₂, hb₂, hm₂, hcase₂⟩ := ioctlReqbufs_works hreq
        have hw := hw₁.trans hw₂
        rcases hcase₂ with ⟨e, rfl, he⟩ | ⟨rfl, hok, hcount, hoff⟩
        · cases h
          refine ⟨hw, .refused hn (fun hg => ?_) e.neg_lt (hn₂.trans hn₁)⟩
          obtain ⟨m, hm⟩ := hiff.mp (hgranted.mp hg)
          rw [he] at hm; cases hm
        · cases h
          -- all buffers are unmapped by now
          have hempty : d.Tracked → d₂.file.mapped = [] := fun ht => by
            rw [hm₂, List.eq_nil_iff_forall_not_mem]
            intro j hj
            obtain ⟨hlt, b, hb, hsome⟩ := ((hw₁.tracked ht).mapped j).mp hj
            rw [hnone j b (Nat.zero_le j) (by omega) hb] at hsome
            cases hsome
          refine ⟨⟨⟨hw.talks, hw.fd, fun ht => ⟨fun i => ?_, ?_⟩⟩, hw.format⟩,
            .freed hn (hgranted.mpr (hiff.mpr hok)) fun ht => ⟨rfl, hcount, hempty ht, hoff⟩⟩
          · show i ∈ d₂.file.mapped ↔ i < 0 ∧ _
            rw [hempty ht]
            simp
          · show d₂.file.mapped.Nodup
            rw [hempty ht]
            exact List.nodup_nil
      · rw [if_pos hret₁] at h
        cases h
        exact ⟨hw₁, .refused hn (fun hg => hno (hgranted.mp hg)) hret₁ hn₁⟩

/-! ## Allocating buffers -/

/-- What `v4l2_alloc_buffers` leaves of the file when the driver gives `n` buffers. -/
def File.allocated (file : File) (n : Nat) (reqfmt : PixFormat) : File :=
  { file with count := n, reqfmt := reqfmt, queued := [] }

/-- **What `v4l2_alloc_buffers` does** for `n` mapped buffers, by the driver's answer. -/
inductive Allocates (env : Env) (k : Kernel) (d : Device) (n : Nat) : Int → Kernel → Device → Prop
  | busy (hn : d.nbufs ≠ 0) : Allocates env k d n Errno.EBUSY.neg k d
  | refused {e : Errno} {k' : Kernel} (h0 : d.nbufs = 0) (hreq : env.reqbufs k.tick d.file n = .error e) :
      Allocates env k d n e.neg k' d
  /-- the driver has allocated more buffers than it was asked for, and keeps them -/
  | surplus {m : Nat} {k' : Kernel} {f : PixFormat} (h0 : d.nbufs = 0)
      (hreq : env.reqbufs k.tick d.file n = .ok m) (hm : n < m) :
      Allocates env k d n Errno.E2BIG.neg k' { d with file := d.file.allocated m f }
  | nomem {k' : Kernel} {f : PixFormat} (h0 : d.nbufs = 0) (hreq : env.reqbufs k.tick d.file n = .ok 0)
      (hno : env.malloc (k.tick + 1) = false) :
      Allocates env k d n Errno.ENOMEM.neg k'
        { d with memtype := .mmap, nbufs := 0, buffers := [], file := d.file.allocated 0 f }
  | ok {m : Nat} {k' : Kernel} (h0 : d.nbufs = 0) (hreq : env.reqbufs k.tick d.file n = .ok m) (hm : m ≤ n)
      (hmem : env.malloc (k.tick + 1) = true) (ht : k'.tick = k.tick + 2) :
      Allocates env k d n 0 k'
        { d with
          memtype := .mmap, nbufs := m, buffers := freshBuffers n m
          file := d.file.allocated m (k.inforce d.file.dev) }

/-- A new array has nothing mapped. -/
theorem Works.allocated (h0 : d.nbufs = 0) {m : Nat} {bs : List VideoBuffer} {f : PixFormat} {mt : Memory}
    (hbs : ∀ (i : Nat) (b : VideoBuffer), bs[i]? = some b → b.mem = none) (ht : Talks d.fd k k') :
    Works k d k' { d with memtype := mt, nbufs := m, buffers := bs, file := d.file.allocated m f } := by
  refine ⟨⟨ht, rfl, fun htr => ⟨fun i => ?_, htr.nodup⟩⟩, rfl⟩
  show i ∈ d.file.mapped ↔ i < m ∧ ∃ b, bs[i]? = some b ∧ _
  rw [htr.idle h0]
  constructor
  · intro hi; cases hi
  · rintro ⟨-, b, hb, hsome⟩
    rw [hbs i b hb] at hsome; cases hsome

theorem v4l2AllocBuffers_allocates {n : Nat} (hn : n ≠ 0) {ret : Int}
    (h : v4l2AllocBuffers env k d .mmap n = .ok (ret, k', d')) :
    Works k d k' d' ∧ Allocates env k d n ret k' d' := by
  unfold v4l2AllocBuffers at h
  split at h
  · next hbusy => cases h; exact ⟨.refl _ _, .busy hbusy⟩
  · next h0 =>
      have h0 : d.nbufs = 0 := not_not.mp h0
      -- there is nothing to free
      have hidle : ∀ {k₁ : Kernel} {d₁ : Device}, d₁.nbufs = 0 → v4l2FreeBuffers env k₁ d₁ = .ok (0, k₁, d₁) :=
        fun h => by unfold v4l2FreeBuffers; rw [if_pos h]
      rw [if_neg (by simp)] at h
      unfold ioctlReqbufs at h
      dsimp only at h
      cases hreq : env.reqbufs k.tick d.file n with
      | error e =>
          rw [hreq] at h
          dsimp only at h
          rw [hidle h0] at h
          cases h
          exact ⟨.call _ _, .refused h0 hreq⟩
      | ok m =>
          rw [hreq] at h
          dsimp only at h
          rw [if_neg hn] at h
          dsimp only at h
          split at h
          · next hm =>
              obtain ⟨r, hr, h⟩ := bind_eq_ok.mp h
              cases hr.symm.trans (hidle h0)
              cases h
              refine ⟨⟨⟨.call _ k, rfl, fun ht => ⟨?_, ht.nodup⟩⟩, rfl⟩, .surplus h0 hreq hm⟩
              exact ht.mapped
          · next hm =>
              split at h
              · next hmal =>
                -- the array is the null pointer: releasing it faults unless there is nothing to release
                cases m with
                | zero =>
                    rw [hidle rfl] at h
                    cases h
                    exact ⟨.allocated h0 (fun i b hb => by cases hb) ((Talks.call _ k).trans (.ask _ _)),
                      .nomem h0 hreq (by simpa [Kernel.call] using hmal)⟩
                | succ m =>
                    exfalso
                    unfold v4l2FreeBuffers at h
                    rw [if_neg (by simp)] at h
                    rw [releaseBuffers] at h
                    cases h
              · next hmal =>
                cases h
                exact ⟨.allocated h0 (fun i b hb => (freshBuffers_getElem? hb).1)
                  ((Talks.call _ k).trans (.ask _ _)), .ok h0 hreq (by omega) (by simpa [Kernel.call] using hmal) rfl⟩

end Uvcd
