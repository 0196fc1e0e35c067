import Uvcd.Refinement.Buffers
import Uvcd.Refinement.Captures
import Uvcd.Refinement.Gadgets

/-!
# `Refinement.Starting` — how a stream gets its buffers

`uvc_video_stream (1)` and `v4l_video_stream (1)` both allocate buffers, map them and queue them, and release
them when a step fails. `acquire` is what they do up to that release, with the queueing as a parameter;
`uvcVideoStart_eq` and `v4lVideoStart_eq` show that each of them is `acquire` followed by the release.
-/

namespace Uvcd

open Machine

variable {env : Env} {k k' : Kernel} {d d' : Device} {g : Gadget}

/-! ## Mapping -/

def File.map (file : File) (i : Nat) : File := { file with mapped := file.mapped ++ [i] }
def File.enqueue (file : File) (i : Nat) : File := { file with queued := file.queued ++ [i] }

/-- From call `t` on the driver describes and maps one after the other of the `n` buffers from `i` on. -/
def Maps (env : Env) : Nat → Nat → File → Nat → Prop
  | _, 0, _, _ => True
  | i, n + 1, file, t => (∃ length, env.querybuf t file i = .ok length) ∧ env.mmap (t + 1) file i = none ∧
      Maps env (i + 1) n (file.map i) (t + 2)

/-- From call `t` on the driver takes one after the other of the `n` buffers from `i` on. -/
def Takes (env : Env) : Nat → Nat → File → Nat → Prop
  | _, 0, _, _ => True
  | i, n + 1, file, t => env.qbuf t file i = none ∧ Takes env (i + 1) n (file.enqueue i) (t + 1)

/-- What mapping and queueing leave alone. -/
structure Device.Handled (d d' : Device) : Prop where
  nbufs : d'.nbufs = d.nbufs
  count : d'.file.count = d.file.count
  memtype : d'.memtype = d.memtype
  objects : ∀ j : Nat, (d'.buffers[j]?).map (fun b => (b.index, b.dmabuf))
    = (d.buffers[j]?).map fun b => (b.index, b.dmabuf)

theorem Device.Handled.refl (d : Device) : d.Handled d := ⟨rfl, rfl, rfl, fun _ => rfl⟩

theorem Device.Handled.trans {d'' : Device} (h : d.Handled d') (h' : d'.Handled d'') : d.Handled d'' :=
  ⟨h'.nbufs.trans h.nbufs, h'.count.trans h.count, h'.memtype.trans h.memtype,
    fun j => (h'.objects j).trans (h.objects j)⟩

theorem Device.Handled.plain (h : d.Handled d') (hp : d.Plain) : d'.Plain := by
  intro j hj b' hb'
  have hobj := h.objects j
  rw [hb'] at hobj
  cases hb : d.buffers[j]? with
  | none => rw [hb] at hobj; cases hobj
  | some b =>
      rw [hb] at hobj
      have heq : b'.dmabuf = b.dmabuf := congrArg Prod.snd (Option.some.inj hobj)
      exact heq.trans (hp j (h.nbufs ▸ hj) b hb)

/-- Overwriting a buffer of the array with one of the same index. -/
theorem Device.Handled.set {i : Nat} {b b' : VideoBuffer} {f : File} (hb : d.buffers[i]? = some b)
    (hi : b'.index = b.index) (hdma : b'.dmabuf = b.dmabuf) (hc : f.count = d.file.count) :
    d.Handled { d with buffers := d.buffers.set i b', file := f } := by
  refine ⟨rfl, hc, rfl, fun j => ?_⟩
  show ((d.buffers.set i b')[j]?).map _ = _
  rw [List.getElem?_set]
  split
  · next hij =>
      subst hij
      have hlt := (List.getElem?_eq_some_iff.mp hb).1
      rw [if_pos hlt, hb]
      exact congrArg some (Prod.ext hi hdma)
  · rfl

/-- Mapping one more buffer on both sides. -/
theorem Works.map {i : Nat} {b : VideoBuffer} {mem : Bytes} {size : Nat} (hb : d.buffers[i]? = some b)
    (hm : b.mem = none) (hi : i < d.nbufs) (k : Kernel) :
    Works k d k { d with
      buffers := d.buffers.set i { b with mem := some mem, size := size }
      file := { d.file with mapped := d.file.mapped ++ [i] } } := by
  refine ⟨⟨.refl _ k, rfl, fun h => ⟨fun j => ?_, ?_⟩⟩, rfl⟩
  · show j ∈ d.file.mapped ++ [i] ↔ _ ∧ ∃ c, (d.buffers.set i _)[j]? = some c ∧ _
    have hlt := (List.getElem?_eq_some_iff.mp hb).1
    rw [List.mem_append, h.mapped, List.getElem?_set, List.mem_singleton]
    by_cases hij : i = j
    · subst hij
      simp [hlt, hi]
    · rw [if_neg hij]
      exact ⟨fun h => h.resolve_right (Ne.symm hij), .inl⟩
  · show (d.file.mapped ++ [i]).Nodup
    refine List.nodup_append.mpr ⟨h.nodup, List.pairwise_singleton _ i, ?_⟩
    rintro a ha b' hb' rfl
    rw [List.mem_singleton.mp hb', h.mapped, hb] at ha
    obtain ⟨-, c, hc, hsome⟩ := ha
    cases hc
    rw [hm] at hsome; cases hsome

theorem mmapBuffers_works {n : Nat} : ∀ {i : Nat} {k : Kernel} {d : Device} {ret : Int},
    i + n ≤ d.nbufs → (∀ j b, i ≤ j → d.buffers[j]? = some b → b.mem = none) →
    mmapBuffers env i n k d = .ok (ret, k', d') →
    Works k d k' d' ∧ d.Handled d' ∧ d'.file = { d.file with mapped := d'.file.mapped } ∧
      ((ret < 0 ∧ ¬Maps env i n d.file k.tick) ∨ (ret = 0 ∧ Maps env i n d.file k.tick ∧
        k'.tick = k.tick + 2 * n ∧ d'.file.mapped = d.file.mapped ++ List.range' i n)) := by
  induction n with
  | zero =>
      intro i k d ret _ _ h
      cases h
      exact ⟨.refl _ _, .refl _, rfl, .inr ⟨rfl, trivial, rfl, by simp⟩⟩
  | succ n ih =>
      intro i k d ret hle hnone h
      rw [mmapBuffers] at h
      unfold ioctlQuerybuf at h
      split at h
      · next e k₁ hq =>
          injection hq with hlen hk
          subst hk
          cases h
          refine ⟨.call _ _, .refl _, rfl, .inl ⟨e.neg_lt, fun hm => ?_⟩⟩
          obtain ⟨length, hok⟩ := hm.1
          rw [hlen] at hok; cases hok
      · next length k₁ hq =>
          injection hq with hlen hk
          subst hk
          have hcall := (Works.call k d).trans (Works.ask (k.call (.ioctl d.fd)) d)
          split at h
          · next e he =>
              cases h
              refine ⟨hcall, .refl _, rfl, .inl ⟨e.neg_lt, fun hm => ?_⟩⟩
              have hno := he.symm.trans hm.2.1
              cases hno
          · next hmm =>
              split at h
              · cases h
              · next b hb =>
                  have hm := hnone i b (Nat.le_refl i) hb
                  have hset : d.Handled { d with
                      buffers := d.buffers.set i { b with mem := some fun _ => 0, size := length }
                      file := d.file.map i } := .set hb rfl rfl rfl
                  obtain ⟨hw, hh, hf, hcase⟩ := ih (by show i + 1 + n ≤ d.nbufs; omega) (fun j c hj hc => by
                    have hc : (d.buffers.set i _)[j]? = some c := hc
                    rw [List.getElem?_set_ne (by omega)] at hc
                    exact hnone j c (by omega) hc) h
                  -- the loop goes on with the next buffer, two calls later
                  have hrest : Maps env i (n + 1) d.file k.tick ↔
                      Maps env (i + 1) n (d.file.map i) (k.tick + 2) :=
                    ⟨fun hm => hm.2.2, fun hm => ⟨⟨length, hlen⟩, hmm, hm⟩⟩
                  refine ⟨(hcall.trans (.map hb hm (by omega) _)).trans hw, hset.trans hh, hf, ?_⟩
                  rcases hcase with ⟨hret, hno⟩ | ⟨hret, hmaps, htick, hmapped⟩
                  · exact .inl ⟨hret, fun h => hno (hrest.mp h)⟩
                  · refine .inr ⟨hret, hrest.mpr hmaps, htick.trans ?_, hmapped.trans ?_⟩
                    · show k.tick + 1 + 1 + 2 * n = _
                      omega
                    · show d.file.mapped ++ [i] ++ _ = _
                      rw [List.append_assoc, List.range'_succ]
                      rfl

/-! ## Queueing -/

theorem v4l2QueueBuffer_queues {b : VideoBuffer} {ret : Int} (hb : b.index < d.nbufs)
    (h : v4l2QueueBuffer env k d b = (ret, k', d')) :
    d.Handled d' ∧ d'.file = { d.file with queued := d'.file.queued } ∧
      ((ret < 0 ∧ env.qbuf k.tick d.file b.index ≠ none) ∨
        (ret = 0 ∧ env.qbuf k.tick d.file b.index = none ∧ k'.tick = k.tick + 1 ∧
          d'.file = d.file.enqueue b.index)) := by
  unfold v4l2QueueBuffer at h
  rw [if_neg (by omega)] at h
  dsimp only at h
  cases hq : env.qbuf k.tick d.file b.index with
  | some e =>
      rw [hq] at h
      cases h
      exact ⟨.refl _, rfl, .inl ⟨e.neg_lt, by simp⟩⟩
  | none =>
      rw [hq] at h
      cases h
      exact ⟨⟨rfl, rfl, rfl, fun _ => rfl⟩, rfl, .inr ⟨rfl, rfl, rfl, rfl⟩⟩

/-- What a queueing loop over the `n` buffers from `i` on comes to. -/
structure QueuesAll (env : Env) (k : Kernel) (d : Device) (i n : Nat) (ret : Int) (k' : Kernel) (d' : Device) :
    Prop extends Works k d k' d' where
  handled : d.Handled d'
  file : d'.file = { d.file with queued := d'.file.queued }
  queued : (ret < 0 ∧ ¬Takes env i n d.file k.tick) ∨ (ret = 0 ∧ Takes env i n d.file k.tick ∧
    k'.tick = k.tick + n ∧ d'.file.queued = d.file.queued ++ List.range' i n)

theorem QueuesAll.done (k : Kernel) (d : Device) (i : Nat) : QueuesAll env k d i 0 0 k d :=
  ⟨.refl k d, .refl d, rfl, .inr ⟨rfl, trivial, rfl, by simp⟩⟩

/-- A buffer that cannot be queued ends the loop. -/
theorem QueuesAll.failed {b : VideoBuffer} {i n : Nat} {ret : Int} (hn : i < d.nbufs) (hi : b.index = i)
    (hq : v4l2QueueBuffer env k d b = (ret, k', d')) (hret : ret < 0) :
    QueuesAll env k d i (n + 1) ret k' d' := by
  obtain ⟨hh, hf, hcase⟩ := v4l2QueueBuffer_queues (hi ▸ hn) hq
  refine ⟨v4l2QueueBuffer_works hq, hh, hf, .inl ⟨hret, fun ht => ?_⟩⟩
  rcases hcase with ⟨-, hno⟩ | ⟨h0, -⟩
  · exact hno (hi ▸ ht.1)
  · omega

/-- One buffer queued, and the loop over the others. -/
theorem QueuesAll.cons {b : VideoBuffer} {i n : Nat} {ret ret' : Int} {k₁ : Kernel} {d₁ : Device}
    (hn : i < d.nbufs) (hi : b.index = i) (hq : v4l2QueueBuffer env k d b = (ret, k₁, d₁)) (hret : ¬ret < 0)
    (hrest : QueuesAll env k₁ d₁ (i + 1) n ret' k' d') : QueuesAll env k d i (n + 1) ret' k' d' := by
  obtain ⟨hh, hf, hcase⟩ := v4l2QueueBuffer_queues (hi ▸ hn) hq
  obtain ⟨-, hok, htick, hfile⟩ := hcase.resolve_left fun h => hret h.1
  rw [hi] at hok hfile
  have hall : Takes env i (n + 1) d.file k.tick ↔ Takes env (i + 1) n d₁.file k₁.tick := by
    rw [hfile, htick]
    exact ⟨fun h => h.2, fun h => ⟨hok, h⟩⟩
  refine ⟨(v4l2QueueBuffer_works hq).trans hrest.toWorks, hh.trans hrest.handled, ?_, ?_⟩
  · rw [hrest.file, hf]
  · rcases hrest.queued with ⟨hret', hno⟩ | ⟨hret', ht, htick', hqueued⟩
    · exact .inl ⟨hret', fun h => hno (hall.mp h)⟩
    · refine .inr ⟨hret', hall.mpr ht, by omega, ?_⟩
      rw [hqueued, hfile, List.range'_succ]
      show d.file.queued ++ [i] ++ _ = _
      rw [List.append_assoc]
      rfl

/-- Changing a buffer before the loop. -/
theorem QueuesAll.after {i n : Nat} {ret : Int} {d₁ : Device} (hw : Works k d k d₁) (hh : d.Handled d₁)
    (hf : d₁.file = d.file) (h : QueuesAll env k d₁ i n ret k' d') : QueuesAll env k d i n ret k' d' :=
  ⟨hw.trans h.toWorks, hh.trans h.handled, by rw [← hf]; exact h.file, by rw [← hf]; exact h.queued⟩

/-- The array holds the buffers under their indices, as far as they are in use. -/
def Device.Indexed (d : Device) : Prop := ∀ j < d.nbufs, (d.buffers[j]?).map (·.index) = some j

theorem Device.Indexed.handled (h : d.Indexed) (hh : d.Handled d') : d'.Indexed := by
  intro j hj
  have hobj := congrArg (Option.map Prod.fst) (hh.objects j)
  rw [Option.map_map, Option.map_map] at hobj
  exact hobj.trans (h j (hh.nbufs ▸ hj))

theorem Device.Indexed.index (h : d.Indexed) {j : Nat} {b : VideoBuffer} (hj : j < d.nbufs)
    (hb : d.buffers[j]? = some b) : b.index = j := by
  have := h j hj
  rw [hb] at this
  exact Option.some.inj this

theorem queueAll_queues {n : Nat} : ∀ {i : Nat} {k : Kernel} {d : Device} {ret : Int},
    i + n ≤ d.nbufs → d.Indexed → queueAll env i n k d = .ok (ret, k', d') →
    QueuesAll env k d i n ret k' d' := by
  induction n with
  | zero =>
      intro i k d ret _ _ h
      cases h
      exact .done _ _ i
  | succ n ih =>
      intro i k d ret hle hidx h
      rw [queueAll] at h
      split at h
      · cases h
      · next b hb =>
          have hlt : i < d.nbufs := by omega
          have hi := hidx.index hlt hb
          generalize hq : v4l2QueueBuffer env k d b = r at h
          obtain ⟨ret₁, k₁, d₁⟩ := r
          obtain ⟨hh, -, -⟩ := v4l2QueueBuffer_queues (hi ▸ hlt) hq
          dsimp only at h
          split at h
          · next hret => cases h; exact .failed hlt hi hq hret
          · next hret =>
              have hle₁ : i + 1 + n ≤ d₁.nbufs := by rw [hh.nbufs]; omega
              exact .cons hlt hi hq hret (ih hle₁ (hidx.handled hh) h)

/-- Filling a buffer leaves it mapped as it was. -/
theorem uvcVideoFillBuffer_mapped {b b' : VideoBuffer} (h : uvcVideoFillBuffer g b = .ok b') :
    b'.mem.isSome = b.mem.isSome := by
  unfold uvcVideoFillBuffer at h
  split at h
  · split at h
    · cases h
    · next mem hmem =>
        split at h
        · cases h
        · cases h; rw [hmem]; rfl
  · cases h; rfl

theorem fillAndQueue_queues {n : Nat} : ∀ {i : Nat} {k : Kernel} {d : Device} {ret : Int},
    i + n ≤ d.nbufs → d.Indexed → fillAndQueue env g i n k d = .ok (ret, k', d') →
    QueuesAll env k d i n ret k' d' := by
  induction n with
  | zero =>
      intro i k d ret _ _ h
      cases h
      exact .done _ _ i
  | succ n ih =>
      intro i k d ret hle hidx h
      rw [fillAndQueue] at h
      split at h
      · cases h
      · next b hb =>
          obtain ⟨b', hfill, h⟩ := bind_eq_ok.mp h
          have hlt : i < d.nbufs := by omega
          obtain ⟨hsame, -, hdma, -⟩ := uvcVideoFillBuffer_spec hfill
          have hi : b'.index = i := hsame.trans (hidx.index hlt hb)
          have hw : Works k d k { d with buffers := d.buffers.set i b' } :=
            .set hb (uvcVideoFillBuffer_mapped hfill) k
          have hset : d.Handled { d with buffers := d.buffers.set i b' } := .set hb hsame hdma rfl
          have hlt' : i < ({ d with buffers := d.buffers.set i b' } : Device).nbufs := hlt
          generalize hq : v4l2QueueBuffer env k { d with buffers := d.buffers.set i b' } b' = r at h
          obtain ⟨ret₁, k₁, d₁⟩ := r
          obtain ⟨hh, -, -⟩ := v4l2QueueBuffer_queues (hi ▸ hlt') hq
          have hn₁ : d₁.nbufs = d.nbufs := hh.nbufs
          dsimp only at h
          split at h
          · next hret => cases h; exact (QueuesAll.failed hlt' hi hq hret).after hw hset rfl
          · next hret =>
              refine (QueuesAll.cons hlt' hi hq hret
                (ih (by omega) ((hidx.handled hset).handled hh) h)).after hw hset rfl

/-! ## A stream start -/

/-- A loop that queues buffers. -/
abbrev Queueing := Nat → Nat → Kernel → Device → Except Fault (Int × Kernel × Device)

/-- A stream start up to the last buffer queued. -/
def acquire (env : Env) (queue : Queueing) (k : Kernel) (dev : Device) :
    Except Fault (Int × Kernel × Device) := do
  let (ret, k, dev) ← v4l2AllocBuffers env k dev .mmap streamBuffers
  if ret < 0 then .ok (ret, k, dev)
  else
    let (ret, k, dev) ← v4l2MmapBuffers env k dev
    if ret < 0 then .ok (ret, k, dev) else queue 0 dev.nbufs k dev

/-- What a start does with the result of its steps: an error gives everything back. -/
def giveBack (env : Env) : Int × Kernel × Device → Except Fault (Int × Kernel × Device)
  | (ret, k, dev) =>
    if ret < 0 then do
      let (_, k, dev) ← v4l2FreeBuffers env k dev
      .ok (ret, k, dev)
    else .ok (0, k, dev)

/-- The steps of `uvc_video_stream (1)`, of which the last is `VIDIOC_STREAMON`. -/
def uvcAcquire (env : Env) (k : Kernel) (g : Gadget) : Except Fault (Int × Kernel × Device) := do
  let (ret, k, dev) ← acquire env (fillAndQueue env g) k g.vdev
  if ret < 0 then .ok (ret, k, dev) else .ok (v4l2StreamOn env k dev)

/-- The steps of `v4l_video_stream (1)` whose results it looks at. -/
def v4lAcquire (env : Env) (k : Kernel) (dev : Device) : Except Fault (Int × Kernel × Device) :=
  acquire env (queueAll env) k dev

theorem giveBack_ok {ret : Int} (h : ¬ret < 0) (k : Kernel) (d : Device) :
    giveBack env (ret, k, d) = .ok (0, k, d) := if_neg h

theorem giveBack_failed {ret : Int} (h : ret < 0) (k : Kernel) (d : Device) :
    giveBack env (ret, k, d) = (v4l2FreeBuffers env k d >>= fun r => .ok (ret, r.2)) := if_pos h

theorem giveBack_idle {ret : Int} (h : ret < 0) (k : Kernel) {d : Device} (h0 : d.nbufs = 0) :
    giveBack env (ret, k, d) = .ok (ret, k, d) := by
  rw [giveBack_failed h]
  unfold v4l2FreeBuffers
  rw [if_pos h0]
  rfl

/-- A failed allocation leaves nothing to give back. -/
theorem Allocates.idle {n : Nat} {ret : Int} (h : Allocates env k d n ret k' d') (h0 : d.nbufs = 0)
    (hret : ret < 0) : d'.nbufs = 0 := by
  cases h with
  | busy hn => exact h0
  | refused _ hreq => exact h0
  | surplus _ hreq hm => exact h0
  | nomem _ hreq hno => rfl
  | ok _ hreq hm hmem ht => omega

theorem uvcVideoStart_eq (h0 : g.vdev.nbufs = 0) (k : Kernel) :
    uvcVideoStart env k g = uvcAcquire env k g >>= giveBack env := by
  unfold uvcVideoStart uvcAcquire acquire
  cases halloc : v4l2AllocBuffers env k g.vdev .mmap streamBuffers with
  | error e => rfl
  | ok r =>
      obtain ⟨ret, k₁, d₁⟩ := r
      obtain ⟨-, hall⟩ := v4l2AllocBuffers_allocates (by decide) halloc
      simp only [ok_bind]
      by_cases hret : ret < 0
      · rw [if_pos hret, if_pos hret, ok_bind, if_pos hret, ok_bind, giveBack_idle hret k₁ (hall.idle h0 hret)]
      · rw [if_neg hret, if_neg hret]
        cases v4l2MmapBuffers env k₁ d₁ with
        | error e => rfl
        | ok r =>
            obtain ⟨ret₂, k₂, d₂⟩ := r
            simp only [ok_bind]
            by_cases hret₂ : ret₂ < 0
            · simp only [if_pos hret₂, ok_bind, giveBack_failed hret₂]
            · simp only [if_neg hret₂]
              cases fillAndQueue env g 0 d₂.nbufs k₂ d₂ with
              | error e => rfl
              | ok r =>
                  obtain ⟨ret₃, k₃, d₃⟩ := r
                  simp only [ok_bind]
                  by_cases hret₃ : ret₃ < 0
                  · simp only [if_pos hret₃, ok_bind, giveBack_failed hret₃]
                  · simp only [if_neg hret₃, ok_bind]
                    rfl

theorem v4lVideoStart_eq (h0 : d.nbufs = 0) (k : Kernel) :
    v4lVideoStart env k d = v4lAcquire env k d >>= giveBack env := by
  unfold v4lVideoStart v4lAcquire acquire
  cases halloc : v4l2AllocBuffers env k d .mmap streamBuffers with
  | error e => rfl
  | ok r =>
      obtain ⟨ret, k₁, d₁⟩ := r
      obtain ⟨-, hall⟩ := v4l2AllocBuffers_allocates (by decide) halloc
      simp only [ok_bind]
      by_cases hret : ret < 0
      · rw [if_pos hret, if_pos hret, ok_bind, giveBack_idle hret k₁ (hall.idle h0 hret)]
      · rw [if_neg hret, if_neg hret]
        cases v4l2MmapBuffers env k₁ d₁ with
        | error e => rfl
        | ok r =>
            obtain ⟨ret₂, k₂, d₂⟩ := r
            simp only [ok_bind]
            by_cases hret₂ : ret₂ < 0
            · simp only [if_pos hret₂, ok_bind, giveBack_failed hret₂]
            · simp only [if_neg hret₂]
              cases queueAll env 0 d₂.nbufs k₂ d₂ with
              | error e => rfl
              | ok r => rfl

/-- A device that still has buffers gets no new ones. -/
theorem v4l2AllocBuffers_busy (hn : d.nbufs ≠ 0) (k : Kernel) (memtype : Memory) (n : Nat) :
    v4l2AllocBuffers env k d memtype n = .ok (Errno.EBUSY.neg, k, d) := by
  unfold v4l2AllocBuffers
  rw [if_pos hn]

theorem uvcVideoStart_busy (hn : g.vdev.nbufs ≠ 0) (k : Kernel) :
    uvcVideoStart env k g = .ok (Errno.EBUSY.neg, k, g.vdev) := by
  unfold uvcVideoStart
  rw [v4l2AllocBuffers_busy hn, ok_bind]
  exact if_pos (Errno.neg_lt _)

theorem v4lVideoStart_busy (hn : d.nbufs ≠ 0) (k : Kernel) :
    v4lVideoStart env k d = .ok (Errno.EBUSY.neg, k, d) := by
  unfold v4lVideoStart
  rw [v4l2AllocBuffers_busy hn, ok_bind]
  exact if_pos (Errno.neg_lt _)

/-! ## What the steps come to -/

/-- The loop queues the buffers of a device that holds them under their indices. -/
def QueuesBuffers (env : Env) (queue : Queueing) : Prop :=
  ∀ {i n : Nat} {k k' : Kernel} {d d' : Device} {ret : Int}, i + n ≤ d.nbufs → d.Indexed →
    queue i n k d = .ok (ret, k', d') → QueuesAll env k d i n ret k' d'

theorem queueAll_queuesBuffers (env : Env) : QueuesBuffers env (queueAll env) := queueAll_queues

theorem fillAndQueue_queuesBuffers (env : Env) (g : Gadget) : QueuesBuffers env (fillAndQueue env g) :=
  fillAndQueue_queues

/-- The file once `n` buffers are mapped, and once they are queued. -/
def File.mapAll (file : File) (n : Nat) : File := { file with mapped := file.mapped ++ List.range n }
def File.supplied (file : File) (n : Nat) (fmt : PixFormat) : File :=
  { (file.allocated n fmt).mapAll n with queued := List.range n }

/-- **The driver supplies `n` buffers**: it gives them when call `t` asks for `streamBuffers`, and has them all
    mapped and queued. -/
structure Supplies (env : Env) (t : Nat) (file : File) (fmt : PixFormat) (n : Nat) : Prop where
  given : env.reqbufs t file streamBuffers = .ok n
  le : n ≤ streamBuffers
  memory : env.malloc (t + 1) = true
  maps : Maps env 0 n (file.allocated n fmt) (t + 2)
  takes : Takes env 0 n ((file.allocated n fmt).mapAll n) (t + 2 + 2 * n)

/-- **What the steps of a start come to**, by the driver's answers. -/
inductive Acquires (env : Env) (k : Kernel) (d : Device) : Int → Kernel → Device → Prop
  /-- the driver keeps more buffers than it was asked for -/
  | surplus {n : Nat} {k' : Kernel} {d' : Device} (hreq : env.reqbufs k.tick d.file streamBuffers = .ok n)
      (hn : streamBuffers < n) (hcount : d'.file.count = n) (h0 : d'.nbufs = 0) :
      Acquires env k d Errno.E2BIG.neg k' d'
  | failed {ret : Int} {k' : Kernel} {d' : Device} (hret : ret < 0)
      (hle : ∀ n, env.reqbufs k.tick d.file streamBuffers = .ok n → n ≤ streamBuffers)
      (hno : ∀ n, ¬Supplies env k.tick d.file (k.inforce d.file.dev) n)
      (hcount : d.file.count = 0 → d'.file.count = d'.nbufs) : Acquires env k d ret k' d'
  | supplied {n : Nat} {k' : Kernel} {d' : Device} (hs : Supplies env k.tick d.file (k.inforce d.file.dev) n)
      (ht : k'.tick = k.tick + 2 + 3 * n) (hn : d'.nbufs = n)
      (hfile : d'.file = d.file.supplied n (k.inforce d.file.dev)) : Acquires env k d 0 k' d'

theorem freshBuffers_indexed {n m : Nat} (h : m ≤ n) : ∀ j < m, ((freshBuffers n m)[j]?).map (·.index) = some j := by
  intro j hj
  unfold freshBuffers
  rw [List.getElem?_map, List.getElem?_range (by omega), Option.map_some, if_pos hj]
  rfl

theorem acquire_acquires {queue : Queueing} (hqueue : QueuesBuffers env queue) (h0 : d.nbufs = 0)
    {ret : Int} (h : acquire env queue k d = .ok (ret, k', d')) :
    Works k d k' d' ∧ d'.Plain ∧ d'.file.streaming = d.file.streaming ∧ Acquires env k d ret k' d' := by
  unfold acquire at h
  obtain ⟨⟨ret₁, k₁, d₁⟩, halloc, h⟩ := bind_eq_ok.mp h
  obtain ⟨hw₁, hall⟩ := v4l2AllocBuffers_allocates (by decide) halloc
  have hp : d.Plain := fun i hi => absurd hi (by omega)
  have hp₁ := (v4l2AllocBuffers_uses hp (by decide) halloc).1.plain
  -- no buffers were supplied if the request was not answered so
  have hnot : ∀ {r : Except Errno Nat}, env.reqbufs k.tick d.file streamBuffers = r →
      (∀ n, r = .ok n → n ≤ streamBuffers → env.malloc (k.tick + 1) = true → False) →
      ∀ n, ¬Supplies env k.tick d.file (k.inforce d.file.dev) n := fun hr hno n hs =>
    hno n (hr.symm.trans hs.given) hs.le hs.memory
  dsimp only at h
  cases hall with
  | busy hn => exact absurd h0 hn
  | refused _ hreq =>
      rw [if_pos (Errno.neg_lt _)] at h
      cases h
      refine ⟨hw₁, hp₁, rfl, .failed (Errno.neg_lt _) (fun n hn => ?_)
        (hnot hreq fun n hn => by cases hn) fun hcount => hcount.trans h0.symm⟩
      rw [hreq] at hn; cases hn
  | surplus _ hreq hm =>
      rw [if_pos (Errno.neg_lt _)] at h
      cases h
      exact ⟨hw₁, hp₁, rfl, .surplus hreq hm rfl h0⟩
  | nomem _ hreq hno =>
      rw [if_pos (Errno.neg_lt _)] at h
      cases h
      refine ⟨hw₁, hp₁, rfl, .failed (Errno.neg_lt _) (fun n hn => ?_)
        (hnot hreq fun n _ _ hmem => by rw [hno] at hmem; cases hmem) fun _ => rfl⟩
      cases hreq.symm.trans hn
      exact Nat.zero_le _
  | ok _ hreq hm hmem ht =>
      rename_i m _
      have hle : ∀ n, env.reqbufs k.tick d.file streamBuffers = .ok n → n ≤ streamBuffers := fun n hn => by
        cases hreq.symm.trans hn
        exact hm
      have hany : ∀ {n}, Supplies env k.tick d.file (k.inforce d.file.dev) n → n = m := fun hs => by
        cases hreq.symm.trans hs.given
        rfl
      rw [if_neg (by decide)] at h
      obtain ⟨⟨ret₂, k₂, d₂⟩, hmap, h⟩ := bind_eq_ok.mp h
      unfold v4l2MmapBuffers at hmap
      rw [if_neg (by simp)] at hmap
      obtain ⟨hw₂, hh₂, hf₂, hcase₂⟩ := mmapBuffers_works (Nat.le_of_eq (Nat.zero_add _))
        (fun j b _ hb => (freshBuffers_getElem? hb).1) hmap
      have hn₂ : d₂.nbufs = m := hh₂.nbufs
      have hcount₂ : d₂.file.count = d₂.nbufs := hh₂.count.trans hn₂.symm
      have hstream₂ : d₂.file.streaming = d.file.streaming := by rw [hf₂]; rfl
      dsimp only at h hcase₂
      rcases hcase₂ with ⟨hret₂, hno⟩ | ⟨hret₂, hmaps, htick₂, hmapped₂⟩
      · rw [if_pos hret₂] at h
        cases h
        refine ⟨hw₁.trans hw₂, hh₂.plain hp₁, hstream₂, .failed hret₂ hle (fun n hs => ?_) fun _ => hcount₂⟩
        have hsm := hs.maps
        rw [hany hs] at hsm
        rw [ht] at hno
        exact hno hsm
      · rw [if_neg (by omega)] at h
        have hidx : d₂.Indexed := by
          refine Device.Indexed.handled ?_ hh₂
          exact freshBuffers_indexed hm
        have hq := hqueue (Nat.le_of_eq (Nat.zero_add _)) hidx h
        -- everything is mapped by the time the first buffer is queued
        have hfile₂ : d₂.file = (d.file.allocated m (k.inforce d.file.dev)).mapAll m := by
          rw [hf₂, hmapped₂]
          unfold File.mapAll
          rw [List.range_eq_range']
        have htick : k₂.tick = k.tick + 2 + 2 * m := by rw [htick₂, ht]
        have hqueued := hq.queued
        rw [hn₂, hfile₂, htick] at hqueued
        have hstream : d'.file.streaming = d.file.streaming := by rw [hq.file]; exact hstream₂
        refine ⟨(hw₁.trans hw₂).trans hq.toWorks, hq.handled.plain (hh₂.plain hp₁), hstream, ?_⟩
        rcases hqueued with ⟨hret, hno⟩ | ⟨hret, htakes, htick', hqueued⟩
        · refine .failed hret hle (fun n hs => ?_) ?_
          · have hst := hs.takes
            rw [hany hs] at hst
            exact hno hst
          · intro _
            rw [hq.handled.count, hq.handled.nbufs]
            exact hcount₂
        · subst hret
          refine .supplied (n := m) ⟨hreq, hm, hmem, ?_, ?_⟩ ?_ ?_ ?_
          · rw [ht] at hmaps; exact hmaps
          · exact htakes
          · omega
          · exact hq.handled.nbufs.trans hn₂
          · rw [hq.file, hqueued, hfile₂]
            show ({ (d.file.allocated m _).mapAll m with queued := [] ++ List.range' 0 m } : File) = _
            rw [List.nil_append, ← List.range_eq_range']
            rfl

end Uvcd
