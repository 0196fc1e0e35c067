import Uvcd.Correctness.Formats
import Uvcd.Refinement.Starting

/-!
# `Correctness.Frees` — releasing buffers again and again

A `v4l2_free_buffers` that fails is called again: by the error paths of a stream start, at its stop, or when its
device goes away. The program keeps no history of what it released; a retry is safe because each buffer's fields
are reset as it is given up.

`freeCalls` repeats the call and logs what each one gives back (`v4l2FreeBuffersLogged_erase`: the log aside it is
`v4l2_free_buffers`). `GivesUp` is what failing calls do between them: buffers are given up one at a time, with what
they hold. `v4l2FreeBuffers_repeated` follows from it.
-/

namespace Uvcd

open Machine

variable {env : Env} {k k' : Kernel} {d d' d'' : Device} {b : VideoBuffer} {ret : Int}

/-! ## What is given back -/

/-- A successful `munmap` of buffer `i`, or a `close` of its dma-buf. -/
inductive Returned where
  | unmapped (i : Nat)
  | closed (i fd : Nat)
  deriving DecidableEq

/-- The buffer it was. -/
def Returned.index : Returned → Nat
  | .unmapped i => i
  | .closed i _ => i

/-- What buffer `i` holds. -/
def VideoBuffer.holds (b : VideoBuffer) (i : Nat) : List Returned :=
  (match b.mem with
    | none => []
    | some _ => [.unmapped i]) ++
  match b.dmabuf with
    | none => []
    | some fd => [.closed i fd]

/-- The buffer after its turn in the release loop. -/
def VideoBuffer.released (b : VideoBuffer) : VideoBuffer := { b with mem := none, dmabuf := none, size := 0 }

/-- `releaseBuffers`, with what it gives back. -/
def releaseBuffersLogged (env : Env) :
    Nat → Nat → Kernel → Device → Except Fault (List Returned × Int × Kernel × Device)
  | _, 0, k, dev => .ok ([], 0, k, dev)
  | i, n + 1, k, dev =>
    match dev.buffers[i]? with
    | none => .error .badPointer
    | some buffer =>
      let unmapped : Option Errno × Kernel × File :=
        match buffer.mem with
        | none => (none, k, dev.file)
        | some _ =>
          (env.munmap k.tick dev.file i, k.ask, { dev.file with mapped := dev.file.mapped.erase i })
      match unmapped with
      | (some e, k, _) => .ok ([], e.neg, k, dev)
      | (none, k, file) => do
        let k := match buffer.dmabuf with
          | none => k
          | some fd => k.closeFd fd
        let (log, r) ← releaseBuffersLogged env (i + 1) n k
          { dev with buffers := dev.buffers.set i buffer.released, file := file }
        .ok (buffer.holds i ++ log, r)

/-- `v4l2FreeBuffers`, with what it gives back. -/
def v4l2FreeBuffersLogged (env : Env) (k : Kernel) (dev : Device) :
    Except Fault (List Returned × Int × Kernel × Device) :=
  if dev.nbufs = 0 then .ok ([], 0, k, dev)
  else do
    let (log, ret, k, dev) ← releaseBuffersLogged env 0 dev.nbufs k dev
    if ret < 0 then .ok (log, ret, k, dev)
    else match ioctlReqbufs env k dev 0 with
      | (.error e, k, dev) => .ok (log, e.neg, k, dev)
      | (.ok _, k, dev) => .ok (log, 0, k, { dev with buffers := [], nbufs := 0 })

theorem releaseBuffersLogged_erase {n : Nat} : ∀ (i : Nat) (k : Kernel) (d : Device),
    (releaseBuffersLogged env i n k d).map Prod.snd = releaseBuffers env i n k d := by
  induction n with
  | zero => intro i k d; rfl
  | succ n ih =>
      intro i k d
      rw [releaseBuffersLogged, releaseBuffers]
      cases d.buffers[i]? with
      | none => rfl
      | some b =>
          -- the log is put together behind the recursive call
          have hrest : ∀ (k₁ : Kernel) (f : File),
              ((releaseBuffersLogged env (i + 1) n k₁
                  { d with buffers := d.buffers.set i b.released, file := f }) >>= fun r =>
                (.ok (b.holds i ++ r.1, r.2) : Except Fault _)).map Prod.snd
              = releaseBuffers env (i + 1) n k₁ { d with buffers := d.buffers.set i b.released, file := f } := by
            intro k₁ f
            rw [← ih]
            cases releaseBuffersLogged env (i + 1) n k₁ _ <;> rfl
          cases hm : b.mem with
          | none =>
              dsimp only
              rw [hm]
              exact hrest _ _
          | some m =>
              dsimp only
              rw [hm]
              cases hu : env.munmap k.tick d.file i with
              | some e => rfl
              | none => exact hrest _ _

theorem v4l2FreeBuffersLogged_erase (env : Env) (k : Kernel) (d : Device) :
    (v4l2FreeBuffersLogged env k d).map Prod.snd = v4l2FreeBuffers env k d := by
  unfold v4l2FreeBuffersLogged v4l2FreeBuffers
  split
  · rfl
  · rw [← releaseBuffersLogged_erase]
    cases releaseBuffersLogged env 0 d.nbufs k d with
    | error f => rfl
    | ok r =>
        obtain ⟨log, ret, k₁, d₁⟩ := r
        show Except.map Prod.snd (ite _ _ _) = ite _ _ _
        generalize ioctlReqbufs env k₁ d₁ 0 = req
        obtain ⟨res, k₂, d₂⟩ := req
        split
        · rfl
        · cases res <;> rfl

/-- Repeated calls, each from whatever the kernel is at by then: what each returns, and what it gives back. -/
def freeCalls (env : Env) : List Kernel → Device → Except Fault (List (Int × List Returned) × Device)
  | [], dev => .ok ([], dev)
  | k :: ks, dev => do
    let (log, ret, _, dev) ← v4l2FreeBuffersLogged env k dev
    let (calls, dev) ← freeCalls env ks dev
    .ok ((ret, log) :: calls, dev)

/-- All that some calls gave back. -/
def returned (calls : List (Int × List Returned)) : List Returned := calls.flatMap (·.2)

/-! ## Giving up buffers -/

theorem VideoBuffer.holds_index {i : Nat} {e : Returned} (h : e ∈ b.holds i) : e.index = i := by
  unfold VideoBuffer.holds at h
  rcases List.mem_append.mp h with h | h
  · cases hm : b.mem with
    | none => rw [hm] at h; cases h
    | some m => rw [hm] at h; rw [List.mem_singleton.mp h]; rfl
  · cases hf : b.dmabuf with
    | none => rw [hf] at h; cases h
    | some fd => rw [hf] at h; rw [List.mem_singleton.mp h]; rfl

theorem VideoBuffer.holds_nodup (b : VideoBuffer) (i : Nat) : (b.holds i).Nodup := by
  unfold VideoBuffer.holds
  cases b.mem <;> cases b.dmabuf <;> simp

/-- A mapped buffer holds its mapping. -/
theorem VideoBuffer.unmapped_mem_holds {i : Nat} : Returned.unmapped i ∈ b.holds i ↔ b.mem.isSome = true := by
  unfold VideoBuffer.holds
  cases b.mem <;> cases b.dmabuf <;> simp

/-- A buffer given up holds nothing. -/
theorem VideoBuffer.released_holds (b : VideoBuffer) (i : Nat) : b.released.holds i = [] := rfl

/-- The device without buffer `i`, on both sides. -/
def Device.giveUp (d : Device) (i : Nat) (b : VideoBuffer) : Device :=
  { d with
    buffers := d.buffers.set i b.released
    file := match b.mem with
      | none => d.file
      | some _ => d.file.unmap i }

/-- From `d` to `d'` buffers are given up one at a time, with what they hold. -/
inductive GivesUp (d : Device) : List Returned → Device → Prop
  | refl : GivesUp d [] d
  | step {log : List Returned} {d' : Device} {i : Nat} {b : VideoBuffer} (h : GivesUp d log d')
      (hb : d'.buffers[i]? = some b) : GivesUp d (log ++ b.holds i) (d'.giveUp i b)

theorem GivesUp.trans {log log' : List Returned} (h : GivesUp d log d') (h' : GivesUp d' log' d'') :
    GivesUp d (log ++ log') d'' := by
  induction h' with
  | refl => rw [List.append_nil]; exact h
  | step _ hb ih => rw [← List.append_assoc]; exact ih.step hb

theorem GivesUp.one {i : Nat} (hb : d.buffers[i]? = some b) : GivesUp d (b.holds i) (d.giveUp i b) :=
  GivesUp.refl.step hb

/-- **What giving up buffers comes to.** Each buffer is as it was and has given nothing back, or is reset and has
    given back what it held. -/
structure PartlyFreed (d : Device) (log : List Returned) (d' : Device) : Prop where
  nbufs : d'.nbufs = d.nbufs
  length : d'.buffers.length = d.buffers.length
  each : ∀ i b, d.buffers[i]? = some b →
    (d'.buffers[i]? = some b ∧ ∀ e ∈ log, e.index ≠ i) ∨
      (d'.buffers[i]? = some b.released ∧ ∀ e, e.index = i → (e ∈ log ↔ e ∈ b.holds i))
  once : log.Nodup
  mapped : d.file.mapped.Nodup → d'.file.mapped.Nodup ∧
    ∀ i, i ∈ d'.file.mapped ↔ i ∈ d.file.mapped ∧ Returned.unmapped i ∉ log

theorem PartlyFreed.refl (d : Device) : PartlyFreed d [] d where
  nbufs := rfl
  length := rfl
  each i b hb := .inl ⟨hb, fun e he => by cases he⟩
  once := List.nodup_nil
  mapped h := ⟨h, fun i => (and_iff_left (List.not_mem_nil)).symm⟩

/-- **Step lemma.** -/
theorem PartlyFreed.giveUp {log : List Returned} {i : Nat} (h : PartlyFreed d log d')
    (hb : d'.buffers[i]? = some b) : PartlyFreed d (log ++ b.holds i) (d'.giveUp i b) := by
  have hlt := (List.getElem?_eq_some_iff.mp hb).1
  obtain ⟨b₀, hb₀⟩ : ∃ b₀, d.buffers[i]? = some b₀ := by
    rw [h.length] at hlt
    exact ⟨_, List.getElem?_eq_getElem hlt⟩
  -- the buffer is the one there was, or has nothing left to hold
  have hfresh : (b = b₀ ∧ ∀ e ∈ log, e.index ≠ i) ∨
      (b = b₀.released ∧ ∀ e, e.index = i → (e ∈ log ↔ e ∈ b₀.holds i)) := by
    rcases h.each i b₀ hb₀ with ⟨heq, hno⟩ | ⟨heq, hlog⟩
    · exact .inl ⟨Option.some.inj (hb.symm.trans heq), hno⟩
    · exact .inr ⟨Option.some.inj (hb.symm.trans heq), hlog⟩
  refine ⟨h.nbufs, ?_, ?_, ?_, ?_⟩
  · show (d'.buffers.set i b.released).length = _
    rw [List.length_set, h.length]
  · intro j c hc
    show ((d'.buffers.set i b.released)[j]? = _ ∧ _) ∨ ((d'.buffers.set i b.released)[j]? = _ ∧ _)
    by_cases hij : i = j
    · subst hij
      rw [List.getElem?_set_self hlt]
      cases hc.symm.trans hb₀
      right
      rcases hfresh with ⟨rfl, hno⟩ | ⟨rfl, hlog⟩
      · refine ⟨rfl, fun e he => ?_⟩
        rw [List.mem_append]
        exact or_iff_right fun hmem => hno e hmem he
      · refine ⟨rfl, fun e he => ?_⟩
        rw [VideoBuffer.released_holds, List.append_nil]
        exact hlog e he
    · rw [List.getElem?_set_ne hij]
      have hother : ∀ e : Returned, e ∈ b.holds i → e.index ≠ j := fun e he heq =>
        hij ((VideoBuffer.holds_index he).symm.trans heq)
      refine (h.each j c hc).imp (fun ⟨heq, hno⟩ => ⟨heq, fun e he => ?_⟩) fun ⟨heq, hlog⟩ => ⟨heq, fun e he => ?_⟩
      · exact (List.mem_append.mp he).elim (hno e) (hother e)
      · rw [List.mem_append, or_iff_left fun hmem => hother e hmem he]
        exact hlog e he
  · refine List.nodup_append.mpr ⟨h.once, b.holds_nodup i, fun e he e' he' heq => ?_⟩
    subst heq
    rcases hfresh with ⟨rfl, hno⟩ | ⟨rfl, -⟩
    · exact hno e he (VideoBuffer.holds_index he')
    · cases he'
  · intro hnd
    obtain ⟨hnd', hmem⟩ := h.mapped hnd
    have hheld : ∀ j, Returned.unmapped j ∈ b.holds i ↔ j = i ∧ b.mem.isSome = true := fun j => by
      constructor
      · intro hj
        obtain rfl : j = i := VideoBuffer.holds_index hj
        exact ⟨rfl, VideoBuffer.unmapped_mem_holds.mp hj⟩
      · rintro ⟨rfl, hsome⟩
        exact VideoBuffer.unmapped_mem_holds.mpr hsome
    cases hm : b.mem with
    | none =>
        have hfile : (d'.giveUp i b).file = d'.file := by unfold Device.giveUp; rw [hm]
        rw [hfile]
        refine ⟨hnd', fun j => ?_⟩
        rw [hmem, List.mem_append, hheld, hm]
        simp
    | some m =>
        have hfile : (d'.giveUp i b).file = d'.file.unmap i := by unfold Device.giveUp; rw [hm]
        rw [hfile]
        refine ⟨hnd'.erase i, fun j => ?_⟩
        show j ∈ d'.file.mapped.erase i ↔ _
        rw [hnd'.mem_erase_iff, hmem, List.mem_append, hheld, hm]
        simp only [Option.isSome_some, and_true, not_or]
        exact ⟨fun h => ⟨h.2.1, h.2.2, h.1⟩, fun h => ⟨h.2.2, h.1, h.2.1⟩⟩

/-- **Run lemma.** -/
theorem GivesUp.partly {log : List Returned} (h : GivesUp d log d') : PartlyFreed d log d' := by
  induction h with
  | refl => exact .refl d
  | step _ hb ih => exact ih.giveUp hb

/-! ## The calls -/

/-- **The release loop** gives up buffers, all of them unless it fails. -/
theorem releaseBuffersLogged_gives {n : Nat} : ∀ {i : Nat} {k : Kernel} {d : Device}, i + n ≤ d.buffers.length →
    ∃ log ret k' d', releaseBuffersLogged env i n k d = .ok (log, ret, k', d') ∧ GivesUp d log d' ∧
      (ret < 0 ∨ (ret = 0 ∧ ∀ j, i ≤ j → j < i + n → ∃ c, d'.buffers[j]? = some c ∧ c.mem = none)) := by
  induction n with
  | zero =>
      intro i k d _
      exact ⟨[], 0, k, d, rfl, .refl, .inr ⟨rfl, fun j hj hj' => by omega⟩⟩
  | succ n ih =>
      intro i k d hle
      have hlt : i < d.buffers.length := by omega
      obtain ⟨b, hb⟩ : ∃ b, d.buffers[i]? = some b := ⟨_, List.getElem?_eq_getElem hlt⟩
      have hone := GivesUp.one hb
      -- the loop goes on behind the buffer just given up
      have hrest : ∀ k₁ : Kernel, ∃ log ret k' d',
          (releaseBuffersLogged env (i + 1) n k₁ (d.giveUp i b) >>= fun r =>
            (.ok (b.holds i ++ r.1, r.2) : Except Fault _)) = .ok (log, ret, k', d') ∧ GivesUp d log d' ∧
          (ret < 0 ∨ (ret = 0 ∧ ∀ j, i ≤ j → j < i + (n + 1) → ∃ c, d'.buffers[j]? = some c ∧ c.mem = none)) := by
        intro k₁
        have hlen : i + 1 + n ≤ (d.giveUp i b).buffers.length := by
          show _ ≤ (d.buffers.set i b.released).length
          rw [List.length_set]
          omega
        obtain ⟨log, ret, k', d', heq, hgives, hend⟩ := ih (k := k₁) hlen
        rw [heq]
        refine ⟨_, _, _, _, rfl, hone.trans hgives, hend.imp_right fun ⟨hret, hnone⟩ => ⟨hret, fun j hj hj' => ?_⟩⟩
        by_cases hij : j = i
        · subst hij
          have hset : (d.giveUp j b).buffers[j]? = some b.released := List.getElem?_set_self hlt
          rcases hgives.partly.each j _ hset with ⟨h, -⟩ | ⟨h, -⟩
          · exact ⟨_, h, rfl⟩
          · exact ⟨_, h, rfl⟩
        · exact hnone j (by omega) (by omega)
      rw [releaseBuffersLogged, hb]
      cases hm : b.mem with
      | none =>
          have hgive : d.giveUp i b = { d with buffers := d.buffers.set i b.released, file := d.file } := by
            unfold Device.giveUp
            rw [hm]
          rw [hgive] at hrest
          dsimp only
          rw [hm]
          exact hrest _
      | some m =>
          have hgive : d.giveUp i b = { d with buffers := d.buffers.set i b.released, file := d.file.unmap i } := by
            unfold Device.giveUp
            rw [hm]
          rw [hgive] at hrest
          dsimp only
          rw [hm]
          cases hu : env.munmap k.tick d.file i with
          | some e => exact ⟨_, _, _, _, rfl, .refl, .inl e.neg_lt⟩
          | none => exact hrest _

/-- The device has no buffers any more; `d₁` is what they were given up from. -/
structure WhollyFreed (d d' d₁ : Device) : Prop where
  nbufs : d'.nbufs = 0
  buffers : d'.buffers = []
  mapped : d'.file.mapped = d₁.file.mapped
  unmapped : ∀ j < d.nbufs, ∃ c, d₁.buffers[j]? = some c ∧ c.mem = none

/-- **One call** on a device that has buffers. -/
theorem v4l2FreeBuffersLogged_gives (hn : d.nbufs ≠ 0) (hlen : d.nbufs ≤ d.buffers.length) (k : Kernel) :
    ∃ log ret k' d', v4l2FreeBuffersLogged env k d = .ok (log, ret, k', d') ∧
      ((ret < 0 ∧ GivesUp d log d') ∨ (ret = 0 ∧ ∃ d₁, GivesUp d log d₁ ∧ WhollyFreed d d' d₁)) := by
  obtain ⟨log, ret, k₁, d₁, heq, hgives, hend⟩ := @releaseBuffersLogged_gives env d.nbufs 0 k d
    (show 0 + d.nbufs ≤ d.buffers.length by omega)
  unfold v4l2FreeBuffersLogged
  rw [if_neg hn, heq, ok_bind]
  dsimp only
  rcases hend with hret | ⟨hret, hnone⟩
  · rw [if_pos hret]
    exact ⟨_, _, _, _, rfl, .inl ⟨hret, hgives⟩⟩
  · rw [if_neg (by omega)]
    generalize hreq : ioctlReqbufs env k₁ d₁ 0 = r
    obtain ⟨res, k₂, d₂⟩ := r
    obtain ⟨-, -, -, hm₂, hcase⟩ := ioctlReqbufs_works hreq
    rcases hcase with ⟨e, rfl, he⟩ | ⟨rfl, -, -, -⟩
    · -- the driver keeps its buffers, all unmapped
      have hsame : d₂ = d₁ := by
        unfold ioctlReqbufs at hreq
        rw [he] at hreq
        cases hreq
        rfl
      subst hsame
      exact ⟨_, _, _, _, rfl, .inl ⟨e.neg_lt, hgives⟩⟩
    · exact ⟨_, _, _, _, rfl, .inr ⟨rfl, d₁, hgives, rfl, rfl, hm₂, fun j hj =>
        hnone j (Nat.zero_le j) (by omega)⟩⟩

theorem freeCalls_idle (h0 : d.nbufs = 0) (ks : List Kernel) :
    freeCalls env ks d = .ok (List.replicate ks.length (0, []), d) := by
  induction ks with
  | nil => rfl
  | cons k ks ih =>
      rw [freeCalls, v4l2FreeBuffersLogged, if_pos h0, ok_bind]
      dsimp only
      rw [ih]
      rfl

theorem returned_append (calls calls' : List (Int × List Returned)) :
    returned (calls ++ calls') = returned calls ++ returned calls' := List.flatMap_append

theorem returned_replicate (n : Nat) : returned (List.replicate n (0, [])) = [] := by
  unfold returned
  rw [List.flatMap_eq_nil_iff]
  intro c hc
  rw [List.eq_of_mem_replicate hc]

/-- **Calls in a row**: all fail, or the first that does not frees the device for good. -/
theorem freeCalls_gives {d₀ : Device} (hn : d₀.nbufs ≠ 0) (hlen : d₀.nbufs ≤ d₀.buffers.length)
    (ks : List Kernel) : ∀ {log₀ : List Returned} {d : Device}, GivesUp d₀ log₀ d →
    ∃ calls d', freeCalls env ks d = .ok (calls, d') ∧
      (((∀ c ∈ calls, c.1 < 0) ∧ GivesUp d₀ (log₀ ++ returned calls) d') ∨
        ∃ pre log n d₁, calls = pre ++ (0, log) :: List.replicate n (0, []) ∧ (∀ c ∈ pre, c.1 < 0) ∧
          GivesUp d₀ (log₀ ++ returned calls) d₁ ∧ WhollyFreed d₀ d' d₁) := by
  induction ks with
  | nil =>
      intro log₀ d h
      refine ⟨[], d, rfl, .inl ⟨fun c hc => (by cases hc), ?_⟩⟩
      show GivesUp d₀ (log₀ ++ []) d
      rw [List.append_nil]
      exact h
  | cons k ks ih =>
      intro log₀ d h
      have hp := h.partly
      obtain ⟨log, ret, k₁, d₁, heq, hcase⟩ := @v4l2FreeBuffersLogged_gives env d
        (by rw [hp.nbufs]; exact hn) (by rw [hp.nbufs, hp.length]; exact hlen) k
      rw [freeCalls, heq, ok_bind]
      dsimp only
      rcases hcase with ⟨hret, hgives⟩ | ⟨hret, d₂, hgives, hfreed⟩
      · -- this call failed part of the way; the next takes up what it left
        obtain ⟨calls, d', hcalls, hcase⟩ := ih (h.trans hgives)
        rw [hcalls]
        have hlog : returned ((ret, log) :: calls) = log ++ returned calls := rfl
        refine ⟨_, _, rfl, ?_⟩
        rw [hlog, ← List.append_assoc]
        rcases hcase with ⟨hall, hg⟩ | ⟨pre, last, n, d₃, rfl, hpre, hg, hfreed⟩
        · refine .inl ⟨fun c hc => ?_, hg⟩
          rcases List.mem_cons.mp hc with rfl | hc
          · exact hret
          · exact hall c hc
        · refine .inr ⟨(ret, log) :: pre, last, n, d₃, rfl, fun c hc => ?_, hg, hfreed⟩
          rcases List.mem_cons.mp hc with rfl | hc
          · exact hret
          · exact hpre c hc
      · -- this call freed everything; the rest find `nbufs` to be `0`
        subst hret
        rw [freeCalls_idle hfreed.nbufs]
        refine ⟨_, _, rfl, .inr ⟨[], log, ks.length, d₂, rfl, fun c hc => (by cases hc), ?_, ?_⟩⟩
        · show GivesUp d₀ (log₀ ++ (log ++ returned (List.replicate ks.length (0, [])))) d₂
          rw [returned_replicate, List.append_nil]
          exact h.trans hgives
        · exact ⟨hfreed.nbufs, hfreed.buffers, hfreed.mapped, by rw [← hp.nbufs]; exact hfreed.unmapped⟩

/-! ## Retries are safe -/

theorem PartlyFreed.mem {log : List Returned} {i : Nat} (h : PartlyFreed d log d') (hi : i < d.buffers.length) :
    (d'.buffers[i]?).bind (·.mem) = if Returned.unmapped i ∈ log then none else (d.buffers[i]?).bind (·.mem) := by
  have hb : d.buffers[i]? = some d.buffers[i] := List.getElem?_eq_getElem hi
  rw [hb]
  rcases h.each i _ hb with ⟨heq, hno⟩ | ⟨heq, hlog⟩
  · rw [heq, if_neg fun hmem => hno _ hmem rfl]
  · rw [heq]
    by_cases hmem : Returned.unmapped i ∈ log
    · rw [if_pos hmem]
      rfl
    · -- it had no mapping to give back
      have hnone : ¬(d.buffers[i]).mem.isSome = true := fun hsome =>
        hmem ((hlog _ rfl).mpr (VideoBuffer.unmapped_mem_holds.mpr hsome))
      rw [if_neg hmem]
      show none = (d.buffers[i]).mem
      cases hm : (d.buffers[i]).mem with
      | none => rfl
      | some m => rw [hm] at hnone; exact absurd rfl hnone

/-- The kernel has `i` mapped for the program. -/
theorem Device.Tracked.mem_iff (ht : d.Tracked) {i : Nat} :
    i ∈ d.file.mapped ↔ i < d.nbufs ∧ ((d.buffers[i]?).bind (·.mem)).isSome = true := by
  rw [ht.mapped]
  refine and_congr_right fun _ => ?_
  cases d.buffers[i]? with
  | none => simp
  | some b => simp

theorem PartlyFreed.tracked {log : List Returned} (h : PartlyFreed d log d') (hlen : d.nbufs ≤ d.buffers.length)
    (ht : d.Tracked) : d'.Tracked := by
  obtain ⟨hnd, hmem⟩ := h.mapped ht.nodup
  refine ⟨fun i => ?_, hnd⟩
  rw [hmem, ht.mem_iff, h.nbufs]
  constructor
  · rintro ⟨⟨hi, hsome⟩, hno⟩
    have hm := h.mem (i := i) (by omega)
    rw [if_neg hno] at hm
    rw [← hm] at hsome
    refine ⟨hi, ?_⟩
    cases hb : d'.buffers[i]? with
    | none => rw [hb] at hsome; cases hsome
    | some b => rw [hb] at hsome; exact ⟨b, rfl, hsome⟩
  · rintro ⟨hi, b, hb, hsome⟩
    have hm := h.mem (i := i) (by omega)
    rw [hb, Option.bind_some] at hm
    by_cases hlog : Returned.unmapped i ∈ log
    · rw [if_pos hlog] at hm
      rw [hm] at hsome; cases hsome
    · rw [if_neg hlog] at hm
      exact ⟨⟨hi, hm ▸ hsome⟩, hlog⟩

/-- Once all is given up, each mapping has been given back, and the kernel has none. -/
theorem WhollyFreed.returned {log : List Returned} {d₁ : Device} (h : WhollyFreed d d' d₁) (hg : PartlyFreed d log d₁)
    (hlen : d.nbufs ≤ d.buffers.length) (ht : d.Tracked) :
    (∀ i ∈ d.file.mapped, Returned.unmapped i ∈ log) ∧ d'.file.mapped = [] := by
  have hall : ∀ i ∈ d.file.mapped, Returned.unmapped i ∈ log := by
    intro i hi
    obtain ⟨hlt, hsome⟩ := ht.mem_iff.mp hi
    by_contra hno
    obtain ⟨c, hc, hnone⟩ := h.unmapped i hlt
    have hm := hg.mem (i := i) (by omega)
    rw [if_neg hno, hc, Option.bind_some, hnone] at hm
    rw [← hm] at hsome; cases hsome
  refine ⟨hall, ?_⟩
  rw [h.mapped, List.eq_nil_iff_forall_not_mem]
  intro i hi
  obtain ⟨hmem, hno⟩ := ((hg.mapped ht.nodup).2 i).mp hi
  exact hno (hall i hmem)

/-- Such devices are what an allocation and a pass of `v4l2_mmap_buffers` leave, wherever the pass ends. -/
theorem mapped_releasable {n : Nat} {k₁ k₂ : Kernel} {d₁ d₂ : Device} (hn : n ≠ 0) (ht : d.Tracked)
    (halloc : v4l2AllocBuffers env k d .mmap n = .ok (0, k₁, d₁))
    (hmap : v4l2MmapBuffers env k₁ d₁ = .ok (ret, k₂, d₂)) :
    d₂.nbufs ≤ d₂.buffers.length ∧ d₂.Tracked := by
  obtain ⟨hw₁, hallocs⟩ := v4l2AllocBuffers_allocates hn halloc
  have hzero : ∀ {e : Errno}, (0 : Int) ≠ e.neg := fun h => Errno.neg_ne _ h.symm
  generalize hr : (0 : Int) = r at hallocs
  cases hallocs with
  | busy => exact absurd hr hzero
  | refused => exact absurd hr hzero
  | surplus => exact absurd hr hzero
  | nomem => exact absurd hr hzero
  | @ok m _ h0 hreq hm hmem hk =>
      unfold v4l2MmapBuffers at hmap
      rw [if_neg (by simp)] at hmap
      obtain ⟨hw₂, hh, -⟩ := mmapBuffers_works (by simp)
        (fun j b _ hb => (freshBuffers_getElem? hb).1) hmap
      refine ⟨?_, hw₂.tracked (hw₁.tracked ht)⟩
      rw [hh.nbufs]
      -- mapping writes into the array in place
      have hobjects : d₂.buffers.map (fun b => (b.index, b.dmabuf))
          = (freshBuffers n m).map fun b => (b.index, b.dmabuf) := by
        apply List.ext_getElem?
        intro j
        rw [List.getElem?_map, List.getElem?_map]
        exact hh.objects j
      have hlength := congrArg List.length hobjects
      rw [List.length_map, List.length_map, freshBuffers, List.length_map, List.length_range] at hlength
      rw [hlength]
      exact hm

/-- **Retries are safe.** However often `v4l2_free_buffers` is called on a device with buffers, whatever the driver
    answers, nothing is given back twice. While it fails, the buffers and the mappings not given back stay on
    record; the first call that succeeds leaves nothing, and those behind it do nothing. The calls are those of
    `v4l2_free_buffers`, the log aside. -/
theorem v4l2FreeBuffers_repeated (hn : d.nbufs ≠ 0) (hlen : d.nbufs ≤ d.buffers.length) (ht : d.Tracked) (env : Env)
    (ks : List Kernel) :
    (∀ k d, (v4l2FreeBuffersLogged env k d).map Prod.snd = v4l2FreeBuffers env k d) ∧
    ∃ calls d', freeCalls env ks d = .ok (calls, d') ∧ (returned calls).Nodup ∧ (∀ c ∈ calls, c.1 ≤ 0) ∧
      ((∀ c ∈ calls, c.1 < 0) → d'.nbufs = d.nbufs ∧ d'.buffers.length = d.buffers.length ∧ d'.Tracked ∧
        ∀ i < d.nbufs, (d'.buffers[i]?).bind (·.mem) =
          if Returned.unmapped i ∈ returned calls then none else (d.buffers[i]?).bind (·.mem)) ∧
      ∀ pre log post, calls = pre ++ (0, log) :: post → (∀ c ∈ pre, c.1 < 0) →
        d'.nbufs = 0 ∧ d'.buffers = [] ∧ d'.file.mapped = [] ∧
          (∀ i ∈ d.file.mapped, Returned.unmapped i ∈ returned (pre ++ [(0, log)])) ∧
          (∀ c ∈ post, c = (0, [])) ∧ ∀ k, v4l2FreeBuffers env k d' = .ok (0, k, d') := by
  obtain ⟨calls, d', heq, hcase⟩ := @freeCalls_gives env d hn hlen ks [] d .refl
  rw [List.nil_append] at hcase
  refine ⟨v4l2FreeBuffersLogged_erase env, calls, d', heq, ?_⟩
  rcases hcase with ⟨hall, hg⟩ | ⟨pre, log, n, d₁, rfl, hpre, hg, hfreed⟩
  · -- every call failed
    have hp := hg.partly
    refine ⟨hp.once, fun c hc => Int.le_of_lt (hall c hc),
      fun _ => ⟨hp.nbufs, hp.length, hp.tracked hlen ht, fun i hi => hp.mem (by omega)⟩, ?_⟩
    rintro pre log post rfl -
    exact absurd (hall (0, log) (by simp)) (Int.lt_irrefl 0)
  · -- the call after `pre` was the first to succeed
    have hp := hg.partly
    obtain ⟨hreturned, hmapped⟩ := hfreed.returned hp hlen ht
    refine ⟨hp.once, fun c hc => ?_, fun hall => ?_, fun pre' log' post' hsplit hpre' => ?_⟩
    · rcases List.mem_append.mp hc with hc | hc
      · exact Int.le_of_lt (hpre c hc)
      · rcases List.mem_cons.mp hc with rfl | hc
        · exact Int.le_refl 0
        · rw [List.eq_of_mem_replicate hc]
    · exact absurd (hall (0, log) (by simp)) (Int.lt_irrefl 0)
    · -- the first call that returns 0 is this one
      have hfirst : Split.SplitsAt (fun c : Int × List Returned => c.1 = 0)
          (pre ++ (0, log) :: List.replicate n (0, []))
          pre (0, log) (List.replicate n (0, [])) := ⟨rfl, rfl, fun c hc => Int.ne_of_lt (hpre c hc)⟩
      obtain ⟨rfl, hlog, rfl⟩ := hfirst.unique ⟨hsplit, rfl, fun c hc => Int.ne_of_lt (hpre' c hc)⟩
      cases hlog
      have hsame : returned (pre ++ (0, log) :: List.replicate n (0, [])) = returned (pre ++ [(0, log)]) := by
        rw [returned_append, returned_append]
        congr 1
        show log ++ returned (List.replicate n (0, [])) = log ++ []
        rw [returned_replicate]
      rw [hsame] at hreturned
      refine ⟨hfreed.nbufs, hfreed.buffers, hmapped, hreturned, fun c hc => List.eq_of_mem_replicate hc, fun k => ?_⟩
      unfold v4l2FreeBuffers
      rw [if_pos hfreed.nbufs]

/-- A device with four buffers of which the first two are mapped, and a driver that refuses one `munmap`. -/
def halfMapped : Device :=
  ⟨6, videoName 0, .videoCapture, .mmap, [], .zero, 4,
    [⟨0, 8, 0, some fun _ => 0, none⟩, ⟨1, 8, 0, some fun _ => 0, none⟩, ⟨2, 0, 0, none, none⟩, ⟨3, 0, 0, none, none⟩],
    { File.fresh 0 with count := 4, mapped := [0, 1] }⟩
def balky : Env := { Env.obliging [] [] with munmap := fun t _ _ => if t = 3 then some .EINVAL else none }

/-- Its release is retried. -/
theorem halfMapped_freed : ∃ calls d',
    freeCalls balky [{ freshKernel with tick := 2 }, freshKernel, freshKernel] halfMapped = .ok (calls, d') ∧
      (returned calls).Nodup ∧ d'.nbufs = 0 ∧ d'.file.mapped = [] := by
  have ht : halfMapped.Tracked := by
    refine ⟨fun i => ?_, by decide⟩
    rcases i with _ | _ | _ | _ | i <;> simp [halfMapped]
  obtain ⟨-, calls, d', h, honce, -, -, hfreed⟩ := v4l2FreeBuffers_repeated (d := halfMapped) (by decide) (by decide) ht
    balky [{ freshKernel with tick := 2 }, freshKernel, freshKernel]
  obtain ⟨d₁, hcalls⟩ : ∃ d₁, freeCalls balky [{ freshKernel with tick := 2 }, freshKernel, freshKernel] halfMapped
      = .ok ([(-22, [.unmapped 0]), (0, [.unmapped 1]), (0, [])], d₁) := ⟨_, rfl⟩
  cases hcalls.symm.trans h
  obtain ⟨hn, -, hm, -⟩ := hfreed [(-22, [.unmapped 0])] [.unmapped 1] [(0, [])] rfl (by simp)
  exact ⟨_, _, h, honce, hn, hm⟩

end Uvcd
