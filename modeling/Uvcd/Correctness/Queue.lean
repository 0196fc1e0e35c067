import Uvcd.Model.Pipe
import Uvcd.Refinement.Steps

/-!
# `Correctness.Queue` — what is dispatched is a prefix of what was sent

At the bytes of the pipe: `Aligned` says that the pipe and the buffer of `looper_process` hold whole
messages, and that these and the ones dispatched are those whose send returned `0`, in order. Every send,
read and dispatch keeps it, whoever sends and whenever. The daemon's queue of whole messages is what
such a pipe carries (`Queues`), and each of its steps is a run of the pipe.
-/

namespace Uvcd

open Framing Machine

/-! ## `struct message` is read back -/

section Bytes

variable {abi : Abi}

theorem Abi.sizeofMessage_pos (abi : Abi) : 0 < abi.sizeofMessage := by
  unfold Abi.sizeofMessage; omega

namespace RawMessage

theorem toBytes_length (pad : Vector UInt8 abi.padding) (m : RawMessage abi) :
    (m.toBytes pad).length = abi.sizeofMessage := by
  simp only [toBytes, List.length_append, leBytes_length, Vector.length_toList, Abi.sizeofMessage]
  omega

/-- **Round trip.** The padding is skipped. -/
theorem ofBytes_toBytes (pad : Vector UInt8 abi.padding) (m : RawMessage abi) :
    ofBytes abi (m.toBytes pad) = m := by
  have hword : ∀ x : UInt32, UInt32.ofNat (leValue (leBytes 4 x.toNat)) = x := by
    intro x
    rw [leValue_of_lt (n := 4) x.toNat_lt, UInt32.ofNat_toNat]
  have hlong : BitVec.ofNat (8 * abi.sizeofLong) (leValue (leBytes abi.sizeofLong m.lParam.toNat))
      = m.lParam := by
    rw [leValue_of_lt m.lParam.isLt, BitVec.ofNat_toNat, BitVec.setWidth_eq]
  have h4 : ∀ v, (leBytes 4 v).length = 4 := leBytes_length 4
  have hpad : pad.toList.length = abi.padding := Vector.length_toList
  have hflag : (m.toBytes pad).drop 4 = leBytes 4 m.flag.toNat ++ (leBytes 4 m.wParam.toNat
      ++ (pad.toList ++ leBytes abi.sizeofLong m.lParam.toNat)) := List.drop_left' (h4 _)
  have hwParam : (m.toBytes pad).drop 8 = leBytes 4 m.wParam.toNat
      ++ (pad.toList ++ leBytes abi.sizeofLong m.lParam.toNat) := by
    have hsplit : (m.toBytes pad).drop 8 = ((m.toBytes pad).drop 4).drop 4 := by rw [List.drop_drop]
    rw [hsplit, hflag]
    exact List.drop_left' (h4 _)
  have hlParam : (m.toBytes pad).drop (12 + abi.padding) = leBytes abi.sizeofLong m.lParam.toNat := by
    rw [show 12 + abi.padding = 8 + (4 + abi.padding) by omega, ← List.drop_drop, hwParam,
      ← List.drop_drop, List.drop_left' (h4 _)]
    exact List.drop_left' hpad
  have hwhat : (m.toBytes pad).take 4 = leBytes 4 m.what.toNat := List.take_left' (h4 _)
  unfold ofBytes
  rw [hflag, hwParam, hlParam, hwhat, List.take_left' (h4 _), List.take_left' (h4 _),
    List.take_of_length_le (Nat.le_of_eq (leBytes_length _ _)), hword, hword, hword, hlong]

end RawMessage

end Bytes

/-! ## The pipe -/

section Pipes

variable {abi : Abi} {p p' : Pipe abi}

/-- The messages of a stream of bytes. -/
abbrev Holds (abi : Abi) : List UInt8 → List (RawMessage abi) → Prop :=
  Carries abi.sizeofMessage (RawMessage.ofBytes abi)

/-- The messages whose send returned `0`, in order. -/
def Pipe.accepted (p : Pipe abi) : List (RawMessage abi) := (p.sends.filter (·.2 = 0)).map (·.1)

/-- **The alignment invariant**: whole messages in the buffer and in the pipe, which with those dispatched
    are the ones accepted. -/
structure Aligned (p : Pipe abi) (batch queue : List (RawMessage abi)) : Prop where
  buffer : Holds abi p.buffer batch
  left : p.left = batch.length
  bytes : Holds abi p.bytes queue
  accepted : p.accepted = p.dispatched ++ (batch ++ queue)

theorem empty_aligned (abi : Abi) : Aligned (Pipe.empty abi) [] [] := ⟨.nil, rfl, .nil, rfl⟩

/-- A send that returns `0` adds its message, and one that returns `-1` nothing. -/
theorem looperSendMessage_aligned {batch queue : List (RawMessage abi)} (h : Aligned p batch queue)
    (m : RawMessage abi) (pad : Vector UInt8 abi.padding) (ok : Bool) :
    Aligned (p.looperSendMessage m pad ok).2 batch (if ok then queue ++ [m] else queue) := by
  have hlen := RawMessage.toBytes_length pad m
  cases ok with
  | true =>
      have hm : Holds abi (p.bytes ++ m.toBytes pad) (queue ++ [m]) := by
        have hsnoc := h.bytes.snoc hlen
        rwa [RawMessage.ofBytes_toBytes] at hsnoc
      refine ⟨h.buffer, h.left, hm, ?_⟩
      simp only [Pipe.accepted, Pipe.looperSendMessage, Pipe.write, if_true, hlen, List.filter_append,
        List.map_append]
      have hacc := h.accepted
      unfold Pipe.accepted at hacc
      rw [hacc]
      simp
  | false =>
      refine ⟨h.buffer, h.left, h.bytes, ?_⟩
      have hacc := h.accepted
      simp only [Pipe.accepted, Pipe.looperSendMessage, Pipe.write, List.filter_append,
        List.map_append] at hacc ⊢
      simpa using hacc

/-- A read takes whole messages, sixteen at most. -/
theorem looperRead_aligned {queue : List (RawMessage abi)} (h : Aligned p [] queue) :
    Aligned p.looperRead (queue.take Pipe.bufferMessages) (queue.drop Pipe.bufferMessages) := by
  have hpos := abi.sizeofMessage_pos
  obtain ⟨htake, hdrop⟩ := h.bytes.take Pipe.bufferMessages
  have hlen := h.bytes.length
  unfold Pipe.looperRead
  dsimp only
  split
  · next hzero =>
      -- there is nothing to read
      have hnil : queue = [] := by
        by_contra hne
        have hq : 0 < queue.length := List.length_pos_iff.mpr hne
        have hb : 0 < p.bytes.length := by rw [hlen]; exact Nat.mul_pos hq hpos
        have hmax : 0 < Pipe.bufferMessages * abi.sizeofMessage := Nat.mul_pos (by decide) hpos
        omega
      subst hnil
      simpa using h
  · refine ⟨?_, ?_, ?_, ?_⟩
    · show Holds abi (p.bytes.take _) _
      rw [← List.take_eq_take_min]; exact htake
    · show min _ _ / _ = _
      rw [← htake.count hpos, List.length_take]
    · show Holds abi (p.bytes.drop _) _
      rw [← List.drop_eq_drop_min]; exact hdrop
    · rw [List.take_append_drop]; exact h.accepted

/-- The message dispatched is the oldest of the batch. -/
theorem looperDispatchNext_aligned {m : RawMessage abi} {batch queue : List (RawMessage abi)}
    (h : Aligned p (m :: batch) queue) :
    ∃ p', p.looperDispatchNext = .ok p' ∧ Aligned p' batch queue ∧ p'.dispatched = p.dispatched ++ [m] := by
  obtain ⟨hle, hm, hrest⟩ := h.buffer.head
  unfold Pipe.looperDispatchNext
  rw [h.left, List.length_cons]
  dsimp only
  rw [if_neg (by omega), hm]
  refine ⟨_, rfl, ⟨hrest, rfl, h.bytes, ?_⟩, rfl⟩
  have hacc := h.accepted
  unfold Pipe.accepted at hacc ⊢
  rw [hacc]
  simp

/-- **Step lemma.** Whatever happens at the pipe, it does not fault and stays aligned. -/
theorem pipeStep_aligned {batch queue : List (RawMessage abi)} (h : Aligned p batch queue)
    (a : PipeAction abi) : ∃ p', pipeStep a p = .ok p' ∧ ∃ batch' queue', Aligned p' batch' queue' := by
  cases a with
  | send m pad ok => exact ⟨_, rfl, _, _, looperSendMessage_aligned h m pad ok⟩
  | read =>
      refine ⟨_, rfl, ?_⟩
      split
      · next h0 =>
          have hnil : batch = [] := List.length_eq_zero_iff.mp (h.left ▸ h0)
          subst hnil
          exact ⟨_, _, looperRead_aligned h⟩
      · exact ⟨_, _, h⟩
  | dispatch =>
      cases batch with
      | nil =>
          refine ⟨p, ?_, _, _, h⟩
          rw [pipeStep, Pipe.looperDispatchNext, h.left]; rfl
      | cons m batch =>
          obtain ⟨p', hp, hal, -⟩ := looperDispatchNext_aligned h
          exact ⟨p', hp, _, _, hal⟩

/-- **Run lemma.** In any interleaving of sends with the reads and dispatches of `looper_process`, the
    messages dispatched are at every moment a prefix of those whose send returned `0`. -/
theorem dispatched_prefix (abi : Abi) (as : List (PipeAction abi)) :
    ∃ p, Machine.run pipeStep as (Pipe.empty abi) = .ok p ∧ p.dispatched <+: p.accepted := by
  have hrun : ∀ (as : List (PipeAction abi)) (p : Pipe abi) (batch queue), Aligned p batch queue →
      ∃ p', Machine.run pipeStep as p = .ok p' ∧ ∃ batch' queue', Aligned p' batch' queue' := by
    intro as
    induction as with
    | nil => intro p batch queue h; exact ⟨p, rfl, batch, queue, h⟩
    | cons a as ih =>
        intro p batch queue h
        obtain ⟨p₁, hp₁, batch₁, queue₁, h₁⟩ := pipeStep_aligned h a
        obtain ⟨p', hp', hal⟩ := ih p₁ batch₁ queue₁ h₁
        exact ⟨p', run_cons_ok.mpr ⟨p₁, hp₁, hp'⟩, hal⟩
  obtain ⟨p, hp, batch, queue, hal⟩ := hrun as _ [] [] (empty_aligned abi)
  exact ⟨p, hp, ⟨batch ++ queue, hal.accepted.symm⟩⟩

end Pipes

/-! ## The daemon's queue -/

section Daemon

variable {abi : Abi} {place : LParam → BitVec (8 * abi.sizeofLong)} {env : Env} {s s' : Sys} {a : Action}
  {p : Pipe abi}

/-- The pipe carries the messages the daemon has in flight: those of its batch in the buffer, and those of its
    queue in the pipe. -/
def Queues (place : LParam → BitVec (8 * abi.sizeofLong)) (s : Sys) (p : Pipe abi) : Prop :=
  Aligned p (s.phase.batch.map (·.raw place)) (s.io.queue.map (·.raw place))

/-- Messages are sent one by one. -/
theorem sends_aligned {batch : List (RawMessage abi)} (ms : List Message) :
    ∀ {p : Pipe abi} {q : List Message}, Aligned p batch (q.map (·.raw place)) →
      ∃ as p', Machine.run pipeStep as p = .ok p' ∧ Aligned p' batch ((q ++ ms).map (·.raw place)) := by
  induction ms with
  | nil => intro p q h; exact ⟨[], p, rfl, by rwa [List.append_nil]⟩
  | cons m ms ih =>
      intro p q h
      have h₁ := looperSendMessage_aligned h (m.raw place) (.replicate _ 0) true
      rw [if_pos rfl, show [m.raw place] = [m].map (·.raw place) from rfl, ← List.map_append] at h₁
      obtain ⟨as, p', hrun, h'⟩ := ih h₁
      refine ⟨.send (m.raw place) (.replicate _ 0) true :: as, p', run_cons_ok.mpr ⟨_, rfl, hrun⟩, ?_⟩
      rwa [List.append_assoc] at h'

/-- **Every step of the daemon is a run of the pipe.** -/
theorem Moves.queues (h : Moves env s s' a) (hq : Queues place s p) :
    ∃ as p', Machine.run pipeStep as p = .ok p' ∧ Queues place s' p' := by
  -- most steps send messages and do nothing else to the pipe
  have hsend : ∀ {b : List Message}, s.phase.batch = b → s'.phase.batch = b →
      Extends (fun _ => True) s.view.board s'.view.board →
      ∃ as p', Machine.run pipeStep as p = .ok p' ∧ Queues place s' p' := by
    rintro b hb hb' ⟨ms, heq, -⟩
    have hqueue : s'.io.queue = s.io.queue ++ ms := by
      have heq : s'.phase.batch ++ s'.io.queue = (s.phase.batch ++ s.io.queue) ++ ms := heq
      rw [hb, hb', List.append_assoc] at heq
      exact List.append_cancel_left heq
    unfold Queues at hq ⊢
    rw [hb', hqueue]
    rw [hb] at hq
    exact sends_aligned ms hq
  have hposts : ∀ {ms : List Message} {w w' : Board}, PostsAll env ms w w' →
      Extends (fun _ => True) w w' := fun hp => hp.extends fun _ _ => trivial
  cases h with
  | idle hphase hview => exact hsend rfl (by rw [hphase]) (by rw [hview]; exact .refl _)
  | dev hphase hview =>
      exact hsend rfl (by rw [hphase])
        ⟨[], by rw [hview, List.append_nil], fun m hm => by cases hm⟩
  | signal hphase hp hview =>
      exact hsend rfl (by rw [hphase]) (by rw [hview]; exact hp.extends trivial)
  | select hat hphase hview =>
      exact hsend (b := []) (by rw [hat]; rfl) (by rw [hphase]; rfl) (by rw [hview]; exact .refl _)
  | selectFailed hat hphase hview =>
      exact hsend (b := []) (by rw [hat]; rfl) (by rw [hphase]; rfl) (by rw [hview]; exact .refl _)
  | unwatched hat hphase hno hnone he hview =>
      exact hsend (b := []) (by rw [hat]; rfl) (by rw [hphase]; rfl) (by rw [hview]; exact he.extends)
  | watched hat hphase hnone hfd hw hview =>
      refine hsend (b := []) (by rw [hat]; rfl) (by rw [hphase]; rfl) ?_
      exact ⟨[], by rw [hview, List.append_nil, hw.queue_eq]; rfl, fun m hm => by cases hm⟩
  | scanned hat hphase hms hp hview =>
      exact hsend (b := []) (by rw [hat]; rfl) (by rw [hphase]; rfl) (by rw [hview]; exact hposts hp)
  | roundDone hat hphase hview =>
      exact hsend (b := []) (by rw [hat]; rfl) (by rw [hphase]; rfl) (by rw [hview]; exact .refl _)
  | looper hat hphase he hview =>
      -- the batch is what the read takes out of the pipe
      have hqueue : s.io.queue.take batchSize ++ s'.io.queue = s.io.queue := by
        have heq := congrArg (fun v => v.board.queue) hview
        have hl : s'.view.board.queue = s.io.queue.take batchSize ++ s'.io.queue := by
          rw [← Sys.pending_eq]; unfold Sys.pending; rw [hphase]
        have hr : s.view.board.queue = s.io.queue := by
          rw [← Sys.pending_eq]; unfold Sys.pending; rw [hat]
        rw [hl] at heq
        exact heq.trans (he.queue_eq.trans hr)
      have hdrop : s'.io.queue = s.io.queue.drop batchSize := by
        have hboth := hqueue.trans (List.take_append_drop batchSize s.io.queue).symm
        exact List.append_cancel_left hboth
      have hq₀ : Aligned p [] (s.io.queue.map (·.raw place)) := by
        unfold Queues at hq
        rw [hat] at hq
        exact hq
      have hread := looperRead_aligned hq₀
      refine ⟨[.read], p.looperRead, ?_, ?_⟩
      · refine run_cons_ok.mpr ⟨_, rfl, ?_⟩
        have h0 : p.left = 0 := hq₀.left
        rw [if_pos h0]; rfl
      · unfold Queues
        rw [hphase, hdrop]
        rw [← List.map_take, ← List.map_drop] at hread
        exact hread
  | hotplug hat hphase hms hp hview hnil =>
      refine hsend (b := []) (by rw [hat]; rfl) (by rw [hphase, Phase.after_batch]) ?_
      have hext := hposts hp
      rw [hview]; exact hext
  | gadget hat hphase hs hcall hview =>
      refine hsend (b := []) (by rw [hat]; rfl) (by rw [hphase, Phase.after_batch]) ?_
      rw [hview]; exact hcall.extends.mono fun _ _ => trivial
  | video hat hphase hs he hview =>
      refine hsend (b := []) (by rw [hat]; rfl) (by rw [hphase, Phase.after_batch]) ?_
      rw [hview]; exact he.extends
  | capture hat hphase hs hcall hview =>
      refine hsend (b := []) (by rw [hat]; rfl) (by rw [hphase, Phase.after_batch]) ?_
      rw [hview]; exact hcall.extends.mono fun _ _ => trivial
  | batchDone hat hphase hview =>
      exact hsend (b := []) (by rw [hat]; rfl) (by rw [hphase, Phase.after_batch])
        (by rw [hview]; exact .refl _)
  | handle hat hphase hm =>
      rename_i m batch rest
      have hq₀ : Aligned p (m.raw place :: batch.map (·.raw place)) (s.io.queue.map (·.raw place)) := by
        unfold Queues at hq
        rw [hat] at hq
        exact hq
      obtain ⟨p₁, hp₁, hal, -⟩ := looperDispatchNext_aligned hq₀
      -- what the handlers send comes behind the queue
      obtain ⟨ms, heq, -⟩ := hm.extends
      have hqueue : s'.io.queue = s.io.queue ++ ms := by
        have heq : s'.phase.batch ++ s'.io.queue = (batch ++ s.io.queue) ++ ms := heq
        rw [hphase, List.append_assoc] at heq
        exact List.append_cancel_left heq
      obtain ⟨as, p', hrun, h'⟩ := sends_aligned ms hal
      refine ⟨.dispatch :: as, p', run_cons_ok.mpr ⟨p₁, hp₁, hrun⟩, ?_⟩
      unfold Queues
      rw [hphase, hqueue]
      exact h'

/-- **Refinement.** What the daemon has in flight is what its pipe carries after some run of the pipe. -/
theorem run_queues (place : LParam → BitVec (8 * abi.sizeofLong)) {nodes : List DevName}
    {inforce : Nat → PixFormat} {as : List Action} (h : run env as (boot env nodes inforce) = .ok s)
    (hrun : s.phase ≠ .finished) :
    ∃ bs p, Machine.run pipeStep bs (Pipe.empty abi) = .ok p ∧ Queues place s p := by
  refine (run_moves_inv (C := fun _ _ => True)
    (I := fun s => ∃ bs p, Machine.run pipeStep bs (Pipe.empty abi) = .ok p ∧ Queues place s p)
    ?_ ⟨[], .empty abi, rfl, ?_⟩ (along_true _ _) h hrun).2
  · rintro a s s' - - ⟨bs, p, hp, hq⟩ - hm
    obtain ⟨cs, p', hp', hq'⟩ := hm.queues hq
    exact ⟨bs ++ cs, p', run_append_ok.mpr ⟨p, hp, hp'⟩, hq'⟩
  · have hpend := boot_pending env nodes inforce
    unfold Sys.pending at hpend
    unfold Queues
    have hbatch : (boot env nodes inforce).phase.batch = [] := rfl
    rw [hbatch, show (boot env nodes inforce).io.queue = [] from hpend]
    exact empty_aligned abi

end Daemon

end Uvcd
