import Uvcd.Protocol.Pairing
import Uvcd.Refinement.Traffic

/-!
# `Correctness.Pairing` — captures bound to gadgets, over whole runs

* `pairing_settled` — when sends go through, no two captures are paired with one gadget, and whoever is
  paired with a gadget that has gone still has its `MSG_UVC_DETACHED` to come.
* `streams_supplied` — a capture that streams does so for a gadget that streams, or is about to be told to
  stop, in the runs in which no format is refused by a streaming capture (`KeepsStreams`);
  `refused_format_strands` is a run in which one is.
-/

namespace Uvcd

open Machine Split Fifo

variable {env : Env} {s s' : Sys} {a : Action}

theorem Neutral.opens_nothing {m : Message} (h : Neutral m) :
    (∀ id p fmt, m ≠ .setFmt id p fmt) ∧ ∀ id, m ≠ .streamOn id := by
  cases h with
  | signal n => exact ⟨fun id p fmt h => (by cases h), fun id h => by cases h⟩
  | hotplug h =>
      cases h with
      | attached p name => exact ⟨fun id p fmt h => (by cases h), fun id h => by cases h⟩
      | detached p name => exact ⟨fun id p fmt h => (by cases h), fun id h => by cases h⟩

/-! ## Pairings -/

theorem Traffic.heldOnce (h : Traffic env s s' a) (hh : HeldOnce s.view.captures) :
    HeldOnce s'.view.captures := by
  cases h with
  | quiet _ hc _ _ => rw [hc]; exact hh
  | gadget _ _ _ hview => rw [hview]; exact hh
  | capture hs hcall hview =>
      rw [hview]
      rw [Sys.captures_view hs] at hh
      exact hh.replace (.inl hcall.same.1)
  | handle _ hm => exact hm.heldOnce hh

theorem Traffic.settled (hw : ∀ t m, env.write t m = true) (h : Traffic env s s' a)
    (hh : HeldOnce s.view.captures) (hset : Settled s.view.gadgets s.view.captures s.view.board.queue) :
    Settled s'.view.gadgets s'.view.captures s'.view.board.queue := by
  cases h with
  | quiet hg hc hq _ =>
      obtain ⟨ms, heq, hms⟩ := hq
      rw [hg, hc, heq]
      refine hset.append (fun id h => .inl h) (pledged_of_forall ?_)
      rintro m hm id ⟨p, fmt, heq⟩
      exact (hms m hm).opens_nothing.1 id p fmt heq
  | gadget _ hs hcall hview =>
      rw [hview]
      refine hcall.settled ?_
      rw [← List.map_cons, ← List.map_append, ← hs.eq]
      exact hset
  | capture hs hcall hview =>
      rw [hview]
      rw [Sys.captures_view hs] at hset
      refine hcall.relies (fun hn => by rw [← hcall.same.1]; exact hn) ?_ hset
      rintro id p k ⟨_, _, heq⟩
      cases heq
  | handle hat hm =>
      rw [Sys.pending_process hat] at hset
      exact hm.settled hw hh hset

/-- The state of pairings at any time. -/
theorem pairing_inv (hw : ∀ t m, env.write t m = true) (hr : Reaches env s) :
    s.Over ∨ (s.Alive ∧ HeldOnce s.view.captures ∧
      Settled s.view.gadgets s.view.captures s.view.board.queue) := by
  obtain ⟨nodes, inforce, as, has⟩ := hr
  refine run_moves_inv_or (C := fun _ _ => True)
    (I := fun s => HeldOnce s.view.captures ∧ Settled s.view.gadgets s.view.captures s.view.board.queue)
    (fun a s s' _ _ hI _ hm => ⟨hm.traffic.heldOnce hI.1, hm.traffic.settled hw hI.1 hI.2⟩)
    ⟨List.Pairwise.nil, fun c hc => (by cases hc), ?_⟩ (along_true as _) has
  rw [← Sys.pending_eq, boot_pending]
  trivial

/-- **Pairings.** No two captures are paired with the same gadget; the gadget a capture is paired with, and
    one whose `MSG_VIDEO_SET_FMT` is pending, is attached or its `MSG_UVC_DETACHED` is still to come; so
    with nothing pending no capture is paired with a gadget that has gone. -/
theorem pairing_settled (hw : ∀ t m, env.write t m = true) (hr : Reaches env s) :
    (s.captures.Pairwise fun a b => a.gadgetId ≠ 0 → a.gadgetId ≠ b.gadgetId) ∧
    (∀ c ∈ s.captures, c.gadgetId ≠ 0 →
      (∃ g ∈ s.gadgets, g.id = c.gadgetId) ∨ .uvcDetached c.gadgetId ∈ s.pending) ∧
    (s.phase ≠ .finished → ∀ pre m post, s.pending = pre ++ m :: post → m.what = .videoSetFmt →
      (∃ g ∈ s.gadgets, g.id = m.wParam) ∨ .uvcDetached m.wParam ∈ post) ∧
    (s.pending = [] → ∀ c ∈ s.captures, c.gadgetId ≠ 0 → ∃ g ∈ s.gadgets, g.id = c.gadgetId) := by
  rcases pairing_inv hw hr with hover | ⟨hal, hh, hset⟩
  · have hnone : ∀ c : Capture, c ∉ s.captures := fun c => by rw [hover.captures]; exact List.not_mem_nil
    refine ⟨by rw [hover.captures]; exact .nil, fun c hc => absurd hc (hnone c), fun h => absurd hover.phase h,
      fun _ c hc => absurd hc (hnone c)⟩
  rw [← Sys.pending_eq] at hset
  have hheld : ∀ c ∈ s.captures, c.gadgetId ≠ 0 →
      (∃ g ∈ s.gadgets, g.id = c.gadgetId) ∨ .uvcDetached c.gadgetId ∈ s.pending := by
    intro c hc h0
    refine (hset.held c.view (List.mem_map_of_mem hc) h0).imp ?_ id
    rintro ⟨_, hmem, hid⟩
    obtain ⟨g, hg, rfl⟩ := List.mem_map.mp hmem
    exact ⟨g, hg, hid⟩
  refine ⟨List.pairwise_map.mp hh, hheld, fun _ pre m post heq hm => ?_, fun hnil c hc h0 => ?_⟩
  · have hsend := hal.sendable m (by rw [heq]; simp)
    cases hsend with
    | setFmt id p fmt =>
        refine (behind_iff.mp hset.asked pre _ post heq id ⟨p, fmt, rfl⟩).imp ?_ fun h => h
        rintro ⟨_, hmem, hid⟩
        obtain ⟨g, hg, rfl⟩ := List.mem_map.mp hmem
        exact ⟨g, hg, hid⟩
    | signal | hotplugAttached | hotplugDetached | streamOn | streamOff | frameAvailable | uvcAttached
    | uvcDetached => cases hm
  · refine (hheld c hc h0).resolve_right ?_
    rw [hnil]; exact List.not_mem_nil

/-- The gadget of a streaming pair vanishes: until its `MSG_UVC_DETACHED` is handled the capture stays paired. -/
theorem pairing_settled_unplugged :
    ∃ s, run (bench 900) (streamUp ++ .unplug (videoName 0) :: turn [5] 12 ++ turn [3] 12) (benchBoot 900)
        = .ok s ∧ s.gadgets.length = 0 ∧ s.captures.map (·.gadgetId) = [18] ∧ .uvcDetached 18 ∈ s.pending := by
  obtain ⟨s, h, hg, hc⟩ : ∃ s, run (bench 900)
      (streamUp ++ .unplug (videoName 0) :: turn [5] 12 ++ turn [3] 12) (benchBoot 900) = .ok s ∧
      s.gadgets.length = 0 ∧ s.captures.map (·.gadgetId) = [18] := by
    decide +kernel
  obtain ⟨-, hheld, -, -⟩ := pairing_settled (fun _ _ => rfl) (show Reaches (bench 900) s from ⟨_, _, _, h⟩)
  obtain ⟨c, hmem, hid⟩ := List.mem_map.mp (show 18 ∈ s.captures.map (·.gadgetId) by rw [hc]; simp)
  refine ⟨s, h, hg, hc, ?_⟩
  rw [← hid]
  refine (hheld c hmem (by rw [hid]; decide)).resolve_left ?_
  rintro ⟨g, hgm, -⟩
  rw [List.length_eq_zero_iff.mp hg] at hgm
  cases hgm

/-! ## Streams -/

/-- **A streaming capture does so for a gadget that streams**, once nothing is pending. -/
def Sys.Fed (s : Sys) : Prop :=
  s.pending = [] → ∀ c ∈ s.captures, c.isStreaming = true →
    c.gadgetId ≠ 0 ∧ ∃ g ∈ s.gadgets, g.id = c.gadgetId ∧ g.isStreaming = true

instance (s : Sys) : Decidable s.Fed :=
  inferInstanceAs (Decidable (s.pending = [] → ∀ c ∈ s.captures, c.isStreaming = true →
    c.gadgetId ≠ 0 ∧ ∃ g ∈ s.gadgets, g.id = c.gadgetId ∧ g.isStreaming = true))

/-- The message about to be handled is no format that the driver of the streaming capture it is for
    refuses, and no stream start for the id `0` that unpaired captures carry. -/
def Sys.keepsStreams (env : Env) (s : Sys) : Bool :=
  match s.phase with
  | .process (m :: _) _ =>
    match m.what, m.lParam with
    | .videoSetFmt, .format _ fmt =>
      match s.captures.find? fun c => decide (c.gadgetId = m.wParam) with
      | some c => !c.isStreaming || decide ((v4lVideoTrySetFormat env s.io.kernel c fmt).1 = 0)
      | none => true
    | .videoStreamOn, _ => decide (m.wParam ≠ 0) || s.captures.all fun c => decide (c.gadgetId ≠ 0)
    | _, _ => true
  | _ => true

/-- The steps the program itself takes keep streams paired. -/
def KeepsStreams (env : Env) : Action → Sys → Prop
  | .next, s => s.keepsStreams env = true
  | _, _ => True

instance (env : Env) : ∀ (a : Action) (s : Sys), Decidable (KeepsStreams env a s)
  | .next, s => inferInstanceAs (Decidable (s.keepsStreams env = true))
  | .plug _, _ | .unplug _, _ | .signal _, _ | .select _, _ | .selectFailed, _ => .isTrue trivial

theorem Traffic.supplied (hoff : ∀ t id, env.write t (.streamOff id) = true) (h : Traffic env s s' a)
    (hC : KeepsStreams env a s) (hh : HeldOnce s.view.captures)
    (hsup : Supplied s.view.gadgets s.view.captures s.view.board.queue) :
    Supplied s'.view.gadgets s'.view.captures s'.view.board.queue := by
  cases h with
  | quiet hg hc hq _ =>
      obtain ⟨ms, heq, hms⟩ := hq
      rw [hg, hc, heq]
      refine ⟨hsup.paired, hsup.relies.append (fun id h => .inl h) (pledged_of_forall ?_)⟩
      exact fun m hm id heq => (hms m hm).opens_nothing.2 id heq
  | gadget _ hs hcall hview =>
      rw [hview]
      rw [Sys.gadgets_view hs] at hsup
      exact hcall.supplied hoff hsup
  | capture hs hcall hview =>
      rw [hview]
      rw [Sys.captures_view hs] at hsup
      -- a capture that stops or starts keeps its gadget
      refine ⟨fun x hx hn => ?_, ?_⟩
      · rcases List.mem_append.mp hx with hx | hx
        · exact hsup.paired x (by simp [hx]) hn
        · rcases List.mem_cons.mp hx with rfl | hx
          · rw [hcall.same.1]
            exact hsup.paired _ (by simp) (hcall.same.2 ▸ hn)
          · exact hsup.paired x (by simp [hx]) hn
      · refine hcall.relies (fun hn => by rw [← hcall.same.2]; exact hn) ?_ hsup.relies
        rintro id p k heq
        cases heq
  | handle hat hm =>
      rename_i m batch rest
      rw [Sys.pending_process hat] at hsup
      have hkeep : s.keepsStreams env = true := hC
      refine hm.supplied hoff hh (fun heq c hc => ?_) (fun id p fmt heq href pre c post hs => ?_) hsup
      · -- a stream that starts finds no capture unpaired
        obtain ⟨c, hmem, rfl⟩ := List.mem_map.mp hc
        simp only [Sys.keepsStreams, hat, heq, Message.streamOn] at hkeep
        have hall : ∀ x ∈ s.captures, x.gadgetId ≠ 0 := by simpa using hkeep
        exact hall c hmem
      · -- a capture asked for another format does not stream
        obtain ⟨pre', c', post', hs', rfl⟩ := hs.of_map (p := (·.gadgetId = id)) Capture.view (fun _ => Iff.rfl)
        obtain ⟨id', p', fmt', heq', pre'', c'', post'', hs'', hne⟩ := href
        cases heq.symm.trans heq'
        obtain ⟨-, rfl, -⟩ := hs'.unique hs''
        simp only [Sys.keepsStreams, hat, heq, Message.setFmt, hs'.find_eq, hne] at hkeep
        have hoff' : c'.isStreaming = false := by simpa using hkeep
        exact hoff'

/-- **Run lemma.** Where `MSG_VIDEO_STREAM_OFF` can be sent and no step along the run strands a stream, no
    capture streams for nobody once the queue is empty. -/
theorem streams_supplied (hoff : ∀ t id, env.write t (.streamOff id) = true)
    {nodes : List DevName} {inforce : Nat → PixFormat} {as : List Action}
    (hC : Along (step env) (KeepsStreams env) as (boot env nodes inforce))
    (h : run env as (boot env nodes inforce) = .ok s) : s.Fed := by
  rcases run_moves_inv_or (C := KeepsStreams env)
    (I := fun s => HeldOnce s.view.captures ∧ Supplied s.view.gadgets s.view.captures s.view.board.queue)
    (fun a s s' _ _ hI hCs hm => ⟨hm.traffic.heldOnce hI.1, hm.traffic.supplied hoff hCs hI.1 hI.2⟩)
    ⟨.nil, fun c hc => (by cases hc), fun c hc => (by cases hc), by
      rw [← Sys.pending_eq, boot_pending]; trivial⟩ hC h with hover | ⟨-, -, hsup⟩
  · intro _ c hc
    rw [hover.captures] at hc; cases hc
  · rw [← Sys.pending_eq] at hsup
    intro hnil c hc hon
    have hmem : c.view ∈ s.view.captures := List.mem_map_of_mem hc
    refine ⟨hsup.paired _ hmem hon, ?_⟩
    have hback := hsup.relies.held _ hmem hon
    rw [hnil] at hback
    obtain ⟨_, hg, hid, hong⟩ := hback.drained
    obtain ⟨g, hg', rfl⟩ := List.mem_map.mp hg
    exact ⟨g, hg', hid, hong⟩

/-- A pair that streams frames, and all of it handled. -/
theorem streams_supplied_streaming :
    ∃ s, run (bench 900) (streamUp ++ turn [7] 12 ++ turn [3, 6, 7] 12 ++ turn [3] 12) (benchBoot 900) = .ok s ∧
      s.pending = [] ∧ s.captures.map (·.isStreaming) = [true] ∧ s.Fed := by
  obtain ⟨s, h, hnil, hon⟩ : ∃ s, run (bench 900)
      (streamUp ++ turn [7] 12 ++ turn [3, 6, 7] 12 ++ turn [3] 12) (benchBoot 900) = .ok s ∧
      s.pending = [] ∧ s.captures.map (·.isStreaming) = [true] := by
    decide +kernel
  exact ⟨s, h, hnil, hon, streams_supplied (fun _ _ => rfl) (by decide +kernel) h⟩

/-- The bench with a capture (`video1`, device `49`) whose driver turns formats down while its buffers are
    allocated, and a host that commits a second time. -/
def busyBench : Env :=
  { Env.obliging [videoName 0]
      [(36, commitRequest), (39, commitData), (82, .streamon), (84, commitRequest), (900, commitData)] with
    sFmt := fun _ file fmt =>
      if file.dev = 49 ∧ file.count ≠ 0 then .error .EBUSY else .ok fmt }

/-- **A refused format strands the stream.** The capture is released without being stopped. -/
theorem refused_format_strands :
    ∃ s, run busyBench (streamUp ++ [[6], [6], [3]].flatMap (turn · 12))
        (boot busyBench [videoName 0, videoName 1] fun _ => .zero) = .ok s ∧ ¬s.Fed := by
  decide +kernel

end Uvcd
