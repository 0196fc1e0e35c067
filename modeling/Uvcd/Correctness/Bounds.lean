import Uvcd.Refinement.Bounds
import Uvcd.Refinement.Traffic

/-!
# `Correctness.Bounds` — the copies of frames stay within their buffers

The length of a copy comes from the gadget's committed format, the length of a destination from the format
in force when the stream started, and the length of a source from the capture's own format. They agree as
long as the driver has a format of the committed length in force (`FormatsAgree`): `copies_in_bounds`. The
result of `uvc_video_set_format` is ignored, so a driver that refuses the format makes them disagree:
`refused_format_overruns`.
-/

namespace Uvcd

open Machine Split

variable {env : Env} {s s' : Sys} {a : Action}

/-! ## The condition -/

/-- The length of a frame of the format a `DATA` event selects. -/
def selectedSize (data : RequestData) : Nat :=
  let sel := selectFormat uvcFormats (StreamingControl.ofBytes data.data)
  (sel.frame.width * sel.frame.height * 2).toNat

/-- The event the gadget's driver delivers next finds room. A stream started under a committed format needs a
    format in force that is as long; a commit while there are buffers needs buffers requested under one. -/
def Gadget.agrees (env : Env) (k : Kernel) (g : Gadget) : Bool :=
  match env.dqevent k.tick g.vdev.file with
  | .ok .streamon => g.isStreaming || decide (g.fcc ≠ PixFormat.YUYV)
      || decide (g.frameSize ≤ (k.inforce g.vdev.file.dev).frameBytes)
  | .ok (.data data) => decide (g.control ≠ VS_COMMIT_CONTROL) || decide (g.vdev.nbufs = 0)
      || decide (selectedSize data ≤ g.vdev.file.reqfmt.frameBytes)
  | _ => true

/-- The formats agree where the next step relies on it: for the gadget whose callback is next, and for the
    capture the message to be handled starts. -/
def Sys.formatsAgree (env : Env) (s : Sys) : Bool :=
  match s.phase with
  | .dispatch (⟨_, .uvcGadgetProcess, .gadget addr⟩ :: _) =>
    match s.gadgets.find? fun g => decide (g.addr = addr) with
    | some g => g.agrees env s.io.kernel
    | none => true
  | .process (m :: _) _ => startsFormatted s.view.captures m
  | _ => true

/-- The formats agree at the steps the program itself takes. -/
def FormatsAgree (env : Env) : Action → Sys → Prop
  | .next, s => s.formatsAgree env = true
  | _, _ => True

instance (env : Env) : ∀ (a : Action) (s : Sys), Decidable (FormatsAgree env a s)
  | .next, s => inferInstanceAs (Decidable (s.formatsAgree env = true))
  | .plug _, _ | .unplug _, _ | .signal _, _ | .select _, _ | .selectFailed, _ => .isTrue trivial

theorem selectedSize_eq (data : RequestData) : selectedSize data = offeredSize := by
  obtain ⟨-, hw, hh⟩ := selectFormat_uvcFormats (StreamingControl.ofBytes data.data)
  unfold selectedSize
  dsimp only
  rw [hw, hh]; rfl

theorem Gadget.agrees_room {k : Kernel} {g : Gadget} (h : g.agrees env k = true) :
    FindsRoom env k g := by
  unfold Gadget.agrees at h
  constructor
  · intro hev hoff hf
    simpa [hev, hoff, hf] using h
  · intro data hev hcommit hn
    simp only [hev, selectedSize_eq] at h
    simpa [hcommit, hn] using h

theorem FormatsAgree.findsRoom (h : FormatsAgree env .next s) : s.FindsRoom env := by
  intro fd addr rest hat pre g post hs
  have h : s.formatsAgree env = true := h
  simp only [Sys.formatsAgree, hat, hs.find_eq] at h
  exact Gadget.agrees_room h

/-! ## Runs -/

/-- All captures, and all the formats they are about to be asked for, are of the size on offer. -/
structure Offering (v : View) : Prop where
  captures : ∀ c ∈ v.captures, c.Offered
  messages : ∀ m ∈ v.board.queue, AsksOffered m

theorem Traffic.offering (h : Traffic env s s' a) (hC : FormatsAgree env a s) (ho : Offering s.view) :
    Offering s'.view := by
  have hreports : ∀ {w w' : Board}, Extends Reports w w' → (∀ m ∈ w.queue, AsksOffered m) →
      ∀ m ∈ w'.queue, AsksOffered m := fun hq =>
    (hq.mono fun _ => Reports.asksOffered).forall
  cases h with
  | quiet hg hc hq _ =>
      refine ⟨by rw [hc]; exact ho.captures, (hq.mono ?_).forall ho.messages⟩
      intro m hm id p fmt heq
      cases hm with
      | signal => cases heq
      | hotplug hp => rw [heq] at hp; cases hp
  | gadget hat hs hcall hview =>
      rw [hview]
      exact ⟨ho.captures, hreports hcall.extends ho.messages⟩
  | capture hs hcall hview =>
      rw [hview]
      refine ⟨?_, (hcall.frames.mono ?_).forall ho.messages⟩
      · have hc := ho.captures
        rw [Sys.captures_view hs] at hc
        exact forall_replaced rfl hc (hcall.offered (hc _ (by simp)))
      · rintro m ⟨fb, off, -, -, rfl⟩ id p fmt heq
        cases heq
  | handle hat hm =>
      rename_i m batch rest
      have hqueue := ho.messages
      rw [Sys.pending_process hat] at hqueue
      have hstart : startsFormatted s.view.captures m = true := by
        have h : s.formatsAgree env = true := hC
        simpa only [Sys.formatsAgree, hat] using h
      exact ⟨hm.offered (hqueue m List.mem_cons_self) hstart ho.captures,
        hreports hm.extends fun x hx => hqueue x (List.mem_cons_of_mem _ hx)⟩

theorem Offering.longFrames (h : Offering s.view) : LongFrames s.captures := by
  intro p f size hres
  obtain ⟨c, hc, hf⟩ := List.exists_of_findSome?_eq_some hres
  obtain ⟨fb, hfb, hp⟩ := Option.bind_eq_some_iff.mp hf
  split at hp
  · cases hp
    exact Nat.le_of_eq ((h.captures c.view (List.mem_map_of_mem hc)).frames fb hfb).symm
  · cases hp

/-- The invariant of a run whose formats agree. -/
structure Bounded (s : Sys) : Prop where
  alive : s.Alive
  gadgets : ∀ g ∈ s.gadgets, g.Bounded
  offering : Offering s.view

theorem boot_bounded (env : Env) (nodes : List DevName) (inforce : Nat → PixFormat) :
    Bounded (boot env nodes inforce) := by
  refine ⟨boot_alive env nodes inforce, fun g hg => (by cases hg), fun c hc => (by cases hc), fun m hm => ?_⟩
  rw [← Sys.pending_eq, boot_pending] at hm; cases hm

/-- Nothing faults once `main` has returned. -/
theorem step_over_avoids (h : s.Over) (e : Fault) (a : Action) : Avoids e (step env a s) := by
  cases a with
  | plug name => exact .ok _
  | unplug name => exact .ok _
  | signal n => exact .ok _
  | select r => rw [step]; split <;> exact .ok _
  | selectFailed => rw [step]; split <;> exact .ok _
  | next => rw [step, next, h.phase]; exact .ok _

/-- **Run lemma.** Where the drivers map buffers as long as the frames of the format they were requested
    under, and the formats agree at every step, no copy of a frame leaves its buffers. -/
theorem copies_in_bounds (hl : LongBuffers env) {nodes : List DevName} {inforce : Nat → PixFormat}
    {as : List Action} (hC : Along (step env) (FormatsAgree env) as (boot env nodes inforce)) :
    Avoids .overrun (run env as (boot env nodes inforce)) := by
  have hroom : ∀ {a : Action} {s : Sys}, a = .next → FormatsAgree env a s → s.FindsRoom env := by
    rintro a s rfl h
    exact h.findsRoom
  refine run_avoids_along (I := fun s => s.Over ∨ Bounded s) ?_ ?_ (.inr (boot_bounded env nodes inforce)) hC
  · rintro a s s' (hover | hb) hCs hst
    · exact .inl (hover.step hst)
    · refine (step_moves hb.alive hst).imp And.right fun ⟨hal, hm⟩ => ⟨hal, ?_, ?_⟩
      · exact step_bounded hl hb.alive hb.gadgets (fun ha => hroom ha hCs) hst
      · exact hm.traffic.offering hCs hb.offering
  · rintro a s (hover | hb) hCs
    · exact step_over_avoids hover _ a
    · exact step_avoids hl hb.alive hb.gadgets hb.offering.longFrames (fun ha => hroom ha hCs)

theorem obliging_longBuffers (outputs : List DevName) (script : List (Nat × UvcEvent)) :
    LongBuffers (.obliging outputs script) := by
  intro t f i n h
  cases h
  exact Nat.le_refl _

/-- A stream starts, frames are converted, posted, copied and sent on. -/
theorem copies_in_bounds_streaming :
    Avoids .overrun (run (bench 900) (streamUp ++ turn [7] 12 ++ turn [3, 6, 7] 12) (benchBoot 900)) :=
  copies_in_bounds (obliging_longBuffers _ _) (by decide +kernel)

/-- The bench with drivers that keep the format they have. -/
def stubbornBench : Env :=
  { bench 900 with sFmt := fun _ _ _ => .error .EBUSY }

/-- `160x120` YUYV -/
def smallFormat : PixFormat := ⟨160, 120, PixFormat.YUYV, PixFormat.FIELD_NONE, 38400⟩

/-- **A refused format overruns.** The driver of a gadget keeps its small format when the host commits the one
    on offer; the stream then starts with buffers of the small format, which are filled with frames of the
    committed one. -/
theorem refused_format_overruns :
    LongBuffers stubbornBench ∧ run stubbornBench streamUp
      (boot stubbornBench [videoName 0, videoName 1] fun _ => smallFormat) = .error .overrun := by
  refine ⟨fun t f i n h => ?_, by decide +kernel⟩
  cases h
  exact Nat.le_refl _

end Uvcd
