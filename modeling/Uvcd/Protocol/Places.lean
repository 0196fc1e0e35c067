import Mathlib.Data.List.Nodup
import Uvcd.Protocol.Board

/-!
# `Protocol.Places` — which object is at which address

Gadgets, captures and the captures' frame blocks are at pairwise different addresses, all given out by
`malloc` already (`Placed`); a capture has a frame block exactly while it streams (`Framed`). So a `priv`
pointer or a frame pointer that is found again leads to the object it was taken from.
-/

namespace Uvcd

open Split

/-- Addresses in use: pairwise different and below the next one to be given out. -/
structure Placed (brk : Nat) (places : List Nat) : Prop where
  nodup : places.Nodup
  lt : ∀ a ∈ places, a < brk

namespace Placed

variable {brk brk' a : Nat} {places places' : List Nat}

theorem perm (h : Placed brk places) (hp : places.Perm places') : Placed brk places' :=
  ⟨hp.nodup_iff.mp h.nodup, fun a ha => h.lt a (hp.mem_iff.mpr ha)⟩

theorem mono (h : Placed brk places) (hle : brk ≤ brk') : Placed brk' places :=
  ⟨h.nodup, fun a ha => Nat.lt_of_lt_of_le (h.lt a ha) hle⟩

theorem sublist (h : Placed brk places) (hs : places'.Sublist places) : Placed brk places' :=
  ⟨h.nodup.sublist hs, fun a ha => h.lt a (hs.subset ha)⟩

/-- A new address. -/
theorem alloc (h : Placed brk places) (hle : brk ≤ a) (hlt : a < brk') : Placed brk' (a :: places) := by
  refine ⟨List.nodup_cons.mpr ⟨fun hmem => ?_, h.nodup⟩, fun x hx => ?_⟩
  · exact absurd (h.lt a hmem) (Nat.not_lt.mpr hle)
  · rcases List.mem_cons.mp hx with rfl | hx
    · exact hlt
    · exact Nat.lt_trans (h.lt x hx) (Nat.lt_of_le_of_lt hle hlt)

end Placed

/-- The addresses a capture is responsible for. -/
def CaptureView.places (c : CaptureView) : List Nat := c.addr :: (c.frames.map (·.addr)).toList

def View.places (v : View) : List Nat := v.gadgets.map (·.addr) ++ v.captures.flatMap CaptureView.places

/-- A capture has frame buffers exactly while it streams. -/
def CaptureView.Framed (c : CaptureView) : Prop := c.streaming = c.frames.isSome

structure Housed (v : View) : Prop where
  placed : Placed v.board.brk v.places
  framed : ∀ c ∈ v.captures, c.Framed

theorem View.places_gadget {v : View} {pre post : List GadgetView} {g : GadgetView}
    (h : v.gadgets = pre ++ g :: post) :
    v.places.Perm (g.addr :: { v with gadgets := pre ++ post }.places) := by
  have hwith : v.places = pre.map (·.addr) ++ g.addr :: (post.map (·.addr)
      ++ v.captures.flatMap CaptureView.places) := by
    simp [View.places, h]
  have hout : { v with gadgets := pre ++ post }.places = pre.map (·.addr) ++ (post.map (·.addr)
      ++ v.captures.flatMap CaptureView.places) := by
    simp [View.places]
  rw [hwith, hout]
  exact List.perm_middle

theorem View.places_capture {v : View} {pre post : List CaptureView} {c : CaptureView}
    (h : v.captures = pre ++ c :: post) :
    v.places.Perm (c.places ++ { v with captures := pre ++ post }.places) := by
  have hwith : v.places = (v.gadgets.map (·.addr) ++ pre.flatMap CaptureView.places)
      ++ (c.places ++ post.flatMap CaptureView.places) := by
    simp [View.places, h]
  have hout : { v with captures := pre ++ post }.places
      = (v.gadgets.map (·.addr) ++ pre.flatMap CaptureView.places)
        ++ post.flatMap CaptureView.places := by
    simp [View.places]
  rw [hwith, hout, ← List.append_assoc, ← List.append_assoc]
  exact List.perm_append_comm.append_right _

/-! ## The operations of the protocol -/

section Operations

variable {env : Env} {w w' : Board} {g g' : GadgetView} {c c' : CaptureView} {rest : List Nat}
  {ev : Except Errno UvcEvent}

theorem StartsGadget.brk_le (h : StartsGadget env w g w' g') : w.brk ≤ w'.brk ∧ g'.addr = g.addr := by
  cases h with
  | idle he => exact ⟨he.brk_le, rfl⟩
  | start hoff hw hp => exact ⟨Nat.le_trans hw.brk_le hp.brk_le, rfl⟩

theorem StopsGadget.brk_le (h : StopsGadget env w g w' g') : w.brk ≤ w'.brk ∧ g'.addr = g.addr := by
  cases h with
  | idle hoff he => exact ⟨he.brk_le, rfl⟩
  | stop hon hp => exact ⟨hp.brk_le, rfl⟩

theorem GadgetCalls.brk_le (h : GadgetCalls env ev w g w' g') : w.brk ≤ w'.brk ∧ g'.addr = g.addr := by
  cases h with
  | quiet he => exact ⟨he.brk_le, rfl⟩
  | start hev h => exact h.brk_le
  | stop hev h => exact h.brk_le
  | commit hev he => exact ⟨he.brk_le, rfl⟩
  | setFmt hev hw hh hf hp => exact ⟨hp.brk_le, rfl⟩

theorem StartsCapture.placed (h : StartsCapture env w c w' c') (hf : c.Framed)
    (hp : Placed w.brk (c.places ++ rest)) : Placed w'.brk (c'.places ++ rest) ∧ c'.Framed := by
  cases h with
  | idle he => exact ⟨hp.mono he.brk_le, hf⟩
  | start hoff hfresh hlt hstride hw =>
      rename_i fb
      refine ⟨?_, rfl⟩
      have hnone : c.frames = none := by
        rw [CaptureView.Framed, hoff] at hf
        exact Option.isSome_eq_false_iff.mp hf.symm |> Option.isNone_iff_eq_none.mp
      have h₁ : Placed w.brk (c.addr :: rest) := by
        have := hp
        simp only [CaptureView.places, hnone] at this
        exact this
      exact (h₁.alloc hfresh hlt).perm (List.Perm.swap _ _ _)

theorem StopsCapture.placed (h : StopsCapture w c w' c') (hf : c.Framed)
    (hp : Placed w.brk (c.places ++ rest)) : Placed w'.brk (c'.places ++ rest) ∧ c'.Framed := by
  cases h with
  | idle hoff he => exact ⟨hp.mono he.brk_le, hf⟩
  | stop hon he =>
      refine ⟨(hp.sublist ?_).mono he.brk_le, rfl⟩
      exact List.Sublist.append_right (List.Sublist.cons_cons _ (List.nil_sublist _)) _

theorem CaptureCalls.placed (h : CaptureCalls env w c w' c') (hf : c.Framed)
    (hp : Placed w.brk (c.places ++ rest)) : Placed w'.brk (c'.places ++ rest) ∧ c'.Framed := by
  cases h with
  | quiet he => exact ⟨hp.mono he.brk_le, hf⟩
  | frame hfr hoff haddr hstride hstamp htick hpub =>
      rename_i fb fb' off t
      have hplaces : CaptureView.places { c with frames := some fb' } = c.places := by
        simp only [CaptureView.places, hfr, Option.map_some, haddr]
      rw [hplaces]
      refine ⟨hp.mono ?_, ?_⟩
      · have := hpub.brk_le
        unfold Board.publish at this
        split at this <;> exact this
      · show c.streaming = true
        rw [hf, hfr]; rfl

theorem Releases.captures {refuses : Prop} {id : UInt32} {cs cs' : List CaptureView}
    (h : Releases refuses id cs cs') {β : Type} (f : CaptureView → β)
    (hsame : ∀ c : CaptureView, f { c with gadgetId := 0 } = f c) : cs'.map f = cs.map f := by
  cases h with
  | none _ => rfl
  | refused _ hs => rw [hs.eq]; simp [hsame]

/-- **A message keeps objects and frames housed.** -/
theorem Handles.housed {refuses : Prop} {v v' : View} {m : Message} (h : Handles env refuses v m v')
    (hv : Housed v) : Housed v' := by
  have helapsed : ∀ {w : Board}, v.board.brk ≤ w.brk → Housed { v with board := w } :=
    fun hle => ⟨hv.placed.mono hle, hv.framed⟩
  -- re-pairing and resizing captures moves nothing
  have hsame : ∀ {w : Board} {cs : List CaptureView}, Elapses v.board w →
      cs.map (fun c => (c.places, c.streaming, c.frames))
        = v.captures.map (fun c => (c.places, c.streaming, c.frames)) →
      Housed { v with board := w, captures := cs } := by
    intro w cs he heq
    have hplaces : cs.flatMap CaptureView.places = v.captures.flatMap CaptureView.places := by
      have := congrArg (fun l => l.flatMap (·.1)) heq
      simpa [List.flatMap_map] using this
    refine ⟨?_, fun c hc => ?_⟩
    · show Placed w.brk (v.gadgets.map (·.addr) ++ cs.flatMap CaptureView.places)
      rw [hplaces]
      exact hv.placed.mono he.brk_le
    · have hmem : (c.places, c.streaming, c.frames) ∈ v.captures.map (fun c => (c.places, c.streaming, c.frames)) :=
        heq ▸ List.mem_map_of_mem hc
      obtain ⟨c₀, hc₀, hceq⟩ := List.mem_map.mp hmem
      injection hceq with _ hceq
      injection hceq with hs hfr
      have := hv.framed c₀ hc₀
      rw [CaptureView.Framed, hs, hfr] at this
      exact this
  have hreplace : ∀ {w : Board} {pre post : List CaptureView} {c c' : CaptureView},
      v.captures = pre ++ c :: post → (∀ rest, c.Framed → Placed v.board.brk (c.places ++ rest) →
        Placed w.brk (c'.places ++ rest) ∧ c'.Framed) →
      Housed { v with board := w, captures := pre ++ c' :: post } := by
    intro w pre post c c' heq hstep
    have hc := hv.framed c (by rw [heq]; simp)
    obtain ⟨h₁, h₂⟩ := hstep _ hc (hv.placed.perm (View.places_capture heq))
    refine ⟨h₁.perm (View.places_capture
      (v := { v with board := w, captures := pre ++ c' :: post }) rfl).symm, fun x hx => ?_⟩
    rcases List.mem_append.mp hx with hx | hx
    · exact hv.framed x (by rw [heq]; simp [hx])
    · rcases List.mem_cons.mp hx with rfl | hx
      · exact h₂
      · exact hv.framed x (by rw [heq]; simp [hx])
  cases h with
  | signal => exact helapsed (Nat.le_refl _)
  | attachFailed he => exact helapsed he.brk_le
  | gadgetAttached hname hoff hfmt hfd haddr hlt hwatch hp =>
      rename_i name g w₁ w₂
      refine ⟨?_, hv.framed⟩
      have hperm := View.places_gadget (v := { v with board := w₂, gadgets := v.gadgets ++ [g] })
        (show _ = v.gadgets ++ g :: [] from rfl)
      rw [List.append_nil] at hperm
      exact (hv.placed.alloc haddr hlt).perm hperm.symm
  | captureAttached hname hoff hid hsize hframes hfd haddr hlt he =>
      rename_i name c w₂
      have hperm := View.places_capture (v := { v with board := w₂, captures := v.captures ++ [c] })
        (show _ = v.captures ++ c :: [] from rfl)
      rw [List.append_nil] at hperm
      have hplaces : c.places = [c.addr] := by simp only [CaptureView.places, hframes]; rfl
      rw [hplaces] at hperm
      refine ⟨(hv.placed.alloc haddr hlt).perm hperm.symm, fun x hx => ?_⟩
      rcases List.mem_append.mp hx with hx | hx
      · exact hv.framed x hx
      · rw [List.mem_singleton.mp hx, CaptureView.Framed, hoff, hframes]; rfl
  | gadgetDetached hs hstop hp =>
      have h₁ := (hv.placed.perm (View.places_gadget hs.eq)).sublist (List.sublist_cons_self _ _)
      have hle : v.board.brk ≤ _ := Nat.le_trans hstop.brk_le.1 hp.brk_le
      exact ⟨h₁.mono hle, hv.framed⟩
  | captureDetached hg hs hstop he =>
      have h₁ := hv.placed.perm (View.places_capture hs.eq)
      have h₂ := (hstop.placed (hv.framed _ hs.mem) h₁).1
      refine ⟨(h₂.sublist (List.sublist_append_right _ _)).mono he.brk_le, fun x hx => ?_⟩
      refine hv.framed x ?_
      rw [hs.eq]
      rcases List.mem_append.mp hx with hx | hx <;> simp [hx]
  | detachMissed hg hc => exact hv
  | setFmtHeld hs he =>
      refine hsame he ?_
      rw [hs.eq]; simp [CaptureView.places]
  | setFmtPaired hr hs hfree he =>
      refine hsame he ?_
      rw [← hr.captures (fun c => (c.places, c.streaming, c.frames)) (fun _ => rfl), hs]
      simp [CaptureView.places]
  | setFmtUnpaired hr he =>
      exact hsame he (hr.captures (fun c => (c.places, c.streaming, c.frames)) (fun _ => rfl))
  | streamOn hs hstart => exact hreplace hs.eq fun rest hf hp => hstart.placed hf hp
  | streamOnMissed hc => exact hv
  | streamOff hs hstop => exact hreplace hs.eq fun rest hf hp => hstop.placed hf hp
  | streamOffMissed hc => exact hv
  | uvcAttached => exact hv
  | uvcDetached hs hstop => exact hreplace hs.eq fun rest hf hp => hstop.placed hf hp
  | uvcDetachedMissed hc => exact hv
  | frameCopied hs hon hf => exact helapsed (Nat.le_refl _)
  | frameDropped hs => exact hv

end Operations

end Uvcd
