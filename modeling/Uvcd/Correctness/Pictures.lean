import Uvcd.Correctness.Standing
import Uvcd.Refinement.Does
import Uvcd.Refinement.Pictures

/-!
# `Correctness.Pictures` — what the host sees is whole frames

Frames travel from the capture driver through one of two internal buffers, as a pointer in a message, into a gadget
and from there into the buffers of the gadget's driver, while the capture goes on filming into the same internal
buffers. Whatever overtakes what, every stage holds one picture, of one frame that a driver handed out, and none of
two: `pictures_whole`. A frame that has been published or copied is that of a capture some state of the run had, all of
one of its internal buffers and in its format; `seen` stands for those captures.
-/

namespace Uvcd

open Machine Split

variable {env : Env} {s s' : Sys} {a : Action} {gadgets gadgets' : List Gadget} {captures captures' : List Capture}
  {io io' : Io} {ps ps' : List FramePtr} {seen : Capture → Prop}

/-! ## The invariant -/

/-- The frame is one that a capture of `seen` has filmed into its block: all of an internal buffer, in its format. -/
def Frame.Whole (env : Env) (seen : Capture → Prop) (f : Frame) : Prop :=
  ∃ c fb, seen c ∧ c.buffers = some fb ∧ f.FilmedBy env c fb

/-- What the pointer leads to, if to anything, is a whole frame. -/
def LeadsToWhole (env : Env) (captures : List Capture) (p : FramePtr) : Prop :=
  ∀ c ∈ captures, ∀ fb, c.buffers = some fb → fb.addr = p.addr →
    (p.off = 0 ∨ p.off = fb.stride) ∧ (fb.frameAt p.off).FilmedBy env c fb

/-- **The invariant**, `ps` being the pointers that are pending. -/
structure Filmed (env : Env) (seen : Capture → Prop) (gadgets : List Gadget) (captures : List Capture) (io : Io)
    (ps : List FramePtr) : Prop where
  typed : ∀ c ∈ captures, c.vdev.type = .videoCapture
  films : ∀ c ∈ captures, ∀ fb, c.buffers = some fb → c.Films fb
  issued : ∀ p ∈ ps, p.addr < io.brk
  pending : ∀ p ∈ ps, LeadsToWhole env captures p
  posted : ∀ f ∈ io.posted, f.Whole env seen
  delivered : ∀ f ∈ io.delivered, f.Whole env seen
  screens : ∀ g ∈ gadgets, g.Screens env io.delivered

/-- The pointers in the messages that are sent and not handled. -/
def Sys.pointers (s : Sys) : List FramePtr := (s.phase.batch ++ s.io.queue).filterMap announced

theorem pointers_after (s : Sys) (rest : List EventIter) :
    (afterCall s rest).pointers = s.io.queue.filterMap announced := by
  have hbatch : (afterCall s rest).phase.batch = [] := Phase.after_batch _ _
  unfold Sys.pointers
  rw [hbatch]
  rfl

theorem pointers_of_unfilmed (hu : Unfilmed s.io s'.io) (hb : ∀ m ∈ s'.phase.batch, m ∈ s.phase.batch) :
    ∀ p ∈ s'.pointers, p ∈ s.pointers := by
  intro p hp
  unfold Sys.pointers at hp ⊢
  rw [List.filterMap_append, hu.queue] at hp
  rw [List.filterMap_append]
  refine List.mem_append.mpr ((List.mem_append.mp hp).imp (fun hp => ?_) id)
  obtain ⟨m, hm, hmp⟩ := List.mem_filterMap.mp hp
  exact List.mem_filterMap.mpr ⟨m, hb m hm, hmp⟩

namespace Filmed

theorem gadgetsTo (h : Filmed env seen gadgets captures io ps) (hg : ∀ g ∈ gadgets', g.Screens env io.delivered) :
    Filmed env seen gadgets' captures io ps :=
  ⟨h.typed, h.films, h.issued, h.pending, h.posted, h.delivered, hg⟩

/-- Steps that neither publish nor copy a frame. -/
theorem of_eq (h : Filmed env seen gadgets captures io ps) (hposted : io'.posted = io.posted)
    (hdelivered : io'.delivered = io.delivered) (hbrk : io.brk ≤ io'.brk) (hps : ∀ p ∈ ps', p ∈ ps) :
    Filmed env seen gadgets captures io' ps' := by
  refine ⟨h.typed, h.films, fun p hp => ?_, fun p hp => h.pending p (hps p hp), ?_, ?_, ?_⟩
  · exact Nat.lt_of_lt_of_le (h.issued p (hps p hp)) hbrk
  · rw [hposted]; exact h.posted
  · rw [hdelivered]; exact h.delivered
  · rw [hdelivered]; exact h.screens

theorem unfilmed (h : Filmed env seen gadgets captures io ps) (hu : Unfilmed io io') (hps : ∀ p ∈ ps', p ∈ ps) :
    Filmed env seen gadgets captures io' ps' := h.of_eq hu.posted hu.delivered hu.brk hps

/-- Captures change, and their blocks are the old ones or at new addresses. -/
theorem capturesTo (h : Filmed env seen gadgets captures io ps) (htyped : ∀ c ∈ captures', c.vdev.type = .videoCapture)
    (hfilms : ∀ c ∈ captures', ∀ fb, c.buffers = some fb → c.Films fb)
    (hblocks : ∀ c ∈ captures', ∀ fb, c.buffers = some fb →
      (∃ x ∈ captures, x.buffers = some fb ∧ KeepsFormat x c) ∨ io.brk ≤ fb.addr) :
    Filmed env seen gadgets captures' io ps := by
  refine ⟨htyped, hfilms, h.issued, fun p hp c hc fb hfb haddr => ?_, h.posted, h.delivered, h.screens⟩
  rcases hblocks c hc fb hfb with ⟨x, hx, hxb, hk⟩ | hnew
  · obtain ⟨hslot, hold⟩ := h.pending p hp x hx fb hxb haddr
    exact ⟨hslot, hold.keep hk rfl⟩
  · -- pointers are older than a new block
    have hlt := h.issued p hp
    omega

/-- A capture goes. -/
theorem erased {pre post : List Capture} {c : Capture} (h : Filmed env seen gadgets captures io ps)
    (heq : captures = pre ++ c :: post) : Filmed env seen gadgets (pre ++ post) io ps :=
  h.capturesTo (forall_erased heq h.typed) (forall_erased heq h.films)
    (forall_erased heq fun x hx _ hfb => .inl ⟨x, hx, hfb, .refl x⟩)

/-- A capture starts or stops its stream. -/
theorem streamed {pre post : List Capture} {c c' : Capture} {on : Bool} {ret : Int} {id : UInt32}
    (h : Filmed env seen gadgets captures io ps) (hp : c.vdev.Plain) (hoff : c.isStreaming = false → c.buffers = none)
    (heq : captures = pre ++ c :: post) (hs : V4lStreams env io c on ret c' io') :
    Filmed env seen gadgets (pre ++ { c' with gadgetId := id } :: post) io' ps := by
  have hmem : c ∈ captures := by rw [heq]; simp
  obtain ⟨hfilms, hblocks⟩ := hs.films (h.films c hmem) hoff
  refine unfilmed (capturesTo h ?_ ?_ ?_) hs.unfilmed fun p hp => hp
  · exact forall_replaced heq h.typed ((hs.same hp).type.trans (h.typed c hmem))
  · refine forall_replaced heq h.films fun fb hfb => ?_
    have hc := hfilms fb hfb
    exact ⟨hc.backed, hc.size, hc.even, hc.grey⟩
  · refine forall_replaced heq (fun x hx _ hfb => .inl ⟨x, hx, hfb, .refl x⟩) fun fb hfb => ?_
    rcases hblocks fb hfb with ⟨hold, hk⟩ | hnew
    · exact .inl ⟨c, hmem, hold, hk.nbufs, hk.format, hk.size⟩
    · exact .inr hnew

/-- **A capture films a frame** into one of its two buffers, whatever pointers to it are pending. -/
theorem shot {pre post : List Capture} {c c' : Capture} {fb fb' : FrameBufs} {off : Nat}
    (h : Filmed env seen gadgets captures io ps) (heq : captures = pre ++ c :: post)
    (htype : c'.vdev.type = .videoCapture) (hfilms : ∀ x, c'.buffers = some x → c'.Films x)
    (hfb : c.buffers = some fb) (hfb' : c'.buffers = some fb') (hseen : seen c') (hk : KeepsFormat c c')
    (hne : c.vdev.nbufs ≠ 0) (hshot : Shot env c.vdev.format.pixelformat fb fb' off)
    (hann : Announced c fb' off io io') (hlt : fb.addr < io.brk)
    (hapart : ∀ x ∈ pre ++ post, ∀ y, x.buffers = some y → y.addr ≠ fb.addr)
    (hps : ∀ p ∈ ps', p ∈ ps ∨ p = ⟨fb'.addr, off⟩) :
    Filmed env seen gadgets (pre ++ c' :: post) io' ps' := by
  have hmem : c ∈ captures := by rw [heq]; simp
  have hwhole : (fb'.frameAt off).FilmedBy env c' fb' :=
    Frame.FilmedBy.keep ⟨hne, (h.films c hmem fb hfb).size hne, hshot.frame⟩ hk hshot.stride
  -- what the pending pointers lead to in the block that was filmed into
  have hown : ∀ p ∈ ps, fb'.addr = p.addr → (p.off = 0 ∨ p.off = fb'.stride) ∧
      (fb'.frameAt p.off).FilmedBy env c' fb' := by
    intro p hp haddr
    obtain ⟨hslot, hold⟩ := h.pending p hp c hmem fb hfb (hshot.addr.symm.trans haddr)
    refine ⟨by rw [hshot.stride]; exact hslot, ?_⟩
    by_cases hoff : p.off = off
    · rw [hoff]; exact hwhole
    · rw [hshot.other p.off hslot hoff]; exact hold.keep hk hshot.stride
  refine ⟨forall_replaced heq h.typed htype, forall_replaced heq h.films hfilms, fun p hp => ?_, fun p hp => ?_,
    ?_, ?_, ?_⟩
  · rw [hann.brk]
    rcases hps p hp with hp | rfl
    · exact h.issued p hp
    · exact Nat.lt_of_le_of_lt (Nat.le_of_eq hshot.addr) hlt
  · rcases hps p hp with hp | rfl
    · refine forall_replaced heq (h.pending p hp) fun x hx haddr => ?_
      rw [hfb'] at hx
      cases hx
      exact hown p hp haddr
    · -- the new pointer leads into this block only
      intro x hx y hy haddr
      rcases List.mem_append.mp hx with hx | hx
      · exact absurd (haddr.trans hshot.addr) (hapart x (List.mem_append_left _ hx) y hy)
      · rcases List.mem_cons.mp hx with rfl | hx
        · rw [hfb'] at hy
          cases hy
          exact ⟨by rw [hshot.stride]; exact hshot.slot, hwhole⟩
        · exact absurd (haddr.trans hshot.addr) (hapart x (List.mem_append_right _ hx) y hy)
  · rcases hann.sent with ⟨-, hp⟩ | ⟨-, hp⟩
    · rw [hp]; exact h.posted
    · rw [hp]; exact forall_snoc h.posted ⟨c', fb', hseen, hfb', hwhole⟩
  · rw [hann.delivered]; exact h.delivered
  · rw [hann.delivered]; exact h.screens

/-- **A frame is copied into a gadget.** -/
theorem copied {pre post : List Gadget} {g : Gadget} {c : Capture} {fb : FrameBufs} {f : Frame}
    (h : Filmed env seen gadgets captures io ps) (heq : gadgets = pre ++ g :: post) (hseen : seen c)
    (hfb : c.buffers = some fb) (hf : f.FilmedBy env c fb) (hlong : g.frameSize ≤ fb.stride) :
    Filmed env seen (pre ++ { g with imgdata := memcpy g.imgdata 0 f.bytes 0 g.frameSize } :: post) captures
      { io with delivered := io.delivered ++ [f] } ps := by
  have hmem : g ∈ gadgets := by rw [heq]; simp
  refine ⟨h.typed, h.films, h.issued, h.pending, h.posted, forall_snoc h.delivered ⟨c, fb, hseen, hfb, hf⟩, ?_⟩
  exact forall_replaced heq (fun x hx => (h.screens x hx).mono f) ((h.screens g hmem).copy ⟨_, hf.frame⟩ hlong)

end Filmed

/-! ## The handlers -/

/-- What `uvc_gadget_fill_buffer` copies. -/
theorem uvcGadgetFillBuffer_copies {id : UInt32} {ret : Int} {obj : Option (Frame × Nat)}
    (h : uvcGadgetFillBuffer env io gadgets id obj = .ok (ret, gadgets', io')) :
    (gadgets' = gadgets ∧ io' = io) ∨ ∃ pre g post f size, gadgets = pre ++ g :: post ∧ obj = some (f, size) ∧
      g.frameSize ≤ size ∧
      gadgets' = pre ++ { g with imgdata := memcpy g.imgdata 0 f.bytes 0 g.frameSize } :: post ∧
      io' = { io with delivered := io.delivered ++ [f] } := by
  unfold uvcGadgetFillBuffer at h
  split at h
  · unfold strayCursor at h
    split at h
    · cases h
    · cases h; exact .inl ⟨rfl, rfl⟩
  · next pre g post hs =>
      split at h
      · split at h
        · cases h
        · next f size =>
            split at h
            · cases h
            · next hfit =>
                cases h
                exact .inr ⟨pre, g, post, f, size, (splitFirst_decide.mp hs).eq, rfl, by omega, rfl, rfl⟩
      · cases h; exact .inl ⟨rfl, rfl⟩

theorem uvcGadgetAttach_unfilmed {name : DevName} {r : Int}
    (h : uvcGadgetAttach env io gadgets name = (r, gadgets', io')) : Unfilmed io io' := by
  unfold uvcGadgetAttach at h
  split at h
  · cases h; exact unfilmed_kernel io _
  · next dev k _ =>
      dsimp only at h
      split at h
      · cases h; exact unfilmed_kernel io _
      · split at h
        · next io₁ hmem =>
            cases h
            exact ((unfilmed_kernel io k).trans (unfilmed_malloc hmem)).trans (unfilmed_kernel _ _)
        · next addr io₁ hmem =>
            have hio₁ := (unfilmed_kernel io k).trans (unfilmed_malloc hmem)
            split at h
            · cases h; exact hio₁.trans (unfilmed_kernel _ _)
            · cases h
              exact ((hio₁.trans (unfilmed_kernel _ _)).trans (unfilmed_watch env _ _ _ _ _)).trans
                (unfilmed_post env _ rfl)

theorem UvcDetaches.unfilmed {name : DevName} {r : Int} (h : UvcDetaches env io gadgets name r gadgets' io') :
    Unfilmed io io' := by
  cases h with
  | missed hno => exact .refl io
  | detached hsp hstop =>
      refine Unfilmed.trans ?_ (unfilmed_post env _ rfl)
      exact (hstop.unfilmed.trans (unfilmed_unwatch _ _ _)).trans (unfilmed_kernel _ _)

theorem V4lDetaches.unfilmed {name : DevName} {r : Int} (h : V4lDetaches env io captures name r captures' io') :
    Unfilmed io io' := by
  cases h with
  | missed hno => exact .refl io
  | detached hsp hstop => exact hstop.unfilmed.trans (unfilmed_kernel _ _)

/-- A gadget that is attached shows nothing yet. -/
theorem UvcAttaches.screens {name : DevName} {r : Int} {fs : List Frame}
    (h : UvcAttaches env io gadgets name r gadgets' io') (hg : ∀ g ∈ gadgets, g.Screens env fs) :
    ∀ g ∈ gadgets', g.Screens env fs := by
  cases h with
  | missing hopen => exact hg
  | rejected hup => exact hg
  | attached hopen htype hmem hinit hret =>
      obtain ⟨-, probe, commit, rfl⟩ := uvcGadgetInit_spec hinit
      have hfresh := Gadget.Screens.fresh 0 0 fs hopen htype
      exact forall_snoc hg ⟨hfresh.output, hfresh.size, hfresh.image, hfresh.buffers⟩

theorem v4lCaptureAttach_unfilmed {name : DevName} {r : Int}
    (h : v4lCaptureAttach env io captures name = (r, captures', io')) : Unfilmed io io' := by
  unfold v4lCaptureAttach at h
  split at h
  · cases h; exact unfilmed_kernel io _
  · next dev k _ =>
      dsimp only at h
      split at h
      · cases h; exact unfilmed_kernel io _
      · split at h
        · next io₁ hmem =>
            cases h
            exact ((unfilmed_kernel io k).trans (unfilmed_malloc hmem)).trans (unfilmed_kernel _ _)
        · next addr io₁ hmem => cases h; exact (unfilmed_kernel io k).trans (unfilmed_malloc hmem)

/-- The same pointers are queued. -/
def SameQueued (io io' : Io) : Prop := io'.queue.filterMap announced = io.queue.filterMap announced

/-- **The gadget module handles a message.** -/
theorem Filmed.uvcPart {m : Message} {r : Int} (hm : Sendable m)
    (hlead : ∀ p, announced m = some p → LeadsToWhole env s.captures p) (hseen : ∀ c ∈ s.captures, seen c)
    (h : Filmed env seen s.gadgets s.captures s.io ps) (hpart : uvcPart env s m = .ok (r, s')) :
    s'.captures = s.captures ∧ SameQueued s.io s'.io ∧ Filmed env seen s'.gadgets s'.captures s'.io ps := by
  unfold Uvcd.uvcPart at hpart
  split at hpart
  · cases hm with
    | hotplugAttached p name =>
        generalize hatt : uvcGadgetAttach env s.io s.gadgets name = res
        obtain ⟨r₁, gadgets, io⟩ := res
        unfold uvcHandleMessage Message.hotplugAttached at hpart
        dsimp only at hpart
        rw [hatt] at hpart
        cases hpart
        have hscreens := (uvcGadgetAttach_does hatt).screens h.screens
        have hio := uvcGadgetAttach_unfilmed hatt
        exact ⟨rfl, hio.queue, (h.gadgetsTo hscreens).unfilmed hio fun p hp => hp⟩
    | hotplugDetached p name =>
        obtain ⟨⟨r₁, gadgets, io⟩, hd, hpart⟩ := bind_eq_ok.mp hpart
        cases hpart
        cases uvcGadgetDetach_does hd with
        | missed hno => exact ⟨rfl, rfl, h⟩
        | detached hsp hstop =>
            have hio := (uvcGadgetDetach_does hd).unfilmed
            exact ⟨rfl, hio.queue, (h.gadgetsTo (forall_erased hsp.eq h.screens)).unfilmed hio fun p hp => hp⟩
    | frameAvailable id p =>
        obtain ⟨⟨r₁, gadgets, io⟩, hd, hpart⟩ := bind_eq_ok.mp hpart
        cases hpart
        rcases uvcGadgetFillBuffer_copies hd with ⟨rfl, rfl⟩ | ⟨pre, g, post, f, size, heq, hobj, hlong, rfl, rfl⟩
        · exact ⟨rfl, rfl, h⟩
        · -- the pointer leads to the frame that is copied
          refine ⟨rfl, rfl, ?_⟩
          obtain ⟨c, hc, hcf⟩ := List.exists_of_findSome?_eq_some hobj
          obtain ⟨fb, hfb, hif⟩ := Option.bind_eq_some_iff.mp hcf
          split at hif
          · next haddr =>
              cases hif
              exact h.copied heq (hseen c hc) hfb (hlead p rfl c hc fb hfb haddr).2 hlong
          · cases hif
    | signal | setFmt | streamOn | streamOff | uvcAttached | uvcDetached => cases hpart; exact ⟨rfl, rfl, h⟩
  · cases hpart; exact ⟨rfl, rfl, h⟩

/-- Where the captures are asked for a format, every one is one of before, with its block. -/
theorem Filmed.retuned {captures : List Capture} (h : Filmed env seen s.gadgets s.captures s.io ps)
    (heach : List.Forall₂ Retuned s.captures captures) : Filmed env seen s.gadgets captures s.io ps := by
  have hfrom : ∀ c ∈ captures, ∃ x ∈ s.captures, Retuned x c := fun c hc => forall₂_right heach hc
  refine h.capturesTo (fun c hc => ?_) (fun c hc => ?_) fun c hc fb hfb => ?_
  · obtain ⟨x, hx, hr⟩ := hfrom c hc
    rw [hr.device]
    exact h.typed x hx
  · obtain ⟨x, hx, hr⟩ := hfrom c hc
    exact hr.films (h.films x hx)
  · obtain ⟨x, hx, hr⟩ := hfrom c hc
    have hfb' : x.buffers = some fb := hr.buffers.symm.trans hfb
    exact .inl ⟨x, hx, hfb', hr.keepsFormat (h.films x hx fb hfb').backed⟩

/-- **The capture module handles a message.** -/
theorem Filmed.capturePart (hbusy : env.RefusesBusy) {m : Message} {r : Int} (hm : Sendable m)
    (hplain : AllPlain s.captures) (hoff : ∀ c ∈ s.captures, c.isStreaming = false → c.buffers = none)
    (h : Filmed env seen s.gadgets s.captures s.io ps) (hpart : capturePart env s m = .ok (r, s')) :
    SameQueued s.io s'.io ∧ Filmed env seen s'.gadgets s'.captures s'.io ps := by
  unfold Uvcd.capturePart at hpart
  split at hpart
  · cases hm with
    | signal | frameAvailable | uvcAttached => cases hpart; exact ⟨rfl, h⟩
    | hotplugAttached p name =>
        generalize hatt : v4lCaptureAttach env s.io s.captures name = res
        obtain ⟨r₁, captures, io⟩ := res
        unfold captureHandleMessage Message.hotplugAttached at hpart
        dsimp only at hpart
        rw [hatt] at hpart
        cases hpart
        have hio := v4lCaptureAttach_unfilmed hatt
        refine ⟨hio.queue, Filmed.unfilmed ?_ hio fun p hp => hp⟩
        cases v4lCaptureAttach_does hatt with
        | missing hopen => exact h
        | rejected hup => exact h
        | attached hopen htype hmem =>
            exact h.capturesTo (forall_snoc h.typed htype) (forall_snoc h.films fun fb hfb => by cases hfb)
              (forall_snoc (fun x hx _ hfb => .inl ⟨x, hx, hfb, .refl x⟩) fun fb hfb => by cases hfb)
    | hotplugDetached p name =>
        obtain ⟨⟨r₁, captures, io⟩, hd, hpart⟩ := bind_eq_ok.mp hpart
        cases hpart
        cases v4lCaptureDetach_does hd with
        | missed hno => exact ⟨rfl, h⟩
        | detached hsp hstop =>
            have hio := (v4lCaptureDetach_does hd).unfilmed
            exact ⟨hio.queue, (h.erased hsp.eq).unfilmed hio fun p hp => hp⟩
    | setFmt id p fmt =>
        generalize hd : v4lCaptureSetFmt env s.io s.captures id fmt = res
        obtain ⟨r₁, captures, io⟩ := res
        obtain ⟨-, hio⟩ := v4lCaptureSetFmt_tunes hd
        have heach := v4lCaptureSetFmt_retunes hbusy hd
        unfold captureHandleMessage Message.setFmt at hpart
        dsimp only at hpart
        rw [hd] at hpart
        cases hpart
        rw [hio]
        exact ⟨rfl, (h.retuned heach).unfilmed (unfilmed_kernel s.io _) fun p hp => hp⟩
    | streamOn id | streamOff id =>
        obtain ⟨⟨r₁, captures, io⟩, hd, hpart⟩ := bind_eq_ok.mp hpart
        cases hpart
        cases v4lCaptureStream_does hd with
        | missed => exact ⟨rfl, h⟩
        | found hsp hs =>
            exact ⟨hs.unfilmed.queue, h.streamed (hplain _ hsp.mem) (hoff _ hsp.mem) hsp.eq hs⟩
    | uvcDetached id =>
        obtain ⟨⟨r₁, captures, io⟩, hd, hpart⟩ := bind_eq_ok.mp hpart
        cases hpart
        cases v4lCaptureDetachGadget_does hd with
        | missed => exact ⟨rfl, h⟩
        | found hsp hs =>
            exact ⟨hs.unfilmed.queue, h.streamed (hplain _ hsp.mem) (hoff _ hsp.mem) hsp.eq hs⟩
  · cases hpart; exact ⟨rfl, h⟩

/-! ## One step -/

/-- The invariant in a state of the daemon. -/
def Sys.Filmed (env : Env) (seen : Capture → Prop) (s : Sys) : Prop :=
  Uvcd.Filmed env seen s.gadgets s.captures s.io s.pointers

theorem looperHandle_filmed (hbusy : env.RefusesBusy) {m : Message} {batch : List Message} {rest : List EventIter}
    {s₁ : Sys} (hst : Staffed s) (hm : Sendable m) (hplain : AllPlain s.captures)
    (hoff : ∀ c ∈ s.captures, c.isStreaming = false → c.buffers = none)
    (hat : s.phase = .process (m :: batch) rest) (hseen : ∀ c ∈ s.captures, seen c) (h : s.Filmed env seen)
    (hs : looperHandle env s m = .ok s₁) :
    Sys.Filmed env seen { s₁ with phase := .process batch rest } := by
  obtain ⟨s₂, hd, rfl⟩ := looperHandle_dispatches hm hs
  obtain ⟨r, s₃, hu, hcase⟩ := looperDispatch_parts hst hd
  have hlead : ∀ p, announced m = some p → LeadsToWhole env s.captures p := fun p hp => by
    refine h.pending p ?_
    unfold Sys.pointers
    rw [hat]
    exact List.mem_filterMap.mpr ⟨m, List.mem_cons_self, hp⟩
  obtain ⟨hcaps, hq₃, h₃⟩ := Uvcd.Filmed.uvcPart hm hlead hseen h hu
  have h₂ : SameQueued s.io s₂.io ∧ Uvcd.Filmed env seen s₂.gadgets s₂.captures s₂.io s.pointers := by
    rcases hcase with ⟨-, rfl⟩ | ⟨-, r', hc⟩
    · exact ⟨hq₃, h₃⟩
    · obtain ⟨hq₂, h₂⟩ := h₃.capturePart hbusy hm (by rw [hcaps]; exact hplain) (by rw [hcaps]; exact hoff) hc
      exact ⟨hq₂.trans hq₃, h₂⟩
  refine Uvcd.Filmed.unfilmed h₂.2 (unfilmed_settle s₂.io m) fun p hp => ?_
  -- what is pending was pending before
  unfold Sys.pointers at hp ⊢
  rw [hat]
  have hqueue : (s₂.io.settle m).queue.filterMap announced = s.io.queue.filterMap announced :=
    (unfilmed_settle s₂.io m).queue.trans h₂.1
  rw [List.filterMap_append, List.mem_append] at hp ⊢
  refine hp.imp (fun hp => ?_) fun hp => ?_
  · exact ((List.sublist_cons_self m batch).filterMap announced).subset hp
  · rw [← hqueue]; exact hp

/-- A capture that does not stream has no block. -/
theorem Housed.blocks (h : Housed s.view) : ∀ c ∈ s.captures, c.isStreaming = false → c.buffers = none := by
  intro c hc hoff
  have hframed : c.isStreaming = c.buffers.isSome := h.framed c.view (List.mem_map_of_mem hc)
  rw [hoff] at hframed
  exact Option.isNone_iff_eq_none.mp (by simpa using hframed.symm)

/-- A block is at an address that has been given out. -/
theorem Housed.block_lt {c : Capture} {fb : FrameBufs} (h : Housed s.view) (hc : c ∈ s.captures)
    (hfb : c.buffers = some fb) : fb.addr < s.io.brk := by
  refine h.placed.lt fb.addr (List.mem_append_right _ (List.mem_flatMap.mpr ⟨c.view, List.mem_map_of_mem hc, ?_⟩))
  have hframes : c.view.frames = some fb := hfb
  unfold CaptureView.places
  rw [hframes]
  exact List.mem_cons_of_mem _ List.mem_cons_self

/-- The callback of a capture: a picture at most, with its pointer on the queue. -/
theorem captureProcess_filmed {addr : Nat} {pre post : List Capture} {c c' : Capture} {io : Io} {rest : List EventIter}
    (hh : Housed s.view) (hs : SplitsAt (·.addr = addr) s.captures pre c post)
    (hcall : captureProcess env s.io c = .ok (c', io)) (hseen : seen c') (h : s.Filmed env seen) :
    Sys.Filmed env seen (afterCall { s with captures := pre ++ c' :: post, io := io } rest) := by
  obtain ⟨htype, hkeeps, hfilms, hcase⟩ := captureProcess_films (h.typed c hs.mem) (h.films c hs.mem) hcall
  rcases hcase with ⟨hsame, hu⟩ | ⟨fb, fb', off, hfb, hfb', hne, hshot, hann⟩
  · have hold : Uvcd.Filmed env seen s.gadgets (pre ++ c' :: post) s.io s.pointers := by
      refine h.capturesTo (forall_replaced hs.eq h.typed htype) (forall_replaced hs.eq h.films hfilms) ?_
      exact forall_replaced hs.eq (fun x hx _ hb => .inl ⟨x, hx, hb, .refl x⟩) fun fb hb =>
        .inl ⟨c, hs.mem, hsame ▸ hb, hkeeps⟩
    refine hold.unfilmed hu (pointers_of_unfilmed hu fun m hm => ?_)
    rw [show (afterCall _ rest).phase.batch = [] from Phase.after_batch _ _] at hm
    cases hm
  · refine Uvcd.Filmed.shot h hs.eq htype hfilms hfb hfb' hseen hkeeps hne hshot hann
      (hh.block_lt hs.mem hfb) ?_ fun p hp => ?_
    · intro x hx y hy
      refine hh.apart (Sys.captures_view hs) x.view ?_ fb y hfb hy
      rw [← List.map_append]
      exact List.mem_map_of_mem hx
    · -- only the new pointer joins the queue
      have hold : ∀ x ∈ s.io.queue.filterMap announced, x ∈ s.pointers := fun x hx => by
        unfold Sys.pointers
        rw [List.filterMap_append]
        exact List.mem_append_right _ hx
      rw [pointers_after] at hp
      dsimp only at hp
      rcases hann.sent with ⟨hq, -⟩ | ⟨hq, -⟩
      · rw [hq] at hp
        exact .inl (hold p hp)
      · rw [hq, announced_snoc, List.mem_append, List.mem_singleton] at hp
        exact hp.imp (hold p) id

/-- **One step.** -/
theorem step_filmed (hbusy : env.RefusesBusy) (hst : s.Stands) (hh : s.phase ≠ .finished → Housed s.view)
    (hseen : ∀ c ∈ s.captures, seen c) (hseen' : ∀ c ∈ s'.captures, seen c) (h : s.Filmed env seen)
    (hstep : step env a s = .ok s') : s'.Filmed env seen := by
  -- where no frame moves
  have hquiet : ∀ {t : Sys}, Uvcd.Filmed env seen t.gadgets t.captures s.io s.pointers → Unfilmed s.io t.io →
      (∀ m ∈ t.phase.batch, m ∈ s.phase.batch) → t.Filmed env seen := fun ht hu hb =>
    ht.unfilmed hu (pointers_of_unfilmed hu hb)
  have hafter : ∀ (done : Bool) (rest : List EventIter), ∀ m ∈ (Phase.after done rest).batch, m ∈ s.phase.batch := by
    intro done rest m hm
    rw [Phase.after_batch] at hm
    cases hm
  cases step_does hst hstep with
  | turn hbatch hearly hover hidle => exact hquiet h (.refl _) fun m hm => by rw [← hbatch]; exact hm
  | plug name | unplug name => exact hquiet h (unfilmed_kernel _ _) fun m hm => hm
  | signal n => exact hquiet h (unfilmed_post env _ rfl) fun m hm => hm
  | init hat => exact hquiet h (hotplugInit_unfilmed env _) fun m hm => by cases hm
  | scan hat => exact hquiet h ((unfilmed_kernel _ _).trans (hotplugScan_unfilmed env _)) fun m hm => by cases hm
  | looper hat =>
      -- the batch is the beginning of the queue
      refine Uvcd.Filmed.of_eq h rfl rfl (Nat.le_refl _) fun p hp => ?_
      unfold Sys.pointers at hp ⊢
      rw [show ∀ l : List Message, Phase.batch (.process l _) = l from fun _ => rfl] at hp
      rw [List.take_append_drop] at hp
      rw [hat]
      exact hp
  | hotplug hat => exact hquiet h (hotplugProcess_unfilmed env _) (hafter _ _)
  | gadget hat hs hcall =>
      have hplain := ((hst.alive (by rw [hat]; simp)).fit.gadgets _ hs.mem).1
      exact hquiet (h.gadgetsTo (forall_replaced hs.eq h.screens ((h.screens _ hs.mem).calls hplain hcall)))
        hcall.unfilmed (hafter _ _)
  | video hat hs hcall =>
      have hplain := ((hst.alive (by rw [hat]; simp)).fit.gadgets _ hs.mem).1
      refine hquiet (h.gadgetsTo (forall_replaced hs.eq h.screens ((h.screens _ hs.mem).process hplain hcall)))
        ?_ (hafter _ _)
      show Unfilmed s.io _
      rw [(uvcVideoProcess_only hcall).2]
      exact unfilmed_kernel _ _
  | capture hat hs hcall =>
      exact captureProcess_filmed (hh (by rw [hat]; simp)) hs hcall
        (hseen' _ (List.mem_append_right _ List.mem_cons_self)) h
  | handle hat hm hserve =>
      rename_i m batch rest s₁
      have hal := hst.alive (by rw [hat]; simp)
      rw [step, next, hat] at hstep
      obtain ⟨s₂, hhandle, heq⟩ := bind_eq_ok.mp hstep
      injection heq with heq
      rw [← heq]
      exact looperHandle_filmed hbusy hal.fit.staffed hm hal.fit.captures (hh (by rw [hat]; simp)).blocks hat
        hseen h hhandle
  | cleanup hat hclean =>
      have hal := hst.alive (by rw [hat]; simp)
      obtain ⟨hg, hc⟩ := looperCleanup_empties hal.fit.staffed hclean
      rename_i s₁
      have hfilmed : Uvcd.Filmed env seen s₁.gadgets s₁.captures s.io s.pointers := by
        rw [hg, hc]
        exact ⟨List.forall_mem_nil _, List.forall_mem_nil _, h.issued, fun _ _ => List.forall_mem_nil _, h.posted,
          h.delivered, List.forall_mem_nil _⟩
      have hu : Unfilmed s.io s₁.io := looperCleanup_unfilmed hclean
      exact hquiet (t := { s₁ with phase := .finished }) hfilmed hu fun m hm => by cases hm

/-! ## Runs -/

/-- **What the frames and the buffers show**, the captures of `seen` having filmed. -/
structure Sys.Pictures (env : Env) (seen : Capture → Prop) (s : Sys) : Prop where
  /-- a frame that is sent or copied is all of one picture -/
  posted : ∀ f ∈ s.io.posted, f.Whole env seen
  delivered : ∀ f ∈ s.io.delivered, f.Whole env seen
  /-- a gadget shows all of a frame copied into it, or nothing yet -/
  images : ∀ g ∈ s.gadgets, Displays env s.io.delivered g.imgdata
  /-- and so does every buffer of its driver -/
  buffers : ∀ g ∈ s.gadgets, g.vdev.Holds (Displays env s.io.delivered)

/-- Some state the run passes has the capture. -/
def Passed (env : Env) (as : List Action) (s : Sys) (c : Capture) : Prop :=
  ∃ bs t, bs <+: as ∧ run env bs s = .ok t ∧ c ∈ t.captures

theorem boot_filmed (env : Env) (seen : Capture → Prop) (nodes : List DevName) (inforce : Nat → PixFormat) :
    (boot env nodes inforce).Filmed env seen := by
  have hio := unfilmed_watch env ⟨⟨2, 4 :: 3 :: stdFds, inforce, nodes, [], false, [.open 3, .open 4]⟩, eventsInit,
    [], 0, [], [], [], [], []⟩ 3 .read .looperProcess .looper
  refine ⟨List.forall_mem_nil _, List.forall_mem_nil _, fun p hp => ?_, fun p _ => List.forall_mem_nil _, ?_, ?_,
    List.forall_mem_nil _⟩
  · have hnil : (boot env nodes inforce).pointers = [] := hio.queue
    rw [hnil] at hp
    cases hp
  · have hnil : (boot env nodes inforce).io.posted = [] := hio.posted
    rw [hnil]
    exact List.forall_mem_nil _
  · have hnil : (boot env nodes inforce).io.delivered = [] := hio.delivered
    rw [hnil]
    exact List.forall_mem_nil _

/-- **What the host sees is whole frames.** Where drivers refuse formats while buffers are allocated, a run that does
    not fault publishes and copies whole frames only, each all of an internal buffer of a capture the run had, in its
    format, and every gadget and every buffer of its driver shows the picture of one frame that has been copied, from
    its first byte to its last, or nothing at all. -/
theorem pictures_whole (hbusy : env.RefusesBusy) {nodes : List DevName} {inforce : Nat → PixFormat}
    {as : List Action} (hrun : run env as (boot env nodes inforce) = .ok s) :
    s.Pictures env (Passed env as (boot env nodes inforce)) := by
  have hpassed : Throughout (step env) (fun t => ∀ c ∈ t.captures, Passed env as (boot env nodes inforce) c) as
      (boot env nodes inforce) := fun bs t hbs ht c hc => ⟨bs, t, hbs, ht, hc⟩
  generalize Passed env as (boot env nodes inforce) = seen at hpassed ⊢
  have hinv : (Machine.Reachable (step env) (boot env nodes inforce) s ∧ s.Stands) ∧ s.Filmed env seen := by
    refine run_inv_along
      (I := fun s => (Machine.Reachable (step env) (boot env nodes inforce) s ∧ s.Stands) ∧ s.Filmed env seen)
      ?_ ⟨⟨⟨[], rfl⟩, .inr (boot_alive env nodes inforce)⟩, boot_filmed env seen nodes inforce⟩ hpassed.along hrun
    rintro a s t ⟨⟨hreach, hst⟩, hf⟩ ⟨hseen, hseen'⟩ hstep
    have hhoused : s.phase ≠ .finished → Housed s.view := fun hrun =>
      (reaches_standing ⟨nodes, inforce, hreach⟩ hrun).2.housed
    refine ⟨⟨?_, hst.step hstep⟩, step_filmed hbusy hst hhoused hseen (hseen' t hstep) hf hstep⟩
    obtain ⟨as, has⟩ := hreach
    exact ⟨as ++ [a], run_append_ok.mpr ⟨s, has, run_cons_ok.mpr ⟨t, hstep, rfl⟩⟩⟩
  have hf := hinv.2
  exact ⟨hf.posted, hf.delivered, fun g hg => (hf.screens g hg).image, fun g hg => (hf.screens g hg).buffers⟩

/-- The bench with drivers that keep to a format while buffers are allocated, and hand out frames that tell the call
    they were handed out at. -/
def filmingBench : Env :=
  { bench 900 with
    sFmt := fun _ file fmt =>
      if file.count = 0 then .ok { fmt with sizeimage := fmt.width * fmt.height * 2 } else .error .EBUSY
    dqbuf := fun t file => match file.queued with
      | [] => .error .EINVAL
      | i :: _ => .ok ⟨i, file.reqfmt.frameBytes, fun k => UInt8.ofNat (t + k)⟩ }

theorem filmingBench_refusesBusy : filmingBench.RefusesBusy := by
  intro t file fmt hcount
  exact ⟨.EBUSY, if_neg hcount⟩

/-- Two frames are filmed, the first is copied, and one of the host's buffers shows it. -/
theorem pictures_whole_streaming :
    ∃ s, run filmingBench (streamUp ++ turn [7] 12 ++ turn [3, 6, 7] 12)
        (boot filmingBench [videoName 0, videoName 1] fun _ => .zero) = .ok s ∧
      (s.io.delivered.map (·.stamp) = [81] ∧
        ∃ g ∈ s.gadgets, ∃ b ∈ g.vdev.buffers, b.mem.map (fun m => (m 0, m 5)) = some (81, 86)) ∧
      s.Pictures filmingBench (Passed filmingBench (streamUp ++ turn [7] 12 ++ turn [3, 6, 7] 12)
        (boot filmingBench [videoName 0, videoName 1] fun _ => .zero)) := by
  obtain ⟨s, h, hd⟩ : ∃ s, run filmingBench (streamUp ++ turn [7] 12 ++ turn [3, 6, 7] 12)
      (boot filmingBench [videoName 0, videoName 1] fun _ => .zero) = .ok s ∧ s.io.delivered.map (·.stamp) = [81] ∧
        ∃ g ∈ s.gadgets, ∃ b ∈ g.vdev.buffers, b.mem.map (fun m => (m 0, m 5)) = some (81, 86) := by
    decide +kernel
  exact ⟨s, h, hd, pictures_whole filmingBench_refusesBusy h⟩

end Uvcd
