import Uvcd.Refinement.Calls

/-!
# `Refinement.Served` — the messages, by what the handlers call

The inversions of what the two handlers call (`UvcAttaches`, `UvcDetaches`, …) and of the handlers themselves
(`UvcServes`, `CaptureServes`).
-/

namespace Uvcd

open Machine Split

variable {env : Env} {k k' : Kernel} {d d' : Device} {io io' : Io} {g g' : Gadget} {c c' : Capture}
  {gadgets gadgets' : List Gadget} {captures captures' : List Capture} {name : DevName} {id : UInt32} {r : Int}

/-! ## Attaching -/

/-- An opened device is given up again. -/
structure GivenUp (env : Env) (io : Io) (name : DevName) (io' : Io) : Prop where
  silent : Silent io io'
  kernel : ∃ dev k k₁, v4l2Open env io.kernel name = (some dev, k) ∧ Talks dev.fd k k₁ ∧
    io'.kernel = k₁.closeFd dev.fd

/-- **What `uvc_gadget_attach` does.** -/
inductive UvcAttaches (env : Env) (io : Io) (gadgets : List Gadget) (name : DevName) :
    Int → List Gadget → Io → Prop
  | missing {k : Kernel} (hopen : v4l2Open env io.kernel name = (none, k)) :
      UvcAttaches env io gadgets name (-1) gadgets { io with kernel := k }
  | rejected {io' : Io} (hup : GivenUp env io name io') : UvcAttaches env io gadgets name (-1) gadgets io'
  | attached {dev : Device} {k k₁ : Kernel} {io₁ : Io} {addr : Nat} {ret : Int} {g : Gadget}
      (hopen : v4l2Open env io.kernel name = (some dev, k)) (htype : dev.type = .videoOutput)
      (hmem : Io.malloc env { io with kernel := k } = (some addr, io₁))
      (hinit : uvcGadgetInit uvcFormats env io₁.kernel.ask
        (.fresh addr dev (current (env.clock io₁.kernel.tick))) = (ret, g, k₁)) (hret : ¬ret < 0) :
      UvcAttaches env io gadgets name 0 (gadgets ++ [g])
        ((Io.watch env { io₁ with kernel := k₁ } g.vdev.fd .exception .uvcGadgetProcess (.gadget addr)).post env
          (.uvcAttached (current (env.clock io₁.kernel.tick))))

/-- **What `v4l_capture_attach` does.** -/
inductive V4lAttaches (env : Env) (io : Io) (captures : List Capture) (name : DevName) :
    Int → List Capture → Io → Prop
  | missing {k : Kernel} (hopen : v4l2Open env io.kernel name = (none, k)) :
      V4lAttaches env io captures name (-1) captures { io with kernel := k }
  | rejected {io' : Io} (hup : GivenUp env io name io') : V4lAttaches env io captures name (-1) captures io'
  | attached {dev : Device} {k : Kernel} {io₁ : Io} {addr : Nat}
      (hopen : v4l2Open env io.kernel name = (some dev, k)) (htype : dev.type = .videoCapture)
      (hmem : Io.malloc env { io with kernel := k } = (some addr, io₁)) :
      V4lAttaches env io captures name 0 (captures ++ [.fresh addr dev]) io₁

/-- `uvc_gadget_init` fills in the controls and subscribes to the events. -/
theorem uvcGadgetInit_talks {formats : List FormatInfo} {ret : Int}
    (h : uvcGadgetInit formats env k g = (ret, g', k')) :
    Talks g.vdev.fd k k' ∧ g' = { g with probe := g'.probe, commit := g'.commit } := by
  obtain ⟨-, probe, commit, hg⟩ := uvcGadgetInit_spec h
  refine ⟨?_, by rw [hg]⟩
  unfold uvcGadgetInit at h
  dsimp only at h
  generalize hs : subscribeAll env _ _ _ k = r at h
  obtain ⟨ret₁, k₁⟩ := r
  cases h
  have ht := (subscribeAll_chats .refl hs).talks
  split at ht <;> exact ht

theorem malloc_kernel {r : Option Nat} (h : io.malloc env = (r, io')) : io'.kernel = io.kernel.ask := by
  unfold Io.malloc at h
  split at h <;> · cases h; rfl

theorem uvcGadgetAttach_does (h : uvcGadgetAttach env io gadgets name = (r, gadgets', io')) :
    UvcAttaches env io gadgets name r gadgets' io' := by
  unfold uvcGadgetAttach at h
  cases hopen : v4l2Open env io.kernel name with
  | mk dev? k =>
      rw [hopen] at h
      cases dev? with
      | none => cases h; exact .missing hopen
      | some dev =>
          dsimp only at h
          have hk : Silent io { io with kernel := k } := silent_kernel io k
          split at h
          · -- not an output device
            cases h
            exact .rejected ⟨hk.before (silent_kernel _ _), dev, k, k, hopen, .refl _ _, rfl⟩
          · next htype =>
              cases hmem : Io.malloc env { io with kernel := k } with
              | mk addr? io₁ =>
                  rw [hmem] at h
                  have hio₁ := malloc_kernel hmem
                  have hl := hk.before (silent_malloc hmem)
                  have htalk : Talks dev.fd k io₁.kernel := by rw [hio₁]; exact .ask _ _
                  cases addr? with
                  -- no memory
                  | none =>
                      cases h
                      exact .rejected ⟨hl.before (silent_kernel _ _), dev, k, _, hopen, htalk, rfl⟩
                  | some addr =>
                      dsimp only at h
                      generalize hinit : uvcGadgetInit uvcFormats env io₁.kernel.ask
                        (.fresh addr dev (current (env.clock io₁.kernel.tick))) = res at h
                      obtain ⟨ret, g, k₁⟩ := res
                      have htalk₁ : Talks dev.fd k k₁ :=
                        (htalk.trans (.ask _ _)).trans (uvcGadgetInit_talks hinit).1
                      dsimp only at h
                      split at h
                      · -- a subscription failed
                        cases h
                        exact .rejected ⟨hl.before (silent_kernel _ _), dev, k, k₁, hopen, htalk₁, rfl⟩
                      · next hret =>
                          cases h
                          exact .attached hopen (not_not.mp htype) hmem hinit hret

theorem v4lCaptureAttach_does (h : v4lCaptureAttach env io captures name = (r, captures', io')) :
    V4lAttaches env io captures name r captures' io' := by
  unfold v4lCaptureAttach at h
  cases hopen : v4l2Open env io.kernel name with
  | mk dev? k =>
      rw [hopen] at h
      cases dev? with
      | none => cases h; exact .missing hopen
      | some dev =>
          dsimp only at h
          have hk : Silent io { io with kernel := k } := silent_kernel io k
          split at h
          · -- not a capture device
            cases h
            exact .rejected ⟨hk.before (silent_kernel _ _), dev, k, k, hopen, .refl _ _, rfl⟩
          · next htype =>
              cases hmem : Io.malloc env { io with kernel := k } with
              | mk addr? io₁ =>
                  rw [hmem] at h
                  have hio₁ := malloc_kernel hmem
                  cases addr? with
                  -- no memory
                  | none =>
                      cases h
                      refine .rejected ⟨(hk.before (silent_malloc hmem)).before (silent_kernel _ _), dev, k, _,
                        hopen, ?_, rfl⟩
                      rw [hio₁]
                      exact .ask _ _
                  | some addr =>
                      cases h
                      exact .attached hopen (not_not.mp htype) hmem

/-! ## Detaching -/

/-- **What `uvc_gadget_detach` does.** -/
inductive UvcDetaches (env : Env) (io : Io) (gadgets : List Gadget) (name : DevName) :
    Int → List Gadget → Io → Prop
  | missed (h : ∀ g ∈ gadgets, g.vdev.name ≠ name) : UvcDetaches env io gadgets name (-1) gadgets io
  | detached {pre post : List Gadget} {g g₁ : Gadget} {io₁ : Io} {ret : Int}
      (hs : SplitsAt (·.vdev.name = name) gadgets pre g post) (hstop : UvcStreams env io g false ret g₁ io₁) :
      UvcDetaches env io gadgets name 0 (pre ++ post)
        (Io.post env { io₁.unwatch g₁.vdev.fd .exception with kernel := v4l2Close io₁.kernel g₁.vdev }
          (.uvcDetached g₁.id))

/-- **What `v4l_capture_detach` does.** -/
inductive V4lDetaches (env : Env) (io : Io) (captures : List Capture) (name : DevName) :
    Int → List Capture → Io → Prop
  | missed (h : ∀ c ∈ captures, c.vdev.name ≠ name) : V4lDetaches env io captures name (-1) captures io
  | detached {pre post : List Capture} {c c₁ : Capture} {io₁ : Io} {ret : Int}
      (hs : SplitsAt (·.vdev.name = name) captures pre c post) (hstop : V4lStreams env io c false ret c₁ io₁) :
      V4lDetaches env io captures name 0 (pre ++ post) { io₁ with kernel := v4l2Close io₁.kernel c₁.vdev }

theorem uvcGadgetDetach_does (h : uvcGadgetDetach env io gadgets name = .ok (r, gadgets', io')) :
    UvcDetaches env io gadgets name r gadgets' io' := by
  unfold uvcGadgetDetach at h
  split at h
  · next hnone =>
      unfold strayCursor at h
      split at h
      · cases h
      · cases h
        exact .missed (splitFirst_decide_none.mp hnone)
  · next pre g post hs =>
      obtain ⟨⟨ret, g₁, io₁⟩, hstop, h⟩ := bind_eq_ok.mp h
      dsimp only at h
      split at h
      · cases h
      · cases h
        exact .detached (splitFirst_decide.mp hs) (uvcVideoStream_streams hstop)

theorem v4lCaptureDetach_does (h : v4lCaptureDetach env io captures name = .ok (r, captures', io')) :
    V4lDetaches env io captures name r captures' io' := by
  unfold v4lCaptureDetach at h
  split at h
  · next hnone =>
      cases h
      exact .missed (splitFirst_decide_none.mp hnone)
  · next pre c post hs =>
      obtain ⟨⟨ret, c₁, io₁⟩, hstop, h⟩ := bind_eq_ok.mp h
      cases h
      exact .detached (splitFirst_decide.mp hs) (v4lVideoStream_streams hstop)

/-! ## Pairing -/

/-- **What `v4l_capture_stream` does.** -/
inductive V4lCaptureStreams (env : Env) (io : Io) (captures : List Capture) (id : UInt32) (on : Bool) :
    List Capture → Io → Prop
  | missed : V4lCaptureStreams env io captures id on captures io
  | found {pre post : List Capture} {c c' : Capture} {io' : Io} {ret : Int}
      (hs : SplitsAt (·.gadgetId = id) captures pre c post) (h : V4lStreams env io c on ret c' io') :
      V4lCaptureStreams env io captures id on (pre ++ c' :: post) io'

theorem v4lCaptureStream_does {on : Bool} (h : v4lCaptureStream env io captures id on = .ok (r, captures', io')) :
    V4lCaptureStreams env io captures id on captures' io' := by
  unfold v4lCaptureStream at h
  split at h
  · cases h; exact .missed
  · next pre c post hs =>
      obtain ⟨⟨ret, c₁, io₁⟩, hstream, h⟩ := bind_eq_ok.mp h
      cases h
      exact .found (splitFirst_decide.mp hs) (v4lVideoStream_streams hstream)

/-- **What `v4l_capture_detach_gadget` does.** -/
inductive V4lParts (env : Env) (io : Io) (captures : List Capture) (id : UInt32) : List Capture → Io → Prop
  | missed : V4lParts env io captures id captures io
  | found {pre post : List Capture} {c c' : Capture} {io' : Io} {ret : Int}
      (hs : SplitsAt (·.gadgetId = id) captures pre c post) (h : V4lStreams env io c false ret c' io') :
      V4lParts env io captures id (pre ++ { c' with gadgetId := 0 } :: post) io'

theorem v4lCaptureDetachGadget_does (h : v4lCaptureDetachGadget env io captures id = .ok (r, captures', io')) :
    V4lParts env io captures id captures' io' := by
  unfold v4lCaptureDetachGadget at h
  split at h
  · cases h; exact .missed
  · next pre c post hs =>
      obtain ⟨⟨ret, c₁, io₁⟩, hstream, h⟩ := bind_eq_ok.mp h
      cases h
      exact .found (splitFirst_decide.mp hs) (v4lVideoStream_streams hstream)

/-- Between `k` and `k'` the program calls nothing but `ioctl`s on descriptors that satisfy `P`. -/
structure Speaks (P : Nat → Prop) (k k' : Kernel) : Prop where
  trace : ∃ l, k'.trace = k.trace ++ l ∧ ∀ x ∈ l, ∃ fd, P fd ∧ x = .ioctl fd
  opened : k'.opened = k.opened

theorem Speaks.refl (P : Nat → Prop) (k : Kernel) : Speaks P k k :=
  ⟨⟨[], (List.append_nil _).symm, fun x hx => by cases hx⟩, rfl⟩

theorem Speaks.trans {P : Nat → Prop} {k'' : Kernel} (h : Speaks P k k') (h' : Speaks P k' k'') :
    Speaks P k k'' := by
  obtain ⟨l, hl, hP⟩ := h.trace
  obtain ⟨l', hl', hP'⟩ := h'.trace
  refine ⟨⟨l ++ l', by rw [hl', hl, List.append_assoc], fun x hx => ?_⟩, h'.opened.trans h.opened⟩
  exact (List.mem_append.mp hx).elim (hP x) (hP' x)

theorem Speaks.mono {P Q : Nat → Prop} (hPQ : ∀ fd, P fd → Q fd) (h : Speaks P k k') : Speaks Q k k' := by
  obtain ⟨l, hl, hP⟩ := h.trace
  refine ⟨⟨l, hl, fun x hx => ?_⟩, h.opened⟩
  obtain ⟨fd, hfd, rfl⟩ := hP x hx
  exact ⟨fd, hPQ fd hfd, rfl⟩

theorem Talks.speaks {P : Nat → Prop} {fd : Nat} (h : Talks fd k k') (hP : P fd) : Speaks P k k' := by
  obtain ⟨n, hn⟩ := h.trace
  exact ⟨⟨_, hn, fun x hx => ⟨fd, hP, List.eq_of_mem_replicate hx⟩⟩, h.opened⟩

/-- What trying a format does to a capture that is not paired anew by it. -/
structure Tuned (c c' : Capture) : Prop where
  device : c'.vdev = { c.vdev with format := c'.vdev.format }
  addr : c'.addr = c.addr
  streaming : c'.isStreaming = c.isStreaming
  buffers : c'.buffers = c.buffers

theorem Tuned.refl (c : Capture) : Tuned c c := ⟨rfl, rfl, rfl, rfl⟩

theorem Tuned.trans {c'' : Capture} (h : Tuned c c') (h' : Tuned c' c'') : Tuned c c'' :=
  ⟨by rw [h'.device, h.device], h'.addr.trans h.addr, h'.streaming.trans h.streaming,
    h'.buffers.trans h.buffers⟩

theorem tryFormats_tunes {fmt : PixFormat} {pfs : List UInt32} :
    ∀ {k k' : Kernel} {c c' : Capture} {ret : Int}, tryFormats env fmt pfs k c = (ret, k', c') →
      Tuned c c' ∧ Talks c.vdev.fd k k' := by
  induction pfs with
  | nil => intro k k' c c' ret h; cases h; exact ⟨.refl c, .refl _ _⟩
  | cons pf pfs ih =>
      intro k k' c c' ret h
      rw [tryFormats] at h
      generalize hs : v4l2SetFormat env k c.vdev
        ⟨fmt.width, fmt.height, pf, PixFormat.FIELD_ANY, 0⟩ = r at h
      obtain ⟨ret₁, fmt₁, k₁, d₁⟩ := r
      obtain ⟨-, hd, -⟩ := v4l2SetFormat_spec hs
      have hdr := v4l2SetFormat_drives hs
      dsimp only at h
      split at h
      · cases h; exact ⟨⟨hd, rfl, rfl, rfl⟩, hdr.talks⟩
      · obtain ⟨ht, htalk⟩ := ih h
        have hfd : Talks c.vdev.fd k₁ k' := hdr.fd ▸ htalk
        have h₁ : Tuned c { c with vdev := d₁ } := ⟨hd, rfl, rfl, rfl⟩
        exact ⟨h₁.trans ht, hdr.talks.trans hfd⟩

theorem v4lVideoTrySetFormat_tunes {fmt : PixFormat} (h : v4lVideoTrySetFormat env k c fmt = (r, k', c')) :
    Tuned c c' ∧ Talks c.vdev.fd k k' := by
  unfold v4lVideoTrySetFormat at h
  split at h
  · cases h; exact ⟨.refl c, .refl _ _⟩
  · exact tryFormats_tunes h

/-- Two passes over a list come to one. -/
theorem forall₂_trans {α : Type} {R : α → α → Prop} (htrans : ∀ x y z, R x y → R y z → R x z) {as bs ds : List α}
    (h : List.Forall₂ R as bs) : List.Forall₂ R bs ds → List.Forall₂ R as ds := by
  induction h generalizing ds with
  | nil => exact id
  | cons hab _ ih =>
      intro hbd
      cases hbd with
      | cons hbd hrest => exact .cons (htrans _ _ _ hab hbd) (ih hrest)

/-- What becomes of one element in a pass over the list. -/
theorem forall₂_mid {α : Type} {R : α → α → Prop} {x : α} {post l : List α} :
    ∀ {pre : List α}, List.Forall₂ R (pre ++ x :: post) l → ∃ y, l[pre.length]? = some y ∧ R x y := by
  intro pre
  induction pre generalizing l with
  | nil =>
      intro h
      cases h with
      | cons hxy _ => exact ⟨_, rfl, hxy⟩
  | cons a pre ih =>
      intro h
      cases h with
      | cons _ hrest => exact ih hrest

/-- Trying a format on the captures of a list. -/
structure TunesAll (k : Kernel) (cs : List Capture) (k' : Kernel) (cs' : List Capture) : Prop where
  each : List.Forall₂ Tuned cs cs'
  speaks : Speaks (fun fd => ∃ c ∈ cs, c.vdev.fd = fd) k k'

theorem TunesAll.refl (k : Kernel) (cs : List Capture) : TunesAll k cs k cs :=
  ⟨List.forall₂_same.mpr fun c _ => .refl c, .refl _ _⟩

theorem TunesAll.cons {cs cs' : List Capture} {k₁ : Kernel} (ht : Tuned c c') (htalk : Talks c.vdev.fd k k₁)
    (h : TunesAll k₁ cs k' cs') : TunesAll k (c :: cs) k' (c' :: cs') := by
  refine ⟨.cons ht h.each, (htalk.speaks ⟨c, List.mem_cons_self, rfl⟩).trans (h.speaks.mono ?_)⟩
  rintro fd ⟨x, hx, hfd⟩
  exact ⟨x, List.mem_cons_of_mem _ hx, hfd⟩

/-- Two passes over the list. -/
theorem TunesAll.trans {cs cs' cs'' : List Capture} {k'' : Kernel} (h : TunesAll k cs k' cs')
    (h' : TunesAll k' cs' k'' cs'') : TunesAll k cs k'' cs'' := by
  have hfds : ∀ {as bs : List Capture}, List.Forall₂ Tuned as bs → ∀ fd, (∃ c ∈ bs, c.vdev.fd = fd) →
      ∃ c ∈ as, c.vdev.fd = fd := by
    intro as bs hab
    induction hab with
    | nil => exact fun fd h => h
    | cons hab _ ih =>
        rintro fd ⟨x, hx, hfd⟩
        rcases List.mem_cons.mp hx with rfl | hx
        · exact ⟨_, List.mem_cons_self, by rw [← hfd, hab.device]⟩
        · obtain ⟨y, hy, hyfd⟩ := ih fd ⟨x, hx, hfd⟩
          exact ⟨y, List.mem_cons_of_mem _ hy, hyfd⟩
  exact ⟨forall₂_trans (R := Tuned) (fun _ _ _ => Tuned.trans) h.each h'.each,
    h.speaks.trans (h'.speaks.mono (hfds h.each))⟩

theorem setFmtHolder_tunes {fmt : PixFormat} {cs : List Capture} :
    ∀ {k k' : Kernel} {cs' : List Capture} {taken : Bool}, setFmtHolder env id fmt cs k = (taken, cs', k') →
      TunesAll k cs k' cs' := by
  induction cs with
  | nil => intro k k' cs' taken h; cases h; exact .refl _ _
  | cons c cs ih =>
      intro k k' cs' taken h
      rw [setFmtHolder] at h
      split at h
      · generalize ht : v4lVideoTrySetFormat env k c fmt = r at h
        obtain ⟨ret, k₁, c₁⟩ := r
        obtain ⟨htune, htalk⟩ := v4lVideoTrySetFormat_tunes ht
        dsimp only at h
        split at h
        · cases h; exact .cons htune htalk (.refl _ _)
        · cases h
          have h₁ : Tuned c { c₁ with gadgetId := 0 } :=
            ⟨htune.device, htune.addr, htune.streaming, htune.buffers⟩
          exact .cons h₁ htalk (.refl _ _)
      · generalize hr : setFmtHolder env id fmt cs k = r at h
        obtain ⟨taken₁, cs₁, k₁⟩ := r
        cases h
        exact .cons (.refl c) (.refl _ _) (ih hr)

theorem setFmtFree_tunes {fmt : PixFormat} {cs : List Capture} :
    ∀ {k k' : Kernel} {cs' : List Capture} {taken : Bool}, setFmtFree env id fmt cs k = (taken, cs', k') →
      TunesAll k cs k' cs' := by
  induction cs with
  | nil => intro k k' cs' taken h; cases h; exact .refl _ _
  | cons c cs ih =>
      intro k k' cs' taken h
      rw [setFmtFree] at h
      split at h
      · generalize ht : v4lVideoTrySetFormat env k c fmt = r at h
        obtain ⟨ret, k₁, c₁⟩ := r
        obtain ⟨htune, htalk⟩ := v4lVideoTrySetFormat_tunes ht
        dsimp only at h
        split at h
        · generalize hr : setFmtFree env id fmt cs k₁ = r at h
          obtain ⟨taken₁, cs₁, k₂⟩ := r
          cases h
          exact .cons htune htalk (ih hr)
        · cases h
          have h₁ : Tuned c { c₁ with gadgetId := id } :=
            ⟨htune.device, htune.addr, htune.streaming, htune.buffers⟩
          exact .cons h₁ htalk (.refl _ _)
      · generalize hr : setFmtFree env id fmt cs k = r at h
        obtain ⟨taken₁, cs₁, k₁⟩ := r
        cases h
        exact .cons (.refl c) (.refl _ _) (ih hr)

/-- **What `v4l_capture_set_fmt` does.** -/
theorem v4lCaptureSetFmt_tunes {fmt : PixFormat}
    (h : v4lCaptureSetFmt env io captures id fmt = (r, captures', io')) :
    TunesAll io.kernel captures io'.kernel captures' ∧ io' = { io with kernel := io'.kernel } := by
  unfold v4lCaptureSetFmt at h
  generalize hh : setFmtHolder env id fmt captures io.kernel = res at h
  obtain ⟨taken, cs₁, k₁⟩ := res
  have h₁ := setFmtHolder_tunes hh
  dsimp only at h
  split at h
  · cases h; exact ⟨h₁, rfl⟩
  · generalize hf : setFmtFree env id fmt cs₁ k₁ = res at h
    obtain ⟨taken₂, cs₂, k₂⟩ := res
    cases h
    exact ⟨h₁.trans (setFmtFree_tunes hf), rfl⟩

/-! ## The two handlers -/

/-- What the gadget module does with a message; `1` claims it. -/
inductive UvcServes (env : Env) (s : Sys) : Message → Int → Sys → Prop
  | skipped {m : Message} : UvcServes env s m 0 s
  | attach {p : Nat} {name : DevName} {r : Int} {gadgets : List Gadget} {io : Io} (hreg : .uvc ∈ s.handlers)
      (h : UvcAttaches env s.io s.gadgets name r gadgets io) :
      UvcServes env s (.hotplugAttached p name) (if r = 0 then 1 else 0) { s with gadgets := gadgets, io := io }
  | detach {p : Nat} {name : DevName} {r : Int} {gadgets : List Gadget} {io : Io}
      (h : UvcDetaches env s.io s.gadgets name r gadgets io) :
      UvcServes env s (.hotplugDetached p name) (if r = 0 then 1 else 0) { s with gadgets := gadgets, io := io }
  | copied {id : UInt32} {p : FramePtr} {pre post : List Gadget} {g : Gadget} {f : Frame} {img : Bytes}
      (hs : SplitsAt (·.id = id) s.gadgets pre g post) :
      UvcServes env s (.frameAvailable id p) 1
        { s with
          gadgets := pre ++ { g with imgdata := img } :: post
          io := { s.io with delivered := s.io.delivered ++ [f] } }

/-- What the capture module does with a message. -/
inductive CaptureServes (env : Env) (s : Sys) : Message → Sys → Prop
  | skipped {m : Message} : CaptureServes env s m s
  | attach {p : Nat} {name : DevName} {r : Int} {captures : List Capture} {io : Io}
      (h : V4lAttaches env s.io s.captures name r captures io) :
      CaptureServes env s (.hotplugAttached p name) { s with captures := captures, io := io }
  | detach {p : Nat} {name : DevName} {r : Int} {captures : List Capture} {io : Io}
      (h : V4lDetaches env s.io s.captures name r captures io) :
      CaptureServes env s (.hotplugDetached p name) { s with captures := captures, io := io }
  | setFmt {id : UInt32} {p : Nat} {fmt : PixFormat} {captures : List Capture} {k : Kernel}
      (h : TunesAll s.io.kernel s.captures k captures) :
      CaptureServes env s (.setFmt id p fmt) { s with captures := captures, io := { s.io with kernel := k } }
  | stream {id : UInt32} (on : Bool) {captures : List Capture} {io : Io}
      (h : V4lCaptureStreams env s.io s.captures id on captures io) :
      CaptureServes env s (streamNews id on) { s with captures := captures, io := io }
  | part {id : UInt32} {captures : List Capture} {io : Io} (h : V4lParts env s.io s.captures id captures io) :
      CaptureServes env s (.uvcDetached id) { s with captures := captures, io := io }

/-- **What the two handlers do with a message**, the gadget module first. -/
def Serves (env : Env) (s : Sys) (m : Message) (s' : Sys) : Prop :=
  ∃ r s₁, UvcServes env s m r s₁ ∧ ((r = 1 ∧ s' = s₁) ∨ CaptureServes env s₁ m s')

/-- The gadget module passes over the messages about streams and formats. -/
theorem UvcServes.passed {s s' : Sys} {m : Message} (h : UvcServes env s m r s') (h₁ : m.what ≠ .hotplugAttached)
    (h₂ : m.what ≠ .hotplugDetached) (h₃ : m.what ≠ .videoFrameAvailable) : s' = s := by
  cases h with
  | skipped => rfl
  | attach hreg hatt => exact absurd rfl h₁
  | detach hdet => exact absurd rfl h₂
  | copied hsp => exact absurd rfl h₃

theorem CaptureServes.gadgets_eq {s s' : Sys} {m : Message} (h : CaptureServes env s m s') :
    s'.gadgets = s.gadgets := by
  cases h <;> rfl

/-- The capture module does not touch the gadgets. -/
theorem Serves.uvc {s s' : Sys} {m : Message} (h : Serves env s m s') :
    ∃ r s₁, UvcServes env s m r s₁ ∧ s'.gadgets = s₁.gadgets := by
  obtain ⟨r, s₁, hu, hc⟩ := h
  refine ⟨r, s₁, hu, ?_⟩
  rcases hc with ⟨-, rfl⟩ | hc
  · rfl
  · exact hc.gadgets_eq

theorem uvcPart_serves {s s' : Sys} {m : Message} (hm : Sendable m) (h : uvcPart env s m = .ok (r, s')) :
    UvcServes env s m r s' := by
  unfold uvcPart at h
  split at h
  · next hreg =>
      cases hm with
      | signal n => cases h; exact .skipped
      | hotplugAttached p name =>
          cases h
          exact .attach hreg (uvcGadgetAttach_does rfl)
      | hotplugDetached p name =>
          obtain ⟨⟨r₁, gadgets, io⟩, hd, h⟩ := bind_eq_ok.mp h
          cases h
          exact .detach (uvcGadgetDetach_does hd)
      | setFmt id p fmt => cases h; exact .skipped
      | streamOn id => cases h; exact .skipped
      | streamOff id => cases h; exact .skipped
      | frameAvailable id p =>
          obtain ⟨⟨r₁, gadgets, io⟩, hd, h⟩ := bind_eq_ok.mp h
          rcases uvcGadgetFillBuffer_spec hd with
            ⟨rfl, rfl, rfl, -⟩ | ⟨rfl, pre, g, post, f, size, img, hs, -, -, rfl, rfl⟩
          · cases h; exact .skipped
          · cases h; exact .copied hs
      | uvcAttached id => cases h; exact .skipped
      | uvcDetached id => cases h; exact .skipped
  · cases h; exact .skipped

theorem capturePart_serves {s s' : Sys} {m : Message} (hm : Sendable m) (h : capturePart env s m = .ok (r, s')) :
    CaptureServes env s m s' := by
  unfold capturePart at h
  split at h
  · cases hm with
    | signal n => cases h; exact .skipped
    | hotplugAttached p name =>
        cases h
        exact .attach (v4lCaptureAttach_does rfl)
    | hotplugDetached p name =>
        obtain ⟨⟨r₁, captures, io⟩, hd, h⟩ := bind_eq_ok.mp h
        cases h
        exact .detach (v4lCaptureDetach_does hd)
    | setFmt id p fmt =>
        generalize hd : v4lCaptureSetFmt env s.io s.captures id fmt = res at h
        obtain ⟨r₁, captures, io⟩ := res
        obtain ⟨ht, hio⟩ := v4lCaptureSetFmt_tunes hd
        unfold captureHandleMessage Message.setFmt at h
        dsimp only at h
        rw [hd] at h
        cases h
        rw [hio]
        exact .setFmt ht
    | streamOn id =>
        obtain ⟨⟨r₁, captures, io⟩, hd, h⟩ := bind_eq_ok.mp h
        cases h
        exact .stream true (v4lCaptureStream_does hd)
    | streamOff id =>
        obtain ⟨⟨r₁, captures, io⟩, hd, h⟩ := bind_eq_ok.mp h
        cases h
        exact .stream false (v4lCaptureStream_does hd)
    | frameAvailable id p => cases h; exact .skipped
    | uvcAttached id => cases h; exact .skipped
    | uvcDetached id =>
        obtain ⟨⟨r₁, captures, io⟩, hd, h⟩ := bind_eq_ok.mp h
        cases h
        exact .part (v4lCaptureDetachGadget_does hd)
  · cases h; exact .skipped

/-- The heap block that comes with a message. -/
def Message.heap (m : Message) : Option Nat :=
  match m.flag with
  | .lparamAllocated => m.lParam.payload
  | .none => none

/-- What `looper_process` does once the handlers are through with a message. -/
def Io.settle (io : Io) (m : Message) : Io :=
  let io := if m.what = .signal then { io with events := eventsStop io.events } else io
  match m.heap with
  | some p => io.free p
  | none => io

theorem logs_settle (io : Io) (m : Message) : Logs [] [] m.heap.toList io (io.settle m) := by
  have hstop : Silent io (if m.what = .signal then { io with events := eventsStop io.events } else io) := by
    split <;> exact silent_of_eq rfl rfl rfl rfl (Nat.le_refl _)
  unfold Io.settle
  cases m.heap with
  | none => exact hstop
  | some p => exact Logs.after hstop (logs_free _ p)

theorem looperDispatch_serves {s s' : Sys} {m : Message} (hst : Staffed s) (hm : Sendable m)
    (h : looperDispatch env m s.handlers s = .ok s') : Serves env s m s' := by
  obtain ⟨r, s₁, hu, hcase⟩ := looperDispatch_parts hst h
  refine ⟨r, s₁, uvcPart_serves hm hu, hcase.imp id ?_⟩
  rintro ⟨-, r', hc⟩
  exact capturePart_serves hm hc

/-- A message is dispatched, and then settled. -/
theorem looperHandle_dispatches {s s' : Sys} {m : Message} (hm : Sendable m) (h : looperHandle env s m = .ok s') :
    ∃ s₁, looperDispatch env m s.handlers s = .ok s₁ ∧ s' = { s₁ with io := s₁.io.settle m } := by
  unfold looperHandle at h
  obtain ⟨s₁, hd, hend⟩ := bind_eq_ok.mp h
  refine ⟨s₁, hd, ?_⟩
  clear h
  cases hm <;> · cases hend; rfl

theorem looperHandle_serves {s s' : Sys} {m : Message} (hst : Staffed s) (hm : Sendable m)
    (h : looperHandle env s m = .ok s') : ∃ s₁, Serves env s m s₁ ∧ s' = { s₁ with io := s₁.io.settle m } := by
  obtain ⟨s₁, hd, hs'⟩ := looperHandle_dispatches hm h
  exact ⟨s₁, looperDispatch_serves hst hm hd, hs'⟩

end Uvcd
