import Uvcd.Correctness.Formats

/-!
# `Correctness.Choice` — which capture takes a format

`v4l_capture_set_fmt` walks the captures twice. The first walk stops at the holder of the id, which takes the
format or is released; the second offers it to the unpaired captures, the released holder among them, until one
takes it. When each driver decides the same way throughout the call, the holder is not offered it twice to any
effect, and the capture chosen is the holder or the first one that takes the format
(`v4lCaptureSetFmt_chooses`).
-/

namespace Uvcd

open Split

variable {env : Env} {k k' : Kernel} {c c' : Capture} {fmt : PixFormat} {id : UInt32}

/-! ## Drivers that have decided -/

/-- Asked at call `t`, the driver takes the format. -/
def Env.Takes (env : Env) (t : Nat) (file : File) (fmt : PixFormat) : Prop :=
  ∃ f, env.sFmt t file fmt = .ok f ∧ env.gFmt (t + 1) file = none ∧ f.Meets fmt

/-- From call `t` to call `t'` the driver of the device takes those of the candidates that `accepts` says. -/
def Decided (env : Env) (accepts : Device → PixFormat → Prop) (fmt : PixFormat) (candidates : List UInt32)
    (t t' : Nat) (dev : Device) : Prop :=
  ∀ pf ∈ candidates, ∀ n, t ≤ n → n < t' →
    (env.Takes n dev.file (requested fmt.width fmt.height pf) ↔ accepts dev (requested fmt.width fmt.height pf))

theorem Decided.within {accepts : Device → PixFormat → Prop} {candidates : List UInt32} {t t' u : Nat} {dev : Device}
    {u' : Nat} (h : Decided env accepts fmt candidates t t' dev) (hu : t ≤ u) (hu' : u' ≤ t') :
    Decided env accepts fmt candidates u u' dev :=
  fun pf hpf n hn hlt => h pf hpf n (Nat.le_trans hu hn) (Nat.lt_of_lt_of_le hlt hu')

/-- The capture takes the format: it is YUYV, and the driver takes its size with one of the candidates. -/
def Capture.Accepts (accepts : Device → PixFormat → Prop) (fmt : PixFormat) (c : Capture) : Prop :=
  fmt.pixelformat = PixFormat.YUYV ∧
    ∃ pf ∈ v4lVideoSupportedFormat, accepts c.vdev (requested fmt.width fmt.height pf)

/-- The capture may be offered a format for `id`. -/
def Capture.Open (id : UInt32) (c : Capture) : Prop := c.gadgetId = id ∨ c.gadgetId = 0

/-- The capture with the format taken, `f` being the one in force. -/
def Capture.taking (fmt f : PixFormat) (c : Capture) : Capture :=
  { c with
    vdev := { c.vdev with format := f }
    fcc := fmt.pixelformat
    width := fmt.width
    height := fmt.height }

/-- The capture without the id. -/
def Capture.released (id : UInt32) (c : Capture) : Capture :=
  { c with gadgetId := if c.gadgetId = id then 0 else c.gadgetId }

theorem Capture.released_of_ne (h : c.gadgetId ≠ id) : c.released id = c := by
  unfold Capture.released
  rw [if_neg h]

theorem Capture.released_gadgetId (hid : id ≠ 0) (c : Capture) : (c.released id).gadgetId ≠ id := by
  unfold Capture.released
  dsimp only
  split
  · exact hid.symm
  · next h => exact h

theorem map_released {cs : List Capture} (h : ∀ c ∈ cs, c.gadgetId ≠ id) : cs.map (Capture.released id) = cs := by
  rw [List.map_congr_left fun c hc => Capture.released_of_ne (h c hc)]
  exact List.map_id' cs

/-! ## One capture -/

variable {accepts : Device → PixFormat → Prop} {ret : Int}

/-- `v4l2_set_format` succeeds when the driver takes the format. -/
theorem v4l2SetFormat_requested (env : Env) (k : Kernel) (dev : Device) (width height pf : UInt32) :
    ∃ (ret : Int) (pix : PixFormat) (k' : Kernel) (dev' : Device),
      v4l2SetFormat env k dev (requested width height pf) = (ret, pix, k', dev') ∧ k.tick < k'.tick ∧
        ((ret = 0 ∧ env.Takes k.tick dev.file (requested width height pf) ∧ dev' = { dev with format := pix }) ∨
          (ret ≠ 0 ∧ ¬env.Takes k.tick dev.file (requested width height pf) ∧ dev' = dev)) := by
  have hsets := v4l2SetFormat_sets env k dev (requested width height pf)
  generalize v4l2SetFormat env k dev (requested width height pf) = r at hsets
  cases hsets with
  | refused hset hin ht =>
      refine ⟨_, _, _, _, rfl, by omega, .inr ⟨Errno.neg_ne _, ?_, rfl⟩⟩
      rintro ⟨f, hf, -⟩
      rw [show env.sFmt k.tick dev.file (requested width height pf) = _ from hset] at hf
      cases hf
  | dropped hset hin ht hno =>
      refine ⟨_, _, _, _, rfl, by omega, .inr ⟨Errno.neg_ne _, ?_, rfl⟩⟩
      rintro ⟨f, hf, hget, hmeet⟩
      rw [show env.sFmt k.tick dev.file (requested width height pf) = _ from hset] at hf
      cases hf
      exact hno ⟨hget, hmeet⟩
  | taken hset hin ht hget hmeet =>
      exact ⟨_, _, _, _, rfl, by omega, .inl ⟨rfl, ⟨_, hset, hget, hmeet⟩, rfl⟩⟩

theorem tryFormats_ticks {pfs : List UInt32} (h : tryFormats env fmt pfs k c = (ret, k', c')) :
    k.tick ≤ k'.tick := by
  induction pfs generalizing k c with
  | nil => cases h; exact Nat.le_refl _
  | cons pf pfs ih =>
      obtain ⟨ret₁, pix, k₁, dev₁, heq, hlt, -⟩ := v4l2SetFormat_requested env k c.vdev fmt.width fmt.height pf
      rw [tryFormats, show v4l2SetFormat env k c.vdev ⟨fmt.width, fmt.height, pf, PixFormat.FIELD_ANY, 0⟩ = _
        from heq] at h
      dsimp only at h
      split at h
      · cases h; exact Nat.le_of_lt hlt
      · exact Nat.le_trans (Nat.le_of_lt hlt) (ih h)

theorem v4lVideoTrySetFormat_ticks (h : v4lVideoTrySetFormat env k c fmt = (ret, k', c')) : k.tick ≤ k'.tick := by
  unfold v4lVideoTrySetFormat at h
  split at h
  · cases h; exact Nat.le_refl _
  · exact tryFormats_ticks h

/-- The candidates are tried until one is taken. -/
theorem tryFormats_decided {pfs : List UInt32} (h : tryFormats env fmt pfs k c = (ret, k', c'))
    (hdec : Decided env accepts fmt pfs k.tick k'.tick c.vdev) :
    (ret = 0 ∧ (∃ pf ∈ pfs, accepts c.vdev (requested fmt.width fmt.height pf)) ∧ ∃ f, c' = c.taking fmt f) ∨
      (ret = -1 ∧ (∀ pf ∈ pfs, ¬accepts c.vdev (requested fmt.width fmt.height pf)) ∧ c' = c) := by
  induction pfs generalizing k with
  | nil =>
      cases h
      exact .inr ⟨rfl, fun pf hpf => (by cases hpf), rfl⟩
  | cons pf pfs ih =>
      obtain ⟨ret₁, pix, k₁, dev₁, heq, hlt, hcase⟩ := v4l2SetFormat_requested env k c.vdev fmt.width fmt.height pf
      rw [tryFormats, show v4l2SetFormat env k c.vdev ⟨fmt.width, fmt.height, pf, PixFormat.FIELD_ANY, 0⟩ = _
        from heq] at h
      dsimp only at h
      rcases hcase with ⟨hret, htakes, hdev⟩ | ⟨hret, htakes, hdev⟩
      · rw [if_pos hret] at h
        cases h
        have haccepts := (hdec pf List.mem_cons_self k.tick (Nat.le_refl _) hlt).mp htakes
        exact .inl ⟨rfl, ⟨pf, List.mem_cons_self, haccepts⟩, pix, by rw [hdev]; rfl⟩
      · rw [if_neg hret, hdev] at h
        have hdec' : Decided env accepts fmt pfs k.tick k'.tick c.vdev := fun pf hpf =>
          hdec pf (List.mem_cons_of_mem _ hpf)
        have hrefused : ¬accepts c.vdev (requested fmt.width fmt.height pf) :=
          mt (hdec pf List.mem_cons_self k.tick (Nat.le_refl _) (Nat.lt_of_lt_of_le hlt (tryFormats_ticks h))).mpr
            htakes
        rcases ih h (hdec'.within (Nat.le_of_lt hlt) (Nat.le_refl _)) with ⟨hret₂, ⟨pf', hpf', haccepts⟩, hc⟩ |
          ⟨hret₂, hnone, hc⟩
        · exact .inl ⟨hret₂, ⟨pf', List.mem_cons_of_mem _ hpf', haccepts⟩, hc⟩
        · refine .inr ⟨hret₂, fun pf' hpf' => ?_, hc⟩
          rcases List.mem_cons.mp hpf' with rfl | hpf'
          · exact hrefused
          · exact hnone pf' hpf'

/-- **One offer.** -/
theorem v4lVideoTrySetFormat_decided (h : v4lVideoTrySetFormat env k c fmt = (ret, k', c'))
    (hdec : Decided env accepts fmt v4lVideoSupportedFormat k.tick k'.tick c.vdev) :
    (ret = 0 ∧ c.Accepts accepts fmt ∧ ∃ f, c' = c.taking fmt f) ∨
      (ret = -1 ∧ ¬c.Accepts accepts fmt ∧ c' = c) := by
  unfold v4lVideoTrySetFormat at h
  by_cases hpf : fmt.pixelformat = PixFormat.YUYV
  · rw [if_neg (not_not.mpr hpf)] at h
    rcases tryFormats_decided h hdec with ⟨hret, hex, hc⟩ | ⟨hret, hnone, hc⟩
    · exact .inl ⟨hret, ⟨hpf, hex⟩, hc⟩
    · exact .inr ⟨hret, fun ⟨_, pf, hmem, hacc⟩ => hnone pf hmem hacc, hc⟩
  · rw [if_pos hpf] at h
    cases h
    exact .inr ⟨rfl, fun hacc => hpf hacc.1, rfl⟩

/-! ## The two walks -/

variable {cs cs' captures captures' : List Capture} {taken : Bool}

theorem setFmtHolder_ticks (h : setFmtHolder env id fmt cs k = (taken, cs', k')) : k.tick ≤ k'.tick := by
  induction cs generalizing taken cs' k' with
  | nil => cases h; exact Nat.le_refl _
  | cons c cs ih =>
      rw [setFmtHolder] at h
      split at h
      · generalize htry : v4lVideoTrySetFormat env k c fmt = r at h
        obtain ⟨ret, k₁, c₁⟩ := r
        have hle := v4lVideoTrySetFormat_ticks htry
        dsimp only at h
        split at h <;> · cases h; exact hle
      · generalize hrest : setFmtHolder env id fmt cs k = r at h
        obtain ⟨taken₁, cs₁, k₁⟩ := r
        cases h
        exact ih hrest

/-- **The first walk** ends at the holder. -/
theorem setFmtHolder_decided (h : setFmtHolder env id fmt cs k = (taken, cs', k'))
    (hdec : ∀ c ∈ cs, Decided env accepts fmt v4lVideoSupportedFormat k.tick k'.tick c.vdev) :
    (taken = true ∧ ∃ pre c post f, SplitsAt (·.gadgetId = id) cs pre c post ∧ c.Accepts accepts fmt ∧
        cs' = pre ++ c.taking fmt f :: post) ∨
      (taken = false ∧ (∀ c ∈ cs, c.gadgetId ≠ id) ∧ cs' = cs) ∨
      (taken = false ∧ ∃ pre c post, SplitsAt (·.gadgetId = id) cs pre c post ∧ ¬c.Accepts accepts fmt ∧
        cs' = pre ++ c.released id :: post) := by
  induction cs generalizing taken cs' k' with
  | nil =>
      cases h
      exact .inr (.inl ⟨rfl, fun c hc => (by cases hc), rfl⟩)
  | cons c cs ih =>
      rw [setFmtHolder] at h
      by_cases hid : c.gadgetId = id
      · -- `c` is the holder: it takes the format, or is released
        rw [if_pos hid] at h
        generalize htry : v4lVideoTrySetFormat env k c fmt = r at h
        obtain ⟨ret, k₁, c₁⟩ := r
        dsimp only at h
        have hk : k₁ = k' := by
          split at h <;> cases h <;> rfl
        subst hk
        rcases v4lVideoTrySetFormat_decided htry (hdec c List.mem_cons_self) with ⟨rfl, hacc, f, rfl⟩ | ⟨rfl, hacc, rfl⟩
        · rw [if_pos rfl] at h
          cases h
          exact .inl ⟨rfl, [], c, cs, f, .head hid, hacc, rfl⟩
        · rw [if_neg (by decide)] at h
          cases h
          refine .inr (.inr ⟨rfl, [], c₁, cs, .head hid, hacc, ?_⟩)
          unfold Capture.released
          rw [if_pos hid]
          rfl
      · -- `c` is passed over; the walk leaves it in front of what the rest gives
        rw [if_neg hid] at h
        generalize hrest : setFmtHolder env id fmt cs k = r at h
        obtain ⟨taken₁, cs₁, k₁⟩ := r
        cases h
        rcases ih hrest fun x hx => hdec x (List.mem_cons_of_mem _ hx) with
          ⟨ht, pre, c₂, post, f, hs, hacc, rfl⟩ | ⟨ht, hnone, rfl⟩ | ⟨ht, pre, c₂, post, hs, hacc, rfl⟩
        · exact .inl ⟨ht, c :: pre, c₂, post, f, hs.cons hid, hacc, rfl⟩
        · refine .inr (.inl ⟨ht, fun x hx => ?_, rfl⟩)
          rcases List.mem_cons.mp hx with rfl | hx
          · exact hid
          · exact hnone x hx
        · exact .inr (.inr ⟨ht, c :: pre, c₂, post, hs.cons hid, hacc, rfl⟩)

theorem setFmtFree_ticks (h : setFmtFree env id fmt cs k = (taken, cs', k')) : k.tick ≤ k'.tick := by
  induction cs generalizing k taken cs' with
  | nil => cases h; exact Nat.le_refl _
  | cons c cs ih =>
      rw [setFmtFree] at h
      split at h
      · generalize htry : v4lVideoTrySetFormat env k c fmt = r at h
        obtain ⟨ret, k₁, c₁⟩ := r
        have hle := v4lVideoTrySetFormat_ticks htry
        dsimp only at h
        split at h
        · generalize hrest : setFmtFree env id fmt cs k₁ = r at h
          obtain ⟨taken₁, cs₁, k₂⟩ := r
          cases h
          exact Nat.le_trans hle (ih hrest)
        · cases h; exact hle
      · generalize hrest : setFmtFree env id fmt cs k = r at h
        obtain ⟨taken₁, cs₁, k₁⟩ := r
        cases h
        exact ih hrest

/-- **The second walk** ends at the first unpaired capture that takes the format. -/
theorem setFmtFree_decided (h : setFmtFree env id fmt cs k = (taken, cs', k'))
    (hdec : ∀ c ∈ cs, Decided env accepts fmt v4lVideoSupportedFormat k.tick k'.tick c.vdev) :
    (taken = true ∧ ∃ pre c post f,
        SplitsAt (fun c => c.gadgetId = 0 ∧ c.Accepts accepts fmt) cs pre c post ∧
          cs' = pre ++ { c.taking fmt f with gadgetId := id } :: post) ∨
      (taken = false ∧ (∀ c ∈ cs, ¬(c.gadgetId = 0 ∧ c.Accepts accepts fmt)) ∧ cs' = cs) := by
  induction cs generalizing k taken cs' with
  | nil =>
      cases h
      exact .inr ⟨rfl, fun c hc => (by cases hc), rfl⟩
  | cons c cs ih =>
      rw [setFmtFree] at h
      have hcs : ∀ {t : Nat}, k.tick ≤ t →
          ∀ x ∈ cs, Decided env accepts fmt v4lVideoSupportedFormat t k'.tick x.vdev := fun hle x hx =>
        (hdec x (List.mem_cons_of_mem _ hx)).within hle (Nat.le_refl _)
      -- what the walk comes to once `c` is passed over
      have hpass : ∀ {taken : Bool} {cs₁ : List Capture}, ¬(c.gadgetId = 0 ∧ c.Accepts accepts fmt) →
          ((taken = true ∧ ∃ pre c' post f,
              SplitsAt (fun c => c.gadgetId = 0 ∧ c.Accepts accepts fmt) cs pre c' post ∧
                cs₁ = pre ++ { c'.taking fmt f with gadgetId := id } :: post) ∨
            (taken = false ∧ (∀ x ∈ cs, ¬(x.gadgetId = 0 ∧ x.Accepts accepts fmt)) ∧ cs₁ = cs)) →
          (taken = true ∧ ∃ pre c' post f,
              SplitsAt (fun c => c.gadgetId = 0 ∧ c.Accepts accepts fmt) (c :: cs) pre c' post ∧
                c :: cs₁ = pre ++ { c'.taking fmt f with gadgetId := id } :: post) ∨
            (taken = false ∧ (∀ x ∈ c :: cs, ¬(x.gadgetId = 0 ∧ x.Accepts accepts fmt)) ∧ c :: cs₁ = c :: cs) := by
        intro taken cs₁ hmiss hcase
        rcases hcase with ⟨ht, pre, c₂, post, f, hs, rfl⟩ | ⟨ht, hnone, rfl⟩
        · exact .inl ⟨ht, c :: pre, c₂, post, f, hs.cons hmiss, rfl⟩
        · refine .inr ⟨ht, fun x hx => ?_, rfl⟩
          rcases List.mem_cons.mp hx with rfl | hx
          · exact hmiss
          · exact hnone x hx
      by_cases hfree : c.gadgetId = 0
      · rw [if_pos hfree] at h
        generalize htry : v4lVideoTrySetFormat env k c fmt = r at h
        obtain ⟨ret, k₁, c₁⟩ := r
        have hle := v4lVideoTrySetFormat_ticks htry
        dsimp only at h
        by_cases hret : ret < 0
        · rw [if_pos hret] at h
          generalize hrest : setFmtFree env id fmt cs k₁ = r at h
          obtain ⟨taken₁, cs₁, k₂⟩ := r
          cases h
          have hfirst := (hdec c List.mem_cons_self).within (Nat.le_refl _) (setFmtFree_ticks hrest)
          rcases v4lVideoTrySetFormat_decided htry hfirst with ⟨rfl, -⟩ | ⟨-, hacc, rfl⟩
          · exact absurd hret (by decide)
          · exact hpass (fun hc => hacc hc.2) (ih hrest (hcs hle))
        · rw [if_neg hret] at h
          cases h
          rcases v4lVideoTrySetFormat_decided htry (hdec c List.mem_cons_self) with ⟨-, hacc, f, rfl⟩ | ⟨rfl, -, -⟩
          · exact .inl ⟨rfl, [], c, cs, f, .head ⟨hfree, hacc⟩, rfl⟩
          · exact absurd (by decide) hret
      · rw [if_neg hfree] at h
        generalize hrest : setFmtFree env id fmt cs k = r at h
        obtain ⟨taken₁, cs₁, k₁⟩ := r
        cases h
        exact hpass (fun hc => hfree hc.1) (ih hrest (hcs (Nat.le_refl _)))

/-! ## The capture chosen -/

/-- `c` is the capture to pair with `id`: the one that held it, if it takes the format, and otherwise the first
    that may be offered the format and takes it. -/
structure Chosen (accepts : Device → PixFormat → Prop) (fmt : PixFormat) (id : UInt32)
    (captures pre : List Capture) (c : Capture) (post : List Capture) : Prop where
  eq : captures = pre ++ c :: post
  opened : c.Open id
  takes : c.Accepts accepts fmt
  holder : (∃ x ∈ captures, x.gadgetId = id ∧ x.Accepts accepts fmt) → c.gadgetId = id
  first : (¬∃ x ∈ captures, x.gadgetId = id ∧ x.Accepts accepts fmt) → ∀ x ∈ pre, x.Open id → ¬x.Accepts accepts fmt

/-- The captures that hold the id. -/
def holders (id : UInt32) (captures : List Capture) : Nat := captures.countP fun c => decide (c.gadgetId = id)

theorem holders_released (hid : id ≠ 0) (captures : List Capture) :
    holders id (captures.map (Capture.released id)) = 0 := by
  unfold holders
  rw [List.countP_eq_zero]
  intro c hc
  obtain ⟨x, -, rfl⟩ := List.mem_map.mp hc
  exact decide_eq_true_iff.not.mpr (x.released_gadgetId hid)

/-- Behind the only holder there is none. -/
theorem holders_post {pre post : List Capture} (hone : holders id captures ≤ 1)
    (hs : SplitsAt (·.gadgetId = id) captures pre c post) : ∀ x ∈ post, x.gadgetId ≠ id := by
  have hcount : holders id captures = holders id pre + (holders id post + 1) := by
    unfold holders
    rw [hs.eq, List.countP_append, List.countP_cons_of_pos (by simpa using hs.hit)]
  have hpost : holders id post = 0 := by omega
  intro x hx
  exact decide_eq_true_iff.not.mp (List.countP_eq_zero.mp hpost x hx)

/-- A released capture is unpaired when it may be offered a format for the id. -/
theorem Capture.released_open (c : Capture) : c.Open id ↔ (c.released id).gadgetId = 0 := by
  unfold Capture.Open Capture.released
  dsimp only
  by_cases h : c.gadgetId = id
  · simp [h]
  · simp [h]

/-- **What `v4l_capture_set_fmt` comes to.** -/
inductive Chooses (accepts : Device → PixFormat → Prop) (fmt : PixFormat) (id : UInt32) (captures : List Capture) :
    Int → List Capture → Prop
  | paired {pre post : List Capture} {c : Capture} (f : PixFormat) (h : Chosen accepts fmt id captures pre c post) :
      Chooses accepts fmt id captures 0
        (pre.map (Capture.released id) ++ { c.taking fmt f with gadgetId := id } :: post.map (Capture.released id))
  | none (h : ∀ c ∈ captures, c.Open id → ¬c.Accepts accepts fmt) :
      Chooses accepts fmt id captures (-1) (captures.map (Capture.released id))

variable {io io' : Io}

/-- The second walk, once the holder is released. -/
theorem setFmtFree_chooses (hno : ¬∃ c ∈ captures, c.gadgetId = id ∧ c.Accepts accepts fmt)
    (h : setFmtFree env id fmt (captures.map (Capture.released id)) k = (taken, cs', k'))
    (hdec : ∀ c ∈ captures, Decided env accepts fmt v4lVideoSupportedFormat k.tick k'.tick c.vdev) :
    Chooses accepts fmt id captures (if taken then 0 else -1) cs' := by
  have hdec' : ∀ c ∈ captures.map (Capture.released id),
      Decided env accepts fmt v4lVideoSupportedFormat k.tick k'.tick c.vdev := by
    intro c hc
    obtain ⟨x, hx, rfl⟩ := List.mem_map.mp hc
    exact hdec x hx
  -- a release changes neither what a capture takes nor, then, which one is first
  have hsame : ∀ x : Capture, (x.Open id ∧ x.Accepts accepts fmt) ↔
      ((x.released id).gadgetId = 0 ∧ (x.released id).Accepts accepts fmt) := fun x =>
    and_congr x.released_open Iff.rfl
  rcases setFmtFree_decided h hdec' with ⟨rfl, pre', c', post', f, hs, rfl⟩ | ⟨rfl, hnone, rfl⟩
  · obtain ⟨pre, c, post, hsplit, -⟩ := SplitsAt.of_map (Capture.released id) hsame hs
    obtain ⟨rfl, rfl, rfl⟩ := hs.unique (hsplit.map (Capture.released id) hsame)
    have hch : Chosen accepts fmt id captures pre c post := ⟨hsplit.eq, hsplit.hit.1, hsplit.hit.2,
      fun hex => absurd hex hno, fun _ x hx hopen hacc => hsplit.miss x hx ⟨hopen, hacc⟩⟩
    have hpaired := Chooses.paired f hch
    exact hpaired
  · refine .none fun c hc hopen hacc => ?_
    exact hnone _ (List.mem_map_of_mem hc) ((hsame c).mp ⟨hopen, hacc⟩)

theorem v4lCaptureSetFmt_cases (hone : holders id captures ≤ 1)
    (h : v4lCaptureSetFmt env io captures id fmt = (ret, captures', io'))
    (hdec : ∀ c ∈ captures,
      Decided env accepts fmt v4lVideoSupportedFormat io.kernel.tick io'.kernel.tick c.vdev) :
    Chooses accepts fmt id captures ret captures' := by
  unfold v4lCaptureSetFmt at h
  generalize hholder : setFmtHolder env id fmt captures io.kernel = r at h
  obtain ⟨taken, cs₁, k₁⟩ := r
  have hle := setFmtHolder_ticks hholder
  dsimp only at h
  by_cases ht : taken = true
  · rw [if_pos ht] at h
    cases h
    rcases setFmtHolder_decided hholder hdec with ⟨-, pre, c, post, f, hs, hacc, rfl⟩ | ⟨hf, -⟩ | ⟨hf, -⟩
    · have hpost := holders_post hone hs
      have hch : Chosen accepts fmt id captures pre c post :=
        ⟨hs.eq, .inl hs.hit, hacc, fun _ => hs.hit, fun hno => absurd ⟨c, hs.mem, hs.hit, hacc⟩ hno⟩
      have hc : { c.taking fmt f with gadgetId := id } = c.taking fmt f := by
        rw [← hs.hit]
        rfl
      have hpaired := Chooses.paired f hch
      rw [hc, map_released hs.miss, map_released hpost] at hpaired
      exact hpaired
    · rw [hf] at ht; cases ht
    · rw [hf] at ht; cases ht
  · rw [if_neg ht] at h
    generalize hfree : setFmtFree env id fmt cs₁ k₁ = r at h
    obtain ⟨taken₂, cs₂, k₂⟩ := r
    cases h
    have hk : k₁.tick ≤ k₂.tick := setFmtFree_ticks hfree
    have hfirst := setFmtHolder_decided hholder fun c hc => (hdec c hc).within (Nat.le_refl _) hk
    -- either way the second walk starts with the holder released
    have hreleased : cs₁ = captures.map (Capture.released id) ∧
        ¬∃ c ∈ captures, c.gadgetId = id ∧ c.Accepts accepts fmt := by
      rcases hfirst with ⟨hf, -⟩ | ⟨-, hnone, rfl⟩ | ⟨-, pre, c, post, hs, hacc, rfl⟩
      · exact absurd hf ht
      · exact ⟨(map_released hnone).symm, fun ⟨c, hc, hg, _⟩ => hnone c hc hg⟩
      · have hpost := holders_post hone hs
        refine ⟨?_, ?_⟩
        · rw [hs.eq, List.map_append, List.map_cons, map_released hs.miss, map_released hpost]
        · rintro ⟨x, hx, hg, haccx⟩
          rw [hs.eq] at hx
          rcases List.mem_append.mp hx with hx | hx
          · exact hs.miss x hx hg
          · rcases List.mem_cons.mp hx with rfl | hx
            · exact hacc haccx
            · exact hpost x hx hg
    obtain ⟨rfl, hno⟩ := hreleased
    exact setFmtFree_chooses hno hfree fun c hc => (hdec c hc).within hle (Nat.le_refl _)

/-- **The choice.** The call succeeds when some capture that holds the id or is unpaired takes the format. Then
    the one chosen takes it and is the only holder; else there is no holder. No other capture changes, but for
    a former holder that is released. -/
theorem v4lCaptureSetFmt_chooses (hid : id ≠ 0) (hone : holders id captures ≤ 1)
    (h : v4lCaptureSetFmt env io captures id fmt = (ret, captures', io'))
    (hdec : ∀ c ∈ captures,
      Decided env accepts fmt v4lVideoSupportedFormat io.kernel.tick io'.kernel.tick c.vdev) :
    (ret = 0 ↔ ∃ c ∈ captures, c.Open id ∧ c.Accepts accepts fmt) ∧
      (ret = 0 → holders id captures' = 1 ∧ ∃ pre c post f, Chosen accepts fmt id captures pre c post ∧
        captures' = pre.map (Capture.released id) ++ { c.taking fmt f with gadgetId := id } ::
          post.map (Capture.released id)) ∧
      (ret ≠ 0 → holders id captures' = 0 ∧ captures' = captures.map (Capture.released id)) := by
  have hcases := v4lCaptureSetFmt_cases hone h hdec
  cases hcases with
  | @paired pre post c f hch =>
      have hmem : c ∈ captures := by rw [hch.eq]; simp
      refine ⟨iff_of_true rfl ⟨c, hmem, hch.opened, hch.takes⟩, fun _ => ⟨?_, pre, c, post, f, hch, rfl⟩,
        fun hne => absurd rfl hne⟩
      have hpre := holders_released hid pre
      have hpost := holders_released hid post
      unfold holders at hpre hpost ⊢
      rw [List.countP_append, List.countP_cons_of_pos (by simp), hpre, hpost]
  | none hnone =>
      refine ⟨iff_of_false (by decide) ?_, fun hret => absurd hret (by decide),
        fun _ => ⟨holders_released hid captures, rfl⟩⟩
      rintro ⟨c, hc, hopen, hacc⟩
      exact hnone c hc hopen hacc

/-- A camera with a fresh capture for it. -/
def freshCapture (id : UInt32) : Capture := { Capture.fresh 0 freshCamera with gadgetId := id }

/-- A driver that takes every format, with two unpaired captures in front of the holder: it is the holder that
    takes it. -/
theorem v4lCaptureSetFmt_obliging : ∃ captures' io' pre post f,
    v4lCaptureSetFmt (.obliging [] []) (boot (.obliging [] []) [] fun _ => .zero).io
        [freshCapture 0, freshCapture 0, freshCapture 7] 7 ⟨320, 240, PixFormat.YUYV, 0, 0⟩ = (0, captures', io') ∧
      Chosen (fun _ _ => True) ⟨320, 240, PixFormat.YUYV, 0, 0⟩ 7 [freshCapture 0, freshCapture 0, freshCapture 7]
        pre (freshCapture 7) post ∧
      captures' = pre.map (Capture.released 7) ++
        { (freshCapture 7).taking ⟨320, 240, PixFormat.YUYV, 0, 0⟩ f with gadgetId := 7 } ::
          post.map (Capture.released 7) := by
  generalize h : v4lCaptureSetFmt (.obliging [] []) (boot (.obliging [] []) [] fun _ => .zero).io
    [freshCapture 0, freshCapture 0, freshCapture 7] 7 ⟨320, 240, PixFormat.YUYV, 0, 0⟩ = r
  obtain ⟨ret, captures', io'⟩ := r
  obtain ⟨hiff, hpaired, -⟩ := @v4lCaptureSetFmt_chooses _ _ _ (fun _ _ => True) _ _ _ _ _ (by decide) (by decide) h
    fun c hc pf hpf n hn hlt => iff_of_true ⟨_, rfl, rfl, rfl, rfl, rfl⟩ trivial
  have hholder : ∃ x ∈ [freshCapture 0, freshCapture 0, freshCapture 7],
      x.gadgetId = 7 ∧ x.Accepts (fun _ _ => True) ⟨320, 240, PixFormat.YUYV, 0, 0⟩ :=
    ⟨freshCapture 7, by simp, rfl, rfl, PixFormat.YUYV, by decide, trivial⟩
  obtain ⟨x, hx, hid, hacc⟩ := hholder
  obtain ⟨-, pre, c, post, f, hch, heq⟩ := hpaired (hiff.mpr ⟨x, hx, .inl hid, hacc⟩)
  have hc : c = freshCapture 7 := by
    have hmem : c ∈ [freshCapture 0, freshCapture 0, freshCapture 7] := by rw [hch.eq]; simp
    have hheld := hch.holder ⟨x, hx, hid, hacc⟩
    simp only [List.mem_cons, List.not_mem_nil, or_false] at hmem
    rcases hmem with rfl | rfl | rfl
    · exact absurd hheld (by decide)
    · exact absurd hheld (by decide)
    · rfl
  subst hc
  rw [hiff.mpr ⟨x, hx, .inl hid, hacc⟩]
  exact ⟨captures', io', pre, post, f, rfl, hch, heq⟩

end Uvcd
