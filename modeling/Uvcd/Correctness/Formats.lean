import Uvcd.Model.Daemon
import Uvcd.Refinement.Devices

/-!
# `Correctness.Formats` — the format a device remembers and the format in force

`v4l2_set_format` lets `VIDIOC_S_FMT` change the driver's format and then compares; when the comparison fails
it returns an error and leaves the driver as it is. So `dev->format` stays the format in force exactly when
the driver refuses, gives what was asked for, or ends up where it was (`formats_in_sync`);
`adjusting_driver` is a driver for which it does not.
-/

namespace Uvcd

variable {env : Env} {k k' : Kernel} {dev : Device} {c : Capture} {fmt f : PixFormat}

/-! ## The property -/

/-- `dev->format` is the format in force. -/
def Device.InSync (k : Kernel) (dev : Device) : Prop := dev.format = k.inforce dev.file.dev

/-- A format of the size and pixel format asked for. -/
def PixFormat.Meets (f fmt : PixFormat) : Prop :=
  f.width = fmt.width ∧ f.height = fmt.height ∧ f.pixelformat = fmt.pixelformat

/-- After `v4l2_set_format` the two formats are the same one: what was asked for on success, and what they
    were on an error. -/
def SetsInSync (env : Env) (k : Kernel) (dev : Device) (fmt : PixFormat) : Prop :=
  let (ret, _, k', dev') := v4l2SetFormat env k dev fmt
  dev'.InSync k' ∧ (ret = 0 → dev'.format.Meets fmt ∧ (k'.inforce dev.file.dev).Meets fmt) ∧
    (ret ≠ 0 → dev'.format = dev.format ∧ k'.inforce dev.file.dev = k.inforce dev.file.dev)

/-- A `v4l_video_try_set_format` that fails leaves both formats what they were. -/
def TriesInSync (env : Env) (k : Kernel) (c : Capture) (fmt : PixFormat) : Prop :=
  let (ret, k', c') := v4lVideoTrySetFormat env k c fmt
  ret ≠ 0 → c'.vdev.InSync k' ∧ c'.vdev.format = c.vdev.format ∧
    k'.inforce c.vdev.file.dev = k.inforce c.vdev.file.dev

/-! ## The condition -/

/-- What `v4l2_set_format` passes to `VIDIOC_S_FMT`. -/
def requested (width height pixelformat : UInt32) : PixFormat :=
  ⟨width, height, pixelformat, PixFormat.FIELD_ANY, 0⟩

/-- The driver refuses the format, or puts one in force that is as asked for and is reported back, or one
    that was in force before. -/
def Honoured (env : Env) (k : Kernel) (dev : Device) (fmt : PixFormat) : Prop :=
  ∀ f, env.sFmt k.tick dev.file (requested fmt.width fmt.height fmt.pixelformat) = .ok f →
    f = k.inforce dev.file.dev ∨ (env.gFmt (k.tick + 1) dev.file = none ∧ f.Meets fmt)

/-- The format that the last of the candidates the driver takes leaves in force, from call `t` on. -/
def leftInForce (env : Env) (file : File) (width height : UInt32) : List UInt32 → Nat → Option PixFormat
  | [], _ => none
  | pf :: pfs, t =>
    match env.sFmt t file (requested width height pf) with
    | .error _ => leftInForce env file width height pfs (t + 1)
    | .ok f => (leftInForce env file width height pfs (t + 2)).or (some f)

/-! ## One format -/

/-- **What `v4l2_set_format` does**, by the driver's answers. -/
inductive SetsFormat (env : Env) (k : Kernel) (dev : Device) (fmt : PixFormat) :
    Int × PixFormat × Kernel × Device → Prop
  | refused {e : Errno} {k' : Kernel}
      (hset : env.sFmt k.tick dev.file (requested fmt.width fmt.height fmt.pixelformat) = .error e)
      (hin : k'.inforce = k.inforce) (ht : k'.tick = k.tick + 1) :
      SetsFormat env k dev fmt (e.neg, fmt, k', dev)
  /-- the driver's format is not the one asked for, or cannot be read back -/
  | dropped {f : PixFormat} {e : Errno} {k' : Kernel}
      (hset : env.sFmt k.tick dev.file (requested fmt.width fmt.height fmt.pixelformat) = .ok f)
      (hin : k'.inforce dev.file.dev = f) (ht : k'.tick = k.tick + 2)
      (hno : ¬(env.gFmt (k.tick + 1) dev.file = none ∧ f.Meets fmt)) :
      SetsFormat env k dev fmt (e.neg, fmt, k', dev)
  | taken {f : PixFormat} {k' : Kernel}
      (hset : env.sFmt k.tick dev.file (requested fmt.width fmt.height fmt.pixelformat) = .ok f)
      (hin : k'.inforce dev.file.dev = f) (ht : k'.tick = k.tick + 2)
      (hget : env.gFmt (k.tick + 1) dev.file = none) (hmeet : f.Meets fmt) :
      SetsFormat env k dev fmt (0, f, k', { dev with format := f })

theorem v4l2SetFormat_sets (env : Env) (k : Kernel) (dev : Device) (fmt : PixFormat) :
    SetsFormat env k dev fmt (v4l2SetFormat env k dev fmt) := by
  unfold v4l2SetFormat ioctlSFmt ioctlGFmt
  dsimp only [Kernel.call]
  cases hset : env.sFmt k.tick dev.file (requested fmt.width fmt.height fmt.pixelformat) with
  | error e =>
      have hset' := hset
      unfold requested at hset'
      rw [hset']
      exact .refused hset rfl rfl
  | ok f =>
      have hset' := hset
      unfold requested at hset'
      rw [hset']
      have hin : (if dev.file.dev = dev.file.dev then f else k.inforce dev.file.dev) = f := if_pos rfl
      dsimp only
      cases hget : env.gFmt (k.tick + 1) dev.file with
      | some e => exact .dropped hset hin rfl fun h => by rw [hget] at h; cases h.1
      | none =>
          rw [hin]
          dsimp only
          -- the format is compared with the request field by field
          by_cases hw : f.width = fmt.width
          · rw [if_neg (not_not.mpr hw)]
            by_cases hh : f.height = fmt.height
            · rw [if_neg (not_not.mpr hh)]
              by_cases hp : f.pixelformat = fmt.pixelformat
              · rw [if_neg (not_not.mpr hp)]
                exact .taken hset hin rfl hget ⟨hw, hh, hp⟩
              · rw [if_pos hp]
                exact .dropped hset hin rfl fun h => hp h.2.2.2
            · rw [if_pos hh]
              exact .dropped hset hin rfl fun h => hh h.2.2.1
          · rw [if_pos hw]
            exact .dropped hset hin rfl fun h => hw h.2.1

/-- **One format** keeps the two in sync exactly when the driver settles it. -/
theorem setsInSync_iff (hsync : dev.InSync k) : SetsInSync env k dev fmt ↔ Honoured env k dev fmt := by
  have hsets := v4l2SetFormat_sets env k dev fmt
  unfold SetsInSync Honoured
  generalize v4l2SetFormat env k dev fmt = r at hsets
  cases hsets with
  | refused hset hin ht =>
      constructor
      · intro _ f hf
        rw [hset] at hf; cases hf
      · intro _
        refine ⟨?_, fun h => absurd h (Errno.neg_ne _), fun _ => ⟨rfl, by rw [hin]⟩⟩
        show dev.format = _
        rw [hin]
        exact hsync
  | dropped hset hin ht hno =>
      constructor
      · rintro ⟨-, -, herr⟩ f hf
        rw [hset] at hf; cases hf
        left
        rw [← hin]
        exact (herr (Errno.neg_ne _)).2
      · intro hsettled
        have hsame := (hsettled _ hset).resolve_right hno
        refine ⟨?_, fun h => absurd h (Errno.neg_ne _), fun _ => ⟨rfl, hin.trans hsame⟩⟩
        show dev.format = _
        rw [hin, hsame]
        exact hsync
  | taken hset hin ht hget hmeet =>
      constructor
      · intro _ f hf
        rw [hset] at hf; cases hf
        exact .inr ⟨hget, hmeet⟩
      · intro _
        exact ⟨hin.symm, fun _ => ⟨hmeet, by rw [hin]; exact hmeet⟩, fun h => absurd rfl h⟩

/-! ## Every candidate -/

/-- A candidate loop that fails leaves in force what the last candidate the driver took left. -/
theorem tryFormats_fails {pfs : List UInt32} {r : Int} {c' : Capture}
    (h : tryFormats env fmt pfs k c = (r, k', c')) (hr : r ≠ 0) :
    c'.vdev = c.vdev ∧ k'.inforce c.vdev.file.dev =
      (leftInForce env c.vdev.file fmt.width fmt.height pfs k.tick).getD (k.inforce c.vdev.file.dev) := by
  induction pfs generalizing k c with
  | nil => cases h; exact ⟨rfl, rfl⟩
  | cons pf pfs ih =>
      rw [tryFormats] at h
      have hsets := v4l2SetFormat_sets env k c.vdev ⟨fmt.width, fmt.height, pf, PixFormat.FIELD_ANY, 0⟩
      generalize v4l2SetFormat env k c.vdev ⟨fmt.width, fmt.height, pf, PixFormat.FIELD_ANY, 0⟩ = res
        at h hsets
      cases hsets with
      | refused hset hin ht =>
          dsimp only at h hset
          rw [if_neg (Errno.neg_ne _)] at h
          obtain ⟨hdev, hleft⟩ := ih h
          refine ⟨hdev, hleft.trans ?_⟩
          rw [leftInForce, hset, ht, hin]
      | dropped hset hin ht hno =>
          dsimp only at h hset
          rw [if_neg (Errno.neg_ne _)] at h
          obtain ⟨hdev, hleft⟩ := ih h
          refine ⟨hdev, hleft.trans ?_⟩
          rw [leftInForce, hset, ht, hin]
          cases leftInForce env c.vdev.file fmt.width fmt.height pfs (k.tick + 2) <;> rfl
      | taken hset hin ht hget hmeet =>
          dsimp only at h
          rw [if_pos rfl] at h
          cases h
          exact absurd rfl hr

/-- **The candidates**, when none is taken, keep the two in sync exactly when the last one the driver took left
    in force what was in force before. -/
theorem triesInSync_iff (hsync : c.vdev.InSync k) (hr : (v4lVideoTrySetFormat env k c fmt).1 ≠ 0) :
    TriesInSync env k c fmt ↔ fmt.pixelformat ≠ PixFormat.YUYV ∨
      ∀ f, leftInForce env c.vdev.file fmt.width fmt.height v4lVideoSupportedFormat k.tick = some f →
        f = k.inforce c.vdev.file.dev := by
  unfold TriesInSync
  unfold v4lVideoTrySetFormat at hr ⊢
  by_cases hpf : fmt.pixelformat = PixFormat.YUYV
  · rw [if_neg (not_not.mpr hpf)] at hr ⊢
    generalize htry : tryFormats env fmt v4lVideoSupportedFormat k c = res at hr ⊢
    obtain ⟨r, k₁, c₁⟩ := res
    obtain ⟨hdev, hleft⟩ := tryFormats_fails htry hr
    dsimp only
    constructor
    · intro h
      right
      intro f hf
      rw [hf] at hleft
      exact hleft.symm.trans (h hr).2.2
    · intro h _
      have hsame : k₁.inforce c.vdev.file.dev = k.inforce c.vdev.file.dev := by
        rw [hleft]
        have hlast := h.resolve_left (not_not.mpr hpf)
        cases hl : leftInForce env c.vdev.file fmt.width fmt.height v4lVideoSupportedFormat k.tick with
        | none => rfl
        | some f => exact hlast f hl
      refine ⟨?_, by rw [hdev], hsame⟩
      unfold Device.InSync
      rw [hdev, hsame]
      exact hsync
  · rw [if_pos hpf] at hr ⊢
    exact ⟨fun _ => .inl hpf, fun _ _ => ⟨hsync, rfl, rfl⟩⟩

/-! ## Both -/

/-- **The format remembered and the format in force** stay the same one through `v4l2_set_format` exactly when
    the driver settles what it is asked for, and through a failed `v4l_video_try_set_format` exactly when
    the last candidate it took left in force what was there. -/
theorem formats_in_sync (env : Env) (k : Kernel) (fmt : PixFormat) :
    (∀ dev : Device, dev.InSync k → (SetsInSync env k dev fmt ↔ Honoured env k dev fmt)) ∧
    ∀ c : Capture, c.vdev.InSync k → (v4lVideoTrySetFormat env k c fmt).1 ≠ 0 →
      (TriesInSync env k c fmt ↔ fmt.pixelformat ≠ PixFormat.YUYV ∨
        ∀ f, leftInForce env c.vdev.file fmt.width fmt.height v4lVideoSupportedFormat k.tick = some f →
          f = k.inforce c.vdev.file.dev) :=
  ⟨fun _ hsync => setsInSync_iff hsync, fun _ hsync hr => triesInSync_iff hsync hr⟩

/-- A driver that makes every format 640 pixels wide. -/
def wideBench : Env := { Env.obliging [] [] with sFmt := fun _ _ fmt => .ok { fmt with width := 640 } }

/-- A camera just opened, and a kernel with no format in force. -/
def freshKernel : Kernel := ⟨0, stdFds, fun _ => .zero, [], [], false, []⟩
def freshCamera : Device := ⟨6, videoName 0, .videoCapture, .unset, [], .zero, 0, [], .fresh 0⟩

/-- A format the driver takes as it is. -/
theorem formats_in_sync_obliging :
    SetsInSync (.obliging [] []) freshKernel freshCamera ⟨320, 240, PixFormat.YUYV, 0, 0⟩ := by
  have hsync : freshCamera.InSync freshKernel := rfl
  refine ((formats_in_sync (.obliging [] []) freshKernel ⟨320, 240, PixFormat.YUYV, 0, 0⟩).1 _ hsync).mpr ?_
  rintro f ⟨⟩
  exact .inr ⟨rfl, rfl, rfl, rfl⟩

/-- **The driver adjusts the format.** The call fails, and leaves 640 pixels in force where the device
    remembers none. -/
theorem adjusting_driver :
    freshCamera.InSync freshKernel ∧
      ¬SetsInSync wideBench freshKernel freshCamera ⟨320, 240, PixFormat.YUYV, 0, 0⟩ := by
  refine ⟨rfl, fun h => ?_⟩
  have hwidth : (0 : UInt32) = 640 := congrArg PixFormat.width h.1
  exact absurd hwidth (by decide)

end Uvcd
