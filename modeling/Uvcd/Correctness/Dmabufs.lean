import Uvcd.Refinement.Dmabuf

/-!
# `Correctness.Dmabufs` — whose descriptor a dma-buf is

Devices hand their buffers on as dma-bufs, and each end holds a descriptor of its own: `v4l2_export_buffers` and
`v4l2_import_buffers` open them, `v4l2_free_buffers` closes them. `dmabufs_accounted` says of any program that opens,
closes and frees in any order that the descriptors are used in order and that all of them are accounted for, by a
device, by a buffer in use, or as spilt; those are spilt that a second export or import puts another one in the
place of, and those of a device that is closed with its buffers. A program that frees the buffers of a device first
spills none.
-/

namespace Uvcd

open Machine

variable {env : Env} {sh : Sharing} {own : List Nat} {d d' : Device} {s s' : Rack}

/-! ## Programs -/

/-- The descriptors of the open devices, and of the dma-bufs they hold. -/
def Rack.held (s : Rack) : List Nat := s.devs.flatMap fun d => d.fd :: d.handles

/-- The dma-bufs of the `i`-th device. -/
def Rack.handles (s : Rack) (i : Nat) : List Nat := (s.devs[i]?).elim [] (·.handles)

/-- The descriptors that nobody holds any more after the call and that it has not closed. -/
def BufferCall.spilt (c : BufferCall) (s s' : Rack) : List Nat :=
  match c with
  | .export i | .import i _ => (s.handles i).filter fun fd => fd ∉ s'.handles i
  | .close i => s.handles i
  | .open _ | .alloc _ _ _ | .mmap _ | .free _ => []

/-- What the calls of a run have spilt. -/
def spiltBy (env : Env) (sh : Sharing) : List BufferCall → Rack → List Nat
  | [], _ => []
  | c :: calls, s =>
    match c.step env sh s with
    | .error _ => []
    | .ok s' => spiltBy env sh calls s' ++ c.spilt s s'

/-- The device of an export, an import or a close holds no dma-buf yet, or no more. -/
def BufferCall.Careful (c : BufferCall) (s : Rack) : Prop :=
  match c with
  | .export i | .import i _ | .close i => s.handles i = []
  | .open _ | .alloc _ _ _ | .mmap _ | .free _ => True

instance (c : BufferCall) (s : Rack) : Decidable (c.Careful s) := by
  unfold BufferCall.Careful
  cases c <;> infer_instance

theorem BufferCall.Careful.spilt {c : BufferCall} (h : c.Careful s) : c.spilt s s' = [] := by
  cases c with
  | «open» | alloc | mmap | free => rfl
  | close i => exact h
  | «export» i | «import» i j =>
      have h : s.handles i = [] := h
      unfold BufferCall.spilt
      dsimp only
      rw [h]
      rfl

/-- A device works on, with the others beside it. -/
theorem held_set {i : Nat} (h : s.devs[i]? = some d) (hfd : d'.fd = d.fd) (k : Kernel) : ∃ others,
    s.held.Perm (d.handles ++ (d.fd :: others)) ∧
      (Rack.held ⟨k, s.devs.set i d'⟩).Perm (d'.handles ++ (d.fd :: others)) := by
  obtain ⟨hi, rfl⟩ := List.getElem?_eq_some_iff.mp h
  have hput : ∀ e : Device, (Rack.held ⟨k, s.devs.set i e⟩).Perm
      (e.handles ++ (e.fd :: (s.devs.eraseIdx i).flatMap fun d => d.fd :: d.handles)) := by
    intro e
    refine ((List.set_perm_cons_eraseIdx hi e).flatMap_right _).trans ?_
    exact List.perm_middle.symm
  refine ⟨(s.devs.eraseIdx i).flatMap fun d => d.fd :: d.handles, ?_, hfd ▸ hput d'⟩
  have hself := hput s.devs[i]
  rwa [List.set_getElem_self] at hself

theorem held_erase {i : Nat} (h : s.devs[i]? = some d) (k : Kernel) :
    s.held.Perm (d.fd :: (d.handles ++ Rack.held ⟨k, s.devs.eraseIdx i⟩)) := by
  obtain ⟨hi, rfl⟩ := List.getElem?_eq_some_iff.mp h
  exact ((List.getElem_cons_eraseIdx_perm hi).symm.flatMap_right _)

/-- What a call does on its device it does on the rack. -/
theorem drive_trades {i : Nat} {f : Kernel → Device → Except Fault (Int × Kernel × Device)}
    {spilt : Device → Device → List Nat} (h : s.drive i f = .ok s')
    (hf : ∀ {d : Device} {ret : Int} {k' : Kernel} {d' : Device}, f s.kernel d = .ok (ret, k', d') →
      Hands own s.kernel d k' d' (spilt d d')) :
    (s.devs[i]? = none ∧ s' = s) ∨ ∃ d d', s.devs[i]? = some d ∧ s'.devs[i]? = some d' ∧
      ∀ lost, Trades own s.kernel (s.held ++ lost) s'.kernel (s'.held ++ (spilt d d' ++ lost)) := by
  unfold Rack.drive at h
  split at h
  · next hnone =>
      cases h
      exact .inl ⟨hnone, rfl⟩
  · next d hd =>
      obtain ⟨⟨ret, k', d'⟩, hdrive, h⟩ := bind_eq_ok.mp h
      cases h
      have hhands := hf hdrive
      obtain ⟨others, hold, hnew⟩ := held_set hd hhands.fd k'
      refine .inr ⟨d, d', hd, List.getElem?_set_self (List.getElem?_eq_some_iff.mp hd).1, fun lost => ?_⟩
      refine (hhands.trades (d.fd :: others ++ lost) (List.mem_append_left _ List.mem_cons_self)).perm ?_ ?_
      · rw [← List.append_assoc]
        exact hold.append_right lost
      · refine .trans ?_ (hnew.symm.append_right _)
        rw [List.append_assoc]
        refine .append_left _ ?_
        rw [← List.append_assoc, ← List.append_assoc]
        exact List.perm_append_comm.append_right lost

/-- Nothing is lost by a call on a device that is not there. -/
theorem drive_keeps {i : Nat} {f : Kernel → Device → Except Fault (Int × Kernel × Device)} (h : s.drive i f = .ok s')
    (hf : ∀ {d : Device} {ret : Int} {k' : Kernel} {d' : Device}, f s.kernel d = .ok (ret, k', d') →
      Hands own s.kernel d k' d' []) (lost : List Nat) :
    Trades own s.kernel (s.held ++ lost) s'.kernel (s'.held ++ lost) := by
  rcases drive_trades h hf with ⟨-, rfl⟩ | ⟨-, -, -, -, htrades⟩
  · exact trades_quiet rfl rfl
  · exact htrades lost

theorem drive_spills {i : Nat} {f : Kernel → Device → Except Fault (Int × Kernel × Device)} (h : s.drive i f = .ok s')
    (hf : ∀ {d : Device} {ret : Int} {k' : Kernel} {d' : Device}, f s.kernel d = .ok (ret, k', d') →
      Hands own s.kernel d k' d' (d.spilt d')) (lost : List Nat) :
    Trades own s.kernel (s.held ++ lost) s'.kernel
      (s'.held ++ ((s.handles i).filter (fun fd => fd ∉ s'.handles i) ++ lost)) := by
  rcases drive_trades h hf with ⟨-, rfl⟩ | ⟨d, d', hd, hd', htrades⟩
  · rw [filter_notMem_self]
    exact trades_quiet rfl rfl
  · unfold Rack.handles
    rw [hd, hd']
    exact htrades lost

/-- **A call trades descriptors**: those of devices and dma-bufs, and those that are lost. -/
theorem BufferCall.step_trades {c : BufferCall} (h : c.step env sh s = .ok s') (lost : List Nat) :
    Trades own s.kernel (s.held ++ lost) s'.kernel (s'.held ++ (c.spilt s s' ++ lost)) := by
  cases c with
  | «open» devname =>
      cases h
      generalize hopen : v4l2Open env s.kernel devname = r
      obtain ⟨dev?, k⟩ := r
      have hopens := v4l2Open_opens hopen
      refine hopens.trades.perm (.refl _) ?_
      have hnew : dev?.toList.flatMap (fun d => d.fd :: d.handles) = (dev?.map (·.fd)).toList := by
        cases hopens with
        | missing | rejected => rfl
        | opened => rfl
      show List.Perm _ ((s.devs ++ dev?.toList).flatMap _ ++ lost)
      rw [List.flatMap_append, hnew, ← List.append_assoc]
      exact List.perm_append_comm.append_right lost
  | close i =>
      unfold step at h
      dsimp only at h
      unfold BufferCall.spilt Rack.handles
      split at h
      · next hnone =>
          cases h
          dsimp only
          rw [hnone]
          exact trades_quiet rfl rfl
      · next d hd =>
          cases h
          dsimp only
          rw [hd]
          have hold := held_erase hd (v4l2Close s.kernel d)
          refine (trades_close_head d.fd _ s.kernel).perm (hold.append_right lost) ?_
          refine (List.perm_append_comm.append_right lost).trans ?_
          rw [List.append_assoc]
          exact .refl _
  | alloc i memtype nbufs =>
      have h : s.drive i (fun k d => v4l2AllocBuffers env k d memtype nbufs) = .ok s' := h
      exact drive_keeps h (fun h => v4l2AllocBuffers_hands h) lost
  | mmap i => exact drive_keeps h (fun h => v4l2MmapBuffers_hands h) lost
  | free i => exact drive_keeps h (fun h => v4l2FreeBuffers_hands h) lost
  | «export» i => exact drive_spills h (fun h => v4l2ExportBuffers_hands h) lost
  | «import» i j =>
      unfold step at h
      dsimp only at h
      split at h
      · cases h
        unfold BufferCall.spilt
        dsimp only
        rw [filter_notMem_self]
        exact trades_quiet rfl rfl
      · exact drive_spills h (fun h => v4l2ImportBuffers_hands h) lost

theorem run_spilt (own : List Nat) {calls : List BufferCall}
    (h : Machine.run (BufferCall.step env sh) calls s = .ok s') (lost : List Nat) :
    Trades own s.kernel (s.held ++ lost) s'.kernel (s'.held ++ (spiltBy env sh calls s ++ lost)) := by
  induction calls generalizing s lost with
  | nil =>
      cases h
      exact trades_quiet rfl rfl
  | cons c calls ih =>
      obtain ⟨s₁, hstep, hrest⟩ := run_cons_ok.mp h
      have hspilt : spiltBy env sh (c :: calls) s = spiltBy env sh calls s₁ ++ c.spilt s s₁ := by
        rw [spiltBy, hstep]
      rw [hspilt, List.append_assoc]
      exact (c.step_trades hstep lost).trans (ih hrest _)

theorem careful_spills_none {calls : List BufferCall}
    (h : Along (BufferCall.step env sh) BufferCall.Careful calls s) : spiltBy env sh calls s = [] := by
  induction calls generalizing s with
  | nil => rfl
  | cons c calls ih =>
      rw [spiltBy]
      split
      · rfl
      · next s₁ hstep =>
          rw [ih (h.2 s₁ hstep), h.1.spilt]
          rfl

/-! ## Every call goes through -/

/-- The buffer arrays are as long as the devices say. -/
def Rack.Whole (s : Rack) : Prop := ∀ d ∈ s.devs, d.Whole

theorem drive_whole {i : Nat} {f : Kernel → Device → Except Fault (Int × Kernel × Device)} (hw : s.Whole)
    (hf : ∀ d, d.Whole → Ends (fun r => r.2.2.Whole) (fun _ => False) (f s.kernel d)) :
    ∃ s', s.drive i f = .ok s' ∧ s'.Whole := by
  unfold Rack.drive
  split
  · exact ⟨s, rfl, hw⟩
  · next d hd =>
      obtain ⟨⟨ret, k', d'⟩, hdrive, hw'⟩ := (hf d (hw d (List.mem_of_getElem? hd))).returns
      rw [hdrive]
      refine ⟨_, rfl, fun e he => ?_⟩
      rcases List.mem_or_eq_of_mem_set he with he | rfl
      · exact hw e he
      · exact hw'

theorem BufferCall.step_whole (hmem : ∀ t, env.malloc t = true) (sh : Sharing) (c : BufferCall) (hw : s.Whole) :
    ∃ s', c.step env sh s = .ok s' ∧ s'.Whole := by
  cases c with
  | «open» devname =>
      refine ⟨_, rfl, fun d hd => ?_⟩
      rcases List.mem_append.mp hd with hd | hd
      · exact hw d hd
      · have hopens : V4lOpens s.kernel devname (v4l2Open env s.kernel devname).1 _ := v4l2Open_opens rfl
        rw [Option.mem_toList.mp hd] at hopens
        cases hopens with
        | opened => exact Nat.le_refl 0
  | close i =>
      unfold step
      dsimp only
      split
      · exact ⟨s, rfl, hw⟩
      · exact ⟨_, rfl, fun d hd => hw d (List.mem_of_mem_eraseIdx hd)⟩
  | alloc i memtype nbufs =>
      exact drive_whole (f := fun k d => v4l2AllocBuffers env k d memtype nbufs) hw fun d hd =>
        v4l2AllocBuffers_ends _ hd memtype nbufs fun hno => absurd (Device.funded_of_malloc hmem _ d _) hno
  | mmap i => exact drive_whole hw fun d hd => v4l2MmapBuffers_ends env _ hd
  | free i => exact drive_whole hw fun d hd => v4l2FreeBuffers_ends env _ hd
  | «export» i =>
      refine drive_whole hw fun d hd => ?_
      unfold v4l2ExportBuffers
      split
      · exact .ok hd
      · split
        · exact .ok hd
        · exact (exportBuffers_ends sh 0 _ d (by rw [Nat.zero_add]; exact hd)).mono fun r hr => hd.of_eq hr.1 hr.2
  | «import» i j =>
      unfold step
      dsimp only
      split
      · exact ⟨s, rfl, hw⟩
      · next src hsrc =>
          refine drive_whole hw fun d hd => ?_
          unfold v4l2ImportBuffers
          split
          · exact .ok hd
          · next hfits =>
              split
              · exact .ok hd
              · have hsrc := hw src (List.mem_of_getElem? hsrc)
                unfold Device.Whole at hsrc hd
                refine (importBuffers_ends env sh 0 _ d (by omega) (by omega)).mono fun r hr => ?_
                exact Device.Whole.of_eq hd hr.1 hr.2

/-- **Every descriptor is accounted for.** In any run of a program that opens and closes devices, asks for their
    buffers, maps, exports, imports and frees them, whatever drivers answer, descriptors are used and closed in order
    and only while they are open, and those open are at any time the ones of open devices and of the dma-bufs these
    hold, the ones spilt on the way, and the ones from before. Nothing is spilt by a program that exports to, imports
    to and closes devices that hold no dma-bufs; with memory for the arrays every run goes through. -/
theorem dmabufs_accounted (env : Env) (sh : Sharing) {k : Kernel} (hnd : k.opened.Nodup) (calls : List BufferCall) :
    (∀ s, Machine.run (BufferCall.step env sh) calls ⟨k, []⟩ = .ok s → Orderly k.opened k s.kernel ∧
      s.kernel.opened.Perm (s.held ++ spiltBy env sh calls ⟨k, []⟩ ++ k.opened)) ∧
    (Along (BufferCall.step env sh) BufferCall.Careful calls ⟨k, []⟩ → spiltBy env sh calls ⟨k, []⟩ = []) ∧
    ((∀ t, env.malloc t = true) → ∃ s, Machine.run (BufferCall.step env sh) calls ⟨k, []⟩ = .ok s) := by
  refine ⟨fun s hrun => ?_, careful_spills_none, fun hmem => ?_⟩
  · obtain ⟨horder, hp⟩ := run_spilt k.opened hrun [] hnd (.refl _)
    rw [List.append_nil] at hp
    exact ⟨horder, hp⟩
  · obtain ⟨s, hrun, -⟩ := run_progress (C := fun _ _ => True)
      (fun c s hs _ => BufferCall.step_whole hmem sh c hs) (s := ⟨k, []⟩) (fun d hd => by cases hd)
      (along_true calls _)
    exact ⟨s, hrun⟩

/-! ## A camera shown on an output -/

/-- The buffers of `video1` are exported, and imported by `video0`; both ends free them and are closed. -/
def shareEnv : Env := .obliging [videoName 0] []
def shareAll : Sharing := ⟨fun _ _ _ => true, fun _ _ => true⟩
def shareKernel : Kernel := (boot shareEnv [videoName 0, videoName 1] fun _ => .zero).io.kernel
def shareUp : List BufferCall :=
  [.open (videoName 0), .open (videoName 1), .alloc 1 .mmap 2, .mmap 1, .export 1, .alloc 0 .dmabuf 2, .import 0 1]
def shareDown : List BufferCall := [.free 1, .free 0, .close 1, .close 0]

/-- A second export of the buffers leaves the descriptors of the first one open. -/
theorem dmabufs_accounted_shared :
    (∃ s, Machine.run (BufferCall.step shareEnv shareAll) (shareUp ++ shareDown) ⟨shareKernel, []⟩ = .ok s ∧
      Orderly shareKernel.opened shareKernel s.kernel ∧ s.kernel.opened.Perm shareKernel.opened) ∧
    ∃ s, Machine.run (BufferCall.step shareEnv shareAll) (shareUp ++ .export 1 :: shareDown) ⟨shareKernel, []⟩ = .ok s ∧
      s.kernel.opened.Perm ([7, 8] ++ shareKernel.opened) := by
  constructor
  · obtain ⟨s, hrun, hheld⟩ : ∃ s, Machine.run (BufferCall.step shareEnv shareAll) (shareUp ++ shareDown)
        ⟨shareKernel, []⟩ = .ok s ∧ s.held = [] := by decide
    have hcareful : Along (BufferCall.step shareEnv shareAll) BufferCall.Careful (shareUp ++ shareDown)
        ⟨shareKernel, []⟩ := by decide
    have hall := dmabufs_accounted shareEnv shareAll (k := shareKernel) (by decide) (shareUp ++ shareDown)
    obtain ⟨horder, hp⟩ := hall.1 s hrun
    rw [hheld, hall.2.1 hcareful] at hp
    exact ⟨s, hrun, horder, hp⟩
  · obtain ⟨s, hrun, hheld⟩ : ∃ s, Machine.run (BufferCall.step shareEnv shareAll) (shareUp ++ .export 1 :: shareDown)
        ⟨shareKernel, []⟩ = .ok s ∧ s.held = [] := by decide
    have hspilt : spiltBy shareEnv shareAll (shareUp ++ .export 1 :: shareDown) ⟨shareKernel, []⟩ = [7, 8] := by decide
    have hall := dmabufs_accounted shareEnv shareAll (k := shareKernel) (by decide) (shareUp ++ .export 1 :: shareDown)
    obtain ⟨-, hp⟩ := hall.1 s hrun
    rw [hheld, hspilt] at hp
    exact ⟨s, hrun, hp⟩

end Uvcd
