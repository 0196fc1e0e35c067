import Uvcd.Refinement.Does

/-!
# `Correctness.Ids` — the ids of the attached gadgets

`uvc_gadget_attach` takes the clock's microseconds for the id of a gadget, truncated to 32 bits. So the ids of
the attached gadgets are distinct and not `0`, in every state a run passes, exactly when no attach reads the
clock at a multiple of `2 ^ 32` microseconds or a multiple of that away from the attach of a gadget that is still
there (`ids_identify`).
-/

namespace Uvcd

open Machine Split

variable {env : Env} {s s' : Sys} {a : Action}

/-- The gadgets can be told apart by their ids, and from the `0` of an unpaired capture. -/
structure Sys.Identified (s : Sys) : Prop where
  nodup : (s.gadgets.map (·.id)).Nodup
  nonzero : ∀ g ∈ s.gadgets, g.id ≠ 0

/-- A clock reading in microseconds. -/
def micros (clock : Nat × Nat) : Nat := clock.1 * 1000000 + clock.2 / 1000

theorem current_toNat (clock : Nat × Nat) : (current clock).toNat = micros clock % 2 ^ 32 := by
  simp [current, micros]

/-- The driver takes these subscriptions, from call `t` on. -/
def Subscribes (env : Env) (file : File) : List UvcEventType → Nat → Prop
  | [], _ => True
  | e :: es, t => env.subscribe t file e = none ∧ Subscribes env file es (t + 1)

/-- The daemon is about to attach a gadget and reads the clock by call `t`: the node opens as an output device,
    there is memory, and the driver takes the subscriptions. -/
structure ReadsClock (env : Env) (s : Sys) (t : Nat) (p : Nat) (name : DevName) (batch : List Message)
    (rest : List EventIter) (dev : Device) (k : Kernel) : Prop where
  at_attached : s.phase = .process (.hotplugAttached p name :: batch) rest
  registered : .uvc ∈ s.handlers
  opens : v4l2Open env s.io.kernel name = (some dev, k)
  output : dev.type = .videoOutput
  mem : env.malloc k.tick = true
  tick : t = k.tick + 1
  subscribes : Subscribes env dev.file [.setup, .data, .streamon, .streamoff] (t + 1)

/-- If the step attaches a gadget, the reading is not `0` modulo `2 ^ 32` and not the one that an attached gadget
    got its id from. -/
def ReadsFresh (env : Env) (a : Action) (s : Sys) : Prop :=
  a = .next → ∀ t p name batch rest dev k, ReadsClock env s t p name batch rest dev k →
    micros (env.clock t) % 2 ^ 32 ≠ 0 ∧ ∀ g ∈ s.gadgets, micros (env.clock t) % 2 ^ 32 ≠ g.id.toNat

theorem current_eq {clock : Nat × Nat} {id : UInt32} : current clock = id ↔ micros clock % 2 ^ 32 = id.toNat := by
  rw [← current_toNat, UInt32.toNat_inj]

theorem subscribeAll_subscribes {fd : Nat} {file : File} {ts : List UvcEventType} :
    ∀ {k k' : Kernel} {ret : Int}, subscribeAll env fd file ts k = (ret, k') →
      (¬ret < 0 ↔ Subscribes env file ts k.tick) := by
  induction ts with
  | nil => intro k k' ret h; cases h; exact iff_of_true (by omega) trivial
  | cons t ts ih =>
      intro k k' ret h
      rw [subscribeAll] at h
      split at h
      · next e he =>
          cases h
          refine iff_of_false (by omega) fun hall => ?_
          have hnone := he.symm.trans hall.1
          cases hnone
      · next hnone =>
          exact (ih h).trans ⟨fun hs => ⟨hnone, hs⟩, fun hs => hs.2⟩

theorem uvcGadgetInit_subscribes {formats : List FormatInfo} {k k' : Kernel} {g g' : Gadget} {ret : Int}
    (h : uvcGadgetInit formats env k g = (ret, g', k')) :
    ¬ret < 0 ↔ Subscribes env g.vdev.file [.setup, .data, .streamon, .streamoff] k.tick := by
  unfold uvcGadgetInit at h
  dsimp only at h
  generalize hs : subscribeAll env _ _ _ k = r at h
  obtain ⟨ret₁, k₁⟩ := r
  cases h
  have hsub := subscribeAll_subscribes hs
  split at hsub <;> exact hsub

/-! ## What a step does to the ids -/

/-- A gadget that is attached gets the clock's microseconds for its id. -/
theorem UvcAttaches.ids {io io' : Io} {gadgets gadgets' : List Gadget} {name : DevName} {r : Int}
    (h : UvcAttaches env io gadgets name r gadgets' io') :
    gadgets' = gadgets ∨ ∃ g dev k, gadgets' = gadgets ++ [g] ∧ g.id = current (env.clock (k.tick + 1)) ∧
      v4l2Open env io.kernel name = (some dev, k) ∧ dev.type = .videoOutput ∧ env.malloc k.tick = true ∧
      Subscribes env dev.file [.setup, .data, .streamon, .streamoff] (k.tick + 2) := by
  cases h with
  | missing hopen => exact .inl rfl
  | rejected hup => exact .inl rfl
  | attached hopen htype hmem hinit hret =>
      rename_i dev k k₁ io₁ addr ret g
      have htick : io₁.kernel.tick = k.tick + 1 := by rw [malloc_kernel hmem]; rfl
      have hm : env.malloc k.tick = true := by
        unfold Io.malloc at hmem
        split at hmem
        · assumption
        · cases hmem
      have hsub := (uvcGadgetInit_subscribes hinit).mp hret
      have hid : g.id = current (env.clock io₁.kernel.tick) := by rw [(uvcGadgetInit_talks hinit).2]; rfl
      rw [htick] at hid
      refine .inr ⟨g, dev, k, rfl, hid, hopen, htype, hm, ?_⟩
      have hask : io₁.kernel.ask.tick = k.tick + 2 := by show io₁.kernel.tick + 1 = _; rw [htick]
      rw [hask] at hsub
      exact hsub

theorem ids_replaced {gadgets pre post : List Gadget} {g g' : Gadget} (heq : gadgets = pre ++ g :: post)
    (hid : g'.id = g.id) : (pre ++ g' :: post).map (·.id) = gadgets.map (·.id) := by
  rw [heq, List.map_append, List.map_append, List.map_cons, List.map_cons, hid]

theorem UvcDetaches.ids {io io' : Io} {gadgets gadgets' : List Gadget} {name : DevName} {r : Int}
    (h : UvcDetaches env io gadgets name r gadgets' io') :
    (gadgets'.map (·.id)).Sublist (gadgets.map (·.id)) := by
  cases h with
  | missed h => exact .refl _
  | detached hs hstop =>
      rw [hs.eq]
      exact ((List.sublist_cons_self _ _).append_left _).map _

/-- **What a step does to the ids**: none is new, but for a gadget that is attached. -/
theorem Does.ids (hst : s.Stands) (h : Does env s a s') :
    (s'.gadgets.map (·.id)).Sublist (s.gadgets.map (·.id)) ∨
      (a = .next ∧ ∃ t p name batch rest dev k, ReadsClock env s t p name batch rest dev k ∧
        s'.gadgets.map (·.id) = s.gadgets.map (·.id) ++ [current (env.clock t)]) := by
  cases h with
  | turn | plug | unplug | signal | init | scan | looper | hotplug | capture => exact .inl (.refl _)
  -- the calls of a gadget leave its id alone
  | gadget hat hs hcall =>
      have hids := ids_replaced hs.eq hcall.same.2
      exact .inl (by dsimp only [afterCall]; rw [hids])
  | video hat hs hcall =>
      rename_i g g' io
      have hid : g'.id = g.id := by rw [(uvcVideoProcess_only hcall).1]
      have hids := ids_replaced hs.eq hid
      exact .inl (by dsimp only [afterCall]; rw [hids])
  | handle hat hm hserve =>
      rename_i m batch rest s₁
      obtain ⟨r, s₂, hu, hgadgets⟩ := hserve.uvc
      show (s₁.gadgets.map (·.id)).Sublist _ ∨ (_ ∧ ∃ t p name batch rest dev k, _ ∧ s₁.gadgets.map (·.id) = _)
      rw [hgadgets]
      cases hu with
      | skipped => exact .inl (.refl _)
      | attach hreg hatt =>
          -- an attach either leaves the list or appends a gadget whose id is the clock's
          rcases hatt.ids with heq | ⟨g, dev, k, heq, hid, hopen, htype, hmem, hsub⟩
          · exact .inl (by dsimp only; rw [heq])
          · refine .inr ⟨rfl, k.tick + 1, _, _, _, _, dev, k, ⟨hat, hreg, hopen, htype, hmem, rfl, hsub⟩, ?_⟩
            dsimp only
            rw [heq, List.map_append, List.map_singleton, hid]
      | detach hdet => exact .inl hdet.ids
      | copied hs =>
          rename_i id p pre post g f img
          have hids := @ids_replaced _ pre post g { g with imgdata := img } hs.eq rfl
          exact .inl (by dsimp only; rw [hids])
  -- the cleanup empties the list
  | cleanup hat h =>
      have hal := hst.alive (by rw [hat]; simp)
      refine .inl ?_
      dsimp only
      rw [(looperCleanup_empties hal.fit.staffed h).1]
      exact List.nil_sublist _

/-- With memory and the subscriptions taken, an output device is attached. -/
theorem uvcGadgetAttach_takes {io : Io} {gadgets : List Gadget} {name : DevName} {dev : Device} {k : Kernel}
    (hopen : v4l2Open env io.kernel name = (some dev, k)) (htype : dev.type = .videoOutput)
    (hmem : env.malloc k.tick = true)
    (hsub : Subscribes env dev.file [.setup, .data, .streamon, .streamoff] (k.tick + 2)) :
    ∃ g io', uvcGadgetAttach env io gadgets name = (0, gadgets ++ [g], io') ∧ g.vdev = dev ∧
      g.id = current (env.clock (k.tick + 1)) := by
  have halloc : Io.malloc env { io with kernel := k }
      = (some io.brk, { io with kernel := k.ask, brk := io.brk + 1 }) := if_pos hmem
  generalize hinit : uvcGadgetInit uvcFormats env k.ask.ask
    (.fresh io.brk dev (current (env.clock k.ask.tick))) = res
  obtain ⟨ret, g, k₁⟩ := res
  have hret : ¬ret < 0 := (uvcGadgetInit_subscribes hinit).mpr hsub
  have hg := (uvcGadgetInit_talks hinit).2
  unfold uvcGadgetAttach
  rw [hopen]
  dsimp only
  rw [if_neg (not_not.mpr htype), halloc]
  dsimp only
  rw [hinit]
  dsimp only
  rw [if_neg hret]
  exact ⟨g, _, rfl, by rw [hg]; rfl, by rw [hg]; rfl⟩

/-- The gadget module claims the message of an output device, so no other handler sees it. -/
theorem looperDispatch_takes {p : Nat} {name : DevName} {dev : Device} {k : Kernel} {hs : List Handler}
    (hopen : v4l2Open env s.io.kernel name = (some dev, k)) (htype : dev.type = .videoOutput)
    (hmem : env.malloc k.tick = true)
    (hsub : Subscribes env dev.file [.setup, .data, .streamon, .streamoff] (k.tick + 2)) :
    ∃ g io, looperDispatch env (.hotplugAttached p name) (.uvc :: hs) s =
      .ok { s with gadgets := s.gadgets ++ [g], io := io } ∧ g.vdev = dev ∧
      g.id = current (env.clock (k.tick + 1)) := by
  obtain ⟨g, io, hattach, hdev, hid⟩ := @uvcGadgetAttach_takes env s.io s.gadgets _ _ _ hopen htype hmem hsub
  have hclaim : uvcHandleMessage env s (.hotplugAttached p name) =
      .ok (1, { s with gadgets := s.gadgets ++ [g], io := io }) := by
    unfold uvcHandleMessage Message.hotplugAttached
    dsimp only
    rw [hattach]
    rfl
  have huvc : handleMessage env .uvc s (.hotplugAttached p name) = _ := hclaim
  refine ⟨g, io, ?_, hdev, hid⟩
  rw [looperDispatch, huvc]
  rfl

/-- A step that reads the clock attaches a gadget. -/
theorem ReadsClock.attaches {t p : Nat} {name : DevName} {batch : List Message} {rest : List EventIter}
    {dev : Device} {k : Kernel} (hr : ReadsClock env s t p name batch rest dev k) (hal : s.Alive) :
    ∃ s', step env .next s = .ok s' ∧
      s'.gadgets.map (·.id) = s.gadgets.map (·.id) ++ [current (env.clock t)] := by
  have hsub := hr.subscribes
  rw [hr.tick] at hsub
  have hdispatch : ∃ s₁ g, looperDispatch env (.hotplugAttached p name) s.handlers s = .ok s₁ ∧
      s₁.gadgets = s.gadgets ++ [g] ∧ g.id = current (env.clock t) := by
    have hfirst : ∀ hs, ∃ s₁ g, looperDispatch env (.hotplugAttached p name) (.uvc :: hs) s = .ok s₁ ∧
        s₁.gadgets = s.gadgets ++ [g] ∧ g.id = current (env.clock t) := by
      intro hs
      obtain ⟨g, io, hd, -, hid⟩ :=
        @looperDispatch_takes env s p name dev k hs hr.opens hr.output hr.mem hsub
      exact ⟨_, g, hd, rfl, by rw [hid, hr.tick]⟩
    have hreg := hr.registered
    cases hal.fit.staffed with
    | none hh _ _ => rw [hh] at hreg; cases hreg
    | uvc hh _ => rw [hh]; exact hfirst _
    | capture hh _ => rw [hh] at hreg; simp at hreg
    | both hh => rw [hh]; exact hfirst _
  obtain ⟨s₁, g, hs₁, hg, hid⟩ := hdispatch
  refine ⟨{ s₁ with io := s₁.io.free p, phase := .process batch rest }, ?_, ?_⟩
  · rw [step, next, hr.at_attached]
    show (looperHandle env s _ >>= _) = _
    unfold looperHandle
    rw [hs₁]
    rfl
  · show s₁.gadgets.map _ = _
    rw [hg, List.map_append, List.map_singleton, hid]

/-! ## The ids over a run -/

theorem identified_iff : s.Identified ↔ (0 :: s.gadgets.map (·.id)).Nodup := by
  rw [List.nodup_cons, List.mem_map]
  constructor
  · intro h
    refine ⟨?_, h.nodup⟩
    rintro ⟨g, hg, hid⟩
    exact h.nonzero g hg hid
  · rintro ⟨h0, hnd⟩
    exact ⟨hnd, fun g hg hid => h0 ⟨g, hg, hid⟩⟩

/-- One more id. -/
theorem identified_snoc {clock : Nat × Nat} (hids : s'.gadgets.map (·.id) = s.gadgets.map (·.id) ++ [current clock])
    (h : s.Identified) : s'.Identified ↔
      micros clock % 2 ^ 32 ≠ 0 ∧ ∀ g ∈ s.gadgets, micros clock % 2 ^ 32 ≠ g.id.toNat := by
  rw [identified_iff] at h
  rw [identified_iff, hids, ← List.cons_append, List.nodup_append]
  have hnew : (∀ x ∈ 0 :: s.gadgets.map (·.id), ∀ y ∈ [current clock], x ≠ y) ↔
      current clock ≠ 0 ∧ ∀ g ∈ s.gadgets, current clock ≠ g.id := by
    simp only [List.mem_cons, List.mem_map, List.not_mem_nil, or_false, forall_eq, forall_eq_or_imp,
      forall_exists_index, and_imp, forall_apply_eq_imp_iff₂, ne_comm]
  rw [hnew]
  simp only [ne_eq, current_eq]
  constructor
  · rintro ⟨-, -, h⟩; exact h
  · intro hc; exact ⟨h, List.pairwise_singleton _ _, hc⟩

theorem step_identified (hst : s.Stands) (hid : s.Identified) (h : step env a s = .ok s') :
    s'.Identified ↔ ReadsFresh env a s := by
  by_cases hreads : a = .next ∧ ∃ t p name batch rest dev k, ReadsClock env s t p name batch rest dev k
  · obtain ⟨rfl, t, p, name, batch, rest, dev, k, hr⟩ := hreads
    have hal := hst.alive (by rw [hr.at_attached]; simp)
    obtain ⟨s₁, hs₁, hids⟩ := hr.attaches hal
    rw [h] at hs₁
    cases hs₁
    rw [identified_snoc hids hid]
    constructor
    · intro hfresh _ t' p' name' batch' rest' dev' k' hr'
      -- the state determines the reading
      have hat := hr.at_attached.symm.trans hr'.at_attached
      have hm := (List.cons.inj (Phase.process.inj hat).1).1
      have hparam : LParam.devname p name = .devname p' name' := congrArg Message.lParam hm
      have hname : name = name' := (LParam.devname.inj hparam).2
      subst hname
      have hopen := hr.opens.symm.trans hr'.opens
      cases hopen
      rw [hr'.tick, ← hr.tick]
      exact hfresh
    · intro hfresh
      exact hfresh rfl t p name batch rest dev k hr
  · have hsub := (step_does hst h).ids hst
    refine iff_of_true ?_ fun hnext t p name batch rest dev k hr => ?_
    · rw [identified_iff] at hid ⊢
      rcases hsub with hsub | hread
      · exact hid.sublist (hsub.cons_cons 0)
      · obtain ⟨hnext, t, p, name, batch, rest, dev, k, hr, -⟩ := hread
        exact absurd ⟨hnext, t, p, name, batch, rest, dev, k, hr⟩ hreads
    · exact absurd ⟨hnext, t, p, name, batch, rest, dev, k, hr⟩ hreads

/-- **The ids of the attached gadgets are distinct and not `0`** in every state a run passes exactly when each
    attach on it reads the clock afresh modulo `2 ^ 32`. -/
theorem ids_identify (env : Env) (nodes : List DevName) (inforce : Nat → PixFormat) (as : List Action) :
    Throughout (step env) Sys.Identified as (boot env nodes inforce) ↔
      Along (step env) (ReadsFresh env) as (boot env nodes inforce) := by
  refine throughout_iff_along (R := Sys.Stands) (fun a s t hs h => hs.step h)
    (fun a s t hs hP h => step_identified hs hP h) ?_ (.inr (boot_alive env nodes inforce))
    ⟨List.nodup_nil, fun g hg => by cases hg⟩
  -- a step that reads the clock does not fault
  intro a s e hs _ herr hnext t p name batch rest dev k hr
  subst hnext
  have hal := hs.alive (by rw [hr.at_attached]; simp)
  obtain ⟨s', hs', -⟩ := hr.attaches hal
  rw [herr] at hs'
  cases hs'

/-- The clock is later at every call than at the one before. -/
def Env.Advances (env : Env) : Prop :=
  ∀ t, (env.clock t).1 < (env.clock (t + 1)).1 ∨
    ((env.clock t).1 = (env.clock (t + 1)).1 ∧ (env.clock t).2 < (env.clock (t + 1)).2)

/-- A clock that counts microseconds, `start` of them having passed. -/
def clockFrom (start t : Nat) : Nat × Nat := ((start + t) / 1000000, (start + t) % 1000000 * 1000)

/-- An output device that is attached after `2 ^ 32` microseconds. -/
def wrapBench : Env := { Env.obliging [videoName 0] [] with clock := clockFrom (2 ^ 32 - 16) }

/-- The gadget gets the id of no gadget. -/
theorem attached_with_id_zero : wrapBench.Advances ∧
    ¬Throughout (step wrapBench) Sys.Identified ([.next, .next] ++ turn [3] 4)
      (boot wrapBench [videoName 0] fun _ => .zero) := by
  constructor
  · intro t
    show (_ + t) / 1000000 < (_ + (t + 1)) / 1000000 ∨
      _ / 1000000 = _ / 1000000 ∧ _ % 1000000 * 1000 < _ % 1000000 * 1000
    omega
  · intro h
    obtain ⟨s, hs, g, hg, hid⟩ : ∃ s, run wrapBench ([.next, .next] ++ turn [3] 4)
        (boot wrapBench [videoName 0] fun _ => .zero) = .ok s ∧ ∃ g ∈ s.gadgets, g.id = 0 := by
      decide +kernel
    exact (h _ s (List.prefix_refl _) hs).nonzero g hg hid

end Uvcd
