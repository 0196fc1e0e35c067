import Uvcd.Protocol.Life
import Uvcd.Refinement.Notes

/-!
# `Refinement.Tells` — what the gadget module says in a step

`Utters` is the inversion of a step by the messages of the gadget module, for a pipe that always has room. Every
step is one (`Does.utters`), and what it utters the protocol of `Protocol.Life` allows (`Utters.tells`).
-/

namespace Uvcd

open Machine Split

variable {env : Env} {s s' : Sys} {a : Action} {ms : List Message}

/-- A gadget as its messages show it. -/
def Gadget.speaker (g : Gadget) : Speaker := ⟨g.id, g.isStreaming⟩

def Sys.speakers (s : Sys) : List Speaker := s.gadgets.map Gadget.speaker

/-- **What the gadget module says in a step**, with what it did to say so. -/
inductive Utters (env : Env) (s s' : Sys) : List Message → Prop
  | others {ms : List Message} (hms : ∀ m ∈ ms, m.fromGadget = false) (hgs : s'.speakers = s.speakers) :
      Utters env s s' ms
  | format {g : Gadget} {p : Nat} {fmt : PixFormat} (hg : g ∈ s.gadgets) (hgs : s'.speakers = s.speakers) :
      Utters env s s' [.setFmt g.id p fmt]
  | started {pre post : List Gadget} {g : Gadget} {k₀ k : Kernel} {d : Device} (hs : s.gadgets = pre ++ g :: post)
      (hoff : g.isStreaming = false) (hstart : uvcVideoStart env k₀ g = .ok (0, k, d))
      (hgs : s'.gadgets = pre ++ { g with vdev := d, isStreaming := true } :: post)
      (htick : s'.io.kernel.tick = k.tick + 2) : Utters env s s' [.streamOn g.id]
  | stopped {pre post : List Gadget} {g : Gadget} {d : Device} (hs : s.gadgets = pre ++ g :: post)
      (hon : g.isStreaming = true) (hgs : s'.gadgets = pre ++ { g with vdev := d, isStreaming := false } :: post) :
      Utters env s s' [.streamOff g.id]
  | attached {g : Gadget} (hrun : s.phase ≠ .finished) (hoff : g.isStreaming = false)
      (hgs : s'.gadgets = s.gadgets ++ [g]) :
      Utters env s s' [.uvcAttached g.id]
  | detached {pre post : List Gadget} {g : Gadget} (hs : s.gadgets = pre ++ g :: post)
      (hgs : s'.gadgets = pre ++ post) : Utters env s s' (stops [g] ++ [.uvcDetached g.id])
  | ended (hphase : s'.phase = .finished) (hgs : s'.gadgets = []) : Utters env s s' (stops s.gadgets)

/-! ## Every step utters -/

theorem Hotplugged.others {m : Message} (h : Hotplugged m) : m.fromGadget = false := by
  cases h <;> rfl

theorem speakers_replaced {pre post : List Gadget} {g g' : Gadget} (hs : s.gadgets = pre ++ g :: post)
    (hs' : s'.gadgets = pre ++ g' :: post) (hid : g'.id = g.id) (hst : g'.isStreaming = g.isStreaming) :
    s'.speakers = s.speakers := by
  unfold Sys.speakers
  rw [hs, hs', List.map_append, List.map_append, List.map_cons, List.map_cons]
  unfold Gadget.speaker
  rw [hid, hst]

/-- With room in the pipe a send goes through. -/
theorem sends_one (hw : ∀ t m, env.write t m = true) (t : Nat) (m : Message) :
    (if env.write t m then [m] else []) = [m] := if_pos (hw t m)

theorem sent_post (hw : ∀ t m, env.write t m = true) (io : Io) (m : Message) :
    (io.post env m).sent = io.sent ++ [m] := by
  have hl := logs_post env io m
  rw [sends_one hw] at hl
  exact hl.sent

/-- The callback of a gadget. -/
theorem UvcCalls.utters (hw : ∀ t m, env.write t m = true) {pre post : List Gadget} {g g' : Gadget} {io : Io}
    (h : UvcCalls env s.io g g' io) (hs : s.gadgets = pre ++ g :: post) (hs' : s'.gadgets = pre ++ g' :: post)
    (hio : s'.io = io) : ∃ ms, s'.io.sent = s.io.sent ++ ms ∧ Utters env s s' ms := by
  have hmem' : g ∈ s.gadgets := by rw [hs]; exact List.mem_append_right _ List.mem_cons_self
  cases h with
  | quiet hev ht =>
      refine ⟨[], ?_, .others (fun m hm => by cases hm) (speakers_replaced hs hs' rfl rfl)⟩
      rw [hio, List.append_nil]
  | commit hev hcontrol hset =>
      rename_i data
      have hsame : s'.speakers = s.speakers :=
        speakers_replaced hs hs' (by rw [hset.gadget]; rfl) (by rw [hset.gadget]; rfl)
      rw [hio]
      cases hset with
      | nomem hmem =>
          refine ⟨[], (silent_malloc hmem).sent, .others (fun m hm => by cases hm) hsame⟩
      | refused hmem hret hset =>
          rename_i p io₁ ret fmt k d
          refine ⟨[], ?_, .others (fun m hm => by cases hm) hsame⟩
          exact ((logs_alloc hmem k).trans (logs_free _ p)).sent
      | posted hmem hret hset =>
          rename_i p io₁ ret fmt k d
          have hl := (logs_alloc hmem k).trans (logs_post env _ (.setFmt g.id p fmt))
          rw [sends_one hw] at hl
          exact ⟨_, hl.sent, .format hmem' hsame⟩
  | stream on hev hstream =>
      rw [hio]
      cases hstream with
      | idle h =>
          refine ⟨[], (List.append_nil _).symm, .others (fun m hm => by cases hm) ?_⟩
          exact speakers_replaced hs hs' rfl rfl
      | stopped hon hoff hfree =>
          rename_i d
          refine ⟨_, ?_, .stopped hs hon hs'⟩
          exact sent_post hw _ _
      | failed hoff hret hstart =>
          refine ⟨[], (List.append_nil _).symm, .others (fun m hm => by cases hm) ?_⟩
          exact speakers_replaced hs hs' rfl rfl
      | started hoff hstart =>
          rename_i k d
          refine ⟨_, ?_, .started hs hoff hstart hs' ?_⟩
          · have hwatch := (silent_watch env { s.io.polled g.vdev.fd with kernel := k } d.fd .write
              .uvcVideoProcess (.gadget g.addr)).sent
            rw [sent_post hw, hwatch, List.append_nil]
            rfl
          · rw [hio, post_kernel, watch_kernel]; rfl

/-- A message that is handled. -/
theorem UvcServes.utters (hw : ∀ t m, env.write t m = true) {m : Message} {r : Int} {s₁ : Sys}
    (h : UvcServes env s m r s₁) (hrun : s.phase ≠ .finished) (hs' : s'.gadgets = s₁.gadgets)
    (hio : s'.io.sent = s₁.io.sent) :
    ∃ ms, s'.io.sent = s.io.sent ++ ms ∧ Utters env s s' ms := by
  have hidle : s₁.gadgets = s.gadgets → s₁.io.sent = s.io.sent →
      ∃ ms, s'.io.sent = s.io.sent ++ ms ∧ Utters env s s' ms := by
    intro hg hsent
    refine ⟨[], by rw [hio, hsent, List.append_nil], .others (fun m hm => by cases hm) ?_⟩
    unfold Sys.speakers
    rw [hs', hg]
  cases h with
  | skipped => exact hidle rfl rfl
  | attach hreg hatt =>
      rcases hatt.logs with ⟨rfl, hl⟩ | ⟨g, t, rfl, hoff, hl⟩
      · exact hidle rfl (by rw [hl.sent, List.append_nil])
      · rw [sends_one hw] at hl
        exact ⟨_, hio.trans hl.sent, .attached hrun hoff hs'⟩
  | detach hdet =>
      rcases hdet.logs with ⟨rfl, hl⟩ | ⟨pre, g, post, io₁, t, hsp, rfl, ⟨ms, hq, -, hall⟩, hl⟩
      · exact hidle rfl (by rw [hl.sent, List.append_nil])
      · rw [sends_one hw] at hl
        rw [hall hw] at hq
        refine ⟨_, ?_, .detached hsp.eq hs'⟩
        rw [hio, hl.sent, hq.sent, List.append_assoc]
  | copied hsp =>
      refine ⟨[], by rw [hio, List.append_nil], .others (fun m hm => by cases hm) ?_⟩
      exact speakers_replaced hsp.eq hs' rfl rfl

/-- **Every step utters**, when the pipe has room. -/
theorem Does.utters (hw : ∀ t m, env.write t m = true) (hst : s.Stands) (h : Does env s a s') :
    ∃ ms, s'.io.sent = s.io.sent ++ ms ∧ Utters env s s' ms := by
  cases h with
  | turn | plug | unplug | looper => exact ⟨[], (List.append_nil _).symm, .others (fun m hm => by cases hm) rfl⟩
  | signal n => exact ⟨[.signal n], sent_post hw _ _, .others (fun m hm => by rw [List.mem_singleton.mp hm]; rfl) rfl⟩
  | init hat => exact ⟨[], (hotplugInit_silent s.io).sent, .others (fun m hm => by cases hm) rfl⟩
  | scan hat =>
      obtain ⟨ms, ls, ⟨ps, fs, hl, -⟩, hms, -⟩ := @hotplugScan_books env s.io.tick.tick
      exact ⟨ms, hl.sent, .others (fun m hm => (hms m hm).others) rfl⟩
  | hotplug hat =>
      obtain ⟨ms, ls, ⟨ps, fs, hl, -⟩, hms, -⟩ := @hotplugProcess_books env s.io
      exact ⟨ms, hl.sent, .others (fun m hm => (hms m hm).others) rfl⟩
  | gadget hat hs hcall => exact hcall.utters hw hs.eq rfl rfl
  | video hat hs hcall =>
      obtain ⟨hg, hio⟩ := uvcVideoProcess_only hcall
      refine ⟨[], ?_, .others (fun m hm => by cases hm) (speakers_replaced hs.eq rfl ?_ ?_)⟩
      · show Io.sent _ = _
        rw [hio, List.append_nil]
        rfl
      · rw [hg]
      · rw [hg]
  | capture hat hs hcall =>
      obtain ⟨-, -, -, ms, hms, hl⟩ := captureProcess_turns hcall
      refine ⟨ms, hl.sent, .others (fun m hm => ?_) rfl⟩
      obtain ⟨id, p, rfl⟩ := hms m hm
      rfl
  | handle hat hm hserve =>
      rename_i m batch rest s₁
      have hsettle := (logs_settle s₁.io m).sent
      rw [List.append_nil] at hsettle
      obtain ⟨r, s₂, hu, hc⟩ := hserve
      have hsame : s₁.gadgets = s₂.gadgets ∧ s₁.io.sent = s₂.io.sent := by
        rcases hc with ⟨-, rfl⟩ | hc
        · exact ⟨rfl, rfl⟩
        · exact ⟨hc.gadgets_eq, by rw [hc.silent.sent, List.append_nil]⟩
      exact hu.utters hw (by rw [hat]; simp) hsame.1 (hsettle.trans hsame.2)
  | cleanup hat h =>
      have hstaff := (hst.alive (by rw [hat]; simp)).fit.staffed
      obtain ⟨ms, hl, -, hall⟩ := looperCleanup_quiets hstaff h
      rw [hall hw] at hl
      exact ⟨_, hl.sent, .ended rfl (looperCleanup_empties hstaff h).1⟩

/-! ## The protocol is kept -/

/-- Stopping a gadget. -/
theorem tells_stop (pre post : List Speaker) (g : Gadget) :
    TellsAll (pre ++ g.speaker :: post) (stops [g]) (pre ++ ⟨g.id, false⟩ :: post) := by
  unfold stops Gadget.speaker
  rw [List.flatMap_singleton]
  cases hon : g.isStreaming with
  | false => exact .nil _
  | true => exact (Tells.stopped pre post g.id).all

theorem tells_stops (gadgets : List Gadget) : ∀ pre : List Speaker,
    TellsAll (pre ++ gadgets.map Gadget.speaker) (stops gadgets) (pre ++ gadgets.map fun g => ⟨g.id, false⟩) := by
  induction gadgets with
  | nil => intro pre; exact .nil _
  | cons g gadgets ih =>
      intro pre
      rw [stops_cons, List.map_cons, List.map_cons]
      refine (tells_stop pre _ g).trans ?_
      have hrest := ih (pre ++ [⟨g.id, false⟩])
      rwa [List.append_assoc, List.append_assoc] at hrest

/-- **What a step utters the protocol allows.** At the end the gadgets are dropped without leave. -/
theorem Utters.tells (h : Utters env s s' ms) : TellsAll s.speakers ms s'.speakers ∨
    (s'.phase = .finished ∧ s'.gadgets = [] ∧ ∃ gs, TellsAll s.speakers ms gs ∧ ∀ g ∈ gs, g.streaming = false) := by
  have hsplit : ∀ {pre post : List Gadget} {g : Gadget} {t : Sys}, t.gadgets = pre ++ g :: post →
      t.speakers = pre.map Gadget.speaker ++ g.speaker :: post.map Gadget.speaker := by
    intro pre post g t ht
    unfold Sys.speakers
    rw [ht, List.map_append, List.map_cons]
  cases h with
  | others hms hgs => rw [hgs]; exact .inl (tellsAll_others _ hms)
  | format hg hgs =>
      rename_i g p fmt
      rw [hgs]
      have hmem : g.speaker ∈ s.speakers := List.mem_map_of_mem hg
      exact .inl (Tells.format hmem p fmt).all
  | started hs hoff hstart hgs htick =>
      rename_i pre post g k₀ k d
      rw [hsplit hs, hsplit hgs]
      unfold Gadget.speaker
      rw [hoff]
      exact .inl (Tells.started _ _ g.id).all
  | stopped hs hon hgs =>
      rename_i pre post g d
      rw [hsplit hs, hsplit hgs]
      unfold Gadget.speaker
      rw [hon]
      exact .inl (Tells.stopped _ _ g.id).all
  | attached hrun hoff hgs =>
      rename_i g
      have hsnoc : s'.speakers = s.speakers ++ [⟨g.id, false⟩] := by
        unfold Sys.speakers
        rw [hgs, List.map_append, ← hoff]
        rfl
      rw [hsnoc]
      exact .inl (Tells.attached _ g.id).all
  | detached hs hgs =>
      rename_i pre post g
      have herased : s'.speakers = pre.map Gadget.speaker ++ post.map Gadget.speaker := by
        unfold Sys.speakers
        rw [hgs, List.map_append]
      rw [hsplit hs, herased]
      exact .inl ((tells_stop _ _ g).trans (Tells.detached _ _ g.id).all)
  | ended hphase hgs =>
      refine .inr ⟨hphase, hgs, _, tells_stops s.gadgets [], fun g hg => ?_⟩
      obtain ⟨g₀, -, rfl⟩ := List.mem_map.mp hg
      rfl

/-- Without gadgets, and with none to come, the gadget module says nothing. -/
theorem Utters.over (h : Utters env s s' ms) (hphase : s.phase = .finished) (hg : s.gadgets = []) :
    ∀ m ∈ ms, m.fromGadget = false := by
  have hno : ∀ {pre post : List Gadget} {g : Gadget}, s.gadgets ≠ pre ++ g :: post := by
    intro pre post g hs
    rw [hg] at hs
    exact List.append_ne_nil_of_right_ne_nil _ (List.cons_ne_nil _ _) hs.symm
  cases h with
  | others hms hgs => exact hms
  | format hmem hgs => rw [hg] at hmem; cases hmem
  | started hs hoff hstart hgs htick => exact absurd hs hno
  | stopped hs hon hgs => exact absurd hs hno
  | attached hrun hoff hgs => exact absurd hphase hrun
  | detached hs hgs => exact absurd hs hno
  | ended hphase hgs => rw [hg]; exact fun m hm => by cases hm

/-- The gadget module has kept to the protocol, and its gadgets are as it has told; at the end they are gone. -/
def Sys.Candid (s : Sys) : Prop :=
  ∃ gs, TellsAll [] s.io.sent gs ∧
    (gs = s.speakers ∨ (s.phase = .finished ∧ s.gadgets = [] ∧ ∀ g ∈ gs, g.streaming = false))

theorem step_candid (hw : ∀ t m, env.write t m = true) (hst : s.Stands) (hc : s.Candid)
    (h : step env a s = .ok s') : s'.Candid := by
  obtain ⟨ms, hsent, hu⟩ := (step_does hst h).utters hw hst
  obtain ⟨gs, htell, hgs⟩ := hc
  unfold Sys.Candid
  rw [hsent]
  rcases hgs with rfl | ⟨hphase, hnil, hoff⟩
  · rcases hu.tells with htell' | ⟨hphase', hnil', gs', htell', hoff'⟩
    · exact ⟨_, htell.trans htell', .inl rfl⟩
    · exact ⟨gs', htell.trans htell', .inr ⟨hphase', hnil', hoff'⟩⟩
  · have hover : s.Over := hst.resolve_right fun hal => hal.running hphase
    have hover' := hover.step h
    exact ⟨gs, htell.trans (tellsAll_others gs (hu.over hphase hnil)), .inr ⟨hover'.phase, hover'.gadgets, hoff⟩⟩

/-- **The gadget module keeps to its protocol** on every run, when the pipe has room. -/
theorem run_candid (hw : ∀ t m, env.write t m = true) {nodes : List DevName} {inforce : Nat → PixFormat}
    {as : List Action} (h : run env as (boot env nodes inforce) = .ok s) : s.Stands ∧ s.Candid := by
  refine run_inv (I := fun s => s.Stands ∧ s.Candid) ?_ ⟨.inr (boot_alive env nodes inforce), ?_⟩ h
  · rintro a s s' ⟨hst, hc⟩ hstep
    exact ⟨hst.step hstep, step_candid hw hst hc hstep⟩
  · have hsent : (boot env nodes inforce).io.sent = [] := (silent_watch env _ _ _ _ _).sent
    exact ⟨[], by rw [hsent]; exact .nil [], .inl rfl⟩

end Uvcd
