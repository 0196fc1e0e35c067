import Uvcd.Refinement.Streams

/-!
# `Refinement.Logs` — what the functions send, allocate and free

`Logs ms ps fs` says that between two states of the shared data the messages `ms` were sent, the payloads `ps`
allocated and the payloads `fs` freed. It composes, so what a function logs is put together from the calls it
makes.
-/

namespace Uvcd

variable {env : Env} {io io' : Io} {g g' : Gadget} {c c' : Capture}

/-! ## What a function logs -/

/-- Between `io` and `io'` the messages `ms` are sent, the payloads `ps` allocated and the payloads `fs` freed. -/
structure Logs (ms : List Message) (ps fs : List Nat) (io io' : Io) : Prop where
  queue : io'.queue = io.queue ++ ms
  sent : io'.sent = io.sent ++ ms
  allocs : io'.allocs = io.allocs ++ ps
  frees : io'.frees = io.frees ++ fs
  brk : io.brk ≤ io'.brk
  fresh : ∀ p ∈ ps, io.brk ≤ p ∧ p < io'.brk
  nodup : ps.Nodup

/-- Nothing is logged. -/
abbrev Silent (io io' : Io) : Prop := Logs [] [] [] io io'

theorem Logs.trans {ms ms' : List Message} {ps ps' fs fs' : List Nat} {io'' : Io} (h : Logs ms ps fs io io')
    (h' : Logs ms' ps' fs' io' io'') : Logs (ms ++ ms') (ps ++ ps') (fs ++ fs') io io'' := by
  refine ⟨?_, ?_, ?_, ?_, Nat.le_trans h.brk h'.brk, fun p hp => ?_, ?_⟩
  · rw [h'.queue, h.queue, List.append_assoc]
  · rw [h'.sent, h.sent, List.append_assoc]
  · rw [h'.allocs, h.allocs, List.append_assoc]
  · rw [h'.frees, h.frees, List.append_assoc]
  · have hb := h.brk
    have hb' := h'.brk
    rcases List.mem_append.mp hp with hp | hp
    · have := h.fresh p hp
      omega
    · have := h'.fresh p hp
      omega
  · refine List.nodup_append.mpr ⟨h.nodup, h'.nodup, fun p hp q hq => ?_⟩
    have hlt := (h.fresh p hp).2
    have hle := (h'.fresh q hq).1
    omega

/-- What stands before or behind in silence logs nothing more. -/
theorem Logs.after {ms : List Message} {ps fs : List Nat} {io'' : Io} (h : Silent io io')
    (h' : Logs ms ps fs io' io'') : Logs ms ps fs io io'' := h.trans h'

theorem Logs.before {ms : List Message} {ps fs : List Nat} {io'' : Io} (h : Logs ms ps fs io io')
    (h' : Silent io' io'') : Logs ms ps fs io io'' := by
  have := h.trans h'
  rwa [List.append_nil, List.append_nil, List.append_nil] at this

theorem silent_of_eq (hq : io'.queue = io.queue) (hs : io'.sent = io.sent) (ha : io'.allocs = io.allocs)
    (hf : io'.frees = io.frees) (hb : io.brk ≤ io'.brk) : Silent io io' :=
  ⟨by rw [hq, List.append_nil], by rw [hs, List.append_nil], by rw [ha, List.append_nil],
    by rw [hf, List.append_nil], hb, fun p hp => (by cases hp), List.nodup_nil⟩

theorem Silent.refl (io : Io) : Silent io io := silent_of_eq rfl rfl rfl rfl (Nat.le_refl _)

theorem silent_kernel (io : Io) (k : Kernel) : Silent io { io with kernel := k } :=
  silent_of_eq rfl rfl rfl rfl (Nat.le_refl _)

theorem silent_malloc {r : Option Nat} (h : io.malloc env = (r, io')) : Silent io io' := by
  unfold Io.malloc at h
  split at h
  · cases h; exact silent_of_eq rfl rfl rfl rfl (Nat.le_succ _)
  · cases h; exact silent_of_eq rfl rfl rfl rfl (Nat.le_refl _)

theorem silent_mallocFrames {size : Int} {r : Option Nat} (h : io.mallocFrames env size = .ok (r, io')) :
    Silent io io' := by
  rcases mallocFrames_cases h with ⟨-, rfl⟩ | ⟨-, h⟩
  · exact silent_of_eq rfl rfl rfl rfl (Nat.le_refl _)
  · exact silent_malloc h

theorem silent_watch (env : Env) (io : Io) (fd : Nat) (type : EventType) (callback : Callback) (priv : Priv) :
    Silent io (io.watch env fd type callback priv) := by
  unfold Io.watch
  split <;> exact silent_of_eq rfl rfl rfl rfl (Nat.le_refl _)

theorem silent_unwatch (io : Io) (fd : Nat) (type : EventType) : Silent io (io.unwatch fd type) :=
  silent_of_eq rfl rfl rfl rfl (Nat.le_refl _)

/-- A send is logged when it goes through. -/
theorem logs_post (env : Env) (io : Io) (m : Message) :
    Logs (if env.write io.kernel.tick m then [m] else []) [] [] io (io.post env m) := by
  unfold Io.post looperSendMessage
  split
  · exact ⟨rfl, rfl, (List.append_nil _).symm, (List.append_nil _).symm, Nat.le_refl _,
      fun p hp => (by cases hp), List.nodup_nil⟩
  · exact silent_of_eq rfl rfl rfl rfl (Nat.le_refl _)

/-- A payload has been allocated. -/
theorem logs_alloc {p : Nat} {io₁ : Io} (h : io.malloc env = (some p, io₁)) (k : Kernel) :
    Logs [] [p] [] io { io₁ with allocs := io₁.allocs ++ [p], kernel := k } := by
  unfold Io.malloc at h
  split at h
  · cases h
    exact ⟨(List.append_nil _).symm, (List.append_nil _).symm, rfl, (List.append_nil _).symm, Nat.le_succ _,
      fun p hp => by rw [List.mem_singleton.mp hp]; exact ⟨Nat.le_refl _, Nat.lt_succ_self _⟩,
      List.pairwise_singleton _ _⟩
  · cases h

theorem logs_free (io : Io) (p : Nat) : Logs [] [] [p] io (io.free p) :=
  ⟨(List.append_nil _).symm, (List.append_nil _).symm, (List.append_nil _).symm, rfl, Nat.le_refl _,
    fun p hp => (by cases hp), List.nodup_nil⟩

/-! ## The stream functions -/

/-- What a gadget tells the captures of its stream. -/
def streamNews (id : UInt32) (on : Bool) : Message := if on then .streamOn id else .streamOff id

/-- A gadget that starts or stops says so, if the pipe has room. -/
theorem UvcStreams.logs {on : Bool} {ret : Int} (h : UvcStreams env io g on ret g' io') :
    (g'.isStreaming = g.isStreaming ∧ Silent io io') ∨
      (g.isStreaming = !on ∧ g'.isStreaming = on ∧ ∃ t, Logs
        (if env.write t (streamNews g.id on) then [streamNews g.id on] else []) [] [] io io') := by
  cases h with
  | idle h => exact .inl ⟨rfl, .refl io⟩
  | stopped hon hoff hfree =>
      refine .inr ⟨hon, rfl, _, Logs.after ?_ (logs_post env _ _)⟩
      exact (silent_unwatch io _ _).before (silent_kernel _ _)
  | failed hoff hret hstart => exact .inl ⟨rfl, silent_kernel io _⟩
  | started hoff hstart =>
      refine .inr ⟨hoff, rfl, _, Logs.after ?_ (logs_post env _ _)⟩
      exact (silent_kernel io _).before (silent_watch env _ _ _ _ _)

theorem V4lStreams.silent {on : Bool} {ret : Int} (h : V4lStreams env io c on ret c' io') : Silent io io' := by
  cases h with
  | idle h => exact .refl io
  | stopped hon hoff hfree => exact (silent_unwatch io _ _).before (silent_kernel _ _)
  | nomem hoff hmem => exact silent_mallocFrames hmem
  | failed hoff hmem hret hstart => exact (silent_mallocFrames hmem).before (silent_kernel _ _)
  | started hoff hmem hstart hon =>
      exact ((silent_mallocFrames hmem).before (silent_kernel _ _)).before (silent_watch env _ _ _ _ _)

end Uvcd
