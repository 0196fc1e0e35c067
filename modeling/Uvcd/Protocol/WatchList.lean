import Mathlib.Data.List.Nodup
import Uvcd.Model.Events

/-!
# `Protocol.WatchList` — the watch list under `events_watch_fd` and `events_unwatch_fd`

`Events.Ok` is what the incremental upkeep of `events.c` is meant to keep: no two watches of one
descriptor and type, the three sets hold exactly the watched descriptors, `maxfd` bounds them. Watching
keeps it when the pair is not watched yet, unwatching always; what is watched afterwards is said by
`mem_watchFd` and `mem_unwatchFd`.

The dispatch snapshot is the first ten ready watches (`snapshot_eq`).
-/

namespace Uvcd

/-! ## The hit test -/

theorem EventFd.hits_iff {e : EventFd} {fd : Nat} {type : EventType} :
    e.hits fd type = true ↔ e.fd = fd ∧ e.type = type := by
  simp [EventFd.hits]

/-- Unlinking the last hit of a list with at most one hit leaves the others. -/
theorem mem_removeLastHit {es : List EventFd} {fd : Nat} {type : EventType} (hnd : es.Nodup)
    (hone : ∀ e ∈ es, ∀ e' ∈ es, e.hits fd type = true → e'.hits fd type = true → e = e')
    {x : EventFd} : x ∈ removeLastHit es fd type ↔ x ∈ es ∧ x.hits fd type = false := by
  unfold removeLastHit
  rw [List.mem_reverse]
  by_cases hx : x.hits fd type = true
  · have hout : x ∉ es.reverse.eraseP (·.hits fd type) := by
      intro hmem
      have hxs : x ∈ es.reverse := List.mem_of_mem_eraseP hmem
      obtain ⟨a, l₁, l₂, -, ha, heq, herase⟩ := List.exists_of_eraseP (p := (·.hits fd type)) hxs hx
      have hax : a = x := by
        refine hone a ?_ x (List.mem_reverse.mp hxs) ha hx
        rw [← List.mem_reverse, heq]; simp
      have hnd' : (l₁ ++ a :: l₂).Nodup := heq ▸ List.nodup_reverse.mpr hnd
      rw [herase, List.mem_append] at hmem
      rw [List.nodup_append] at hnd'
      obtain ⟨-, hcons, hdisj⟩ := hnd'
      rcases hmem with h | h
      · exact hdisj x h a (by simp) hax.symm
      · exact (List.nodup_cons.mp hcons).1 (hax ▸ h)
    simp [hout, hx]
  · rw [List.mem_eraseP_of_neg (by simpa using hx), List.mem_reverse]
    simp [hx]

theorem removeLastHit_sublist {es : List EventFd} {fd : Nat} {type : EventType} :
    (removeLastHit es fd type).Sublist es := by
  have h : (es.reverse.eraseP (·.hits fd type)).Sublist es.reverse := List.eraseP_sublist
  simpa [removeLastHit] using h.reverse

/-- The first entry stays the first unless it is the one unlinked. -/
theorem removeLastHit_cons {e : EventFd} {es : List EventFd} {fd : Nat} {type : EventType}
    (he : e.hits fd type = false) : ∃ rest, removeLastHit (e :: es) fd type = e :: rest := by
  unfold removeLastHit
  rw [List.reverse_cons, List.eraseP_append]
  split
  · exact ⟨_, List.reverse_concat⟩
  · rw [List.eraseP_cons_of_neg (by simp [he])]
    exact ⟨_, List.reverse_concat⟩

/-- The recomputed `maxfd` bounds every entry that is not unlinked. -/
theorem le_maxfdWithout {es : List EventFd} {fd : Nat} {type : EventType} {e : EventFd} (he : e ∈ es)
    (hmiss : e.hits fd type = false) : e.fd ≤ maxfdWithout es fd type := by
  -- the fold only grows
  have hmono : ∀ (l : List EventFd) (m : Nat),
      m ≤ l.foldl (fun m e => if e.hits fd type then m else max m e.fd) m := by
    intro l
    induction l with
    | nil => intro m; exact Nat.le_refl m
    | cons a l ih =>
        intro m
        refine Nat.le_trans ?_ (ih _)
        show m ≤ if a.hits fd type = true then m else max m a.fd
        split
        · exact Nat.le_refl m
        · exact Nat.le_max_left m a.fd
  -- and it takes in every entry that does not match
  have hle : ∀ (l : List EventFd) (m : Nat), e ∈ l →
      e.fd ≤ l.foldl (fun m e => if e.hits fd type then m else max m e.fd) m := by
    intro l
    induction l with
    | nil => intro m h; cases h
    | cons a l ih =>
        intro m h
        rcases List.mem_cons.mp h with rfl | h
        · simp only [List.foldl_cons, hmiss]
          exact Nat.le_trans (Nat.le_max_right m e.fd) (hmono l _)
        · exact ih _ h
  exact hle es 0 he

/-! ## The sets -/

@[simp] theorem Events.setFds_events (ev : Events) (type : EventType) (s : FdSet) :
    (ev.setFds type s).events = ev.events := by cases type <;> rfl

@[simp] theorem Events.setFds_done (ev : Events) (type : EventType) (s : FdSet) :
    (ev.setFds type s).done = ev.done := by cases type <;> rfl

theorem Events.fds_setFds (ev : Events) (type type' : EventType) (s : FdSet) :
    (ev.setFds type s).fds type' = if type' = type then s else ev.fds type' := by
  cases type <;> cases type' <;> rfl

/-- What a well-kept watch list satisfies. -/
structure Events.Ok (ev : Events) : Prop where
  nodup : ev.events.Nodup
  keys : ∀ e ∈ ev.events, ∀ e' ∈ ev.events, e.fd = e'.fd → e.type = e'.type → e = e'
  sets : ∀ type fd, ev.fds type fd = true ↔ ∃ e ∈ ev.events, e.fd = fd ∧ e.type = type
  maxfd : ∀ e ∈ ev.events, e.fd ≤ ev.maxfd

theorem eventsInit_ok : eventsInit.Ok :=
  { nodup := List.nodup_nil
    keys := fun e he => absurd he List.not_mem_nil
    sets := fun type fd => by cases type <;> simp [eventsInit, Events.fds, FdSet.zero]
    maxfd := fun e he => absurd he List.not_mem_nil }

variable {ev : Events} {fd : Nat} {type : EventType} {callback : Callback} {priv : Priv}

/-! ## `events_watch_fd` -/

@[simp] theorem eventsWatchFd_events :
    (eventsWatchFd ev fd type callback priv).events = ev.events ++ [⟨fd, type, callback, priv⟩] := by
  simp [eventsWatchFd]

theorem eventsWatchFd_done : (eventsWatchFd ev fd type callback priv).done = ev.done := Events.setFds_done ..

theorem eventsWatchFd_fds (type' : EventType) :
    (eventsWatchFd ev fd type callback priv).fds type'
      = if type' = type then (ev.fds type).set fd else ev.fds type' := by
  rw [← Events.fds_setFds]; cases type' <;> rfl

theorem mem_watchFd {e : EventFd} :
    e ∈ (eventsWatchFd ev fd type callback priv).events ↔
      e ∈ ev.events ∨ e = ⟨fd, type, callback, priv⟩ := by simp

/-- **Watching keeps the list well kept**, when the descriptor has no watch of that type. -/
theorem eventsWatchFd_ok (h : ev.Ok) (hnew : ∀ e ∈ ev.events, ¬(e.fd = fd ∧ e.type = type)) :
    (eventsWatchFd ev fd type callback priv).Ok := by
  refine ⟨?_, ?_, ?_, ?_⟩
  · rw [eventsWatchFd_events, List.nodup_append]
    refine ⟨h.nodup, by simp, ?_⟩
    intro a ha b hb hab
    rw [List.mem_singleton] at hb
    subst hab; subst hb
    exact hnew _ ha ⟨rfl, rfl⟩
  · intro e he e' he' hfd htype
    rw [mem_watchFd] at he he'
    rcases he with he | rfl <;> rcases he' with he' | rfl
    · exact h.keys e he e' he' hfd htype
    · exact absurd ⟨hfd, htype⟩ (hnew e he)
    · exact absurd ⟨hfd.symm, htype.symm⟩ (hnew e' he')
    · rfl
  · -- the set of the type gains the descriptor, the other two stay
    intro type' fd'
    rw [eventsWatchFd_fds]
    by_cases ht : type' = type
    · subst ht
      simp only [if_true, FdSet.set, Bool.or_eq_true, beq_iff_eq, h.sets, mem_watchFd]
      constructor
      · rintro (rfl | ⟨e, he, hefd, hety⟩)
        · exact ⟨_, Or.inr rfl, rfl, rfl⟩
        · exact ⟨e, Or.inl he, hefd, hety⟩
      · rintro ⟨e, he | rfl, hefd, hety⟩
        · exact Or.inr ⟨e, he, hefd, hety⟩
        · exact Or.inl hefd.symm
    · rw [if_neg ht, h.sets]
      simp only [mem_watchFd]
      constructor
      · rintro ⟨e, he, hefd, hety⟩
        exact ⟨e, Or.inl he, hefd, hety⟩
      · rintro ⟨e, he | rfl, hefd, hety⟩
        · exact ⟨e, he, hefd, hety⟩
        · exact absurd hety.symm ht
  · intro e he
    rw [mem_watchFd] at he
    show e.fd ≤ max _ fd
    rcases he with he | rfl
    · have hm : (ev.setFds type ((ev.fds type).set fd)).maxfd = ev.maxfd := by cases type <;> rfl
      exact Nat.le_trans (hm ▸ h.maxfd e he) (Nat.le_max_left _ _)
    · exact Nat.le_max_right _ _

/-! ## `events_unwatch_fd` -/

theorem eventsUnwatchFd_sublist : (eventsUnwatchFd ev fd type).events.Sublist ev.events := by
  unfold eventsUnwatchFd
  split
  · exact removeLastHit_sublist
  · exact List.Sublist.refl _

theorem eventsUnwatchFd_done : (eventsUnwatchFd ev fd type).done = ev.done := by
  unfold eventsUnwatchFd
  split
  · exact Events.setFds_done ..
  · rfl

theorem mem_unwatchFd (h : ev.Ok) {e : EventFd} :
    e ∈ (eventsUnwatchFd ev fd type).events ↔ e ∈ ev.events ∧ ¬(e.fd = fd ∧ e.type = type) := by
  unfold eventsUnwatchFd
  by_cases hany : ev.events.any (·.hits fd type) = true
  · rw [if_pos hany]
    show e ∈ removeLastHit ev.events fd type ↔ _
    rw [mem_removeLastHit h.nodup, ← EventFd.hits_iff, Bool.not_eq_true]
    intro a ha b hb hfa hfb
    rw [EventFd.hits_iff] at hfa hfb
    exact h.keys a ha b hb (hfa.1.trans hfb.1.symm) (hfa.2.trans hfb.2.symm)
  · rw [if_neg hany]
    rw [List.any_eq_true] at hany
    refine ⟨fun he => ⟨he, fun hk => hany ⟨e, he, EventFd.hits_iff.mpr hk⟩⟩, And.left⟩

/-- **Unwatching keeps the list well kept.** -/
theorem eventsUnwatchFd_ok (h : ev.Ok) : (eventsUnwatchFd ev fd type).Ok := by
  refine ⟨h.nodup.sublist eventsUnwatchFd_sublist, ?_, ?_, ?_⟩
  · intro e he e' he'
    exact h.keys e (eventsUnwatchFd_sublist.subset he) e' (eventsUnwatchFd_sublist.subset he')
  · -- the set of the type loses the descriptor, the other two stay
    intro type' fd'
    simp only [mem_unwatchFd h]
    unfold eventsUnwatchFd
    by_cases hany : ev.events.any (·.hits fd type) = true
    · rw [if_pos hany]
      have hfds : ∀ (m : Nat) (es : List EventFd),
          ({ ev.setFds type ((ev.fds type).clr fd) with maxfd := m, events := es } : Events).fds type'
            = if type' = type then (ev.fds type).clr fd else ev.fds type' := by
        intro m es; rw [← Events.fds_setFds]; cases type' <;> rfl
      rw [hfds]
      by_cases ht : type' = type
      · subst ht
        simp only [if_true, FdSet.clr, Bool.and_eq_true, bne_iff_ne, h.sets]
        constructor
        · rintro ⟨hne, e, he, rfl, hety⟩
          exact ⟨e, ⟨he, fun hk => hne hk.1⟩, rfl, hety⟩
        · rintro ⟨e, ⟨he, hk⟩, rfl, hety⟩
          exact ⟨fun hefd => hk ⟨hefd, hety⟩, e, he, rfl, hety⟩
      · rw [if_neg ht, h.sets]
        constructor
        · rintro ⟨e, he, hefd, hety⟩
          exact ⟨e, ⟨he, fun hk => ht (hety ▸ hk.2)⟩, hefd, hety⟩
        · rintro ⟨e, ⟨he, -⟩, hefd, hety⟩
          exact ⟨e, he, hefd, hety⟩
    · rw [if_neg hany, h.sets]
      rw [List.any_eq_true] at hany
      constructor
      · rintro ⟨e, he, hefd, hety⟩
        exact ⟨e, ⟨he, fun hk => hany ⟨e, he, EventFd.hits_iff.mpr hk⟩⟩, hefd, hety⟩
      · rintro ⟨e, ⟨he, -⟩, hefd, hety⟩
        exact ⟨e, he, hefd, hety⟩
  · intro e he
    have he' := (mem_unwatchFd h).mp he
    unfold eventsUnwatchFd
    split
    · show e.fd ≤ maxfdWithout ev.events fd type
      refine le_maxfdWithout he'.1 ?_
      rw [← Bool.not_eq_true, EventFd.hits_iff]; exact he'.2
    · exact h.maxfd e he'.1

/-! ## The dispatch snapshot -/

theorem collectIter_eq (r : Ready) (n : Nat) (es : List EventFd) :
    collectIter r n es = ((es.filter (·.isReady r)).take n).map EventFd.iter := by
  induction es generalizing n with
  | nil => cases n <;> simp [collectIter]
  | cons e es ih =>
      cases n with
      | zero => simp [collectIter]
      | succ n =>
          by_cases he : e.isReady r = true
          · simp [collectIter, he, ih]
          · simp [collectIter, he, ih]

/-- **The snapshot is the first ten ready watches, in registration order.** -/
theorem snapshot_eq (ev : Events) (r : Ready) :
    snapshot ev r = ((ev.events.filter (·.isReady r)).take iterSize).map EventFd.iter :=
  collectIter_eq r iterSize ev.events

theorem mem_snapshot {r : Ready} {t : EventIter} (h : t ∈ snapshot ev r) :
    ∃ e ∈ ev.events, e.iter = t ∧ e.isReady r = true := by
  rw [snapshot_eq, List.mem_map] at h
  obtain ⟨e, he, rfl⟩ := h
  have he' := List.mem_filter.mp (List.mem_of_mem_take he)
  exact ⟨e, he'.1, rfl, he'.2⟩

end Uvcd
