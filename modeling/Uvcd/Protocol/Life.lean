import Uvcd.Model.Message
import Mathlib.Data.List.Induction

/-!
# `Protocol.Life` — what the gadget module says of a gadget

A gadget speaks to the rest of the daemon by its messages alone: it is attached, its format is set, its stream
starts and stops, it is detached. `Tells` is the protocol of the gadget module: which message may be sent with
which gadgets attached. `Life` is what a listener makes of the messages with one id, and `lived` follows it along
a list of messages.

`TellsAll.lived` says that the listener is never at a loss as long as the id is announced once, and knows whether
the gadget streams. The order of the messages is then read off `Life` alone (`lived_alternates`, `lived_detached`).
-/

namespace Uvcd

/-- The gadget module sends it. -/
def Message.fromGadget (m : Message) : Bool :=
  match m.what with
  | .videoSetFmt | .videoStreamOn | .videoStreamOff | .uvcAttached | .uvcDetached => true
  | .signal | .terminate | .hotplugAttached | .hotplugDetached | .videoFrameAvailable => false

/-- A gadget as its messages show it: its id, and whether it streams. -/
structure Speaker where
  id : UInt32
  streaming : Bool

/-- **The protocol of the gadget module**: a message, with the gadgets attached before and after it. -/
inductive Tells : List Speaker → Message → List Speaker → Prop
  /-- a message of another module -/
  | other {gs : List Speaker} {m : Message} (h : m.fromGadget = false) : Tells gs m gs
  | attached (gs : List Speaker) (id : UInt32) : Tells gs (.uvcAttached id) (gs ++ [⟨id, false⟩])
  | format {gs : List Speaker} {g : Speaker} (hg : g ∈ gs) (p : Nat) (fmt : PixFormat) :
      Tells gs (.setFmt g.id p fmt) gs
  | started (pre post : List Speaker) (id : UInt32) :
      Tells (pre ++ ⟨id, false⟩ :: post) (.streamOn id) (pre ++ ⟨id, true⟩ :: post)
  | stopped (pre post : List Speaker) (id : UInt32) :
      Tells (pre ++ ⟨id, true⟩ :: post) (.streamOff id) (pre ++ ⟨id, false⟩ :: post)
  | detached (pre post : List Speaker) (id : UInt32) :
      Tells (pre ++ ⟨id, false⟩ :: post) (.uvcDetached id) (pre ++ post)

/-- Messages in a row. -/
inductive TellsAll : List Speaker → List Message → List Speaker → Prop
  | nil (gs : List Speaker) : TellsAll gs [] gs
  | cons {gs gs₁ gs' : List Speaker} {m : Message} {ms : List Message} (h : Tells gs m gs₁)
      (hrest : TellsAll gs₁ ms gs') : TellsAll gs (m :: ms) gs'

variable {gs gs' gs'' : List Speaker} {ms ms' : List Message} {m : Message} {id : UInt32}

theorem Tells.all (h : Tells gs m gs') : TellsAll gs [m] gs' := .cons h (.nil gs')

theorem TellsAll.trans (h : TellsAll gs ms gs') (h' : TellsAll gs' ms' gs'') : TellsAll gs (ms ++ ms') gs'' := by
  induction h with
  | nil gs => exact h'
  | cons h _ ih => exact .cons h (ih h')

/-- Messages of other modules. -/
theorem tellsAll_others (gs : List Speaker) (h : ∀ m ∈ ms, m.fromGadget = false) : TellsAll gs ms gs := by
  induction ms with
  | nil => exact .nil gs
  | cons m ms ih =>
      exact .cons (.other (h m List.mem_cons_self)) (ih fun m hm => h m (List.mem_cons_of_mem _ hm))

/-! ## What a listener makes of it -/

/-- Where a gadget stands in the eyes of a listener. -/
inductive Life where
  | unborn
  | idle
  | streaming
  | gone
  deriving DecidableEq

/-- The next message with the gadget's id; `none` where it should not come. -/
def Life.hear : Life → What → Option Life
  | ℓ, .signal | ℓ, .terminate | ℓ, .hotplugAttached | ℓ, .hotplugDetached | ℓ, .videoFrameAvailable => some ℓ
  | .unborn, .uvcAttached => some .idle
  | .idle, .videoSetFmt => some .idle
  | .streaming, .videoSetFmt => some .streaming
  | .idle, .videoStreamOn => some .streaming
  | .streaming, .videoStreamOff => some .idle
  | .idle, .uvcDetached => some .gone
  | _, _ => none

/-- One message, by its id. -/
def Life.follow (id : UInt32) (ℓ : Life) (m : Message) : Option Life :=
  if m.wParam = id then ℓ.hear m.what else some ℓ

/-- The messages of a list, from `ℓ` on. -/
def lived (id : UInt32) (ℓ : Life) (ms : List Message) : Option Life := ms.foldlM (Life.follow id) ℓ

/-- The gadgets that a listener takes to have the id. -/
def Life.present : Life → List Bool
  | .unborn | .gone => []
  | .idle => [false]
  | .streaming => [true]

/-- The gadgets that have the id. -/
def streamsOf (id : UInt32) (gs : List Speaker) : List Bool := (gs.filter (·.id = id)).map (·.streaming)

/-- The message announces a gadget with the id. -/
def Message.announces (id : UInt32) (m : Message) : Bool := m.what = .uvcAttached && m.wParam = id

theorem lived_cons (id : UInt32) (ℓ : Life) (m : Message) (ms : List Message) :
    lived id ℓ (m :: ms) = (ℓ.follow id m).bind (lived id · ms) := List.foldlM_cons

theorem lived_append (id : UInt32) (ℓ : Life) (ms ms' : List Message) :
    lived id ℓ (ms ++ ms') = (lived id ℓ ms).bind (lived id · ms') := List.foldlM_append

theorem Life.follow_other {ℓ : Life} (h : m.wParam ≠ id) : ℓ.follow id m = some ℓ := if_neg h

theorem Life.follow_same {ℓ : Life} (h : m.wParam = id) : ℓ.follow id m = ℓ.hear m.what := if_pos h

theorem Life.hear_others {ℓ : Life} (h : m.fromGadget = false) : ℓ.hear m.what = some ℓ := by
  unfold Message.fromGadget at h
  cases hw : m.what <;> rw [hw] at h <;> first | exact absurd h (by decide) | (cases ℓ <;> rfl)

@[simp] theorem streamsOf_append (id : UInt32) (gs gs' : List Speaker) :
    streamsOf id (gs ++ gs') = streamsOf id gs ++ streamsOf id gs' := by
  unfold streamsOf
  rw [List.filter_append, List.map_append]

theorem streamsOf_same (id : UInt32) (b : Bool) (gs : List Speaker) :
    streamsOf id (⟨id, b⟩ :: gs) = b :: streamsOf id gs := by
  unfold streamsOf
  rw [List.filter_cons_of_pos (by simp)]
  rfl

theorem streamsOf_ne {i : UInt32} (h : i ≠ id) (b : Bool) (gs : List Speaker) :
    streamsOf id (⟨i, b⟩ :: gs) = streamsOf id gs := by
  unfold streamsOf
  rw [List.filter_cons_of_neg (by simpa using h)]

/-- The listener sees the gadgets with the id as they are. -/
def Sees (id : UInt32) (ℓ : Life) (gs : List Speaker) : Prop := streamsOf id gs = ℓ.present

/-- A gadget with the id is the only one. -/
theorem Sees.only {ℓ : Life} {pre post : List Speaker} {b : Bool} (h : Sees id ℓ (pre ++ ⟨id, b⟩ :: post)) :
    streamsOf id pre = [] ∧ streamsOf id post = [] ∧ ℓ.present = [b] := by
  unfold Sees at h
  rw [streamsOf_append, streamsOf_same] at h
  have hlen := congrArg List.length h
  rw [List.length_append, List.length_cons] at hlen
  have hle : ℓ.present.length ≤ 1 := by cases ℓ <;> decide
  have hpre : streamsOf id pre = [] := List.eq_nil_of_length_eq_zero (by omega)
  have hpost : streamsOf id post = [] := List.eq_nil_of_length_eq_zero (by omega)
  refine ⟨hpre, hpost, ?_⟩
  rw [← h, hpre, hpost]
  rfl

theorem Life.present_idle {ℓ : Life} (h : ℓ.present = [false]) : ℓ = .idle := by
  cases ℓ <;> first | rfl | cases h

theorem Life.present_streaming {ℓ : Life} (h : ℓ.present = [true]) : ℓ = .streaming := by
  cases ℓ <;> first | rfl | cases h

/-- One message of the gadget module, to a listener who sees its gadgets. -/
theorem Tells.follow {ℓ : Life} (h : Tells gs m gs') (hsee : Sees id ℓ gs)
    (hnew : m.announces id = true → ℓ = .unborn) : ∃ ℓ', ℓ.follow id m = some ℓ' ∧ Sees id ℓ' gs' := by
  by_cases hid : m.wParam = id
  · rw [Life.follow_same hid]
    cases h with
    | other h => exact ⟨ℓ, Life.hear_others h, hsee⟩
    -- the first message the gadget sends
    | attached gs i =>
        obtain rfl : i = id := hid
        obtain rfl := hnew (by simp [Message.announces, Message.uvcAttached])
        refine ⟨.idle, rfl, ?_⟩
        unfold Sees at hsee ⊢
        rw [streamsOf_append, hsee, streamsOf_same]
        rfl
    | format hg p fmt =>
        rename_i g
        obtain rfl : g.id = id := hid
        obtain ⟨pre, post, rfl⟩ := List.append_of_mem hg
        obtain ⟨-, -, hℓ⟩ := Sees.only (b := g.streaming) hsee
        cases hb : g.streaming with
        | false =>
            obtain rfl := Life.present_idle (hℓ.trans (by rw [hb]))
            exact ⟨_, rfl, hsee⟩
        | true =>
            obtain rfl := Life.present_streaming (hℓ.trans (by rw [hb]))
            exact ⟨_, rfl, hsee⟩
    | started pre post i =>
        obtain rfl : i = id := hid
        obtain ⟨hpre, hpost, hℓ⟩ := hsee.only
        obtain rfl := Life.present_idle hℓ
        refine ⟨.streaming, rfl, ?_⟩
        unfold Sees
        rw [streamsOf_append, streamsOf_same, hpre, hpost]
        rfl
    | stopped pre post i =>
        obtain rfl : i = id := hid
        obtain ⟨hpre, hpost, hℓ⟩ := hsee.only
        obtain rfl := Life.present_streaming hℓ
        refine ⟨.idle, rfl, ?_⟩
        unfold Sees
        rw [streamsOf_append, streamsOf_same, hpre, hpost]
        rfl
    | detached pre post i =>
        obtain rfl : i = id := hid
        obtain ⟨hpre, hpost, hℓ⟩ := hsee.only
        obtain rfl := Life.present_idle hℓ
        refine ⟨.gone, rfl, ?_⟩
        unfold Sees
        rw [streamsOf_append, hpre, hpost]
        rfl
  · rw [Life.follow_other hid]
    -- a message of another gadget leaves the streams of `id` as they are
    refine ⟨ℓ, rfl, Eq.trans ?_ hsee⟩
    cases h with
    | other h => rfl
    | attached gs i => rw [streamsOf_append, streamsOf_ne (i := i) hid]; exact List.append_nil _
    | format hg p fmt => rfl
    | started pre post i => rw [streamsOf_append, streamsOf_append, streamsOf_ne (i := i) hid,
        streamsOf_ne (i := i) hid]
    | stopped pre post i => rw [streamsOf_append, streamsOf_append, streamsOf_ne (i := i) hid,
        streamsOf_ne (i := i) hid]
    | detached pre post i => rw [streamsOf_append, streamsOf_append, streamsOf_ne (i := i) hid]

/-- A gadget is unborn until it is announced. -/
theorem Life.follow_unborn {ℓ : Life} (h : Life.follow id .unborn m = some ℓ) (hm : m.announces id = false) :
    ℓ = .unborn := by
  by_cases hid : m.wParam = id
  · rw [Life.follow_same hid] at h
    unfold Message.announces at hm
    rw [decide_eq_true hid, Bool.and_true, decide_eq_false_iff_not] at hm
    cases hw : m.what <;> rw [hw] at h <;> cases h <;> first | rfl | exact absurd hw hm
  · rw [Life.follow_other hid] at h
    cases h
    rfl

/-- **The listener is never at a loss** over an id that is announced once, and sees the gadget as it is. -/
theorem TellsAll.lived (h : TellsAll gs ms gs') : ∀ {ℓ : Life}, Sees id ℓ gs →
    (ms.filter (Message.announces id)).length ≤ (if ℓ = .unborn then 1 else 0) →
    ∃ ℓ', lived id ℓ ms = some ℓ' ∧ Sees id ℓ' gs' := by
  induction h with
  | nil gs => intro ℓ hsee _; exact ⟨ℓ, rfl, hsee⟩
  | cons h hrest ih =>
      rename_i gs gs₁ gs' m ms
      intro ℓ hsee honce
      rw [List.filter_cons] at honce
      have hnew : m.announces id = true → ℓ = .unborn := fun hm => by
        by_contra hℓ
        rw [if_pos hm, if_neg hℓ] at honce
        exact absurd honce (by simp)
      obtain ⟨ℓ₁, hℓ₁, hsee₁⟩ := h.follow hsee hnew
      have hrest : (ms.filter (Message.announces id)).length ≤ (if ℓ₁ = .unborn then 1 else 0) := by
        by_cases hℓ : ℓ = .unborn
        · rw [if_pos hℓ] at honce
          cases hm : m.announces id with
          | true =>
              -- this is the one announcement
              rw [if_pos hm, List.length_cons] at honce
              omega
          | false =>
              rw [if_neg (by rw [hm]; decide)] at honce
              rw [if_pos (Life.follow_unborn (hℓ ▸ hℓ₁) hm)]
              exact honce
        · rw [if_neg hℓ] at honce
          split at honce
          · rw [List.length_cons] at honce; omega
          · omega
      obtain ⟨ℓ', hℓ', hsee'⟩ := ih hsee₁ hrest
      exact ⟨ℓ', by rw [lived_cons, hℓ₁]; exact hℓ', hsee'⟩

/-! ## The order of the messages -/

/-- The starts (`true`) and stops (`false`) told with an id. -/
def streamWord (id : UInt32) (ms : List Message) : List Bool :=
  ms.filterMap fun m =>
    if m.wParam = id then
      match m.what with
      | .videoStreamOn => some true
      | .videoStreamOff => some false
      | _ => none
    else none

/-- `true` and `false` in turn, `true` first. -/
def Alternates (l : List Bool) : Prop := ∀ (i : Nat) (b : Bool), l[i]? = some b → b = decide (i % 2 = 0)

theorem Alternates.nil : Alternates [] := fun i b h => by simp at h

theorem Alternates.snoc {l : List Bool} {b : Bool} (h : Alternates l) (hb : b = decide (l.length % 2 = 0)) :
    Alternates (l ++ [b]) := by
  intro i c hi
  by_cases hlt : i < l.length
  · rw [List.getElem?_append_left hlt] at hi
    exact h i c hi
  · rw [List.getElem?_append_right (Nat.le_of_not_lt hlt)] at hi
    have hi' : i - l.length = 0 := by
      have hlen := (List.getElem?_eq_some_iff.mp hi).1
      rw [List.length_singleton] at hlen
      omega
    rw [hi'] at hi
    obtain rfl : i = l.length := by omega
    cases hi
    exact hb

/-- The last of them is `true` when there is an odd number. -/
theorem Alternates.last {l : List Bool} (h : Alternates l) : l.getLast? = some true ↔ l.length % 2 = 1 := by
  rw [List.getLast?_eq_getElem?]
  constructor
  · intro hlast
    have heven := h _ _ hlast
    have hlt := (List.getElem?_eq_some_iff.mp hlast).1
    have := of_decide_eq_true heven.symm
    omega
  · intro hodd
    have hlt : l.length - 1 < l.length := by omega
    rw [List.getElem?_eq_getElem hlt]
    have := h _ _ (List.getElem?_eq_getElem hlt)
    rw [this, decide_eq_true (by omega)]

theorem streamWord_append (id : UInt32) (ms ms' : List Message) :
    streamWord id (ms ++ ms') = streamWord id ms ++ streamWord id ms' := List.filterMap_append

/-- One message more. -/
theorem Life.follow_word {ℓ ℓ' : Life} (h : ℓ.follow id m = some ℓ') :
    (streamWord id [m] = [] ∧ (ℓ' = .streaming ↔ ℓ = .streaming)) ∨
      ∃ b, streamWord id [m] = [b] ∧ (b = true ↔ ℓ ≠ .streaming) ∧ (ℓ' = .streaming ↔ b = true) := by
  by_cases hid : m.wParam = id
  · rw [Life.follow_same hid] at h
    cases hw : m.what <;> rw [hw] at h <;> cases ℓ <;> cases h <;> simp [streamWord, hid, hw]
  · rw [Life.follow_other hid] at h
    cases h
    exact .inl ⟨by simp [streamWord, hid], Iff.rfl⟩

/-- **A listener that is never at a loss hears starts and stops in turn**, and knows how the last one went. -/
theorem lived_alternates {ℓ : Life} (h : lived id .unborn ms = some ℓ) :
    Alternates (streamWord id ms) ∧ ((streamWord id ms).length % 2 = 1 ↔ ℓ = .streaming) := by
  induction ms using List.reverseRecOn generalizing ℓ with
  | nil => cases h; exact ⟨.nil, by simp [streamWord]⟩
  | append_singleton ms m ih =>
      rw [lived_append] at h
      obtain ⟨ℓ₁, hℓ₁, h⟩ := Option.bind_eq_some_iff.mp h
      rw [lived_cons] at h
      obtain ⟨ℓ₂, hm, h⟩ := Option.bind_eq_some_iff.mp h
      cases h
      obtain ⟨halt, hodd⟩ := ih hℓ₁
      rw [streamWord_append]
      rcases Life.follow_word hm with ⟨hnone, hsame⟩ | ⟨b, hb, hℓ, hℓ'⟩
      · rw [hnone, List.append_nil]
        exact ⟨halt, hodd.trans hsame.symm⟩
      · rw [hb, List.length_append, List.length_singleton]
        have heven : (streamWord id ms).length % 2 = 0 ↔ b = true := by
          rw [hℓ, ← not_iff_not, not_not, ← hodd]
          omega
        refine ⟨halt.snoc ?_, ?_⟩
        · rw [Bool.eq_iff_iff, decide_eq_true_eq]
          exact heven.symm
        · rw [hℓ', ← heven]
          omega

/-- The last start told has no stop after it while the gadget streams. -/
theorem lived_last {ℓ : Life} (h : lived id .unborn ms = some ℓ) :
    (streamWord id ms).getLast? = some true ↔ ℓ = .streaming := by
  obtain ⟨halt, hodd⟩ := lived_alternates h
  rw [halt.last, hodd]

/-- Nothing is told of a gadget that is gone. -/
theorem lived_gone {ℓ : Life} (h : lived id .gone ms = some ℓ) :
    ℓ = .gone ∧ ∀ m ∈ ms, m.wParam = id → m.fromGadget = false := by
  induction ms with
  | nil => cases h; exact ⟨rfl, fun m hm => by cases hm⟩
  | cons m ms ih =>
      rw [lived_cons] at h
      obtain ⟨ℓ₁, hm, h⟩ := Option.bind_eq_some_iff.mp h
      have hℓ₁ : ℓ₁ = .gone ∧ (m.wParam = id → m.fromGadget = false) := by
        by_cases hid : m.wParam = id
        · rw [Life.follow_same hid] at hm
          cases hw : m.what <;> rw [hw] at hm <;> cases hm <;>
            exact ⟨rfl, fun _ => by unfold Message.fromGadget; rw [hw]⟩
        · rw [Life.follow_other hid] at hm
          cases hm
          exact ⟨rfl, fun h => absurd h hid⟩
      obtain ⟨rfl, hthis⟩ := hℓ₁
      obtain ⟨hℓ, hrest⟩ := ih h
      refine ⟨hℓ, fun x hx => ?_⟩
      rcases List.mem_cons.mp hx with rfl | hx
      · exact hthis
      · exact hrest x hx

/-- **A detached gadget has stopped, and is not heard of again.** -/
theorem lived_detached {ℓ : Life} {pre post : List Message} (h : lived id .unborn (pre ++ m :: post) = some ℓ)
    (hm : m.what = .uvcDetached) (hid : m.wParam = id) :
    lived id .unborn pre = some .idle ∧ ∀ x ∈ post, x.wParam = id → x.fromGadget = false := by
  rw [lived_append] at h
  obtain ⟨ℓ₁, hpre, h⟩ := Option.bind_eq_some_iff.mp h
  rw [lived_cons, Life.follow_same hid, hm] at h
  cases ℓ₁ with
  | idle => exact ⟨hpre, (lived_gone h).2⟩
  | unborn => cases h
  | streaming => cases h
  | gone => cases h

/-- What one message makes of the ends of a life. -/
theorem Life.follow_ends {ℓ ℓ' : Life} (h : ℓ.follow id m = some ℓ') :
    (ℓ' = .gone → ℓ = .gone ∨ (m.what = .uvcDetached ∧ m.wParam = id)) ∧
      (ℓ' = .unborn → ℓ = .unborn ∧ m.announces id = false) := by
  unfold Message.announces
  by_cases hid : m.wParam = id
  · rw [Life.follow_same hid] at h
    cases hw : m.what <;> rw [hw] at h <;> cases ℓ <;> cases h <;> simp [hid]
  · rw [Life.follow_other hid] at h
    cases h
    exact ⟨.inl, fun h => ⟨h, by rw [decide_eq_false hid, Bool.and_false]⟩⟩

/-- **A gadget that is gone has been detached, and one that is unborn has not been announced.** -/
theorem lived_ends {ℓ : Life} (h : lived id .unborn ms = some ℓ) :
    (ℓ = .gone → ∃ m ∈ ms, m.what = .uvcDetached ∧ m.wParam = id) ∧
      (ℓ = .unborn → ∀ m ∈ ms, m.announces id = false) := by
  induction ms using List.reverseRecOn generalizing ℓ with
  | nil => cases h; exact ⟨fun h => (by cases h), fun _ m hm => (by cases hm)⟩
  | append_singleton ms m ih =>
      rw [lived_append] at h
      obtain ⟨ℓ₁, hℓ₁, h⟩ := Option.bind_eq_some_iff.mp h
      rw [lived_cons] at h
      obtain ⟨ℓ₂, hm, h⟩ := Option.bind_eq_some_iff.mp h
      cases h
      obtain ⟨hgone, hunborn⟩ := ih hℓ₁
      obtain ⟨hgone', hunborn'⟩ := Life.follow_ends hm
      constructor
      · intro hℓ
        rcases hgone' hℓ with hold | hnow
        · obtain ⟨x, hx, hw⟩ := hgone hold
          exact ⟨x, List.mem_append_left _ hx, hw⟩
        · exact ⟨m, List.mem_append_right _ List.mem_cons_self, hnow⟩
      · intro hℓ x hx
        obtain ⟨hold, hnow⟩ := hunborn' hℓ
        rcases List.mem_append.mp hx with hx | hx
        · exact hunborn hold x hx
        · rw [List.mem_singleton.mp hx]; exact hnow

end Uvcd
