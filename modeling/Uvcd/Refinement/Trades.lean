import Uvcd.Lib.Custody
import Uvcd.Refinement.Notes

/-!
# `Refinement.Trades` — the descriptors of the devices

`Trades own` says of a piece of the program that it keeps to the order of `Lib.Custody` on the descriptors it
opens, uses and closes, that those open afterwards are those of the devices attached then, and that it stays away
from the daemon's `own` descriptors. One lemma for each function that opens, closes or drives a device.
-/

namespace Uvcd

open Machine Split Custody

variable {env : Env} {own fds fds' fds'' : List Nat} {k k' k'' : Kernel} {io io' : Io} {g g' : Gadget}
  {c c' : Capture}

/-- The call as an operation on a descriptor. -/
def Call.op : Call → Op Nat
  | .open fd => .acquire fd
  | .ioctl fd => .use fd
  | .close fd => .release fd

def Call.fd (c : Call) : Nat := c.op.handle

/-- Between `k` and `k'` the calls are in order, and none is on a descriptor of `own`. -/
def Orderly (own : List Nat) (k k' : Kernel) : Prop :=
  ∃ l, k'.trace = k.trace ++ l ∧ replay (l.map Call.op) k.opened = some k'.opened ∧ ∀ x ∈ l, x.fd ∉ own

/-- A piece of the program that takes the devices from `fds` to `fds'`. -/
def Trades (own : List Nat) (k : Kernel) (fds : List Nat) (k' : Kernel) (fds' : List Nat) : Prop :=
  k.opened.Nodup → k.opened.Perm (fds ++ own) → Orderly own k k' ∧ k'.opened.Perm (fds' ++ own)

theorem Orderly.trans (h : Orderly own k k') (h' : Orderly own k' k'') : Orderly own k k'' := by
  obtain ⟨l, htrace, hreplay, hown⟩ := h
  obtain ⟨l', htrace', hreplay', hown'⟩ := h'
  refine ⟨l ++ l', by rw [htrace', htrace, List.append_assoc], ?_, fun x hx => ?_⟩
  · rw [List.map_append]
    exact replay_append_some.mpr ⟨_, hreplay, hreplay'⟩
  · exact (List.mem_append.mp hx).elim (hown x) (hown' x)

theorem Orderly.nodup (h : Orderly own k k') (hnd : k.opened.Nodup) : k'.opened.Nodup := by
  obtain ⟨l, -, hreplay, -⟩ := h
  exact replay_nodup hreplay hnd

theorem Trades.trans (h : Trades own k fds k' fds') (h' : Trades own k' fds' k'' fds'') :
    Trades own k fds k'' fds'' := by
  intro hnd hp
  obtain ⟨ho, hp'⟩ := h hnd hp
  obtain ⟨ho', hp''⟩ := h' (ho.nodup hnd) hp'
  exact ⟨ho.trans ho', hp''⟩

/-- The order of the devices does not matter. -/
theorem Trades.perm (h : Trades own k fds k' fds') {as bs : List Nat} (has : as.Perm fds) (hbs : fds'.Perm bs) :
    Trades own k as k' bs := by
  intro hnd hp
  obtain ⟨ho, hp'⟩ := h hnd (hp.trans (has.append_right own))
  exact ⟨ho, hp'.trans (hbs.append_right own)⟩

/-- Calls on no descriptor. -/
theorem trades_quiet (htrace : k'.trace = k.trace) (hopened : k'.opened = k.opened) : Trades own k fds k' fds := by
  intro hnd hp
  refine ⟨⟨[], by rw [htrace, List.append_nil], by rw [hopened]; rfl, fun x hx => by cases hx⟩, ?_⟩
  rw [hopened]
  exact hp

theorem trades_ask (k : Kernel) : Trades own k fds k.ask fds := trades_quiet rfl rfl

/-- A device has none of the daemon's own descriptors. -/
theorem fd_not_own (hnd : k.opened.Nodup) (hp : k.opened.Perm (fds ++ own)) : ∀ fd ∈ fds, fd ∉ own := by
  have hnd' := hp.nodup_iff.mp hnd
  intro fd hfd hown
  exact (List.nodup_append.mp hnd').2.2 fd hfd fd hown rfl

/-- `ioctl`s on devices. -/
theorem Speaks.trades {P : Nat → Prop} (h : Speaks P k k') (hP : ∀ fd, P fd → fd ∈ fds) : Trades own k fds k' fds := by
  intro hnd hp
  obtain ⟨l, htrace, hl⟩ := h.trace
  rw [h.opened]
  refine ⟨⟨l, htrace, ?_, fun x hx => ?_⟩, hp⟩
  · rw [h.opened]
    clear htrace
    induction l with
    | nil => rfl
    | cons x l ih =>
        obtain ⟨fd, hfd, rfl⟩ := hl x List.mem_cons_self
        have hopen : fd ∈ k.opened := hp.mem_iff.mpr (List.mem_append_left _ (hP fd hfd))
        refine replay_cons_some.mpr ⟨k.opened, if_pos hopen, ih fun y hy => hl y (List.mem_cons_of_mem _ hy)⟩
  · obtain ⟨fd, hfd, rfl⟩ := hl x hx
    exact fd_not_own hnd hp fd (hP fd hfd)

theorem Talks.trades {fd : Nat} (h : Talks fd k k') (hfd : fd ∈ fds) : Trades own k fds k' fds :=
  (h.speaks (P := fun x => x = fd) rfl).trades fun x hx => by rw [hx]; exact hfd

theorem trades_open (k : Kernel) : Trades own k fds k.openFd.2 (k.openFd.1 :: fds) := by
  intro hnd hp
  have hfree : k.openFd.1 ∉ k.opened := lowestFree_not_mem k.opened
  refine ⟨⟨[.open k.openFd.1], rfl, ?_, fun x hx hown => ?_⟩, hp.cons _⟩
  · exact replay_cons_some.mpr ⟨k.openFd.1 :: k.opened, if_neg hfree, rfl⟩
  · rw [List.mem_singleton.mp hx] at hown
    exact hfree (hp.mem_iff.mpr (List.mem_append_right _ hown))

theorem trades_close {pre post : List Nat} {fd : Nat} (hfds : fds = pre ++ fd :: post) (k : Kernel) :
    Trades own k fds (k.closeFd fd) (pre ++ post) := by
  intro hnd hp
  have hmid : k.opened.Perm (fd :: (pre ++ post ++ own)) := by
    rw [hfds] at hp
    refine hp.trans ?_
    rw [List.append_assoc, List.append_assoc, List.cons_append]
    exact List.perm_middle
  have hopen : fd ∈ k.opened := hmid.mem_iff.mpr List.mem_cons_self
  refine ⟨⟨[.close fd], rfl, ?_, fun x hx => ?_⟩, ?_⟩
  · exact replay_cons_some.mpr ⟨k.opened.erase fd, if_pos hopen, rfl⟩
  · rw [List.mem_singleton.mp hx]
    exact fd_not_own hnd hp fd (by rw [hfds]; exact List.mem_append_right _ List.mem_cons_self)
  · have herase := hmid.erase fd
    rwa [List.erase_cons_head] at herase

theorem trades_close_head (fd : Nat) (fds : List Nat) (k : Kernel) :
    Trades own k (fd :: fds) (k.closeFd fd) fds := by
  have h : fd :: fds = [] ++ fd :: fds := rfl
  exact trades_close h k

/-! ## Opening -/

theorem V4lOpens.trades {devname : DevName} {dev? : Option Device} (h : V4lOpens k devname dev? k') :
    Trades own k fds k' ((dev?.map (·.fd)).toList ++ fds) := by
  have hopen : Trades own k fds k.ask.openFd.2 (k.ask.openFd.1 :: fds) := (trades_ask k).trans (trades_open k.ask)
  cases h with
  | missing h => rcases h with rfl | rfl <;> exact trades_quiet rfl rfl
  | rejected h =>
      exact (hopen.trans (h.talks.trades List.mem_cons_self)).trans (trades_close_head _ _ _)
  | opened h => exact hopen.trans (h.talks.trades List.mem_cons_self)

theorem GivenUp.trades {name : DevName} (h : GivenUp env io name io') : Trades own io.kernel fds io'.kernel fds := by
  obtain ⟨dev, k, k₁, hopen, htalk, hk⟩ := h.kernel
  rw [hk]
  have hopened : Trades own io.kernel fds k (dev.fd :: fds) := (v4l2Open_opens hopen).trades
  exact (hopened.trans (htalk.trades List.mem_cons_self)).trans (trades_close_head _ _ _)

/-! ## The objects -/

/-- The descriptors of the attached devices. -/
def gadgetFds (gadgets : List Gadget) : List Nat := gadgets.map fun g => g.vdev.fd
def captureFds (captures : List Capture) : List Nat := captures.map fun c => c.vdev.fd

variable {gadgets gadgets' : List Gadget} {captures captures' : List Capture} {name : DevName} {r : Int}
  {rest : List Nat}

theorem gadgetFds_split {pre post : List Gadget} (h : gadgets = pre ++ g :: post) :
    gadgetFds gadgets = gadgetFds pre ++ g.vdev.fd :: gadgetFds post := by
  unfold gadgetFds
  rw [h, List.map_append, List.map_cons]

theorem captureFds_split {pre post : List Capture} (h : captures = pre ++ c :: post) :
    captureFds captures = captureFds pre ++ c.vdev.fd :: captureFds post := by
  unfold captureFds
  rw [h, List.map_append, List.map_cons]

theorem gadgetFds_erased (pre post : List Gadget) : gadgetFds (pre ++ post) = gadgetFds pre ++ gadgetFds post :=
  List.map_append

theorem captureFds_erased (pre post : List Capture) :
    captureFds (pre ++ post) = captureFds pre ++ captureFds post := List.map_append

theorem gadgetFds_replaced {pre post : List Gadget} (h : gadgets = pre ++ g :: post)
    (hfd : g'.vdev.fd = g.vdev.fd) : gadgetFds (pre ++ g' :: post) = gadgetFds gadgets := by
  rw [gadgetFds_split h, gadgetFds_split rfl, hfd]

theorem captureFds_replaced {pre post : List Capture} (h : captures = pre ++ c :: post)
    (hfd : c'.vdev.fd = c.vdev.fd) : captureFds (pre ++ c' :: post) = captureFds captures := by
  rw [captureFds_split h, captureFds_split rfl, hfd]

theorem mem_gadgetFds (h : g ∈ gadgets) : g.vdev.fd ∈ gadgetFds gadgets := List.mem_map_of_mem h

theorem mem_captureFds (h : c ∈ captures) : c.vdev.fd ∈ captureFds captures := List.mem_map_of_mem h

/-- What is done with an open device. -/
theorem Drives.trades {d d' : Device} (h : Drives k d k' d') (hfd : d.fd ∈ fds) : Trades own k fds k' fds :=
  h.talks.trades hfd

theorem UvcStreams.trades {on : Bool} (h : UvcStreams env io g on r g' io') (hp : g.vdev.Plain)
    (hfd : g.vdev.fd ∈ fds) : Trades own io.kernel fds io'.kernel fds := (h.works hp).toDrives.trades hfd

theorem V4lStreams.trades {on : Bool} (h : V4lStreams env io c on r c' io') (hp : c.vdev.Plain)
    (hfd : c.vdev.fd ∈ fds) : Trades own io.kernel fds io'.kernel fds := (h.works hp).toDrives.trades hfd

/-- A post and a registration. -/
theorem trades_post (env : Env) (io : Io) (m : Message) : Trades own io.kernel fds (io.post env m).kernel fds := by
  rw [post_kernel]
  exact trades_ask _

theorem trades_watch (env : Env) (io : Io) (fd : Nat) (type : EventType) (callback : Callback) (priv : Priv) :
    Trades own io.kernel fds (io.watch env fd type callback priv).kernel fds := by
  rw [watch_kernel]
  exact trades_ask _

/-! ## Attaching -/

theorem UvcAttaches.trades (h : UvcAttaches env io gadgets name r gadgets' io') :
    Trades own io.kernel (gadgetFds gadgets ++ rest) io'.kernel (gadgetFds gadgets' ++ rest) := by
  cases h with
  | missing hopen => exact (v4l2Open_opens hopen).trades
  | rejected hup => exact hup.trades
  | attached hopen htype hmem hinit hret =>
      rename_i dev k k₁ io₁ addr ret g
      obtain ⟨htalk, hg⟩ := uvcGadgetInit_talks hinit
      have hfd : g.vdev.fd = dev.fd := by rw [hg]; rfl
      have hopened : Trades own io.kernel (gadgetFds gadgets ++ rest) k (dev.fd :: (gadgetFds gadgets ++ rest)) :=
        (v4l2Open_opens hopen).trades
      have hmalloc : Trades own k (dev.fd :: (gadgetFds gadgets ++ rest)) io₁.kernel
          (dev.fd :: (gadgetFds gadgets ++ rest)) := by
        rw [malloc_kernel hmem]
        exact trades_ask k
      have hinit' := ((hopened.trans hmalloc).trans (trades_ask _)).trans (htalk.trades List.mem_cons_self)
      have hwatch := hinit'.trans (trades_watch env { io₁ with kernel := k₁ } g.vdev.fd .exception .uvcGadgetProcess
        (.gadget addr))
      refine (hwatch.trans (trades_post env _ _)).perm (.refl _) ?_
      rw [gadgetFds_erased, List.append_assoc]
      show List.Perm _ (gadgetFds gadgets ++ (g.vdev.fd :: rest))
      rw [hfd]
      exact List.perm_middle.symm

theorem V4lAttaches.trades (h : V4lAttaches env io captures name r captures' io') :
    Trades own io.kernel (rest ++ captureFds captures) io'.kernel (rest ++ captureFds captures') := by
  cases h with
  | missing hopen => exact (v4l2Open_opens hopen).trades
  | rejected hup => exact hup.trades
  | attached hopen htype hmem =>
      rename_i dev k addr
      have hopened : Trades own io.kernel (rest ++ captureFds captures) k (dev.fd :: (rest ++ captureFds captures)) :=
        (v4l2Open_opens hopen).trades
      rw [malloc_kernel hmem]
      refine (hopened.trans (trades_ask k)).perm (.refl _) ?_
      rw [captureFds_erased, ← List.append_assoc]
      exact (List.perm_append_singleton _ _).symm

/-! ## Detaching -/

theorem UvcDetaches.trades (h : UvcDetaches env io gadgets name r gadgets' io') (hp : ∀ g ∈ gadgets, g.vdev.Plain) :
    Trades own io.kernel (gadgetFds gadgets ++ rest) io'.kernel (gadgetFds gadgets' ++ rest) := by
  cases h with
  | missed h => exact trades_quiet rfl rfl
  | detached hs hstop =>
      rename_i pre post g g₁ io₁ ret
      have hfd : g₁.vdev.fd = g.vdev.fd := (hstop.works (hp g hs.mem)).fd
      have hmem : g.vdev.fd ∈ gadgetFds gadgets ++ rest := List.mem_append_left _ (mem_gadgetFds hs.mem)
      have hclose : Trades own io₁.kernel (gadgetFds gadgets ++ rest) (v4l2Close io₁.kernel g₁.vdev)
          (gadgetFds pre ++ (gadgetFds post ++ rest)) := by
        unfold v4l2Close
        rw [hfd]
        refine trades_close ?_ _
        rw [gadgetFds_split hs.eq, List.append_assoc, List.cons_append]
      have hstopped := (hstop.trades (hp g hs.mem) hmem).trans hclose
      rw [gadgetFds_erased, List.append_assoc, post_kernel]
      exact hstopped.trans (trades_ask _)

theorem V4lDetaches.trades (h : V4lDetaches env io captures name r captures' io') (hp : AllPlain captures) :
    Trades own io.kernel (rest ++ captureFds captures) io'.kernel (rest ++ captureFds captures') := by
  cases h with
  | missed h => exact trades_quiet rfl rfl
  | detached hs hstop =>
      rename_i pre post c c₁ io₁ ret
      have hfd : c₁.vdev.fd = c.vdev.fd := (hstop.works (hp c hs.mem)).fd
      have hmem : c.vdev.fd ∈ rest ++ captureFds captures := List.mem_append_right _ (mem_captureFds hs.mem)
      have hclose : Trades own io₁.kernel (rest ++ captureFds captures) (v4l2Close io₁.kernel c₁.vdev)
          ((rest ++ captureFds pre) ++ captureFds post) := by
        unfold v4l2Close
        rw [hfd]
        refine trades_close ?_ _
        rw [captureFds_split hs.eq, List.append_assoc]
      rw [captureFds_erased, ← List.append_assoc]
      exact (hstop.trades (hp c hs.mem) hmem).trans hclose

/-! ## Pairing -/

theorem V4lCaptureStreams.trades {id : UInt32} {on : Bool} (h : V4lCaptureStreams env io captures id on captures' io')
    (hp : AllPlain captures) :
    Trades own io.kernel (rest ++ captureFds captures) io'.kernel (rest ++ captureFds captures') := by
  cases h with
  | missed => exact trades_quiet rfl rfl
  | found hs h =>
      rw [captureFds_replaced hs.eq (h.works (hp _ hs.mem)).fd]
      exact h.trades (hp _ hs.mem) (List.mem_append_right _ (mem_captureFds hs.mem))

theorem V4lParts.trades {id : UInt32} (h : V4lParts env io captures id captures' io') (hp : AllPlain captures) :
    Trades own io.kernel (rest ++ captureFds captures) io'.kernel (rest ++ captureFds captures') := by
  cases h with
  | missed => exact trades_quiet rfl rfl
  | found hs h =>
      rename_i c' ret
      have hfd : ({ c' with gadgetId := 0 } : Capture).vdev.fd = _ := (h.works (hp _ hs.mem)).fd
      rw [captureFds_replaced hs.eq hfd]
      exact h.trades (hp _ hs.mem) (List.mem_append_right _ (mem_captureFds hs.mem))

theorem TunesAll.trades (h : TunesAll k captures k' captures') :
    Trades own k (rest ++ captureFds captures) k' (rest ++ captureFds captures') := by
  have hsame : captureFds captures' = captureFds captures := by
    have heach := h.each
    clear h
    unfold captureFds
    induction heach with
    | nil => rfl
    | cons htune _ ih => rw [List.map_cons, List.map_cons, ih, htune.device]
  rw [hsame]
  refine h.speaks.trades ?_
  rintro fd ⟨c, hc, rfl⟩
  exact List.mem_append_right _ (mem_captureFds hc)

/-! ## The handlers -/

theorem UvcServes.trades {s s' : Sys} {m : Message} (h : UvcServes env s m r s') (hfit : s.Fit) :
    Trades own s.io.kernel (gadgetFds s.gadgets ++ captureFds s.captures) s'.io.kernel
      (gadgetFds s'.gadgets ++ captureFds s'.captures) := by
  cases h with
  | skipped => exact trades_quiet rfl rfl
  | attach hreg hatt => exact hatt.trades
  | detach hdet => exact hdet.trades fun g hg => (hfit.gadgets g hg).1
  | copied hs =>
      rename_i id p pre post g f img
      have hsame : gadgetFds (pre ++ { g with imgdata := img } :: post) = gadgetFds s.gadgets :=
        gadgetFds_replaced hs.eq rfl
      dsimp only
      rw [hsame]
      exact trades_quiet rfl rfl

theorem CaptureServes.trades {s s' : Sys} {m : Message} (h : CaptureServes env s m s') (hp : AllPlain s.captures) :
    Trades own s.io.kernel (gadgetFds s.gadgets ++ captureFds s.captures) s'.io.kernel
      (gadgetFds s'.gadgets ++ captureFds s'.captures) := by
  cases h with
  | skipped => exact trades_quiet rfl rfl
  | attach hatt => exact hatt.trades
  | detach hdet => exact hdet.trades hp
  | setFmt htune => exact htune.trades
  | stream on hcall => exact hcall.trades hp
  | part hcall => exact hcall.trades hp

theorem UvcServes.captures_eq {s s' : Sys} {m : Message} (h : UvcServes env s m r s') :
    s'.captures = s.captures := by
  cases h <;> rfl

theorem Serves.trades {s s' : Sys} {m : Message} (h : Serves env s m s') (hfit : s.Fit) :
    Trades own s.io.kernel (gadgetFds s.gadgets ++ captureFds s.captures) s'.io.kernel
      (gadgetFds s'.gadgets ++ captureFds s'.captures) := by
  obtain ⟨r, s₁, hu, hc⟩ := h
  have hgadget : Trades own s.io.kernel (gadgetFds s.gadgets ++ captureFds s.captures) s₁.io.kernel
      (gadgetFds s₁.gadgets ++ captureFds s₁.captures) := hu.trades hfit
  rcases hc with ⟨-, rfl⟩ | hc
  · exact hgadget
  · refine hgadget.trans (hc.trades ?_)
    rw [hu.captures_eq]
    exact hfit.captures

/-! ## The end of `main` -/

theorem uvcGadgetTerminate_trades : ∀ {gadgets : List Gadget} {io io' : Io}, (∀ g ∈ gadgets, g.vdev.Plain) →
    uvcGadgetTerminate env gadgets io = .ok io' →
    Trades own io.kernel (gadgetFds gadgets ++ rest) io'.kernel rest := by
  intro gadgets
  induction gadgets with
  | nil => intro io io' _ h; cases h; exact trades_quiet rfl rfl
  | cons g gs ih =>
      intro io io' hp h
      obtain ⟨⟨ret, g₁, io₁⟩, hstop, h⟩ := bind_eq_ok.mp h
      have hplain := hp g List.mem_cons_self
      have hs := uvcVideoStream_streams hstop
      have hclose : Trades own io₁.kernel (g.vdev.fd :: (gadgetFds gs ++ rest)) (v4l2Close io₁.kernel g₁.vdev)
          (gadgetFds gs ++ rest) := by
        unfold v4l2Close
        rw [(hs.works hplain).fd]
        exact trades_close_head _ _ _
      exact ((hs.trades hplain List.mem_cons_self).trans hclose).trans
        (ih (fun x hx => hp x (List.mem_cons_of_mem _ hx)) h)

theorem v4lCaptureTerminate_trades : ∀ {captures : List Capture} {io io' : Io}, AllPlain captures →
    v4lCaptureTerminate env captures io = .ok io' →
    Trades own io.kernel (rest ++ captureFds captures) io'.kernel rest := by
  intro captures
  induction captures with
  | nil => intro io io' _ h; cases h; exact (trades_quiet rfl rfl).perm (.of_eq (List.append_nil _)) (.refl _)
  | cons c cs ih =>
      intro io io' hp h
      obtain ⟨⟨ret, c₁, io₁⟩, hstop, h⟩ := bind_eq_ok.mp h
      have hplain := hp c List.mem_cons_self
      have hs := v4lVideoStream_streams hstop
      have hmem : c.vdev.fd ∈ rest ++ captureFds (c :: cs) := List.mem_append_right _ List.mem_cons_self
      have hclose : Trades own io₁.kernel (rest ++ captureFds (c :: cs)) (v4l2Close io₁.kernel c₁.vdev)
          (rest ++ captureFds cs) := by
        unfold v4l2Close
        rw [(hs.works hplain).fd]
        exact trades_close rfl _
      exact ((hs.trades hplain hmem).trans hclose).trans (ih (fun x hx => hp x (List.mem_cons_of_mem _ hx)) h)

theorem looperCleanupHandlers_trades : ∀ (hs : List Handler) {s s' : Sys}, (∀ g ∈ s.gadgets, g.vdev.Plain) →
    AllPlain s.captures → looperCleanupHandlers env hs s = .ok s' →
    Trades own s.io.kernel (gadgetFds s.gadgets ++ captureFds s.captures) s'.io.kernel
      (gadgetFds s'.gadgets ++ captureFds s'.captures) := by
  intro hs
  induction hs with
  | nil => intro s s' _ _ h; cases h; exact trades_quiet rfl rfl
  | cons x hs ih =>
      intro s s' hg hc h
      obtain ⟨⟨r, s₁⟩, hx, h⟩ := bind_eq_ok.mp h
      dsimp only at h
      cases x with
      | uvc =>
          obtain ⟨io, hterm, heq⟩ := bind_eq_ok.mp hx
          cases heq
          exact (uvcGadgetTerminate_trades hg hterm).trans
            (@ih { s with gadgets := [], handlers := hs, io := io } s' (fun g hg => (by cases hg)) hc h)
      | capture =>
          obtain ⟨io, hterm, heq⟩ := bind_eq_ok.mp hx
          cases heq
          refine (v4lCaptureTerminate_trades hc hterm).trans ?_
          refine (@ih { s with captures := [], handlers := hs, io := io } s' hg (fun c hc => (by cases hc)) h).perm
            (.of_eq ?_) (.refl _)
          exact (List.append_nil _).symm

end Uvcd
