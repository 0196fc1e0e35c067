import Uvcd.Model.Daemon
import Uvcd.Refinement.Devices

/-!
# `Correctness.Enumeration` — the formats a device is opened with

`v4l2_enum_formats` builds a tree of formats, frame sizes and frame intervals from three nested enumerations, and
`v4l2_open` rejects a device whose enumeration fails. `given` is the tree a driver describes with the three types
V4L2 has. The code knows all three for sizes and two of them for intervals: `formats_enumerated_iff` says that
the tree is built, and the device opened, exactly when no interval is a continuous one and memory suffices.
-/

namespace Uvcd

variable {env : Env} {fd : Nat} {k k' : Kernel} {ret : Int}

/-! ## What a driver describes -/

/-- The entry has one of the types V4L2 has; the step of a continuous range is `1`. -/
def FrmIvalEnum.Defined (e : FrmIvalEnum) : Prop :=
  e.type = TYPE_DISCRETE ∨ e.type = TYPE_STEPWISE ∨ e.type = TYPE_CONTINUOUS

structure FrmSizeEnum.Defined (e : FrmSizeEnum) : Prop where
  type : e.type = TYPE_DISCRETE ∨ e.type = TYPE_STEPWISE ∨ e.type = TYPE_CONTINUOUS
  step : e.type = TYPE_CONTINUOUS → e.stepWidth = 1 ∧ e.stepHeight = 1
  ivals : ∀ i ∈ e.ivals, i.Defined

def FmtEnum.Defined (e : FmtEnum) : Prop := ∀ s ∈ e.sizes, s.Defined

/-- The descriptors that an entry stands for. -/
def FrmIvalEnum.given (e : FrmIvalEnum) : IvalDesc :=
  if e.type = TYPE_DISCRETE then ⟨e.discrete, e.discrete, ⟨1, 1⟩⟩ else ⟨e.min, e.max, e.step⟩

def FrmSizeEnum.given (e : FrmSizeEnum) : FrameDesc :=
  let ivals := e.ivals.map FrmIvalEnum.given
  if e.type = TYPE_DISCRETE then ⟨e.width, e.height, e.width, e.height, 1, 1, ivals⟩
  else ⟨e.minWidth, e.minHeight, e.maxWidth, e.maxHeight, e.stepWidth, e.stepHeight, ivals⟩

def FmtEnum.given (e : FmtEnum) : FormatDesc := ⟨e.pixelformat, e.sizes.map FrmSizeEnum.given⟩

/-! ## The condition -/

/-- The calls of an enumeration that starts at call `t` find memory for every descriptor. Each entry takes one call
    of the driver and one of the allocator, and what is nested in it follows. -/
def IvalsFit (env : Env) : List FrmIvalEnum → Nat → Prop
  | [], _ => True
  | _ :: es, t => env.malloc (t + 1) = true ∧ IvalsFit env es (t + 2)

/-- The calls that a whole enumeration of intervals, or of sizes, takes. -/
def ivalCalls (es : List FrmIvalEnum) : Nat := 2 * es.length + 1
def sizeCalls : List FrmSizeEnum → Nat
  | [] => 1
  | e :: es => 2 + ivalCalls e.ivals + sizeCalls es

def SizesFit (env : Env) : List FrmSizeEnum → Nat → Prop
  | [], _ => True
  | e :: es, t => env.malloc (t + 1) = true ∧ IvalsFit env e.ivals (t + 2) ∧
      SizesFit env es (t + 2 + ivalCalls e.ivals)

def FormatsFit (env : Env) : List FmtEnum → Nat → Prop
  | [], _ => True
  | e :: es, t => env.malloc (t + 1) = true ∧ SizesFit env e.sizes (t + 2) ∧
      FormatsFit env es (t + 2 + sizeCalls e.sizes)

/-- No interval is a continuous one. -/
def FrmSizeEnum.Stepped (e : FrmSizeEnum) : Prop := ∀ i ∈ e.ivals, i.type ≠ TYPE_CONTINUOUS
def FmtEnum.Stepped (e : FmtEnum) : Prop := ∀ s ∈ e.sizes, s.Stepped

/-! ## The three loops -/

theorem ivalDesc_given {e : FrmIvalEnum} (hdef : e.Defined) :
    (e.type ≠ TYPE_CONTINUOUS ∧ ivalDesc e = some e.given) ∨ (e.type = TYPE_CONTINUOUS ∧ ivalDesc e = none) := by
  unfold ivalDesc FrmIvalEnum.given
  rcases hdef with h | h | h
  · exact .inl ⟨by rw [h]; decide, by rw [if_pos h, if_pos h]⟩
  · have hne : e.type ≠ TYPE_DISCRETE := by rw [h]; decide
    exact .inl ⟨by rw [h]; decide, by rw [if_neg hne, if_pos h, if_neg hne]⟩
  · exact .inr ⟨h, by rw [if_neg (by rw [h]; decide), if_neg (by rw [h]; decide)]⟩

/-- The sizes of all three types are known. -/
theorem frameDesc_given {e : FrmSizeEnum} (hdef : e.Defined) :
    ∃ frame, frameDesc e = some frame ∧ { frame with ivals := e.ivals.map FrmIvalEnum.given } = e.given := by
  unfold frameDesc FrmSizeEnum.given
  rcases hdef.type with h | h | h
  · rw [if_pos h, if_pos h]
    exact ⟨_, rfl, rfl⟩
  · have hne : e.type ≠ TYPE_DISCRETE := by rw [h]; decide
    rw [if_neg hne, if_pos h, if_neg hne]
    exact ⟨_, rfl, rfl⟩
  · have hne : e.type ≠ TYPE_DISCRETE := by rw [h]; decide
    obtain ⟨hw, hh⟩ := hdef.step h
    rw [if_neg hne, if_neg (by rw [h]; decide), if_pos h, if_neg hne, hw, hh]
    exact ⟨_, rfl, rfl⟩

theorem malloc_works {t : Nat} (h : env.malloc t = true) : ¬(!env.malloc t) = true := by
  rw [h]; decide

theorem malloc_fails {t : Nat} (h : ¬env.malloc t = true) : (!env.malloc t) = true := by
  simpa using h

/-- **The intervals of a size.** -/
theorem v4l2EnumFrameIntervals_given {es : List FrmIvalEnum} {acc ivals : List IvalDesc}
    (hdef : ∀ e ∈ es, e.Defined) (h : v4l2EnumFrameIntervals env fd es k acc = (ret, ivals, k')) :
    (ret = 0 ∧ ivals = acc ++ es.map FrmIvalEnum.given ∧ k'.tick = k.tick + ivalCalls es ∧
        IvalsFit env es k.tick ∧ ∀ i ∈ es, i.type ≠ TYPE_CONTINUOUS) ∨
      (ret < 0 ∧ ¬(IvalsFit env es k.tick ∧ ∀ i ∈ es, i.type ≠ TYPE_CONTINUOUS)) := by
  induction es generalizing k acc with
  | nil =>
      cases h
      exact .inl ⟨rfl, by simp, rfl, trivial, fun i hi => by cases hi⟩
  | cons e es ih =>
      rw [v4l2EnumFrameIntervals] at h
      -- each turn asks the driver, then allocates, then looks at the type
      by_cases hmem : env.malloc (k.tick + 1) = true
      · have hworks : ¬(!env.malloc (k.call (.ioctl fd)).tick) = true := malloc_works hmem
        rw [if_neg hworks] at h
        rcases ivalDesc_given (hdef e List.mem_cons_self) with ⟨htype, hdesc⟩ | ⟨htype, hdesc⟩
        · rw [hdesc] at h
          rcases ih (fun x hx => hdef x (List.mem_cons_of_mem _ hx)) h with
            ⟨hret, hivals, htick, hfit, hstep⟩ | ⟨hret, hno⟩
          · refine .inl ⟨hret, by rw [hivals]; simp, ?_, ⟨hmem, hfit⟩, ?_⟩
            · have hstart : (k.call (.ioctl fd)).ask.tick = k.tick + 2 := rfl
              rw [htick, hstart]
              unfold ivalCalls
              rw [List.length_cons]
              omega
            · intro i hi
              rcases List.mem_cons.mp hi with rfl | hi
              · exact htype
              · exact hstep i hi
          · refine .inr ⟨hret, fun hok => hno ⟨hok.1.2, fun i hi => hok.2 i (List.mem_cons_of_mem _ hi)⟩⟩
        · rw [hdesc] at h
          cases h
          exact .inr ⟨Errno.neg_lt _, fun hok => hok.2 e List.mem_cons_self htype⟩
      · -- no memory
        have hfail : (!env.malloc (k.call (.ioctl fd)).tick) = true := malloc_fails hmem
        rw [if_pos hfail] at h
        cases h
        exact .inr ⟨Errno.neg_lt _, fun hok => hmem hok.1.1⟩

/-- **The sizes of a format.** -/
theorem v4l2EnumFrameSizes_given {es : List FrmSizeEnum} {acc frames : List FrameDesc}
    (hdef : ∀ e ∈ es, e.Defined) (h : v4l2EnumFrameSizes env fd es k acc = (ret, frames, k')) :
    (ret = 0 ∧ frames = acc ++ es.map FrmSizeEnum.given ∧ k'.tick = k.tick + sizeCalls es ∧
        SizesFit env es k.tick ∧ ∀ s ∈ es, s.Stepped) ∨
      (ret < 0 ∧ ¬(SizesFit env es k.tick ∧ ∀ s ∈ es, s.Stepped)) := by
  induction es generalizing k acc with
  | nil =>
      cases h
      exact .inl ⟨rfl, by simp, rfl, trivial, fun s hs => by cases hs⟩
  | cons e es ih =>
      rw [v4l2EnumFrameSizes] at h
      dsimp only at h
      have hehere := hdef e List.mem_cons_self
      by_cases hmem : env.malloc (k.tick + 1) = true
      · have hworks : ¬(!env.malloc (k.call (.ioctl fd)).tick) = true := malloc_works hmem
        rw [if_neg hworks] at h
        obtain ⟨frame, hdesc, hgiven⟩ := frameDesc_given hehere
        rw [hdesc] at h
        dsimp only at h
        generalize hiv : v4l2EnumFrameIntervals env fd e.ivals (k.call (.ioctl fd)).ask [] = r at h
        obtain ⟨ret₁, ivals, k₁⟩ := r
        dsimp only at h
        rcases v4l2EnumFrameIntervals_given hehere.ivals hiv with ⟨hret₁, hivals, htick₁, hfit₁, hstep₁⟩ | ⟨hret₁, hno⟩
        · rw [if_neg (by omega)] at h
          rw [List.nil_append] at hivals
          have hk₁ : k₁.tick = k.tick + 2 + ivalCalls e.ivals := htick₁
          rcases ih (fun x hx => hdef x (List.mem_cons_of_mem _ hx)) h with
            ⟨hret, hframes, htick, hfit, hstep⟩ | ⟨hret, hno⟩
          · refine .inl ⟨hret, ?_, ?_, ⟨hmem, hfit₁, hk₁ ▸ hfit⟩, ?_⟩
            · rw [hframes, hivals, hgiven]
              simp
            · rw [htick, hk₁, sizeCalls]
              omega
            · intro s hs
              rcases List.mem_cons.mp hs with rfl | hs
              · exact hstep₁
              · exact hstep s hs
          · refine .inr ⟨hret, fun hok => hno ⟨hk₁ ▸ hok.1.2.2, fun s hs => hok.2 s (List.mem_cons_of_mem _ hs)⟩⟩
        · -- an interval of this size is not accepted, or finds no memory
          rw [if_pos hret₁] at h
          cases h
          exact .inr ⟨hret₁, fun hok => hno ⟨hok.1.2.1, hok.2 e List.mem_cons_self⟩⟩
      · -- no memory for the size
        have hfail : (!env.malloc (k.call (.ioctl fd)).tick) = true := malloc_fails hmem
        rw [if_pos hfail] at h
        cases h
        exact .inr ⟨Errno.neg_lt _, fun hok => hmem hok.1.1⟩

/-- **The formats of a device.** -/
theorem v4l2EnumFormats_given {es : List FmtEnum} {acc formats : List FormatDesc} (hdef : ∀ e ∈ es, e.Defined)
    (h : v4l2EnumFormats env fd es k acc = (ret, formats, k')) :
    (ret = 0 ∧ formats = acc ++ es.map FmtEnum.given ∧ FormatsFit env es k.tick ∧ ∀ f ∈ es, f.Stepped) ∨
      (ret < 0 ∧ ¬(FormatsFit env es k.tick ∧ ∀ f ∈ es, f.Stepped)) := by
  induction es generalizing k acc with
  | nil =>
      cases h
      exact .inl ⟨rfl, by simp, trivial, fun f hf => by cases hf⟩
  | cons e es ih =>
      rw [v4l2EnumFormats] at h
      dsimp only at h
      by_cases hmem : env.malloc (k.tick + 1) = true
      · have hworks : ¬(!env.malloc (k.call (.ioctl fd)).tick) = true := malloc_works hmem
        rw [if_neg hworks] at h
        generalize hsz : v4l2EnumFrameSizes env fd e.sizes (k.call (.ioctl fd)).ask [] = r at h
        obtain ⟨ret₁, frames, k₁⟩ := r
        dsimp only at h
        rcases v4l2EnumFrameSizes_given (hdef e List.mem_cons_self) hsz with
          ⟨hret₁, hframes, htick₁, hfit₁, hstep₁⟩ | ⟨hret₁, hno⟩
        · rw [if_neg (by omega)] at h
          rw [List.nil_append] at hframes
          have hk₁ : k₁.tick = k.tick + 2 + sizeCalls e.sizes := htick₁
          rcases ih (fun x hx => hdef x (List.mem_cons_of_mem _ hx)) h with
            ⟨hret, hformats, hfit, hstep⟩ | ⟨hret, hno⟩
          · refine .inl ⟨hret, ?_, ⟨hmem, hfit₁, hk₁ ▸ hfit⟩, ?_⟩
            · rw [hformats, hframes, List.map_cons, FmtEnum.given]
              simp
            · intro f hf
              rcases List.mem_cons.mp hf with rfl | hf
              · exact hstep₁
              · exact hstep f hf
          · refine .inr ⟨hret, fun hok => hno ⟨hk₁ ▸ hok.1.2.2, fun f hf => hok.2 f (List.mem_cons_of_mem _ hf)⟩⟩
        · -- a size of this format fails
          rw [if_pos hret₁] at h
          cases h
          exact .inr ⟨hret₁, fun hok => hno ⟨hok.1.2.1, hok.2 e List.mem_cons_self⟩⟩
      · -- no memory for the format
        have hfail : (!env.malloc (k.call (.ioctl fd)).tick) = true := malloc_fails hmem
        rw [if_pos hfail] at h
        cases h
        exact .inr ⟨Errno.neg_lt _, fun hok => hmem hok.1.1⟩

/-! ## Opening the device -/

/-- A device node for `v4l2_open` to open: it is there, and it is a streaming capture or output device. -/
structure Openable (env : Env) (k : Kernel) (devname : DevName) (node : Node) (type : BufType) : Prop where
  memory : env.malloc k.tick = true
  path : k.hasPath (v4l2Path devname) = true
  opens : env.openNode (k.tick + 1) (v4l2Path devname) = some node
  caps : ∃ cap, node.querycap = some cap ∧ cap.bufType = some type ∧ cap.effective &&& V4L2_CAP_STREAMING ≠ 0

/-- All that is left to decide is the enumeration, from the fourth call on. -/
theorem Openable.v4l2Open {devname : DevName} {node : Node} {type : BufType} (h : Openable env k devname node type) :
    ∃ (fd : Nat) (k₁ : Kernel), k₁.tick = k.tick + 3 ∧
      v4l2Open env k devname =
        (let (ret, formats, k') := v4l2EnumFormats env fd node.formats k₁ []
        if ret < 0 then (none, k'.closeFd fd)
        else (some ⟨fd, baseName (v4l2Path devname), type, .unset, formats, .zero, 0, [], .fresh node.dev⟩, k')) := by
  obtain ⟨cap, hcap, htype, hstream⟩ := h.caps
  have hmem : ¬(!env.malloc k.tick) = true := malloc_works h.memory
  have hpath : k.ask.hasPath (v4l2Path devname) = true := h.path
  have hopens : env.openNode k.ask.tick (v4l2Path devname) = some node := h.opens
  unfold Uvcd.v4l2Open
  dsimp only
  rw [if_neg hmem, if_pos hpath, hopens]
  dsimp only
  rw [hcap]
  dsimp only
  rw [htype]
  dsimp only
  rw [if_neg hstream]
  exact ⟨_, _, rfl, rfl⟩

/-- **The tree a driver describes** is built, and its device opened with it, exactly when every descriptor finds
    memory and no interval is a continuous one. -/
theorem formats_enumerated_iff {formats : List FmtEnum} (hdef : ∀ e ∈ formats, e.Defined) (env : Env) :
    (∀ (fd : Nat) (k : Kernel),
      ((v4l2EnumFormats env fd formats k []).1 = 0 ∧
          (v4l2EnumFormats env fd formats k []).2.1 = formats.map FmtEnum.given) ↔
        FormatsFit env formats k.tick ∧ ∀ f ∈ formats, f.Stepped) ∧
    ∀ (k : Kernel) (devname : DevName) (node : Node) (type : BufType), node.formats = formats →
      Openable env k devname node type →
        ((∃ dev k', v4l2Open env k devname = (some dev, k') ∧ dev.formats = formats.map FmtEnum.given) ↔
          FormatsFit env formats (k.tick + 3) ∧ ∀ f ∈ formats, f.Stepped) := by
  constructor
  · intro fd k
    generalize h : v4l2EnumFormats env fd formats k [] = r
    obtain ⟨ret, out, k'⟩ := r
    rcases v4l2EnumFormats_given hdef h with ⟨hret, hout, hok⟩ | ⟨hret, hno⟩
    · exact iff_of_true ⟨hret, hout⟩ hok
    · exact iff_of_false (fun h => Int.ne_of_lt hret h.1) hno
  · rintro k devname node type rfl hopen
    obtain ⟨fd, k₁, htick, heq⟩ := hopen.v4l2Open
    rw [heq]
    generalize h : v4l2EnumFormats env fd node.formats k₁ [] = r
    obtain ⟨ret, out, k'⟩ := r
    dsimp only
    rcases v4l2EnumFormats_given hdef h with ⟨hret, hout, hok⟩ | ⟨hret, hno⟩
    · rw [if_neg (by omega)]
      exact iff_of_true ⟨_, _, rfl, hout⟩ (htick ▸ hok)
    · rw [if_pos hret]
      refine iff_of_false ?_ (htick ▸ hno)
      rintro ⟨dev, k₂, h, -⟩
      cases h

/-- A camera of one discrete size, with one interval of the given type from 1/30 s to 1/5 s. -/
def camera (type : Nat) : List FmtEnum :=
  [⟨PixFormat.YUYV, [⟨TYPE_DISCRETE, 320, 240, 0, 0, 0, 0, 0, 0, [⟨type, ⟨1, 30⟩, ⟨1, 30⟩, ⟨1, 5⟩, ⟨1, 1⟩⟩]⟩]⟩]

/-- A machine whose one node is this camera. -/
def cameraBench (type : Nat) : Env :=
  { Env.obliging [] [] with openNode := fun _ _ => some { Node.capture 0 with formats := camera type } }
def cameraKernel (type : Nat) : Kernel := (boot (cameraBench type) [videoName 0] fun _ => .zero).io.kernel

theorem camera_openable (type : Nat) : Openable (cameraBench type) (cameraKernel type) (videoName 0)
    { Node.capture 0 with formats := camera type } .videoCapture where
  memory := rfl
  path := rfl
  opens := rfl
  caps := ⟨_, rfl, by decide, by decide⟩

theorem camera_defined {type : Nat} (h : type = TYPE_DISCRETE ∨ type = TYPE_STEPWISE ∨ type = TYPE_CONTINUOUS) :
    ∀ e ∈ camera type, e.Defined := by
  intro e he
  rw [camera, List.mem_singleton] at he
  subst he
  intro s hs
  rw [List.mem_singleton] at hs
  subst hs
  refine ⟨.inl rfl, fun hc => absurd hc (show TYPE_DISCRETE ≠ TYPE_CONTINUOUS by decide), fun i hi => ?_⟩
  rw [List.mem_singleton] at hi
  subst hi
  exact h

/-- With a stepwise interval it is opened. -/
theorem stepwise_opened : ∃ dev k', v4l2Open (cameraBench TYPE_STEPWISE) (cameraKernel TYPE_STEPWISE) (videoName 0)
      = (some dev, k') ∧ dev.formats = (camera TYPE_STEPWISE).map FmtEnum.given := by
  have hiff := (formats_enumerated_iff (camera_defined (.inr (.inl rfl))) (cameraBench TYPE_STEPWISE)).2
    (cameraKernel TYPE_STEPWISE) (videoName 0) _ _ rfl (camera_openable TYPE_STEPWISE)
  refine hiff.mpr ⟨⟨rfl, ⟨rfl, ⟨rfl, trivial⟩, trivial⟩, trivial⟩, ?_⟩
  simp [camera, FmtEnum.Stepped, FrmSizeEnum.Stepped, TYPE_STEPWISE, TYPE_CONTINUOUS]

/-- **With a continuous interval it is rejected.** -/
theorem continuous_rejected : (∀ e ∈ camera TYPE_CONTINUOUS, e.Defined) ∧
    (v4l2EnumFormats (cameraBench TYPE_CONTINUOUS) 5 (camera TYPE_CONTINUOUS) (cameraKernel TYPE_CONTINUOUS) []).1
      = Errno.EINVAL.neg ∧
    (v4l2Open (cameraBench TYPE_CONTINUOUS) (cameraKernel TYPE_CONTINUOUS) (videoName 0)).1.isNone = true :=
  ⟨camera_defined (.inr (.inr rfl)), by decide, by decide⟩

end Uvcd
