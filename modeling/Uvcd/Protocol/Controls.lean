import Mathlib.Data.Nat.Bits
import Uvcd.Lib.Ascending
import Uvcd.Model.Control

/-!
# `Protocol.Controls` — streaming controls and the entries of a format table

What a control says is an **entry** of the table: a format, one of its frames and one of the frame's
intervals. `Describes` ties the fields of a control to an entry; `uvcFillStreamingControl` and
`Selection.apply` both produce controls that describe one, and a selection made from a control that describes
an entry is that entry again (`Describes.select`).
-/

namespace Uvcd

open Ascending

/-! ## The bytes of a control -/

/-- Bits that do not overlap are added. -/
theorem or_shiftLeft {a i : Nat} (b : Nat) (h : a < 2 ^ i) : a ||| b <<< i = a + b * 2 ^ i := by
  rw [Nat.or_comm, ← Nat.shiftLeft_add_eq_or_of_lt h, Nat.shiftLeft_eq, Nat.add_comm]

theorem join16 (x : UInt16) : x.toUInt8.toUInt16 ||| (x >>> 8).toUInt8.toUInt16 <<< 8 = x := by
  have hlt : x.toNat < 65536 := x.toNat_lt
  have hb : (x.toNat / 256 % 256) <<< 8 % 65536 = (x.toNat / 256 % 256) <<< 8 := by
    rw [Nat.shiftLeft_eq]; omega
  apply UInt16.toNat_inj.mp
  simp only [UInt16.toNat_or, UInt8.toNat_toUInt16, UInt16.toNat_toUInt8, UInt16.toNat_shiftLeft,
    UInt16.toNat_shiftRight, Nat.shiftRight_eq_div_pow, UInt16.toNat_ofNat, Nat.reduceMod, Nat.reducePow]
  rw [hb, or_shiftLeft _ (by omega)]
  omega

theorem join32 (x : UInt32) :
    x.toUInt8.toUInt32 ||| (x >>> 8).toUInt8.toUInt32 <<< 8 ||| (x >>> 16).toUInt8.toUInt32 <<< 16
      ||| (x >>> 24).toUInt8.toUInt32 <<< 24 = x := by
  have hlt : x.toNat < 4294967296 := x.toNat_lt
  -- no byte is shifted out of the word
  have hb (b i : Nat) (hb : b < 256) (hi : i ≤ 24) : b <<< i % 4294967296 = b <<< i := by
    have hp : b * 2 ^ i ≤ b * 2 ^ 24 := Nat.mul_le_mul_left _ (Nat.pow_le_pow_right (by omega) hi)
    rw [Nat.shiftLeft_eq]
    omega
  have h0 : x.toNat % 256 < 2 ^ 8 := by omega
  have h1 : x.toNat % 256 + x.toNat / 256 % 256 * 2 ^ 8 < 2 ^ 16 := by omega
  have h2 : x.toNat % 256 + x.toNat / 256 % 256 * 2 ^ 8 + x.toNat / 65536 % 256 * 2 ^ 16 < 2 ^ 24 := by
    omega
  apply UInt32.toNat_inj.mp
  simp only [UInt32.toNat_or, UInt8.toNat_toUInt32, UInt32.toNat_toUInt8, UInt32.toNat_shiftLeft,
    UInt32.toNat_shiftRight, Nat.shiftRight_eq_div_pow, UInt32.toNat_ofNat, Nat.reduceMod, Nat.reducePow]
  rw [hb _ 8 (by omega) (by omega), hb _ 16 (by omega) (by omega), hb _ 24 (by omega) (by omega),
    or_shiftLeft _ h0, or_shiftLeft _ h1, or_shiftLeft _ h2]
  omega

namespace StreamingControl

/-- A control is read back from the start of any bytes that begin with it. -/
theorem ofBytes_toBytes (c : StreamingControl) (rest : List UInt8) : ofBytes (c.toBytes ++ rest) = c := by
  have h16 (x : UInt16) : x.toUInt8.toUInt16 ||| (x >>> 8).toUInt8.toUInt16 <<< 8 = x := join16 x
  have h32 (x : UInt32) := join32 x
  cases c
  simp only [ofBytes, toBytes, le16, le32, get16, get32, byteAt, List.cons_append, List.nil_append,
    List.getD_cons_succ, List.getD_cons_zero, h16, h32]

end StreamingControl

/-! ## Well-formed tables -/

/-- The intervals of a frame, up to the `0` that ends them. -/
def FrameInfo.listed (f : FrameInfo) : List Nat := (f.intervals.takeWhile (· ≠ 0)).map (·.toNat)

/-- The frames of a format, up to the one of width `0` that ends them. -/
def FormatInfo.listed (f : FormatInfo) : List FrameInfo := f.frames.takeWhile (·.width ≠ 0)

/-- One to seven strictly ascending intervals, ended by `0`. -/
structure FrameInfo.WellFormed (f : FrameInfo) : Prop where
  size : f.intervals.length = 8
  ended : 0 ∈ f.intervals
  nonempty : f.listed ≠ []
  ascending : f.listed.Pairwise (· < ·)

/-- A YUYV format of 1 to 255 frames, ended by width `0`. -/
structure FormatInfo.WellFormed (f : FormatInfo) : Prop where
  fcc : f.fcc = PixFormat.YUYV
  ended : ∃ e ∈ f.frames, e.width = 0
  nonempty : 1 ≤ f.listed.length
  size : f.listed.length ≤ 255
  frames : ∀ e ∈ f.listed, e.WellFormed

structure TableWellFormed (formats : List FormatInfo) : Prop where
  nonempty : 1 ≤ formats.length
  size : formats.length ≤ 255
  formats : ∀ f ∈ formats, f.WellFormed

theorem uvcFormats_wellFormed : TableWellFormed uvcFormats where
  nonempty := by decide
  size := by decide
  formats f hf := by
    rw [List.mem_singleton.mp hf]
    refine ⟨rfl, ⟨_, List.mem_cons_of_mem _ List.mem_cons_self, rfl⟩, by decide, by decide, ?_⟩
    intro e he
    rw [show FormatInfo.listed ⟨PixFormat.YUYV, uvcFramesYuyv⟩ = [⟨320, 240, [333333, 0, 0, 0, 0, 0, 0, 0]⟩]
      by decide] at he
    rw [List.mem_singleton.mp he]
    exact ⟨rfl, by decide, by decide, by decide⟩

/-! ## The interval a `DATA` event picks -/

/-- The smallest listed interval not below the one wanted, or the largest if there is none. -/
def FrameInfo.Picks (f : FrameInfo) (want interval : UInt32) : Prop :=
  IsLeast {i | i ∈ f.listed ∧ want.toNat ≤ i} interval.toNat ∨
    (∀ i ∈ f.listed, i < want.toNat) ∧ IsGreatest {i | i ∈ f.listed} interval.toNat

/-- The look-ahead of the scan stops before the `0` that ends the array. -/
theorem scanInterval_eq {want i : UInt32} {is : List UInt32} (hended : 0 ∈ i :: is) (hi : i ≠ 0) :
    (scanInterval want (i :: is)).toNat
      = roundUp want.toNat i.toNat ((is.takeWhile (· ≠ 0)).map (·.toNat)) := by
  induction is generalizing i with
  | nil => exact absurd (List.mem_singleton.mp hended).symm hi
  | cons j js ih =>
      rw [scanInterval]
      by_cases hj : j = 0
      · simp [hj, roundUp]
      · have hrest : 0 ∈ j :: js := (List.mem_cons.mp hended).resolve_left (Ne.symm hi)
        rw [List.takeWhile_cons_of_pos (by simpa using hj), List.map_cons, roundUp]
        simp only [hj, ne_eq, not_false_eq_true, and_true, UInt32.lt_iff_toNat_lt]
        split
        · exact ih hrest hj
        · rfl

theorem FrameInfo.WellFormed.scan {f : FrameInfo} (hf : f.WellFormed) (want : UInt32) :
    ∃ x xs, f.listed = x :: xs ∧ (scanInterval want f.intervals).toNat = roundUp want.toNat x xs := by
  have hended := hf.ended
  have hne := hf.nonempty
  unfold FrameInfo.listed at hne ⊢
  cases hs : f.intervals with
  | nil => rw [hs] at hended; cases hended
  | cons i is =>
      rw [hs] at hended hne
      by_cases hi : i = 0
      · rw [List.takeWhile_cons_of_neg (by simpa using hi)] at hne
        exact absurd rfl hne
      · rw [List.takeWhile_cons_of_pos (by simpa using hi), List.map_cons]
        exact ⟨_, _, rfl, scanInterval_eq hended hi⟩

theorem FrameInfo.WellFormed.picks {f : FrameInfo} (hf : f.WellFormed) (want : UInt32) :
    f.Picks want (scanInterval want f.intervals) := by
  obtain ⟨x, xs, hl, hscan⟩ := hf.scan want
  have hasc := hf.ascending
  unfold FrameInfo.Picks
  rw [hscan, hl]
  rw [hl] at hasc
  by_cases hex : ∃ y ∈ x :: xs, want.toNat ≤ y
  · exact .inl (roundUp_isLeast hasc hex)
  · have hno : ∀ y ∈ x :: xs, y < want.toNat := fun y hy => by
      by_contra hle
      exact hex ⟨y, hy, by omega⟩
    exact .inr ⟨hno, roundUp_isGreatest hasc hno⟩

theorem FrameInfo.Picks.mem {f : FrameInfo} {want interval : UInt32} (h : f.Picks want interval) :
    interval.toNat ∈ f.listed := by
  rcases h with h | ⟨-, h⟩
  · exact h.1.1
  · exact h.1

/-- The first interval of the array is listed. -/
theorem FrameInfo.WellFormed.headD_mem {f : FrameInfo} (hf : f.WellFormed) :
    (f.intervals.headD 0).toNat ∈ f.listed := by
  have hne := hf.nonempty
  unfold FrameInfo.listed at hne ⊢
  cases hs : f.intervals with
  | nil => rw [hs] at hne; exact absurd rfl hne
  | cons i is =>
      rw [hs] at hne
      by_cases hi : i = 0
      · rw [List.takeWhile_cons_of_neg (by simpa using hi)] at hne
        exact absurd rfl hne
      · rw [List.takeWhile_cons_of_pos (by simpa using hi), List.map_cons]
        exact List.mem_cons_self

/-- A listed interval is picked when it is wanted. -/
theorem FrameInfo.WellFormed.scan_listed {f : FrameInfo} (hf : f.WellFormed) {want : UInt32}
    (hw : want.toNat ∈ f.listed) : scanInterval want f.intervals = want := by
  obtain ⟨x, xs, hl, hscan⟩ := hf.scan want
  have hasc := hf.ascending
  rw [hl] at hw hasc
  exact UInt32.toNat_inj.mp (hscan.trans (roundUp_of_mem hasc hw))

/-! ## Entries -/

/-- The control describes the entry `frame` of `format`. -/
structure Describes (formats : List FormatInfo) (c : StreamingControl) (format : FormatInfo)
    (frame : FrameInfo) : Prop where
  format_pos : 1 ≤ c.bFormatIndex.toNat
  format_at : formats[c.bFormatIndex.toNat - 1]? = some format
  frame_pos : 1 ≤ c.bFrameIndex.toNat
  frame_at : format.listed[c.bFrameIndex.toNat - 1]? = some frame
  size : c.dwMaxVideoFrameSize = frame.width * frame.height * 2
  interval : c.dwFrameInterval.toNat ∈ frame.listed

theorem clamp_bounds (val : Nat) {min max : Nat} (h : min ≤ max) :
    min ≤ clamp val min max ∧ clamp val min max ≤ max := by
  unfold clamp
  dsimp only
  split <;> split <;> omega

theorem clamp_of_mem {val max : Nat} (h : 1 ≤ val) (h' : val ≤ max) : clamp val 1 max = val := by
  unfold clamp
  dsimp only
  split <;> split <;> omega

/-- The frames that are listed are those at the start of the array. -/
theorem FormatInfo.listed_getElem? (f : FormatInfo) {i : Nat} (hi : i < f.listed.length) :
    f.listed[i]? = some (f.frames.getD i FrameInfo.zero) := by
  have hpre : f.listed <+: f.frames := List.takeWhile_prefix _
  obtain ⟨rest, hrest⟩ := hpre
  rw [List.getD_eq_getElem?_getD, ← hrest, List.getElem?_append_left hi, List.getElem?_eq_getElem hi]
  rfl

theorem FormatInfo.WellFormed.frameAt {f : FormatInfo} (hf : f.WellFormed) {i : Nat}
    (hi : i < f.listed.length) : (f.frames.getD i FrameInfo.zero).WellFormed :=
  hf.frames _ (List.mem_of_getElem? (f.listed_getElem? hi))

variable {formats : List FormatInfo} {format : FormatInfo} {frame : FrameInfo} {c t : StreamingControl}

theorem formats_getElem? {i : Nat} (hi : i < formats.length) :
    formats[i]? = some (formats.getD i FormatInfo.zero) := by
  rw [List.getD_eq_getElem?_getD, List.getElem?_eq_getElem hi]
  rfl

theorem TableWellFormed.formatAt (hf : TableWellFormed formats) {i : Nat} (hi : i < formats.length) :
    (formats.getD i FormatInfo.zero).WellFormed :=
  hf.formats _ (List.mem_of_getElem? (formats_getElem? hi))

theorem ofNat_index {n : Nat} (h : n ≤ 255) : (UInt8.ofNat n).toNat = n := by
  rw [UInt8.toNat_ofNat']; omega

/-- **What a `DATA` event selects** is an entry of the table, at the interval it is to pick. -/
theorem TableWellFormed.select (hf : TableWellFormed formats) (c t : StreamingControl) :
    Describes formats ((selectFormat formats c).apply t) (selectFormat formats c).format
        (selectFormat formats c).frame ∧
      (selectFormat formats c).frame.Picks c.dwFrameInterval
        ((selectFormat formats c).apply t).dwFrameInterval := by
  generalize hsel : selectFormat formats c = sel
  obtain ⟨hi, hi'⟩ := clamp_bounds c.bFormatIndex.toNat hf.nonempty
  have hidx : sel.iformat = clamp c.bFormatIndex.toNat 1 formats.length := by rw [← hsel]; rfl
  have hform : sel.format = formats.getD (sel.iformat - 1) FormatInfo.zero := by rw [← hsel]; rfl
  have hwf : sel.format.WellFormed := by
    rw [hform]
    exact hf.formatAt (by omega)
  obtain ⟨hj, hj'⟩ := clamp_bounds c.bFrameIndex.toNat hwf.nonempty
  have hjdx : sel.iframe = clamp c.bFrameIndex.toNat 1 sel.format.listed.length := by rw [← hsel]; rfl
  have hframe : sel.frame = sel.format.frames.getD (sel.iframe - 1) FrameInfo.zero := by rw [← hsel]; rfl
  have hfw : sel.frame.WellFormed := by
    rw [hframe]
    exact hwf.frameAt (by omega)
  have hpick : sel.frame.Picks c.dwFrameInterval (sel.apply t).dwFrameInterval := by
    have hint : sel.interval = scanInterval c.dwFrameInterval sel.frame.intervals := by rw [← hsel]; rfl
    show sel.frame.Picks c.dwFrameInterval sel.interval
    rw [hint]
    exact hfw.picks _
  -- the indices fit into their bytes
  have hsize := hf.size
  have hsize' := hwf.size
  have hi8 : (sel.apply t).bFormatIndex.toNat = sel.iformat := ofNat_index (by omega)
  have hj8 : (sel.apply t).bFrameIndex.toNat = sel.iframe := ofNat_index (by omega)
  refine ⟨{
    format_pos := by omega
    format_at := ?_
    frame_pos := by omega
    frame_at := ?_
    size := ?_
    interval := hpick.mem }, hpick⟩
  · rw [hi8, formats_getElem? (by omega), ← hform]
  · rw [hj8, FormatInfo.listed_getElem? _ (by omega), ← hframe]
  · show maxVideoFrameSize _ _ _ = _
    rw [maxVideoFrameSize, if_pos hwf.fcc]

/-- **The control filled in** for the first or the last entry describes it. -/
theorem TableWellFormed.fill (hf : TableWellFormed formats) (c : StreamingControl) {i : Int}
    (hi : i = 0 ∨ i = -1) :
    ∃ format frame, Describes formats (uvcFillStreamingControl formats c i i) format frame := by
  have hn := hf.nonempty
  have hsize := hf.size
  -- the index of the format: the first or the last
  obtain ⟨a, ha, halt⟩ : ∃ a : Nat, (if i < 0 then (formats.length : Int) + i else i) = a ∧
      a < formats.length := by
    rcases hi with rfl | rfl
    · exact ⟨0, rfl, by omega⟩
    · exact ⟨formats.length - 1, by rw [if_pos (by decide)]; omega, by omega⟩
  have hwf := hf.formatAt halt
  generalize hform : formats.getD a FormatInfo.zero = format at hwf
  have hm := hwf.nonempty
  have hsize' := hwf.size
  -- the index of the frame, likewise
  obtain ⟨b, hb, hblt⟩ : ∃ b : Nat, (if i < 0 then (format.listed.length : Int) + i else i) = b ∧
      b < format.listed.length := by
    rcases hi with rfl | rfl
    · exact ⟨0, rfl, by omega⟩
    · exact ⟨format.listed.length - 1, by rw [if_pos (by decide)]; omega, by omega⟩
  have hfw := hwf.frameAt hblt
  generalize hframe : format.frames.getD b FrameInfo.zero = frame at hfw
  have hlen : countFrames format.frames = format.listed.length := rfl
  have hfill : uvcFillStreamingControl formats c i i =
      { StreamingControl.zero with
        bmHint := 1
        bFormatIndex := UInt8.ofNat (a + 1)
        bFrameIndex := UInt8.ofNat (b + 1)
        dwFrameInterval := frame.intervals.headD 0
        dwMaxVideoFrameSize := maxVideoFrameSize format.fcc frame 0
        dwMaxPayloadTransferSize := 512
        bmFramingInfo := 3
        bPreferedVersion := 1
        bMaxVersion := 1 } := by
    unfold uvcFillStreamingControl
    simp only [ha, Int.toNat_natCast, hform, hlen, hb, hframe]
    rw [if_neg (by omega), if_neg (by omega)]
  -- neither index overflows its byte
  have hi8 : (UInt8.ofNat (a + 1)).toNat = a + 1 := ofNat_index (by omega)
  have hj8 : (UInt8.ofNat (b + 1)).toNat = b + 1 := ofNat_index (by omega)
  refine ⟨format, frame, ?_⟩
  rw [hfill]
  refine {
    format_pos := by dsimp only; omega
    format_at := ?_
    frame_pos := by dsimp only; omega
    frame_at := ?_
    size := ?_
    interval := hfw.headD_mem }
  · rw [hi8, Nat.add_sub_cancel, formats_getElem? halt, hform]
  · rw [hj8, Nat.add_sub_cancel, FormatInfo.listed_getElem? _ hblt, hframe]
  · show maxVideoFrameSize _ _ _ = _
    rw [maxVideoFrameSize, if_pos hwf.fcc]

/-! ## The fixpoint -/

/-- `t` with the entry that `c` describes. -/
def StreamingControl.adopt (t c : StreamingControl) : StreamingControl :=
  { t with
    bFormatIndex := c.bFormatIndex
    bFrameIndex := c.bFrameIndex
    dwMaxVideoFrameSize := c.dwMaxVideoFrameSize
    dwFrameInterval := c.dwFrameInterval }

/-- **A control that describes an entry selects that entry.** -/
theorem Describes.select (hf : TableWellFormed formats) (hd : Describes formats c format frame)
    (t : StreamingControl) : (selectFormat formats c).apply t = t.adopt c := by
  have hwf := hf.formats _ (List.mem_of_getElem? hd.format_at)
  have hfw := hwf.frames _ (List.mem_of_getElem? hd.frame_at)
  obtain ⟨hi, -⟩ := List.getElem?_eq_some_iff.mp hd.format_at
  obtain ⟨hj, -⟩ := List.getElem?_eq_some_iff.mp hd.frame_at
  have hi₁ := hd.format_pos
  have hj₁ := hd.frame_pos
  have hiclamp : clamp c.bFormatIndex.toNat 1 formats.length = c.bFormatIndex.toNat :=
    clamp_of_mem hi₁ (by omega)
  have hform : formats.getD (c.bFormatIndex.toNat - 1) FormatInfo.zero = format :=
    Option.some.inj ((formats_getElem? hi).symm.trans hd.format_at)
  have hjclamp : clamp c.bFrameIndex.toNat 1 (countFrames format.frames) = c.bFrameIndex.toNat :=
    clamp_of_mem hj₁ (by show _ ≤ format.listed.length; omega)
  have hframe : format.frames.getD (c.bFrameIndex.toNat - 1) FrameInfo.zero = frame :=
    Option.some.inj ((format.listed_getElem? hj).symm.trans hd.frame_at)
  have hsel : selectFormat formats c =
      ⟨c.bFormatIndex.toNat, c.bFrameIndex.toNat, format, frame, c.dwFrameInterval⟩ := by
    simp only [selectFormat, hiclamp, hform, hjclamp, hframe, hfw.scan_listed hd.interval]
  rw [hsel, Selection.apply, StreamingControl.adopt]
  simp only [UInt8.ofNat_toNat, maxVideoFrameSize, hwf.fcc, if_true, hd.size]

/-- Controls that differ in their entry only stay so when one of them is given another entry. -/
theorem adopt_apply (sel : Selection) (h : t.adopt c = c) : t.adopt (sel.apply c) = sel.apply c := by
  have heq : t.adopt (sel.apply (t.adopt c)) = sel.apply (t.adopt c) := rfl
  rwa [h] at heq

end Uvcd
