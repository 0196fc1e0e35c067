import Mathlib.Algebra.Group.Nat.Defs

/-!
# `Lib.Framing` — little-endian numbers, and records of one size in a stream

`Carries size decode bs as` says that the stream `bs` is a sequence of records of `size` elements each and
that they decode to `as`. It is closed under taking whole records off the front and putting them at the
end, which is all a reader and a writer of records do; the number of records is the length of the stream
divided by `size`.

Nothing here names a particular program.
-/

namespace Framing

/-! ## Little-endian numbers -/

/-- The low `n` bytes of a number, the least significant first. -/
def leBytes : Nat → Nat → List UInt8
  | 0, _ => []
  | n + 1, v => UInt8.ofNat v :: leBytes n (v / 256)

/-- The number little-endian bytes spell. -/
def leValue : List UInt8 → Nat
  | [] => 0
  | b :: bs => b.toNat + 256 * leValue bs

@[simp] theorem leBytes_length (n v : Nat) : (leBytes n v).length = n := by
  induction n generalizing v with
  | zero => rfl
  | succ n ih => rw [leBytes, List.length_cons, ih]

theorem leValue_leBytes (n v : Nat) : leValue (leBytes n v) = v % 256 ^ n := by
  induction n generalizing v with
  | zero => rw [leBytes, leValue, Nat.pow_zero, Nat.mod_one]
  | succ n ih =>
      have hbyte : (UInt8.ofNat v).toNat = v % 256 := UInt8.toNat_ofNat'
      rw [leBytes, leValue, ih, hbyte, Nat.pow_succ, Nat.mul_comm (256 ^ n), Nat.mod_mul]

/-- A number that fits is read back. -/
theorem leValue_of_lt {n v : Nat} (h : v < 2 ^ (8 * n)) : leValue (leBytes n v) = v := by
  have hpow : (256 : Nat) ^ n = 2 ^ (8 * n) := by rw [Nat.pow_mul]
  rw [leValue_leBytes, hpow, Nat.mod_eq_of_lt h]

/-! ## Records -/

variable {α β : Type}

inductive Carries (size : Nat) (decode : List β → α) : List β → List α → Prop
  | nil : Carries size decode [] []
  | cons {r bs : List β} {as : List α} (hlen : r.length = size) (h : Carries size decode bs as) :
      Carries size decode (r ++ bs) (decode r :: as)

namespace Carries

variable {size : Nat} {decode : List β → α} {bs bs' r : List β} {as as' : List α} {a : α}

theorem length (h : Carries size decode bs as) : bs.length = as.length * size := by
  induction h with
  | nil => simp
  | cons hlen _ ih => rw [List.length_append, hlen, ih, List.length_cons, Nat.succ_mul, Nat.add_comm]

theorem append (h : Carries size decode bs as) (h' : Carries size decode bs' as') :
    Carries size decode (bs ++ bs') (as ++ as') := by
  induction h with
  | nil => exact h'
  | cons hlen _ ih => rw [List.append_assoc, List.cons_append]; exact .cons hlen ih

/-- A record put at the end. -/
theorem snoc (h : Carries size decode bs as) (hlen : r.length = size) :
    Carries size decode (bs ++ r) (as ++ [decode r]) := by
  have hr : Carries size decode (r ++ []) [decode r] := .cons hlen .nil
  rw [List.append_nil] at hr
  exact h.append hr

/-- The record at the front. -/
theorem head (h : Carries size decode bs (a :: as)) :
    size ≤ bs.length ∧ decode (bs.take size) = a ∧ Carries size decode (bs.drop size) as := by
  cases h with
  | cons hlen h =>
      rw [List.take_left' hlen, List.drop_left' hlen, List.length_append, hlen]
      exact ⟨Nat.le_add_right _ _, rfl, h⟩

/-- `k` records' worth of elements is `k` records. -/
theorem take (h : Carries size decode bs as) (k : Nat) :
    Carries size decode (bs.take (k * size)) (as.take k) ∧
      Carries size decode (bs.drop (k * size)) (as.drop k) := by
  induction k generalizing bs as with
  | zero => simpa using ⟨Carries.nil, h⟩
  | succ k ih =>
      cases h with
      | nil => simpa using Carries.nil
      | cons hlen h =>
          rename_i r bs as
          have hsize : (k + 1) * size = r.length + k * size := by rw [hlen, Nat.succ_mul, Nat.add_comm]
          obtain ⟨htake, hdrop⟩ := ih h
          rw [hsize, List.take_length_add_append, List.drop_length_add_append]
          exact ⟨.cons hlen htake, hdrop⟩

/-- The number of records. -/
theorem count (h : Carries size decode bs as) (hpos : 0 < size) : bs.length / size = as.length := by
  rw [h.length, Nat.mul_div_cancel _ hpos]

end Carries

end Framing
