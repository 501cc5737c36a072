import Mathlib.Algebra.Order.Floor.Div
import Mathlib.Tactic.Ring

/-!
# Rounding in 32 bits

Rounding up adds before it divides, and the addition may wrap around. A result
that is not `0` is exact: the sum can only wrap to less than the divisor.
-/

namespace Rounding

/-- The next multiple of `a`, in exact arithmetic. -/
def roundUp (n a : Nat) : Nat := (n + (a - 1)) / a * a

theorem le_roundUp {n a : Nat} (ha : 0 < a) : n ≤ roundUp n a := by
  unfold roundUp
  have hdiv := Nat.div_add_mod (n + (a - 1)) a
  have hmod := Nat.mod_lt (n + (a - 1)) ha
  rw [Nat.mul_comm] at hdiv
  omega

theorem roundUp_lt {n a : Nat} (ha : 0 < a) : roundUp n a < n + a := by
  unfold roundUp
  have hle := Nat.div_mul_le_self (n + (a - 1)) a
  omega

theorem dvd_roundUp (n a : Nat) : a ∣ roundUp n a := Nat.dvd_mul_left a _

theorem roundUp_of_dvd {n a : Nat} (ha : 0 < a) (h : a ∣ n) : roundUp n a = n := by
  apply Nat.le_antisymm
  · obtain ⟨k, rfl⟩ := h
    have hlt := roundUp_lt (n := a * k) ha
    obtain ⟨j, hj⟩ := dvd_roundUp (a * k) a
    rw [hj] at hlt ⊢
    have hjk : j < k + 1 := Nat.lt_of_mul_lt_mul_left (a := a) (by rw [Nat.mul_add]; omega)
    exact Nat.mul_le_mul_left a (by omega)
  · exact le_roundUp ha

section
variable {x a n d : UInt32}

/-- Rounding up to a multiple is exact unless it gives `0`. -/
theorem alignUp_of_ne_zero (ha : 0 < a.toNat) (h : (x + (a - 1)) / a * a ≠ 0) :
    ((x + (a - 1)) / a * a).toNat = roundUp x.toNat a.toNat := by
  have hsub : (a - 1).toNat = a.toNat - 1 := by
    rw [UInt32.toNat_sub_of_le _ _ (by rw [UInt32.le_iff_toNat_le]; exact ha)]
    rfl
  have hx := x.toNat_lt
  have halt := a.toNat_lt
  by_cases hwrap : x.toNat + (a.toNat - 1) < 2 ^ 32
  · have hsum : (x + (a - 1)).toNat = x.toNat + (a.toNat - 1) := by
      rw [UInt32.toNat_add, hsub, Nat.mod_eq_of_lt hwrap]
    have hle := Nat.div_mul_le_self (x.toNat + (a.toNat - 1)) a.toNat
    rw [UInt32.toNat_mul, UInt32.toNat_div, hsum, Nat.mod_eq_of_lt (by omega)]
    rfl
  · -- the sum wraps to less than `a`, and the quotient is `0`
    exfalso
    apply h
    have hsum : (x + (a - 1)).toNat < a.toNat := by
      rw [UInt32.toNat_add, hsub, Nat.mod_eq_sub_mod (by omega), Nat.mod_eq_of_lt (by omega)]
      omega
    have hdiv : (x + (a - 1)) / a = 0 := by
      rw [← UInt32.toNat_inj, UInt32.toNat_div, Nat.div_eq_of_lt hsum]
      rfl
    rw [hdiv, UInt32.zero_mul]

/-- Rounding a quotient up is exact unless it gives `0`. -/
theorem divRoundUp_of_ne_zero (hd : 0 < d.toNat) (h : (n + d - 1) / d ≠ 0) :
    ((n + d - 1) / d).toNat = n.toNat ⌈/⌉ d.toNat := by
  have hn := n.toNat_lt
  have hdlt := d.toNat_lt
  have hassoc : n + d - 1 = n + (d - 1) := by
    rw [UInt32.sub_eq_add_neg, UInt32.sub_eq_add_neg, UInt32.add_assoc]
  have hsub : (d - 1).toNat = d.toNat - 1 := by
    rw [UInt32.toNat_sub_of_le _ _ (by rw [UInt32.le_iff_toNat_le]; exact hd)]
    rfl
  rw [Nat.ceilDiv_eq_add_pred_div, UInt32.toNat_div, hassoc]
  by_cases hwrap : n.toNat + (d.toNat - 1) < 2 ^ 32
  · rw [UInt32.toNat_add, hsub, Nat.mod_eq_of_lt hwrap]
    congr 1
    omega
  · exfalso
    apply h
    have hsum : (n + (d - 1)).toNat < d.toNat := by
      rw [UInt32.toNat_add, hsub, Nat.mod_eq_sub_mod (by omega), Nat.mod_eq_of_lt (by omega)]
      omega
    rw [hassoc, ← UInt32.toNat_inj, UInt32.toNat_div, Nat.div_eq_of_lt hsum]
    rfl

/-! ## Signed words -/

/-- A word below `2 ^ 31` keeps its value as a signed one. -/
theorem toInt_toInt32 (h : x.toNat < 2 ^ 31) : x.toInt32.toInt = x.toNat := by
  show x.toBitVec.toInt = x.toBitVec.toNat
  rw [BitVec.toInt_eq_toNat_cond, if_pos]
  show 2 * x.toNat < 2 ^ 32
  omega

/-- A word whose signed value is not negative is below `2 ^ 31`. -/
theorem toNat_of_toInt32 {k : Nat} (h : x.toInt32.toInt = k) : x.toNat = k ∧ k < 2 ^ 31 := by
  replace h : x.toBitVec.toInt = k := h
  have hx := x.toNat_lt
  rw [BitVec.toInt_eq_toNat_cond] at h
  split at h
  · next hlt =>
      replace hlt : 2 * x.toNat < 2 ^ 32 := hlt
      replace h : (x.toNat : Int) = k := h
      omega
  · replace h : (x.toNat : Int) - (2 ^ 32 : Nat) = k := h
    omega

/-- Rounding a signed word up is exact unless the sum leaves the signed range. -/
theorem toInt_alignUp {y b : Int32} {k c : Nat} (hy : y.toInt = k) (hb : b.toInt = c)
    (hc : 0 < c) (h : k + (c - 1) < 2 ^ 31) :
    ((y + (b - 1)) / b * b).toInt = roundUp k c := by
  have hsub : (b - 1).toInt = ((c - 1 : Nat) : Int) := by
    rw [Int32.toInt_sub, hb, show (1 : Int32).toInt = 1 by decide, Int.bmod_eq_of_le]
      <;> omega
  have hsum : (y + (b - 1)).toInt = ((k + (c - 1) : Nat) : Int) := by
    rw [Int32.toInt_add, hy, hsub, Int.bmod_eq_of_le] <;> omega
  have hdiv : ((y + (b - 1)) / b).toInt = (((k + (c - 1)) / c : Nat) : Int) := by
    rw [Int32.toInt_div_of_ne_right, hsum, hb, ← Int.ofNat_tdiv]
    rintro rfl
    rw [show (-1 : Int32).toInt = -1 by decide] at hb
    omega
  have hle := Nat.div_mul_le_self (k + (c - 1)) c
  rw [Int32.toInt_mul, hdiv, hb, ← Int.natCast_mul, Int.bmod_eq_of_le]
  · rfl
  · omega
  · omega

/-! ## Bit masks -/

/-- Clearing the low bits of a word rounds it down. -/
theorem toNat_and_not {w : Nat} (x : BitVec w) (k : Nat) :
    (x &&& ~~~BitVec.ofNat w (2 ^ k - 1)).toNat = x.toNat / 2 ^ k * 2 ^ k := by
  have hshift : x &&& ~~~BitVec.ofNat w (2 ^ k - 1) = (x >>> k) <<< k := by
    ext i hi
    rw [BitVec.getElem_and, BitVec.getElem_not, ← BitVec.getLsbD_eq_getElem hi,
      ← BitVec.getLsbD_eq_getElem hi, BitVec.getLsbD_ofNat, Nat.testBit_two_pow_sub_one,
      BitVec.getElem_shiftLeft]
    by_cases hik : i < k
    · simp [hi, hik]
    · have hki : k + (i - k) = i := by omega
      simp [hik, hki]
  have hle := Nat.div_mul_le_self x.toNat (2 ^ k)
  have hx := x.isLt
  rw [hshift, BitVec.toNat_shiftLeft, BitVec.toNat_ushiftRight, Nat.shiftRight_eq_div_pow,
    Nat.shiftLeft_eq, Nat.mod_eq_of_lt (by omega)]

/-- A non-negative signed word is rounded down the same way. -/
theorem toInt_and_not {y : Int32} {n : Nat} (hy : y.toInt = n) (k : Nat) :
    (y &&& ~~~Int32.ofBitVec (BitVec.ofNat 32 (2 ^ k - 1))).toInt = (n / 2 ^ k * 2 ^ k : Nat) := by
  have hn : y.toBitVec.toNat = n := (toNat_of_toInt32 (x := y.toUInt32) hy).1
  have hmask := toNat_and_not y.toBitVec k
  rw [hn] at hmask
  have hlt := y.toInt_lt
  have hle := Nat.div_mul_le_self n (2 ^ k)
  refine (toInt_toInt32 (x := (y &&& ~~~Int32.ofBitVec (BitVec.ofNat 32 (2 ^ k - 1))).toUInt32)
    ?_).trans (congrArg _ hmask)
  show (y.toBitVec &&& ~~~BitVec.ofNat 32 (2 ^ k - 1)).toNat < _
  omega

end

end Rounding
