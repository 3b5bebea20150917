import Mathlib.Tactic.Positivity
import Mathlib.Tactic.Ring
import Mathlib.Tactic.Zify

set_option autoImplicit false

namespace WideProduct

variable {w : Nat}

def product (w : Nat) (x y : Int) : BitVec (w + w) := BitVec.ofInt (w + w) (x * y)

def high (w : Nat) (x y : Int) : BitVec w := (product w x y).extractLsb' w w

def low (w : Nat) (x y : Int) : BitVec w := (product w x y).extractLsb' 0 w

theorem high_append_low (x y : Int) : high w x y ++ low w x y = product w x y := by
  rw [high, low, BitVec.extractLsb'_append_extractLsb'_eq_extractLsb' (Nat.zero_add w).symm]
  exact BitVec.extractLsb'_eq_self

theorem emod_mul_ediv (q m n : Int) (positive : 0 < m) : q % (m * n) / m = q / m % n := by
  have split : q % (m * n) = q - m * (n * (q / m / n)) := by
    rw [Int.emod_def, ← Int.ediv_ediv_of_nonneg (by omega), mul_assoc]
  rw [split, Int.sub_mul_ediv_left _ _ (by omega), Int.emod_def]

theorem extractHigh_ofInt (q : Int) :
    (BitVec.ofInt (w + w) q).extractLsb' w w = BitVec.ofInt w (q / 2 ^ w) := by
  apply BitVec.eq_of_toNat_eq
  have positive : (0 : Int) < 2 ^ w := Int.pow_pos (by decide)
  have bound : 0 ≤ q % (2 ^ w * 2 ^ w) := Int.emod_nonneg q (by positivity)
  have halves := emod_mul_ediv q (2 ^ w) (2 ^ w) positive
  rw [BitVec.extractLsb'_toNat, BitVec.toNat_ofInt, BitVec.toNat_ofInt, Nat.shiftRight_eq_div_pow]
  zify
  rw [pow_add, Int.toNat_of_nonneg bound, halves, Int.emod_emod_of_dvd _ (dvd_refl _),
    Int.toNat_of_nonneg (Int.emod_nonneg _ (by positivity))]

theorem extractLow_ofInt (q : Int) : (BitVec.ofInt (w + w) q).extractLsb' 0 w = BitVec.ofInt w q := by
  apply BitVec.eq_of_toNat_eq
  have positive : (0 : Int) < 2 ^ w := Int.pow_pos (by decide)
  have bound : 0 ≤ q % (2 ^ w * 2 ^ w) := Int.emod_nonneg q (by positivity)
  rw [BitVec.extractLsb'_toNat, BitVec.toNat_ofInt, BitVec.toNat_ofInt, Nat.shiftRight_zero]
  zify
  rw [pow_add, Int.toNat_of_nonneg bound, Int.emod_emod_of_dvd _ (dvd_mul_right _ _),
    Int.toNat_of_nonneg (Int.emod_nonneg _ (by positivity))]

theorem high_eq (x y : Int) : high w x y = BitVec.ofInt w (x * y / 2 ^ w) := extractHigh_ofInt (x * y)

theorem low_eq (x y : Int) : low w x y = BitVec.ofInt w x * BitVec.ofInt w y :=
  (extractLow_ofInt (x * y)).trans (BitVec.ofInt_mul x y)

theorem ofInt_pow (c : Int) : BitVec.ofInt w (2 ^ w * c) = 0#w := by
  apply BitVec.eq_of_toNat_eq
  rw [BitVec.toNat_ofInt]
  simp

theorem high_sub (x y s t : Int) :
    high w (x - 2 ^ w * s) (y - 2 ^ w * t) = high w x y - BitVec.ofInt w (s * y + t * x) := by
  have positive : (0 : Int) < 2 ^ w := Int.pow_pos (by decide)
  have expanded : (x - 2 ^ w * s) * (y - 2 ^ w * t) =
      x * y + 2 ^ w * (-(s * y + t * x) + 2 ^ w * (s * t)) := by
    ring
  rw [high_eq, high_eq, expanded, Int.add_mul_ediv_left _ _ (by omega), BitVec.ofInt_add, BitVec.ofInt_add,
    ofInt_pow, BitVec.ofInt_neg, BitVec.add_zero, BitVec.sub_eq_add_neg]

theorem product_setWidth (a b : BitVec w) :
    a.setWidth (w + w) * b.setWidth (w + w) = product w a.toNat b.toNat := by
  rw [product, BitVec.ofInt_mul, BitVec.ofInt_natCast, BitVec.ofInt_natCast, BitVec.ofNat_toNat,
    BitVec.ofNat_toNat]

theorem setWidth_sshiftRight (p : BitVec (w + w)) : (p.sshiftRight w).setWidth w = p.extractLsb' w w := by
  apply BitVec.eq_of_getLsbD_eq
  intro i inside
  have bit : w + i < w + w := by omega
  simp [BitVec.getLsbD_sshiftRight, inside, bit, show ¬w + w ≤ i by omega]

end WideProduct
