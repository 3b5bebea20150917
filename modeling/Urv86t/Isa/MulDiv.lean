import Urv86t.Isa.Encoding
import Urv86t.Shared.WideProduct

set_option autoImplicit false

namespace Rv32

open WideProduct

def MulOp.exec : MulOp → Word → Word → Word
  | .mul, a, b => low 32 a.toInt b.toInt
  | .mulh, a, b => high 32 a.toInt b.toInt
  | .mulhsu, a, b => high 32 a.toInt b.toNat
  | .mulhu, a, b => high 32 a.toNat b.toNat
  -- -2^31 divided by -1 is 2^31, which is written as -2^31.
  | .div, a, b => if b = 0 then -1 else BitVec.ofInt 32 (a.toInt.tdiv b.toInt)
  | .divu, a, b => if b = 0 then -1 else BitVec.ofNat 32 (a.toNat / b.toNat)
  | .rem, a, b => if b = 0 then a else BitVec.ofInt 32 (a.toInt.tmod b.toInt)
  | .remu, a, b => if b = 0 then a else BitVec.ofNat 32 (a.toNat % b.toNat)

def MulOp.factors : MulOp → Word → Word → Int × Int
  | .mulhsu, a, b => (a.toInt, b.toNat)
  | .mulhu, a, b => (a.toNat, b.toNat)
  | _, a, b => (a.toInt, b.toInt)

theorem low_congr {x y x' y' : Int} (left : BitVec.ofInt 32 x = BitVec.ofInt 32 x')
    (right : BitVec.ofInt 32 y = BitVec.ofInt 32 y') : low 32 x y = low 32 x' y' := by
  rw [low_eq, low_eq, left, right]

theorem ofInt_toNat (a : Word) : BitVec.ofInt 32 a.toNat = BitVec.ofInt 32 a.toInt := by
  rw [BitVec.ofInt_natCast, BitVec.ofNat_toNat, BitVec.ofInt_toInt, BitVec.setWidth_eq]

theorem exec_mul (a b : Word) : MulOp.mul.exec a b = a * b := by
  rw [MulOp.exec, low_eq, BitVec.ofInt_toInt, BitVec.ofInt_toInt]

theorem exec_append_mul (op : MulOp) (upper : op ∈ [MulOp.mulh, .mulhsu, .mulhu]) (a b : Word) :
    op.exec a b ++ MulOp.mul.exec a b = product 32 (op.factors a b).1 (op.factors a b).2 := by
  rw [← high_append_low]
  simp only [List.mem_cons, List.not_mem_nil, or_false] at upper
  rcases upper with rfl | rfl | rfl
  · rfl
  · exact congrArg (_ ++ ·) (low_congr rfl (ofInt_toNat b).symm)
  · exact congrArg (_ ++ ·) (low_congr (ofInt_toNat a).symm (ofInt_toNat b).symm)

def sign (a : Word) : Int := if 0 ≤ a.toInt then 0 else 1

theorem toInt_eq_sub_sign (a : Word) : a.toInt = a.toNat - 2 ^ 32 * sign a := by
  have bound := a.isLt
  rw [sign, BitVec.toInt]
  split <;> split <;> omega

/-- What the upper half of the unsigned product has too much when `a` is read as signed. -/
def excess (a b : Word) : Word := if 0 ≤ a.toInt then 0 else b

theorem ofInt_sign_mul (a b : Word) : BitVec.ofInt 32 (sign a * b.toNat) = excess a b := by
  rw [sign, excess]
  split
  · simp
  · simp

theorem exec_mulh (a b : Word) :
    MulOp.mulh.exec a b = MulOp.mulhu.exec a b - (excess a b + excess b a) := by
  rw [← ofInt_sign_mul, ← ofInt_sign_mul, ← BitVec.ofInt_add]
  simp only [MulOp.exec, toInt_eq_sub_sign, high_sub]

theorem exec_mulhsu (a b : Word) : MulOp.mulhsu.exec a b = MulOp.mulhu.exec a b - excess a b := by
  have reading := high_sub (w := 32) a.toNat b.toNat (sign a) 0
  rw [← ofInt_sign_mul]
  simpa only [MulOp.exec, toInt_eq_sub_sign, mul_zero, sub_zero, zero_mul, add_zero] using reading

theorem eq_sub_iff (x y : Word) : x = x - y ↔ y = 0 := by bv_omega

theorem excess_eq_zero (a b : Word) : excess a b = 0 ↔ 0 ≤ a.toInt ∨ b = 0 := by
  rw [excess]
  split <;> simp [*]

theorem negative_iff (a : Word) : ¬0 ≤ a.toInt ↔ 2 ^ 31 ≤ a.toNat := by
  have bound := a.isLt
  rw [BitVec.toInt]
  split <;> omega

theorem excess_add_eq_zero (a b : Word) : excess a b + excess b a = 0 ↔
    (excess a b = 0 ∧ excess b a = 0) ∨ a = BitVec.intMin 32 ∧ b = BitVec.intMin 32 := by
  have minimum : BitVec.intMin 32 = 0x80000000#32 := rfl
  by_cases left : 0 ≤ a.toInt
  · have not_minimum : a ≠ BitVec.intMin 32 := by
      rintro rfl
      exact absurd left (by decide)
    simp [excess, left, not_minimum]
  by_cases right : 0 ≤ b.toInt
  · have not_minimum : b ≠ BitVec.intMin 32 := by
      rintro rfl
      exact absurd right (by decide)
    simp [excess, right, not_minimum]
  · rw [excess, excess, if_neg left, if_neg right, minimum]
    rw [negative_iff] at left right
    bv_omega

theorem sdiv_eq_ofInt (a b : Word) : a.sdiv b = BitVec.ofInt 32 (a.toInt.tdiv b.toInt) := by
  apply BitVec.eq_of_toInt_eq
  rw [BitVec.toInt_sdiv, BitVec.toInt_ofInt]

theorem srem_eq_ofInt (a b : Word) : a.srem b = BitVec.ofInt 32 (a.toInt.tmod b.toInt) := by
  rw [← BitVec.toInt_srem, BitVec.ofInt_toInt]

theorem udiv_eq_ofNat (a b : Word) : a / b = BitVec.ofNat 32 (a.toNat / b.toNat) := by
  rw [← BitVec.toNat_udiv, BitVec.ofNat_toNat, BitVec.setWidth_eq]

theorem umod_eq_ofNat (a b : Word) : a % b = BitVec.ofNat 32 (a.toNat % b.toNat) := by
  rw [← BitVec.toNat_umod, BitVec.ofNat_toNat, BitVec.setWidth_eq]

theorem div_rem (a b : Word) : MulOp.div.exec a b * b + MulOp.rem.exec a b = a := by
  by_cases zero : b = 0
  · simp [MulOp.exec, zero]
  · have whole := congrArg (BitVec.ofInt 32) (Int.tdiv_mul_add_tmod a.toInt b.toInt)
    rw [BitVec.ofInt_add, BitVec.ofInt_mul, BitVec.ofInt_toInt, BitVec.ofInt_toInt] at whole
    simpa only [MulOp.exec, if_neg zero] using whole

theorem divu_remu (a b : Word) : MulOp.divu.exec a b * b + MulOp.remu.exec a b = a := by
  by_cases zero : b = 0
  · simp [MulOp.exec, zero]
  · have whole := congrArg (BitVec.ofNat 32) (Nat.div_add_mod' a.toNat b.toNat)
    rw [BitVec.ofNat_add, BitVec.ofNat_mul, BitVec.ofNat_toNat, BitVec.ofNat_toNat, BitVec.setWidth_eq,
      BitVec.setWidth_eq] at whole
    simpa only [MulOp.exec, if_neg zero] using whole

end Rv32
