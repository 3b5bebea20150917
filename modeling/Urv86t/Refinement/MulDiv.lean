import Urv86t.Decoder.Encoded
import Urv86t.Emulator.Dispatch
import Urv86t.Isa.MulDiv

set_option autoImplicit false

namespace Urv86t

open Rv32 WideProduct

def hostResult : MulOp → Word → Word → Option Word
  | .mul, a, b => some (a * b)
  | .mulh, a, b | .mulhsu, a, b | .mulhu, a, b => some (high 32 a.toNat b.toNat)
  | .div, a, b => if b = 0 ∨ a = BitVec.intMin 32 ∧ b = -1 then none else some (a.sdiv b)
  | .divu, a, b => if b = 0 then none else some (a / b)
  | .rem, a, b => if b = 0 ∨ a = BitVec.intMin 32 ∧ b = -1 then none else some (a.srem b)
  | .remu, a, b => if b = 0 then none else some (a % b)

section Arms

variable (float : HostFloat) (calls : HostCalls) (state : RvState) (op : MulOp) (rd rs1 rs2 : Reg)

theorem unsigned_high (a b : Word) :
    ((a.setWidth 64 * b.setWidth 64).sshiftRight 32).setWidth 32 = high 32 a.toNat b.toNat := by
  have product := product_setWidth a b
  have shifted := setWidth_sshiftRight (a.setWidth (32 + 32) * b.setWidth (32 + 32))
  rw [high, ← product]
  exact shifted

theorem dispatch_mulDiv :
    rvemuDispatchInsn float calls state (mulInsn op rd rs1 rs2) =
      match hostResult op (state.regs rs1) (state.regs rs2) with
      | some val => writeRd state (mulInsn op rd rs1 rs2) val
      | none => .error .divisionTrap := by
  have left : rvmemReg state (rs1.setWidth 8) = state.regs rs1 := by rw [rvmemReg, reg_roundTrip]
  have right : rvmemReg state (rs2.setWidth 8) = state.regs rs2 := by rw [rvmemReg, reg_roundTrip]
  cases op with
  | mul => simp only [rvemuDispatchInsn, mulInsn, mulTy, hostResult, left, right]
  | mulh | mulhsu | mulhu =>
    simp only [rvemuDispatchInsn, mulInsn, mulTy, hostResult, left, right, unsigned_high]
  | div | divu | rem | remu =>
    simp only [rvemuDispatchInsn, mulInsn, mulTy, hostResult, left, right]
    split <;> rfl

def Writes (val : Word) : Prop :=
  ∃ arm, rvemuDispatch float calls state (mulInsn op rd rs1 rs2) = .ok arm ∧
    arm.state =
      { rvbkptCheckInsn state (mulInsn op rd rs1 rs2) with
        -- What lands in `x0` is cleared by the next step.
        regs := Function.update state.regs rd val
        pc := state.pc + 4 }

theorem writes_iff (val : Word) :
    Writes float calls state op rd rs1 rs2 val ↔
      hostResult op (state.regs rs1) (state.regs rs2) = some val := by
  have body := dispatch_mulDiv float calls (rvbkptCheckInsn state (mulInsn op rd rs1 rs2)) op rd rs1 rs2
  have operands : ∀ r, (rvbkptCheckInsn state (mulInsn op rd rs1 rs2)).regs r = state.regs r := fun _ => rfl
  rw [operands, operands] at body
  cases result : hostResult op (state.regs rs1) (state.regs rs2) with
  | none =>
    rw [result] at body
    constructor
    · rintro ⟨arm, ran, -⟩
      obtain ⟨inner, returned, -⟩ := rvemuDispatch_returned ran
      rw [body] at returned
      cases returned
    · exact nofun
  | some computed =>
    rw [result] at body
    have destination : (mulInsn op rd rs1 rs2).rd.setWidth 5 = rd := reg_roundTrip rd
    constructor
    · rintro ⟨arm, ran, after⟩
      rw [rvemuDispatch_ok body] at ran
      cases ran
      have written := congrFun (congrArg RvState.regs after) rd
      simp only [RvState.setRegp, destination, Function.update_self] at written
      rw [written]
    · intro same
      cases same
      refine ⟨_, rvemuDispatch_ok body, ?_⟩
      simp only [RvState.setRegp, destination]
      rfl

end Arms

/-- The operands on which C leaves the quotient undefined. -/
def Undefined : MulOp → Word → Word → Prop
  | .div, a, b | .rem, a, b => b = 0 ∨ a = BitVec.intMin 32 ∧ b = -1
  | .divu, _, b | .remu, _, b => b = 0
  | _, _, _ => False

theorem guarded_iff {P : Prop} [Decidable P] {computed result val : Word} (same : ¬P → computed = result) :
    (if P then none else some computed) = some val ↔ ¬P ∧ val = result := by
  by_cases undefined : P
  · rw [if_pos undefined]
    exact iff_of_false nofun fun defined => defined.1 undefined
  · rw [if_neg undefined, same undefined, Option.some_inj, and_iff_right undefined]
    exact eq_comm

theorem hostResult_division {op : MulOp} (division : op ∈ [MulOp.div, .divu, .rem, .remu]) (a b val : Word) :
    hostResult op a b = some val ↔ ¬Undefined op a b ∧ val = op.exec a b := by
  simp only [List.mem_cons, List.not_mem_nil, or_false] at division
  rcases division with rfl | rfl | rfl | rfl
  · exact guarded_iff fun defined => by
      rw [sdiv_eq_ofInt, MulOp.exec, if_neg fun zero => defined (.inl zero)]
  · exact guarded_iff fun nonzero => by rw [udiv_eq_ofNat, MulOp.exec, if_neg nonzero]
  · exact guarded_iff fun defined => by
      rw [srem_eq_ofInt, MulOp.exec, if_neg fun zero => defined (.inl zero)]
  · exact guarded_iff fun nonzero => by rw [umod_eq_ofNat, MulOp.exec, if_neg nonzero]

section Division

variable (float : HostFloat) (calls : HostCalls) (state : RvState) (rd rd' rs1 rs2 : Reg)

theorem writes_division {op : MulOp} (division : op ∈ [MulOp.div, .divu, .rem, .remu]) (val : Word) :
    Writes float calls state op rd rs1 rs2 val ↔ ¬Undefined op (state.regs rs1) (state.regs rs2) ∧
      val = op.exec (state.regs rs1) (state.regs rs2) := by
  rw [writes_iff, hostResult_division division]

theorem rvemuDispatch_division_iff :
    (∀ op ∈ [MulOp.div, .divu, .rem, .remu],
        Writes float calls state op rd rs1 rs2 (op.exec (state.regs rs1) (state.regs rs2)) ↔
          ¬Undefined op (state.regs rs1) (state.regs rs2)) ∧
      ∀ pair ∈ [(MulOp.div, MulOp.rem), (.divu, .remu)], ∀ quotient remainder,
        Writes float calls state pair.1 rd rs1 rs2 quotient →
        Writes float calls state pair.2 rd' rs1 rs2 remainder →
          quotient * state.regs rs2 + remainder = state.regs rs1 := by
  refine ⟨fun op division => ?_, fun pair listed quotient remainder divided remained => ?_⟩
  · rw [writes_division _ _ _ _ _ _ division]
    exact and_iff_left rfl
  · simp only [List.mem_cons, List.not_mem_nil, or_false] at listed
    rcases listed with rfl | rfl
    · rw [writes_division _ _ _ _ _ _ (by decide)] at divided remained
      rw [divided.2, remained.2]
      exact div_rem _ _
    · rw [writes_division _ _ _ _ _ _ (by decide)] at divided remained
      rw [divided.2, remained.2]
      exact divu_remu _ _

end Division

def operandState (x1 x2 : Word) : RvState := ((rvstateInit {} fun _ => 0).setRegp 1 x1).setRegp 2 x2

-- The ISA has 7 divided by 0 give all ones, and -2^31 divided by -1 leave nothing.
theorem rvemuDispatch_division_traps :
    (rvemuDispatch default default (operandState 7 0) (mulInsn .divu 3 1 2) = .error .divisionTrap ∧
      ¬Writes default default (operandState 7 0) .divu 3 1 2 (MulOp.divu.exec 7 0)) ∧
    rvemuDispatch default default (operandState (BitVec.intMin 32) (-1)) (mulInsn .rem 3 1 2) =
        .error .divisionTrap ∧
      ¬Writes default default (operandState (BitVec.intMin 32) (-1)) .rem 3 1 2
        (MulOp.rem.exec (BitVec.intMin 32) (-1)) := by
  refine ⟨⟨rfl, ?_⟩, rfl, ?_⟩
  · rintro ⟨arm, ran, -⟩
    cases ran
  · rintro ⟨arm, ran, -⟩
    cases ran

def HighAgrees : MulOp → Word → Word → Prop
  | .mulh, a, b => (0 ≤ a.toInt ∧ 0 ≤ b.toInt) ∨ a = 0 ∨ b = 0 ∨ a = BitVec.intMin 32 ∧ b = BitVec.intMin 32
  | .mulhsu, a, b => 0 ≤ a.toInt ∨ b = 0
  | _, _, _ => True

/-- MULH alone multiplies as `i64`, and widens both operands with zeros. -/
def NoOverflow : MulOp → Word → Word → Prop
  | .mulh, a, b => a.toNat * b.toNat < 2 ^ 63
  | _, _, _ => True

theorem highAgrees_iff {op : MulOp} (upper : op ∈ [MulOp.mulh, .mulhsu, .mulhu]) (a b : Word) :
    MulOp.mulhu.exec a b = op.exec a b ↔ HighAgrees op a b := by
  simp only [List.mem_cons, List.not_mem_nil, or_false] at upper
  rcases upper with rfl | rfl | rfl
  · have zero_left : a = 0 → 0 ≤ a.toInt := by
      rintro rfl
      decide
    have zero_right : b = 0 → 0 ≤ b.toInt := by
      rintro rfl
      decide
    rw [exec_mulh, eq_sub_iff, excess_add_eq_zero, excess_eq_zero, excess_eq_zero, HighAgrees]
    grind
  · rw [exec_mulhsu, eq_sub_iff, excess_eq_zero, HighAgrees]
  · exact iff_of_true rfl trivial

theorem HighAgrees.noOverflow {op : MulOp} {a b : Word} (agrees : HighAgrees op a b) : NoOverflow op a b := by
  cases op with
  | mulh =>
    rcases agrees with ⟨left, right⟩ | rfl | rfl | ⟨rfl, rfl⟩
    · rw [← not_not (a := 0 ≤ a.toInt), negative_iff, not_le] at left
      rw [← not_not (a := 0 ≤ b.toInt), negative_iff, not_le] at right
      have bounded := Nat.mul_lt_mul'' left right
      rw [NoOverflow]
      omega
    · simp [NoOverflow]
    · simp [NoOverflow]
    · rw [NoOverflow]
      decide
  | _ => trivial

section Multiplication

variable (float : HostFloat) (calls : HostCalls) (state : RvState) (rd rd' rs1 rs2 : Reg)

theorem writes_mul : Writes float calls state .mul rd rs1 rs2 (state.regs rs1 * state.regs rs2) := by
  rw [writes_iff]
  rfl

theorem writes_high {op : MulOp} (upper : op ∈ [MulOp.mulh, .mulhsu, .mulhu]) (val : Word) :
    Writes float calls state op rd rs1 rs2 val ↔
      MulOp.mulhu.exec (state.regs rs1) (state.regs rs2) = val := by
  simp only [List.mem_cons, List.not_mem_nil, or_false] at upper
  rw [writes_iff]
  rcases upper with rfl | rfl | rfl <;> exact Option.some_inj

/-- The high-part instructions all write the upper half of the unsigned product. -/
theorem rvemuDispatch_multiplication_iff :
    (∀ op ∈ [MulOp.mul, .mulh, .mulhsu, .mulhu],
        (Writes float calls state op rd rs1 rs2 (op.exec (state.regs rs1) (state.regs rs2)) ∧
          NoOverflow op (state.regs rs1) (state.regs rs2)) ↔
        HighAgrees op (state.regs rs1) (state.regs rs2)) ∧
      ∀ op ∈ [MulOp.mulh, .mulhsu, .mulhu], ∃ upper lower,
        Writes float calls state op rd rs1 rs2 upper ∧ Writes float calls state .mul rd' rs1 rs2 lower ∧
          (upper ++ lower = product 32 (op.factors (state.regs rs1) (state.regs rs2)).1
              (op.factors (state.regs rs1) (state.regs rs2)).2 ↔
            HighAgrees op (state.regs rs1) (state.regs rs2)) := by
  constructor
  · intro op multiplication
    rw [List.mem_cons] at multiplication
    rcases multiplication with rfl | upper
    · rw [exec_mul]
      exact iff_of_true ⟨writes_mul .., trivial⟩ trivial
    · rw [writes_high _ _ _ _ _ _ upper, highAgrees_iff upper]
      exact and_iff_left_of_imp HighAgrees.noOverflow
  · intro op upper
    refine ⟨_, _, (writes_high _ _ _ _ _ _ upper _).mpr rfl, writes_mul .., ?_⟩
    rw [← highAgrees_iff upper, ← exec_append_mul op upper, exec_mul, BitVec.append_left_inj]

end Multiplication

-- -1 times -1 is 1, and -1 times 1 is -1; the upper halves are 0 and all ones.
theorem rvemuDispatch_high_unsigned :
    (¬Writes default default (operandState (-1) (-1)) .mulh 3 1 2 (MulOp.mulh.exec (-1) (-1)) ∧
      ¬NoOverflow .mulh (-1) (-1)) ∧
    ¬Writes default default (operandState (-1) 1) .mulhsu 3 1 2 (MulOp.mulhsu.exec (-1) 1) := by
  refine ⟨⟨?_, ?_⟩, ?_⟩
  · rw [writes_high _ _ _ _ _ _ (by decide)]
    decide
  · rw [NoOverflow]
    decide
  · rw [writes_high _ _ _ _ _ _ (by decide)]
    decide

end Urv86t
