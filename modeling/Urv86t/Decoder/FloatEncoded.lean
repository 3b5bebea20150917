import Urv86t.Decoder.Encoded
import Urv86t.Isa.FloatEncoding

set_option autoImplicit false

namespace Urv86t

open InsnBase Rv32

def floatArithTy : FloatArithOp → EInsn
  | .fadd => .faddx | .fsub => .fsubx | .fmul => .fmulx | .fdiv => .fdivx

def signTy : SignOp → EInsn
  | .fsgnj => .fsgnjx | .fsgnjn => .fsgnjnx | .fsgnjx => .fsgnjxx

def minMaxTy : MinMaxOp → EInsn
  | .fmin => .fminx | .fmax => .fmaxx

def compareTy : CompareOp → EInsn
  | .feq => .feqx | .flt => .fltx | .fle => .flex

def toIntTy : IntTy → EInsn
  | .w => .fcvtWX | .wu => .fcvtWuX

def fusedTy : FusedOp → EInsn
  | .fmadd => .fmaddx | .fmsub => .fmsubx | .fnmsub => .fnmsubx | .fnmadd => .fnmaddx

/-- The instruction type the decoder gives, which is the signed one for both conversions from an integer. -/
def computeTy : Compute → EInsn
  | .arith op _ _ => floatArithTy op
  | .sqrt _ _ => .fsqrtx
  | .sign op _ => signTy op
  | .minMax op _ => minMaxTy op
  | .compare op _ => compareTy op
  | .toInt ty _ _ => toIntTy ty
  | .ofInt _ _ _ => .fcvtXW
  | .fused op _ _ => fusedTy op

def computeFunct : Compute → BitVec 16
  | .arith op fmt rm => (op.funct5 ++ fmt.bits ++ rm.bits).setWidth 16
  | .sqrt fmt rm => (0b01011#5 ++ fmt.bits ++ rm.bits).setWidth 16
  | .sign op fmt => (0b00100#5 ++ fmt.bits ++ op.funct3).setWidth 16
  | .minMax op fmt => (0b00101#5 ++ fmt.bits ++ op.funct3).setWidth 16
  | .compare op fmt => (0b10100#5 ++ fmt.bits ++ op.funct3).setWidth 16
  | .toInt _ fmt rm => (0b11000#5 ++ fmt.bits ++ rm.bits).setWidth 16
  | .ofInt _ fmt rm => (0b11010#5 ++ fmt.bits ++ rm.bits).setWidth 16
  | .fused _ _ rm => rm.bits.setWidth 16

section Groups

variable {w : BitVec 32}

-- Bits 31:27 come back from what the first two switches look at.
theorem selector_funct5 (f5 : BitVec 5) (fmt : Fmt) (r : Reg) :
    (promote (f5 ++ fmt.bits) <<< 5 ||| promote r).extractLsb' 7 5 = f5 := by
  apply BitVec.eq_of_getLsbD_eq
  intro i hi
  simp
  grind

theorem selector_masked_funct5 (f5 : BitVec 5) (fmt : Fmt) (r : Reg) :
    ((promote (f5 ++ fmt.bits) <<< 5 ||| promote r) &&& ~~~0b000000100000#32).extractLsb' 7 5 = f5 := by
  have mask : (~~~0b000000100000#32).extractLsb' 7 5 = BitVec.allOnes 5 := by decide
  rw [BitVec.extractLsb'_and, selector_funct5, mask, BitVec.and_allOnes]

theorem rvdecRty2Cvt_none (f5 : BitVec 5) (fmt : Fmt) (f7 : funct7 w = f5 ++ fmt.bits)
    (other : f5 ≠ 0b01000#5) : rvdecRty2Cvt w = none := by
  simp only [rvdecRty2Cvt, f7]
  have back := selector_funct5 f5 fmt (rs2 w)
  split
  · rename_i selected
    rw [selected] at back
    exact absurd back.symm other
  · rename_i selected
    rw [selected] at back
    exact absurd back.symm other
  · rfl

theorem rvdecRty2Unary_none (f5 : BitVec 5) (fmt : Fmt) (f7 : funct7 w = f5 ++ fmt.bits)
    (other : f5 ∉ [0b11000#5, 0b11010#5, 0b11100#5, 0b11110#5, 0b01011#5]) :
    rvdecRty2Unary w = none := by
  simp only [rvdecRty2Unary, f7]
  have back := selector_masked_funct5 f5 fmt (rs2 w)
  split <;> first
    | rfl
    | rename_i selected
      rw [selected] at back
      rw [← back] at other
      exact absurd (by decide) other

theorem rvdecRty2_unary {pair : InsnTyArgspecPair} (conversion : rvdecRty2Cvt w = none)
    (unary : rvdecRty2Unary w = some pair) : rvdecRty2 w = pair := by
  simp only [rvdecRty2, conversion, unary]

theorem rvdecRty2_binary {pair : InsnTyArgspecPair} (f5 : BitVec 5) (fmt : Fmt)
    (f7 : funct7 w = f5 ++ fmt.bits)
    (operands : f5 ∉ [0b01000#5, 0b11000#5, 0b11010#5, 0b11100#5, 0b11110#5, 0b01011#5])
    (binary : rvdecRty2Binary w = some pair) : rvdecRty2 w = pair := by
  obtain ⟨conversion, unary⟩ := not_or.mp (operands ∘ List.mem_cons.mpr)
  simp only [rvdecRty2, rvdecRty2Cvt_none f5 fmt f7 conversion, rvdecRty2Unary_none f5 fmt f7 unary, binary]

theorem rvdecRty2_arith (op : FloatArithOp) (fmt : Fmt) (f7 : funct7 w = op.funct5 ++ fmt.bits) :
    rvdecRty2 w = makeInsn (floatArithTy op) .fxFxFx := by
  apply rvdecRty2_binary op.funct5 fmt f7 (by cases op <;> decide)
  simp only [rvdecRty2Binary, f7]
  cases op <;> cases fmt <;> rfl

theorem rvdecRty2_sign (op : SignOp) (fmt : Fmt) (f7 : funct7 w = 0b00100#5 ++ fmt.bits)
    (f3 : funct3 w = op.funct3) : rvdecRty2 w = makeInsn (signTy op) .fxFxFx := by
  apply rvdecRty2_binary 0b00100#5 fmt f7 (by decide)
  simp only [rvdecRty2Binary, f7, f3]
  cases op <;> cases fmt <;> rfl

theorem rvdecRty2_minMax (op : MinMaxOp) (fmt : Fmt) (f7 : funct7 w = 0b00101#5 ++ fmt.bits)
    (f3 : funct3 w = op.funct3) : rvdecRty2 w = makeInsn (minMaxTy op) .fxFxFx := by
  apply rvdecRty2_binary 0b00101#5 fmt f7 (by decide)
  simp only [rvdecRty2Binary, f7, f3]
  cases op <;> cases fmt <;> rfl

theorem rvdecRty2_compare (op : CompareOp) (fmt : Fmt) (f7 : funct7 w = 0b10100#5 ++ fmt.bits)
    (f3 : funct3 w = op.funct3) : rvdecRty2 w = makeInsn (compareTy op) .fxFxFx := by
  apply rvdecRty2_binary 0b10100#5 fmt f7 (by decide)
  simp only [rvdecRty2Binary, f7, f3]
  cases op <;> cases fmt <;> rfl

theorem rvdecRty2_sqrt (fmt : Fmt) (f7 : funct7 w = 0b01011#5 ++ fmt.bits) (r2 : rs2 w = 0b00000#5) :
    rvdecRty2 w = makeInsn .fsqrtx .fxFx := by
  apply rvdecRty2_unary (rvdecRty2Cvt_none 0b01011#5 fmt f7 (by decide))
  simp only [rvdecRty2Unary, f7, r2]
  cases fmt <;> rfl

theorem rvdecRty2_toInt (ty : IntTy) (fmt : Fmt) (f7 : funct7 w = 0b11000#5 ++ fmt.bits)
    (r2 : rs2 w = ty.selector) : rvdecRty2 w = makeInsn (toIntTy ty) .r32Fx := by
  apply rvdecRty2_unary (rvdecRty2Cvt_none 0b11000#5 fmt f7 (by decide))
  simp only [rvdecRty2Unary, f7, r2]
  cases ty <;> cases fmt <;> rfl

theorem rvdecRty2_ofInt (ty : IntTy) (fmt : Fmt) (f7 : funct7 w = 0b11010#5 ++ fmt.bits)
    (r2 : rs2 w = ty.selector) : rvdecRty2 w = makeInsn .fcvtXW .fxR32 := by
  apply rvdecRty2_unary (rvdecRty2Cvt_none 0b11010#5 fmt f7 (by decide))
  simp only [rvdecRty2Unary, f7, r2]
  cases ty <;> cases fmt <;> rfl

end Groups

def computeInsn (rd rs1 rs2 rs3 : Reg) (c : Compute) : Insn :=
  { insnTy := computeTy c
    rd := rd.setWidth 8
    rs1 := rs1.setWidth 8
    rs2 := match c with
      | .sqrt _ _ => 0
      | .toInt ty _ _ | .ofInt ty _ _ => ty.selector.setWidth 8
      | _ => rs2.setWidth 8
    rs3 := match c with
      | .fused _ _ _ => rs3.setWidth 8
      | _ => 0
    funct := computeFunct c }

theorem rvdecInsn_opFp {state : RvState} {ty : EInsn} {spec : EInsnArgspec} (f7 : BitVec 7)
    (rs2 rs1 : Reg) (f3 : BitVec 3) (rd : Reg)
    (group : rvdecRty2 (rWord f7 rs2 rs1 f3 rd opFp) = makeInsn ty spec) (supported : spec.isCsr = false) :
    rvdecInsn state (rWord f7 rs2 rs1 f3 rd opFp) =
      .ok ({ insnTy := ty, rd := rd.setWidth 8, rs1 := rs1.setWidth 8, rs2 := rs2.setWidth 8
             funct := (f7 ++ f3).setWidth 16 }, state) := by
  rw [rvdecInsn_float (by simp [opcode, opFp]), group, rvdecReturn_accepted _ _ supported rfl,
    rtyPair_rWord]
  rfl

theorem rvdecInsn_compute (state : RvState) (c : Compute) (rd rs1 rs2 rs3 : Reg) :
    rvdecInsn state (c.encode rd rs1 rs2 rs3) = .ok (computeInsn rd rs1 rs2 rs3 c, state) := by
  cases c with
  | arith op fmt rm =>
    exact rvdecInsn_opFp _ _ _ _ _ (rvdecRty2_arith op fmt (by simp [funct7])) rfl
  | sqrt fmt rm =>
    exact rvdecInsn_opFp _ _ _ _ _ (rvdecRty2_sqrt fmt (by simp [funct7]) (by simp [InsnBase.rs2])) rfl
  | sign op fmt =>
    exact rvdecInsn_opFp _ _ _ _ _ (rvdecRty2_sign op fmt (by simp [funct7]) (by simp [funct3])) rfl
  | minMax op fmt =>
    exact rvdecInsn_opFp _ _ _ _ _ (rvdecRty2_minMax op fmt (by simp [funct7]) (by simp [funct3])) rfl
  | compare op fmt =>
    exact rvdecInsn_opFp _ _ _ _ _ (rvdecRty2_compare op fmt (by simp [funct7]) (by simp [funct3])) rfl
  | toInt ty fmt rm =>
    exact rvdecInsn_opFp _ _ _ _ _ (rvdecRty2_toInt ty fmt (by simp [funct7]) (by simp [InsnBase.rs2])) rfl
  | ofInt ty fmt rm =>
    exact rvdecInsn_opFp _ _ _ _ _ (rvdecRty2_ofInt ty fmt (by simp [funct7]) (by simp [InsnBase.rs2])) rfl
  | fused op fmt rm =>
    have pair : r4tyPair ((Compute.fused op fmt rm).encode rd rs1 rs2 rs3) =
        { insn := { rd := rd.setWidth 8, rs1 := rs1.setWidth 8, rs2 := rs2.setWidth 8
                    rs3 := rs3.setWidth 8, funct := rm.bits.setWidth 16 } } := by
      simp [r4tyPair, Compute.encode, InsnBase.rd, InsnBase.rs1, InsnBase.rs2, funct3, r4Rs3]
    cases op with
    | fmadd =>
      rw [rvdecInsn_fmadd (by simp [opcode, Compute.encode, FusedOp.opcode]), pair]
      rfl
    | fmsub =>
      rw [rvdecInsn_fmsub (by simp [opcode, Compute.encode, FusedOp.opcode]), pair]
      rfl
    | fnmsub =>
      rw [rvdecInsn_fnmsub (by simp [opcode, Compute.encode, FusedOp.opcode]), pair]
      rfl
    | fnmadd =>
      rw [rvdecInsn_fnmadd (by simp [opcode, Compute.encode, FusedOp.opcode]), pair]
      rfl

end Urv86t
