import Urv86t.Decoder.Routes
import Urv86t.Isa.Encoding

set_option autoImplicit false

namespace Urv86t

open InsnBase Rv32

def branchTy : BranchOp → EInsn
  | .beq => .beq | .bne => .bne | .blt => .blt | .bge => .bge | .bltu => .bltu | .bgeu => .bgeu

def loadTy : LoadOp → EInsn
  | .lb => .lb | .lh => .lh | .lw => .lw | .lbu => .lbu | .lhu => .lhu

def storeTy : StoreOp → EInsn
  | .sb => .sb | .sh => .sh | .sw => .sw

def opImmTy : ImmOp → EInsn
  | .addi => .addi | .slti => .slti | .sltiu => .sltiu | .xori => .xori | .ori => .ori | .andi => .andi

def shiftTy : ShiftOp → EInsn
  | .slli => .slli | .srli => .srli | .srai => .srai

def regTy : RegOp → EInsn
  | .add => .add | .sub => .sub | .sll => .sll | .slt => .slt | .sltu => .sltu
  | .xor => .xor | .srl => .srl | .sra => .sra | .or => .or | .and => .and

def mulTy : MulOp → EInsn
  | .mul => .mul | .mulh => .mulh | .mulhsu => .mulhsu | .mulhu => .mulhu
  | .div => .div | .divu => .divu | .rem => .rem | .remu => .remu

def csrTy : CsrOp → EInsn
  | .csrrw => .csrrw | .csrrs => .csrrs | .csrrc => .csrrc
  | .csrrwi => .csrrwi | .csrrsi => .csrrsi | .csrrci => .csrrci

def baseInsn : Base → Insn
  | .lui rd imm => { insnTy := .lui, rd := rd.setWidth 8, imm := imm.setWidth 32 }
  | .auipc rd imm => { insnTy := .auipc, rd := rd.setWidth 8, imm := imm.setWidth 32 }
  | .jal rd halfwords =>
    { insnTy := .jal, rd := rd.setWidth 8, imm := (jumpOffset halfwords).signExtend 32 }
  | .jalr rd rs1 imm =>
    { insnTy := .jalr, rd := rd.setWidth 8, rs1 := rs1.setWidth 8, imm := imm.signExtend 32 }
  | .branch op rs1 rs2 halfwords =>
    { insnTy := branchTy op, rs1 := rs1.setWidth 8, rs2 := rs2.setWidth 8, funct := op.funct3.setWidth 16
      imm := (branchOffset halfwords).signExtend 32 }
  | .load op rd rs1 imm =>
    { insnTy := loadTy op, rd := rd.setWidth 8, rs1 := rs1.setWidth 8, funct := op.funct3.setWidth 16
      imm := imm.signExtend 32 }
  | .store op rs1 rs2 imm =>
    { insnTy := storeTy op, rs1 := rs1.setWidth 8, rs2 := rs2.setWidth 8, funct := op.funct3.setWidth 16
      imm := imm.signExtend 32 }
  | .opImm op rd rs1 imm =>
    { insnTy := opImmTy op, rd := rd.setWidth 8, rs1 := rs1.setWidth 8, funct := op.funct3.setWidth 16
      imm := imm.signExtend 32 }
  | .shift op rd rs1 shamt =>
    { insnTy := shiftTy op, rd := rd.setWidth 8, rs1 := rs1.setWidth 8, funct := op.funct3.setWidth 16
      imm := (op.funct7 ++ shamt).signExtend 32 }
  | .reg op rd rs1 rs2 =>
    { insnTy := regTy op, rd := rd.setWidth 8, rs1 := rs1.setWidth 8, rs2 := rs2.setWidth 8
      funct := (op.funct7 ++ op.funct3).setWidth 16 }

def mulInsn (op : MulOp) (rd rs1 rs2 : Reg) : Insn :=
  { insnTy := mulTy op, rd := rd.setWidth 8, rs1 := rs1.setWidth 8, rs2 := rs2.setWidth 8
    funct := (0b0000001#7 ++ op.funct3).setWidth 16 }

@[simp] theorem reg_roundTrip (r : Reg) : (r.setWidth 8).setWidth 5 = r := by
  apply BitVec.eq_of_getLsbD_eq
  intro i hi
  simp

theorem rvdecReturn_accepted (state : RvState) (pair : InsnArgspecPair)
    (supported : pair.argspec.isCsr = false) (silent : pair.diagn = none) :
    rvdecReturn state pair = .ok (pair.insn, state) := by
  unfold rvdecReturn
  rw [rvasmEmit_then, supported, silent]
  rfl

theorem rvdecRty1_reg (op : RegOp) (w : BitVec 32) (f7 : funct7 w = op.funct7)
    (f3 : funct3 w = op.funct3) : rvdecRty1 w = makeInsn (regTy op) .r32R32R32 := by
  cases op <;> simp only [rvdecRty1, f7, f3] <;> rfl

theorem rvdecRty1_mul (op : MulOp) (w : BitVec 32) (f7 : funct7 w = 0b0000001#7)
    (f3 : funct3 w = op.funct3) : rvdecRty1 w = makeInsn (mulTy op) .r32R32R32 := by
  cases op <;> simp only [rvdecRty1, f7, f3] <;> rfl

theorem rvdecIty2_load (op : LoadOp) (w : BitVec 32) (f3 : funct3 w = op.funct3) :
    ∃ spec, rvdecIty2 w = makeInsn (loadTy op) spec ∧ spec.isCsr = false := by
  cases op <;> simp only [rvdecIty2, f3] <;> exact ⟨_, rfl, rfl⟩

theorem rvdecIty3_opImm (op : ImmOp) (w : BitVec 32) (f3 : funct3 w = op.funct3) :
    ∃ spec, rvdecIty3 w = .ok (makeInsn (opImmTy op) spec) ∧ spec.isCsr = false := by
  cases op <;> simp only [rvdecIty3, f3] <;> exact ⟨_, rfl, rfl⟩

theorem rvdecIty3_shift (op : ShiftOp) (w : BitVec 32) (f7 : funct7 w = op.funct7)
    (f3 : funct3 w = op.funct3) : rvdecIty3 w = .ok (makeInsn (shiftTy op) .r32R32U5) := by
  cases op <;> simp only [rvdecIty3, f3, f7] <;> rfl

theorem rvdecSty1_store (op : StoreOp) (w : BitVec 32) (f3 : funct3 w = op.funct3) :
    ∃ spec, rvdecSty1 w = makeInsn (storeTy op) spec ∧ spec.isCsr = false := by
  cases op <;> simp only [rvdecSty1, f3] <;> exact ⟨_, rfl, rfl⟩

theorem rvdecBtyPair_branch (op : BranchOp) (w : BitVec 32) (f3 : funct3 w = op.funct3) :
    ∃ spec, rvdecBtyPair w = (btyPair w).insnCase (branchTy op) spec ∧ spec.isCsr = false := by
  cases op <;> simp only [rvdecBtyPair, f3] <;> exact ⟨_, rfl, rfl⟩

theorem op_imm (imm : BitVec 12) : signext (promote imm) (1 <<< 11) = imm.signExtend 32 :=
  signext_promote imm (by omega)

theorem branch_imm (halfwords : BitVec 12) :
    signext
        (promote ((branchOffset halfwords).extractLsb' 12 1) <<< 12 |||
          promote ((branchOffset halfwords).extractLsb' 11 1) <<< 11 |||
          promote ((branchOffset halfwords).extractLsb' 5 6) <<< 5 |||
          promote ((branchOffset halfwords).extractLsb' 1 4) <<< 1)
        (1 <<< 12) =
      (branchOffset halfwords).signExtend 32 := by
  have low : (branchOffset halfwords).getLsbD 0 = false := by
    rw [branchOffset, BitVec.getLsbD_append]
    rfl
  have pieces :
      promote ((branchOffset halfwords).extractLsb' 12 1) <<< 12 |||
        promote ((branchOffset halfwords).extractLsb' 11 1) <<< 11 |||
        promote ((branchOffset halfwords).extractLsb' 5 6) <<< 5 |||
        promote ((branchOffset halfwords).extractLsb' 1 4) <<< 1 = promote (branchOffset halfwords) := by
    generalize branchOffset halfwords = offset at low ⊢
    apply BitVec.eq_of_getLsbD_eq
    intro i hi
    simp
    grind
  rw [pieces]
  exact signext_promote (branchOffset halfwords) (by omega)

theorem jump_imm (halfwords : BitVec 20) :
    signext
        (promote ((jumpOffset halfwords).extractLsb' 20 1) <<< 20 |||
          promote ((jumpOffset halfwords).extractLsb' 12 8) <<< 12 |||
          promote ((jumpOffset halfwords).extractLsb' 11 1) <<< 11 |||
          promote ((jumpOffset halfwords).extractLsb' 1 10) <<< 1)
        (1 <<< 20) =
      (jumpOffset halfwords).signExtend 32 := by
  have low : (jumpOffset halfwords).getLsbD 0 = false := by
    rw [jumpOffset, BitVec.getLsbD_append]
    rfl
  have pieces :
      promote ((jumpOffset halfwords).extractLsb' 20 1) <<< 20 |||
        promote ((jumpOffset halfwords).extractLsb' 12 8) <<< 12 |||
        promote ((jumpOffset halfwords).extractLsb' 11 1) <<< 11 |||
        promote ((jumpOffset halfwords).extractLsb' 1 10) <<< 1 = promote (jumpOffset halfwords) := by
    generalize jumpOffset halfwords = offset at low ⊢
    apply BitVec.eq_of_getLsbD_eq
    intro i hi
    simp
    grind
  rw [pieces]
  exact signext_promote (jumpOffset halfwords) (by omega)

theorem store_imm (imm : BitVec 12) :
    signext (promote (imm.extractLsb' 5 7) <<< 5 ||| promote (imm.extractLsb' 0 5)) (1 <<< 11) =
      imm.signExtend 32 := by
  have pieces : promote (imm.extractLsb' 5 7) <<< 5 ||| promote (imm.extractLsb' 0 5) = promote imm := by
    apply BitVec.eq_of_getLsbD_eq
    intro i hi
    simp
    grind
  rw [pieces]
  exact signext_promote imm (by omega)

theorem reg_funct (f7 : BitVec 7) (f3 : BitVec 3) :
    (promote f7 <<< 3 ||| promote f3).setWidth 16 = (f7 ++ f3).setWidth 16 := by
  apply BitVec.eq_of_getLsbD_eq
  intro i hi
  simp
  grind

section Words

variable (rd rs1 rs2 : Reg) (f3 : BitVec 3) (f7 code : BitVec 7)

theorem rtyPair_rWord :
    rtyPair (rWord f7 rs2 rs1 f3 rd code) =
      { insn :=
          { rd := rd.setWidth 8, rs1 := rs1.setWidth 8, rs2 := rs2.setWidth 8
            funct := (f7 ++ f3).setWidth 16 } } := by
  simp only [rtyPair, InsnBase.rd, InsnBase.rs1, InsnBase.rs2, funct3, funct7, rWord_fields, reg_funct]

theorem ityPair_iWord (imm : BitVec 12) :
    ityPair (iWord imm rs1 f3 rd code) =
      { insn :=
          { rd := rd.setWidth 8, rs1 := rs1.setWidth 8, funct := f3.setWidth 16
            imm := imm.signExtend 32 } } := by
  simp only [ityPair, InsnBase.rd, InsnBase.rs1, funct3, iImm11_0, iWord_fields, op_imm]

-- The shifts share the I-format opcode but are laid out as R-format words.
theorem ityPair_rWord :
    ityPair (rWord f7 rs2 rs1 f3 rd code) =
      { insn :=
          { rd := rd.setWidth 8, rs1 := rs1.setWidth 8, funct := f3.setWidth 16
            imm := (f7 ++ rs2).signExtend 32 } } := by
  simp only [ityPair, InsnBase.rd, InsnBase.rs1, funct3, iImm11_0, rWord_fields, op_imm]

theorem styPair_sWord (imm : BitVec 12) :
    styPair (sWord imm rs2 rs1 f3 code) =
      { insn :=
          { rs1 := rs1.setWidth 8, rs2 := rs2.setWidth 8, funct := f3.setWidth 16
            imm := imm.signExtend 32 } } := by
  simp only [styPair, InsnBase.rs1, InsnBase.rs2, funct3, sImm11_5, sImm4_0, sWord_fields, store_imm]

theorem btyPair_bWord (halfwords : BitVec 12) :
    btyPair (bWord (branchOffset halfwords) rs2 rs1 f3 code) =
      { insn :=
          { rs1 := rs1.setWidth 8, rs2 := rs2.setWidth 8, funct := f3.setWidth 16
            imm := (branchOffset halfwords).signExtend 32 } } := by
  simp only [btyPair, InsnBase.rs1, InsnBase.rs2, funct3, bImm12, bImm11, bImm10_5, bImm4_1, bWord_fields,
    branch_imm]

theorem utyPair_uWord (imm : BitVec 20) :
    utyPair (uWord imm rd code) = { insn := { rd := rd.setWidth 8, imm := imm.setWidth 32 } } := by
  simp only [utyPair, InsnBase.rd, uImm31_12, uWord_fields]

theorem jtyPair_jWord (halfwords : BitVec 20) :
    jtyPair (jWord (jumpOffset halfwords) rd code) =
      { insn := { insnTy := .jal, rd := rd.setWidth 8, imm := (jumpOffset halfwords).signExtend 32 }
        argspec := .r32Pcrel } := by
  simp only [jtyPair, InsnBase.rd, jImm20, jImm19_12, jImm11, jImm10_1, jWord_fields, jump_imm]

end Words

theorem rvdecInsn_base (state : RvState) (i : Base) : rvdecInsn state i.encode = .ok (baseInsn i, state) := by
  cases i with
  | lui rd imm =>
    rw [rvdecInsn_lui (by simp [opcode, Base.encode]), rvdecReturn_accepted _ _ rfl rfl]
    rw [Base.encode, utyPair_uWord]
    rfl
  | auipc rd imm =>
    rw [rvdecInsn_auipc (by simp [opcode, Base.encode]), rvdecReturn_accepted _ _ rfl rfl]
    rw [Base.encode, utyPair_uWord]
    rfl
  | jal rd halfwords =>
    rw [rvdecInsn_jal (by simp [opcode, Base.encode]), rvdecReturn_accepted _ _ rfl rfl]
    rw [Base.encode, jtyPair_jWord]
    rfl
  | jalr rd rs1 imm =>
    rw [rvdecInsn_jalr (by simp [opcode, Base.encode]), rvdecReturn_accepted _ _ rfl rfl]
    rw [Base.encode, ityPair_iWord]
    rfl
  | branch op rs1 rs2 halfwords =>
    obtain ⟨spec, group, supported⟩ :=
      rvdecBtyPair_branch op (Base.branch op rs1 rs2 halfwords).encode (by simp [funct3, Base.encode])
    rw [rvdecInsn_branch (by simp [opcode, Base.encode]), group, rvdecReturn_accepted _ _ supported rfl]
    rw [Base.encode, btyPair_bWord]
    rfl
  | load op rd rs1 imm =>
    obtain ⟨spec, group, supported⟩ :=
      rvdecIty2_load op (Base.load op rd rs1 imm).encode (by simp [funct3, Base.encode])
    rw [rvdecInsn_load (by simp [opcode, Base.encode]), group, rvdecReturn_accepted _ _ supported rfl]
    rw [Base.encode, ityPair_iWord]
    rfl
  | store op rs1 rs2 imm =>
    obtain ⟨spec, group, supported⟩ :=
      rvdecSty1_store op (Base.store op rs1 rs2 imm).encode (by simp [funct3, Base.encode])
    rw [rvdecInsn_store (by simp [opcode, Base.encode]), group, rvdecReturn_accepted _ _ supported rfl]
    rw [Base.encode, styPair_sWord]
    rfl
  | opImm op rd rs1 imm =>
    obtain ⟨spec, group, supported⟩ :=
      rvdecIty3_opImm op (Base.opImm op rd rs1 imm).encode (by simp [funct3, Base.encode])
    rw [rvdecInsn_arith_ok (by simp [opcode, Base.encode]) group, rvdecReturn_accepted _ _ supported rfl]
    rw [Base.encode, ityPair_iWord]
    rfl
  | shift op rd rs1 shamt =>
    have group := rvdecIty3_shift op (Base.shift op rd rs1 shamt).encode (by simp [funct7, Base.encode])
      (by simp [funct3, Base.encode])
    rw [rvdecInsn_arith_ok (by simp [opcode, Base.encode]) group, rvdecReturn_accepted _ _ rfl rfl]
    rw [Base.encode, ityPair_rWord]
    rfl
  | reg op rd rs1 rs2 =>
    have group := rvdecRty1_reg op (Base.reg op rd rs1 rs2).encode (by simp [funct7, Base.encode])
      (by simp [funct3, Base.encode])
    rw [rvdecInsn_reg (by simp [opcode, Base.encode]), group, rvdecReturn_accepted _ _ rfl rfl]
    rw [Base.encode, rtyPair_rWord]
    rfl

theorem rvdecInsn_mul (state : RvState) (op : MulOp) (rd rs1 rs2 : Reg) :
    rvdecInsn state (Instr.mul op rd rs1 rs2).encode = .ok (mulInsn op rd rs1 rs2, state) := by
  have group := rvdecRty1_mul op (Instr.mul op rd rs1 rs2).encode (by simp [funct7, Instr.encode])
    (by simp [funct3, Instr.encode])
  rw [rvdecInsn_reg (by simp [opcode, Instr.encode]), group, rvdecReturn_accepted _ _ rfl rfl]
  rw [Instr.encode, rtyPair_rWord]
  rfl

end Urv86t
