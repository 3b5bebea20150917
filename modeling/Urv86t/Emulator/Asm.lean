import Urv86t.Emulator.Platform

set_option autoImplicit false

namespace Urv86t

inductive EInsnArgspec where
  | none | r32R32R32 | r32R32I12 | r32R32U12 | r32R32U5
  | r32M8Offs | r32M8uOffs | r32M16Offs | r32M16uOffs | r32M32Offs
  | m8OffsR32 | m16OffsR32 | m32OffsR32
  | r32R32Pcrel | r32R32Pcrelu | r32Pcrel | r32U20 | r32CsrR32 | r32CsrU5
  | fxFxFx | fxFxFxFx | fxFx | fxMXOffs | mXOffsFx | r32FxFx | r32Fx | fxR32 | fxFxCvt
  deriving DecidableEq, Repr

/-- `diagn` is the message the format decoder handed to `rvtrbk_diagn`, if it did. -/
structure InsnArgspecPair where
  argspec : EInsnArgspec := .none
  insn : Insn := {}
  diagn : Option String := none
  deriving DecidableEq, Repr

def reprRegAbiMap : List String :=
  ["zero", "ra", "sp", "gp", "tp", "t0", "t1", "t2", "s0", "s1",
    "a0", "a1", "a2", "a3", "a4", "a5", "a6", "a7",
    "s2", "s3", "s4", "s5", "s6", "s7", "s8", "s9", "s10", "s11", "t3", "t4", "t5", "t6"]

def reprFregAbiMap : List String :=
  ["ft0", "ft1", "ft2", "ft3", "ft4", "ft5", "ft6", "ft7", "fs0", "fs1",
    "fa0", "fa1", "fa2", "fa3", "fa4", "fa5", "fa6", "fa7",
    "fs2", "fs3", "fs4", "fs5", "fs6", "fs7", "fs8", "fs9", "fs10", "fs11",
    "ft8", "ft9", "ft10", "ft11"]

def reprInsnMap : EInsn → String
  | .invalid => "INVALID"
  | .lui => "LUI" | .auipc => "AUIPC" | .jal => "JAL" | .jalr => "JALR"
  | .beq => "BEQ" | .bne => "BNE" | .blt => "BLT" | .bge => "BGE" | .bltu => "BLTU" | .bgeu => "BGEU"
  | .lb => "LB" | .lh => "LH" | .lw => "LW" | .lbu => "LBU" | .lhu => "LHU"
  | .sb => "SB" | .sh => "SH" | .sw => "SW"
  | .addi => "ADDI" | .slti => "SLTI" | .sltiu => "SLTIU" | .xori => "XORI" | .ori => "ORI"
  | .andi => "ANDI" | .slli => "SLLI" | .srli => "SRLI" | .srai => "SRAI"
  | .add => "ADD" | .sub => "SUB" | .sll => "SLL" | .slt => "SLT" | .sltu => "SLTU"
  | .xor => "XOR" | .srl => "SRL" | .sra => "SRA" | .or => "OR" | .and => "AND"
  | .fence => "FENCE" | .fenceI => "FENCE_I" | .ecall => "ECALL" | .ebreak => "EBREAK"
  | .csrrw => "CSRRW" | .csrrs => "CSRRS" | .csrrc => "CSRRC"
  | .csrrwi => "CSRRWI" | .csrrsi => "CSRRSI" | .csrrci => "CSRRCI"
  | .mul => "MUL" | .mulh => "MULH" | .mulhsu => "MULHSU" | .mulhu => "MULHU"
  | .div => "DIV" | .divu => "DIVU" | .rem => "REM" | .remu => "REMU"
  | .flx => "FL.x" | .fsx => "FS.x" | .fmaddx => "FMADD.x" | .fmsubx => "FMSUB.x"
  | .fnmsubx => "FNMSUB.x" | .fnmaddx => "FNMADD.x" | .faddx => "FADD.x" | .fsubx => "FSUB.x"
  | .fmulx => "FMUL.x" | .fdivx => "FDIV.x" | .fsqrtx => "FSQRT.x" | .fsgnjx => "FSGNJ.x"
  | .fsgnjnx => "FSGNJN.x" | .fsgnjxx => "FSGNJX.x" | .fminx => "FMIN.x" | .fmaxx => "FMAX.x"
  | .feqx => "FEQ.x" | .fltx => "FLT.x" | .flex => "FLE.x" | .fclassx => "FCLASS.x"
  | .fcvtXW => "FCVT.x.W" | .fcvtXWu => "FCVT.x.WU" | .fcvtWX => "FCVT.W.x"
  | .fcvtWuX => "FCVT.WU.x" | .fmvXW => "FMV.X.W" | .fmvWX => "FMV.W.X"
  | .fcvtSD => "FCVT.S.D" | .fcvtDS => "FCVT.D.S"
  | .cNop => "c.nop" | .cAddi => "c.addi" | .cJal => "c.jal" | .cLi => "c.li"
  | .cAddi16sp => "c.addi16sp" | .cLui => "c.lui" | .cSrli => "c.srli" | .cSrai => "c.srai"
  | .cAndi => "c.andi" | .cSub => "c.sub" | .cXor => "c.xor" | .cOr => "c.or" | .cAnd => "c.and"
  | .cJ => "c.j" | .cBeqz => "c.beqz" | .cBnez => "c.bnez" | .cAddi4spn => "c.addi4spn"
  | .cFld => "c.fld" | .cLw => "c.lw" | .cFlw => "c.flw" | .cFsd => "c.fsd" | .cSw => "c.sw"
  | .cFsw => "c.fsw" | .cSlli => "c.slli" | .cSlli64 => "c.slli64" | .cFldsp => "c.fldsp"
  | .cLwsp => "c.lwsp" | .cFlwsp => "c.flwsp" | .cJr => "c.jr" | .cMv => "c.mv"
  | .cEbreak => "c.ebreak" | .cJalr => "c.jalr" | .cAdd => "c.add" | .cFsdsp => "c.fsdsp"
  | .cSwsp => "c.swsp" | .cFswsp => "c.fswsp"

/-- The line a `VERBOSE` build prints; the abort is there in every build. -/
def rvasmEmit (pair : InsnArgspecPair) : Except Abort String :=
  let insn := pair.insn
  let reg (sel : BitVec 8) : String := reprRegAbiMap.getD sel.toNat ""
  let freg (sel : BitVec 8) : String := reprFregAbiMap.getD sel.toNat ""
  let imm := toString insn.imm.toInt
  let immU := toString insn.imm.toNat
  let verbose (operands : String) : Except Abort String :=
    .ok ("v: " ++ reprInsnMap insn.insnTy ++ operands ++ "\n")
  match pair.argspec with
  | .none => verbose ""
  | .r32R32R32 => verbose (" " ++ reg insn.rd ++ ", " ++ reg insn.rs1 ++ ", " ++ reg insn.rs2)
  | .r32R32I12 => verbose (" " ++ reg insn.rd ++ ", " ++ reg insn.rs1 ++ ", " ++ imm)
  | .r32R32U12 => verbose (" " ++ reg insn.rd ++ ", " ++ reg insn.rs1 ++ ", " ++ immU)
  | .r32R32U5 => verbose (" " ++ reg insn.rd ++ ", " ++ reg insn.rs1 ++ ", " ++ immU)
  | .r32M8Offs => verbose (" " ++ reg insn.rd ++ ", " ++ imm ++ "(" ++ reg insn.rs1 ++ ").b")
  | .r32M8uOffs => verbose (" " ++ reg insn.rd ++ ", " ++ imm ++ "(" ++ reg insn.rs1 ++ ").bu")
  | .r32M16Offs => verbose (" " ++ reg insn.rd ++ ", " ++ imm ++ "(" ++ reg insn.rs1 ++ ").hw")
  | .r32M16uOffs => verbose (" " ++ reg insn.rd ++ ", " ++ imm ++ "(" ++ reg insn.rs1 ++ ").hwu")
  | .r32M32Offs => verbose (" " ++ reg insn.rd ++ ", " ++ imm ++ "(" ++ reg insn.rs1 ++ ")")
  | .m8OffsR32 => verbose (" " ++ imm ++ "(" ++ reg insn.rs1 ++ ").b, " ++ reg insn.rd)
  | .m16OffsR32 => verbose (" " ++ imm ++ "(" ++ reg insn.rs1 ++ ").hw, " ++ reg insn.rd)
  | .m32OffsR32 => verbose (" " ++ imm ++ "(" ++ reg insn.rs1 ++ "), " ++ reg insn.rd)
  | .r32R32Pcrel | .r32R32Pcrelu =>
    verbose (" " ++ reg insn.rs1 ++ ", " ++ reg insn.rs2 ++ ", " ++ imm)
  | .r32Pcrel => verbose (" " ++ reg insn.rd ++ ", " ++ imm)
  | .r32U20 => verbose (" " ++ reg insn.rd ++ ", " ++ imm)
  | .r32CsrR32 | .r32CsrU5 => .error (.fatal "unsupported CSR representation\n")
  | .fxFxFx => verbose (" " ++ freg insn.rd ++ ", " ++ freg insn.rs1 ++ ", " ++ freg insn.rs2)
  | .fxFxFxFx =>
    verbose (" " ++ freg insn.rd ++ ", " ++ freg insn.rs1 ++ ", " ++ freg insn.rs2 ++ ", " ++
      freg insn.rs3)
  | .fxFx => verbose (" " ++ freg insn.rd ++ ", " ++ freg insn.rs1)
  | .fxMXOffs => verbose (" " ++ freg insn.rd ++ ", " ++ imm ++ "(" ++ freg insn.rs1 ++ ")")
  | .mXOffsFx => verbose (" " ++ imm ++ "(" ++ reg insn.rs1 ++ "), " ++ freg insn.rs2)
  | .r32FxFx => verbose (" " ++ reg insn.rd ++ ", " ++ freg insn.rs1 ++ ", " ++ freg insn.rs2)
  | .r32Fx => verbose (" " ++ reg insn.rd ++ ", " ++ freg insn.rs1)
  | .fxR32 => verbose (" " ++ freg insn.rd ++ ", " ++ reg insn.rs1)
  | .fxFxCvt => verbose (" " ++ freg insn.rd ++ ", " ++ freg insn.rs1)

def EInsnArgspec.isCsr (argspec : EInsnArgspec) : Bool :=
  argspec = .r32CsrR32 ∨ argspec = .r32CsrU5

theorem rvasmEmit_ok (pair : InsnArgspecPair) (supported : pair.argspec.isCsr = false) :
    ∃ line, rvasmEmit pair = .ok line := by
  unfold rvasmEmit
  cases spec : pair.argspec <;> first | exact ⟨_, rfl⟩ | simp [spec, EInsnArgspec.isCsr] at supported

theorem rvasmEmit_fatal (pair : InsnArgspecPair) (csr : pair.argspec.isCsr = true) :
    rvasmEmit pair = .error (.fatal "unsupported CSR representation\n") := by
  have either : pair.argspec = .r32CsrR32 ∨ pair.argspec = .r32CsrU5 := by
    simpa [EInsnArgspec.isCsr] using csr
  rcases either with spec | spec <;> simp only [rvasmEmit, spec]

theorem rvasmEmit_then {α : Type} (pair : InsnArgspecPair) (next : Except Abort α) :
    (rvasmEmit pair >>= fun _ => next) =
      if pair.argspec.isCsr then .error (.fatal "unsupported CSR representation\n") else next := by
  cases csr : pair.argspec.isCsr
  · obtain ⟨line, printed⟩ := rvasmEmit_ok pair csr
    rw [printed]
    rfl
  · rw [rvasmEmit_fatal pair csr]
    rfl

end Urv86t
