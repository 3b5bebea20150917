import Urv86t.Isa.Format

set_option autoImplicit false

namespace Rv32

inductive BranchOp where
  | beq | bne | blt | bge | bltu | bgeu
  deriving DecidableEq, Repr

inductive LoadOp where
  | lb | lh | lw | lbu | lhu
  deriving DecidableEq, Repr

inductive StoreOp where
  | sb | sh | sw
  deriving DecidableEq, Repr

inductive ImmOp where
  | addi | slti | sltiu | xori | ori | andi
  deriving DecidableEq, Repr

inductive ShiftOp where
  | slli | srli | srai
  deriving DecidableEq, Repr

inductive RegOp where
  | add | sub | sll | slt | sltu | xor | srl | sra | or | and
  deriving DecidableEq, Repr

inductive MulOp where
  | mul | mulh | mulhsu | mulhu | div | divu | rem | remu
  deriving DecidableEq, Repr

inductive CsrOp where
  | csrrw | csrrs | csrrc | csrrwi | csrrsi | csrrci
  deriving DecidableEq, Repr

/-- RV32I without FENCE, ECALL and EBREAK; branch and jump offsets are held in half-words. -/
inductive Base where
  | lui (rd : Reg) (imm : BitVec 20)
  | auipc (rd : Reg) (imm : BitVec 20)
  | jal (rd : Reg) (halfwords : BitVec 20)
  | jalr (rd rs1 : Reg) (imm : BitVec 12)
  | branch (op : BranchOp) (rs1 rs2 : Reg) (halfwords : BitVec 12)
  | load (op : LoadOp) (rd rs1 : Reg) (imm : BitVec 12)
  | store (op : StoreOp) (rs1 rs2 : Reg) (imm : BitVec 12)
  | opImm (op : ImmOp) (rd rs1 : Reg) (imm : BitVec 12)
  | shift (op : ShiftOp) (rd rs1 : Reg) (shamt : BitVec 5)
  | reg (op : RegOp) (rd rs1 rs2 : Reg)
  deriving DecidableEq, Repr

/-- The fields of FENCE and FENCE.I are for finer fences; an implementation is to ignore them. -/
inductive Instr where
  | base (i : Base)
  | mul (op : MulOp) (rd rs1 rs2 : Reg)
  | fence (fm pred succ : BitVec 4) (rd rs1 : Reg)
  | fenceI (imm : BitVec 12) (rd rs1 : Reg)
  | ecall
  | ebreak
  | csr (op : CsrOp) (rd rs1 : Reg) (num : BitVec 12)
  deriving DecidableEq, Repr

def BranchOp.funct3 : BranchOp → BitVec 3
  | .beq => 0b000#3 | .bne => 0b001#3 | .blt => 0b100#3
  | .bge => 0b101#3 | .bltu => 0b110#3 | .bgeu => 0b111#3

def LoadOp.funct3 : LoadOp → BitVec 3
  | .lb => 0b000#3 | .lh => 0b001#3 | .lw => 0b010#3 | .lbu => 0b100#3 | .lhu => 0b101#3

def StoreOp.funct3 : StoreOp → BitVec 3
  | .sb => 0b000#3 | .sh => 0b001#3 | .sw => 0b010#3

def ImmOp.funct3 : ImmOp → BitVec 3
  | .addi => 0b000#3 | .slti => 0b010#3 | .sltiu => 0b011#3
  | .xori => 0b100#3 | .ori => 0b110#3 | .andi => 0b111#3

def ShiftOp.funct3 : ShiftOp → BitVec 3
  | .slli => 0b001#3 | .srli => 0b101#3 | .srai => 0b101#3

def ShiftOp.funct7 : ShiftOp → BitVec 7
  | .slli => 0b0000000#7 | .srli => 0b0000000#7 | .srai => 0b0100000#7

def RegOp.funct3 : RegOp → BitVec 3
  | .add => 0b000#3 | .sub => 0b000#3 | .sll => 0b001#3 | .slt => 0b010#3 | .sltu => 0b011#3
  | .xor => 0b100#3 | .srl => 0b101#3 | .sra => 0b101#3 | .or => 0b110#3 | .and => 0b111#3

def RegOp.funct7 : RegOp → BitVec 7
  | .sub => 0b0100000#7 | .sra => 0b0100000#7 | _ => 0b0000000#7

def MulOp.funct3 : MulOp → BitVec 3
  | .mul => 0b000#3 | .mulh => 0b001#3 | .mulhsu => 0b010#3 | .mulhu => 0b011#3
  | .div => 0b100#3 | .divu => 0b101#3 | .rem => 0b110#3 | .remu => 0b111#3

def CsrOp.funct3 : CsrOp → BitVec 3
  | .csrrw => 0b001#3 | .csrrs => 0b010#3 | .csrrc => 0b011#3
  | .csrrwi => 0b101#3 | .csrrsi => 0b110#3 | .csrrci => 0b111#3

def branchOffset (halfwords : BitVec 12) : BitVec 13 := halfwords ++ 0#1

def jumpOffset (halfwords : BitVec 20) : BitVec 21 := halfwords ++ 0#1

def Base.encode : Base → Word
  | .lui rd imm => uWord imm rd 0b0110111#7
  | .auipc rd imm => uWord imm rd 0b0010111#7
  | .jal rd halfwords => jWord (jumpOffset halfwords) rd 0b1101111#7
  | .jalr rd rs1 imm => iWord imm rs1 0b000#3 rd 0b1100111#7
  | .branch op rs1 rs2 halfwords => bWord (branchOffset halfwords) rs2 rs1 op.funct3 0b1100011#7
  | .load op rd rs1 imm => iWord imm rs1 op.funct3 rd 0b0000011#7
  | .store op rs1 rs2 imm => sWord imm rs2 rs1 op.funct3 0b0100011#7
  | .opImm op rd rs1 imm => iWord imm rs1 op.funct3 rd 0b0010011#7
  | .shift op rd rs1 shamt => rWord op.funct7 shamt rs1 op.funct3 rd 0b0010011#7
  | .reg op rd rs1 rs2 => rWord op.funct7 rs2 rs1 op.funct3 rd 0b0110011#7

def Instr.encode : Instr → Word
  | .base i => i.encode
  | .mul op rd rs1 rs2 => rWord 0b0000001#7 rs2 rs1 op.funct3 rd 0b0110011#7
  | .fence fm pred succ rd rs1 => iWord (fm ++ pred ++ succ) rs1 0b000#3 rd 0b0001111#7
  | .fenceI imm rd rs1 => iWord imm rs1 0b001#3 rd 0b0001111#7
  | .ecall => iWord 0#12 0#5 0b000#3 0#5 0b1110011#7
  | .ebreak => iWord 1#12 0#5 0b000#3 0#5 0b1110011#7
  | .csr op rd rs1 num => iWord num rs1 op.funct3 rd 0b1110011#7

end Rv32
