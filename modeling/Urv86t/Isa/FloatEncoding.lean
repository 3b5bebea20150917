import Urv86t.Isa.Format

set_option autoImplicit false

namespace Rv32

inductive Fmt where
  | s | d
  deriving DecidableEq, Repr

-- The modes an instruction may name, the dynamic one included; 101 and 110 are reserved.
inductive RoundingMode where
  | rne | rtz | rdn | rup | rmm | dyn
  deriving DecidableEq, Repr

inductive FloatArithOp where
  | fadd | fsub | fmul | fdiv
  deriving DecidableEq, Repr

inductive SignOp where
  | fsgnj | fsgnjn | fsgnjx
  deriving DecidableEq, Repr

inductive MinMaxOp where
  | fmin | fmax
  deriving DecidableEq, Repr

inductive CompareOp where
  | feq | flt | fle
  deriving DecidableEq, Repr

inductive IntTy where
  | w | wu
  deriving DecidableEq, Repr

inductive FusedOp where
  | fmadd | fmsub | fnmsub | fnmadd
  deriving DecidableEq, Repr

inductive Compute where
  | arith (op : FloatArithOp) (fmt : Fmt) (rm : RoundingMode)
  | sqrt (fmt : Fmt) (rm : RoundingMode)
  | sign (op : SignOp) (fmt : Fmt)
  | minMax (op : MinMaxOp) (fmt : Fmt)
  | compare (op : CompareOp) (fmt : Fmt)
  | toInt (ty : IntTy) (fmt : Fmt) (rm : RoundingMode)
  | ofInt (ty : IntTy) (fmt : Fmt) (rm : RoundingMode)
  | fused (op : FusedOp) (fmt : Fmt) (rm : RoundingMode)
  deriving DecidableEq, Repr

def Fmt.bits : Fmt → BitVec 2
  | .s => 0b00#2 | .d => 0b01#2

def RoundingMode.bits : RoundingMode → BitVec 3
  | .rne => 0b000#3 | .rtz => 0b001#3 | .rdn => 0b010#3
  | .rup => 0b011#3 | .rmm => 0b100#3 | .dyn => 0b111#3

def FloatArithOp.funct5 : FloatArithOp → BitVec 5
  | .fadd => 0b00000#5 | .fsub => 0b00001#5 | .fmul => 0b00010#5 | .fdiv => 0b00011#5

def SignOp.funct3 : SignOp → BitVec 3
  | .fsgnj => 0b000#3 | .fsgnjn => 0b001#3 | .fsgnjx => 0b010#3

def MinMaxOp.funct3 : MinMaxOp → BitVec 3
  | .fmin => 0b000#3 | .fmax => 0b001#3

def CompareOp.funct3 : CompareOp → BitVec 3
  | .feq => 0b010#3 | .flt => 0b001#3 | .fle => 0b000#3

def IntTy.selector : IntTy → BitVec 5
  | .w => 0b00000#5 | .wu => 0b00001#5

def FusedOp.opcode : FusedOp → BitVec 7
  | .fmadd => 0b1000011#7 | .fmsub => 0b1000111#7 | .fnmsub => 0b1001011#7 | .fnmadd => 0b1001111#7

def opFp : BitVec 7 := 0b1010011#7

def Compute.fmt : Compute → Fmt
  | .arith _ fmt _ | .sqrt fmt _ | .sign _ fmt | .minMax _ fmt | .compare _ fmt | .toInt _ fmt _
  | .ofInt _ fmt _ | .fused _ fmt _ => fmt

def Compute.encode (rd rs1 rs2 rs3 : Reg) : Compute → Word
  | .arith op fmt rm => rWord (op.funct5 ++ fmt.bits) rs2 rs1 rm.bits rd opFp
  | .sqrt fmt rm => rWord (0b01011#5 ++ fmt.bits) 0b00000#5 rs1 rm.bits rd opFp
  | .sign op fmt => rWord (0b00100#5 ++ fmt.bits) rs2 rs1 op.funct3 rd opFp
  | .minMax op fmt => rWord (0b00101#5 ++ fmt.bits) rs2 rs1 op.funct3 rd opFp
  | .compare op fmt => rWord (0b10100#5 ++ fmt.bits) rs2 rs1 op.funct3 rd opFp
  | .toInt ty fmt rm => rWord (0b11000#5 ++ fmt.bits) ty.selector rs1 rm.bits rd opFp
  | .ofInt ty fmt rm => rWord (0b11010#5 ++ fmt.bits) ty.selector rs1 rm.bits rd opFp
  | .fused op fmt rm => r4Word rs3 fmt.bits rs2 rs1 rm.bits rd op.opcode

-- The moves take a word as it is, so there is one for each direction only.
inductive FloatInstr where
  | load (fmt : Fmt) (rd rs1 : Reg) (imm : BitVec 12)
  | store (fmt : Fmt) (rs1 rs2 : Reg) (imm : BitVec 12)
  | compute (c : Compute) (rd rs1 rs2 rs3 : Reg)
  | classify (fmt : Fmt) (rd rs1 : Reg)
  | moveToInt (rd rs1 : Reg)
  | moveOfInt (rd rs1 : Reg)
  | toSingle (rm : RoundingMode) (rd rs1 : Reg)
  | toDouble (rm : RoundingMode) (rd rs1 : Reg)
  deriving DecidableEq, Repr

def Fmt.width : Fmt → BitVec 3
  | .s => 0b010#3 | .d => 0b011#3

def FloatInstr.encode : FloatInstr → Word
  | .load fmt rd rs1 imm => iWord imm rs1 fmt.width rd 0b0000111#7
  | .store fmt rs1 rs2 imm => sWord imm rs2 rs1 fmt.width 0b0100111#7
  | .compute c rd rs1 rs2 rs3 => c.encode rd rs1 rs2 rs3
  | .classify fmt rd rs1 => rWord (0b11100#5 ++ fmt.bits) 0b00000#5 rs1 0b001#3 rd opFp
  | .moveToInt rd rs1 => rWord 0b1110000#7 0b00000#5 rs1 0b000#3 rd opFp
  | .moveOfInt rd rs1 => rWord 0b1111000#7 0b00000#5 rs1 0b000#3 rd opFp
  | .toSingle rm rd rs1 => rWord 0b0100000#7 0b00001#5 rs1 rm.bits rd opFp
  | .toDouble rm rd rs1 => rWord 0b0100001#7 0b00000#5 rs1 rm.bits rd opFp

end Rv32
