import Urv86t.Emulator.Asm
import Urv86t.Emulator.State

set_option autoImplicit false

namespace Urv86t

open InsnBase

/-- What a group decoder returns, and the message it passed to `rvtrbk_diagn` on its way, if any. -/
structure InsnTyArgspecPair where
  argspec : EInsnArgspec
  insnTy : EInsn
  diagn : Option String
  deriving DecidableEq, Repr

def makeInsn (insnTy : EInsn) (argspec : EInsnArgspec) : InsnTyArgspecPair := ⟨argspec, insnTy, none⟩

def invalidInsn (diagn : Option String) : InsnTyArgspecPair := ⟨.none, .invalid, diagn⟩

/-- `INSN_OP_CASE` -/
def InsnArgspecPair.opCase (pair : InsnArgspecPair) (group : InsnTyArgspecPair) : InsnArgspecPair :=
  { pair with
    argspec := group.argspec
    insn := { pair.insn with insnTy := group.insnTy }
    diagn := group.diagn }

def InsnArgspecPair.insnCase (pair : InsnArgspecPair) (insnTy : EInsn) (argspec : EInsnArgspec) :
    InsnArgspecPair :=
  { pair with argspec := argspec, insn := { pair.insn with insnTy := insnTy } }

/-- The common end of the format decoders: `rvasm_emit`, then the instruction. -/
def rvdecReturn (state : RvState) (pair : InsnArgspecPair) : Except Abort (Insn × RvState) := do
  let _ ← rvasmEmit pair
  return (pair.insn, match pair.diagn with | none => state | some msg => rvtrbkDiagn state msg)

def rvdecRty1 (insn : BitVec 32) : InsnTyArgspecPair :=
  match promote (funct7 insn) <<< 3 ||| promote (funct3 insn) with
  | 0b0000000000#32 => makeInsn .add .r32R32R32
  | 0b0100000000#32 => makeInsn .sub .r32R32R32
  | 0b0000000001#32 => makeInsn .sll .r32R32R32
  | 0b0000000010#32 => makeInsn .slt .r32R32R32
  | 0b0000000011#32 => makeInsn .sltu .r32R32R32
  | 0b0000000100#32 => makeInsn .xor .r32R32R32
  | 0b0000000101#32 => makeInsn .srl .r32R32R32
  | 0b0100000101#32 => makeInsn .sra .r32R32R32
  | 0b0000000110#32 => makeInsn .or .r32R32R32
  | 0b0000000111#32 => makeInsn .and .r32R32R32
  | 0b0000001000#32 => makeInsn .mul .r32R32R32
  | 0b0000001001#32 => makeInsn .mulh .r32R32R32
  | 0b0000001010#32 => makeInsn .mulhsu .r32R32R32
  | 0b0000001011#32 => makeInsn .mulhu .r32R32R32
  | 0b0000001100#32 => makeInsn .div .r32R32R32
  | 0b0000001101#32 => makeInsn .divu .r32R32R32
  | 0b0000001110#32 => makeInsn .rem .r32R32R32
  | 0b0000001111#32 => makeInsn .remu .r32R32R32
  -- The only rejection without a diagnostic.
  | _ => invalidInsn none

def rvdecRty2Cvt (insn : BitVec 32) : Option InsnTyArgspecPair :=
  match promote (funct7 insn) <<< 5 ||| promote (rs2 insn) with
  | 0b0010000000001#32 => some (makeInsn .fcvtSD .fxFxCvt)
  | 0b010000100000#32 => some (makeInsn .fcvtDS .fxFxCvt)
  | _ => none

def rvdecRty2Unary (insn : BitVec 32) : Option InsnTyArgspecPair :=
  match (promote (funct7 insn) <<< 5 ||| promote (rs2 insn)) &&& ~~~0b000000100000#32 with
  | 0b110000000000#32 => some (makeInsn .fcvtWX .r32Fx)
  | 0b110000000001#32 => some (makeInsn .fcvtWuX .r32Fx)
  | 0b110100000000#32 => some (makeInsn .fcvtXW .fxR32)
  | 0b110100000001#32 => some (makeInsn .fcvtXW .fxR32)
  | 0b111000000000#32 =>
    match funct3 insn with
    | 0b000#3 => some (makeInsn .fmvXW .r32Fx)
    | 0b001#3 => some (makeInsn .fclassx .fxFx)
    | _ => some (invalidInsn (some "invalid fmv/fclass funct3 bit specifier\n"))
  | 0b111100000000#32 => some (makeInsn .fmvWX .fxR32)
  | 0b010110000000#32 => some (makeInsn .fsqrtx .fxFx)
  | _ => none

def rvdecRty2Binary (insn : BitVec 32) : Option InsnTyArgspecPair :=
  match promote (funct7 insn) &&& ~~~0b1#32 with
  | 0b0000000#32 => some (makeInsn .faddx .fxFxFx)
  | 0b0000100#32 => some (makeInsn .fsubx .fxFxFx)
  | 0b0001000#32 => some (makeInsn .fmulx .fxFxFx)
  | 0b0001100#32 => some (makeInsn .fdivx .fxFxFx)
  | 0b0010000#32 =>
    match funct3 insn with
    | 0b000#3 => some (makeInsn .fsgnjx .fxFxFx)
    | 0b001#3 => some (makeInsn .fsgnjnx .fxFxFx)
    | 0b010#3 => some (makeInsn .fsgnjxx .fxFxFx)
    | _ => none
  | 0b0010100#32 =>
    match funct3 insn with
    | 0b000#3 => some (makeInsn .fminx .fxFxFx)
    | 0b001#3 => some (makeInsn .fmaxx .fxFxFx)
    | _ => some (invalidInsn (some "invalid min/max funct3 bit specifier\n"))
  | 0b1010000#32 =>
    match funct3 insn with
    | 0b010#3 => some (makeInsn .feqx .fxFxFx)
    | 0b001#3 => some (makeInsn .fltx .fxFxFx)
    | 0b000#3 => some (makeInsn .flex .fxFxFx)
    | _ => none
  | _ => none

/-- Three successive switches, each reached when the one before fell through. -/
def rvdecRty2 (insn : BitVec 32) : InsnTyArgspecPair :=
  match rvdecRty2Cvt insn with
  | some pair => pair
  | none =>
    match rvdecRty2Unary insn with
    | some pair => pair
    | none =>
      match rvdecRty2Binary insn with
      | some pair => pair
      | none => invalidInsn (some "invalid floating point encoding ")

def rtyPair (insn : BitVec 32) : InsnArgspecPair :=
  { insn :=
      { rd := (rd insn).setWidth 8
        rs1 := (rs1 insn).setWidth 8
        rs2 := (rs2 insn).setWidth 8
        funct := (promote (funct7 insn) <<< 3 ||| promote (funct3 insn)).setWidth 16 } }

def rvdecRty (state : RvState) (insn : BitVec 32) : Except Abort (Insn × RvState) :=
  rvdecReturn state <|
    match opcode insn with
    | 0b0110011#7 => (rtyPair insn).opCase (rvdecRty1 insn)
    | 0b1010011#7 => (rtyPair insn).opCase (rvdecRty2 insn)
    | _ => rtyPair insn

def r4tyPair (insn : BitVec 32) : InsnArgspecPair :=
  { insn :=
      { rd := (rd insn).setWidth 8
        rs1 := (rs1 insn).setWidth 8
        rs2 := (rs2 insn).setWidth 8
        rs3 := (r4Rs3 insn).setWidth 8
        funct := (funct3 insn).setWidth 16 } }

/-- Bits 26:25 stay unread, and nothing is emitted. -/
def rvdecR4ty (state : RvState) (insn : BitVec 32) : Except Abort (Insn × RvState) :=
  let pair := match (promote (opcode insn) &&& 0b1100#32) >>> 2 with
    | 0b00#32 => (r4tyPair insn).insnCase .fmaddx .fxFxFxFx
    | 0b01#32 => (r4tyPair insn).insnCase .fmsubx .fxFxFxFx
    | 0b10#32 => (r4tyPair insn).insnCase .fnmsubx .fxFxFxFx
    | 0b11#32 => (r4tyPair insn).insnCase .fnmaddx .fxFxFxFx
    | _ => r4tyPair insn
  .ok (pair.insn, state)

def rvdecIty1 (_insn : BitVec 32) : InsnTyArgspecPair := makeInsn .jalr .r32R32Pcrel

def rvdecIty2 (insn : BitVec 32) : InsnTyArgspecPair :=
  match funct3 insn with
  | 0b000#3 => makeInsn .lb .r32M8Offs
  | 0b001#3 => makeInsn .lh .r32M16Offs
  | 0b010#3 => makeInsn .lw .r32M32Offs
  | 0b100#3 => makeInsn .lbu .r32M8uOffs
  | 0b101#3 => makeInsn .lhu .r32M16uOffs
  | _ => invalidInsn (some "unrecognised LOAD insn. function bits")

def rvdecIty3 (insn : BitVec 32) : Except Abort InsnTyArgspecPair :=
  match funct3 insn with
  | 0b000#3 => .ok (makeInsn .addi .r32R32I12)
  | 0b010#3 => .ok (makeInsn .slti .r32R32I12)
  | 0b011#3 => .ok (makeInsn .sltiu .r32R32U12)
  | 0b100#3 => .ok (makeInsn .xori .r32R32U12)
  | 0b110#3 => .ok (makeInsn .ori .r32R32U12)
  | 0b111#3 => .ok (makeInsn .andi .r32R32U12)
  | 0b001#3 =>
    if funct7 insn = 0 then .ok (makeInsn .slli .r32R32U5)
    -- `break` leaves the switch for `__builtin_unreachable`.
    else .error .unreachable
  | 0b101#3 =>
    if funct7 insn = 0 then .ok (makeInsn .srli .r32R32U5)
    else if funct7 insn = 0b0100000 then .ok (makeInsn .srai .r32R32U5)
    else .ok (invalidInsn (some "unrecognised shift insn. function bits"))
  | _ => .error .unreachable

def rvdecIty4 (insn : BitVec 32) : InsnTyArgspecPair :=
  if rd insn = 0 ∧ funct3 insn = 0 ∧ rs1 insn = 0 ∧ iImm11_0 insn = 0b000011111111 then
    makeInsn .fence .none
  else if rd insn = 0 ∧ funct3 insn = 0b001 ∧ rs1 insn = 0 ∧ iImm11_0 insn = 0 then
    makeInsn .fenceI .none
  else invalidInsn (some "unrecognised synch. instruction")

def rvdecIty5 (insn : BitVec 32) : InsnTyArgspecPair :=
  if funct3 insn = 0 ∧ rd insn = 0 ∧ rs1 insn = 0 then
    if iImm11_0 insn = 0 then makeInsn .ecall .none
    else if iImm11_0 insn = 0b000000000001 then makeInsn .ebreak .none
    else invalidInsn (some "unrecognised environment insn. immediate specifier")
  else
    match funct3 insn with
    | 0b001#3 => makeInsn .csrrw .r32CsrR32
    | 0b010#3 => makeInsn .csrrs .r32CsrR32
    | 0b011#3 => makeInsn .csrrc .r32CsrR32
    | 0b101#3 => makeInsn .csrrwi .r32CsrU5
    | 0b110#3 => makeInsn .csrrsi .r32CsrU5
    | 0b111#3 => makeInsn .csrrci .r32CsrU5
    | _ => invalidInsn (some "unrecognised environment insn. function bits")

def fltfuncSingle : BitVec 16 := 0b010
def fltfuncDouble : BitVec 16 := 0b011

def rvdecIty6 (insn : BitVec 32) : InsnTyArgspecPair :=
  if (funct3 insn).setWidth 16 = fltfuncSingle ∨ (funct3 insn).setWidth 16 = fltfuncDouble then
    makeInsn .flx .fxMXOffs
  else invalidInsn (some "unrecognised float-load function bits")

def ityPair (insn : BitVec 32) : InsnArgspecPair :=
  { insn :=
      { rd := (rd insn).setWidth 8
        rs1 := (rs1 insn).setWidth 8
        funct := (funct3 insn).setWidth 16
        imm := signext (promote (iImm11_0 insn)) (1 <<< 11) } }

def rvdecIty (state : RvState) (insn : BitVec 32) : Except Abort (Insn × RvState) :=
  match opcode insn with
  | 0b1100111#7 => rvdecReturn state ((ityPair insn).opCase (rvdecIty1 insn))
  | 0b0000011#7 => rvdecReturn state ((ityPair insn).opCase (rvdecIty2 insn))
  | 0b0010011#7 => do
    let group ← rvdecIty3 insn
    rvdecReturn state ((ityPair insn).opCase group)
  | 0b0001111#7 => rvdecReturn state ((ityPair insn).opCase (rvdecIty4 insn))
  | 0b1110011#7 => rvdecReturn state ((ityPair insn).opCase (rvdecIty5 insn))
  | 0b0000111#7 => rvdecReturn state ((ityPair insn).opCase (rvdecIty6 insn))
  | _ => rvdecReturn state (ityPair insn)

def rvdecSty1 (insn : BitVec 32) : InsnTyArgspecPair :=
  match funct3 insn with
  | 0b000#3 => makeInsn .sb .m8OffsR32
  | 0b001#3 => makeInsn .sh .m16OffsR32
  | 0b010#3 => makeInsn .sw .m32OffsR32
  | _ => invalidInsn (some "unrecognised store insn. function bits")

def rvdecSty2 (insn : BitVec 32) : InsnTyArgspecPair :=
  if (funct3 insn).setWidth 16 = fltfuncSingle ∨ (funct3 insn).setWidth 16 = fltfuncDouble then
    makeInsn .fsx .mXOffsFx
  else invalidInsn (some "unrecognised float store insn. function bits")

def styPair (insn : BitVec 32) : InsnArgspecPair :=
  { insn :=
      { rs1 := (rs1 insn).setWidth 8
        rs2 := (rs2 insn).setWidth 8
        funct := (funct3 insn).setWidth 16
        imm := signext (promote (sImm11_5 insn) <<< 5 ||| promote (sImm4_0 insn)) (1 <<< 11) } }

def rvdecSty (state : RvState) (insn : BitVec 32) : Except Abort (Insn × RvState) :=
  rvdecReturn state <|
    match opcode insn with
    | 0b0100011#7 => (styPair insn).opCase (rvdecSty1 insn)
    | 0b0100111#7 => (styPair insn).opCase (rvdecSty2 insn)
    | _ => styPair insn

def btyPair (insn : BitVec 32) : InsnArgspecPair :=
  { insn :=
      { rs1 := (rs1 insn).setWidth 8
        rs2 := (rs2 insn).setWidth 8
        funct := (funct3 insn).setWidth 16
        imm := signext
          (promote (bImm12 insn) <<< 12 ||| promote (bImm11 insn) <<< 11 |||
            promote (bImm10_5 insn) <<< 5 ||| promote (bImm4_1 insn) <<< 1)
          (1 <<< 12) } }

def rvdecBtyPair (insn : BitVec 32) : InsnArgspecPair :=
  match funct3 insn with
  | 0b000#3 => (btyPair insn).insnCase .beq .r32R32Pcrel
  | 0b001#3 => (btyPair insn).insnCase .bne .r32R32Pcrel
  | 0b100#3 => (btyPair insn).insnCase .blt .r32R32Pcrel
  | 0b101#3 => (btyPair insn).insnCase .bge .r32R32Pcrel
  | 0b110#3 => (btyPair insn).insnCase .bltu .r32R32Pcrelu
  | 0b111#3 => (btyPair insn).insnCase .bgeu .r32R32Pcrelu
  | _ => { btyPair insn with diagn := some "invalid branch function bit\n" }

def rvdecBty (state : RvState) (insn : BitVec 32) : Except Abort (Insn × RvState) :=
  rvdecReturn state (rvdecBtyPair insn)

def utyPair (insn : BitVec 32) : InsnArgspecPair :=
  { insn := { rd := (rd insn).setWidth 8, imm := promote (uImm31_12 insn) } }

def rvdecUty (state : RvState) (insn : BitVec 32) : Except Abort (Insn × RvState) :=
  rvdecReturn state <|
    match opcode insn with
    | 0b0110111#7 => (utyPair insn).insnCase .lui .r32U20
    | 0b0010111#7 => (utyPair insn).insnCase .auipc .r32U20
    | _ => utyPair insn

def jtyPair (insn : BitVec 32) : InsnArgspecPair :=
  { insn :=
      { insnTy := .jal
        rd := (rd insn).setWidth 8
        imm := signext
          (promote (jImm20 insn) <<< 20 ||| promote (jImm19_12 insn) <<< 12 |||
            promote (jImm11 insn) <<< 11 ||| promote (jImm10_1 insn) <<< 1)
          (1 <<< 20) }
    argspec := .r32Pcrel }

def rvdecJty (state : RvState) (insn : BitVec 32) : Except Abort (Insn × RvState) :=
  rvdecReturn state (jtyPair insn)

def insnOpcondI (n : BitVec 7) : Bool :=
  n = 0b1100111 ∨ n = 0b0000011 ∨ n = 0b0010011 ∨ n = 0b0001111 ∨ n = 0b1110011 ∨ n = 0b0000111
def insnOpcondR (n : BitVec 7) : Bool := n = 0b0110011 ∨ n = 0b1010011
def insnOpcondS (n : BitVec 7) : Bool := n = 0b0100011 ∨ n = 0b0100111
def insnOpcondU (n : BitVec 7) : Bool := n = 0b0010111 ∨ n = 0b0110111
def insnOpcondJ (n : BitVec 7) : Bool := n = 0b1101111
def insnOpcondB (n : BitVec 7) : Bool := n = 0b1100011
def insnOpcondR4 (n : BitVec 7) : Bool :=
  n = 0b1000011 ∨ n = 0b1000111 ∨ n = 0b1001011 ∨ n = 0b1001111

def rvdecInsn (state : RvState) (bytes : BitVec 32) : Except Abort (Insn × RvState) :=
  if insnOpcondR (opcode bytes) then rvdecRty state bytes
  else if insnOpcondI (opcode bytes) then rvdecIty state bytes
  else if insnOpcondS (opcode bytes) then rvdecSty state bytes
  else if insnOpcondU (opcode bytes) then rvdecUty state bytes
  else if insnOpcondJ (opcode bytes) then rvdecJty state bytes
  else if insnOpcondB (opcode bytes) then rvdecBty state bytes
  else if insnOpcondR4 (opcode bytes) then rvdecR4ty state bytes
  else .ok ({ insnTy := .invalid }, rvtrbkDiagn state "unrecognised instruction format")

end Urv86t
