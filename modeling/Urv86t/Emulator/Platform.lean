import Mathlib.Logic.Function.Basic

set_option autoImplicit false

namespace Urv86t

inductive EInsn where
  | invalid
  -- RV32I
  | lui | auipc | jal | jalr | beq | bne | blt | bge | bltu | bgeu
  | lb | lh | lw | lbu | lhu | sb | sh | sw
  | addi | slti | sltiu | xori | ori | andi | slli | srli | srai
  | add | sub | sll | slt | sltu | xor | srl | sra | or | and
  | fence | fenceI | ecall | ebreak
  | csrrw | csrrs | csrrc | csrrwi | csrrsi | csrrci
  -- EXT_RV32M_INSNS
  | mul | mulh | mulhsu | mulhu | div | divu | rem | remu
  -- EXT_RV32FD_INSNS
  | flx | fsx | fmaddx | fmsubx | fnmsubx | fnmaddx | faddx | fsubx | fmulx | fdivx | fsqrtx
  | fsgnjx | fsgnjnx | fsgnjxx | fminx | fmaxx | feqx | fltx | fclassx | flex
  | fcvtXW | fcvtXWu | fcvtWX | fcvtWuX | fmvXW | fmvWX | fcvtSD | fcvtDS
  -- EXT_RV32C_INSNS
  | cNop | cAddi | cJal | cLi | cAddi16sp | cLui | cSrli | cSrai | cAndi | cSub | cXor | cOr | cAnd
  | cJ | cBeqz | cBnez | cAddi4spn | cFld | cLw | cFlw | cFsd | cSw | cFsw | cSlli | cSlli64
  | cFldsp | cLwsp | cFlwsp | cJr | cMv | cEbreak | cJalr | cAdd | cFsdsp | cSwsp | cFswsp
  deriving DecidableEq, Repr

/-- `insn_t`; the decoders store five-bit fields in the four `u8` register selectors. -/
structure Insn where
  insnTy : EInsn := .invalid
  rd : BitVec 8 := 0
  rs1 : BitVec 8 := 0
  rs2 : BitVec 8 := 0
  rs3 : BitVec 8 := 0
  funct : BitVec 16 := 0
  imm : BitVec 32 := 0
  deriving DecidableEq, Repr

/-- How a call can fail to return: the process aborts, traps, or its behaviour is undefined. -/
inductive Abort where
  | fatal (msg : String)
  | unreachable
  | divisionTrap
  | nullDereference
  deriving DecidableEq, Repr

theorem bind_returned {α β : Type} {call : Except Abort α} {rest : α → Except Abort β} {b : β}
    (returned : (call >>= rest) = .ok b) : ∃ a, call = .ok a ∧ rest a = .ok b := by
  cases call with
  | error abort => cases returned
  | ok a => exact ⟨a, rfl, returned⟩

theorem map_returned {α β : Type} {call : Except Abort α} {f : α → β} {b : β}
    (returned : call.map f = .ok b) : ∃ a, call = .ok a ∧ f a = b := by
  cases call with
  | error abort => cases returned
  | ok a => exact ⟨a, rfl, Except.ok.inj returned⟩

-- `union insn_base`: bit-fields are allocated from the least significant bit.
namespace InsnBase

def opcode (insn : BitVec 32) : BitVec 7 := insn.extractLsb' 0 7
def rd (insn : BitVec 32) : BitVec 5 := insn.extractLsb' 7 5
def funct3 (insn : BitVec 32) : BitVec 3 := insn.extractLsb' 12 3
def rs1 (insn : BitVec 32) : BitVec 5 := insn.extractLsb' 15 5
def rs2 (insn : BitVec 32) : BitVec 5 := insn.extractLsb' 20 5
def funct7 (insn : BitVec 32) : BitVec 7 := insn.extractLsb' 25 7
def r4Rs3 (insn : BitVec 32) : BitVec 5 := insn.extractLsb' 27 5
def iImm11_0 (insn : BitVec 32) : BitVec 12 := insn.extractLsb' 20 12
def sImm4_0 (insn : BitVec 32) : BitVec 5 := insn.extractLsb' 7 5
def sImm11_5 (insn : BitVec 32) : BitVec 7 := insn.extractLsb' 25 7
def bImm11 (insn : BitVec 32) : BitVec 1 := insn.extractLsb' 7 1
def bImm4_1 (insn : BitVec 32) : BitVec 4 := insn.extractLsb' 8 4
def bImm10_5 (insn : BitVec 32) : BitVec 6 := insn.extractLsb' 25 6
def bImm12 (insn : BitVec 32) : BitVec 1 := insn.extractLsb' 31 1
def uImm31_12 (insn : BitVec 32) : BitVec 20 := insn.extractLsb' 12 20
def jImm19_12 (insn : BitVec 32) : BitVec 8 := insn.extractLsb' 12 8
def jImm11 (insn : BitVec 32) : BitVec 1 := insn.extractLsb' 20 1
def jImm10_1 (insn : BitVec 32) : BitVec 10 := insn.extractLsb' 21 10
def jImm20 (insn : BitVec 32) : BitVec 1 := insn.extractLsb' 31 1

end InsnBase

/-- The integer promotion a bit-field undergoes in an expression. -/
abbrev promote {n : Nat} (field : BitVec n) : BitVec 32 := field.setWidth 32

def signext (word signBit : BitVec 32) : BitVec 32 :=
  if word &&& signBit ≠ 0 then word ||| ~~~(signBit - 1) else word

theorem signext_mask (n : Fin 32) : ~~~((1#32 <<< n.val) - 1) = BitVec.allOnes 32 <<< n.val := by
  revert n
  decide

theorem signext_promote {n : Nat} (x : BitVec (n + 1)) (small : n < 32) :
    signext (promote x) (1#32 <<< n) = x.signExtend 32 := by
  have top : (x.setWidth 32).getLsbD n = x.msb := by simp [BitVec.msb_eq_getLsbD_last, small]
  have single : 1#32 <<< n = BitVec.twoPow 32 n := by simp [BitVec.twoPow]
  have nonzero : BitVec.twoPow 32 n ≠ 0 := by
    intro zero
    have bit := congrArg (fun v => BitVec.getLsbD v n) zero
    simp [small] at bit
  unfold signext
  rw [signext_mask ⟨n, small⟩, single, BitVec.and_twoPow, top]
  cases negative : x.msb
  · simp [BitVec.signExtend_eq_setWidth_of_msb_false negative]
  · simp only [if_true, if_pos nonzero]
    apply BitVec.eq_of_getLsbD_eq
    intro i hi
    simp only [BitVec.getLsbD_or, BitVec.getLsbD_setWidth, BitVec.getLsbD_shiftLeft,
      BitVec.getLsbD_allOnes, BitVec.getLsbD_signExtend, hi, negative]
    rcases Nat.lt_trichotomy i n with low | last | high
    · simp [low, show i < n + 1 by omega]
    · have sign := BitVec.msb_eq_getLsbD_last x
      rw [negative] at sign
      subst last
      simpa using sign.symm
    · simp [show ¬i < n by omega, show ¬i < n + 1 by omega, show i - n < 32 by omega]

end Urv86t
