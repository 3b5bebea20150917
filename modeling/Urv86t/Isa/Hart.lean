import Urv86t.Isa.Encoding
import Urv86t.Shared.ByteMemory

set_option autoImplicit false

/-!
# A reference RV32I hart

The execution of `Base` as the ISA manual describes it: no alignment traps, and an `x0` that nothing can
write.
-/

namespace Rv32

open ByteMemory

/-- `len` successive byte addresses from `a` on, which wrap at the end of the address space. -/
def byteAddr (a : Word) (k : Nat) : Word := a + BitVec.ofNat 32 k

structure Hart where
  x : Reg → Word
  zero : x 0#5 = 0#32
  pc : Word
  mem : Memory Word

namespace Hart

def write (h : Hart) (rd : Reg) (v : Word) : Hart :=
  if hardwired : rd = 0#5 then h
  else
    { h with
      x := Function.update h.x rd v
      zero := by rw [Function.update_of_ne (Ne.symm hardwired), h.zero] }

def jump (h : Hart) (target : Word) : Hart := { h with pc := target }

def next (h : Hart) : Hart := h.jump (h.pc + 4)

def fetch (h : Hart) : Word := load h.mem (byteAddr h.pc) 4

@[simp] theorem write_x (h : Hart) (rd r : Reg) (v : Word) :
    (h.write rd v).x r = if r ≠ 0#5 ∧ r = rd then v else h.x r := by
  by_cases hardwired : rd = 0#5
  · have kept : ¬(r ≠ 0#5 ∧ r = rd) := by
      rintro ⟨nonzero, rfl⟩
      exact nonzero hardwired
    rw [write, dif_pos hardwired, if_neg kept]
  · by_cases same : r = rd
    · subst same
      simp [write, hardwired]
    · simp [write, hardwired, same]

@[simp] theorem write_pc (h : Hart) (rd : Reg) (v : Word) : (h.write rd v).pc = h.pc := by
  by_cases hardwired : rd = 0#5 <;> simp [write, hardwired]

@[simp] theorem write_mem (h : Hart) (rd : Reg) (v : Word) : (h.write rd v).mem = h.mem := by
  by_cases hardwired : rd = 0#5 <;> simp [write, hardwired]

@[simp] theorem jump_x (h : Hart) (target : Word) : (h.jump target).x = h.x := rfl
@[simp] theorem jump_pc (h : Hart) (target : Word) : (h.jump target).pc = target := rfl
@[simp] theorem jump_mem (h : Hart) (target : Word) : (h.jump target).mem = h.mem := rfl

end Hart

def BranchOp.taken (a b : Word) : BranchOp → Bool
  | .beq => a = b
  | .bne => a ≠ b
  | .blt => a.toInt < b.toInt
  | .bge => a.toInt ≥ b.toInt
  | .bltu => a.toNat < b.toNat
  | .bgeu => a.toNat ≥ b.toNat

def LoadOp.width : LoadOp → Nat
  | .lb => 1 | .lh => 2 | .lw => 4 | .lbu => 1 | .lhu => 2

def LoadOp.extend : (op : LoadOp) → BitVec (8 * op.width) → Word
  | .lb, v => v.signExtend 32
  | .lh, v => v.signExtend 32
  | .lw, v => v
  | .lbu, v => v.zeroExtend 32
  | .lhu, v => v.zeroExtend 32

def StoreOp.width : StoreOp → Nat
  | .sb => 1 | .sh => 2 | .sw => 4

def ImmOp.eval (a imm : Word) : ImmOp → Word
  | .addi => a + imm
  | .slti => if a.toInt < imm.toInt then 1 else 0
  | .sltiu => if a.toNat < imm.toNat then 1 else 0
  | .xori => a ^^^ imm
  | .ori => a ||| imm
  | .andi => a &&& imm

def ShiftOp.eval (a : Word) (shamt : BitVec 5) : ShiftOp → Word
  | .slli => a <<< shamt.toNat
  | .srli => a >>> shamt.toNat
  | .srai => a.sshiftRight shamt.toNat

-- Register shifts use the low five bits of the second operand.
def RegOp.eval (a b : Word) : RegOp → Word
  | .add => a + b
  | .sub => a - b
  | .sll => a <<< (b.extractLsb' 0 5).toNat
  | .slt => if a.toInt < b.toInt then 1 else 0
  | .sltu => if a.toNat < b.toNat then 1 else 0
  | .xor => a ^^^ b
  | .srl => a >>> (b.extractLsb' 0 5).toNat
  | .sra => a.sshiftRight (b.extractLsb' 0 5).toNat
  | .or => a ||| b
  | .and => a &&& b

def Base.exec : Base → Hart → Hart
  | .lui rd imm, h => (h.write rd (imm ++ 0#12)).next
  | .auipc rd imm, h => (h.write rd (h.pc + (imm ++ 0#12))).next
  | .jal rd halfwords, h =>
    (h.write rd (h.pc + 4)).jump (h.pc + (jumpOffset halfwords).signExtend 32)
  | .jalr rd rs1 imm, h =>
    (h.write rd (h.pc + 4)).jump ((h.x rs1 + imm.signExtend 32) &&& ~~~1)
  | .branch op rs1 rs2 halfwords, h =>
    if op.taken (h.x rs1) (h.x rs2) then h.jump (h.pc + (branchOffset halfwords).signExtend 32) else h.next
  | .load op rd rs1 imm, h =>
    (h.write rd (op.extend (ByteMemory.load h.mem (byteAddr (h.x rs1 + imm.signExtend 32)) op.width))).next
  | .store op rs1 rs2 imm, h =>
    { h with
      mem := ByteMemory.store h.mem (byteAddr (h.x rs1 + imm.signExtend 32)) op.width
        ((h.x rs2).setWidth (8 * op.width)) }.next
  | .opImm op rd rs1 imm, h => (h.write rd (op.eval (h.x rs1) (imm.signExtend 32))).next
  | .shift op rd rs1 shamt, h => (h.write rd (op.eval (h.x rs1) shamt)).next
  | .reg op rd rs1 rs2, h => (h.write rd (op.eval (h.x rs1) (h.x rs2))).next

def Base.access : Base → Hart → Option (Word × Nat)
  | .load op _ rs1 imm, h => some (h.x rs1 + imm.signExtend 32, op.width)
  | .store op rs1 _ imm, h => some (h.x rs1 + imm.signExtend 32, op.width)
  | _, _ => none

inductive Run (allowed : Word → Nat → Prop) : Nat → Hart → Hart → Prop where
  | done (h : Hart) : Run allowed 0 h h
  | step {n : Nat} {h h' : Hart} (i : Base) (fetched : h.fetch = i.encode) (code : allowed h.pc 4)
      (data : ∀ a len, i.access h = some (a, len) → allowed a len) (rest : Run allowed n (i.exec h) h') :
      Run allowed (n + 1) h h'

end Rv32
