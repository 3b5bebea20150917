import Urv86t.Isa.FloatHart
import Urv86t.Isa.Hart
import Urv86t.Isa.MulDiv
import Urv86t.Shared.Simulation

set_option autoImplicit false

/-!
# A reference user process

RV32IM with the float transfers on one flat memory, and the five calls of a process that only writes: WRITE,
FSTAT, BRK, EXIT, and a READ that finds its input at the end.
-/

namespace Rv32

open ByteMemory Simulation

inductive Request where
  | write (fd : Word) (bytes : List Byte)
  | stat (fd : Word)
  | exit (code : Word)
  deriving DecidableEq, Repr

structure Environment where
  write : (fd : Word) → (bytes : List Byte) → Word
  stat : (fd : Word) → Word × Option (Nat → Byte)
  deriving Inhabited

-- The size of the record, which is the one of the host's.
def statSize : Nat := 144

structure Process where
  hart : Hart
  f : Reg → BitVec 64
  -- The area the program break moves in.
  heap : Word
  limit : Word
  brk : Word
  exited : Bool := false

namespace Process

def float (p : Process) : FloatHart Word where
  f := p.f
  x := p.hart.x
  zero := p.hart.zero
  pc := p.hart.pc
  mem := p.hart.mem

def withFloat (p : Process) (h : FloatHart Word) : Process :=
  { p with hart := { x := h.x, zero := h.zero, pc := h.pc, mem := h.mem }, f := h.f }

def bytes (p : Process) (a : Word) (len : Nat) : List Byte :=
  (List.range len).map fun k => p.hart.mem (byteAddr a k)

def answer (p : Process) (v : Word) : Process := { p with hart := (p.hart.write 10 v).next }

def Grants (p : Process) (request : Word) : Prop :=
  request ≠ 0 ∧ p.heap.toNat ≤ request.toNat ∧ request.toNat ≤ p.limit.toNat

instance (p : Process) (request : Word) : Decidable (p.Grants request) :=
  inferInstanceAs (Decidable (_ ∧ _ ∧ _))

def moveBreak (p : Process) (request : Word) : Process :=
  if p.Grants request then { p with brk := request }.answer request else p.answer p.brk

def recordAt (p : Process) (a : Word) : Option (Nat → Byte) → Process
  | none => p
  | some record => { p with hart := { p.hart with mem := ByteMemory.write p.hart.mem (byteAddr a) statSize record } }

def number (p : Process) : Nat := (p.hart.x 17).toNat

/-- ECALL; the other numbers are none of this process's calls. -/
def call (env : Environment) (p : Process) : Process :=
  match p.number with
  | 63 => p.answer 0
  | 64 => p.answer (env.write (p.hart.x 10) (p.bytes (p.hart.x 11) (p.hart.x 12).toNat))
  | 80 => (p.recordAt (p.hart.x 11) (env.stat (p.hart.x 10)).2).answer (env.stat (p.hart.x 10)).1
  | 93 => { p with hart := p.hart.next, exited := true }
  | 214 => p.moveBreak (p.hart.x 10)
  | _ => p

def request (p : Process) : Option Request :=
  match p.number with
  | 64 => some (.write (p.hart.x 10) (p.bytes (p.hart.x 11) (p.hart.x 12).toNat))
  | 80 => some (.stat (p.hart.x 10))
  | 93 => some (.exit (p.hart.x 10))
  | _ => none

end Process

inductive UserInstr where
  | base (i : Base)
  | mul (op : MulOp) (rd rs1 rs2 : Reg)
  | transfer (t : Transfer)
  | ecall
  deriving DecidableEq, Repr

namespace UserInstr

def encode : UserInstr → Word
  | .base i => i.encode
  | .mul op rd rs1 rs2 => (Instr.mul op rd rs1 rs2).encode
  | .transfer t => t.encode
  | .ecall => Instr.ecall.encode

def exec (env : Environment) : UserInstr → Process → Process
  | .base i, p => { p with hart := i.exec p.hart }
  | .mul op rd rs1 rs2, p =>
    { p with hart := (p.hart.write rd (op.exec (p.hart.x rs1) (p.hart.x rs2))).next }
  | .transfer t, p => p.withFloat (t.exec byteAddr p.float)
  | .ecall, p => p.call env

def request : UserInstr → Process → Option Request
  | .ecall, p => p.request
  | _, _ => none

end UserInstr

def userProcess (supported : Process → UserInstr → Prop) : Machine Process Environment (Option Request) where
  step p env asked p' := p.exited = false ∧
    ∃ i : UserInstr, p.hart.fetch = i.encode ∧ supported p i ∧ asked = i.request p ∧ p' = i.exec env p

end Rv32
