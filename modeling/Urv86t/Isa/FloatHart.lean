import Urv86t.Isa.FloatEncoding
import Urv86t.Shared.ByteMemory

set_option autoImplicit false

/-!
# A reference hart with float registers

The float transfers as the ISA manual describes them. An address selects the cells that back the bytes from
it on, in a memory of any kind.
-/

namespace Rv32

open ByteMemory

structure FloatHart (A : Type) where
  f : Reg → BitVec 64
  x : Reg → Word
  zero : x 0#5 = 0#32
  pc : Word
  mem : Memory A

namespace FloatHart

variable {A : Type}

def write (h : FloatHart A) (rd : Reg) (v : Word) : FloatHart A :=
  if hardwired : rd = 0#5 then h
  else
    { h with
      x := Function.update h.x rd v
      zero := by rw [Function.update_of_ne (Ne.symm hardwired), h.zero] }

def writeF (h : FloatHart A) (rd : Reg) (v : BitVec 64) : FloatHart A :=
  { h with f := Function.update h.f rd v }

def next (h : FloatHart A) : FloatHart A := { h with pc := h.pc + 4 }

theorem ext_fields {h h' : FloatHart A} (f : h.f = h'.f) (x : h.x = h'.x) (pc : h.pc = h'.pc)
    (mem : h.mem = h'.mem) : h = h' := by
  cases h
  cases h'
  cases f
  cases x
  cases pc
  cases mem
  rfl

@[simp] theorem write_x (h : FloatHart A) (rd : Reg) (v : Word) :
    (h.write rd v).x = if rd = 0#5 then h.x else Function.update h.x rd v := by
  by_cases hardwired : rd = 0#5 <;> simp [write, hardwired]

@[simp] theorem write_f (h : FloatHart A) (rd : Reg) (v : Word) : (h.write rd v).f = h.f := by
  by_cases hardwired : rd = 0#5 <;> simp [write, hardwired]

@[simp] theorem write_pc (h : FloatHart A) (rd : Reg) (v : Word) : (h.write rd v).pc = h.pc := by
  by_cases hardwired : rd = 0#5 <;> simp [write, hardwired]

@[simp] theorem write_mem (h : FloatHart A) (rd : Reg) (v : Word) : (h.write rd v).mem = h.mem := by
  by_cases hardwired : rd = 0#5 <;> simp [write, hardwired]

end FloatHart

def Fmt.bytes : Fmt → Nat
  | .s => 4 | .d => 8

/-- A register holds a single in its low half, below a half of ones. -/
def Fmt.widen : (fmt : Fmt) → BitVec (8 * fmt.bytes) → BitVec 64
  | .s, v => 0xffffffff#32 ++ v
  | .d, v => v

def Fmt.narrow : (fmt : Fmt) → BitVec 64 → BitVec (8 * fmt.bytes)
  | .s, v => v.setWidth 32
  | .d, v => v

theorem Fmt.narrow_widen (fmt : Fmt) (v : BitVec (8 * fmt.bytes)) : fmt.narrow (fmt.widen v) = v := by
  cases fmt with
  | s =>
    have low (v : BitVec 32) : (0xffffffff#32 ++ v).setWidth 32 = v := BitVec.setWidth_append_eq_right
    exact low v
  | d => rfl

inductive Transfer where
  | load (fmt : Fmt) (rd rs1 : Reg) (imm : BitVec 12)
  | store (fmt : Fmt) (rs1 rs2 : Reg) (imm : BitVec 12)
  | moveToInt (rd rs1 : Reg)
  | moveOfInt (rd rs1 : Reg)
  deriving DecidableEq, Repr

namespace Transfer

variable {A : Type} [DecidableEq A] (cells : Word → Nat → A)

def instr : Transfer → FloatInstr
  | .load fmt rd rs1 imm => .load fmt rd rs1 imm
  | .store fmt rs1 rs2 imm => .store fmt rs1 rs2 imm
  | .moveToInt rd rs1 => .moveToInt rd rs1
  | .moveOfInt rd rs1 => .moveOfInt rd rs1

def encode (t : Transfer) : Word := t.instr.encode

def address (h : FloatHart A) : Transfer → Option Word
  | .load _ _ rs1 imm => some (h.x rs1 + imm.signExtend 32)
  | .store _ rs1 _ imm => some (h.x rs1 + imm.signExtend 32)
  | _ => none

def exec : Transfer → FloatHart A → FloatHart A
  | .load fmt rd rs1 imm, h =>
    (h.writeF rd (fmt.widen (ByteMemory.load h.mem (cells (h.x rs1 + imm.signExtend 32)) fmt.bytes))).next
  | .store fmt rs1 rs2 imm, h =>
    { h with
      mem := ByteMemory.store h.mem (cells (h.x rs1 + imm.signExtend 32)) fmt.bytes
        (fmt.narrow (h.f rs2)) }.next
  | .moveToInt rd rs1, h => (h.write rd ((h.f rs1).setWidth 32)).next
  | .moveOfInt rd rs1, h => (h.writeF rd (0xffffffff#32 ++ h.x rs1)).next

def execAll (ts : List Transfer) (h : FloatHart A) : FloatHart A := ts.foldl (fun h t => t.exec cells h) h

def Along (P : Transfer → FloatHart A → Prop) : List Transfer → FloatHart A → Prop
  | [], _ => True
  | t :: rest, h => P t h ∧ Along P rest (t.exec cells h)

def Fetched (t : Transfer) (h : FloatHart A) : Prop := ByteMemory.load h.mem (cells h.pc) 4 = t.encode

instance (t : Transfer) (h : FloatHart A) : Decidable (Fetched cells t h) :=
  inferInstanceAs (Decidable (_ = _))

def Reaches (allowed : Word → Prop) (t : Transfer) (h : FloatHart A) : Prop :=
  allowed h.pc ∧ ∀ a, t.address h = some a → allowed a

def target : Transfer → Option Reg
  | .load _ rd _ _ => some rd
  | .moveOfInt rd _ => some rd
  | _ => none

inductive Takes (h : FloatHart A) (r : Reg) : (fmt : Fmt) → BitVec (8 * fmt.bytes) → Transfer → Prop where
  | load (fmt : Fmt) (rs1 : Reg) (imm : BitVec 12) :
    Takes h r fmt (ByteMemory.load h.mem (cells (h.x rs1 + imm.signExtend 32)) fmt.bytes)
      (.load fmt r rs1 imm)
  | move (rs1 : Reg) : Takes h r .s (h.x rs1) (.moveOfInt r rs1)

inductive Delivers (h : FloatHart A) (r : Reg) : (fmt : Fmt) → BitVec (8 * fmt.bytes) → Transfer → Prop where
  | store (fmt : Fmt) (rs1 : Reg) (imm : BitVec 12) :
    Delivers h r fmt (ByteMemory.load h.mem (cells (h.x rs1 + imm.signExtend 32)) fmt.bytes)
      (.store fmt rs1 r imm)
  | move (rd : Reg) (writable : rd ≠ 0#5) : Delivers h r .s (h.x rd) (.moveToInt rd r)

def RoundTrips (ts : List Transfer) (before after : FloatHart A) : Prop :=
  ∀ first middle last r fmt v w, ts = first :: (middle ++ [last]) →
    Takes cells before r fmt v first → (∀ t ∈ middle, t.target ≠ some r) →
      Delivers cells after r fmt w last → w = v

variable {cells} {h : FloatHart A} {r : Reg} {fmt : Fmt} {v : BitVec (8 * fmt.bytes)}

theorem Takes.exec_f {t : Transfer} (takes : Takes cells h r fmt v t) : (t.exec cells h).f r = fmt.widen v := by
  cases takes with
  | load => exact Function.update_self _ _ _
  | move => exact Function.update_self _ _ _

theorem exec_f_other (t : Transfer) (h : FloatHart A) (other : t.target ≠ some r) :
    (t.exec cells h).f r = h.f r := by
  cases t with
  | load _ rd _ _ | moveOfInt rd _ =>
    have apart : r ≠ rd := by
      rintro rfl
      exact other rfl
    exact Function.update_of_ne apart _ h.f
  | store => rfl
  | moveToInt => simp [exec, FloatHart.next]

theorem execAll_f_other (ts : List Transfer) (h : FloatHart A) (other : ∀ t ∈ ts, t.target ≠ some r) :
    (execAll cells ts h).f r = h.f r := by
  induction ts generalizing h with
  | nil => rfl
  | cons t rest ih =>
    have kept := ih (t.exec cells h) fun later member => other later (by simp [member])
    exact kept.trans (exec_f_other t h (other t (by simp)))

theorem Delivers.pattern {t : Transfer} (distinct : ∀ a, Function.Injective (cells a))
    (delivers : Delivers cells (t.exec cells h) r fmt v t) : v = fmt.narrow (h.f r) := by
  cases delivers with
  | store fmt rs1 imm => exact load_store _ _ _ _ (distinct _)
  | move rd writable =>
    simp only [exec, FloatHart.next, FloatHart.write_x, if_neg writable, Function.update_self]
    rfl

theorem execAll_roundTrips (distinct : ∀ a, Function.Injective (cells a)) (ts : List Transfer)
    (h : FloatHart A) : RoundTrips cells ts h (execAll cells ts h) := by
  rintro first middle last r fmt v w rfl takes untouched delivers
  have split : execAll cells (first :: (middle ++ [last])) h =
      last.exec cells (execAll cells middle (first.exec cells h)) := by
    simp [execAll]
  rw [split] at delivers
  rw [delivers.pattern distinct, execAll_f_other middle _ untouched, takes.exec_f, fmt.narrow_widen]

end Transfer

end Rv32
