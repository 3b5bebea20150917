import Mathlib.Data.Fin.Basic
import Urv86t.Emulator.State

set_option autoImplicit false

namespace Urv86t

def chkCondMask {n : Nat} (mask insn comp : BitVec n) : Bool := (comp &&& mask) == (insn &&& mask)

def rvbkptInsnMatch (cond : RvbkptEvInsncond) (insn : Insn) : Bool :=
  cond.insnComp.insnTy == insn.insnTy
    && chkCondMask cond.insnMask.rd insn.rd cond.insnComp.rd
    && chkCondMask cond.insnMask.rs1 insn.rs1 cond.insnComp.rs1
    && chkCondMask cond.insnMask.rs2 insn.rs2 cond.insnComp.rs2
    && chkCondMask cond.insnMask.funct insn.funct cond.insnComp.funct
    && chkCondMask cond.insnMask.imm insn.imm cond.insnComp.imm

/-- The loop body of `rvbkpt_check_insn`. -/
def rvbkptCheckEv (pc : BitVec 32) (insn : Insn) (ev : RvbkptEv) : RvbkptEv :=
  if !ev.active then ev
  else if ev.triggered then { ev with triggered := false }
  else
    let condMatch :=
      if ev.insnCond.insnComp.insnTy ≠ .invalid then rvbkptInsnMatch ev.insnCond insn else false
    -- A pc condition replaces the outcome of the instruction condition.
    let condMatch := match ev.pcCond.comp with
      | .gt => if ev.pcCond.sign then decide (pc.toInt > ev.pcCond.val.toInt) else decide (pc > ev.pcCond.val)
      | .lt => if ev.pcCond.sign then decide (pc.toInt < ev.pcCond.val.toInt) else decide (pc < ev.pcCond.val)
      | .eq => if ev.pcCond.sign then decide (pc.toInt = ev.pcCond.val.toInt) else decide (pc = ev.pcCond.val)
      | .none => condMatch
    { ev with triggered := condMatch }

def rvbkptCheckInsn (state : RvState) (insn : Insn) : RvState :=
  { state with bkptEvArr := fun evIdx => rvbkptCheckEv state.pc insn (state.bkptEvArr evIdx) }

/-- The slot whose address is returned, if any. -/
def rvbkptPoll (state : RvState) : Option (Fin maxBkpt) × RvState :=
  match Fin.find? fun evIdx => (state.bkptEvArr evIdx).active && (state.bkptEvArr evIdx).triggered with
  | none => (none, state)
  | some evIdx =>
    let ev := state.bkptEvArr evIdx
    if ev.oneShot then
      (some evIdx,
        { state with bkptEvArr := Function.update state.bkptEvArr evIdx { ev with active := false } })
    else (some evIdx, state)

def rvbkptAdd (state : RvState) (ev : RvbkptEv) : RvState :=
  match Fin.find? fun evIdx => !(state.bkptEvArr evIdx).active with
  | none => state
  | some evIdx => { state with bkptEvArr := Function.update state.bkptEvArr evIdx ev }

end Urv86t
