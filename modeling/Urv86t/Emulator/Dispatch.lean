import Urv86t.Emulator.Bkpt
import Urv86t.Emulator.Decoder
import Urv86t.Emulator.Float
import Urv86t.Emulator.Syscall

set_option autoImplicit false

namespace Urv86t

open ByteMemory

inductive FltCase where
  | single | double
  deriving DecidableEq, Repr

/--
The state an arm of the switch of `rvemu_dispatch` leaves and the value of `pc_offset` behind it.
`touched` lists the host memory the arm used, and `fltCase` the case of an inner
`switch (insn.funct)` that ran, if one did.
-/
structure Dispatched where
  state : RvState
  pcOffset : BitVec 32 := 4
  touched : List HostAccess := []
  fltCase : Option FltCase := none

/-- `*rvmem_regp (state, insn.rd) = val` -/
def writeRd (state : RvState) (insn : Insn) (val : BitVec 32) : Except Abort Dispatched :=
  .ok { state := state.setRegp insn.rd val }

def loadArm (state : RvState) (insn : Insn) (len : Nat) (assign : BitVec (8 * len) → RvState) :
    Except Abort Dispatched := do
  let addr := rvmemReg state insn.rs1 + insn.imm
  let ptr ← rvmemAt state addr
  pure { state := assign (load state.host (hostCell ptr) len), touched := [⟨.data, addr, ptr, len⟩] }

def storeArm (state : RvState) (insn : Insn) (len : Nat) (val : BitVec (8 * len)) :
    Except Abort Dispatched := do
  let addr := rvmemReg state insn.rs1 + insn.imm
  let ptr ← rvmemAt state addr
  pure
    { state := { state with host := store state.host (hostCell ptr) len val }
      touched := [⟨.data, addr, ptr, len⟩] }

def branchArm (state : RvState) (insn : Insn) (taken : Bool) : Except Abort Dispatched :=
  if taken then .ok { state := { state with pc := state.pc + insn.imm }, pcOffset := 0 }
  else .ok { state := state }

def fltSwitch (insn : Insn) (single double : Except Abort Dispatched)
    (default : Except Abort Dispatched) : Except Abort Dispatched :=
  if insn.funct = fltfuncSingle then single.map ({ · with fltCase := some .single })
  else if insn.funct = fltfuncDouble then double.map ({ · with fltCase := some .double })
  else default

theorem fltSwitch_single (insn : Insn) (single : insn.funct = fltfuncSingle)
    (onSingle onDouble default : Except Abort Dispatched) :
    fltSwitch insn onSingle onDouble default = onSingle.map ({ · with fltCase := some .single }) :=
  if_pos single

theorem fltSwitch_double (insn : Insn) (double : insn.funct = fltfuncDouble)
    (onSingle onDouble default : Except Abort Dispatched) :
    fltSwitch insn onSingle onDouble default = onDouble.map ({ · with fltCase := some .double }) := by
  have other : insn.funct ≠ fltfuncSingle := by
    rw [double]
    decide
  rw [fltSwitch, if_neg other, if_pos double]

theorem fltSwitch_returned {insn : Insn} {onSingle onDouble default : Except Abort Dispatched}
    {arm : Dispatched} (switch : fltSwitch insn onSingle onDouble default = .ok arm) :
    (insn.funct = fltfuncSingle ∧ ∃ inner, onSingle = .ok inner ∧
        arm = { inner with fltCase := some .single }) ∨
      (insn.funct = fltfuncDouble ∧ ∃ inner, onDouble = .ok inner ∧
        arm = { inner with fltCase := some .double }) ∨
      insn.funct ≠ fltfuncSingle ∧ insn.funct ≠ fltfuncDouble ∧ default = .ok arm := by
  by_cases single : insn.funct = fltfuncSingle
  · rw [fltSwitch_single insn single] at switch
    cases onSingle with
    | error abort => cases switch
    | ok inner =>
      cases switch
      exact .inl ⟨single, inner, rfl, rfl⟩
  by_cases double : insn.funct = fltfuncDouble
  · rw [fltSwitch_double insn double] at switch
    cases onDouble with
    | error abort => cases switch
    | ok inner =>
      cases switch
      exact .inr (.inl ⟨double, inner, rfl, rfl⟩)
  · rw [fltSwitch, if_neg single, if_neg double] at switch
    exact .inr (.inr ⟨single, double, switch⟩)

theorem fltSwitch_all {P : Dispatched → Prop} {insn : Insn} {onSingle onDouble default : Except Abort Dispatched}
    (blind : ∀ arm ran, P arm → P { arm with fltCase := some ran }) (atSingle : ∀ arm, onSingle = .ok arm → P arm)
    (atDouble : ∀ arm, onDouble = .ok arm → P arm) (atDefault : ∀ arm, default = .ok arm → P arm)
    {arm : Dispatched} (switch : fltSwitch insn onSingle onDouble default = .ok arm) : P arm := by
  rcases fltSwitch_returned switch with ⟨-, inner, inside, rfl⟩ | ⟨-, inner, inside, rfl⟩ | ⟨-, -, fellOut⟩
  · exact blind inner .single (atSingle inner inside)
  · exact blind inner .double (atDouble inner inside)
  · exact atDefault arm fellOut

theorem fltSwitch_every {α : Type} {P : α → Dispatched → Prop} {insn : Insn} {single double other : α}
    {onSingle onDouble default : Except Abort Dispatched}
    (blind : ∀ a arm ran, P a arm → P a { arm with fltCase := some ran })
    (atSingle : ∀ arm, onSingle = .ok arm → P single arm) (atDouble : ∀ arm, onDouble = .ok arm → P double arm)
    (atDefault : ∀ arm, default = .ok arm → P other arm) {arm : Dispatched}
    (switch : fltSwitch insn onSingle onDouble default = .ok arm) :
    P (if insn.funct = fltfuncSingle then single else if insn.funct = fltfuncDouble then double else other)
      arm := by
  rcases fltSwitch_returned switch with
    ⟨isSingle, inner, inside, rfl⟩ | ⟨isDouble, inner, inside, rfl⟩ | ⟨notSingle, notDouble, fellOut⟩
  · rw [if_pos isSingle]
    exact blind single inner .single (atSingle inner inside)
  · have notSingle : insn.funct ≠ fltfuncSingle := by
      rw [isDouble]
      decide
    rw [if_neg notSingle, if_pos isDouble]
    exact blind double inner .double (atDouble inner inside)
  · rw [if_neg notSingle, if_neg notDouble]
    exact atDefault arm fellOut

def fltArm (state : RvState) (insn : Insn) (single : BitVec 32) (double : BitVec 64)
    (default : Except Abort Dispatched) : Except Abort Dispatched :=
  fltSwitch insn (.ok { state := rvfloatWriteF32 state insn.rd single })
    (.ok { state := rvfloatWriteF64 state insn.rd double }) default

def builtinUnreachable : Except Abort Dispatched := .error .unreachable

def rvemuDispatchSyscall (calls : HostCalls) (state : RvState) : Except Abort Dispatched := do
  -- Arguments in `a0`, `a1`, `a2`; the result goes to `a0`.
  let a0 := state.regs 10
  let a1 := state.regs 11
  let a2 := state.regs 12
  let result (state : RvState) (val : BitVec 32) : RvState :=
    { state with regs := Function.update state.regs 10 val }
  match (state.regs 17).toNat with
  | 63 => do -- RV_SYSCALL__READ
    let buff ← rvmemAt state a1
    pure { state := result state (rvsyscRead a0 buff a2) }
  | 64 => do -- RV_SYSCALL__WRITE
    let buff ← rvmemAt state a1
    pure
      { state := result state (rvsyscWrite calls state a0 buff a2)
        touched := [⟨.syscall, a1, buff, a2.toNat⟩] }
  | 93 => pure { state := rvsyscExit state } -- RV_SYSCALL__EXIT
  | 80 => do -- RV_SYSCALL__FSTAT
    let buff ← rvmemAt state a1
    let (val, state) := rvsyscFstat calls state a0 buff
    pure { state := result state val, touched := [⟨.syscall, a1, buff, sizeofStat⟩] }
  | 214 => do -- RV_SYSCALL__BRK
    let (val, state) ← rvsyscBrk state a0
    pure { state := result state val }
  | _ => pure { state := { state with suspended := true } }

def rvemuDispatchInsn (float : HostFloat) (calls : HostCalls) (state : RvState) (insn : Insn) :
    Except Abort Dispatched :=
  let rs1 := rvmemReg state insn.rs1
  let rs2 := rvmemReg state insn.rs2
  let rs1f := rvfloatReadF32 state insn.rs1
  let rs2f := rvfloatReadF32 state insn.rs2
  let rs3f := rvfloatReadF32 state insn.rs3
  let rs1d := rvfloatReadF64 state insn.rs1
  let rs2d := rvfloatReadF64 state insn.rs2
  let rs3d := rvfloatReadF64 state insn.rs3
  match insn.insnTy with
  -- Arithmetic/bitwise insns., reg-reg/reg-imm
  | .add => writeRd state insn (rs1 + rs2)
  | .sub => writeRd state insn (rs1 - rs2)
  | .sll => writeRd state insn (rs1 <<< (rs2 &&& 0x1f))
  | .slt => writeRd state insn (if rs1.slt rs2 then 1 else 0)
  | .sltu => writeRd state insn (if rs1 < rs2 then 1 else 0)
  | .xor => writeRd state insn (rs1 ^^^ rs2)
  | .srl => writeRd state insn (rs1 >>> (rs2 &&& 0x1f))
  | .sra => writeRd state insn (rs1.sshiftRight (rs2 &&& 0x1f).toNat)
  | .or => writeRd state insn (rs1 ||| rs2)
  | .and => writeRd state insn (rs1 &&& rs2)
  | .addi => writeRd state insn (rs1 + insn.imm)
  | .slli => writeRd state insn (rs1 <<< (insn.imm &&& 0x1f))
  | .slti => writeRd state insn (if rs1.slt insn.imm then 1 else 0)
  | .sltiu => writeRd state insn (if rs1 < insn.imm then 1 else 0)
  | .xori => writeRd state insn (rs1 ^^^ insn.imm)
  | .srli => writeRd state insn (rs1 >>> (insn.imm &&& 0x1f))
  | .srai => writeRd state insn (rs1.sshiftRight (insn.imm &&& 0x1f).toNat)
  | .ori => writeRd state insn (rs1 ||| insn.imm)
  | .andi => writeRd state insn (rs1 &&& insn.imm)
  -- Load/store insns.
  | .lb => loadArm state insn 1 fun val => state.setRegp insn.rd (val.signExtend 32)
  | .lh => loadArm state insn 2 fun val => state.setRegp insn.rd (val.signExtend 32)
  | .lw => loadArm state insn 4 fun val => state.setRegp insn.rd val
  | .lbu => loadArm state insn 1 fun val => state.setRegp insn.rd (val.setWidth 32)
  | .lhu => loadArm state insn 2 fun val => state.setRegp insn.rd (val.setWidth 32)
  | .sb => storeArm state insn 1 (rs2.setWidth 8)
  | .sh => storeArm state insn 2 (rs2.setWidth 16)
  | .sw => storeArm state insn 4 rs2
  -- Branch insns.
  | .beq => branchArm state insn (rs1 == rs2)
  | .bne => branchArm state insn (rs1 != rs2)
  | .blt => branchArm state insn (rs1.slt rs2)
  | .bge => branchArm state insn (rs2.sle rs1)
  | .bltu => branchArm state insn (rs1 < rs2)
  | .bgeu => branchArm state insn (rs1 ≥ rs2)
  -- Linked branch insns.
  | .jal =>
    let state := state.setRegp insn.rd (state.pc + 4)
    .ok { state := { state with pc := state.pc + insn.imm }, pcOffset := 0 }
  | .jalr =>
    let target := (rs1 + insn.imm) &&& ~~~1
    let state := state.setRegp insn.rd (state.pc + 4)
    .ok { state := { state with pc := target }, pcOffset := 0 }
  -- Upper imm. insns.
  | .lui => writeRd state insn (insn.imm <<< 12)
  | .auipc => writeRd state insn (state.pc + (insn.imm <<< 12))
  -- Environment insns.
  | .ecall => rvemuDispatchSyscall calls state
  | .ebreak => .ok { state := state }
  -- Synch. insns.
  | .fence | .fenceI => .ok { state := rvtrbkDiagn state "unimplemented synch. instructions" }
  -- CSR insns.
  | .csrrw | .csrrs | .csrrc | .csrrwi | .csrrsi | .csrrci =>
    .ok { state := rvtrbkDiagn state "unimplemented CSR. instructions" }
  -- EXT_M: the 64-bit products wrap, and the host division traps on its two partial cases.
  | .mul => writeRd state insn (rs1 * rs2)
  | .mulh | .mulhsu | .mulhu =>
    let prod : BitVec 64 := rs1.setWidth 64 * rs2.setWidth 64
    writeRd state insn ((prod.sshiftRight 32).setWidth 32)
  | .div =>
    if rs2 = 0 ∨ (rs1 = BitVec.intMin 32 ∧ rs2 = -1) then .error .divisionTrap
    else writeRd state insn (rs1.sdiv rs2)
  | .divu => if rs2 = 0 then .error .divisionTrap else writeRd state insn (rs1 / rs2)
  | .rem =>
    if rs2 = 0 ∨ (rs1 = BitVec.intMin 32 ∧ rs2 = -1) then .error .divisionTrap
    else writeRd state insn (rs1.srem rs2)
  | .remu => if rs2 = 0 then .error .divisionTrap else writeRd state insn (rs1 % rs2)
  -- EXT_FD
  | .flx =>
    fltSwitch insn
      (loadArm state insn 4 fun val => state.setFregp insn.rd (rvfloatNanboxSaturate val))
      (loadArm state insn 8 fun val => state.setFregp insn.rd val)
      builtinUnreachable
  | .fsx =>
    fltSwitch insn
      (storeArm state insn 4 ((rvfloatNanboxUnpack (rvmemFreg state insn.rs2)).setWidth 32))
      (storeArm state insn 8 (rvmemFreg state insn.rs2))
      builtinUnreachable
  | .faddx => fltArm state insn (float.add32 rs1f rs2f) (float.add64 rs1d rs2d) builtinUnreachable
  | .fsubx => fltArm state insn (float.sub32 rs1f rs2f) (float.sub64 rs1d rs2d) builtinUnreachable
  | .fmulx => fltArm state insn (float.mul32 rs1f rs2f) (float.mul64 rs1d rs2d) builtinUnreachable
  | .fdivx => fltArm state insn (float.div32 rs1f rs2f) (float.div64 rs1d rs2d) builtinUnreachable
  | .fmaddx =>
    fltArm state insn (float.add32 (float.mul32 rs1f rs2f) rs3f)
      (float.add64 (float.mul64 rs1d rs2d) rs3d) builtinUnreachable
  | .fmsubx =>
    fltArm state insn (float.sub32 (float.mul32 rs1f rs2f) rs3f)
      (float.sub64 (float.mul64 rs1d rs2d) rs3d) builtinUnreachable
  | .fnmsubx =>
    fltArm state insn (float.add32 (float.mul32 (neg32 rs1f) rs2f) rs3f)
      (float.add64 (float.mul64 (neg64 rs1d) rs2d) rs3d) builtinUnreachable
  | .fnmaddx =>
    fltArm state insn (float.sub32 (float.mul32 (neg32 rs1f) rs2f) rs3f)
      (float.sub64 (float.mul64 (neg64 rs1d) rs2d) rs3d) builtinUnreachable
  | .fsqrtx => fltArm state insn (float.sqrtf rs1f) (float.sqrt rs1d) builtinUnreachable
  | .fsgnjx => fltArm state insn (copysignf rs1f rs2f) (copysign rs1d rs2d) builtinUnreachable
  | .fsgnjnx =>
    fltArm state insn (copysignf rs1f (neg32 rs2f)) (copysign rs1d (neg64 rs2d)) builtinUnreachable
  | .fsgnjxx =>
    fltArm state insn ((rs1f &&& 0x7FFFFFFF) ||| ((rs1f ^^^ rs2f) &&& 0x80000000))
      ((rs1d &&& 0x7FFFFFFFFFFFFFFF) ||| ((rs1d ^^^ rs2d) &&& 0x8000000000000000)) builtinUnreachable
  -- The inner switches of the next five have no default.
  | .fminx => fltArm state insn (float.fminf rs1f rs2f) (float.fmin rs1d rs2d) (.ok { state := state })
  | .fmaxx => fltArm state insn (float.fmaxf rs1f rs2f) (float.fmax rs1d rs2d) (.ok { state := state })
  | .feqx =>
    fltSwitch insn (writeRd state insn (if float.eq32 rs1f rs2f then 1 else 0))
      (writeRd state insn (if float.eq64 rs1d rs2d then 1 else 0)) (.ok { state := state })
  | .fltx =>
    fltSwitch insn (writeRd state insn (if float.lt32 rs1f rs2f then 1 else 0))
      (writeRd state insn (if float.lt64 rs1d rs2d then 1 else 0)) (.ok { state := state })
  | .flex =>
    fltSwitch insn (writeRd state insn (if float.le32 rs1f rs2f then 1 else 0))
      (writeRd state insn (if float.le64 rs1d rs2d then 1 else 0)) (.ok { state := state })
  -- Returns before the common `pc` advance.
  | .fclassx => .ok { state := rvtrbkDiagn state "unimplemented fp insn.!", pcOffset := 0 }
  | .fcvtXW => fltArm state insn (float.f32OfI32 rs1) (float.f64OfI32 rs1) builtinUnreachable
  | .fcvtXWu => fltArm state insn (float.f32OfU32 rs1) (float.f64OfU32 rs1) builtinUnreachable
  | .fcvtWX =>
    fltSwitch insn (writeRd state insn (float.i32OfF32 rs1f)) (writeRd state insn (float.i32OfF64 rs1d))
      builtinUnreachable
  | .fcvtWuX =>
    fltSwitch insn (writeRd state insn (float.u32OfF32 rs1f)) (writeRd state insn (float.u32OfF64 rs1d))
      builtinUnreachable
  | .fmvXW => writeRd state insn ((rvfloatNanboxUnpack (rvmemFreg state insn.rs1)).setWidth 32)
  | .fmvWX => .ok { state := state.setFregp insn.rd (rvfloatNanboxSaturate rs1) }
  | .fcvtSD => .ok { state := rvfloatWriteF32 state insn.rd (float.f32OfF64 rs1d) }
  | .fcvtDS => .ok { state := rvfloatWriteF64 state insn.rd (float.f64OfF32 rs1f) }
  -- EXT_C
  | .cNop | .cAddi | .cJal | .cLi | .cAddi16sp | .cLui | .cSrli | .cSrai | .cAndi | .cSub | .cXor
  | .cOr | .cAnd | .cJ | .cBeqz | .cBnez | .cAddi4spn | .cFld | .cLw | .cFlw | .cFsd | .cSw | .cFsw
  | .cSlli | .cSlli64 | .cFldsp | .cLwsp | .cFlwsp | .cJr | .cMv | .cEbreak | .cJalr | .cAdd
  | .cFsdsp | .cSwsp | .cFswsp =>
    .ok { state := rvtrbkDiagn state "Compressed insns. not implemented\n" }
  | .invalid => builtinUnreachable

def rvemuDispatch (float : HostFloat) (calls : HostCalls) (state : RvState) (insn : Insn) :
    Except Abort Dispatched := do
  let arm ← rvemuDispatchInsn float calls (rvbkptCheckInsn state insn) insn
  pure { arm with state := { arm.state with pc := arm.state.pc + arm.pcOffset } }

theorem rvemuDispatch_ok {float : HostFloat} {calls : HostCalls} {state : RvState} {insn : Insn}
    {arm : Dispatched} (ran : rvemuDispatchInsn float calls (rvbkptCheckInsn state insn) insn = .ok arm) :
    rvemuDispatch float calls state insn =
      .ok { arm with state := { arm.state with pc := arm.state.pc + arm.pcOffset } } := by
  rw [rvemuDispatch, ran]
  rfl

theorem rvemuDispatch_returned {float : HostFloat} {calls : HostCalls} {state : RvState} {insn : Insn}
    {arm : Dispatched} (ran : rvemuDispatch float calls state insn = .ok arm) :
    ∃ inner, rvemuDispatchInsn float calls (rvbkptCheckInsn state insn) insn = .ok inner ∧
      arm = { inner with state := { inner.state with pc := inner.state.pc + inner.pcOffset } } := by
  obtain ⟨inner, body, answer⟩ := bind_returned ran
  cases answer
  exact ⟨inner, body, rfl⟩

end Urv86t
