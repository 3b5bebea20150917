import Urv86t.Decoder.FloatEncoded
import Urv86t.Emulator.Dispatch

set_option autoImplicit false

/-!
# Precision of the computational instructions

The decoder leaves the precision of an instruction in `funct`, and the dispatcher reads it there. Loads and
stores keep their width in `funct3`; the encodings below keep theirs in bits 26:25.
-/

namespace Urv86t

open Rv32

def fmtCase : Fmt → FltCase
  | .s => .single | .d => .double

def FltCase.funct : FltCase → BitVec 16
  | .single => fltfuncSingle | .double => fltfuncDouble

structure Operands where
  f1 : BitVec 64
  f2 : BitVec 64
  f3 : BitVec 64
  x1 : BitVec 32

def operands (state : RvState) (rs1 rs2 rs3 : Reg) : Operands :=
  ⟨state.fregs rs1, state.fregs rs2, state.fregs rs3, state.regs rs1⟩

/-- Comparisons and conversions to an integer leave their result in an integer register. -/
def destination (state : RvState) (rd : Reg) : Compute → BitVec 64
  | .compare _ _ | .toInt _ _ _ => (state.regs rd).setWidth 64
  | _ => state.fregs rd

def Precise (c : Compute) : Prop :=
  ∀ float : HostFloat, ∃ result : Operands → BitVec 64,
    ∀ (rd rs1 rs2 rs3 : Reg) (calls : HostCalls) (state : RvState) (insn : Insn) (after : RvState),
      rvdecInsn state (c.encode rd rs1 rs2 rs3) = .ok (insn, after) → insn.insnTy ≠ .invalid →
        ∃ arm, rvemuDispatch float calls after insn = .ok arm ∧ arm.fltCase = some (fmtCase c.fmt) ∧
          destination arm.state rd c = result (operands after rs1 rs2 rs3)

theorem fltSwitch_ran {insn : Insn} {onSingle onDouble default : Except Abort Dispatched} {arm : Dispatched}
    {ran : FltCase} (switch : fltSwitch insn onSingle onDouble default = .ok arm)
    (inner : arm.fltCase = some ran) (silent : ∀ other, default = .ok other → other.fltCase = none) :
    insn.funct = ran.funct := by
  rcases fltSwitch_returned switch with ⟨single, _, _, rfl⟩ | ⟨double, _, _, rfl⟩ | ⟨_, _, fellOut⟩
  · cases inner
    exact single
  · cases inner
    exact double
  · rw [silent arm fellOut] at inner
    cases inner

variable {float : HostFloat} {calls : HostCalls} {state : RvState}

theorem rvemuDispatchInsn_ran {insn : Insn} {arm : Dispatched} {ran : FltCase} (c : Compute)
    (ty : insn.insnTy = computeTy c) (dispatched : rvemuDispatchInsn float calls state insn = .ok arm)
    (inner : arm.fltCase = some ran) : insn.funct = ran.funct := by
  have unreachable : ∀ other, builtinUnreachable = .ok other → other.fltCase = none := by
    intro other returned
    cases returned
  have fallOut : ∀ other, (.ok { state := state } : Except Abort Dispatched) = .ok other →
      other.fltCase = none := by
    intro other returned
    cases returned
    rfl
  cases c with
  | arith op fmt rm =>
    cases op <;> simp only [rvemuDispatchInsn, ty, computeTy, floatArithTy] at dispatched <;>
      exact fltSwitch_ran dispatched inner unreachable
  | sqrt fmt rm =>
    simp only [rvemuDispatchInsn, ty, computeTy] at dispatched
    exact fltSwitch_ran dispatched inner unreachable
  | sign op fmt =>
    cases op <;> simp only [rvemuDispatchInsn, ty, computeTy, signTy] at dispatched <;>
      exact fltSwitch_ran dispatched inner unreachable
  | minMax op fmt =>
    cases op <;> simp only [rvemuDispatchInsn, ty, computeTy, minMaxTy] at dispatched <;>
      exact fltSwitch_ran dispatched inner fallOut
  | compare op fmt =>
    cases op <;> simp only [rvemuDispatchInsn, ty, computeTy, compareTy] at dispatched <;>
      exact fltSwitch_ran dispatched inner fallOut
  | toInt intTy fmt rm =>
    cases intTy <;> simp only [rvemuDispatchInsn, ty, computeTy, toIntTy] at dispatched <;>
      exact fltSwitch_ran dispatched inner unreachable
  | ofInt intTy fmt rm =>
    simp only [rvemuDispatchInsn, ty, computeTy] at dispatched
    exact fltSwitch_ran dispatched inner unreachable
  | fused op fmt rm =>
    cases op <;> simp only [rvemuDispatchInsn, ty, computeTy, fusedTy] at dispatched <;>
      exact fltSwitch_ran dispatched inner unreachable

theorem rvemuDispatch_ran {insn : Insn} {arm : Dispatched} {ran : FltCase} (c : Compute)
    (ty : insn.insnTy = computeTy c) (dispatched : rvemuDispatch float calls state insn = .ok arm)
    (inner : arm.fltCase = some ran) : insn.funct = ran.funct := by
  obtain ⟨inside, body, rfl⟩ := rvemuDispatch_returned dispatched
  exact rvemuDispatchInsn_ran c ty body inner

theorem fltArm_single {insn : Insn} (single : insn.funct = fltfuncSingle) (val : BitVec 32)
    (other : BitVec 64) (default : Except Abort Dispatched) :
    fltArm state insn val other default =
      .ok { state := rvfloatWriteF32 state insn.rd val, fltCase := some .single } := by
  rw [fltArm, fltSwitch_single insn single]
  rfl

theorem fltArm_double {insn : Insn} (double : insn.funct = fltfuncDouble) (other : BitVec 32)
    (val : BitVec 64) (default : Except Abort Dispatched) :
    fltArm state insn other val default =
      .ok { state := rvfloatWriteF64 state insn.rd val, fltCase := some .double } := by
  rw [fltArm, fltSwitch_double insn double]
  rfl

/-- FADD.S rounding down, and the fused instructions whose rounding mode looks like their precision. -/
def FunctIsFmt : Compute → Prop
  | .arith .fadd .s .rdn => True
  | .fused _ .s .rdn => True
  | .fused _ .d .rup => True
  | _ => False

theorem computeFunct_fmt_iff (c : Compute) :
    computeFunct c = (fmtCase c.fmt).funct ↔ FunctIsFmt c := by
  cases c with
  | arith op fmt rm => cases op <;> cases fmt <;> cases rm <;> simp [FunctIsFmt] <;> decide
  | sqrt fmt rm => cases fmt <;> cases rm <;> simp [FunctIsFmt] <;> decide
  | sign op fmt => cases op <;> cases fmt <;> simp [FunctIsFmt] <;> decide
  | minMax op fmt => cases op <;> cases fmt <;> simp [FunctIsFmt] <;> decide
  | compare op fmt => cases op <;> cases fmt <;> simp [FunctIsFmt] <;> decide
  | toInt ty fmt rm => cases ty <;> cases fmt <;> cases rm <;> simp [FunctIsFmt] <;> decide
  | ofInt ty fmt rm => cases ty <;> cases fmt <;> cases rm <;> simp [FunctIsFmt] <;> decide
  | fused op fmt rm => cases op <;> cases fmt <;> cases rm <;> simp [FunctIsFmt] <;> decide

def unbox (boxed : BitVec 64) : BitVec 32 := (rvfloatNanboxUnpack boxed).setWidth 32

theorem rvfloatReadF32_reg (state : RvState) (r : Reg) :
    rvfloatReadF32 state (r.setWidth 8) = unbox (state.fregs r) := by
  rw [rvfloatReadF32, rvmemFreg, reg_roundTrip, unbox]

theorem rvfloatReadF64_reg (state : RvState) (r : Reg) :
    rvfloatReadF64 state (r.setWidth 8) = state.fregs r := by
  rw [rvfloatReadF64, rvmemFreg, reg_roundTrip]

section Arms

variable (c : Compute) (single : HostFloat → Operands → BitVec 32) (double : HostFloat → Operands → BitVec 64)

structure WritesFloat : Prop where
  register : ∀ state rd, destination state rd c = state.fregs rd
  arm : ∀ host calls state rd rs1 rs2 rs3,
    rvemuDispatchInsn host calls state (computeInsn rd rs1 rs2 rs3 c) =
      fltArm state (computeInsn rd rs1 rs2 rs3 c) (single host (operands state rs1 rs2 rs3))
        (double host (operands state rs1 rs2 rs3)) builtinUnreachable

variable {c single double}

theorem WritesFloat.precise_single (writes : WritesFloat c single double) (fmt : c.fmt = .s)
    (funct : computeFunct c = fltfuncSingle) : Precise c := by
  intro host
  refine ⟨fun sources => rvfloatNanboxSaturate (single host sources), ?_⟩
  intro rd rs1 rs2 rs3 calls state insn after decoded _
  rw [rvdecInsn_compute] at decoded
  cases decoded
  have body := writes.arm host calls (rvbkptCheckInsn state (computeInsn rd rs1 rs2 rs3 c)) rd rs1 rs2 rs3
  rw [fltArm_single funct] at body
  refine ⟨_, rvemuDispatch_ok body, by rw [fmt]; rfl, ?_⟩
  rw [writes.register]
  simp [rvfloatWriteF32, RvState.setFregp, computeInsn, operands, rvbkptCheckInsn]

theorem WritesFloat.precise_double (writes : WritesFloat c single double) (fmt : c.fmt = .d)
    (funct : computeFunct c = fltfuncDouble) : Precise c := by
  intro host
  refine ⟨double host, ?_⟩
  intro rd rs1 rs2 rs3 calls state insn after decoded _
  rw [rvdecInsn_compute] at decoded
  cases decoded
  have body := writes.arm host calls (rvbkptCheckInsn state (computeInsn rd rs1 rs2 rs3 c)) rd rs1 rs2 rs3
  rw [fltArm_double funct] at body
  refine ⟨_, rvemuDispatch_ok body, by rw [fmt]; rfl, ?_⟩
  rw [writes.register]
  simp [rvfloatWriteF64, RvState.setFregp, computeInsn, operands, rvbkptCheckInsn]

end Arms

def fusedSingle : FusedOp → HostFloat → Operands → BitVec 32
  | .fmadd, host, o => host.add32 (host.mul32 (unbox o.f1) (unbox o.f2)) (unbox o.f3)
  | .fmsub, host, o => host.sub32 (host.mul32 (unbox o.f1) (unbox o.f2)) (unbox o.f3)
  | .fnmsub, host, o => host.add32 (host.mul32 (neg32 (unbox o.f1)) (unbox o.f2)) (unbox o.f3)
  | .fnmadd, host, o => host.sub32 (host.mul32 (neg32 (unbox o.f1)) (unbox o.f2)) (unbox o.f3)

def fusedDouble : FusedOp → HostFloat → Operands → BitVec 64
  | .fmadd, host, o => host.add64 (host.mul64 o.f1 o.f2) o.f3
  | .fmsub, host, o => host.sub64 (host.mul64 o.f1 o.f2) o.f3
  | .fnmsub, host, o => host.add64 (host.mul64 (neg64 o.f1) o.f2) o.f3
  | .fnmadd, host, o => host.sub64 (host.mul64 (neg64 o.f1) o.f2) o.f3

theorem writesFloat_fadd (fmt : Fmt) (rm : RoundingMode) :
    WritesFloat (.arith .fadd fmt rm) (fun host o => host.add32 (unbox o.f1) (unbox o.f2))
      (fun host o => host.add64 o.f1 o.f2) where
  register _ _ := rfl
  arm host calls state rd rs1 rs2 rs3 := by
    simp only [rvemuDispatchInsn, computeInsn, computeTy, floatArithTy, operands, rvfloatReadF32_reg,
      rvfloatReadF64_reg]

theorem writesFloat_fused (op : FusedOp) (fmt : Fmt) (rm : RoundingMode) :
    WritesFloat (.fused op fmt rm) (fusedSingle op) (fusedDouble op) where
  register _ _ := rfl
  arm host calls state rd rs1 rs2 rs3 := by
    cases op <;>
      simp only [rvemuDispatchInsn, computeInsn, computeTy, fusedTy, operands, fusedSingle, fusedDouble,
        rvfloatReadF32_reg, rvfloatReadF64_reg]

theorem precise_of_functIsFmt (c : Compute) (agree : FunctIsFmt c) : Precise c := by
  have funct := (computeFunct_fmt_iff c).mpr agree
  unfold FunctIsFmt at agree
  split at agree
  · exact (writesFloat_fadd .s .rdn).precise_single rfl funct
  · rename_i op
    exact (writesFloat_fused op .s .rdn).precise_single rfl funct
  · rename_i op
    exact (writesFloat_fused op .d .rup).precise_double rfl funct
  · exact agree.elim

theorem computeTy_valid (c : Compute) : computeTy c ≠ .invalid := by
  cases c with
  | arith op _ _ | sign op _ | minMax op _ | compare op _ | toInt op _ _ | fused op _ _ =>
    cases op <;> simp [computeTy, floatArithTy, signTy, minMaxTy, compareTy, toIntTy, fusedTy]
  | sqrt _ _ | ofInt _ _ _ => simp [computeTy]

theorem funct_of_precise (c : Compute) (precise : Precise c) : computeFunct c = (fmtCase c.fmt).funct := by
  obtain ⟨result, every⟩ := precise default
  obtain ⟨arm, dispatched, inner, -⟩ :=
    every 0 0 0 0 default (rvstateInit {} fun _ => 0) _ _ (rvdecInsn_compute _ c 0 0 0 0) (computeTy_valid c)
  exact rvemuDispatch_ran c rfl dispatched inner

theorem rvemuDispatch_precise_iff (c : Compute) : Precise c ↔ FunctIsFmt c := by
  constructor
  · intro precise
    exact (computeFunct_fmt_iff c).mp (funct_of_precise c precise)
  · exact precise_of_functIsFmt c

-- `fadd.d f0, f1, f2` in the default rounding mode runs into the unreachable default.
theorem rvemuDispatch_not_precise :
    (∃ insn after, rvdecInsn (rvstateInit {} fun _ => 0) 0x02208053#32 = .ok (insn, after) ∧
        insn.insnTy = .faddx ∧
        ∀ float calls, rvemuDispatch float calls after insn = .error .unreachable) ∧
      ¬∀ c, Precise c := by
  constructor
  · refine ⟨_, _, rvdecInsn_compute _ (.arith .fadd .d .rne) 0#5 1#5 2#5 0#5, rfl, ?_⟩
    intro float calls
    rfl
  · intro every
    exact (computeFunct_fmt_iff _).mp (funct_of_precise _ (every (.arith .fadd .d .rne)))

end Urv86t
