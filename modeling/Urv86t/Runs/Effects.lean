import Urv86t.Memory.Touches

set_option autoImplicit false

namespace Urv86t

open ByteMemory

inductive Effect (state : RvState) (insn : Insn) : RvState → BitVec 32 → Prop where
  | compute (regs : BitVec 5 → BitVec 32) (fregs : BitVec 5 → BitVec 64) (host : Memory Nat) :
      Effect state insn { state with regs := regs, fregs := fregs, host := host } 4
  | jump (regs : BitVec 5 → BitVec 32) (pc : BitVec 32) :
      Effect state insn { state with regs := regs, pc := pc } 0
  | suspend (other : insn.insnTy ≠ .fclassx) : Effect state insn { state with suspended := true } 4
  | fclass (ty : insn.insnTy = .fclassx) : Effect state insn { state with suspended := true } 0
  | brk (ty : insn.insnTy = .ecall) (number : state.regs 17 = 214) (regs : BitVec 5 → BitVec 32)
      (mem : ElfContext) : Effect state insn { state with regs := regs, mem := mem } 4

theorem rvsyscBrk_changes {state next : RvState} {brk val : BitVec 32}
    (ran : rvsyscBrk state brk = .ok (val, next)) : ∃ mem, next = { state with mem := mem } := by
  cases found : elfGetRegionByTag regionTagHeap state.mem.loadRegions with
  | none =>
    simp only [rvsyscBrk, found] at ran
    cases ran
  | some split =>
    simp only [rvsyscBrk, found] at ran
    split at ran
    · cases ran
      exact ⟨state.mem, rfl⟩
    split at ran
    · cases ran
      exact ⟨state.mem, rfl⟩
    · cases ran
      exact ⟨_, rfl⟩

section Arms

variable {state : RvState} {insn : Insn}

def Has (state : RvState) (insn : Insn) (result : Except Abort Dispatched) : Prop :=
  ∀ arm, result = .ok arm → Effect state insn arm.state arm.pcOffset

theorem has_error (abort : Abort) : Has state insn (.error abort) := nofun

theorem has_ok {arm : Dispatched} (effect : Effect state insn arm.state arm.pcOffset) :
    Has state insn (.ok arm) := by
  rintro _ ⟨⟩
  exact effect

theorem has_unchanged : Has state insn (.ok { state := state }) := has_ok (.compute _ _ _)

theorem has_writeRd (val : BitVec 32) : Has state insn (writeRd state insn val) := has_ok (.compute _ _ _)

theorem has_branchArm (taken : Bool) : Has state insn (branchArm state insn taken) := by
  cases taken with
  | false => exact has_unchanged
  | true => exact has_ok (.jump _ _)

theorem has_rvmemAt {addr : BitVec 32} {rest : Nat → Except Abort Dispatched}
    (kept : ∀ ptr, Has state insn (rest ptr)) : Has state insn (rvmemAt state addr >>= rest) := by
  intro arm ran
  obtain ⟨ptr, -, ran⟩ := rvmemAt_then_ok ran
  exact kept ptr arm ran

theorem has_loadArm {len : Nat} {assign : BitVec (8 * len) → RvState}
    (effect : ∀ val, Effect state insn (assign val) 4) : Has state insn (loadArm state insn len assign) :=
  has_rvmemAt fun _ => has_ok (effect _)

theorem has_storeArm {len : Nat} (val : BitVec (8 * len)) : Has state insn (storeArm state insn len val) :=
  has_rvmemAt fun _ => has_ok (.compute _ _ _)

theorem has_fltSwitch {single double default : Except Abort Dispatched} (onSingle : Has state insn single)
    (onDouble : Has state insn double) (onDefault : Has state insn default) :
    Has state insn (fltSwitch insn single double default) := fun _ ran =>
  fltSwitch_all (P := fun arm => Effect state insn arm.state arm.pcOffset) (fun _ _ effect => effect) onSingle
    onDouble onDefault ran

theorem has_fltArm (single : BitVec 32) (double : BitVec 64) {default : Except Abort Dispatched}
    (onDefault : Has state insn default) : Has state insn (fltArm state insn single double default) :=
  has_fltSwitch (has_ok (.compute _ _ _)) (has_ok (.compute _ _ _)) onDefault

theorem has_division {trap : Prop} [Decidable trap] (val : BitVec 32) :
    Has state insn (if trap then .error .divisionTrap else writeRd state insn val) := by
  split
  · exact has_error _
  · exact has_writeRd val

theorem has_suspend (other : insn.insnTy ≠ .fclassx) :
    Has state insn (.ok { state := { state with suspended := true } }) :=
  has_ok (.suspend other)

theorem has_rvemuDispatchSyscall {calls : HostCalls} (ty : insn.insnTy = .ecall) :
    Has state insn (rvemuDispatchSyscall calls state) := by
  have other : insn.insnTy ≠ .fclassx := by
    rw [ty]
    decide
  simp only [rvemuDispatchSyscall]
  split
  · exact has_rvmemAt fun _ => has_ok (.compute _ _ _)
  · exact has_rvmemAt fun _ => has_ok (.compute _ _ _)
  · exact has_suspend other
  · exact has_rvmemAt fun _ => has_ok (.compute _ _ _)
  next number =>
    intro arm ran
    obtain ⟨⟨val, next⟩, changed, ran⟩ := bind_returned ran
    cases ran
    obtain ⟨mem, rfl⟩ := rvsyscBrk_changes changed
    exact .brk ty (BitVec.eq_of_toNat_eq number) _ mem
  · exact has_suspend other

theorem rvemuDispatchInsn_effect {float : HostFloat} {calls : HostCalls} :
    Has state insn (rvemuDispatchInsn float calls state insn) := by
  cases ty : insn.insnTy <;> simp only [rvemuDispatchInsn, ty, builtinUnreachable]
  case ecall => exact has_rvemuDispatchSyscall ty
  case fclassx => exact has_ok (.fclass ty)
  case jal | jalr => exact has_ok (.jump _ _)
  case ebreak => exact has_unchanged
  case fence | fenceI => exact has_suspend (by rw [ty]; decide)
  case csrrw | csrrs | csrrc | csrrwi | csrrsi | csrrci => exact has_suspend (by rw [ty]; decide)
  all_goals
    first
      | with_reducible exact has_writeRd _
      | with_reducible exact has_branchArm _
      | with_reducible exact has_storeArm _
      | with_reducible exact has_division _
      | with_reducible exact has_error _
      | with_reducible exact has_fltArm _ _ (has_error _)
      | with_reducible exact has_fltArm _ _ has_unchanged
      | with_reducible refine has_loadArm fun _ => ?_
      | with_reducible refine has_fltSwitch ?_ ?_ ?_
      | exact has_suspend (by rw [ty]; decide)
      | exact has_ok (.compute _ _ _)
  all_goals
    first
      | with_reducible exact has_writeRd _
      | with_reducible exact has_storeArm _
      | with_reducible exact has_error _
      | with_reducible exact has_unchanged
      | with_reducible refine has_loadArm fun _ => ?_
      | exact .compute _ _ _
  all_goals exact .compute _ _ _

end Arms

end Urv86t
