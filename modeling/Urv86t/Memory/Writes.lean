import Urv86t.Memory.SyscallBuffers
import Urv86t.Runs.Effects

set_option autoImplicit false

namespace Urv86t

open ByteMemory

def HostAccess.Covers (access : HostAccess) (cell : Nat) : Prop := access.ptr ≤ cell ∧ cell < access.ptr + access.len

/-- The host's FSTAT writes a record, and only where it is told to. -/
def WritesRecord (calls : HostCalls) : Prop :=
  ∀ fd buff host cell, ¬(buff ≤ cell ∧ cell < buff + sizeofStat) → (calls.fstat fd buff host).2 cell = host cell

structure Framed (calls : HostCalls) (state : RvState) (insn : Insn) (arm : Dispatched) : Prop where
  kept : WritesRecord calls →
    ∀ cell, (∀ access ∈ arm.touched, ¬access.Covers cell) → arm.state.host cell = state.host cell
  own : insn.insnTy ≠ .ecall → ∀ access ∈ arm.touched, access.kind = .data

def Frames (calls : HostCalls) (state : RvState) (insn : Insn) (result : Except Abort Dispatched) : Prop :=
  ∀ arm, result = .ok arm → Framed calls state insn arm

section Arms

variable {calls : HostCalls} {state : RvState} {insn : Insn}

theorem frames_error (abort : Abort) : Frames calls state insn (.error abort) := by
  rintro arm ⟨⟩

theorem frames_still {arm : Dispatched} (host : arm.state.host = state.host) (untouched : arm.touched = []) :
    Frames calls state insn (.ok arm) := by
  rintro _ ⟨⟩
  refine ⟨fun _ cell _ => congrFun host cell, fun _ access member => ?_⟩
  rw [untouched] at member
  cases member

theorem frames_writeRd (val : BitVec 32) : Frames calls state insn (writeRd state insn val) := frames_still rfl rfl

theorem frames_branchArm (taken : Bool) : Frames calls state insn (branchArm state insn taken) := by
  cases taken <;> exact frames_still rfl rfl

theorem frames_division (trap : Prop) [Decidable trap] (val : BitVec 32) :
    Frames calls state insn (if trap then .error .divisionTrap else writeRd state insn val) := by
  split
  · exact frames_error _
  · exact frames_writeRd val

theorem frames_rvmemAt {addr : BitVec 32} {rest : Nat → Except Abort Dispatched}
    (framed : ∀ ptr, Frames calls state insn (rest ptr)) : Frames calls state insn (rvmemAt state addr >>= rest) := by
  intro arm ran
  obtain ⟨ptr, -, ran⟩ := rvmemAt_then_ok ran
  exact framed ptr arm ran

theorem frames_loadArm {len : Nat} {assign : BitVec (8 * len) → RvState}
    (host : ∀ val, (assign val).host = state.host) : Frames calls state insn (loadArm state insn len assign) := by
  apply frames_rvmemAt
  rintro ptr _ ⟨⟩
  exact ⟨fun _ cell _ => congrFun (host _) cell, fun _ => List.forall_mem_singleton.mpr rfl⟩

theorem frames_storeArm (len : Nat) (val : BitVec (8 * len)) :
    Frames calls state insn (storeArm state insn len val) := by
  apply frames_rvmemAt
  rintro ptr _ ⟨⟩
  refine ⟨fun _ cell missed => ?_, fun _ => List.forall_mem_singleton.mpr rfl⟩
  apply store_miss
  rintro k inside rfl
  exact missed _ List.mem_cons_self ⟨Nat.le_add_right _ _, Nat.add_lt_add_left inside _⟩

theorem frames_fltSwitch {single double default : Except Abort Dispatched} (onSingle : Frames calls state insn single)
    (onDouble : Frames calls state insn double) (onDefault : Frames calls state insn default) :
    Frames calls state insn (fltSwitch insn single double default) := fun _ ran =>
  fltSwitch_all (P := Framed calls state insn) (fun _ _ framed => ⟨framed.kept, framed.own⟩) onSingle onDouble
    onDefault ran

theorem frames_fltArm (single : BitVec 32) (double : BitVec 64) {default : Except Abort Dispatched}
    (onDefault : Frames calls state insn default) : Frames calls state insn (fltArm state insn single double default) :=
  frames_fltSwitch (frames_still rfl rfl) (frames_still rfl rfl) onDefault

theorem frames_rvemuDispatchSyscall (ty : insn.insnTy = .ecall) :
    Frames calls state insn (rvemuDispatchSyscall calls state) := by
  simp only [rvemuDispatchSyscall]
  split
  · exact frames_rvmemAt fun _ => frames_still rfl rfl
  · apply frames_rvmemAt
    rintro buff _ ⟨⟩
    exact ⟨fun _ _ _ => rfl, fun other => absurd ty other⟩
  · exact frames_still rfl rfl
  · apply frames_rvmemAt
    rintro buff _ ⟨⟩
    refine ⟨fun records cell missed => ?_, fun other => absurd ty other⟩
    exact records _ buff _ cell (missed _ List.mem_cons_self)
  · intro arm ran
    obtain ⟨⟨val, next⟩, changed, ran⟩ := bind_returned ran
    obtain ⟨mem, rfl⟩ := rvsyscBrk_changes changed
    cases ran
    exact ⟨fun _ _ _ => rfl, fun other => absurd ty other⟩
  · exact frames_still rfl rfl

theorem rvemuDispatchInsn_frames (float : HostFloat) :
    Frames calls state insn (rvemuDispatchInsn float calls state insn) := by
  cases ty : insn.insnTy <;> simp only [rvemuDispatchInsn, ty, builtinUnreachable]
  case ecall => exact frames_rvemuDispatchSyscall ty
  case lb | lh | lw | lbu | lhu => exact frames_loadArm fun _ => rfl
  case sb | sh | sw => exact frames_storeArm _ _
  case beq | bne | blt | bge | bltu | bgeu => exact frames_branchArm _
  case div | divu | rem | remu => exact frames_division _ _
  case flx => exact frames_fltSwitch (frames_loadArm fun _ => rfl) (frames_loadArm fun _ => rfl) (frames_error _)
  case fsx => exact frames_fltSwitch (frames_storeArm _ _) (frames_storeArm _ _) (frames_error _)
  case fminx | fmaxx => exact frames_fltArm _ _ (frames_still rfl rfl)
  case fcvtWX | fcvtWuX => exact frames_fltSwitch (frames_writeRd _) (frames_writeRd _) (frames_error _)
  case feqx | fltx | flex => exact frames_fltSwitch (frames_writeRd _) (frames_writeRd _) (frames_still rfl rfl)
  case faddx | fsubx | fmulx | fdivx | fmaddx | fmsubx | fnmsubx | fnmaddx | fsqrtx | fsgnjx | fsgnjnx | fsgnjxx
      | fcvtXW | fcvtXWu => exact frames_fltArm _ _ (frames_error _)
  case invalid => exact frames_error _
  all_goals first | with_reducible exact frames_writeRd _ | exact frames_still rfl rfl

end Arms

end Urv86t
