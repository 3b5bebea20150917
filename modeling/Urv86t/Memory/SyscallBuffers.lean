import Urv86t.Memory.Touches

set_option autoImplicit false

namespace Urv86t

/-- The bytes the host uses from the buffer on, for the two calls that reach it. -/
def syscallLen (state : RvState) : Option Nat :=
  match (state.regs 17).toNat with
  | 64 => some (state.regs 12).toNat
  | 80 => some sizeofStat
  | _ => none

section Buffers

variable {calls : HostCalls} {state : RvState} {insn : Insn} {arm : Dispatched}

theorem rvemuDispatchSyscall_silent (other : syscallLen state = none)
    (ran : rvemuDispatchSyscall calls state = .ok arm) : arm.touched = [] := by
  simp only [rvemuDispatchSyscall] at ran
  split at ran
  case h_2 write =>
    rw [syscallLen, write] at other
    cases other
  case h_4 fstat =>
    rw [syscallLen, fstat] at other
    cases other
  case h_1 =>
    obtain ⟨buff, -, ran⟩ := rvmemAt_then_ok ran
    cases ran
    rfl
  case h_5 =>
    obtain ⟨⟨val, next⟩, -, ran⟩ := bind_returned ran
    cases ran
    rfl
  all_goals
    cases ran
    rfl

theorem rvemuDispatchSyscall_passed {len : Nat} (passed : syscallLen state = some len)
    (ran : rvemuDispatchSyscall calls state = .ok arm) :
    ∃ buff, state.mem.backing (state.regs 11) = some buff ∧
      arm.touched = [⟨.syscall, state.regs 11, buff, len⟩] := by
  rw [syscallLen] at passed
  split at passed
  next write =>
    cases passed
    simp only [rvemuDispatchSyscall, write] at ran
    obtain ⟨buff, found, ran⟩ := rvmemAt_then_ok ran
    cases ran
    exact ⟨buff, found, rfl⟩
  next fstat =>
    cases passed
    simp only [rvemuDispatchSyscall, fstat] at ran
    obtain ⟨buff, found, ran⟩ := rvmemAt_then_ok ran
    cases ran
    exact ⟨buff, found, rfl⟩
  next => cases passed

theorem rvemuDispatchSyscall_runs (calls : HostCalls) {len buff : Nat} (passed : syscallLen state = some len)
    (found : state.mem.backing (state.regs 11) = some buff) :
    ∃ arm, rvemuDispatchSyscall calls state = .ok arm := by
  rw [syscallLen] at passed
  split at passed
  next write =>
    simp only [rvemuDispatchSyscall, write, rvmemAt_found found]
    exact ⟨_, rfl⟩
  next fstat =>
    simp only [rvemuDispatchSyscall, fstat, rvmemAt_found found]
    exact ⟨_, rfl⟩
  next => cases passed

theorem rvemuDispatch_buffer_iff (float : HostFloat) (calls : HostCalls) (state : RvState) (insn : Insn)
    (ecall : insn.insnTy = .ecall) :
    (∀ arm, rvemuDispatch float calls state insn = .ok arm →
        ∀ access ∈ arm.touched, access.Inside state.mem) ↔
      ∀ len, syscallLen state = some len → Reaches state.mem (state.regs 11) len := by
  have body : rvemuDispatchInsn float calls (rvbkptCheckInsn state insn) insn =
      rvemuDispatchSyscall calls (rvbkptCheckInsn state insn) := by
    simp only [rvemuDispatchInsn, ecall]
  -- The breakpoint check leaves registers and table alone.
  have checked : syscallLen (rvbkptCheckInsn state insn) = syscallLen state := rfl
  cases passed : syscallLen state with
  | none =>
    refine iff_of_true ?_ (fun len impossible => by cases impossible)
    intro arm ran access touched
    obtain ⟨inner, called, rfl⟩ := rvemuDispatch_returned ran
    have silent := rvemuDispatchSyscall_silent (checked.trans passed) (body.symm.trans called)
    simp only [silent] at touched
    cases touched
  | some len =>
    have accesses : ∀ arm, rvemuDispatch float calls state insn = .ok arm →
        ∃ buff, state.mem.backing (state.regs 11) = some buff ∧
          arm.touched = [⟨.syscall, state.regs 11, buff, len⟩] := by
      intro arm ran
      obtain ⟨inner, called, rfl⟩ := rvemuDispatch_returned ran
      obtain ⟨buff, found, touched⟩ :=
        rvemuDispatchSyscall_passed (checked.trans passed) (body.symm.trans called)
      exact ⟨buff, found, touched⟩
    have runs : ∀ buff, state.mem.backing (state.regs 11) = some buff →
        ∃ arm, rvemuDispatch float calls state insn = .ok arm := by
      intro buff found
      obtain ⟨inner, called⟩ : ∃ inner, rvemuDispatchSyscall calls (rvbkptCheckInsn state insn) = .ok inner :=
        rvemuDispatchSyscall_runs calls (checked.trans passed) found
      exact ⟨_, rvemuDispatch_ok (body.trans called)⟩
    rw [single_access_iff accesses runs]
    constructor
    · intro reaches len' same
      cases same
      exact reaches
    · intro reaches
      exact reaches len rfl

end Buffers

def ecallInsn : Insn := { insnTy := .ecall }

-- A region of 16 bytes, and a call `number` with a buffer at its start and `count` in `a2`.
def callState (number count : BitVec 32) : RvState :=
  (((rvstateInit { loadRegions := [{ vmaBase := 0x1000, memBase := 0x5000, szReserved := 16 }] }
    fun _ => 0).setRegp 17 number).setRegp 11 0x1000).setRegp 12 count

theorem rvemuDispatch_buffer_whole :
    (∀ arm, rvemuDispatch default default (callState 64 16) ecallInsn = .ok arm →
      ∀ access ∈ arm.touched, access.Inside (callState 64 16).mem) ∧
      ∃ arm, rvemuDispatch default default (callState 64 16) ecallInsn = .ok arm ∧
        arm.touched = [⟨.syscall, 0x1000, 0x5000, 16⟩] := by
  refine ⟨(rvemuDispatch_buffer_iff default default (callState 64 16) ecallInsn rfl).mpr ?_, _, rfl, rfl⟩
  intro len passed region selected _
  have whole : len = 16 := (Option.some.inj passed).symm
  have only : region = { vmaBase := 0x1000, memBase := 0x5000, szReserved := 16 } :=
    (Option.some.inj selected).symm
  subst whole only
  decide

theorem callState_spills {number count : BitVec 32} {len : Nat} (larger : 16 < len) :
    ¬HostAccess.Inside (callState number count).mem ⟨.syscall, 0x1000, 0x5000, len⟩ := by
  rintro ⟨region, selected, -, high⟩
  have only : region = { vmaBase := 0x1000, memBase := 0x5000, szReserved := 16 } :=
    (Option.some.inj selected).symm
  subst only
  have buffer : 0x5000 + len ≤ 0x5010 := high
  omega

-- WRITE of one byte more than there is, and FSTAT to a buffer smaller than a `struct stat`.
theorem rvemuDispatch_buffer_spills :
    (∃ arm, rvemuDispatch default default (callState 64 17) ecallInsn = .ok arm ∧
      ∃ access ∈ arm.touched, ¬access.Inside (callState 64 17).mem) ∧
    ∃ arm, rvemuDispatch default default (callState 80 0) ecallInsn = .ok arm ∧
      ∃ access ∈ arm.touched, ¬access.Inside (callState 80 0).mem := by
  constructor
  · exact ⟨_, rfl, _, List.mem_singleton_self _, callState_spills (by decide : 16 < 17)⟩
  · exact ⟨_, rfl, _, List.mem_singleton_self _, callState_spills (by decide : 16 < sizeofStat)⟩

end Urv86t
