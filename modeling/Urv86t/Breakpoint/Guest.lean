import Urv86t.Breakpoint.Slots
import Urv86t.Decoder.Verdict
import Urv86t.Emulator.Step

set_option autoImplicit false

namespace Urv86t

def Dispatched.withTable (table : BkptTable) (arm : Dispatched) : Dispatched :=
  { arm with state := arm.state.withTable table }

section Arms

variable (table : BkptTable) (state : RvState) (insn : Insn)

theorem rvmemAt_withTable (addr : BitVec 32) : rvmemAt (state.withTable table) addr = rvmemAt state addr := rfl

theorem loadArm_withTable {len : Nat} {assign assign' : BitVec (8 * len) → RvState}
    (assigned : ∀ val, assign' val = (assign val).withTable table) :
    loadArm (state.withTable table) insn len assign' =
      (loadArm state insn len assign).map (Dispatched.withTable table) := by
  have sameBase : rvmemReg (state.withTable table) insn.rs1 = rvmemReg state insn.rs1 := rfl
  simp only [loadArm, rvmemAt_withTable, sameBase, assigned]
  cases rvmemAt state (rvmemReg state insn.rs1 + insn.imm) with
  | error abort => rfl
  | ok ptr => rfl

theorem storeArm_withTable (len : Nat) (val : BitVec (8 * len)) :
    storeArm (state.withTable table) insn len val =
      (storeArm state insn len val).map (Dispatched.withTable table) := by
  have sameBase : rvmemReg (state.withTable table) insn.rs1 = rvmemReg state insn.rs1 := rfl
  simp only [storeArm, rvmemAt_withTable, sameBase]
  cases rvmemAt state (rvmemReg state insn.rs1 + insn.imm) with
  | error abort => rfl
  | ok ptr => rfl

theorem branchArm_withTable (taken : Bool) :
    branchArm (state.withTable table) insn taken =
      (branchArm state insn taken).map (Dispatched.withTable table) := by
  cases taken <;> rfl

theorem division_withTable (trap : Prop) [Decidable trap] (val : BitVec 32) :
    (if trap then .error .divisionTrap else writeRd (state.withTable table) insn val) =
      (if trap then .error .divisionTrap else writeRd state insn val).map (Dispatched.withTable table) := by
  split <;> rfl

variable {table insn} in
theorem fltSwitch_withTable {single double default single' double' default' : Except Abort Dispatched}
    (onSingle : single' = single.map (Dispatched.withTable table))
    (onDouble : double' = double.map (Dispatched.withTable table))
    (onDefault : default' = default.map (Dispatched.withTable table)) :
    fltSwitch insn single' double' default' =
      (fltSwitch insn single double default).map (Dispatched.withTable table) := by
  rw [onSingle, onDouble, onDefault, fltSwitch, fltSwitch]
  split
  · cases single <;> rfl
  split
  · cases double <;> rfl
  · rfl

theorem rvsyscBrk_withTable (brk : BitVec 32) :
    rvsyscBrk (state.withTable table) brk =
      (rvsyscBrk state brk).map fun out => (out.1, out.2.withTable table) := by
  have sameMem : (state.withTable table).mem = state.mem := rfl
  simp only [rvsyscBrk, sameMem]
  cases elfGetRegionByTag regionTagHeap state.mem.loadRegions with
  | none => rfl
  | some split =>
    obtain ⟨before, heap, after⟩ := split
    simp only
    split
    · rfl
    split
    · rfl
    · rfl

theorem rvemuDispatchSyscall_withTable (calls : HostCalls) :
    rvemuDispatchSyscall calls (state.withTable table) =
      (rvemuDispatchSyscall calls state).map (Dispatched.withTable table) := by
  have sameRegs : (state.withTable table).regs = state.regs := rfl
  simp only [rvemuDispatchSyscall, rvmemAt_withTable, rvsyscBrk_withTable, sameRegs]
  split
  · cases rvmemAt state (state.regs 11) <;> rfl
  · cases rvmemAt state (state.regs 11) <;> rfl
  · rfl
  · cases rvmemAt state (state.regs 11) <;> rfl
  · cases rvsyscBrk state (state.regs 10) <;> rfl
  · rfl

theorem rvemuDispatchInsn_withTable (float : HostFloat) (calls : HostCalls) :
    rvemuDispatchInsn float calls (state.withTable table) insn =
      (rvemuDispatchInsn float calls state insn).map (Dispatched.withTable table) := by
  cases ty : insn.insnTy <;> simp only [rvemuDispatchInsn, ty]
  case beq | bne | blt | bge | bltu | bgeu => exact branchArm_withTable ..
  case lb | lh | lw | lbu | lhu => exact loadArm_withTable _ _ _ fun _ => rfl
  case sb | sh | sw => exact storeArm_withTable ..
  case ecall => exact rvemuDispatchSyscall_withTable ..
  case div | divu | rem | remu => exact division_withTable ..
  case flx =>
    exact fltSwitch_withTable (loadArm_withTable _ _ _ fun _ => rfl) (loadArm_withTable _ _ _ fun _ => rfl) rfl
  case fsx => exact fltSwitch_withTable (storeArm_withTable ..) (storeArm_withTable ..) rfl
  case faddx | fsubx | fmulx | fdivx | fmaddx | fmsubx | fnmsubx | fnmaddx | fsqrtx | fsgnjx | fsgnjnx | fsgnjxx
      | fminx | fmaxx | feqx | fltx | flex | fcvtXW | fcvtXWu | fcvtWX | fcvtWuX =>
    exact fltSwitch_withTable rfl rfl rfl
  all_goals rfl

end Arms

theorem rvemuDispatchInsn_table {float : HostFloat} {calls : HostCalls} {state : RvState} {insn : Insn}
    {arm : Dispatched} (ran : rvemuDispatchInsn float calls state insn = .ok arm) :
    arm.state.bkptEvArr = state.bkptEvArr := by
  have replaced := rvemuDispatchInsn_withTable state.bkptEvArr state insn float calls
  have same : state.withTable state.bkptEvArr = state := rfl
  rw [same, ran] at replaced
  exact congrArg (fun arm => arm.state.bkptEvArr) (Except.ok.inj replaced)

theorem rvdecInsn_withTable (table : BkptTable) (state : RvState) (w : BitVec 32) :
    rvdecInsn (state.withTable table) w =
      (rvdecInsn state w).map fun out => (out.1, out.2.withTable table) := by
  obtain ⟨answer, settled⟩ := rvdecInsn_settled w
  have onState := settled state
  have onOther := settled (state.withTable table)
  simp only at onState onOther
  rw [onState, onOther]
  cases answer with
  | error abort => rfl
  | ok out =>
    obtain ⟨insn, diagnosed⟩ := out
    cases diagnosed <;> rfl

theorem rvemuDispatch_withTable (float : HostFloat) (calls : HostCalls) (table : BkptTable) (state : RvState)
    (insn : Insn) : ∃ table', rvemuDispatch float calls (state.withTable table) insn =
      (rvemuDispatch float calls state insn).map (Dispatched.withTable table') := by
  have checked : rvbkptCheckInsn (state.withTable table) insn = (rvbkptCheckInsn state insn).withTable
      (rvbkptCheckInsn (state.withTable table) insn).bkptEvArr := rfl
  refine ⟨(rvbkptCheckInsn (state.withTable table) insn).bkptEvArr, ?_⟩
  rw [rvemuDispatch, rvemuDispatch, checked, rvemuDispatchInsn_withTable]
  cases rvemuDispatchInsn float calls (rvbkptCheckInsn state insn) insn with
  | error abort => rfl
  | ok arm => rfl

theorem rvemuStep_withTable (float : HostFloat) (calls : HostCalls) (table : BkptTable) (state : RvState) :
    ∃ table', rvemuStep float calls (state.withTable table) =
      (rvemuStep float calls state).map fun out => (out.1, out.2.withTable table') := by
  by_cases suspended : state.suspended = true
  · have also : (state.withTable table).suspended = true := suspended
    rw [rvemuStep_suspended float calls suspended, rvemuStep_suspended float calls also]
    exact ⟨table, rfl⟩
  have live : ¬(state.withTable table).suspended = true := suspended
  have fetch : rvstateFetch ((state.withTable table).setRegp 0 0) = rvstateFetch (state.setRegp 0 0) := rfl
  have cleared : (state.withTable table).setRegp 0 0 = (state.setRegp 0 0).withTable table := rfl
  rw [rvemuStep, rvemuStep, rvemuStepOut, rvemuStepOut, if_neg suspended, if_neg live]
  simp only [fetch]
  cases rvstateFetch (state.setRegp 0 0) with
  | error abort => exact ⟨table, rfl⟩
  | ok word =>
    simp only [cleared, rvdecInsn_withTable]
    cases rvdecInsn (state.setRegp 0 0) word.1 with
    | error abort => exact ⟨table, rfl⟩
    | ok out =>
      obtain ⟨insn, after⟩ := out
      simp only [Except.map]
      by_cases invalid : insn.insnTy = .invalid
      · simp only [if_pos invalid]
        exact ⟨table, rfl⟩
      · simp only [if_neg invalid]
        obtain ⟨table', dispatched⟩ := rvemuDispatch_withTable float calls table after insn
        refine ⟨table', ?_⟩
        rw [dispatched]
        cases rvemuDispatch float calls after insn with
        | error abort => rfl
        | ok arm => rfl

structure SameGuest (left right : RvState) : Prop where
  regs : left.regs = right.regs
  fregs : left.fregs = right.fregs
  pc : left.pc = right.pc
  suspended : left.suspended = right.suspended
  -- The heap break is a field of the heap's region.
  mem : left.mem = right.mem
  host : left.host = right.host

theorem sameGuest_iff {left right : RvState} :
    SameGuest left right ↔ ∃ table, right = left.withTable table := by
  constructor
  · rintro ⟨regs, fregs, pc, suspended, mem, host⟩
    refine ⟨right.bkptEvArr, ?_⟩
    cases left
    cases right
    simp only at regs fregs pc suspended mem host
    subst regs fregs pc suspended mem host
    rfl
  · rintro ⟨table, rfl⟩
    exact ⟨rfl, rfl, rfl, rfl, rfl, rfl⟩

theorem SameGuest.refl (state : RvState) : SameGuest state state := ⟨rfl, rfl, rfl, rfl, rfl, rfl⟩

theorem SameGuest.symm {left right : RvState} (same : SameGuest left right) : SameGuest right left :=
  ⟨same.regs.symm, same.fregs.symm, same.pc.symm, same.suspended.symm, same.mem.symm, same.host.symm⟩

theorem SameGuest.trans {left middle right : RvState} (first : SameGuest left middle)
    (second : SameGuest middle right) : SameGuest left right :=
  ⟨first.regs.trans second.regs, first.fregs.trans second.fregs, first.pc.trans second.pc,
    first.suspended.trans second.suspended, first.mem.trans second.mem, first.host.trans second.host⟩

inductive SameOutcome : Except Abort (Bool × RvState) → Except Abort (Bool × RvState) → Prop where
  | aborted (abort : Abort) : SameOutcome (.error abort) (.error abort)
  | returned {left right : RvState} (running : Bool) (same : SameGuest left right) :
      SameOutcome (.ok (running, left)) (.ok (running, right))

inductive BkptCall where
  | add (ev : RvbkptEv)
  | poll

def BkptCall.run (state : RvState) : BkptCall → RvState
  | .add ev => rvbkptAdd state ev
  | .poll => (rvbkptPoll state).2

def outcomes (float : HostFloat) :
    List (List BkptCall × HostCalls) → RvState → List (Except Abort (Bool × RvState))
  | [], _ => []
  | (bkptCalls, calls) :: rest, state =>
    match rvemuStep float calls (bkptCalls.foldl BkptCall.run state) with
    | .error abort => [.error abort]
    | .ok (running, next) => .ok (running, next) :: outcomes float rest next

theorem withTable_sameGuest (state : RvState) (table : BkptTable) : SameGuest state (state.withTable table) :=
  sameGuest_iff.mpr ⟨table, rfl⟩

theorem BkptCall.run_sameGuest (state : RvState) (call : BkptCall) : SameGuest state (call.run state) := by
  cases call with
  | add ev =>
    obtain ⟨table, added⟩ := rvbkptAdd_frame state ev
    rw [BkptCall.run, added]
    exact withTable_sameGuest state table
  | poll =>
    obtain ⟨table, polled⟩ := rvbkptPoll_frame state
    rw [BkptCall.run, polled]
    exact withTable_sameGuest state table

theorem bkptCalls_sameGuest (state : RvState) (bkptCalls : List BkptCall) :
    SameGuest state (bkptCalls.foldl BkptCall.run state) := by
  induction bkptCalls generalizing state with
  | nil => exact .refl state
  | cons call rest ih => exact (call.run_sameGuest state).trans (ih (call.run state))

variable {left right : RvState}

theorem SameGuest.step (same : SameGuest left right) (float : HostFloat) (calls : HostCalls) :
    SameOutcome (rvemuStep float calls left) (rvemuStep float calls right) := by
  obtain ⟨table, rfl⟩ := sameGuest_iff.mp same
  obtain ⟨table', stepped⟩ := rvemuStep_withTable float calls table left
  rw [stepped]
  cases rvemuStep float calls left with
  | error abort => exact .aborted abort
  | ok out => exact .returned out.1 (sameGuest_iff.mpr ⟨table', rfl⟩)

theorem outcomes_sameGuest (float : HostFloat) (run : List (List BkptCall × List BkptCall × HostCalls))
    (same : SameGuest left right) :
    List.Forall₂ SameOutcome (outcomes float (run.map fun round => (round.1, round.2.2)) left)
      (outcomes float (run.map Prod.snd) right) := by
  induction run generalizing left right with
  | nil => exact .nil
  | cons round rest ih =>
    obtain ⟨onLeft, onRight, calls⟩ := round
    have between : SameGuest (onLeft.foldl BkptCall.run left) (onRight.foldl BkptCall.run right) :=
      (bkptCalls_sameGuest left onLeft).symm.trans (same.trans (bkptCalls_sameGuest right onRight))
    have stepped := between.step float calls
    simp only [List.map_cons, outcomes]
    generalize rvemuStep float calls (onLeft.foldl BkptCall.run left) = outLeft at stepped ⊢
    generalize rvemuStep float calls (onRight.foldl BkptCall.run right) = outRight at stepped ⊢
    cases stepped with
    | aborted abort => exact .cons (.aborted abort) .nil
    | returned running same => exact .cons (.returned running same) (ih same)

-- A program of one instruction, `jal x0, 0`, and a breakpoint on it.
def spinState (table : BkptTable) : RvState :=
  (rvstateInit
    { loadRegions := [{ vmaBase := 0x1000, memBase := 0x5000, szReserved := 4 }], entryPoint := 0x1000 }
    fun ptr => [0x6f, 0x00, 0x00, 0x00].getD (ptr - 0x5000) 0).withTable table

def spinBkpt : RvbkptEv := { pcCond := { val := 0x1000, comp := .eq }, active := true }

theorem outcomes_sameGuest_spin :
    List.Forall₂ SameOutcome
      (outcomes default [([], default), ([], default)] (spinState fun _ => {}))
      (outcomes default [([.add spinBkpt], default), ([.poll], default)] (spinState fun _ => {})) :=
  outcomes_sameGuest default [([], [.add spinBkpt], default), ([], [.poll], default)] (.refl _)

end Urv86t
