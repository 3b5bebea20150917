import Urv86t.Breakpoint.Slots
import Urv86t.Decoder.Diagnosed
import Urv86t.Decoder.Verdict
import Urv86t.Emulator.Dumps
import Urv86t.Runs.Effects

set_option autoImplicit false

/-!
# The x0 of the dumps

The dispatcher writes `x0` as any other register, and only the next step clears it. What a dump shows for it
depends on the last instruction, and on whether the dump is the one behind the loop in `main`.
-/

namespace Urv86t

open ByteMemory Traced Traced.Program

def loadResult (state : RvState) (insn : Insn) (len : Nat) (extend : BitVec (8 * len) → BitVec 32) :
    Option (BitVec 32) :=
  (state.mem.backing (rvmemReg state insn.rs1 + insn.imm)).map fun ptr =>
    extend (load state.host (hostCell ptr) len)

def fltResult (insn : Insn) (single double : BitVec 32) : Option (BitVec 32) :=
  if insn.funct = fltfuncSingle then some single else if insn.funct = fltfuncDouble then some double else none

def integerResult (float : HostFloat) (state : RvState) (insn : Insn) : Option (BitVec 32) :=
  let rs1 := rvmemReg state insn.rs1
  let rs2 := rvmemReg state insn.rs2
  let rs1f := rvfloatReadF32 state insn.rs1
  let rs2f := rvfloatReadF32 state insn.rs2
  let rs1d := rvfloatReadF64 state insn.rs1
  let rs2d := rvfloatReadF64 state insn.rs2
  match insn.insnTy with
  | .add => some (rs1 + rs2)
  | .sub => some (rs1 - rs2)
  | .sll => some (rs1 <<< (rs2 &&& 0x1f))
  | .slt => some (if rs1.slt rs2 then 1 else 0)
  | .sltu => some (if rs1 < rs2 then 1 else 0)
  | .xor => some (rs1 ^^^ rs2)
  | .srl => some (rs1 >>> (rs2 &&& 0x1f))
  | .sra => some (rs1.sshiftRight (rs2 &&& 0x1f).toNat)
  | .or => some (rs1 ||| rs2)
  | .and => some (rs1 &&& rs2)
  | .addi => some (rs1 + insn.imm)
  | .slli => some (rs1 <<< (insn.imm &&& 0x1f))
  | .slti => some (if rs1.slt insn.imm then 1 else 0)
  | .sltiu => some (if rs1 < insn.imm then 1 else 0)
  | .xori => some (rs1 ^^^ insn.imm)
  | .srli => some (rs1 >>> (insn.imm &&& 0x1f))
  | .srai => some (rs1.sshiftRight (insn.imm &&& 0x1f).toNat)
  | .ori => some (rs1 ||| insn.imm)
  | .andi => some (rs1 &&& insn.imm)
  | .lb => loadResult state insn 1 (·.signExtend 32)
  | .lh => loadResult state insn 2 (·.signExtend 32)
  | .lw => loadResult state insn 4 id
  | .lbu => loadResult state insn 1 (·.setWidth 32)
  | .lhu => loadResult state insn 2 (·.setWidth 32)
  | .jal | .jalr => some (state.pc + 4)
  | .lui => some (insn.imm <<< 12)
  | .auipc => some (state.pc + (insn.imm <<< 12))
  | .mul => some (rs1 * rs2)
  | .mulh | .mulhsu | .mulhu =>
    let prod : BitVec 64 := rs1.setWidth 64 * rs2.setWidth 64
    some ((prod.sshiftRight 32).setWidth 32)
  | .div => some (rs1.sdiv rs2)
  | .divu => some (rs1 / rs2)
  | .rem => some (rs1.srem rs2)
  | .remu => some (rs1 % rs2)
  | .feqx => fltResult insn (if float.eq32 rs1f rs2f then 1 else 0) (if float.eq64 rs1d rs2d then 1 else 0)
  | .fltx => fltResult insn (if float.lt32 rs1f rs2f then 1 else 0) (if float.lt64 rs1d rs2d then 1 else 0)
  | .flex => fltResult insn (if float.le32 rs1f rs2f then 1 else 0) (if float.le64 rs1d rs2d then 1 else 0)
  | .fcvtWX => fltResult insn (float.i32OfF32 rs1f) (float.i32OfF64 rs1d)
  | .fcvtWuX => fltResult insn (float.u32OfF32 rs1f) (float.u32OfF64 rs1d)
  | .fmvXW => some ((rvfloatNanboxUnpack (rvmemFreg state insn.rs1)).setWidth 32)
  | _ => none

section Arms

variable {state : RvState} {insn : Insn}

def Put (state : RvState) (insn : Insn) (result : Option (BitVec 32)) (arm : Dispatched) : Prop :=
  arm.state.regs 0 = if insn.rd.setWidth 5 = 0 then result.getD (state.regs 0) else state.regs 0

def Puts (state : RvState) (insn : Insn) (result : Option (BitVec 32)) (out : Except Abort Dispatched) : Prop :=
  ∀ arm, out = .ok arm → Put state insn result arm

theorem puts_error (result : Option (BitVec 32)) (abort : Abort) : Puts state insn result (.error abort) := nofun

theorem puts_none {arm : Dispatched} (kept : arm.state.regs 0 = state.regs 0) :
    Puts state insn none (.ok arm) := by
  rintro _ ⟨⟩
  simpa [Put] using kept

theorem puts_setRegp (val : BitVec 32) {arm : Dispatched} (regs : arm.state.regs = (state.setRegp insn.rd val).regs) :
    Puts state insn (some val) (.ok arm) := by
  rintro _ ⟨⟩
  rw [Put, regs, RvState.setRegp]
  by_cases zero : insn.rd.setWidth 5 = 0#5
  · simp [zero]
  · simp [zero, Ne.symm zero]

theorem puts_writeRd (val : BitVec 32) : Puts state insn (some val) (writeRd state insn val) := puts_setRegp val rfl

theorem puts_unchanged : Puts state insn none (.ok { state := state }) := puts_none rfl

theorem puts_branchArm (taken : Bool) : Puts state insn none (branchArm state insn taken) := by
  cases taken with
  | false => exact puts_unchanged
  | true => exact puts_none rfl

theorem puts_loadArm {len : Nat} (extend : BitVec (8 * len) → BitVec 32) :
    Puts state insn (loadResult state insn len extend)
      (loadArm state insn len fun val => state.setRegp insn.rd (extend val)) := by
  intro arm ran
  obtain ⟨ptr, found, ran⟩ := rvmemAt_then_ok ran
  rw [loadResult, found]
  exact puts_setRegp _ rfl arm ran

theorem puts_floatLoadArm {len : Nat} {assign : BitVec (8 * len) → RvState}
    (kept : ∀ val, (assign val).regs = state.regs) : Puts state insn none (loadArm state insn len assign) := by
  intro arm ran
  obtain ⟨ptr, -, ran⟩ := rvmemAt_then_ok ran
  exact puts_none (congrFun (kept _) 0) arm ran

theorem puts_storeArm {len : Nat} (val : BitVec (8 * len)) : Puts state insn none (storeArm state insn len val) := by
  intro arm ran
  obtain ⟨ptr, -, ran⟩ := rvmemAt_then_ok ran
  exact puts_none rfl arm ran

theorem puts_division {trap : Prop} [Decidable trap] (val : BitVec 32) :
    Puts state insn (some val) (if trap then .error .divisionTrap else writeRd state insn val) := by
  split
  · exact puts_error _ _
  · exact puts_writeRd val

theorem puts_fltSwitch {single double default : Except Abort Dispatched} (onSingle : Puts state insn none single)
    (onDouble : Puts state insn none double) (onDefault : Puts state insn none default) :
    Puts state insn none (fltSwitch insn single double default) := fun _ ran =>
  fltSwitch_all (P := Put state insn none) (fun _ _ put => put) onSingle onDouble onDefault ran

theorem puts_fltArm (single : BitVec 32) (double : BitVec 64) {default : Except Abort Dispatched}
    (onDefault : Puts state insn none default) : Puts state insn none (fltArm state insn single double default) :=
  puts_fltSwitch (puts_none rfl) (puts_none rfl) onDefault

theorem puts_fltWriteRd (single double : BitVec 32) {default : Except Abort Dispatched}
    (onDefault : Puts state insn none default) :
    Puts state insn (fltResult insn single double)
      (fltSwitch insn (writeRd state insn single) (writeRd state insn double) default) := fun _ ran =>
  fltSwitch_every (fun _ _ _ put => put) (puts_writeRd single) (puts_writeRd double) onDefault ran

-- The result of a system call goes to `a0`.
theorem puts_answer {val : BitVec 32} {arm : Dispatched}
    (answered : arm.state.regs = Function.update state.regs 10 val) : Puts state insn none (.ok arm) := by
  apply puts_none
  rw [answered, Function.update_of_ne (by decide)]

theorem puts_rvemuDispatchSyscall {calls : HostCalls} : Puts state insn none (rvemuDispatchSyscall calls state) := by
  intro arm ran
  simp only [rvemuDispatchSyscall] at ran
  split at ran
  · obtain ⟨buff, -, ran⟩ := rvmemAt_then_ok ran
    exact puts_answer rfl arm ran
  · obtain ⟨buff, -, ran⟩ := rvmemAt_then_ok ran
    exact puts_answer rfl arm ran
  · exact puts_none rfl arm ran
  · obtain ⟨buff, -, ran⟩ := rvmemAt_then_ok ran
    exact puts_answer rfl arm ran
  · obtain ⟨⟨val, next⟩, changed, ran⟩ := bind_returned ran
    obtain ⟨mem, rfl⟩ := rvsyscBrk_changes changed
    exact puts_answer rfl arm ran
  · exact puts_none rfl arm ran

theorem rvemuDispatchInsn_puts (float : HostFloat) (calls : HostCalls) :
    Puts state insn (integerResult float state insn) (rvemuDispatchInsn float calls state insn) := by
  cases ty : insn.insnTy <;> simp only [rvemuDispatchInsn, integerResult, ty, builtinUnreachable]
  case ecall => exact puts_rvemuDispatchSyscall
  case jal | jalr => exact puts_setRegp _ rfl
  case lb | lh | lw | lbu | lhu => exact puts_loadArm _
  all_goals
    first
      | with_reducible exact puts_writeRd _
      | with_reducible exact puts_branchArm _
      | with_reducible exact puts_storeArm _
      | with_reducible exact puts_division _
      | with_reducible exact puts_error _ _
      | with_reducible exact puts_fltArm _ _ (puts_error _ _)
      | with_reducible exact puts_fltArm _ _ puts_unchanged
      | with_reducible exact puts_fltWriteRd _ _ (puts_error _ _)
      | with_reducible exact puts_fltWriteRd _ _ puts_unchanged
      | with_reducible refine puts_fltSwitch ?_ ?_ (puts_error _ _)
      | exact puts_none rfl
  case flx.refine_1 | flx.refine_2 => exact puts_floatLoadArm fun _ => rfl
  case fsx.refine_1 | fsx.refine_2 => exact puts_storeArm _

end Arms

def LeavesZero (float : HostFloat) (state : RvState) : Prop :=
  state.suspended = true ∨ (rvemuDecoded state).rd.setWidth 5 ≠ 0#5 ∨
    (integerResult float (state.setRegp 0 0) (rvemuDecoded state)).getD 0 = 0

section Steps

variable {float : HostFloat} {calls : HostCalls} {state : RvState} {insn : Insn}

theorem puts_zero_iff {arm : Dispatched}
    (ran : rvemuDispatchInsn float calls (rvbkptCheckInsn (state.setRegp 0 0) insn) insn = .ok arm) :
    arm.state.regs 0 = 0 ↔
      insn.rd.setWidth 5 ≠ 0#5 ∨ (integerResult float (state.setRegp 0 0) insn).getD 0 = 0 := by
  have clear : (rvbkptCheckInsn (state.setRegp 0 0) insn).regs 0 = 0 := setRegp_zero_clear state
  have same : integerResult float (rvbkptCheckInsn (state.setRegp 0 0) insn) insn =
      integerResult float (state.setRegp 0 0) insn := rfl
  have put := rvemuDispatchInsn_puts float calls arm ran
  rw [Put, clear, same] at put
  rw [put]
  by_cases zero : insn.rd.setWidth 5 = 0#5 <;> simp [zero]

def RvState.RestsZero (state : RvState) : Prop := state.suspended = true → state.regs 0 = 0

theorem suspended_zero {next : RvState} {offset : BitVec 32}
    (effect : Effect (rvbkptCheckInsn (state.setRegp 0 0) insn) insn next offset) (live : state.suspended = false) :
    next.RestsZero := by
  intro stopped
  have running : (rvbkptCheckInsn (state.setRegp 0 0) insn).suspended = false := live
  cases effect with
  | compute | jump | brk =>
    rw [running] at stopped
    cases stopped
  | suspend | fclass => exact setRegp_zero_clear state

theorem rejected_zero (state : RvState) (diagnosed : Bool) : ((state.setRegp 0 0).suspendIf diagnosed).regs 0 = 0 := by
  cases diagnosed <;> exact setRegp_zero_clear state

theorem leavesZero_rejected (invalid : (rvemuDecoded state).insnTy = .invalid) : LeavesZero float state := by
  refine .inr (.inr ?_)
  simp only [integerResult, invalid, Option.getD_none]

theorem rvemuStep_zero {next : RvState} {running : Bool}
    (stepped : rvemuStep float calls state = .ok (running, next)) (rests : state.RestsZero) :
    (next.regs 0 = 0 ↔ LeavesZero float state) ∧ next.RestsZero ∧ (running = false → next.regs 0 = 0) := by
  rcases rvemuStep_returned stepped with
    ⟨suspended, -, rfl⟩ | ⟨live, bytes, fetched, insn, after, read, decoded, ended⟩
  · have zero := rests suspended
    exact ⟨iff_of_true zero (.inl suspended), rests, fun _ => zero⟩
  have insn_eq : rvemuDecoded state = insn := rvemuDecoded_eq read decoded
  rcases ended with ⟨invalid, -, rfl⟩ | ⟨valid, rfl, arm, dispatched, rfl⟩
  · obtain ⟨diagnosed, rfl, -⟩ := rvdecInsn_again decoded
    have zero := rejected_zero state diagnosed
    rw [← insn_eq] at invalid
    exact ⟨iff_of_true zero (leavesZero_rejected invalid), fun _ => zero, fun _ => zero⟩
  · obtain rfl := rvdecInsn_silent decoded valid
    obtain ⟨inner, body, rfl⟩ := rvemuDispatch_returned dispatched
    have rests' : inner.state.RestsZero := suspended_zero (rvemuDispatchInsn_effect inner body) live
    refine ⟨?_, rests', fun ended => ?_⟩
    · rw [LeavesZero, insn_eq, live]
      simpa using puts_zero_iff body
    · cases ended

end Steps

def CoreDump.ShowsZero (dump : CoreDump) : Prop :=
  ∀ line ∈ dump.registers, ∀ cell ∈ line, cell.number = 0 → cell.value = 0

theorem coreDump_showsZero_iff (state : RvState) : (coreDump state).ShowsZero ↔ state.regs 0 = 0 := by
  simp only [CoreDump.ShowsZero, coreDump, rvtrbkRegisters, riscvRegcount, List.forall_mem_map, List.mem_range]
  constructor
  · intro shows
    exact shows 0 (by decide) 0 (by decide) rfl
  · intro zero line _ k _ first
    have same : 4 * line + k = 0 := first
    rw [same]
    exact zero

section Runs

variable (float : HostFloat)

def Shown.Judged (shown : Shown) : Prop :=
  shown.dump.ShowsZero ↔ (shown.site = .prompt → LeavesZero float shown.called)

structure Stepped.Tracks (emu : Stepped) : Prop where
  zero_iff : emu.state.regs 0 = 0 ↔ LeavesZero float emu.called
  rests : emu.state.RestsZero

theorem stepEmu_tracks (calls : HostCalls) :
    Ensures (Shown.Judged float) (fun emu => emu.state.RestsZero) (stepEmu float calls) fun running emu =>
      emu.Tracks float ∧ (running = false → emu.state.regs 0 = 0) := by
  refine .attempt fun emu running after rests ran => ?_
  cases stepped : rvemuStep float calls emu.state with
  | error abort =>
    rw [stepped] at ran
    cases ran
  | ok out =>
    rw [stepped] at ran
    cases ran
    obtain ⟨zero_iff, rests', ended⟩ := rvemuStep_zero stepped rests
    exact ⟨⟨zero_iff, rests'⟩, ended⟩

theorem printDump_tracks :
    Ensures (Shown.Judged float) (Stepped.Tracks float) (printDump .prompt) fun _ => Stepped.Tracks float := by
  refine .report (fun emu tracks => ?_) fun _ tracks => tracks
  rw [Shown.Judged, coreDump_showsZero_iff, tracks.zero_iff]
  exact ⟨fun leaves _ => leaves, fun leaves => leaves rfl⟩

theorem printDump_final :
    Ensures (Shown.Judged float) (fun emu => emu.state.regs 0 = 0) (printDump .final) fun _ _ => True := by
  refine .report (fun emu zero => ?_) fun _ _ => trivial
  refine iff_of_true ((coreDump_showsZero_iff emu.state).mpr zero) ?_
  intro atPrompt
  cases atPrompt

theorem userLoopDumps_tracks (commands : List UserCommand) :
    Ensures (Shown.Judged float) (Stepped.Tracks float) (userLoopDumps float commands) fun _ =>
      Stepped.Tracks float := by
  induction commands with
  | nil => exact .pure fun _ tracks => tracks
  | cons command rest ih =>
    cases command with
    | «continue» => exact .pure fun _ tracks => tracks
    | step calls =>
      refine ((stepEmu_tracks float calls).bind fun running => ?_).weaken
        (fun _ (tracks : Stepped.Tracks float _) => tracks.rests) fun _ _ after => after
      exact ih.weaken (fun _ after => after.1) fun _ _ after => after
    | regs => exact (printDump_tracks float).bind fun _ => ih
    | unknown => exact ih

theorem pollEmu_tracks :
    Ensures (Shown.Judged float) (Stepped.Tracks float) pollEmu fun _ => Stepped.Tracks float := by
  refine .access fun emu tracks => ?_
  obtain ⟨table, polled⟩ := rvbkptPoll_frame emu.state
  rw [polled]
  exact ⟨tracks.zero_iff, tracks.rests⟩

theorem bodyDumps_tracks (commands : List UserCommand) :
    Ensures (Shown.Judged float) (Stepped.Tracks float) (bodyDumps float commands) fun _ =>
      Stepped.Tracks float := by
  refine (pollEmu_tracks float).bind fun which => ?_
  cases which with
  | none => exact .pure fun _ tracks => tracks
  | some evIdx => exact userLoopDumps_tracks float commands

theorem mainDumps_judged (rounds : List Round) :
    Ensures (Shown.Judged float) (fun emu => emu.state.RestsZero) (mainDumps float rounds) fun _ _ => True := by
  induction rounds with
  | nil => exact .pure fun _ _ => trivial
  | cons round rest ih =>
    refine (stepEmu_tracks float round.calls).bind fun running => ?_
    cases running with
    | false =>
      have dumped : Ensures (Shown.Judged float) (fun emu => emu.state.regs 0 = 0)
          (do printDump .final; return true) fun _ _ => True :=
        (printDump_final float).bind fun _ => .pure fun _ _ => trivial
      exact dumped.weaken (fun _ after => after.2 rfl) fun _ _ ended => ended
    | true =>
      have looped := (bodyDumps_tracks float round.commands).bind fun _ =>
        ih.weaken (fun _ (tracks : Stepped.Tracks float _) => tracks.rests) fun _ _ ended => ended
      exact looped.weaken (fun _ after => after.1) fun _ _ ended => ended

def startedState (ctx : ElfContext) (host : Memory Nat) (evs : List RvbkptEv) : RvState :=
  evs.foldl rvbkptAdd (rvstateInit ctx host)

theorem startedState_live (ctx : ElfContext) (host : Memory Nat) (evs : List RvbkptEv) :
    (startedState ctx host evs).suspended = false := by
  have added (state : RvState) (live : state.suspended = false) :
      (evs.foldl rvbkptAdd state).suspended = false := by
    induction evs generalizing state with
    | nil => exact live
    | cons ev rest ih =>
      obtain ⟨table, added⟩ := rvbkptAdd_frame state ev
      rw [List.foldl_cons, added]
      exact ih (state.withTable table) live
  exact added _ rfl

theorem startedState_frame (ctx : ElfContext) (host : Memory Nat) (evs : List RvbkptEv) :
    ∃ table, startedState ctx host evs = (rvstateInit ctx host).withTable table := by
  have added (state : RvState) : ∃ table, evs.foldl rvbkptAdd state = state.withTable table := by
    induction evs generalizing state with
    | nil => exact ⟨state.bkptEvArr, rfl⟩
    | cons ev rest ih =>
      obtain ⟨table, first⟩ := rvbkptAdd_frame state ev
      rw [List.foldl_cons, first]
      obtain ⟨table', later⟩ := ih (state.withTable table)
      exact ⟨table', later⟩
  exact added _

theorem mainDumps_showZero_iff (ctx : ElfContext) (host : Memory Nat) (evs : List RvbkptEv)
    (rounds : List Round) (called : RvState) :
    (∀ shown ∈ (mainDumps float rounds ⟨startedState ctx host evs, called⟩).log,
        shown.site = .final → shown.dump.ShowsZero) ∧
      ((∀ shown ∈ (mainDumps float rounds ⟨startedState ctx host evs, called⟩).log, shown.dump.ShowsZero) ↔
        ∀ shown ∈ (mainDumps float rounds ⟨startedState ctx host evs, called⟩).log,
          shown.site = .prompt → LeavesZero float shown.called) := by
  have rests : (startedState ctx host evs).RestsZero := by
    intro suspended
    rw [startedState_live] at suspended
    cases suspended
  have judged := (mainDumps_judged float rounds).events ⟨startedState ctx host evs, called⟩ rests
  constructor
  · intro shown member atEnd
    refine (judged shown member).mpr fun atPrompt => ?_
    rw [atEnd] at atPrompt
    cases atPrompt
  · exact forall₂_congr judged

end Runs

def promptContext : ElfContext where
  loadRegions :=
    [{ vmaBase := 0x10954, memBase := 0x5000, szReserved := 4, tag := some "LOAD" },
      { vmaBase := 0x20000, memBase := 0x6000, szReserved := progHeapSize, tag := some regionTagHeap },
      { vmaBase := 0x120000, memBase := 0x200000, szReserved := progStackSize, tag := some regionTagStack }]
  entryPoint := 0x10954
  bp := 0x120000
  sp := 0x21ffff

def promptState (word : BitVec 32) : RvState :=
  startedState promptContext (store (fun _ => 0) (hostCell 0x5000) 4 word) [entryBkpt]

-- `addi x0, x0, 7`, and `regs` at the prompt that comes up behind it.
def promptLog : List Shown :=
  (mainDumps default [⟨default, [.regs]⟩] ⟨promptState 0x00700013, promptState 0x00700013⟩).log

theorem mainDumps_shows_seven :
    promptLog.map (fun shown => (shown.site, shown.dump.registers.flatten.head?)) =
        [(.prompt, some ⟨"zero", 0, 7⟩)] ∧
      ¬∀ shown ∈ promptLog, shown.dump.ShowsZero := by
  refine ⟨rfl, fun shows => ?_⟩
  have cleared := (coreDump_showsZero_iff _).mp (shows _ (List.mem_cons_self ..))
  exact absurd cleared (by decide)

end Urv86t
