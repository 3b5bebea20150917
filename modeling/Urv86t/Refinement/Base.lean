import Urv86t.Decoder.Encoded
import Urv86t.Emulator.Step
import Urv86t.Memory.Regions

set_option autoImplicit false

/-!
# Refinement of the reference hart

Between two steps the emulator may hold anything in `regs[0]`, so the simulation relation leaves it out.
-/

namespace Urv86t

open ByteMemory Rv32

structure Agrees (h : Hart) (state : RvState) : Prop where
  regs : ∀ r, r ≠ 0#5 → state.regs r = h.x r
  pc : state.pc = h.pc
  mem : Agree (elfVmaToMem state.mem) h.mem state.host

/-- Agreement once `rvemu_step` has cleared `regs[0]`. -/
structure Mirrors (h : Hart) (state : RvState) : Prop where
  regs : ∀ r, state.regs r = h.x r
  pc : state.pc = h.pc
  mem : Agree (elfVmaToMem state.mem) h.mem state.host

variable {h : Hart} {state : RvState}

theorem Agrees.clear (agrees : Agrees h state) : Mirrors h (state.setRegp 0 0) where
  regs r := by
    by_cases zero : r = 0#5
    · simp [RvState.setRegp, zero, h.zero]
    · simp [RvState.setRegp, zero, agrees.regs r zero]
  pc := agrees.pc
  mem := agrees.mem

theorem Mirrors.read (mirrors : Mirrors h state) (r : Reg) : rvmemReg state (r.setWidth 8) = h.x r := by
  rw [rvmemReg, reg_roundTrip, mirrors.regs]

theorem Mirrors.bkpt (mirrors : Mirrors h state) (insn : Insn) : Mirrors h (rvbkptCheckInsn state insn) :=
  ⟨mirrors.regs, mirrors.pc, mirrors.mem⟩

theorem Mirrors.write (mirrors : Mirrors h state) (rd : Reg) (val target : Word) :
    Agrees ((h.write rd val).jump target) { state.setRegp (rd.setWidth 8) val with pc := target } where
  regs r nonzero := by
    simp only [RvState.setRegp, reg_roundTrip, Hart.jump_x, Hart.write_x]
    by_cases same : r = rd
    · subst same
      simp [nonzero]
    · simp [same, mirrors.regs]
  pc := rfl
  mem := by simpa [RvState.setRegp] using mirrors.mem

theorem Mirrors.jump (mirrors : Mirrors h state) (target : Word) :
    Agrees (h.jump target) { state with pc := target } where
  regs r _ := mirrors.regs r
  pc := rfl
  mem := mirrors.mem

theorem shift_amount (b : Word) : (b &&& 0x1f#32).toNat = (b.extractLsb' 0 5).toNat := by
  have low : b.toNat &&& 31 = b.toNat % 32 := Nat.and_two_pow_sub_one_eq_mod b.toNat 5
  simp [low]

theorem shamt_amount (op : ShiftOp) (shamt : BitVec 5) :
    ((op.funct7 ++ shamt).signExtend 32 &&& 0x1f#32).toNat = shamt.toNat := by
  revert shamt
  cases op <;> decide

theorem upper_imm (imm : BitVec 20) : imm.setWidth 32 <<< 12 = imm ++ 0#12 := by
  apply BitVec.eq_of_getLsbD_eq
  intro i hi
  simp
  grind

section Arms

variable (float : HostFloat) (calls : HostCalls) (state : RvState) (rd rs1 rs2 : Reg)

theorem dispatch_reg (op : RegOp) :
    rvemuDispatchInsn float calls state (baseInsn (.reg op rd rs1 rs2)) =
      writeRd state (baseInsn (.reg op rd rs1 rs2))
        (op.eval (rvmemReg state (rs1.setWidth 8)) (rvmemReg state (rs2.setWidth 8))) := by
  cases op with
  | sll | srl =>
    simp only [rvemuDispatchInsn, baseInsn, regTy, RegOp.eval, BitVec.shiftLeft_eq', BitVec.ushiftRight_eq',
      ← shift_amount]
    rfl
  | sra =>
    simp only [rvemuDispatchInsn, baseInsn, regTy, RegOp.eval, ← shift_amount]
    rfl
  | slt | sltu =>
    simp only [rvemuDispatchInsn, baseInsn, regTy, RegOp.eval, BitVec.slt_iff_toInt_lt, BitVec.lt_def]
  | add | sub | xor | or | and => rfl

theorem dispatch_opImm (op : ImmOp) (imm : BitVec 12) :
    rvemuDispatchInsn float calls state (baseInsn (.opImm op rd rs1 imm)) =
      writeRd state (baseInsn (.opImm op rd rs1 imm))
        (op.eval (rvmemReg state (rs1.setWidth 8)) (imm.signExtend 32)) := by
  cases op with
  | slti | sltiu =>
    simp only [rvemuDispatchInsn, baseInsn, opImmTy, ImmOp.eval, BitVec.slt_iff_toInt_lt, BitVec.lt_def]
  | addi | xori | ori | andi => rfl

theorem dispatch_shift (op : ShiftOp) (shamt : BitVec 5) :
    rvemuDispatchInsn float calls state (baseInsn (.shift op rd rs1 shamt)) =
      writeRd state (baseInsn (.shift op rd rs1 shamt))
        (op.eval (rvmemReg state (rs1.setWidth 8)) shamt) := by
  have amount := shamt_amount op shamt
  cases op with
  | slli | srli =>
    simp only [rvemuDispatchInsn, baseInsn, shiftTy, ShiftOp.eval, BitVec.shiftLeft_eq',
      BitVec.ushiftRight_eq', ← amount]
    rfl
  | srai =>
    simp only [rvemuDispatchInsn, baseInsn, shiftTy, ShiftOp.eval, ← amount]
    rfl

theorem dispatch_branch (op : BranchOp) (halfwords : BitVec 12) :
    rvemuDispatchInsn float calls state (baseInsn (.branch op rs1 rs2 halfwords)) =
      branchArm state (baseInsn (.branch op rs1 rs2 halfwords))
        (op.taken (rvmemReg state (rs1.setWidth 8)) (rvmemReg state (rs2.setWidth 8))) := by
  cases op <;> refine congrArg (branchArm state _) (Bool.eq_iff_iff.mpr ?_)
  all_goals
    simp [BranchOp.taken, baseInsn, BitVec.slt_iff_toInt_lt, BitVec.sle_iff_toInt_le, BitVec.lt_def,
      BitVec.le_def]

theorem dispatch_load (op : LoadOp) (imm : BitVec 12) :
    rvemuDispatchInsn float calls state (baseInsn (.load op rd rs1 imm)) =
      loadArm state (baseInsn (.load op rd rs1 imm)) op.width fun val =>
        state.setRegp (rd.setWidth 8) (op.extend val) := by
  cases op <;> rfl

theorem dispatch_store (op : StoreOp) (imm : BitVec 12) :
    rvemuDispatchInsn float calls state (baseInsn (.store op rs1 rs2 imm)) =
      storeArm state (baseInsn (.store op rs1 rs2 imm)) op.width
        ((rvmemReg state (rs2.setWidth 8)).setWidth (8 * op.width)) := by
  cases op with
  | sb | sh => rfl
  | sw =>
    simp [rvemuDispatchInsn, baseInsn, storeTy, StoreOp.width]

end Arms

def Advances (h' : Hart) (state : RvState) (result : Except Abort Dispatched) : Prop :=
  ∃ arm, result = .ok arm ∧ Agrees h' { arm.state with pc := arm.state.pc + arm.pcOffset } ∧
    arm.state.mem = state.mem ∧ arm.state.suspended = state.suspended

theorem Mirrors.writeRd (mirrors : Mirrors h state) (insn : Insn) (rd : Reg) (val : Word)
    (dest : insn.rd = rd.setWidth 8) : Advances (h.write rd val).next state (writeRd state insn val) := by
  refine ⟨_, rfl, ?_, rfl, rfl⟩
  have written := mirrors.write rd val (h.pc + 4)
  simpa [Hart.next, RvState.setRegp, dest, mirrors.pc] using written

theorem Mirrors.branchArm (mirrors : Mirrors h state) (insn : Insn) (taken : Bool) :
    Advances (if taken then h.jump (h.pc + insn.imm) else h.next) state (branchArm state insn taken) := by
  cases taken with
  | true =>
    refine ⟨_, rfl, ?_, rfl, rfl⟩
    simpa [mirrors.pc] using mirrors.jump (h.pc + insn.imm)
  | false =>
    refine ⟨_, rfl, ?_, rfl, rfl⟩
    simpa [Hart.next, mirrors.pc] using mirrors.jump (h.pc + 4)

theorem Mirrors.loadArm (mirrors : Mirrors h state) (separated : state.mem.Separated) (insn : Insn)
    (rd rs1 : Reg) (len : Nat) (extend : BitVec (8 * len) → Word) (source : insn.rs1 = rs1.setWidth 8)
    (some_byte : 0 < len) (within : state.mem.Within (h.x rs1 + insn.imm) len) :
    Advances (h.write rd (extend (load h.mem (byteAddr (h.x rs1 + insn.imm)) len))).next state
      (loadArm state insn len fun val => state.setRegp (rd.setWidth 8) (extend val)) := by
  have addr : rvmemReg state insn.rs1 = h.x rs1 := by rw [source, mirrors.read]
  rw [← addr] at within ⊢
  obtain ⟨ptr, maps, arm⟩ :=
    loadArm_within state insn separated (fun val => state.setRegp (rd.setWidth 8) (extend val)) some_byte within
  have value := mirrors.mem.load maps
  refine ⟨_, arm, ?_, rfl, rfl⟩
  have written := mirrors.write rd (extend (load state.host (hostCell ptr) len)) (h.pc + 4)
  simpa [Hart.next, RvState.setRegp, value, mirrors.pc] using written

theorem Mirrors.storeArm (mirrors : Mirrors h state) (separated : state.mem.Separated) (insn : Insn)
    (rs1 : Reg) (len : Nat) (val : BitVec (8 * len)) (source : insn.rs1 = rs1.setWidth 8)
    (some_byte : 0 < len) (within : state.mem.Within (h.x rs1 + insn.imm) len) :
    Advances { h with mem := store h.mem (byteAddr (h.x rs1 + insn.imm)) len val }.next state
      (storeArm state insn len val) := by
  have addr : rvmemReg state insn.rs1 = h.x rs1 := by rw [source, mirrors.read]
  rw [← addr] at within ⊢
  obtain ⟨ptr, maps, arm⟩ := storeArm_within state insn separated val some_byte within
  refine ⟨_, arm, ?_, rfl, rfl⟩
  refine ⟨fun r _ => mirrors.regs r, ?_, mirrors.mem.store separated.injective maps val⟩
  simp [Hart.next, mirrors.pc]

theorem Mirrors.dispatch (mirrors : Mirrors h state) (separated : state.mem.Separated) (float : HostFloat)
    (calls : HostCalls) (i : Base)
    (data : ∀ a len, i.access h = some (a, len) → state.mem.Within a len) :
    Advances (i.exec h) state (rvemuDispatchInsn float calls state (baseInsn i)) := by
  cases i with
  | lui rd imm =>
    rw [Base.exec, ← upper_imm]
    exact mirrors.writeRd _ rd _ rfl
  | auipc rd imm =>
    rw [Base.exec, ← upper_imm, ← mirrors.pc]
    exact mirrors.writeRd _ rd _ rfl
  | jal rd halfwords =>
    refine ⟨_, rfl, ?_, rfl, rfl⟩
    have written := mirrors.write rd (h.pc + 4) (h.pc + (jumpOffset halfwords).signExtend 32)
    simpa [Base.exec, baseInsn, RvState.setRegp, mirrors.pc] using written
  | jalr rd rs1 imm =>
    refine ⟨_, rfl, ?_, rfl, rfl⟩
    have written := mirrors.write rd (h.pc + 4) ((h.x rs1 + imm.signExtend 32) &&& ~~~1)
    simpa [Base.exec, baseInsn, RvState.setRegp, mirrors.pc, mirrors.read] using written
  | branch op rs1 rs2 halfwords =>
    rw [dispatch_branch, mirrors.read, mirrors.read]
    exact mirrors.branchArm (baseInsn (.branch op rs1 rs2 halfwords)) _
  | load op rd rs1 imm =>
    rw [dispatch_load]
    have some_byte : 0 < op.width := by cases op <;> decide
    have within : state.mem.Within (h.x rs1 + imm.signExtend 32) op.width := data _ _ rfl
    exact mirrors.loadArm separated (baseInsn (.load op rd rs1 imm)) rd rs1 op.width op.extend rfl
      some_byte within
  | store op rs1 rs2 imm =>
    rw [dispatch_store, mirrors.read]
    have some_byte : 0 < op.width := by cases op <;> decide
    have within : state.mem.Within (h.x rs1 + imm.signExtend 32) op.width := data _ _ rfl
    exact mirrors.storeArm separated (baseInsn (.store op rs1 rs2 imm)) rs1 op.width _ rfl some_byte within
  | opImm op rd rs1 imm =>
    rw [dispatch_opImm, mirrors.read]
    exact mirrors.writeRd _ rd _ rfl
  | shift op rd rs1 shamt =>
    rw [dispatch_shift, mirrors.read]
    exact mirrors.writeRd _ rd _ rfl
  | reg op rd rs1 rs2 =>
    rw [dispatch_reg, mirrors.read, mirrors.read]
    exact mirrors.writeRd _ rd _ rfl

theorem baseInsn_valid (i : Base) : (baseInsn i).insnTy ≠ .invalid := by
  cases i with
  | lui | auipc | jal | jalr => exact nofun
  | branch op | load op | store op | opImm op | shift op | reg op => cases op <;> exact nofun

theorem Agrees.step (agrees : Agrees h state) (separated : state.mem.Separated)
    (live : state.suspended = false) (float : HostFloat) (calls : HostCalls) (i : Base)
    (fetched : h.fetch = i.encode) (code : state.mem.Within h.pc 4)
    (data : ∀ a len, i.access h = some (a, len) → state.mem.Within a len) :
    ∃ after, rvemuStep float calls state = .ok (true, after) ∧ Agrees (i.exec h) after ∧
      after.mem = state.mem ∧ after.suspended = false := by
  have mirrors := agrees.clear
  obtain ⟨ptr, found, maps⟩ := separated.maps code (by omega)
  have word : load state.host (hostCell ptr) 4 = i.encode := (agrees.mem.load maps).symm.trans fetched
  have fetch : rvstateFetch (state.setRegp 0 0) = .ok (i.encode, ⟨.fetch, h.pc, ptr, 4⟩) := by
    rw [← agrees.pc] at found ⊢
    rw [@rvstateFetch_found (state.setRegp 0 0) ptr found, ← word]
    rfl
  obtain ⟨arm, ran, agreed, sameMem, sameLive⟩ :=
    (mirrors.bkpt (baseInsn i)).dispatch separated float calls i data
  refine ⟨{ arm.state with pc := arm.state.pc + arm.pcOffset }, ?_, agreed, sameMem, ?_⟩
  · rw [rvemuStep_decoded live fetch (rvdecInsn_base _ i) (baseInsn_valid i), ran]
    rfl
  · rw [sameLive]
    exact live

theorem rvemuSteps_refines (float : HostFloat) (calls : List HostCalls) (state : RvState) (h h' : Hart)
    (live : state.suspended = false) (separated : state.mem.Separated) (agrees : Agrees h state)
    (run : Run state.mem.Within calls.length h h') :
    ∃ after, rvemuSteps float calls state = .ok (List.replicate calls.length true, after) ∧
      Agrees h' after ∧ after.mem = state.mem ∧ after.suspended = false := by
  induction calls generalizing state h with
  | nil =>
    cases run
    exact ⟨state, rfl, agrees, rfl, live⟩
  | cons call rest ih =>
    cases run with
    | step i fetched code data rest =>
      obtain ⟨middle, stepped, agreed, sameMem, stillLive⟩ :=
        agrees.step separated live float call i fetched code data
      rw [← sameMem] at separated rest
      obtain ⟨after, ran, agreedAfter, sameMemAfter, liveAfter⟩ :=
        ih middle (i.exec h) stillLive separated agreed rest
      refine ⟨after, ?_, agreedAfter, sameMemAfter.trans sameMem, liveAfter⟩
      simp only [rvemuSteps, stepped, List.length_cons, List.replicate_succ, bind, Except.bind, ran]
      rfl

-- `addi x0, x0, 7; addi x1, x0, 1`: the first instruction leaves 7 in `regs[0]`.
def dirtyZeroHost : Memory Nat := fun ptr =>
  [0x13, 0x00, 0x70, 0x00, 0x93, 0x00, 0x10, 0x00].getD (ptr - 0x5000) 0

def dirtyZeroState : RvState :=
  rvstateInit
    { loadRegions := [{ vmaBase := 0x1000, memBase := 0x5000, szAlloc := 8, szReserved := 8 }]
      entryPoint := 0x1000 }
    dirtyZeroHost

def dirtyZeroHart : Hart where
  x := fun _ => 0
  zero := rfl
  pc := 0x1000
  mem := fun a => dirtyZeroHost (0x5000 + (a - 0x1000).toNat)

theorem dirtyZero_agrees : Agrees dirtyZeroHart dirtyZeroState where
  regs r _ := by
    by_cases sp : r = 2 <;> simp [dirtyZeroState, rvstateInit, dirtyZeroHart, sp]
  pc := rfl
  mem a ptr found := by
    obtain ⟨region, -, member, hit, place⟩ := ElfContext.elfVmaToMem_selected found
    obtain ⟨low, -, -⟩ := ElfLoadRegion.hit_bounds hit
    have only : region = { vmaBase := 0x1000, memBase := 0x5000, szAlloc := 8, szReserved := 8 } := by
      simpa [dirtyZeroState, rvstateInit] using member
    subst only
    simp only [dirtyZeroHart, dirtyZeroState, rvstateInit, place, BitVec.toNat_sub_of_le low]

theorem rvemuSteps_refines_dirty_zero :
    ∃ after, rvemuSteps default [default, default] dirtyZeroState = .ok ([true, true], after) ∧
      Agrees ((Base.opImm .addi 1 0 1).exec ((Base.opImm .addi 0 0 7).exec dirtyZeroHart)) after := by
  have separated : dirtyZeroState.mem.Separated := by
    constructor <;> simp [dirtyZeroState, rvstateInit, ElfLoadRegion.vmaEnd, ElfContext.Buffered]
  have first : dirtyZeroState.mem.Within 0x1000 4 := ⟨_, List.mem_singleton_self _, by decide⟩
  have second : dirtyZeroState.mem.Within 0x1004 4 := ⟨_, List.mem_singleton_self _, by decide⟩
  have run : Run dirtyZeroState.mem.Within 2 dirtyZeroHart
      ((Base.opImm .addi 1 0 1).exec ((Base.opImm .addi 0 0 7).exec dirtyZeroHart)) :=
    .step (.opImm .addi 0 0 7) (by decide) first (by rintro _ _ ⟨⟩)
      (.step (.opImm .addi 1 0 1) (by decide) second (by rintro _ _ ⟨⟩) (.done _))
  obtain ⟨after, ran, agreed, -, -⟩ :=
    rvemuSteps_refines default [default, default] dirtyZeroState _ _ rfl separated dirtyZero_agrees run
  exact ⟨after, ran, agreed⟩

end Urv86t
