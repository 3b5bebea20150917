import Urv86t.Decoder.FloatAccepted
import Urv86t.Emulator.Step
import Urv86t.Isa.FloatHart
import Urv86t.Memory.Flat
import Urv86t.Memory.Lookup
import Urv86t.Refinement.Precision

set_option autoImplicit false

/-!
# The float transfers against the reference hart

The cells of the reference are the host bytes behind the first region of an address, so regions may overlap or
share buffers.
-/

namespace Urv86t

open ByteMemory InsnBase Rv32

def hartOf (state : RvState) : FloatHart Nat where
  f := state.fregs
  x := Function.update state.regs 0 0
  zero := rfl
  pc := state.pc
  mem := state.host

@[simp] theorem hartOf_mem (state : RvState) : (hartOf state).mem = state.host := rfl

namespace ElfContext

variable {ctx : ElfContext} {a : Word}

def cells (ctx : ElfContext) (a : Word) : Nat → Nat := hostCell (ctx.pointer a)

/-- The first region around the address that does not end at the top of the address space has a byte for it. -/
def Found (ctx : ElfContext) (a : Word) : Prop := ∃ region, ctx.firstBelowTop a = some region ∧ region.place a ≠ 0

theorem found_iff : ctx.Found a ↔ ctx.pointer a ≠ 0 := by
  rw [Found, pointer_eq]
  cases ctx.firstBelowTop a <;> simp

instance (ctx : ElfContext) (a : Word) : Decidable (ctx.Found a) := decidable_of_iff _ found_iff.symm

theorem cells_injective (ctx : ElfContext) (a : Word) : Function.Injective (ctx.cells a) := by
  intro i j same
  unfold cells hostCell at same
  omega

theorem backing_found (found : ctx.Found a) : ctx.backing a = some (ctx.pointer a) :=
  if_neg (found_iff.mp found)

theorem backing_missed (missed : ¬ctx.Found a) : ctx.backing a = none :=
  if_pos (not_not.mp (mt found_iff.mpr missed))

end ElfContext

def transferInsn : Transfer → Insn
  | .load fmt rd rs1 imm =>
    { insnTy := .flx, rd := rd.setWidth 8, rs1 := rs1.setWidth 8, funct := fmt.width.setWidth 16
      imm := imm.signExtend 32 }
  | .store fmt rs1 rs2 imm =>
    { insnTy := .fsx, rs1 := rs1.setWidth 8, rs2 := rs2.setWidth 8, funct := fmt.width.setWidth 16
      imm := imm.signExtend 32 }
  | .moveToInt rd rs1 =>
    { insnTy := .fmvXW, rd := rd.setWidth 8, rs1 := rs1.setWidth 8, funct := 0b1110000000 }
  | .moveOfInt rd rs1 =>
    { insnTy := .fmvWX, rd := rd.setWidth 8, rs1 := rs1.setWidth 8, funct := 0b1111000000 }

theorem transferInsn_valid (t : Transfer) : (transferInsn t).insnTy ≠ .invalid := by
  cases t <;> exact nofun

theorem rvdecInsn_transfer (state : RvState) (t : Transfer) :
    rvdecInsn state t.encode = .ok (transferInsn t, state) := by
  cases t with
  | load fmt rd rs1 imm =>
    have group := rvdecIty6_load (w := (Transfer.load fmt rd rs1 imm).encode) fmt
      (by simp [Transfer.encode, Transfer.instr, FloatInstr.encode, funct3])
    rw [rvdecInsn_floatLoad (by simp [Transfer.encode, Transfer.instr, FloatInstr.encode, opcode]), group,
      rvdecReturn_accepted _ _ rfl rfl]
    simp only [Transfer.encode, Transfer.instr, FloatInstr.encode, ityPair_iWord]
    rfl
  | store fmt rs1 rs2 imm =>
    have group := rvdecSty2_store (w := (Transfer.store fmt rs1 rs2 imm).encode) fmt
      (by simp [Transfer.encode, Transfer.instr, FloatInstr.encode, funct3])
    rw [rvdecInsn_floatStore (by simp [Transfer.encode, Transfer.instr, FloatInstr.encode, opcode]), group,
      rvdecReturn_accepted _ _ rfl rfl]
    simp only [Transfer.encode, Transfer.instr, FloatInstr.encode, styPair_sWord]
    rfl
  | moveToInt rd rs1 =>
    exact rvdecInsn_opFp _ _ _ _ _
      (rvdecRty2_moveToInt .s (by simp [funct7, Fmt.bits]) (by simp [InsnBase.rs2]) (by simp [funct3])) rfl
  | moveOfInt rd rs1 =>
    exact rvdecInsn_opFp _ _ _ _ _
      (rvdecRty2_moveOfInt .s (by simp [funct7, Fmt.bits]) (by simp [InsnBase.rs2])) rfl

section Arms

variable (float : HostFloat) (calls : HostCalls) (state : RvState) (rd rs1 rs2 : Reg) (fmt : Fmt)

theorem dispatch_floatLoad (imm : BitVec 12) :
    rvemuDispatchInsn float calls state (transferInsn (.load fmt rd rs1 imm)) =
      (loadArm state (transferInsn (.load fmt rd rs1 imm)) fmt.bytes fun val =>
        state.setFregp (rd.setWidth 8) (fmt.widen val)).map ({ · with fltCase := some (fmtCase fmt) }) := by
  cases fmt with
  | s =>
    simp only [rvemuDispatchInsn, transferInsn, nanbox_append]
    exact fltSwitch_single _ rfl _ _ _
  | d =>
    simp only [rvemuDispatchInsn, transferInsn]
    exact fltSwitch_double _ rfl _ _ _

theorem dispatch_floatStore (imm : BitVec 12) :
    rvemuDispatchInsn float calls state (transferInsn (.store fmt rs1 rs2 imm)) =
      (storeArm state (transferInsn (.store fmt rs1 rs2 imm)) fmt.bytes
        (fmt.narrow (state.fregs rs2))).map ({ · with fltCase := some (fmtCase fmt) }) := by
  have source : rvmemFreg state (rs2.setWidth 8) = state.fregs rs2 := by rw [rvmemFreg, reg_roundTrip]
  cases fmt with
  | s =>
    simp only [rvemuDispatchInsn, transferInsn, unpack_low, source]
    exact fltSwitch_single _ rfl _ _ _
  | d =>
    simp only [rvemuDispatchInsn, transferInsn, source]
    exact fltSwitch_double _ rfl _ _ _

theorem dispatch_moveToInt :
    rvemuDispatchInsn float calls state (transferInsn (.moveToInt rd rs1)) =
      writeRd state (transferInsn (.moveToInt rd rs1)) ((state.fregs rs1).setWidth 32) := by
  simp only [rvemuDispatchInsn, transferInsn, unpack_low, rvmemFreg, reg_roundTrip]

theorem dispatch_moveOfInt :
    rvemuDispatchInsn float calls state (transferInsn (.moveOfInt rd rs1)) =
      .ok { state := state.setFregp (rd.setWidth 8) (0xffffffff#32 ++ state.regs rs1) } := by
  simp only [rvemuDispatchInsn, transferInsn, nanbox_append, rvmemReg, reg_roundTrip]

variable {state} (insn : Insn) {len : Nat} {addr : Word}

theorem loadArm_found (assign : BitVec (8 * len) → RvState) (place : rvmemReg state insn.rs1 + insn.imm = addr)
    (found : state.mem.Found addr) :
    loadArm state insn len assign =
      .ok
        { state := assign (load state.host (state.mem.cells addr) len)
          touched := [⟨.data, addr, state.mem.pointer addr, len⟩] } := by
  subst place
  exact loadArm_backed state insn assign (ElfContext.backing_found found)

theorem storeArm_found (val : BitVec (8 * len)) (place : rvmemReg state insn.rs1 + insn.imm = addr)
    (found : state.mem.Found addr) :
    storeArm state insn len val =
      .ok
        { state := { state with host := store state.host (state.mem.cells addr) len val }
          touched := [⟨.data, addr, state.mem.pointer addr, len⟩] } := by
  subst place
  exact storeArm_backed state insn val (ElfContext.backing_found found)

theorem loadArm_missed (assign : BitVec (8 * len) → RvState) (place : rvmemReg state insn.rs1 + insn.imm = addr)
    (missed : ¬state.mem.Found addr) :
    loadArm state insn len assign = .error (.fatal "tried to access out of bounds\n") := by
  simp only [loadArm, place, rvmemAt_missed (ElfContext.backing_missed missed)]
  rfl

theorem storeArm_missed (val : BitVec (8 * len)) (place : rvmemReg state insn.rs1 + insn.imm = addr)
    (missed : ¬state.mem.Found addr) :
    storeArm state insn len val = .error (.fatal "tried to access out of bounds\n") := by
  simp only [storeArm, place, rvmemAt_missed (ElfContext.backing_missed missed)]
  rfl

end Arms

def Mimics (h : FloatHart Nat) (state : RvState) (result : Except Abort Dispatched) : Prop :=
  ∃ arm, result = .ok arm ∧ hartOf { arm.state with pc := arm.state.pc + arm.pcOffset } = h ∧
    arm.state.mem = state.mem ∧ arm.state.suspended = state.suspended

section Dispatch

variable (float : HostFloat) (calls : HostCalls) {state : RvState}

theorem hartOf_x (clear : state.regs 0 = 0) : (hartOf state).x = state.regs := by
  funext r
  by_cases zero : r = 0
  · rw [zero, clear]
    rfl
  · exact Function.update_of_ne zero _ _

theorem transfer_place (clear : state.regs 0 = 0) (rs1 : Reg) (imm : Word) :
    rvmemReg state (rs1.setWidth 8) + imm = (hartOf state).x rs1 + imm := by
  rw [hartOf_x clear, rvmemReg, reg_roundTrip]

theorem zeroed_write (regs : Reg → Word) (rd : Reg) (val : Word) :
    Function.update (Function.update regs rd val) 0 0 =
      if rd = 0#5 then Function.update regs 0 0 else Function.update (Function.update regs 0 0) rd val := by
  by_cases hardwired : rd = 0#5
  · rw [if_pos hardwired, hardwired]
    exact Function.update_idem _ _ _
  · rw [if_neg hardwired]
    exact Function.update_comm hardwired _ _ _

variable (state) in
theorem dispatch_transfer (clear : state.regs 0 = 0) (t : Transfer)
    (found : ∀ a, t.address (hartOf state) = some a → state.mem.Found a) :
    Mimics (t.exec state.mem.cells (hartOf state)) state
      (rvemuDispatchInsn float calls state (transferInsn t)) := by
  cases t with
  | load fmt rd rs1 imm =>
    have arm := loadArm_found (transferInsn (.load fmt rd rs1 imm))
      (fun val => state.setFregp (rd.setWidth 8) (fmt.widen val)) (transfer_place clear rs1 (imm.signExtend 32))
      (found _ rfl)
    rw [dispatch_floatLoad, arm]
    refine ⟨_, rfl, ?_, rfl, rfl⟩
    apply FloatHart.ext_fields <;>
      simp [hartOf, Transfer.exec, FloatHart.next, FloatHart.writeF, RvState.setFregp]
  | store fmt rs1 rs2 imm =>
    have arm := storeArm_found (transferInsn (.store fmt rs1 rs2 imm)) (fmt.narrow (state.fregs rs2))
      (transfer_place clear rs1 (imm.signExtend 32)) (found _ rfl)
    rw [dispatch_floatStore, arm]
    exact ⟨_, rfl, rfl, rfl, rfl⟩
  | moveToInt rd rs1 =>
    rw [dispatch_moveToInt]
    refine ⟨_, rfl, ?_, rfl, rfl⟩
    apply FloatHart.ext_fields
    · simp [hartOf, Transfer.exec, FloatHart.next, RvState.setRegp]
    · simpa [hartOf, Transfer.exec, FloatHart.next, RvState.setRegp, transferInsn] using zeroed_write _ _ _
    · simp [hartOf, Transfer.exec, FloatHart.next, RvState.setRegp]
    · simp [hartOf, Transfer.exec, FloatHart.next, RvState.setRegp]
  | moveOfInt rd rs1 =>
    rw [dispatch_moveOfInt]
    refine ⟨_, rfl, ?_, rfl, rfl⟩
    have source := congrFun (hartOf_x clear) rs1
    apply FloatHart.ext_fields <;>
      simp [hartOf, Transfer.exec, FloatHart.next, FloatHart.writeF, RvState.setFregp, ← source]

variable (state) in
theorem dispatch_transfer_missed (clear : state.regs 0 = 0) (t : Transfer) (a : Word)
    (address : t.address (hartOf state) = some a) (missed : ¬state.mem.Found a) :
    ∃ abort, rvemuDispatchInsn float calls state (transferInsn t) = .error abort := by
  cases t with
  | load fmt rd rs1 imm =>
    cases address
    have arm := loadArm_missed (transferInsn (.load fmt rd rs1 imm))
      (fun val => state.setFregp (rd.setWidth 8) (fmt.widen val)) (transfer_place clear rs1 (imm.signExtend 32))
      missed
    rw [dispatch_floatLoad, arm]
    exact ⟨_, rfl⟩
  | store fmt rs1 rs2 imm =>
    cases address
    have arm := storeArm_missed (transferInsn (.store fmt rs1 rs2 imm)) (fmt.narrow (state.fregs rs2))
      (transfer_place clear rs1 (imm.signExtend 32)) missed
    rw [dispatch_floatStore, arm]
    exact ⟨_, rfl⟩
  | moveToInt => cases address
  | moveOfInt => cases address

end Dispatch

section Steps

variable (float : HostFloat) (calls : HostCalls) {state : RvState} {t : Transfer}

theorem rvstateFetch_word {word : Word} (found : state.mem.Found state.pc)
    (loaded : load state.host (state.mem.cells state.pc) 4 = word) :
    rvstateFetch state = .ok (word, ⟨.fetch, state.pc, state.mem.pointer state.pc, 4⟩) := by
  subst loaded
  exact rvstateFetch_found (ElfContext.backing_found found)

theorem rvstateFetch_transfer (found : state.mem.Found state.pc)
    (word : t.Fetched state.mem.cells (hartOf state)) :
    rvstateFetch state = .ok (t.encode, ⟨.fetch, state.pc, state.mem.pointer state.pc, 4⟩) :=
  rvstateFetch_word found word

theorem rvemuStep_fetched (live : state.suspended = false) (found : state.mem.Found state.pc)
    (word : t.Fetched state.mem.cells (hartOf state)) :
    rvemuStep float calls state =
      (rvemuDispatchInsn float calls (rvbkptCheckInsn (state.setRegp 0 0) (transferInsn t))
        (transferInsn t)).map fun arm => (true, { arm.state with pc := arm.state.pc + arm.pcOffset }) :=
  rvemuStep_decoded live (rvstateFetch_transfer found word) (rvdecInsn_transfer _ t) (transferInsn_valid t)

theorem hartOf_ready (state : RvState) (insn : Insn) :
    hartOf (rvbkptCheckInsn (state.setRegp 0 0) insn) = hartOf state := by
  simp [hartOf, RvState.setRegp, rvbkptCheckInsn]

theorem rvemuStep_transfer (live : state.suspended = false) (word : t.Fetched state.mem.cells (hartOf state))
    (reaches : t.Reaches state.mem.Found (hartOf state)) :
    ∃ after, rvemuStep float calls state = .ok (true, after) ∧
      hartOf after = t.exec state.mem.cells (hartOf state) ∧ after.mem = state.mem ∧ after.suspended = false := by
  have ready := hartOf_ready state (transferInsn t)
  have dispatched := dispatch_transfer float calls (rvbkptCheckInsn (state.setRegp 0 0) (transferInsn t))
    (setRegp_zero_clear state) t
  rw [ready] at dispatched
  obtain ⟨arm, ran, mimics, sameMem, sameLive⟩ := dispatched reaches.2
  refine ⟨_, ?_, mimics, sameMem, sameLive.trans live⟩
  rw [rvemuStep_fetched float calls live reaches.1 word, ran]
  rfl

theorem rvemuStep_unreached (live : state.suspended = false) (word : t.Fetched state.mem.cells (hartOf state))
    (unreached : ¬t.Reaches state.mem.Found (hartOf state)) :
    ∃ abort, rvemuStep float calls state = .error abort := by
  by_cases found : state.mem.Found state.pc
  · obtain ⟨a, address, missed⟩ : ∃ a, t.address (hartOf state) = some a ∧ ¬state.mem.Found a := by
      simpa [Transfer.Reaches, hartOf, found] using unreached
    have ready := hartOf_ready state (transferInsn t)
    have dispatched := dispatch_transfer_missed float calls
      (rvbkptCheckInsn (state.setRegp 0 0) (transferInsn t)) (setRegp_zero_clear state) t a
    rw [ready] at dispatched
    obtain ⟨abort, ran⟩ := dispatched address missed
    refine ⟨abort, ?_⟩
    rw [rvemuStep_fetched float calls live found word, ran]
    rfl
  · refine ⟨.fatal "PC-fetch out of bounds\n", ?_⟩
    have unread : rvstateFetch (state.setRegp 0 0) = .error (.fatal "PC-fetch out of bounds\n") :=
      rvstateFetch_missed (ElfContext.backing_missed found)
    rw [rvemuStep, rvemuStepOut, if_neg (by rw [live]; decide)]
    simp only [unread]

end Steps

section Runs

theorem rvemuSteps_reached (float : HostFloat) (calls : List HostCalls) {state : RvState} {ts : List Transfer}
    (live : state.suspended = false) (count : calls.length = ts.length)
    (words : Transfer.Along state.mem.cells (Transfer.Fetched state.mem.cells) ts (hartOf state))
    (reached : Transfer.Along state.mem.cells (Transfer.Reaches state.mem.Found) ts (hartOf state)) :
    ∃ after, rvemuSteps float calls state = .ok (List.replicate ts.length true, after) ∧
      hartOf after = Transfer.execAll state.mem.cells ts (hartOf state) ∧ after.mem = state.mem := by
  induction ts generalizing calls state with
  | nil =>
    cases List.length_eq_zero_iff.mp count
    exact ⟨state, rfl, rfl, rfl⟩
  | cons t rest ih =>
    obtain ⟨call, calls, rfl⟩ := List.exists_cons_of_length_eq_add_one count
    obtain ⟨middle, stepped, mimics, sameMem, stillLive⟩ := rvemuStep_transfer float call live words.1 reached.1
    have later := ih calls stillLive (Nat.succ.inj count) (by rw [sameMem, mimics]; exact words.2)
      (by rw [sameMem, mimics]; exact reached.2)
    obtain ⟨after, ran, same, sameMemAfter⟩ := later
    rw [sameMem, mimics] at same
    refine ⟨after, ?_, same, sameMemAfter.trans sameMem⟩
    simp only [rvemuSteps, stepped, List.length_cons, List.replicate_succ, bind, Except.bind, ran]
    rfl

theorem rvemuSteps_unreached (float : HostFloat) (calls : List HostCalls) {state : RvState} {ts : List Transfer}
    (live : state.suspended = false) (count : calls.length = ts.length)
    (words : Transfer.Along state.mem.cells (Transfer.Fetched state.mem.cells) ts (hartOf state))
    (unreached : ¬Transfer.Along state.mem.cells (Transfer.Reaches state.mem.Found) ts (hartOf state)) :
    ∃ abort, rvemuSteps float calls state = .error abort := by
  induction ts generalizing calls state with
  | nil => exact absurd trivial unreached
  | cons t rest ih =>
    obtain ⟨call, calls, rfl⟩ := List.exists_cons_of_length_eq_add_one count
    by_cases first : t.Reaches state.mem.Found (hartOf state)
    · obtain ⟨middle, stepped, mimics, sameMem, stillLive⟩ := rvemuStep_transfer float call live words.1 first
      have later : ¬Transfer.Along state.mem.cells (Transfer.Reaches state.mem.Found) rest
          (t.exec state.mem.cells (hartOf state)) := fun reached => unreached ⟨first, reached⟩
      obtain ⟨abort, failed⟩ := ih calls stillLive (Nat.succ.inj count) (by rw [sameMem, mimics]; exact words.2)
        (by rw [sameMem, mimics]; exact later)
      refine ⟨abort, ?_⟩
      simp only [rvemuSteps, stepped, bind, Except.bind, failed]
    · obtain ⟨abort, failed⟩ := rvemuStep_unreached float call live words.1 first
      refine ⟨abort, ?_⟩
      simp only [rvemuSteps, failed, bind, Except.bind]

theorem rvemuSteps_transfers (float : HostFloat) (calls : List HostCalls) (state : RvState) (ts : List Transfer)
    (live : state.suspended = false) (count : calls.length = ts.length)
    (words : Transfer.Along state.mem.cells (Transfer.Fetched state.mem.cells) ts (hartOf state)) :
    ((∃ out, rvemuSteps float calls state = .ok out) ↔
        Transfer.Along state.mem.cells (Transfer.Reaches state.mem.Found) ts (hartOf state)) ∧
      ∀ results after, rvemuSteps float calls state = .ok (results, after) →
        results = List.replicate ts.length true ∧ after.mem = state.mem ∧
          hartOf after = Transfer.execAll state.mem.cells ts (hartOf state) ∧
          Transfer.RoundTrips state.mem.cells ts (hartOf state) (hartOf after) := by
  by_cases reached : Transfer.Along state.mem.cells (Transfer.Reaches state.mem.Found) ts (hartOf state)
  · obtain ⟨final, ran, same, sameMem⟩ := rvemuSteps_reached float calls live count words reached
    refine ⟨⟨fun _ => reached, fun _ => ⟨_, ran⟩⟩, ?_⟩
    intro results after returned
    rw [ran] at returned
    cases returned
    exact ⟨rfl, sameMem, same, same ▸ Transfer.execAll_roundTrips state.mem.cells_injective ts (hartOf state)⟩
  · obtain ⟨abort, failed⟩ := rvemuSteps_unreached float calls live count words reached
    rw [failed]
    refine ⟨⟨?_, fun present => absurd present reached⟩, ?_⟩
    · rintro ⟨out, returned⟩
      cases returned
    · intro results after returned
      cases returned

end Runs

-- `flw f1, 0x120(x0); fsd f1, 0x128(x0); fmv.x.w x6, f1`, with a signalling NaN at 0x120.
def signallingState : RvState :=
  rvstateInit
    { loadRegions := [{ vmaBase := 0x100, memBase := 0x5000, szAlloc := 64, szReserved := 64 }]
      entryPoint := 0x100 }
    fun ptr =>
      if ptr < 0x5020 then
        [0x87, 0x20, 0x00, 0x12, 0x27, 0x34, 0x10, 0x12, 0x53, 0x83, 0x00, 0xe0].getD (ptr - 0x5000) 0
      else [0x01, 0x00, 0x80, 0x7f].getD (ptr - 0x5020) 0

def signallingTransfers : List Transfer := [.load .s 1 0 0x120, .store .d 0 1 0x128, .moveToInt 6 1]

theorem rvemuSteps_transfers_signalling :
    ∃ results after, rvemuSteps default [default, default, default] signallingState = .ok (results, after) ∧
      after.regs 6 = 0x7f800001 ∧ load after.host (hostCell 0x5028) 8 = 0xffffffff7f800001#64 := by
  have reached : Transfer.Along signallingState.mem.cells (Transfer.Reaches signallingState.mem.Found)
      signallingTransfers (hartOf signallingState) := by
    refine ⟨⟨by decide, ?_⟩, ⟨by decide, ?_⟩, ⟨by decide, ?_⟩, trivial⟩
    all_goals
      intro a address
      cases address
    · decide
    · decide
  obtain ⟨executed, exact⟩ :=
    rvemuSteps_transfers default [default, default, default] signallingState signallingTransfers rfl rfl
      ⟨by decide, by decide, by decide, trivial⟩
  obtain ⟨⟨results, after⟩, ran⟩ := executed.mpr reached
  obtain ⟨-, -, same, -⟩ := exact results after ran
  have moved : (hartOf after).x 6 = 0x7f800001 := by
    rw [same]
    decide
  have stored : load (hartOf after).mem (hostCell 0x5028) 8 = 0xffffffff7f800001#64 := by
    rw [same]
    decide
  exact ⟨results, after, ran, moved, stored⟩

end Urv86t
