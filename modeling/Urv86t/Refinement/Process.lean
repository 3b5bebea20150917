import Urv86t.Refinement.Base
import Urv86t.Refinement.MulDiv
import Urv86t.Refinement.Transfers
import Urv86t.Runs.Requests

set_option autoImplicit false

namespace Urv86t

open ByteMemory Rv32 Simulation

structure Presents (env : Environment) (calls : HostCalls) : Prop where
  write : ∀ fd buff (count : BitVec 64) host,
    (calls.write fd buff count host).toIword = env.write fd (hostBytes host buff count.toNat)
  answer : ∀ fd buff host, (calls.fstat fd buff host).1.toIword = (env.stat fd).1
  unwritten : ∀ fd buff host, (env.stat fd).2 = none → (calls.fstat fd buff host).2 = host
  record : ∀ fd buff host record, (env.stat fd).2 = some record →
    (calls.fstat fd buff host).2 = ByteMemory.write host (hostCell buff) statSize record

def transferAccess (p : Process) : Transfer → Option (Word × Nat)
  | .load fmt _ rs1 imm => some (p.hart.x rs1 + imm.signExtend 32, fmt.bytes)
  | .store fmt rs1 _ imm => some (p.hart.x rs1 + imm.signExtend 32, fmt.bytes)
  | _ => none

/-- The buffer of a call is looked up even if nothing is written from it. -/
def CallSupported (allowed : Word → Nat → Prop) (p : Process) : Prop :=
  match p.number with
  | 63 => allowed (p.hart.x 11) 1
  | 64 => allowed (p.hart.x 11) (max 1 (p.hart.x 12).toNat)
  | 80 => allowed (p.hart.x 11) statSize
  | 93 => True
  | 214 => True
  | _ => False

/-- Memory is used where it is `allowed`, and a product or quotient is one the host's operators get right. -/
def InstrSupported (allowed : Word → Nat → Prop) (p : Process) : UserInstr → Prop
  | .base i => ∀ a len, i.access p.hart = some (a, len) → allowed a len
  | .mul op _ rs1 rs2 =>
    ¬Undefined op (p.hart.x rs1) (p.hart.x rs2) ∧ HighAgrees op (p.hart.x rs1) (p.hart.x rs2)
  | .transfer t => ∀ a len, transferAccess p t = some (a, len) → allowed a len
  | .ecall => CallSupported allowed p

structure Supported (allowed : Word → Nat → Prop) (p : Process) (i : UserInstr) : Prop where
  code : allowed p.hart.pc 4
  instr : InstrSupported allowed p i

/-- The state of the emulator holds the process, with its heap in the region tagged as one. -/
structure Embodies (allowed : Word → Nat → Prop) (p : Process) (state : RvState) : Prop where
  agrees : Agrees p.hart state
  fregs : state.fregs = p.f
  suspended : state.suspended = p.exited
  separated : state.mem.Separated
  within : ∀ a len, allowed a len → state.mem.Within a len
  heap : ∃ before heap after, elfGetRegionByTag regionTagHeap state.mem.loadRegions = some (before, heap, after) ∧
    heap.vmaBase = p.heap ∧ heap.vmaBase + heap.szReserved = p.limit ∧ heap.vmaBase + heap.szAlloc = p.brk

def Performs (allowed : Word → Nat → Prop) (p : Process) (result : Except Abort Dispatched) : Prop :=
  ∃ arm, result = .ok arm ∧ Embodies allowed p { arm.state with pc := arm.state.pc + arm.pcOffset }

section Dispatch

variable {allowed : Word → Nat → Prop} {p : Process} {state : RvState}

structure Ready (allowed : Word → Nat → Prop) (p : Process) (state : RvState) : Prop where
  mirrors : Mirrors p.hart state
  rest : Embodies allowed p state

theorem Embodies.ready (embodies : Embodies allowed p state) (insn : Insn) :
    Ready allowed p (rvbkptCheckInsn (state.setRegp 0 0) insn) := by
  have mirrors : Mirrors p.hart (rvbkptCheckInsn (state.setRegp 0 0) insn) := embodies.agrees.clear.bkpt insn
  exact ⟨mirrors, ⟨fun r _ => mirrors.regs r, mirrors.pc, mirrors.mem⟩, embodies.fregs, embodies.suspended,
    embodies.separated, embodies.within, embodies.heap⟩

theorem Ready.advanced (ready : Ready allowed p state) {h : Hart} {result : Except Abort Dispatched}
    (advances : Advances h state result) (fregs : ∀ arm, result = .ok arm → arm.state.fregs = state.fregs) :
    Performs allowed { p with hart := h } result := by
  obtain ⟨arm, ran, agrees, sameMem, sameLive⟩ := advances
  have rest := ready.rest
  refine ⟨arm, ran, agrees, (fregs arm ran).trans rest.fregs, sameLive.trans rest.suspended, ?_, ?_, ?_⟩
  · exact sameMem ▸ rest.separated
  · exact sameMem ▸ rest.within
  · exact sameMem ▸ rest.heap

theorem Ready.writeRd (ready : Ready allowed p state) (insn : Insn) (rd : Reg) (val : Word)
    (dest : insn.rd = rd.setWidth 8) :
    Performs allowed { p with hart := (p.hart.write rd val).next } (writeRd state insn val) := by
  apply ready.advanced (ready.mirrors.writeRd insn rd val dest)
  intro arm ran
  cases ran
  rfl

theorem rvmemAt_fregs {addr : Word} {rest : Nat → Except Abort Dispatched} {arm : Dispatched}
    (kept : ∀ ptr arm, rest ptr = .ok arm → arm.state.fregs = state.fregs)
    (ran : (rvmemAt state addr >>= rest) = .ok arm) : arm.state.fregs = state.fregs := by
  obtain ⟨ptr, -, ran⟩ := rvmemAt_then_ok ran
  exact kept ptr arm ran

theorem dispatch_base_fregs {float : HostFloat} {calls : HostCalls} {i : Base} {arm : Dispatched}
    (ran : rvemuDispatchInsn float calls state (baseInsn i) = .ok arm) : arm.state.fregs = state.fregs := by
  cases i with
  | lui | auipc | jal | jalr =>
    cases ran
    rfl
  | branch op rs1 rs2 halfwords =>
    rw [dispatch_branch, branchArm] at ran
    split at ran <;> cases ran <;> rfl
  | load op rd rs1 imm =>
    rw [dispatch_load] at ran
    apply rvmemAt_fregs _ ran
    rintro ptr arm ⟨⟩
    rfl
  | store op rs1 rs2 imm =>
    rw [dispatch_store] at ran
    apply rvmemAt_fregs _ ran
    rintro ptr arm ⟨⟩
    rfl
  | opImm op rd rs1 imm =>
    rw [dispatch_opImm] at ran
    cases ran
    rfl
  | shift op rd rs1 shamt =>
    rw [dispatch_shift] at ran
    cases ran
    rfl
  | reg op rd rs1 rs2 =>
    rw [dispatch_reg] at ran
    cases ran
    rfl

theorem Ready.base (ready : Ready allowed p state) (float : HostFloat) (calls : HostCalls) (i : Base)
    (supported : InstrSupported allowed p (.base i)) :
    Performs allowed { p with hart := i.exec p.hart } (rvemuDispatchInsn float calls state (baseInsn i)) := by
  have data : ∀ a len, i.access p.hart = some (a, len) → state.mem.Within a len := by
    intro a len access
    exact ready.rest.within a len (supported a len access)
  exact ready.advanced (ready.mirrors.dispatch ready.rest.separated float calls i data)
    fun _ ran => dispatch_base_fregs ran

theorem hostResult_exec {op : MulOp} {a b : Word} (defined : ¬Undefined op a b) (high : HighAgrees op a b) :
    hostResult op a b = some (op.exec a b) := by
  cases op with
  | mul => rw [exec_mul]; rfl
  | mulh | mulhsu | mulhu => exact congrArg some ((highAgrees_iff (by decide) a b).mpr high)
  | div | divu | rem | remu => exact (hostResult_division (by decide) a b _).mpr ⟨defined, rfl⟩

theorem Ready.mul (ready : Ready allowed p state) (float : HostFloat) (calls : HostCalls) (op : MulOp)
    (rd rs1 rs2 : Reg) (supported : InstrSupported allowed p (.mul op rd rs1 rs2)) :
    Performs allowed { p with hart := (p.hart.write rd (op.exec (p.hart.x rs1) (p.hart.x rs2))).next }
      (rvemuDispatchInsn float calls state (mulInsn op rd rs1 rs2)) := by
  rw [dispatch_mulDiv, ready.mirrors.regs, ready.mirrors.regs, hostResult_exec supported.1 supported.2]
  exact ready.writeRd _ rd _ rfl

theorem Ready.writeF (ready : Ready allowed p state) (rd : Reg) (val : BitVec 64) {arm : Dispatched}
    (written : arm.state = state.setFregp (rd.setWidth 8) val) (offset : arm.pcOffset = 4) :
    Performs allowed (p.withFloat (p.float.writeF rd val).next) (.ok arm) := by
  have rest := ready.rest
  refine ⟨arm, rfl, ?_⟩
  rw [written, offset]
  refine ⟨⟨rest.agrees.regs, congrArg (· + 4) rest.agrees.pc, rest.agrees.mem⟩, ?_, rest.suspended,
    rest.separated, rest.within, rest.heap⟩
  simp [RvState.setFregp, Process.withFloat, Process.float, FloatHart.next, FloatHart.writeF, rest.fregs]

theorem fmt_some_byte (fmt : Fmt) : 0 < fmt.bytes := by cases fmt <;> decide

theorem Ready.floatLoad (ready : Ready allowed p state) (float : HostFloat) (calls : HostCalls) (fmt : Fmt)
    (rd rs1 : Reg) (imm : BitVec 12) (inside : allowed (p.hart.x rs1 + imm.signExtend 32) fmt.bytes) :
    Performs allowed (p.withFloat ((Transfer.load fmt rd rs1 imm).exec byteAddr p.float))
      (rvemuDispatchInsn float calls state (transferInsn (.load fmt rd rs1 imm))) := by
  have place : rvmemReg state (rs1.setWidth 8) = p.hart.x rs1 := ready.mirrors.read rs1
  have within := ready.rest.within _ _ inside
  rw [← place] at within
  obtain ⟨ptr, maps, arm⟩ := loadArm_within state (transferInsn (.load fmt rd rs1 imm)) ready.rest.separated
    (fun val => state.setFregp (rd.setWidth 8) (fmt.widen val)) (fmt_some_byte fmt) within
  have maps : Maps (elfVmaToMem state.mem) (byteAddr (p.hart.x rs1 + imm.signExtend 32)) (hostCell ptr) fmt.bytes :=
    place ▸ maps
  rw [dispatch_floatLoad, arm]
  refine ready.writeF rd _ ?_ rfl
  exact congrArg (fun val => state.setFregp (rd.setWidth 8) (fmt.widen val)) (ready.mirrors.mem.load maps).symm

theorem Ready.floatStore (ready : Ready allowed p state) (float : HostFloat) (calls : HostCalls) (fmt : Fmt)
    (rs1 rs2 : Reg) (imm : BitVec 12) (inside : allowed (p.hart.x rs1 + imm.signExtend 32) fmt.bytes) :
    Performs allowed (p.withFloat ((Transfer.store fmt rs1 rs2 imm).exec byteAddr p.float))
      (rvemuDispatchInsn float calls state (transferInsn (.store fmt rs1 rs2 imm))) := by
  have rest := ready.rest
  have place : rvmemReg state (rs1.setWidth 8) = p.hart.x rs1 := ready.mirrors.read rs1
  have within := rest.within _ _ inside
  rw [← place] at within
  obtain ⟨ptr, maps, arm⟩ := storeArm_within state (transferInsn (.store fmt rs1 rs2 imm)) rest.separated
    (fmt.narrow (p.f rs2)) (fmt_some_byte fmt) within
  have maps : Maps (elfVmaToMem state.mem) (byteAddr (p.hart.x rs1 + imm.signExtend 32)) (hostCell ptr) fmt.bytes :=
    place ▸ maps
  rw [dispatch_floatStore, rest.fregs, arm]
  exact ⟨_, rfl, ⟨rest.agrees.regs, congrArg (· + 4) rest.agrees.pc,
    ready.mirrors.mem.store rest.separated.injective maps (fmt.narrow (p.f rs2))⟩, rest.fregs, rest.suspended,
    rest.separated, rest.within, rest.heap⟩

theorem Ready.transfer (ready : Ready allowed p state) (float : HostFloat) (calls : HostCalls) (t : Transfer)
    (supported : InstrSupported allowed p (.transfer t)) :
    Performs allowed (p.withFloat (t.exec byteAddr p.float))
      (rvemuDispatchInsn float calls state (transferInsn t)) := by
  cases t with
  | load fmt rd rs1 imm => exact ready.floatLoad float calls fmt rd rs1 imm (supported _ _ rfl)
  | store fmt rs1 rs2 imm => exact ready.floatStore float calls fmt rs1 rs2 imm (supported _ _ rfl)
  | moveToInt rd rs1 =>
    have same : p.withFloat ((Transfer.moveToInt rd rs1).exec byteAddr p.float) =
        { p with hart := (p.hart.write rd ((p.f rs1).setWidth 32)).next } := by
      simp only [Process.withFloat, Process.float, Transfer.exec, FloatHart.next, FloatHart.write, Hart.write]
      split <;> rfl
    rw [dispatch_moveToInt, ready.rest.fregs, same]
    exact ready.writeRd _ rd _ rfl
  | moveOfInt rd rs1 =>
    rw [dispatch_moveOfInt, ready.mirrors.regs]
    exact ready.writeF rd _ rfl rfl

theorem Ready.answer (ready : Ready allowed p state) (v : Word) {arm : Dispatched}
    (written : arm.state = { state with regs := Function.update state.regs 10 v }) (offset : arm.pcOffset = 4) :
    Performs allowed (p.answer v) (.ok arm) := by
  obtain ⟨same, ran, performed⟩ := ready.writeRd { rd := 10 } 10 v rfl
  cases ran
  refine ⟨arm, rfl, ?_⟩
  rw [written, offset]
  exact performed

theorem Embodies.found (embodies : Embodies allowed p state) {a : Word} {len : Nat} (some_byte : 0 < len)
    (inside : allowed a len) :
    ∃ ptr, state.mem.backing a = some ptr ∧ Maps (elfVmaToMem state.mem) (byteAddr a) (hostCell ptr) len :=
  embodies.separated.maps (embodies.within a len inside) some_byte

theorem Embodies.bytes (embodies : Embodies allowed p state) {a : Word} {len : Nat}
    (inside : allowed a (max 1 len)) :
    ∃ ptr, state.mem.backing a = some ptr ∧ hostBytes state.host ptr len = p.bytes a len := by
  obtain ⟨ptr, found, maps⟩ := embodies.found (by omega) inside
  refine ⟨ptr, found, List.map_congr_left fun k listed => ?_⟩
  have bound : k < len := List.mem_range.mp listed
  exact (embodies.agrees.mem _ _ (maps k (by omega))).symm

section Calls

variable {env : Environment} {calls : HostCalls}

theorem Ready.read (ready : Ready allowed p state) (number : p.number = 63)
    (supported : CallSupported allowed p) :
    Performs allowed (p.call env) (rvemuDispatchSyscall calls state) := by
  simp only [CallSupported, number] at supported
  obtain ⟨ptr, found, -⟩ := ready.rest.found (by decide) supported
  have called : p.call env = p.answer 0 := by simp only [Process.call, number]
  have a7 : (p.hart.x 17).toNat = 63 := number
  simp only [rvemuDispatchSyscall, ready.mirrors.regs, a7, rvmemAt_found found, called]
  exact ready.answer 0 rfl rfl

theorem Ready.write (ready : Ready allowed p state) (presents : Presents env calls) (number : p.number = 64)
    (supported : CallSupported allowed p) :
    Performs allowed (p.call env) (rvemuDispatchSyscall calls state) := by
  simp only [CallSupported, number] at supported
  obtain ⟨ptr, found, bytes⟩ := ready.rest.bytes supported
  have called : p.call env =
      p.answer (env.write (p.hart.x 10) (p.bytes (p.hart.x 11) (p.hart.x 12).toNat)) := by
    simp only [Process.call, number]
  have a7 : (p.hart.x 17).toNat = 64 := number
  have count : ((p.hart.x 12).setWidth 64).toNat = (p.hart.x 12).toNat := by
    rw [BitVec.toNat_setWidth]
    omega
  simp only [rvemuDispatchSyscall, ready.mirrors.regs, a7, rvmemAt_found found, called]
  refine ready.answer _ ?_ rfl
  rw [rvsyscWrite, presents.write, count, bytes]

theorem Ready.recorded (ready : Ready allowed p state) {a : Word} {ptr : Nat}
    (maps : Maps (elfVmaToMem state.mem) (byteAddr a) (hostCell ptr) statSize) (record : Nat → Byte) :
    Ready allowed (p.recordAt a (some record))
      { state with host := ByteMemory.write state.host (hostCell ptr) statSize record } := by
  have mirrors := ready.mirrors
  have rest := ready.rest
  have memory := mirrors.mem.write rest.separated.injective statSize maps record
  exact ⟨⟨mirrors.regs, mirrors.pc, memory⟩, ⟨rest.agrees.regs, rest.agrees.pc, memory⟩, rest.fregs,
    rest.suspended, rest.separated, rest.within, rest.heap⟩

theorem Ready.fstat (ready : Ready allowed p state) (presents : Presents env calls) (number : p.number = 80)
    (supported : CallSupported allowed p) :
    Performs allowed (p.call env) (rvemuDispatchSyscall calls state) := by
  simp only [CallSupported, number] at supported
  obtain ⟨ptr, found, maps⟩ := ready.rest.found (by decide) supported
  have called : p.call env =
      (p.recordAt (p.hart.x 11) (env.stat (p.hart.x 10)).2).answer (env.stat (p.hart.x 10)).1 := by
    simp only [Process.call, number]
  have a7 : (p.hart.x 17).toNat = 80 := number
  simp only [rvemuDispatchSyscall, ready.mirrors.regs, a7, rvmemAt_found found, called]
  cases record : (env.stat (p.hart.x 10)).2 with
  | none =>
    refine ready.answer _ ?_ rfl
    simp only [rvsyscFstat, presents.answer, presents.unwritten _ _ _ record]
  | some record' =>
    refine (ready.recorded maps record').answer _ ?_ rfl
    simp only [rvsyscFstat, presents.answer, presents.record _ _ _ _ record]

theorem Ready.exit (ready : Ready allowed p state) (number : p.number = 93) :
    Performs allowed (p.call env) (rvemuDispatchSyscall calls state) := by
  have called : p.call env = { p with hart := p.hart.next, exited := true } := by
    simp only [Process.call, number]
  have a7 : (p.hart.x 17).toNat = 93 := number
  have rest := ready.rest
  simp only [rvemuDispatchSyscall, ready.mirrors.regs, a7, called]
  exact ⟨_, rfl, ⟨rest.agrees.regs, congrArg (· + 4) rest.agrees.pc, rest.agrees.mem⟩, rest.fregs, rfl,
    rest.separated, rest.within, rest.heap⟩

theorem Embodies.grants_iff {before after : List ElfLoadRegion} {heap : ElfLoadRegion}
    (embodies : Embodies allowed p state)
    (tagged : elfGetRegionByTag regionTagHeap state.mem.loadRegions = some (before, heap, after))
    (base : heap.vmaBase = p.heap) (limit : heap.vmaBase + heap.szReserved = p.limit) (request : Word) :
    p.Grants request ↔ heap.Accepts request := by
  have member : heap ∈ state.mem.loadRegions := by
    rw [elfGetRegionByTag_split tagged]
    simp
  have bounded := embodies.separated.bounded heap member
  have reserved : p.limit.toNat = heap.vmaEnd := by
    unfold ElfLoadRegion.vmaEnd at bounded ⊢
    rw [← limit, BitVec.toNat_add, Nat.mod_eq_of_lt bounded]
  rw [Process.Grants, ElfLoadRegion.Accepts, reserved, ← base]
  exact and_congr_right' (and_congr_right' (and_iff_left bounded).symm)

theorem Ready.moved (ready : Ready allowed p state) {before after : List ElfLoadRegion} {heap : ElfLoadRegion}
    {request : Word}
    (tagged : elfGetRegionByTag regionTagHeap state.mem.loadRegions = some (before, heap, after))
    (base : heap.vmaBase = p.heap) (limit : heap.vmaBase + heap.szReserved = p.limit)
    (same : (state.mem.withHeap before after (heap.allocatedTo request)).layout = state.mem.layout) :
    Ready allowed { p with brk := request }
      (state.withMem (state.mem.withHeap before after (heap.allocatedTo request))) := by
  have mirrors := ready.mirrors
  have rest := ready.rest
  have memory : Agree (elfVmaToMem (state.mem.withHeap before after (heap.allocatedTo request)))
      p.hart.mem state.host := by
    rw [funext (elfVmaToMem_congr same)]
    exact mirrors.mem
  refine ⟨⟨mirrors.regs, mirrors.pc, memory⟩, ⟨rest.agrees.regs, rest.agrees.pc, memory⟩, rest.fregs,
    rest.suspended, rest.separated.congr same.symm, ?_, ?_⟩
  · intro a len inside
    exact (rest.within a len inside).congr same.symm
  · refine ⟨before, heap.allocatedTo request, after, elfGetRegionByTag_replace tagged rfl, base, limit, ?_⟩
    exact (BitVec.add_comm _ _).trans (BitVec.sub_add_cancel _ _)

theorem Ready.brk (ready : Ready allowed p state) (number : p.number = 214) :
    Performs allowed (p.call env) (rvemuDispatchSyscall calls state) := by
  obtain ⟨before, heap, after, tagged, base, limit, current⟩ := ready.rest.heap
  have grants_iff := ready.rest.grants_iff tagged base limit (p.hart.x 10)
  have present : heap.allocatedTo p.brk = heap := by
    rw [ElfLoadRegion.allocatedTo, ← current, BitVec.add_comm, BitVec.add_sub_cancel]
  have atBreak : elfGetRegionByTag regionTagHeap state.mem.loadRegions =
      some (before, heap.allocatedTo p.brk, after) := present.symm ▸ tagged
  have answered := rvsyscBrk_found atBreak (p.hart.x 10)
  have called : p.call env = p.moveBreak (p.hart.x 10) := by simp only [Process.call, number]
  have a7 : (p.hart.x 17).toNat = 214 := number
  rw [called, Process.moveBreak]
  by_cases granted : p.Grants (p.hart.x 10)
  · rw [if_pos (grants_iff.mp granted)] at answered
    rw [if_pos granted]
    simp only [rvemuDispatchSyscall, ready.mirrors.regs, a7, answered]
    exact (ready.moved tagged base limit (rvsyscBrk_layout answered)).answer _ rfl rfl
  · rw [if_neg fun accepted => granted (grants_iff.mpr accepted)] at answered
    rw [if_neg granted]
    simp only [rvemuDispatchSyscall, ready.mirrors.regs, a7, answered]
    exact ready.answer p.brk rfl rfl

theorem Ready.call (ready : Ready allowed p state) (presents : Presents env calls)
    (supported : CallSupported allowed p) :
    Performs allowed (p.call env) (rvemuDispatchSyscall calls state) := by
  by_cases read : p.number = 63
  · exact ready.read read supported
  by_cases write : p.number = 64
  · exact ready.write presents write supported
  by_cases fstat : p.number = 80
  · exact ready.fstat presents fstat supported
  by_cases exit : p.number = 93
  · exact ready.exit exit
  by_cases brk : p.number = 214
  · exact ready.brk brk
  · simp only [CallSupported] at supported

end Calls

def userInsn : UserInstr → Insn
  | .base i => baseInsn i
  | .mul op rd rs1 rs2 => mulInsn op rd rs1 rs2
  | .transfer t => transferInsn t
  | .ecall => ecallInsn

theorem rvdecInsn_user (state : RvState) (i : UserInstr) :
    rvdecInsn state i.encode = .ok (userInsn i, state) := by
  cases i with
  | base i => exact rvdecInsn_base state i
  | mul op rd rs1 rs2 => exact rvdecInsn_mul state op rd rs1 rs2
  | transfer t => exact rvdecInsn_transfer state t
  | ecall => rfl

theorem baseInsn_not_ecall (i : Base) : (baseInsn i).insnTy ≠ .ecall := by
  cases i with
  | lui | auipc | jal | jalr => exact nofun
  | branch op | load op | store op | opImm op | shift op | reg op => cases op <;> exact nofun

theorem mulInsn_ty (op : MulOp) (rd rs1 rs2 : Reg) :
    (mulInsn op rd rs1 rs2).insnTy ≠ .invalid ∧ (mulInsn op rd rs1 rs2).insnTy ≠ .ecall := by
  cases op <;> exact ⟨nofun, nofun⟩

theorem userInsn_valid (i : UserInstr) : (userInsn i).insnTy ≠ .invalid := by
  cases i with
  | base i => exact baseInsn_valid i
  | mul op rd rs1 rs2 => exact (mulInsn_ty op rd rs1 rs2).1
  | transfer t => exact transferInsn_valid t
  | ecall => exact nofun

theorem Ready.performs (ready : Ready allowed p state) (float : HostFloat) {env : Environment}
    {calls : HostCalls} (presents : Presents env calls) (i : UserInstr)
    (supported : InstrSupported allowed p i) :
    Performs allowed (i.exec env p) (rvemuDispatchInsn float calls state (userInsn i)) := by
  cases i with
  | base i => exact ready.base float calls i supported
  | mul op rd rs1 rs2 => exact ready.mul float calls op rd rs1 rs2 supported
  | transfer t => exact ready.transfer float calls t supported
  | ecall => exact ready.call presents supported

theorem Embodies.fetch (embodies : Embodies allowed p state) (code : allowed p.hart.pc 4) :
    ∃ ptr, rvstateFetch (state.setRegp 0 0) = .ok (p.hart.fetch, ⟨.fetch, p.hart.pc, ptr, 4⟩) := by
  obtain ⟨ptr, found, maps⟩ := embodies.found (by decide) code
  have word : load state.host (hostCell ptr) 4 = p.hart.fetch := (embodies.agrees.mem.load maps).symm
  refine ⟨ptr, ?_⟩
  rw [← embodies.agrees.pc] at found ⊢
  rw [@rvstateFetch_found (state.setRegp 0 0) ptr found, ← word]
  rfl

theorem Embodies.request (embodies : Embodies allowed p state) (supported : CallSupported allowed p) :
    syscallRequest state = p.request := by
  have a0 := embodies.agrees.regs 10 (by decide)
  have a1 := embodies.agrees.regs 11 (by decide)
  have a2 := embodies.agrees.regs 12 (by decide)
  have a7 : (state.regs 17).toNat = p.number := congrArg BitVec.toNat (embodies.agrees.regs 17 (by decide))
  by_cases write : p.number = 64
  · simp only [CallSupported, write] at supported
    obtain ⟨ptr, found, bytes⟩ := embodies.bytes supported
    simp only [syscallRequest, Process.request, a7, write, a0, a1, a2, found, Option.map_some, bytes]
  by_cases stat : p.number = 80
  · simp only [CallSupported, stat] at supported
    obtain ⟨ptr, found, -⟩ := embodies.found (by decide) supported
    simp only [syscallRequest, Process.request, a7, stat, a0, a1, found, Option.map_some]
  by_cases exit : p.number = 93
  · simp only [syscallRequest, Process.request, a7, exit, a0]
  · simp only [syscallRequest, Process.request, a7]

theorem Embodies.asked (embodies : Embodies allowed p state) (live : state.suspended = false) {i : UserInstr}
    (fetched : p.hart.fetch = i.encode) (supported : Supported allowed p i) : rvemuRequest state = i.request p := by
  obtain ⟨ptr, read⟩ := embodies.fetch supported.code
  rw [fetched] at read
  rw [rvemuRequest, rvemuDecoded_eq read (rvdecInsn_user _ i)]
  cases i with
  | base i => exact if_neg fun asks => baseInsn_not_ecall i asks.2
  | mul op rd rs1 rs2 => exact if_neg fun asks => (mulInsn_ty op rd rs1 rs2).2 asks.2
  | transfer t => exact if_neg fun asks => by cases t <;> cases asks.2
  | ecall => exact (if_pos ⟨live, rfl⟩).trans (embodies.request supported.instr)

end Dispatch

section Runs

variable {allowed : Word → Nat → Prop} (float : HostFloat)

theorem emulator_simulates :
    Simulates (userProcess (Supported allowed)) (emulator float) Presents (Embodies allowed) where
  step := by
    rintro p p' state env calls asked embodies presents ⟨live, i, fetched, supported, rfl, rfl⟩
    obtain ⟨ptr, read⟩ := embodies.fetch supported.code
    rw [fetched] at read
    have running : state.suspended = false := embodies.suspended.trans live
    obtain ⟨arm, ran, after⟩ := (embodies.ready (userInsn i)).performs float presents i supported.instr
    refine ⟨_, ⟨?_, (embodies.asked running fetched supported).symm⟩, after⟩
    rw [rvemuStep_decoded running read (rvdecInsn_user _ i) (userInsn_valid i), ran]
    rfl

theorem Embodies.stopped {p : Process} {state : RvState} (embodies : Embodies allowed p state)
    (exited : p.exited = true) (calls : HostCalls) : rvemuStep float calls state = .ok (false, state) :=
  rvemuStep_suspended float calls (embodies.suspended.trans exited)

theorem emulator_refines_process {p p' : Process} {state : RvState} {envs : List Environment}
    {calls : List HostCalls} {asked : List (Option Request)} (embodies : Embodies allowed p state)
    (presents : List.Forall₂ Presents envs calls)
    (run : (userProcess (Supported allowed)).Run p envs asked p') :
    ∃ after, rvemuSteps float calls state = .ok (List.replicate calls.length true, after) ∧
      (emulator float).Run state calls asked after ∧ Embodies allowed p' after ∧
        (p'.exited = true → ∀ later, rvemuStep float later after = .ok (false, after)) := by
  obtain ⟨after, ran, stop⟩ := (emulator_simulates float).run embodies presents run
  exact ⟨after, emulator_run ran, ran, stop, fun exited later => stop.stopped float exited later⟩

end Runs

-- A process whose only instruction is an ECALL, for EXIT with code 7.
def exitContext : ElfContext where
  loadRegions :=
    [{ vmaBase := 0x1000, memBase := 0x5000, szReserved := 4, tag := some "LOAD" },
      { vmaBase := 0x2000, memBase := 0x6000, szReserved := 64, tag := some regionTagHeap }]
  entryPoint := 0x1000

def exitHost : Memory Nat := fun ptr => if ptr = 0x5000 then 0x73 else 0

def exitState : RvState := ((rvstateInit exitContext exitHost).setRegp 17 93).setRegp 10 7

def exitProcess : Process where
  hart := {
    x := exitState.regs, zero := rfl, pc := 0x1000, mem := fun a => exitHost ((elfVmaToMem exitContext a).getD 0) }
  f := fun _ => 0
  heap := 0x2000
  limit := 0x2040
  brk := 0x2000

theorem exitState_embodies : Embodies exitContext.Within exitProcess exitState where
  agrees := {
    regs := fun _ _ => rfl
    pc := rfl
    mem := by
      intro a ptr found
      have place : elfVmaToMem exitContext a = some ptr := found
      simp only [exitProcess, place, Option.getD_some, exitState, RvState.setRegp, rvstateInit] }
  fregs := rfl
  suspended := rfl
  separated := by
    constructor <;>
      simp [exitState, RvState.setRegp, rvstateInit, exitContext, ElfLoadRegion.vmaEnd, ElfLoadRegion.memEnd,
        ElfLoadRegion.Disjoint, ElfLoadRegion.Unshared, ElfContext.Buffered]
  within := fun _ _ inside => inside
  heap := ⟨_, _, _, rfl, rfl, rfl, rfl⟩

-- No file is open.
def quietEnvironment : Environment := ⟨fun _ _ => -1, fun _ => (-1, none)⟩

def quietCalls : HostCalls where
  write := fun _ _ _ _ => .failure 9
  fstat := fun _ _ host => (.failure 9, host)

theorem quiet_presents : Presents quietEnvironment quietCalls :=
  ⟨fun _ _ _ _ => rfl, fun _ _ _ => rfl, fun _ _ _ _ => rfl, nofun⟩

theorem exitProcess_step (env : Environment) :
    (userProcess (Supported exitContext.Within)).step exitProcess env (some (.exit 7)) (exitProcess.call env) :=
  ⟨rfl, .ecall, by decide, ⟨⟨_, List.mem_cons_self, by decide⟩, trivial⟩, by decide, rfl⟩

theorem emulator_refines_exit :
    ∃ after, rvemuSteps default [quietCalls] exitState = .ok ([true], after) ∧
      (emulator default).Run exitState [quietCalls] [some (.exit 7)] after ∧
        ∀ later, rvemuStep default later after = .ok (false, after) := by
  obtain ⟨after, ran, emulated, -, stopped⟩ := emulator_refines_process default exitState_embodies
    (.cons quiet_presents .nil) (.step (exitProcess_step quietEnvironment) (.done _))
  exact ⟨after, ran, emulated, stopped rfl⟩

end Urv86t
