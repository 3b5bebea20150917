import Urv86t.Decoder.Encoded
import Urv86t.Memory.Touches

set_option autoImplicit false

namespace Urv86t

open ByteMemory Rv32

inductive StoreKind where
  | sb | sh | sw | fsw | fsd
  deriving DecidableEq, Repr

inductive LoadKind where
  | lb | lbu | lh | lhu | lw | flw | fld
  deriving DecidableEq, Repr

def StoreKind.width : StoreKind → Nat
  | .sb => 1 | .sh => 2 | .sw => 4 | .fsw => 4 | .fsd => 8

def LoadKind.width : LoadKind → Nat
  | .lb => 1 | .lbu => 1 | .lh => 2 | .lhu => 2 | .lw => 4 | .flw => 4 | .fld => 8

-- The record of a float access carries its width in `funct`.
def StoreKind.insnTy : StoreKind → EInsn
  | .sb => .sb | .sh => .sh | .sw => .sw | .fsw => .fsx | .fsd => .fsx

def StoreKind.funct : StoreKind → BitVec 16
  | .sb => 0b000 | .sh => 0b001 | .sw => 0b010 | .fsw => 0b010 | .fsd => 0b011

def LoadKind.insnTy : LoadKind → EInsn
  | .lb => .lb | .lbu => .lbu | .lh => .lh | .lhu => .lhu | .lw => .lw | .flw => .flx | .fld => .flx

def LoadKind.funct : LoadKind → BitVec 16
  | .lb => 0b000 | .lbu => 0b100 | .lh => 0b001 | .lhu => 0b101 | .lw => 0b010 | .flw => 0b010
  | .fld => 0b011

def LoadKind.Loaded (rd : Reg) (after : RvState) : (kind : LoadKind) → BitVec (8 * kind.width) → Prop
  | .lb, bytes => after.regs rd = bytes.signExtend 32
  | .lbu, bytes => after.regs rd = bytes.zeroExtend 32
  | .lh, bytes => after.regs rd = bytes.signExtend 32
  | .lhu, bytes => after.regs rd = bytes.zeroExtend 32
  | .lw, bytes => after.regs rd = bytes
  | .flw, bytes => after.fregs rd = 0xffffffff#32 ++ bytes
  | .fld, bytes => after.fregs rd = bytes

def LoadKind.assign (rd : Reg) (state : RvState) : (kind : LoadKind) → BitVec (8 * kind.width) → RvState
  | .lb, bytes => state.setRegp (rd.setWidth 8) (bytes.signExtend 32)
  | .lbu, bytes => state.setRegp (rd.setWidth 8) (bytes.zeroExtend 32)
  | .lh, bytes => state.setRegp (rd.setWidth 8) (bytes.signExtend 32)
  | .lhu, bytes => state.setRegp (rd.setWidth 8) (bytes.zeroExtend 32)
  | .lw, bytes => state.setRegp (rd.setWidth 8) bytes
  | .flw, bytes => state.setFregp (rd.setWidth 8) (0xffffffff#32 ++ bytes)
  | .fld, bytes => state.setFregp (rd.setWidth 8) bytes

def StoreKind.value (src : Word) (floatSrc : BitVec 64) : (kind : StoreKind) → BitVec (8 * kind.width)
  | .sb => src.truncate 8
  | .sh => src.truncate 16
  | .sw => src
  | .fsw => floatSrc.truncate 32
  | .fsd => floatSrc

theorem LoadKind.assign_loaded (rd : Reg) (state : RvState) (pc : Word) (kind : LoadKind)
    (bytes : BitVec (8 * kind.width)) :
    kind.Loaded rd { kind.assign rd state bytes with pc := pc } bytes := by
  cases kind <;> simp only [Loaded, assign, RvState.setRegp, RvState.setFregp, reg_roundTrip]
  all_goals exact Function.update_self _ _ _

theorem LoadKind.assign_frame (rd : Reg) (state : RvState) (kind : LoadKind)
    (bytes : BitVec (8 * kind.width)) :
    (kind.assign rd state bytes).host = state.host ∧ (kind.assign rd state bytes).mem = state.mem := by
  cases kind <;> exact ⟨rfl, rfl⟩

structure StoreRequest where
  kind : StoreKind
  rs1 : Reg
  rs2 : Reg
  imm : Word
  regs : Reg → Word
  fregs : Reg → BitVec 64

structure LoadRequest where
  kind : LoadKind
  rd : Reg
  rs1 : Reg
  imm : Word
  regs : Reg → Word
  fregs : Reg → BitVec 64

namespace StoreRequest

def addr (req : StoreRequest) : Word := req.regs req.rs1 + req.imm

def value (req : StoreRequest) : BitVec (8 * req.kind.width) :=
  req.kind.value (req.regs req.rs2) (req.fregs req.rs2)

def insn (req : StoreRequest) : Insn :=
  { insnTy := req.kind.insnTy, rs1 := req.rs1.setWidth 8, rs2 := req.rs2.setWidth 8
    funct := req.kind.funct, imm := req.imm }

def perform (float : HostFloat) (calls : HostCalls) (state : RvState) (req : StoreRequest) :
    Except Abort RvState :=
  (rvemuDispatch float calls { state with regs := req.regs, fregs := req.fregs } req.insn).map (·.state)

def performAll (float : HostFloat) (calls : HostCalls) : List StoreRequest → RvState → Except Abort RvState
  | [], state => .ok state
  | req :: rest, state => do
    let state ← req.perform float calls state
    performAll float calls rest state

def flatten (flat : Memory Word) (req : StoreRequest) : Memory Word :=
  store flat (byteAddr req.addr) req.kind.width req.value

def flattenAll (reqs : List StoreRequest) (flat : Memory Word) : Memory Word := reqs.foldl flatten flat

end StoreRequest

namespace LoadRequest

def addr (req : LoadRequest) : Word := req.regs req.rs1 + req.imm

def insn (req : LoadRequest) : Insn :=
  { insnTy := req.kind.insnTy, rd := req.rd.setWidth 8, rs1 := req.rs1.setWidth 8
    funct := req.kind.funct, imm := req.imm }

def perform (float : HostFloat) (calls : HostCalls) (state : RvState) (req : LoadRequest) :
    Except Abort RvState :=
  (rvemuDispatch float calls { state with regs := req.regs, fregs := req.fregs } req.insn).map (·.state)

end LoadRequest

theorem nanbox_append (v : BitVec 32) : rvfloatNanboxSaturate v = 0xffffffff#32 ++ v := by
  have boxed : rvfloatNanboxSaturate v = v.setWidth 64 ||| BitVec.allOnes 64 <<< 32 := rfl
  have ones : 0xffffffff#32 = BitVec.allOnes 32 := by decide
  rw [boxed, ones]
  apply BitVec.eq_of_getLsbD_eq
  intro i hi
  simp only [BitVec.getLsbD_or, BitVec.getLsbD_setWidth, BitVec.getLsbD_shiftLeft, BitVec.getLsbD_allOnes,
    BitVec.getLsbD_append]
  by_cases low : i < 32
  · simp [low, hi]
  · have rest : i - 32 < 32 := by omega
    simp [low, hi, rest, BitVec.getLsbD_of_ge v i (by omega)]
    omega

theorem unpack_low (v : BitVec 64) : (rvfloatNanboxUnpack v).setWidth 32 = v.setWidth 32 := by
  have mask : v &&& 0xffffffff = (v.setWidth 32).setWidth 64 := by
    have ones : (0xffffffff : BitVec 64) = (BitVec.allOnes 32).setWidth 64 := by decide
    rw [ones]
    apply BitVec.eq_of_getLsbD_eq
    intro i hi
    simp only [BitVec.getLsbD_and, BitVec.getLsbD_setWidth, BitVec.getLsbD_allOnes]
    grind
  rw [rvfloatNanboxUnpack, mask]
  apply BitVec.eq_of_getLsbD_eq
  intro i hi
  simp only [BitVec.getLsbD_setWidth]
  grind

section OneAccess

variable (float : HostFloat) (calls : HostCalls) (state : RvState)

-- The cases of the inner switches only show in `fltCase`.
theorem dispatch_storeRequest (req : StoreRequest) (regs : state.regs = req.regs)
    (fregs : state.fregs = req.fregs) (out : Dispatched)
    (arm : storeArm state req.insn req.kind.width req.value = .ok out) :
    ∃ fltCase, rvemuDispatchInsn float calls state req.insn = .ok { out with fltCase := fltCase } := by
  obtain ⟨kind, rs1, rs2, imm, regs', fregs'⟩ := req
  subst regs fregs
  have source : rvmemReg state (rs2.setWidth 8) = state.regs rs2 := by rw [rvmemReg, reg_roundTrip]
  have floatSource : rvmemFreg state (rs2.setWidth 8) = state.fregs rs2 := by rw [rvmemFreg, reg_roundTrip]
  cases kind with
  | sb | sh | sw =>
    refine ⟨out.fltCase, ?_⟩
    simp only [rvemuDispatchInsn, StoreRequest.insn, StoreKind.insnTy, source]
    exact arm
  | fsw =>
    refine ⟨some .single, ?_⟩
    simp only [rvemuDispatchInsn, StoreRequest.insn, StoreKind.insnTy]
    rw [fltSwitch_single _ rfl, unpack_low, floatSource]
    exact congrArg (Except.map _) arm
  | fsd =>
    refine ⟨some .double, ?_⟩
    simp only [rvemuDispatchInsn, StoreRequest.insn, StoreKind.insnTy]
    rw [fltSwitch_double _ rfl, floatSource]
    exact congrArg (Except.map _) arm

theorem dispatch_loadRequest (req : LoadRequest) (out : Dispatched)
    (arm : loadArm state req.insn req.kind.width (req.kind.assign req.rd state) = .ok out) :
    ∃ fltCase, rvemuDispatchInsn float calls state req.insn = .ok { out with fltCase := fltCase } := by
  obtain ⟨kind, rd, rs1, imm, regs, fregs⟩ := req
  cases kind with
  | lb | lbu | lh | lhu | lw =>
    refine ⟨out.fltCase, ?_⟩
    simp only [rvemuDispatchInsn, LoadRequest.insn, LoadKind.insnTy]
    exact arm
  | flw =>
    refine ⟨some .single, ?_⟩
    simp only [rvemuDispatchInsn, LoadRequest.insn, LoadKind.insnTy, nanbox_append]
    rw [fltSwitch_single _ rfl]
    exact congrArg (Except.map _) arm
  | fld =>
    refine ⟨some .double, ?_⟩
    simp only [rvemuDispatchInsn, LoadRequest.insn, LoadKind.insnTy]
    rw [fltSwitch_double _ rfl]
    exact congrArg (Except.map _) arm

end OneAccess

theorem StoreRequest.dataLen (req : StoreRequest) : Urv86t.dataLen req.insn = some req.kind.width := by
  obtain ⟨kind, rs1, rs2, imm, regs, fregs⟩ := req
  cases kind <;> rfl

theorem LoadRequest.dataLen (req : LoadRequest) : Urv86t.dataLen req.insn = some req.kind.width := by
  obtain ⟨kind, rd, rs1, imm, regs, fregs⟩ := req
  cases kind <;> rfl

section Runs

variable (float : HostFloat) (calls : HostCalls)

theorem dispatched_belowTop {state : RvState} (apart : state.mem.Apart) {insn : Insn} {len : Nat} {arm : Dispatched}
    (accesses : dataLen insn = some len) (ran : rvemuDispatch float calls state insn = .ok arm) :
    state.mem.BelowTop (rvmemReg state insn.rs1 + insn.imm) := by
  obtain ⟨inner, body, -⟩ := rvemuDispatch_returned ran
  have touches := (rvemuDispatchInsn_touches body).2
  rw [accesses] at touches
  obtain ⟨ptr, found, -⟩ := touches
  exact apart.belowTop found

theorem StoreRequest.perform_belowTop (req : StoreRequest) {state after : RvState} (apart : state.mem.Apart)
    (ran : req.perform float calls state = .ok after) : state.mem.BelowTop req.addr := by
  obtain ⟨arm, dispatched, -⟩ := map_returned ran
  have below := @dispatched_belowTop float calls { state with regs := req.regs, fregs := req.fregs } apart _ _ _
    req.dataLen dispatched
  rwa [rvmemReg, insn, reg_roundTrip] at below

theorem LoadRequest.perform_belowTop (req : LoadRequest) {state after : RvState} (apart : state.mem.Apart)
    (ran : req.perform float calls state = .ok after) : state.mem.BelowTop req.addr := by
  obtain ⟨arm, dispatched, -⟩ := map_returned ran
  have below := @dispatched_belowTop float calls { state with regs := req.regs, fregs := req.fregs } apart _ _ _
    req.dataLen dispatched
  rwa [rvmemReg, insn, reg_roundTrip] at below

theorem StoreRequest.perform_flat (req : StoreRequest) {state : RvState} (apart : state.mem.Apart)
    {flat : Memory Word} (agree : Agree state.mem.mapping flat state.host)
    (within : state.mem.Within req.addr req.kind.width) (below : state.mem.BelowTop req.addr) :
    ∃ after, req.perform float calls state = .ok after ∧ after.mem = state.mem ∧
      Agree state.mem.mapping (flatten flat req) after.host ∧
      ∀ ptr, (∀ k, k < req.kind.width → state.mem.mapping (byteAddr req.addr k) ≠ some ptr) →
        after.host ptr = state.host ptr := by
  have some_byte : 0 < req.kind.width := by cases req.kind <;> decide
  let ready := rvbkptCheckInsn { state with regs := req.regs, fregs := req.fregs } req.insn
  have addr : rvmemReg ready req.insn.rs1 + req.insn.imm = req.addr := by
    simp [ready, rvmemReg, rvbkptCheckInsn, insn, StoreRequest.addr]
  obtain ⟨ptr, found, maps⟩ := apart.maps within some_byte below
  have arm := storeArm_backed ready req.insn req.value (addr ▸ found : ready.mem.backing _ = some ptr)
  obtain ⟨fltCase, ran⟩ := dispatch_storeRequest float calls ready req rfl rfl _ arm
  have performed := congrArg (Except.map Dispatched.state) (rvemuDispatch_ok ran)
  refine ⟨_, performed, rfl, ?_, ?_⟩
  · exact agree.store apart.injective maps req.value
  · intro p outside
    exact store_miss _ _ _ _ p fun k inside same => outside k inside (same ▸ maps k inside)

theorem LoadRequest.perform_flat (req : LoadRequest) {state : RvState} (apart : state.mem.Apart)
    {flat : Memory Word} (agree : Agree state.mem.mapping flat state.host)
    (within : state.mem.Within req.addr req.kind.width) (below : state.mem.BelowTop req.addr) :
    ∃ after, req.perform float calls state = .ok after ∧ after.host = state.host ∧
      req.kind.Loaded req.rd after (load flat (byteAddr req.addr) req.kind.width) := by
  have some_byte : 0 < req.kind.width := by cases req.kind <;> decide
  let ready := rvbkptCheckInsn { state with regs := req.regs, fregs := req.fregs } req.insn
  have addr : rvmemReg ready req.insn.rs1 + req.insn.imm = req.addr := by
    simp [ready, rvmemReg, rvbkptCheckInsn, insn, LoadRequest.addr]
  obtain ⟨ptr, found, maps⟩ := apart.maps within some_byte below
  have arm := loadArm_backed ready req.insn (req.kind.assign req.rd ready)
    (addr ▸ found : ready.mem.backing _ = some ptr)
  obtain ⟨fltCase, ran⟩ := dispatch_loadRequest float calls ready req _ arm
  have value : load flat (byteAddr req.addr) req.kind.width = load ready.host (hostCell ptr) req.kind.width :=
    agree.load maps
  refine ⟨_, congrArg (Except.map Dispatched.state) (rvemuDispatch_ok ran), ?_, ?_⟩
  · exact (req.kind.assign_frame req.rd ready _).1
  · rw [value]
    exact req.kind.assign_loaded req.rd ready _ _

theorem StoreRequest.performAll_flat (reqs : List StoreRequest) {state : RvState}
    (apart : state.mem.Apart) {flat : Memory Word} (agree : Agree state.mem.mapping flat state.host)
    (within : ∀ req ∈ reqs, state.mem.Within req.addr req.kind.width)
    (below : ∀ req ∈ reqs, state.mem.BelowTop req.addr) :
    ∃ after, performAll float calls reqs state = .ok after ∧ after.mem = state.mem ∧
      Agree state.mem.mapping (flattenAll reqs flat) after.host ∧
      ∀ ptr, (∀ req ∈ reqs, ∀ k, k < req.kind.width →
        state.mem.mapping (byteAddr req.addr k) ≠ some ptr) → after.host ptr = state.host ptr := by
  induction reqs generalizing state flat with
  | nil => exact ⟨state, rfl, rfl, agree, fun _ _ => rfl⟩
  | cons req rest ih =>
    obtain ⟨middle, stored, sameMem, agreed, kept⟩ :=
      req.perform_flat float calls apart agree (within req (by simp)) (below req (by simp))
    rw [← sameMem] at apart agreed
    obtain ⟨after, ran, sameMemAfter, agreedAfter, keptAfter⟩ :=
      ih apart agreed (fun later member => sameMem ▸ within later (by simp [member]))
        fun later member => sameMem ▸ below later (by simp [member])
    rw [sameMem] at agreedAfter keptAfter
    refine ⟨after, ?_, sameMemAfter.trans sameMem, agreedAfter, ?_⟩
    · simp only [performAll, stored, bind, Except.bind, ran]
    · intro ptr outside
      rw [keptAfter ptr fun later member => outside later (by simp [member])]
      exact kept ptr (outside req (by simp))

-- A store that is performed was below the top, and so it left the table alone for the next one.
theorem StoreRequest.performAll_belowTop (reqs : List StoreRequest) {state after : RvState}
    (apart : state.mem.Apart) {flat : Memory Word} (agree : Agree state.mem.mapping flat state.host)
    (within : ∀ req ∈ reqs, state.mem.Within req.addr req.kind.width)
    (ran : performAll float calls reqs state = .ok after) : ∀ req ∈ reqs, state.mem.BelowTop req.addr := by
  induction reqs generalizing state flat with
  | nil => exact List.forall_mem_nil _
  | cons req rest ih =>
    obtain ⟨middle, stored, later⟩ := bind_returned ran
    have first := req.perform_belowTop float calls apart stored
    obtain ⟨middle', stored', sameMem, agreed, -⟩ :=
      req.perform_flat float calls apart agree (within req (by simp)) first
    rw [stored] at stored'
    cases stored'
    rw [← sameMem] at apart agreed first ⊢
    exact List.forall_mem_cons.mpr
      ⟨first, ih apart agreed (fun other member => sameMem ▸ within other (by simp [member])) later⟩

/-- The stores and the load do to the buffers and to `rd` what they do to the flat memory. -/
def ActsFlat (state : RvState) (flat : Memory Word) (stores : List StoreRequest) (req : LoadRequest) : Prop :=
  ∃ after loaded, StoreRequest.performAll float calls stores state = .ok after ∧
    req.perform float calls after = .ok loaded ∧
    req.kind.Loaded req.rd loaded
      (load (StoreRequest.flattenAll stores flat) (byteAddr req.addr) req.kind.width) ∧
    ∀ ptr, (∀ stored ∈ stores, ∀ k, k < stored.kind.width →
      state.mem.mapping (byteAddr stored.addr k) ≠ some ptr) → loaded.host ptr = state.host ptr

theorem regionMemory_flat_iff {state : RvState} (apart : state.mem.Apart) {flat : Memory Word}
    (agree : Agree state.mem.mapping flat state.host) (stores : List StoreRequest)
    (storesWithin : ∀ req ∈ stores, state.mem.Within req.addr req.kind.width) (req : LoadRequest)
    (loadWithin : state.mem.Within req.addr req.kind.width) :
    ActsFlat float calls state flat stores req ↔
      (∀ stored ∈ stores, state.mem.BelowTop stored.addr) ∧ state.mem.BelowTop req.addr := by
  constructor
  · rintro ⟨after, loaded, ran, read, -⟩
    have below := StoreRequest.performAll_belowTop float calls stores apart agree storesWithin ran
    obtain ⟨after', ran', sameMem, -⟩ :=
      StoreRequest.performAll_flat float calls stores apart agree storesWithin below
    rw [ran] at ran'
    cases ran'
    rw [← sameMem] at apart
    exact ⟨below, sameMem ▸ req.perform_belowTop float calls apart read⟩
  · rintro ⟨below, loadBelow⟩
    obtain ⟨after, ran, sameMem, agreed, kept⟩ :=
      StoreRequest.performAll_flat float calls stores apart agree storesWithin below
    rw [← sameMem] at apart agreed loadWithin loadBelow
    obtain ⟨loaded, read, sameHost, arrived⟩ := req.perform_flat float calls apart agreed loadWithin loadBelow
    refine ⟨after, loaded, ran, read, arrived, ?_⟩
    intro ptr outside
    rw [sameHost, kept ptr outside]

end Runs

-- An unaligned word store half overwritten by a double, read back across both.
def overlappingState : RvState :=
  rvstateInit
    { loadRegions :=
        [{ vmaBase := 0x2000, memBase := 0x7000, szAlloc := 64, szReserved := 64 },
          { vmaBase := 0x1000, memBase := 0x5000, szAlloc := 64, szReserved := 64 }] }
    fun _ => 0

def overlappingStores : List StoreRequest :=
  [{ kind := .sw, rs1 := 5, rs2 := 6, imm := 1, regs := fun r => if r = 5 then 0x1000 else 0x44332211
     fregs := fun _ => 0 },
    { kind := .fsd, rs1 := 5, rs2 := 7, imm := 3, regs := fun _ => 0x1000
      fregs := fun _ => 0x8877665544332211 }]

def overlappingLoad : LoadRequest :=
  { kind := .lw, rd := 8, rs1 := 5, imm := 1, regs := fun _ => 0x1000, fregs := fun _ => 0 }

theorem regionMemory_flat_overlapping :
    ActsFlat default default overlappingState (fun _ => 0) overlappingStores overlappingLoad ∧
      load (StoreRequest.flattenAll overlappingStores fun _ => 0) (byteAddr overlappingLoad.addr) 4 =
        0x22112211#32 := by
  have apart : overlappingState.mem.Apart := by
    constructor <;>
      simp [overlappingState, rvstateInit, ElfLoadRegion.vmaEnd, ElfLoadRegion.memEnd,
        ElfLoadRegion.Disjoint, ElfLoadRegion.Unshared, ElfContext.Buffered]
  have within (a : Word) (len : Nat) (bounds : 0x1000 ≤ a.toNat ∧ a.toNat + len ≤ 0x1040) :
      overlappingState.mem.Within a len :=
    ⟨{ vmaBase := 0x1000, memBase := 0x5000, szAlloc := 64, szReserved := 64 }, by decide, bounds⟩
  have storesWithin : ∀ req ∈ overlappingStores, overlappingState.mem.Within req.addr req.kind.width := by
    intro req member
    simp only [overlappingStores, List.mem_cons, List.not_mem_nil, or_false] at member
    rcases member with rfl | rfl
    · exact within _ _ (by decide)
    · exact within _ _ (by decide)
  have agree : Agree overlappingState.mem.mapping (fun _ => 0) overlappingState.host := fun _ _ _ => rfl
  refine ⟨(regionMemory_flat_iff default default apart agree overlappingStores storesWithin overlappingLoad
    (within _ _ (by decide))).mpr ⟨?_, ?_⟩, by decide⟩
  · decide
  · decide

def topState : RvState :=
  rvstateInit { loadRegions := [{ vmaBase := 0xfffff000, memBase := 0x5000, szReserved := 0x1000 }] } fun _ => 0

def topLoad : LoadRequest :=
  { kind := .lb, rd := 8, rs1 := 5, imm := 0, regs := fun _ => 0xfffff000, fregs := fun _ => 0 }

theorem regionMemory_not_flat :
    topState.mem.Apart ∧ Agree topState.mem.mapping (fun _ => 0) topState.host ∧
      topState.mem.Within topLoad.addr topLoad.kind.width ∧
      topLoad.perform default default topState = .error (.fatal "tried to access out of bounds\n") ∧
      ¬ActsFlat default default topState (fun _ => 0) [] topLoad := by
  have apart : topState.mem.Apart := by
    constructor <;> simp [topState, rvstateInit, ElfLoadRegion.vmaEnd, ElfContext.Buffered]
  have failed : topLoad.perform default default topState = .error (.fatal "tried to access out of bounds\n") := rfl
  refine ⟨apart, fun _ _ _ => rfl, ⟨_, List.mem_singleton_self _, by decide⟩, failed, ?_⟩
  rintro ⟨after, loaded, ⟨⟩, read, -⟩
  rw [failed] at read
  cases read

end Urv86t
