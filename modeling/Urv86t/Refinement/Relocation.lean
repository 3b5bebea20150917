import Urv86t.Memory.Placement
import Urv86t.Refinement.Process
import Urv86t.Runs.Containment

set_option autoImplicit false

namespace Urv86t

open ByteMemory Rv32 Simulation

/-- Every slot holds the same byte in both memories. -/
structure Replaced (mem : ElfContext) (host : Memory Nat) (mem' : ElfContext) (host' : Memory Nat) : Prop where
  regions : mem.unplaced = mem'.unplaced
  unshared : mem.loadRegions.Pairwise ElfLoadRegion.Unshared
  unshared' : mem'.loadRegions.Pairwise ElfLoadRegion.Unshared
  buffered : mem.Buffered
  buffered' : mem'.Buffered
  contents : ∃ content : Memory (Nat × Nat), Agree mem.slot content host ∧ Agree mem'.slot content host'

def RvState.placed (state : RvState) (mem : ElfContext) (host : Memory Nat) : RvState :=
  { state with mem := mem, host := host }

structure Relocated (left right : RvState) : Prop where
  frame : right = left.placed right.mem right.host
  places : Replaced left.mem left.host right.mem right.host

def SameArm (arm arm' : Dispatched) : Prop := Relocated arm.state arm'.state ∧ arm.pcOffset = arm'.pcOffset

abbrev DispatchedAlike : Except Abort Dispatched → Except Abort Dispatched → Prop := EndAlike SameArm

section Memory

variable {mem mem' : ElfContext} {host host' : Memory Nat} {a : BitVec 32} {len : Nat}

structure SameSlots (mem mem' : ElfContext) (len ptr ptr' : Nat) : Prop where
  maps : ∃ slot, Maps mem.slot (slotCell slot) (hostCell ptr) len ∧ Maps mem'.slot (slotCell slot) (hostCell ptr') len

theorem Replaced.lookup (places : Replaced mem host mem' host') (reaches : Reaches mem a len) :
    mem.backing a = none ∧ mem'.backing a = none ∨
      ∃ ptr ptr', mem.backing a = some ptr ∧ mem'.backing a = some ptr' ∧ SameSlots mem mem' len ptr ptr' := by
  have located := locate_congr places.regions a
  rw [places.buffered.backing_eq, places.buffered'.backing_eq, elfVmaToMem_slot mem, elfVmaToMem_slot mem', ← located]
  cases found : mem.locate a with
  | none => exact .inl ⟨rfl, rfl⟩
  | some slot =>
    obtain ⟨_, -, place⟩ := located_slot found
    obtain ⟨_, -, place'⟩ := located_slot (located.symm.trans found)
    have reaches' := reaches.unplaced places.buffered places.regions
    exact .inr ⟨_, _, place, place', slot, reaches.slots places.buffered found place,
      reaches'.slots places.buffered' (located.symm.trans found) place'⟩

theorem Replaced.load {ptr ptr' : Nat} (places : Replaced mem host mem' host')
    (same : SameSlots mem mem' len ptr ptr') :
    load host (hostCell ptr) len = load host' (hostCell ptr') len := by
  obtain ⟨content, agree, agree'⟩ := places.contents
  obtain ⟨slot, maps, maps'⟩ := same.maps
  exact (agree.load maps).symm.trans (agree'.load maps')

theorem Replaced.write {ptr ptr' : Nat} (places : Replaced mem host mem' host') (same : SameSlots mem mem' len ptr ptr')
    (bytes : Nat → Byte) :
    Replaced mem (ByteMemory.write host (hostCell ptr) len bytes) mem'
      (ByteMemory.write host' (hostCell ptr') len bytes) where
  regions := places.regions
  unshared := places.unshared
  unshared' := places.unshared'
  buffered := places.buffered
  buffered' := places.buffered'
  contents := by
    obtain ⟨content, agree, agree'⟩ := places.contents
    obtain ⟨slot, maps, maps'⟩ := same.maps
    exact ⟨ByteMemory.write content (slotCell slot) len bytes,
      agree.write (slot_injective places.unshared) len maps bytes,
      agree'.write (slot_injective places.unshared') len maps' bytes⟩

theorem Replaced.hostBytes {ptr ptr' : Nat} (places : Replaced mem host mem' host')
    (same : SameSlots mem mem' len ptr ptr') : hostBytes host ptr len = hostBytes host' ptr' len := by
  obtain ⟨content, agree, agree'⟩ := places.contents
  obtain ⟨slot, maps, maps'⟩ := same.maps
  apply List.map_congr_left
  intro k listed
  have inside := List.mem_range.mp listed
  exact (agree _ _ (maps k inside)).symm.trans (agree' _ _ (maps' k inside))

theorem pairwise_layout {ctx ctx' : ElfContext} (same : ctx'.layout = ctx.layout)
    (unshared : ctx.loadRegions.Pairwise ElfLoadRegion.Unshared) :
    ctx'.loadRegions.Pairwise ElfLoadRegion.Unshared := by
  have listed : ctx.layout.Pairwise ElfLoadRegion.Unshared := List.pairwise_map.mpr unshared
  rw [← same] at listed
  have apart : ctx'.loadRegions.Pairwise fun a b => a.layout.Unshared b.layout := List.pairwise_map.mp listed
  exact apart

theorem Replaced.congr (places : Replaced mem host mem' host') {next next' : ElfContext}
    (same : next.layout = mem.layout) (same' : next'.layout = mem'.layout) (regions : next.unplaced = next'.unplaced) :
    Replaced next host next' host' where
  regions := regions
  unshared := pairwise_layout same places.unshared
  unshared' := pairwise_layout same' places.unshared'
  buffered := places.buffered.congr same.symm
  buffered' := places.buffered'.congr same'.symm
  contents := by
    have slots : next.slot = mem.slot := funext fun slot => by rw [slot_layout, same, slot_layout]
    have slots' : next'.slot = mem'.slot := funext fun slot => by rw [slot_layout, same', slot_layout]
    rw [slots, slots']
    exact places.contents

end Memory

section Arms

variable {state : RvState} {insn : Insn} {mem : ElfContext} {host : Memory Nat} {a : BitVec 32} {len : Nat}

theorem alike_rvmemAt (places : Replaced state.mem state.host mem host) (reaches : Reaches state.mem a len)
    {rest rest' : Nat → Except Abort Dispatched}
    (later : ∀ ptr ptr', SameSlots state.mem mem len ptr ptr' → DispatchedAlike (rest ptr) (rest' ptr')) :
    DispatchedAlike (rvmemAt state a >>= rest) (rvmemAt (state.placed mem host) a >>= rest') := by
  have looked : EndAlike (SameSlots state.mem mem len) (rvmemAt state a) (rvmemAt (state.placed mem host) a) := by
    rcases places.lookup reaches with ⟨missed, missed'⟩ | ⟨ptr, ptr', found, found', same⟩
    · rw [rvmemAt_missed missed, @rvmemAt_missed (state.placed mem host) a missed']
      exact .failed _
    · rw [rvmemAt_found found, @rvmemAt_found (state.placed mem host) a ptr' found']
      exact .came same
  exact looked.bind later

theorem alike_writeRd (places : Replaced state.mem state.host mem host) (val : BitVec 32) :
    DispatchedAlike (writeRd state insn val) (writeRd (state.placed mem host) insn val) :=
  .came ⟨⟨rfl, places⟩, rfl⟩

theorem alike_branchArm (places : Replaced state.mem state.host mem host) (taken : Bool) :
    DispatchedAlike (branchArm state insn taken) (branchArm (state.placed mem host) insn taken) := by
  cases taken <;> exact .came ⟨⟨rfl, places⟩, rfl⟩

theorem alike_loadArm (places : Replaced state.mem state.host mem host)
    (reaches : Reaches state.mem (rvmemReg state insn.rs1 + insn.imm) len) {assign assign' : BitVec (8 * len) → RvState}
    (assigned : ∀ val, Relocated (assign val) (assign' val)) :
    DispatchedAlike (loadArm state insn len assign) (loadArm (state.placed mem host) insn len assign') := by
  apply alike_rvmemAt places reaches
  intro ptr ptr' same
  have loaded : load (state.placed mem host).host (hostCell ptr') len = load state.host (hostCell ptr) len :=
    (places.load same).symm
  rw [loaded]
  exact .came ⟨assigned _, rfl⟩

theorem alike_storeArm (places : Replaced state.mem state.host mem host)
    (reaches : Reaches state.mem (rvmemReg state insn.rs1 + insn.imm) len) (val : BitVec (8 * len)) :
    DispatchedAlike (storeArm state insn len val) (storeArm (state.placed mem host) insn len val) := by
  apply alike_rvmemAt places reaches
  intro ptr ptr' same
  exact .came ⟨⟨rfl, places.write same _⟩, rfl⟩

theorem alike_fltSwitch {single single' double double' default default' : Except Abort Dispatched}
    (onSingle : insn.funct = fltfuncSingle → DispatchedAlike single single')
    (onDouble : insn.funct = fltfuncDouble → DispatchedAlike double double')
    (onDefault : DispatchedAlike default default') :
    DispatchedAlike (fltSwitch insn single double default) (fltSwitch insn single' double' default') := by
  by_cases isSingle : insn.funct = fltfuncSingle
  · rw [fltSwitch_single insn isSingle, fltSwitch_single insn isSingle]
    exact (onSingle isSingle).map fun _ _ alike => alike
  by_cases isDouble : insn.funct = fltfuncDouble
  · rw [fltSwitch_double insn isDouble, fltSwitch_double insn isDouble]
    exact (onDouble isDouble).map fun _ _ alike => alike
  · rw [fltSwitch, if_neg isSingle, if_neg isDouble, fltSwitch, if_neg isSingle, if_neg isDouble]
    exact onDefault

theorem alike_division (places : Replaced state.mem state.host mem host) (trap : Prop) [Decidable trap]
    (val : BitVec 32) :
    DispatchedAlike (if trap then .error .divisionTrap else writeRd state insn val)
      (if trap then .error .divisionTrap else writeRd (state.placed mem host) insn val) := by
  split
  · exact .failed _
  · exact alike_writeRd places val

theorem alike_fltArm (places : Replaced state.mem state.host mem host) (single : BitVec 32) (double : BitVec 64)
    {default default' : Except Abort Dispatched} (onDefault : DispatchedAlike default default') :
    DispatchedAlike (fltArm state insn single double default)
      (fltArm (state.placed mem host) insn single double default') :=
  alike_fltSwitch (fun _ => .came ⟨⟨rfl, places⟩, rfl⟩) (fun _ => .came ⟨⟨rfl, places⟩, rfl⟩) onDefault

theorem alike_rvsyscBrk (places : Replaced state.mem state.host mem host) (brk : BitVec 32) :
    EndAlike (fun out out' => out.1 = out'.1 ∧ Relocated out.2 out'.2) (rvsyscBrk state brk)
      (rvsyscBrk (state.placed mem host) brk) := by
  have placed : (state.placed mem host).mem = mem := rfl
  have tags := elfGetRegionByTag_unplaced regionTagHeap state.mem.loadRegions
  have same : state.mem.loadRegions.map ElfLoadRegion.unplaced = mem.loadRegions.map ElfLoadRegion.unplaced :=
    places.regions
  rw [same, elfGetRegionByTag_unplaced] at tags
  cases found : elfGetRegionByTag regionTagHeap state.mem.loadRegions with
  | none =>
    rw [found] at tags
    have missed := Option.map_eq_none_iff.mp tags
    simp only [rvsyscBrk, found, placed, missed]
    exact .failed _
  | some split =>
    obtain ⟨before, heap, after⟩ := split
    rw [found] at tags
    obtain ⟨⟨before', heap', after'⟩, found', alike⟩ := Option.map_eq_some_iff.mp tags
    simp only [Prod.mk.injEq] at alike
    obtain ⟨ahead, region, behind⟩ := alike
    have base : heap'.vmaBase = heap.vmaBase := (congrArg ElfLoadRegion.vmaBase region :)
    have used : heap'.szAlloc = heap.szAlloc := (congrArg ElfLoadRegion.szAlloc region :)
    have tag : heap'.tag = heap.tag := (congrArg ElfLoadRegion.tag region :)
    have reserved : heap'.szReserved = heap.szReserved := (congrArg ElfLoadRegion.szReserved region :)
    simp only [rvsyscBrk, found, placed, found', base, used, reserved]
    split
    · exact .came ⟨rfl, rfl, places⟩
    split
    · exact .came ⟨rfl, rfl, places⟩
    · refine .came ⟨rfl, rfl, places.congr ?_ ?_ ?_⟩
      · simp [ElfContext.layout, elfGetRegionByTag_split found, ElfLoadRegion.layout]
      · simp [ElfContext.layout, elfGetRegionByTag_split found', ElfLoadRegion.layout, base, reserved]
      · rw [ElfContext.unplaced, ElfContext.unplaced, List.map_append, List.map_append, List.map_cons, List.map_cons,
          ahead, behind]
        exact congrArg (fun region => _ ++ region :: _) (by simp only [ElfLoadRegion.unplaced, tag])

theorem Relocated.answered {left right : RvState} (relocated : Relocated left right) (val : BitVec 32)
    (touched touched' : List HostAccess) :
    DispatchedAlike (.ok { state := { left with regs := Function.update left.regs 10 val }, touched := touched })
      (.ok { state := { right with regs := Function.update right.regs 10 val }, touched := touched' }) :=
  .came ⟨⟨congrArg (fun state : RvState => { state with regs := Function.update state.regs 10 val }) relocated.frame,
    relocated.places⟩, rfl⟩

section Hosts

variable {env : Environment} {calls calls' : HostCalls}

theorem alike_rvsyscWrite (presents : Presents env calls) (presents' : Presents env calls')
    (places : Replaced state.mem state.host mem host) (fd count : BitVec 32) {ptr ptr' : Nat}
    (same : SameSlots state.mem mem count.toNat ptr ptr') :
    rvsyscWrite calls state fd ptr count = rvsyscWrite calls' (state.placed mem host) fd ptr' count := by
  have whole : (count.setWidth 64).toNat = count.toNat := BitVec.toNat_setWidth_of_le (by decide)
  rw [rvsyscWrite, rvsyscWrite, presents.write, presents'.write, whole]
  exact congrArg (env.write fd) (places.hostBytes same)

theorem alike_rvsyscFstat (presents : Presents env calls) (presents' : Presents env calls')
    (places : Replaced state.mem state.host mem host) (fd : BitVec 32) {ptr ptr' : Nat}
    (same : SameSlots state.mem mem sizeofStat ptr ptr') :
    (rvsyscFstat calls state fd ptr).1 = (rvsyscFstat calls' (state.placed mem host) fd ptr').1 ∧
      Relocated (rvsyscFstat calls state fd ptr).2 (rvsyscFstat calls' (state.placed mem host) fd ptr').2 := by
  refine ⟨(presents.answer fd ptr state.host).trans (presents'.answer fd ptr' host).symm, rfl, ?_⟩
  cases answer : (env.stat fd).2 with
  | none =>
    have kept := presents.unwritten fd ptr state.host answer
    have kept' := presents'.unwritten fd ptr' host answer
    simp only [rvsyscFstat, RvState.placed, kept, kept']
    exact places
  | some record =>
    have filled := presents.record fd ptr state.host record answer
    have filled' := presents'.record fd ptr' host record answer
    simp only [rvsyscFstat, RvState.placed, filled, filled']
    exact places.write same record

theorem alike_rvemuDispatchSyscall (presents : Presents env calls) (presents' : Presents env calls')
    (places : Replaced state.mem state.host mem host)
    (reaches : ∀ len, syscallLen state = some len → Reaches state.mem (state.regs 11) len) :
    DispatchedAlike (rvemuDispatchSyscall calls state) (rvemuDispatchSyscall calls' (state.placed mem host)) := by
  have same : (state.placed mem host).regs = state.regs := rfl
  have relocated : Relocated state (state.placed mem host) := ⟨rfl, places⟩
  unfold rvemuDispatchSyscall
  rw [same]
  split
  case h_1 =>
    apply alike_rvmemAt places (reaches_zero _ _)
    intro ptr ptr' _
    exact relocated.answered _ _ _
  case h_2 number =>
    have passed : syscallLen state = some (state.regs 12).toNat := by simp only [syscallLen, number]
    apply alike_rvmemAt places (reaches _ passed)
    intro ptr ptr' same
    rw [← alike_rvsyscWrite presents presents' places (state.regs 10) (state.regs 12) same]
    exact relocated.answered _ _ _
  case h_3 => exact .came ⟨⟨rfl, places⟩, rfl⟩
  case h_4 number =>
    have passed : syscallLen state = some sizeofStat := by simp only [syscallLen, number]
    apply alike_rvmemAt places (reaches _ passed)
    intro ptr ptr' same
    obtain ⟨heard, filled⟩ := alike_rvsyscFstat presents presents' places (state.regs 10) same
    simp only [← heard]
    exact filled.answered _ _ _
  case h_5 =>
    apply (alike_rvsyscBrk places (state.regs 10)).bind
    rintro ⟨val, next⟩ ⟨val', next'⟩ ⟨heard, moved⟩
    cases heard
    exact moved.answered _ _ _
  case h_6 => exact .came ⟨⟨rfl, places⟩, rfl⟩

structure FitsInsn (state : RvState) (insn : Insn) : Prop where
  data : ∀ len, dataLen insn = some len → Reaches state.mem (rvmemReg state insn.rs1 + insn.imm) len
  call : insn.insnTy = .ecall → ∀ len, syscallLen state = some len → Reaches state.mem (state.regs 11) len

theorem rvmemReg_placed (reg : BitVec 8) : rvmemReg (state.placed mem host) reg = rvmemReg state reg := rfl

theorem rvmemFreg_placed (reg : BitVec 8) : rvmemFreg (state.placed mem host) reg = rvmemFreg state reg := rfl

theorem rvfloatReadF32_placed (reg : BitVec 8) :
    rvfloatReadF32 (state.placed mem host) reg = rvfloatReadF32 state reg := rfl

theorem rvfloatReadF64_placed (reg : BitVec 8) :
    rvfloatReadF64 (state.placed mem host) reg = rvfloatReadF64 state reg := rfl

theorem pc_placed : (state.placed mem host).pc = state.pc := rfl

theorem alike_rvemuDispatchInsn (float : HostFloat) (presents : Presents env calls) (presents' : Presents env calls')
    (places : Replaced state.mem state.host mem host) (fits : FitsInsn state insn) :
    DispatchedAlike (rvemuDispatchInsn float calls state insn)
      (rvemuDispatchInsn float calls' (state.placed mem host) insn) := by
  have unreachable : DispatchedAlike builtinUnreachable builtinUnreachable := .failed _
  have fallOut : DispatchedAlike (.ok { state := state }) (.ok { state := state.placed mem host }) :=
    .came ⟨⟨rfl, places⟩, rfl⟩
  have switched : ∀ single double : BitVec 32, ∀ {default default'}, DispatchedAlike default default' →
      DispatchedAlike (fltSwitch insn (writeRd state insn single) (writeRd state insn double) default)
        (fltSwitch insn (writeRd (state.placed mem host) insn single) (writeRd (state.placed mem host) insn double)
          default') := fun single double _ _ onDefault =>
    alike_fltSwitch (fun _ => alike_writeRd places single) (fun _ => alike_writeRd places double) onDefault
  cases ty : insn.insnTy <;> simp only [rvemuDispatchInsn, ty, rvmemReg_placed, rvmemFreg_placed,
    rvfloatReadF32_placed, rvfloatReadF64_placed, pc_placed]
  case lb | lh | lw | lbu | lhu =>
    exact alike_loadArm places (fits.data _ (by simp only [dataLen, ty])) fun _ => ⟨rfl, places⟩
  case sb | sh | sw => exact alike_storeArm places (fits.data _ (by simp only [dataLen, ty])) _
  case beq | bne | blt | bge | bltu | bgeu => exact alike_branchArm places _
  case div | divu | rem | remu => exact alike_division places _ _
  case ecall => exact alike_rvemuDispatchSyscall presents presents' places (fits.call ty)
  case flx =>
    refine alike_fltSwitch (fun single => ?_) (fun double => ?_) unreachable
    · exact alike_loadArm places (fits.data 4 (by simp [dataLen, ty, switchLen, single])) fun _ => ⟨rfl, places⟩
    · have notSingle : fltfuncDouble ≠ fltfuncSingle := by decide
      exact alike_loadArm places (fits.data 8 (by simp [dataLen, ty, switchLen, double, notSingle]))
        fun _ => ⟨rfl, places⟩
  case fsx =>
    refine alike_fltSwitch (fun single => ?_) (fun double => ?_) unreachable
    · exact alike_storeArm places (fits.data 4 (by simp [dataLen, ty, switchLen, single])) _
    · have notSingle : fltfuncDouble ≠ fltfuncSingle := by decide
      exact alike_storeArm places (fits.data 8 (by simp [dataLen, ty, switchLen, double, notSingle])) _
  case faddx | fsubx | fmulx | fdivx | fmaddx | fmsubx | fnmsubx | fnmaddx | fsqrtx | fsgnjx | fsgnjnx | fsgnjxx
      | fcvtXW | fcvtXWu => exact alike_fltArm places _ _ unreachable
  case fminx | fmaxx => exact alike_fltArm places _ _ fallOut
  case fcvtWX | fcvtWuX => exact switched _ _ unreachable
  case feqx | fltx | flex => exact switched _ _ fallOut
  case invalid => exact unreachable
  all_goals first | with_reducible exact alike_writeRd places _ | exact .came ⟨⟨rfl, places⟩, rfl⟩

theorem alike_rvstateFetch (places : Replaced state.mem state.host mem host) (reaches : Reaches state.mem state.pc 4) :
    EndAlike (fun out out' => out.1 = out'.1) (rvstateFetch state) (rvstateFetch (state.placed mem host)) := by
  rcases places.lookup reaches with ⟨missed, missed'⟩ | ⟨ptr, ptr', found, found', same⟩
  · rw [rvstateFetch_missed missed, @rvstateFetch_missed (state.placed mem host) missed']
    exact .failed _
  · rw [rvstateFetch_found found, @rvstateFetch_found (state.placed mem host) ptr' found']
    exact .came (places.load same)

theorem suspendIf_placed (diagnosed : Bool) :
    (state.placed mem host).suspendIf diagnosed = (state.suspendIf diagnosed).placed mem host := by
  cases diagnosed <;> rfl

theorem FitsAll.dispatched {bytes : BitVec 32} {fetched : HostAccess} {after : RvState} (fits : FitsAll state.mem state)
    (live : state.suspended = false) (read : rvstateFetch state = .ok (bytes, fetched))
    (decoded : rvdecInsn (state.setRegp 0 0) bytes = .ok (insn, after)) :
    FitsInsn (rvbkptCheckInsn after insn) insn := by
  have mem : after.mem = state.mem := by
    rcases rvdecInsn_after decoded with rfl | rfl <;> rfl
  have regs : ∀ r : BitVec 5, r ≠ 0 → after.regs r = state.regs r := by
    rcases rvdecInsn_after decoded with rfl | rfl <;> exact fun r nonzero => setRegp_zero_other state nonzero
  have base : rvmemReg after insn.rs1 = rvmemReg (state.setRegp 0 0) insn.rs1 := by
    rcases rvdecInsn_after decoded with rfl | rfl <;> rfl
  constructor
  · intro len accesses
    have reaches := fits.guest.data bytes fetched insn after len live read decoded accesses
    rw [← mem, ← base] at reaches
    exact reaches
  · intro ecall len passed
    have length : syscallLen (rvbkptCheckInsn after insn) = syscallLen state := by
      have numbers : (rvbkptCheckInsn after insn).regs = after.regs := rfl
      rw [syscallLen, syscallLen, numbers, regs 17 (by decide), regs 12 (by decide)]
    have reaches := fits.call bytes fetched insn after len live read decoded ecall (length.symm.trans passed)
    rw [← mem, ← regs 11 (by decide)] at reaches
    exact reaches

theorem alike_rvemuDispatch (float : HostFloat) (presents : Presents env calls) (presents' : Presents env calls')
    (places : Replaced state.mem state.host mem host) (fits : FitsInsn (rvbkptCheckInsn state insn) insn) :
    DispatchedAlike (rvemuDispatch float calls state insn)
      (rvemuDispatch float calls' (state.placed mem host) insn) := by
  have dispatched := @alike_rvemuDispatchInsn (rvbkptCheckInsn state insn) insn mem host env calls calls' float presents
    presents' places fits
  apply dispatched.bind
  rintro arm arm' ⟨⟨frame, kept⟩, offset⟩
  refine .came ⟨⟨?_, kept⟩, offset⟩
  rw [offset]
  exact congrArg (fun state : RvState => { state with pc := state.pc + arm'.pcOffset }) frame

theorem alike_rvemuStep (float : HostFloat) (presents : Presents env calls) (presents' : Presents env calls')
    (places : Replaced state.mem state.host mem host) (fits : FitsAll state.mem state) :
    EndAlike (fun out out' => out.1 = out'.1 ∧ Relocated out.2 out'.2) (rvemuStep float calls state)
      (rvemuStep float calls' (state.placed mem host)) := by
  have suspended : (state.placed mem host).suspended = state.suspended := rfl
  have cleared : (state.placed mem host).setRegp 0 0 = (state.setRegp 0 0).placed mem host := rfl
  unfold rvemuStep rvemuStepOut
  rw [suspended]
  by_cases stopped : state.suspended = true
  · rw [if_pos stopped, if_pos stopped]
    exact .came ⟨rfl, rfl, places⟩
  rw [if_neg stopped, if_neg stopped]
  have live := eq_false_of_ne_true stopped
  have looked := @alike_rvstateFetch (state.setRegp 0 0) mem host places (fits.guest.fetch live)
  cases read : rvstateFetch (state.setRegp 0 0) with
  | error abort =>
    simp only [cleared, looked.error read, read]
    exact .failed _
  | ok word =>
    obtain ⟨⟨bytes, fetched'⟩, read', same⟩ := looked.ok read
    obtain ⟨bytes, fetched⟩ := word
    cases same
    obtain ⟨answer, decoded⟩ := rvdecInsn_settled bytes
    simp only [cleared, read, read', decoded]
    cases answer with
    | error abort => exact .failed _
    | ok out =>
      obtain ⟨insn, diagnosed⟩ := out
      have places' : Replaced ((state.setRegp 0 0).suspendIf diagnosed).mem
          ((state.setRegp 0 0).suspendIf diagnosed).host mem host := by cases diagnosed <;> exact places
      simp only [Except.map, suspendIf_placed]
      by_cases invalid : insn.insnTy = .invalid
      · simp only [if_pos invalid]
        exact .came ⟨rfl, rfl, places'⟩
      · simp only [if_neg invalid]
        have fitting := fits.dispatched live read (decoded (state.setRegp 0 0))
        have dispatched := alike_rvemuDispatch float presents presents' places' fitting
        cases ran : rvemuDispatch float calls ((state.setRegp 0 0).suspendIf diagnosed) insn with
        | error abort =>
          rw [dispatched.error ran]
          exact .failed _
        | ok arm =>
          obtain ⟨arm', ran', relocated, -⟩ := dispatched.ok ran
          rw [ran']
          exact .came ⟨rfl, relocated⟩

def SameHosts (calls calls' : HostCalls) : Prop := ∃ env, Presents env calls ∧ Presents env calls'

theorem alike_rvemuSteps (float : HostFloat) {run run' : List HostCalls} (hosts : List.Forall₂ SameHosts run run')
    {left right : RvState} (relocated : Relocated left right)
    (fits : ∀ visit ∈ rvemuVisits float run left, FitsAll visit.state.mem visit.state) :
    EndAlike (fun out out' => out.1 = out'.1 ∧ Relocated out.2 out'.2) (rvemuSteps float run left)
      (rvemuSteps float run' right) := by
  induction hosts generalizing left right with
  | nil => exact .came ⟨rfl, relocated⟩
  | @cons calls calls' rest rest' here later ih =>
    obtain ⟨env, presents, presents'⟩ := here
    rw [rvemuVisits] at fits
    obtain ⟨first, others⟩ := List.forall_mem_cons.mp fits
    have stepped : EndAlike (fun out out' => out.1 = out'.1 ∧ Relocated out.2 out'.2) (rvemuStep float calls left)
        (rvemuStep float calls' right) := by
      rw [relocated.frame]
      exact alike_rvemuStep float presents presents' relocated.places first
    rw [rvemuSteps, rvemuSteps]
    cases ran : rvemuStep float calls left with
    | error abort =>
      rw [stepped.error ran]
      exact .failed _
    | ok out =>
      obtain ⟨out', ran', same, between⟩ := stepped.ok ran
      have result : (rvemuStepOut float calls left).result = .ok out := ran
      simp only [result] at others
      have onward := ih between others
      rw [ran']
      apply onward.bind
      rintro after after' ⟨results, moved⟩
      exact .came ⟨congrArg₂ List.cons same results, moved⟩

end Hosts

end Arms

end Urv86t
