import Urv86t.Emulator.Dispatch
import Urv86t.Memory.Regions

set_option autoImplicit false

namespace Urv86t

open ByteMemory

/-- The part of a region that lookups depend on; `rvsysc_brk` changes the rest. -/
def ElfLoadRegion.layout (region : ElfLoadRegion) : ElfLoadRegion :=
  { region with szAlloc := 0, tag := none }

def ElfContext.layout (ctx : ElfContext) : List ElfLoadRegion := ctx.loadRegions.map ElfLoadRegion.layout

theorem selected_layout (ctx : ElfContext) (a : BitVec 32) :
    (ctx.selected a).map ElfLoadRegion.layout = ctx.layout.find? (·.hit a) := by
  rw [ElfContext.selected, ElfContext.layout, List.find?_map]
  rfl

section Layout

variable {ctx ctx' : ElfContext}

theorem elfVmaToMem_congr (same : ctx.layout = ctx'.layout) (a : BitVec 32) :
    elfVmaToMem ctx a = elfVmaToMem ctx' a := by
  have found := congrArg (Option.map (ElfLoadRegion.memAddr · a))
    ((selected_layout ctx a).trans ((congrArg _ same).trans (selected_layout ctx' a).symm))
  rw [Option.map_map, Option.map_map] at found
  rw [elfVmaToMem_eq, elfVmaToMem_eq]
  exact found

theorem backing_congr (same : ctx.layout = ctx'.layout) (a : BitVec 32) : ctx.backing a = ctx'.backing a := by
  rw [ElfContext.backing, ElfContext.backing, ElfContext.pointer, ElfContext.pointer, elfVmaToMem_congr same]

theorem ElfContext.Buffered.congr (buffered : ctx.Buffered) (same : ctx.layout = ctx'.layout) : ctx'.Buffered := by
  have listed : ∀ region ∈ ctx.layout, region.szReserved ≠ 0 → region.memBase ≠ 0 := List.forall_mem_map.mpr buffered
  rw [same] at listed
  exact List.forall_mem_map.mp listed

theorem ElfContext.Separated.congr (separated : ctx.Separated) (same : ctx.layout = ctx'.layout) :
    ctx'.Separated := by
  obtain ⟨bounded, disjoint, unshared, buffered⟩ := separated
  have bounded' : ∀ region ∈ ctx.layout, region.vmaEnd < 0x100000000 := List.forall_mem_map.mpr bounded
  have disjoint' : ctx.layout.Pairwise ElfLoadRegion.Disjoint := List.pairwise_map.mpr disjoint
  have unshared' : ctx.layout.Pairwise ElfLoadRegion.Unshared := List.pairwise_map.mpr unshared
  rw [same] at bounded' disjoint' unshared'
  have apart : ctx'.loadRegions.Pairwise fun a b => a.layout.Disjoint b.layout := List.pairwise_map.mp disjoint'
  have alone : ctx'.loadRegions.Pairwise fun a b => a.layout.Unshared b.layout := List.pairwise_map.mp unshared'
  exact ⟨List.forall_mem_map.mp bounded', apart, alone, buffered.congr same⟩

theorem ElfContext.Within.congr {a : BitVec 32} {len : Nat} (within : ctx.Within a len)
    (same : ctx.layout = ctx'.layout) : ctx'.Within a len := by
  obtain ⟨region, member, bounds⟩ := within
  have listed : region.layout ∈ ctx.layout := List.mem_map_of_mem member
  rw [same] at listed
  obtain ⟨region', member', alike⟩ := List.mem_map.mp listed
  have bounds' : region'.layout.vmaBase.toNat ≤ a.toNat ∧ a.toNat + len ≤ region'.layout.vmaEnd := by
    rw [alike]
    exact bounds
  exact ⟨region', member', bounds'⟩

end Layout

def HostAccess.Inside (ctx : ElfContext) (access : HostAccess) : Prop :=
  ∃ region, ctx.selected access.vma = some region ∧ region.memBase ≤ access.ptr ∧
    access.ptr + access.len ≤ region.memEnd

def Confined (ctx : ElfContext) (touched : List HostAccess) : Prop :=
  ∀ access ∈ touched, access.kind ≠ .syscall → access.Inside ctx

/-- The region found for the first byte holds the whole access, where the lookup does not give `NULL`. -/
def Reaches (ctx : ElfContext) (a : BitVec 32) (len : Nat) : Prop :=
  ∀ region, ctx.selected a = some region → ctx.pointer a ≠ 0 → a.toNat + len ≤ region.vmaEnd

theorem inside_iff_reaches {ctx : ElfContext} {kind : AccessKind} {a : BitVec 32} {ptr len : Nat}
    (found : ctx.backing a = some ptr) : HostAccess.Inside ctx ⟨kind, a, ptr, len⟩ ↔ Reaches ctx a len := by
  obtain ⟨translated, nonNull⟩ := ElfContext.backing_eq_some.mp found
  obtain ⟨region, selected, -, hit, place⟩ := ElfContext.elfVmaToMem_selected translated
  have bounds := ElfLoadRegion.hit_bounds hit
  constructor
  · rintro ⟨other, selected', low, high⟩ region' selected'' -
    rw [selected] at selected' selected''
    cases selected'
    cases selected''
    simp only [ElfLoadRegion.memEnd, ElfLoadRegion.vmaEnd] at *
    omega
  · intro reaches
    have fits := reaches region selected (ElfContext.pointer_of_backing found ▸ nonNull)
    refine ⟨region, selected, ?_, ?_⟩ <;> simp only [ElfLoadRegion.memEnd, ElfLoadRegion.vmaEnd] at * <;> omega

theorem reaches_of_unmapped {ctx : ElfContext} {a : BitVec 32} (len : Nat)
    (unmapped : ctx.backing a = none) : Reaches ctx a len := by
  intro region _ nonNull
  exact absurd (ElfContext.backing_eq_none.mp unmapped) nonNull

theorem single_access_iff {ctx : ElfContext} {result : Except Abort Dispatched} {kind : AccessKind}
    {a : BitVec 32} {len : Nat}
    (accesses : ∀ arm, result = .ok arm →
      ∃ ptr, ctx.backing a = some ptr ∧ arm.touched = [⟨kind, a, ptr, len⟩])
    (runs : ∀ ptr, ctx.backing a = some ptr → ∃ arm, result = .ok arm) :
    (∀ arm, result = .ok arm → ∀ access ∈ arm.touched, access.Inside ctx) ↔ Reaches ctx a len := by
  constructor
  · intro confined
    cases found : ctx.backing a with
    | none => exact reaches_of_unmapped len found
    | some ptr =>
      obtain ⟨arm, ran⟩ := runs ptr found
      obtain ⟨ptr', found', touched⟩ := accesses arm ran
      exact (inside_iff_reaches found').mp (confined arm ran _ (by rw [touched]; exact List.mem_cons_self))
  · intro reaches arm ran access member
    obtain ⟨ptr, found, touched⟩ := accesses arm ran
    rw [touched, List.mem_singleton] at member
    rw [member]
    exact (inside_iff_reaches found).mpr reaches

def switchLen (insn : Insn) (single double : Option Nat) : Option Nat :=
  if insn.funct = fltfuncSingle then single else if insn.funct = fltfuncDouble then double else none

def dataLen (insn : Insn) : Option Nat :=
  match insn.insnTy with
  | .lb | .lbu | .sb => some 1
  | .lh | .lhu | .sh => some 2
  | .lw | .sw => some 4
  | .flx | .fsx => switchLen insn (some 4) (some 8)
  | _ => none

def Touches (state : RvState) (insn : Insn) (len : Option Nat) (arm : Dispatched) : Prop :=
  arm.state.mem.layout = state.mem.layout ∧
    match len with
    | none => ∀ access ∈ arm.touched, access.kind = .syscall
    | some len => ∃ ptr, state.mem.backing (rvmemReg state insn.rs1 + insn.imm) = some ptr ∧
        arm.touched = [⟨.data, rvmemReg state insn.rs1 + insn.imm, ptr, len⟩]

section Arms

variable {state : RvState} {insn : Insn} {arm : Dispatched}

theorem rvmemAt_then_ok {α : Type} {addr : BitVec 32} {rest : Nat → Except Abort α} {a : α}
    (ran : (rvmemAt state addr >>= rest) = .ok a) :
    ∃ ptr, state.mem.backing addr = some ptr ∧ rest ptr = .ok a := by
  cases found : state.mem.backing addr with
  | none =>
    rw [rvmemAt_missed found] at ran
    cases ran
  | some ptr =>
    rw [rvmemAt_found found] at ran
    exact ⟨ptr, rfl, ran⟩

theorem writeRd_touches {val : BitVec 32} (ran : writeRd state insn val = .ok arm) :
    Touches state insn none arm := by
  cases ran
  exact ⟨rfl, by simp⟩

theorem branchArm_touches {taken : Bool} (ran : branchArm state insn taken = .ok arm) :
    Touches state insn none arm := by
  cases taken <;> cases ran <;> exact ⟨rfl, by simp⟩

theorem loadArm_touches {len : Nat} {assign : BitVec (8 * len) → RvState}
    (ran : loadArm state insn len assign = .ok arm) (kept : ∀ val, (assign val).mem = state.mem) :
    Touches state insn (some len) arm := by
  obtain ⟨ptr, found, ran⟩ := rvmemAt_then_ok ran
  cases ran
  exact ⟨congrArg ElfContext.layout (kept _), ptr, found, rfl⟩

theorem storeArm_touches {len : Nat} {val : BitVec (8 * len)} (ran : storeArm state insn len val = .ok arm) :
    Touches state insn (some len) arm := by
  obtain ⟨ptr, found, ran⟩ := rvmemAt_then_ok ran
  cases ran
  exact ⟨rfl, ptr, found, rfl⟩

theorem fltSwitch_touches {single double : Option Nat} {onSingle onDouble default : Except Abort Dispatched}
    (ran : fltSwitch insn onSingle onDouble default = .ok arm)
    (atSingle : ∀ arm, onSingle = .ok arm → Touches state insn single arm)
    (atDouble : ∀ arm, onDouble = .ok arm → Touches state insn double arm)
    (atDefault : ∀ arm, default = .ok arm → Touches state insn none arm) :
    Touches state insn (switchLen insn single double) arm :=
  fltSwitch_every (fun _ _ _ touches => touches) atSingle atDouble atDefault ran

theorem switchLen_none : switchLen insn none none = none := by
  simp [switchLen]

theorem silent_touches {next : RvState} {offset : BitVec 32}
    (ran : (.ok { state := next, pcOffset := offset } : Except Abort Dispatched) = .ok arm)
    (kept : next.mem = state.mem) : Touches state insn none arm := by
  cases ran
  exact ⟨congrArg ElfContext.layout kept, by simp⟩

theorem unreachable_touches {len : Option Nat} (ran : builtinUnreachable = .ok arm) :
    Touches state insn len arm := by
  cases ran

theorem fltArm_touches {single : BitVec 32} {double : BitVec 64} {default : Except Abort Dispatched}
    (atDefault : ∀ arm, default = .ok arm → Touches state insn none arm)
    (ran : fltArm state insn single double default = .ok arm) : Touches state insn none arm := by
  rw [fltArm] at ran
  have touches := fltSwitch_touches ran (fun _ inner => silent_touches inner rfl)
    (fun _ inner => silent_touches inner rfl) atDefault
  rwa [switchLen_none] at touches

theorem fltWriteRd_touches {single double : BitVec 32} {default : Except Abort Dispatched}
    (atDefault : ∀ arm, default = .ok arm → Touches state insn none arm)
    (ran : fltSwitch insn (writeRd state insn single) (writeRd state insn double) default = .ok arm) :
    Touches state insn none arm := by
  have touches := fltSwitch_touches ran (fun _ inner => writeRd_touches inner)
    (fun _ inner => writeRd_touches inner) atDefault
  rwa [switchLen_none] at touches

theorem division_touches {trap : Prop} [Decidable trap] {val : BitVec 32}
    (ran : (if trap then .error .divisionTrap else writeRd state insn val) = .ok arm) :
    Touches state insn none arm := by
  by_cases trapped : trap
  · rw [if_pos trapped] at ran
    cases ran
  · rw [if_neg trapped] at ran
    exact writeRd_touches ran

theorem elfGetRegionByTag_split {tag : String} {regions before after : List ElfLoadRegion}
    {region : ElfLoadRegion} (found : elfGetRegionByTag tag regions = some (before, region, after)) :
    regions = before ++ region :: after := by
  induction regions generalizing before with
  | nil => cases found
  | cons first rest ih =>
    rw [elfGetRegionByTag] at found
    by_cases here : first.tag = some tag
    · rw [if_pos here] at found
      cases found
      rfl
    · rw [if_neg here] at found
      cases later : elfGetRegionByTag tag rest with
      | none =>
        rw [later] at found
        cases found
      | some split =>
        rw [later] at found
        cases found
        rw [ih later]
        rfl

theorem rvsyscBrk_layout {brk val : BitVec 32} {next : RvState}
    (ran : rvsyscBrk state brk = .ok (val, next)) : next.mem.layout = state.mem.layout := by
  cases found : elfGetRegionByTag regionTagHeap state.mem.loadRegions with
  | none =>
    simp only [rvsyscBrk, found] at ran
    cases ran
  | some split =>
    obtain ⟨before, heap, after⟩ := split
    simp only [rvsyscBrk, found] at ran
    split at ran
    · cases ran
      rfl
    split at ran
    · cases ran
      rfl
    · cases ran
      simp [ElfContext.layout, elfGetRegionByTag_split found, ElfLoadRegion.layout]

theorem rvemuDispatchSyscall_touches {calls : HostCalls} (ran : rvemuDispatchSyscall calls state = .ok arm) :
    Touches state insn none arm := by
  simp only [rvemuDispatchSyscall] at ran
  split at ran
  · obtain ⟨ptr, -, ran⟩ := rvmemAt_then_ok ran
    cases ran
    exact ⟨rfl, by simp⟩
  · obtain ⟨ptr, -, ran⟩ := rvmemAt_then_ok ran
    cases ran
    exact ⟨rfl, by simp⟩
  · cases ran
    exact ⟨rfl, by simp⟩
  · obtain ⟨ptr, -, ran⟩ := rvmemAt_then_ok ran
    cases ran
    exact ⟨rfl, by simp⟩
  · obtain ⟨⟨val, next⟩, changed, ran⟩ := bind_returned ran
    cases ran
    have kept := rvsyscBrk_layout changed
    exact ⟨kept, by simp⟩
  · cases ran
    exact ⟨rfl, by simp⟩

theorem rvemuDispatchInsn_touches {float : HostFloat} {calls : HostCalls}
    (ran : rvemuDispatchInsn float calls state insn = .ok arm) : Touches state insn (dataLen insn) arm := by
  have fallOut : ∀ other, (.ok { state := state } : Except Abort Dispatched) = .ok other →
      Touches state insn none other := fun _ returned => silent_touches returned rfl
  cases ty : insn.insnTy <;> simp only [rvemuDispatchInsn, ty] at ran <;> simp only [dataLen, ty]
  case lb | lh | lw | lbu | lhu => exact loadArm_touches ran fun _ => rfl
  case sb | sh | sw => exact storeArm_touches ran
  case beq | bne | blt | bge | bltu | bgeu => exact branchArm_touches ran
  case div | divu | rem | remu => exact division_touches ran
  case ecall => exact rvemuDispatchSyscall_touches ran
  case flx =>
    exact fltSwitch_touches ran (fun _ inner => loadArm_touches inner fun _ => rfl)
      (fun _ inner => loadArm_touches inner fun _ => rfl) fun _ => unreachable_touches
  case fsx =>
    exact fltSwitch_touches ran (fun _ inner => storeArm_touches inner)
      (fun _ inner => storeArm_touches inner) fun _ => unreachable_touches
  case faddx | fsubx | fmulx | fdivx | fmaddx | fmsubx | fnmsubx | fnmaddx | fsqrtx | fsgnjx | fsgnjnx | fsgnjxx
      | fcvtXW | fcvtXWu => exact fltArm_touches (fun _ => unreachable_touches) ran
  case fminx | fmaxx => exact fltArm_touches fallOut ran
  case fcvtWX | fcvtWuX => exact fltWriteRd_touches (fun _ => unreachable_touches) ran
  case feqx | fltx | flex => exact fltWriteRd_touches fallOut ran
  case invalid => exact unreachable_touches ran
  all_goals first | with_reducible exact writeRd_touches ran | exact silent_touches ran rfl

theorem loadArm_runs {len ptr : Nat} (assign : BitVec (8 * len) → RvState)
    (found : state.mem.backing (rvmemReg state insn.rs1 + insn.imm) = some ptr) :
    ∃ arm, loadArm state insn len assign = .ok arm :=
  ⟨_, loadArm_backed state insn assign found⟩

theorem storeArm_runs {len ptr : Nat} (val : BitVec (8 * len))
    (found : state.mem.backing (rvmemReg state insn.rs1 + insn.imm) = some ptr) :
    ∃ arm, storeArm state insn len val = .ok arm :=
  ⟨_, storeArm_backed state insn val found⟩

theorem fltSwitch_runs {single double : Nat} {len : Nat} {onSingle onDouble : Except Abort Dispatched}
    (default : Except Abort Dispatched) (atSingle : ∃ arm, onSingle = .ok arm)
    (atDouble : ∃ arm, onDouble = .ok arm)
    (accesses : switchLen insn (some single) (some double) = some len) :
    ∃ arm, fltSwitch insn onSingle onDouble default = .ok arm := by
  by_cases isSingle : insn.funct = fltfuncSingle
  · obtain ⟨arm, ran⟩ := atSingle
    rw [fltSwitch_single insn isSingle, ran]
    exact ⟨_, rfl⟩
  by_cases isDouble : insn.funct = fltfuncDouble
  · obtain ⟨arm, ran⟩ := atDouble
    rw [fltSwitch_double insn isDouble, ran]
    exact ⟨_, rfl⟩
  · rw [switchLen, if_neg isSingle, if_neg isDouble] at accesses
    cases accesses

theorem rvemuDispatchInsn_runs (float : HostFloat) (calls : HostCalls) {len ptr : Nat}
    (accesses : dataLen insn = some len)
    (found : state.mem.backing (rvmemReg state insn.rs1 + insn.imm) = some ptr) :
    ∃ arm, rvemuDispatchInsn float calls state insn = .ok arm := by
  unfold dataLen at accesses
  split at accesses
  case h_11 => cases accesses
  all_goals simp only [rvemuDispatchInsn, ‹insn.insnTy = _›]
  · exact loadArm_runs _ found
  · exact loadArm_runs _ found
  · exact storeArm_runs _ found
  · exact loadArm_runs _ found
  · exact loadArm_runs _ found
  · exact storeArm_runs _ found
  · exact loadArm_runs _ found
  · exact storeArm_runs _ found
  · exact fltSwitch_runs _ (loadArm_runs _ found) (loadArm_runs _ found) accesses
  · exact fltSwitch_runs _ (storeArm_runs _ found) (storeArm_runs _ found) accesses

end Arms

end Urv86t
