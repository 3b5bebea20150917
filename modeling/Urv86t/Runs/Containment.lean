import Urv86t.Loader.Boot
import Urv86t.Memory.Confinement
import Urv86t.Memory.Writes
import Urv86t.Runs.ZeroRegister

set_option autoImplicit false

namespace Urv86t

open ByteMemory

/-- What the guest accesses and what it has the host access ends in the region its first byte is found in. -/
structure FitsAll (ctx : ElfContext) (state : RvState) : Prop where
  guest : Fits ctx state
  call : ∀ bytes fetched insn after len, state.suspended = false → rvstateFetch state = .ok (bytes, fetched) →
    rvdecInsn (state.setRegp 0 0) bytes = .ok (insn, after) → insn.insnTy = .ecall →
      syscallLen state = some len → Reaches ctx (state.regs 11) len

section Congr

variable {ctx ctx' : ElfContext}

theorem selected_congr (same : ctx.layout = ctx'.layout) {a : BitVec 32} {region : ElfLoadRegion}
    (found : ctx.selected a = some region) :
    ∃ region', ctx'.selected a = some region' ∧ region'.layout = region.layout := by
  have looked := (selected_layout ctx a).trans ((congrArg _ same).trans (selected_layout ctx' a).symm)
  rw [found] at looked
  obtain ⟨region', found', alike⟩ := Option.map_eq_some_iff.mp looked.symm
  exact ⟨region', found', alike⟩

theorem Reaches.congr {a : BitVec 32} {len : Nat} (reaches : Reaches ctx a len) (same : ctx.layout = ctx'.layout) :
    Reaches ctx' a len := by
  intro region found nonNull
  obtain ⟨region', found', alike⟩ := selected_congr same.symm found
  have pointer : ctx.pointer a = ctx'.pointer a := by
    rw [ElfContext.pointer, ElfContext.pointer, elfVmaToMem_congr same]
  have bound : a.toNat + len ≤ region'.layout.vmaEnd := reaches region' found' (pointer ▸ nonNull)
  rw [alike] at bound
  exact bound

theorem HostAccess.Inside.congr {access : HostAccess} (inside : access.Inside ctx) (same : ctx.layout = ctx'.layout) :
    access.Inside ctx' := by
  obtain ⟨region, found, bounds⟩ := inside
  obtain ⟨region', found', alike⟩ := selected_congr same found
  have bounds' : region.layout.memBase ≤ access.ptr ∧ access.ptr + access.len ≤ region.layout.memEnd := bounds
  rw [← alike] at bounds'
  exact ⟨region', found', bounds'⟩

theorem FitsAll.congr {state : RvState} (fits : FitsAll ctx state) (same : ctx.layout = ctx'.layout) :
    FitsAll ctx' state where
  guest := {
    fetch := fun live => (fits.guest.fetch live).congr same
    data := fun bytes fetched insn after len live read decoded accesses =>
      (fits.guest.data bytes fetched insn after len live read decoded accesses).congr same }
  call bytes fetched insn after len live read decoded ecall passed :=
    (fits.call bytes fetched insn after len live read decoded ecall passed).congr same

end Congr

section Step

variable {ctx : ElfContext} {state : RvState}

theorem rvemuDispatch_framed {float : HostFloat} {calls : HostCalls} {insn : Insn} {arm : Dispatched}
    (ran : rvemuDispatch float calls state insn = .ok arm) : Framed calls state insn arm := by
  obtain ⟨inner, body, rfl⟩ := rvemuDispatch_returned ran
  obtain ⟨kept, own⟩ := rvemuDispatchInsn_frames float inner body
  exact ⟨kept, own⟩

def Handed (ctx : ElfContext) (touched : List HostAccess) : Prop :=
  ∀ access ∈ touched, access.kind = .syscall → access.Inside ctx

theorem decoded_handed_iff (float : HostFloat) (calls : HostCalls) (insn : Insn)
    (same : state.mem.layout = ctx.layout) :
    (∀ arm, rvemuDispatch float calls state insn = .ok arm → Handed ctx arm.touched) ↔
      (insn.insnTy = .ecall → ∀ len, syscallLen state = some len → Reaches ctx (state.regs 11) len) := by
  by_cases ecall : insn.insnTy = .ecall
  · have quiet : dataLen insn = none := by rw [dataLen, ecall]
    have buffer := rvemuDispatch_buffer_iff float calls state insn ecall
    constructor
    · intro handed _ len passed
      refine (buffer.mp (fun arm ran access member => ?_) len passed).congr same
      have touches := (rvemuDispatch_touches ran).2
      rw [quiet] at touches
      exact (handed arm ran access member (touches access member)).congr same.symm
    · intro reaches arm ran access member _
      have inside := buffer.mpr fun len passed => (reaches ecall len passed).congr same.symm
      exact (inside arm ran access member).congr same
  · refine iff_of_true ?_ fun here => absurd here ecall
    intro arm ran access member handed
    rw [(rvemuDispatch_framed ran).own ecall access member] at handed
    cases handed

theorem laterTouched_handed_iff (float : HostFloat) (calls : HostCalls) (bytes : BitVec 32)
    (same : state.mem.layout = ctx.layout) :
    Handed ctx (laterTouched float calls state bytes) ↔
      ∀ insn after, rvdecInsn (state.setRegp 0 0) bytes = .ok (insn, after) → insn.insnTy = .ecall →
        ∀ len, syscallLen state = some len → Reaches ctx (state.regs 11) len := by
  rw [laterTouched]
  cases decoded : rvdecInsn (state.setRegp 0 0) bytes with
  | error abort =>
    refine iff_of_true (List.forall_mem_nil _) ?_
    rintro insn after ⟨⟩
  | ok out =>
    obtain ⟨insn, after⟩ := out
    have layout : after.mem.layout = ctx.layout := by
      rcases rvdecInsn_after decoded with rfl | rfl <;> exact same
    have regs : ∀ r : BitVec 5, r ≠ 0 → after.regs r = state.regs r := by
      rcases rvdecInsn_after decoded with rfl | rfl <;> exact fun r nonzero => setRegp_zero_other state nonzero
    have length : syscallLen after = syscallLen state := by
      rw [syscallLen, syscallLen, regs 17 (by decide), regs 12 (by decide)]
    have here := decoded_handed_iff float calls insn layout
    rw [length, regs 11 (by decide)] at here
    have only : (∀ insn' after', (.ok (insn, after) : Except Abort (Insn × RvState)) = .ok (insn', after') →
        insn'.insnTy = .ecall → ∀ len, syscallLen state = some len → Reaches ctx (state.regs 11) len) ↔
        (insn.insnTy = .ecall → ∀ len, syscallLen state = some len → Reaches ctx (state.regs 11) len) := by
      constructor
      · exact fun all => all insn after rfl
      · rintro reaches insn' after' ⟨⟩
        exact reaches
    rw [only]
    by_cases invalid : insn.insnTy = .invalid
    · simp only [if_pos invalid]
      refine iff_of_true (List.forall_mem_nil _) fun ecall => ?_
      rw [invalid] at ecall
      cases ecall
    · simp only [if_neg invalid]
      rw [← here]
      cases rvemuDispatch float calls after insn with
      | error abort => exact iff_of_true (List.forall_mem_nil _) fun arm ran => by cases ran
      | ok arm =>
        constructor
        · rintro handed _ ⟨⟩
          exact handed
        · exact fun all => all arm rfl

theorem handed_iff (float : HostFloat) (calls : HostCalls) (same : state.mem.layout = ctx.layout) :
    Handed ctx (rvemuStepOut float calls state).touched ↔
      ∀ bytes fetched insn after len, state.suspended = false → rvstateFetch state = .ok (bytes, fetched) →
        rvdecInsn (state.setRegp 0 0) bytes = .ok (insn, after) → insn.insnTy = .ecall →
          syscallLen state = some len → Reaches ctx (state.regs 11) len := by
  cases running : state.suspended with
  | true =>
    rw [rvemuStepOut, if_pos running]
    exact iff_of_true (List.forall_mem_nil _) fun _ _ _ _ _ live => by cases live
  | false =>
    cases read : rvstateFetch state with
    | error abort =>
      have cleared : rvstateFetch (state.setRegp 0 0) = .error abort := read
      rw [rvemuStepOut, if_neg (by rw [running]; decide)]
      simp only [cleared]
      exact iff_of_true (List.forall_mem_nil _) fun _ _ _ _ _ _ impossible => by cases impossible
    | ok word =>
      obtain ⟨bytes, access⟩ := word
      have fetch : access.kind = .fetch := by rw [rvstateFetch_access read]
      have rest := laterTouched_handed_iff float calls bytes same
      rw [rvemuStepOut_touched running read, Handed, List.forall_mem_cons, fetch]
      constructor
      · rintro ⟨-, handed⟩ bytes' fetched' insn after len - ⟨⟩ decoded ecall passed
        exact rest.mp handed insn after decoded ecall len passed
      · intro reaches
        refine ⟨fun impossible => (by cases impossible), rest.mpr fun insn after decoded ecall len passed => ?_⟩
        exact reaches bytes access insn after len rfl rfl decoded ecall passed

theorem rvemuStepOut_inside_iff (float : HostFloat) (calls : HostCalls) (same : state.mem.layout = ctx.layout) :
    (∀ access ∈ (rvemuStepOut float calls state).touched, access.Inside ctx) ↔ FitsAll ctx state := by
  have guest := rvemuStepOut_confined_iff float calls same
  have call := handed_iff float calls same
  constructor
  · intro inside
    exact ⟨guest.mp fun access member _ => inside access member, call.mp fun access member _ => inside access member⟩
  · intro fits access member
    by_cases kind : access.kind = .syscall
    · exact call.mpr fits.call access member kind
    · exact guest.mpr fits.guest access member kind

theorem rvemuDispatch_found {float : HostFloat} {calls : HostCalls} {insn : Insn} {arm : Dispatched}
    (ran : rvemuDispatch float calls state insn = .ok arm) {access : HostAccess} (member : access ∈ arm.touched) :
    state.mem.backing access.vma = some access.ptr := by
  have touches := (rvemuDispatch_touches ran).2
  cases length : dataLen insn with
  | some len =>
    rw [length] at touches
    obtain ⟨ptr, found, touched⟩ := touches
    rw [touched, List.mem_singleton] at member
    rw [member]
    exact found
  | none =>
    rw [length] at touches
    by_cases ecall : insn.insnTy = .ecall
    · obtain ⟨inner, body, rfl⟩ := rvemuDispatch_returned ran
      simp only [rvemuDispatchInsn, ecall] at body
      cases passed : syscallLen (rvbkptCheckInsn state insn) with
      | none =>
        simp only [rvemuDispatchSyscall_silent passed body] at member
        cases member
      | some len =>
        obtain ⟨buff, found, touched⟩ := rvemuDispatchSyscall_passed passed body
        simp only [touched, List.mem_singleton] at member
        rw [member]
        exact found
    · have data := (rvemuDispatch_framed ran).own ecall access member
      rw [touches access member] at data
      cases data

theorem rvemuStepOut_found {float : HostFloat} {calls : HostCalls} (same : state.mem.layout = ctx.layout)
    {access : HostAccess} (member : access ∈ (rvemuStepOut float calls state).touched) :
    ctx.backing access.vma = some access.ptr := by
  cases running : state.suspended with
  | true =>
    rw [rvemuStepOut, if_pos running] at member
    cases member
  | false =>
    cases found : state.mem.backing state.pc with
    | none =>
      have unread : rvstateFetch (state.setRegp 0 0) = .error (.fatal "PC-fetch out of bounds\n") :=
        rvstateFetch_missed found
      rw [rvemuStepOut, if_neg (by rw [running]; decide)] at member
      simp only [unread] at member
      cases member
    | some ptr =>
      rw [rvemuStepOut_touched running (rvstateFetch_found found)] at member
      rcases List.mem_cons.mp member with rfl | later
      · exact (backing_congr same _).symm.trans found
      rw [laterTouched] at later
      split at later
      · cases later
      next insn after decoded =>
        split at later
        · cases later
        split at later
        · cases later
        next arm ran =>
          have layout : after.mem.layout = ctx.layout := by
            rcases rvdecInsn_after decoded with rfl | rfl <;> exact same
          exact (backing_congr layout _).symm.trans (rvemuDispatch_found ran later)

theorem rvemuStepOut_kept {float : HostFloat} {calls : HostCalls} (records : WritesRecord calls) {running : Bool}
    {next : RvState} (stepped : (rvemuStepOut float calls state).result = .ok (running, next)) {cell : Nat}
    (missed : ∀ access ∈ (rvemuStepOut float calls state).touched, ¬access.Covers cell) :
    next.host cell = state.host cell := by
  rcases rvemuStep_returned stepped with ⟨-, -, rfl⟩ | ⟨live, bytes, fetched, insn, after, read, decoded, ended⟩
  · rfl
  have host : after.host = state.host := by
    rcases rvdecInsn_after decoded with rfl | rfl <;> rfl
  rcases ended with ⟨-, -, rfl⟩ | ⟨valid, -, arm, ran, rfl⟩
  · rw [host]
  · have touched : (rvemuStepOut float calls state).touched = fetched :: arm.touched := by
      rw [rvemuStepOut_touched live read, laterTouched]
      simp only [decoded, if_neg valid, ran]
    rw [touched] at missed
    have kept := (rvemuDispatch_framed ran).kept records cell fun access member =>
      missed access (List.mem_cons_of_mem _ member)
    rw [kept, host]

end Step

section Runs

variable {float : HostFloat} {ctx : ElfContext} {state : RvState}

theorem rvemuVisits_forall {P : Visit → Prop} {run : List HostCalls} (same : state.mem.layout = ctx.layout)
    (holds : ∀ state calls, state.mem.layout = ctx.layout → P ⟨state, (rvemuStepOut float calls state).touched⟩) :
    ∀ visit ∈ rvemuVisits float run state, P visit := by
  induction run generalizing state with
  | nil => exact List.forall_mem_nil _
  | cons calls rest ih =>
    rw [rvemuVisits]
    refine List.forall_mem_cons.mpr ⟨holds state calls same, ?_⟩
    cases stepped : (rvemuStepOut float calls state).result with
    | error abort => exact List.forall_mem_nil _
    | ok out => exact ih ((rvemuStep_layout stepped).trans same)

theorem rvemuVisits_layout (run : List HostCalls) (same : state.mem.layout = ctx.layout) :
    ∀ visit ∈ rvemuVisits float run state, visit.state.mem.layout = ctx.layout :=
  rvemuVisits_forall same fun _ _ same => same

theorem rvemuVisits_inside_iff (run : List HostCalls) (same : state.mem.layout = ctx.layout) :
    ∀ visit ∈ rvemuVisits float run state,
      (∀ access ∈ visit.touched, access.Inside ctx) ↔ FitsAll ctx visit.state :=
  rvemuVisits_forall same fun _ calls same => rvemuStepOut_inside_iff float calls same

theorem rvemuVisits_found (run : List HostCalls) (same : state.mem.layout = ctx.layout) :
    ∀ visit ∈ rvemuVisits float run state, ∀ access ∈ visit.touched,
      ctx.backing access.vma = some access.ptr :=
  rvemuVisits_forall same fun _ _ same _ member => rvemuStepOut_found same member

theorem rvemuStepOut_within {calls : HostCalls} (records : WritesRecord calls) {running : Bool} {next : RvState}
    (stepped : (rvemuStepOut float calls state).result = .ok (running, next))
    (inside : ∀ access ∈ (rvemuStepOut float calls state).touched, access.Inside ctx) {cell : Nat}
    (outside : ∀ region ∈ ctx.loadRegions, ¬(region.memBase ≤ cell ∧ cell < region.memEnd)) :
    next.host cell = state.host cell := by
  refine rvemuStepOut_kept records stepped fun access member covers => ?_
  obtain ⟨region, selected, low, high⟩ := inside access member
  exact outside region (ElfContext.selected_mem selected)
    ⟨Nat.le_trans low covers.1, Nat.lt_of_lt_of_le covers.2 high⟩

theorem rvemuVisits_kept {run : List HostCalls} (records : ∀ calls ∈ run, WritesRecord calls)
    (inside : ∀ visit ∈ rvemuVisits float run state, ∀ access ∈ visit.touched, access.Inside ctx) {cell : Nat}
    (outside : ∀ region ∈ ctx.loadRegions, ¬(region.memBase ≤ cell ∧ cell < region.memEnd)) :
    ∀ visit ∈ rvemuVisits float run state, visit.state.host cell = state.host cell := by
  induction run generalizing state with
  | nil => exact List.forall_mem_nil _
  | cons calls rest ih =>
    rw [rvemuVisits] at inside ⊢
    obtain ⟨here, later⟩ := List.forall_mem_cons.mp inside
    obtain ⟨first, others⟩ := List.forall_mem_cons.mp records
    refine List.forall_mem_cons.mpr ⟨rfl, ?_⟩
    cases stepped : (rvemuStepOut float calls state).result with
    | error abort => exact List.forall_mem_nil _
    | ok out =>
      obtain ⟨running, next⟩ := out
      rw [stepped] at later
      intro visit member
      rw [ih others later visit member]
      exact rvemuStepOut_within first stepped here outside

theorem rvemuSteps_kept {run : List HostCalls} (records : ∀ calls ∈ run, WritesRecord calls)
    (inside : ∀ visit ∈ rvemuVisits float run state, ∀ access ∈ visit.touched, access.Inside ctx) {cell : Nat}
    (outside : ∀ region ∈ ctx.loadRegions, ¬(region.memBase ≤ cell ∧ cell < region.memEnd)) {results : List Bool}
    {last : RvState} (ran : rvemuSteps float run state = .ok (results, last)) : last.host cell = state.host cell := by
  induction run generalizing state results with
  | nil =>
    cases ran
    rfl
  | cons calls rest ih =>
    rw [rvemuVisits] at inside
    obtain ⟨here, later⟩ := List.forall_mem_cons.mp inside
    obtain ⟨first, others⟩ := List.forall_mem_cons.mp records
    rw [rvemuSteps] at ran
    obtain ⟨⟨running, next⟩, stepped, onward⟩ := bind_returned ran
    obtain ⟨⟨results', last'⟩, behind, final⟩ := bind_returned onward
    cases final
    have result : (rvemuStepOut float calls state).result = .ok (running, next) := stepped
    rw [result] at later
    rw [ih others later behind]
    exact rvemuStepOut_within first result here outside

end Runs

def Block.Holds (block : Block) (access : HostAccess) : Prop :=
  block.base ≤ access.ptr ∧ access.ptr + access.len ≤ block.base + block.size

theorem Heap.Sound.unique {heap : Heap} (sound : heap.Sound) {a b : Block} (left : a ∈ heap.blocks)
    (right : b ∈ heap.blocks) {cell : Nat} (inside : a.base ≤ cell ∧ cell < a.base + a.size)
    (inside' : b.base ≤ cell ∧ cell < b.base + b.size) : a = b := by
  by_contra different
  have apart := sound.apart.forall left right different
  unfold Block.Apart at apart
  omega

theorem inside_iff_held {ctx : ElfContext} {heap : Heap} (sound : heap.Sound)
    (backed : ∀ region ∈ ctx.loadRegions, region.buffer ∈ heap.blocks) {access : HostAccess}
    (found : ctx.backing access.vma = some access.ptr) :
    access.Inside ctx ↔ ∃ block ∈ heap.blocks, block.Holds access := by
  obtain ⟨translated, -⟩ := ElfContext.backing_eq_some.mp found
  obtain ⟨region, selected, member, hit, place⟩ := ElfContext.elfVmaToMem_selected translated
  have bounds := ElfLoadRegion.hit_bounds hit
  have start : region.memBase ≤ access.ptr ∧ access.ptr < region.memEnd := by
    simp only [ElfLoadRegion.memEnd, ElfLoadRegion.vmaEnd] at *
    omega
  constructor
  · rintro ⟨region', selected', low, high⟩
    rw [selected] at selected'
    cases selected'
    exact ⟨region.buffer, backed region member, low, high⟩
  · rintro ⟨block, live, low, high⟩
    refine ⟨region, selected, start.1, ?_⟩
    by_cases empty : access.len = 0
    · rw [empty]
      exact Nat.le_of_lt start.2
    · have same := sound.unique live (backed region member) ⟨low, by omega⟩ start
      rw [same] at high
      exact high

section Program

variable {alloc : Allocator} {heap heap' : Heap} {file : Option BinaryFile} {disasm : Option Bool} {started : Started}

theorem startedState_layout (ctx : ElfContext) (host : Memory Nat) (evs : List RvbkptEv) :
    (startedState ctx host evs).mem.layout = ctx.layout := by
  obtain ⟨table, framed⟩ := startedState_frame ctx host evs
  rw [framed]
  rfl

theorem started_held_iff (generous : alloc.Generous) (sound : heap.Sound)
    (returned : (mainInit alloc file disasm).Returns heap started heap') (float : HostFloat) (evs : List RvbkptEv)
    (run : List HostCalls) :
    ∀ visit ∈ rvemuVisits float run (startedState started.ctx heap'.bytes evs),
      (∀ access ∈ visit.touched, ∃ block ∈ heap'.blocks, block.Holds access) ↔ FitsAll started.ctx visit.state := by
  obtain ⟨sound', backed⟩ := mainInit_buffers generous sound returned
  have same := startedState_layout started.ctx heap'.bytes evs
  intro visit member
  rw [← rvemuVisits_inside_iff run same visit member]
  refine forall₂_congr fun access touched => (inside_iff_held sound' backed ?_).symm
  exact rvemuVisits_found run same visit member access touched

theorem started_kept {ctx : ElfContext} {host : Memory Nat} {float : HostFloat} {evs : List RvbkptEv}
    {run : List HostCalls} (records : ∀ calls ∈ run, WritesRecord calls)
    (fits : ∀ visit ∈ rvemuVisits float run (startedState ctx host evs), FitsAll ctx visit.state) {cell : Nat}
    (outside : ∀ region ∈ ctx.loadRegions, ¬(region.memBase ≤ cell ∧ cell < region.memEnd)) :
    ∀ visit ∈ rvemuVisits float run (startedState ctx host evs), visit.state.host cell = host cell := by
  have inside := @rvemuVisits_inside_iff float ctx _ run (startedState_layout ctx host evs)
  intro visit member
  obtain ⟨table, framed⟩ := startedState_frame ctx host evs
  rw [rvemuVisits_kept records (fun visit member => (inside visit member).mpr (fits visit member)) outside visit
    member, framed]
  rfl

theorem main_contained (generous : alloc.Generous) (sound : heap.Sound)
    (returned : (mainInit alloc file disasm).Returns heap started heap') (float : HostFloat) (evs : List RvbkptEv)
    (run : List HostCalls) :
    (∀ visit ∈ rvemuVisits float run (startedState started.ctx heap'.bytes evs),
        (∀ access ∈ visit.touched, ∃ block ∈ heap'.blocks, block.Holds access) ↔
          FitsAll started.ctx visit.state) ∧
      ((∀ visit ∈ rvemuVisits float run (startedState started.ctx heap'.bytes evs),
          FitsAll started.ctx visit.state) →
        (∀ calls ∈ run, WritesRecord calls) → ∀ cell, (∀ region ∈ started.ctx.loadRegions,
          ¬(region.memBase ≤ cell ∧ cell < region.memEnd)) →
        ∀ visit ∈ rvemuVisits float run (startedState started.ctx heap'.bytes evs),
          visit.state.host cell = heap'.bytes cell) :=
  ⟨started_held_iff generous sound returned float evs run,
    fun fits records _ outside => started_kept records fits outside⟩

end Program

theorem main_contained_exit :
    ∃ started heap',
      (mainInit bumpAllocator (some ⟨exitFile, 177, 177⟩) none).Returns ⟨fun _ => 0, []⟩ started heap' ∧
      ∀ visit ∈ rvemuVisits default [default, default] (startedState started.ctx heap'.bytes [entryBkpt]),
        (∀ access ∈ visit.touched, ∃ block ∈ heap'.blocks, block.Holds access) ↔ FitsAll started.ctx visit.state := by
  obtain ⟨started, heap', returned⟩ := exitFile_started
  have contained := main_contained bumpAllocator_generous emptyHeap_sound returned default [entryBkpt]
    [default, default]
  exact ⟨started, heap', returned, contained.1⟩

end Urv86t
