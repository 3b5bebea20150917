import Urv86t.Runs.Effects

set_option autoImplicit false

namespace Urv86t

namespace ElfLoadRegion

variable (heap : ElfLoadRegion)

def Accepts (request : BitVec 32) : Prop :=
  request ≠ 0 ∧ heap.vmaBase.toNat ≤ request.toNat ∧ request.toNat ≤ heap.vmaEnd ∧ heap.vmaEnd < 0x100000000

instance : DecidablePred heap.Accepts := fun _ => inferInstanceAs (Decidable (_ ∧ _ ∧ _ ∧ _))

def breakAfter (requests : List (BitVec 32)) : BitVec 32 :=
  ((requests.filter (heap.Accepts ·)).getLast?).getD heap.vmaBase

def allocatedTo (brk : BitVec 32) : ElfLoadRegion := { heap with szAlloc := brk - heap.vmaBase }

theorem breakAfter_snoc (requests : List (BitVec 32)) (request : BitVec 32) :
    heap.breakAfter (requests ++ [request]) =
      if heap.Accepts request then request else heap.breakAfter requests := by
  by_cases accepted : heap.Accepts request <;> simp [breakAfter, accepted]

theorem breakAfter_bounds (requests : List (BitVec 32)) :
    heap.breakAfter requests = heap.vmaBase ∨ heap.Accepts (heap.breakAfter requests) := by
  unfold breakAfter
  cases last : (requests.filter (heap.Accepts ·)).getLast? with
  | none => exact .inl rfl
  | some request =>
    have member := List.mem_filter.mp (List.mem_of_getLast? last)
    exact .inr (by simpa using member.2)

theorem breakAfter_fits (requests : List (BitVec 32)) :
    (heap.breakAfter requests - heap.vmaBase).toNat ≤ heap.szReserved.toNat := by
  rcases heap.breakAfter_bounds requests with unused | ⟨-, low, high, -⟩
  · simp [unused]
  · rw [BitVec.toNat_sub_of_le low]
    unfold vmaEnd at high
    omega

theorem accepts_iff (request : BitVec 32) (nonzero : request ≠ 0) :
    heap.Accepts request ↔ ¬(request < heap.vmaBase ∨ request > heap.vmaBase + heap.szReserved) := by
  have base := heap.vmaBase.isLt
  have size := heap.szReserved.isLt
  have bound := request.isLt
  have positive : 0 < request.toNat := by
    refine Nat.pos_of_ne_zero fun zero => nonzero (BitVec.eq_of_toNat_eq zero)
  simp only [Accepts, vmaEnd, ne_eq, nonzero, not_false_eq_true, true_and, gt_iff_lt, BitVec.lt_def,
    BitVec.toNat_add, not_or, Nat.not_lt]
  by_cases wraps : heap.vmaBase.toNat + heap.szReserved.toNat < 0x100000000
  · rw [Nat.mod_eq_of_lt wraps]
    omega
  · have shifted : (heap.vmaBase.toNat + heap.szReserved.toNat) % 0x100000000 =
        heap.vmaBase.toNat + heap.szReserved.toNat - 0x100000000 := by
      rw [Nat.mod_eq_sub_mod (by omega), Nat.mod_eq_of_lt (by omega)]
    rw [shifted]
    omega

end ElfLoadRegion

def ElfContext.withHeap (ctx : ElfContext) (before after : List ElfLoadRegion) (heap : ElfLoadRegion) :
    ElfContext :=
  { ctx with loadRegions := before ++ heap :: after }

theorem elfGetRegionByTag_replace {tag : String} {regions before after : List ElfLoadRegion}
    {region region' : ElfLoadRegion} (found : elfGetRegionByTag tag regions = some (before, region, after))
    (same : region'.tag = region.tag) :
    elfGetRegionByTag tag (before ++ region' :: after) = some (before, region', after) := by
  induction regions generalizing before with
  | nil => cases found
  | cons first rest ih =>
    rw [elfGetRegionByTag] at found
    by_cases here : first.tag = some tag
    · rw [if_pos here] at found
      cases found
      simp [elfGetRegionByTag, same, here]
    · rw [if_neg here] at found
      cases later : elfGetRegionByTag tag rest with
      | none =>
        rw [later] at found
        cases found
      | some split =>
        rw [later] at found
        cases found
        simp [elfGetRegionByTag, here, ih later]

def RvState.withMem (table : ElfContext) (state : RvState) : RvState := { state with mem := table }

section Calls

variable {ctx : ElfContext} {before after : List ElfLoadRegion} {heap : ElfLoadRegion}

theorem rvsyscBrk_found {state : RvState} {brk : BitVec 32}
    (found : elfGetRegionByTag regionTagHeap state.mem.loadRegions =
      some (before, heap.allocatedTo brk, after)) (request : BitVec 32) :
    rvsyscBrk state request =
      .ok
        (if heap.Accepts request then
          (request, state.withMem (state.mem.withHeap before after (heap.allocatedTo request)))
        else (brk, state)) := by
  have current : heap.vmaBase + (brk - heap.vmaBase) = brk := by rw [BitVec.add_comm, BitVec.sub_add_cancel]
  simp only [rvsyscBrk, found, ElfLoadRegion.allocatedTo, current]
  by_cases zero : request = 0
  · have rejected : ¬heap.Accepts request := fun accepted => accepted.1 zero
    rw [if_pos zero, if_neg rejected]
  rw [if_neg zero]
  by_cases outside : request < heap.vmaBase ∨ request > heap.vmaBase + heap.szReserved
  · have rejected : ¬heap.Accepts request := fun accepted => (heap.accepts_iff request zero).mp accepted outside
    rw [if_pos outside, if_neg rejected]
  · have moved : brk - heap.vmaBase + (request - brk) = request - heap.vmaBase := by
      simp only [BitVec.sub_eq_add_neg]
      calc brk + -heap.vmaBase + (request + -brk)
          = request + -heap.vmaBase + (brk + -brk) := by ac_rfl
        _ = request + -heap.vmaBase := by rw [← BitVec.sub_eq_add_neg brk, BitVec.sub_self, BitVec.add_zero]
    rw [if_neg outside, if_pos ((heap.accepts_iff request zero).mpr outside), moved]
    rfl

theorem rvsyscBrk_step (found : elfGetRegionByTag regionTagHeap ctx.loadRegions = some (before, heap, after))
    (guest : RvState) (requests : List (BitVec 32)) (request : BitVec 32) :
    rvsyscBrk
        (guest.withMem (ctx.withHeap before after (heap.allocatedTo (heap.breakAfter requests)))) request =
      .ok (heap.breakAfter (requests ++ [request]),
        guest.withMem
          (ctx.withHeap before after (heap.allocatedTo (heap.breakAfter (requests ++ [request]))))) := by
  have again : elfGetRegionByTag regionTagHeap (before ++ heap.allocatedTo (heap.breakAfter requests) :: after) =
      some (before, heap.allocatedTo (heap.breakAfter requests), after) :=
    elfGetRegionByTag_replace found rfl
  rw [rvsyscBrk_found again, heap.breakAfter_snoc]
  by_cases accepted : heap.Accepts request
  · simp only [if_pos accepted]
    rfl
  · simp only [if_neg accepted]

theorem rvemuDispatchSyscall_brk
    (found : elfGetRegionByTag regionTagHeap ctx.loadRegions = some (before, heap, after)) (calls : HostCalls)
    (guest : RvState) (number : guest.regs 17 = 214) (requests : List (BitVec 32)) :
    rvemuDispatchSyscall calls
        (guest.withMem (ctx.withHeap before after (heap.allocatedTo (heap.breakAfter requests)))) =
      .ok
        { state :=
            { guest with
              mem := ctx.withHeap before after
                (heap.allocatedTo (heap.breakAfter (requests ++ [guest.regs 10])))
              regs := Function.update guest.regs 10 (heap.breakAfter (requests ++ [guest.regs 10])) } } := by
  have stepped := rvsyscBrk_step found guest requests (guest.regs 10)
  have number' : (guest.regs 17).toNat = 214 := by
    rw [number]
    rfl
  simp only [rvemuDispatchSyscall, RvState.withMem] at stepped ⊢
  simp only [number', stepped]
  rfl

end Calls

theorem rvemuDispatchInsn_mem {float : HostFloat} {calls : HostCalls} {guest : RvState} {insn : Insn}
    {arm : Dispatched} (ran : rvemuDispatchInsn float calls guest insn = .ok arm)
    (notBrk : insn.insnTy = .ecall → guest.regs 17 ≠ 214) : arm.state.mem = guest.mem := by
  have effect := rvemuDispatchInsn_effect arm ran
  generalize arm.state = after, arm.pcOffset = offset at effect
  cases effect with
  | compute | jump | suspend | fclass => rfl
  | brk ty number => exact absurd number (notBrk ty)

inductive BrkRun (float : HostFloat) (ctx : ElfContext) : List (BitVec 32) → ElfContext → Prop where
  | start : BrkRun float ctx [] ctx
  | brk {requests : List (BitVec 32)} {table : ElfContext} (run : BrkRun float ctx requests table)
      (calls : HostCalls) (guest : RvState) (number : guest.regs 17 = 214) {arm : Dispatched}
      (ran : rvemuDispatchSyscall calls (guest.withMem table) = .ok arm) :
      BrkRun float ctx (requests ++ [guest.regs 10]) arm.state.mem
  | other {requests : List (BitVec 32)} {table : ElfContext} (run : BrkRun float ctx requests table)
      (calls : HostCalls) (guest : RvState) {insn : Insn}
      (notBrk : insn.insnTy = .ecall → guest.regs 17 ≠ 214) {arm : Dispatched}
      (ran : rvemuDispatchInsn float calls (guest.withMem table) insn = .ok arm) :
      BrkRun float ctx requests arm.state.mem

section Runs

variable {ctx : ElfContext} {before after : List ElfLoadRegion} {heap : ElfLoadRegion}

theorem ElfLoadRegion.allocatedTo_start (unused : heap.szAlloc = 0) :
    heap.allocatedTo (heap.breakAfter []) = heap := by
  have empty : heap.breakAfter [] - heap.vmaBase = heap.szAlloc := by
    rw [unused]
    exact BitVec.sub_self heap.vmaBase
  rw [allocatedTo, empty]

theorem BrkRun.table {float : HostFloat} {requests : List (BitVec 32)} {table : ElfContext}
    (found : elfGetRegionByTag regionTagHeap ctx.loadRegions = some (before, heap, after))
    (unused : heap.szAlloc = 0) (run : BrkRun float ctx requests table) :
    table = ctx.withHeap before after (heap.allocatedTo (heap.breakAfter requests)) := by
  induction run with
  | start =>
    rw [ElfLoadRegion.allocatedTo_start unused, ElfContext.withHeap, ← elfGetRegionByTag_split found]
  | brk run calls guest number ran ih =>
    rw [ih, rvemuDispatchSyscall_brk found calls guest number] at ran
    cases ran
    rfl
  | other run calls guest notBrk ran ih =>
    exact (rvemuDispatchInsn_mem ran notBrk).trans ih

end Runs

theorem rvsyscBrk_run {float : HostFloat} {ctx table : ElfContext} {before after : List ElfLoadRegion}
    {heap : ElfLoadRegion} {requests : List (BitVec 32)}
    (found : elfGetRegionByTag regionTagHeap ctx.loadRegions = some (before, heap, after))
    (unused : heap.szAlloc = 0) (run : BrkRun float ctx requests table) :
    table = ctx.withHeap before after (heap.allocatedTo (heap.breakAfter requests)) ∧
      (heap.allocatedTo (heap.breakAfter requests)).szAlloc.toNat ≤ heap.szReserved.toNat ∧
      ∀ (calls : HostCalls) (guest : RvState), guest.regs 17 = 214 →
        rvemuDispatchSyscall calls (guest.withMem table) =
          .ok
            { state :=
                { guest with
                  mem := ctx.withHeap before after
                    (heap.allocatedTo (heap.breakAfter (requests ++ [guest.regs 10])))
                  regs := Function.update guest.regs 10 (heap.breakAfter (requests ++ [guest.regs 10])) } } := by
  have left := run.table found unused
  refine ⟨left, heap.breakAfter_fits requests, fun calls guest number => ?_⟩
  rw [left]
  exact rvemuDispatchSyscall_brk found calls guest number requests

def heapContext : ElfContext where
  loadRegions := [{ vmaBase := 0x2000, memBase := 0x9000, szReserved := 0x1000, tag := some regionTagHeap }]

def brkGuest (request : BitVec 32) : RvState :=
  { rvstateInit {} (fun _ => 0) with regs := fun r => if r = 17 then 214 else if r = 10 then request else 0 }

theorem rvsyscBrk_run_shrinks :
    ∃ table, BrkRun default heapContext [0x2800, 0x2400] table ∧ table.loadRegions.map (·.szAlloc) = [0x400] ∧
      ∃ arm, rvemuDispatchSyscall default ((brkGuest 0x3001).withMem table) = .ok arm ∧
        arm.state.regs 10 = 0x2400 := by
  have found : elfGetRegionByTag regionTagHeap heapContext.loadRegions =
      some ([], { vmaBase := 0x2000, memBase := 0x9000, szReserved := 0x1000, tag := some regionTagHeap }, []) := by
    simp [heapContext, elfGetRegionByTag]
  have grown := rvemuDispatchSyscall_brk found default (brkGuest 0x2800) rfl []
  rw [ElfLoadRegion.allocatedTo_start rfl] at grown
  have shrunk := rvemuDispatchSyscall_brk found default (brkGuest 0x2400) rfl [0x2800]
  have run : BrkRun default heapContext [0x2800, 0x2400] _ :=
    .brk (.brk .start default (brkGuest 0x2800) rfl grown) default (brkGuest 0x2400) rfl shrunk
  obtain ⟨left, -, answers⟩ := rvsyscBrk_run found rfl run
  refine ⟨_, run, ?_, _, answers default (brkGuest 0x3001) rfl, ?_⟩
  · decide
  · decide

end Urv86t
