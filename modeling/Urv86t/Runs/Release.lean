import Urv86t.Breakpoint.Transparent
import Urv86t.Refinement.Contained

set_option autoImplicit false

namespace Urv86t

open Rv32 Simulation

/-- What `main` has allocated apart from the buffers of the regions. -/
def Started.held (started : Started) (loadRegions elfCtx fdSize : Nat) : List Block :=
  asmBlock started.disasm ++ [⟨started.state, sizeofRvstate⟩,
    ⟨loadRegions, started.ctx.nrRegions * sizeofElfLoadRegion⟩, ⟨elfCtx, sizeofElfContext⟩, ⟨started.emuCode, fdSize⟩]

theorem Started.held_perm (started : Started) (loadRegions elfCtx fdSize : Nat) (others : List Block) :
    (asmBlock started.disasm ++ ⟨started.state, sizeofRvstate⟩ :: (buffers started.ctx.loadRegions ++
        ⟨loadRegions, started.ctx.nrRegions * sizeofElfLoadRegion⟩ :: ⟨elfCtx, sizeofElfContext⟩ ::
          ⟨started.emuCode, fdSize⟩ :: others)).Perm
      (buffers started.ctx.loadRegions ++ (started.held loadRegions elfCtx fdSize ++ others)) := by
  have behind := List.perm_append_comm_assoc (asmBlock started.disasm ++ [⟨started.state, sizeofRvstate⟩])
    (buffers started.ctx.loadRegions) (⟨loadRegions, started.ctx.nrRegions * sizeofElfLoadRegion⟩ ::
      ⟨elfCtx, sizeofElfContext⟩ :: ⟨started.emuCode, fdSize⟩ :: others)
  simpa [held] using behind

section Program

variable {alloc : Allocator} {heap heap' : Heap} {file : Option BinaryFile} {disasm : Option Bool} {started : Started}

theorem held_outside (sound : heap'.Sound) (backed : ∀ region ∈ started.ctx.loadRegions, region.buffer ∈ heap'.blocks)
    {others : List Block} (owned : heap'.blocks.Perm (buffers started.ctx.loadRegions ++ others)) {block : Block}
    (held : block ∈ others) {k : Nat} (inside : k < block.size) :
    ∀ region ∈ started.ctx.loadRegions, ¬(region.memBase ≤ block.base + k ∧ block.base + k < region.memEnd) := by
  rintro region listed ⟨low, high⟩
  have placed : region.memBase ≠ 0 := sound.nonNull region.buffer (backed region listed)
  have among : region.buffer ∈ buffers started.ctx.loadRegions :=
    List.mem_map_of_mem (List.mem_filter.mpr ⟨listed, decide_eq_true placed⟩)
  have apart : region.buffer.Apart block :=
    (List.pairwise_append.mp (owned.pairwise sound.apart Or.symm)).2.2 _ among _ held
  simp only [Block.Apart, ElfLoadRegion.buffer] at apart
  rw [ElfLoadRegion.memEnd] at high
  omega

theorem mainFree_leaks (generous : alloc.Generous) (sound : heap.Sound)
    (returned : (mainInit alloc file disasm).Returns heap started heap') {float : HostFloat} {evs : List RvbkptEv}
    {rounds : List Round} (served : ∀ round ∈ rounds, round.Served WritesRecord) {last : Watched}
    (ran : mainRun float rounds ⟨startedState started.ctx heap'.bytes evs, none⟩ = .ok (some last))
    (fits : ∀ visit ∈ rvemuVisits float (mainCalls float rounds ⟨startedState started.ctx heap'.bytes evs, none⟩)
      (startedState started.ctx heap'.bytes evs), FitsAll started.ctx visit.state) :
    ∃ loadRegions elfCtx fdSize final,
      heap'.blocks.Perm (buffers started.ctx.loadRegions ++
        (started.held loadRegions elfCtx fdSize ++ heap.blocks)) ∧
      (∀ block ∈ started.held loadRegions elfCtx fdSize ++ heap.blocks, ∀ k < block.size,
        last.state.host (block.base + k) = heap'.bytes (block.base + k)) ∧
      (mainFree started loadRegions elfCtx).Returns { heap' with bytes := last.state.host } () final ∧
      final.bytes = last.state.host ∧ final.blocks.Perm (buffers started.ctx.loadRegions ++ heap.blocks) := by
  obtain ⟨sound', loadRegions, elfCtx, fdSize, owned⟩ := mainInit_owns sound returned
  obtain ⟨-, backed⟩ := mainInit_buffers generous sound returned
  obtain ⟨results, after, steps, same⟩ := mainRun_steps (.refl _) ran
  have soundNow : Heap.Sound { heap' with bytes := last.state.host } :=
    ⟨sound'.apart, sound'.filled, sound'.nonNull⟩
  obtain ⟨final, freed, bytes, left⟩ := mainFree_owned soundNow owned
  have apart := owned.trans (started.held_perm loadRegions elfCtx fdSize heap.blocks)
  refine ⟨loadRegions, elfCtx, fdSize, final, apart, fun block held k inside => ?_, freed, bytes, left⟩
  have outside := held_outside sound' backed apart held inside
  have layout := startedState_layout started.ctx heap'.bytes evs
  have kept := rvemuSteps_kept (mainCalls_served served)
    (fun visit member => (rvemuVisits_inside_iff _ layout visit member).mpr (fits visit member)) outside steps
  obtain ⟨table, framed⟩ := startedState_frame started.ctx heap'.bytes evs
  rw [← same.host, kept, framed]
  rfl

end Program

theorem mainFree_leaks_exit :
    ∃ started heap' n last loadRegions elfCtx final,
      (mainInit bumpAllocator (some ⟨exitFile, 177, 177⟩) none).Returns ⟨fun _ => 0, []⟩ started heap' ∧
      mainRun default (List.replicate n steppingRound) ⟨startedState started.ctx heap'.bytes [entryBkpt], none⟩ =
        .ok (some last) ∧
      (mainFree started loadRegions elfCtx).Returns { heap' with bytes := last.state.host } () final ∧
      final.blocks.Perm (buffers started.ctx.loadRegions) := by
  obtain ⟨started, heap', returned⟩ := exitFile_started
  obtain ⟨n, last, asked, p', ran, -, -⟩ := main_leads ⟨exitFile, 177, 177⟩ exitFile_bootable bumpAllocator_generous
    emptyHeap_sound returned default (fun _ _ exited => exited.1) exitFile_leads fun _ => steppingRound_served
  rw [List.map_const', List.length_range] at ran
  have served : ∀ round ∈ List.replicate n steppingRound, round.Served Presentable := by
    intro round listed
    rw [List.eq_of_mem_replicate listed]
    exact steppingRound_served
  have records : ∀ round ∈ List.replicate n steppingRound, round.Served WritesRecord := fun round listed =>
    ⟨(served round listed).calls.writesRecord,
      fun calls typed => ((served round listed).commands calls typed).writesRecord⟩
  have fits := main_safe_fits ⟨exitFile, 177, 177⟩ exitFile_bootable bumpAllocator_generous emptyHeap_sound returned
    default [entryBkpt] exitFile_safe (.inl rfl) (@mainCalls_served default _ _
      ⟨startedState started.ctx heap'.bytes [entryBkpt], none⟩ served)
  obtain ⟨loadRegions, elfCtx, fdSize, final, -, -, freed, -, left⟩ :=
    mainFree_leaks bumpAllocator_generous emptyHeap_sound returned records ran (started_fits fits)
  rw [List.append_nil] at left
  exact ⟨started, heap', n, last, loadRegions, elfCtx, final, returned, ran, freed, left⟩

end Urv86t
