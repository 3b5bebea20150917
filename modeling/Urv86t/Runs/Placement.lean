import Urv86t.Loader.Identity
import Urv86t.Loader.Surroundings
import Urv86t.Refinement.Contained
import Urv86t.Refinement.Relocation

set_option autoImplicit false

namespace Urv86t

open ByteMemory Rv32 Simulation Traced Traced.Program

def slotImage (bytes : FileBytes) (phdrs : List Elf32Phdr) : Memory (Nat × Nat) := fun slot =>
  match phdrs[slot.1]? with
  | none => 0
  | some phdr => phdr.imageByte bytes slot.2

structure Imaged (bytes : FileBytes) (phdrs : List Elf32Phdr) (bss : Elf32Shdr) (ctx : ElfContext) (heap : Heap) :
    Prop where
  regions : ctx.unplaced = phdrs.map (·.region 0) ++
    [heapRegion bss.vmaEnd 0, stackRegion (bss.vmaEnd + progHeapSize) 0]
  entry : ctx.entryPoint = (elf32Ehdr bytes).eEntry
  sp : ctx.sp = bss.vmaEnd + progHeapSize + progStackSize - 1
  unshared : ctx.loadRegions.Pairwise ElfLoadRegion.Unshared
  buffered : ctx.Buffered
  contents : Agree ctx.slot (slotImage bytes phdrs) heap.bytes

theorem Imaged.replaced {bytes bytes' : FileBytes} {phdrs : List Elf32Phdr} {bss : Elf32Shdr} {ctx ctx' : ElfContext}
    {heap heap' : Heap} (imaged : Imaged bytes phdrs bss ctx heap) (imaged' : Imaged bytes' phdrs bss ctx' heap')
    (same : slotImage bytes phdrs = slotImage bytes' phdrs) : Replaced ctx heap.bytes ctx' heap'.bytes where
  regions := imaged.regions.trans imaged'.regions.symm
  unshared := imaged.unshared
  unshared' := imaged'.unshared
  buffered := imaged.buffered
  buffered' := imaged'.buffered
  contents := ⟨_, imaged.contents, same ▸ imaged'.contents⟩

theorem SameFile.slotImage {length : Nat} {bytes bytes' : FileBytes} (same : SameFile length bytes bytes')
    {phdrs : List Elf32Phdr} (wellFormed : ∀ phdr ∈ phdrs, phdr.WellFormed length) :
    Urv86t.slotImage bytes phdrs = Urv86t.slotImage bytes' phdrs := by
  funext slot
  unfold Urv86t.slotImage
  cases listed : phdrs[slot.1]? with
  | none => rfl
  | some phdr => exact congrFun (same.imageByte (wellFormed phdr (List.mem_of_getElem? listed))) slot.2

section Loading

variable {alloc : Allocator} {bytes : FileBytes} {length : Nat} {phdrs : List Elf32Phdr} {bss : Elf32Shdr}
  {ctx : ElfContext} {heap heap' : Heap} {segments : List ElfLoadRegion} {heapBase stackBase : Nat}

theorem makes_unplaced (made : List.Forall₂ Elf32Phdr.Makes phdrs segments) :
    segments.map ElfLoadRegion.unplaced = phdrs.map (·.region 0) := by
  induction made with
  | nil => rfl
  | cons first rest ih =>
    obtain ⟨base, rfl⟩ := first
    rw [List.map_cons, List.map_cons, ih]
    rfl

theorem slots_agree {loadRegions : Nat}
    (entries : ctx.loadRegions =
      segments ++ [heapRegion bss.vmaEnd heapBase, stackRegion (bss.vmaEnd + progHeapSize) stackBase])
    (backed : List.Forall₂ (Elf32Phdr.Backed bytes loadRegions heap) phdrs segments)
    (heapZeroed : (heapRegion bss.vmaEnd heapBase).Zeroed heap)
    (stackZeroed : (stackRegion (bss.vmaEnd + progHeapSize) stackBase).Zeroed heap) :
    Agree ctx.slot (slotImage bytes phdrs) heap.bytes := by
  rintro ⟨i, k⟩ ptr found
  obtain ⟨region, listed, inside, rfl⟩ := slot_region found
  rw [entries] at listed
  by_cases segment : i < segments.length
  · rw [List.getElem?_append_left segment, List.getElem?_eq_getElem segment] at listed
    cases listed
    have bound : i < phdrs.length := backed.length_eq.symm ▸ segment
    have holds := backed.get bound segment
    rw [slotImage, List.getElem?_eq_getElem bound]
    refine (holds.content k ?_).symm
    rw [← holds.size]
    exact inside
  · have bound : phdrs.length ≤ i := backed.length_eq ▸ Nat.le_of_not_lt segment
    rw [slotImage, List.getElem?_eq_none bound]
    rw [List.getElem?_append_right (Nat.le_of_not_lt segment)] at listed
    rcases List.mem_pair.mp (List.mem_of_getElem? listed) with rfl | rfl
    · exact (heapZeroed.zero k inside).symm
    · exact (stackZeroed.zero k inside).symm

theorem mainInit_imaged {file : BinaryFile} {disasm : Option Bool} {started : Started} (generous : alloc.Generous)
    (sound : heap.Sound) (fits : ∀ phdr ∈ programHeaders file.bytes (elf32Ehdr file.bytes),
      phdr.Mapped file.nread → phdr.pFilesz.toNat ≤ phdr.pMemsz.toNat)
    (returned : (mainInit alloc (some file) disasm).Returns heap started heap') :
    ∃ bss, bssSection file.bytes (elf32Ehdr file.bytes) = some bss ∧
      Imaged file.bytes ((programHeaders file.bytes (elf32Ehdr file.bytes)).filter (Elf32Phdr.Mapped file.nread)) bss
        started.ctx heap' := by
  obtain ⟨_, mid, loaded, held, ⟨⟩, opened, complete, parsed, emulated, stated, emitted⟩ := mainInit_returns returned
  have accepted := elfInit_accepted emulated parsed
  have enough : sizeofElf32Ehdr ≤ file.nread := Nat.le_of_not_lt fun short => accepted (.inl short)
  have some_byte : 0 < file.fdSize := complete ▸ Nat.lt_of_lt_of_le (by decide) enough
  have midSound := (calloc_some_owns sound some_byte opened).1
  obtain ⟨bss, segments, heapBase, stackBase, loadRegions, found, atBreak, entry, entries, backed, heapZeroed,
    stackZeroed⟩ := elfInit_backed midSound generous emulated fits parsed
  have placed := elfInit_placed midSound generous emulated parsed
  have unshared := elfInit_unshared midSound accepted placed parsed
  have keeps : loaded.Keeps heap' := by
    rcases emitted with ⟨-, rfl⟩ | asm
    · exact calloc_keeps stated
    · exact (calloc_keeps stated).trans (calloc_keeps asm)
  refine ⟨bss, found, ?_, entry, atBreak.sp, unshared, fun region member _ => placed region member, ?_⟩
  · rw [ElfContext.unplaced, entries, List.map_append, makes_unplaced atBreak.made]
    rfl
  · exact slots_agree entries (backed.imp fun _ _ before => before.keep keeps) (heapZeroed.keep keeps)
      (stackZeroed.keep keeps)

end Loading

theorem rvbkptAdd_placed (state : RvState) (mem : ElfContext) (host : Memory Nat) (ev : RvbkptEv) :
    rvbkptAdd (state.placed mem host) ev = (rvbkptAdd state ev).placed mem host := by
  have table : (state.placed mem host).bkptEvArr = state.bkptEvArr := rfl
  unfold rvbkptAdd
  rw [table]
  split <;> rfl

theorem startedState_placed {ctx ctx' : ElfContext} (entry : ctx'.entryPoint = ctx.entryPoint) (sp : ctx'.sp = ctx.sp)
    (host host' : Memory Nat) (evs : List RvbkptEv) :
    startedState ctx' host' evs = (startedState ctx host evs).placed ctx' host' := by
  have added (state : RvState) :
      evs.foldl rvbkptAdd (state.placed ctx' host') = (evs.foldl rvbkptAdd state).placed ctx' host' := by
    induction evs generalizing state with
    | nil => rfl
    | cons ev rest ih => rw [List.foldl_cons, List.foldl_cons, rvbkptAdd_placed, ih]
  have initial : rvstateInit ctx' host' = (rvstateInit ctx host).placed ctx' host' := by
    rw [rvstateInit, rvstateInit, entry, sp]
    rfl
  rw [startedState, initial, added]
  rfl

section Program

variable {alloc alloc' : Allocator} {heap heap' after after' : Heap} {file file' : BinaryFile}
  {disasm disasm' : Option Bool} {started started' : Started}

theorem started_relocated (generous : alloc.Generous) (generous' : alloc'.Generous) (sound : heap.Sound)
    (sound' : heap'.Sound) (wellFormed : WellFormed file.bytes file.nread) (length : file'.nread = file.nread)
    (same : SameFile file.nread file.bytes file'.bytes)
    (returned : (mainInit alloc (some file) disasm).Returns heap started after)
    (returned' : (mainInit alloc' (some file') disasm').Returns heap' started' after') (evs : List RvbkptEv) :
    Relocated (startedState started.ctx after.bytes evs) (startedState started'.ctx after'.bytes evs) := by
  have ehdr := same.ehdr wellFormed.enough
  have headers := same.programHeaders wellFormed.contained
  have section' := same.bssSection wellFormed.contained
  have fits' : ∀ phdr ∈ programHeaders file'.bytes (elf32Ehdr file'.bytes), phdr.Mapped file'.nread →
      phdr.pFilesz.toNat ≤ phdr.pMemsz.toNat := by
    rw [← ehdr, ← headers, length]
    exact wellFormed.fits
  obtain ⟨bss, found, imaged⟩ := mainInit_imaged generous sound wellFormed.fits returned
  obtain ⟨bss', found', imaged'⟩ := mainInit_imaged generous' sound' fits' returned'
  rw [← ehdr, ← section', found] at found'
  obtain rfl := Option.some.inj found'
  rw [← ehdr, ← headers, length] at imaged'
  have shaped : ∀ phdr ∈ (programHeaders file.bytes (elf32Ehdr file.bytes)).filter (Elf32Phdr.Mapped file.nread),
      phdr.WellFormed file.nread := by
    intro phdr listed
    obtain ⟨among, mapped⟩ := List.mem_filter.mp listed
    have isMapped : phdr.Mapped file.nread := of_decide_eq_true mapped
    exact wellFormed.segments phdr among isMapped.1
  have entry : started'.ctx.entryPoint = started.ctx.entryPoint := by
    rw [imaged.entry, imaged'.entry, ehdr]
  have sp : started'.ctx.sp = started.ctx.sp := imaged'.sp.trans imaged.sp.symm
  have moved := startedState_placed entry sp after.bytes after'.bytes evs
  obtain ⟨table, framed⟩ := startedState_frame started.ctx after.bytes evs
  rw [moved]
  refine ⟨rfl, ?_⟩
  rw [framed]
  exact imaged.replaced imaged' (same.slotImage shaped)

theorem main_placement (generous : alloc.Generous) (generous' : alloc'.Generous) (sound : heap.Sound)
    (sound' : heap'.Sound) (wellFormed : WellFormed file.bytes file.nread) (length : file'.nread = file.nread)
    (same : SameFile file.nread file.bytes file'.bytes)
    (returned : (mainInit alloc (some file) disasm).Returns heap started after)
    (returned' : (mainInit alloc' (some file') disasm').Returns heap' started' after') (float : HostFloat)
    (evs : List RvbkptEv) {run run' : List HostCalls} (hosts : List.Forall₂ SameHosts run run')
    (fits : ∀ visit ∈ rvemuVisits float run (startedState started.ctx after.bytes evs),
      FitsAll visit.state.mem visit.state) :
    EndAlike (fun out out' => out.1 = out'.1 ∧ Relocated out.2 out'.2)
      (rvemuSteps float run (startedState started.ctx after.bytes evs))
      (rvemuSteps float run' (startedState started'.ctx after'.bytes evs)) :=
  alike_rvemuSteps float hosts
    (started_relocated generous generous' sound sound' wellFormed length same returned returned' evs) fits

end Program

-- The file again, without zeros behind it.
def exitFileElsewhere : FileBytes := fun off => if off < 177 then exitFile off else 0xff

theorem exitFile_elsewhere : SameFile 177 exitFile exitFileElsewhere := fun k low => by
  have inside : (k : Int) < 177 := by omega
  rw [exitFileElsewhere, if_pos inside]

theorem exitFileElsewhere_started :
    ∃ started after, (mainInit bumpAllocator (some ⟨exitFileElsewhere, 177, 177⟩) none).Returns
      ⟨fun _ => 0xff, [⟨1, 16⟩]⟩ started after := by
  have wellFormed := exitFile_bootable.wellFormed
  have ehdr := exitFile_elsewhere.ehdr wellFormed.enough
  have break' : PlacesBreak exitFileElsewhere := by
    refine ⟨exitBss, ?_, by decide⟩
    rw [← ehdr, ← exitFile_elsewhere.bssSection wellFormed.contained]
    exact exitFile_bootable.found
  have accepted : ¬Refused exitFileElsewhere 177 := by
    rintro (short | unrecognised)
    · exact absurd short (by decide)
    · rw [← ehdr, wellFormed.recognised] at unrecognised
      cases unrecognised
  exact mainInit_completes ⟨exitFileElsewhere, 177, 177⟩ bumpAllocator_generous rfl
    (fun parsed => (elfInit_bp_iff parsed).mpr ⟨accepted, break'⟩) none (by decide) _

theorem oneBlock_sound (bytes : Memory Nat) : Heap.Sound ⟨bytes, [⟨1, 16⟩]⟩ :=
  ⟨List.pairwise_singleton _ _, List.forall_mem_singleton.mpr (by decide), List.forall_mem_singleton.mpr (by decide)⟩

-- The second process has a block on its heap already.
theorem main_placement_exit :
    ∃ started started' after after',
      (mainInit bumpAllocator (some ⟨exitFile, 177, 177⟩) none).Returns ⟨fun _ => 0, []⟩ started after ∧
      (mainInit bumpAllocator (some ⟨exitFileElsewhere, 177, 177⟩) none).Returns ⟨fun _ => 0xff, [⟨1, 16⟩]⟩
        started' after' ∧
      EndAlike (fun out out' => out.1 = out'.1 ∧ Relocated out.2 out'.2)
        (rvemuSteps default [quietCalls, quietCalls] (startedState started.ctx after.bytes [entryBkpt]))
        (rvemuSteps default [quietCalls, quietCalls] (startedState started'.ctx after'.bytes [entryBkpt])) := by
  obtain ⟨started, after, returned⟩ := exitFile_started
  obtain ⟨started', after', returned'⟩ := exitFileElsewhere_started
  have served : ∀ calls ∈ [quietCalls, quietCalls], Presentable calls := by
    intro calls listed
    obtain rfl : calls = quietCalls := by simpa using listed
    exact ⟨quietEnvironment, quiet_presents⟩
  have same : SameHosts quietCalls quietCalls := ⟨quietEnvironment, quiet_presents, quiet_presents⟩
  have fits := main_safe_fits ⟨exitFile, 177, 177⟩ exitFile_bootable bumpAllocator_generous emptyHeap_sound returned
    default [entryBkpt] exitFile_safe (.inl rfl) served
  have alike := @main_placement _ _ _ _ _ _ ⟨exitFile, 177, 177⟩ ⟨exitFileElsewhere, 177, 177⟩ _ _ _ _
    bumpAllocator_generous bumpAllocator_generous emptyHeap_sound (oneBlock_sound _) exitFile_bootable.wellFormed rfl
    exitFile_elsewhere returned returned' default [entryBkpt] _ _ (.cons same (.cons same .nil)) fits
  exact ⟨started, started', after, after', returned, returned', alike⟩

end Urv86t
