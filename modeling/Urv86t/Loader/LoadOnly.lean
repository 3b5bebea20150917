import Urv86t.Loader.Image

set_option autoImplicit false

/-!
# Which headers are mapped

The loader never reads `p_type`: a header is mapped when it takes up memory, whatever it is for.
-/

namespace Urv86t

open Traced Traced.Program

def ptLoad : BitVec 32 := 1

def loadHeaders (bytes : FileBytes) : List Elf32Phdr :=
  (segmentHeaders bytes).filter (·.pType = ptLoad)

def MapsOnlyLoad (bytes : FileBytes) (ctx : ElfContext) : Prop :=
  List.Forall₂ (fun phdr region => region.vmaBase = phdr.pVaddr ∧ region.szReserved = phdr.pMemsz)
    (loadHeaders bytes) (ctx.loadRegions.take (ctx.nrRegions - 2))

section LoadOnly

variable {alloc : Allocator} {bytes : FileBytes} {length : Nat} {ctx : ElfContext} {heap heap' : Heap}

theorem take_segments {segments : List ElfLoadRegion} {heapEntry stackEntry : ElfLoadRegion}
    (entries : ctx.loadRegions = segments ++ [heapEntry, stackEntry]) :
    ctx.loadRegions.take (ctx.nrRegions - 2) = segments := by
  simp [ElfContext.nrRegions, entries]

theorem loadHeaders_eq_iff :
    loadHeaders bytes = segmentHeaders bytes ↔
      ∀ phdr ∈ programHeaders bytes (elf32Ehdr bytes), phdr.pMemsz ≠ 0 → phdr.pType = ptLoad := by
  simp only [loadHeaders, List.filter_eq_self, segmentHeaders, List.mem_filter, decide_eq_true_eq, and_imp]

-- Every header with memory has a region, so none may be missing from the `PT_LOAD` ones.
theorem loadHeaders_eq_of_mapsOnlyLoad (wellFormed : WellFormed bytes length)
    (returned : (elfInit alloc bytes length).Returns heap ctx heap') (corresponds : MapsOnlyLoad bytes ctx) :
    loadHeaders bytes = segmentHeaders bytes := by
  obtain ⟨loadRegions, segments, heapEntry, stackEntry, entries, backed⟩ := wellFormed.returns returned
  have number := corresponds.length_eq.trans (take_segments entries ▸ backed.length_eq.symm)
  exact List.filter_sublist.eq_of_length number

theorem elfInit_mapsOnlyLoad_iff (wellFormed : WellFormed bytes length)
    (returned : (elfInit alloc bytes length).Returns heap ctx heap') :
    MapsOnlyLoad bytes ctx ↔
      ∀ phdr ∈ programHeaders bytes (elf32Ehdr bytes), phdr.pMemsz ≠ 0 → phdr.pType = ptLoad := by
  rw [← loadHeaders_eq_iff]
  constructor
  · exact loadHeaders_eq_of_mapsOnlyLoad wellFormed returned
  · intro same
    obtain ⟨loadRegions, segments, heapEntry, stackEntry, entries, backed⟩ := wellFormed.returns returned
    rw [MapsOnlyLoad, take_segments entries, same]
    exact backed.imp fun _ _ holds => ⟨holds.vma, holds.size⟩

end LoadOnly

theorem elfInit_mapsOnlyLoad_sample :
    ∃ ctx heap', (elfInit bumpAllocator sampleFile 148).Returns ⟨fun _ => 0, []⟩ ctx heap' ∧
      MapsOnlyLoad sampleFile ctx := by
  obtain ⟨ctx, heap', returned⟩ := elfInit_completes bumpAllocator_generous ⟨fun _ => 0, []⟩
  refine ⟨ctx, heap', returned, (elfInit_mapsOnlyLoad_iff sampleFile_wellFormed returned).mpr ?_⟩
  rw [sampleFile_headers]
  decide

-- A note in front of the segment that maps the same bytes.
def noteHeaders : List Elf32Phdr := [⟨4, 16, 0x1010, 16, 16⟩, ⟨1, 0, 0x1000, 64, 64⟩]

def noteFile : FileBytes := fileOf (elfFile 0x1000 0 noteHeaders)

theorem noteFile_headers : programHeaders noteFile (elf32Ehdr noteFile) = noteHeaders := by decide

theorem noteFile_wellFormed : WellFormed noteFile 116 where
  enough := by decide
  recognised := by decide
  contained := {
    strtab := by decide
    sections := fun i inside => absurd inside (Nat.not_lt_zero i)
    segments := by
      have number : (elf32Ehdr noteFile).ePhnum.toNat = 2 := by decide
      rw [number]
      decide }
  segments := by
    rw [noteFile_headers]
    decide

theorem elfInit_maps_note :
    WellFormed noteFile 116 ∧
      ∃ ctx heap', (elfInit bumpAllocator noteFile 116).Returns ⟨fun _ => 0, []⟩ ctx heap' ∧
        ¬MapsOnlyLoad noteFile ctx := by
  obtain ⟨ctx, heap', returned⟩ := elfInit_completes bumpAllocator_generous ⟨fun _ => 0, []⟩
  refine ⟨noteFile_wellFormed, ctx, heap', returned, ?_⟩
  intro corresponds
  have loadsOnly := loadHeaders_eq_iff.mp
    (loadHeaders_eq_of_mapsOnlyLoad noteFile_wellFormed returned corresponds)
  rw [noteFile_headers] at loadsOnly
  exact absurd loadsOnly (by decide)

end Urv86t
