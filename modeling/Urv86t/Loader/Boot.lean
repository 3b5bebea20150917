import Urv86t.Loader.Ownership

set_option autoImplicit false

namespace Urv86t

open ByteMemory Rv32 Traced Traced.Program

/-- A well-formed file whose segments meet neither each other nor the heap and stack behind its `.bss` section. -/
structure Bootable (bytes : FileBytes) (length : Nat) (bss : Elf32Shdr) : Prop where
  wellFormed : WellFormed bytes length
  apart : SegmentsApart (segmentHeaders bytes)
  found : bssSection bytes (elf32Ehdr bytes) = some bss
  bounded : bss.vmaEnd.toNat + progHeapSize.toNat + progStackSize.toNat < 0x100000000
  clear : ∀ phdr ∈ segmentHeaders bytes, phdr.vmaEnd ≤ bss.vmaEnd.toNat ∨
    bss.vmaEnd.toNat + progHeapSize.toNat + progStackSize.toNat ≤ phdr.pVaddr.toNat

def Elf32Phdr.Covers (phdr : Elf32Phdr) (a : Word) : Prop :=
  phdr.pVaddr.toNat ≤ a.toNat ∧ a.toNat < phdr.vmaEnd

instance (phdr : Elf32Phdr) (a : Word) : Decidable (phdr.Covers a) := inferInstanceAs (Decidable (_ ∧ _))

def imageMemory (bytes : FileBytes) : Memory Word := fun a =>
  match (segmentHeaders bytes).find? (·.Covers a) with
  | none => 0
  | some phdr => phdr.imageByte bytes (a.toNat - phdr.pVaddr.toNat)

def BootMapped (bytes : FileBytes) (bss : Elf32Shdr) (a : Word) (len : Nat) : Prop :=
  (∃ phdr ∈ segmentHeaders bytes, phdr.pVaddr.toNat ≤ a.toNat ∧ a.toNat + len ≤ phdr.vmaEnd) ∨
    (bss.vmaEnd.toNat ≤ a.toNat ∧ a.toNat + len ≤ bss.vmaEnd.toNat + progHeapSize.toNat) ∨
      (bss.vmaEnd.toNat + progHeapSize.toNat ≤ a.toNat ∧
        a.toNat + len ≤ bss.vmaEnd.toNat + progHeapSize.toNat + progStackSize.toNat)

structure ElfLoadRegion.Zeroed (heap : Heap) (region : ElfLoadRegion) : Prop where
  nonNull : region.memBase ≠ 0
  live : region.buffer ∈ heap.blocks
  zero : ∀ k < region.szReserved.toNat, heap.bytes (region.memBase + k) = 0

theorem ElfLoadRegion.Zeroed.keep {heap later : Heap} {region : ElfLoadRegion} (zeroed : region.Zeroed heap)
    (keeps : heap.Keeps later) : region.Zeroed later where
  nonNull := zeroed.nonNull
  live := (keeps _ zeroed.live).1
  zero k inside := ((keeps _ zeroed.live).2 k inside).trans (zeroed.zero k inside)

structure Booted (bytes : FileBytes) (bss : Elf32Shdr) (segments : List ElfLoadRegion) (heapBase stackBase : Nat)
    (ctx : ElfContext) (heap : Heap) : Prop where
  entries : ctx.loadRegions =
    segments ++ [heapRegion bss.vmaEnd heapBase, stackRegion (bss.vmaEnd + progHeapSize) stackBase]
  entry : ctx.entryPoint = (elf32Ehdr bytes).eEntry
  sp : ctx.sp = bss.vmaEnd + progHeapSize + progStackSize - 1
  backed : ∃ loadRegions, List.Forall₂ (Elf32Phdr.Backed bytes loadRegions heap) (segmentHeaders bytes) segments
  heapZeroed : (heapRegion bss.vmaEnd heapBase).Zeroed heap
  stackZeroed : (stackRegion (bss.vmaEnd + progHeapSize) stackBase).Zeroed heap
  unshared : ctx.loadRegions.Pairwise ElfLoadRegion.Unshared
  buffered : ctx.Buffered

theorem Booted.keep {bytes : FileBytes} {bss : Elf32Shdr} {segments : List ElfLoadRegion} {heapBase stackBase : Nat}
    {ctx : ElfContext} {heap later : Heap} (booted : Booted bytes bss segments heapBase stackBase ctx heap)
    (keeps : heap.Keeps later) : Booted bytes bss segments heapBase stackBase ctx later where
  entries := booted.entries
  entry := booted.entry
  sp := booted.sp
  backed := by
    obtain ⟨loadRegions, backed⟩ := booted.backed
    exact ⟨loadRegions, backed.imp fun _ _ before => before.keep keeps⟩
  heapZeroed := booted.heapZeroed.keep keeps
  stackZeroed := booted.stackZeroed.keep keeps
  unshared := booted.unshared
  buffered := booted.buffered

section Loading

variable {alloc : Allocator} {bytes : FileBytes} {length : Nat} {ctx : ElfContext} {heap heap' : Heap}

theorem elfInitBreak_zeroed {segments : List ElfLoadRegion} {ctx' : ElfContext} {bssStart bssSize : BitVec 32}
    (generous : alloc.Generous) (entries : ctx.loadRegions = segments ++ [({} : ElfLoadRegion), {}])
    (returned : (elfInitBreak alloc (segments.length + 2) ctx bssStart bssSize).Returns heap ctx' heap') :
    ∃ heapEntry stackEntry, ctx'.loadRegions = segments ++ [heapEntry, stackEntry] ∧
      heapEntry.Zeroed heap' ∧ stackEntry.Zeroed heap' := by
  obtain ⟨_, _, mid, heapCall, stackCall, rfl⟩ := elfInitBreak_steps entries returned
  obtain ⟨heapBase, rfl, heapPlaced, heapLive, heapZero⟩ := calloc_generous generous heapCall
  obtain ⟨stackBase, rfl, stackPlaced, stackLive, stackZero⟩ := calloc_generous generous stackCall
  have zeroed : (heapRegion (bssStart + bssSize) heapBase).Zeroed mid := ⟨heapPlaced, heapLive, heapZero⟩
  exact ⟨_, _, rfl, zeroed.keep (calloc_keeps stackCall), stackPlaced, stackLive, stackZero⟩

theorem elfInit_zeroed (sound : heap.Sound) (generous : alloc.Generous) (emulated : ctx.bp ≠ 0)
    (returned : (elfInit alloc bytes length).Returns heap ctx heap') :
    ∃ segments heapEntry stackEntry, ctx.loadRegions = segments ++ [heapEntry, stackEntry] ∧
      (∀ region ∈ segments, region.memBase ≠ 0) ∧ heapEntry.Zeroed heap' ∧ stackEntry.Zeroed heap' := by
  obtain ⟨elfCtx, mid, picked, rfl, ⟨-, rfl, -⟩ | ⟨-, loaded⟩⟩ := elfInit_steps returned
  · exact absurd rfl emulated
  obtain ⟨segments, _, mid, nonNull, -, -, ⟨-, unset, -⟩ | ⟨bss, ctx', entries, placed⟩⟩ :=
    elfInitLoad_shrunk (sound.add picked (by decide) _) loaded
  · exact absurd unset emulated
  · obtain ⟨heapEntry, stackEntry, regions, zeroed⟩ := elfInitBreak_zeroed generous entries placed
    exact ⟨segments, heapEntry, stackEntry, regions, nonNull, zeroed⟩

theorem elfInit_placed (sound : heap.Sound) (generous : alloc.Generous) (emulated : ctx.bp ≠ 0)
    (returned : (elfInit alloc bytes length).Returns heap ctx heap') :
    ∀ region ∈ ctx.loadRegions, region.memBase ≠ 0 := by
  obtain ⟨segments, heapEntry, stackEntry, regions, nonNull, heapZeroed, stackZeroed⟩ :=
    elfInit_zeroed sound generous emulated returned
  rw [regions]
  exact List.forall_mem_append.mpr ⟨nonNull, List.forall_mem_cons.mpr
    ⟨heapZeroed.nonNull, List.forall_mem_singleton.mpr stackZeroed.nonNull⟩⟩

theorem elfInit_unshared (sound : heap.Sound) (accepted : ¬Refused bytes length)
    (nonNull : ∀ region ∈ ctx.loadRegions, region.memBase ≠ 0)
    (returned : (elfInit alloc bytes length).Returns heap ctx heap') :
    ctx.loadRegions.Pairwise ElfLoadRegion.Unshared := by
  obtain ⟨sound', loadRegions, elfCtx, owned⟩ := elfInit_owns sound accepted returned
  have apart := (List.pairwise_append.mp (owned.pairwise sound'.apart Or.symm)).1
  rw [buffers_nonNull nonNull, List.pairwise_map] at apart
  exact apart

theorem same_entries {segments segments' : List ElfLoadRegion}
    {heapEntry stackEntry heapEntry' stackEntry' : ElfLoadRegion}
    (same : segments ++ [heapEntry, stackEntry] = segments' ++ [heapEntry', stackEntry']) :
    segments = segments' ∧ heapEntry = heapEntry' ∧ stackEntry = stackEntry' := by
  obtain ⟨before, last⟩ := List.append_inj' same rfl
  simp only [List.cons.injEq, and_true] at last
  exact ⟨before, last⟩

theorem elfInit_backed (sound : heap.Sound) (generous : alloc.Generous) (emulated : ctx.bp ≠ 0)
    (fits : ∀ phdr ∈ programHeaders bytes (elf32Ehdr bytes), phdr.Mapped length →
      phdr.pFilesz.toNat ≤ phdr.pMemsz.toNat)
    (returned : (elfInit alloc bytes length).Returns heap ctx heap') :
    ∃ bss segments heapBase stackBase loadRegions, bssSection bytes (elf32Ehdr bytes) = some bss ∧
      BreakAt bytes length bss.vmaEnd segments ctx ∧ ctx.entryPoint = (elf32Ehdr bytes).eEntry ∧
      ctx.loadRegions =
        segments ++ [heapRegion bss.vmaEnd heapBase, stackRegion (bss.vmaEnd + progHeapSize) stackBase] ∧
      List.Forall₂ (Elf32Phdr.Backed bytes loadRegions heap')
        ((programHeaders bytes (elf32Ehdr bytes)).filter (Elf32Phdr.Mapped length)) segments ∧
      (heapRegion bss.vmaEnd heapBase).Zeroed heap' ∧
      (stackRegion (bss.vmaEnd + progHeapSize) stackBase).Zeroed heap' := by
  obtain ⟨bss, segments, found, atBreak⟩ := elfInit_emulated returned emulated
  obtain ⟨heapBase, stackBase, regions⟩ := atBreak.regions
  rcases elfInit_cases returned with ⟨refused, -⟩ | ⟨-, mid, loaded⟩
  · exact absurd refused (elfInit_accepted emulated returned)
  obtain ⟨loadRegions, _, _, _, entries, entry, backed⟩ := elfInitLoad_returns fits loaded
  obtain ⟨rfl, rfl, rfl⟩ := same_entries (entries.symm.trans regions)
  obtain ⟨_, _, _, regions', -, heapZeroed, stackZeroed⟩ := elfInit_zeroed sound generous emulated returned
  obtain ⟨rfl, rfl, rfl⟩ := same_entries (regions.symm.trans regions')
  exact ⟨bss, _, heapBase, stackBase, loadRegions, found, atBreak, entry, regions, backed, heapZeroed, stackZeroed⟩

end Loading

section Booting

variable {alloc : Allocator} {bytes : FileBytes} {length : Nat} {bss : Elf32Shdr} {heap : Heap}

theorem Bootable.atBreak (bootable : Bootable bytes length bss) {ctx : ElfContext} {heap' : Heap}
    (returned : (elfInit alloc bytes length).Returns heap ctx heap') :
    ctx.bp ≠ 0 ∧ ∃ segments, BreakAt bytes length bss.vmaEnd segments ctx := by
  have wellFormed := bootable.wellFormed
  have bounded := bootable.bounded
  have heapSize : progHeapSize.toNat = 0x100000 := rfl
  obtain ⟨mid, loaded⟩ := elfInit_returns wellFormed.enough wellFormed.recognised returned
  rcases elfInitLoad_break loaded with ⟨missing, -⟩ | ⟨bss', segments, found, atBreak⟩
  · rw [bootable.found] at missing
    cases missing
  obtain rfl := Option.some.inj (bootable.found.symm.trans found)
  refine ⟨fun unset => ?_, segments, atBreak⟩
  have zero := congrArg BitVec.toNat (atBreak.bp.symm.trans unset)
  rw [stackVma_toNat (Nat.le_of_lt bounded), heapSize] at zero
  exact absurd zero (Nat.ne_of_gt (Nat.add_pos_right _ (by decide)))

theorem WellFormed.fits (wellFormed : WellFormed bytes length) :
    ∀ phdr ∈ programHeaders bytes (elf32Ehdr bytes), phdr.Mapped length → phdr.pFilesz.toNat ≤ phdr.pMemsz.toNat :=
  fun phdr member mapped => (wellFormed.segments phdr member mapped.1).fits

theorem Bootable.boots (bootable : Bootable bytes length bss) (generous : alloc.Generous) (sound : heap.Sound)
    {ctx : ElfContext} {heap' : Heap} (returned : (elfInit alloc bytes length).Returns heap ctx heap') :
    ∃ segments heapBase stackBase, Booted bytes bss segments heapBase stackBase ctx heap' := by
  have wellFormed := bootable.wellFormed
  obtain ⟨emulated, -⟩ := bootable.atBreak returned
  obtain ⟨bss', segments, heapBase, stackBase, loadRegions, found, atBreak, entry, regions, backed, heapZeroed,
    stackZeroed⟩ := elfInit_backed sound generous emulated wellFormed.fits returned
  obtain rfl := Option.some.inj (bootable.found.symm.trans found)
  rw [wellFormed.mapped_eq] at backed
  have placed := elfInit_placed sound generous emulated returned
  exact ⟨segments, heapBase, stackBase, regions, entry, atBreak.sp, ⟨loadRegions, backed⟩, heapZeroed, stackZeroed,
    elfInit_unshared sound (elfInit_accepted emulated returned) placed returned,
    fun region member _ => placed region member⟩

theorem Bootable.started {file : BinaryFile} (bootable : Bootable file.bytes file.nread bss)
    (generous : alloc.Generous) (sound : heap.Sound) {disasm : Option Bool} {started : Started} {heap' : Heap}
    (returned : (mainInit alloc (some file) disasm).Returns heap started heap') :
    ∃ segments heapBase stackBase, Booted file.bytes bss segments heapBase stackBase started.ctx heap' := by
  obtain ⟨_, mid, loaded, held, ⟨⟩, opened, complete, parsed, -, stated, emitted⟩ := mainInit_returns returned
  have some_byte : 0 < file.fdSize := complete ▸ Nat.lt_of_lt_of_le (by decide) bootable.wellFormed.enough
  have midSound := (calloc_some_owns sound some_byte opened).1
  obtain ⟨segments, heapBase, stackBase, booted⟩ := bootable.boots generous midSound parsed
  have inHeld := booted.keep (calloc_keeps stated)
  refine ⟨segments, heapBase, stackBase, ?_⟩
  rcases emitted with ⟨-, rfl⟩ | asm
  · exact inHeld
  · exact inHeld.keep (calloc_keeps asm)

theorem mainInit_buffers (generous : alloc.Generous) (sound : heap.Sound) {file : Option BinaryFile}
    {disasm : Option Bool} {started : Started} {heap' : Heap}
    (returned : (mainInit alloc file disasm).Returns heap started heap') :
    heap'.Sound ∧ ∀ region ∈ started.ctx.loadRegions, region.buffer ∈ heap'.blocks := by
  obtain ⟨sound', loadRegions, elfCtx, fdSize, owned⟩ := mainInit_owns sound returned
  obtain ⟨binary, mid, loaded, held, -, opened, complete, parsed, emulated, -⟩ := mainInit_returns returned
  have enough : sizeofElf32Ehdr ≤ binary.nread :=
    Nat.le_of_not_lt fun short => elfInit_accepted emulated parsed (.inl short)
  have some_byte : 0 < binary.fdSize := Nat.lt_of_lt_of_le (by decide) (complete ▸ enough)
  have placed := elfInit_placed (calloc_some_owns sound some_byte opened).1 generous emulated parsed
  refine ⟨sound', fun region member => owned.symm.subset ?_⟩
  rw [buffers_nonNull placed]
  have listed : region.buffer ∈ started.ctx.loadRegions.map ElfLoadRegion.buffer := List.mem_map_of_mem member
  simp [listed]

section Booted

variable {segments : List ElfLoadRegion} {heapBase stackBase : Nat} {ctx : ElfContext}

theorem Bootable.stackVma (bootable : Bootable bytes length bss) :
    (bss.vmaEnd + progHeapSize).toNat = bss.vmaEnd.toNat + progHeapSize.toNat :=
  stackVma_toNat (Nat.le_of_lt bootable.bounded)

theorem Booted.segment (booted : Booted bytes bss segments heapBase stackBase ctx heap) {region : ElfLoadRegion}
    (among : region ∈ segments) : ∃ phdr ∈ segmentHeaders bytes, region.vmaBase = phdr.pVaddr ∧
      region.vmaEnd = phdr.vmaEnd ∧ region.tag = some "LOAD" ∧
        ∀ k < phdr.pMemsz.toNat, heap.bytes (region.memBase + k) = phdr.imageByte bytes k := by
  obtain ⟨loadRegions, backed⟩ := booted.backed
  obtain ⟨phdr, member, holds⟩ := related_exists backed.flip among
  exact ⟨phdr, member, holds.vma, holds.vmaEnd, holds.tag, holds.content⟩

theorem Booted.separated (booted : Booted bytes bss segments heapBase stackBase ctx heap)
    (bootable : Bootable bytes length bss) : ctx.Separated := by
  have bounded := bootable.bounded
  have stackVma := bootable.stackVma
  have heapSize : progHeapSize.toNat = 0x100000 := rfl
  have stackSize : progStackSize.toNat = 0x100000 := rfl
  obtain ⟨loadRegions, backed⟩ := booted.backed
  refine ⟨?_, ?_, booted.unshared, booted.buffered⟩
  · rw [booted.entries]
    intro region member
    rcases List.mem_append.mp member with among | last
    · obtain ⟨phdr, listed, -, same, -⟩ := booted.segment among
      rw [same]
      exact bootable.apart.bounded phdr listed
    · simp only [List.mem_cons, List.not_mem_nil, or_false] at last
      rcases last with rfl | rfl
      · simp only [heapRegion, ElfLoadRegion.vmaEnd]
        omega
      · simp only [stackRegion, ElfLoadRegion.vmaEnd]
        omega
  · rw [booted.entries]
    refine List.pairwise_append.mpr ⟨backed_disjoint backed bootable.apart.disjoint, ?_, ?_⟩
    · simp only [List.pairwise_cons, List.mem_singleton, forall_eq, List.not_mem_nil, false_implies, implies_true,
        List.Pairwise.nil, and_true]
      left
      exact stackVma.ge
    · intro region among last member
      obtain ⟨phdr, listed, base, same, -⟩ := booted.segment among
      have clear := bootable.clear phdr listed
      rw [← same, ← base] at clear
      simp only [List.mem_cons, List.not_mem_nil, or_false] at member
      rcases member with rfl | rfl
      · simp only [ElfLoadRegion.Disjoint, heapRegion, ElfLoadRegion.vmaEnd] at clear ⊢
        omega
      · simp only [ElfLoadRegion.Disjoint, stackRegion, ElfLoadRegion.vmaEnd] at clear ⊢
        omega

theorem imageMemory_covered (apart : SegmentsApart (segmentHeaders bytes)) {phdr : Elf32Phdr}
    (member : phdr ∈ segmentHeaders bytes) {a : Word} (covers : phdr.Covers a) :
    imageMemory bytes a = phdr.imageByte bytes (a.toNat - phdr.pVaddr.toNat) := by
  have found : (segmentHeaders bytes).find? (·.Covers a) = some phdr := by
    refine find_eq_of_apart (apart.disjoint.imp ?_) member (decide_eq_true covers)
    rintro first second disjoint ⟨covers, covers'⟩
    have inside := of_decide_eq_true covers
    have inside' := of_decide_eq_true covers'
    unfold Elf32Phdr.Covers at inside inside'
    unfold Elf32Phdr.Disjoint at disjoint
    omega
  rw [imageMemory, found]

theorem imageMemory_uncovered {a : Word} (outside : ∀ phdr ∈ segmentHeaders bytes, ¬phdr.Covers a) :
    imageMemory bytes a = 0 := by
  have missed : (segmentHeaders bytes).find? (·.Covers a) = none := by
    apply List.find?_eq_none.mpr
    intro phdr member
    exact fun covers => outside phdr member (of_decide_eq_true covers)
  rw [imageMemory, missed]

theorem Bootable.uncovered (bootable : Bootable bytes length bss) {a : Word}
    (low : bss.vmaEnd.toNat ≤ a.toNat)
    (high : a.toNat < bss.vmaEnd.toNat + progHeapSize.toNat + progStackSize.toNat) : imageMemory bytes a = 0 := by
  apply imageMemory_uncovered
  intro phdr member covers
  have clear := bootable.clear phdr member
  unfold Elf32Phdr.Covers at covers
  omega

theorem Booted.image (booted : Booted bytes bss segments heapBase stackBase ctx heap)
    (bootable : Bootable bytes length bss) : Agree (elfVmaToMem ctx) (imageMemory bytes) heap.bytes := by
  have stackVma := bootable.stackVma
  intro a ptr found
  obtain ⟨region, -, member, hit, rfl⟩ := ElfContext.elfVmaToMem_selected found
  obtain ⟨low, high, -⟩ := ElfLoadRegion.hit_bounds hit
  rw [booted.entries] at member
  rcases List.mem_append.mp member with among | last
  · obtain ⟨phdr, listed, base, same, -, content⟩ := booted.segment among
    rw [base] at low ⊢
    rw [same] at high
    rw [imageMemory_covered bootable.apart listed ⟨low, high⟩]
    refine (content _ ?_).symm
    unfold Elf32Phdr.vmaEnd at high
    omega
  · simp only [List.mem_cons, List.not_mem_nil, or_false] at last
    rcases last with rfl | rfl
    · simp only [heapRegion, ElfLoadRegion.vmaEnd] at low high
      rw [bootable.uncovered low (by omega)]
      refine (booted.heapZeroed.zero _ ?_).symm
      simp only [heapRegion]
      omega
    · simp only [stackRegion, ElfLoadRegion.vmaEnd] at low high
      rw [bootable.uncovered (by omega) (by omega)]
      refine (booted.stackZeroed.zero _ ?_).symm
      simp only [stackRegion]
      omega

theorem Booted.within (booted : Booted bytes bss segments heapBase stackBase ctx heap)
    (bootable : Bootable bytes length bss) {a : Word} {len : Nat} (mapped : BootMapped bytes bss a len) :
    ctx.Within a len := by
  have stackVma := bootable.stackVma
  rw [ElfContext.Within, booted.entries]
  rcases mapped with ⟨phdr, member, low, high⟩ | ⟨low, high⟩ | ⟨low, high⟩
  · obtain ⟨loadRegions, backed⟩ := booted.backed
    obtain ⟨region, among, holds⟩ := related_exists backed member
    refine ⟨region, List.mem_append_left _ among, ?_, ?_⟩
    · rw [holds.vma]
      exact low
    · rw [holds.vmaEnd]
      exact high
  · exact ⟨heapRegion bss.vmaEnd heapBase, by simp, low, high⟩
  · refine ⟨stackRegion (bss.vmaEnd + progHeapSize) stackBase, by simp, ?_, ?_⟩
    · simp only [stackRegion]
      omega
    · simp only [stackRegion, ElfLoadRegion.vmaEnd]
      omega

end Booted

end Booting

instance (bytes : FileBytes) (length off : Nat) : Decidable (NameContained bytes length off) :=
  inferInstanceAs (Decidable (∀ k < bssName.length, (∀ j < k, _) → _))

instance (bytes : FileBytes) (length strtab shEnt : Nat) : Decidable (SectionContained bytes length strtab shEnt) :=
  inferInstanceAs (Decidable (_ ∧ (_ → _ ∧ (_ → _))))

-- Code behind the string table of a file with a `.bss` section: `li a7, 93` and `ecall`.
def exitFile : FileBytes :=
  fileOf ((elfFile 0x1000 84 [⟨1, 169, 0x1000, 8, 32⟩]).set 48 2 ++ Elf32Shdr.file ⟨0, 0, 5⟩ 164 ++
    Elf32Shdr.file ⟨0, 0x2000, 64⟩ 0 ++ bssName ++ littleEndian 4 0x05d00893 ++ littleEndian 4 0x00000073)

theorem exitFile_headers : programHeaders exitFile (elf32Ehdr exitFile) = [⟨1, 169, 0x1000, 8, 32⟩] := by decide

def exitBss : Elf32Shdr := ⟨0, 0x2000, 64⟩

theorem exitFile_bootable : Bootable exitFile 177 exitBss where
  wellFormed := {
    enough := by decide
    recognised := by decide
    contained := {
      strtab := by decide
      sections := by
        have number : (elf32Ehdr exitFile).eShnum.toNat = 2 := by decide
        rw [number]
        decide
      segments := by
        have number : (elf32Ehdr exitFile).ePhnum.toNat = 1 := by decide
        rw [number]
        decide }
    segments := by
      rw [exitFile_headers]
      decide }
  apart := by
    rw [segmentHeaders, exitFile_headers]
    exact ⟨by decide, by decide⟩
  found := by decide
  bounded := by decide
  clear := by
    rw [segmentHeaders, exitFile_headers]
    decide

theorem emptyHeap_sound : Heap.Sound ⟨fun _ => 0, []⟩ := ⟨.nil, by simp, by simp⟩

theorem exitFile_started :
    ∃ started heap', (mainInit bumpAllocator (some ⟨exitFile, 177, 177⟩) none).Returns ⟨fun _ => 0, []⟩ started heap' :=
  mainInit_completes ⟨exitFile, 177, 177⟩ bumpAllocator_generous rfl
    (fun parsed => (exitFile_bootable.atBreak parsed).1) none (by decide) ⟨fun _ => 0, []⟩

end Urv86t
