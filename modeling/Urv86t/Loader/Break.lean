import Urv86t.Loader.Image

set_option autoImplicit false

namespace Urv86t

open ByteMemory Rv32 Traced Traced.Program

structure Elf32Shdr where
  shName : BitVec 32
  shAddr : BitVec 32
  shSize : BitVec 32
  deriving DecidableEq

def elf32Shdr (bytes : FileBytes) (shEnt : Int) : Elf32Shdr where
  shName := wordAt bytes shEnt
  shAddr := wordAt bytes (shEnt + 12)
  shSize := wordAt bytes (shEnt + 20)

def sectionHeaders (bytes : FileBytes) (ehdr : Elf32Ehdr) : List Elf32Shdr :=
  (List.range ehdr.eShnum.toNat).map fun shIdx => elf32Shdr bytes (shEntAt ehdr shIdx)

instance decidableNameIs (bytes : FileBytes) (off : Int) :
    (name : List (BitVec 8)) → Decidable (nameIs bytes off name)
  | [] => inferInstanceAs (Decidable True)
  | _ :: rest =>
    have := decidableNameIs bytes (off + 1) rest
    inferInstanceAs (Decidable (_ ∧ _))

def Elf32Shdr.IsBss (bytes : FileBytes) (strtab : Int) (shdr : Elf32Shdr) : Prop :=
  shdr.shAddr ≠ 0 ∧ nameIs bytes (strtab + shdr.shName.toNat) bssName

instance (bytes : FileBytes) (strtab : Int) : DecidablePred (Elf32Shdr.IsBss bytes strtab) := fun _ =>
  inferInstanceAs (Decidable (_ ∧ _))

def lastBss (bytes : FileBytes) (strtab : Int) (shdrs : List Elf32Shdr) : Option Elf32Shdr :=
  (shdrs.filter (Elf32Shdr.IsBss bytes strtab)).getLast?

/-- Of several sections with the name the last one counts. -/
def bssSection (bytes : FileBytes) (ehdr : Elf32Ehdr) : Option Elf32Shdr :=
  lastBss bytes (shOffsetOf bytes ehdr) (sectionHeaders bytes ehdr)

-- The initial values of `bss_start` and `bss_size` stay without such a section.
def bssRange : Option Elf32Shdr → BitVec 32 × BitVec 32
  | none => (0, 0)
  | some shdr => (shdr.shAddr, shdr.shSize)

def Elf32Shdr.vmaEnd (shdr : Elf32Shdr) : BitVec 32 := shdr.shAddr + shdr.shSize

theorem lastBss_append {bytes : FileBytes} {strtab : Int} (shdrs : List Elf32Shdr) (shdr : Elf32Shdr) :
    lastBss bytes strtab (shdrs ++ [shdr]) =
      if shdr.IsBss bytes strtab then some shdr else lastBss bytes strtab shdrs := by
  by_cases named : shdr.IsBss bytes strtab <;> simp [lastBss, named]

theorem lastBss_placed {bytes : FileBytes} {strtab : Int} {shdrs : List Elf32Shdr} {shdr : Elf32Shdr}
    (found : lastBss bytes strtab shdrs = some shdr) : shdr.shAddr ≠ 0 := by
  have member := List.mem_of_getLast? found
  exact (of_decide_eq_true (List.mem_filter.mp member).2).1

section Sections

variable {bytes : FileBytes} {ehdr : Elf32Ehdr} {strtab : Int} {heap heap' : Heap}

theorem elfInitSection_returns {shIdx : Nat} {bss bss' : BitVec 32 × BitVec 32}
    (returned : (elfInitSection bytes ehdr strtab shIdx bss).Returns heap bss' heap') :
    bss' =
      if (elf32Shdr bytes (shEntAt ehdr shIdx)).IsBss bytes strtab then
        bssRange (some (elf32Shdr bytes (shEntAt ehdr shIdx)))
      else bss := by
  rw [elfInitSection, readWord_bind_returns] at returned
  by_cases unplaced : wordAt bytes (shEntAt ehdr shIdx + 12) = 0
  · rw [if_pos unplaced] at returned
    rw [if_neg fun named => named.1 unplaced]
    exact ((returns_pure _ _ _ _).mp returned).1.symm
  · rw [if_neg unplaced, readWord_bind_returns, returns_bind] at returned
    obtain ⟨isBss, mid, compared, returned⟩ := returned
    have named := (strcmpEq_returns _ _ compared).2
    by_cases isNamed : isBss = true
    · rw [if_pos isNamed, readWord_bind_returns] at returned
      rw [if_pos ⟨unplaced, named.mp isNamed⟩]
      exact ((returns_pure _ _ _ _).mp returned).1.symm
    · rw [if_neg isNamed] at returned
      rw [if_neg fun holds => isNamed (named.mpr holds.2)]
      exact ((returns_pure _ _ _ _).mp returned).1.symm

theorem elfInitSections_returns {indices : List Nat} {bss : BitVec 32 × BitVec 32}
    (returned : (each (elfInitSection bytes ehdr strtab) indices (0, 0)).Returns heap bss heap') :
    bss = bssRange (lastBss bytes strtab (indices.map fun shIdx => elf32Shdr bytes (shEntAt ehdr shIdx))) := by
  apply returns_each_done (fun done bss _ =>
    bss = bssRange (lastBss bytes strtab (done.map fun shIdx => elf32Shdr bytes (shEntAt ehdr shIdx)))) _
      rfl returned
  intro done shIdx bss heap bss' heap' _ _ holds ran
  rw [List.map_append, List.map_singleton, lastBss_append, apply_ite bssRange, ← holds]
  exact elfInitSection_returns ran

end Sections

def Elf32Phdr.Makes (phdr : Elf32Phdr) (region : ElfLoadRegion) : Prop := ∃ base, region = phdr.region base

def Tabled (count : Nat) (mapped : List Elf32Phdr) (table : ElfTable) : Prop :=
  ∃ segments, table.phCount = segments.length + 2 ∧
    table.regions = segments ++ List.replicate (count - segments.length) ({} : ElfLoadRegion) ∧
    List.Forall₂ Elf32Phdr.Makes mapped segments

theorem Tabled.addSegment {count : Nat} {mapped : List Elf32Phdr} {table : ElfTable}
    (tabled : Tabled count mapped table) (room : mapped.length < count) (phdr : Elf32Phdr) (base : Nat) :
    Tabled count (mapped ++ [phdr]) (table.addSegment phdr base) := by
  obtain ⟨segments, number, entries, made⟩ := tabled
  rw [made.length_eq] at room
  refine ⟨segments ++ [phdr.region base], ?_, ElfTable.addSegment_regions phdr base number entries room, ?_⟩
  · simp [ElfTable.addSegment, number]
  · exact List.rel_append made (.cons ⟨base, rfl⟩ .nil)

structure BreakAt (bytes : FileBytes) (length : Nat) (heapVma : BitVec 32) (segments : List ElfLoadRegion)
    (ctx : ElfContext) : Prop where
  made : List.Forall₂ Elf32Phdr.Makes
    ((programHeaders bytes (elf32Ehdr bytes)).filter (Elf32Phdr.Mapped length)) segments
  regions : ∃ heapBase stackBase, ctx.loadRegions =
    segments ++ [heapRegion heapVma heapBase, stackRegion (heapVma + progHeapSize) stackBase]
  bp : ctx.bp = heapVma + progHeapSize
  sp : ctx.sp = heapVma + progHeapSize + progStackSize - 1

section Placed

variable {alloc : Allocator} {bytes : FileBytes} {length : Nat} {ctx : ElfContext} {heap heap' : Heap}

theorem elfInitSegments_tabled {ehdr : Elf32Ehdr} {count : Nat} {indices : List Nat} {table : ElfTable}
    (room : indices.length ≤ count)
    (returned : (each (elfInitSegment alloc bytes length ehdr count) indices
      ⟨2, List.replicate count {}⟩).Returns heap table heap') :
    Tabled count (mappedHeaders bytes length ehdr indices) table := by
  have initial : Tabled count [] ⟨2, List.replicate count {}⟩ := ⟨[], rfl, rfl, .nil⟩
  apply elfInitSegments_returns (fun mapped table _ => Tabled count mapped table) _ initial returned
  intro mapped table heap phIdx base _ number _ _ tabled
  exact tabled.addSegment (by omega) _ base

theorem elfInitLoad_break
    (returned : (elfInitLoad alloc bytes length (elf32Ehdr bytes)).Returns heap ctx heap') :
    bssSection bytes (elf32Ehdr bytes) = none ∧ ctx.bp = 0 ∨
      ∃ bss segments, bssSection bytes (elf32Ehdr bytes) = some bss ∧
        BreakAt bytes length bss.vmaEnd segments ctx := by
  obtain ⟨bss, _, table, _, _, _, _, _, _, sections, looped, -, finished⟩ := elfInitLoad_parts returned
  have range : bss = bssRange (bssSection bytes (elf32Ehdr bytes)) := elfInitSections_returns sections
  have tabled := elfInitSegments_tabled (by simp) looped
  cases found : bssSection bytes (elf32Ehdr bytes) with
  | none =>
    rw [found] at range
    rcases finished with ⟨-, rfl, -⟩ | ⟨placed, -⟩
    · exact .inl ⟨rfl, rfl⟩
    · exact absurd (congrArg Prod.fst range) placed
  | some shdr =>
    rw [found] at range
    obtain ⟨segments, number, entries, made⟩ := tabled
    have bound := mappedHeaders_length bytes length (elf32Ehdr bytes)
      (List.range (elf32Ehdr bytes).ePhnum.toNat)
    rw [made.length_eq, List.length_range] at bound
    have taken := take_entries number bound entries
    rcases finished with ⟨unplaced, -, -⟩ | ⟨-, placed⟩
    · rw [range] at unplaced
      exact absurd unplaced (lastBss_placed found)
    · rw [number, range] at placed
      obtain ⟨-, heapBase, stackBase, rfl⟩ := elfInitBreak_returns taken placed
      exact .inr ⟨shdr, segments, rfl, made, ⟨heapBase, stackBase, rfl⟩, rfl, rfl⟩

theorem elfInit_emulated (returned : (elfInit alloc bytes length).Returns heap ctx heap')
    (emulated : ctx.bp ≠ 0) :
    ∃ bss segments, bssSection bytes (elf32Ehdr bytes) = some bss ∧
      BreakAt bytes length bss.vmaEnd segments ctx := by
  rcases elfInit_cases returned with ⟨-, rfl⟩ | ⟨-, mid, loaded⟩
  · exact absurd rfl emulated
  · rcases elfInitLoad_break loaded with ⟨-, unset⟩ | placed
    · exact absurd unset emulated
    · exact placed

end Placed

def ElfContext.segments (ctx : ElfContext) : List ElfLoadRegion := ctx.loadRegions.take (ctx.nrRegions - 2)

def ElfContext.heapEntry (ctx : ElfContext) : ElfLoadRegion := ctx.loadRegions.getD (ctx.nrRegions - 2) {}

def ElfContext.stackEntry (ctx : ElfContext) : ElfLoadRegion := ctx.loadRegions.getD (ctx.nrRegions - 1) {}

/--
Heap and stack meet neither each other nor a segment, and do not wrap: as in `ElfContext.Apart`, a range that ends
at 2^32 does not.
-/
structure ElfContext.Clear (ctx : ElfContext) : Prop where
  heapSize : ctx.heapEntry.szReserved = progHeapSize
  stackSize : ctx.stackEntry.szReserved = progStackSize
  heapBounded : ctx.heapEntry.vmaEnd ≤ 0x100000000
  stackBounded : ctx.stackEntry.vmaEnd ≤ 0x100000000
  apart : ctx.heapEntry.Disjoint ctx.stackEntry
  segments : ∀ region ∈ ctx.segments, region.Disjoint ctx.heapEntry ∧ region.Disjoint ctx.stackEntry

def ElfContext.StackReady (ctx : ElfContext) (sp : BitVec 32) : Prop :=
  4 ∣ sp.toNat ∧ ∀ k < 4,
    ctx.stackEntry.vmaBase.toNat ≤ (byteAddr sp k).toNat ∧ (byteAddr sp k).toNat < ctx.stackEntry.vmaEnd

def InitialLayout (ctx : ElfContext) (state : RvState) : Prop := ctx.Clear ∧ ctx.StackReady (state.regs 2)

section Layout

variable {bytes : FileBytes} {length : Nat} {heapVma : BitVec 32} {segments : List ElfLoadRegion}
  {ctx : ElfContext}

theorem BreakAt.entries (atBreak : BreakAt bytes length heapVma segments ctx) :
    ∃ heapBase stackBase, ctx.segments = segments ∧ ctx.heapEntry = heapRegion heapVma heapBase ∧
      ctx.stackEntry = stackRegion (heapVma + progHeapSize) stackBase := by
  obtain ⟨heapBase, stackBase, regions⟩ := atBreak.regions
  refine ⟨heapBase, stackBase, ?_, ?_, ?_⟩
  · simp [ElfContext.segments, ElfContext.nrRegions, regions]
  · simp [ElfContext.heapEntry, ElfContext.nrRegions, regions]
  · simp [ElfContext.stackEntry, ElfContext.nrRegions, regions]

-- The address behind the stack is none of the stack's, even if the sum wraps.
theorem stackEnd_outside (stackVma : BitVec 32) :
    ¬(stackVma.toNat ≤ (stackVma + progStackSize).toNat ∧
      (stackVma + progStackSize).toNat < stackVma.toNat + progStackSize.toNat) := by
  have size : progStackSize.toNat = 0x100000 := rfl
  rw [BitVec.toNat_add, size]
  omega

theorem BreakAt.not_stackReady (atBreak : BreakAt bytes length heapVma segments ctx) :
    ¬ctx.StackReady ctx.sp := by
  obtain ⟨heapBase, stackBase, -, -, stack⟩ := atBreak.entries
  have next : byteAddr ctx.sp 1 = heapVma + progHeapSize + progStackSize := by
    rw [atBreak.sp]
    exact BitVec.sub_add_cancel _ _
  rintro ⟨-, inside⟩
  have second := inside 1 (by decide)
  rw [next, stack] at second
  exact stackEnd_outside (heapVma + progHeapSize) second

-- At 0 the stack would start behind a heap that ends exactly at the top of the address space.
theorem heapStack_bounded_iff {heapVma : BitVec 32} (nonzero : heapVma + progHeapSize ≠ 0)
    (heapBase stackBase : Nat) :
    (heapRegion heapVma heapBase).vmaEnd ≤ 0x100000000 ∧
        (stackRegion (heapVma + progHeapSize) stackBase).vmaEnd ≤ 0x100000000 ↔
      heapVma.toNat + progHeapSize.toNat + progStackSize.toNat ≤ 0x100000000 := by
  have heapSize : progHeapSize.toNat = 0x100000 := rfl
  have stackSize : progStackSize.toNat = 0x100000 := rfl
  have low := heapVma.isLt
  have start : (heapVma + progHeapSize).toNat ≠ 0 := fun zero => nonzero (BitVec.eq_of_toNat_eq zero)
  simp only [heapRegion, stackRegion, ElfLoadRegion.vmaEnd]
  rw [BitVec.toNat_add, heapSize] at start
  rw [BitVec.toNat_add, heapSize, stackSize]
  omega

theorem stackVma_toNat {heapVma : BitVec 32}
    (bounded : heapVma.toNat + progHeapSize.toNat + progStackSize.toNat ≤ 0x100000000) :
    (heapVma + progHeapSize).toNat = heapVma.toNat + progHeapSize.toNat := by
  have stackSize : progStackSize.toNat = 0x100000 := rfl
  rw [BitVec.toNat_add]
  omega

theorem Elf32Phdr.region_clear_iff {phdr : Elf32Phdr} (placed : phdr.pMemsz ≠ 0) {heapVma : BitVec 32}
    (bounded : heapVma.toNat + progHeapSize.toNat + progStackSize.toNat ≤ 0x100000000)
    (base heapBase stackBase : Nat) :
    (phdr.region base).Disjoint (heapRegion heapVma heapBase) ∧
        (phdr.region base).Disjoint (stackRegion (heapVma + progHeapSize) stackBase) ↔
      phdr.vmaEnd ≤ heapVma.toNat ∨
        heapVma.toNat + progHeapSize.toNat + progStackSize.toNat ≤ phdr.pVaddr.toNat := by
  have some_byte : 0 < phdr.pMemsz.toNat :=
    Nat.pos_of_ne_zero fun zero => placed (BitVec.eq_of_toNat_eq zero)
  have stackVma := stackVma_toNat bounded
  simp only [heapRegion, stackRegion, Elf32Phdr.region, Elf32Phdr.vmaEnd, ElfLoadRegion.Disjoint,
    ElfLoadRegion.vmaEnd]
  omega

theorem BreakAt.clear_iff (atBreak : BreakAt bytes length heapVma segments ctx) (emulated : ctx.bp ≠ 0) :
    ctx.Clear ↔ heapVma.toNat + progHeapSize.toNat + progStackSize.toNat ≤ 0x100000000 ∧
      ∀ phdr ∈ programHeaders bytes (elf32Ehdr bytes), phdr.Mapped length →
        phdr.vmaEnd ≤ heapVma.toNat ∨
          heapVma.toNat + progHeapSize.toNat + progStackSize.toNat ≤ phdr.pVaddr.toNat := by
  obtain ⟨heapBase, stackBase, loaded, atHeap, atStack⟩ := atBreak.entries
  rw [atBreak.bp] at emulated
  have bounded_iff := heapStack_bounded_iff emulated heapBase stackBase
  constructor
  · intro clear
    have bounded := bounded_iff.mp ⟨atHeap ▸ clear.heapBounded, atStack ▸ clear.stackBounded⟩
    refine ⟨bounded, ?_⟩
    intro phdr listed mapped
    obtain ⟨region, member, base, rfl⟩ :=
      related_exists atBreak.made (List.mem_filter.mpr ⟨listed, decide_eq_true mapped⟩)
    have apart := clear.segments _ (loaded ▸ member)
    rw [atHeap, atStack] at apart
    exact (Elf32Phdr.region_clear_iff mapped.1 bounded base heapBase stackBase).mp apart
  · rintro ⟨bounded, outside⟩
    obtain ⟨heapBounded, stackBounded⟩ := bounded_iff.mpr bounded
    refine ⟨by rw [atHeap]; rfl, by rw [atStack]; rfl, ?_, ?_, ?_, ?_⟩
    · rw [atHeap]
      exact heapBounded
    · rw [atStack]
      exact stackBounded
    · rw [atHeap, atStack]
      exact .inl (stackVma_toNat bounded).ge
    · intro region member
      obtain ⟨phdr, filtered, base, rfl⟩ := related_exists atBreak.made.flip (loaded ▸ member)
      obtain ⟨listed, mapped⟩ := List.mem_filter.mp filtered
      have isMapped : phdr.Mapped length := of_decide_eq_true mapped
      rw [atHeap, atStack]
      exact (Elf32Phdr.region_clear_iff isMapped.1 bounded base heapBase stackBase).mpr
        (outside phdr listed isMapped)

end Layout

theorem elfInit_initialLayout {alloc : Allocator} {bytes : FileBytes} {length : Nat} {ctx : ElfContext}
    {heap heap' : Heap} (returned : (elfInit alloc bytes length).Returns heap ctx heap') (emulated : ctx.bp ≠ 0)
    (host : Memory Nat) :
    ¬InitialLayout ctx (rvstateInit ctx host) ∧
      ∃ bss, bssSection bytes (elf32Ehdr bytes) = some bss ∧
        (ctx.Clear ↔ bss.vmaEnd.toNat + progHeapSize.toNat + progStackSize.toNat ≤ 0x100000000 ∧
          ∀ phdr ∈ programHeaders bytes (elf32Ehdr bytes), phdr.Mapped length →
            phdr.vmaEnd ≤ bss.vmaEnd.toNat ∨
              bss.vmaEnd.toNat + progHeapSize.toNat + progStackSize.toNat ≤ phdr.pVaddr.toNat) := by
  obtain ⟨bss, segments, found, atBreak⟩ := elfInit_emulated returned emulated
  exact ⟨fun layout => atBreak.not_stackReady layout.2, bss, found, atBreak.clear_iff emulated⟩

def Elf32Shdr.file (shdr : Elf32Shdr) (shOffset : Nat) : List (BitVec 8) :=
  littleEndian 4 shdr.shName.toNat ++ littleEndian 4 0 ++ littleEndian 4 0 ++
    littleEndian 4 shdr.shAddr.toNat ++ littleEndian 4 shOffset ++ littleEndian 4 shdr.shSize.toNat ++
    List.replicate 16 0

-- The header of the string table, a `.bss` section behind the only segment, and the string table.
def bssFile : FileBytes :=
  fileOf ((elfFile 0x1000 84 [⟨1, 0, 0x1000, 16, 32⟩]).set 48 2 ++ Elf32Shdr.file ⟨0, 0, 5⟩ 164 ++
    Elf32Shdr.file ⟨0, 0x2000, 64⟩ 0 ++ bssName)

theorem bssFile_section : bssSection bssFile (elf32Ehdr bssFile) = some ⟨0, 0x2000, 64⟩ := by decide

theorem bssFile_break {alloc : Allocator} {ctx : ElfContext} {heap heap' : Heap}
    (returned : (elfInit alloc bssFile 169).Returns heap ctx heap') :
    ∃ segments, BreakAt bssFile 169 0x2040 segments ctx := by
  obtain ⟨mid, loaded⟩ := elfInit_returns (by decide) (by decide) returned
  rcases elfInitLoad_break loaded with ⟨missing, -⟩ | ⟨bss, segments, found, atBreak⟩
  · rw [bssFile_section] at missing
    cases missing
  · rw [bssFile_section] at found
    cases found
    exact ⟨segments, atBreak⟩

theorem bssFile_returns : ∃ ctx heap', (elfInit bumpAllocator bssFile 169).Returns ⟨fun _ => 0, []⟩ ctx heap' ∧
    ∃ segments, BreakAt bssFile 169 0x2040 segments ctx := by
  obtain ⟨ctx, heap', returned⟩ := elfInit_completes bumpAllocator_generous ⟨fun _ => 0, []⟩
  exact ⟨ctx, heap', returned, bssFile_break returned⟩

theorem BreakAt.emulated {ctx : ElfContext} {segments : List ElfLoadRegion}
    (atBreak : BreakAt bssFile 169 0x2040 segments ctx) : ctx.bp ≠ 0 := by
  rw [atBreak.bp]
  decide

theorem elfInit_initialLayout_bss :
    ∃ ctx heap', (elfInit bumpAllocator bssFile 169).Returns ⟨fun _ => 0, []⟩ ctx heap' ∧ ctx.bp ≠ 0 ∧
      ¬InitialLayout ctx (rvstateInit ctx fun _ => 0) := by
  obtain ⟨ctx, heap', returned, segments, atBreak⟩ := bssFile_returns
  exact ⟨ctx, heap', returned, atBreak.emulated,
    (elfInit_initialLayout returned atBreak.emulated fun _ => 0).1⟩

theorem elfInit_not_initialLayout :
    ∃ ctx heap', (elfInit bumpAllocator bssFile 169).Returns ⟨fun _ => 0, []⟩ ctx heap' ∧ ctx.bp ≠ 0 ∧
      ctx.Clear ∧ ¬InitialLayout ctx (rvstateInit ctx fun _ => 0) := by
  obtain ⟨ctx, heap', returned, segments, atBreak⟩ := bssFile_returns
  refine ⟨ctx, heap', returned, atBreak.emulated, (atBreak.clear_iff atBreak.emulated).mpr ?_, ?_⟩
  · decide
  · exact fun layout => atBreak.not_stackReady layout.2

end Urv86t
