import Mathlib.Data.List.Perm.Basic
import Urv86t.Emulator.Program
import Urv86t.Loader.Break

set_option autoImplicit false

namespace Urv86t

open ByteMemory Traced Traced.Program

def Block.Apart (a b : Block) : Prop := a.base + a.size ≤ b.base ∨ b.base + b.size ≤ a.base

instance : Std.Symm Block.Apart := ⟨fun _ _ => Or.symm⟩

structure Heap.Sound (heap : Heap) : Prop where
  apart : heap.blocks.Pairwise Block.Apart
  filled : ∀ block ∈ heap.blocks, 0 < block.size
  nonNull : ∀ block ∈ heap.blocks, block.base ≠ 0

theorem Block.Apart.base_ne {a b : Block} (apart : a.Apart b) (filled : 0 < a.size) (filled' : 0 < b.size) :
    b.base ≠ a.base := by
  unfold Block.Apart at apart
  omega

section Sound

variable {alloc : Allocator} {heap : Heap}

theorem Heap.Sound.add (sound : heap.Sound) {size base : Nat} (picked : alloc.pick heap.blocks size = some base)
    (some_byte : 0 < size) (bytes : Memory Nat) : Heap.Sound ⟨bytes, ⟨base, size⟩ :: heap.blocks⟩ where
  apart := List.pairwise_cons.mpr ⟨alloc.fresh picked, sound.apart⟩
  filled := List.forall_mem_cons.mpr ⟨some_byte, sound.filled⟩
  nonNull := List.forall_mem_cons.mpr ⟨alloc.nonNull picked, sound.nonNull⟩

theorem Heap.Sound.sublist (sound : heap.Sound) {blocks : List Block} (fewer : blocks.Sublist heap.blocks)
    (bytes : Memory Nat) : Heap.Sound ⟨bytes, blocks⟩ where
  apart := sound.apart.sublist fewer
  filled block live := sound.filled block (fewer.subset live)
  nonNull block live := sound.nonNull block (fewer.subset live)

theorem Heap.Sound.without (sound : heap.Sound) (block : Block) {others : List Block}
    (split : heap.blocks.Perm (block :: others)) : (heap.blocks.filter (·.base ≠ block.base)).Perm others := by
  have apart := (List.pairwise_cons.mp (split.pairwise sound.apart Or.symm)).1
  have filled := fun other listed => sound.filled other (split.symm.subset listed)
  have different : ∀ other ∈ others, other.base ≠ block.base := fun other listed =>
    (apart other listed).base_ne (filled block List.mem_cons_self) (filled other (List.mem_cons_of_mem _ listed))
  have kept : others.filter (·.base ≠ block.base) = others :=
    List.filter_eq_self.mpr fun other listed => decide_eq_true (different other listed)
  have filtered := split.filter (·.base ≠ block.base)
  rwa [List.filter_cons_of_neg (by simp), kept] at filtered

end Sound

def ElfLoadRegion.buffer (region : ElfLoadRegion) : Block := ⟨region.memBase, region.szReserved.toNat⟩

/-- The buffers a table points to; an entry without one has a null pointer. -/
def buffers (regions : List ElfLoadRegion) : List Block :=
  (regions.filter (·.memBase ≠ 0)).map ElfLoadRegion.buffer

theorem buffers_append (regions regions' : List ElfLoadRegion) :
    buffers (regions ++ regions') = buffers regions ++ buffers regions' := by
  simp only [buffers, List.filter_append, List.map_append]

def ElfTable.segments (table : ElfTable) : List ElfLoadRegion := table.regions.take (table.phCount - 2)

theorem Tabled.segments_eq {count : Nat} {table : ElfTable} {segments : List ElfLoadRegion}
    (number : table.phCount = segments.length + 2)
    (entries : table.regions = segments ++ List.replicate (count - segments.length) ({} : ElfLoadRegion)) :
    table.segments = segments := by
  rw [ElfTable.segments, number, entries, Nat.add_sub_cancel, List.take_left]

section Loader

variable {alloc : Allocator} {bytes : FileBytes} {length count : Nat} {ehdr : Elf32Ehdr} {heap heap' : Heap}

theorem elfInitSection_heap {strtab : Int} {shIdx : Nat} {bss bss' : BitVec 32 × BitVec 32}
    (returned : (elfInitSection bytes ehdr strtab shIdx bss).Returns heap bss' heap') : heap' = heap := by
  rw [elfInitSection, readWord_bind_returns] at returned
  split at returned
  · exact ((returns_pure _ _ _ _).mp returned).2.symm
  · rw [readWord_bind_returns, returns_bind] at returned
    obtain ⟨isBss, mid, compared, returned⟩ := returned
    obtain ⟨rfl, -⟩ := strcmpEq_returns _ _ compared
    split at returned
    · rw [readWord_bind_returns] at returned
      exact ((returns_pure _ _ _ _).mp returned).2.symm
    · exact ((returns_pure _ _ _ _).mp returned).2.symm

theorem elfInitSections_heap {strtab : Int} {indices : List Nat} {bss bss' : BitVec 32 × BitVec 32}
    (returned : (each (elfInitSection bytes ehdr strtab) indices bss).Returns heap bss' heap') : heap' = heap := by
  apply returns_each (fun _ _ heap' => heap' = heap) _ rfl returned
  rintro shIdx rest bss mid bss' heap' rfl ran
  exact elfInitSection_heap ran

theorem calloc_owns {size : Nat} {allocated : Option Nat} (sound : heap.Sound) (some_byte : 0 < size)
    (returned : (calloc alloc size).Returns heap allocated heap') :
    heap'.Sound ∧ allocated ≠ some 0 ∧ heap'.blocks = allocated.toList.map (⟨·, size⟩) ++ heap.blocks := by
  cases allocated with
  | none =>
    rw [calloc, returns_access] at returned
    cases picked : alloc.pick heap.blocks size with
    | none =>
      rw [picked] at returned
      cases returned
      exact ⟨sound, Option.some_ne_none 0 |>.symm, rfl⟩
    | some base =>
      rw [picked] at returned
      cases returned
  | some base =>
    obtain ⟨picked, rfl⟩ := calloc_returns returned
    exact ⟨sound.add picked some_byte _, fun null => alloc.nonNull picked (Option.some.inj null), rfl⟩

theorem realloc_returns {old size base : Nat} (returned : (realloc alloc old size).Returns heap (some base) heap') :
    alloc.pick (heap.blocks.filter (·.base ≠ old)) size = some base ∧
      heap' = { heap with blocks := ⟨base, size⟩ :: heap.blocks.filter (·.base ≠ old) } := by
  rw [realloc, returns_access] at returned
  cases picked : alloc.pick (heap.blocks.filter (·.base ≠ old)) size with
  | none =>
    simp only [picked] at returned
    cases returned
  | some place =>
    simp only [picked] at returned
    cases returned
    exact ⟨rfl, rfl⟩

structure Filled (count : Nat) (before : Heap) (mapped : List Elf32Phdr) (table : ElfTable) (heap : Heap) :
    Prop where
  tabled : Tabled count mapped table
  sound : heap.Sound
  nonNull : ∀ region ∈ table.segments, region.memBase ≠ 0
  blocks : heap.blocks = (table.segments.map ElfLoadRegion.buffer).reverse ++ before.blocks

theorem ElfTable.addSegment_segments {mapped : List Elf32Phdr} {table : ElfTable}
    (tabled : Tabled count mapped table) (room : mapped.length < count) (phdr : Elf32Phdr) (base : Nat) :
    (table.addSegment phdr base).segments = table.segments ++ [phdr.region base] := by
  obtain ⟨segments, number, entries, made⟩ := tabled
  rw [made.length_eq] at room
  have next := ElfTable.addSegment_regions phdr base number entries room
  have number' : (table.addSegment phdr base).phCount = (segments ++ [phdr.region base]).length + 2 := by
    simp [ElfTable.addSegment, number]
  rw [Tabled.segments_eq number entries, Tabled.segments_eq number' next]

theorem Filled.addSegment {before : Heap} {mapped : List Elf32Phdr} {table : ElfTable} {phdr : Elf32Phdr}
    {base : Nat} (filled : Filled count before mapped table heap) (room : mapped.length < count)
    (placed : phdr.pMemsz ≠ 0) (picked : alloc.pick heap.blocks phdr.pMemsz.toNat = some base) :
    Filled count before (mapped ++ [phdr]) (table.addSegment phdr base) (heap.loadSegment bytes phdr base) := by
  have segments := ElfTable.addSegment_segments filled.tabled room phdr base
  have some_byte : 0 < phdr.pMemsz.toNat := Nat.pos_of_ne_zero fun zero => placed (BitVec.eq_of_toNat_eq zero)
  refine ⟨filled.tabled.addSegment room phdr base, filled.sound.add picked some_byte _, ?_, ?_⟩
  · rw [segments]
    exact List.forall_mem_append.mpr ⟨filled.nonNull, List.forall_mem_singleton.mpr (alloc.nonNull picked)⟩
  · simp only [segments, List.map_append, List.map_singleton, List.reverse_append, List.reverse_singleton,
      List.cons_append, Heap.loadSegment, filled.blocks]
    rfl

theorem elfInitSegments_filled {indices : List Nat} {table : ElfTable} (sound : heap.Sound)
    (room : indices.length ≤ count)
    (returned : (each (elfInitSegment alloc bytes length ehdr count) indices
      ⟨2, List.replicate count {}⟩).Returns heap table heap') :
    Filled count heap (mappedHeaders bytes length ehdr indices) table heap' := by
  have initial : Filled count heap [] ⟨2, List.replicate count {}⟩ heap :=
    ⟨⟨[], rfl, rfl, .nil⟩, sound, nofun, rfl⟩
  apply elfInitSegments_returns (Filled count heap) _ initial returned
  intro mapped table mid phIdx base _ number isMapped picked filled
  exact filled.addSegment (by omega) isMapped.1 picked

theorem buffers_nonNull {regions : List ElfLoadRegion} (nonNull : ∀ region ∈ regions, region.memBase ≠ 0) :
    buffers regions = regions.map ElfLoadRegion.buffer := by
  rw [buffers, List.filter_eq_self.mpr fun region listed => decide_eq_true (nonNull region listed)]

theorem buffers_entry (region : ElfLoadRegion) {allocated : Option Nat} (base : region.memBase = allocated.getD 0)
    (nonNull : allocated ≠ some 0) :
    buffers [region] = allocated.toList.map (⟨·, region.szReserved.toNat⟩) := by
  cases allocated with
  | none => simp [buffers, base]
  | some place =>
    have placed : place ≠ 0 := fun null => nonNull (congrArg some null)
    simp [buffers, base, placed, ElfLoadRegion.buffer]

theorem elfInitLoad_shrunk {ctx : ElfContext} (sound : heap.Sound)
    (returned : (elfInitLoad alloc bytes length ehdr).Returns heap ctx heap') :
    ∃ segments loadRegions mid, (∀ region ∈ segments, region.memBase ≠ 0) ∧ mid.Sound ∧
      mid.blocks.Perm
        (buffers segments ++ ⟨loadRegions, (segments.length + 2) * sizeofElfLoadRegion⟩ :: heap.blocks) ∧
      (ctx.loadRegions = segments ++ [({} : ElfLoadRegion), {}] ∧ ctx.bp = 0 ∧ mid = heap' ∨
        ∃ (bss : BitVec 32 × BitVec 32) (ctx' : ElfContext),
          ctx'.loadRegions = segments ++ [({} : ElfLoadRegion), {}] ∧
            (elfInitBreak alloc (segments.length + 2) ctx' bss.1 bss.2).Returns mid ctx heap') := by
  obtain ⟨bss, first, table, place, heap₁, heap₂, heap₃, sections, picked, looped, shrunk, finished⟩ :=
    elfInitLoad_steps returned
  obtain rfl := elfInitSections_heap sections
  have filled := elfInitSegments_filled (sound.add picked (by simp [sizeofElfLoadRegion]) _) (by simp) looped
  obtain ⟨segments, number, entries, made⟩ := filled.tabled
  have bound := mappedHeaders_length bytes length ehdr (List.range ehdr.ePhnum.toNat)
  rw [made.length_eq, List.length_range] at bound
  have taken := take_entries number bound entries
  have blocks := filled.blocks
  have nonNull := filled.nonNull
  rw [Tabled.segments_eq number entries] at blocks nonNull
  obtain ⟨moved, after⟩ := realloc_returns shrunk
  have others : (heap₂.blocks.filter (·.base ≠ first)).Perm (buffers segments ++ heap₁.blocks) := by
    apply filled.sound.without ⟨first, (ehdr.ePhnum.toNat + 2) * sizeofElfLoadRegion⟩
    rw [blocks, buffers_nonNull nonNull]
    exact ((List.reverse_perm _).append_right _).trans List.perm_middle
  refine ⟨segments, place, heap₃, nonNull, ?_, ?_, ?_⟩
  · have rest := filled.sound.sublist (List.filter_sublist (p := (·.base ≠ first))) heap₂.bytes
    rw [after]
    exact rest.add moved (Nat.mul_pos (by omega) (by decide)) _
  · rw [after, number]
    exact (others.cons _).trans List.perm_middle.symm
  · rw [number] at finished
    rcases finished with ⟨-, rfl, same⟩ | ⟨-, placed⟩
    · exact .inl ⟨taken, rfl, same⟩
    · exact .inr ⟨bss, _, taken, placed⟩

theorem elfInitLoad_owns {ctx : ElfContext} (sound : heap.Sound)
    (returned : (elfInitLoad alloc bytes length ehdr).Returns heap ctx heap') :
    heap'.Sound ∧ ∃ loadRegions, heap'.blocks.Perm
      (buffers ctx.loadRegions ++ ⟨loadRegions, ctx.nrRegions * sizeofElfLoadRegion⟩ :: heap.blocks) := by
  obtain ⟨segments, loadRegions, mid, nonNull, midSound, owned, finished⟩ := elfInitLoad_shrunk sound returned
  have blank : buffers [({} : ElfLoadRegion), {}] = [] := rfl
  rcases finished with ⟨entries, -, rfl⟩ | ⟨bss, ctx', entries, placed⟩
  · refine ⟨midSound, loadRegions, ?_⟩
    have number : ctx.nrRegions = segments.length + 2 := by simp [ElfContext.nrRegions, entries]
    rw [entries, buffers_append, blank, List.append_nil, number]
    exact owned
  · obtain ⟨heapBase, stackBase, between, heapCall, stackCall, rfl⟩ := elfInitBreak_steps entries placed
    obtain ⟨betweenSound, heapNonNull, withHeap⟩ := calloc_owns midSound (by decide) heapCall
    obtain ⟨finalSound, stackNonNull, withStack⟩ := calloc_owns betweenSound (by decide) stackCall
    refine ⟨finalSound, loadRegions, ?_⟩
    have heapEntry := buffers_entry (heapRegion (bss.1 + bss.2) (heapBase.getD 0)) rfl heapNonNull
    have stackEntry := buffers_entry
      (stackRegion (bss.1 + bss.2 + progHeapSize) (stackBase.getD 0)) rfl stackNonNull
    have added : buffers [heapRegion (bss.1 + bss.2) (heapBase.getD 0),
          stackRegion (bss.1 + bss.2 + progHeapSize) (stackBase.getD 0)] =
        heapBase.toList.map (⟨·, progHeapSize.toNat⟩) ++ stackBase.toList.map (⟨·, progStackSize.toNat⟩) :=
      (buffers_append [_] [_]).trans (congrArg₂ _ heapEntry stackEntry)
    have number : (segments ++ [heapRegion (bss.1 + bss.2) (heapBase.getD 0),
        stackRegion (bss.1 + bss.2 + progHeapSize) (stackBase.getD 0)]).length = segments.length + 2 := by simp
    simp only [ElfContext.nrRegions]
    rw [number, buffers_append, added, withStack, withHeap, ← List.append_assoc]
    refine (List.perm_append_comm.append owned).trans ?_
    rw [← List.append_assoc]
    exact List.perm_append_comm.append_right _

theorem elfInit_owns {ctx : ElfContext} (sound : heap.Sound) (accepted : ¬Refused bytes length)
    (returned : (elfInit alloc bytes length).Returns heap ctx heap') :
    heap'.Sound ∧ ∃ loadRegions elfCtx, heap'.blocks.Perm
      (buffers ctx.loadRegions ++ ⟨loadRegions, ctx.nrRegions * sizeofElfLoadRegion⟩ ::
        ⟨elfCtx, sizeofElfContext⟩ :: heap.blocks) := by
  obtain ⟨elfCtx, mid, picked, rfl, ⟨refused, -, -⟩ | ⟨-, loaded⟩⟩ := elfInit_steps returned
  · exact absurd refused accepted
  · obtain ⟨final, loadRegions, owned⟩ := elfInitLoad_owns (sound.add picked (by decide) _) loaded
    exact ⟨final, loadRegions, elfCtx, owned⟩

end Loader

section Freeing

variable {alloc : Allocator} {heap heap' : Heap}

theorem free_null : (free 0).Returns heap () heap := rfl

theorem free_live (sound : heap.Sound) {block : Block} {others : List Block}
    (split : heap.blocks.Perm (block :: others)) :
    ∃ rest, (free block.base).Returns heap () rest ∧ rest.Sound ∧ rest.bytes = heap.bytes ∧
      rest.blocks.Perm others := by
  have live : block ∈ heap.blocks := split.symm.subset List.mem_cons_self
  have found : heap.blocks.any (·.base = block.base) = true :=
    List.any_eq_true.mpr ⟨block, live, decide_eq_true rfl⟩
  have freed : heap.free block.base = some { heap with blocks := heap.blocks.filter (·.base ≠ block.base) } := by
    rw [Heap.free, if_neg (sound.nonNull block live), if_pos found]
  refine ⟨{ heap with blocks := heap.blocks.filter (·.base ≠ block.base) }, ?_, ?_, rfl, sound.without block split⟩
  · simp only [free, Returns, attempt, freed]
  · exact sound.sublist List.filter_sublist heap.bytes

theorem rvasmInit_returns {opens : Bool} {out : Nat}
    (returned : (rvasmInit alloc opens).Returns heap (some out) heap') :
    (calloc alloc sizeofRvasmCtx).Returns heap (some out) heap' := by
  rw [rvasmInit, returns_bind] at returned
  obtain ⟨allocated, mid, called, returned⟩ := returned
  cases allocated with
  | none => exact absurd returned (returns_abort _ _ _ _)
  | some ctx =>
    cases opens with
    | true =>
      obtain ⟨same, rfl⟩ := (returns_pure _ _ _ _).mp returned
      exact same ▸ called
    | false =>
      simp only [Bool.false_eq_true, if_false, returns_bind] at returned
      obtain ⟨_, _, -, returned⟩ := returned
      cases ((returns_pure _ _ _ _).mp returned).1

theorem mainInit_returns {file : Option BinaryFile} {disasm : Option Bool} {started : Started}
    (returned : (mainInit alloc file disasm).Returns heap started heap') :
    ∃ binary mid loaded held, file = some binary ∧
      (calloc alloc binary.fdSize).Returns heap (some started.emuCode) mid ∧ binary.nread = binary.fdSize ∧
      (elfInit alloc binary.bytes binary.nread).Returns mid started.ctx loaded ∧ started.ctx.bp ≠ 0 ∧
      (calloc alloc sizeofRvstate).Returns loaded (some started.state) held ∧
      (started.disasm = 0 ∧ held = heap' ∨
        (calloc alloc sizeofRvasmCtx).Returns held (some started.disasm) heap') := by
  cases file with
  | none => exact absurd returned (returns_abort _ _ _ _)
  | some binary =>
    rw [mainInit, returns_bind] at returned
    obtain ⟨allocated, mid, called, returned⟩ := returned
    cases allocated with
    | none => exact absurd returned (returns_abort _ _ _ _)
    | some emuCode =>
      simp only at returned
      split at returned
      · exact absurd returned (returns_abort _ _ _ _)
      rename_i complete
      rw [returns_bind] at returned
      obtain ⟨ctx, loaded, parsed, returned⟩ := returned
      split at returned
      · exact absurd returned (returns_abort _ _ _ _)
      rename_i emulated
      rw [returns_bind] at returned
      obtain ⟨allocated, held, stated, returned⟩ := returned
      cases allocated with
      | none => exact absurd returned (returns_abort _ _ _ _)
      | some state =>
        cases disasm with
        | none =>
          obtain ⟨rfl, same⟩ := (returns_pure _ _ _ _).mp returned
          exact ⟨binary, mid, loaded, held, rfl, called, not_not.mp complete, parsed, emulated, stated,
            .inl ⟨rfl, same⟩⟩
        | some opens =>
          simp only [returns_bind] at returned
          obtain ⟨out, last, emitted, returned⟩ := returned
          cases out with
          | none => exact absurd returned (returns_abort _ _ _ _)
          | some out =>
            obtain ⟨rfl, rfl⟩ := (returns_pure _ _ _ _).mp returned
            exact ⟨binary, mid, loaded, held, rfl, called, not_not.mp complete, parsed, emulated, stated,
              .inr (rvasmInit_returns emitted)⟩

theorem calloc_generous {size : Nat} {allocated : Option Nat} (generous : alloc.Generous)
    (returned : (calloc alloc size).Returns heap allocated heap') : ∃ base, allocated = some base ∧ base ≠ 0 ∧
      ⟨base, size⟩ ∈ heap'.blocks ∧ ∀ k < size, heap'.bytes (base + k) = 0 := by
  cases allocated with
  | none =>
    obtain ⟨base, picked⟩ := generous heap.blocks size
    rw [calloc, returns_access, picked] at returned
    cases returned
  | some base =>
    obtain ⟨picked, rfl⟩ := calloc_returns returned
    refine ⟨base, rfl, alloc.nonNull picked, List.mem_cons_self, fun k inside => ?_⟩
    exact overlay_inside heap.bytes base size (fun _ => 0) k inside

theorem calloc_completes (generous : alloc.Generous) (heap : Heap) (size : Nat) :
    ∃ base heap', (calloc alloc size).Returns heap (some base) heap' := by
  obtain ⟨allocated, heap', returned⟩ : ∃ allocated heap', (calloc alloc size).Returns heap allocated heap' :=
    completes_access _ heap
  obtain ⟨base, rfl, -⟩ := calloc_generous generous returned
  exact ⟨base, heap', returned⟩

theorem mainInit_completes (file : BinaryFile) (generous : alloc.Generous) (complete : file.nread = file.fdSize)
    (emulated : ∀ {mid ctx loaded}, (elfInit alloc file.bytes file.nread).Returns mid ctx loaded → ctx.bp ≠ 0)
    (disasm : Option Bool) (opens : disasm ≠ some false) (heap : Heap) :
    ∃ started heap', (mainInit alloc (some file) disasm).Returns heap started heap' := by
  obtain ⟨emuCode, mid, opened⟩ := calloc_completes generous heap file.fdSize
  have completes : Completes (elfInit alloc file.bytes file.nread) := elfInit_completes generous
  obtain ⟨ctx, loaded, parsed⟩ := completes mid
  obtain ⟨state, held, stated⟩ := calloc_completes generous loaded sizeofRvstate
  obtain ⟨out, last, emitted⟩ := calloc_completes generous held sizeofRvasmCtx
  have complete' : ¬file.nread ≠ file.fdSize := not_not.mpr complete
  simp only [mainInit, returns_bind]
  rcases disasm with _ | _ | _
  · refine ⟨⟨ctx, emuCode, state, 0⟩, held, _, mid, opened, ?_⟩
    simp only [if_neg complete', returns_bind]
    refine ⟨ctx, loaded, parsed, ?_⟩
    simp only [if_neg (emulated parsed), returns_bind]
    exact ⟨_, held, stated, rfl⟩
  · exact absurd rfl opens
  · refine ⟨⟨ctx, emuCode, state, out⟩, last, _, mid, opened, ?_⟩
    simp only [if_neg complete', returns_bind]
    refine ⟨ctx, loaded, parsed, ?_⟩
    simp only [if_neg (emulated parsed), returns_bind]
    refine ⟨_, held, stated, ?_⟩
    simp only [rvasmInit, returns_bind]
    exact ⟨_, last, ⟨_, last, emitted, rfl⟩, rfl⟩

theorem elfInit_accepted {bytes : FileBytes} {length : Nat} {ctx : ElfContext} (emulated : ctx.bp ≠ 0)
    (returned : (elfInit alloc bytes length).Returns heap ctx heap') : ¬Refused bytes length := by
  rcases elfInit_cases returned with ⟨-, rfl⟩ | ⟨accepted, -⟩
  · exact absurd rfl emulated
  · exact accepted

theorem calloc_some_owns {size base : Nat} (sound : heap.Sound) (some_byte : 0 < size)
    (returned : (calloc alloc size).Returns heap (some base) heap') :
    heap'.Sound ∧ heap'.blocks = ⟨base, size⟩ :: heap.blocks := by
  obtain ⟨sound', -, owned⟩ := calloc_owns sound some_byte returned
  exact ⟨sound', owned⟩

def asmBlock (disasm : Nat) : List Block := if disasm = 0 then [] else [⟨disasm, sizeofRvasmCtx⟩]

theorem mainInit_owns {file : Option BinaryFile} {disasm : Option Bool} {started : Started} (sound : heap.Sound)
    (returned : (mainInit alloc file disasm).Returns heap started heap') :
    heap'.Sound ∧ ∃ loadRegions elfCtx fdSize, heap'.blocks.Perm
      (asmBlock started.disasm ++ ⟨started.state, sizeofRvstate⟩ :: (buffers started.ctx.loadRegions ++
        ⟨loadRegions, started.ctx.nrRegions * sizeofElfLoadRegion⟩ :: ⟨elfCtx, sizeofElfContext⟩ ::
          ⟨started.emuCode, fdSize⟩ :: heap.blocks)) := by
  obtain ⟨binary, mid, loaded, held, -, opened, complete, parsed, emulated, stated, emitted⟩ :=
    mainInit_returns returned
  have accepted := elfInit_accepted emulated parsed
  have header : sizeofElf32Ehdr ≤ binary.nread := Nat.le_of_not_lt fun short => accepted (.inl short)
  have some_byte : 0 < binary.fdSize := Nat.lt_of_lt_of_le (by decide) (complete ▸ header)
  obtain ⟨midSound, withCode⟩ := calloc_some_owns sound some_byte opened
  obtain ⟨loadedSound, loadRegions, elfCtx, owned⟩ := elfInit_owns midSound accepted parsed
  obtain ⟨heldSound, withState⟩ := calloc_some_owns loadedSound (by decide) stated
  rw [withCode] at owned
  have held_owned := owned.cons ⟨started.state, sizeofRvstate⟩
  rw [← withState] at held_owned
  rcases emitted with ⟨absent, rfl⟩ | asm
  · refine ⟨heldSound, loadRegions, elfCtx, binary.fdSize, ?_⟩
    rw [asmBlock, if_pos absent]
    exact held_owned
  · obtain ⟨finalSound, withAsm⟩ := calloc_some_owns heldSound (by decide) asm
    have present : started.disasm ≠ 0 := finalSound.nonNull ⟨started.disasm, _⟩ (withAsm ▸ List.mem_cons_self)
    refine ⟨finalSound, loadRegions, elfCtx, binary.fdSize, ?_⟩
    rw [asmBlock, if_neg present, withAsm]
    exact held_owned.cons _

theorem free_asm {disasm : Nat} {others : List Block} (sound : heap.Sound)
    (split : heap.blocks.Perm (asmBlock disasm ++ others)) :
    ∃ rest, (free disasm).Returns heap () rest ∧ rest.Sound ∧ rest.bytes = heap.bytes ∧
      rest.blocks.Perm others := by
  by_cases absent : disasm = 0
  · rw [asmBlock, if_pos absent] at split
    subst absent
    exact ⟨heap, free_null, sound, rfl, split⟩
  · rw [asmBlock, if_neg absent] at split
    exact free_live sound split

theorem mainFree_owned {started : Started} {loadRegions elfCtx fdSize tableSize : Nat} {others : List Block}
    (sound : heap.Sound) (owned : heap.blocks.Perm
      (asmBlock started.disasm ++ ⟨started.state, sizeofRvstate⟩ :: (buffers started.ctx.loadRegions ++
        ⟨loadRegions, tableSize⟩ :: ⟨elfCtx, sizeofElfContext⟩ :: ⟨started.emuCode, fdSize⟩ :: others))) :
    ∃ final, (mainFree started loadRegions elfCtx).Returns heap () final ∧ final.bytes = heap.bytes ∧
      final.blocks.Perm (buffers started.ctx.loadRegions ++ others) := by
  obtain ⟨noAsm, freedAsm, noAsmSound, bytes₁, owned₁⟩ := free_asm sound owned
  obtain ⟨noState, freedState, noStateSound, bytes₂, owned₂⟩ := free_live noAsmSound owned₁
  obtain ⟨noTable, freedTable, noTableSound, bytes₃, owned₃⟩ :=
    free_live noStateSound (owned₂.trans List.perm_middle)
  obtain ⟨noCtx, freedCtx, noCtxSound, bytes₄, owned₄⟩ := free_live noTableSound (owned₃.trans List.perm_middle)
  obtain ⟨final, freedCode, -, bytes₅, owned₅⟩ := free_live noCtxSound (owned₄.trans List.perm_middle)
  refine ⟨final, ?_, ?_, owned₅⟩
  · simp only [mainFree, elfFree, returns_bind]
    exact ⟨(), noAsm, freedAsm, (), noState, freedState, (), noCtx, ⟨(), noTable, freedTable, freedCtx⟩, freedCode⟩
  · rw [bytes₅, bytes₄, bytes₃, bytes₂, bytes₁]

end Freeing

end Urv86t
