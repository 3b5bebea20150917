import Mathlib.Data.List.Forall2
import Urv86t.Loader.Bounds
import Urv86t.Memory.Regions

set_option autoImplicit false

namespace Urv86t

open ByteMemory Rv32 Traced Traced.Program

def Heap.Keeps (heap later : Heap) : Prop :=
  ∀ block ∈ heap.blocks, block ∈ later.blocks ∧
    ∀ k < block.size, later.bytes (block.base + k) = heap.bytes (block.base + k)

theorem Heap.Keeps.trans {heap mid later : Heap} (first : heap.Keeps mid) (second : mid.Keeps later) :
    heap.Keeps later := by
  intro block live
  obtain ⟨still, same⟩ := first block live
  obtain ⟨last, same'⟩ := second block still
  exact ⟨last, fun k inside => (same' k inside).trans (same k inside)⟩

theorem keeps_overlay {alloc : Allocator} {heap : Heap} {size base len : Nat}
    (picked : alloc.pick heap.blocks size = some base) (room : len ≤ size) (bytes : Nat → BitVec 8)
    {block : Block} (live : block ∈ heap.blocks) {k : Nat} (inside : k < block.size) (memory : Memory Nat) :
    overlay memory base len bytes (block.base + k) = memory (block.base + k) := by
  apply overlay_outside
  have apart := alloc.fresh picked block live
  omega

theorem calloc_keeps {alloc : Allocator} {size : Nat} {allocated : Option Nat} {heap heap' : Heap}
    (returned : (calloc alloc size).Returns heap allocated heap') : heap.Keeps heap' := by
  cases allocated with
  | none =>
    rw [calloc, returns_access] at returned
    cases picked : alloc.pick heap.blocks size with
    | none =>
      rw [picked] at returned
      cases returned
      exact fun block live => ⟨live, fun _ _ => rfl⟩
    | some base =>
      rw [picked] at returned
      cases returned
  | some base =>
    obtain ⟨picked, rfl⟩ := calloc_returns returned
    intro block live
    refine ⟨List.mem_cons_of_mem _ live, fun k inside => ?_⟩
    exact keeps_overlay picked (Nat.le_refl size) (fun _ => 0) live inside heap.bytes

theorem loadSegment_keeps {alloc : Allocator} {heap : Heap} {phdr : Elf32Phdr} {base : Nat} (bytes : FileBytes)
    (picked : alloc.pick heap.blocks phdr.pMemsz.toNat = some base)
    (room : phdr.pFilesz.toNat ≤ phdr.pMemsz.toNat) : heap.Keeps (heap.loadSegment bytes phdr base) := by
  intro block live
  refine ⟨List.mem_cons_of_mem _ live, fun k inside => ?_⟩
  simp only [Heap.loadSegment]
  rw [keeps_overlay picked room _ live inside, keeps_overlay picked (Nat.le_refl _) _ live inside]

theorem realloc_keeps {alloc : Allocator} {old size : Nat} {reallocated : Option Nat} {heap heap' : Heap}
    (returned : (realloc alloc old size).Returns heap reallocated heap') {block : Block}
    (live : block ∈ heap.blocks) (other : block.base ≠ old) :
    block ∈ heap'.blocks ∧ heap'.bytes = heap.bytes := by
  rw [realloc, returns_access] at returned
  cases picked : alloc.pick (heap.blocks.filter (·.base ≠ old)) size with
  | none =>
    simp only [picked] at returned
    cases returned
    exact ⟨live, rfl⟩
  | some base =>
    simp only [picked] at returned
    cases returned
    exact ⟨List.mem_cons_of_mem _ (List.mem_filter.mpr ⟨live, by simpa using other⟩), rfl⟩

def Elf32Phdr.imageByte (bytes : FileBytes) (phdr : Elf32Phdr) (k : Nat) : BitVec 8 :=
  if k < phdr.pFilesz.toNat then byteAt bytes (phdr.pOffset.toNat + k) else 0

structure Elf32Phdr.Backed (bytes : FileBytes) (table : Nat) (heap : Heap) (phdr : Elf32Phdr)
    (region : ElfLoadRegion) : Prop where
  vma : region.vmaBase = phdr.pVaddr
  size : region.szReserved = phdr.pMemsz
  tag : region.tag = some "LOAD"
  apart : region.memBase ≠ table
  live : ⟨region.memBase, phdr.pMemsz.toNat⟩ ∈ heap.blocks
  content : ∀ k < phdr.pMemsz.toNat, heap.bytes (region.memBase + k) = phdr.imageByte bytes k

def Elf32Phdr.region (phdr : Elf32Phdr) (base : Nat) : ElfLoadRegion where
  vmaBase := phdr.pVaddr
  memBase := base
  szReserved := phdr.pMemsz
  tag := some "LOAD"

section Backed

variable {alloc : Allocator} {bytes : FileBytes} {loadRegions : Nat} {heap heap' : Heap} {phdr : Elf32Phdr}
  {region : ElfLoadRegion}

theorem Elf32Phdr.Backed.keep (backed : phdr.Backed bytes loadRegions heap region) (keeps : heap.Keeps heap') :
    phdr.Backed bytes loadRegions heap' region where
  vma := backed.vma
  size := backed.size
  tag := backed.tag
  apart := backed.apart
  live := (keeps _ backed.live).1
  content k inside := ((keeps _ backed.live).2 k inside).trans (backed.content k inside)

theorem Elf32Phdr.Backed.realloc {size : Nat} {reallocated : Option Nat}
    (backed : phdr.Backed bytes loadRegions heap region)
    (returned : (realloc alloc loadRegions size).Returns heap reallocated heap') :
    phdr.Backed bytes loadRegions heap' region where
  vma := backed.vma
  size := backed.size
  tag := backed.tag
  apart := backed.apart
  live := (realloc_keeps returned backed.live backed.apart).1
  content k inside := by
    rw [(realloc_keeps returned backed.live backed.apart).2]
    exact backed.content k inside

theorem backed_loadSegment (bytes : FileBytes) {base size : Nat} (placed : phdr.pMemsz ≠ 0)
    (table : ⟨loadRegions, size⟩ ∈ heap.blocks) (nonempty : 0 < size)
    (picked : alloc.pick heap.blocks phdr.pMemsz.toNat = some base) :
    phdr.Backed bytes loadRegions (heap.loadSegment bytes phdr base) (phdr.region base) where
  vma := rfl
  size := rfl
  tag := rfl
  apart same := by
    have clear := alloc.fresh picked _ table
    have positive : 0 < phdr.pMemsz.toNat :=
      Nat.pos_of_ne_zero fun zero => placed (BitVec.eq_of_toNat_eq zero)
    simp only [Elf32Phdr.region] at clear same
    omega
  live := List.mem_cons_self
  content k inside := by
    simp only [Heap.loadSegment, Elf32Phdr.imageByte, Elf32Phdr.region]
    by_cases fromFile : k < phdr.pFilesz.toNat
    · rw [overlay_inside _ _ _ _ _ fromFile, if_pos fromFile]
    · rw [overlay_outside _ _ _ _ _ (.inr (by omega)), overlay_inside _ _ _ _ _ inside, if_neg fromFile]

end Backed

theorem modify_at_length {α : Type} (before : List α) (a : α) (after : List α) (f : α → α) :
    (before ++ a :: after).modify before.length f = before ++ f a :: after := by
  induction before with
  | nil => rfl
  | cons b before ih => simp [ih]

theorem modify_last_two {α : Type} (before : List α) (a b : α) (f g : α → α) :
    ((before ++ [a, b]).modify (before.length + 2 - 2) f).modify (before.length + 2 - 1) g =
      before ++ [f a, g b] := by
  have last := modify_at_length (before ++ [f a]) b [] g
  rw [Nat.add_sub_cancel, modify_at_length]
  simpa using last

structure Loaded (bytes : FileBytes) (count loadRegions : Nat) (mapped : List Elf32Phdr) (table : ElfTable)
    (heap : Heap) : Prop where
  array : ∃ size, 0 < size ∧ ⟨loadRegions, size⟩ ∈ heap.blocks
  regions : ∃ segments, table.phCount = segments.length + 2 ∧
    table.regions = segments ++ List.replicate (count - segments.length) ({} : ElfLoadRegion) ∧
    List.Forall₂ (Elf32Phdr.Backed bytes loadRegions heap) mapped segments

section Loop

variable {alloc : Allocator} {bytes : FileBytes} {length count loadRegions : Nat} {ehdr : Elf32Ehdr}

theorem ElfTable.addSegment_regions {segments : List ElfLoadRegion} {table : ElfTable} (phdr : Elf32Phdr)
    (base : Nat) (number : table.phCount = segments.length + 2)
    (entries : table.regions = segments ++ List.replicate (count - segments.length) ({} : ElfLoadRegion))
    (room : segments.length < count) :
    (table.addSegment phdr base).regions = segments ++ [phdr.region base] ++
      List.replicate (count - (segments ++ [phdr.region base]).length) ({} : ElfLoadRegion) := by
  have next : count - segments.length = (count - (segments.length + 1)) + 1 := by omega
  simp only [ElfTable.addSegment, number, entries, Nat.add_sub_cancel]
  rw [next, List.replicate_succ, modify_at_length]
  simp [Elf32Phdr.region]

theorem Loaded.addSegment {mapped : List Elf32Phdr} {table : ElfTable} {heap : Heap} {phdr : Elf32Phdr}
    {base : Nat} (loaded : Loaded bytes count loadRegions mapped table heap) (room : mapped.length < count)
    (placed : phdr.pMemsz ≠ 0) (fits : phdr.pFilesz.toNat ≤ phdr.pMemsz.toNat)
    (picked : alloc.pick heap.blocks phdr.pMemsz.toNat = some base) :
    Loaded bytes count loadRegions (mapped ++ [phdr]) (table.addSegment phdr base)
      (heap.loadSegment bytes phdr base) where
  array := by
    obtain ⟨size, nonempty, live⟩ := loaded.array
    exact ⟨size, nonempty, List.mem_cons_of_mem _ live⟩
  regions := by
    obtain ⟨size, nonempty, live⟩ := loaded.array
    obtain ⟨segments, number, entries, backed⟩ := loaded.regions
    rw [backed.length_eq] at room
    refine ⟨segments ++ [phdr.region base], ?_, ElfTable.addSegment_regions phdr base number entries room, ?_⟩
    · simp [ElfTable.addSegment, number]
    · have kept := backed.imp fun _ _ before => before.keep (loadSegment_keeps bytes picked fits)
      have added := backed_loadSegment bytes placed live nonempty picked
      exact List.rel_append kept (.cons added .nil)

def mappedHeaders (bytes : FileBytes) (length : Nat) (ehdr : Elf32Ehdr) (indices : List Nat) : List Elf32Phdr :=
  (indices.map fun phIdx => elf32Phdr bytes (phdrAt ehdr phIdx)).filter (Elf32Phdr.Mapped length)

theorem mappedHeaders_append (done : List Nat) (phIdx : Nat) :
    mappedHeaders bytes length ehdr (done ++ [phIdx]) =
      mappedHeaders bytes length ehdr done ++
        if (elf32Phdr bytes (phdrAt ehdr phIdx)).Mapped length then [elf32Phdr bytes (phdrAt ehdr phIdx)]
        else [] := by
  by_cases mapped : (elf32Phdr bytes (phdrAt ehdr phIdx)).Mapped length <;> simp [mappedHeaders, mapped]

theorem mappedHeaders_length (bytes : FileBytes) (length : Nat) (ehdr : Elf32Ehdr) (indices : List Nat) :
    (mappedHeaders bytes length ehdr indices).length ≤ indices.length := by
  have bound := List.length_filter_le (Elf32Phdr.Mapped length)
    (indices.map fun phIdx => elf32Phdr bytes (phdrAt ehdr phIdx))
  rwa [List.length_map] at bound

theorem elfInitSegments_returns (inv : List Elf32Phdr → ElfTable → Heap → Prop) {indices : List Nat}
    (step : ∀ mapped table heap phIdx base, phIdx ∈ indices → mapped.length < indices.length →
      (elf32Phdr bytes (phdrAt ehdr phIdx)).Mapped length →
      alloc.pick heap.blocks (elf32Phdr bytes (phdrAt ehdr phIdx)).pMemsz.toNat = some base →
      inv mapped table heap →
        inv (mapped ++ [elf32Phdr bytes (phdrAt ehdr phIdx)])
          (table.addSegment (elf32Phdr bytes (phdrAt ehdr phIdx)) base)
          (heap.loadSegment bytes (elf32Phdr bytes (phdrAt ehdr phIdx)) base))
    {table table' : ElfTable} {heap heap' : Heap} (before : inv [] table heap)
    (returned : (each (elfInitSegment alloc bytes length ehdr count) indices table).Returns heap table' heap') :
    inv (mappedHeaders bytes length ehdr indices) table' heap' := by
  apply returns_each_done (fun done => inv (mappedHeaders bytes length ehdr done)) _ before returned
  intro done phIdx table heap table' heap' member number holds ran
  rw [mappedHeaders_append]
  rcases elfInitSegment_returns ran with ⟨skipped, rfl, rfl⟩ | ⟨base, mapped, picked, rfl, rfl⟩
  · rw [if_neg skipped, List.append_nil]
    exact holds
  · rw [if_pos mapped]
    have bound := mappedHeaders_length bytes length ehdr done
    exact step _ _ _ _ _ member (by omega) mapped picked holds

theorem elfInitSegments_loaded {indices : List Nat} {table table' : ElfTable} {heap heap' : Heap}
    (fits : ∀ phIdx ∈ indices, (elf32Phdr bytes (phdrAt ehdr phIdx)).Mapped length →
      (elf32Phdr bytes (phdrAt ehdr phIdx)).pFilesz.toNat ≤ (elf32Phdr bytes (phdrAt ehdr phIdx)).pMemsz.toNat)
    (room : indices.length < count) (before : Loaded bytes count loadRegions [] table heap)
    (returned : (each (elfInitSegment alloc bytes length ehdr count) indices table).Returns heap table' heap') :
    Loaded bytes count loadRegions (mappedHeaders bytes length ehdr indices) table' heap' := by
  apply elfInitSegments_returns (Loaded bytes count loadRegions) _ before returned
  intro mapped table heap phIdx base member number isMapped picked loaded
  exact loaded.addSegment (by omega) isMapped.1 (fits phIdx member isMapped) picked

def heapRegion (vma : BitVec 32) (base : Nat) : ElfLoadRegion where
  vmaBase := vma
  memBase := base
  szReserved := progHeapSize
  tag := some regionTagHeap

def stackRegion (vma : BitVec 32) (base : Nat) : ElfLoadRegion where
  vmaBase := vma
  memBase := base
  szReserved := progStackSize
  tag := some regionTagStack

theorem elfInitBreak_steps {segments : List ElfLoadRegion} {ctx ctx' : ElfContext}
    {bssStart bssSize : BitVec 32} {heap heap' : Heap}
    (entries : ctx.loadRegions = segments ++ [({} : ElfLoadRegion), {}])
    (returned : (elfInitBreak alloc (segments.length + 2) ctx bssStart bssSize).Returns heap ctx' heap') :
    ∃ heapBase stackBase mid, (calloc alloc progHeapSize.toNat).Returns heap heapBase mid ∧
      (calloc alloc progStackSize.toNat).Returns mid stackBase heap' ∧ ctx' = { ctx with
        loadRegions := segments ++ [heapRegion (bssStart + bssSize) (heapBase.getD 0),
          stackRegion (bssStart + bssSize + progHeapSize) (stackBase.getD 0)]
        bp := bssStart + bssSize + progHeapSize
        sp := bssStart + bssSize + progHeapSize + progStackSize - 1 } := by
  rw [elfInitBreak, returns_emit_bind, returns_bind] at returned
  obtain ⟨heapBase, mid, heapCall, returned⟩ := returned
  rw [returns_emit_bind, returns_bind] at returned
  obtain ⟨stackBase, last, stackCall, returned⟩ := returned
  obtain ⟨rfl, rfl⟩ := (returns_pure _ _ _ _).mp returned
  refine ⟨heapBase, stackBase, mid, heapCall, stackCall, ?_⟩
  rw [entries, modify_last_two]
  rfl

theorem elfInitBreak_returns {segments : List ElfLoadRegion} {ctx ctx' : ElfContext}
    {bssStart bssSize : BitVec 32} {heap heap' : Heap}
    (entries : ctx.loadRegions = segments ++ [({} : ElfLoadRegion), {}])
    (returned : (elfInitBreak alloc (segments.length + 2) ctx bssStart bssSize).Returns heap ctx' heap') :
    heap.Keeps heap' ∧ ∃ heapBase stackBase, ctx' = { ctx with
      loadRegions := segments ++
        [heapRegion (bssStart + bssSize) heapBase, stackRegion (bssStart + bssSize + progHeapSize) stackBase]
      bp := bssStart + bssSize + progHeapSize
      sp := bssStart + bssSize + progHeapSize + progStackSize - 1 } := by
  obtain ⟨heapBase, stackBase, mid, heapCall, stackCall, placed⟩ := elfInitBreak_steps entries returned
  exact ⟨(calloc_keeps heapCall).trans (calloc_keeps stackCall), heapBase.getD 0, stackBase.getD 0, placed⟩

theorem indexed_fits
    (fits : ∀ phdr ∈ programHeaders bytes ehdr, phdr.Mapped length →
      phdr.pFilesz.toNat ≤ phdr.pMemsz.toNat) :
    ∀ phIdx ∈ List.range ehdr.ePhnum.toNat, (elf32Phdr bytes (phdrAt ehdr phIdx)).Mapped length →
      (elf32Phdr bytes (phdrAt ehdr phIdx)).pFilesz.toNat ≤
        (elf32Phdr bytes (phdrAt ehdr phIdx)).pMemsz.toNat :=
  fun phIdx inside => fits _ (List.mem_map.mpr ⟨phIdx, inside, rfl⟩)

theorem loaded_initial {memory : Memory Nat} {blocks : List Block} (entries : 0 < count) :
    Loaded bytes count loadRegions [] ⟨2, List.replicate count {}⟩
      ⟨memory, ⟨loadRegions, count * sizeofElfLoadRegion⟩ :: blocks⟩ where
  array := ⟨_, Nat.mul_pos entries (by decide), List.mem_cons_self⟩
  regions := ⟨[], rfl, rfl, .nil⟩

theorem take_entries {segments : List ElfLoadRegion} {table : ElfTable} {phnum : Nat}
    (number : table.phCount = segments.length + 2) (room : segments.length ≤ phnum)
    (entries : table.regions = segments ++ List.replicate (phnum + 2 - segments.length) ({} : ElfLoadRegion)) :
    table.regions.take table.phCount = segments ++ [({} : ElfLoadRegion), {}] := by
  have spare : phnum + 2 - segments.length = (phnum - segments.length) + 2 := by omega
  rw [entries, number, spare, List.take_length_add_append]
  rfl

def loadedContext (ehdr : Elf32Ehdr) (table : ElfTable) : ElfContext where
  loadRegions := table.regions.take table.phCount
  entryPoint := ehdr.eEntry

theorem elfInitLoad_steps {ctx : ElfContext} {heap heap' : Heap}
    (returned : (elfInitLoad alloc bytes length ehdr).Returns heap ctx heap') :
    ∃ bss loadRegions table reallocated heap₁ heap₂ heap₃,
      (each (elfInitSection bytes ehdr (shOffsetOf bytes ehdr)) (List.range ehdr.eShnum.toNat) (0, 0)).Returns
        heap bss heap₁ ∧
      alloc.pick heap₁.blocks ((ehdr.ePhnum.toNat + 2) * sizeofElfLoadRegion) = some loadRegions ∧
      (each (elfInitSegment alloc bytes length ehdr (ehdr.ePhnum.toNat + 2)) (List.range ehdr.ePhnum.toNat)
        ⟨2, List.replicate (ehdr.ePhnum.toNat + 2) {}⟩).Returns
          ⟨overlay heap₁.bytes loadRegions ((ehdr.ePhnum.toNat + 2) * sizeofElfLoadRegion) fun _ => 0,
            ⟨loadRegions, (ehdr.ePhnum.toNat + 2) * sizeofElfLoadRegion⟩ :: heap₁.blocks⟩ table heap₂ ∧
      (realloc alloc loadRegions (table.phCount * sizeofElfLoadRegion)).Returns heap₂ (some reallocated) heap₃ ∧
      (bss.1 = 0 ∧ ctx = loadedContext ehdr table ∧ heap₃ = heap' ∨
        bss.1 ≠ 0 ∧
          (elfInitBreak alloc table.phCount (loadedContext ehdr table) bss.1 bss.2).Returns heap₃ ctx heap') := by
  rw [elfInitLoad, readWord_bind_returns, returns_bind] at returned
  obtain ⟨bss, heap₁, sections, returned⟩ := returned
  rw [returns_bind] at returned
  obtain ⟨allocated, heap₂, called, returned⟩ := returned
  cases allocated with
  | none => exact absurd returned (returns_abort _ _ _ _)
  | some loadRegions =>
    obtain ⟨picked, rfl⟩ := calloc_returns called
    rw [returns_bind] at returned
    obtain ⟨table, heap₃, looped, returned⟩ := returned
    rw [returns_bind] at returned
    obtain ⟨reallocated, heap₄, shrunk, returned⟩ := returned
    cases reallocated with
    | none => exact absurd returned (returns_abort _ _ _ _)
    | some place =>
      refine ⟨bss, loadRegions, table, place, heap₁, heap₃, heap₄, sections, picked, looped, shrunk, ?_⟩
      by_cases unplaced : bss.1 = 0
      · simp only [if_pos unplaced] at returned
        obtain ⟨rfl, rfl⟩ := (returns_pure _ _ _ _).mp returned
        exact .inl ⟨unplaced, rfl, rfl⟩
      · simp only [if_neg unplaced] at returned
        exact .inr ⟨unplaced, returned⟩

theorem elfInitLoad_parts {ctx : ElfContext} {heap heap' : Heap}
    (returned : (elfInitLoad alloc bytes length ehdr).Returns heap ctx heap') :
    ∃ bss loadRegions table reallocated heap₁ memory blocks heap₂ heap₃,
      (each (elfInitSection bytes ehdr (shOffsetOf bytes ehdr)) (List.range ehdr.eShnum.toNat) (0, 0)).Returns
        heap bss heap₁ ∧
      (each (elfInitSegment alloc bytes length ehdr (ehdr.ePhnum.toNat + 2)) (List.range ehdr.ePhnum.toNat)
        ⟨2, List.replicate (ehdr.ePhnum.toNat + 2) {}⟩).Returns
          ⟨memory, ⟨loadRegions, (ehdr.ePhnum.toNat + 2) * sizeofElfLoadRegion⟩ :: blocks⟩ table heap₂ ∧
      (realloc alloc loadRegions (table.phCount * sizeofElfLoadRegion)).Returns heap₂ reallocated heap₃ ∧
      (bss.1 = 0 ∧ ctx = loadedContext ehdr table ∧ heap₃ = heap' ∨
        bss.1 ≠ 0 ∧
          (elfInitBreak alloc table.phCount (loadedContext ehdr table) bss.1 bss.2).Returns heap₃ ctx heap') := by
  obtain ⟨bss, loadRegions, table, place, heap₁, heap₂, heap₃, sections, -, looped, shrunk, finished⟩ :=
    elfInitLoad_steps returned
  exact ⟨bss, loadRegions, table, some place, heap₁, _, _, heap₂, heap₃, sections, looped, shrunk, finished⟩

theorem elfInitLoad_returns {ctx : ElfContext} {heap heap' : Heap}
    (fits : ∀ phdr ∈ programHeaders bytes ehdr, phdr.Mapped length →
      phdr.pFilesz.toNat ≤ phdr.pMemsz.toNat)
    (returned : (elfInitLoad alloc bytes length ehdr).Returns heap ctx heap') :
    ∃ loadRegions segments heapEntry stackEntry,
      ctx.loadRegions = segments ++ [heapEntry, stackEntry] ∧ ctx.entryPoint = ehdr.eEntry ∧
        List.Forall₂ (Elf32Phdr.Backed bytes loadRegions heap')
          ((programHeaders bytes ehdr).filter (Elf32Phdr.Mapped length)) segments := by
  obtain ⟨bss, loadRegions, table, _, _, _, _, _, _, -, looped, shrunk, finished⟩ := elfInitLoad_parts returned
  have loaded := elfInitSegments_loaded (indexed_fits fits) (by simp) (loaded_initial (by simp)) looped
  obtain ⟨segments, number, entries, backed⟩ := loaded.regions
  have bound := mappedHeaders_length bytes length ehdr (List.range ehdr.ePhnum.toNat)
  rw [backed.length_eq, List.length_range] at bound
  have taken := take_entries number bound entries
  have shrunkBacked := backed.imp fun _ _ before => before.realloc shrunk
  rcases finished with ⟨-, rfl, rfl⟩ | ⟨-, placed⟩
  · exact ⟨loadRegions, segments, _, _, taken, rfl, shrunkBacked⟩
  · rw [number] at placed
    obtain ⟨keeps, heapBase, stackBase, rfl⟩ := elfInitBreak_returns taken placed
    exact ⟨loadRegions, segments, _, _, rfl, rfl, shrunkBacked.imp fun _ _ before => before.keep keeps⟩

theorem elfInit_steps {ctx : ElfContext} {heap heap' : Heap}
    (returned : (elfInit alloc bytes length).Returns heap ctx heap') :
    ∃ place mid, alloc.pick heap.blocks sizeofElfContext = some place ∧
      mid = ⟨overlay heap.bytes place sizeofElfContext fun _ => 0, ⟨place, sizeofElfContext⟩ :: heap.blocks⟩ ∧
      (Refused bytes length ∧ ctx = {} ∧ mid = heap' ∨
        ¬Refused bytes length ∧ (elfInitLoad alloc bytes length (elf32Ehdr bytes)).Returns mid ctx heap') := by
  rw [elfInit, returns_bind] at returned
  obtain ⟨allocated, mid, called, returned⟩ := returned
  cases allocated with
  | none => exact absurd returned (returns_abort _ _ _ _)
  | some place =>
    obtain ⟨picked, placed⟩ := calloc_returns called
    refine ⟨place, mid, picked, placed, ?_⟩
    by_cases short : length < sizeofElf32Ehdr
    · simp only [if_pos short] at returned
      obtain ⟨rfl, rfl⟩ := (returns_pure _ _ _ _).mp returned
      exact .inl ⟨.inl short, rfl, rfl⟩
    simp only [if_neg short, returns_bind] at returned
    obtain ⟨ehdr, mid', read, returned⟩ := returned
    obtain ⟨rfl, rfl⟩ := readEhdr_returns.mp read
    cases recognised : (elf32Ehdr bytes).recognised with
    | true =>
      simp only [if_pos recognised] at returned
      refine .inr ⟨?_, returned⟩
      rintro (isShort | unrecognised)
      · exact short isShort
      · rw [recognised] at unrecognised
        cases unrecognised
    | false =>
      simp only [recognised, Bool.false_eq_true, if_false] at returned
      obtain ⟨rfl, rfl⟩ := (returns_pure _ _ _ _).mp returned
      exact .inl ⟨.inr recognised, rfl, rfl⟩

theorem elfInit_cases {ctx : ElfContext} {heap heap' : Heap}
    (returned : (elfInit alloc bytes length).Returns heap ctx heap') :
    Refused bytes length ∧ ctx = {} ∨
      ¬Refused bytes length ∧
        ∃ mid, (elfInitLoad alloc bytes length (elf32Ehdr bytes)).Returns mid ctx heap' := by
  obtain ⟨_, mid, -, -, ⟨refused, blank, -⟩ | ⟨accepted, loaded⟩⟩ := elfInit_steps returned
  · exact .inl ⟨refused, blank⟩
  · exact .inr ⟨accepted, mid, loaded⟩

theorem elfInit_returns {ctx : ElfContext} {heap heap' : Heap} (enough : sizeofElf32Ehdr ≤ length)
    (recognised : (elf32Ehdr bytes).recognised = true)
    (returned : (elfInit alloc bytes length).Returns heap ctx heap') :
    ∃ mid, (elfInitLoad alloc bytes length (elf32Ehdr bytes)).Returns mid ctx heap' := by
  rcases elfInit_cases returned with ⟨short | unrecognised, -⟩ | ⟨-, loaded⟩
  · exact absurd short (Nat.not_lt.mpr enough)
  · rw [recognised] at unrecognised
    cases unrecognised
  · exact loaded

end Loop

structure Elf32Phdr.WellFormed (length : Nat) (phdr : Elf32Phdr) : Prop where
  fits : phdr.pFilesz.toNat ≤ phdr.pMemsz.toNat
  inFile : phdr.pOffset.toNat + phdr.pFilesz.toNat ≤ length
  unwrapped : phdr.pOffset.toNat + phdr.pFilesz.toNat < 0x100000000

instance (length : Nat) (phdr : Elf32Phdr) : Decidable (phdr.WellFormed length) :=
  decidable_of_iff
    (phdr.pFilesz.toNat ≤ phdr.pMemsz.toNat ∧ phdr.pOffset.toNat + phdr.pFilesz.toNat ≤ length ∧
      phdr.pOffset.toNat + phdr.pFilesz.toNat < 0x100000000)
    ⟨fun ⟨fits, inFile, unwrapped⟩ => ⟨fits, inFile, unwrapped⟩,
      fun wellFormed => ⟨wellFormed.fits, wellFormed.inFile, wellFormed.unwrapped⟩⟩

structure WellFormed (bytes : FileBytes) (length : Nat) : Prop where
  enough : sizeofElf32Ehdr ≤ length
  recognised : (elf32Ehdr bytes).recognised = true
  contained : Contained bytes length (elf32Ehdr bytes)
  segments : ∀ phdr ∈ programHeaders bytes (elf32Ehdr bytes), phdr.pMemsz ≠ 0 → phdr.WellFormed length

def segmentHeaders (bytes : FileBytes) : List Elf32Phdr :=
  (programHeaders bytes (elf32Ehdr bytes)).filter (·.pMemsz ≠ 0)

theorem Elf32Phdr.WellFormed.mapped {length : Nat} {phdr : Elf32Phdr} (wellFormed : phdr.WellFormed length)
    (placed : phdr.pMemsz ≠ 0) : phdr.Mapped length := by
  refine ⟨placed, ?_⟩
  have inFile := wellFormed.inFile
  rw [BitVec.toNat_add, Nat.mod_eq_of_lt wellFormed.unwrapped]
  exact inFile

theorem WellFormed.mapped_eq {bytes : FileBytes} {length : Nat} (wellFormed : WellFormed bytes length) :
    (programHeaders bytes (elf32Ehdr bytes)).filter (Elf32Phdr.Mapped length) = segmentHeaders bytes := by
  apply List.filter_congr
  intro phdr member
  by_cases placed : phdr.pMemsz = 0
  · simp [Elf32Phdr.Mapped, placed]
  · have mapped := (wellFormed.segments phdr member placed).mapped placed
    exact (decide_eq_true mapped).trans (decide_eq_true placed).symm

theorem WellFormed.returns {bytes : FileBytes} {length : Nat} (wellFormed : WellFormed bytes length)
    {alloc : Allocator} {ctx : ElfContext} {heap heap' : Heap}
    (returned : (elfInit alloc bytes length).Returns heap ctx heap') :
    ∃ loadRegions segments heapEntry stackEntry, ctx.loadRegions = segments ++ [heapEntry, stackEntry] ∧
      List.Forall₂ (Elf32Phdr.Backed bytes loadRegions heap') (segmentHeaders bytes) segments := by
  obtain ⟨mid, loaded⟩ := elfInit_returns wellFormed.enough wellFormed.recognised returned
  have fits : ∀ phdr ∈ programHeaders bytes (elf32Ehdr bytes), phdr.Mapped length →
      phdr.pFilesz.toNat ≤ phdr.pMemsz.toNat := by
    intro phdr member mapped
    exact (wellFormed.segments phdr member mapped.1).fits
  obtain ⟨loadRegions, segments, heapEntry, stackEntry, entries, -, backed⟩ := elfInitLoad_returns fits loaded
  rw [wellFormed.mapped_eq] at backed
  exact ⟨loadRegions, segments, heapEntry, stackEntry, entries, backed⟩

def Elf32Phdr.vmaEnd (phdr : Elf32Phdr) : Nat := phdr.pVaddr.toNat + phdr.pMemsz.toNat

def Elf32Phdr.Disjoint (a b : Elf32Phdr) : Prop :=
  a.vmaEnd ≤ b.pVaddr.toNat ∨ b.vmaEnd ≤ a.pVaddr.toNat

instance (a b : Elf32Phdr) : Decidable (a.Disjoint b) := inferInstanceAs (Decidable (_ ∨ _))

structure SegmentsApart (phdrs : List Elf32Phdr) : Prop where
  bounded : ∀ phdr ∈ phdrs, phdr.vmaEnd < 0x100000000
  disjoint : phdrs.Pairwise Elf32Phdr.Disjoint

def Elf32Phdr.Imaged (bytes : FileBytes) (ctx : ElfContext) (heap : Heap) (phdr : Elf32Phdr) : Prop :=
  ∀ k < phdr.pMemsz.toNat, ∃ region ptr, region ∈ ctx.loadRegions.take (ctx.nrRegions - 2) ∧
    ctx.selected (byteAddr phdr.pVaddr k) = some region ∧
    elfVmaToMem ctx (byteAddr phdr.pVaddr k) = some ptr ∧ heap.bytes ptr = phdr.imageByte bytes k

theorem related_exists {α β : Type} {R : α → β → Prop} {as : List α} {bs : List β}
    (related : List.Forall₂ R as bs) {a : α} (member : a ∈ as) : ∃ b ∈ bs, R a b := by
  induction related with
  | nil => cases member
  | cons first rest ih =>
    rcases List.mem_cons.mp member with rfl | later
    · exact ⟨_, List.mem_cons_self, first⟩
    · obtain ⟨b, among, holds⟩ := ih later
      exact ⟨b, List.mem_cons_of_mem _ among, holds⟩

section Served

variable {bytes : FileBytes} {loadRegions : Nat} {heap : Heap} {phdrs : List Elf32Phdr}
  {segments : List ElfLoadRegion}

theorem Elf32Phdr.Backed.vmaEnd {phdr : Elf32Phdr} {region : ElfLoadRegion}
    (backed : phdr.Backed bytes loadRegions heap region) : region.vmaEnd = phdr.vmaEnd := by
  rw [ElfLoadRegion.vmaEnd, backed.vma, backed.size, Elf32Phdr.vmaEnd]

theorem backed_disjoint (backed : List.Forall₂ (Elf32Phdr.Backed bytes loadRegions heap) phdrs segments)
    (disjoint : phdrs.Pairwise Elf32Phdr.Disjoint) : segments.Pairwise ElfLoadRegion.Disjoint := by
  induction backed with
  | nil => exact .nil
  | cons first rest ih =>
    obtain ⟨fromFirst, others⟩ := List.pairwise_cons.mp disjoint
    refine List.pairwise_cons.mpr ⟨?_, ih others⟩
    intro region among
    obtain ⟨phdr, member, holds⟩ := related_exists rest.flip among
    have apart := fromFirst phdr member
    rwa [Elf32Phdr.Disjoint, ← first.vmaEnd, ← holds.vmaEnd, ← first.vma, ← holds.vma] at apart

theorem backed_served {ctx : ElfContext} {heapEntry stackEntry : ElfLoadRegion}
    (backed : List.Forall₂ (Elf32Phdr.Backed bytes loadRegions heap) phdrs segments)
    (apart : SegmentsApart phdrs) (entries : ctx.loadRegions = segments ++ [heapEntry, stackEntry])
    {phdr : Elf32Phdr} (member : phdr ∈ phdrs) : phdr.Imaged bytes ctx heap := by
  obtain ⟨region, among, holds⟩ := related_exists backed member
  have bounded := apart.bounded phdr member
  intro k inside
  have address := ElfContext.byteAddr_toNat phdr.pVaddr k (by rw [Elf32Phdr.vmaEnd] at bounded; omega)
  have hit : region.hit (byteAddr phdr.pVaddr k) = true := by
    rw [ElfLoadRegion.hit_iff, holds.vma, holds.size, address]
    rw [Elf32Phdr.vmaEnd] at bounded
    omega
  have selected : ctx.selected (byteAddr phdr.pVaddr k) = some region := by
    rw [ElfContext.selected, entries, List.find?_append,
      find_hit_eq (backed_disjoint backed apart.disjoint) among hit]
    rfl
  refine ⟨region, region.memBase + k, ?_, selected, ?_, holds.content k inside⟩
  · simpa [ElfContext.nrRegions, entries] using among
  · rw [elfVmaToMem_eq, selected, Option.map_some, region.memAddr_eq _ (by rw [holds.vma, address]; omega),
      holds.vma, address, Nat.add_sub_cancel_left]

end Served

theorem elfInit_image (alloc : Allocator) (generous : alloc.Generous) (bytes : FileBytes) (length : Nat)
    (wellFormed : WellFormed bytes length) (apart : SegmentsApart (segmentHeaders bytes)) (heap : Heap) :
    (∃ ctx heap', (elfInit alloc bytes length).Returns heap ctx heap' ∧
        ctx.nrRegions = (segmentHeaders bytes).length + 2 ∧
        ∀ phdr ∈ segmentHeaders bytes, phdr.Imaged bytes ctx heap') ∧
      ∀ idx count, .index idx count ∈ (elfInit alloc bytes length heap).log → idx < count := by
  constructor
  · obtain ⟨ctx, heap', returned⟩ := elfInit_completes generous heap
    obtain ⟨loadRegions, segments, heapEntry, stackEntry, entries, backed⟩ := wellFormed.returns returned
    refine ⟨ctx, heap', returned, ?_, ?_⟩
    · rw [ElfContext.nrRegions, entries, backed.length_eq]
      simp
    · intro phdr member
      exact backed_served backed apart entries member
  · intro idx count used
    exact elfInit_indices alloc bytes length heap _ used

-- A header without memory, and two segments of which the first one has a zero-filled tail.
def sampleHeaders : List Elf32Phdr := [⟨1, 0, 0, 16, 0⟩, ⟨1, 0, 0x1000, 16, 32⟩, ⟨1, 4, 0x2000, 8, 8⟩]

def sampleFile : FileBytes := fileOf (elfFile 0x1000 0 sampleHeaders)

theorem sampleFile_headers : programHeaders sampleFile (elf32Ehdr sampleFile) = sampleHeaders := by decide

theorem sampleFile_wellFormed : WellFormed sampleFile 148 where
  enough := by decide
  recognised := by decide
  contained := {
    strtab := by decide
    sections := fun i inside => absurd inside (Nat.not_lt_zero i)
    segments := by
      have number : (elf32Ehdr sampleFile).ePhnum.toNat = 3 := by decide
      rw [number]
      decide }
  segments := by
    rw [sampleFile_headers]
    decide

theorem sampleFile_apart : SegmentsApart (segmentHeaders sampleFile) := by
  rw [segmentHeaders, sampleFile_headers]
  exact ⟨by decide, by decide⟩

theorem elfInit_image_sample :
    (∃ ctx heap', (elfInit bumpAllocator sampleFile 148).Returns ⟨fun _ => 0, []⟩ ctx heap' ∧
        ctx.nrRegions = (segmentHeaders sampleFile).length + 2 ∧
        ∀ phdr ∈ segmentHeaders sampleFile, phdr.Imaged sampleFile ctx heap') ∧
      ∀ idx count, .index idx count ∈ (elfInit bumpAllocator sampleFile 148 ⟨fun _ => 0, []⟩).log →
        idx < count :=
  elfInit_image bumpAllocator bumpAllocator_generous sampleFile 148 sampleFile_wellFormed sampleFile_apart
    ⟨fun _ => 0, []⟩

end Urv86t
