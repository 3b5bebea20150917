import Urv86t.Emulator.Elf
import Urv86t.Emulator.Platform
import Urv86t.Shared.ByteMemory
import Urv86t.Shared.Traced

set_option autoImplicit false

namespace Urv86t

open ByteMemory Traced Traced.Program

structure Block where
  base : Nat
  size : Nat
  deriving DecidableEq, Repr

structure Heap where
  bytes : Memory Nat
  blocks : List Block

structure Allocator where
  pick : List Block → Nat → Option Nat
  fresh : ∀ {blocks size base}, pick blocks size = some base →
    ∀ block ∈ blocks, base + size ≤ block.base ∨ block.base + block.size ≤ base
  nonNull : ∀ {blocks size base}, pick blocks size = some base → base ≠ 0

/--
What `elf_init` does to memory it did not make up itself: bytes of the file it reads, the `memcpy` of `len`
bytes to `dst` inside `block`, and the indices it uses into a table of `count` regions.
-/
inductive ElfEvent where
  | read (off : Int) (len : Nat)
  | copy (dst len : Nat) (block : Block)
  | index (idx count : Nat)
  deriving DecidableEq, Repr

abbrev ElfM := Program ElfEvent Abort Heap

def calloc (alloc : Allocator) (size : Nat) : ElfM (Option Nat) :=
  access fun heap =>
    match alloc.pick heap.blocks size with
    | none => (none, heap)
    | some base =>
      (some base, { bytes := overlay heap.bytes base size fun _ => 0, blocks := ⟨base, size⟩ :: heap.blocks })

/-- The contents of the block move along; they are not part of `bytes` where this is used. -/
def realloc (alloc : Allocator) (old size : Nat) : ElfM (Option Nat) :=
  access fun heap =>
    let others := heap.blocks.filter (·.base ≠ old)
    match alloc.pick others size with
    | none => (none, heap)
    | some base => (some base, { heap with blocks := ⟨base, size⟩ :: others })

/-- The file and whatever lies around it, by the offset from its first byte. -/
abbrev FileBytes := Memory Int

def fileCell (off : Int) (k : Nat) : Int := off + k

def byteAt (bytes : FileBytes) (off : Int) : BitVec 8 := bytes off
def halfAt (bytes : FileBytes) (off : Int) : BitVec 16 := load bytes (fileCell off) 2
def wordAt (bytes : FileBytes) (off : Int) : BitVec 32 := load bytes (fileCell off) 4

def readByte (bytes : FileBytes) (off : Int) : ElfM (BitVec 8) := do
  emit (.read off 1)
  return byteAt bytes off

def readWord (bytes : FileBytes) (off : Int) : ElfM (BitVec 32) := do
  emit (.read off 4)
  return wordAt bytes off

structure Elf32Ehdr where
  eIdent : Fin 16 → BitVec 8
  eMachine : BitVec 16
  eEntry : BitVec 32
  ePhoff : BitVec 32
  eShoff : BitVec 32
  ePhentsize : BitVec 16
  ePhnum : BitVec 16
  eShentsize : BitVec 16
  eShnum : BitVec 16
  eShstrndx : BitVec 16

def sizeofElf32Ehdr : Nat := 52

def elf32Ehdr (bytes : FileBytes) : Elf32Ehdr where
  eIdent i := byteAt bytes i
  eMachine := halfAt bytes 18
  eEntry := wordAt bytes 24
  ePhoff := wordAt bytes 28
  eShoff := wordAt bytes 32
  ePhentsize := halfAt bytes 42
  ePhnum := halfAt bytes 44
  eShentsize := halfAt bytes 46
  eShnum := halfAt bytes 48
  eShstrndx := halfAt bytes 50

def readEhdr (bytes : FileBytes) : ElfM Elf32Ehdr := do
  emit (.read 0 sizeofElf32Ehdr)
  return elf32Ehdr bytes

/-- The checks behind the first seven `return ctx`, but for the length. -/
def Elf32Ehdr.recognised (ehdr : Elf32Ehdr) : Bool :=
  ehdr.eIdent 0 = 0x7f && ehdr.eIdent 1 = 0x45 && ehdr.eIdent 2 = 0x4c && ehdr.eIdent 3 = 0x46
    -- EI_ELFCLASS32 or EI_ELFCLASS64
    && (ehdr.eIdent 4 = 1 || ehdr.eIdent 4 = 2)
    -- EI_ELFDATA2LSB or EI_ELFDATA2MSB
    && (ehdr.eIdent 5 = 1 || ehdr.eIdent 5 = 2)
    -- EI_EV_CURRENT
    && ehdr.eIdent 6 = 1
    -- Every machine but ET_NONE passes.
    && ehdr.eMachine ≠ 0
    && ehdr.ePhoff ≠ 0

def bssName : List (BitVec 8) := [0x2e, 0x62, 0x73, 0x73, 0x00]

/-- `!strcmp` with a literal; the comparison stops at the first difference. -/
def strcmpEq (bytes : FileBytes) (off : Int) : List (BitVec 8) → ElfM Bool
  | [] => pure true
  | c :: rest => do
    let b ← readByte bytes off
    if b = c then strcmpEq bytes (off + 1) rest
    else return false

/-- Where the header of the string table is, the product being one of `int`. -/
def strtabEnt (ehdr : Elf32Ehdr) : Int :=
  ehdr.eShoff.toNat + (ehdr.eShstrndx.setWidth 32 * ehdr.eShentsize.setWidth 32).toInt

def shEntAt (ehdr : Elf32Ehdr) (shIdx : Nat) : Int :=
  ehdr.eShoff.toNat + (shIdx * ehdr.eShentsize.toNat : Nat)

/-- The body of the first loop of `elf_init`; `bss` is `bss_start` and `bss_size`. -/
def elfInitSection (bytes : FileBytes) (ehdr : Elf32Ehdr) (strtab : Int) (shIdx : Nat)
    (bss : BitVec 32 × BitVec 32) : ElfM (BitVec 32 × BitVec 32) := do
  let shEnt := shEntAt ehdr shIdx
  let shAddr ← readWord bytes (shEnt + 12)
  if shAddr = 0 then return bss
  else
    let shName ← readWord bytes shEnt
    let isBss ← strcmpEq bytes (strtab + shName.toNat) bssName
    if isBss then
      let shSize ← readWord bytes (shEnt + 20)
      return (shAddr, shSize)
    else return bss

def sizeofElfContext : Nat := 32
def sizeofElfLoadRegion : Nat := 32

def phdrAt (ehdr : Elf32Ehdr) (phIdx : Nat) : Int :=
  ehdr.ePhoff.toNat + (phIdx * ehdr.ePhentsize.toNat : Nat)

def memcpyFile (bytes : FileBytes) (block : Block) (off : Int) (len : Nat) : ElfM Unit := do
  emit (.read off len)
  emit (.copy block.base len block)
  access fun heap => ((), { heap with bytes := overlay heap.bytes block.base len fun k => byteAt bytes (off + k) })

structure ElfTable where
  phCount : Nat
  regions : List ElfLoadRegion

/-- The body of the second loop of `elf_init`, on a table of `count` entries. -/
def elfInitSegment (alloc : Allocator) (bytes : FileBytes) (length : Nat) (ehdr : Elf32Ehdr) (count : Nat)
    (phIdx : Nat) (table : ElfTable) : ElfM ElfTable := do
  let phdr := phdrAt ehdr phIdx
  let pMemsz ← readWord bytes (phdr + 20)
  if pMemsz = 0 then return table
  else
    let pOffset ← readWord bytes (phdr + 4)
    let pFilesz ← readWord bytes (phdr + 16)
    -- The sum is a 32-bit one.
    if (pOffset + pFilesz).toNat > length then return table
    else
      emit (.index (table.phCount - 2) count)
      let pVaddr ← readWord bytes (phdr + 8)
      match ← calloc alloc pMemsz.toNat with
      | none => abort (.fatal "failed to allocate context LOAD region\n")
      | some base =>
        memcpyFile bytes ⟨base, pMemsz.toNat⟩ pOffset.toNat pFilesz.toNat
        return {
          phCount := table.phCount + 1
          regions := table.regions.modify (table.phCount - 2) fun region =>
            { region with vmaBase := pVaddr, memBase := base, szReserved := pMemsz, tag := some "LOAD" } }

def elfInitBreak (alloc : Allocator) (phCount : Nat) (ctx : ElfContext) (bssStart bssSize : BitVec 32) :
    ElfM ElfContext := do
  emit (.index (phCount - 2) phCount)
  -- Neither of these two allocations is checked.
  let heapBase ← calloc alloc progHeapSize.toNat
  let heapVma := bssStart + bssSize
  let regions := ctx.loadRegions.modify (phCount - 2) fun region =>
    { region with
      vmaBase := heapVma, memBase := heapBase.getD 0, szReserved := progHeapSize, tag := some regionTagHeap }
  emit (.index (phCount - 1) phCount)
  let stackBase ← calloc alloc progStackSize.toNat
  let stackVma := heapVma + progHeapSize
  let regions := regions.modify (phCount - 1) fun region =>
    { region with
      vmaBase := stackVma, memBase := stackBase.getD 0, szReserved := progStackSize
      tag := some regionTagStack }
  return { ctx with loadRegions := regions, bp := stackVma, sp := stackVma + progStackSize - 1 }

def elfInitLoad (alloc : Allocator) (bytes : FileBytes) (length : Nat) (ehdr : Elf32Ehdr) : ElfM ElfContext := do
  let shOffset ← readWord bytes (strtabEnt ehdr + 16)
  let bss ← each (elfInitSection bytes ehdr shOffset.toNat) (List.range ehdr.eShnum.toNat) (0, 0)
  let count := ehdr.ePhnum.toNat + 2
  match ← calloc alloc (count * sizeofElfLoadRegion) with
  | none => abort (.fatal "failed to allocate ELF LOAD region array\n")
  | some loadRegions =>
    let table ← each (elfInitSegment alloc bytes length ehdr count) (List.range ehdr.ePhnum.toNat)
      ⟨2, List.replicate count {}⟩
    match ← realloc alloc loadRegions (table.phCount * sizeofElfLoadRegion) with
    | none => abort (.fatal "failed to realloc-downsize LOAD regions\n")
    | some _ =>
      let ctx : ElfContext :=
        { loadRegions := table.regions.take table.phCount, entryPoint := ehdr.eEntry }
      if bss.1 = 0 then return ctx
      else elfInitBreak alloc table.phCount ctx bss.1 bss.2

def elfInit (alloc : Allocator) (bytes : FileBytes) (length : Nat) : ElfM ElfContext := do
  match ← calloc alloc sizeofElfContext with
  | none => abort (.fatal "failed to allocate ELF parsing context\n")
  | some _ =>
    if length < sizeofElf32Ehdr then return {}
    else
      let ehdr ← readEhdr bytes
      if ehdr.recognised then elfInitLoad alloc bytes length ehdr
      else return {}

end Urv86t
