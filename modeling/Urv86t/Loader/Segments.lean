import Urv86t.Emulator.ElfInit

set_option autoImplicit false

namespace Urv86t

open ByteMemory Traced Traced.Program

/-- `Elf32_Phdr` as far as it matters; `p_type` is one of the fields the loader never reads. -/
structure Elf32Phdr where
  pType : BitVec 32
  pOffset : BitVec 32
  pVaddr : BitVec 32
  pFilesz : BitVec 32
  pMemsz : BitVec 32
  deriving DecidableEq

def elf32Phdr (bytes : FileBytes) (phdr : Int) : Elf32Phdr where
  pType := wordAt bytes phdr
  pOffset := wordAt bytes (phdr + 4)
  pVaddr := wordAt bytes (phdr + 8)
  pFilesz := wordAt bytes (phdr + 16)
  pMemsz := wordAt bytes (phdr + 20)

def programHeaders (bytes : FileBytes) (ehdr : Elf32Ehdr) : List Elf32Phdr :=
  (List.range ehdr.ePhnum.toNat).map fun phIdx => elf32Phdr bytes (phdrAt ehdr phIdx)

def littleEndian (n v : Nat) : List (BitVec 8) := (List.range n).map fun k => BitVec.ofNat 8 (v >>> (8 * k))

def Elf32Phdr.file (phdr : Elf32Phdr) : List (BitVec 8) :=
  littleEndian 4 phdr.pType.toNat ++ littleEndian 4 phdr.pOffset.toNat ++ littleEndian 4 phdr.pVaddr.toNat ++
    littleEndian 4 phdr.pVaddr.toNat ++ littleEndian 4 phdr.pFilesz.toNat ++
    littleEndian 4 phdr.pMemsz.toNat ++ littleEndian 4 5 ++ littleEndian 4 4

def elfFile (entry shoff : Nat) (phdrs : List Elf32Phdr) : List (BitVec 8) :=
  [0x7f, 0x45, 0x4c, 0x46, 1, 1, 1, 0, 0, 0, 0, 0, 0, 0, 0, 0] ++ littleEndian 2 2 ++ littleEndian 2 243 ++
    littleEndian 4 1 ++ littleEndian 4 entry ++ littleEndian 4 52 ++ littleEndian 4 shoff ++
    littleEndian 4 0 ++ littleEndian 2 52 ++ littleEndian 2 32 ++ littleEndian 2 phdrs.length ++
    littleEndian 2 40 ++ littleEndian 2 0 ++ littleEndian 2 0 ++ phdrs.flatMap Elf32Phdr.file

def fileOf (contents : List (BitVec 8)) : FileBytes := fun off =>
  if off < 0 then 0 else contents.getD off.toNat 0

def Elf32Phdr.Mapped (length : Nat) (phdr : Elf32Phdr) : Prop :=
  phdr.pMemsz ≠ 0 ∧ (phdr.pOffset + phdr.pFilesz).toNat ≤ length

instance (length : Nat) : DecidablePred (Elf32Phdr.Mapped length) := fun _ =>
  inferInstanceAs (Decidable (_ ∧ _))

theorem Elf32Phdr.mapped_iff (phdr : Elf32Phdr) (length : Nat) (placed : phdr.pMemsz ≠ 0) :
    phdr.Mapped length ↔ ¬(phdr.pOffset + phdr.pFilesz).toNat > length :=
  (and_iff_right placed).trans Nat.not_lt.symm

def Heap.loadSegment (heap : Heap) (bytes : FileBytes) (phdr : Elf32Phdr) (base : Nat) : Heap where
  bytes := overlay (overlay heap.bytes base phdr.pMemsz.toNat fun _ => 0) base phdr.pFilesz.toNat fun k =>
    byteAt bytes (phdr.pOffset.toNat + k)
  blocks := ⟨base, phdr.pMemsz.toNat⟩ :: heap.blocks

def ElfTable.addSegment (table : ElfTable) (phdr : Elf32Phdr) (base : Nat) : ElfTable where
  phCount := table.phCount + 1
  regions := table.regions.modify (table.phCount - 2) fun region =>
    { region with vmaBase := phdr.pVaddr, memBase := base, szReserved := phdr.pMemsz, tag := some "LOAD" }

section Returns

variable {alloc : Allocator} {bytes : FileBytes} {length count : Nat} {ehdr : Elf32Ehdr} {heap heap' : Heap}

@[simp] theorem readByte_returns {off : Int} {b : BitVec 8} :
    (readByte bytes off).Returns heap b heap' ↔ byteAt bytes off = b ∧ heap = heap' := by
  simp [readByte, returns_bind]

@[simp] theorem readWord_returns {off : Int} {w : BitVec 32} :
    (readWord bytes off).Returns heap w heap' ↔ wordAt bytes off = w ∧ heap = heap' := by
  simp [readWord, returns_bind]

@[simp] theorem readEhdr_returns :
    (readEhdr bytes).Returns heap ehdr heap' ↔ elf32Ehdr bytes = ehdr ∧ heap = heap' := by
  simp [readEhdr, returns_bind]

theorem readWord_bind_returns {α : Type} {off : Int} {rest : BitVec 32 → ElfM α} {a : α} :
    (readWord bytes off >>= rest).Returns heap a heap' ↔ (rest (wordAt bytes off)).Returns heap a heap' := by
  rw [returns_bind]
  constructor
  · rintro ⟨w, mid, read, returned⟩
    obtain ⟨rfl, rfl⟩ := readWord_returns.mp read
    exact returned
  · intro returned
    exact ⟨_, heap, readWord_returns.mpr ⟨rfl, rfl⟩, returned⟩

theorem calloc_returns {size base : Nat} (returned : (calloc alloc size).Returns heap (some base) heap') :
    alloc.pick heap.blocks size = some base ∧
      heap' = ⟨overlay heap.bytes base size fun _ => 0, ⟨base, size⟩ :: heap.blocks⟩ := by
  rw [calloc, returns_access] at returned
  cases picked : alloc.pick heap.blocks size with
  | none =>
    rw [picked] at returned
    cases returned
  | some place =>
    rw [picked] at returned
    cases returned
    exact ⟨rfl, rfl⟩

theorem elfInitSegment_returns {phIdx : Nat} {table table' : ElfTable}
    (returned : (elfInitSegment alloc bytes length ehdr count phIdx table).Returns heap table' heap') :
    (¬(elf32Phdr bytes (phdrAt ehdr phIdx)).Mapped length ∧ table' = table ∧ heap' = heap) ∨
      ∃ base, (elf32Phdr bytes (phdrAt ehdr phIdx)).Mapped length ∧
        alloc.pick heap.blocks (elf32Phdr bytes (phdrAt ehdr phIdx)).pMemsz.toNat = some base ∧
        table' = table.addSegment (elf32Phdr bytes (phdrAt ehdr phIdx)) base ∧
        heap' = heap.loadSegment bytes (elf32Phdr bytes (phdrAt ehdr phIdx)) base := by
  rw [elfInitSegment, readWord_bind_returns] at returned
  by_cases empty : wordAt bytes (phdrAt ehdr phIdx + 20) = 0
  · rw [if_pos empty, returns_pure] at returned
    obtain ⟨rfl, rfl⟩ := returned
    exact .inl ⟨fun mapped => mapped.1 empty, rfl, rfl⟩
  rw [if_neg empty, readWord_bind_returns, readWord_bind_returns] at returned
  have mapped_iff := (elf32Phdr bytes (phdrAt ehdr phIdx)).mapped_iff length empty
  by_cases outside :
      (wordAt bytes (phdrAt ehdr phIdx + 4) + wordAt bytes (phdrAt ehdr phIdx + 16)).toNat > length
  · rw [if_pos outside, returns_pure] at returned
    obtain ⟨rfl, rfl⟩ := returned
    exact .inl ⟨fun mapped => mapped_iff.mp mapped outside, rfl, rfl⟩
  rw [if_neg outside, returns_emit_bind, readWord_bind_returns, returns_bind] at returned
  obtain ⟨allocated, mid, called, returned⟩ := returned
  cases allocated with
  | none => exact absurd returned (returns_abort _ _ _ _)
  | some base =>
    obtain ⟨picked, rfl⟩ := calloc_returns called
    simp only [memcpyFile, returns_bind, returns_emit, returns_access, returns_pure] at returned
    obtain ⟨_, _, ⟨_, _, rfl, _, _, rfl, copied⟩, rfl, rfl⟩ := returned
    cases copied
    exact .inr ⟨base, mapped_iff.mpr outside, picked, rfl, rfl⟩

end Returns

end Urv86t
