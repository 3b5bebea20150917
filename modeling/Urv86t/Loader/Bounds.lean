import Urv86t.Loader.Completion
import Urv86t.Loader.Trace

set_option autoImplicit false

namespace Urv86t

open Traced Traced.Program

def ElfEvent.InBounds (length : Nat) : ElfEvent → Prop
  | .read off len => ∀ k : Nat, k < len → 0 ≤ off + k ∧ off + k < length
  | .copy dst len block => ∀ k : Nat, k < len → block.base ≤ dst + k ∧ dst + k < block.base + block.size
  | .index _ _ => True

theorem read_inBounds_iff {length : Nat} {off : Int} {len : Nat} (some_byte : 0 < len) :
    (ElfEvent.read off len).InBounds length ↔ 0 ≤ off ∧ off + len ≤ length := by
  constructor
  · intro inside
    have first := inside 0 some_byte
    have last := inside (len - 1) (by omega)
    omega
  · rintro ⟨low, high⟩ k inside
    omega

theorem copy_inBounds_iff {length base len size : Nat} :
    (ElfEvent.copy base len ⟨base, size⟩).InBounds length ↔ len ≤ size := by
  constructor
  · intro inside
    by_cases nothing : len = 0
    · omega
    · have last := inside (len - 1) (by omega)
      simp only at last
      omega
  · intro fits k inside
    simp only
    omega

theorem inBounds_judges (length : Nat) : Judges (ElfEvent.InBounds length) where
  indexed _ := trivial
  placed := copy_inBounds_iff.trans copy_inBounds_iff.symm

def Refused (bytes : FileBytes) (length : Nat) : Prop :=
  length < sizeofElf32Ehdr ∨ (elf32Ehdr bytes).recognised = false

/-- As much of the name at `off` as is compared with `.bss` lies in the file. -/
def NameContained (bytes : FileBytes) (length off : Nat) : Prop :=
  ∀ k < bssName.length, (∀ j < k, byteAt bytes (off + j : Nat) = bssName.getD j 0) → off + k < length

def SectionContained (bytes : FileBytes) (length strtab shEnt : Nat) : Prop :=
  shEnt + 16 ≤ length ∧
    (wordAt bytes (shEnt + 12 : Nat) ≠ 0 →
      NameContained bytes length (strtab + (wordAt bytes shEnt).toNat) ∧
        (nameIs bytes (strtab + (wordAt bytes shEnt).toNat : Nat) bssName → shEnt + 24 ≤ length))

def SegmentContained (bytes : FileBytes) (length phdr : Nat) : Prop :=
  phdr + 24 ≤ length ∧
    ((elf32Phdr bytes phdr).Mapped length → (elf32Phdr bytes phdr).pFilesz ≠ 0 →
      (elf32Phdr bytes phdr).pOffset.toNat + (elf32Phdr bytes phdr).pFilesz.toNat ≤ length ∧
        (elf32Phdr bytes phdr).pFilesz.toNat ≤ (elf32Phdr bytes phdr).pMemsz.toNat)

instance (bytes : FileBytes) (length phdr : Nat) : Decidable (SegmentContained bytes length phdr) :=
  inferInstanceAs (Decidable (_ ∧ (_ → _ → _)))

structure Contained (bytes : FileBytes) (length : Nat) (ehdr : Elf32Ehdr) : Prop where
  strtab : 0 ≤ strtabEnt ehdr + 16 ∧ strtabEnt ehdr + 20 ≤ length
  sections : ∀ i < ehdr.eShnum.toNat,
    SectionContained bytes length (wordAt bytes (strtabEnt ehdr + 16)).toNat
      (ehdr.eShoff.toNat + i * ehdr.eShentsize.toNat)
  segments : ∀ i < ehdr.ePhnum.toNat,
    SegmentContained bytes length (ehdr.ePhoff.toNat + i * ehdr.ePhentsize.toNat)

section Demands

variable {bytes : FileBytes} {length : Nat}

theorem nameDemand_iff (safe : ElfEvent → Prop) (off : Int) (name : List (BitVec 8)) :
    nameDemand safe bytes off name ↔
      ∀ k < name.length, (∀ j < k, byteAt bytes (off + (j : Nat)) = name.getD j 0) →
        safe (.read (off + (k : Nat)) 1) := by
  induction name generalizing off with
  | nil => simp [nameDemand]
  | cons c rest ih =>
    rw [nameDemand, ih]
    constructor
    · rintro ⟨first, others⟩ k inside matched
      cases k with
      | zero => simpa using first
      | succ k =>
        have head : byteAt bytes off = c := by simpa using matched 0 (Nat.succ_pos k)
        have later := others head k (Nat.lt_of_succ_lt_succ inside) fun j before => by
          have shifted := matched (j + 1) (Nat.succ_lt_succ before)
          simpa [Int.add_assoc, Int.add_comm, Int.add_left_comm] using shifted
        simpa [Int.add_assoc, Int.add_comm, Int.add_left_comm] using later
    · intro all
      refine ⟨by simpa using all 0 (Nat.succ_pos _) fun j before => absurd before (Nat.not_lt_zero j), ?_⟩
      intro head k inside matched
      have later := all (k + 1) (Nat.succ_lt_succ inside) fun j before => by
        cases j with
        | zero => simpa using head
        | succ j =>
          have shifted := matched j (Nat.lt_of_succ_lt_succ before)
          simpa [Int.add_assoc, Int.add_comm, Int.add_left_comm] using shifted
      simpa [Int.add_assoc, Int.add_comm, Int.add_left_comm] using later

theorem nameDemand_inBounds_iff (off : Nat) :
    nameDemand (ElfEvent.InBounds length) bytes off bssName ↔ NameContained bytes length off := by
  rw [nameDemand_iff]
  apply forall₂_congr
  intro k inside
  rw [read_inBounds_iff Nat.one_pos]
  apply imp_congr
  · rfl
  · constructor
    · rintro ⟨-, high⟩
      omega
    · intro high
      omega

theorem read_field_iff (base field : Nat) :
    (ElfEvent.read (base + field : Nat) 4).InBounds length ↔ base + field + 4 ≤ length := by
  rw [read_inBounds_iff (by omega)]
  omega

theorem sectionDemand_inBounds_iff (strtab shEnt : Nat) :
    sectionDemand (ElfEvent.InBounds length) bytes strtab shEnt ↔
      SectionContained bytes length strtab shEnt := by
  have addr : (ElfEvent.read (shEnt + 12) 4).InBounds length ↔ shEnt + 16 ≤ length := read_field_iff shEnt 12
  have name : (ElfEvent.read shEnt 4).InBounds length ↔ shEnt + 4 ≤ length := read_field_iff shEnt 0
  have size : (ElfEvent.read (shEnt + 20) 4).InBounds length ↔ shEnt + 24 ≤ length := read_field_iff shEnt 20
  have spelled : nameDemand (ElfEvent.InBounds length) bytes (strtab + (wordAt bytes shEnt).toNat) bssName ↔
      NameContained bytes length (strtab + (wordAt bytes shEnt).toNat) := nameDemand_inBounds_iff _
  rw [sectionDemand, SectionContained, addr, name, size, spelled]
  -- The name field lies before the address field.
  constructor
  · rintro ⟨high, rest⟩
    exact ⟨high, fun placed => (rest placed).2⟩
  · rintro ⟨high, rest⟩
    exact ⟨high, fun placed => ⟨by omega, rest placed⟩⟩

theorem segmentDemand_inBounds_iff (phdr : Nat) :
    segmentDemand (ElfEvent.InBounds length) bytes length phdr ↔ SegmentContained bytes length phdr := by
  have offset : (ElfEvent.read (phdr + 4) 4).InBounds length ↔ phdr + 8 ≤ length := read_field_iff phdr 4
  have vaddr : (ElfEvent.read (phdr + 8) 4).InBounds length ↔ phdr + 12 ≤ length := read_field_iff phdr 8
  have filesz : (ElfEvent.read (phdr + 16) 4).InBounds length ↔ phdr + 20 ≤ length := read_field_iff phdr 16
  have memsz : (ElfEvent.read (phdr + 20) 4).InBounds length ↔ phdr + 24 ≤ length := read_field_iff phdr 20
  rw [segmentDemand, SegmentContained, offset, vaddr, filesz, memsz]
  generalize elf32Phdr bytes phdr = segment
  have source : segment.pFilesz ≠ 0 →
      ((ElfEvent.read segment.pOffset.toNat segment.pFilesz.toNat).InBounds length ↔
        segment.pOffset.toNat + segment.pFilesz.toNat ≤ length) := by
    intro something
    have positive : 0 < segment.pFilesz.toNat :=
      Nat.pos_of_ne_zero fun zero => something (BitVec.eq_of_toNat_eq zero)
    rw [read_inBounds_iff positive]
    omega
  have nothing : segment.pFilesz = 0 → segment.pFilesz.toNat = 0 := fun zero => by rw [zero]; rfl
  rw [copy_inBounds_iff]
  constructor
  · rintro ⟨high, rest⟩
    refine ⟨high, ?_⟩
    intro mapped something
    obtain ⟨-, -, copied⟩ := rest mapped.1
    obtain ⟨-, read, room⟩ := copied mapped
    exact ⟨(source something).mp read, room⟩
  · rintro ⟨high, rest⟩
    refine ⟨high, ?_⟩
    intro placed
    refine ⟨by omega, by omega, ?_⟩
    intro mapped
    refine ⟨by omega, ?_⟩
    by_cases empty : segment.pFilesz = 0
    · rw [nothing empty]
      exact ⟨fun k inside => absurd inside (Nat.not_lt_zero k), Nat.zero_le _⟩
    · obtain ⟨read, room⟩ := rest mapped empty
      exact ⟨(source empty).mpr read, room⟩

theorem loadDemand_inBounds_iff (ehdr : Elf32Ehdr) :
    LoadDemand (ElfEvent.InBounds length) bytes length ehdr ↔ Contained bytes length ehdr := by
  have strtab : (ElfEvent.read (strtabEnt ehdr + 16) 4).InBounds length ↔
      0 ≤ strtabEnt ehdr + 16 ∧ strtabEnt ehdr + 20 ≤ length := by
    rw [read_inBounds_iff (by omega)]
    omega
  constructor
  · rintro ⟨atStrtab, sections, segments⟩
    refine ⟨strtab.mp atStrtab, ?_, ?_⟩
    · intro i inside
      exact (sectionDemand_inBounds_iff _ _).mp (sections i inside)
    · intro i inside
      exact (segmentDemand_inBounds_iff _).mp (segments i inside)
  · rintro ⟨atStrtab, sections, segments⟩
    refine ⟨strtab.mpr atStrtab, ?_, ?_⟩
    · intro i inside
      exact (sectionDemand_inBounds_iff _ _).mpr (sections i inside)
    · intro i inside
      exact (segmentDemand_inBounds_iff _).mpr (segments i inside)

theorem initDemand_inBounds_iff :
    InitDemand (ElfEvent.InBounds length) bytes length ↔
      Refused bytes length ∨ Contained bytes length (elf32Ehdr bytes) := by
  rw [InitDemand, loadDemand_inBounds_iff, Refused]
  have header : (ElfEvent.read 0 sizeofElf32Ehdr).InBounds length ↔ sizeofElf32Ehdr ≤ length := by
    rw [read_inBounds_iff (by decide)]
    omega
  rw [header]
  constructor
  · intro demand
    by_cases short : length < sizeofElf32Ehdr
    · exact .inl (.inl short)
    obtain ⟨-, rest⟩ := demand (Nat.le_of_not_lt short)
    cases recognised : (elf32Ehdr bytes).recognised with
    | false => exact .inl (.inr rfl)
    | true => exact .inr (rest recognised)
  · rintro ((short | unrecognised) | contained) enough
    · exact absurd enough (Nat.not_le.mpr short)
    · exact ⟨enough, fun recognised => absurd recognised (by rw [unrecognised]; decide)⟩
    · exact ⟨enough, fun _ => contained⟩

end Demands

theorem elfInit_allSafe_iff (safe : ElfEvent → Prop) (judges : Judges safe) (bytes : FileBytes) (length : Nat) :
    (∀ alloc heap, AllSafe safe (elfInit alloc bytes length heap).log) ↔ InitDemand safe bytes length := by
  constructor
  · intro all
    let start : Heap := ⟨fun _ => 0, []⟩
    obtain ⟨ctx, heap, returned⟩ := elfInit_completes bumpAllocator_generous start
    exact (elfInit_exact judges).tight start ctx heap returned (all bumpAllocator start)
  · intro demand alloc heap
    exact (elfInit_exact judges).sound demand heap

theorem elfInit_inBounds_iff (bytes : FileBytes) (length : Nat) :
    (∀ alloc heap, AllSafe (ElfEvent.InBounds length) (elfInit alloc bytes length heap).log) ↔
      Refused bytes length ∨ Contained bytes length (elf32Ehdr bytes) :=
  (elfInit_allSafe_iff _ (inBounds_judges length) bytes length).trans initDemand_inBounds_iff

-- A section header table far behind the end of the file, and a segment with more file bytes than memory.
theorem elfInit_not_inBounds :
    (¬∀ alloc heap, AllSafe (ElfEvent.InBounds 52)
        (elfInit alloc (fileOf (elfFile 0x1000 0xffff0000 [])) 52 heap).log) ∧
      ¬∀ alloc heap, AllSafe (ElfEvent.InBounds 84)
        (elfInit alloc (fileOf (elfFile 0x1000 0 [⟨1, 0, 0x1000, 64, 16⟩])) 84 heap).log := by
  constructor
  · intro all
    have demand := (elfInit_allSafe_iff _ (inBounds_judges _) _ _).mp all
    rcases initDemand_inBounds_iff.mp demand with (short | unrecognised) | contained
    · exact absurd short (by decide)
    · exact absurd unrecognised (by decide)
    · exact absurd contained.strtab.2 (by decide)
  · intro all
    have demand := (elfInit_allSafe_iff _ (inBounds_judges _) _ _).mp all
    rcases initDemand_inBounds_iff.mp demand with (short | unrecognised) | contained
    · exact absurd short (by decide)
    · exact absurd unrecognised (by decide)
    · obtain ⟨-, copied⟩ := contained.segments 0 (by decide)
      exact absurd (copied (by decide) (by decide)).2 (by decide)

end Urv86t
