import Urv86t.Loader.Segments

set_option autoImplicit false

/-!
# The trace of the loader

What a run of `elf_init` asks of a judgement on events: the condition is exact for every judgement that
accepts indices in range and does not care where a copied block lies.
-/

namespace Urv86t

open Traced Traced.Program

structure Judges (safe : ElfEvent → Prop) : Prop where
  indexed : ∀ {idx count}, idx < count → safe (.index idx count)
  placed : ∀ {base len size}, safe (.copy base len ⟨base, size⟩) ↔ safe (.copy 0 len ⟨0, size⟩)

def nameIs (bytes : FileBytes) (off : Int) : List (BitVec 8) → Prop
  | [] => True
  | c :: rest => byteAt bytes off = c ∧ nameIs bytes (off + 1) rest

section Demands

variable (safe : ElfEvent → Prop) (bytes : FileBytes) (length : Nat) (ehdr : Elf32Ehdr)

def nameDemand (off : Int) : List (BitVec 8) → Prop
  | [] => True
  | c :: rest => safe (.read off 1) ∧ (byteAt bytes off = c → nameDemand (off + 1) rest)

def sectionDemand (strtab shEnt : Int) : Prop :=
  safe (.read (shEnt + 12) 4) ∧
    (wordAt bytes (shEnt + 12) ≠ 0 →
      safe (.read shEnt 4) ∧
        nameDemand safe bytes (strtab + (wordAt bytes shEnt).toNat) bssName ∧
        (nameIs bytes (strtab + (wordAt bytes shEnt).toNat) bssName → safe (.read (shEnt + 20) 4)))

def segmentDemand (phdr : Int) : Prop :=
  safe (.read (phdr + 20) 4) ∧
    ((elf32Phdr bytes phdr).pMemsz ≠ 0 →
      safe (.read (phdr + 4) 4) ∧ safe (.read (phdr + 16) 4) ∧
        ((elf32Phdr bytes phdr).Mapped length →
          safe (.read (phdr + 8) 4) ∧
            safe (.read (elf32Phdr bytes phdr).pOffset.toNat (elf32Phdr bytes phdr).pFilesz.toNat) ∧
            safe (.copy 0 (elf32Phdr bytes phdr).pFilesz.toNat ⟨0, (elf32Phdr bytes phdr).pMemsz.toNat⟩)))

def shOffsetOf : Int := (wordAt bytes (strtabEnt ehdr + 16)).toNat

structure LoadDemand : Prop where
  strtab : safe (.read (strtabEnt ehdr + 16) 4)
  sections : ∀ i < ehdr.eShnum.toNat,
    sectionDemand safe bytes (shOffsetOf bytes ehdr) (shEntAt ehdr i)
  segments : ∀ i < ehdr.ePhnum.toNat, segmentDemand safe bytes length (phdrAt ehdr i)

def InitDemand : Prop :=
  sizeofElf32Ehdr ≤ length →
    safe (.read 0 sizeofElf32Ehdr) ∧
      ((elf32Ehdr bytes).recognised = true → LoadDemand safe bytes length (elf32Ehdr bytes))

end Demands

section Exact

variable {safe : ElfEvent → Prop} {alloc : Allocator} {bytes : FileBytes} {length : Nat} {ehdr : Elf32Ehdr}

theorem readByte_exact (off : Int) : Exact safe (readByte bytes off) (safe (.read off 1)) :=
  ((Exact.emit _).bind fun _ _ _ _ => .pure _).congr (and_iff_left trivial)

theorem readWord_exact (off : Int) : Exact safe (readWord bytes off) (safe (.read off 4)) :=
  ((Exact.emit _).bind fun _ _ _ _ => .pure _).congr (and_iff_left trivial)

theorem readEhdr_exact : Exact safe (readEhdr bytes) (safe (.read 0 sizeofElf32Ehdr)) :=
  ((Exact.emit _).bind fun _ _ _ _ => .pure _).congr (and_iff_left trivial)

theorem readWord_then {α : Type} {off : Int} {D : Prop} {rest : BitVec 32 → ElfM α}
    (after : Exact safe (rest (wordAt bytes off)) D) :
    Exact safe (readWord bytes off >>= rest) (safe (.read off 4) ∧ D) := by
  apply (readWord_exact off).bind
  intro heap w heap' returned
  rw [← (readWord_returns.mp returned).1]
  exact after

theorem strcmpEq_exact (off : Int) (name : List (BitVec 8)) :
    Exact safe (strcmpEq bytes off name) (nameDemand safe bytes off name) := by
  induction name generalizing off with
  | nil => exact .pure true
  | cons c rest ih =>
    apply (readByte_exact off).bind
    intro heap b heap' returned
    rw [← (readByte_returns.mp returned).1]
    exact Exact.onlyIf (fun _ => ih (off + 1)) (.pure false)

theorem strcmpEq_returns (off : Int) (name : List (BitVec 8)) {heap heap' : Heap} {equal : Bool}
    (returned : (strcmpEq bytes off name).Returns heap equal heap') :
    heap = heap' ∧ (equal = true ↔ nameIs bytes off name) := by
  induction name generalizing off with
  | nil =>
    obtain ⟨rfl, rfl⟩ := (returns_pure _ _ _ _).mp returned
    exact ⟨rfl, by simp [nameIs]⟩
  | cons c rest ih =>
    rw [strcmpEq, returns_bind] at returned
    obtain ⟨b, mid, read, returned⟩ := returned
    obtain ⟨rfl, rfl⟩ := readByte_returns.mp read
    by_cases same : byteAt bytes off = c
    · rw [if_pos same] at returned
      obtain ⟨kept, equal_iff⟩ := ih (off + 1) returned
      exact ⟨kept, by simp [nameIs, same, equal_iff]⟩
    · rw [if_neg same] at returned
      obtain ⟨rfl, rfl⟩ := (returns_pure _ _ _ _).mp returned
      exact ⟨rfl, by simp [nameIs, same]⟩

theorem elfInitSection_exact (strtab : Int) (shIdx : Nat) (bss : BitVec 32 × BitVec 32) :
    Exact safe (elfInitSection bytes ehdr strtab shIdx bss)
      (sectionDemand safe bytes strtab (shEntAt ehdr shIdx)) := by
  apply readWord_then
  apply Exact.exceptIf (.pure bss)
  intro _
  apply readWord_then
  apply (strcmpEq_exact _ _).bind
  intro heap isBss heap' returned
  obtain ⟨-, named⟩ := strcmpEq_returns _ _ returned
  rw [← named]
  apply Exact.onlyIf _ (.pure bss)
  intro _
  apply Exact.congr _ (and_iff_left trivial)
  apply readWord_then
  exact .pure _

theorem memcpyFile_exact (judges : Judges safe) (base size len : Nat) (off : Int) :
    Exact safe (memcpyFile bytes ⟨base, size⟩ off len)
      (safe (.read off len) ∧ safe (.copy 0 len ⟨0, size⟩)) := by
  apply (Exact.emit _).bind
  intro _ _ _ _
  exact ((Exact.emit _).bind fun _ _ _ _ => .access _).congr ((and_iff_left trivial).trans judges.placed)

theorem calloc_exact (size : Nat) : Exact safe (calloc alloc size) True := .access _

theorem realloc_exact (old size : Nat) : Exact safe (realloc alloc old size) True := .access _

theorem elfInitSegment_exact (judges : Judges safe) {count : Nat} (phIdx : Nat) (table : ElfTable)
    (room : table.phCount - 2 < count) :
    Exact safe (elfInitSegment alloc bytes length ehdr count phIdx table)
      (segmentDemand safe bytes length (phdrAt ehdr phIdx)) := by
  apply readWord_then
  apply Exact.exceptIf (.pure table)
  intro placed
  apply readWord_then
  apply readWord_then
  rw [(elf32Phdr bytes (phdrAt ehdr phIdx)).mapped_iff length placed]
  apply Exact.exceptIf (.pure table)
  intro _
  apply ((Exact.emit _).congr (iff_true_intro (judges.indexed room))).bind_silent
  intro _ _ _ _
  apply readWord_then
  apply (calloc_exact _).bind_silent
  intro _ allocated _ _
  cases allocated with
  | none => exact .abort _
  | some base =>
    apply Exact.congr _ (and_iff_left trivial)
    apply (memcpyFile_exact judges _ _ _ _).bind
    intro _ _ _ _
    exact .pure _

theorem elfInitBreak_exact (judges : Judges safe) {phCount : Nat} (ctx : ElfContext)
    (bssStart bssSize : BitVec 32) (entries : 2 ≤ phCount) :
    Exact safe (elfInitBreak alloc phCount ctx bssStart bssSize) True := by
  have heapEntry : safe (.index (phCount - 2) phCount) := judges.indexed (by omega)
  have stackEntry : safe (.index (phCount - 1) phCount) := judges.indexed (by omega)
  apply ((Exact.emit _).congr (iff_true_intro heapEntry)).bind_silent
  intro _ _ _ _
  apply (calloc_exact _).bind_silent
  intro _ _ _ _
  apply ((Exact.emit _).congr (iff_true_intro stackEntry)).bind_silent
  intro _ _ _ _
  apply (calloc_exact _).bind_silent
  intro _ _ _ _
  exact .pure _

def ElfTable.Roomy (count : Nat) (indices : List Nat) (table : ElfTable) : Prop :=
  2 ≤ table.phCount ∧ table.phCount + indices.length ≤ count

theorem elfInitSegment_roomy {count : Nat} (phIdx : Nat) (rest : List Nat) (table : ElfTable) (heap : Heap)
    (table' : ElfTable) (heap' : Heap) (roomy : table.Roomy count (phIdx :: rest))
    (returned : (elfInitSegment alloc bytes length ehdr count phIdx table).Returns heap table' heap') :
    table'.Roomy count rest := by
  obtain ⟨low, high⟩ := roomy
  rw [List.length_cons] at high
  rcases elfInitSegment_returns returned with ⟨-, rfl, -⟩ | ⟨base, -, -, rfl, -⟩
  · exact ⟨low, by omega⟩
  · exact ⟨Nat.le_succ_of_le low, by simp only [ElfTable.addSegment]; omega⟩

theorem elfInitSections_exact (strtab : Int) (indices : List Nat) (bss : BitVec 32 × BitVec 32) :
    Exact safe (each (elfInitSection bytes ehdr strtab) indices bss)
      (∀ i ∈ indices, sectionDemand safe bytes strtab (shEntAt ehdr i)) := by
  apply Exact.each fun _ _ => True
  · intros
    trivial
  · intro shIdx _ bss _
    exact elfInitSection_exact strtab shIdx bss
  · trivial

theorem elfInitSegments_exact (judges : Judges safe) {count : Nat} (indices : List Nat) (table : ElfTable)
    (roomy : table.Roomy count indices) :
    Exact safe (each (elfInitSegment alloc bytes length ehdr count) indices table)
      (∀ i ∈ indices, segmentDemand safe bytes length (phdrAt ehdr i)) := by
  apply Exact.each (fun rest table => table.Roomy count rest) elfInitSegment_roomy _ roomy
  intro phIdx rest table roomy
  obtain ⟨low, high⟩ := roomy
  rw [List.length_cons] at high
  exact elfInitSegment_exact judges phIdx table (by omega)

theorem elfInitSegments_roomy {count : Nat} {indices : List Nat} {table table' : ElfTable} {heap heap' : Heap}
    (roomy : table.Roomy count indices)
    (returned : (each (elfInitSegment alloc bytes length ehdr count) indices table).Returns heap table' heap') :
    table'.Roomy count [] :=
  returns_each (fun rest table _ => table.Roomy count rest)
    (fun phIdx rest table heap table' heap' roomy returned =>
      elfInitSegment_roomy phIdx rest table heap table' heap' roomy returned)
    roomy returned

theorem loadDemand_iff :
    (safe (.read (strtabEnt ehdr + 16) 4) ∧
        (∀ i ∈ List.range ehdr.eShnum.toNat,
          sectionDemand safe bytes (shOffsetOf bytes ehdr) (shEntAt ehdr i)) ∧
        ∀ i ∈ List.range ehdr.ePhnum.toNat, segmentDemand safe bytes length (phdrAt ehdr i)) ↔
      LoadDemand safe bytes length ehdr := by
  constructor
  · rintro ⟨strtab, sections, segments⟩
    exact ⟨strtab, fun i inside => sections i (List.mem_range.mpr inside),
      fun i inside => segments i (List.mem_range.mpr inside)⟩
  · rintro ⟨strtab, sections, segments⟩
    exact ⟨strtab, fun i inside => sections i (List.mem_range.mp inside),
      fun i inside => segments i (List.mem_range.mp inside)⟩

theorem initial_roomy (phnum : Nat) :
    ElfTable.Roomy (phnum + 2) (List.range phnum) ⟨2, List.replicate (phnum + 2) {}⟩ := by
  simp [ElfTable.Roomy, Nat.add_comm]

theorem elfInitLoad_exact (judges : Judges safe) :
    Exact safe (elfInitLoad alloc bytes length ehdr) (LoadDemand safe bytes length ehdr) := by
  refine Exact.congr ?_ loadDemand_iff
  apply readWord_then
  apply (elfInitSections_exact _ _ _).bind
  intro _ bss _ _
  apply (calloc_exact _).bind_silent
  intro _ allocated _ _
  cases allocated with
  | none => exact .abort _
  | some loadRegions =>
    apply Exact.congr _ (and_iff_left trivial)
    apply (elfInitSegments_exact judges _ _ (initial_roomy _)).bind
    intro _ table _ returned
    apply (realloc_exact _ _).bind_silent
    intro _ reallocated _ _
    cases reallocated with
    | none => exact .abort _
    | some _ =>
      have entries := (elfInitSegments_roomy (initial_roomy _) returned).1
      by_cases unplaced : bss.1 = 0
      · simp only [if_pos unplaced]
        exact .pure _
      · simp only [if_neg unplaced]
        exact elfInitBreak_exact judges _ _ _ entries

theorem elfInit_exact (judges : Judges safe) :
    Exact safe (elfInit alloc bytes length) (InitDemand safe bytes length) := by
  apply (calloc_exact _).bind_silent
  intro _ allocated _ _
  cases allocated with
  | none => exact .abort _
  | some _ =>
    by_cases short : length < sizeofElf32Ehdr
    · simp only [if_pos short]
      exact (Exact.pure _).congr (iff_of_true trivial fun enough => absurd enough (Nat.not_le.mpr short))
    · simp only [if_neg short]
      refine Exact.congr ?_ (forall_prop_of_true (Nat.le_of_not_lt short)).symm
      apply readEhdr_exact.bind
      intro _ ehdr _ read
      obtain ⟨rfl, -⟩ := readEhdr_returns.mp read
      exact Exact.onlyIf (fun _ => elfInitLoad_exact judges) (.pure _)

end Exact

def ElfEvent.InTable : ElfEvent → Prop
  | .index idx count => idx < count
  | _ => True

theorem inTable_judges : Judges ElfEvent.InTable where
  indexed inside := inside
  placed := Iff.rfl

theorem nameDemand_inTable (bytes : FileBytes) (off : Int) (name : List (BitVec 8)) :
    nameDemand ElfEvent.InTable bytes off name := by
  induction name generalizing off with
  | nil => trivial
  | cons c rest ih => exact ⟨trivial, fun _ => ih (off + 1)⟩

theorem initDemand_inTable (bytes : FileBytes) (length : Nat) : InitDemand ElfEvent.InTable bytes length := by
  intro _
  refine ⟨trivial, fun _ => ⟨trivial, ?_, ?_⟩⟩
  · intro i _
    exact ⟨trivial, fun _ => ⟨trivial, nameDemand_inTable _ _ _, fun _ => trivial⟩⟩
  · intro i _
    exact ⟨trivial, fun _ => ⟨trivial, trivial, fun _ => ⟨trivial, trivial, trivial⟩⟩⟩

theorem elfInit_indices (alloc : Allocator) (bytes : FileBytes) (length : Nat) (heap : Heap) :
    AllSafe ElfEvent.InTable (elfInit alloc bytes length heap).log :=
  (elfInit_exact inTable_judges).sound (initDemand_inTable bytes length) heap

end Urv86t
