import Urv86t.Loader.Break

set_option autoImplicit false

namespace Urv86t

open ByteMemory Traced Traced.Program

def SameFile (length : Nat) (bytes bytes' : FileBytes) : Prop := ∀ k : Nat, k < length → bytes k = bytes' k

theorem filter_map_congr {α β : Type} {f g : α → β} {p q : β → Prop} [DecidablePred p] [DecidablePred q] {as : List α}
    (same : ∀ a ∈ as, (p (f a) ↔ q (g a)) ∧ (p (f a) → f a = g a)) :
    (as.map f).filter p = (as.map g).filter q := by
  have kept : as.filter ((p ·) ∘ f) = as.filter ((q ·) ∘ g) :=
    List.filter_congr fun a listed => decide_eq_decide.mpr (same a listed).1
  rw [List.filter_map, List.filter_map, ← kept]
  apply List.map_congr_left
  intro a listed
  obtain ⟨among, holds⟩ := List.mem_filter.mp listed
  exact (same a among).2 (of_decide_eq_true holds)

namespace SameFile

variable {length : Nat} {bytes bytes' : FileBytes}

theorem load (same : SameFile length bytes bytes') {off : Int} {len : Nat}
    (inside : (ElfEvent.read off len).InBounds length) :
    ByteMemory.load bytes (fileCell off) len = ByteMemory.load bytes' (fileCell off) len := by
  apply load_congr
  intro k low
  obtain ⟨start, stop⟩ := inside k low
  obtain ⟨n, cell⟩ := Int.eq_ofNat_of_zero_le start
  rw [fileCell, cell]
  exact same n (by omega)

theorem byte (same : SameFile length bytes bytes') {off : Int} (inside : (ElfEvent.read off 1).InBounds length) :
    byteAt bytes off = byteAt bytes' off := by
  obtain ⟨start, stop⟩ := inside 0 Nat.one_pos
  obtain ⟨n, rfl⟩ := Int.eq_ofNat_of_zero_le (by simpa using start : 0 ≤ off)
  exact same n (by omega)

theorem ehdr (same : SameFile length bytes bytes') (enough : sizeofElf32Ehdr ≤ length) :
    elf32Ehdr bytes = elf32Ehdr bytes' := by
  have field : ∀ off len : Nat, off + len ≤ sizeofElf32Ehdr →
      ByteMemory.load bytes (fileCell off) len = ByteMemory.load bytes' (fileCell off) len := by
    intro off len inside
    refine same.load fun k low => ?_
    omega
  have ident : ∀ i : Fin 16, byteAt bytes i = byteAt bytes' i := fun i =>
    same i (Nat.lt_of_lt_of_le (Nat.lt_trans i.isLt (by decide)) enough)
  simp only [elf32Ehdr, Elf32Ehdr.mk.injEq]
  exact ⟨funext ident, field 18 2 (by decide), field 24 4 (by decide), field 28 4 (by decide), field 32 4 (by decide),
    field 42 2 (by decide), field 44 2 (by decide), field 46 2 (by decide), field 48 2 (by decide),
    field 50 2 (by decide)⟩

theorem phdr (same : SameFile length bytes bytes') {off : Nat} (inside : off + 24 ≤ length) :
    elf32Phdr bytes off = elf32Phdr bytes' off := by
  have field : ∀ start : Nat, start + 4 ≤ 24 →
      wordAt bytes (off + start : Nat) = wordAt bytes' (off + start : Nat) := by
    intro start low
    refine same.load fun k low => ?_
    omega
  simp only [elf32Phdr, Elf32Phdr.mk.injEq]
  exact ⟨field 0 (by decide), field 4 (by decide), field 8 (by decide), field 16 (by decide), field 20 (by decide)⟩

theorem programHeaders (same : SameFile length bytes bytes') {ehdr : Elf32Ehdr}
    (contained : Contained bytes length ehdr) :
    Urv86t.programHeaders bytes ehdr = Urv86t.programHeaders bytes' ehdr :=
  List.map_congr_left fun phIdx listed => same.phdr (contained.segments phIdx (List.mem_range.mp listed)).1

theorem nameIs_iff (same : SameFile length bytes bytes') {off : Int} {name : List (BitVec 8)}
    (demand : nameDemand (ElfEvent.InBounds length) bytes off name) :
    nameIs bytes off name ↔ nameIs bytes' off name := by
  induction name generalizing off with
  | nil => exact Iff.rfl
  | cons c rest ih =>
    obtain ⟨inside, later⟩ := demand
    rw [nameIs, nameIs, ← same.byte inside]
    exact and_congr_right fun head => ih (later head)

theorem bssHeader (same : SameFile length bytes bytes') {strtab shEnt : Int}
    (demand : sectionDemand (ElfEvent.InBounds length) bytes strtab shEnt) :
    ((elf32Shdr bytes shEnt).IsBss bytes strtab ↔ (elf32Shdr bytes' shEnt).IsBss bytes' strtab) ∧
      ((elf32Shdr bytes shEnt).IsBss bytes strtab → elf32Shdr bytes shEnt = elf32Shdr bytes' shEnt) := by
  obtain ⟨addrInside, rest⟩ := demand
  have addr : wordAt bytes (shEnt + 12) = wordAt bytes' (shEnt + 12) := same.load addrInside
  by_cases placed : wordAt bytes (shEnt + 12) = 0
  · have none : ¬(elf32Shdr bytes shEnt).IsBss bytes strtab := fun bss => bss.1 placed
    have none' : ¬(elf32Shdr bytes' shEnt).IsBss bytes' strtab := fun bss => bss.1 (addr.symm.trans placed)
    exact ⟨iff_of_false none none', fun bss => absurd bss none⟩
  obtain ⟨nameInside, spelling, sizeInside⟩ := rest placed
  have name : wordAt bytes shEnt = wordAt bytes' shEnt := same.load nameInside
  have spelled := same.nameIs_iff spelling
  constructor
  · simp only [Elf32Shdr.IsBss, elf32Shdr, ← addr, ← name]
    exact and_congr_right fun _ => spelled
  · rintro ⟨-, isBss⟩
    have size : wordAt bytes (shEnt + 20) = wordAt bytes' (shEnt + 20) := same.load (sizeInside isBss)
    simp only [elf32Shdr, addr, name, size]

theorem bssSection (same : SameFile length bytes bytes') {ehdr : Elf32Ehdr}
    (contained : Contained bytes length ehdr) : Urv86t.bssSection bytes ehdr = Urv86t.bssSection bytes' ehdr := by
  obtain ⟨strtab, sections, -⟩ := (loadDemand_inBounds_iff ehdr).mpr contained
  have shOffset : wordAt bytes (strtabEnt ehdr + 16) = wordAt bytes' (strtabEnt ehdr + 16) := same.load strtab
  have offset : shOffsetOf bytes ehdr = shOffsetOf bytes' ehdr :=
    congrArg (fun word : BitVec 32 => (word.toNat : Int)) shOffset
  rw [Urv86t.bssSection, Urv86t.bssSection, lastBss, lastBss, ← offset]
  refine congrArg List.getLast? (filter_map_congr fun shIdx listed => ?_)
  exact same.bssHeader (sections shIdx (List.mem_range.mp listed))

theorem imageByte (same : SameFile length bytes bytes') {phdr : Elf32Phdr} (wellFormed : phdr.WellFormed length) :
    phdr.imageByte bytes = phdr.imageByte bytes' := by
  funext k
  simp only [Elf32Phdr.imageByte]
  split
  next low =>
    have inFile := wellFormed.inFile
    exact same (phdr.pOffset.toNat + k) (by omega)
  next => rfl

end SameFile

end Urv86t
