import Urv86t.Emulator.Dispatch
import Urv86t.Isa.Hart
import Mathlib.Data.List.Pairwise

set_option autoImplicit false

namespace Urv86t

open ByteMemory Rv32

def ElfLoadRegion.vmaEnd (region : ElfLoadRegion) : Nat := region.vmaBase.toNat + region.szReserved.toNat

def ElfLoadRegion.memEnd (region : ElfLoadRegion) : Nat := region.memBase + region.szReserved.toNat

def ElfLoadRegion.Disjoint (a b : ElfLoadRegion) : Prop :=
  a.vmaEnd ≤ b.vmaBase.toNat ∨ b.vmaEnd ≤ a.vmaBase.toNat

def ElfLoadRegion.Unshared (a b : ElfLoadRegion) : Prop :=
  a.memEnd ≤ b.memBase ∨ b.memEnd ≤ a.memBase

instance : Std.Symm ElfLoadRegion.Unshared := ⟨fun _ _ => Or.symm⟩

namespace ElfLoadRegion

def Covers (region : ElfLoadRegion) (p : BitVec 32) : Prop :=
  region.vmaBase.toNat ≤ p.toNat ∧ p.toNat < region.vmaEnd

instance (region : ElfLoadRegion) (p : BitVec 32) : Decidable (region.Covers p) :=
  inferInstanceAs (Decidable (_ ∧ _))

def BelowTop (region : ElfLoadRegion) : Prop := region.vmaEnd < 0x100000000

instance : DecidablePred BelowTop := fun _ => inferInstanceAs (Decidable (_ < _))

def place (region : ElfLoadRegion) (p : BitVec 32) : Nat := region.memBase + (p.toNat - region.vmaBase.toNat)

theorem hit_iff_covers (region : ElfLoadRegion) (p : BitVec 32) :
    region.hit p = true ↔ region.Covers p ∧ region.BelowTop := by
  rw [hit_iff, ← and_assoc]
  rfl

end ElfLoadRegion

namespace ElfContext

variable (ctx : ElfContext) (p : BitVec 32)

def firstCovering : Option ElfLoadRegion := ctx.loadRegions.find? fun region => region.Covers p

def firstBelowTop : Option ElfLoadRegion :=
  ctx.loadRegions.find? fun region => region.Covers p ∧ region.BelowTop

/-- The host byte a table has for an address, whether or not `elf_vma_to_mem` finds it. -/
def mapping : Option Nat := (ctx.firstCovering p).map (·.place p)

/-- The address is in no region that ends at 2^32. -/
def BelowTop : Prop := ∀ region ∈ ctx.loadRegions, region.Covers p → region.BelowTop

instance : Decidable (ctx.BelowTop p) := inferInstanceAs (Decidable (∀ region ∈ ctx.loadRegions, _))

def Buffered : Prop := ∀ region ∈ ctx.loadRegions, region.szReserved ≠ 0 → region.memBase ≠ 0

/-- Ranges that do not wrap: a region may end at 2^32, where `elf_vma_to_mem` does not find it. -/
structure Apart : Prop where
  bounded : ∀ region ∈ ctx.loadRegions, region.vmaEnd ≤ 0x100000000
  disjoint : ctx.loadRegions.Pairwise ElfLoadRegion.Disjoint
  unshared : ctx.loadRegions.Pairwise ElfLoadRegion.Unshared
  buffered : ctx.Buffered

/-- Ranges whose 32-bit ends do not wrap to 0: the tables all of which `elf_vma_to_mem` finds. -/
structure Separated : Prop where
  bounded : ∀ region ∈ ctx.loadRegions, region.vmaEnd < 0x100000000
  disjoint : ctx.loadRegions.Pairwise ElfLoadRegion.Disjoint
  unshared : ctx.loadRegions.Pairwise ElfLoadRegion.Unshared
  buffered : ctx.Buffered

end ElfContext

def ElfContext.Within (ctx : ElfContext) (a : BitVec 32) (len : Nat) : Prop :=
  ∃ region ∈ ctx.loadRegions, region.vmaBase.toNat ≤ a.toNat ∧ a.toNat + len ≤ region.vmaEnd

theorem ElfLoadRegion.hit_bounds {region : ElfLoadRegion} {a : BitVec 32} (hit : region.hit a = true) :
    region.vmaBase.toNat ≤ a.toNat ∧ a.toNat < region.vmaEnd ∧ region.vmaEnd < 0x100000000 :=
  (region.hit_iff a).mp hit

theorem find_eq_of_apart {A : Type} {p : A → Bool} {entries : List A}
    (apart : entries.Pairwise fun a b => ¬(p a = true ∧ p b = true)) {entry : A} (member : entry ∈ entries)
    (holds : p entry = true) : entries.find? p = some entry := by
  induction entries with
  | nil => cases member
  | cons head rest ih =>
    obtain ⟨alone, apart⟩ := List.pairwise_cons.mp apart
    rcases List.mem_cons.mp member with rfl | later
    · exact List.find?_cons_of_pos holds
    · have passed : ¬p head = true := fun found => alone entry later ⟨found, holds⟩
      rw [List.find?_cons_of_neg passed, ih apart later]

def ElfLoadRegion.GuestApart (a b : ElfLoadRegion) : Prop := ∀ p, ¬(a.Covers p ∧ b.Covers p)

theorem ElfLoadRegion.Disjoint.guestApart {a b : ElfLoadRegion} (disjoint : a.Disjoint b) : a.GuestApart b := by
  rintro p ⟨inA, inB⟩
  unfold ElfLoadRegion.Covers at inA inB
  rcases disjoint with below | below <;> omega

theorem find_covers_eq {regions : List ElfLoadRegion} (disjoint : regions.Pairwise ElfLoadRegion.Disjoint)
    {region : ElfLoadRegion} {a : BitVec 32} (member : region ∈ regions) (covers : region.Covers a) :
    regions.find? (fun region => region.Covers a) = some region := by
  refine find_eq_of_apart (disjoint.imp ?_) member (decide_eq_true covers)
  intro first second apart
  rw [decide_eq_true_iff, decide_eq_true_iff]
  exact apart.guestApart a

theorem find_hit_eq {regions : List ElfLoadRegion} (disjoint : regions.Pairwise ElfLoadRegion.Disjoint)
    {region : ElfLoadRegion} {a : BitVec 32} (member : region ∈ regions) (hit : region.hit a = true) :
    regions.find? (·.hit a) = some region := by
  refine find_eq_of_apart (disjoint.imp ?_) member hit
  intro first second apart
  rw [ElfLoadRegion.hit_iff_covers, ElfLoadRegion.hit_iff_covers]
  exact fun both => apart.guestApart a ⟨both.1.1, both.2.1⟩

namespace ElfContext

variable {ctx : ElfContext}

theorem elfVmaToMem_selected {a : BitVec 32} {ptr : Nat} (found : elfVmaToMem ctx a = some ptr) :
    ∃ region, ctx.selected a = some region ∧ region ∈ ctx.loadRegions ∧ region.hit a = true ∧
      ptr = region.memBase + (a.toNat - region.vmaBase.toNat) := by
  rw [elfVmaToMem_eq] at found
  cases hit : ctx.selected a with
  | none =>
    rw [hit] at found
    cases found
  | some region =>
    rw [hit] at found
    refine ⟨region, rfl, selected_mem hit, selected_hit hit, ?_⟩
    have low := (ElfLoadRegion.hit_bounds (selected_hit hit)).1
    exact (Option.some.inj found).symm.trans (region.memAddr_eq a low)

theorem Buffered.backing_eq (buffered : ctx.Buffered) (a : BitVec 32) : ctx.backing a = elfVmaToMem ctx a := by
  cases found : elfVmaToMem ctx a with
  | none => exact backing_eq_none.mpr (by rw [pointer, found, Option.getD_none])
  | some ptr =>
    obtain ⟨region, -, member, hit, place⟩ := elfVmaToMem_selected found
    have inside := ElfLoadRegion.hit_bounds hit
    have some_byte : region.szReserved ≠ 0 := by
      intro empty
      rw [ElfLoadRegion.vmaEnd, empty] at inside
      exact absurd inside.2.1 (Nat.not_lt.mpr inside.1)
    have based := buffered region member some_byte
    exact backing_eq_some.mpr ⟨found, by omega⟩

theorem Separated.apart (separated : ctx.Separated) : ctx.Apart :=
  ⟨fun region member => Nat.le_of_lt (separated.bounded region member), separated.disjoint, separated.unshared,
    separated.buffered⟩

theorem Apart.mapping_eq (apart : ctx.Apart) {region : ElfLoadRegion} {a : BitVec 32}
    (member : region ∈ ctx.loadRegions) (covers : region.Covers a) : ctx.mapping a = some (region.place a) := by
  rw [mapping, firstCovering, find_covers_eq apart.disjoint member covers, Option.map_some]

theorem mapping_covers {a : BitVec 32} {ptr : Nat} (mapped : ctx.mapping a = some ptr) :
    ∃ region ∈ ctx.loadRegions, region.Covers a ∧ ptr = region.place a := by
  obtain ⟨region, found, rfl⟩ := Option.map_eq_some_iff.mp mapped
  rw [firstCovering] at found
  exact ⟨region, List.mem_of_find?_eq_some found, by simpa using List.find?_some found, rfl⟩

theorem Apart.backing_eq (apart : ctx.Apart) {a : BitVec 32} (below : ctx.BelowTop a) :
    ctx.backing a = ctx.mapping a := by
  rw [apart.buffered.backing_eq]
  cases mapped : ctx.mapping a with
  | none =>
    cases found : elfVmaToMem ctx a with
    | none => rfl
    | some ptr =>
      obtain ⟨region, -, member, hit, -⟩ := elfVmaToMem_selected found
      have covers := ((region.hit_iff_covers a).mp hit).1
      rw [apart.mapping_eq member covers] at mapped
      cases mapped
  | some ptr =>
    obtain ⟨region, member, covers, rfl⟩ := mapping_covers mapped
    have hit := (region.hit_iff_covers a).mpr ⟨covers, below region member covers⟩
    rw [elfVmaToMem_eq, selected, find_hit_eq apart.disjoint member hit]
    exact congrArg some (region.memAddr_eq a covers.1)

theorem Apart.belowTop (apart : ctx.Apart) {a : BitVec 32} {ptr : Nat} (found : ctx.backing a = some ptr) :
    ctx.BelowTop a := by
  intro region member covers
  obtain ⟨region', selected, member', hit, -⟩ := elfVmaToMem_selected (backing_eq_some.mp found).1
  obtain ⟨covers', below⟩ := (region'.hit_iff_covers a).mp hit
  have here := find_covers_eq apart.disjoint member covers
  rw [find_covers_eq apart.disjoint member' covers'] at here
  exact Option.some.inj here ▸ below

theorem Apart.injective (apart : ctx.Apart) : Injective ctx.mapping := by
  intro a a' ptr mapped mapped'
  obtain ⟨region, member, covers, place⟩ := mapping_covers mapped
  obtain ⟨region', member', covers', place'⟩ := mapping_covers mapped'
  unfold ElfLoadRegion.Covers ElfLoadRegion.vmaEnd at covers covers'
  unfold ElfLoadRegion.place at place place'
  by_cases same : region = region'
  · subst same
    exact BitVec.eq_of_toNat_eq (by omega)
  · have apart := apart.unshared.forall member member' same
    unfold ElfLoadRegion.Unshared ElfLoadRegion.memEnd at apart
    omega

theorem byteAddr_toNat (a : BitVec 32) (k : Nat) (fits : a.toNat + k < 0x100000000) :
    (byteAddr a k).toNat = a.toNat + k := by
  rw [byteAddr, BitVec.toNat_add, BitVec.toNat_ofNat]
  omega

theorem Apart.maps (apart : ctx.Apart) {a : BitVec 32} {len : Nat} (within : ctx.Within a len)
    (some_byte : 0 < len) (below : ctx.BelowTop a) :
    ∃ ptr, ctx.backing a = some ptr ∧ Maps ctx.mapping (byteAddr a) (hostCell ptr) len := by
  obtain ⟨region, member, low, high⟩ := within
  have bounded := apart.bounded region member
  have first : region.Covers a := ⟨low, by omega⟩
  refine ⟨_, (apart.backing_eq below).trans (apart.mapping_eq member first), ?_⟩
  intro k inside
  have reached := byteAddr_toNat a k (by omega)
  have covers : region.Covers (byteAddr a k) := ⟨by omega, by omega⟩
  rw [apart.mapping_eq member covers, hostCell, ElfLoadRegion.place, ElfLoadRegion.place, reached]
  congr 1
  omega

theorem Separated.belowTop (separated : ctx.Separated) (a : BitVec 32) : ctx.BelowTop a :=
  fun region member _ => separated.bounded region member

theorem Separated.mapping_eq (separated : ctx.Separated) : ctx.mapping = elfVmaToMem ctx :=
  funext fun a => (separated.apart.backing_eq (separated.belowTop a)).symm.trans (separated.buffered.backing_eq a)

theorem Separated.injective (separated : ctx.Separated) : Injective (elfVmaToMem ctx) :=
  separated.mapping_eq ▸ separated.apart.injective

theorem Separated.maps (separated : ctx.Separated) {a : BitVec 32} {len : Nat} (within : ctx.Within a len)
    (some_byte : 0 < len) :
    ∃ ptr, ctx.backing a = some ptr ∧ Maps (elfVmaToMem ctx) (byteAddr a) (hostCell ptr) len :=
  separated.mapping_eq ▸ separated.apart.maps within some_byte (separated.belowTop a)

end ElfContext

section Accesses

variable (state : RvState) (insn : Insn) {len ptr : Nat}

theorem loadArm_backed (assign : BitVec (8 * len) → RvState)
    (found : state.mem.backing (rvmemReg state insn.rs1 + insn.imm) = some ptr) :
    loadArm state insn len assign =
      .ok
        { state := assign (load state.host (hostCell ptr) len)
          touched := [⟨.data, rvmemReg state insn.rs1 + insn.imm, ptr, len⟩] } := by
  simp only [loadArm, rvmemAt_found found]
  rfl

theorem storeArm_backed (val : BitVec (8 * len))
    (found : state.mem.backing (rvmemReg state insn.rs1 + insn.imm) = some ptr) :
    storeArm state insn len val =
      .ok
        { state := { state with host := store state.host (hostCell ptr) len val }
          touched := [⟨.data, rvmemReg state insn.rs1 + insn.imm, ptr, len⟩] } := by
  simp only [storeArm, rvmemAt_found found]
  rfl

theorem loadArm_within (separated : state.mem.Separated) (assign : BitVec (8 * len) → RvState)
    (some_byte : 0 < len) (within : state.mem.Within (rvmemReg state insn.rs1 + insn.imm) len) :
    ∃ ptr,
      Maps (elfVmaToMem state.mem) (byteAddr (rvmemReg state insn.rs1 + insn.imm)) (hostCell ptr) len ∧
      loadArm state insn len assign =
        .ok
          { state := assign (load state.host (hostCell ptr) len)
            touched := [⟨.data, rvmemReg state insn.rs1 + insn.imm, ptr, len⟩] } := by
  obtain ⟨ptr, found, maps⟩ := separated.maps within some_byte
  exact ⟨ptr, maps, loadArm_backed state insn assign found⟩

theorem storeArm_within (separated : state.mem.Separated) (val : BitVec (8 * len)) (some_byte : 0 < len)
    (within : state.mem.Within (rvmemReg state insn.rs1 + insn.imm) len) :
    ∃ ptr,
      Maps (elfVmaToMem state.mem) (byteAddr (rvmemReg state insn.rs1 + insn.imm)) (hostCell ptr) len ∧
      storeArm state insn len val =
        .ok
          { state := { state with host := store state.host (hostCell ptr) len val }
            touched := [⟨.data, rvmemReg state insn.rs1 + insn.imm, ptr, len⟩] } := by
  obtain ⟨ptr, found, maps⟩ := separated.maps within some_byte
  exact ⟨ptr, maps, storeArm_backed state insn val found⟩

end Accesses

end Urv86t
