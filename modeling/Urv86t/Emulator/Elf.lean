import Mathlib.Logic.Function.Basic

set_option autoImplicit false

namespace Urv86t

/-- `mem_base` is a host address; the host memory itself belongs to the emulator state. -/
structure ElfLoadRegion where
  vmaBase : BitVec 32 := 0
  memBase : Nat := 0
  szAlloc : BitVec 32 := 0
  szReserved : BitVec 32 := 0
  tag : Option String := none
  deriving DecidableEq, Repr

structure ElfContext where
  loadRegions : List ElfLoadRegion := []
  entryPoint : BitVec 32 := 0
  bp : BitVec 32 := 0
  sp : BitVec 32 := 0
  deriving DecidableEq, Repr

def ElfContext.nrRegions (ctx : ElfContext) : Nat := ctx.loadRegions.length

def regionTagStack : String := "STACK"
def regionTagHeap : String := "HEAP"
def progStackSize : BitVec 32 := 1024 * 1024
def progHeapSize : BitVec 32 := 1024 * 1024

-- The guard of the loops' `continue`, negated; the sum is a 32-bit one.
def ElfLoadRegion.hit (region : ElfLoadRegion) (ptr : BitVec 32) : Bool :=
  !(region.vmaBase > ptr || ptr ≥ region.vmaBase + region.szReserved)

def ElfLoadRegion.memAddr (region : ElfLoadRegion) (ptr : BitVec 32) : Nat :=
  region.memBase + (ptr - region.vmaBase).toNat

def elfVmaToMemFrom (ptr : BitVec 32) : List ElfLoadRegion → Option Nat
  | [] => none
  | region :: rest => if region.hit ptr then some (region.memAddr ptr) else elfVmaToMemFrom ptr rest

/-- `none` is the `NULL` of a failed lookup. -/
def elfVmaToMem (ctx : ElfContext) (ptr : BitVec 32) : Option Nat :=
  elfVmaToMemFrom ptr ctx.loadRegions

/-- What the callers test against `NULL`: also the base of a region whose `mem_base` is `NULL`. -/
def ElfContext.pointer (ctx : ElfContext) (ptr : BitVec 32) : Nat := (elfVmaToMem ctx ptr).getD 0

def ElfContext.backing (ctx : ElfContext) (ptr : BitVec 32) : Option Nat :=
  if ctx.pointer ptr = 0 then none else some (ctx.pointer ptr)

def ElfLoadRegion.holds (region : ElfLoadRegion) (ptr : Nat) : Bool :=
  !(region.memBase > ptr || ptr ≥ region.memBase + region.szReserved.toNat)

def ElfLoadRegion.vmaAddr (region : ElfLoadRegion) (ptr : Nat) : BitVec 32 :=
  region.vmaBase + BitVec.ofNat 32 (ptr - region.memBase)

def elfMemToVmaFrom (ptr : Nat) : List ElfLoadRegion → BitVec 32
  | [] => 0
  | region :: rest => if region.holds ptr then region.vmaAddr ptr else elfMemToVmaFrom ptr rest

def elfMemToVma (ctx : ElfContext) (ptr : Nat) : BitVec 32 := elfMemToVmaFrom ptr ctx.loadRegions

def ElfContext.selected (ctx : ElfContext) (ptr : BitVec 32) : Option ElfLoadRegion :=
  ctx.loadRegions.find? (·.hit ptr)

theorem elfVmaToMemFrom_eq (ptr : BitVec 32) (regions : List ElfLoadRegion) :
    elfVmaToMemFrom ptr regions = (regions.find? (·.hit ptr)).map (·.memAddr ptr) := by
  induction regions with
  | nil => rfl
  | cons region rest ih =>
    cases hit : region.hit ptr <;> simp [elfVmaToMemFrom, hit, ih]

theorem elfVmaToMem_eq (ctx : ElfContext) (ptr : BitVec 32) :
    elfVmaToMem ctx ptr = (ctx.selected ptr).map (·.memAddr ptr) :=
  elfVmaToMemFrom_eq ptr ctx.loadRegions

theorem ElfContext.backing_eq_some {ctx : ElfContext} {ptr : BitVec 32} {addr : Nat} :
    ctx.backing ptr = some addr ↔ elfVmaToMem ctx ptr = some addr ∧ addr ≠ 0 := by
  unfold backing pointer
  cases elfVmaToMem ctx ptr with
  | none => simp
  | some place =>
    by_cases null : place = 0
    · simp [null]
      rintro rfl
      rfl
    · simp only [Option.getD_some, if_neg null, Option.some_inj]
      exact ⟨fun same => ⟨same, same ▸ null⟩, And.left⟩

theorem ElfContext.backing_eq_none {ctx : ElfContext} {ptr : BitVec 32} :
    ctx.backing ptr = none ↔ ctx.pointer ptr = 0 := by
  simp [backing]

theorem ElfContext.pointer_of_backing {ctx : ElfContext} {ptr : BitVec 32} {addr : Nat}
    (backed : ctx.backing ptr = some addr) : ctx.pointer ptr = addr := by
  rw [pointer, (backing_eq_some.mp backed).1, Option.getD_some]

theorem elfMemToVmaFrom_eq (ptr : Nat) (regions : List ElfLoadRegion) :
    elfMemToVmaFrom ptr regions = ((regions.find? (·.holds ptr)).map (·.vmaAddr ptr)).getD 0 := by
  induction regions with
  | nil => rfl
  | cons region rest ih =>
    cases holds : region.holds ptr <;> simp [elfMemToVmaFrom, holds, ih]

theorem ElfContext.selected_hit {ctx : ElfContext} {ptr : BitVec 32} {region : ElfLoadRegion}
    (found : ctx.selected ptr = some region) : region.hit ptr = true :=
  (List.find?_eq_some_iff_append.mp found).1

theorem ElfContext.selected_mem {ctx : ElfContext} {ptr : BitVec 32} {region : ElfLoadRegion}
    (found : ctx.selected ptr = some region) : region ∈ ctx.loadRegions :=
  List.mem_of_find?_eq_some found

/-- A region whose 32-bit end wraps is never hit, so a hit bounds the offset. -/
theorem ElfLoadRegion.hit_iff (region : ElfLoadRegion) (ptr : BitVec 32) :
    region.hit ptr = true ↔
      region.vmaBase.toNat ≤ ptr.toNat ∧
        ptr.toNat < region.vmaBase.toNat + region.szReserved.toNat ∧
        region.vmaBase.toNat + region.szReserved.toNat < 0x100000000 := by
  have base := region.vmaBase.isLt
  have size := region.szReserved.isLt
  simp only [hit, Bool.not_eq_true', Bool.or_eq_false_iff, decide_eq_false_iff_not, gt_iff_lt,
    ge_iff_le, BitVec.lt_def, BitVec.le_def, BitVec.toNat_add, Nat.not_lt, Nat.not_le]
  by_cases wraps : region.vmaBase.toNat + region.szReserved.toNat < 0x100000000
  · rw [Nat.mod_eq_of_lt wraps]
    omega
  · have shifted : (region.vmaBase.toNat + region.szReserved.toNat) % 0x100000000 =
        region.vmaBase.toNat + region.szReserved.toNat - 0x100000000 := by
      rw [Nat.mod_eq_sub_mod (by omega), Nat.mod_eq_of_lt (by omega)]
    rw [shifted]
    omega

theorem ElfLoadRegion.memAddr_eq (region : ElfLoadRegion) (ptr : BitVec 32)
    (above : region.vmaBase.toNat ≤ ptr.toNat) :
    region.memAddr ptr = region.memBase + (ptr.toNat - region.vmaBase.toNat) := by
  rw [memAddr, BitVec.toNat_sub_of_le above]

end Urv86t
