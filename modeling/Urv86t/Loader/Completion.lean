import Urv86t.Loader.Segments

set_option autoImplicit false

namespace Urv86t

open Traced Traced.Program

def Allocator.Generous (alloc : Allocator) : Prop := ∀ blocks size, ∃ base, alloc.pick blocks size = some base

def blocksEnd : List Block → Nat
  | [] => 1
  | block :: rest => max (block.base + block.size) (blocksEnd rest)

theorem blocksEnd_pos (blocks : List Block) : 0 < blocksEnd blocks := by
  induction blocks with
  | nil => exact Nat.one_pos
  | cons block rest ih => exact Nat.lt_of_lt_of_le ih (Nat.le_max_right _ _)

theorem block_le_blocksEnd {block : Block} {blocks : List Block} (live : block ∈ blocks) :
    block.base + block.size ≤ blocksEnd blocks := by
  induction blocks with
  | nil => cases live
  | cons first rest ih =>
    rcases List.mem_cons.mp live with rfl | later
    · exact Nat.le_max_left _ _
    · exact Nat.le_trans (ih later) (Nat.le_max_right _ _)

def bumpAllocator : Allocator where
  pick blocks _ := some (blocksEnd blocks)
  fresh := by
    intro blocks size base picked block live
    cases picked
    exact .inr (block_le_blocksEnd live)
  nonNull := by
    intro blocks size base picked
    cases picked
    exact Nat.ne_of_gt (blocksEnd_pos blocks)

theorem bumpAllocator_generous : bumpAllocator.Generous := fun blocks _ => ⟨blocksEnd blocks, rfl⟩

section Completes

variable {alloc : Allocator} {bytes : FileBytes} {length : Nat} {ehdr : Elf32Ehdr}

theorem readByte_completes (off : Int) : Completes (readByte bytes off) :=
  (completes_emit _).bind fun _ _ _ _ => completes_pure _

theorem readWord_completes (off : Int) : Completes (readWord bytes off) :=
  (completes_emit _).bind fun _ _ _ _ => completes_pure _

theorem strcmpEq_completes (off : Int) (name : List (BitVec 8)) : Completes (strcmpEq bytes off name) := by
  induction name generalizing off with
  | nil => exact completes_pure _
  | cons c rest ih =>
    apply (readByte_completes off).bind
    intro _ b _ _
    exact .ite (ih (off + 1)) (completes_pure _)

theorem elfInitSection_completes (strtab : Int) (shIdx : Nat) (bss : BitVec 32 × BitVec 32) :
    Completes (elfInitSection bytes ehdr strtab shIdx bss) := by
  apply (readWord_completes _).bind
  intro _ shAddr _ _
  apply Completes.ite (completes_pure _)
  apply (readWord_completes _).bind
  intro _ shName _ _
  apply (strcmpEq_completes _ _).bind
  intro _ isBss _ _
  cases isBss
  · exact completes_pure _
  · exact (readWord_completes _).bind fun _ _ _ _ => completes_pure _

theorem calloc_then_completes {α : Type} (generous : alloc.Generous) (size : Nat) {rest : Option Nat → ElfM α}
    (after : ∀ base, Completes (rest (some base))) : Completes (calloc alloc size >>= rest) := by
  apply (completes_access _).bind
  intro heap allocated heap' called
  obtain ⟨base, picked⟩ := generous heap.blocks size
  rw [returns_access, picked] at called
  cases called
  exact after base

theorem realloc_then_completes {α : Type} (generous : alloc.Generous) (old size : Nat)
    {rest : Option Nat → ElfM α} (after : ∀ base, Completes (rest (some base))) :
    Completes (realloc alloc old size >>= rest) := by
  apply (completes_access _).bind
  intro heap allocated heap' called
  obtain ⟨base, picked⟩ := generous (heap.blocks.filter (·.base ≠ old)) size
  rw [returns_access] at called
  simp only [picked] at called
  cases called
  exact after base

theorem memcpyFile_completes (block : Block) (off : Int) (len : Nat) :
    Completes (memcpyFile bytes block off len) :=
  (completes_emit _).bind fun _ _ _ _ => (completes_emit _).bind fun _ _ _ _ => completes_access _

theorem elfInitSegment_completes (generous : alloc.Generous) (count phIdx : Nat) (table : ElfTable) :
    Completes (elfInitSegment alloc bytes length ehdr count phIdx table) := by
  apply (readWord_completes _).bind
  intro _ pMemsz _ _
  apply Completes.ite (completes_pure _)
  apply (readWord_completes _).bind
  intro _ pOffset _ _
  apply (readWord_completes _).bind
  intro _ pFilesz _ _
  apply Completes.ite (completes_pure _)
  apply (completes_emit _).bind
  intro _ _ _ _
  apply (readWord_completes _).bind
  intro _ pVaddr _ _
  apply calloc_then_completes generous
  intro base
  exact (memcpyFile_completes _ _ _).bind fun _ _ _ _ => completes_pure _

theorem elfInitBreak_completes (phCount : Nat) (ctx : ElfContext) (bssStart bssSize : BitVec 32) :
    Completes (elfInitBreak alloc phCount ctx bssStart bssSize) := by
  apply (completes_emit _).bind
  intro _ _ _ _
  apply (completes_access _).bind
  intro _ _ _ _
  apply (completes_emit _).bind
  intro _ _ _ _
  exact (completes_access _).bind fun _ _ _ _ => completes_pure _

theorem elfInitLoad_completes (generous : alloc.Generous) : Completes (elfInitLoad alloc bytes length ehdr) := by
  apply (readWord_completes _).bind
  intro _ shOffset _ _
  apply (completes_each (elfInitSection_completes _) _ _).bind
  intro _ bss _ _
  apply calloc_then_completes generous
  intro loadRegions
  apply (completes_each (elfInitSegment_completes generous _) _ _).bind
  intro _ table _ _
  apply realloc_then_completes generous
  intro _
  exact .ite (completes_pure _) (elfInitBreak_completes _ _ _ _)

theorem elfInit_completes (generous : alloc.Generous) : Completes (elfInit alloc bytes length) := by
  apply calloc_then_completes generous
  intro _
  apply Completes.ite (completes_pure _)
  apply ((completes_emit _).bind fun _ _ _ _ => completes_pure _).bind
  intro _ ehdr _ _
  exact .ite (elfInitLoad_completes generous) (completes_pure _)

end Completes

end Urv86t
