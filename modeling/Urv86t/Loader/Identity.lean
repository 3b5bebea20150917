import Urv86t.Loader.Break

set_option autoImplicit false

/-!
# Which files are emulated

The header's switches return on values without a meaning. A class, an encoding or a machine that has one is
printed and passes, whichever it is, and the file is emulated if its sections give it a program break.
-/

namespace Urv86t

open Traced Traced.Program

def eiElfclass32 : BitVec 8 := 1
def eiElfclass64 : BitVec 8 := 2
def eiElfdata2lsb : BitVec 8 := 1
def eiElfdata2msb : BitVec 8 := 2
def eiEvCurrent : BitVec 8 := 1
def em386 : BitVec 16 := 3
def emRiscv : BitVec 16 := 243

/-- The headers whose file the `Elf32` structures, the decoder and the dispatcher are made for. -/
structure Elf32Ehdr.Runnable (ehdr : Elf32Ehdr) : Prop where
  fileClass : ehdr.eIdent 4 = eiElfclass32
  encoding : ehdr.eIdent 5 = eiElfdata2lsb
  version : ehdr.eIdent 6 = eiEvCurrent
  machine : ehdr.eMachine = emRiscv

/-- One of the arms that only print was taken. -/
inductive Elf32Ehdr.Foreign (ehdr : Elf32Ehdr) : Prop where
  | fileClass (is64 : ehdr.eIdent 4 = eiElfclass64)
  | encoding (isBig : ehdr.eIdent 5 = eiElfdata2msb)
  | machine (other : ehdr.eMachine ≠ emRiscv)

theorem Elf32Ehdr.Runnable.not_foreign {ehdr : Elf32Ehdr} (runnable : ehdr.Runnable) : ¬ehdr.Foreign := by
  intro foreign
  cases foreign with
  | fileClass is64 => exact absurd (runnable.fileClass.symm.trans is64) (by decide)
  | encoding isBig => exact absurd (runnable.encoding.symm.trans isBig) (by decide)
  | machine other => exact other runnable.machine

theorem Elf32Ehdr.runnable_of_recognised {ehdr : Elf32Ehdr} (recognised : ehdr.recognised = true)
    (native : ¬ehdr.Foreign) : ehdr.Runnable := by
  simp only [Elf32Ehdr.recognised, Bool.and_eq_true, Bool.or_eq_true, decide_eq_true_eq] at recognised
  obtain ⟨⟨⟨⟨⟨-, classes⟩, encodings⟩, version⟩, -⟩, -⟩ := recognised
  refine ⟨?_, ?_, version, ?_⟩
  · exact classes.resolve_right fun is64 => native (.fileClass is64)
  · exact encodings.resolve_right fun isBig => native (.encoding isBig)
  · by_contra other
    exact native (.machine other)

/-- A `.bss` section of the file gives a break that is not 0, the sum being a 32-bit one. -/
def PlacesBreak (bytes : FileBytes) : Prop :=
  ∃ bss, bssSection bytes (elf32Ehdr bytes) = some bss ∧ bss.vmaEnd + progHeapSize ≠ 0

def EmulatesOnlyRunnable (bytes : FileBytes) (length : Nat) : Prop :=
  ∀ alloc heap ctx heap', (elfInit alloc bytes length).Returns heap ctx heap' → ctx.bp ≠ 0 →
    (elf32Ehdr bytes).Runnable

section Identity

variable {alloc : Allocator} {bytes : FileBytes} {length : Nat} {ctx : ElfContext} {heap heap' : Heap}

theorem elfInitLoad_bp_iff
    (returned : (elfInitLoad alloc bytes length (elf32Ehdr bytes)).Returns heap ctx heap') :
    ctx.bp ≠ 0 ↔ PlacesBreak bytes := by
  rcases elfInitLoad_break returned with ⟨missing, unset⟩ | ⟨bss, segments, found, atBreak⟩
  · refine iff_of_false (fun set => set unset) ?_
    rintro ⟨bss, found, -⟩
    rw [missing] at found
    cases found
  · rw [atBreak.bp]
    constructor
    · exact fun set => ⟨bss, found, set⟩
    · rintro ⟨bss', found', set⟩
      rw [found] at found'
      cases found'
      exact set

theorem elfInit_bp_iff (returned : (elfInit alloc bytes length).Returns heap ctx heap') :
    ctx.bp ≠ 0 ↔ ¬Refused bytes length ∧ PlacesBreak bytes := by
  rcases elfInit_cases returned with ⟨refused, rfl⟩ | ⟨accepted, mid, loaded⟩
  · exact iff_of_false (fun set => set rfl) fun accepted => accepted.1 refused
  · rw [elfInitLoad_bp_iff loaded, and_iff_right accepted]

theorem elfInit_emulates_exists (accepted : ¬Refused bytes length) (placed : PlacesBreak bytes) :
    ∃ alloc heap ctx heap', (elfInit alloc bytes length).Returns heap ctx heap' ∧ ctx.bp ≠ 0 := by
  obtain ⟨ctx, heap', returned⟩ := elfInit_completes bumpAllocator_generous ⟨fun _ => 0, []⟩
  exact ⟨bumpAllocator, _, ctx, heap', returned, (elfInit_bp_iff returned).mpr ⟨accepted, placed⟩⟩

theorem recognised_of_not_refused (accepted : ¬Refused bytes length) : (elf32Ehdr bytes).recognised = true :=
  Bool.eq_true_of_not_eq_false fun unrecognised => accepted (.inr unrecognised)

end Identity

theorem elfInit_emulatesOnlyRunnable_iff (bytes : FileBytes) (length : Nat) :
    EmulatesOnlyRunnable bytes length ↔
      ((elf32Ehdr bytes).Foreign → Refused bytes length ∨ ¬PlacesBreak bytes) := by
  constructor
  · intro onlyRunnable foreign
    by_contra emulated
    obtain ⟨accepted, placed⟩ := not_or.mp emulated
    obtain ⟨alloc, heap, ctx, heap', returned, set⟩ := elfInit_emulates_exists accepted (not_not.mp placed)
    exact (onlyRunnable alloc heap ctx heap' returned set).not_foreign foreign
  · intro stops alloc heap ctx heap' returned set
    obtain ⟨accepted, placed⟩ := (elfInit_bp_iff returned).mp set
    apply Elf32Ehdr.runnable_of_recognised (recognised_of_not_refused accepted)
    intro foreign
    rcases stops foreign with refused | unplaced
    · exact accepted refused
    · exact unplaced placed

-- The file with a program break, one byte of its header being another one.
def bssFileWith (off : Int) (value : BitVec 8) : FileBytes := Function.update bssFile off value

theorem bssFileWith_emulates {off : Int} {value : BitVec 8}
    (recognised : (elf32Ehdr (bssFileWith off value)).recognised = true)
    (found : bssSection (bssFileWith off value) (elf32Ehdr (bssFileWith off value)) = some ⟨0, 0x2000, 64⟩)
    (foreign : (elf32Ehdr (bssFileWith off value)).Foreign) :
    ¬EmulatesOnlyRunnable (bssFileWith off value) 169 := by
  intro onlyRunnable
  have accepted : ¬Refused (bssFileWith off value) 169 := by
    rintro (short | unrecognised)
    · exact absurd short (by decide)
    · rw [recognised] at unrecognised
      cases unrecognised
  have placed : PlacesBreak (bssFileWith off value) := ⟨_, found, by decide⟩
  obtain ⟨alloc, heap, ctx, heap', returned, emulated⟩ := elfInit_emulates_exists accepted placed
  exact (onlyRunnable alloc heap ctx heap' returned emulated).not_foreign foreign

-- A 64-bit, a big-endian and an i386 file; the last differs in the low byte of `e_machine`.
theorem elfInit_emulates_foreign :
    ¬EmulatesOnlyRunnable (bssFileWith 4 eiElfclass64) 169 ∧
      ¬EmulatesOnlyRunnable (bssFileWith 5 eiElfdata2msb) 169 ∧
      ¬EmulatesOnlyRunnable (bssFileWith 18 (em386.setWidth 8)) 169 := by
  refine ⟨?_, ?_, ?_⟩
  · exact bssFileWith_emulates (by decide) (by decide) (.fileClass (by decide))
  · exact bssFileWith_emulates (by decide) (by decide) (.encoding (by decide))
  · exact bssFileWith_emulates (by decide) (by decide) (.machine (by decide))

end Urv86t
