import Urv86t.Memory.Lookup
import Urv86t.Memory.SyscallBuffers
import Urv86t.Runs.ProgramBreak
import Urv86t.Emulator.Step

set_option autoImplicit false

namespace Urv86t

open ByteMemory

/-- The host call's answer, and with it the number of every failure, survives the `-1` of the C library. -/
def HostResult.Told (result : HostResult) : Prop := ∀ errno, result = .failure errno → errno % 0x100000000 = 1

def elfGetHeapRegion (ctx : ElfContext) : Option ElfLoadRegion :=
  (elfGetRegionByTag regionTagHeap ctx.loadRegions).map fun (_, heap, _) => heap

section Answers

variable (calls : HostCalls) (state : RvState)

def hostWrite : HostResult :=
  calls.write (state.regs 10) (state.mem.pointer (state.regs 11)) ((state.regs 12).setWidth 64) state.host

def hostFstat : HostResult × Memory Nat :=
  calls.fstat (state.regs 10) (state.mem.pointer (state.regs 11)) state.host

def InRecord (ptr : Nat) : Prop :=
  (state.regs 17).toNat = 80 ∧ state.mem.pointer (state.regs 11) ≤ ptr ∧
    ptr < state.mem.pointer (state.regs 11) + sizeofStat

end Answers

structure Served (state : RvState) (answer : Option (BitVec 32)) (after : RvState) : Prop where
  pc : after.pc = state.pc + 4
  a0 : after.regs 10 = answer.getD (state.regs 10)
  regs : ∀ r, r ≠ 0 → r ≠ 10 → after.regs r = state.regs r
  zero : after.regs 0 = 0
  fregs : after.fregs = state.fregs
  suspended : after.suspended = answer.isNone
  host : ∀ ptr, ¬InRecord state ptr → after.host ptr = state.host ptr
  places : ∀ a, elfVmaToMem after.mem a = elfVmaToMem state.mem a

structure Keeps (calls : HostCalls) (state : RvState) : Prop where
  write : (state.regs 17).toNat = 64 → (state.mem.backing (state.regs 11)).isSome ∧ (hostWrite calls state).Told
  fstat : (state.regs 17).toNat = 80 →
    (state.mem.backing (state.regs 11)).isSome ∧ (hostFstat calls state).1.Told
  brk : (state.regs 17).toNat = 214 → (elfGetHeapRegion state.mem).isSome

section Step

variable {float : HostFloat} {calls : HostCalls} {state : RvState} {fetched : HostAccess}

end Step

def ecallState (number : BitVec 32) : RvState :=
  ((rvstateInit
    { loadRegions :=
        [{ vmaBase := 0x1000, memBase := 0x5000, szReserved := 4 },
          { vmaBase := 0x2000, memBase := 0x6000, szReserved := 256 }]
      entryPoint := 0x1000 }
    fun ptr => if ptr = 0x5000 then 0x73 else 0).setRegp 17 number).setRegp 11 0x2000

def hostReturning (result : HostResult) : HostCalls where
  write := fun _ _ _ _ => result
  fstat := fun _ _ host => (result, host)

end Urv86t
