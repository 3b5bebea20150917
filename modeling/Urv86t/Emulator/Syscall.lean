import Urv86t.Emulator.State

set_option autoImplicit false

namespace Urv86t

open ByteMemory

inductive HostResult where
  | value (n : BitVec 64)
  | failure (errno : Nat)
  deriving DecidableEq, Repr, Inhabited

def HostResult.toIword : HostResult → BitVec 32
  | .value n => n.setWidth 32
  | .failure _ => -1

/-- The host calls made during one instruction. `fstat` may rewrite host memory. -/
structure HostCalls where
  write : (fd : BitVec 32) → (buff : Nat) → (count : BitVec 64) → Memory Nat → HostResult
  fstat : (fd : BitVec 32) → (buff : Nat) → Memory Nat → HostResult × Memory Nat
  deriving Inhabited

/-- `sizeof (struct stat)` on the 64-bit host. -/
def sizeofStat : Nat := 144

def rvsyscRead (_fd : BitVec 32) (_buff : Nat) (_count : BitVec 32) : BitVec 32 := 0

def rvsyscWrite (calls : HostCalls) (state : RvState) (fd : BitVec 32) (buff : Nat)
    (count : BitVec 32) : BitVec 32 :=
  (calls.write fd buff (count.setWidth 64) state.host).toIword

def rvsyscExit (state : RvState) : RvState := { state with suspended := true }

def rvsyscFstat (calls : HostCalls) (state : RvState) (fd : BitVec 32) (buff : Nat) :
    BitVec 32 × RvState :=
  let (result, host) := calls.fstat fd buff state.host
  (result.toIword, { state with host := host })

/-- `elf_get_region_by_tag` as a zipper: the regions before the match, and the match. -/
def elfGetRegionByTag (tag : String) :
    List ElfLoadRegion → Option (List ElfLoadRegion × ElfLoadRegion × List ElfLoadRegion)
  | [] => none
  | region :: rest =>
    if region.tag = some tag then some ([], region, rest)
    else (elfGetRegionByTag tag rest).map fun (before, found, after) => (region :: before, found, after)

def rvsyscBrk (state : RvState) (brk : BitVec 32) : Except Abort (BitVec 32 × RvState) :=
  match elfGetRegionByTag regionTagHeap state.mem.loadRegions with
  | none => .error .nullDereference
  | some (before, heap, after) =>
    let minBrk := heap.vmaBase
    let currentBrk := minBrk + heap.szAlloc
    let maxBrk := heap.vmaBase + heap.szReserved
    if brk = 0 then .ok (currentBrk, state)
    else if brk < minBrk ∨ brk > maxBrk then .ok (currentBrk, state)
    else
      let heap := { heap with szAlloc := heap.szAlloc + (brk - currentBrk) }
      .ok (brk, { state with mem := { state.mem with loadRegions := before ++ heap :: after } })

end Urv86t
