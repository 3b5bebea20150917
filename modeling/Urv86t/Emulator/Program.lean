import Urv86t.Emulator.ElfInit

set_option autoImplicit false

namespace Urv86t

open Traced.Program

/-- Undefined where `ptr` is neither null nor the start of a live block. -/
def Heap.free (heap : Heap) (ptr : Nat) : Option Heap :=
  if ptr = 0 then some heap
  else if heap.blocks.any (·.base = ptr) then some { heap with blocks := heap.blocks.filter (·.base ≠ ptr) }
  else none

def free (ptr : Nat) : ElfM Unit :=
  attempt fun heap =>
    match heap.free ptr with
    | none => .error .unreachable
    | some heap => .ok ((), heap)

/-- The binary, once `fopen` has opened it: what `fread` puts into the block, and what lies around it. -/
structure BinaryFile where
  bytes : FileBytes
  fdSize : Nat
  nread : Nat

def sizeofRvstate : Nat := 1176
def sizeofRvasmCtx : Nat := 16

/-- `opens` tells if the file for the disassembly can be written. -/
def rvasmInit (alloc : Allocator) (opens : Bool) : ElfM (Option Nat) := do
  match ← calloc alloc sizeofRvasmCtx with
  | none => abort (.fatal "failed to allocate RVASM context\n")
  | some ctx =>
    if opens then return some ctx
    else
      free ctx
      return none

structure Started where
  ctx : ElfContext
  emuCode : Nat
  state : Nat
  -- `state->gen_ctx.disasm`, null without `-S`.
  disasm : Nat

/-- `main` up to its loop; `disasm` is none without `-S`. -/
def mainInit (alloc : Allocator) (file : Option BinaryFile) (disasm : Option Bool) : ElfM Started :=
  match file with
  | none => abort (.fatal "Failed to open binary file\n")
  | some file => do
    match ← calloc alloc file.fdSize with
    | none => abort (.fatal "Failed to allocate memory region for code\n")
    | some emuCode =>
      if file.nread ≠ file.fdSize then abort (.fatal "Failed to read from binary file\n")
      else
        let ctx ← elfInit alloc file.bytes file.nread
        if ctx.bp = 0 then abort (.fatal "Failed to allocate stack/heap\n")
        else
          match ← calloc alloc sizeofRvstate with
          | none => abort (.fatal "failed to allocate emulation context\n")
          | some state =>
            match disasm with
            | none => return ⟨ctx, emuCode, state, 0⟩
            | some opens =>
              match ← rvasmInit alloc opens with
              | none => abort (.fatal "Failed to open file for disassembly context\n")
              | some out => return ⟨ctx, emuCode, state, out⟩

/-- The context is at `ctx`, and its `load_regions` lead to the table. -/
def elfFree (loadRegions ctx : Nat) : ElfM Unit := do
  free loadRegions
  free ctx

/--
C reads `disasm` and `load_regions` back from the blocks of the state and of the context. The model does not keep
these blocks' contents, and is given the pointers `main` has put there.
-/
def mainFree (started : Started) (loadRegions ctx : Nat) : ElfM Unit := do
  -- `rvasm_free`, which is not called with a null pointer
  free started.disasm
  -- `rvstate_free`
  free started.state
  elfFree loadRegions ctx
  free started.emuCode

end Urv86t
