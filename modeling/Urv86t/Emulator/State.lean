import Urv86t.Emulator.Elf
import Urv86t.Emulator.Platform
import Urv86t.Shared.ByteMemory

set_option autoImplicit false

namespace Urv86t

open ByteMemory

inductive RvbkptComparator where
  | none | gt | lt | eq
  deriving DecidableEq, Repr

/-- `val` and `sval` share their storage in the source; `sval` is `val` read as signed. -/
structure RvbkptEvRegcond where
  val : BitVec 32 := 0
  comp : RvbkptComparator := .none
  sign : Bool := false
  deriving DecidableEq, Repr

structure RvbkptEvInsncond where
  insnMask : Insn := {}
  insnComp : Insn := {}
  deriving DecidableEq, Repr

structure RvbkptEv where
  pcCond : RvbkptEvRegcond := {}
  insnCond : RvbkptEvInsncond := {}
  oneShot : Bool := false
  active : Bool := false
  triggered : Bool := false
  deriving DecidableEq, Repr

abbrev maxBkpt : Nat := 16

/-- `struct rvstate`, together with the host memory its pointers lead to. Its own fields are not in that memory. -/
structure RvState where
  fregs : BitVec 5 → BitVec 64
  regs : BitVec 5 → BitVec 32
  bkptEvArr : Fin maxBkpt → RvbkptEv
  mem : ElfContext
  pc : BitVec 32
  suspended : Bool
  host : Memory Nat

def rvstateInit (ctx : ElfContext) (host : Memory Nat) : RvState where
  fregs := fun _ => 0
  regs := Function.update (fun _ => 0) 2 ctx.sp
  bkptEvArr := fun _ => {}
  mem := ctx
  pc := ctx.entryPoint
  suspended := false
  host := host

-- Selectors reach the register file as `u8`; every decoded one is below 32.
def rvmemReg (state : RvState) (sel : BitVec 8) : BitVec 32 := state.regs (sel.setWidth 5)

def rvmemFreg (state : RvState) (sel : BitVec 8) : BitVec 64 := state.fregs (sel.setWidth 5)

def RvState.setRegp (state : RvState) (sel : BitVec 8) (val : BitVec 32) : RvState :=
  { state with regs := Function.update state.regs (sel.setWidth 5) val }

theorem setRegp_zero_clear (state : RvState) : (state.setRegp 0 0).regs 0 = 0 :=
  Function.update_self 0 0 state.regs

theorem setRegp_zero_other (state : RvState) {r : BitVec 5} (other : r ≠ 0) :
    (state.setRegp 0 0).regs r = state.regs r := Function.update_of_ne other 0 state.regs

def RvState.setFregp (state : RvState) (sel : BitVec 8) (val : BitVec 64) : RvState :=
  { state with fregs := Function.update state.fregs (sel.setWidth 5) val }

/-- `rvtrbk_diagn`; the message only goes to `stderr`. -/
def rvtrbkDiagn (state : RvState) (_msg : String) : RvState := { state with suspended := true }

def rvmemAt (state : RvState) (addr : BitVec 32) : Except Abort Nat :=
  let ptr := state.mem.pointer addr
  if ptr = 0 then .error (.fatal "tried to access out of bounds\n") else .ok ptr

inductive AccessKind where
  | fetch | data | syscall
  deriving DecidableEq, Repr

/-- Host bytes `[ptr, ptr + len)` used on behalf of the guest address `vma` they were looked up by. -/
structure HostAccess where
  kind : AccessKind
  vma : BitVec 32
  ptr : Nat
  len : Nat
  deriving DecidableEq, Repr

def hostCell (ptr : Nat) (k : Nat) : Nat := ptr + k

def rvstateFetch (state : RvState) : Except Abort (BitVec 32 × HostAccess) :=
  let insnPtr := state.mem.pointer state.pc
  if insnPtr = 0 then .error (.fatal "PC-fetch out of bounds\n")
  else .ok (load state.host (hostCell insnPtr) 4, ⟨.fetch, state.pc, insnPtr, 4⟩)

section Lookups

variable {state : RvState} {addr : BitVec 32} {ptr : Nat}

theorem rvmemAt_found (found : state.mem.backing addr = some ptr) : rvmemAt state addr = .ok ptr := by
  obtain ⟨-, nonNull⟩ := ElfContext.backing_eq_some.mp found
  have place := ElfContext.pointer_of_backing found
  rw [rvmemAt, place]
  exact if_neg nonNull

theorem rvmemAt_missed (missed : state.mem.backing addr = none) :
    rvmemAt state addr = .error (.fatal "tried to access out of bounds\n") :=
  if_pos (ElfContext.backing_eq_none.mp missed)

theorem rvstateFetch_found (found : state.mem.backing state.pc = some ptr) :
    rvstateFetch state = .ok (load state.host (hostCell ptr) 4, ⟨.fetch, state.pc, ptr, 4⟩) := by
  obtain ⟨-, nonNull⟩ := ElfContext.backing_eq_some.mp found
  have place := ElfContext.pointer_of_backing found
  rw [rvstateFetch, place]
  exact if_neg nonNull

theorem rvstateFetch_missed (missed : state.mem.backing state.pc = none) :
    rvstateFetch state = .error (.fatal "PC-fetch out of bounds\n") :=
  if_pos (ElfContext.backing_eq_none.mp missed)

theorem rvstateFetch_access {word : BitVec 32} {fetched : HostAccess}
    (read : rvstateFetch state = .ok (word, fetched)) :
    fetched = ⟨.fetch, state.pc, state.mem.pointer state.pc, 4⟩ := by
  simp only [rvstateFetch] at read
  split at read <;> cases read
  rfl

end Lookups

end Urv86t
