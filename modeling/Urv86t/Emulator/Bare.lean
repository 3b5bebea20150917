import Urv86t.Emulator.Main

set_option autoImplicit false

namespace Urv86t

/-- `rvemu_dispatch` without the check; the table of the state, which there is none of, is left alone. -/
def rvemuDispatchBare (float : HostFloat) (calls : HostCalls) (state : RvState) (insn : Insn) :
    Except Abort RvState := do
  let arm ← rvemuDispatchInsn float calls state insn
  return { arm.state with pc := arm.state.pc + arm.pcOffset }

def rvemuStepBare (float : HostFloat) (calls : HostCalls) (state : RvState) : Except Abort (Bool × RvState) :=
  if state.suspended then .ok (false, state)
  else do
    let state := state.setRegp 0 0
    let (bytes, _) ← rvstateFetch state
    let (insn, state) ← rvdecInsn state bytes
    if insn.insnTy = .invalid then return (false, state)
    let state ← rvemuDispatchBare float calls state insn
    return (true, state)

def mainRunBare (float : HostFloat) : List HostCalls → RvState → Except Abort (Option RvState)
  | [], _ => .ok none
  | calls :: rest, state => do
    let (running, state) ← rvemuStepBare float calls state
    if running then mainRunBare float rest state else return some state

end Urv86t
