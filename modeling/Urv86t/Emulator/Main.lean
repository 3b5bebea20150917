import Urv86t.Emulator.Step

set_option autoImplicit false

namespace Urv86t

/-- What a call of `rvemu_step` decodes; all zeros where it does not get that far. -/
def rvemuDecoded (state : RvState) : Insn :=
  match rvstateFetch (state.setRegp 0 0) with
  | .error _ => {}
  | .ok (bytes, _) =>
    match rvdecInsn (state.setRegp 0 0) bytes with
    | .error _ => {}
    | .ok (insn, _) => insn

theorem rvemuDecoded_eq {state after : RvState} {bytes : BitVec 32} {fetched : HostAccess} {insn : Insn}
    (read : rvstateFetch (state.setRegp 0 0) = .ok (bytes, fetched))
    (decoded : rvdecInsn (state.setRegp 0 0) bytes = .ok (insn, after)) : rvemuDecoded state = insn := by
  simp only [rvemuDecoded, read, decoded]

/-- A round of the loop in `main`: a step that returned true, and the slot polled after it. -/
structure Iteration where
  before : RvState
  insn : Insn
  after : RvState
  polled : Option (Fin maxBkpt)

/-- The loop in `main`, with a user who only ever continues, for as many rounds as host calls are given. -/
def mainLoop (float : HostFloat) : List HostCalls → RvState → List Iteration
  | [], _ => []
  | calls :: rest, state =>
    match rvemuStep float calls state with
    | .ok (true, after) =>
      ⟨state, rvemuDecoded state, after, (rvbkptPoll after).1⟩ :: mainLoop float rest (rvbkptPoll after).2
    | _ => []

def rvtrbkPrintDump (state : RvState) : BitVec 32 := state.pc - 4

def rvemuFetched (state : RvState) : Option (BitVec 32 × BitVec 32) :=
  if state.suspended then none
  else
    match rvstateFetch (state.setRegp 0 0) with
    | .error _ => none
    | .ok (bytes, fetched) => some (fetched.vma, bytes)

/-- The emulator, and the last word it fetched, which it keeps no record of itself. -/
structure Watched where
  state : RvState
  fetched : Option (BitVec 32 × BitVec 32) := none

def watchedStep (float : HostFloat) (calls : HostCalls) (emu : Watched) : Except Abort (Bool × Watched) := do
  let (running, state) ← rvemuStep float calls emu.state
  return (running, ⟨state, (rvemuFetched emu.state).or emu.fetched⟩)

/-- A line typed at the prompt of `bkpt_user_loop`; the last one stands for every text it does not know. -/
inductive UserCommand where
  | continue
  | step (calls : HostCalls)
  | regs
  | unknown

def bkptUserLoop (float : HostFloat) : List UserCommand → Watched → Except Abort Watched
  | [], emu => .ok emu
  | .continue :: _, emu => .ok emu
  | .step calls :: rest, emu => do
    -- Whether the step returned true or false is ignored.
    let (_, emu) ← watchedStep float calls emu
    bkptUserLoop float rest emu
  | .regs :: rest, emu => bkptUserLoop float rest emu
  | .unknown :: rest, emu => bkptUserLoop float rest emu

def mainBody (float : HostFloat) (commands : List UserCommand) (emu : Watched) : Except Abort Watched :=
  match rvbkptPoll emu.state with
  | (none, state) => .ok { emu with state := state }
  | (some _, state) => bkptUserLoop float commands { emu with state := state }

structure Round where
  calls : HostCalls
  commands : List UserCommand

/-- The loop in `main` and what it leaves to `rvtrbk_print_dump`; none if it has not ended by then. -/
def mainRun (float : HostFloat) : List Round → Watched → Except Abort (Option Watched)
  | [], _ => .ok none
  | round :: rest, emu => do
    let (running, emu) ← watchedStep float round.calls emu
    if running then
      let emu ← mainBody float round.commands emu
      mainRun float rest emu
    else return some emu

end Urv86t
