import Urv86t.Emulator.Asm
import Urv86t.Emulator.Main
import Urv86t.Shared.Traced

set_option autoImplicit false

namespace Urv86t

open Traced Traced.Program

def riscvRegcount : Nat := 32

/-- `name (xN): value` -/
structure RegCell where
  name : String
  number : Nat
  value : BitVec 32
  deriving DecidableEq, Repr

/-- `#N: start -> end (tag)`, the end being a 32-bit sum. -/
structure RegionLine where
  number : Nat
  vmaBase : BitVec 32
  vmaEnd : BitVec 32
  tag : String
  deriving DecidableEq, Repr

structure CoreDump where
  registers : List (List RegCell)
  pc : BitVec 32
  regions : List RegionLine
  deriving DecidableEq, Repr

def regCell (state : RvState) (i : Nat) : RegCell :=
  ⟨reprRegAbiMap.getD i "", i, state.regs (BitVec.ofNat 5 i)⟩

-- Four registers to a line.
def rvtrbkRegisters (state : RvState) : List (List RegCell) :=
  (List.range (riscvRegcount / 4)).map fun line => (List.range 4).map fun k => regCell state (4 * line + k)

def rvtrbkRegions (ctx : ElfContext) : List RegionLine :=
  ctx.loadRegions.zipIdx.map fun (region, i) =>
    ⟨i, region.vmaBase, region.vmaBase + region.szReserved, region.tag.getD "untagged"⟩

def coreDump (state : RvState) : CoreDump :=
  ⟨rvtrbkRegisters state, rvtrbkPrintDump state, rvtrbkRegions state.mem⟩

inductive DumpSite where
  | prompt | final
  deriving DecidableEq, Repr

/-- A call of `rvtrbk_print_dump`; `called` is the state the last call of `rvemu_step` was given. -/
structure Shown where
  site : DumpSite
  dump : CoreDump
  called : RvState

structure Stepped where
  state : RvState
  called : RvState

abbrev EmuM := Program Shown Abort Stepped

def stepEmu (float : HostFloat) (calls : HostCalls) : EmuM Bool :=
  attempt fun emu => (rvemuStep float calls emu.state).map fun (running, state) => (running, ⟨state, emu.state⟩)

def pollEmu : EmuM (Option (Fin maxBkpt)) :=
  access fun emu => ((rvbkptPoll emu.state).1, { emu with state := (rvbkptPoll emu.state).2 })

def printDump (site : DumpSite) : EmuM Unit := report fun emu => ⟨site, coreDump emu.state, emu.called⟩

def userLoopDumps (float : HostFloat) : List UserCommand → EmuM Unit
  | [] => pure ()
  | .continue :: _ => pure ()
  | .step calls :: rest => do
    let _ ← stepEmu float calls
    userLoopDumps float rest
  | .regs :: rest => do
    printDump .prompt
    userLoopDumps float rest
  | .unknown :: rest => userLoopDumps float rest

def bodyDumps (float : HostFloat) (commands : List UserCommand) : EmuM Unit := do
  match ← pollEmu with
  | none => pure ()
  | some _ => userLoopDumps float commands

def mainDumps (float : HostFloat) : List Round → EmuM Bool
  | [] => pure false
  | round :: rest => do
    let running ← stepEmu float round.calls
    if running then
      bodyDumps float round.commands
      mainDumps float rest
    else
      printDump .final
      return true

def entryBkpt : RvbkptEv where
  pcCond := { val := 0x10954, comp := .eq }
  oneShot := true
  active := true

section Runs

variable (float : HostFloat)

def SameRun {α : Type} (run : Except Abort Watched) (dumps : Except Abort (α × Stepped)) : Prop :=
  run.map Watched.state = dumps.map (·.2.state)

def endedState (out : Bool × Stepped) : Option RvState := if out.1 then some out.2.state else none

theorem SameRun.bind {α : Type} {run : Except Abort Watched} {dumps : Except Abort (α × Stepped)}
    (same : SameRun run dumps) (rest : Watched → Except Abort (Option Watched))
    (restDumps : Stepped → Except Abort (Bool × Stepped))
    (later : ∀ emu called,
      (rest emu).map (·.map Watched.state) = (restDumps ⟨emu.state, called⟩).map endedState) :
    (run >>= rest).map (·.map Watched.state) = (dumps >>= fun out => restDumps out.2).map endedState := by
  cases run with
  | error abort =>
    cases dumps with
    | error abort' =>
      cases same
      rfl
    | ok out => cases same
  | ok emu =>
    cases dumps with
    | error abort' => cases same
    | ok out =>
      obtain ⟨a, state, called⟩ := out
      cases same
      exact later emu called

theorem userLoopDumps_run (commands : List UserCommand) (emu : Watched) (called : RvState) :
    SameRun (bkptUserLoop float commands emu) (userLoopDumps float commands ⟨emu.state, called⟩).result := by
  induction commands generalizing emu called with
  | nil => rfl
  | cons command rest ih =>
    cases command with
    | «continue» => rfl
    | step calls =>
      rw [bkptUserLoop, userLoopDumps, result_bind, watchedStep, stepEmu, attempt]
      cases rvemuStep float calls emu.state with
      | error abort => rfl
      | ok out => exact ih _ emu.state
    | regs =>
      rw [bkptUserLoop, userLoopDumps, result_bind]
      exact ih emu called
    | unknown => exact ih emu called

theorem pollEmu_result (emu : Stepped) :
    (pollEmu emu).result = .ok ((rvbkptPoll emu.state).1, ⟨(rvbkptPoll emu.state).2, emu.called⟩) := rfl

theorem bodyDumps_run (commands : List UserCommand) (emu : Watched) (called : RvState) :
    SameRun (mainBody float commands emu) (bodyDumps float commands ⟨emu.state, called⟩).result := by
  rw [bodyDumps, result_bind, pollEmu_result]
  unfold mainBody
  generalize rvbkptPoll emu.state = polled
  obtain ⟨which, state⟩ := polled
  cases which with
  | none => rfl
  | some evIdx => exact userLoopDumps_run float commands ⟨state, emu.fetched⟩ called

theorem mainDumps_run (rounds : List Round) (emu : Watched) (called : RvState) :
    (mainRun float rounds emu).map (·.map Watched.state) =
      (mainDumps float rounds ⟨emu.state, called⟩).result.map endedState := by
  induction rounds generalizing emu called with
  | nil => rfl
  | cons round rest ih =>
    rw [mainRun, mainDumps, result_bind, watchedStep, stepEmu, attempt]
    cases rvemuStep float round.calls emu.state with
    | error abort => rfl
    | ok out =>
      obtain ⟨running, state⟩ := out
      cases running with
      | false => rfl
      | true =>
        let after : Watched := ⟨state, (rvemuFetched emu.state).or emu.fetched⟩
        have body := (bodyDumps_run float round.commands after emu.state).bind (mainRun float rest)
          (fun emu => (mainDumps float rest emu).result) ih
        rw [← result_bind (bodyDumps float round.commands) fun _ => mainDumps float rest] at body
        exact body

end Runs

end Urv86t
