import Urv86t.Emulator.Main
import Urv86t.Shared.Lines

set_option autoImplicit false

namespace Urv86t

def newline : BitVec 8 := 0x0a

/-- The size of `cmd`, of which the zero at its end takes one byte. -/
def sizeofCmd : Nat := 32

/-- `fgets (cmd, sizeof (cmd), stdin)` and what it leaves; none stands for the null pointer. -/
def fgets (stdin : List (BitVec 8)) : Option (List (BitVec 8) × List (BitVec 8)) :=
  if stdin = [] then none else some (Lines.readLine (· == newline) (sizeofCmd - 1) stdin)

theorem fgets_some {stdin : List (BitVec 8)} {out : List (BitVec 8) × List (BitVec 8)}
    (read : fgets stdin = some out) :
    ∃ byte later, stdin = byte :: later ∧
      Lines.readLine (· == newline) (sizeofCmd - 2 + 1) (byte :: later) = out := by
  cases stdin with
  | nil => cases read
  | cons byte later =>
    exact ⟨byte, later, rfl, Option.some.inj ((if_neg (List.cons_ne_nil byte later)).symm.trans read)⟩

theorem fgets_shorter {stdin text rest : List (BitVec 8)} (read : fgets stdin = some (text, rest)) :
    rest.length < stdin.length := by
  obtain ⟨byte, later, rfl, taken⟩ := fgets_some read
  have shorter := @Lines.readLine_shorter _ (· == newline) (sizeofCmd - 2) byte later
  rw [taken] at shorter
  exact shorter

-- In the C locale.
def tolower (c : BitVec 8) : BitVec 8 := if 0x41 ≤ c ∧ c ≤ 0x5a then c + 0x20 else c

/-- The string left in `cmd`: it ends in front of the newline, or of a zero that was typed. -/
def cmdString (text : List (BitVec 8)) : List (BitVec 8) :=
  (text.takeWhile fun c => c != 0 && c != newline).map tolower

def ascii (chars : List Char) : List (BitVec 8) := chars.map fun c => BitVec.ofNat 8 c.toNat

/-- What the text asks for; a step would meet the host `calls`. -/
def userCommand (calls : HostCalls) (text : List (BitVec 8)) : UserCommand :=
  let cmd := cmdString text
  if cmd = ascii ['c'] ∨ cmd = ascii ['c', 'o', 'n', 't', 'i', 'n', 'u', 'e'] then .continue
  else if cmd = ascii ['s'] ∨ cmd = ascii ['s', 't', 'e', 'p'] then .step calls
  else if cmd = ascii ['r'] ∨ cmd = ascii ['r', 'e', 'g', 's'] then .regs
  else .unknown

structure Console where
  stdin : List (BitVec 8)
  steps : Nat

/-- `bkpt_user_loop`; call `n` of `rvemu_step` meets the host `hosts n`. -/
def bkptUserLoopTyped (float : HostFloat) (hosts : Nat → HostCalls) (stdin : List (BitVec 8)) (steps : Nat)
    (emu : Watched) : Except Abort (Watched × Console) :=
  match _read : fgets stdin with
  | none => .ok (emu, ⟨stdin, steps⟩)
  | some (text, rest) =>
    match userCommand (hosts steps) text with
    | .continue => .ok (emu, ⟨rest, steps⟩)
    | .step calls => do
      let (_, emu) ← watchedStep float calls emu
      bkptUserLoopTyped float hosts rest (steps + 1) emu
    | .regs => bkptUserLoopTyped float hosts rest steps emu
    | .unknown => bkptUserLoopTyped float hosts rest steps emu
  termination_by stdin.length
  decreasing_by all_goals exact fgets_shorter ‹_›

def mainBodyTyped (float : HostFloat) (hosts : Nat → HostCalls) (console : Console) (emu : Watched) :
    Except Abort (Watched × Console) :=
  match rvbkptPoll emu.state with
  | (none, state) => .ok ({ emu with state := state }, console)
  | (some _, state) => bkptUserLoopTyped float hosts console.stdin console.steps { emu with state := state }

def mainRunTyped (float : HostFloat) (hosts : Nat → HostCalls) : Nat → Console → Watched →
    Except Abort (Option Watched)
  | 0, _, _ => .ok none
  | rounds + 1, console, emu => do
    let (running, emu) ← watchedStep float (hosts console.steps) emu
    if running then
      let (emu, console) ← mainBodyTyped float hosts { console with steps := console.steps + 1 } emu
      mainRunTyped float hosts rounds console emu
    else return some emu

end Urv86t
