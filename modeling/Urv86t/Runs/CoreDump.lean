import Urv86t.Breakpoint.Slots
import Urv86t.Decoder.Diagnosed
import Urv86t.Decoder.Verdict
import Urv86t.Emulator.Main
import Urv86t.Runs.Effects

set_option autoImplicit false

namespace Urv86t

open ByteMemory

/-- A word behind which the pc is not advanced: one that is turned down, or FCLASS. -/
def Unadvanced (word : BitVec 32) : Prop :=
  ∃ state insn after, rvdecInsn state word = .ok (insn, after) ∧ (insn.insnTy = .invalid ∨ insn.insnTy = .fclassx)

theorem unadvanced_iff {state after : RvState} {word : BitVec 32} {insn : Insn}
    (decoded : rvdecInsn state word = .ok (insn, after)) :
    Unadvanced word ↔ insn.insnTy = .invalid ∨ insn.insnTy = .fclassx := by
  constructor
  · rintro ⟨other, insn', after', decoded', unadvanced⟩
    obtain ⟨diagnosed, -, again⟩ := rvdecInsn_again decoded
    rw [again other] at decoded'
    cases decoded'
    exact unadvanced
  · intro unadvanced
    exact ⟨state, insn, after, decoded, unadvanced⟩

def Watched.Names (emu : Watched) : Prop :=
  ∃ addr word, emu.fetched = some (addr, word) ∧ (rvtrbkPrintDump emu.state = addr ↔ ¬Unadvanced word)

def Watched.Kept (emu : Watched) : Prop := emu.state.suspended = true → emu.Names

theorem pc_names (pc : BitVec 32) : pc - 4 ≠ pc ∧ pc + 4 - 4 = pc := by
  constructor
  · intro same
    have moved := congrArg BitVec.toNat same
    rw [BitVec.toNat_sub] at moved
    have bound := pc.isLt
    simp at moved
    omega
  · exact BitVec.add_sub_cancel pc 4

section Steps

variable {float : HostFloat}

theorem rvemuFetched_eq {state : RvState} {bytes : BitVec 32} {fetched : HostAccess}
    (running : state.suspended = false) (read : rvstateFetch (state.setRegp 0 0) = .ok (bytes, fetched)) :
    rvemuFetched state = some (state.pc, bytes) := by
  have vma : fetched.vma = state.pc := by
    rw [rvstateFetch_access read]
    rfl
  rw [rvemuFetched, if_neg (by rw [running]; decide), read]
  simp only [vma]

theorem dispatched_names {ready next : RvState} {insn : Insn} {offset pc : BitVec 32}
    (effect : Effect ready insn next offset) (running : ready.suspended = false) (here : ready.pc = pc)
    (stopped : next.suspended = true) :
    next.pc + offset = if insn.insnTy = .fclassx then pc else pc + 4 := by
  cases effect with
  | compute | jump | brk =>
    rw [running] at stopped
    cases stopped
  | suspend other => rw [if_neg other, here]
  | fclass ty =>
    rw [if_pos ty, here]
    exact BitVec.add_zero pc

theorem names_rejected {state after : RvState} {bytes : BitVec 32} {insn : Insn}
    (decoded : rvdecInsn (state.setRegp 0 0) bytes = .ok (insn, after)) (invalid : insn.insnTy = .invalid) :
    Watched.Names ⟨after, some (state.pc, bytes)⟩ := by
  refine ⟨state.pc, bytes, rfl, ?_⟩
  have unadvanced := (unadvanced_iff decoded).mpr (.inl invalid)
  obtain ⟨diagnosed, rfl, -⟩ := rvdecInsn_again decoded
  have pc : ((state.setRegp 0 0).suspendIf diagnosed).pc = state.pc := by cases diagnosed <;> rfl
  rw [rvtrbkPrintDump, pc]
  exact iff_of_false (pc_names state.pc).1 (not_not.mpr unadvanced)

theorem names_dispatched {calls : HostCalls} {state after : RvState} {bytes : BitVec 32} {insn : Insn}
    {arm : Dispatched} (running : state.suspended = false)
    (decoded : rvdecInsn (state.setRegp 0 0) bytes = .ok (insn, after)) (valid : insn.insnTy ≠ .invalid)
    (dispatched : rvemuDispatch float calls after insn = .ok arm) (stopped : arm.state.suspended = true) :
    Watched.Names ⟨arm.state, some (state.pc, bytes)⟩ := by
  refine ⟨state.pc, bytes, rfl, ?_⟩
  rw [unadvanced_iff decoded]
  obtain rfl := rvdecInsn_silent decoded valid
  obtain ⟨inner, body, rfl⟩ := rvemuDispatch_returned dispatched
  have pc := dispatched_names (rvemuDispatchInsn_effect inner body) running rfl stopped
  by_cases fclass : insn.insnTy = .fclassx
  · rw [if_pos fclass] at pc
    simp only [rvtrbkPrintDump, pc, fclass, or_true, not_true_eq_false, iff_false]
    exact (pc_names _).1
  · rw [if_neg fclass] at pc
    simp only [rvtrbkPrintDump, pc, fclass, valid, or_self, not_false_eq_true, iff_true]
    exact (pc_names _).2

theorem watchedStep_names {calls : HostCalls} {emu next : Watched} {running : Bool}
    (stepped : watchedStep float calls emu = .ok (running, next)) (kept : emu.Kept) :
    next.Kept ∧ (running = false → next.Names) := by
  obtain ⟨⟨returned, state⟩, result, stepped⟩ := bind_returned stepped
  cases stepped
  rcases rvemuStep_returned result with
    ⟨suspended, -, rfl⟩ | ⟨live, bytes, fetched, insn, after, read, decoded, ended⟩
  · -- Nothing is fetched, and the last fetch stays the one before.
    have unfetched : rvemuFetched emu.state = none := by rw [rvemuFetched, if_pos suspended]
    rw [unfetched]
    exact ⟨fun _ => kept suspended, fun _ => kept suspended⟩
  have fetch : (rvemuFetched emu.state).or emu.fetched = some (emu.state.pc, bytes) := by
    rw [rvemuFetched_eq live read]
    rfl
  rw [fetch]
  rcases ended with ⟨invalid, -, rfl⟩ | ⟨valid, rfl, arm, dispatched, rfl⟩
  · have named := names_rejected decoded invalid
    exact ⟨fun _ => named, fun _ => named⟩
  · refine ⟨names_dispatched live decoded valid dispatched, fun ended => ?_⟩
    cases ended

theorem bkptUserLoop_kept {commands : List UserCommand} {emu next : Watched}
    (left : bkptUserLoop float commands emu = .ok next) (kept : emu.Kept) : next.Kept := by
  induction commands generalizing emu with
  | nil =>
    cases left
    exact kept
  | cons command rest ih =>
    cases command with
    | «continue» =>
      cases left
      exact kept
    | step calls =>
      rw [bkptUserLoop] at left
      obtain ⟨out, stepped, left⟩ := bind_returned left
      exact ih left (watchedStep_names stepped kept).1
    | regs | unknown => exact ih left kept

theorem mainBody_kept {commands : List UserCommand} {emu next : Watched}
    (left : mainBody float commands emu = .ok next) (kept : emu.Kept) : next.Kept := by
  have polled := rvbkptPoll_polled emu.state
  unfold mainBody at left
  generalize rvbkptPoll emu.state = poll at polled left
  cases polled with
  | nothing =>
    cases left
    exact kept
  | slot => exact bkptUserLoop_kept left kept

theorem mainRun_names {rounds : List Round} {emu last : Watched}
    (ended : mainRun float rounds emu = .ok (some last)) (kept : emu.Kept) : last.Names := by
  induction rounds generalizing emu with
  | nil => cases ended
  | cons round rest ih =>
    rw [mainRun] at ended
    obtain ⟨⟨running, after⟩, stepped, ended⟩ := bind_returned ended
    obtain ⟨kept', named⟩ := watchedStep_names stepped kept
    cases running with
    | false =>
      cases ended
      exact named rfl
    | true =>
      obtain ⟨left, body, ended⟩ := bind_returned ended
      exact ih ended (mainBody_kept body kept')

theorem mainRun_dump_iff {rounds : List Round} {state : RvState} {last : Watched}
    (live : state.suspended = false) (ended : mainRun float rounds { state := state } = .ok (some last)) :
    ∃ addr word, last.fetched = some (addr, word) ∧
      (rvtrbkPrintDump last.state = addr ↔ ¬Unadvanced word) := by
  refine mainRun_names ended fun suspended => ?_
  rw [live] at suspended
  cases suspended

end Steps

def wordState (word : BitVec 32) (number : BitVec 32) : RvState :=
  (rvstateInit
    { loadRegions := [{ vmaBase := 0x1000, memBase := 0x5000, szReserved := 4 }], entryPoint := 0x1000 }
    (store (fun _ => 0) (hostCell 0x5000) 4 word)).setRegp 17 number

theorem mainRun_dump_exit :
    ∃ last, mainRun default [⟨default, []⟩, ⟨default, []⟩] { state := wordState 0x00000073 93 } = .ok (some last) ∧
      last.fetched = some (0x1000, 0x00000073) ∧ rvtrbkPrintDump last.state = 0x1000 := by
  have ended : ∃ last, mainRun default [⟨default, []⟩, ⟨default, []⟩] { state := wordState 0x00000073 93 } =
      .ok (some last) ∧ last.fetched = some (0x1000, 0x00000073) := ⟨_, rfl, rfl⟩
  obtain ⟨last, ended, fetched⟩ := ended
  obtain ⟨addr, word, fetched', names⟩ := mainRun_dump_iff rfl ended
  rw [fetched] at fetched'
  cases fetched'
  refine ⟨last, ended, fetched, names.mpr ?_⟩
  have decoded : rvdecInsn (wordState 0 0) 0x00000073 = .ok ({ insnTy := .ecall }, wordState 0 0) := rfl
  rw [unadvanced_iff decoded]
  decide

/-- The word 0 is turned down, and FCLASS.S suspends: both dumps name the address before. -/
theorem mainRun_dump_misses :
    (∃ last, mainRun default [⟨default, []⟩] { state := wordState 0 0 } = .ok (some last) ∧
      last.fetched = some (0x1000, 0) ∧ rvtrbkPrintDump last.state = 0xffc) ∧
    ∃ last, mainRun default [⟨default, []⟩, ⟨default, []⟩] { state := wordState 0xe0009053 0 } =
        .ok (some last) ∧
      last.fetched = some (0x1000, 0xe0009053) ∧ rvtrbkPrintDump last.state = 0xffc :=
  ⟨⟨_, rfl, rfl, rfl⟩, _, rfl, rfl, rfl⟩

end Urv86t
