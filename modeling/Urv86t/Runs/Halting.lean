import Urv86t.Decoder.Verdict
import Urv86t.Emulator.Step

set_option autoImplicit false

namespace Urv86t

open ByteMemory

structure Untouched (before after : RvState) : Prop where
  pc : after.pc = before.pc
  regs : ∀ r, r ≠ 0 → after.regs r = before.regs r
  zero : after.regs 0 = before.regs 0 ∨ after.regs 0 = 0
  fregs : after.fregs = before.fregs
  host : after.host = before.host
  mem : after.mem = before.mem
  bkptEvArr : after.bkptEvArr = before.bkptEvArr
  suspended : before.suspended = true → after.suspended = true

section Halting

variable {float : HostFloat} {state halted : RvState}

theorem Untouched.refl (state : RvState) : Untouched state state :=
  ⟨rfl, fun _ _ => rfl, .inl rfl, rfl, rfl, rfl, rfl, id⟩

theorem Untouched.rejected (state : RvState) (diagnosed : Bool) :
    Untouched state ((state.setRegp 0 0).suspendIf diagnosed) := by
  have others (r : BitVec 5) (other : r ≠ 0) := setRegp_zero_other state other
  have cleared := setRegp_zero_clear state
  cases diagnosed with
  | false => exact ⟨rfl, others, .inr cleared, rfl, rfl, rfl, rfl, id⟩
  | true => exact ⟨rfl, others, .inr cleared, rfl, rfl, rfl, rfl, fun _ => rfl⟩

theorem setRegp_zero_idem (state : RvState) : (state.setRegp 0 0).setRegp 0 0 = state.setRegp 0 0 := by
  simp [RvState.setRegp]

theorem rvemuStep_rejected {calls : HostCalls} {bytes : BitVec 32} {fetched : HostAccess} {insn : Insn}
    {after : RvState} (running : state.suspended = false)
    (read : rvstateFetch (state.setRegp 0 0) = .ok (bytes, fetched))
    (decoded : rvdecInsn (state.setRegp 0 0) bytes = .ok (insn, after)) (invalid : insn.insnTy = .invalid) :
    rvemuStep float calls state = .ok (false, after) := by
  rw [rvemuStep, rvemuStepOut, if_neg (by rw [running]; decide)]
  simp only [read, decoded, if_pos invalid]

def Stuck (float : HostFloat) (state : RvState) : Prop :=
  ∀ calls, rvemuStep float calls state = .ok (false, state)

theorem Stuck.steps (stuck : Stuck float state) (later : List HostCalls) :
    rvemuSteps float later state = .ok (List.replicate later.length false, state) := by
  induction later with
  | nil => rfl
  | cons calls rest ih =>
    simp only [rvemuSteps, stuck calls, bind, Except.bind, ih]
    rfl

theorem rvemuStep_stuck {calls : HostCalls} (stepped : rvemuStep float calls state = .ok (false, halted)) :
    Untouched state halted ∧ Stuck float halted := by
  rcases rvemuStep_returned stepped with
    ⟨suspended, -, rfl⟩ | ⟨running, bytes, fetched, insn, after, read, decoded, ended⟩
  · exact ⟨.refl halted, fun _ => rvemuStep_suspended float _ suspended⟩
  rcases ended with ⟨invalid, -, rfl⟩ | ⟨-, impossible, -⟩
  · obtain ⟨diagnosed, rfl, again⟩ := rvdecInsn_again decoded
    refine ⟨.rejected state diagnosed, fun later => ?_⟩
    cases diagnosed with
    | true => exact rvemuStep_suspended float later rfl
    | false =>
      -- The next call fetches the same word and has nothing left to zero.
      have unchanged : (state.setRegp 0 0).suspendIf false = state.setRegp 0 0 := rfl
      have live : (state.setRegp 0 0).suspended = false := running
      rw [unchanged]
      apply rvemuStep_rejected live
      · rw [setRegp_zero_idem]
        exact read
      · rw [setRegp_zero_idem]
        exact again _
      · exact invalid
  · cases impossible

theorem rvemuStep_halts {calls : HostCalls} (stepped : rvemuStep float calls state = .ok (false, halted)) :
    Untouched state halted ∧ ∀ later : List HostCalls,
      rvemuSteps float later halted = .ok (List.replicate later.length false, halted) := by
  obtain ⟨untouched, stuck⟩ := rvemuStep_stuck stepped
  exact ⟨untouched, stuck.steps⟩

end Halting

-- A register-register word with an unknown `funct7`, which is rejected without a diagnostic.
def rejectedState : RvState :=
  rvstateInit
    { loadRegions := [{ vmaBase := 0x1000, memBase := 0x5000, szReserved := 4 }], entryPoint := 0x1000 }
    fun ptr => [0x33, 0x00, 0x00, 0x80].getD (ptr - 0x5000) 0

theorem rvemuStep_halts_rejected :
    (rejectedState.setRegp 0 0).suspended = false ∧
      rvemuSteps default [default, default] (rejectedState.setRegp 0 0) =
        .ok ([false, false], rejectedState.setRegp 0 0) := by
  have stepped : rvemuStep default default rejectedState = .ok (false, rejectedState.setRegp 0 0) := by
    rfl
  exact ⟨rfl, (rvemuStep_halts stepped).2 [default, default]⟩

end Urv86t
