import Urv86t.Decoder.Verdict
import Urv86t.Emulator.Main
import Urv86t.Isa.Process
import Urv86t.Runs.SystemCalls

set_option autoImplicit false

namespace Urv86t

open ByteMemory Rv32 Simulation

def hostBytes (host : Memory Nat) (ptr len : Nat) : List Byte := (List.range len).map fun k => host (hostCell ptr k)

/-- The arguments `rvemu_dispatch_syscall` has for the host, if `rvmem_at` finds the buffer. -/
def syscallRequest (state : RvState) : Option Request :=
  match (state.regs 17).toNat with
  | 64 => (state.mem.backing (state.regs 11)).map fun buff =>
      .write (state.regs 10) (hostBytes state.host buff (state.regs 12).toNat)
  | 80 => (state.mem.backing (state.regs 11)).map fun _ => .stat (state.regs 10)
  | 93 => some (.exit (state.regs 10))
  | _ => none

def rvemuRequest (state : RvState) : Option Request :=
  if state.suspended = false ∧ (rvemuDecoded state).insnTy = .ecall then syscallRequest state else none

structure AnswerAlike (calls calls' : HostCalls) (state : RvState) (request : Option Request) : Prop where
  write : ∀ fd bytes, request = some (.write fd bytes) →
    (hostWrite calls state).toIword = (hostWrite calls' state).toIword
  stat : ∀ fd, request = some (.stat fd) →
    (hostFstat calls state).1.toIword = (hostFstat calls' state).1.toIword ∧
      (hostFstat calls state).2 = (hostFstat calls' state).2

section Asking

variable {float : HostFloat} {calls calls' : HostCalls} {state after : RvState} {insn : Insn}

theorem dispatch_unasked (other : insn.insnTy ≠ .ecall) :
    rvemuDispatchInsn float calls state insn = rvemuDispatchInsn float calls' state insn := by
  cases ty : insn.insnTy <;> simp only [rvemuDispatchInsn, ty]
  case ecall => exact absurd ty other

theorem dispatchSyscall_alike (alike : AnswerAlike calls calls' state (syscallRequest state)) :
    rvemuDispatchSyscall calls state = rvemuDispatchSyscall calls' state := by
  by_cases write : (state.regs 17).toNat = 64
  · cases found : state.mem.backing (state.regs 11) with
    | none =>
      simp only [rvemuDispatchSyscall, write, rvmemAt_missed found]
      rfl
    | some buff =>
      have heard := alike.write _ _ (by simp only [syscallRequest, write, found]; rfl)
      rw [hostWrite, hostWrite, ElfContext.pointer_of_backing found] at heard
      simp only [rvemuDispatchSyscall, write, rvmemAt_found found, rvsyscWrite, bind, Except.bind, heard]
  by_cases stat : (state.regs 17).toNat = 80
  · cases found : state.mem.backing (state.regs 11) with
    | none =>
      simp only [rvemuDispatchSyscall, stat, rvmemAt_missed found]
      rfl
    | some buff =>
      have heard := alike.stat _ (by simp only [syscallRequest, stat, found]; rfl)
      rw [hostFstat, hostFstat, ElfContext.pointer_of_backing found] at heard
      have answered : rvsyscFstat calls state (state.regs 10) buff = rvsyscFstat calls' state (state.regs 10) buff := by
        rw [rvsyscFstat, rvsyscFstat]
        exact Prod.ext heard.1 (congrArg (fun host => { state with host := host }) heard.2)
      simp only [rvemuDispatchSyscall, stat, rvmemAt_found found, bind, Except.bind, answered]
  · unfold rvemuDispatchSyscall
    split
    all_goals first | rfl | contradiction

theorem alike_dispatched {bytes : BitVec 32} (decoded : rvdecInsn (state.setRegp 0 0) bytes = .ok (insn, after))
    (alike : AnswerAlike calls calls' state (syscallRequest state)) :
    AnswerAlike calls calls' (rvbkptCheckInsn after insn) (syscallRequest (rvbkptCheckInsn after insn)) := by
  have regs : ∀ r : BitVec 5, r ≠ 0 → (rvbkptCheckInsn after insn).regs r = state.regs r := by
    rcases rvdecInsn_after decoded with rfl | rfl <;> exact fun r nonzero => setRegp_zero_other state nonzero
  have mem : (rvbkptCheckInsn after insn).mem = state.mem ∧ (rvbkptCheckInsn after insn).host = state.host := by
    rcases rvdecInsn_after decoded with rfl | rfl <;> exact ⟨rfl, rfl⟩
  have request : syscallRequest (rvbkptCheckInsn after insn) = syscallRequest state := by
    unfold syscallRequest
    rw [regs 17 (by decide), regs 10 (by decide), regs 11 (by decide), regs 12 (by decide), mem.1, mem.2]
  rw [request]
  constructor
  · intro fd bytes asked
    unfold hostWrite
    rw [regs 10 (by decide), regs 11 (by decide), regs 12 (by decide), mem.1, mem.2]
    exact alike.write fd bytes asked
  · intro fd asked
    unfold hostFstat
    rw [regs 10 (by decide), regs 11 (by decide), mem.1, mem.2]
    exact alike.stat fd asked

theorem rvemuStep_asks (alike : AnswerAlike calls calls' state (rvemuRequest state)) :
    rvemuStep float calls state = rvemuStep float calls' state := by
  unfold rvemuStep rvemuStepOut
  by_cases stopped : state.suspended = true
  · rw [if_pos stopped, if_pos stopped]
  rw [if_neg stopped, if_neg stopped]
  have live := eq_false_of_ne_true stopped
  cases read : rvstateFetch (state.setRegp 0 0) with
  | error abort => simp only [read]
  | ok fetched =>
    obtain ⟨bytes, access⟩ := fetched
    cases decoded : rvdecInsn (state.setRegp 0 0) bytes with
    | error abort => simp only [read, decoded]
    | ok out =>
      obtain ⟨insn, after⟩ := out
      have same : rvemuDispatch float calls after insn = rvemuDispatch float calls' after insn := by
        unfold rvemuDispatch
        by_cases ty : insn.insnTy = .ecall
        · rw [rvemuRequest, rvemuDecoded_eq read decoded, if_pos ⟨live, ty⟩] at alike
          simp only [rvemuDispatchInsn, ty, dispatchSyscall_alike (alike_dispatched decoded alike)]
        · rw [dispatch_unasked ty]
      simp only [read, decoded, same]

def AnswersAlike (float : HostFloat) : List HostCalls → List HostCalls → RvState → Prop
  | [], [], _ => True
  | calls :: rest, calls' :: rest', state => AnswerAlike calls calls' state (rvemuRequest state) ∧
      ∀ running next, rvemuStep float calls state = .ok (running, next) → AnswersAlike float rest rest' next
  | _, _, _ => False

theorem rvemuSteps_answers {hosts hosts' : List HostCalls} (alike : AnswersAlike float hosts hosts' state) :
    rvemuSteps float hosts state = rvemuSteps float hosts' state := by
  induction hosts generalizing hosts' state with
  | nil =>
    cases hosts' with
    | nil => rfl
    | cons calls' rest' => exact alike.elim
  | cons calls rest ih =>
    cases hosts' with
    | nil => exact alike.elim
    | cons calls' rest' =>
      obtain ⟨first, later⟩ := alike
      simp only [rvemuSteps]
      rw [rvemuStep_asks first] at later ⊢
      cases stepped : rvemuStep float calls' state with
      | error abort => rfl
      | ok out =>
        obtain ⟨running, next⟩ := out
        simp only [bind, Except.bind, ih (later running next stepped)]

end Asking

-- WRITE fails, or returns what the C library makes of a failure; `fstat` is not called.
theorem rvemuSteps_answers_failing :
    rvemuSteps default [hostReturning (.failure 9)] (ecallState 64) =
      rvemuSteps default [⟨fun _ _ _ _ => .value (-1), fun _ _ _ => (.value 0, fun _ => 7)⟩] (ecallState 64) := by
  have asked : rvemuRequest (ecallState 64) = some (.write 0 []) := by decide
  refine rvemuSteps_answers ⟨⟨fun _ _ _ => rfl, fun fd stat => ?_⟩, fun _ _ _ => trivial⟩
  rw [asked] at stat
  cases stat

def emulator (float : HostFloat) : Machine RvState HostCalls (Option Request) where
  step state calls asked next := rvemuStep float calls state = .ok (true, next) ∧ asked = rvemuRequest state

theorem emulator_run {float : HostFloat} {state after : RvState} {calls : List HostCalls}
    {asked : List (Option Request)} (run : (emulator float).Run state calls asked after) :
    rvemuSteps float calls state = .ok (List.replicate calls.length true, after) := by
  induction run with
  | done => rfl
  | step first rest ih =>
    simp only [rvemuSteps, first.1, List.length_cons, List.replicate_succ, bind, Except.bind, ih]
    rfl

def served (float : HostFloat) (ok : HostCalls → Prop) : Machine RvState { calls // ok calls } (Option Request) where
  step state calls := (emulator float).step state calls.1

end Urv86t
