import Urv86t.Emulator.Dispatch

set_option autoImplicit false

namespace Urv86t

structure StepOut where
  touched : List HostAccess
  result : Except Abort (Bool × RvState)

def rvemuStepOut (float : HostFloat) (calls : HostCalls) (state : RvState) : StepOut :=
  if state.suspended then ⟨[], .ok (false, state)⟩
  else
    let state := state.setRegp 0 0
    match rvstateFetch state with
    | .error abort => ⟨[], .error abort⟩
    | .ok (bytes, fetched) =>
      match rvdecInsn state bytes with
      | .error abort => ⟨[fetched], .error abort⟩
      | .ok (insn, state) =>
        if insn.insnTy = .invalid then ⟨[fetched], .ok (false, state)⟩
        else
          match rvemuDispatch float calls state insn with
          | .error abort => ⟨[fetched], .error abort⟩
          | .ok arm => ⟨fetched :: arm.touched, .ok (true, arm.state)⟩

def rvemuStep (float : HostFloat) (calls : HostCalls) (state : RvState) :
    Except Abort (Bool × RvState) :=
  (rvemuStepOut float calls state).result

theorem rvemuStep_suspended (float : HostFloat) (calls : HostCalls) {state : RvState}
    (suspended : state.suspended = true) : rvemuStep float calls state = .ok (false, state) := by
  rw [rvemuStep, rvemuStepOut, if_pos suspended]

theorem rvemuStep_decoded {float : HostFloat} {calls : HostCalls} {state : RvState} {word : BitVec 32}
    {access : HostAccess} {insn : Insn} (live : state.suspended = false)
    (fetched : rvstateFetch state = .ok (word, access))
    (decoded : rvdecInsn (state.setRegp 0 0) word = .ok (insn, state.setRegp 0 0))
    (valid : insn.insnTy ≠ .invalid) :
    rvemuStep float calls state =
      (rvemuDispatchInsn float calls (rvbkptCheckInsn (state.setRegp 0 0) insn) insn).map fun arm =>
        (true, { arm.state with pc := arm.state.pc + arm.pcOffset }) := by
  have again : rvstateFetch (state.setRegp 0 0) = .ok (word, access) := fetched
  simp only [rvemuStep, rvemuStepOut, live, again, decoded, valid, rvemuDispatch]
  cases rvemuDispatchInsn float calls (rvbkptCheckInsn (state.setRegp 0 0) insn) insn <;> rfl

theorem rvemuStep_returned {float : HostFloat} {calls : HostCalls} {state next : RvState} {running : Bool}
    (stepped : rvemuStep float calls state = .ok (running, next)) :
    (state.suspended = true ∧ running = false ∧ next = state) ∨
      state.suspended = false ∧ ∃ bytes fetched insn after,
        rvstateFetch (state.setRegp 0 0) = .ok (bytes, fetched) ∧
          rvdecInsn (state.setRegp 0 0) bytes = .ok (insn, after) ∧
            ((insn.insnTy = .invalid ∧ running = false ∧ next = after) ∨
              insn.insnTy ≠ .invalid ∧ running = true ∧
                ∃ arm, rvemuDispatch float calls after insn = .ok arm ∧ next = arm.state) := by
  rw [rvemuStep, rvemuStepOut] at stepped
  by_cases suspended : state.suspended = true
  · rw [if_pos suspended] at stepped
    cases stepped
    exact .inl ⟨suspended, rfl, rfl⟩
  rw [if_neg suspended] at stepped
  refine .inr ⟨eq_false_of_ne_true suspended, ?_⟩
  cases fetched : rvstateFetch (state.setRegp 0 0) with
  | error abort =>
    simp only [fetched] at stepped
    cases stepped
  | ok word =>
    cases decoded : rvdecInsn (state.setRegp 0 0) word.1 with
    | error abort =>
      simp only [fetched, decoded] at stepped
      cases stepped
    | ok out =>
      simp only [fetched, decoded] at stepped
      refine ⟨word.1, word.2, out.1, out.2, rfl, decoded, ?_⟩
      by_cases invalid : out.1.insnTy = .invalid
      · simp only [if_pos invalid] at stepped
        cases stepped
        exact .inl ⟨invalid, rfl, rfl⟩
      · simp only [if_neg invalid] at stepped
        cases ran : rvemuDispatch float calls out.2 out.1 with
        | error abort =>
          rw [ran] at stepped
          cases stepped
        | ok arm =>
          rw [ran] at stepped
          cases stepped
          exact .inr ⟨invalid, rfl, arm, rfl, rfl⟩

def rvemuSteps (float : HostFloat) : List HostCalls → RvState → Except Abort (List Bool × RvState)
  | [], state => .ok ([], state)
  | calls :: rest, state => do
    let (running, state) ← rvemuStep float calls state
    let (results, state) ← rvemuSteps float rest state
    return (running :: results, state)

theorem rvemuSteps_append {float : HostFloat} {first later : List HostCalls} {state mid after : RvState}
    {results results' : List Bool} (ran : rvemuSteps float first state = .ok (results, mid))
    (rest : rvemuSteps float later mid = .ok (results', after)) :
    rvemuSteps float (first ++ later) state = .ok (results ++ results', after) := by
  induction first generalizing state results with
  | nil =>
    cases ran
    exact rest
  | cons calls others ih =>
    simp only [rvemuSteps, List.cons_append, bind, Except.bind] at ran ⊢
    cases stepped : rvemuStep float calls state with
    | error abort =>
      rw [stepped] at ran
      cases ran
    | ok out =>
      simp only [stepped] at ran ⊢
      cases onward : rvemuSteps float others out.2 with
      | error abort =>
        rw [onward] at ran
        cases ran
      | ok out' =>
        rw [onward] at ran
        cases ran
        rw [ih onward]
        rfl

end Urv86t
