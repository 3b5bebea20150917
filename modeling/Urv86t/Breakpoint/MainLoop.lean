import Mathlib.Data.List.Chain
import Urv86t.Breakpoint.Conditions
import Urv86t.Breakpoint.Guest
import Urv86t.Emulator.Main

set_option autoImplicit false

namespace Urv86t

section Rounds

variable {float : HostFloat} {calls : HostCalls} {state after : RvState}

theorem rvemuStep_checked (stepped : rvemuStep float calls state = .ok (true, after)) (evIdx : Fin maxBkpt) :
    after.bkptEvArr evIdx = (state.bkptEvArr evIdx).checked state.pc (rvemuDecoded state) := by
  rcases rvemuStep_returned stepped with ⟨-, impossible, -⟩ | ⟨-, bytes, fetched, insn, ready, read, decoded, ended⟩
  · cases impossible
  rcases ended with ⟨-, impossible, -⟩ | ⟨-, -, arm, dispatched, rfl⟩
  · cases impossible
  have insn_eq : rvemuDecoded state = insn := rvemuDecoded_eq read decoded
  obtain ⟨inner, ran, rfl⟩ := rvemuDispatch_returned dispatched
  have table : inner.state.bkptEvArr = (rvbkptCheckInsn ready insn).bkptEvArr := rvemuDispatchInsn_table ran
  obtain ⟨diagnosed, rfl, -⟩ := rvdecInsn_again decoded
  rw [insn_eq]
  refine (congrFun table evIdx).trans ((rvbkptCheckInsn_slot _ insn evIdx).trans ?_)
  cases diagnosed <;> rfl

structure Iteration.Round (it : Iteration) : Prop where
  checked : ∀ evIdx, it.after.bkptEvArr evIdx = (it.before.bkptEvArr evIdx).checked it.before.pc it.insn
  polled : it.polled = (rvbkptPoll it.after).1

def Iteration.Follows (it it' : Iteration) : Prop := it'.before = (rvbkptPoll it.after).2

theorem mainLoop_head (float : HostFloat) (run : List HostCalls) (state : RvState) :
    ∀ it ∈ (mainLoop float run state).head?, it.before = state := by
  intro it head
  cases run with
  | nil => cases head
  | cons calls rest =>
    rw [mainLoop] at head
    split at head
    · cases head
      rfl
    · cases head

theorem mainLoop_rounds (float : HostFloat) (run : List HostCalls) (state : RvState) :
    (∀ it ∈ mainLoop float run state, it.Round) ∧ (mainLoop float run state).IsChain Iteration.Follows := by
  induction run generalizing state with
  | nil => exact ⟨List.forall_mem_nil _, .nil⟩
  | cons calls rest ih =>
    rw [mainLoop]
    split
    next after stepped =>
      obtain ⟨rounds, follows⟩ := ih (rvbkptPoll after).2
      constructor
      · rw [List.forall_mem_cons]
        exact ⟨⟨rvemuStep_checked stepped, rfl⟩, rounds⟩
      · rw [List.isChain_cons]
        exact ⟨mainLoop_head float rest (rvbkptPoll after).2, follows⟩
    next => exact ⟨List.forall_mem_nil _, .nil⟩

theorem rvbkptPoll_active (state : RvState) (evIdx : Fin maxBkpt)
    (active : ((rvbkptPoll state).2.bkptEvArr evIdx).active = true) :
    (rvbkptPoll state).2.bkptEvArr evIdx = state.bkptEvArr evIdx := by
  have polled := rvbkptPoll_polled state
  generalize rvbkptPoll state = out at polled active ⊢
  cases polled with
  | nothing quiet => rfl
  | slot found pending first =>
    by_cases same : evIdx = found
    · subst same
      have kept : (state.bkptEvArr evIdx).oneShot = false := by
        simp [RvState.withTable, RvbkptEv.handled] at active
        exact active.2
      simp [RvState.withTable, RvbkptEv.handled_eq, kept]
    · simp [RvState.withTable, same]

end Rounds

namespace Iteration

def Fires (it : Iteration) (evIdx : Fin maxBkpt) : Prop :=
  (it.before.bkptEvArr evIdx).Fires it.before.pc it.insn

def Overrides (it : Iteration) (evIdx : Fin maxBkpt) : Prop :=
  (it.before.bkptEvArr evIdx).Overrides it.before.pc it.insn

def Accurate (it : Iteration) : Prop :=
  ∀ evIdx, (it.before.bkptEvArr evIdx).active = true → ((it.after.bkptEvArr evIdx).triggered = true ↔ it.Fires evIdx)

/-- A flag that is set stands in the way of a hit, one that is clear lets an override through. -/
def Settles (it : Iteration) (evIdx : Fin maxBkpt) (flag : Prop) : Prop :=
  (flag → ¬it.Fires evIdx) ∧ (¬flag → ¬it.Overrides evIdx)

def Begins (it : Iteration) : Prop :=
  ∀ evIdx, (it.before.bkptEvArr evIdx).active = true → it.Settles evIdx ((it.before.bkptEvArr evIdx).triggered = true)

def Alternates (it it' : Iteration) : Prop :=
  ∀ evIdx, (it'.before.bkptEvArr evIdx).active = true → it'.Settles evIdx (it.Fires evIdx)

end Iteration

section Hits

variable {it it' : Iteration} {its : List Iteration}

theorem Iteration.Round.accurate_iff (round : it.Round) : it.Accurate ↔ it.Begins := by
  unfold Iteration.Accurate Iteration.Begins Iteration.Settles
  refine forall_congr' fun evIdx => forall_congr' fun active => ?_
  rw [round.checked, RvbkptEv.checked, if_pos active]
  cases (it.before.bkptEvArr evIdx).triggered with
  | true => simp
  | false =>
    have exactly : ((it.before.bkptEvArr evIdx).hits it.before.pc it.insn = true ↔ it.Fires evIdx) ↔
        ¬it.Overrides evIdx := RvbkptEv.hits_iff_fires _ _ _
    simpa using exactly

theorem Iteration.Accurate.begins_iff (accurate : it.Accurate) (round : it.Round) (follows : it.Follows it') :
    it'.Begins ↔ it.Alternates it' := by
  unfold Iteration.Begins Iteration.Alternates
  refine forall_congr' fun evIdx => forall_congr' fun active => ?_
  have kept : it'.before.bkptEvArr evIdx = it.after.bkptEvArr evIdx := by
    rw [follows] at active ⊢
    exact rvbkptPoll_active it.after evIdx active
  have earlier : (it.before.bkptEvArr evIdx).active = true := by
    rw [kept, round.checked] at active
    exact active
  rw [kept, propext (accurate evIdx earlier)]

theorem accurate_rounds (rounds : ∀ it ∈ its, it.Round) (follows : its.IsChain Iteration.Follows) :
    (∀ it ∈ its, it.Accurate) ↔ (∀ it ∈ its.head?, it.Begins) ∧ its.IsChain Iteration.Alternates := by
  induction its with
  | nil => simp
  | cons it rest ih =>
    rw [List.forall_mem_cons] at rounds ⊢
    rw [List.isChain_cons] at follows ⊢
    have later := ih rounds.2 follows.2
    have here := rounds.1.accurate_iff
    have only : (∀ first ∈ (it :: rest).head?, first.Begins) ↔ it.Begins := by simp
    rw [later, only, ← here]
    refine and_congr_right fun accurate => and_congr_left fun _ => ?_
    refine forall_congr' fun next => forall_congr' fun head => ?_
    exact accurate.begins_iff rounds.1 (follows.1 next head)

end Hits

theorem mainLoop_accurate_iff (float : HostFloat) (run : List HostCalls) (state : RvState) :
    (∀ it ∈ mainLoop float run state, it.Accurate) ↔
      (∀ it ∈ (mainLoop float run state).head?, it.Begins) ∧
        (mainLoop float run state).IsChain Iteration.Alternates := by
  obtain ⟨rounds, follows⟩ := mainLoop_rounds float run state
  exact accurate_rounds rounds follows

-- One breakpoint on the only instruction of a loop, which is executed twice.
theorem mainLoop_misses_hit :
    ∃ first second, mainLoop default [default, default] (spinState (Function.update (fun _ => {}) 0 spinBkpt)) =
        [first, second] ∧
      ¬second.Accurate := by
  refine ⟨_, _, rfl, fun accurate => ?_⟩
  have specified : ¬spinBkpt.insnCond.Specified := fun named => named rfl
  have triggered := (accurate 0 rfl).mpr ⟨.inr nofun, fun named => absurd named specified, fun _ => rfl⟩
  cases triggered

def Iteration.Sets (it : Iteration) (evIdx : Fin maxBkpt) : Prop :=
  (it.before.bkptEvArr evIdx).triggered = false ∧ (it.after.bkptEvArr evIdx).triggered = true

def Iteration.ReportsLowest (it : Iteration) : Prop :=
  ∀ evIdx, it.Sets evIdx → (it.polled = some evIdx ↔ ∀ lower < evIdx, ¬it.Sets lower)

def Iteration.Discards (it it' : Iteration) : Prop :=
  ∀ evIdx, it.Sets evIdx → it.polled ≠ some evIdx →
    (it'.before.bkptEvArr evIdx).triggered = true ∧ (it'.after.bkptEvArr evIdx).triggered = false

section Reports

variable {it it' : Iteration}

theorem Iteration.Round.pending_iff (round : it.Round) (evIdx : Fin maxBkpt) :
    (it.after.bkptEvArr evIdx).pending = true ↔ it.Sets evIdx := by
  rw [RvbkptEv.pending, Iteration.Sets, round.checked, RvbkptEv.checked]
  cases (it.before.bkptEvArr evIdx).active <;> cases (it.before.bkptEvArr evIdx).triggered <;> simp

theorem Iteration.Round.reportsLowest (round : it.Round) : it.ReportsLowest := by
  intro evIdx sets
  have polled := rvbkptPoll_polled it.after
  rw [round.polled]
  generalize rvbkptPoll it.after = out at polled ⊢
  cases polled with
  | nothing quiet =>
    have pending := (round.pending_iff evIdx).mpr sets
    rw [quiet evIdx] at pending
    cases pending
  | slot found pending first =>
    have lowest : ∀ lower < found, ¬it.Sets lower := by
      intro lower below lowerSets
      have lowerPending := (round.pending_iff lower).mpr lowerSets
      rw [first lower below] at lowerPending
      cases lowerPending
    constructor
    · intro same
      cases same
      exact lowest
    · intro none_lower
      have foundSets := (round.pending_iff found).mp pending
      rcases lt_trichotomy evIdx found with below | same | above
      · exact absurd sets (lowest evIdx below)
      · rw [same]
      · exact absurd foundSets (none_lower found above)

theorem Iteration.Round.discards (round : it.Round) (round' : it'.Round) (follows : it.Follows it') :
    it.Discards it' := by
  intro evIdx sets unreported
  have kept : it'.before.bkptEvArr evIdx = it.after.bkptEvArr evIdx := by
    have polled := rvbkptPoll_polled it.after
    rw [round.polled] at unreported
    rw [follows]
    generalize rvbkptPoll it.after = out at polled unreported ⊢
    cases polled with
    | nothing quiet => rfl
    | slot found pending first =>
      have other : evIdx ≠ found := fun same => unreported (congrArg some same.symm)
      simp [RvState.withTable, other]
  have pending := (round.pending_iff evIdx).mpr sets
  rw [RvbkptEv.pending, Bool.and_eq_true] at pending
  rw [round'.checked, kept, RvbkptEv.checked, if_pos pending.1]
  exact ⟨pending.2, by rw [pending.2]; rfl⟩

end Reports

theorem mainLoop_reports (float : HostFloat) (run : List HostCalls) (state : RvState) :
    (∀ it ∈ mainLoop float run state, it.ReportsLowest) ∧
      (mainLoop float run state).IsChain Iteration.Discards := by
  obtain ⟨rounds, follows⟩ := mainLoop_rounds float run state
  refine ⟨fun it member => (rounds it member).reportsLowest, ?_⟩
  refine follows.imp_of_mem_imp fun it it' member member' followed => ?_
  exact (rounds it member).discards (rounds it' member') followed

-- Two breakpoints on one instruction.
theorem mainLoop_starves :
    ∃ first second, mainLoop default [default, default]
        (spinState (Function.update (Function.update (fun _ => {}) 0 spinBkpt) 1 spinBkpt)) = [first, second] ∧
      first.Sets 1 ∧ first.polled = some 0 ∧
        (second.after.bkptEvArr 1).triggered = false ∧ second.polled = none :=
  ⟨_, _, rfl, ⟨rfl, rfl⟩, rfl, rfl, rfl⟩

end Urv86t
