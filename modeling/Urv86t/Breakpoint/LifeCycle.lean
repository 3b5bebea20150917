import Mathlib.Data.Fintype.Basic
import Urv86t.Breakpoint.Slots

set_option autoImplicit false

namespace Urv86t

inductive TableCall where
  | add (ev : RvbkptEv) (untriggered : ev.triggered = false)
  | check (pc : BitVec 32) (insn : Insn)
  | poll

def TableCall.run (state : RvState) : TableCall → Option (Fin maxBkpt) × RvState
  | .add ev _ => (none, rvbkptAdd state ev)
  | .check pc insn => (none, rvbkptCheckInsn { state with pc := pc } insn)
  | .poll => rvbkptPoll state

def runCalls (calls : List TableCall) (state : RvState) : RvState :=
  calls.foldl (fun state call => (call.run state).2) state

def TableCall.checks : TableCall → Option (BitVec 32 × Insn)
  | .check pc insn => some (pc, insn)
  | _ => none

def lastCheck (calls : List TableCall) : Option (BitVec 32 × Insn) :=
  (calls.filterMap TableCall.checks).getLast?

def Takes (state : RvState) (evIdx : Fin maxBkpt) : Prop :=
  (state.bkptEvArr evIdx).active = false ∧ ∀ lower < evIdx, (state.bkptEvArr lower).active = true

instance (state : RvState) (evIdx : Fin maxBkpt) : Decidable (Takes state evIdx) :=
  inferInstanceAs (Decidable (_ ∧ ∀ lower < evIdx, _))

def TableCall.Stores (state : RvState) (evIdx : Fin maxBkpt) : TableCall → Prop
  | .add _ _ => Takes state evIdx
  | _ => False

instance (state : RvState) (evIdx : Fin maxBkpt) : (call : TableCall) → Decidable (call.Stores state evIdx)
  | .add _ _ => inferInstanceAs (Decidable (Takes state evIdx))
  | .check _ _ => inferInstanceAs (Decidable False)
  | .poll => inferInstanceAs (Decidable False)

/-- How often polls return the slot before the next event is stored in it. -/
def returns (evIdx : Fin maxBkpt) : List TableCall → RvState → Nat
  | [], _ => 0
  | call :: rest, state =>
    if call.Stores state evIdx then 0
    else (if (call.run state).1 = some evIdx then 1 else 0) + returns evIdx rest (call.run state).2

structure RvbkptEv.SameTerms (ev ev' : RvbkptEv) : Prop where
  pcCond : ev'.pcCond = ev.pcCond
  insnCond : ev'.insnCond = ev.insnCond
  oneShot : ev'.oneShot = ev.oneShot

structure LifeCycle (calls : List TableCall) (state : RvState) : Prop where
  terms : ∀ (call : TableCall) evIdx, (state.bkptEvArr evIdx).active = true →
    (state.bkptEvArr evIdx).SameTerms ((call.run state).2.bkptEvArr evIdx)
  stored : ∀ ev, (∃ evIdx, (state.bkptEvArr evIdx).active = false) →
    ∃ evIdx, (state.bkptEvArr evIdx).active = false ∧
      (rvbkptAdd state ev).bkptEvArr = Function.update state.bkptEvArr evIdx ev
  full : ∀ ev, (∀ evIdx, (state.bkptEvArr evIdx).active = true) → rvbkptAdd state ev = state
  once : ∀ ev evIdx, Takes state evIdx → ev.oneShot = true →
    ∀ later, returns evIdx later (rvbkptAdd state ev) ≤ 1
  kept : ∀ (call : TableCall) evIdx, (state.bkptEvArr evIdx).active = true →
    (state.bkptEvArr evIdx).oneShot = false → ((call.run state).2.bkptEvArr evIdx).active = true
  held : ∀ evIdx, (rvbkptPoll state).1 = some evIdx →
    ∃ pc insn, lastCheck calls = some (pc, insn) ∧ (state.bkptEvArr evIdx).hits pc insn = true

section Calls

variable {state : RvState} {evIdx : Fin maxBkpt}

theorem rvbkptAdd_occupied (ev : RvbkptEv) (occupied : ¬Takes state evIdx) :
    (rvbkptAdd state ev).bkptEvArr evIdx = state.bkptEvArr evIdx := by
  have added := rvbkptAdd_added state ev
  generalize rvbkptAdd state ev = after at added ⊢
  cases added with
  | full full => rfl
  | slot found free first =>
    have other : evIdx ≠ found := by
      rintro rfl
      exact occupied ⟨free, first⟩
    simp [RvState.withTable, other]

theorem rvbkptAdd_takes (ev : RvbkptEv) (takes : Takes state evIdx) :
    (rvbkptAdd state ev).bkptEvArr = Function.update state.bkptEvArr evIdx ev := by
  have added := rvbkptAdd_added state ev
  generalize rvbkptAdd state ev = after at added ⊢
  cases added with
  | full full =>
    have impossible := takes.1
    rw [full evIdx] at impossible
    cases impossible
  | slot found free first =>
    have same : found = evIdx := by
      rcases lt_trichotomy found evIdx with below | same | above
      · have impossible := takes.2 found below
        rw [free] at impossible
        cases impossible
      · exact same
      · have impossible := first evIdx above
        rw [takes.1] at impossible
        cases impossible
    rw [same]
    rfl

inductive SlotStep (state : RvState) (evIdx : Fin maxBkpt) :
    TableCall → Option (Fin maxBkpt) → RvbkptEv → Prop where
  | stored (ev : RvbkptEv) (untriggered : ev.triggered = false) (takes : Takes state evIdx) :
    SlotStep state evIdx (.add ev untriggered) none ev
  | untouched (call : TableCall) (unchecked : call.checks = none) {result : Option (Fin maxBkpt)}
    (other : result ≠ some evIdx) : SlotStep state evIdx call result (state.bkptEvArr evIdx)
  | checked (pc : BitVec 32) (insn : Insn) :
    SlotStep state evIdx (.check pc insn) none ((state.bkptEvArr evIdx).checked pc insn)
  | returned (pending : (state.bkptEvArr evIdx).pending = true) :
    SlotStep state evIdx .poll (some evIdx) (state.bkptEvArr evIdx).handled

theorem TableCall.slotStep (state : RvState) (evIdx : Fin maxBkpt) (call : TableCall) :
    SlotStep state evIdx call (call.run state).1 ((call.run state).2.bkptEvArr evIdx) := by
  cases call with
  | add ev untriggered =>
    by_cases takes : Takes state evIdx
    · have stored : (rvbkptAdd state ev).bkptEvArr evIdx = ev := by simp [rvbkptAdd_takes ev takes]
      rw [TableCall.run, stored]
      exact .stored ev untriggered takes
    · rw [TableCall.run, rvbkptAdd_occupied ev takes]
      exact .untouched _ rfl nofun
  | check pc insn =>
    rw [TableCall.run, rvbkptCheckInsn_slot]
    exact .checked pc insn
  | poll =>
    have polled := rvbkptPoll_polled state
    rw [TableCall.run]
    generalize rvbkptPoll state = out at polled ⊢
    cases polled with
    | nothing quiet => exact .untouched _ rfl nofun
    | slot found pending first =>
      by_cases same : evIdx = found
      · subst same
        simpa [RvState.withTable] using SlotStep.returned pending
      · have kept : (state.withTable (Function.update state.bkptEvArr found
            (state.bkptEvArr found).handled)).bkptEvArr evIdx = state.bkptEvArr evIdx := by
          simp [RvState.withTable, same]
        rw [kept]
        exact .untouched _ rfl fun equal => same (Option.some.inj equal).symm

variable {call : TableCall}

theorem TableCall.terms (active : (state.bkptEvArr evIdx).active = true) :
    (state.bkptEvArr evIdx).SameTerms ((call.run state).2.bkptEvArr evIdx) := by
  have step := call.slotStep state evIdx
  generalize (call.run state).2.bkptEvArr evIdx = ev' at step ⊢
  generalize (call.run state).1 = result at step
  cases step with
  | stored ev untriggered takes => exact absurd active (by rw [takes.1]; decide)
  | untouched | checked | returned => exact ⟨rfl, rfl, rfl⟩

theorem TableCall.kept (active : (state.bkptEvArr evIdx).active = true)
    (persistent : (state.bkptEvArr evIdx).oneShot = false) :
    ((call.run state).2.bkptEvArr evIdx).active = true := by
  have step := call.slotStep state evIdx
  generalize (call.run state).2.bkptEvArr evIdx = ev' at step ⊢
  generalize (call.run state).1 = result at step
  cases step with
  | stored ev untriggered takes => exact absurd active (by rw [takes.1]; decide)
  | untouched | checked => exact active
  | returned pending => rw [RvbkptEv.handled_eq, persistent, if_neg Bool.false_ne_true, active]

end Calls

section Registration

variable {evIdx : Fin maxBkpt}

theorem returns_inactive (later : List TableCall) {state : RvState}
    (inactive : (state.bkptEvArr evIdx).active = false) : returns evIdx later state = 0 := by
  induction later generalizing state with
  | nil => rfl
  | cons call rest ih =>
    rw [returns]
    by_cases stores : call.Stores state evIdx
    · rw [if_pos stores]
    rw [if_neg stores]
    have step := call.slotStep state evIdx
    have after := @ih (call.run state).2
    rw [Nat.add_eq_zero_iff]
    generalize (call.run state).1 = result at step ⊢
    generalize (call.run state).2.bkptEvArr evIdx = ev' at step after
    cases step with
    | stored ev untriggered takes => exact absurd takes stores
    | untouched _ unchecked other => exact ⟨if_neg other, after inactive⟩
    | checked pc insn => exact ⟨rfl, after inactive⟩
    | returned pending =>
      rw [RvbkptEv.pending, inactive] at pending
      cases pending

theorem returns_oneShot (later : List TableCall) {state : RvState}
    (oneShot : (state.bkptEvArr evIdx).oneShot = true) : returns evIdx later state ≤ 1 := by
  induction later generalizing state with
  | nil => exact Nat.zero_le 1
  | cons call rest ih =>
    rw [returns]
    by_cases stores : call.Stores state evIdx
    · rw [if_pos stores]
      exact Nat.zero_le 1
    rw [if_neg stores]
    have step := call.slotStep state evIdx
    have after := @ih (call.run state).2
    have spent := @returns_inactive evIdx rest (call.run state).2
    generalize (call.run state).1 = result at step ⊢
    generalize (call.run state).2.bkptEvArr evIdx = ev' at step after spent
    cases step with
    | stored ev untriggered takes => exact absurd takes stores
    | untouched _ unchecked other =>
      rw [if_neg other, Nat.zero_add]
      exact after oneShot
    | checked pc insn =>
      rw [if_neg nofun, Nat.zero_add]
      exact after oneShot
    | returned pending =>
      rw [if_pos rfl, spent (by simp [RvbkptEv.handled, oneShot])]

end Registration

theorem runCalls_concat (calls : List TableCall) (call : TableCall) (start : RvState) :
    runCalls (calls ++ [call]) start = (call.run (runCalls calls start)).2 := by
  rw [runCalls, List.foldl_append]
  rfl

theorem lastCheck_concat (calls : List TableCall) (call : TableCall) :
    lastCheck (calls ++ [call]) = call.checks.or (lastCheck calls) := by
  cases checks : call.checks <;> simp [lastCheck, checks]

theorem pending_held (calls : List TableCall) (start : RvState) (evIdx : Fin maxBkpt)
    (pending : ((runCalls calls (start.withTable fun _ => {})).bkptEvArr evIdx).pending = true) :
    ∃ pc insn, lastCheck calls = some (pc, insn) ∧
      ((runCalls calls (start.withTable fun _ => {})).bkptEvArr evIdx).hits pc insn = true := by
  induction calls using List.reverseRecOn with
  | nil => cases pending
  | append_singleton calls call ih =>
    rw [runCalls_concat] at pending ⊢
    rw [lastCheck_concat]
    generalize runCalls calls (start.withTable fun _ => {}) = state at pending ih ⊢
    have step := call.slotStep state evIdx
    generalize (call.run state).1 = result at step
    generalize (call.run state).2.bkptEvArr evIdx = ev' at step pending ⊢
    cases step with
    | stored ev untriggered takes =>
      rw [RvbkptEv.pending, untriggered, Bool.and_false] at pending
      cases pending
    | untouched _ unchecked other =>
      rw [unchecked]
      exact ih pending
    | checked pc insn =>
      refine ⟨pc, insn, rfl, ?_⟩
      rw [RvbkptEv.pending, Bool.and_eq_true] at pending
      obtain ⟨active, triggered⟩ := pending
      have was_active : (state.bkptEvArr evIdx).active = true := active
      rw [RvbkptEv.checked, if_pos was_active, Bool.and_eq_true] at triggered
      exact triggered.2
    | returned waiting => exact ih waiting

theorem runCalls_lifeCycle (calls : List TableCall) (start : RvState) :
    LifeCycle calls (runCalls calls (start.withTable fun _ => {})) where
  terms _ _ := TableCall.terms
  stored ev free := by
    generalize runCalls calls (start.withTable fun _ => {}) = state at free ⊢
    have added := rvbkptAdd_added state ev
    generalize rvbkptAdd state ev = after at added ⊢
    cases added with
    | full full =>
      obtain ⟨evIdx, inactive⟩ := free
      exact absurd (full evIdx) (by rw [inactive]; decide)
    | slot evIdx inactive first => exact ⟨evIdx, inactive, rfl⟩
  full ev full := by
    generalize runCalls calls (start.withTable fun _ => {}) = state at full ⊢
    have added := rvbkptAdd_added state ev
    generalize rvbkptAdd state ev = after at added ⊢
    cases added with
    | full _ => rfl
    | slot evIdx inactive first => exact absurd (full evIdx) (by rw [inactive]; decide)
  once ev evIdx takes oneShot later := by
    apply returns_oneShot later
    rw [rvbkptAdd_takes ev takes, Function.update_self]
    exact oneShot
  kept _ _ := TableCall.kept
  held evIdx returned := by
    apply pending_held calls start evIdx
    generalize runCalls calls (start.withTable fun _ => {}) = state at returned ⊢
    have polled := rvbkptPoll_polled state
    generalize rvbkptPoll state = out at polled returned
    cases polled with
    | nothing quiet => cases returned
    | slot found pending first =>
      cases returned
      exact pending

end Urv86t
