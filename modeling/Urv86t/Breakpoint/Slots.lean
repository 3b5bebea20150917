import Mathlib.Data.Fin.Tuple.Basic
import Urv86t.Emulator.Bkpt

set_option autoImplicit false

namespace Urv86t

abbrev BkptTable := Fin maxBkpt → RvbkptEv

def RvState.withTable (table : BkptTable) (state : RvState) : RvState := { state with bkptEvArr := table }

/-- The condition `rvbkpt_check_insn` evaluates; one on the pc takes precedence over one on the instruction. -/
def RvbkptEv.hits (ev : RvbkptEv) (pc : BitVec 32) (insn : Insn) : Bool :=
  match ev.pcCond.comp, ev.pcCond.sign with
  | .none, _ => ev.insnCond.insnComp.insnTy ≠ .invalid ∧ rvbkptInsnMatch ev.insnCond insn
  | .gt, false => ev.pcCond.val.toNat < pc.toNat
  | .gt, true => ev.pcCond.val.toInt < pc.toInt
  | .lt, false => pc.toNat < ev.pcCond.val.toNat
  | .lt, true => pc.toInt < ev.pcCond.val.toInt
  | .eq, _ => pc = ev.pcCond.val

def RvbkptEv.checked (ev : RvbkptEv) (pc : BitVec 32) (insn : Insn) : RvbkptEv :=
  { ev with triggered := if ev.active then !ev.triggered && ev.hits pc insn else ev.triggered }

theorem rvbkptCheckEv_eq (pc : BitVec 32) (insn : Insn) (ev : RvbkptEv) :
    rvbkptCheckEv pc insn ev = ev.checked pc insn := by
  obtain ⟨⟨val, comp, sign⟩, insnCond, oneShot, active, triggered⟩ := ev
  cases active with
  | false => rfl
  | true =>
    cases triggered with
    | true => rfl
    | false =>
      cases comp with
      | none =>
        by_cases named : insnCond.insnComp.insnTy = .invalid <;>
          simp [rvbkptCheckEv, RvbkptEv.checked, RvbkptEv.hits, named]
      | gt | lt =>
        cases sign <;>
          simp [rvbkptCheckEv, RvbkptEv.checked, RvbkptEv.hits, BitVec.lt_def]
      | eq =>
        cases sign <;>
          simp [rvbkptCheckEv, RvbkptEv.checked, RvbkptEv.hits, BitVec.toInt_inj]

theorem rvbkptCheckInsn_slot (state : RvState) (insn : Insn) (evIdx : Fin maxBkpt) :
    (rvbkptCheckInsn state insn).bkptEvArr evIdx = (state.bkptEvArr evIdx).checked state.pc insn :=
  rvbkptCheckEv_eq state.pc insn (state.bkptEvArr evIdx)

def RvbkptEv.pending (ev : RvbkptEv) : Bool := ev.active && ev.triggered

def RvbkptEv.handled (ev : RvbkptEv) : RvbkptEv := { ev with active := ev.active && !ev.oneShot }

theorem RvbkptEv.handled_eq (ev : RvbkptEv) :
    ev.handled = if ev.oneShot then { ev with active := false } else ev := by
  obtain ⟨pcCond, insnCond, oneShot, active, triggered⟩ := ev
  cases oneShot <;> simp [RvbkptEv.handled]

inductive Polled (state : RvState) : Option (Fin maxBkpt) × RvState → Prop where
  | nothing (quiet : ∀ evIdx, (state.bkptEvArr evIdx).pending = false) : Polled state (none, state)
  | slot (evIdx : Fin maxBkpt) (pending : (state.bkptEvArr evIdx).pending = true)
      (first : ∀ lower < evIdx, (state.bkptEvArr lower).pending = false) :
      Polled state
        (some evIdx,
          state.withTable (Function.update state.bkptEvArr evIdx (state.bkptEvArr evIdx).handled))

theorem rvbkptPoll_polled (state : RvState) : Polled state (rvbkptPoll state) := by
  unfold rvbkptPoll
  generalize found : (Fin.find? fun evIdx =>
    (state.bkptEvArr evIdx).active && (state.bkptEvArr evIdx).triggered) = slot
  cases slot with
  | none => exact .nothing (Fin.find?_eq_none_iff.mp found)
  | some evIdx =>
    obtain ⟨pending, first⟩ := Fin.find?_eq_some_iff.mp found
    have returned := Polled.slot evIdx pending first
    rw [RvbkptEv.handled_eq] at returned
    cases oneShot : (state.bkptEvArr evIdx).oneShot with
    | true => simpa [RvState.withTable, oneShot] using returned
    | false => simpa [RvState.withTable, oneShot] using returned

theorem rvbkptPoll_frame (state : RvState) : ∃ table, (rvbkptPoll state).2 = state.withTable table := by
  have polled := rvbkptPoll_polled state
  generalize rvbkptPoll state = out at polled ⊢
  cases polled with
  | nothing quiet => exact ⟨state.bkptEvArr, rfl⟩
  | slot evIdx pending first => exact ⟨_, rfl⟩

inductive Added (state : RvState) (ev : RvbkptEv) : RvState → Prop where
  | full (full : ∀ evIdx, (state.bkptEvArr evIdx).active = true) : Added state ev state
  | slot (evIdx : Fin maxBkpt) (free : (state.bkptEvArr evIdx).active = false)
      (first : ∀ lower < evIdx, (state.bkptEvArr lower).active = true) :
      Added state ev (state.withTable (Function.update state.bkptEvArr evIdx ev))

theorem rvbkptAdd_added (state : RvState) (ev : RvbkptEv) : Added state ev (rvbkptAdd state ev) := by
  unfold rvbkptAdd
  generalize found : (Fin.find? fun evIdx => !(state.bkptEvArr evIdx).active) = slot
  cases slot with
  | none =>
    have occupied := Fin.find?_eq_none_iff.mp found
    exact .full fun evIdx => by simpa using occupied evIdx
  | some evIdx =>
    obtain ⟨free, first⟩ := Fin.find?_eq_some_iff.mp found
    exact .slot evIdx (by simpa using free) fun lower below => by simpa using first lower below

theorem rvbkptAdd_frame (state : RvState) (ev : RvbkptEv) : ∃ table, rvbkptAdd state ev = state.withTable table := by
  have added := rvbkptAdd_added state ev
  generalize rvbkptAdd state ev = after at added ⊢
  cases added with
  | full full => exact ⟨state.bkptEvArr, rfl⟩
  | slot evIdx free first => exact ⟨_, rfl⟩

end Urv86t
