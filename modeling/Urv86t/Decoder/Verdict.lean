import Urv86t.Decoder.Totality

set_option autoImplicit false

namespace Urv86t

open InsnBase

def RvState.suspendIf (state : RvState) (diagnosed : Bool) : RvState :=
  if diagnosed then { state with suspended := true } else state

theorem suspendIf_eq_or (state : RvState) (diagnosed : Bool) :
    state.suspendIf diagnosed = state ∨ state.suspendIf diagnosed = { state with suspended := true } := by
  cases diagnosed
  · exact .inl rfl
  · exact .inr rfl

def Settled (result : RvState → Except Abort (Insn × RvState)) : Prop :=
  ∃ answer : Except Abort (Insn × Bool),
    ∀ state, result state = answer.map fun (insn, diagnosed) => (insn, state.suspendIf diagnosed)

theorem rvdecReturn_settled (pair : InsnArgspecPair) : Settled (rvdecReturn · pair) := by
  cases csr : pair.argspec.isCsr with
  | true => exact ⟨.error _, fun state => rvdecReturn_fatal state pair csr⟩
  | false =>
    refine ⟨.ok (pair.insn, pair.diagn.isSome), fun state => ?_⟩
    refine (rvdecReturn_ok state pair csr).trans ?_
    cases pair.diagn <;> rfl

theorem rvdecIty3_settled (w : BitVec 32) :
    Settled fun state => rvdecIty3 w >>= fun group => rvdecReturn state ((ityPair w).opCase group) := by
  cases rvdecIty3 w with
  | error abort => exact ⟨.error abort, fun _ => rfl⟩
  | ok group => exact rvdecReturn_settled ((ityPair w).opCase group)

theorem Settled.of_eq {result result' : RvState → Except Abort (Insn × RvState)}
    (same : ∀ state, result' state = result state) (settled : Settled result) : Settled result' := by
  obtain ⟨answer, given⟩ := settled
  exact ⟨answer, fun state => (same state).trans (given state)⟩

theorem rvdecInsn_settled (w : BitVec 32) : Settled (rvdecInsn · w) := by
  -- The route depends on the opcode, so it may be read off at any state.
  have routed := rvdecInsn_routed (rvstateInit {} fun _ => 0) w
  generalize rvdecInsn (rvstateInit {} fun _ => 0) w = result at routed
  cases routed with
  | reg code => exact .of_eq (fun _ => rvdecInsn_reg code) (rvdecReturn_settled _)
  | float code => exact .of_eq (fun _ => rvdecInsn_float code) (rvdecReturn_settled _)
  | jalr code => exact .of_eq (fun _ => rvdecInsn_jalr code) (rvdecReturn_settled _)
  | load code => exact .of_eq (fun _ => rvdecInsn_load code) (rvdecReturn_settled _)
  | arith code => exact .of_eq (fun _ => rvdecInsn_arith code) (rvdecIty3_settled w)
  | synch code => exact .of_eq (fun _ => rvdecInsn_synch code) (rvdecReturn_settled _)
  | env code => exact .of_eq (fun _ => rvdecInsn_env code) (rvdecReturn_settled _)
  | floatLoad code => exact .of_eq (fun _ => rvdecInsn_floatLoad code) (rvdecReturn_settled _)
  | store code => exact .of_eq (fun _ => rvdecInsn_store code) (rvdecReturn_settled _)
  | floatStore code => exact .of_eq (fun _ => rvdecInsn_floatStore code) (rvdecReturn_settled _)
  | lui code => exact .of_eq (fun _ => rvdecInsn_lui code) (rvdecReturn_settled _)
  | auipc code => exact .of_eq (fun _ => rvdecInsn_auipc code) (rvdecReturn_settled _)
  | jal code => exact .of_eq (fun _ => rvdecInsn_jal code) (rvdecReturn_settled _)
  | branch code => exact .of_eq (fun _ => rvdecInsn_branch code) (rvdecReturn_settled _)
  | fmadd code => exact ⟨.ok (_, false), fun _ => rvdecInsn_fmadd code⟩
  | fmsub code => exact ⟨.ok (_, false), fun _ => rvdecInsn_fmsub code⟩
  | fnmsub code => exact ⟨.ok (_, false), fun _ => rvdecInsn_fnmsub code⟩
  | fnmadd code => exact ⟨.ok (_, false), fun _ => rvdecInsn_fnmadd code⟩
  | unknown code => exact ⟨.ok (_, true), fun _ => rvdecInsn_unknown code⟩

theorem rvdecInsn_again {state after : RvState} {w : BitVec 32} {insn : Insn}
    (decoded : rvdecInsn state w = .ok (insn, after)) :
    ∃ diagnosed, after = state.suspendIf diagnosed ∧
      ∀ other, rvdecInsn other w = .ok (insn, other.suspendIf diagnosed) := by
  obtain ⟨answer, settled⟩ := rvdecInsn_settled w
  have here := decoded.symm.trans (settled state)
  cases answer with
  | error abort => cases here
  | ok out =>
    cases here
    exact ⟨out.2, rfl, settled⟩

theorem rvdecInsn_after {state after : RvState} {w : BitVec 32} {insn : Insn}
    (decoded : rvdecInsn state w = .ok (insn, after)) :
    after = state ∨ after = { state with suspended := true } := by
  obtain ⟨diagnosed, rfl, -⟩ := rvdecInsn_again decoded
  exact suspendIf_eq_or state diagnosed

end Urv86t
