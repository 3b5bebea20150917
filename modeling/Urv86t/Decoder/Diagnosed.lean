import Urv86t.Decoder.Grammar

set_option autoImplicit false

namespace Urv86t

open InsnBase Rv32

def InsnTyArgspecPair.Reports (group : InsnTyArgspecPair) : Prop :=
  group.insnTy = .invalid ↔ group.diagn.isSome = true

theorem makeInsn_reports {insnTy : EInsn} {spec : EInsnArgspec} (valid : insnTy ≠ .invalid) :
    (makeInsn insnTy spec).Reports := by
  simp [InsnTyArgspecPair.Reports, makeInsn, valid]

theorem invalidInsn_reports (msg : String) : (invalidInsn (some msg)).Reports := by
  simp [InsnTyArgspecPair.Reports, invalidInsn]

theorem rvdecRty2Cvt_reports {w : BitVec 32} {group : InsnTyArgspecPair}
    (found : rvdecRty2Cvt w = some group) : group.Reports := by
  unfold rvdecRty2Cvt at found
  split at found <;> cases found <;> exact makeInsn_reports (by decide)

theorem rvdecRty2Unary_reports {w : BitVec 32} {group : InsnTyArgspecPair}
    (found : rvdecRty2Unary w = some group) : group.Reports := by
  unfold rvdecRty2Unary at found
  split at found <;> try split at found
  all_goals cases found <;> first | exact makeInsn_reports (by decide) | exact invalidInsn_reports _

theorem rvdecRty2Binary_reports {w : BitVec 32} {group : InsnTyArgspecPair}
    (found : rvdecRty2Binary w = some group) : group.Reports := by
  unfold rvdecRty2Binary at found
  split at found <;> try split at found
  all_goals cases found <;> first | exact makeInsn_reports (by decide) | exact invalidInsn_reports _

theorem rvdecRty2_reports (w : BitVec 32) : (rvdecRty2 w).Reports := by
  unfold rvdecRty2
  split
  next found => exact rvdecRty2Cvt_reports found
  next =>
    split
    next found => exact rvdecRty2Unary_reports found
    next =>
      split
      next found => exact rvdecRty2Binary_reports found
      next => exact invalidInsn_reports _

theorem rvdecIty1_reports (w : BitVec 32) : (rvdecIty1 w).Reports := by
  unfold rvdecIty1
  exact makeInsn_reports (by decide)

theorem rvdecIty2_reports (w : BitVec 32) : (rvdecIty2 w).Reports := by
  unfold rvdecIty2
  split <;> first | exact makeInsn_reports (by decide) | exact invalidInsn_reports _

theorem rvdecIty3_reports {w : BitVec 32} {group : InsnTyArgspecPair} (accepted : rvdecIty3 w = .ok group) :
    group.Reports := by
  unfold rvdecIty3 at accepted
  split at accepted <;> try split at accepted
  all_goals try split at accepted
  all_goals cases accepted <;> first | exact makeInsn_reports (by decide) | exact invalidInsn_reports _

theorem rvdecIty4_reports (w : BitVec 32) : (rvdecIty4 w).Reports := by
  unfold rvdecIty4
  split <;> try split
  all_goals first | exact makeInsn_reports (by decide) | exact invalidInsn_reports _

theorem rvdecIty5_reports (w : BitVec 32) : (rvdecIty5 w).Reports := by
  unfold rvdecIty5
  split <;> split <;> try split
  all_goals first | exact makeInsn_reports (by decide) | exact invalidInsn_reports _

theorem rvdecIty6_reports (w : BitVec 32) : (rvdecIty6 w).Reports := by
  unfold rvdecIty6
  split <;> first | exact makeInsn_reports (by decide) | exact invalidInsn_reports _

theorem rvdecSty1_reports (w : BitVec 32) : (rvdecSty1 w).Reports := by
  unfold rvdecSty1
  split <;> first | exact makeInsn_reports (by decide) | exact invalidInsn_reports _

theorem rvdecSty2_reports (w : BitVec 32) : (rvdecSty2 w).Reports := by
  unfold rvdecSty2
  split <;> first | exact makeInsn_reports (by decide) | exact invalidInsn_reports _

theorem rvdecBtyPair_reports (w : BitVec 32) :
    (rvdecBtyPair w).insn.insnTy = .invalid ↔ (rvdecBtyPair w).diagn.isSome = true := by
  unfold rvdecBtyPair
  split <;> simp [InsnArgspecPair.insnCase, btyPair]

def RegReserved (w : BitVec 32) : Prop :=
  opcode w = 0b0110011#7 ∧ (∀ op : RegOp, ¬(funct7 w = op.funct7 ∧ funct3 w = op.funct3)) ∧
    ∀ op : MulOp, ¬(funct7 w = 0b0000001#7 ∧ funct3 w = op.funct3)

theorem rvdecRty1_invalid_iff (w : BitVec 32) :
    (rvdecRty1 w).insnTy = .invalid ↔
      (∀ op : RegOp, ¬(funct7 w = op.funct7 ∧ funct3 w = op.funct3)) ∧
        ∀ op : MulOp, ¬(funct7 w = 0b0000001#7 ∧ funct3 w = op.funct3) := by
  constructor
  · intro invalid
    refine ⟨fun op found => ?_, fun op found => ?_⟩
    · rw [rvdecRty1_reg op w found.1 found.2] at invalid
      cases op <;> cases invalid
    · rw [rvdecRty1_mul op w found.1 found.2] at invalid
      cases op <;> cases invalid
  · rintro ⟨noReg, noMul⟩
    by_contra valid
    rcases rvdecRty1_inv w valid with ⟨op, found⟩ | ⟨op, found⟩
    · exact noReg op found
    · exact noMul op found

theorem rvdecRty1_silent (w : BitVec 32) : (rvdecRty1 w).diagn = none := by
  unfold rvdecRty1
  split <;> rfl

def Reported (result : Except Abort (Insn × RvState)) : Prop :=
  ∀ insn after, result = .ok (insn, after) → insn.insnTy = .invalid → after.suspended = true

theorem reported_ok {insn : Insn} {after : RvState} :
    Reported (.ok (insn, after)) ↔ (insn.insnTy = .invalid → after.suspended = true) := by
  constructor
  · intro reported
    exact reported insn after rfl
  · rintro reported _ _ ⟨⟩
    exact reported

theorem rvdecReturn_reported {state : RvState} {pair : InsnArgspecPair}
    (reports : pair.insn.insnTy = .invalid → pair.diagn.isSome = true) : Reported (rvdecReturn state pair) := by
  intro insn after decoded invalid
  have supported := rvdecReturn_supported decoded
  rw [rvdecReturn_ok state pair supported] at decoded
  cases decoded
  obtain ⟨msg, diagnosed⟩ := Option.isSome_iff_exists.mp (reports invalid)
  rw [diagnosed]
  rfl

theorem rvdecReturn_silent {state after : RvState} {pair : InsnArgspecPair} {insn : Insn}
    (silent : pair.diagn.isSome = true → pair.insn.insnTy = .invalid)
    (decoded : rvdecReturn state pair = .ok (insn, after)) (valid : insn.insnTy ≠ .invalid) : after = state := by
  have supported := rvdecReturn_supported decoded
  rw [rvdecReturn_ok state pair supported] at decoded
  cases decoded
  cases diagnosed : pair.diagn with
  | none => rfl
  | some msg => exact absurd (silent (Option.isSome_of_eq_some diagnosed)) valid

theorem rvdecInsn_silent {state after : RvState} {w : BitVec 32} {insn : Insn}
    (decoded : rvdecInsn state w = .ok (insn, after)) (valid : insn.insnTy ≠ .invalid) : after = state := by
  have routed := rvdecInsn_routed state w
  generalize rvdecInsn state w = result at routed decoded
  cases routed with
  | reg =>
    refine rvdecReturn_silent (fun diagnosed => ?_) decoded valid
    rw [InsnArgspecPair.opCase, rvdecRty1_silent] at diagnosed
    cases diagnosed
  | float => exact rvdecReturn_silent (rvdecRty2_reports w).mpr decoded valid
  | jalr => exact rvdecReturn_silent (rvdecIty1_reports w).mpr decoded valid
  | load => exact rvdecReturn_silent (rvdecIty2_reports w).mpr decoded valid
  | arith =>
    cases accepted : rvdecIty3 w with
    | error abort =>
      rw [accepted] at decoded
      cases decoded
    | ok group =>
      rw [accepted] at decoded
      exact rvdecReturn_silent (rvdecIty3_reports accepted).mpr decoded valid
  | synch => exact rvdecReturn_silent (rvdecIty4_reports w).mpr decoded valid
  | env => exact rvdecReturn_silent (rvdecIty5_reports w).mpr decoded valid
  | floatLoad => exact rvdecReturn_silent (rvdecIty6_reports w).mpr decoded valid
  | store => exact rvdecReturn_silent (rvdecSty1_reports w).mpr decoded valid
  | floatStore => exact rvdecReturn_silent (rvdecSty2_reports w).mpr decoded valid
  | branch => exact rvdecReturn_silent (rvdecBtyPair_reports w).mpr decoded valid
  | lui | auipc | jal => exact rvdecReturn_silent (fun diagnosed => by cases diagnosed) decoded valid
  | fmadd | fmsub | fnmsub | fnmadd =>
    cases decoded
    rfl
  | unknown =>
    cases decoded
    exact absurd rfl valid

theorem rvdecInsn_reported_of {state : RvState} {w : BitVec 32} (other : opcode w ≠ 0b0110011#7) :
    Reported (rvdecInsn state w) := by
  have routed := rvdecInsn_routed state w
  generalize rvdecInsn state w = result at routed ⊢
  cases routed with
  | reg code => exact absurd code other
  | float => exact rvdecReturn_reported (rvdecRty2_reports w).mp
  | jalr => exact rvdecReturn_reported (rvdecIty1_reports w).mp
  | load => exact rvdecReturn_reported (rvdecIty2_reports w).mp
  | arith =>
    cases accepted : rvdecIty3 w with
    | error abort =>
      intro insn after decoded
      cases decoded
    | ok group => exact rvdecReturn_reported (rvdecIty3_reports accepted).mp
  | synch => exact rvdecReturn_reported (rvdecIty4_reports w).mp
  | env => exact rvdecReturn_reported (rvdecIty5_reports w).mp
  | floatLoad => exact rvdecReturn_reported (rvdecIty6_reports w).mp
  | store => exact rvdecReturn_reported (rvdecSty1_reports w).mp
  | floatStore => exact rvdecReturn_reported (rvdecSty2_reports w).mp
  | branch => exact rvdecReturn_reported (rvdecBtyPair_reports w).mp
  | lui | auipc | jal =>
    refine rvdecReturn_reported fun invalid => ?_
    cases invalid
  | fmadd | fmsub | fnmsub | fnmadd =>
    refine reported_ok.mpr fun invalid => ?_
    cases invalid
  | unknown => exact reported_ok.mpr fun _ => rfl

theorem rvdecInsn_reported_reg {state : RvState} {w : BitVec 32} (code : opcode w = 0b0110011#7) :
    Reported (rvdecInsn state w) ↔ ((rvdecRty1 w).insnTy = .invalid → state.suspended = true) := by
  rw [rvdecInsn_reg code, rvdecReturn_ok _ _ (rvdecRty1_answer w).supported, reported_ok]
  simp [InsnArgspecPair.opCase, rvdecRty1_silent]

theorem rvdecInsn_reported_iff (state : RvState) (w : BitVec 32) :
    Reported (rvdecInsn state w) ↔ ¬(state.suspended = false ∧ RegReserved w) := by
  by_cases code : opcode w = 0b0110011#7
  · rw [rvdecInsn_reported_reg code, rvdecRty1_invalid_iff, RegReserved]
    cases state.suspended <;> simp [code]
  · refine iff_of_true (rvdecInsn_reported_of code) ?_
    rintro ⟨-, reserved⟩
    exact code reserved.1

theorem rvdecInsn_unreported :
    ∃ insn after, rvdecInsn (rvstateInit {} fun _ => 0) 0x80000033#32 = .ok (insn, after) ∧
      insn.insnTy = .invalid ∧ after.suspended = false :=
  ⟨_, _, rfl, rfl, rfl⟩

end Urv86t
