import Urv86t.Decoder.Grammar

set_option autoImplicit false

namespace Urv86t

open InsnBase Rv32

def reencode (insn : Insn) : Option Word :=
  let rd := insn.rd.setWidth 5
  let rs1 := insn.rs1.setWidth 5
  let rs2 := insn.rs2.setWidth 5
  let f3 := insn.funct.extractLsb' 0 3
  match formatOf insn.insnTy with
  | some (.r, code) => some (rWord (insn.funct.extractLsb' 3 7) rs2 rs1 f3 rd code)
  | some (.i, code) => some (iWord (insn.imm.setWidth 12) rs1 f3 rd code)
  | some (.s, code) => some (sWord (insn.imm.setWidth 12) rs2 rs1 f3 code)
  | some (.b, code) => some (bWord (insn.imm.setWidth 13) rs2 rs1 f3 code)
  | some (.u, code) => some (uWord (insn.imm.setWidth 20) rd code)
  | some (.j, code) => some (jWord (insn.imm.setWidth 21) rd code)
  | none => none

def r4Opcodes : List (BitVec 7) := [0b1000011#7, 0b1000111#7, 0b1001011#7, 0b1001111#7]

@[simp] theorem funct3_roundTrip (f : BitVec 3) : (f.setWidth 16).extractLsb' 0 3 = f := by
  apply BitVec.eq_of_getLsbD_eq
  intro i hi
  simp
  grind

@[simp] theorem funct_roundTrip (f7 : BitVec 7) (f3 : BitVec 3) :
    ((f7 ++ f3).setWidth 16).extractLsb' 3 7 = f7 ∧ ((f7 ++ f3).setWidth 16).extractLsb' 0 3 = f3 := by
  constructor <;>
  · apply BitVec.eq_of_getLsbD_eq
    intro i hi
    simp
    grind

@[simp] theorem uImm_roundTrip (imm : BitVec 20) : (imm.setWidth 32).setWidth 20 = imm := by
  apply BitVec.eq_of_getLsbD_eq
  intro i hi
  simp

theorem signExtend_roundTrip {n : Nat} (imm : BitVec n) (small : n ≤ 32) :
    (imm.signExtend 32).setWidth n = imm := by
  apply BitVec.eq_of_getLsbD_eq
  intro i hi
  have inside : i < 32 := by omega
  simp [BitVec.getElem_signExtend, hi, inside]

section Records

variable {w : BitVec 32} {insnTy : EInsn}

theorem reencode_r (format : formatOf insnTy = some (.r, opcode w)) :
    reencode { (rtyPair w).insn with insnTy := insnTy } = some w := by
  have eta : rWord (funct7 w) (rs2 w) (rs1 w) (funct3 w) (rd w) (opcode w) = w := rWord_eta w
  have record := rtyPair_rWord (rd w) (rs1 w) (rs2 w) (funct3 w) (funct7 w) (opcode w)
  rw [eta] at record
  simp only [reencode, format, record, reg_roundTrip, funct_roundTrip, eta]

theorem reencode_i (format : formatOf insnTy = some (.i, opcode w)) :
    reencode { (ityPair w).insn with insnTy := insnTy } = some w := by
  have eta : iWord (iImm11_0 w) (rs1 w) (funct3 w) (rd w) (opcode w) = w := iWord_eta w
  have record := ityPair_iWord (rd w) (rs1 w) (funct3 w) (opcode w) (iImm11_0 w)
  rw [eta] at record
  have imm := signExtend_roundTrip (iImm11_0 w) (by omega)
  simp only [reencode, format, record, reg_roundTrip, funct3_roundTrip, imm, eta]

theorem reencode_s (format : formatOf insnTy = some (.s, opcode w)) :
    reencode { (styPair w).insn with insnTy := insnTy } = some w := by
  have eta : sWord (sImm11_5 w ++ sImm4_0 w) (rs2 w) (rs1 w) (funct3 w) (opcode w) = w := sWord_eta w
  have record := styPair_sWord (rs1 w) (rs2 w) (funct3 w) (opcode w) (sImm11_5 w ++ sImm4_0 w)
  rw [eta] at record
  have imm := signExtend_roundTrip (sImm11_5 w ++ sImm4_0 w) (by omega)
  simp only [reencode, format, record, reg_roundTrip, funct3_roundTrip, imm, eta]

theorem reencode_b (format : formatOf insnTy = some (.b, opcode w)) :
    reencode { (btyPair w).insn with insnTy := insnTy } = some w := by
  have eta : bWord (branchOffset (bImm12 w ++ bImm11 w ++ bImm10_5 w ++ bImm4_1 w)) (rs2 w) (rs1 w)
      (funct3 w) (opcode w) = w := bWord_eta w
  have record := btyPair_bWord (rs1 w) (rs2 w) (funct3 w) (opcode w)
    (bImm12 w ++ bImm11 w ++ bImm10_5 w ++ bImm4_1 w)
  rw [eta] at record
  have imm := signExtend_roundTrip (branchOffset (bImm12 w ++ bImm11 w ++ bImm10_5 w ++ bImm4_1 w))
    (by omega)
  simp only [reencode, format, record, reg_roundTrip, funct3_roundTrip, imm, eta]

theorem reencode_u (format : formatOf insnTy = some (.u, opcode w)) :
    reencode { (utyPair w).insn with insnTy := insnTy } = some w := by
  have eta : uWord (uImm31_12 w) (rd w) (opcode w) = w := uWord_eta w
  have record := utyPair_uWord (rd w) (opcode w) (uImm31_12 w)
  rw [eta] at record
  simp only [reencode, format, record, reg_roundTrip, uImm_roundTrip, eta]

theorem reencode_j (code : opcode w = 0b1101111#7) : reencode (jtyPair w).insn = some w := by
  have eta : jWord (jumpOffset (jImm20 w ++ jImm19_12 w ++ jImm11 w ++ jImm10_1 w)) (rd w)
      (opcode w) = w := jWord_eta w
  have record := jtyPair_jWord (rd w) (opcode w) (jImm20 w ++ jImm19_12 w ++ jImm11 w ++ jImm10_1 w)
  rw [eta] at record
  have imm := signExtend_roundTrip (jumpOffset (jImm20 w ++ jImm19_12 w ++ jImm11 w ++ jImm10_1 w))
    (by omega)
  have format : formatOf .jal = some (.j, opcode w) := by rw [code]; rfl
  simp only [reencode, record, format, reg_roundTrip, imm, eta]

end Records

theorem rvdecBtyPair_insn (w : BitVec 32) :
    (rvdecBtyPair w).insn = { (btyPair w).insn with insnTy := (rvdecBtyPair w).insn.insnTy } := by
  unfold rvdecBtyPair
  split <;> rfl

theorem rvdecInsn_reencode {state after : RvState} {w : BitVec 32} {insn : Insn}
    (sixFormats : opcode w ∉ r4Opcodes) (decoded : rvdecInsn state w = .ok (insn, after))
    (valid : insn.insnTy ≠ .invalid) : reencode insn = some w := by
  have routed := rvdecInsn_routed state w
  generalize rvdecInsn state w = result at routed decoded
  cases routed
  case reg code =>
    rw [rvdecReturn_insn decoded] at valid ⊢
    exact reencode_r (code ▸ (rvdecRty1_answer w).valid valid)
  case float code =>
    rw [rvdecReturn_insn decoded] at valid ⊢
    exact reencode_r (code ▸ (rvdecRty2_answer w).valid valid)
  case jalr code =>
    rw [rvdecReturn_insn decoded] at valid ⊢
    exact reencode_i (code ▸ (rvdecIty1_answer w).valid valid)
  case load code =>
    rw [rvdecReturn_insn decoded] at valid ⊢
    exact reencode_i (code ▸ (rvdecIty2_answer w).valid valid)
  case arith code =>
    obtain ⟨group, accepted, decoded⟩ := bind_returned decoded
    rw [rvdecReturn_insn decoded] at valid ⊢
    exact reencode_i (code ▸ (rvdecIty3_answer w group accepted).valid valid)
  case synch code =>
    rw [rvdecReturn_insn decoded] at valid ⊢
    exact reencode_i (code ▸ (rvdecIty4_answer w).valid valid)
  case env code =>
    rw [rvdecReturn_insn decoded] at valid ⊢
    exact reencode_i (code ▸ rvdecIty5_format w valid)
  case floatLoad code =>
    rw [rvdecReturn_insn decoded] at valid ⊢
    exact reencode_i (code ▸ (rvdecIty6_answer w).valid valid)
  case store code =>
    rw [rvdecReturn_insn decoded] at valid ⊢
    exact reencode_s (code ▸ (rvdecSty1_answer w).valid valid)
  case floatStore code =>
    rw [rvdecReturn_insn decoded] at valid ⊢
    exact reencode_s (code ▸ (rvdecSty2_answer w).valid valid)
  case lui code =>
    rw [rvdecReturn_insn decoded]
    exact reencode_u (code ▸ rfl)
  case auipc code =>
    rw [rvdecReturn_insn decoded]
    exact reencode_u (code ▸ rfl)
  case jal code =>
    rw [rvdecReturn_insn decoded]
    exact reencode_j code
  case branch code =>
    rw [rvdecReturn_insn decoded] at valid ⊢
    rw [rvdecBtyPair_insn]
    exact reencode_b (code ▸ rvdecBtyPair_format w valid)
  case unknown code =>
    cases decoded
    exact absurd rfl valid
  all_goals
    rename_i code
    exact absurd (by simp [r4Opcodes, code]) sixFormats

inductive AsmInsn where
  | lui (rd imm : Nat)
  | auipc (rd imm : Nat)
  | jal (rd : Nat) (offset : Int)
  | jalr (rd rs1 : Nat) (imm : Int)
  | branch (op : BranchOp) (rs1 rs2 : Nat) (offset : Int)
  | load (op : LoadOp) (rd rs1 : Nat) (imm : Int)
  | store (op : StoreOp) (rs1 rs2 : Nat) (imm : Int)
  | opImm (op : ImmOp) (rd rs1 : Nat) (imm : Int)
  | shift (op : ShiftOp) (rd rs1 shamt : Nat)
  | reg (op : RegOp) (rd rs1 rs2 : Nat)
  | mul (op : MulOp) (rd rs1 rs2 : Nat)
  | fenceI
  | ecall
  | ebreak
  deriving DecidableEq, Repr

def AsmInsn.InRange : AsmInsn → Prop
  | .lui rd imm | .auipc rd imm => rd < 32 ∧ imm < 1048576
  | .jal rd offset => rd < 32 ∧ -1048576 ≤ offset ∧ offset ≤ 1048574 ∧ offset % 2 = 0
  | .jalr rd rs1 imm | .load _ rd rs1 imm | .opImm _ rd rs1 imm =>
    rd < 32 ∧ rs1 < 32 ∧ -2048 ≤ imm ∧ imm ≤ 2047
  | .branch _ rs1 rs2 offset => rs1 < 32 ∧ rs2 < 32 ∧ -4096 ≤ offset ∧ offset ≤ 4094 ∧ offset % 2 = 0
  | .store _ rs1 rs2 imm => rs1 < 32 ∧ rs2 < 32 ∧ -2048 ≤ imm ∧ imm ≤ 2047
  | .shift _ rd rs1 shamt => rd < 32 ∧ rs1 < 32 ∧ shamt ≤ 31
  | .reg _ rd rs1 rs2 | .mul _ rd rs1 rs2 => rd < 32 ∧ rs1 < 32 ∧ rs2 < 32
  | .fenceI | .ecall | .ebreak => True

def AsmInsn.instr : AsmInsn → Instr
  | .lui rd imm => .base (.lui (.ofNat 5 rd) (.ofNat 20 imm))
  | .auipc rd imm => .base (.auipc (.ofNat 5 rd) (.ofNat 20 imm))
  | .jal rd offset => .base (.jal (.ofNat 5 rd) (.ofInt 20 (offset / 2)))
  | .jalr rd rs1 imm => .base (.jalr (.ofNat 5 rd) (.ofNat 5 rs1) (.ofInt 12 imm))
  | .branch op rs1 rs2 offset =>
    .base (.branch op (.ofNat 5 rs1) (.ofNat 5 rs2) (.ofInt 12 (offset / 2)))
  | .load op rd rs1 imm => .base (.load op (.ofNat 5 rd) (.ofNat 5 rs1) (.ofInt 12 imm))
  | .store op rs1 rs2 imm => .base (.store op (.ofNat 5 rs1) (.ofNat 5 rs2) (.ofInt 12 imm))
  | .opImm op rd rs1 imm => .base (.opImm op (.ofNat 5 rd) (.ofNat 5 rs1) (.ofInt 12 imm))
  | .shift op rd rs1 shamt => .base (.shift op (.ofNat 5 rd) (.ofNat 5 rs1) (.ofNat 5 shamt))
  | .reg op rd rs1 rs2 => .base (.reg op (.ofNat 5 rd) (.ofNat 5 rs1) (.ofNat 5 rs2))
  | .mul op rd rs1 rs2 => .mul op (.ofNat 5 rd) (.ofNat 5 rs1) (.ofNat 5 rs2)
  | .fenceI => .fenceI 0 0 0
  | .ecall => .ecall
  | .ebreak => .ebreak

def AsmInsn.Holds (insn : Insn) : AsmInsn → Prop
  | .lui rd imm | .auipc rd imm => insn.rd.toNat = rd ∧ insn.imm.toNat = imm
  | .jal rd offset => insn.rd.toNat = rd ∧ insn.imm = .ofInt 32 offset
  | .jalr rd rs1 imm | .load _ rd rs1 imm | .opImm _ rd rs1 imm =>
    insn.rd.toNat = rd ∧ insn.rs1.toNat = rs1 ∧ insn.imm = .ofInt 32 imm
  | .branch _ rs1 rs2 imm | .store _ rs1 rs2 imm =>
    insn.rs1.toNat = rs1 ∧ insn.rs2.toNat = rs2 ∧ insn.imm = .ofInt 32 imm
  | .shift _ rd rs1 shamt => insn.rd.toNat = rd ∧ insn.rs1.toNat = rs1 ∧ insn.imm.toNat % 32 = shamt
  | .reg _ rd rs1 rs2 | .mul _ rd rs1 rs2 =>
    insn.rd.toNat = rd ∧ insn.rs1.toNat = rs1 ∧ insn.rs2.toNat = rs2
  | .fenceI | .ecall | .ebreak => True

@[simp] theorem regNumber (r : Nat) (small : r < 32) : ((BitVec.ofNat 5 r).setWidth 8).toNat = r := by
  simp
  omega

theorem imm_number (imm : Int) (low : -2048 ≤ imm) (high : imm ≤ 2047) :
    (BitVec.ofInt 12 imm).signExtend 32 = .ofInt 32 imm := by
  rw [BitVec.signExtend, BitVec.toInt_ofInt_eq_self (by omega) (by omega) (by omega)]

theorem branch_number (offset : Int) (low : -4096 ≤ offset) (high : offset ≤ 4094)
    (even : offset % 2 = 0) :
    (branchOffset (.ofInt 12 (offset / 2))).signExtend 32 = .ofInt 32 offset := by
  have halves : (BitVec.ofInt 12 (offset / 2)).toInt = offset / 2 :=
    BitVec.toInt_ofInt_eq_self (by omega) (by omega) (by omega)
  rw [branchOffset, BitVec.signExtend, BitVec.toInt_append_zero, halves]
  congr 1
  omega

theorem jump_number (offset : Int) (low : -1048576 ≤ offset) (high : offset ≤ 1048574)
    (even : offset % 2 = 0) :
    (jumpOffset (.ofInt 20 (offset / 2))).signExtend 32 = .ofInt 32 offset := by
  have halves : (BitVec.ofInt 20 (offset / 2)).toInt = offset / 2 :=
    BitVec.toInt_ofInt_eq_self (by omega) (by omega) (by omega)
  rw [jumpOffset, BitVec.signExtend, BitVec.toInt_append_zero, halves]
  congr 1
  omega

theorem shamt_number (op : ShiftOp) (shamt : Nat) (small : shamt ≤ 31) :
    ((op.funct7 ++ BitVec.ofNat 5 shamt).signExtend 32).toNat % 32 = shamt := by
  have kept : ∀ field : BitVec 5, ((op.funct7 ++ field).signExtend 32).toNat % 32 = field.toNat := by
    cases op <;> decide
  rw [kept, BitVec.toNat_ofNat]
  omega

theorem AsmInsn.holds_base (i : AsmInsn) (b : Base) (spelled : i.instr = .base b) (inRange : i.InRange) :
    i.Holds (baseInsn b) := by
  cases i with
  | lui rd imm | auipc rd imm =>
    obtain ⟨rdSmall, immSmall⟩ := inRange
    cases spelled
    exact ⟨regNumber rd rdSmall, by simp [baseInsn]; omega⟩
  | jal rd offset =>
    obtain ⟨rdSmall, low, high, even⟩ := inRange
    cases spelled
    exact ⟨regNumber rd rdSmall, jump_number offset low high even⟩
  | jalr rd rs1 imm =>
    obtain ⟨rdSmall, rs1Small, low, high⟩ := inRange
    cases spelled
    exact ⟨regNumber rd rdSmall, regNumber rs1 rs1Small, imm_number imm low high⟩
  | branch op rs1 rs2 offset =>
    obtain ⟨rs1Small, rs2Small, low, high, even⟩ := inRange
    cases spelled
    exact ⟨regNumber rs1 rs1Small, regNumber rs2 rs2Small, branch_number offset low high even⟩
  | load op rd rs1 imm | opImm op rd rs1 imm =>
    obtain ⟨rdSmall, rs1Small, low, high⟩ := inRange
    cases spelled
    exact ⟨regNumber rd rdSmall, regNumber rs1 rs1Small, imm_number imm low high⟩
  | store op rs1 rs2 imm =>
    obtain ⟨rs1Small, rs2Small, low, high⟩ := inRange
    cases spelled
    exact ⟨regNumber rs1 rs1Small, regNumber rs2 rs2Small, imm_number imm low high⟩
  | shift op rd rs1 shamt =>
    obtain ⟨rdSmall, rs1Small, small⟩ := inRange
    cases spelled
    exact ⟨regNumber rd rdSmall, regNumber rs1 rs1Small, shamt_number op shamt small⟩
  | reg op rd rs1 rs2 =>
    obtain ⟨rdSmall, rs1Small, rs2Small⟩ := inRange
    cases spelled
    exact ⟨regNumber rd rdSmall, regNumber rs1 rs1Small, regNumber rs2 rs2Small⟩
  | mul | fenceI | ecall | ebreak => cases spelled

theorem rvdecInsn_assembled (state : RvState) (i : AsmInsn) (inRange : i.InRange) :
    ∃ insn after, rvdecInsn state i.instr.encode = .ok (insn, after) ∧
      insn.insnTy = instrTy i.instr ∧ i.Holds insn := by
  cases spelled : i.instr with
  | base b => exact ⟨baseInsn b, state, rvdecInsn_base state b, rfl, i.holds_base b spelled inRange⟩
  | mul op rd rs1 rs2 =>
    refine ⟨mulInsn op rd rs1 rs2, state, rvdecInsn_mul state op rd rs1 rs2, rfl, ?_⟩
    cases i with
    | mul op rd rs1 rs2 =>
      obtain ⟨rdSmall, rs1Small, rs2Small⟩ := inRange
      cases spelled
      exact ⟨regNumber rd rdSmall, regNumber rs1 rs1Small, regNumber rs2 rs2Small⟩
    | _ => cases spelled
  | fenceI imm rd rs1 =>
    obtain ⟨rfl, rfl, rfl⟩ : imm = 0 ∧ rd = 0 ∧ rs1 = 0 := by
      cases i <;> cases spelled
      exact ⟨rfl, rfl, rfl⟩
    obtain ⟨insn, after, decoded, ty⟩ := decodesTo_fenceI state
    refine ⟨insn, after, decoded, ty, ?_⟩
    cases i <;> trivial
  | ecall | ebreak =>
    obtain ⟨insn, after, decoded, ty⟩ := rvdecInsn_complete state i.instr (by rw [spelled]; decide)
      (by rw [spelled]; decide)
    rw [spelled] at decoded ty
    refine ⟨insn, after, decoded, ty, ?_⟩
    cases i <;> trivial
  | fence | csr => cases i <;> cases spelled

theorem rvdecInsn_round_trip :
    (∀ state (i : AsmInsn), i.InRange →
      ∃ insn after, rvdecInsn state i.instr.encode = .ok (insn, after) ∧
        insn.insnTy = instrTy i.instr ∧ i.Holds insn) ∧
    (∀ state after w insn, opcode w ∉ r4Opcodes → rvdecInsn state w = .ok (insn, after) →
      insn.insnTy ≠ .invalid → reencode insn = some w) ∧
    (∀ state after w state' after' w' insn, opcode w ∉ r4Opcodes → opcode w' ∉ r4Opcodes →
      insn.insnTy ≠ .invalid → rvdecInsn state w = .ok (insn, after) →
      rvdecInsn state' w' = .ok (insn, after') → w = w') := by
  refine ⟨rvdecInsn_assembled, ?_, ?_⟩
  · intro state after w insn sixFormats decoded valid
    exact rvdecInsn_reencode sixFormats decoded valid
  · intro state after w state' after' w' insn sixFormats sixFormats' valid decoded decoded'
    have back := rvdecInsn_reencode sixFormats decoded valid
    have back' := rvdecInsn_reencode sixFormats' decoded' valid
    exact Option.some.inj (back.symm.trans back')

-- `lw x5, -2048(x6)` and its word, there and back.
theorem rvdecInsn_round_trip_lw :
    (∃ insn after, rvdecInsn (rvstateInit {} fun _ => 0) (AsmInsn.load .lw 5 6 (-2048)).instr.encode =
        .ok (insn, after) ∧ insn.insnTy = .lw ∧ (AsmInsn.load .lw 5 6 (-2048)).Holds insn) ∧
      reencode (baseInsn (.load .lw 5 6 0x800)) = some 0x80032283#32 := by
  have inRange : (AsmInsn.load .lw 5 6 (-2048)).InRange := by
    refine ⟨?_, ?_, ?_, ?_⟩ <;> decide
  have decoded : rvdecInsn (rvstateInit {} fun _ => 0) 0x80032283#32 =
      .ok (baseInsn (.load .lw 5 6 0x800), rvstateInit {} fun _ => 0) :=
    rvdecInsn_base _ (.load .lw 5 6 0x800)
  exact ⟨rvdecInsn_round_trip.1 _ _ inRange,
    rvdecInsn_round_trip.2.1 _ _ _ _ (by decide) decoded (by decide)⟩

end Urv86t
