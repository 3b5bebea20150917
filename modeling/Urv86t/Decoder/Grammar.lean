import Urv86t.Decoder.Encoded
import Urv86t.Decoder.Totality

set_option autoImplicit false

namespace Urv86t

open InsnBase Rv32

def instrTy : Instr → EInsn
  | .base i => (baseInsn i).insnTy
  | .mul op _ _ _ => mulTy op
  | .fence _ _ _ _ _ => .fence
  | .fenceI _ _ _ => .fenceI
  | .ecall => .ecall
  | .ebreak => .ebreak
  | .csr op _ _ _ => csrTy op

def floatOpcodes : List (BitVec 7) :=
  [0b1010011#7, 0b0000111#7, 0b0100111#7, 0b1000011#7, 0b1000111#7, 0b1001011#7, 0b1001111#7]

def DecodesTo (state : RvState) (w : BitVec 32) (ty : EInsn) : Prop :=
  ∃ insn after, rvdecInsn state w = .ok (insn, after) ∧ insn.insnTy = ty

def Spells (w : BitVec 32) (ty : EInsn) : Prop := ∃ i : Instr, i.encode = w ∧ instrTy i = ty

def Unspelled (w : BitVec 32) : Prop := ∀ i : Instr, i.encode ≠ w

def FollowsGrammar (w : BitVec 32) : Prop :=
  ∀ state ty, DecodesTo state w ty ↔ Spells w ty ∨ ty = .invalid ∧ Unspelled w

/-- JALR leaves its `funct3` unread. -/
def JalrReserved (w : BitVec 32) : Prop := opcode w = 0b1100111#7 ∧ funct3 w ≠ 0b000#3

/-- The decoder takes one FENCE, `fence iorw, iorw`, and one FENCE.I. -/
def FenceRejected (w : BitVec 32) : Prop :=
  opcode w = 0b0001111#7 ∧
    (funct3 w = 0b000#3 ∧ w ≠ 0x0ff0000f#32 ∨ funct3 w = 0b001#3 ∧ w ≠ 0x0000100f#32)

instance (w : BitVec 32) : Decidable (JalrReserved w) :=
  inferInstanceAs (Decidable (_ ∧ _))

instance (w : BitVec 32) : Decidable (FenceRejected w) :=
  inferInstanceAs (Decidable (_ ∧ (_ ∨ _)))

theorem instrTy_valid (i : Instr) : instrTy i ≠ .invalid := by
  cases i with
  | base i =>
    cases i with
    | lui | auipc | jal | jalr => exact nofun
    | branch op | load op | store op | opImm op | shift op | reg op => cases op <;> exact nofun
  | mul op _ _ _ => cases op <;> exact nofun
  | csr op _ _ _ => cases op <;> exact nofun
  | fence | fenceI | ecall | ebreak => exact nofun

theorem DecodesTo.deterministic {state : RvState} {w : BitVec 32} {ty ty' : EInsn}
    (first : DecodesTo state w ty) (second : DecodesTo state w ty') : ty = ty' := by
  obtain ⟨insn, after, decoded, rfl⟩ := first
  obtain ⟨insn', after', decoded', rfl⟩ := second
  rw [decoded] at decoded'
  cases decoded'
  rfl

theorem fields_key {m n : Nat} {x x' : BitVec m} {y y' : BitVec n} (fits : m + n ≤ 32)
    (key : promote x <<< n ||| promote y = promote x' <<< n ||| promote y') : x = x' ∧ y = y' := by
  have bits : ∀ i, (promote x <<< n ||| promote y).getLsbD i =
      (promote x' <<< n ||| promote y').getLsbD i := by
    intro i
    rw [key]
  constructor
  · apply BitVec.eq_of_getLsbD_eq
    intro i inside
    have bit := bits (n + i)
    simp at bit
    grind
  · apply BitVec.eq_of_getLsbD_eq
    intro i inside
    have bit := bits i
    simp at bit
    grind

theorem reg_key {w : BitVec 32} {f7 : BitVec 7} {f3 : BitVec 3}
    (key : promote (funct7 w) <<< 3 ||| promote (funct3 w) = promote f7 <<< 3 ||| promote f3) :
    funct7 w = f7 ∧ funct3 w = f3 :=
  fields_key (by decide) key

theorem rvdecRty1_inv (w : BitVec 32) (valid : (rvdecRty1 w).insnTy ≠ .invalid) :
    (∃ op : RegOp, funct7 w = op.funct7 ∧ funct3 w = op.funct3) ∨
      ∃ op : MulOp, funct7 w = 0b0000001#7 ∧ funct3 w = op.funct3 := by
  unfold rvdecRty1 at valid
  split at valid
  next key => exact .inl ⟨.add, reg_key key⟩
  next key => exact .inl ⟨.sub, reg_key key⟩
  next key => exact .inl ⟨.sll, reg_key key⟩
  next key => exact .inl ⟨.slt, reg_key key⟩
  next key => exact .inl ⟨.sltu, reg_key key⟩
  next key => exact .inl ⟨.xor, reg_key key⟩
  next key => exact .inl ⟨.srl, reg_key key⟩
  next key => exact .inl ⟨.sra, reg_key key⟩
  next key => exact .inl ⟨.or, reg_key key⟩
  next key => exact .inl ⟨.and, reg_key key⟩
  next key => exact .inr ⟨.mul, reg_key key⟩
  next key => exact .inr ⟨.mulh, reg_key key⟩
  next key => exact .inr ⟨.mulhsu, reg_key key⟩
  next key => exact .inr ⟨.mulhu, reg_key key⟩
  next key => exact .inr ⟨.div, reg_key key⟩
  next key => exact .inr ⟨.divu, reg_key key⟩
  next key => exact .inr ⟨.rem, reg_key key⟩
  next key => exact .inr ⟨.remu, reg_key key⟩
  next => exact absurd rfl valid

theorem rvdecIty2_inv (w : BitVec 32) (valid : (rvdecIty2 w).insnTy ≠ .invalid) :
    ∃ op : LoadOp, funct3 w = op.funct3 := by
  unfold rvdecIty2 at valid
  split at valid
  next f => exact ⟨.lb, f⟩
  next f => exact ⟨.lh, f⟩
  next f => exact ⟨.lw, f⟩
  next f => exact ⟨.lbu, f⟩
  next f => exact ⟨.lhu, f⟩
  next => exact absurd rfl valid

theorem rvdecIty3_inv (w : BitVec 32) {group : InsnTyArgspecPair} (accepted : rvdecIty3 w = .ok group)
    (valid : group.insnTy ≠ .invalid) :
    (∃ op : ImmOp, funct3 w = op.funct3) ∨
      ∃ op : ShiftOp, funct7 w = op.funct7 ∧ funct3 w = op.funct3 := by
  unfold rvdecIty3 at accepted
  split at accepted
  next f => exact .inl ⟨.addi, f⟩
  next f => exact .inl ⟨.slti, f⟩
  next f => exact .inl ⟨.sltiu, f⟩
  next f => exact .inl ⟨.xori, f⟩
  next f => exact .inl ⟨.ori, f⟩
  next f => exact .inl ⟨.andi, f⟩
  next f =>
    split at accepted
    next plain => exact .inr ⟨.slli, plain, f⟩
    next => cases accepted
  next f =>
    split at accepted
    next logical => exact .inr ⟨.srli, logical, f⟩
    next =>
      split at accepted
      next arithmetic => exact .inr ⟨.srai, arithmetic, f⟩
      next =>
        cases accepted
        exact absurd rfl valid
  next => cases accepted

theorem rvdecIty4_inv (w : BitVec 32) (valid : (rvdecIty4 w).insnTy ≠ .invalid) :
    rd w = 0#5 ∧ rs1 w = 0#5 ∧
      (funct3 w = 0b000#3 ∧ iImm11_0 w = 0b000011111111#12 ∨ funct3 w = 0b001#3 ∧ iImm11_0 w = 0#12) := by
  unfold rvdecIty4 at valid
  split at valid
  next fence => exact ⟨fence.1, fence.2.2.1, .inl ⟨fence.2.1, fence.2.2.2⟩⟩
  next =>
    split at valid
    next fenceI => exact ⟨fenceI.1, fenceI.2.2.1, .inr ⟨fenceI.2.1, fenceI.2.2.2⟩⟩
    next => exact absurd rfl valid

theorem rvdecIty5_inv (w : BitVec 32) (valid : (rvdecIty5 w).insnTy ≠ .invalid)
    (supported : (rvdecIty5 w).argspec.isCsr = false) :
    funct3 w = 0b000#3 ∧ rd w = 0#5 ∧ rs1 w = 0#5 ∧ (iImm11_0 w = 0#12 ∨ iImm11_0 w = 1#12) := by
  unfold rvdecIty5 at valid supported
  split at valid
  next plain =>
    rw [if_pos plain] at supported
    split at valid
    next ecall => exact ⟨plain.1, plain.2.1, plain.2.2, .inl ecall⟩
    next =>
      split at valid
      next ebreak => exact ⟨plain.1, plain.2.1, plain.2.2, .inr ebreak⟩
      next => exact absurd rfl valid
  next other =>
    rw [if_neg other] at supported
    rcases funct3_cases w with f | f | f | f | f | f | f | f <;> rw [f] at valid supported
    all_goals first | exact absurd rfl valid | exact absurd supported (by decide)

theorem rvdecSty1_inv (w : BitVec 32) (valid : (rvdecSty1 w).insnTy ≠ .invalid) :
    ∃ op : StoreOp, funct3 w = op.funct3 := by
  unfold rvdecSty1 at valid
  split at valid
  next f => exact ⟨.sb, f⟩
  next f => exact ⟨.sh, f⟩
  next f => exact ⟨.sw, f⟩
  next => exact absurd rfl valid

theorem rvdecBtyPair_inv (w : BitVec 32) (valid : (rvdecBtyPair w).insn.insnTy ≠ .invalid) :
    ∃ op : BranchOp, funct3 w = op.funct3 := by
  unfold rvdecBtyPair at valid
  split at valid
  next f => exact ⟨.beq, f⟩
  next f => exact ⟨.bne, f⟩
  next f => exact ⟨.blt, f⟩
  next f => exact ⟨.bge, f⟩
  next f => exact ⟨.bltu, f⟩
  next f => exact ⟨.bgeu, f⟩
  next => exact absurd rfl valid

theorem rvdecReturn_insn {state after : RvState} {pair : InsnArgspecPair} {insn : Insn}
    (decoded : rvdecReturn state pair = .ok (insn, after)) : insn = pair.insn := by
  cases csr : pair.argspec.isCsr
  · rw [rvdecReturn_ok state pair csr] at decoded
    cases decoded
    rfl
  · rw [rvdecReturn_fatal state pair csr] at decoded
    cases decoded

theorem rvdecReturn_supported {state after : RvState} {pair : InsnArgspecPair} {insn : Insn}
    (decoded : rvdecReturn state pair = .ok (insn, after)) : pair.argspec.isCsr = false := by
  cases csr : pair.argspec.isCsr
  · rfl
  · rw [rvdecReturn_fatal state pair csr] at decoded
    cases decoded

theorem Spells.of_encode {state after : RvState} {w : BitVec 32} {insn : Insn} (i : Instr)
    (spelled : i.encode = w) (kept : DecodesTo state i.encode (instrTy i))
    (decoded : rvdecInsn state w = .ok (insn, after)) : Spells w insn.insnTy := by
  have same : instrTy i = insn.insnTy := kept.deterministic ⟨insn, after, spelled ▸ decoded, rfl⟩
  exact ⟨i, spelled, same⟩

theorem decodesTo_base (state : RvState) (i : Base) :
    DecodesTo state (Instr.base i).encode (instrTy (.base i)) :=
  ⟨baseInsn i, state, rvdecInsn_base state i, rfl⟩

theorem decodesTo_mul (state : RvState) (op : MulOp) (rd rs1 rs2 : Reg) :
    DecodesTo state (Instr.mul op rd rs1 rs2).encode (mulTy op) :=
  ⟨mulInsn op rd rs1 rs2, state, rvdecInsn_mul state op rd rs1 rs2, rfl⟩

theorem decodesTo_fence (state : RvState) :
    DecodesTo state (Instr.fence 0 0b1111 0b1111 0 0).encode .fence :=
  ⟨_, _, (rvdecInsn_synch (by decide)).trans (rvdecReturn_ok _ _ (by decide)), by decide⟩

theorem decodesTo_fenceI (state : RvState) : DecodesTo state (Instr.fenceI 0 0 0).encode .fenceI :=
  ⟨_, _, (rvdecInsn_synch (by decide)).trans (rvdecReturn_ok _ _ (by decide)), by decide⟩

theorem decodesTo_ecall (state : RvState) : DecodesTo state Instr.ecall.encode .ecall :=
  ⟨_, _, (rvdecInsn_env (by decide)).trans (rvdecReturn_ok _ _ (by decide)), by decide⟩

theorem decodesTo_ebreak (state : RvState) : DecodesTo state Instr.ebreak.encode .ebreak :=
  ⟨_, _, (rvdecInsn_env (by decide)).trans (rvdecReturn_ok _ _ (by decide)), by decide⟩

theorem iWord_of_fields {w : BitVec 32} {imm : BitVec 12} {src dest : Reg} {f3 : BitVec 3} {code : BitVec 7}
    (immEq : iImm11_0 w = imm) (srcEq : rs1 w = src) (f3Eq : funct3 w = f3) (destEq : rd w = dest)
    (codeEq : opcode w = code) : iWord imm src f3 dest code = w := by
  subst immEq srcEq f3Eq destEq codeEq
  exact iWord_eta w

theorem rvdecInsn_sound (state : RvState) (w : BitVec 32) (integer : opcode w ∉ floatOpcodes)
    (plain : ¬JalrReserved w) {insn : Insn} {after : RvState}
    (decoded : rvdecInsn state w = .ok (insn, after)) (valid : insn.insnTy ≠ .invalid) :
    Spells w insn.insnTy := by
  have kept := decoded
  have routed := rvdecInsn_routed state w
  generalize rvdecInsn state w = result at routed decoded
  cases routed
  case reg code =>
    rw [rvdecReturn_insn decoded] at valid
    rcases rvdecRty1_inv w valid with ⟨op, f7, f3⟩ | ⟨op, f7, f3⟩
    · refine .of_encode (.base (.reg op (rd w) (rs1 w) (rs2 w))) ?_ (decodesTo_base state _) kept
      rw [Instr.encode, Base.encode, ← f7, ← f3, ← code]
      exact rWord_eta w
    · refine .of_encode (.mul op (rd w) (rs1 w) (rs2 w)) ?_ (decodesTo_mul state op _ _ _) kept
      rw [Instr.encode, ← f7, ← f3, ← code]
      exact rWord_eta w
  case jalr code =>
    have f3 : funct3 w = 0b000#3 := by
      by_contra reserved
      exact plain ⟨code, reserved⟩
    refine .of_encode (.base (.jalr (rd w) (rs1 w) (iImm11_0 w))) ?_ (decodesTo_base state _) kept
    rw [Instr.encode, Base.encode, ← code]
    exact f3 ▸ iWord_eta w
  case load code =>
    rw [rvdecReturn_insn decoded] at valid
    obtain ⟨op, f3⟩ := rvdecIty2_inv w valid
    refine .of_encode (.base (.load op (rd w) (rs1 w) (iImm11_0 w))) ?_ (decodesTo_base state _) kept
    rw [Instr.encode, Base.encode, ← f3, ← code]
    exact iWord_eta w
  case arith code =>
    obtain ⟨group, accepted, decoded⟩ := bind_returned decoded
    rw [rvdecReturn_insn decoded] at valid
    rcases rvdecIty3_inv w accepted valid with ⟨op, f3⟩ | ⟨op, f7, f3⟩
    · refine .of_encode (.base (.opImm op (rd w) (rs1 w) (iImm11_0 w))) ?_ (decodesTo_base state _) kept
      rw [Instr.encode, Base.encode, ← f3, ← code]
      exact iWord_eta w
    · refine .of_encode (.base (.shift op (rd w) (rs1 w) (rs2 w))) ?_ (decodesTo_base state _) kept
      rw [Instr.encode, Base.encode, ← f7, ← f3, ← code]
      exact rWord_eta w
  case synch code =>
    rw [rvdecReturn_insn decoded] at valid
    obtain ⟨dest, src, ⟨f3, imm⟩ | ⟨f3, imm⟩⟩ := rvdecIty4_inv w valid
    · exact .of_encode (.fence 0 0b1111 0b1111 0 0) (iWord_of_fields imm src f3 dest code)
        (decodesTo_fence state) kept
    · exact .of_encode (.fenceI 0 0 0) (iWord_of_fields imm src f3 dest code) (decodesTo_fenceI state) kept
  case env code =>
    have supported := rvdecReturn_supported decoded
    rw [rvdecReturn_insn decoded] at valid
    obtain ⟨f3, dest, src, imm | imm⟩ := rvdecIty5_inv w valid supported
    · exact .of_encode .ecall (iWord_of_fields imm src f3 dest code) (decodesTo_ecall state) kept
    · exact .of_encode .ebreak (iWord_of_fields imm src f3 dest code) (decodesTo_ebreak state) kept
  case store code =>
    rw [rvdecReturn_insn decoded] at valid
    obtain ⟨op, f3⟩ := rvdecSty1_inv w valid
    refine .of_encode (.base (.store op (rs1 w) (rs2 w) (sImm11_5 w ++ sImm4_0 w))) ?_
      (decodesTo_base state _) kept
    rw [Instr.encode, Base.encode, ← f3, ← code]
    exact sWord_eta w
  case lui code =>
    refine .of_encode (.base (.lui (rd w) (uImm31_12 w))) ?_ (decodesTo_base state _) kept
    rw [Instr.encode, Base.encode, ← code]
    exact uWord_eta w
  case auipc code =>
    refine .of_encode (.base (.auipc (rd w) (uImm31_12 w))) ?_ (decodesTo_base state _) kept
    rw [Instr.encode, Base.encode, ← code]
    exact uWord_eta w
  case jal code =>
    refine .of_encode (.base (.jal (rd w) (jImm20 w ++ jImm19_12 w ++ jImm11 w ++ jImm10_1 w))) ?_
      (decodesTo_base state _) kept
    rw [Instr.encode, Base.encode, ← code]
    exact jWord_eta w
  case branch code =>
    rw [rvdecReturn_insn decoded] at valid
    obtain ⟨op, f3⟩ := rvdecBtyPair_inv w valid
    refine .of_encode (.base (.branch op (rs1 w) (rs2 w) (bImm12 w ++ bImm11 w ++ bImm10_5 w ++ bImm4_1 w)))
      ?_ (decodesTo_base state _) kept
    rw [Instr.encode, Base.encode, ← f3, ← code]
    exact bWord_eta w
  case unknown code =>
    cases decoded
    exact absurd rfl valid
  all_goals
    rename_i code
    exact absurd (by simp [floatOpcodes, code]) integer

theorem fence_word (fm pred succ : BitVec 4) (dest src : Reg) :
    opcode (Instr.fence fm pred succ dest src).encode = 0b0001111#7 ∧
      funct3 (Instr.fence fm pred succ dest src).encode = 0b000#3 := by
  simp [opcode, funct3, Instr.encode]

theorem fenceI_word (imm : BitVec 12) (dest src : Reg) :
    opcode (Instr.fenceI imm dest src).encode = 0b0001111#7 ∧
      funct3 (Instr.fenceI imm dest src).encode = 0b001#3 := by
  simp [opcode, funct3, Instr.encode]

theorem rvdecInsn_complete (state : RvState) (i : Instr) (fence : ¬FenceRejected i.encode)
    (csr : ¬CsrWord i.encode) : DecodesTo state i.encode (instrTy i) := by
  cases i with
  | base i => exact decodesTo_base state i
  | mul op rd rs1 rs2 => exact decodesTo_mul state op rd rs1 rs2
  | fence fm pred succ dest src =>
    obtain ⟨code, f3⟩ := fence_word fm pred succ dest src
    have full : (Instr.fence fm pred succ dest src).encode = 0x0ff0000f#32 := by
      by_contra other
      exact fence ⟨code, .inl ⟨f3, other⟩⟩
    rw [full]
    exact decodesTo_fence state
  | fenceI imm dest src =>
    obtain ⟨code, f3⟩ := fenceI_word imm dest src
    have plain : (Instr.fenceI imm dest src).encode = 0x0000100f#32 := by
      by_contra other
      exact fence ⟨code, .inr ⟨f3, other⟩⟩
    rw [plain]
    exact decodesTo_fenceI state
  | ecall => exact decodesTo_ecall state
  | ebreak => exact decodesTo_ebreak state
  | csr op rd rs1 num =>
    refine absurd ⟨?_, ?_, ?_⟩ csr
    · simp [opcode, Instr.encode]
    · cases op <;> simp [funct3, Instr.encode, CsrOp.funct3]
    · cases op <;> simp [funct3, Instr.encode, CsrOp.funct3]

theorem FollowsGrammar.total {w : BitVec 32} (follows : FollowsGrammar w) (state : RvState) :
    ∃ insn after, rvdecInsn state w = .ok (insn, after) := by
  by_cases spelled : ∃ i : Instr, i.encode = w
  · obtain ⟨i, spells⟩ := spelled
    obtain ⟨insn, after, decoded, -⟩ := (follows state (instrTy i)).mpr (.inl ⟨i, spells, rfl⟩)
    exact ⟨insn, after, decoded⟩
  · have unspelled : Unspelled w := fun i spells => spelled ⟨i, spells⟩
    obtain ⟨insn, after, decoded, -⟩ := (follows state .invalid).mpr (.inr ⟨rfl, unspelled⟩)
    exact ⟨insn, after, decoded⟩

theorem JalrReserved.not_follows {w : BitVec 32} (reserved : JalrReserved w) : ¬FollowsGrammar w := by
  intro follows
  have decodes : DecodesTo (rvstateInit {} fun _ => 0) w .jalr :=
    ⟨_, _, (rvdecInsn_jalr reserved.1).trans (rvdecReturn_ok _ _ rfl), rfl⟩
  rcases (follows _ _).mp decodes with ⟨i, rfl, ty⟩ | ⟨ty, -⟩
  · have f3 : ∀ i : Instr, instrTy i = .jalr → funct3 i.encode = 0b000#3 := by
      intro i ty
      cases i with
      | base i =>
        cases i with
        | jalr rd rs1 imm => simp [funct3, Instr.encode, Base.encode]
        | lui | auipc | jal => cases ty
        | branch op | load op | store op | opImm op | shift op | reg op => cases op <;> cases ty
      | mul op | csr op => cases op <;> cases ty
      | fence | fenceI | ecall | ebreak => cases ty
    exact reserved.2 (f3 i ty)
  · cases ty

theorem FenceRejected.spelled {w : BitVec 32} (rejected : FenceRejected w) : Spells w .fence ∨ Spells w .fenceI := by
  obtain ⟨code, ⟨f3, -⟩ | ⟨f3, -⟩⟩ := rejected
  · have sets : iImm11_0 w = (iImm11_0 w).extractLsb' 8 4 ++ (iImm11_0 w).extractLsb' 4 4 ++
        (iImm11_0 w).extractLsb' 0 4 := by
      grind [BitVec.extractLsb'_append_extractLsb'_eq_extractLsb', BitVec.extractLsb'_eq_self]
    exact .inl ⟨.fence _ _ _ (rd w) (rs1 w), iWord_of_fields sets rfl f3 rfl code, rfl⟩
  · exact .inr ⟨.fenceI (iImm11_0 w) (rd w) (rs1 w), iWord_of_fields rfl rfl f3 rfl code, rfl⟩

theorem rvdecIty4_word {w : BitVec 32} (code : opcode w = 0b0001111#7) (valid : (rvdecIty4 w).insnTy ≠ .invalid) :
    w = 0x0ff0000f#32 ∨ w = 0x0000100f#32 := by
  obtain ⟨dest, src, ⟨f3, imm⟩ | ⟨f3, imm⟩⟩ := rvdecIty4_inv w valid
  · exact .inl (iWord_of_fields imm src f3 dest code).symm
  · exact .inr (iWord_of_fields imm src f3 dest code).symm

theorem FenceRejected.not_follows {w : BitVec 32} (rejected : FenceRejected w) : ¬FollowsGrammar w := by
  intro follows
  obtain ⟨ty, valid, decodes⟩ : ∃ ty, ty ≠ .invalid ∧ DecodesTo (rvstateInit {} fun _ => 0) w ty := by
    rcases rejected.spelled with fence | fenceI
    · exact ⟨.fence, nofun, (follows _ .fence).mpr (.inl fence)⟩
    · exact ⟨.fenceI, nofun, (follows _ .fenceI).mpr (.inl fenceI)⟩
  obtain ⟨insn, after, decoded, rfl⟩ := decodes
  obtain ⟨code, other⟩ := rejected
  rw [rvdecInsn_synch code] at decoded
  rw [rvdecReturn_insn decoded] at valid
  rcases rvdecIty4_word code valid with rfl | rfl
  · exact absurd other (by decide)
  · exact absurd other (by decide)

theorem rvdecInsn_grammar_iff (w : BitVec 32) (integer : opcode w ∉ floatOpcodes) :
    FollowsGrammar w ↔ ¬(JalrReserved w ∨ FenceRejected w ∨ SlliReserved w ∨ CsrWord w) := by
  constructor
  · rintro follows (jalr | fence | aborts)
    · exact jalr.not_follows follows
    · exact fence.not_follows follows
    · exact (rvdecInsn_returns_iff (rvstateInit {} fun _ => 0) w).mp (follows.total _) aborts
  · intro kept state ty
    simp only [not_or] at kept
    obtain ⟨jalr, fence, slli, csr⟩ := kept
    obtain ⟨insn, after, decoded⟩ := (rvdecInsn_returns_iff state w).mpr fun
      | .inl reserved => slli reserved
      | .inr aborts => csr aborts
    constructor
    · rintro ⟨insn', after', decoded', rfl⟩
      by_cases valid : insn'.insnTy = .invalid
      · refine .inr ⟨valid, fun i spelled => ?_⟩
        have complete := rvdecInsn_complete state i (spelled ▸ fence) (spelled ▸ csr)
        have same := complete.deterministic ⟨insn', after', spelled ▸ decoded', rfl⟩
        exact instrTy_valid i (same.trans valid)
      · exact .inl (rvdecInsn_sound state w integer jalr decoded' valid)
    · rintro (⟨i, rfl, rfl⟩ | ⟨rfl, unspelled⟩)
      · exact rvdecInsn_complete state i fence csr
      · refine ⟨insn, after, decoded, ?_⟩
        by_contra valid
        obtain ⟨i, spelled, -⟩ := rvdecInsn_sound state w integer jalr decoded valid
        exact unspelled i spelled

-- `addi x0, x0, 0`
theorem rvdecInsn_grammar_nop : FollowsGrammar 0x00000013#32 :=
  (rvdecInsn_grammar_iff 0x00000013#32 (by decide)).mpr (by decide)

-- `fence rw, rw` and a FENCE.I with `rd = 1`, which the decoder turns down, and JALR with `funct3 = 1`, which it takes.
theorem rvdecInsn_not_grammar :
    ¬FollowsGrammar 0x0330000f#32 ∧ ¬FollowsGrammar 0x0000108f#32 ∧ ¬FollowsGrammar 0x00009067#32 := by
  refine ⟨?_, ?_, ?_⟩
  · have fence : FenceRejected 0x0330000f#32 := by decide
    exact fence.not_follows
  · have fenceI : FenceRejected 0x0000108f#32 := by decide
    exact fenceI.not_follows
  · have jalr : JalrReserved 0x00009067#32 := by decide
    exact jalr.not_follows

end Urv86t
