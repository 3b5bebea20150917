import Urv86t.Decoder.FloatAccepted

set_option autoImplicit false

namespace Urv86t

open InsnBase Rv32

def floatTy : FloatInstr → EInsn
  | .load _ _ _ _ => .flx
  | .store _ _ _ _ => .fsx
  | .compute (.ofInt .wu _ _) _ _ _ _ => .fcvtXWu
  | .compute c _ _ _ _ => computeTy c
  | .classify _ _ _ => .fclassx
  | .moveToInt _ _ => .fmvXW
  | .moveOfInt _ _ => .fmvWX
  | .toSingle _ _ _ => .fcvtSD
  | .toDouble _ _ _ => .fcvtDS

def decodedTy : FloatInstr → EInsn
  | .compute c _ _ _ _ => computeTy c
  | i => floatTy i

def FloatSpells (w : BitVec 32) (ty : EInsn) : Prop := ∃ i : FloatInstr, i.encode = w ∧ floatTy i = ty

def FollowsFloatGrammar (w : BitVec 32) : Prop :=
  ∀ state ty, DecodesTo state w ty ↔ FloatSpells w ty ∨ ty = .invalid ∧ ∀ i : FloatInstr, i.encode ≠ w

/-- FCVT.S.WU and FCVT.D.WU are taken for the signed conversions. -/
def UnsignedSource (w : BitVec 32) : Prop :=
  opcode w = opFp ∧ (∃ fmt : Fmt, funct7 w = 0b11010#5 ++ fmt.bits) ∧ rs2 w = 0b00001#5

inductive FunctTakesRm : BitVec 7 → Reg → Prop where
  | arith (op : FloatArithOp) (fmt : Fmt) (src2 : Reg) : FunctTakesRm (op.funct5 ++ fmt.bits) src2
  | sqrt (fmt : Fmt) : FunctTakesRm (0b01011#5 ++ fmt.bits) 0b00000#5
  | toInt (ty : IntTy) (fmt : Fmt) : FunctTakesRm (0b11000#5 ++ fmt.bits) ty.selector
  | ofInt (ty : IntTy) (fmt : Fmt) : FunctTakesRm (0b11010#5 ++ fmt.bits) ty.selector
  | toSingle : FunctTakesRm 0b0100000#7 0b00001#5
  | toDouble : FunctTakesRm 0b0100001#7 0b00000#5

def TakesRm (w : BitVec 32) : Prop :=
  (∃ op : FusedOp, opcode w = op.opcode) ∨ opcode w = opFp ∧ FunctTakesRm (funct7 w) (rs2 w)

/-- Rounding modes are not looked at. -/
def RmReserved (w : BitVec 32) : Prop := TakesRm w ∧ (funct3 w = 0b101#3 ∨ funct3 w = 0b110#3)

/-- FMV.X.D and FMV.D.X, which are RV64 only, and FMV.W.X with a nonzero `funct3` are taken for 32-bit moves. -/
def MoveReserved (w : BitVec 32) : Prop :=
  opcode w = opFp ∧ rs2 w = 0b00000#5 ∧
    (funct7 w = 0b1110001#7 ∧ funct3 w = 0b000#3 ∨ funct7 w = 0b1111001#7 ∨
      funct7 w = 0b1111000#7 ∧ funct3 w ≠ 0b000#3)

/-- The fused instructions are taken in every format. -/
def FmtReserved (w : BitVec 32) : Prop :=
  (∃ op : FusedOp, opcode w = op.opcode) ∧ ∀ fmt : Fmt, w.extractLsb' 25 2 ≠ fmt.bits

def FloatDeviates (w : BitVec 32) : Prop := UnsignedSource w ∨ RmReserved w ∨ MoveReserved w ∨ FmtReserved w

theorem FloatAccepted.valid {w : BitVec 32} {ty : EInsn} (accepted : FloatAccepted w ty) : ty ≠ .invalid := by
  cases accepted with
  | arith op | sign op | minMax op | compare op | toInt op | fused op => cases op <;> exact nofun
  | load | store | sqrt | ofInt | classify | moveToInt | moveOfInt | toSingle | toDouble => exact nofun

theorem floatInstr_accepted (i : FloatInstr) : FloatAccepted i.encode (decodedTy i) := by
  cases i with
  | load => exact .load ..
  | store => exact .store ..
  | compute c =>
    cases c with
    | arith => exact .arith ..
    | sqrt => exact .sqrt ..
    | sign => exact .sign ..
    | minMax => exact .minMax ..
    | compare => exact .compare ..
    | toInt => exact .toInt ..
    | ofInt => exact .ofInt ..
    | fused => exact .fused ..
  | classify => exact .classify ..
  | moveToInt => exact .moveToInt .s ..
  | moveOfInt => exact .moveOfInt .s ..
  | toSingle => exact .toSingle ..
  | toDouble => exact .toDouble ..

theorem rm_of_bits {f3 : BitVec 3} (legal : ¬(f3 = 0b101#3 ∨ f3 = 0b110#3)) :
    ∃ rm : RoundingMode, f3 = rm.bits := by
  have modes : ∀ f3 : BitVec 3, f3 = 0b101#3 ∨ f3 = 0b110#3 ∨ f3 = RoundingMode.rne.bits ∨
      f3 = RoundingMode.rtz.bits ∨ f3 = RoundingMode.rdn.bits ∨ f3 = RoundingMode.rup.bits ∨
      f3 = RoundingMode.rmm.bits ∨ f3 = RoundingMode.dyn.bits := by
    decide
  rcases modes f3 with reserved | reserved | bits | bits | bits | bits | bits | bits
  · exact absurd (.inl reserved) legal
  · exact absurd (.inr reserved) legal
  all_goals exact ⟨_, bits⟩

section OpFp

variable {f7 : BitVec 7} {src2 src1 dest : Reg} {f3 : BitVec 3}

theorem opFp_mode (kept : ¬FloatDeviates (rWord f7 src2 src1 f3 dest opFp)) (takes : FunctTakesRm f7 src2) :
    ∃ rm : RoundingMode, f3 = rm.bits := by
  apply rm_of_bits
  intro reserved
  refine kept (.inr (.inl ⟨.inr ⟨?_, ?_⟩, ?_⟩))
  · simp [opcode]
  · simpa [funct7, InsnBase.rs2] using takes
  · simpa [funct3] using reserved

theorem opFp_move (kept : ¬FloatDeviates (rWord f7 0b00000#5 src1 f3 dest opFp)) :
    ¬(f7 = 0b1110001#7 ∧ f3 = 0b000#3 ∨ f7 = 0b1111001#7 ∨ f7 = 0b1111000#7 ∧ f3 ≠ 0b000#3) := by
  intro reserved
  refine kept (.inr (.inr (.inl ⟨?_, ?_, ?_⟩)))
  · simp [opcode]
  · simp [InsnBase.rs2]
  · simpa [funct7, funct3] using reserved

end OpFp

section Spelled

variable {w : BitVec 32} {ty : EInsn}

theorem FloatAccepted.spelled (accepted : FloatAccepted w ty) (kept : ¬FloatDeviates w) : FloatSpells w ty := by
  cases accepted with
  | load fmt rd rs1 imm => exact ⟨.load fmt rd rs1 imm, rfl, rfl⟩
  | store fmt rs1 rs2 imm => exact ⟨.store fmt rs1 rs2 imm, rfl, rfl⟩
  | arith op fmt f3 rd rs1 rs2 =>
    obtain ⟨rm, rfl⟩ := opFp_mode kept (.arith op fmt rs2)
    exact ⟨.compute (.arith op fmt rm) rd rs1 rs2 0, rfl, rfl⟩
  | sqrt fmt f3 rd rs1 =>
    obtain ⟨rm, rfl⟩ := opFp_mode kept (.sqrt fmt)
    exact ⟨.compute (.sqrt fmt rm) rd rs1 0 0, rfl, rfl⟩
  | sign op fmt rd rs1 rs2 => exact ⟨.compute (.sign op fmt) rd rs1 rs2 0, rfl, rfl⟩
  | minMax op fmt rd rs1 rs2 => exact ⟨.compute (.minMax op fmt) rd rs1 rs2 0, rfl, rfl⟩
  | compare op fmt rd rs1 rs2 => exact ⟨.compute (.compare op fmt) rd rs1 rs2 0, rfl, rfl⟩
  | toInt ty fmt f3 rd rs1 =>
    obtain ⟨rm, rfl⟩ := opFp_mode kept (.toInt ty fmt)
    exact ⟨.compute (.toInt ty fmt rm) rd rs1 0 0, rfl, rfl⟩
  | ofInt ty fmt f3 rd rs1 =>
    obtain ⟨rm, rfl⟩ := opFp_mode kept (.ofInt ty fmt)
    cases ty with
    | w => exact ⟨.compute (.ofInt .w fmt rm) rd rs1 0 0, rfl, rfl⟩
    | wu =>
      refine absurd (.inl ⟨?_, ⟨fmt, ?_⟩, ?_⟩) kept
      · simp [opcode]
      · simp [funct7]
      · simp [InsnBase.rs2, IntTy.selector]
  | classify fmt rd rs1 => exact ⟨.classify fmt rd rs1, rfl, rfl⟩
  | moveToInt fmt rd rs1 =>
    cases fmt with
    | s => exact ⟨.moveToInt rd rs1, rfl, rfl⟩
    | d => exact absurd (.inl ⟨rfl, rfl⟩) (opFp_move kept)
  | moveOfInt fmt f3 rd rs1 =>
    cases fmt with
    | s =>
      have plain : f3 = 0b000#3 := by
        by_contra other
        exact opFp_move kept (.inr (.inr ⟨rfl, other⟩))
      subst plain
      exact ⟨.moveOfInt rd rs1, rfl, rfl⟩
    | d => exact absurd (.inr (.inl rfl)) (opFp_move kept)
  | toSingle f3 rd rs1 =>
    obtain ⟨rm, rfl⟩ := opFp_mode kept .toSingle
    exact ⟨.toSingle rm rd rs1, rfl, rfl⟩
  | toDouble f3 rd rs1 =>
    obtain ⟨rm, rfl⟩ := opFp_mode kept .toDouble
    exact ⟨.toDouble rm rd rs1, rfl, rfl⟩
  | fused op fmt f3 rd rs1 rs2 rs3 =>
    have code : opcode (r4Word rs3 fmt rs2 rs1 f3 rd op.opcode) = op.opcode := by simp [opcode]
    obtain ⟨rm, rfl⟩ : ∃ rm : RoundingMode, f3 = rm.bits := by
      apply rm_of_bits
      intro reserved
      exact kept (.inr (.inl ⟨.inl ⟨op, code⟩, by simpa [funct3] using reserved⟩))
    obtain ⟨legal, rfl⟩ : ∃ legal : Fmt, fmt = legal.bits := by
      by_contra reserved
      refine kept (.inr (.inr (.inr ⟨⟨op, code⟩, fun legal bits => reserved ⟨legal, ?_⟩⟩)))
      simpa using bits
    exact ⟨.compute (.fused op legal rm) rd rs1 rs2 rs3, rfl, rfl⟩

theorem accepted_of_takesRm (takes : TakesRm w) : ∃ ty, FloatAccepted w ty := by
  rcases takes with ⟨op, code⟩ | ⟨code, functs⟩
  · exact ⟨_, fused_of_opcode op code⟩
  · generalize f7Eq : funct7 w = f7 at functs
    generalize src2Eq : rs2 w = src2 at functs
    rw [← rWord_of_fields f7Eq src2Eq rfl code]
    cases functs with
    | arith op fmt => exact ⟨_, .arith op fmt ..⟩
    | sqrt fmt => exact ⟨_, .sqrt fmt ..⟩
    | toInt ty fmt => exact ⟨_, .toInt ty fmt ..⟩
    | ofInt ty fmt => exact ⟨_, .ofInt ty fmt ..⟩
    | toSingle => exact ⟨_, .toSingle ..⟩
    | toDouble => exact ⟨_, .toDouble ..⟩

theorem FloatDeviates.accepted (deviates : FloatDeviates w) : ∃ ty, FloatAccepted w ty := by
  rcases deviates with ⟨code, ⟨fmt, f7⟩, src2⟩ | ⟨takes, -⟩ | ⟨code, src2, move⟩ | ⟨⟨op, code⟩, -⟩
  · rw [← rWord_of_fields f7 src2 rfl code]
    exact ⟨_, .ofInt .wu fmt ..⟩
  · exact accepted_of_takesRm takes
  · rcases move with ⟨f7, f3⟩ | f7 | ⟨f7, -⟩
    · rw [← rWord_of_fields f7 src2 f3 code]
      exact ⟨_, .moveToInt .d ..⟩
    · rw [← rWord_of_fields f7 src2 rfl code]
      exact ⟨_, .moveOfInt .d ..⟩
    · rw [← rWord_of_fields f7 src2 rfl code]
      exact ⟨_, .moveOfInt .s ..⟩
  · exact ⟨_, fused_of_opcode op code⟩

end Spelled

section Kept

variable {f7 : BitVec 7} {src2 src1 dest : Reg} {f3 : BitVec 3}

theorem opFp_kept (legal : ¬(f3 = 0b101#3 ∨ f3 = 0b110#3))
    (signed : ∀ fmt : Fmt, f7 = 0b11010#5 ++ fmt.bits → src2 ≠ 0b00001#5)
    (move : ¬(f7 = 0b1110001#7 ∧ f3 = 0b000#3 ∨ f7 = 0b1111001#7 ∨ f7 = 0b1111000#7 ∧ f3 ≠ 0b000#3)) :
    ¬FloatDeviates (rWord f7 src2 src1 f3 dest opFp) := by
  rintro (⟨-, ⟨fmt, unsigned⟩, selected⟩ | ⟨-, reserved⟩ | ⟨-, -, reserved⟩ | ⟨⟨op, fused⟩, -⟩)
  · exact signed fmt (by simpa [funct7] using unsigned) (by simpa [InsnBase.rs2] using selected)
  · exact legal (by simpa [funct3] using reserved)
  · exact move (by simpa [funct7, funct3] using reserved)
  · have code : opFp = op.opcode := by simpa [opcode] using fused
    cases op <;> exact absurd code (by decide)

theorem funct5_ne {f5 f5' : BitVec 5} (other : f5 ≠ f5') (bits bits' : BitVec 2) :
    f5 ++ bits ≠ f5' ++ bits' := by
  intro same
  have high := congrArg (BitVec.extractLsb' 2 5) same
  simp only [BitVec.extractLsb'_append_eq_left] at high
  exact other high

theorem opFp_kept_of_funct5 {f5 : BitVec 5} (fmt : Fmt) (other : f5 ∉ [0b11010#5, 0b11100#5, 0b11110#5])
    (legal : ¬(f3 = 0b101#3 ∨ f3 = 0b110#3)) :
    ¬FloatDeviates (rWord (f5 ++ fmt.bits) src2 src1 f3 dest opFp) := by
  simp only [List.mem_cons, List.not_mem_nil, or_false, not_or] at other
  obtain ⟨ofInt, toWord, ofWord⟩ := other
  apply opFp_kept legal
  · intro fmt' same
    exact absurd same (funct5_ne ofInt _ _)
  · rintro (⟨same, -⟩ | same | ⟨same, -⟩)
    · exact funct5_ne toWord fmt.bits 0b01#2 same
    · exact funct5_ne ofWord fmt.bits 0b01#2 same
    · exact funct5_ne ofWord fmt.bits 0b00#2 same

theorem rm_legal (rm : RoundingMode) : ¬(rm.bits = 0b101#3 ∨ rm.bits = 0b110#3) := by
  cases rm <;> decide

theorem kept_of_opcode {w : BitVec 32} (other : opcode w ≠ opFp)
    (plain : ∀ op : FusedOp, opcode w ≠ op.opcode) : ¬FloatDeviates w := by
  rintro (⟨code, -⟩ | ⟨⟨op, code⟩ | ⟨code, -⟩, -⟩ | ⟨code, -⟩ | ⟨⟨op, code⟩, -⟩)
  · exact other code
  · exact plain op code
  · exact other code
  · exact other code
  · exact plain op code

theorem fused_kept (op : FusedOp) (fmt : Fmt) (rm : RoundingMode) (src3 : Reg) :
    ¬FloatDeviates (r4Word src3 fmt.bits src2 src1 rm.bits dest op.opcode) := by
  have code : opcode (r4Word src3 fmt.bits src2 src1 rm.bits dest op.opcode) = op.opcode := by simp [opcode]
  have other : op.opcode ≠ opFp := by cases op <;> decide
  rintro (⟨same, -⟩ | ⟨-, reserved⟩ | ⟨same, -⟩ | ⟨-, reserved⟩)
  · exact other (code.symm.trans same)
  · exact rm_legal rm (by simpa [funct3] using reserved)
  · exact other (code.symm.trans same)
  · exact reserved fmt (by simp)

end Kept

theorem compute_kept (c : Compute) (signed : ∀ fmt rm, c ≠ .ofInt .wu fmt rm) (rd rs1 rs2 rs3 : Reg) :
    ¬FloatDeviates (c.encode rd rs1 rs2 rs3) := by
  cases c with
  | arith op fmt rm => exact opFp_kept_of_funct5 fmt (by cases op <;> decide) (rm_legal rm)
  | sqrt fmt rm => exact opFp_kept_of_funct5 fmt (by decide) (rm_legal rm)
  | sign op fmt => exact opFp_kept_of_funct5 fmt (by decide) (by cases op <;> decide)
  | minMax op fmt => exact opFp_kept_of_funct5 fmt (by decide) (by cases op <;> decide)
  | compare op fmt => exact opFp_kept_of_funct5 fmt (by decide) (by cases op <;> decide)
  | toInt ty fmt rm => exact opFp_kept_of_funct5 fmt (by decide) (rm_legal rm)
  | ofInt ty fmt rm =>
    cases ty with
    | w =>
      have plain : 0b11010#5 ++ fmt.bits ∉ [0b1110001#7, 0b1111001#7, 0b1111000#7] := by cases fmt <;> decide
      refine opFp_kept (rm_legal rm) (fun _ _ => by decide) ?_
      simp only [List.mem_cons, List.not_mem_nil, or_false, not_or] at plain
      simp [plain]
    | wu => exact absurd rfl (signed fmt rm)
  | fused op fmt rm => exact fused_kept op fmt rm rs3

theorem floatInstr_deviates_iff (i : FloatInstr) : FloatDeviates i.encode ↔ floatTy i ≠ decodedTy i := by
  cases i with
  | load fmt rd rs1 imm =>
    have code : opcode (FloatInstr.load fmt rd rs1 imm).encode = 0b0000111#7 := by
      simp [opcode, FloatInstr.encode]
    refine iff_of_false (kept_of_opcode ?_ ?_) (not_not_intro rfl) <;> rw [code]
    · decide
    · intro op
      cases op <;> decide
  | store fmt rs1 rs2 imm =>
    have code : opcode (FloatInstr.store fmt rs1 rs2 imm).encode = 0b0100111#7 := by
      simp [opcode, FloatInstr.encode]
    refine iff_of_false (kept_of_opcode ?_ ?_) (not_not_intro rfl) <;> rw [code]
    · decide
    · intro op
      cases op <;> decide
  | compute c rd rs1 rs2 rs3 =>
    by_cases signed : ∀ fmt rm, c ≠ .ofInt .wu fmt rm
    · refine iff_of_false (compute_kept c signed rd rs1 rs2 rs3) (not_not_intro ?_)
      cases c with
      | ofInt ty fmt rm =>
        cases ty with
        | w => rfl
        | wu => exact absurd rfl (signed fmt rm)
      | _ => rfl
    · obtain ⟨fmt, unsigned⟩ := not_forall.mp signed
      obtain ⟨rm, same⟩ := not_forall.mp unsigned
      obtain rfl := not_not.mp same
      have differ : floatTy (.compute (.ofInt .wu fmt rm) rd rs1 rs2 rs3) ≠
          decodedTy (.compute (.ofInt .wu fmt rm) rd rs1 rs2 rs3) := by
        intro agree
        cases agree
      refine iff_of_true (.inl ⟨?_, ⟨fmt, ?_⟩, ?_⟩) differ
      · simp [opcode, FloatInstr.encode, Compute.encode]
      · simp [funct7, FloatInstr.encode, Compute.encode]
      · simp [InsnBase.rs2, FloatInstr.encode, Compute.encode, IntTy.selector]
  | classify fmt rd rs1 =>
    refine iff_of_false (opFp_kept (by decide) (fun _ _ => by decide) ?_) (not_not_intro rfl)
    cases fmt <;> decide
  | moveToInt rd rs1 =>
    exact iff_of_false (opFp_kept (by decide) (fun _ _ => by decide) (by decide)) (not_not_intro rfl)
  | moveOfInt rd rs1 =>
    exact iff_of_false (opFp_kept (by decide) (fun _ _ => by decide) (by decide)) (not_not_intro rfl)
  | toSingle rm rd rs1 =>
    have kept : ¬FloatDeviates (rWord (0b01000#5 ++ Fmt.s.bits) 0b00001#5 rs1 rm.bits rd opFp) :=
      opFp_kept_of_funct5 .s (by decide) (rm_legal rm)
    exact iff_of_false kept (not_not_intro rfl)
  | toDouble rm rd rs1 =>
    have kept : ¬FloatDeviates (rWord (0b01000#5 ++ Fmt.d.bits) 0b00000#5 rs1 rm.bits rd opFp) :=
      opFp_kept_of_funct5 .d (by decide) (rm_legal rm)
    exact iff_of_false kept (not_not_intro rfl)

theorem rvdecInsn_float_total (state : RvState) {w : BitVec 32} (float : opcode w ∈ floatOpcodes) :
    ∃ ty, DecodesTo state w ty := by
  have slli : ¬SlliReserved w := by
    rintro ⟨code, -⟩
    rw [code] at float
    exact absurd float (by decide)
  have csr : ¬CsrWord w := by
    rintro ⟨code, -⟩
    rw [code] at float
    exact absurd float (by decide)
  obtain ⟨insn, after, decoded⟩ := (rvdecInsn_returns_iff state w).mpr fun
    | .inl reserved => slli reserved
    | .inr aborts => csr aborts
  exact ⟨_, insn, after, decoded, rfl⟩

theorem FloatDeviates.not_follows {w : BitVec 32} (deviates : FloatDeviates w) : ¬FollowsFloatGrammar w := by
  intro follows
  obtain ⟨ty, accepted⟩ := deviates.accepted
  have decodes := accepted.decodes (rvstateInit {} fun _ => 0)
  rcases (follows _ ty).mp decodes with ⟨i, rfl, rfl⟩ | ⟨invalid, -⟩
  · have decodesOther := (floatInstr_accepted i).decodes (rvstateInit {} fun _ => 0)
    exact (floatInstr_deviates_iff i).mp deviates (decodes.deterministic decodesOther)
  · exact accepted.valid invalid

theorem rvdecInsn_floatGrammar_iff (w : BitVec 32) (float : opcode w ∈ floatOpcodes) :
    FollowsFloatGrammar w ↔ ¬(UnsignedSource w ∨ RmReserved w ∨ MoveReserved w ∨ FmtReserved w) := by
  constructor
  · intro follows deviates
    exact FloatDeviates.not_follows deviates follows
  · intro kept state ty
    have agrees : ∀ i : FloatInstr, i.encode = w → floatTy i = decodedTy i := by
      rintro i rfl
      by_contra other
      exact kept ((floatInstr_deviates_iff i).mpr other)
    have decoded : ∀ i : FloatInstr, i.encode = w → DecodesTo state w (floatTy i) := by
      intro i spelled
      rw [agrees i spelled, ← spelled]
      exact (floatInstr_accepted i).decodes state
    constructor
    · intro decodes
      by_cases invalid : ty = .invalid
      · refine .inr ⟨invalid, fun i spelled => ?_⟩
        have same : floatTy i = ty := (decoded i spelled).deterministic decodes
        exact (floatInstr_accepted i).valid ((agrees i spelled).symm.trans (same.trans invalid))
      · exact .inl ((FloatAccepted.of_decodes float decodes invalid).spelled kept)
    · rintro (⟨i, spelled, rfl⟩ | ⟨rfl, unspelled⟩)
      · exact decoded i spelled
      · obtain ⟨ty, decodes⟩ := rvdecInsn_float_total state float
        by_cases invalid : ty = .invalid
        · exact invalid ▸ decodes
        · obtain ⟨i, spelled, -⟩ := (FloatAccepted.of_decodes float decodes invalid).spelled kept
          exact absurd spelled (unspelled i)

-- `fadd.s f1, f2, f3` with the mode rne
theorem rvdecInsn_floatGrammar_fadd : FollowsFloatGrammar 0x003100d3#32 := by
  refine (rvdecInsn_floatGrammar_iff 0x003100d3#32 (by decide)).mpr ?_
  rintro (⟨-, -, selected⟩ | ⟨-, reserved⟩ | ⟨-, selected, -⟩ | ⟨⟨op, fused⟩, -⟩)
  · exact absurd selected (by decide)
  · exact absurd reserved (by decide)
  · exact absurd selected (by decide)
  · cases op <;> exact absurd fused (by decide)

-- `fcvt.s.wu f1, x2`, which is taken for `fcvt.s.w`, and `fmv.x.d x1, f2`, which RV32D does not have.
theorem rvdecInsn_not_floatGrammar :
    ¬FollowsFloatGrammar 0xd01100d3#32 ∧ ¬FollowsFloatGrammar 0xe20100d3#32 := by
  constructor
  · exact FloatDeviates.not_follows (.inl ⟨by decide, ⟨.s, by decide⟩, by decide⟩)
  · exact FloatDeviates.not_follows (.inr (.inr (.inl ⟨by decide, by decide, by decide⟩)))

end Urv86t
