import Urv86t.Decoder.FloatEncoded
import Urv86t.Decoder.Grammar

set_option autoImplicit false

/-!
# The floating-point words the decoder accepts

Fields that no switch of the decoder looks at are left open.
-/

namespace Urv86t

open InsnBase Rv32

inductive FloatAccepted : Word → EInsn → Prop where
  | load (fmt : Fmt) (rd rs1 : Reg) (imm : BitVec 12) :
    FloatAccepted (iWord imm rs1 fmt.width rd 0b0000111#7) .flx
  | store (fmt : Fmt) (rs1 rs2 : Reg) (imm : BitVec 12) :
    FloatAccepted (sWord imm rs2 rs1 fmt.width 0b0100111#7) .fsx
  | arith (op : FloatArithOp) (fmt : Fmt) (f3 : BitVec 3) (rd rs1 rs2 : Reg) :
    FloatAccepted (rWord (op.funct5 ++ fmt.bits) rs2 rs1 f3 rd opFp) (floatArithTy op)
  | sqrt (fmt : Fmt) (f3 : BitVec 3) (rd rs1 : Reg) :
    FloatAccepted (rWord (0b01011#5 ++ fmt.bits) 0b00000#5 rs1 f3 rd opFp) .fsqrtx
  | sign (op : SignOp) (fmt : Fmt) (rd rs1 rs2 : Reg) :
    FloatAccepted (rWord (0b00100#5 ++ fmt.bits) rs2 rs1 op.funct3 rd opFp) (signTy op)
  | minMax (op : MinMaxOp) (fmt : Fmt) (rd rs1 rs2 : Reg) :
    FloatAccepted (rWord (0b00101#5 ++ fmt.bits) rs2 rs1 op.funct3 rd opFp) (minMaxTy op)
  | compare (op : CompareOp) (fmt : Fmt) (rd rs1 rs2 : Reg) :
    FloatAccepted (rWord (0b10100#5 ++ fmt.bits) rs2 rs1 op.funct3 rd opFp) (compareTy op)
  | toInt (ty : IntTy) (fmt : Fmt) (f3 : BitVec 3) (rd rs1 : Reg) :
    FloatAccepted (rWord (0b11000#5 ++ fmt.bits) ty.selector rs1 f3 rd opFp) (toIntTy ty)
  -- Both conversions from an integer are taken for the signed one.
  | ofInt (ty : IntTy) (fmt : Fmt) (f3 : BitVec 3) (rd rs1 : Reg) :
    FloatAccepted (rWord (0b11010#5 ++ fmt.bits) ty.selector rs1 f3 rd opFp) .fcvtXW
  | classify (fmt : Fmt) (rd rs1 : Reg) :
    FloatAccepted (rWord (0b11100#5 ++ fmt.bits) 0b00000#5 rs1 0b001#3 rd opFp) .fclassx
  | moveToInt (fmt : Fmt) (rd rs1 : Reg) :
    FloatAccepted (rWord (0b11100#5 ++ fmt.bits) 0b00000#5 rs1 0b000#3 rd opFp) .fmvXW
  | moveOfInt (fmt : Fmt) (f3 : BitVec 3) (rd rs1 : Reg) :
    FloatAccepted (rWord (0b11110#5 ++ fmt.bits) 0b00000#5 rs1 f3 rd opFp) .fmvWX
  | toSingle (f3 : BitVec 3) (rd rs1 : Reg) :
    FloatAccepted (rWord 0b0100000#7 0b00001#5 rs1 f3 rd opFp) .fcvtSD
  | toDouble (f3 : BitVec 3) (rd rs1 : Reg) :
    FloatAccepted (rWord 0b0100001#7 0b00000#5 rs1 f3 rd opFp) .fcvtDS
  | fused (op : FusedOp) (fmt : BitVec 2) (f3 : BitVec 3) (rd rs1 rs2 rs3 : Reg) :
    FloatAccepted (r4Word rs3 fmt rs2 rs1 f3 rd op.opcode) (fusedTy op)

section Groups

variable {w : BitVec 32}

theorem rvdecIty6_load (fmt : Fmt) (f3 : funct3 w = fmt.width) : rvdecIty6 w = makeInsn .flx .fxMXOffs := by
  rw [rvdecIty6, f3]
  cases fmt <;> rfl

theorem rvdecSty2_store (fmt : Fmt) (f3 : funct3 w = fmt.width) : rvdecSty2 w = makeInsn .fsx .mXOffsFx := by
  rw [rvdecSty2, f3]
  cases fmt <;> rfl

theorem rvdecRty2_classify (fmt : Fmt) (f7 : funct7 w = 0b11100#5 ++ fmt.bits) (r2 : rs2 w = 0b00000#5)
    (f3 : funct3 w = 0b001#3) : rvdecRty2 w = makeInsn .fclassx .fxFx := by
  apply rvdecRty2_unary (rvdecRty2Cvt_none 0b11100#5 fmt f7 (by decide))
  simp only [rvdecRty2Unary, f7, r2, f3]
  cases fmt <;> rfl

theorem rvdecRty2_moveToInt (fmt : Fmt) (f7 : funct7 w = 0b11100#5 ++ fmt.bits) (r2 : rs2 w = 0b00000#5)
    (f3 : funct3 w = 0b000#3) : rvdecRty2 w = makeInsn .fmvXW .r32Fx := by
  apply rvdecRty2_unary (rvdecRty2Cvt_none 0b11100#5 fmt f7 (by decide))
  simp only [rvdecRty2Unary, f7, r2, f3]
  cases fmt <;> rfl

theorem rvdecRty2_moveOfInt (fmt : Fmt) (f7 : funct7 w = 0b11110#5 ++ fmt.bits) (r2 : rs2 w = 0b00000#5) :
    rvdecRty2 w = makeInsn .fmvWX .fxR32 := by
  apply rvdecRty2_unary (rvdecRty2Cvt_none 0b11110#5 fmt f7 (by decide))
  simp only [rvdecRty2Unary, f7, r2]
  cases fmt <;> rfl

theorem rvdecRty2_toSingle (f7 : funct7 w = 0b0100000#7) (r2 : rs2 w = 0b00001#5) :
    rvdecRty2 w = makeInsn .fcvtSD .fxFxCvt := by
  simp only [rvdecRty2, rvdecRty2Cvt, f7, r2]
  rfl

theorem rvdecRty2_toDouble (f7 : funct7 w = 0b0100001#7) (r2 : rs2 w = 0b00000#5) :
    rvdecRty2 w = makeInsn .fcvtDS .fxFxCvt := by
  simp only [rvdecRty2, rvdecRty2Cvt, f7, r2]
  rfl

end Groups

theorem decodesTo_opFp {state : RvState} {f7 : BitVec 7} {rs2 rs1 rd : Reg} {f3 : BitVec 3} {ty : EInsn}
    {spec : EInsnArgspec} (group : rvdecRty2 (rWord f7 rs2 rs1 f3 rd opFp) = makeInsn ty spec)
    (supported : spec.isCsr = false) : DecodesTo state (rWord f7 rs2 rs1 f3 rd opFp) ty :=
  ⟨_, _, rvdecInsn_opFp f7 rs2 rs1 f3 rd group supported, rfl⟩

theorem FloatAccepted.decodes {w : Word} {ty : EInsn} (accepted : FloatAccepted w ty) (state : RvState) :
    DecodesTo state w ty := by
  cases accepted with
  | load fmt rd rs1 imm =>
    have group := rvdecIty6_load (w := iWord imm rs1 fmt.width rd 0b0000111#7) fmt (by simp [funct3])
    rw [DecodesTo, rvdecInsn_floatLoad (by simp [opcode]), group]
    exact ⟨_, _, rvdecReturn_accepted _ _ rfl rfl, rfl⟩
  | store fmt rs1 rs2 imm =>
    have group := rvdecSty2_store (w := sWord imm rs2 rs1 fmt.width 0b0100111#7) fmt (by simp [funct3])
    rw [DecodesTo, rvdecInsn_floatStore (by simp [opcode]), group]
    exact ⟨_, _, rvdecReturn_accepted _ _ rfl rfl, rfl⟩
  | arith op fmt f3 rd rs1 rs2 => exact decodesTo_opFp (rvdecRty2_arith op fmt (by simp [funct7])) rfl
  | sqrt fmt f3 rd rs1 =>
    exact decodesTo_opFp (rvdecRty2_sqrt fmt (by simp [funct7]) (by simp [InsnBase.rs2])) rfl
  | sign op fmt rd rs1 rs2 =>
    exact decodesTo_opFp (rvdecRty2_sign op fmt (by simp [funct7]) (by simp [funct3])) rfl
  | minMax op fmt rd rs1 rs2 =>
    exact decodesTo_opFp (rvdecRty2_minMax op fmt (by simp [funct7]) (by simp [funct3])) rfl
  | compare op fmt rd rs1 rs2 =>
    exact decodesTo_opFp (rvdecRty2_compare op fmt (by simp [funct7]) (by simp [funct3])) rfl
  | toInt ty fmt f3 rd rs1 =>
    exact decodesTo_opFp (rvdecRty2_toInt ty fmt (by simp [funct7]) (by simp [InsnBase.rs2])) rfl
  | ofInt ty fmt f3 rd rs1 =>
    exact decodesTo_opFp (rvdecRty2_ofInt ty fmt (by simp [funct7]) (by simp [InsnBase.rs2])) rfl
  | classify fmt rd rs1 =>
    exact decodesTo_opFp
      (rvdecRty2_classify fmt (by simp [funct7]) (by simp [InsnBase.rs2]) (by simp [funct3])) rfl
  | moveToInt fmt rd rs1 =>
    exact decodesTo_opFp
      (rvdecRty2_moveToInt fmt (by simp [funct7]) (by simp [InsnBase.rs2]) (by simp [funct3])) rfl
  | moveOfInt fmt f3 rd rs1 =>
    exact decodesTo_opFp (rvdecRty2_moveOfInt fmt (by simp [funct7]) (by simp [InsnBase.rs2])) rfl
  | toSingle f3 rd rs1 =>
    exact decodesTo_opFp (rvdecRty2_toSingle (by simp [funct7]) (by simp [InsnBase.rs2])) rfl
  | toDouble f3 rd rs1 =>
    exact decodesTo_opFp (rvdecRty2_toDouble (by simp [funct7]) (by simp [InsnBase.rs2])) rfl
  | fused op fmt f3 rd rs1 rs2 rs3 =>
    cases op with
    | fmadd => exact ⟨_, _, rvdecInsn_fmadd (by simp [opcode, FusedOp.opcode]), rfl⟩
    | fmsub => exact ⟨_, _, rvdecInsn_fmsub (by simp [opcode, FusedOp.opcode]), rfl⟩
    | fnmsub => exact ⟨_, _, rvdecInsn_fnmsub (by simp [opcode, FusedOp.opcode]), rfl⟩
    | fnmadd => exact ⟨_, _, rvdecInsn_fnmadd (by simp [opcode, FusedOp.opcode]), rfl⟩

theorem masked_selector (f7 : BitVec 7) (r : Reg) :
    (promote f7 <<< 5 ||| promote r) &&& ~~~0b000000100000#32 =
      promote (f7 &&& ~~~1#7) <<< 5 ||| promote r := by
  have high : promote f7 <<< 5 &&& ~~~0b000000100000#32 = promote (f7 &&& ~~~1#7) <<< 5 := by
    revert f7
    decide
  have low : promote r &&& ~~~0b000000100000#32 = promote r := by
    revert r
    decide
  rw [BitVec.and_or_distrib_right, high, low]

theorem masked_funct7 (f7 : BitVec 7) : promote f7 &&& ~~~0b1#32 = promote (f7 &&& ~~~1#7) := by
  revert f7
  decide

-- The bit masked away is the low one of the format; formats 10 and 11 leave another bit set.
theorem fmt_of_masked {f7 : BitVec 7} {f5 : BitVec 5} (key : f7 &&& ~~~1#7 = f5 ++ 0b00#2) :
    ∃ fmt : Fmt, f7 = f5 ++ fmt.bits := by
  have low : ∀ f7 : BitVec 7, f7 = f7 &&& ~~~1#7 ∨ f7 = (f7 &&& ~~~1#7) ||| 1#7 := by decide
  have double : ∀ f5 : BitVec 5, f5 ++ 0b00#2 ||| 1#7 = f5 ++ Fmt.d.bits := by decide
  rcases low f7 with even | odd
  · exact ⟨.s, even.trans key⟩
  · rw [key, double] at odd
    exact ⟨.d, odd⟩

theorem rWord_of_fields {w : BitVec 32} {f7 code : BitVec 7} {src2 : Reg} {f3 : BitVec 3}
    (f7Eq : funct7 w = f7) (src2Eq : rs2 w = src2) (f3Eq : funct3 w = f3) (codeEq : opcode w = code) :
    rWord f7 src2 (rs1 w) f3 (rd w) code = w := by
  subst f7Eq src2Eq f3Eq codeEq
  exact rWord_eta w

section Inversion

variable {w : BitVec 32}

theorem selector_key (f7 : BitVec 7) (r : Reg)
    (key : promote (funct7 w) <<< 5 ||| promote (rs2 w) = promote f7 <<< 5 ||| promote r) :
    funct7 w = f7 ∧ rs2 w = r :=
  fields_key (by decide) key

theorem rvdecRty2Cvt_inv (code : opcode w = opFp) {group : InsnTyArgspecPair}
    (found : rvdecRty2Cvt w = some group) : FloatAccepted w group.insnTy := by
  unfold rvdecRty2Cvt at found
  split at found
  next key =>
    cases found
    obtain ⟨f7, r2⟩ := selector_key 0b0100000#7 0b00001#5 key
    exact rWord_of_fields f7 r2 rfl code ▸ .toSingle ..
  next key =>
    cases found
    obtain ⟨f7, r2⟩ := selector_key 0b0100001#7 0b00000#5 key
    exact rWord_of_fields f7 r2 rfl code ▸ .toDouble ..
  next => cases found

theorem masked_key (f5 : BitVec 5) (r : Reg)
    (key : (promote (funct7 w) <<< 5 ||| promote (rs2 w)) &&& ~~~0b000000100000#32 =
      promote (f5 ++ 0b00#2) <<< 5 ||| promote r) : ∃ fmt : Fmt, funct7 w = f5 ++ fmt.bits ∧ rs2 w = r := by
  rw [masked_selector] at key
  obtain ⟨f7, r2⟩ := fields_key (by decide) key
  obtain ⟨fmt, f7⟩ := fmt_of_masked f7
  exact ⟨fmt, f7, r2⟩

theorem rvdecRty2Unary_inv (code : opcode w = opFp) {group : InsnTyArgspecPair}
    (found : rvdecRty2Unary w = some group) (valid : group.insnTy ≠ .invalid) :
    FloatAccepted w group.insnTy := by
  unfold rvdecRty2Unary at found
  split at found
  next key =>
    cases found
    obtain ⟨fmt, f7, r2⟩ := masked_key 0b11000#5 IntTy.w.selector key
    exact rWord_of_fields f7 r2 rfl code ▸ .toInt .w ..
  next key =>
    cases found
    obtain ⟨fmt, f7, r2⟩ := masked_key 0b11000#5 IntTy.wu.selector key
    exact rWord_of_fields f7 r2 rfl code ▸ .toInt .wu ..
  next key =>
    cases found
    obtain ⟨fmt, f7, r2⟩ := masked_key 0b11010#5 IntTy.w.selector key
    exact rWord_of_fields f7 r2 rfl code ▸ .ofInt .w ..
  next key =>
    cases found
    obtain ⟨fmt, f7, r2⟩ := masked_key 0b11010#5 IntTy.wu.selector key
    exact rWord_of_fields f7 r2 rfl code ▸ .ofInt .wu ..
  next key =>
    obtain ⟨fmt, f7, r2⟩ := masked_key 0b11100#5 0b00000#5 key
    split at found
    next f3 =>
      cases found
      exact rWord_of_fields f7 r2 f3 code ▸ .moveToInt ..
    next f3 =>
      cases found
      exact rWord_of_fields f7 r2 f3 code ▸ .classify ..
    next =>
      cases found
      exact absurd rfl valid
  next key =>
    cases found
    obtain ⟨fmt, f7, r2⟩ := masked_key 0b11110#5 0b00000#5 key
    exact rWord_of_fields f7 r2 rfl code ▸ .moveOfInt ..
  next key =>
    cases found
    obtain ⟨fmt, f7, r2⟩ := masked_key 0b01011#5 0b00000#5 key
    exact rWord_of_fields f7 r2 rfl code ▸ .sqrt ..
  next => cases found

theorem masked_funct7_key (f5 : BitVec 5) (key : promote (funct7 w) &&& ~~~0b1#32 = promote (f5 ++ 0b00#2)) :
    ∃ fmt : Fmt, funct7 w = f5 ++ fmt.bits := by
  rw [masked_funct7] at key
  apply fmt_of_masked
  have low := congrArg (BitVec.setWidth 7) key
  simpa using low

theorem rvdecRty2Binary_inv (code : opcode w = opFp) {group : InsnTyArgspecPair}
    (found : rvdecRty2Binary w = some group) (valid : group.insnTy ≠ .invalid) :
    FloatAccepted w group.insnTy := by
  unfold rvdecRty2Binary at found
  split at found
  next key =>
    cases found
    obtain ⟨fmt, f7⟩ := masked_funct7_key FloatArithOp.fadd.funct5 key
    exact rWord_of_fields f7 rfl rfl code ▸ .arith .fadd ..
  next key =>
    cases found
    obtain ⟨fmt, f7⟩ := masked_funct7_key FloatArithOp.fsub.funct5 key
    exact rWord_of_fields f7 rfl rfl code ▸ .arith .fsub ..
  next key =>
    cases found
    obtain ⟨fmt, f7⟩ := masked_funct7_key FloatArithOp.fmul.funct5 key
    exact rWord_of_fields f7 rfl rfl code ▸ .arith .fmul ..
  next key =>
    cases found
    obtain ⟨fmt, f7⟩ := masked_funct7_key FloatArithOp.fdiv.funct5 key
    exact rWord_of_fields f7 rfl rfl code ▸ .arith .fdiv ..
  next key =>
    obtain ⟨fmt, f7⟩ := masked_funct7_key 0b00100#5 key
    split at found
    next f3 =>
      cases found
      exact rWord_of_fields f7 rfl f3 code ▸ .sign .fsgnj ..
    next f3 =>
      cases found
      exact rWord_of_fields f7 rfl f3 code ▸ .sign .fsgnjn ..
    next f3 =>
      cases found
      exact rWord_of_fields f7 rfl f3 code ▸ .sign .fsgnjx ..
    next => cases found
  next key =>
    obtain ⟨fmt, f7⟩ := masked_funct7_key 0b00101#5 key
    split at found
    next f3 =>
      cases found
      exact rWord_of_fields f7 rfl f3 code ▸ .minMax .fmin ..
    next f3 =>
      cases found
      exact rWord_of_fields f7 rfl f3 code ▸ .minMax .fmax ..
    next =>
      cases found
      exact absurd rfl valid
  next key =>
    obtain ⟨fmt, f7⟩ := masked_funct7_key 0b10100#5 key
    split at found
    next f3 =>
      cases found
      exact rWord_of_fields f7 rfl f3 code ▸ .compare .feq ..
    next f3 =>
      cases found
      exact rWord_of_fields f7 rfl f3 code ▸ .compare .flt ..
    next f3 =>
      cases found
      exact rWord_of_fields f7 rfl f3 code ▸ .compare .fle ..
    next => cases found
  next => cases found

theorem rvdecRty2_inv (code : opcode w = opFp) (valid : (rvdecRty2 w).insnTy ≠ .invalid) :
    FloatAccepted w (rvdecRty2 w).insnTy := by
  unfold rvdecRty2 at valid ⊢
  cases conversion : rvdecRty2Cvt w with
  | some group => exact rvdecRty2Cvt_inv code conversion
  | none =>
    simp only [conversion] at valid ⊢
    cases unary : rvdecRty2Unary w with
    | some group =>
      simp only [unary] at valid ⊢
      exact rvdecRty2Unary_inv code unary valid
    | none =>
      simp only [unary] at valid ⊢
      cases binary : rvdecRty2Binary w with
      | some group =>
        simp only [binary] at valid ⊢
        exact rvdecRty2Binary_inv code binary valid
      | none =>
        simp only [binary] at valid
        exact absurd rfl valid

theorem width_of_funct3 (f3 : (funct3 w).setWidth 16 = fltfuncSingle ∨ (funct3 w).setWidth 16 = fltfuncDouble) :
    ∃ fmt : Fmt, funct3 w = fmt.width := by
  have widths : ∀ f3 : BitVec 3, (f3.setWidth 16 = fltfuncSingle → f3 = Fmt.s.width) ∧
      (f3.setWidth 16 = fltfuncDouble → f3 = Fmt.d.width) := by
    decide
  rcases f3 with single | double
  · exact ⟨.s, (widths (funct3 w)).1 single⟩
  · exact ⟨.d, (widths (funct3 w)).2 double⟩

theorem rvdecIty6_inv (code : opcode w = 0b0000111#7) (valid : (rvdecIty6 w).insnTy ≠ .invalid) :
    FloatAccepted w (rvdecIty6 w).insnTy := by
  unfold rvdecIty6 at valid ⊢
  split at valid
  next f3 =>
    rw [if_pos f3]
    obtain ⟨fmt, f3⟩ := width_of_funct3 f3
    exact iWord_of_fields rfl rfl f3 rfl code ▸ .load ..
  next => exact absurd rfl valid

theorem rvdecSty2_inv (code : opcode w = 0b0100111#7) (valid : (rvdecSty2 w).insnTy ≠ .invalid) :
    FloatAccepted w (rvdecSty2 w).insnTy := by
  unfold rvdecSty2 at valid ⊢
  split at valid
  next f3 =>
    rw [if_pos f3]
    obtain ⟨fmt, f3⟩ := width_of_funct3 f3
    have spelled : sWord (sImm11_5 w ++ sImm4_0 w) (rs2 w) (rs1 w) fmt.width 0b0100111#7 = w := by
      rw [← f3, ← code]
      exact sWord_eta w
    exact spelled ▸ .store ..
  next => exact absurd rfl valid

theorem fused_of_opcode (op : FusedOp) (code : opcode w = op.opcode) : FloatAccepted w (fusedTy op) := by
  have spelled : r4Word (r4Rs3 w) (w.extractLsb' 25 2) (rs2 w) (rs1 w) (funct3 w) (rd w) op.opcode = w := by
    rw [← code]
    exact r4Word_eta w
  exact spelled ▸ .fused ..

theorem FloatAccepted.of_decodes {state : RvState} {ty : EInsn} (float : opcode w ∈ floatOpcodes)
    (decodes : DecodesTo state w ty) (valid : ty ≠ .invalid) : FloatAccepted w ty := by
  obtain ⟨insn, after, decoded, rfl⟩ := decodes
  simp only [floatOpcodes, List.mem_cons, List.not_mem_nil, or_false] at float
  rcases float with code | code | code | code | code | code | code
  · rw [rvdecInsn_float code] at decoded
    rw [rvdecReturn_insn decoded] at valid ⊢
    exact rvdecRty2_inv code valid
  · rw [rvdecInsn_floatLoad code] at decoded
    rw [rvdecReturn_insn decoded] at valid ⊢
    exact rvdecIty6_inv code valid
  · rw [rvdecInsn_floatStore code] at decoded
    rw [rvdecReturn_insn decoded] at valid ⊢
    exact rvdecSty2_inv code valid
  · rw [rvdecInsn_fmadd code] at decoded
    cases decoded
    exact fused_of_opcode .fmadd code
  · rw [rvdecInsn_fmsub code] at decoded
    cases decoded
    exact fused_of_opcode .fmsub code
  · rw [rvdecInsn_fnmsub code] at decoded
    cases decoded
    exact fused_of_opcode .fnmsub code
  · rw [rvdecInsn_fnmadd code] at decoded
    cases decoded
    exact fused_of_opcode .fnmadd code

end Inversion

end Urv86t
