import Urv86t.Decoder.Routes

set_option autoImplicit false

namespace Urv86t

open InsnBase

theorem rvdecReturn_ok (state : RvState) (pair : InsnArgspecPair) (supported : pair.argspec.isCsr = false) :
    rvdecReturn state pair =
      .ok (pair.insn, match pair.diagn with | none => state | some msg => rvtrbkDiagn state msg) := by
  unfold rvdecReturn
  rw [rvasmEmit_then, supported]
  rfl

theorem rvdecReturn_fatal (state : RvState) (pair : InsnArgspecPair) (csr : pair.argspec.isCsr = true) :
    rvdecReturn state pair = .error (.fatal "unsupported CSR representation\n") := by
  unfold rvdecReturn
  rw [rvasmEmit_then, csr]
  rfl

@[simp] theorem opCase_argspec (pair : InsnArgspecPair) (group : InsnTyArgspecPair) :
    (pair.opCase group).argspec = group.argspec := rfl

inductive Format where
  | r | i | s | b | u | j
  deriving DecidableEq, Repr

/-- The format and the opcode of a type's words; R4 and compressed words have none of the six. -/
def formatOf : EInsn → Option (Format × BitVec 7)
  | .add | .sub | .sll | .slt | .sltu | .xor | .srl | .sra | .or | .and
  | .mul | .mulh | .mulhsu | .mulhu | .div | .divu | .rem | .remu => some (.r, 0b0110011#7)
  | .faddx | .fsubx | .fmulx | .fdivx | .fsqrtx | .fsgnjx | .fsgnjnx | .fsgnjxx | .fminx | .fmaxx
  | .feqx | .fltx | .flex | .fclassx | .fcvtXW | .fcvtXWu | .fcvtWX | .fcvtWuX | .fmvXW | .fmvWX
  | .fcvtSD | .fcvtDS => some (.r, 0b1010011#7)
  | .jalr => some (.i, 0b1100111#7)
  | .lb | .lh | .lw | .lbu | .lhu => some (.i, 0b0000011#7)
  | .addi | .slti | .sltiu | .xori | .ori | .andi | .slli | .srli | .srai => some (.i, 0b0010011#7)
  | .fence | .fenceI => some (.i, 0b0001111#7)
  | .ecall | .ebreak | .csrrw | .csrrs | .csrrc | .csrrwi | .csrrsi | .csrrci => some (.i, 0b1110011#7)
  | .flx => some (.i, 0b0000111#7)
  | .sb | .sh | .sw => some (.s, 0b0100011#7)
  | .fsx => some (.s, 0b0100111#7)
  | .beq | .bne | .blt | .bge | .bltu | .bgeu => some (.b, 0b1100011#7)
  | .lui => some (.u, 0b0110111#7)
  | .auipc => some (.u, 0b0010111#7)
  | .jal => some (.j, 0b1101111#7)
  | _ => none

structure Answer (format : Format) (code : BitVec 7) (group : InsnTyArgspecPair) : Prop where
  supported : group.argspec.isCsr = false
  valid : group.insnTy ≠ .invalid → formatOf group.insnTy = some (format, code)

theorem Answer.invalid (format : Format) (code : BitVec 7) (diagn : Option String) :
    Answer format code (invalidInsn diagn) :=
  ⟨rfl, fun valid => absurd rfl valid⟩

theorem Answer.make {format : Format} {code : BitVec 7} (insnTy : EInsn) (spec : EInsnArgspec)
    (supported : spec.isCsr = false) (known : formatOf insnTy = some (format, code)) :
    Answer format code (makeInsn insnTy spec) :=
  ⟨supported, fun _ => known⟩

theorem rvdecRty1_answer (w : BitVec 32) : Answer .r 0b0110011#7 (rvdecRty1 w) := by
  unfold rvdecRty1
  split <;> first | exact .make _ _ rfl rfl | exact .invalid _ _ _

theorem rvdecRty2Cvt_answer (w : BitVec 32) (group : InsnTyArgspecPair)
    (found : rvdecRty2Cvt w = some group) : Answer .r 0b1010011#7 group := by
  unfold rvdecRty2Cvt at found
  split at found <;> cases found <;> exact .make _ _ rfl rfl

theorem rvdecRty2Unary_answer (w : BitVec 32) (group : InsnTyArgspecPair)
    (found : rvdecRty2Unary w = some group) : Answer .r 0b1010011#7 group := by
  unfold rvdecRty2Unary at found
  split at found <;> try split at found
  all_goals cases found <;> first | exact .make _ _ rfl rfl | exact .invalid _ _ _

theorem rvdecRty2Binary_answer (w : BitVec 32) (group : InsnTyArgspecPair)
    (found : rvdecRty2Binary w = some group) : Answer .r 0b1010011#7 group := by
  unfold rvdecRty2Binary at found
  split at found <;> try split at found
  all_goals cases found <;> first | exact .make _ _ rfl rfl | exact .invalid _ _ _

theorem rvdecRty2_answer (w : BitVec 32) : Answer .r 0b1010011#7 (rvdecRty2 w) := by
  unfold rvdecRty2
  split
  · exact rvdecRty2Cvt_answer w _ ‹_›
  · split
    · exact rvdecRty2Unary_answer w _ ‹_›
    · split
      · exact rvdecRty2Binary_answer w _ ‹_›
      · exact .invalid _ _ _

theorem rvdecIty1_answer (w : BitVec 32) : Answer .i 0b1100111#7 (rvdecIty1 w) := .make _ _ rfl rfl

theorem rvdecIty2_answer (w : BitVec 32) : Answer .i 0b0000011#7 (rvdecIty2 w) := by
  unfold rvdecIty2
  split <;> first | exact .make _ _ rfl rfl | exact .invalid _ _ _

theorem rvdecIty3_answer (w : BitVec 32) (group : InsnTyArgspecPair) (accepted : rvdecIty3 w = .ok group) :
    Answer .i 0b0010011#7 group := by
  unfold rvdecIty3 at accepted
  split at accepted
  case h_7 =>
    split at accepted
    · cases accepted
      exact .make _ _ rfl rfl
    · cases accepted
  case h_8 =>
    split at accepted
    · cases accepted
      exact .make _ _ rfl rfl
    · split at accepted <;> cases accepted <;> first | exact .make _ _ rfl rfl | exact .invalid _ _ _
  all_goals cases accepted <;> exact .make _ _ rfl rfl

theorem rvdecIty4_answer (w : BitVec 32) : Answer .i 0b0001111#7 (rvdecIty4 w) := by
  unfold rvdecIty4
  split
  · exact .make _ _ rfl rfl
  · split <;> first | exact .make _ _ rfl rfl | exact .invalid _ _ _

theorem rvdecIty6_answer (w : BitVec 32) : Answer .i 0b0000111#7 (rvdecIty6 w) := by
  unfold rvdecIty6
  split <;> first | exact .make _ _ rfl rfl | exact .invalid _ _ _

theorem rvdecSty1_answer (w : BitVec 32) : Answer .s 0b0100011#7 (rvdecSty1 w) := by
  unfold rvdecSty1
  split <;> first | exact .make _ _ rfl rfl | exact .invalid _ _ _

theorem rvdecSty2_answer (w : BitVec 32) : Answer .s 0b0100111#7 (rvdecSty2 w) := by
  unfold rvdecSty2
  split <;> first | exact .make _ _ rfl rfl | exact .invalid _ _ _

theorem rvdecBtyPair_supported (w : BitVec 32) : (rvdecBtyPair w).argspec.isCsr = false := by
  unfold rvdecBtyPair
  split <;> rfl

theorem rvdecBtyPair_format (w : BitVec 32) : (rvdecBtyPair w).insn.insnTy ≠ .invalid →
    formatOf (rvdecBtyPair w).insn.insnTy = some (.b, 0b1100011#7) := by
  unfold rvdecBtyPair
  split <;> first | exact fun _ => rfl | exact fun valid => absurd rfl valid

-- The one group with unprintable answers.
theorem rvdecIty5_format (w : BitVec 32) :
    (rvdecIty5 w).insnTy ≠ .invalid → formatOf (rvdecIty5 w).insnTy = some (.i, 0b1110011#7) := by
  unfold rvdecIty5
  split
  · split
    · exact fun _ => rfl
    · split <;> first | exact fun _ => rfl | exact fun valid => absurd rfl valid
  · split <;> first | exact fun _ => rfl | exact fun valid => absurd rfl valid

/-- SLLI with a nonzero `funct7`, which `rvdec_Ity__3` lets fall out of its switch. -/
def SlliReserved (w : BitVec 32) : Prop :=
  opcode w = 0b0010011#7 ∧ funct3 w = 0b001#3 ∧ funct7 w ≠ 0#7

/-- A CSR instruction, whose representation `rvasm_emit` refuses to print. -/
def CsrWord (w : BitVec 32) : Prop :=
  opcode w = 0b1110011#7 ∧ funct3 w ≠ 0b000#3 ∧ funct3 w ≠ 0b100#3

instance (w : BitVec 32) : Decidable (SlliReserved w) :=
  inferInstanceAs (Decidable (_ ∧ _ ∧ _))

instance (w : BitVec 32) : Decidable (CsrWord w) :=
  inferInstanceAs (Decidable (_ ∧ _ ∧ _))

theorem funct3_cases (w : BitVec 32) :
    funct3 w = 0b000#3 ∨ funct3 w = 0b001#3 ∨ funct3 w = 0b010#3 ∨ funct3 w = 0b011#3 ∨
      funct3 w = 0b100#3 ∨ funct3 w = 0b101#3 ∨ funct3 w = 0b110#3 ∨ funct3 w = 0b111#3 := by
  have covered : ∀ f : BitVec 3, f = 0b000#3 ∨ f = 0b001#3 ∨ f = 0b010#3 ∨ f = 0b011#3 ∨ f = 0b100#3 ∨
      f = 0b101#3 ∨ f = 0b110#3 ∨ f = 0b111#3 := by
    decide
  exact covered (funct3 w)

theorem rvdecIty3_reserved (w : BitVec 32) (slli : funct3 w = 0b001#3) (reserved : funct7 w ≠ 0#7) :
    rvdecIty3 w = .error .unreachable := by
  simp [rvdecIty3, slli, reserved]

theorem rvdecIty3_ok (w : BitVec 32) (allowed : ¬(funct3 w = 0b001#3 ∧ funct7 w ≠ 0#7)) :
    ∃ group, rvdecIty3 w = .ok group := by
  rcases funct3_cases w with f | f | f | f | f | f | f | f
  case inr.inl =>
    have plain : funct7 w = 0#7 := by
      by_contra nonzero
      exact allowed ⟨f, nonzero⟩
    exact ⟨makeInsn .slli .r32R32U5, by simp [rvdecIty3, f, plain]⟩
  case inr.inr.inr.inr.inr.inl =>
    by_cases logical : funct7 w = 0#7
    · exact ⟨makeInsn .srli .r32R32U5, by simp [rvdecIty3, f, logical]⟩
    · by_cases arithmetic : funct7 w = 0b0100000#7
      · exact ⟨makeInsn .srai .r32R32U5, by simp [rvdecIty3, f, arithmetic]⟩
      · exact ⟨invalidInsn (some "unrecognised shift insn. function bits"),
          by simp [rvdecIty3, f, logical, arithmetic]⟩
  all_goals
    simp only [rvdecIty3, f]
    exact ⟨_, rfl⟩

theorem rvdecIty5_isCsr (w : BitVec 32) :
    (rvdecIty5 w).argspec.isCsr = true ↔ funct3 w ≠ 0b000#3 ∧ funct3 w ≠ 0b100#3 := by
  unfold rvdecIty5
  split
  case isTrue plain =>
    have zero : funct3 w = 0b000#3 := plain.1
    have printed : ∀ ty, (makeInsn ty .none).argspec.isCsr = false := fun _ => rfl
    have rejected : ∀ msg, (invalidInsn msg).argspec.isCsr = false := fun _ => rfl
    split
    · simp [zero, printed]
    · split <;> simp [zero, printed, rejected]
  case isFalse =>
    rcases funct3_cases w with f | f | f | f | f | f | f | f <;>
      simp [f, makeInsn, invalidInsn, EInsnArgspec.isCsr]

theorem rvdecReturn_total (state : RvState) (pair : InsnArgspecPair)
    (supported : pair.argspec.isCsr = false) :
    ∃ insn after, rvdecReturn state pair = .ok (insn, after) :=
  ⟨_, _, rvdecReturn_ok state pair supported⟩

theorem rvdecIty3_total (state : RvState) (w : BitVec 32) :
    (∃ insn after,
        (rvdecIty3 w >>= fun group => rvdecReturn state ((ityPair w).opCase group)) = .ok (insn, after)) ↔
      ¬(funct3 w = 0b001#3 ∧ funct7 w ≠ 0#7) := by
  constructor
  · rintro ⟨insn, after, decoded⟩ ⟨slli, reserved⟩
    rw [rvdecIty3_reserved w slli reserved] at decoded
    cases decoded
  · intro allowed
    obtain ⟨group, accepted⟩ := rvdecIty3_ok w allowed
    rw [accepted]
    exact rvdecReturn_total state _ (rvdecIty3_answer w group accepted).supported

theorem rvdecIty5_total (state : RvState) (w : BitVec 32) :
    (∃ insn after, rvdecReturn state ((ityPair w).opCase (rvdecIty5 w)) = .ok (insn, after)) ↔
      ¬(funct3 w ≠ 0b000#3 ∧ funct3 w ≠ 0b100#3) := by
  rw [← rvdecIty5_isCsr]
  constructor
  · rintro ⟨insn, after, decoded⟩ csr
    rw [rvdecReturn_fatal state _ csr] at decoded
    cases decoded
  · intro supported
    exact rvdecReturn_total state _ (by simpa using supported)

theorem rvdecInsn_returns_iff (state : RvState) (w : BitVec 32) :
    (∃ insn after, rvdecInsn state w = .ok (insn, after)) ↔ ¬(SlliReserved w ∨ CsrWord w) := by
  have arithOnly (other : opcode w ≠ 0b0010011#7) : ¬SlliReserved w := fun slli => other slli.1
  have envOnly (other : opcode w ≠ 0b1110011#7) : ¬CsrWord w := fun csr => other csr.1
  have routed := rvdecInsn_routed state w
  generalize rvdecInsn state w = result at routed ⊢
  cases routed
  case arith code =>
    rw [rvdecIty3_total, SlliReserved, CsrWord]
    simp [code]
  case env code =>
    rw [rvdecIty5_total, SlliReserved, CsrWord]
    simp [code]
  case unknown code =>
    have slli : ¬SlliReserved w := arithOnly fun other => code (by simp [routedOpcodes, other])
    have csr : ¬CsrWord w := envOnly fun other => code (by simp [routedOpcodes, other])
    simp [slli, csr]
  all_goals
    rename_i code
    have slli : ¬SlliReserved w := arithOnly (by simp [code])
    have csr : ¬CsrWord w := envOnly (by simp [code])
    simp only [slli, csr, or_self, not_false_eq_true, iff_true]
  case reg => exact rvdecReturn_total state _ (rvdecRty1_answer w).supported
  case float => exact rvdecReturn_total state _ (rvdecRty2_answer w).supported
  case load => exact rvdecReturn_total state _ (rvdecIty2_answer w).supported
  case synch => exact rvdecReturn_total state _ (rvdecIty4_answer w).supported
  case floatLoad => exact rvdecReturn_total state _ (rvdecIty6_answer w).supported
  case store => exact rvdecReturn_total state _ (rvdecSty1_answer w).supported
  case floatStore => exact rvdecReturn_total state _ (rvdecSty2_answer w).supported
  case branch => exact rvdecReturn_total state _ (rvdecBtyPair_supported w)
  case jalr | lui | auipc | jal => exact rvdecReturn_total state _ rfl
  case fmadd | fmsub | fnmsub | fnmadd => exact ⟨_, _, rfl⟩

theorem rvdecInsn_total_iff (w : BitVec 32) :
    (∀ state, ∃ insn after, rvdecInsn state w = .ok (insn, after)) ↔ ¬(SlliReserved w ∨ CsrWord w) := by
  constructor
  · intro total
    exact (rvdecInsn_returns_iff (rvstateInit {} fun _ => 0) w).mp (total _)
  · intro kept state
    exact (rvdecInsn_returns_iff state w).mpr kept

-- `slli x1, x1, 1` with bit 25 set, and `csrrw x1, 0x300, x2`.
theorem rvdecInsn_not_total :
    ¬(∃ insn after, rvdecInsn (rvstateInit {} fun _ => 0) 0x02109093#32 = .ok (insn, after)) ∧
      ¬∃ insn after, rvdecInsn (rvstateInit {} fun _ => 0) 0x300110f3#32 = .ok (insn, after) := by
  constructor
  · rintro ⟨insn, after, decoded⟩
    exact (rvdecInsn_returns_iff _ _).mp ⟨insn, after, decoded⟩ (by decide)
  · rintro ⟨insn, after, decoded⟩
    exact (rvdecInsn_returns_iff _ _).mp ⟨insn, after, decoded⟩ (by decide)

end Urv86t
