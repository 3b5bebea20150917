import Mathlib
import Urv86t.Decoder.Routes
import Urv86t.Shared.Tokens

set_option autoImplicit false

namespace Urv86t

open InsnBase Tokens

def rvdecRtyPair (insn : BitVec 32) : InsnArgspecPair :=
  match opcode insn with
  | 0b0110011#7 => (rtyPair insn).opCase (rvdecRty1 insn)
  | 0b1010011#7 => (rtyPair insn).opCase (rvdecRty2 insn)
  | _ => rtyPair insn

def rvdecItyPair (insn : BitVec 32) : Except Abort InsnArgspecPair :=
  match opcode insn with
  | 0b1100111#7 => .ok ((ityPair insn).opCase (rvdecIty1 insn))
  | 0b0000011#7 => .ok ((ityPair insn).opCase (rvdecIty2 insn))
  | 0b0010011#7 => (rvdecIty3 insn).map (ityPair insn).opCase
  | 0b0001111#7 => .ok ((ityPair insn).opCase (rvdecIty4 insn))
  | 0b1110011#7 => .ok ((ityPair insn).opCase (rvdecIty5 insn))
  | 0b0000111#7 => .ok ((ityPair insn).opCase (rvdecIty6 insn))
  | _ => .ok (ityPair insn)

def rvdecStyPair (insn : BitVec 32) : InsnArgspecPair :=
  match opcode insn with
  | 0b0100011#7 => (styPair insn).opCase (rvdecSty1 insn)
  | 0b0100111#7 => (styPair insn).opCase (rvdecSty2 insn)
  | _ => styPair insn

def rvdecUtyPair (insn : BitVec 32) : InsnArgspecPair :=
  match opcode insn with
  | 0b0110111#7 => (utyPair insn).insnCase .lui .r32U20
  | 0b0010111#7 => (utyPair insn).insnCase .auipc .r32U20
  | _ => utyPair insn

/-- The R4-format and the unknown formats emit nothing. -/
def rvdecPair (bytes : BitVec 32) : Except Abort (Option InsnArgspecPair) :=
  if insnOpcondR (opcode bytes) then .ok (some (rvdecRtyPair bytes))
  else if insnOpcondI (opcode bytes) then (rvdecItyPair bytes).map some
  else if insnOpcondS (opcode bytes) then .ok (some (rvdecStyPair bytes))
  else if insnOpcondU (opcode bytes) then .ok (some (rvdecUtyPair bytes))
  else if insnOpcondJ (opcode bytes) then .ok (some (jtyPair bytes))
  else if insnOpcondB (opcode bytes) then .ok (some (rvdecBtyPair bytes))
  else .ok none

def rvdecLine (bytes : BitVec 32) : Except Abort (Option String) := do
  match ← rvdecPair bytes with
  | some pair => (rvasmEmit pair).map some
  | none => pure none

theorem rvdecItyPair_other {insn : BitVec 32}
    (other : opcode insn ∉
      [0b1100111#7, 0b0000011#7, 0b0010011#7, 0b0001111#7, 0b1110011#7, 0b0000111#7]) :
    rvdecItyPair insn = .ok (ityPair insn) := by
  unfold rvdecItyPair
  split
  case h_7 => rfl
  all_goals
    next code =>
      rw [code] at other
      exact absurd (by decide) other

theorem rvdecIty_pair (state : RvState) (insn : BitVec 32) :
    rvdecIty state insn = rvdecItyPair insn >>= rvdecReturn state := by
  unfold rvdecIty
  split
  case h_3 code =>
    simp only [rvdecItyPair, code]
    cases rvdecIty3 insn <;> rfl
  case h_7 notJalr notLoad notArith notSynch notEnv notFloat =>
    have other : opcode insn ∉
        [0b1100111#7, 0b0000011#7, 0b0010011#7, 0b0001111#7, 0b1110011#7, 0b0000111#7] := by
      simp only [List.mem_cons, List.not_mem_nil, or_false, not_or]
      exact ⟨notJalr, notLoad, notArith, notSynch, notEnv, notFloat⟩
    rw [rvdecItyPair_other other]
    rfl
  all_goals
    next code =>
      simp only [rvdecItyPair, code]
      rfl

theorem rvdecInsn_pair (state : RvState) (bytes : BitVec 32) :
    rvdecInsn state bytes =
      rvdecPair bytes >>= fun emitted =>
        match emitted with
        | some pair => rvdecReturn state pair
        | none =>
          if insnOpcondR4 (opcode bytes) then rvdecR4ty state bytes
          else .ok ({ insnTy := .invalid }, rvtrbkDiagn state "unrecognised instruction format") := by
  unfold rvdecInsn rvdecPair
  by_cases r : insnOpcondR (opcode bytes) = true
  · simp only [if_pos r]
    rfl
  by_cases i : insnOpcondI (opcode bytes) = true
  · simp only [if_neg r, if_pos i]
    rw [rvdecIty_pair]
    cases rvdecItyPair bytes <;> rfl
  by_cases s : insnOpcondS (opcode bytes) = true
  · simp only [if_neg r, if_neg i, if_pos s]
    rfl
  by_cases u : insnOpcondU (opcode bytes) = true
  · simp only [if_neg r, if_neg i, if_neg s, if_pos u]
    rfl
  by_cases j : insnOpcondJ (opcode bytes) = true
  · simp only [if_neg r, if_neg i, if_neg s, if_neg u, if_pos j]
    rfl
  by_cases b : insnOpcondB (opcode bytes) = true
  · simp only [if_neg r, if_neg i, if_neg s, if_neg u, if_neg j, if_pos b]
    rfl
  · simp only [if_neg r, if_neg i, if_neg s, if_neg u, if_neg j, if_neg b]
    rfl

inductive Layout where
  | r | i | s | b | u | j | bare
  deriving DecidableEq, Repr

def integerLayout : EInsn → Option Layout
  | .add | .sub | .sll | .slt | .sltu | .xor | .srl | .sra | .or | .and
  | .mul | .mulh | .mulhsu | .mulhu | .div | .divu | .rem | .remu => some .r
  | .jalr | .lb | .lh | .lw | .lbu | .lhu | .addi | .slti | .sltiu | .xori | .ori | .andi | .slli | .srli
  | .srai => some .i
  | .sb | .sh | .sw => some .s
  | .beq | .bne | .blt | .bge | .bltu | .bgeu => some .b
  | .lui | .auipc => some .u
  | .jal => some .j
  | .fence | .fenceI | .ecall | .ebreak => some .bare
  | _ => none

def used (insn : Insn) : Insn :=
  match integerLayout insn.insnTy with
  | some .r => { insnTy := insn.insnTy, rd := insn.rd, rs1 := insn.rs1, rs2 := insn.rs2 }
  | some .i => { insnTy := insn.insnTy, rd := insn.rd, rs1 := insn.rs1, imm := insn.imm }
  | some .s | some .b => { insnTy := insn.insnTy, rs1 := insn.rs1, rs2 := insn.rs2, imm := insn.imm }
  | some .u | some .j => { insnTy := insn.insnTy, rd := insn.rd, imm := insn.imm }
  | some .bare | none => { insnTy := insn.insnTy }

def integerArgspec : EInsn → EInsnArgspec
  | .lb => .r32M8Offs | .lbu => .r32M8uOffs | .lh => .r32M16Offs | .lhu => .r32M16uOffs
  | .lw => .r32M32Offs | .sb => .m8OffsR32 | .sh => .m16OffsR32 | .sw => .m32OffsR32
  | .addi | .slti => .r32R32I12
  | .sltiu | .xori | .ori | .andi => .r32R32U12
  | .slli | .srli | .srai => .r32R32U5
  | .jalr | .beq | .bne | .blt | .bge => .r32R32Pcrel
  | .bltu | .bgeu => .r32R32Pcrelu
  | .jal => .r32Pcrel
  | .lui | .auipc => .r32U20
  | .fence | .fenceI | .ecall | .ebreak => .none
  | _ => .r32R32R32

def abiName (sel : BitVec 8) : String := reprRegAbiMap.getD sel.toNat ""

def operandTokens (argspec : EInsnArgspec) (insn : Insn) : List String :=
  match argspec with
  | .r32R32R32 => [abiName insn.rd, abiName insn.rs1, abiName insn.rs2]
  | .r32R32I12 => [abiName insn.rd, abiName insn.rs1, toString insn.imm.toInt]
  | .r32R32U12 | .r32R32U5 => [abiName insn.rd, abiName insn.rs1, toString insn.imm.toNat]
  | .r32M8Offs | .r32M8uOffs | .r32M16Offs | .r32M16uOffs | .r32M32Offs =>
    [abiName insn.rd, toString insn.imm.toInt, abiName insn.rs1]
  | .m8OffsR32 | .m16OffsR32 | .m32OffsR32 =>
    [toString insn.imm.toInt, abiName insn.rs1, abiName insn.rd]
  | .r32R32Pcrel | .r32R32Pcrelu => [abiName insn.rs1, abiName insn.rs2, toString insn.imm.toInt]
  | .r32Pcrel | .r32U20 => [abiName insn.rd, toString insn.imm.toInt]
  | _ => []

def literals : EInsnArgspec → List String
  | .r32R32R32 | .r32R32I12 | .r32R32U12 | .r32R32U5 | .r32R32Pcrel | .r32R32Pcrelu => [" ", ", ", ", ", "\n"]
  | .r32M8Offs => [" ", ", ", "(", ").b\n"]
  | .r32M8uOffs => [" ", ", ", "(", ").bu\n"]
  | .r32M16Offs => [" ", ", ", "(", ").hw\n"]
  | .r32M16uOffs => [" ", ", ", "(", ").hwu\n"]
  | .r32M32Offs => [" ", ", ", "(", ")\n"]
  | .m8OffsR32 => [" ", "(", ").b, ", "\n"]
  | .m16OffsR32 => [" ", "(", ").hw, ", "\n"]
  | .m32OffsR32 => [" ", "(", "), ", "\n"]
  | .r32Pcrel | .r32U20 => [" ", ", ", "\n"]
  | _ => ["\n"]

def characters (words : List String) : List (List Char) := words.map String.toList

def delimiter (c : Char) : Bool := c = ' ' || c = ',' || c = '(' || c = ')' || c = '\n'

def integerArgspecs : List EInsnArgspec :=
  [.none, .r32R32R32, .r32R32I12, .r32R32U12, .r32R32U5, .r32M8Offs, .r32M8uOffs, .r32M16Offs, .r32M16uOffs,
    .r32M32Offs, .m8OffsR32, .m16OffsR32, .m32OffsR32, .r32R32Pcrel, .r32R32Pcrelu, .r32Pcrel, .r32U20]

theorem integerArgspec_mem (ty : EInsn) : integerArgspec ty ∈ integerArgspecs := by
  cases ty <;> decide

theorem rvasmEmit_tokens (pair : InsnArgspecPair) (integer : pair.argspec ∈ integerArgspecs) :
    ∃ line, rvasmEmit pair = .ok line ∧
      line.toList = "v: ".toList ++
        interleave (characters (reprInsnMap pair.insn.insnTy :: operandTokens pair.argspec pair.insn))
          (characters (literals pair.argspec)) := by
  obtain ⟨argspec, insn, diagn⟩ := pair
  simp only [integerArgspecs, List.mem_cons, List.not_mem_nil, or_false] at integer
  rcases integer with spec | spec | spec | spec | spec | spec | spec | spec | spec | spec | spec | spec | spec |
    spec | spec | spec | spec
  all_goals
    subst spec
    refine ⟨_, rfl, ?_⟩
    simp [operandTokens, literals, characters, interleave, abiName]

theorem literals_open (argspec : EInsnArgspec) : ∀ l ∈ characters (literals argspec), Opens delimiter l := by
  cases argspec <;> decide

def integerTypes : List EInsn :=
  [.lui, .auipc, .jal, .jalr, .beq, .bne, .blt, .bge, .bltu, .bgeu, .lb, .lh, .lw, .lbu, .lhu, .sb, .sh, .sw,
    .addi, .slti, .sltiu, .xori, .ori, .andi, .slli, .srli, .srai, .add, .sub, .sll, .slt, .sltu, .xor, .srl,
    .sra, .or, .and, .fence, .fenceI, .ecall, .ebreak, .mul, .mulh, .mulhsu, .mulhu, .div, .divu, .rem, .remu]

theorem integerLayout_mem (ty : EInsn) (integer : (integerLayout ty).isSome) : ty ∈ integerTypes := by
  revert integer
  cases ty <;> decide

theorem reprInsnMap_plain {ty : EInsn} (integer : (integerLayout ty).isSome) :
    Plain delimiter (reprInsnMap ty).toList := by
  have names : ∀ ty ∈ integerTypes, Plain delimiter (reprInsnMap ty).toList := by decide
  exact names ty (integerLayout_mem ty integer)

theorem abiName_plain (sel : BitVec 8) : Plain delimiter (abiName sel).toList := by
  have names : ∀ name ∈ reprRegAbiMap, Plain delimiter name.toList := by decide
  unfold abiName
  by_cases inside : sel.toNat < reprRegAbiMap.length
  · rw [List.getD_eq_getElem _ _ inside]
    exact names _ (List.getElem_mem inside)
  · rw [List.getD_eq_default _ _ (by omega)]
    exact nofun

theorem digits_plain (n : Nat) : Plain delimiter (Nat.toDigits 10 n) := by
  intro c member
  have digit := Nat.isDigit_of_mem_toDigits (by decide) (by decide) member
  by_contra delimits
  simp only [delimiter, Bool.not_eq_false, Bool.or_eq_true, decide_eq_true_eq, or_assoc] at delimits
  rcases delimits with rfl | rfl | rfl | rfl | rfl <;> exact absurd digit (by decide)

theorem signed_plain (i : Int) : Plain delimiter i.repr.toList := by
  rw [Int.repr_eq_if]
  split
  · rw [Nat.toList_repr]
    exact digits_plain _
  · intro c member
    rw [String.toList_append, List.mem_append, Nat.toList_repr] at member
    rcases member with sign | digit
    · have minus : Plain delimiter "-".toList := by decide
      exact minus c sign
    · exact digits_plain _ c digit

theorem operandTokens_plain (argspec : EInsnArgspec) (insn : Insn) :
    ∀ t ∈ characters (operandTokens argspec insn), Plain delimiter t := by
  cases argspec <;> simp [operandTokens, characters, abiName_plain, signed_plain, digits_plain]

theorem reprInsnMap_inj {ty ty' : EInsn} (integer : (integerLayout ty).isSome)
    (integer' : (integerLayout ty').isSome) (same : reprInsnMap ty = reprInsnMap ty') : ty = ty' := by
  have distinct : (integerTypes.map reprInsnMap).Nodup := by decide
  exact List.inj_on_of_nodup_map distinct (integerLayout_mem ty integer) (integerLayout_mem ty' integer') same

theorem abiName_inj {sel sel' : BitVec 8} (small : sel.toNat < 32) (small' : sel'.toNat < 32)
    (same : abiName sel = abiName sel') : sel = sel' := by
  have distinct : reprRegAbiMap.Nodup := by decide
  have inside : sel.toNat < reprRegAbiMap.length := small
  have inside' : sel'.toNat < reprRegAbiMap.length := small'
  rw [abiName, abiName, List.getD_eq_getElem _ _ inside, List.getD_eq_getElem _ _ inside',
    distinct.getElem_inj_iff] at same
  exact BitVec.eq_of_toNat_eq same

structure Small (insn : Insn) : Prop where
  rd : insn.rd.toNat < 32
  rs1 : insn.rs1.toNat < 32
  rs2 : insn.rs2.toNat < 32

def shown (argspec : EInsnArgspec) (insn : Insn) : Insn :=
  match argspec with
  | .r32R32R32 => { rd := insn.rd, rs1 := insn.rs1, rs2 := insn.rs2 }
  | .r32R32I12 | .r32R32U12 | .r32R32U5 | .r32M8Offs | .r32M8uOffs | .r32M16Offs | .r32M16uOffs
  | .r32M32Offs | .m8OffsR32 | .m16OffsR32 | .m32OffsR32 => { rd := insn.rd, rs1 := insn.rs1, imm := insn.imm }
  | .r32R32Pcrel | .r32R32Pcrelu => { rs1 := insn.rs1, rs2 := insn.rs2, imm := insn.imm }
  | .r32Pcrel | .r32U20 => { rd := insn.rd, imm := insn.imm }
  | _ => {}

theorem operandTokens_inj (argspec : EInsnArgspec) {insn insn' : Insn} (small : Small insn) (small' : Small insn')
    (same : operandTokens argspec insn = operandTokens argspec insn') :
    shown argspec insn = shown argspec insn' := by
  have rd := abiName_inj small.rd small'.rd
  have rs1 := abiName_inj small.rs1 small'.rs1
  have rs2 := abiName_inj small.rs2 small'.rs2
  have signed : insn.imm.toInt.repr = insn'.imm.toInt.repr → insn.imm = insn'.imm := fun text =>
    BitVec.eq_of_toInt_eq (Int.repr_inj.mp text)
  have unsigned : insn.imm.toNat.repr = insn'.imm.toNat.repr → insn.imm = insn'.imm := fun text =>
    BitVec.eq_of_toNat_eq (Nat.repr_inj.mp text)
  cases argspec <;> simp [operandTokens, shown] at same ⊢
  all_goals grind

theorem literals_length (argspec : EInsnArgspec) (insn : Insn) :
    (characters (reprInsnMap insn.insnTy :: operandTokens argspec insn)).length =
      (characters (literals argspec)).length := by
  have operands : (operandTokens argspec insn).length + 1 = (literals argspec).length := by
    cases argspec <;> rfl
  simp only [characters, List.length_map, List.length_cons, operands]

theorem mnemonic_first (argspec : EInsnArgspec) (insn : Insn) :
    ∃ rest, Opens delimiter rest ∧
      interleave (characters (reprInsnMap insn.insnTy :: operandTokens argspec insn))
        (characters (literals argspec)) = (reprInsnMap insn.insnTy).toList ++ rest := by
  have opens := literals_open argspec
  cases found : characters (literals argspec) with
  | nil =>
    have length := literals_length argspec insn
    rw [found] at length
    cases length
  | cons literal rest => exact ⟨_, (opens literal (by simp [found])).append _, rfl⟩

theorem rvasmEmit_inj {pair pair' : InsnArgspecPair} (integer : (integerLayout pair.insn.insnTy).isSome)
    (integer' : (integerLayout pair'.insn.insnTy).isSome)
    (spec : pair.argspec = integerArgspec pair.insn.insnTy)
    (spec' : pair'.argspec = integerArgspec pair'.insn.insnTy) (small : Small pair.insn)
    (small' : Small pair'.insn) (same : rvasmEmit pair = rvasmEmit pair') :
    pair.insn.insnTy = pair'.insn.insnTy ∧ shown pair.argspec pair.insn = shown pair.argspec pair'.insn := by
  obtain ⟨line, emitted, text⟩ := rvasmEmit_tokens pair (spec ▸ integerArgspec_mem _)
  obtain ⟨line', emitted', text'⟩ := rvasmEmit_tokens pair' (spec' ▸ integerArgspec_mem _)
  have sameLine : line = line' := Except.ok.inj (emitted.symm.trans (same.trans emitted'))
  rw [sameLine, text'] at text
  have body := List.append_cancel_left text
  have type : pair.insn.insnTy = pair'.insn.insnTy := by
    obtain ⟨rest, opens, split⟩ := mnemonic_first pair.argspec pair.insn
    obtain ⟨rest', opens', split'⟩ := mnemonic_first pair'.argspec pair'.insn
    rw [split, split'] at body
    have first := (token_unique (reprInsnMap_plain integer') (reprInsnMap_plain integer) opens' opens body).1
    exact reprInsnMap_inj integer integer' (String.toList_inj.mp first).symm
  refine ⟨type, ?_⟩
  have sameSpec : pair.argspec = pair'.argspec := by rw [spec, spec', type]
  rw [← sameSpec] at body
  have plain {insn : Insn} (type : (integerLayout insn.insnTy).isSome) :
      ∀ t ∈ characters (reprInsnMap insn.insnTy :: operandTokens pair.argspec insn), Plain delimiter t := by
    intro t member
    rcases List.mem_cons.mp member with rfl | operand
    · exact reprInsnMap_plain type
    · exact operandTokens_plain _ _ t operand
  have tokens := interleave_inj _ _ _ (literals_open pair.argspec) (plain integer') (plain integer)
    (literals_length _ _) (literals_length _ _) body
  have words := List.map_injective_iff.mpr (fun _ _ text => String.toList_inj.mp text) tokens
  exact operandTokens_inj _ small small' (List.cons.inj words).2.symm

end Urv86t
