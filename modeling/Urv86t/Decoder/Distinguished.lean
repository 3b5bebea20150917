import Urv86t.Decoder.Listing
import Urv86t.Decoder.RoundTrip

set_option autoImplicit false

namespace Urv86t

open InsnBase Rv32

def layoutPair : Layout → BitVec 32 → InsnArgspecPair
  | .r => rtyPair | .i | .bare => ityPair | .s => styPair | .b => btyPair | .u => utyPair | .j => jtyPair

def Suits (layout : EInsn → Layout → Prop) (group : InsnTyArgspecPair) : Prop :=
  ∀ l, integerLayout group.insnTy = some l →
    layout group.insnTy l ∧ group = makeInsn group.insnTy (integerArgspec group.insnTy)

theorem integerLayout_float {ty : EInsn} {format : Format} {code : BitVec 7}
    (known : formatOf ty = some (format, code)) (float : code ∈ floatOpcodes) : integerLayout ty = none := by
  cases ty <;> cases known <;> first | rfl | exact absurd float (by decide)

theorem Answer.suits {format : Format} {code : BitVec 7} {group : InsnTyArgspecPair}
    (answer : Answer format code group) (float : code ∈ floatOpcodes) : Suits (fun _ _ => False) group := by
  intro l found
  by_cases invalid : group.insnTy = .invalid
  · rw [invalid] at found
    cases found
  · rw [integerLayout_float (answer.valid invalid) float] at found
    cases found

section Groups

variable (w : BitVec 32)

theorem rvdecRty1_suits : Suits (fun _ l => l = .r) (rvdecRty1 w) := by
  unfold rvdecRty1
  split <;> rintro l ⟨⟩ <;> exact ⟨rfl, rfl⟩

theorem rvdecRty2_suits : Suits (fun _ _ => False) (rvdecRty2 w) := (rvdecRty2_answer w).suits (by decide)

theorem rvdecIty2_suits : Suits (fun ty l => l = .i ∧ ty ≠ .jalr) (rvdecIty2 w) := by
  unfold rvdecIty2
  split <;> rintro l ⟨⟩ <;> exact ⟨⟨rfl, nofun⟩, rfl⟩

theorem rvdecIty3_suits {group : InsnTyArgspecPair} (accepted : rvdecIty3 w = .ok group) :
    Suits (fun ty l => l = .i ∧ ty ≠ .jalr) group := by
  unfold rvdecIty3 at accepted
  repeat' split at accepted
  all_goals
    cases accepted
    try (rintro l ⟨⟩ <;> exact ⟨⟨rfl, nofun⟩, rfl⟩)

theorem rvdecIty4_suits : Suits (fun _ l => l = .bare) (rvdecIty4 w) := by
  unfold rvdecIty4
  repeat' split
  all_goals rintro l ⟨⟩ <;> exact ⟨rfl, rfl⟩

theorem rvdecIty5_suits : Suits (fun _ l => l = .bare) (rvdecIty5 w) := by
  unfold rvdecIty5
  repeat' split
  all_goals rintro l ⟨⟩ <;> exact ⟨rfl, rfl⟩

theorem rvdecIty6_suits : Suits (fun _ _ => False) (rvdecIty6 w) := (rvdecIty6_answer w).suits (by decide)

theorem rvdecSty1_suits : Suits (fun _ l => l = .s) (rvdecSty1 w) := by
  unfold rvdecSty1
  split <;> rintro l ⟨⟩ <;> exact ⟨rfl, rfl⟩

theorem rvdecSty2_suits : Suits (fun _ _ => False) (rvdecSty2 w) := (rvdecSty2_answer w).suits (by decide)

end Groups

structure Emitted (w : BitVec 32) (pair : InsnArgspecPair) (layout : Layout) : Prop where
  form : pair = (layoutPair layout w).insnCase pair.insn.insnTy (integerArgspec pair.insn.insnTy)
  jalr : pair.insn.insnTy = .jalr → opcode w = 0b1100111#7
  store : layout = .s → opcode w = 0b0100011#7 ∧ rvdecSty1 w = makeInsn pair.insn.insnTy pair.argspec

theorem Suits.opCase {layout : EInsn → Layout → Prop} {group : InsnTyArgspecPair} (suits : Suits layout group)
    {base : InsnArgspecPair} {l : Layout} (clean : base.diagn = none) (found : integerLayout group.insnTy = some l) :
    base.opCase group = base.insnCase group.insnTy (integerArgspec group.insnTy) := by
  rw [(suits l found).2]
  simp [InsnArgspecPair.opCase, InsnArgspecPair.insnCase, makeInsn, clean]

section Formats

variable {w : BitVec 32} {pair : InsnArgspecPair} {layout : Layout}

theorem rvdecRtyPair_emitted (integer : integerLayout (rvdecRtyPair w).insn.insnTy = some layout) :
    Emitted w (rvdecRtyPair w) layout := by
  unfold rvdecRtyPair at integer ⊢
  split at integer
  next =>
    obtain ⟨rfl, -⟩ := rvdecRty1_suits w layout integer
    refine ⟨(rvdecRty1_suits w).opCase rfl integer, fun same => ?_, nofun⟩
    rw [same] at integer
    cases integer
  next => exact (rvdecRty2_suits w layout integer).1.elim
  next => cases integer

theorem rvdecItyPair_emitted (emitted : rvdecItyPair w = .ok pair)
    (integer : integerLayout pair.insn.insnTy = some layout) : Emitted w pair layout := by
  have bare {group : InsnTyArgspecPair} (suits : Suits (fun _ l => l = .bare) group)
      (found : integerLayout group.insnTy = some layout) : Emitted w ((ityPair w).opCase group) layout := by
    obtain ⟨rfl, -⟩ := suits layout found
    refine ⟨suits.opCase rfl found, fun same => ?_, nofun⟩
    change group.insnTy = .jalr at same
    rw [same] at found
    cases found
  have other {group : InsnTyArgspecPair} (suits : Suits (fun ty l => l = .i ∧ ty ≠ .jalr) group)
      (found : integerLayout group.insnTy = some layout) : Emitted w ((ityPair w).opCase group) layout := by
    obtain ⟨⟨rfl, ne⟩, -⟩ := suits layout found
    exact ⟨suits.opCase rfl found, fun same => absurd same ne, nofun⟩
  unfold rvdecItyPair at emitted
  split at emitted
  next code =>
    cases emitted
    cases integer
    exact ⟨rfl, fun _ => code, nofun⟩
  next =>
    cases emitted
    exact other (rvdecIty2_suits w) integer
  next =>
    obtain ⟨group, accepted, rfl⟩ := map_returned emitted
    exact other (rvdecIty3_suits w accepted) integer
  next =>
    cases emitted
    exact bare (rvdecIty4_suits w) integer
  next =>
    cases emitted
    exact bare (rvdecIty5_suits w) integer
  next =>
    cases emitted
    exact (rvdecIty6_suits w layout integer).1.elim
  next =>
    cases emitted
    cases integer

theorem rvdecStyPair_emitted (integer : integerLayout (rvdecStyPair w).insn.insnTy = some layout) :
    Emitted w (rvdecStyPair w) layout := by
  unfold rvdecStyPair at integer ⊢
  split at integer
  next code =>
    obtain ⟨rfl, made⟩ := rvdecSty1_suits w layout integer
    refine ⟨(rvdecSty1_suits w).opCase rfl integer, fun same => ?_, fun _ => ⟨code, ?_⟩⟩
    · change (rvdecSty1 w).insnTy = .jalr at same
      change integerLayout (rvdecSty1 w).insnTy = some .s at integer
      rw [same] at integer
      cases integer
    · rw [made]
      rfl
  next => exact (rvdecSty2_suits w layout integer).1.elim
  next => cases integer

theorem rvdecBtyPair_emitted (integer : integerLayout (rvdecBtyPair w).insn.insnTy = some layout) :
    Emitted w (rvdecBtyPair w) layout := by
  unfold rvdecBtyPair at integer ⊢
  split at integer <;> cases integer <;> exact ⟨rfl, nofun, nofun⟩

theorem rvdecUtyPair_emitted (integer : integerLayout (rvdecUtyPair w).insn.insnTy = some layout) :
    Emitted w (rvdecUtyPair w) layout := by
  unfold rvdecUtyPair at integer ⊢
  split at integer <;> cases integer <;> exact ⟨rfl, nofun, nofun⟩

theorem jtyPair_emitted (integer : integerLayout (jtyPair w).insn.insnTy = some layout) :
    Emitted w (jtyPair w) layout := by
  cases integer
  exact ⟨rfl, nofun, nofun⟩

theorem rvdecPair_emitted (emitted : rvdecPair w = .ok (some pair))
    (integer : integerLayout pair.insn.insnTy = some layout) : Emitted w pair layout := by
  unfold rvdecPair at emitted
  split at emitted
  · cases emitted
    exact rvdecRtyPair_emitted integer
  split at emitted
  · obtain ⟨group, ity, same⟩ := map_returned emitted
    cases same
    exact rvdecItyPair_emitted ity integer
  split at emitted
  · cases emitted
    exact rvdecStyPair_emitted integer
  split at emitted
  · cases emitted
    exact rvdecUtyPair_emitted integer
  split at emitted
  · cases emitted
    exact jtyPair_emitted integer
  split at emitted
  · cases emitted
    exact rvdecBtyPair_emitted integer
  · cases emitted

end Formats

def Accepts (w : BitVec 32) (insn : Insn) : Prop :=
  (integerLayout insn.insnTy).isSome ∧ ∃ state after, rvdecInsn state w = .ok (insn, after)

def Distinguished (w w' : BitVec 32) : Prop :=
  ∀ insn insn', Accepts w insn → Accepts w' insn' → used insn ≠ used insn' → rvdecLine w ≠ rvdecLine w'

/-- Two JALRs that differ in nothing printed: `rd` is not. -/
structure SameJalrLine (w w' : BitVec 32) : Prop where
  code : opcode w = 0b1100111#7
  code' : opcode w' = 0b1100111#7
  base : rs1 w = rs1 w'
  offset : iImm11_0 w = iImm11_0 w'
  link : rd w ≠ rd w'

/-- Two stores that differ in nothing printed: `rs2` is not. -/
structure SameStoreLine (w w' : BitVec 32) : Prop where
  code : opcode w = 0b0100011#7
  code' : opcode w' = 0b0100011#7
  op : ∃ op : StoreOp, funct3 w = op.funct3 ∧ funct3 w' = op.funct3
  base : rs1 w = rs1 w'
  high : sImm11_5 w = sImm11_5 w'
  low : sImm4_0 w = sImm4_0 w'
  source : rs2 w ≠ rs2 w'

theorem layoutPair_small (layout : Layout) (w : BitVec 32) : Small (layoutPair layout w).insn := by
  have reg (r : BitVec 5) : (r.setWidth 8).toNat < 32 := by
    rw [BitVec.toNat_setWidth]
    omega
  cases layout <;> constructor <;> first | exact reg _ | exact Nat.zero_lt_succ _

namespace Emitted

variable {w : BitVec 32} {pair : InsnArgspecPair} {layout : Layout}

theorem insn (emitted : Emitted w pair layout) :
    pair.insn = { (layoutPair layout w).insn with insnTy := pair.insn.insnTy } :=
  congrArg InsnArgspecPair.insn emitted.form

theorem spec (emitted : Emitted w pair layout) : pair.argspec = integerArgspec pair.insn.insnTy :=
  congrArg InsnArgspecPair.argspec emitted.form

theorem small (emitted : Emitted w pair layout) : Small pair.insn := by
  obtain ⟨rd, rs1, rs2⟩ := layoutPair_small layout w
  rw [emitted.insn]
  exact ⟨rd, rs1, rs2⟩

end Emitted

theorem rvdecR4ty_fused {state after : RvState} {w : BitVec 32} {insn : Insn}
    (decoded : rvdecR4ty state w = .ok (insn, after)) : integerLayout insn.insnTy = none := by
  unfold rvdecR4ty at decoded
  dsimp only at decoded
  split at decoded <;> cases decoded <;> rfl

theorem Accepts.emitted {w : BitVec 32} {insn : Insn} (accepted : Accepts w insn) :
    ∃ pair layout, pair.insn = insn ∧ integerLayout insn.insnTy = some layout ∧ Emitted w pair layout ∧
      rvdecLine w = (rvasmEmit pair).map some := by
  obtain ⟨integer, state, after, decoded⟩ := accepted
  obtain ⟨layout, found⟩ := Option.isSome_iff_exists.mp integer
  rw [rvdecInsn_pair] at decoded
  obtain ⟨emitted, paired, decoded⟩ := bind_returned decoded
  cases emitted with
  | none =>
    dsimp only at decoded
    split at decoded
    · have none := rvdecR4ty_fused decoded
      rw [none] at found
      cases found
    · cases decoded
      cases found
  | some pair =>
    obtain rfl := rvdecReturn_insn decoded
    refine ⟨pair, layout, rfl, found, rvdecPair_emitted paired found, ?_⟩
    rw [rvdecLine, paired]
    rfl

theorem used_shown (insn : Insn) (integer : (integerLayout insn.insnTy).isSome) (notJalr : insn.insnTy ≠ .jalr)
    (notStore : integerLayout insn.insnTy ≠ some .s) :
    used insn = { shown (integerArgspec insn.insnTy) insn with insnTy := insn.insnTy } := by
  obtain ⟨ty, rd, rs1, rs2, rs3, funct, imm⟩ := insn
  cases ty <;> first | rfl | contradiction

theorem ityPair_imm (w : BitVec 32) : (ityPair w).insn.imm.setWidth 12 = iImm11_0 w := by
  dsimp only [ityPair]
  rw [op_imm]
  exact signExtend_roundTrip _ (by omega)

theorem styPair_imm (w : BitVec 32) : (styPair w).insn.imm.setWidth 12 = sImm11_5 w ++ sImm4_0 w := by
  have eta : sWord (sImm11_5 w ++ sImm4_0 w) (rs2 w) (rs1 w) (funct3 w) (opcode w) = w := sWord_eta w
  have record := styPair_sWord (rs1 w) (rs2 w) (funct3 w) (opcode w) (sImm11_5 w ++ sImm4_0 w)
  rw [eta] at record
  rw [record]
  exact signExtend_roundTrip _ (by omega)

theorem append_fields {high high' : BitVec 7} {low low' : BitVec 5} (same : high ++ low = high' ++ low') :
    high = high' ∧ low = low' := by
  constructor
  · simpa only [BitVec.extractLsb'_append_eq_left] using congrArg (BitVec.extractLsb' 5 7) same
  · simpa only [BitVec.extractLsb'_append_eq_right] using congrArg (BitVec.extractLsb' 0 5) same

section Fields

variable {w w' : BitVec 32} {pair pair' : InsnArgspecPair}

theorem shown_jalr (insn : Insn) :
    shown (integerArgspec .jalr) insn = { rs1 := insn.rs1, rs2 := insn.rs2, imm := insn.imm } := rfl

theorem used_jalr (insn : Insn) (type : insn.insnTy = .jalr) :
    used insn = { insnTy := .jalr, rd := insn.rd, rs1 := insn.rs1, imm := insn.imm } := by
  rw [used, type]
  rfl

theorem jalr_same (emitted : Emitted w pair .i) (emitted' : Emitted w' pair' .i) (jalr : pair.insn.insnTy = .jalr)
    (type : pair.insn.insnTy = pair'.insn.insnTy) (told : shown pair.argspec pair.insn = shown pair.argspec pair'.insn)
    (differ : used pair.insn ≠ used pair'.insn) : SameJalrLine w w' := by
  have jalr' : pair'.insn.insnTy = .jalr := type ▸ jalr
  rw [emitted.spec, jalr, shown_jalr, shown_jalr] at told
  obtain ⟨base, -, imm⟩ : pair.insn.rs1 = pair'.insn.rs1 ∧ pair.insn.rs2 = pair'.insn.rs2 ∧
      pair.insn.imm = pair'.insn.imm := by simpa using told
  have decoded := emitted.insn
  have decoded' := emitted'.insn
  refine ⟨emitted.jalr jalr, emitted'.jalr jalr', ?_, ?_, fun link => differ ?_⟩
  · have regs : (ityPair w).insn.rs1 = (ityPair w').insn.rs1 := by
      rw [decoded, decoded'] at base
      exact base
    simpa [ityPair] using congrArg (BitVec.setWidth 5) regs
  · rw [decoded, decoded'] at imm
    rw [← ityPair_imm, ← ityPair_imm]
    exact congrArg (BitVec.setWidth 12) imm
  · have dest : pair.insn.rd = pair'.insn.rd := by
      rw [decoded, decoded']
      exact congrArg (BitVec.setWidth 8) link
    rw [used_jalr _ jalr, used_jalr _ jalr', dest, base, imm]

theorem store_op (emitted : Emitted w pair .s) (store : integerLayout pair.insn.insnTy = some .s) :
    ∃ op : StoreOp, funct3 w = op.funct3 ∧ pair.insn.insnTy = storeTy op := by
  obtain ⟨-, group⟩ := emitted.store rfl
  have valid : (rvdecSty1 w).insnTy ≠ .invalid := by
    intro invalid
    rw [group] at invalid
    change pair.insn.insnTy = .invalid at invalid
    rw [invalid] at store
    cases store
  obtain ⟨op, f3⟩ := rvdecSty1_inv w valid
  obtain ⟨spec, made, -⟩ := rvdecSty1_store op w f3
  exact ⟨op, f3, congrArg InsnTyArgspecPair.insnTy (group.symm.trans made)⟩

theorem shown_store (op : StoreOp) (insn : Insn) :
    shown (integerArgspec (storeTy op)) insn = { rd := insn.rd, rs1 := insn.rs1, imm := insn.imm } := by
  cases op <;> rfl

theorem used_store (op : StoreOp) (insn : Insn) (type : insn.insnTy = storeTy op) :
    used insn = { insnTy := storeTy op, rs1 := insn.rs1, rs2 := insn.rs2, imm := insn.imm } := by
  rw [used, type]
  cases op <;> rfl

theorem store_same (emitted : Emitted w pair .s) (emitted' : Emitted w' pair' .s)
    (store : integerLayout pair.insn.insnTy = some .s) (type : pair.insn.insnTy = pair'.insn.insnTy)
    (told : shown pair.argspec pair.insn = shown pair.argspec pair'.insn)
    (differ : used pair.insn ≠ used pair'.insn) : SameStoreLine w w' := by
  obtain ⟨op, f3, store_ty⟩ := store_op emitted store
  obtain ⟨op', f3', store_ty'⟩ := store_op emitted' (type ▸ store)
  have ops : op = op' := by
    rw [store_ty, store_ty'] at type
    cases op <;> cases op' <;> first | rfl | cases type
  subst ops
  rw [emitted.spec, store_ty, shown_store, shown_store] at told
  obtain ⟨-, base, imm⟩ : pair.insn.rd = pair'.insn.rd ∧ pair.insn.rs1 = pair'.insn.rs1 ∧
      pair.insn.imm = pair'.insn.imm := by simpa using told
  have decoded := emitted.insn
  have decoded' := emitted'.insn
  have offset : sImm11_5 w ++ sImm4_0 w = sImm11_5 w' ++ sImm4_0 w' := by
    rw [decoded, decoded'] at imm
    rw [← styPair_imm, ← styPair_imm]
    exact congrArg (BitVec.setWidth 12) imm
  refine ⟨(emitted.store rfl).1, (emitted'.store rfl).1, ⟨op, f3, f3'⟩, ?_, ?_, ?_, fun source => differ ?_⟩
  · have regs : (styPair w).insn.rs1 = (styPair w').insn.rs1 := by
      rw [decoded, decoded'] at base
      exact base
    simpa [styPair] using congrArg (BitVec.setWidth 5) regs
  · exact (append_fields offset).1
  · exact (append_fields offset).2
  · have stored : pair.insn.rs2 = pair'.insn.rs2 := by
      rw [decoded, decoded']
      exact congrArg (BitVec.setWidth 8) source
    rw [used_store op _ store_ty, used_store op _ store_ty', base, stored, imm]

end Fields

theorem map_some_inj {printed printed' : Except Abort String} (same : printed.map some = printed'.map some) :
    printed = printed' := by
  cases printed <;> cases printed' <;> cases same <;> rfl

theorem Distinguished.of_told {w w' : BitVec 32} (notJalr : ¬SameJalrLine w w') (notStore : ¬SameStoreLine w w') :
    Distinguished w w' := by
  intro insn insn' accepted accepted' differ same
  obtain ⟨pair, layout, rfl, found, emitted, line⟩ := accepted.emitted
  obtain ⟨pair', layout', rfl, found', emitted', line'⟩ := accepted'.emitted
  have printed : rvasmEmit pair = rvasmEmit pair' := map_some_inj (line.symm.trans (same.trans line'))
  obtain ⟨type, told⟩ := rvasmEmit_inj accepted.1 accepted'.1 emitted.spec emitted'.spec emitted.small
    emitted'.small printed
  obtain rfl : layout = layout' := Option.some.inj (found.symm.trans (type ▸ found'))
  by_cases jalr : pair.insn.insnTy = .jalr
  · obtain rfl : layout = .i := by
      rw [jalr] at found
      exact (Option.some.inj found).symm
    exact notJalr (jalr_same emitted emitted' jalr type told differ)
  by_cases store : layout = .s
  · subst store
    exact notStore (store_same emitted emitted' found type told differ)
  · have others {insn : Insn} (same : pair.insn.insnTy = insn.insnTy) :
        used insn = { shown pair.argspec insn with insnTy := pair.insn.insnTy } := by
      rw [emitted.spec, same]
      refine used_shown insn (same ▸ accepted.1) (same ▸ jalr) fun isStore => store ?_
      rw [← same, found] at isStore
      exact Option.some.inj isStore
    apply differ
    rw [others rfl, others type, told]

section Lines

variable {w w' : BitVec 32}

theorem rvdecLine_jalr (code : opcode w = 0b1100111#7) :
    rvdecLine w = (rvasmEmit ((ityPair w).opCase (rvdecIty1 w))).map some := by
  have emitted : rvdecPair w = .ok (some ((ityPair w).opCase (rvdecIty1 w))) := by
    simp [rvdecPair, insnOpcondR, insnOpcondI, code, rvdecItyPair, Except.map]
  rw [rvdecLine, emitted]
  rfl

theorem rvdecLine_store (code : opcode w = 0b0100011#7) :
    rvdecLine w = (rvasmEmit ((styPair w).opCase (rvdecSty1 w))).map some := by
  have emitted : rvdecPair w = .ok (some ((styPair w).opCase (rvdecSty1 w))) := by
    simp [rvdecPair, insnOpcondR, insnOpcondI, insnOpcondS, code, rvdecStyPair]
  rw [rvdecLine, emitted]
  rfl

theorem accepts_jalr (code : opcode w = 0b1100111#7) : Accepts w ((ityPair w).opCase (rvdecIty1 w)).insn := by
  refine ⟨rfl, rvstateInit {} fun _ => 0, rvstateInit {} fun _ => 0, ?_⟩
  rw [rvdecInsn_jalr code]
  exact rvdecReturn_accepted _ _ rfl rfl

theorem accepts_store (op : StoreOp) (code : opcode w = 0b0100011#7) (f3 : funct3 w = op.funct3) :
    Accepts w ((styPair w).opCase (rvdecSty1 w)).insn := by
  obtain ⟨spec, made, supported⟩ := rvdecSty1_store op w f3
  rw [made]
  refine ⟨by cases op <;> rfl, rvstateInit {} fun _ => 0, rvstateInit {} fun _ => 0, ?_⟩
  rw [rvdecInsn_store code, made]
  exact rvdecReturn_accepted _ _ supported rfl

theorem SameJalrLine.confused (same : SameJalrLine w w') : ¬Distinguished w w' := by
  intro distinguished
  apply distinguished _ _ (accepts_jalr same.code) (accepts_jalr same.code')
  · intro operands
    have dest : (rd w).setWidth 8 = (rd w').setWidth 8 := congrArg Insn.rd operands
    apply same.link
    simpa using congrArg (BitVec.setWidth 5) dest
  · rw [rvdecLine_jalr same.code, rvdecLine_jalr same.code']
    simp [rvasmEmit, InsnArgspecPair.opCase, ityPair, rvdecIty1, makeInsn, same.base, same.offset]

theorem SameStoreLine.confused (same : SameStoreLine w w') : ¬Distinguished w w' := by
  obtain ⟨op, f3, f3'⟩ := same.op
  intro distinguished
  have type {v : BitVec 32} (funct : funct3 v = op.funct3) :
      ((styPair v).opCase (rvdecSty1 v)).insn.insnTy = storeTy op := by
    obtain ⟨spec, made, -⟩ := rvdecSty1_store op v funct
    exact congrArg InsnTyArgspecPair.insnTy made
  apply distinguished _ _ (accepts_store op same.code f3) (accepts_store op same.code' f3')
  · intro operands
    rw [used_store op _ (type f3), used_store op _ (type f3')] at operands
    have stored : (rs2 w).setWidth 8 = (rs2 w').setWidth 8 := congrArg Insn.rs2 operands
    apply same.source
    simpa using congrArg (BitVec.setWidth 5) stored
  · rw [rvdecLine_store same.code, rvdecLine_store same.code']
    cases op <;>
      simp [rvasmEmit, InsnArgspecPair.opCase, styPair, rvdecSty1, f3, f3', StoreOp.funct3, makeInsn, same.base,
        same.high, same.low]

end Lines

theorem rvdecLine_distinguished (w w' : BitVec 32) :
    Distinguished w w' ↔ ¬(SameJalrLine w w' ∨ SameStoreLine w w') := by
  constructor
  · intro distinguished same
    rcases same with jalr | store
    · exact jalr.confused distinguished
    · exact store.confused distinguished
  · intro told
    exact .of_told (fun jalr => told (.inl jalr)) (fun store => told (.inr store))

-- `sw ra, 0(sp)` and `sw gp, 0(sp)` both print `v: SW 0(sp), zero`.
theorem rvdecLine_indistinct : ¬∀ w w', Distinguished w w' := by
  intro all
  have same : SameStoreLine 0x00112023#32 0x00312023#32 :=
    ⟨by decide, by decide, ⟨.sw, by decide⟩, by decide, by decide, by decide, by decide⟩
  exact same.confused (all _ _)

end Urv86t
