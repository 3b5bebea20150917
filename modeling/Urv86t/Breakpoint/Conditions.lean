import Urv86t.Breakpoint.Slots

set_option autoImplicit false

namespace Urv86t

def MaskEq {n : Nat} (mask a b : BitVec n) : Prop := ∀ bit, mask.getLsbD bit = true → a.getLsbD bit = b.getLsbD bit

theorem chkCondMask_iff {n : Nat} (mask insn comp : BitVec n) :
    chkCondMask mask insn comp = true ↔ MaskEq mask insn comp := by
  rw [chkCondMask, beq_iff_eq]
  constructor
  · intro masked bit selected
    have equal := congrArg (·.getLsbD bit) masked
    simpa [selected, eq_comm] using equal
  · intro masked
    apply BitVec.eq_of_getLsbD_eq
    intro bit _
    cases selected : mask.getLsbD bit with
    | false => simp [selected]
    | true => simp [selected, masked bit selected]

def RvbkptComparator.Compares : RvbkptComparator → Int → Int → Prop
  | .none, _, _ => True
  | .gt, pc, val => val < pc
  | .lt, pc, val => pc < val
  | .eq, pc, val => pc = val

def reading (sign : Bool) (word : BitVec 32) : Int := if sign then word.toInt else word.toNat

namespace RvbkptEvRegcond

def Specified (cond : RvbkptEvRegcond) : Prop := cond.comp ≠ .none

def Holds (cond : RvbkptEvRegcond) (pc : BitVec 32) : Prop :=
  cond.comp.Compares (reading cond.sign pc) (reading cond.sign cond.val)

end RvbkptEvRegcond

namespace RvbkptEvInsncond

def Specified (cond : RvbkptEvInsncond) : Prop := cond.insnComp.insnTy ≠ .invalid

structure Holds (cond : RvbkptEvInsncond) (insn : Insn) : Prop where
  insnTy : insn.insnTy = cond.insnComp.insnTy
  rd : MaskEq cond.insnMask.rd insn.rd cond.insnComp.rd
  rs1 : MaskEq cond.insnMask.rs1 insn.rs1 cond.insnComp.rs1
  rs2 : MaskEq cond.insnMask.rs2 insn.rs2 cond.insnComp.rs2
  funct : MaskEq cond.insnMask.funct insn.funct cond.insnComp.funct
  imm : MaskEq cond.insnMask.imm insn.imm cond.insnComp.imm

theorem rvbkptInsnMatch_iff (cond : RvbkptEvInsncond) (insn : Insn) :
    rvbkptInsnMatch cond insn = true ↔ cond.Holds insn := by
  simp only [rvbkptInsnMatch, Bool.and_eq_true, beq_iff_eq, chkCondMask_iff]
  constructor
  · rintro ⟨⟨⟨⟨⟨insnTy, rd⟩, rs1⟩, rs2⟩, funct⟩, imm⟩
    exact ⟨insnTy.symm, rd, rs1, rs2, funct, imm⟩
  · rintro ⟨insnTy, rd, rs1, rs2, funct, imm⟩
    exact ⟨⟨⟨⟨⟨insnTy.symm, rd⟩, rs1⟩, rs2⟩, funct⟩, imm⟩

end RvbkptEvInsncond

namespace RvbkptEv

variable (ev : RvbkptEv) (pc : BitVec 32) (insn : Insn)

structure Fires : Prop where
  restricted : ev.insnCond.Specified ∨ ev.pcCond.Specified
  insnHolds : ev.insnCond.Specified → ev.insnCond.Holds insn
  pcHolds : ev.pcCond.Specified → ev.pcCond.Holds pc

/-- The pc condition holds and takes the place of an instruction condition that does not. -/
structure Overrides : Prop where
  insnSpecified : ev.insnCond.Specified
  insnFails : ¬ev.insnCond.Holds insn
  pcSpecified : ev.pcCond.Specified
  pcHolds : ev.pcCond.Holds pc

theorem hits_of_pc (specified : ev.pcCond.Specified) : ev.hits pc insn = true ↔ ev.pcCond.Holds pc := by
  obtain ⟨⟨val, comp, sign⟩, insnCond, oneShot, active, triggered⟩ := ev
  cases comp with
  | none => exact absurd rfl specified
  | gt | lt =>
    cases sign <;> simp [hits, RvbkptEvRegcond.Holds, RvbkptComparator.Compares, reading]
  | eq =>
    cases sign with
    | false => exact decide_eq_true_iff.trans (BitVec.toNat_inj.symm.trans Int.natCast_inj.symm)
    | true => exact decide_eq_true_iff.trans BitVec.toInt_inj.symm

theorem hits_of_insn (unspecified : ¬ev.pcCond.Specified) :
    ev.hits pc insn = true ↔ ev.insnCond.Specified ∧ ev.insnCond.Holds insn := by
  obtain ⟨⟨val, comp, sign⟩, insnCond, oneShot, active, triggered⟩ := ev
  have absent : comp = .none := not_not.mp unspecified
  subst absent
  simp [hits, RvbkptEvInsncond.Specified, RvbkptEvInsncond.rvbkptInsnMatch_iff]

theorem hits_iff_fires : (ev.hits pc insn = true ↔ ev.Fires pc insn) ↔ ¬ev.Overrides pc insn := by
  by_cases specified : ev.pcCond.Specified
  · have decided := ev.hits_of_pc pc insn specified
    constructor
    · intro exactly overrides
      have fires := exactly.mp (decided.mpr overrides.pcHolds)
      exact overrides.insnFails (fires.insnHolds overrides.insnSpecified)
    · intro kept
      constructor
      · intro hit
        have pcHolds := decided.mp hit
        refine ⟨.inr specified, fun named => ?_, fun _ => pcHolds⟩
        by_contra fails
        exact kept ⟨named, fails, specified, pcHolds⟩
      · intro fires
        exact decided.mpr (fires.pcHolds specified)
  · have decided := ev.hits_of_insn pc insn specified
    have kept : ¬ev.Overrides pc insn := fun overrides => specified overrides.pcSpecified
    refine iff_of_true ?_ kept
    rw [decided]
    constructor
    · rintro ⟨named, holds⟩
      exact ⟨.inl named, fun _ => holds, fun present => absurd present specified⟩
    · rintro ⟨restricted, insnHolds, -⟩
      have named := restricted.resolve_right specified
      exact ⟨named, insnHolds named⟩

end RvbkptEv

theorem rvbkptCheckInsn_fires_iff (state : RvState) (insn : Insn) (evIdx : Fin maxBkpt)
    (active : (state.bkptEvArr evIdx).active = true) (clear : (state.bkptEvArr evIdx).triggered = false) :
    (((rvbkptCheckInsn state insn).bkptEvArr evIdx).triggered = true ↔
        (state.bkptEvArr evIdx).Fires state.pc insn) ↔
      ¬(state.bkptEvArr evIdx).Overrides state.pc insn := by
  have checked : ((rvbkptCheckInsn state insn).bkptEvArr evIdx).triggered =
      (state.bkptEvArr evIdx).hits state.pc insn := by
    rw [rvbkptCheckInsn_slot]
    simp [RvbkptEv.checked, active, clear]
  rw [checked]
  exact RvbkptEv.hits_iff_fires _ _ _

def rangedBkpt : RvbkptEv where
  pcCond := { val := 4096, comp := .lt }
  insnCond := { insnComp := { insnTy := .add } }
  active := true

def rangedState : RvState := (rvstateInit {} (fun _ => 0)).withTable fun _ => rangedBkpt

theorem rvbkptCheckInsn_fires_ranged :
    (rangedState.bkptEvArr 0).active = true ∧ (rangedState.bkptEvArr 0).triggered = false ∧
      ((((rvbkptCheckInsn rangedState { insnTy := .add }).bkptEvArr 0).triggered = true ↔
          (rangedState.bkptEvArr 0).Fires rangedState.pc { insnTy := .add }) ↔
        ¬(rangedState.bkptEvArr 0).Overrides rangedState.pc { insnTy := .add }) :=
  ⟨rfl, rfl, rvbkptCheckInsn_fires_iff rangedState { insnTy := .add } 0 rfl rfl⟩

theorem rvbkptCheckInsn_overridden :
    (rangedState.bkptEvArr 0).active = true ∧ (rangedState.bkptEvArr 0).triggered = false ∧
      ((rvbkptCheckInsn rangedState { insnTy := .sub }).bkptEvArr 0).triggered = true ∧
      ¬(rangedState.bkptEvArr 0).Fires rangedState.pc { insnTy := .sub } := by
  refine ⟨rfl, rfl, by decide, fun fires => ?_⟩
  have named : (rangedState.bkptEvArr 0).insnCond.Specified := by simp [rangedState, rangedBkpt,
    RvState.withTable, RvbkptEvInsncond.Specified]
  have same := (fires.insnHolds named).insnTy
  cases same

end Urv86t
