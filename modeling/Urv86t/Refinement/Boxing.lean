import Urv86t.Refinement.Transfers

set_option autoImplicit false

namespace Urv86t

open InsnBase Rv32

def canonicalNan : BitVec 32 := 0x7fc00000

def Boxed (v : BitVec 64) : Prop := v.extractLsb' 32 32 = 0xffffffff#32

instance : DecidablePred Boxed := fun _ => inferInstanceAs (Decidable (_ = _))

def single (v : BitVec 64) : BitVec 32 := if Boxed v then v.setWidth 32 else canonicalNan

def Readable (v : BitVec 64) : Prop := Boxed v ∨ v.setWidth 32 = canonicalNan

instance : DecidablePred Readable := fun _ => inferInstanceAs (Decidable (_ ∨ _))

theorem boxed_append (v : BitVec 32) : Boxed (0xffffffff#32 ++ v) := by
  rw [Boxed, BitVec.extractLsb'_append_eq_of_le (Nat.le_refl 32)]
  exact BitVec.extractLsb'_eq_self

theorem append_inj {v w : BitVec 32} (same : 0xffffffff#32 ++ v = 0xffffffff#32 ++ w) : v = w := by
  have low := congrArg (BitVec.setWidth 32) same
  rwa [BitVec.setWidth_append_eq_right, BitVec.setWidth_append_eq_right] at low

theorem readable_iff (v : BitVec 64) : Readable v ↔ unbox v = single v := by
  rw [unbox, unpack_low, single, Readable]
  by_cases boxed : Boxed v <;> simp [boxed]

def singleResult (float : HostFloat) (a b c : BitVec 32) (x : BitVec 32) : Compute → BitVec 32
  | .arith .fadd _ _ => float.add32 a b
  | .arith .fsub _ _ => float.sub32 a b
  | .arith .fmul _ _ => float.mul32 a b
  | .arith .fdiv _ _ => float.div32 a b
  | .sqrt _ _ => float.sqrtf a
  | .sign .fsgnj _ => copysignf a b
  | .sign .fsgnjn _ => copysignf a (neg32 b)
  | .sign .fsgnjx _ => copysignf a (a ^^^ b)
  | .minMax .fmin _ => float.fminf a b
  | .minMax .fmax _ => float.fmaxf a b
  | .compare .feq _ => if float.eq32 a b then 1 else 0
  | .compare .flt _ => if float.lt32 a b then 1 else 0
  | .compare .fle _ => if float.le32 a b then 1 else 0
  | .toInt .w _ _ => float.i32OfF32 a
  | .toInt .wu _ _ => float.u32OfF32 a
  | .ofInt .w _ _ => float.f32OfI32 x
  | .ofInt .wu _ _ => float.f32OfU32 x
  | .fused .fmadd _ _ => float.add32 (float.mul32 a b) c
  | .fused .fmsub _ _ => float.sub32 (float.mul32 a b) c
  | .fused .fnmsub _ _ => float.add32 (float.mul32 (neg32 a) b) c
  | .fused .fnmadd _ _ => float.sub32 (float.mul32 (neg32 a) b) c

def Arrives (next : RvState) (rd : Reg) (val : BitVec 32) : Compute → Prop
  | .compare _ _ | .toInt _ _ _ => rd ≠ 0 → next.regs rd = val
  | _ => next.fregs rd = 0xffffffff#32 ++ val

theorem arrives_float {c : Compute} (agree : FunctIsFmt c) (next : RvState) (rd : Reg) (val : BitVec 32) :
    Arrives next rd val c ↔ next.fregs rd = 0xffffffff#32 ++ val := by
  unfold FunctIsFmt at agree
  split at agree
  · rfl
  · rfl
  · rfl
  · exact agree.elim

def UsesSingle : FloatInstr → Prop
  | .load fmt _ _ _ => fmt = .s
  | .compute c _ _ _ _ => c.fmt = .s
  | .moveOfInt _ _ | .toSingle _ _ _ | .toDouble _ _ _ => True
  | .store _ _ _ _ | .classify _ _ _ | .moveToInt _ _ => False

def Disciplined (float : HostFloat) (state next : RvState) : FloatInstr → Prop
  | .load _ rd _ _ | .moveOfInt rd _ | .toSingle _ rd _ => Boxed (next.fregs rd)
  | .toDouble _ rd rs1 => next.fregs rd = float.f64OfF32 (single (state.fregs rs1))
  | .compute c rd rs1 rs2 rs3 =>
    Arrives next rd
      (singleResult float (single (state.fregs rs1)) (single (state.fregs rs2)) (single (state.fregs rs3))
        ((state.setRegp 0 0).regs rs1) c) c
  | _ => True

/-- Out-of-bounds accesses aside, the call gets past the instruction and leaves a state that is disciplined. -/
def KeepsBoxing (float : HostFloat) (state : RvState) (i : FloatInstr) : Except Abort (Bool × RvState) → Prop
  | .ok (_, next) => Disciplined float state next i
  | .error abort => abort ≠ .unreachable

def floatSources (rs1 rs2 rs3 : Reg) : Compute → List Reg
  | .sqrt _ _ | .toInt _ _ _ => [rs1]
  | .ofInt _ _ _ => []
  | .arith _ _ _ | .sign _ _ | .minMax _ _ | .compare _ _ => [rs1, rs2]
  | .fused _ _ _ => [rs1, rs2, rs3]

def IsCompare : Compute → Prop
  | .compare _ _ => True
  | _ => False

def ReadsBoxed (fregs : Reg → BitVec 64) : FloatInstr → Prop
  | .toDouble _ _ rs1 => Readable (fregs rs1)
  | .compute c rd rs1 rs2 rs3 =>
    FunctIsFmt c ∧ (∀ r ∈ floatSources rs1 rs2 rs3 c, Readable (fregs r)) ∨ IsCompare c ∧ rd = 0
  | _ => True

section Plain

variable (float : HostFloat) (calls : HostCalls) {state : RvState} {access : HostAccess}

theorem rvdecInsn_toSingle (state : RvState) (rm : RoundingMode) (rd rs1 : Reg) :
    rvdecInsn state (FloatInstr.toSingle rm rd rs1).encode =
      .ok ({ insnTy := .fcvtSD, rd := rd.setWidth 8, rs1 := rs1.setWidth 8, rs2 := 1
             funct := (0b0100000#7 ++ rm.bits).setWidth 16 }, state) :=
  rvdecInsn_opFp _ _ _ _ _ (rvdecRty2_toSingle (by simp [funct7]) (by simp [InsnBase.rs2])) rfl

theorem rvdecInsn_toDouble (state : RvState) (rm : RoundingMode) (rd rs1 : Reg) :
    rvdecInsn state (FloatInstr.toDouble rm rd rs1).encode =
      .ok ({ insnTy := .fcvtDS, rd := rd.setWidth 8, rs1 := rs1.setWidth 8, rs2 := 0
             funct := (0b0100001#7 ++ rm.bits).setWidth 16 }, state) :=
  rvdecInsn_opFp _ _ _ _ _ (rvdecRty2_toDouble (by simp [funct7]) (by simp [InsnBase.rs2])) rfl

theorem rvemuStep_toSingle (live : state.suspended = false) (rm : RoundingMode) (rd rs1 : Reg)
    (fetched : rvstateFetch state = .ok ((FloatInstr.toSingle rm rd rs1).encode, access)) :
    ∃ next, rvemuStep float calls state = .ok (true, next) ∧ Boxed (next.fregs rd) := by
  rw [rvemuStep_decoded live fetched (rvdecInsn_toSingle _ rm rd rs1) nofun]
  refine ⟨_, rfl, ?_⟩
  simp only [rvfloatWriteF32, nanbox_append, RvState.setFregp, reg_roundTrip, Function.update_self]
  exact boxed_append _

theorem rvemuStep_toDouble (live : state.suspended = false) (rm : RoundingMode) (rd rs1 : Reg)
    (fetched : rvstateFetch state = .ok ((FloatInstr.toDouble rm rd rs1).encode, access)) :
    ∃ next, rvemuStep float calls state = .ok (true, next) ∧
      next.fregs rd = float.f64OfF32 (unbox (state.fregs rs1)) := by
  rw [rvemuStep_decoded live fetched (rvdecInsn_toDouble _ rm rd rs1) nofun]
  refine ⟨_, rfl, ?_⟩
  simp only [rvfloatWriteF64, rvfloatReadF32_reg, RvState.setFregp, reg_roundTrip, Function.update_self]
  rfl

theorem rvemuStep_floatLoad (live : state.suspended = false) (rd rs1 : Reg) (imm : BitVec 12)
    (fetched : rvstateFetch state = .ok ((FloatInstr.load .s rd rs1 imm).encode, access)) :
    KeepsBoxing float state (.load .s rd rs1 imm) (rvemuStep float calls state) := by
  rw [rvemuStep_decoded live fetched (rvdecInsn_transfer _ (.load .s rd rs1 imm)) (transferInsn_valid _),
    dispatch_floatLoad]
  generalize rvbkptCheckInsn (state.setRegp 0 0) (transferInsn (.load .s rd rs1 imm)) = ready
  generalize place : rvmemReg ready (transferInsn (.load .s rd rs1 imm)).rs1 +
    (transferInsn (.load .s rd rs1 imm)).imm = addr
  by_cases found : ready.mem.Found addr
  · rw [loadArm_found _ _ place found]
    simp only [Except.map, KeepsBoxing, Disciplined, RvState.setFregp, reg_roundTrip, Function.update_self]
    exact boxed_append _
  · rw [loadArm_missed _ _ place found]
    intro reached
    cases reached

theorem rvemuStep_moveOfInt (live : state.suspended = false) (rd rs1 : Reg)
    (fetched : rvstateFetch state = .ok ((FloatInstr.moveOfInt rd rs1).encode, access)) :
    ∃ next, rvemuStep float calls state = .ok (true, next) ∧ Boxed (next.fregs rd) := by
  rw [rvemuStep_decoded live fetched (rvdecInsn_transfer _ (.moveOfInt rd rs1)) (transferInsn_valid _),
    dispatch_moveOfInt]
  refine ⟨_, rfl, ?_⟩
  simp only [RvState.setFregp, reg_roundTrip, Function.update_self]
  exact boxed_append _

end Plain

def fallback (state : RvState) : Compute → Except Abort Dispatched
  | .minMax _ _ | .compare _ _ => .ok { state := state }
  | _ => builtinUnreachable

section Switched

variable {float : HostFloat} {calls : HostCalls} {state : RvState} {rd rs1 rs2 rs3 : Reg}

theorem dispatch_fallback (c : Compute) (notSingle : computeFunct c ≠ fltfuncSingle)
    (notDouble : computeFunct c ≠ fltfuncDouble) :
    rvemuDispatchInsn float calls state (computeInsn rd rs1 rs2 rs3 c) = fallback state c := by
  have funct : (computeInsn rd rs1 rs2 rs3 c).funct = computeFunct c := rfl
  have falls (onSingle onDouble default : Except Abort Dispatched) :
      fltSwitch (computeInsn rd rs1 rs2 rs3 c) onSingle onDouble default = default := by
    rw [fltSwitch, funct, if_neg notSingle, if_neg notDouble]
  cases c with
  | arith op | sign op | minMax op | compare op | toInt op | fused op => cases op <;> exact falls _ _ _
  | sqrt | ofInt => exact falls _ _ _

theorem computeFunct_double (c : Compute) (double : computeFunct c = fltfuncDouble) :
    (∃ fmt rm, c = .arith .fadd fmt rm) ∨ ∃ op fmt rm, c = .fused op fmt rm := by
  cases c with
  | arith op fmt rm =>
    cases op with
    | fadd => exact .inl ⟨fmt, rm, rfl⟩
    | fsub | fmul | fdiv => cases fmt <;> cases rm <;> exact absurd double (by decide)
  | fused op fmt rm => exact .inr ⟨op, fmt, rm, rfl⟩
  | sqrt fmt rm => cases fmt <;> cases rm <;> exact absurd double (by decide)
  | sign op fmt | minMax op fmt | compare op fmt => cases op <;> cases fmt <;> exact absurd double (by decide)
  | toInt ty fmt rm | ofInt ty fmt rm =>
    cases ty <;> cases fmt <;> cases rm <;> exact absurd double (by decide)

variable (calls state) in
theorem dispatch_unboxed (c : Compute) (double : computeFunct c = fltfuncDouble) :
    ∃ arm, rvemuDispatchInsn default calls state (computeInsn rd rs1 rs2 rs3 c) = .ok arm ∧
      arm.state.fregs rd = 0 := by
  rcases computeFunct_double c double with ⟨fmt, rm, rfl⟩ | ⟨op, fmt, rm, rfl⟩
  · rw [(writesFloat_fadd fmt rm).arm, fltArm_double double]
    refine ⟨_, rfl, ?_⟩
    simp [rvfloatWriteF64, RvState.setFregp, computeInsn]
    rfl
  · rw [(writesFloat_fused op fmt rm).arm, fltArm_double double]
    refine ⟨_, rfl, ?_⟩
    simp [rvfloatWriteF64, RvState.setFregp, computeInsn]
    cases op <;> rfl

theorem writesFloat_single (c : Compute) (agree : FunctIsFmt c) (fmt : c.fmt = .s) :
    ∃ double, WritesFloat c
      (fun float o => singleResult float (unbox o.f1) (unbox o.f2) (unbox o.f3) o.x1 c) double := by
  unfold FunctIsFmt at agree
  split at agree
  · exact ⟨_, writesFloat_fadd .s .rdn⟩
  · rename_i op
    cases op <;> exact ⟨_, writesFloat_fused _ .s .rdn⟩
  · cases fmt
  · exact agree.elim

theorem single_of_every {a b c x a' b' c' x' : BitVec 32} (compute : Compute) (agree : FunctIsFmt compute)
    (fmt : compute.fmt = .s)
    (every : ∀ float, singleResult float a b c x compute = singleResult float a' b' c' x' compute) :
    a = a' ∧ b = b' ∧ ∀ op fmt rm, compute = .fused op fmt rm → c = c' := by
  let first : HostFloat :=
    { (default : HostFloat) with add32 := fun a _ => a, sub32 := fun a _ => a, mul32 := fun a _ => a }
  let second : HostFloat := { (default : HostFloat) with add32 := fun _ b => b, mul32 := fun _ b => b }
  let product : HostFloat := { first with mul32 := fun _ b => b }
  let addend : HostFloat := { (default : HostFloat) with add32 := fun _ c => c, sub32 := fun _ c => c }
  have negated {v w : BitVec 32} (same : neg32 v = neg32 w) : v = w := (BitVec.xor_left_inj _).mp same
  unfold FunctIsFmt at agree
  split at agree
  · exact ⟨every first, every second, nofun⟩
  · rename_i op
    cases op with
    | fmadd | fmsub => exact ⟨every first, every product, fun _ _ _ _ => every addend⟩
    | fnmsub | fnmadd => exact ⟨negated (every first), every product, fun _ _ _ _ => every addend⟩
  · cases fmt
  · exact agree.elim

section Step

variable (float calls) (live : state.suspended = false) (c : Compute) {access : HostAccess}
  (fetched : rvstateFetch state = .ok (c.encode rd rs1 rs2 rs3, access))

include live fetched

theorem rvemuStep_compute :
    rvemuStep float calls state =
      (rvemuDispatchInsn float calls
        (rvbkptCheckInsn (state.setRegp 0 0) (computeInsn rd rs1 rs2 rs3 c))
        (computeInsn rd rs1 rs2 rs3 c)).map fun arm =>
          (true, { arm.state with pc := arm.state.pc + arm.pcOffset }) :=
  rvemuStep_decoded live fetched (rvdecInsn_compute _ c rd rs1 rs2 rs3) (computeTy_valid c)

theorem rvemuStep_single (agree : FunctIsFmt c) (fmt : c.fmt = .s) :
    ∃ next, rvemuStep float calls state = .ok (true, next) ∧
      next.fregs rd =
        0xffffffff#32 ++
          singleResult float (unbox (state.fregs rs1)) (unbox (state.fregs rs2)) (unbox (state.fregs rs3))
            ((state.setRegp 0 0).regs rs1) c := by
  obtain ⟨double, writes⟩ := writesFloat_single c agree fmt
  have funct := (computeFunct_fmt_iff c).mpr agree
  rw [fmt] at funct
  rw [rvemuStep_compute float calls live c fetched, writes.arm, fltArm_single funct]
  refine ⟨_, rfl, ?_⟩
  simp only [rvfloatWriteF32, RvState.setFregp, computeInsn, reg_roundTrip, Function.update_self, nanbox_append]
  rfl

theorem rvemuStep_unboxed (double : computeFunct c = fltfuncDouble) :
    ∃ next, rvemuStep default calls state = .ok (true, next) ∧ next.fregs rd = 0 := by
  obtain ⟨arm, ran, zero⟩ :=
    dispatch_unboxed calls (rvbkptCheckInsn (state.setRegp 0 0) (computeInsn rd rs1 rs2 rs3 c)) c double
  rw [rvemuStep_compute default calls live c fetched, ran]
  exact ⟨_, rfl, zero⟩

theorem rvemuStep_fallback (notSingle : computeFunct c ≠ fltfuncSingle)
    (notDouble : computeFunct c ≠ fltfuncDouble) :
    rvemuStep float calls state =
      (fallback (rvbkptCheckInsn (state.setRegp 0 0) (computeInsn rd rs1 rs2 rs3 c)) c).map fun arm =>
        (true, { arm.state with pc := arm.state.pc + arm.pcOffset }) := by
  rw [rvemuStep_compute float calls live c fetched, dispatch_fallback c notSingle notDouble]

theorem rvemuStep_compute_reads (fmt : c.fmt = .s) (reads : ReadsBoxed state.fregs (.compute c rd rs1 rs2 rs3)) :
    KeepsBoxing float state (.compute c rd rs1 rs2 rs3) (rvemuStep float calls state) := by
  rcases reads with ⟨agree, readable⟩ | ⟨compare, zero⟩
  · obtain ⟨next, stepped, result⟩ := rvemuStep_single float calls live c fetched agree fmt
    rw [stepped, KeepsBoxing, Disciplined, arrives_float agree]
    unfold FunctIsFmt at agree
    split at agree
    · have first := (readable_iff _).mp (readable rs1 (by simp [floatSources]))
      have second := (readable_iff _).mp (readable rs2 (by simp [floatSources]))
      rwa [first, second] at result
    · rename_i op
      have first := (readable_iff _).mp (readable rs1 (by simp [floatSources]))
      have second := (readable_iff _).mp (readable rs2 (by simp [floatSources]))
      have third := (readable_iff _).mp (readable rs3 (by simp [floatSources]))
      rwa [first, second, third] at result
    · cases fmt
    · exact agree.elim
  · cases c with
    | compare op fmt =>
      rw [rvemuStep_fallback float calls live _ fetched (by cases op <;> cases fmt <;> decide)
        (by cases op <;> cases fmt <;> decide)]
      exact fun nonzero => absurd zero nonzero
    | arith | sqrt | sign | minMax | toInt | ofInt | fused => exact compare.elim

section Kept

variable (kept : ∀ float calls, KeepsBoxing float state (.compute c rd rs1 rs2 rs3) (rvemuStep float calls state))

include kept

theorem kept_single (agree : FunctIsFmt c) (fmt : c.fmt = .s) :
    ReadsBoxed state.fregs (.compute c rd rs1 rs2 rs3) := by
  have every (float : HostFloat) :
      singleResult float (unbox (state.fregs rs1)) (unbox (state.fregs rs2)) (unbox (state.fregs rs3))
          ((state.setRegp 0 0).regs rs1) c =
        singleResult float (single (state.fregs rs1)) (single (state.fregs rs2)) (single (state.fregs rs3))
          ((state.setRegp 0 0).regs rs1) c := by
    obtain ⟨next, stepped, result⟩ := rvemuStep_single float default live c fetched agree fmt
    have arrives := kept float default
    rw [stepped, KeepsBoxing, Disciplined, arrives_float agree] at arrives
    exact append_inj (result.symm.trans arrives)
  obtain ⟨first, second, third⟩ := single_of_every c agree fmt every
  refine .inl ⟨agree, ?_⟩
  unfold FunctIsFmt at agree
  split at agree
  · simpa [floatSources, readable_iff] using ⟨first, second⟩
  · simpa [floatSources, readable_iff] using ⟨first, second, third _ _ _ rfl⟩
  · cases fmt
  · exact agree.elim

-- The double-precision branch leaves a zero where the box belongs.
theorem kept_not_double : computeFunct c ≠ fltfuncDouble := by
  intro double
  obtain ⟨next, stepped, zero⟩ := rvemuStep_unboxed default live c fetched double
  have arrives := kept default default
  rw [stepped, KeepsBoxing, Disciplined] at arrives
  have boxed : ∃ val : BitVec 32, next.fregs rd = 0xffffffff#32 ++ val := by
    rcases computeFunct_double c double with ⟨_, _, rfl⟩ | ⟨_, _, _, rfl⟩
    · exact ⟨_, arrives⟩
    · exact ⟨_, arrives⟩
  obtain ⟨val, boxed⟩ := boxed
  have contents := boxed_append val
  rw [← boxed, zero] at contents
  exact absurd contents (by decide)

-- What falls out of the inner switch leaves the register alone, whatever the host computes.
theorem kept_fallback (notSingle : computeFunct c ≠ fltfuncSingle) (notDouble : computeFunct c ≠ fltfuncDouble) :
    ReadsBoxed state.fregs (.compute c rd rs1 rs2 rs3) := by
  have fell (float : HostFloat) := kept float default
  simp only [rvemuStep_fallback _ _ live c fetched notSingle notDouble] at fell
  have differ : (0 : BitVec 32) ≠ 1 := by decide
  cases c with
  | compare op fmt =>
    refine .inr ⟨trivial, ?_⟩
    by_contra nonzero
    have no := fell default nonzero
    have yes := fell
      { (default : HostFloat) with eq32 := fun _ _ => true, lt32 := fun _ _ => true, le32 := fun _ _ => true }
      nonzero
    cases op <;> exact differ (no.symm.trans yes)
  | minMax op fmt =>
    have zero := fell default
    have one := fell { (default : HostFloat) with fminf := fun _ _ => 1, fmaxf := fun _ _ => 1 }
    cases op <;> exact (differ (append_inj (zero.symm.trans one))).elim
  | arith | sqrt | sign | toInt | ofInt | fused => exact absurd rfl (fell default)

theorem rvemuStep_compute_kept (fmt : c.fmt = .s) : ReadsBoxed state.fregs (.compute c rd rs1 rs2 rs3) := by
  by_cases agree : FunctIsFmt c
  · exact kept_single live c fetched kept agree fmt
  have notSingle : computeFunct c ≠ fltfuncSingle := by
    have other := mt (computeFunct_fmt_iff c).mp agree
    rwa [fmt] at other
  exact kept_fallback live c fetched kept notSingle (kept_not_double live c fetched kept)

end Kept

end Step

end Switched

theorem rvemuStep_keepsBoxing_iff {state : RvState} {access : HostAccess} (live : state.suspended = false)
    (i : FloatInstr) (uses : UsesSingle i) (fetched : rvstateFetch state = .ok (i.encode, access)) :
    (∀ float calls, KeepsBoxing float state i (rvemuStep float calls state)) ↔ ReadsBoxed state.fregs i := by
  cases i with
  | load fmt rd rs1 imm =>
    cases uses
    exact iff_of_true (fun _ _ => rvemuStep_floatLoad _ _ live rd rs1 imm fetched) trivial
  | moveOfInt rd rs1 =>
    refine iff_of_true (fun float calls => ?_) trivial
    obtain ⟨next, stepped, boxed⟩ := rvemuStep_moveOfInt float calls live rd rs1 fetched
    rwa [stepped]
  | toSingle rm rd rs1 =>
    refine iff_of_true (fun float calls => ?_) trivial
    obtain ⟨next, stepped, boxed⟩ := rvemuStep_toSingle float calls live rm rd rs1 fetched
    rwa [stepped]
  | toDouble rm rd rs1 =>
    have converts (float : HostFloat) (calls : HostCalls) :
        KeepsBoxing float state (.toDouble rm rd rs1) (rvemuStep float calls state) ↔
          float.f64OfF32 (unbox (state.fregs rs1)) = float.f64OfF32 (single (state.fregs rs1)) := by
      obtain ⟨next, stepped, result⟩ :=
        rvemuStep_toDouble float calls live rm rd rs1 fetched
      rw [stepped, KeepsBoxing, Disciplined, result]
    simp only [converts]
    refine ⟨fun every => (readable_iff _).mpr ?_, fun readable float _ => ?_⟩
    · have widened := every { (default : HostFloat) with f64OfF32 := fun a => 0xffffffff#32 ++ a } default
      exact append_inj widened
    · rw [(readable_iff _).mp readable]
  | compute c rd rs1 rs2 rs3 =>
    exact ⟨fun kept => rvemuStep_compute_kept live c fetched kept uses,
      fun reads _ _ => rvemuStep_compute_reads _ _ live c fetched uses reads⟩
  | store | classify | moveToInt => exact uses.elim

def EveryStep (float : HostFloat) (P : RvState → Except Abort (Bool × RvState) → Prop) :
    List HostCalls → RvState → Prop
  | [], _ => True
  | calls :: rest, state =>
    P state (rvemuStep float calls state) ∧
      ∀ running next, rvemuStep float calls state = .ok (running, next) → EveryStep float P rest next

theorem EveryStep.imp {float : HostFloat} {P Q : RvState → Except Abort (Bool × RvState) → Prop}
    (step : ∀ calls state, P state (rvemuStep float calls state) → Q state (rvemuStep float calls state))
    (calls : List HostCalls) (state : RvState) (every : EveryStep float P calls state) :
    EveryStep float Q calls state := by
  induction calls generalizing state with
  | nil => trivial
  | cons call rest ih =>
    refine ⟨step call state every.1, fun running next stepped => ?_⟩
    exact ih next (every.2 running next stepped)

def ExecutesSingle (state : RvState) (P : FloatInstr → Prop) : Prop :=
  state.suspended = false → ∀ i access, UsesSingle i → rvstateFetch state = .ok (i.encode, access) → P i

theorem rvemuSteps_keepBoxing (float : HostFloat) (calls : List HostCalls) (state : RvState)
    (reads : EveryStep float (fun state _ => ExecutesSingle state (ReadsBoxed state.fregs)) calls state) :
    EveryStep float (fun state out => ExecutesSingle state (KeepsBoxing float state · out)) calls state := by
  refine EveryStep.imp ?_ calls state reads
  intro call state reads live i access uses fetched
  exact (rvemuStep_keepsBoxing_iff live i uses fetched).mpr (reads live i access uses fetched) float call

def boxingState (code : List (BitVec 8)) : RvState :=
  rvstateInit
    { loadRegions := [{ vmaBase := 0x100, memBase := 0x5000, szAlloc := 64, szReserved := 64 }]
      entryPoint := 0x100 }
    fun ptr => code.getD (ptr - 0x5000) 0

-- `flw f1, 0x108(x0); fcvt.d.s f2, f1`, and the single 1.0 behind them.
def widenedState : RvState :=
  boxingState [0x87, 0x20, 0x80, 0x10, 0x53, 0x81, 0x00, 0x42, 0x00, 0x00, 0x80, 0x3f]

theorem computeTy_other (c : Compute) : computeTy c ≠ .flx ∧ computeTy c ≠ .fcvtDS := by
  cases c with
  | arith op | sign op | minMax op | compare op | toInt op | fused op => cases op <;> exact ⟨nofun, nofun⟩
  | sqrt | ofInt => exact ⟨nofun, nofun⟩

theorem encode_not_compute {word : Word} {insn : Insn} {state : RvState}
    (decoded : rvdecInsn state word = .ok (insn, state)) (other : ∀ c, computeTy c ≠ insn.insnTy) (c : Compute)
    (rd rs1 rs2 rs3 : Reg) : c.encode rd rs1 rs2 rs3 ≠ word := by
  rintro rfl
  rw [rvdecInsn_compute] at decoded
  cases decoded
  exact other c rfl

theorem reads_of_load {state : RvState} {rd rs1 : Reg} {imm : BitVec 12} {access : HostAccess}
    (fetched : rvstateFetch state = .ok ((Transfer.load .s rd rs1 imm).encode, access)) :
    ExecutesSingle state (ReadsBoxed state.fregs) := by
  intro _ i _ uses again
  rw [fetched] at again
  have same : (Transfer.load .s rd rs1 imm).encode = i.encode := (Prod.mk.inj (Except.ok.inj again)).1
  have decoded := rvdecInsn_transfer state (.load .s rd rs1 imm)
  cases i with
  | load | moveOfInt | toSingle => trivial
  | toDouble rm rd' rs1' =>
    have other := rvdecInsn_toDouble state rm rd' rs1'
    rw [← same] at other
    cases decoded.symm.trans other
  | compute c rd' rs1' rs2' rs3' =>
    exact absurd same.symm (encode_not_compute decoded (fun c => (computeTy_other c).1) c rd' rs1' rs2' rs3')
  | store | classify | moveToInt => exact uses.elim

theorem reads_of_toDouble {state : RvState} {rm : RoundingMode} {rd rs1 : Reg} {access : HostAccess}
    (fetched : rvstateFetch state = .ok ((FloatInstr.toDouble rm rd rs1).encode, access))
    (readable : Readable (state.fregs rs1)) : ExecutesSingle state (ReadsBoxed state.fregs) := by
  intro _ i _ uses again
  rw [fetched] at again
  have same : (FloatInstr.toDouble rm rd rs1).encode = i.encode := (Prod.mk.inj (Except.ok.inj again)).1
  have decoded := rvdecInsn_toDouble state rm rd rs1
  cases i with
  | load | moveOfInt | toSingle => trivial
  | toDouble rm' rd' rs1' =>
    have other := rvdecInsn_toDouble state rm' rd' rs1'
    rw [← same, decoded] at other
    have source := congrArg (fun out => out.map fun out => out.1.rs1.setWidth 5) other
    simp only [Except.map, reg_roundTrip] at source
    rwa [ReadsBoxed, ← Except.ok.inj source]
  | compute c rd' rs1' rs2' rs3' =>
    exact absurd same.symm (encode_not_compute decoded (fun c => (computeTy_other c).2) c rd' rs1' rs2' rs3')
  | store | classify | moveToInt => exact uses.elim

theorem rvemuSteps_keepBoxing_widened :
    ∃ middle after, rvemuStep default default widenedState = .ok (true, middle) ∧
      rvemuStep default default middle = .ok (true, after) ∧
      after.fregs 2 = (default : HostFloat).f64OfF32 0x3f800000 := by
  have load : Transfer.Fetched widenedState.mem.cells (.load .s 1 0 0x108) (hartOf widenedState) := by decide
  have reaches : Transfer.Reaches widenedState.mem.Found (.load .s 1 0 0x108) (hartOf widenedState) := by
    refine ⟨by decide, ?_⟩
    intro a address
    cases address
    decide
  have fetchedLoad := rvstateFetch_transfer reaches.1 load
  obtain ⟨middle, stepped, same, sameMem, live⟩ := rvemuStep_transfer default default rfl load reaches
  have pc : middle.pc = 0x104 := congrArg FloatHart.pc same
  have unchanged (h : FloatHart Nat) : ((Transfer.load .s 1 0 0x108).exec widenedState.mem.cells h).mem = h.mem := rfl
  have host := congrArg FloatHart.mem same
  rw [unchanged, hartOf_mem, hartOf_mem] at host
  have source : (hartOf middle).f 1 = 0xffffffff3f800000 := by
    rw [same]
    decide
  change middle.fregs 1 = 0xffffffff3f800000 at source
  have found : middle.mem.Found middle.pc := by
    rw [sameMem, pc]
    decide
  have word : ByteMemory.load middle.host (middle.mem.cells middle.pc) 4 =
      (FloatInstr.toDouble .rne 2 1).encode := by
    rw [sameMem, pc, host]
    decide
  have fetched := rvstateFetch_word found word
  obtain ⟨after, converted, -⟩ :=
    rvemuStep_toDouble default default live .rne 2 1 fetched
  have every : EveryStep default (fun state _ => ExecutesSingle state (ReadsBoxed state.fregs))
      [default, default] widenedState := by
    refine ⟨reads_of_load fetchedLoad, ?_⟩
    intro running next again
    rw [stepped] at again
    cases again
    exact ⟨reads_of_toDouble fetched (by rw [source]; decide), fun _ _ _ => trivial⟩
  have kept := ((rvemuSteps_keepBoxing default [default, default] widenedState every).2 true middle stepped).1
    live (.toDouble .rne 2 1) _ trivial fetched
  rw [converted, KeepsBoxing, Disciplined, source] at kept
  exact ⟨middle, after, stepped, converted, kept⟩

-- `fcvt.d.s f2, f1` with the zero that is in every register at first.
def zeroedState : RvState := boxingState [0x53, 0x81, 0x00, 0x42]

-- `fadd.s f2, f1, f1`, rounding up.
def roundedUpState : RvState := boxingState [0x53, 0xb1, 0x10, 0x00]

theorem rvemuSteps_unboxed :
    (∃ next, rvemuStep { (default : HostFloat) with f64OfF32 := fun a => a.setWidth 64 } default zeroedState =
        .ok (true, next) ∧ next.fregs 2 = 0) ∧
      (∃ next, rvemuStep default default roundedUpState = .ok (true, next) ∧ ¬Boxed (next.fregs 2)) ∧
        ¬∀ float calls state,
          EveryStep float (fun state out => ExecutesSingle state (KeepsBoxing float state · out)) calls state := by
  have fetched : rvstateFetch zeroedState = .ok ((FloatInstr.toDouble .rne 2 1).encode, _) :=
    rvstateFetch_word (by decide) (by decide)
  have fetchedUp : rvstateFetch roundedUpState = .ok ((Compute.arith .fadd .s .rup).encode 2 1 1 0, _) :=
    rvstateFetch_word (by decide) (by decide)
  obtain ⟨next, stepped, zero⟩ :=
    rvemuStep_unboxed default rfl (.arith .fadd .s .rup) fetchedUp (by decide)
  have unboxed : ¬Boxed (next.fregs 2) := by
    rw [zero]
    decide
  obtain ⟨converted, ran, result⟩ :=
    rvemuStep_toDouble { (default : HostFloat) with f64OfF32 := fun a => a.setWidth 64 } default rfl .rne 2 1 fetched
  refine ⟨⟨converted, ran, result.trans (by decide)⟩, ⟨next, stepped, unboxed⟩, ?_⟩
  intro every
  have kept := (every default [default] roundedUpState).1 rfl (.compute (.arith .fadd .s .rup) 2 1 1 0) _ rfl fetchedUp
  rw [stepped, KeepsBoxing, Disciplined] at kept
  change next.fregs 2 = 0xffffffff#32 ++ _ at kept
  exact unboxed (kept ▸ boxed_append _)

end Urv86t
