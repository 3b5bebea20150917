import Urv86t.Decoder.Totality
import Urv86t.Memory.Confinement
import Urv86t.Memory.Touches

set_option autoImplicit false

namespace Urv86t

open InsnBase

theorem rvdecInsn_aborts_iff (state : RvState) (w : BitVec 32) (abort : Abort) :
    rvdecInsn state w = .error abort ↔
      SlliReserved w ∧ abort = .unreachable ∨
        CsrWord w ∧ abort = .fatal "unsupported CSR representation\n" := by
  have slli : SlliReserved w → rvdecInsn state w = .error .unreachable := by
    rintro ⟨code, f3, f7⟩
    rw [rvdecInsn_arith code, rvdecIty3_reserved w f3 f7]
    rfl
  have csr : CsrWord w → rvdecInsn state w = .error (.fatal "unsupported CSR representation\n") := by
    rintro ⟨code, allowed⟩
    rw [rvdecInsn_env code]
    exact rvdecReturn_fatal state _ ((rvdecIty5_isCsr w).mpr allowed)
  constructor
  · intro failed
    have listed : SlliReserved w ∨ CsrWord w := by
      by_contra neither
      obtain ⟨insn, after, decoded⟩ := (rvdecInsn_returns_iff state w).mpr neither
      rw [decoded] at failed
      cases failed
    rcases listed with reserved | word
    · rw [slli reserved] at failed
      cases failed
      exact .inl ⟨reserved, rfl⟩
    · rw [csr word] at failed
      cases failed
      exact .inr ⟨word, rfl⟩
  · rintro (⟨reserved, rfl⟩ | ⟨word, rfl⟩)
    · exact slli reserved
    · exact csr word

def outOfBounds : Abort := .fatal "tried to access out of bounds\n"

/-- The types with an inner switch whose default is not to be reached. -/
def precisionTypes : List EInsn :=
  [.flx, .fsx, .faddx, .fsubx, .fmulx, .fdivx, .fmaddx, .fmsubx, .fnmsubx, .fnmaddx, .fsqrtx, .fsgnjx, .fsgnjnx,
    .fsgnjxx, .fcvtXW, .fcvtXWu, .fcvtWX, .fcvtWuX]

inductive Crash (state : RvState) (insn : Insn) : Abort → Prop where
  | data {len : Nat} (accesses : dataLen insn = some len)
      (unmapped : state.mem.backing (rvmemReg state insn.rs1 + insn.imm) = none) : Crash state insn outOfBounds
  | buffer (ty : insn.insnTy = .ecall) (number : (state.regs 17).toNat ∈ [63, 64, 80])
      (unmapped : state.mem.backing (state.regs 11) = none) : Crash state insn outOfBounds
  | heapless (ty : insn.insnTy = .ecall) (number : (state.regs 17).toNat = 214)
      (missing : elfGetRegionByTag regionTagHeap state.mem.loadRegions = none) : Crash state insn .nullDereference
  | zero (ty : insn.insnTy ∈ [.div, .divu, .rem, .remu]) (divisor : rvmemReg state insn.rs2 = 0) :
      Crash state insn .divisionTrap
  | overflow (ty : insn.insnTy ∈ [.div, .rem]) (dividend : rvmemReg state insn.rs1 = BitVec.intMin 32)
      (divisor : rvmemReg state insn.rs2 = -1) : Crash state insn .divisionTrap
  | precision (ty : insn.insnTy ∈ precisionTypes) (single : insn.funct ≠ fltfuncSingle)
      (double : insn.funct ≠ fltfuncDouble) : Crash state insn .unreachable

section Arms

variable {state : RvState} {insn : Insn}

def Crashes (state : RvState) (insn : Insn) (result : Except Abort Dispatched) : Prop :=
  ∀ abort, result = .error abort → Crash state insn abort

theorem crashes_ok (arm : Dispatched) : Crashes state insn (.ok arm) := by
  rintro abort ⟨⟩

theorem crashes_branchArm (taken : Bool) : Crashes state insn (branchArm state insn taken) := by
  cases taken <;> exact crashes_ok _

theorem crashes_rvmemAt {addr : BitVec 32} {rest : Nat → Except Abort Dispatched}
    (unmapped : state.mem.backing addr = none → Crash state insn outOfBounds)
    (returns : ∀ ptr, ∃ arm, rest ptr = .ok arm) : Crashes state insn (rvmemAt state addr >>= rest) := by
  intro abort failed
  cases found : state.mem.backing addr with
  | none =>
    simp only [rvmemAt_missed found] at failed
    cases failed
    exact unmapped found
  | some ptr =>
    obtain ⟨arm, returned⟩ := returns ptr
    simp only [rvmemAt_found found, bind, Except.bind, returned] at failed
    cases failed

theorem crashes_loadArm {len : Nat} (assign : BitVec (8 * len) → RvState) (accesses : dataLen insn = some len) :
    Crashes state insn (loadArm state insn len assign) :=
  crashes_rvmemAt (.data accesses) fun _ => ⟨_, rfl⟩

theorem crashes_storeArm {len : Nat} (val : BitVec (8 * len)) (accesses : dataLen insn = some len) :
    Crashes state insn (storeArm state insn len val) :=
  crashes_rvmemAt (.data accesses) fun _ => ⟨_, rfl⟩

theorem crashes_fltSwitch {single double default : Except Abort Dispatched}
    (onSingle : insn.funct = fltfuncSingle → Crashes state insn single)
    (onDouble : insn.funct = fltfuncDouble → Crashes state insn double)
    (onDefault : insn.funct ≠ fltfuncSingle → insn.funct ≠ fltfuncDouble → Crashes state insn default) :
    Crashes state insn (fltSwitch insn single double default) := by
  intro abort failed
  by_cases isSingle : insn.funct = fltfuncSingle
  · rw [fltSwitch_single insn isSingle] at failed
    cases single with
    | error _ =>
      cases failed
      exact onSingle isSingle _ rfl
    | ok arm => cases failed
  by_cases isDouble : insn.funct = fltfuncDouble
  · rw [fltSwitch_double insn isDouble] at failed
    cases double with
    | error _ =>
      cases failed
      exact onDouble isDouble _ rfl
    | ok arm => cases failed
  · rw [fltSwitch, if_neg isSingle, if_neg isDouble] at failed
    exact onDefault isSingle isDouble abort failed

theorem crashes_unreachable (ty : insn.insnTy ∈ precisionTypes) (single : insn.funct ≠ fltfuncSingle)
    (double : insn.funct ≠ fltfuncDouble) : Crashes state insn builtinUnreachable := by
  rintro abort ⟨⟩
  exact .precision ty single double

theorem crashes_fltArm (single : BitVec 32) (double : BitVec 64) (ty : insn.insnTy ∈ precisionTypes) :
    Crashes state insn (fltArm state insn single double builtinUnreachable) :=
  crashes_fltSwitch (fun _ => crashes_ok _) (fun _ => crashes_ok _) (crashes_unreachable ty)

theorem crashes_division {trap : Prop} [Decidable trap] (val : BitVec 32)
    (trapped : trap → Crash state insn .divisionTrap) :
    Crashes state insn (if trap then .error .divisionTrap else writeRd state insn val) := by
  intro abort failed
  by_cases holds : trap
  · rw [if_pos holds] at failed
    cases failed
    exact trapped holds
  · rw [if_neg holds] at failed
    cases failed

theorem crashes_signed (ty : insn.insnTy ∈ [.div, .rem])
    (trapped : rvmemReg state insn.rs2 = 0 ∨
      rvmemReg state insn.rs1 = BitVec.intMin 32 ∧ rvmemReg state insn.rs2 = -1) :
    Crash state insn .divisionTrap := by
  rcases trapped with zero | ⟨dividend, divisor⟩
  · refine .zero ?_ zero
    simp only [List.mem_cons, List.not_mem_nil, or_false] at ty ⊢
    tauto
  · exact .overflow ty dividend divisor

theorem crashes_rvemuDispatchSyscall (calls : HostCalls) (ty : insn.insnTy = .ecall) :
    Crashes state insn (rvemuDispatchSyscall calls state) := by
  simp only [rvemuDispatchSyscall]
  split
  next number => exact crashes_rvmemAt (.buffer ty (by rw [number]; decide)) fun _ => ⟨_, rfl⟩
  next number => exact crashes_rvmemAt (.buffer ty (by rw [number]; decide)) fun _ => ⟨_, rfl⟩
  next => exact crashes_ok _
  next number => exact crashes_rvmemAt (.buffer ty (by rw [number]; decide)) fun _ => ⟨_, rfl⟩
  next number =>
    intro abort failed
    cases found : elfGetRegionByTag regionTagHeap state.mem.loadRegions with
    | none =>
      simp only [rvsyscBrk, found] at failed
      cases failed
      exact .heapless ty number found
    | some split =>
      simp only [rvsyscBrk, found] at failed
      split at failed
      · cases failed
      · split at failed <;> cases failed
  next => exact crashes_ok _

theorem rvemuDispatchInsn_crashes (float : HostFloat) (calls : HostCalls) (valid : insn.insnTy ≠ .invalid) :
    Crashes state insn (rvemuDispatchInsn float calls state insn) := by
  have single : insn.funct = fltfuncSingle → ∀ left right, switchLen insn left right = left :=
    fun funct _ _ => if_pos funct
  have double : insn.funct = fltfuncDouble → ∀ left right, switchLen insn left right = right := by
    intro funct left right
    have other : insn.funct ≠ fltfuncSingle := by
      rw [funct]
      decide
    rw [switchLen, if_neg other, if_pos funct]
  cases ty : insn.insnTy <;> simp only [rvemuDispatchInsn, ty]
  case invalid => exact absurd ty valid
  case ecall => exact crashes_rvemuDispatchSyscall calls ty
  case lb | lh | lw | lbu | lhu => exact crashes_loadArm _ (by rw [dataLen, ty])
  case sb | sh | sw => exact crashes_storeArm _ (by rw [dataLen, ty])
  case beq | bne | blt | bge | bltu | bgeu => exact crashes_branchArm _
  case div | rem => exact crashes_division _ (crashes_signed (by rw [ty]; decide))
  case divu | remu => exact crashes_division _ (.zero (by rw [ty]; decide))
  case flx =>
    have length : dataLen insn = switchLen insn (some 4) (some 8) := by rw [dataLen, ty]
    exact crashes_fltSwitch (fun funct => crashes_loadArm _ (length.trans (single funct _ _)))
      (fun funct => crashes_loadArm _ (length.trans (double funct _ _))) (crashes_unreachable (by rw [ty]; decide))
  case fsx =>
    have length : dataLen insn = switchLen insn (some 4) (some 8) := by rw [dataLen, ty]
    exact crashes_fltSwitch (fun funct => crashes_storeArm _ (length.trans (single funct _ _)))
      (fun funct => crashes_storeArm _ (length.trans (double funct _ _))) (crashes_unreachable (by rw [ty]; decide))
  case fminx | fmaxx | feqx | fltx | flex =>
    exact crashes_fltSwitch (fun _ => crashes_ok _) (fun _ => crashes_ok _) fun _ _ => crashes_ok _
  case fcvtWX | fcvtWuX =>
    exact crashes_fltSwitch (fun _ => crashes_ok _) (fun _ => crashes_ok _) (crashes_unreachable (by rw [ty]; decide))
  case faddx | fsubx | fmulx | fdivx | fmaddx | fmsubx | fnmsubx | fnmaddx | fsqrtx | fsgnjx | fsgnjnx | fsgnjxx
      | fcvtXW | fcvtXWu => exact crashes_fltArm _ _ (by rw [ty]; decide)
  all_goals exact crashes_ok _

theorem rvmemAt_unmapped {addr : BitVec 32} (unmapped : state.mem.backing addr = none)
    (rest : Nat → Except Abort Dispatched) : (rvmemAt state addr >>= rest) = .error outOfBounds := by
  rw [rvmemAt_missed unmapped]
  rfl

theorem fltSwitch_unmapped {single double len : Nat} {onSingle onDouble : Except Abort Dispatched}
    (default : Except Abort Dispatched) (atSingle : onSingle = .error outOfBounds)
    (atDouble : onDouble = .error outOfBounds) (accesses : switchLen insn (some single) (some double) = some len) :
    fltSwitch insn onSingle onDouble default = .error outOfBounds := by
  by_cases isSingle : insn.funct = fltfuncSingle
  · rw [fltSwitch_single insn isSingle, atSingle]
    rfl
  by_cases isDouble : insn.funct = fltfuncDouble
  · rw [fltSwitch_double insn isDouble, atDouble]
    rfl
  · rw [switchLen, if_neg isSingle, if_neg isDouble] at accesses
    cases accesses

theorem fltSwitch_default {single double : Except Abort Dispatched} (default : Except Abort Dispatched)
    (isSingle : insn.funct ≠ fltfuncSingle) (isDouble : insn.funct ≠ fltfuncDouble) :
    fltSwitch insn single double default = default := by
  rw [fltSwitch, if_neg isSingle, if_neg isDouble]

theorem rvemuDispatchSyscall_unmapped (calls : HostCalls) (number : (state.regs 17).toNat ∈ [63, 64, 80])
    (unmapped : state.mem.backing (state.regs 11) = none) :
    rvemuDispatchSyscall calls state = .error outOfBounds := by
  simp only [List.mem_cons, List.not_mem_nil, or_false] at number
  rcases number with read | write | fstat
  · simp only [rvemuDispatchSyscall, read]
    exact rvmemAt_unmapped unmapped _
  · simp only [rvemuDispatchSyscall, write]
    exact rvmemAt_unmapped unmapped _
  · simp only [rvemuDispatchSyscall, fstat]
    exact rvmemAt_unmapped unmapped _

theorem rvemuDispatchInsn_data (float : HostFloat) (calls : HostCalls) {len : Nat}
    (accesses : dataLen insn = some len)
    (unmapped : state.mem.backing (rvmemReg state insn.rs1 + insn.imm) = none) :
    rvemuDispatchInsn float calls state insn = .error outOfBounds := by
  unfold dataLen at accesses
  split at accesses
  case h_11 => cases accesses
  all_goals simp only [rvemuDispatchInsn, ‹insn.insnTy = _›]
  case h_9 | h_10 =>
    exact fltSwitch_unmapped _ (rvmemAt_unmapped unmapped _) (rvmemAt_unmapped unmapped _) accesses
  all_goals exact rvmemAt_unmapped unmapped _

theorem rvemuDispatchInsn_zero (float : HostFloat) (calls : HostCalls) (ty : insn.insnTy ∈ [.div, .divu, .rem, .remu])
    (divisor : rvmemReg state insn.rs2 = 0) : rvemuDispatchInsn float calls state insn = .error .divisionTrap := by
  simp only [List.mem_cons, List.not_mem_nil, or_false] at ty
  rcases ty with ty | ty | ty | ty <;> simp only [rvemuDispatchInsn, ty]
  · exact if_pos (.inl divisor)
  · exact if_pos divisor
  · exact if_pos (.inl divisor)
  · exact if_pos divisor

theorem rvemuDispatchInsn_overflow (float : HostFloat) (calls : HostCalls) (ty : insn.insnTy ∈ [.div, .rem])
    (dividend : rvmemReg state insn.rs1 = BitVec.intMin 32) (divisor : rvmemReg state insn.rs2 = -1) :
    rvemuDispatchInsn float calls state insn = .error .divisionTrap := by
  simp only [List.mem_cons, List.not_mem_nil, or_false] at ty
  rcases ty with ty | ty <;> simp only [rvemuDispatchInsn, ty]
  · exact if_pos (.inr ⟨dividend, divisor⟩)
  · exact if_pos (.inr ⟨dividend, divisor⟩)

theorem rvemuDispatchInsn_precision (float : HostFloat) (calls : HostCalls) (ty : insn.insnTy ∈ precisionTypes)
    (single : insn.funct ≠ fltfuncSingle) (double : insn.funct ≠ fltfuncDouble) :
    rvemuDispatchInsn float calls state insn = .error .unreachable := by
  cases is : insn.insnTy <;> rw [is] at ty <;> try cases (by decide : ¬_) ty
  all_goals simp only [rvemuDispatchInsn, is]
  all_goals exact fltSwitch_default _ single double

theorem rvemuDispatchInsn_aborts_iff (float : HostFloat) (calls : HostCalls) (valid : insn.insnTy ≠ .invalid)
    (abort : Abort) : rvemuDispatchInsn float calls state insn = .error abort ↔ Crash state insn abort := by
  refine ⟨rvemuDispatchInsn_crashes float calls valid abort, fun crash => ?_⟩
  cases crash with
  | data accesses unmapped => exact rvemuDispatchInsn_data float calls accesses unmapped
  | buffer ty number unmapped =>
    simp only [rvemuDispatchInsn, ty]
    exact rvemuDispatchSyscall_unmapped calls number unmapped
  | heapless ty number missing =>
    simp only [rvemuDispatchInsn, ty, rvemuDispatchSyscall, number, rvsyscBrk, missing]
    rfl
  | zero ty divisor => exact rvemuDispatchInsn_zero float calls ty divisor
  | overflow ty dividend divisor => exact rvemuDispatchInsn_overflow float calls ty dividend divisor
  | precision ty single double => exact rvemuDispatchInsn_precision float calls ty single double

end Arms

inductive StepCrash (state : RvState) : Abort → Prop where
  | fetch (unmapped : state.mem.backing state.pc = none) : StepCrash state (.fatal "PC-fetch out of bounds\n")
  | shift {word : BitVec 32} {fetched : HostAccess} (read : rvstateFetch state = .ok (word, fetched))
      (reserved : SlliReserved word) : StepCrash state .unreachable
  | csr {word : BitVec 32} {fetched : HostAccess} (read : rvstateFetch state = .ok (word, fetched))
      (isCsr : CsrWord word) : StepCrash state (.fatal "unsupported CSR representation\n")
  | execute {word : BitVec 32} {fetched : HostAccess} {insn : Insn} {after : RvState} {abort : Abort}
      (read : rvstateFetch state = .ok (word, fetched))
      (decoded : rvdecInsn (state.setRegp 0 0) word = .ok (insn, after)) (valid : insn.insnTy ≠ .invalid)
      (crash : Crash after insn abort) : StepCrash state abort

section Runs

variable (float : HostFloat) {state : RvState}

theorem crash_checked {insn : Insn} {abort : Abort} :
    Crash (rvbkptCheckInsn state insn) insn abort ↔ Crash state insn abort := by
  constructor <;> intro crash
  all_goals cases crash with
  | data accesses unmapped => exact .data accesses unmapped
  | buffer ty number unmapped => exact .buffer ty number unmapped
  | heapless ty number missing => exact .heapless ty number missing
  | zero ty divisor => exact .zero ty divisor
  | overflow ty dividend divisor => exact .overflow ty dividend divisor
  | precision ty single double => exact .precision ty single double

theorem rvemuDispatch_aborts_iff (calls : HostCalls) {insn : Insn} (valid : insn.insnTy ≠ .invalid) (abort : Abort) :
    rvemuDispatch float calls state insn = .error abort ↔ Crash state insn abort := by
  rw [← crash_checked, ← rvemuDispatchInsn_aborts_iff float calls valid, rvemuDispatch]
  cases rvemuDispatchInsn float calls (rvbkptCheckInsn state insn) insn with
  | error inner => exact Iff.rfl
  | ok arm => exact ⟨fun failed => (by cases failed), fun failed => (by cases failed)⟩

theorem StepCrash.aborts {abort : Abort} (crash : StepCrash state abort) (live : state.suspended = false)
    (calls : HostCalls) : rvemuStep float calls state = .error abort := by
  have running : ¬state.suspended = true := by
    rw [live]
    decide
  have again : rvstateFetch (state.setRegp 0 0) = rvstateFetch state := rfl
  rw [rvemuStep, rvemuStepOut, if_neg running]
  cases crash with
  | fetch unmapped =>
    simp only [again, rvstateFetch_missed unmapped]
  | shift read reserved =>
    simp only [again, read, (rvdecInsn_aborts_iff _ _ _).mpr (.inl ⟨reserved, rfl⟩)]
  | csr read isCsr =>
    simp only [again, read, (rvdecInsn_aborts_iff _ _ _).mpr (.inr ⟨isCsr, rfl⟩)]
  | execute read decoded valid crash =>
    simp only [again, read, decoded, if_neg valid, (rvemuDispatch_aborts_iff float calls valid abort).mpr crash]

end Runs

end Urv86t
