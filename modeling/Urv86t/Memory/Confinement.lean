import Urv86t.Decoder.Encoded
import Urv86t.Decoder.Verdict
import Urv86t.Emulator.Step
import Urv86t.Loader.Image
import Urv86t.Memory.Touches

set_option autoImplicit false

namespace Urv86t

open ByteMemory Rv32

structure Fits (ctx : ElfContext) (state : RvState) : Prop where
  fetch : state.suspended = false → Reaches ctx state.pc 4
  data : ∀ bytes fetched insn after len, state.suspended = false →
    rvstateFetch state = .ok (bytes, fetched) → rvdecInsn (state.setRegp 0 0) bytes = .ok (insn, after) →
      dataLen insn = some len → Reaches ctx (rvmemReg (state.setRegp 0 0) insn.rs1 + insn.imm) len

section Step

variable {ctx : ElfContext} {state : RvState}

theorem confined_nil : Confined ctx [] := fun _ touched => absurd touched List.not_mem_nil

theorem confined_cons {access : HostAccess} {touched : List HostAccess} (relevant : access.kind ≠ .syscall) :
    Confined ctx (access :: touched) ↔ access.Inside ctx ∧ Confined ctx touched := by
  simp only [Confined, List.forall_mem_cons]
  exact and_congr_left' (forall_prop_of_true relevant)

theorem confined_of_syscalls {touched : List HostAccess} (all : ∀ access ∈ touched, access.kind = .syscall) :
    Confined ctx touched :=
  fun access member relevant => absurd (all access member) relevant

theorem rvemuDispatch_touches {float : HostFloat} {calls : HostCalls} {insn : Insn} {arm : Dispatched}
    (ran : rvemuDispatch float calls state insn = .ok arm) : Touches state insn (dataLen insn) arm := by
  obtain ⟨inner, body, rfl⟩ := rvemuDispatch_returned ran
  obtain ⟨layout, accesses⟩ := rvemuDispatchInsn_touches body
  exact ⟨layout, accesses⟩

theorem quiet_confined {float : HostFloat} {calls : HostCalls} {insn : Insn} {arm : Dispatched}
    (none : dataLen insn = none) (ran : rvemuDispatch float calls state insn = .ok arm) :
    Confined ctx arm.touched := by
  have touches := (rvemuDispatch_touches ran).2
  rw [none] at touches
  exact confined_of_syscalls touches

theorem data_confined_iff {float : HostFloat} {calls : HostCalls} {insn : Insn} {len : Nat}
    (same : state.mem.layout = ctx.layout) (accesses : dataLen insn = some len) :
    (∀ arm, rvemuDispatch float calls state insn = .ok arm → Confined ctx arm.touched) ↔
      Reaches ctx (rvmemReg state insn.rs1 + insn.imm) len := by
  have translated := backing_congr same (rvmemReg state insn.rs1 + insn.imm)
  have single : ∀ arm, rvemuDispatch float calls state insn = .ok arm →
      ∃ ptr, ctx.backing (rvmemReg state insn.rs1 + insn.imm) = some ptr ∧
        arm.touched = [⟨.data, rvmemReg state insn.rs1 + insn.imm, ptr, len⟩] := by
    intro arm ran
    have touches := (rvemuDispatch_touches ran).2
    rwa [accesses, translated] at touches
  have runs : ∀ ptr, ctx.backing (rvmemReg state insn.rs1 + insn.imm) = some ptr →
      ∃ arm, rvemuDispatch float calls state insn = .ok arm := by
    intro ptr found
    obtain ⟨inner, body⟩ : ∃ arm, rvemuDispatchInsn float calls (rvbkptCheckInsn state insn) insn = .ok arm :=
      rvemuDispatchInsn_runs float calls accesses (translated.trans found)
    exact ⟨_, rvemuDispatch_ok body⟩
  rw [← single_access_iff single runs]
  apply forall_congr'
  intro arm
  apply imp_congr_right
  intro ran
  obtain ⟨ptr, -, touched⟩ := single arm ran
  rw [touched, Confined, List.forall_mem_singleton, List.forall_mem_singleton]
  exact imp_iff_right (by simp)

theorem decoded_confined_iff (float : HostFloat) (calls : HostCalls) {insn : Insn}
    (same : state.mem.layout = ctx.layout) :
    (∀ arm, rvemuDispatch float calls state insn = .ok arm → Confined ctx arm.touched) ↔
      ∀ len, dataLen insn = some len → Reaches ctx (rvmemReg state insn.rs1 + insn.imm) len := by
  cases accesses : dataLen insn with
  | none =>
    refine iff_of_true ?_ (fun len impossible => by cases impossible)
    intro arm ran
    exact quiet_confined accesses ran
  | some width =>
    rw [data_confined_iff same accesses]
    constructor
    · intro reaches len width_eq
      cases width_eq
      exact reaches
    · intro reaches
      exact reaches width rfl

theorem fits_iff {bytes : BitVec 32} {access : HostAccess} (running : state.suspended = false)
    (fetched : rvstateFetch state = .ok (bytes, access)) :
    Fits ctx state ↔ Reaches ctx state.pc 4 ∧
      ∀ insn after, rvdecInsn (state.setRegp 0 0) bytes = .ok (insn, after) →
        ∀ len, dataLen insn = some len →
          Reaches ctx (rvmemReg (state.setRegp 0 0) insn.rs1 + insn.imm) len := by
  constructor
  · intro fits
    exact ⟨fits.fetch running, fun insn after decoded len accesses =>
      fits.data bytes access insn after len running fetched decoded accesses⟩
  · rintro ⟨fetch, data⟩
    refine ⟨fun _ => fetch, ?_⟩
    intro bytes' access' insn after len _ fetched' decoded accesses
    rw [fetched] at fetched'
    cases fetched'
    exact data insn after decoded len accesses

def laterTouched (float : HostFloat) (calls : HostCalls) (state : RvState) (bytes : BitVec 32) :
    List HostAccess :=
  match rvdecInsn (state.setRegp 0 0) bytes with
  | .error _ => []
  | .ok (insn, after) =>
    if insn.insnTy = .invalid then []
    else
      match rvemuDispatch float calls after insn with
      | .error _ => []
      | .ok arm => arm.touched

theorem rvemuStepOut_touched {float : HostFloat} {calls : HostCalls} {bytes : BitVec 32} {access : HostAccess}
    (running : state.suspended = false) (fetched : rvstateFetch state = .ok (bytes, access)) :
    (rvemuStepOut float calls state).touched = access :: laterTouched float calls state bytes := by
  have cleared : rvstateFetch (state.setRegp 0 0) = .ok (bytes, access) := fetched
  rw [rvemuStepOut, if_neg (by rw [running]; decide), laterTouched]
  simp only [cleared]
  cases rvdecInsn (state.setRegp 0 0) bytes with
  | error abort => rfl
  | ok out =>
    obtain ⟨insn, after⟩ := out
    by_cases invalid : insn.insnTy = .invalid
    · simp only [if_pos invalid]
    · simp only [if_neg invalid]
      cases rvemuDispatch float calls after insn <;> rfl

theorem laterTouched_confined_iff (float : HostFloat) (calls : HostCalls) (bytes : BitVec 32)
    (same : state.mem.layout = ctx.layout) :
    Confined ctx (laterTouched float calls state bytes) ↔
      ∀ insn after, rvdecInsn (state.setRegp 0 0) bytes = .ok (insn, after) →
        ∀ len, dataLen insn = some len →
          Reaches ctx (rvmemReg (state.setRegp 0 0) insn.rs1 + insn.imm) len := by
  rw [laterTouched]
  cases decoded : rvdecInsn (state.setRegp 0 0) bytes with
  | error abort =>
    refine iff_of_true confined_nil ?_
    intro insn after impossible
    cases impossible
  | ok out =>
    obtain ⟨insn, after⟩ := out
    have kept : after.mem.layout = ctx.layout ∧ rvmemReg after = rvmemReg (state.setRegp 0 0) := by
      rcases rvdecInsn_after decoded with rfl | rfl <;> exact ⟨same, rfl⟩
    have unique : (∀ insn' after', (.ok (insn, after) : Except Abort (Insn × RvState)) = .ok (insn', after') →
        ∀ len, dataLen insn' = some len →
          Reaches ctx (rvmemReg (state.setRegp 0 0) insn'.rs1 + insn'.imm) len) ↔
        ∀ len, dataLen insn = some len → Reaches ctx (rvmemReg after insn.rs1 + insn.imm) len := by
      rw [kept.2]
      constructor
      · intro all
        exact all insn after rfl
      · intro here insn' after' answer
        cases answer
        exact here
    rw [unique]
    by_cases invalid : insn.insnTy = .invalid
    · simp only [if_pos invalid]
      refine iff_of_true confined_nil ?_
      intro len accesses
      rw [dataLen, invalid] at accesses
      cases accesses
    · simp only [if_neg invalid]
      rw [← decoded_confined_iff float calls kept.1]
      cases rvemuDispatch float calls after insn with
      | error abort => exact iff_of_true confined_nil fun arm ran => by cases ran
      | ok arm =>
        constructor
        · intro confined other ran
          cases ran
          exact confined
        · intro all
          exact all arm rfl

theorem rvemuStepOut_confined_iff (float : HostFloat) (calls : HostCalls)
    (same : state.mem.layout = ctx.layout) :
    Confined ctx (rvemuStepOut float calls state).touched ↔ Fits ctx state := by
  cases running : state.suspended with
  | true =>
    rw [rvemuStepOut, if_pos running]
    refine iff_of_true confined_nil ⟨?_, ?_⟩
    · intro stopped
      rw [running] at stopped
      cases stopped
    · intro _ _ _ _ _ stopped
      rw [running] at stopped
      cases stopped
  | false =>
    have translated := backing_congr same state.pc
    cases found : state.mem.backing state.pc with
    | none =>
      have fetched : rvstateFetch state = .error (.fatal "PC-fetch out of bounds\n") := rvstateFetch_missed found
      have cleared : rvstateFetch (state.setRegp 0 0) = .error (.fatal "PC-fetch out of bounds\n") := fetched
      rw [rvemuStepOut, if_neg (by rw [running]; decide)]
      simp only [cleared]
      refine iff_of_true confined_nil ⟨fun _ => reaches_of_unmapped 4 (translated.symm.trans found), ?_⟩
      intro bytes access insn after len _ impossible
      rw [fetched] at impossible
      cases impossible
    | some ptr =>
      have fetched : rvstateFetch state =
          .ok (load state.host (hostCell ptr) 4, ⟨.fetch, state.pc, ptr, 4⟩) := rvstateFetch_found found
      rw [rvemuStepOut_touched running fetched, fits_iff running fetched, confined_cons (by simp),
        inside_iff_reaches (translated.symm.trans found), laterTouched_confined_iff float calls _ same]

theorem rvemuStep_layout {float : HostFloat} {calls : HostCalls} {running : Bool} {next : RvState}
    (stepped : rvemuStep float calls state = .ok (running, next)) :
    next.mem.layout = state.mem.layout := by
  rcases rvemuStep_returned stepped with ⟨-, -, rfl⟩ | ⟨-, bytes, fetched, insn, after, -, decoded, ended⟩
  · rfl
  have kept : after.mem.layout = state.mem.layout := by
    rcases rvdecInsn_after decoded with rfl | rfl <;> rfl
  rcases ended with ⟨-, -, rfl⟩ | ⟨-, -, arm, ran, rfl⟩
  · exact kept
  · exact (rvemuDispatch_touches ran).1.trans kept

end Step

structure Visit where
  state : RvState
  touched : List HostAccess

/-- The calls of a run, up to the first one that does not return. -/
def rvemuVisits (float : HostFloat) : List HostCalls → RvState → List Visit
  | [], _ => []
  | calls :: rest, state =>
    ⟨state, (rvemuStepOut float calls state).touched⟩ ::
      match (rvemuStepOut float calls state).result with
      | .error _ => []
      | .ok (_, next) => rvemuVisits float rest next

theorem rvemuVisits_confined_iff (float : HostFloat) {ctx : ElfContext} (run : List HostCalls) {state : RvState}
    (same : state.mem.layout = ctx.layout) :
    (∀ visit ∈ rvemuVisits float run state, Confined ctx visit.touched) ↔
      ∀ visit ∈ rvemuVisits float run state, Fits ctx visit.state := by
  induction run generalizing state with
  | nil => exact iff_of_true (List.forall_mem_nil _) (List.forall_mem_nil _)
  | cons calls rest ih =>
    rw [rvemuVisits, List.forall_mem_cons, List.forall_mem_cons]
    apply and_congr (rvemuStepOut_confined_iff float calls same)
    cases stepped : (rvemuStepOut float calls state).result with
    | error abort => exact iff_of_true (List.forall_mem_nil _) (List.forall_mem_nil _)
    | ok out =>
      obtain ⟨running, next⟩ := out
      exact ih ((rvemuStep_layout stepped).trans same)

theorem rvemuRun_confined_iff (float : HostFloat) (ctx : ElfContext) (host : Memory Nat)
    (run : List HostCalls) :
    (∀ visit ∈ rvemuVisits float run (rvstateInit ctx host), Confined ctx visit.touched) ↔
      ∀ visit ∈ rvemuVisits float run (rvstateInit ctx host), Fits ctx visit.state :=
  rvemuVisits_confined_iff float run rfl

-- A program of one instruction, which stores a word at the last three bytes of its segment.
def spillInsn : Base := .store .sw 0#5 0#5 0x10d#12

def spillFile : FileBytes :=
  fileOf (elfFile 0x100 0 [⟨1, 84, 0x100, 4, 16⟩] ++ littleEndian 4 spillInsn.encode.toNat)

def spillContext : ElfContext :=
  { loadRegions := [⟨0x100, 129, 0, 16, some "LOAD"⟩, {}, {}], entryPoint := 0x100 }

theorem spillFile_returns :
    ∃ heap, (elfInit bumpAllocator spillFile 88).Returns ⟨fun _ => 0, []⟩ spillContext heap ∧
      load heap.bytes (hostCell 129) 4 = spillInsn.encode := by
  refine ⟨_, rfl, ?_⟩
  decide

theorem rvemuRun_not_confined :
    ∃ heap, (elfInit bumpAllocator spillFile 88).Returns ⟨fun _ => 0, []⟩ spillContext heap ∧
      ∀ float calls, ∃ visit ∈ rvemuVisits float [calls] (rvstateInit spillContext heap.bytes),
        ¬Confined spillContext visit.touched := by
  obtain ⟨heap, returned, program⟩ := spillFile_returns
  refine ⟨heap, returned, fun float calls => ⟨_, List.mem_cons_self, ?_⟩⟩
  intro confined
  have same : (rvstateInit spillContext heap.bytes).mem.layout = spillContext.layout := rfl
  have fits := (rvemuStepOut_confined_iff float calls same).mp confined
  have found : (rvstateInit spillContext heap.bytes).mem.backing 0x100 = some 129 :=
    (by decide : spillContext.backing 0x100 = some 129)
  have fetched : rvstateFetch (rvstateInit spillContext heap.bytes) =
      .ok (spillInsn.encode, ⟨.fetch, 0x100, 129, 4⟩) := by
    rw [rvstateFetch_found found, ← program]
    rfl
  have decoded := rvdecInsn_base ((rvstateInit spillContext heap.bytes).setRegp 0 0) spillInsn
  have reaches : Reaches spillContext 0x10d 4 := fits.data _ _ _ _ 4 rfl fetched decoded rfl
  exact absurd (reaches ⟨0x100, 129, 0, 16, some "LOAD"⟩ (by decide) (by decide)) (by decide)

end Urv86t
