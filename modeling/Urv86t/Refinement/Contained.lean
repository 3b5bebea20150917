import Urv86t.Refinement.Program
import Urv86t.Runs.Containment

set_option autoImplicit false

namespace Urv86t

open ByteMemory Rv32 Simulation Traced

theorem Within.reaches {ctx : ElfContext} (separated : ctx.Separated) {a : Word} {len : Nat}
    (within : ctx.Within a len) : Reaches ctx a len := by
  intro region selected _
  obtain ⟨region', member, low, high⟩ := within
  have hit := ElfContext.selected_hit selected
  have bounds := ElfLoadRegion.hit_bounds hit
  by_cases empty : a.toNat < region'.vmaEnd
  · have hit' : region'.hit a = true := (region'.hit_iff a).mpr ⟨low, empty, separated.bounded region' member⟩
    have selected' : ctx.selected a = some region' := find_hit_eq separated.disjoint member hit'
    rw [selected] at selected'
    cases selected'
    exact high
  · omega

section Supported

variable {allowed : Word → Nat → Prop} {p : Process} {state : RvState}

theorem user_data (mirrors : Mirrors p.hart state) (i : UserInstr) (supported : InstrSupported allowed p i) {len : Nat}
    (accesses : dataLen (userInsn i) = some len) :
    allowed (rvmemReg state (userInsn i).rs1 + (userInsn i).imm) len := by
  cases i with
  | base i =>
    cases i with
    | load op rd rs1 imm =>
      have width : len = op.width := by cases op <;> cases accesses <;> rfl
      simp only [userInsn, baseInsn, mirrors.read rs1, width]
      exact supported _ _ rfl
    | store op rs1 rs2 imm =>
      have width : len = op.width := by cases op <;> cases accesses <;> rfl
      simp only [userInsn, baseInsn, mirrors.read rs1, width]
      exact supported _ _ rfl
    | lui | auipc | jal | jalr => cases accesses
    | branch op | opImm op | shift op | reg op => cases op <;> cases accesses
  | mul op => cases op <;> cases accesses
  | transfer t =>
    cases t with
    | load fmt rd rs1 imm =>
      have width : len = fmt.bytes := by cases fmt <;> cases accesses <;> rfl
      simp only [userInsn, transferInsn, mirrors.read rs1, width]
      exact supported _ _ rfl
    | store fmt rs1 rs2 imm =>
      have width : len = fmt.bytes := by cases fmt <;> cases accesses <;> rfl
      simp only [userInsn, transferInsn, mirrors.read rs1, width]
      exact supported _ _ rfl
    | _ => cases accesses
  | ecall => cases accesses

theorem user_call (embodies : Embodies allowed p state) (supported : CallSupported allowed p) {len : Nat}
    (passed : syscallLen state = some len) : Reaches state.mem (state.regs 11) len := by
  have within : ∀ len, allowed (p.hart.x 11) len → Reaches state.mem (p.hart.x 11) len :=
    fun len inside => Within.reaches embodies.separated (embodies.within _ len inside)
  have regs := embodies.agrees.regs
  rw [regs 11 (by decide)]
  rw [syscallLen, regs 17 (by decide)] at passed
  split at passed
  next number =>
    simp only [CallSupported, Process.number, number] at supported
    cases passed
    rw [regs 12 (by decide)]
    intro region selected nonNull
    have reaches := within _ supported region selected nonNull
    omega
  next number =>
    simp only [CallSupported, Process.number, number] at supported
    cases passed
    exact within _ supported
  next => cases passed

theorem Embodies.fitsAll (embodies : Embodies allowed p state) {i : UserInstr} (fetched : p.hart.fetch = i.encode)
    (supported : Supported allowed p i) : FitsAll state.mem state := by
  obtain ⟨ptr, read⟩ := embodies.fetch supported.code
  rw [fetched] at read
  have settled : ∀ bytes access insn after, rvstateFetch state = .ok (bytes, access) →
      rvdecInsn (state.setRegp 0 0) bytes = .ok (insn, after) → insn = userInsn i := by
    intro bytes access insn after read' decoded
    have read' : rvstateFetch (state.setRegp 0 0) = .ok (bytes, access) := read'
    rw [read] at read'
    cases read'
    rw [rvdecInsn_user] at decoded
    cases decoded
    rfl
  have within : ∀ a len, allowed a len → Reaches state.mem a len :=
    fun a len inside => Within.reaches embodies.separated (embodies.within a len inside)
  refine ⟨⟨fun _ => ?_, ?_⟩, ?_⟩
  · rw [embodies.agrees.pc]
    exact within _ _ supported.code
  · intro bytes access insn after len _ read' decoded accesses
    obtain rfl := settled bytes access insn after read' decoded
    exact within _ _ (user_data embodies.agrees.clear i supported.instr accesses)
  · intro bytes access insn after len _ read' decoded ecall passed
    obtain rfl := settled bytes access insn after read' decoded
    cases i with
    | base i => exact absurd ecall (baseInsn_not_ecall i)
    | mul op rd rs1 rs2 => exact absurd ecall (mulInsn_ty op rd rs1 rs2).2
    | transfer t => cases t <;> cases ecall
    | ecall => exact user_call embodies supported.instr passed

end Supported

theorem Presents.writesRecord {env : Environment} {calls : HostCalls} (presents : Presents env calls) :
    WritesRecord calls := by
  intro fd buff host cell outside
  cases record : (env.stat fd).2 with
  | none => rw [presents.unwritten fd buff host record]
  | some record' =>
    rw [presents.record fd buff host record' record]
    refine write_miss _ _ _ _ _ fun k inside same => outside ?_
    rw [← same]
    exact ⟨Nat.le_add_right _ _, Nat.add_lt_add_left inside _⟩

theorem Presentable.writesRecord {calls : HostCalls} (presentable : Presentable calls) : WritesRecord calls := by
  obtain ⟨env, presents⟩ := presentable
  exact presents.writesRecord

theorem KeptBySteps.visits {float : HostFloat} {ok : HostCalls → Prop} {Kept : RvState → Prop}
    (keeps : KeptBySteps float ok Kept) {run : List HostCalls} (served : ∀ calls ∈ run, ok calls) {state : RvState}
    (kept : Kept state) : ∀ visit ∈ rvemuVisits float run state, Kept visit.state := by
  induction run generalizing state with
  | nil => exact List.forall_mem_nil _
  | cons calls rest ih =>
    obtain ⟨first, others⟩ := List.forall_mem_cons.mp served
    obtain ⟨running, next, stepped, onward⟩ := keeps.step kept first
    have result : (rvemuStepOut float calls state).result = .ok (running, next) := stepped
    rw [rvemuVisits, result]
    exact List.forall_mem_cons.mpr ⟨kept, ih others onward⟩

theorem safe_fits {allowed : Word → Nat → Prop} {Inv : Process → Prop}
    (safe : Safe (userProcess (Supported allowed)) (fun p => p.exited = true) Inv) {p : Process} {state : RvState}
    (embodies : Embodies allowed p state) (inv : Inv p) : FitsAll state.mem state := by
  by_cases exited : p.exited = true
  · have stopped : state.suspended ≠ false := by
      rw [embodies.suspended, exited]
      decide
    exact ⟨⟨fun live => absurd live stopped, fun _ _ _ _ _ live => absurd live stopped⟩,
      fun _ _ _ _ _ live => absurd live stopped⟩
  · obtain ⟨asked, p', ⟨-, i, fetched, supported, -⟩, -⟩ := safe.step inv exited default
    exact embodies.fitsAll fetched supported

section Program

variable {alloc : Allocator} {bss : Elf32Shdr} {heap heap' : Heap} {disasm : Option Bool} {started : Started}

theorem main_safe_fits (file : BinaryFile) (bootable : Bootable file.bytes file.nread bss) (generous : alloc.Generous)
    (sound : heap.Sound) (returned : (mainInit alloc (some file) disasm).Returns heap started heap')
    (float : HostFloat) (evs : List RvbkptEv) {Inv : Process → Prop}
    (safe : Safe (userProcess (Supported (BootMapped file.bytes bss))) (fun p => p.exited = true) Inv)
    (start : Inv (bootProcess file.bytes bss)) {run : List HostCalls} (served : ∀ calls ∈ run, Presentable calls) :
    ∀ visit ∈ rvemuVisits float run (startedState started.ctx heap'.bytes evs),
      FitsAll visit.state.mem visit.state := by
  obtain ⟨segments, heapBase, stackBase, booted⟩ := bootable.started generous sound returned
  have kept := (safe_kept float safe).visits served ⟨_, booted.embodies bootable evs, start⟩
  intro visit member
  obtain ⟨p, embodies, inv⟩ := kept visit member
  exact safe_fits safe embodies inv

theorem started_fits {ctx : ElfContext} {host : Memory Nat} {float : HostFloat} {evs : List RvbkptEv}
    {run : List HostCalls}
    (own : ∀ visit ∈ rvemuVisits float run (startedState ctx host evs), FitsAll visit.state.mem visit.state) :
    ∀ visit ∈ rvemuVisits float run (startedState ctx host evs), FitsAll ctx visit.state := by
  intro visit member
  have same := rvemuVisits_layout run (startedState_layout ctx host evs) visit member
  exact (own visit member).congr same

theorem main_safe_contained (file : BinaryFile) (bootable : Bootable file.bytes file.nread bss)
    (generous : alloc.Generous) (sound : heap.Sound)
    (returned : (mainInit alloc (some file) disasm).Returns heap started heap') (float : HostFloat)
    (evs : List RvbkptEv) {Inv : Process → Prop}
    (safe : Safe (userProcess (Supported (BootMapped file.bytes bss))) (fun p => p.exited = true) Inv)
    (start : Inv (bootProcess file.bytes bss)) {run : List HostCalls} (served : ∀ calls ∈ run, Presentable calls) :
    ∀ visit ∈ rvemuVisits float run (startedState started.ctx heap'.bytes evs),
      (∀ access ∈ visit.touched, ∃ block ∈ heap'.blocks, block.Holds access) ∧
        ∀ cell, (∀ region ∈ started.ctx.loadRegions, ¬(region.memBase ≤ cell ∧ cell < region.memEnd)) →
          visit.state.host cell = heap'.bytes cell := by
  have fits := started_fits (main_safe_fits file bootable generous sound returned float evs safe start served)
  have records : ∀ calls ∈ run, WritesRecord calls := fun calls listed => (served calls listed).writesRecord
  intro visit member
  refine ⟨(started_held_iff generous sound returned float evs run visit member).mpr (fits visit member), ?_⟩
  exact fun cell outside => started_kept records fits outside visit member

end Program

theorem main_safe_contained_exit :
    ∃ started heap',
      (mainInit bumpAllocator (some ⟨exitFile, 177, 177⟩) none).Returns ⟨fun _ => 0, []⟩ started heap' ∧
      ∀ visit ∈ rvemuVisits default [quietCalls, quietCalls, quietCalls]
          (startedState started.ctx heap'.bytes [entryBkpt]),
        ∀ access ∈ visit.touched, ∃ block ∈ heap'.blocks, block.Holds access := by
  obtain ⟨started, heap', returned⟩ := exitFile_started
  have served : ∀ calls ∈ [quietCalls, quietCalls, quietCalls], Presentable calls := by
    intro calls listed
    obtain rfl : calls = quietCalls := by simpa using listed
    exact ⟨quietEnvironment, quiet_presents⟩
  have contained := main_safe_contained ⟨exitFile, 177, 177⟩ exitFile_bootable bumpAllocator_generous
    emptyHeap_sound returned default [entryBkpt] exitFile_safe (.inl rfl) served
  exact ⟨started, heap', returned, fun visit member => (contained visit member).1⟩

end Urv86t
