import Urv86t.Breakpoint.Session
import Urv86t.Loader.Boot
import Urv86t.Refinement.Guest
import Urv86t.Runs.ZeroRegister

set_option autoImplicit false

namespace Urv86t

open ByteMemory Rv32 Simulation Traced Traced.Program

def bootProcess (bytes : FileBytes) (bss : Elf32Shdr) : Process where
  hart :=
    { x := Function.update (fun _ => 0) 2 (bss.vmaEnd + progHeapSize + progStackSize - 1)
      zero := rfl
      pc := (elf32Ehdr bytes).eEntry
      mem := imageMemory bytes }
  f := fun _ => 0
  heap := bss.vmaEnd
  limit := bss.vmaEnd + progHeapSize
  brk := bss.vmaEnd

theorem heapRegion_tagged {segments rest : List ElfLoadRegion} (loads : ∀ region ∈ segments, region.tag = some "LOAD")
    (vma : BitVec 32) (base : Nat) :
    elfGetRegionByTag regionTagHeap (segments ++ heapRegion vma base :: rest) =
      some (segments, heapRegion vma base, rest) := by
  induction segments with
  | nil => rfl
  | cons region segments ih =>
    obtain ⟨first, others⟩ := List.forall_mem_cons.mp loads
    have other : region.tag ≠ some regionTagHeap := by
      rw [first]
      decide
    rw [List.cons_append, elfGetRegionByTag, if_neg other, ih others]
    rfl

section Booted

variable {bytes : FileBytes} {length : Nat} {bss : Elf32Shdr} {heap : Heap} {segments : List ElfLoadRegion}
  {heapBase stackBase : Nat} {ctx : ElfContext}

theorem Booted.embodies (booted : Booted bytes bss segments heapBase stackBase ctx heap)
    (bootable : Bootable bytes length bss) (evs : List RvbkptEv) :
    Embodies (BootMapped bytes bss) (bootProcess bytes bss) (startedState ctx heap.bytes evs) := by
  obtain ⟨table, started⟩ := startedState_frame ctx heap.bytes evs
  rw [started]
  constructor
  · refine ⟨fun r _ => ?_, booted.entry, booted.image bootable⟩
    simp only [RvState.withTable, rvstateInit, bootProcess, booted.sp]
  · rfl
  · rfl
  · exact booted.separated bootable
  · exact fun a len mapped => booted.within bootable mapped
  · have loads : ∀ region ∈ segments, region.tag = some "LOAD" := by
      intro region among
      obtain ⟨phdr, -, -, -, tag, -⟩ := booted.segment among
      exact tag
    refine ⟨segments, heapRegion bss.vmaEnd heapBase,
      [stackRegion (bss.vmaEnd + progHeapSize) stackBase], ?_, rfl, rfl, ?_⟩
    · simp only [RvState.withTable, rvstateInit, booted.entries]
      exact heapRegion_tagged loads _ _
    · exact BitVec.add_zero _

end Booted

section Running

variable {alloc : Allocator} {bss : Elf32Shdr} {heap : Heap} {disasm : Option Bool}

theorem main_refines_process (file : BinaryFile) (bootable : Bootable file.bytes file.nread bss)
    (generous : alloc.Generous) (sound : heap.Sound) {started : Started} {heap' : Heap}
    (returned : (mainInit alloc (some file) disasm).Returns heap started heap') (float : HostFloat)
    (evs : List RvbkptEv) {envs : List Environment} {calls : List HostCalls}
    (presents : List.Forall₂ Presents envs calls) {asked : List (Option Request)} {p' : Process}
    (run : (userProcess (Supported (BootMapped file.bytes bss))).Run (bootProcess file.bytes bss) envs asked p') :
    ∃ after,
      rvemuSteps float calls (startedState started.ctx heap'.bytes evs) =
        .ok (List.replicate calls.length true, after) ∧
      (emulator float).Run (startedState started.ctx heap'.bytes evs) calls asked after ∧
      Embodies (BootMapped file.bytes bss) p' after := by
  obtain ⟨segments, heapBase, stackBase, booted⟩ := bootable.started generous sound returned
  obtain ⟨after, ran, stop⟩ := (emulator_simulates float).run (booted.embodies bootable evs) presents run
  exact ⟨after, emulator_run ran, ran, stop⟩

abbrev exitMapped : Word → Nat → Prop := BootMapped exitFile exitBss

theorem exitFile_mapped {a : Word} (low : 0x1000 ≤ a.toNat) (high : a.toNat + 4 ≤ 0x1020) : exitMapped a 4 := by
  refine .inl ⟨⟨1, 169, 0x1000, 8, 32⟩, ?_, low, high⟩
  rw [segmentHeaders, exitFile_headers]
  exact List.mem_cons_self

def exitInstr : UserInstr := .base (.opImm .addi 17 0 93)

def exitProcess₁ : Process := exitInstr.exec quietEnvironment (bootProcess exitFile exitBss)

def exitProcess₂ : Process := { exitProcess₁ with hart := exitProcess₁.hart.next, exited := true }

theorem exitProcess₁_number : exitProcess₁.number = 93 := by decide

theorem exitFile_step (env : Environment) :
    (userProcess (Supported exitMapped)).step (bootProcess exitFile exitBss) env none exitProcess₁ :=
  ⟨rfl, exitInstr, by decide, ⟨exitFile_mapped (by decide) (by decide), nofun⟩, rfl, rfl⟩

theorem exitFile_step₁ (env : Environment) :
    (userProcess (Supported exitMapped)).step exitProcess₁ env (some (.exit 0)) exitProcess₂ := by
  have supported : InstrSupported exitMapped exitProcess₁ .ecall := by
    simp only [InstrSupported, CallSupported, exitProcess₁_number]
  refine ⟨rfl, .ecall, by decide, ⟨exitFile_mapped (by decide) (by decide), supported⟩, by decide, ?_⟩
  simp only [UserInstr.exec, Process.call, exitProcess₁_number, exitProcess₂]

theorem exitFile_safe : Safe (userProcess (Supported exitMapped)) (fun p => p.exited = true)
    fun p => p = bootProcess exitFile exitBss ∨ p = exitProcess₁ ∨ p.exited = true := by
  constructor
  rintro p (rfl | rfl | exited) live env
  · exact ⟨_, exitProcess₁, exitFile_step env, .inr (.inl rfl)⟩
  · exact ⟨_, exitProcess₂, exitFile_step₁ env, .inr (.inr rfl)⟩
  · exact absurd exited live

theorem main_refines_exit :
    ∃ started heap' after,
      (mainInit bumpAllocator (some ⟨exitFile, 177, 177⟩) none).Returns ⟨fun _ => 0, []⟩ started heap' ∧
      rvemuSteps default [quietCalls, quietCalls] (startedState started.ctx heap'.bytes [entryBkpt]) =
        .ok ([true, true], after) ∧
      after.suspended = true := by
  obtain ⟨started, heap', returned⟩ := exitFile_started
  have run := Machine.Run.step (exitFile_step quietEnvironment) (.step (exitFile_step₁ quietEnvironment) (.done _))
  obtain ⟨after, ran, -, stop⟩ := main_refines_process ⟨exitFile, 177, 177⟩ exitFile_bootable bumpAllocator_generous
    emptyHeap_sound returned default [entryBkpt] (.cons quiet_presents (.cons quiet_presents .nil)) run
  exact ⟨started, heap', after, returned, ran, stop.suspended⟩

end Running

def Presentable (calls : HostCalls) : Prop := ∃ env, Presents env calls

-- At every stop the next instruction is stepped over.
def steppingRound : Round := ⟨quietCalls, [.step quietCalls, .regs, .continue]⟩

theorem steppingRound_served : steppingRound.Served Presentable := by
  refine ⟨⟨_, quiet_presents⟩, fun calls listed => ⟨quietEnvironment, ?_⟩⟩
  have only : calls = quietCalls := by simpa [steppingRound] using listed
  exact only ▸ quiet_presents

section Session

variable {float : HostFloat} {allowed : Word → Nat → Prop} {Q : List (Option Request) → Process → Prop}

theorem Embodies.sameGuest {p : Process} {left right : RvState} (embodies : Embodies allowed p left)
    (same : SameGuest left right) : Embodies allowed p right := by
  obtain ⟨table, rfl⟩ := sameGuest_iff.mp same
  exact ⟨⟨embodies.agrees.regs, embodies.agrees.pc, embodies.agrees.mem⟩, embodies.fregs, embodies.suspended,
    embodies.separated, embodies.within, embodies.heap⟩

theorem presentable_simulates (float : HostFloat) (allowed : Word → Nat → Prop) :
    Simulates (userProcess (Supported allowed)) (served float Presentable) (fun env calls => Presents env calls.1)
      (Embodies allowed) :=
  ⟨fun embodies presents step => (emulator_simulates float).step embodies presents step⟩

def EndsIn (allowed : Word → Nat → Prop) (Q : List (Option Request) → Process → Prop)
    (result : Except Abort RvState) : Prop :=
  ∃ state asked p, result = .ok state ∧ Embodies allowed p state ∧ Q asked p

theorem EndsIn.respects {left right : RvState} (same : SameGuest left right)
    (ends : EndsIn allowed Q (.ok left)) : EndsIn allowed Q (.ok right) := by
  obtain ⟨_, asked, p, ⟨⟩, embodies, holds⟩ := ends
  exact ⟨right, asked, p, rfl, embodies.sameGuest same, holds⟩

theorem leads_ending (float : HostFloat) (exits : ∀ asked p, Q asked p → p.exited = true)
    {asked : List (Option Request)} {p : Process} (leads : Leads (userProcess (Supported allowed)) Q asked p)
    {state : RvState} (embodies : Embodies allowed p state) :
    Leads (served float Presentable) (fun _ => Ending float Presentable (EndsIn allowed Q)) asked state := by
  have reached := leads.simulated (presentable_simulates float allowed) (fun calls => calls.2) embodies
  apply reached.weaken
  rintro asked' state' ⟨p', embodies', holds⟩ calls -
  have stopped : state'.suspended = true := embodies'.suspended.trans (exits _ _ holds)
  exact .inr ⟨state', rvemuStep_suspended float calls stopped, state', asked', p', rfl, embodies', holds⟩

theorem safe_kept (float : HostFloat) {Inv : Process → Prop}
    (safe : Safe (userProcess (Supported allowed)) (fun p => p.exited = true) Inv) :
    KeptBySteps float Presentable fun state => ∃ p, Embodies allowed p state ∧ Inv p := by
  constructor
  · rintro left right same ⟨p, embodies, inv⟩
    exact ⟨p, embodies.sameGuest same, inv⟩
  · rintro state calls ⟨p, embodies, inv⟩ ⟨env, presents⟩
    by_cases exited : p.exited = true
    · exact ⟨false, state, embodies.stopped float exited calls, p, embodies, inv⟩
    · obtain ⟨asked, p', step, kept⟩ := safe.step inv exited env
      obtain ⟨after, ⟨stepped, -⟩, stop⟩ := (emulator_simulates float).step embodies presents step
      exact ⟨true, after, stepped, p', stop, kept⟩

variable {alloc : Allocator} {bss : Elf32Shdr} {heap : Heap} {disasm : Option Bool}

theorem main_safe (file : BinaryFile) (bootable : Bootable file.bytes file.nread bss) (generous : alloc.Generous)
    (sound : heap.Sound) {started : Started} {heap' : Heap}
    (returned : (mainInit alloc (some file) disasm).Returns heap started heap') (float : HostFloat)
    {Inv : Process → Prop}
    (safe : Safe (userProcess (Supported (BootMapped file.bytes bss))) (fun p => p.exited = true) Inv)
    (start : Inv (bootProcess file.bytes bss)) {rounds : List Round}
    (served : ∀ round ∈ rounds, round.Served Presentable) :
    ∃ out, mainRun float rounds ⟨startedState started.ctx heap'.bytes [entryBkpt], none⟩ = .ok out ∧
      ∀ emu ∈ out, ∃ p, Embodies (BootMapped file.bytes bss) p emu.state ∧ Inv p ∧ p.exited = true := by
  obtain ⟨segments, heapBase, stackBase, booted⟩ := bootable.started generous sound returned
  have keeps := safe_kept float safe
  obtain ⟨out, ran, holds⟩ := @KeptBySteps.main _ _ _ keeps ⟨startedState started.ctx heap'.bytes [entryBkpt], none⟩
    ⟨_, booted.embodies bootable [entryBkpt], start⟩ _ served
  refine ⟨out, ran, fun emu final => ?_⟩
  obtain ⟨⟨p, embodies, inv⟩, stuck⟩ := holds emu final
  refine ⟨p, embodies, inv, ?_⟩
  by_contra live
  obtain ⟨asked, p', step, -⟩ := safe.step inv live quietEnvironment
  obtain ⟨after, ⟨stepped, -⟩, -⟩ := (emulator_simulates float).step embodies quiet_presents step
  rw [stuck quietCalls] at stepped
  cases stepped

theorem main_safe_exit :
    ∃ started heap' out,
      (mainInit bumpAllocator (some ⟨exitFile, 177, 177⟩) none).Returns ⟨fun _ => 0, []⟩ started heap' ∧
      mainRun default [steppingRound, steppingRound, steppingRound]
        ⟨startedState started.ctx heap'.bytes [entryBkpt], none⟩ = .ok out ∧
      ∀ emu ∈ out, emu.state.suspended = true := by
  have served : ∀ round ∈ [steppingRound, steppingRound, steppingRound], round.Served Presentable := by
    intro round listed
    obtain rfl : round = steppingRound := by simpa using listed
    exact steppingRound_served
  obtain ⟨started, heap', returned⟩ := exitFile_started
  obtain ⟨out, ran, holds⟩ := main_safe ⟨exitFile, 177, 177⟩ exitFile_bootable bumpAllocator_generous
    emptyHeap_sound returned default exitFile_safe (.inl rfl) served
  refine ⟨started, heap', out, returned, ran, fun emu final => ?_⟩
  obtain ⟨p, embodies, -, exited⟩ := holds emu final
  exact embodies.suspended.trans exited

theorem main_leads (file : BinaryFile) (bootable : Bootable file.bytes file.nread bss) (generous : alloc.Generous)
    (sound : heap.Sound) {started : Started} {heap' : Heap}
    (returned : (mainInit alloc (some file) disasm).Returns heap started heap') (float : HostFloat)
    (exits : ∀ asked p, Q asked p → p.exited = true)
    (leads : Leads (userProcess (Supported (BootMapped file.bytes bss))) Q [] (bootProcess file.bytes bss))
    {rounds : Nat → Round} (served : ∀ k, (rounds k).Served Presentable) :
    ∃ n emu asked p',
      mainRun float ((List.range n).map rounds) ⟨startedState started.ctx heap'.bytes [entryBkpt], none⟩ =
        .ok (some emu) ∧
      Embodies (BootMapped file.bytes bss) p' emu.state ∧ Q asked p' := by
  obtain ⟨segments, heapBase, stackBase, booted⟩ := bootable.started generous sound returned
  have leading := leads_ending float exits leads (booted.embodies bootable [entryBkpt])
  obtain ⟨n, result, come, state, asked, p', final, embodies, holds⟩ :=
    @leads_session _ _ _ (fun _ _ => EndsIn.respects) _ _ leading
      ⟨startedState started.ctx heap'.bytes [entryBkpt], none⟩ (.refl _) [] nothing_typed rounds served
  cases result with
  | error abort => cases final
  | ok emu =>
    cases final
    exact ⟨n, emu, asked, p', loopEnd_ok come, embodies, holds⟩

def Exited (asked : List (Option Request)) (p : Process) : Prop :=
  p.exited = true ∧ asked = [none, some (.exit 0)]

theorem exitFile_leads :
    Leads (userProcess (Supported exitMapped)) Exited [] (bootProcess exitFile exitBss) :=
  .always exitFile_step (.always exitFile_step₁ (.here ⟨rfl, rfl⟩))

end Session

end Urv86t
