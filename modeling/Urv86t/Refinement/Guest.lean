import Urv86t.Refinement.Process
import Urv86t.Runs.Halting

set_option autoImplicit false

namespace Urv86t

open ByteMemory Rv32 Simulation

section Rules

variable {allowed : Word → Nat → Prop} {Q : List (Option Request) → Process → Prop}
  {asked : List (Option Request)} {p : Process}

theorem emulator_safe (float : HostFloat) {state : RvState} (embodies : Embodies allowed p state)
    {Inv : Process → Prop} (safe : Safe (userProcess (Supported allowed)) (fun p => p.exited = true) Inv)
    (start : Inv p) {envs : List Environment} {calls : List HostCalls} (presents : List.Forall₂ Presents envs calls) :
    ∃ k ≤ calls.length, ∃ requests p' after,
      (userProcess (Supported allowed)).Run p (envs.take k) requests p' ∧
        (emulator float).Run state (calls.take k) requests after ∧
          rvemuSteps float calls state =
            .ok (List.replicate k true ++ List.replicate (calls.length - k) false, after) ∧
            Embodies allowed p' after ∧ Inv p' ∧ (k < calls.length → p'.exited = true) := by
  obtain ⟨used, left, requests, p', rfl, run, kept, ended⟩ := safe.run start envs
  have lengths := presents.length_eq
  have fewer : used.length ≤ calls.length := by
    rw [← lengths, List.length_append]
    exact Nat.le_add_right _ _
  have serving : List.Forall₂ Presents used (calls.take used.length) := by
    simpa using List.forall₂_take used.length presents
  obtain ⟨after, ran, stop⟩ := (emulator_simulates float).run embodies serving run
  have steps := emulator_run ran
  rw [List.length_take, Nat.min_eq_left fewer] at steps
  have idled : used.length < calls.length → p'.exited = true := by
    intro more
    rcases ended with rfl | exited
    · rw [← lengths, List.append_nil] at more
      exact absurd more (Nat.lt_irrefl _)
    · exact exited
  refine ⟨used.length, fewer, requests, p', after, by rwa [List.take_left], ran, ?_, stop, kept, idled⟩
  have idle : rvemuSteps float (calls.drop used.length) after =
      .ok (List.replicate (calls.length - used.length) false, after) := by
    rcases Nat.eq_or_lt_of_le fewer with all | more
    · rw [all, List.drop_length, Nat.sub_self]
      rfl
    · have stuck : Stuck float after := stop.stopped float (idled more)
      rw [← List.length_drop]
      exact stuck.steps _
  have whole := rvemuSteps_append steps idle
  rwa [List.take_append_drop] at whole

theorem emulator_safe_exit :
    ∃ k ≤ 3, ∃ after,
      rvemuSteps default [quietCalls, quietCalls, quietCalls] exitState =
        .ok (List.replicate k true ++ List.replicate (3 - k) false, after) := by
  have safe : Safe (userProcess (Supported exitContext.Within)) (fun p => p.exited = true)
      fun p => p = exitProcess ∨ p.exited = true := by
    constructor
    rintro p (rfl | exited) live env
    · exact ⟨_, exitProcess.call env, exitProcess_step env, .inr rfl⟩
    · exact absurd exited live
  obtain ⟨k, fewer, _, _, after, -, -, ran, -⟩ := emulator_safe default exitState_embodies safe (.inl rfl)
    (.cons quiet_presents (.cons quiet_presents (.cons quiet_presents .nil)))
  exact ⟨k, fewer, after, ran⟩

theorem leads_instr (i : UserInstr) (live : p.exited = false) (fetched : p.hart.fetch = i.encode)
    (supported : Supported allowed p i)
    (later : ∀ env, Leads (userProcess (Supported allowed)) Q (asked ++ [i.request p]) (i.exec env p)) :
    Leads (userProcess (Supported allowed)) Q asked p :=
  .step (fun env => (i.request p, i.exec env p)) (fun _ => ⟨live, i, fetched, supported, rfl, rfl⟩) later

theorem emulator_leads (float : HostFloat) {state : RvState} (embodies : Embodies allowed p state)
    (leads : Leads (userProcess (Supported allowed)) Q [] p) {envs : Nat → Environment} {calls : Nat → HostCalls}
    (presents : ∀ n, Presents (envs n) (calls n)) :
    ∃ n requests p' after,
      rvemuSteps float ((List.range n).map calls) state = .ok (List.replicate n true, after) ∧
        (emulator float).Run state ((List.range n).map calls) requests after ∧
          Embodies allowed p' after ∧ Q requests p' := by
  obtain ⟨n, requests, p', run, holds⟩ := leads.run envs
  have inputs : List.Forall₂ Presents ((List.range n).map envs) ((List.range n).map calls) := by
    rw [List.forall₂_map_left_iff, List.forall₂_map_right_iff, List.forall₂_same]
    exact fun k _ => presents k
  obtain ⟨after, ran, stop⟩ := (emulator_simulates float).run embodies inputs run
  refine ⟨n, requests, p', after, ?_, ran, stop, holds⟩
  simpa using emulator_run ran

end Rules

namespace Puts

def program : List UserInstr :=
  [.base (.opImm .addi 10 0 1), .ecall, .base (.opImm .addi 5 5 0xfff), .base (.branch .bne 5 0 0xffa)]

structure Loaded (allowed : Word → Nat → Prop) (mem : Memory Word) (start buf len : Word) : Prop where
  code : ∀ k i, program[k]? = some i → load mem (byteAddr (start + BitVec.ofNat 32 (4 * k))) 4 = i.encode
  fetchable : ∀ k < 4, allowed (start + BitVec.ofNat 32 (4 * k)) 4
  readable : allowed buf (max 1 len.toNat)

structure At (mem : Memory Word) (start buf len left : Word) (k : Nat) (p : Process) : Prop where
  live : p.exited = false
  mem : p.hart.mem = mem
  pc : p.hart.pc = start + BitVec.ofNat 32 (4 * k)
  left : p.hart.x 5#5 = left
  number : p.hart.x 17#5 = 64
  buf : p.hart.x 11#5 = buf
  len : p.hart.x 12#5 = len

def contents (mem : Memory Word) (buf len : Word) : List Byte :=
  (List.range len.toNat).map fun k => mem (byteAddr buf k)

section Steps

variable {allowed : Word → Nat → Prop} {mem : Memory Word} {start buf len left : Word} {k : Nat} {p : Process}

theorem Loaded.instr (loaded : Loaded allowed mem start buf len) (here : At mem start buf len left k p)
    {i : UserInstr} (listed : program[k]? = some i) : p.hart.fetch = i.encode := by
  rw [Hart.fetch, here.mem, here.pc]
  exact loaded.code k i listed

theorem Loaded.supported (loaded : Loaded allowed mem start buf len) (here : At mem start buf len left k p)
    (inside : k < 4) {i : UserInstr} (instr : InstrSupported allowed p i) : Supported allowed p i := by
  refine ⟨?_, instr⟩
  rw [here.pc]
  exact loaded.fetchable k inside

theorem next_pc (start : Word) (k : Nat) :
    start + BitVec.ofNat 32 (4 * k) + 4 = start + BitVec.ofNat 32 (4 * (k + 1)) := by
  rw [Nat.mul_add, BitVec.ofNat_add, ← BitVec.add_assoc]
  rfl

theorem At.write (here : At mem start buf len left k p) (rd : Reg) (v : Word)
    (other : rd ∉ [5#5, 17#5, 11#5, 12#5]) :
    At mem start buf len left (k + 1) { p with hart := (p.hart.write rd v).next } := by
  have kept : ∀ r, r ∈ [5#5, 17#5, 11#5, 12#5] → (p.hart.write rd v).x r = p.hart.x r := by
    intro r tracked
    rw [Hart.write_x, if_neg]
    rintro ⟨-, rfl⟩
    exact other tracked
  constructor
  · exact here.live
  · exact (Hart.write_mem ..).trans here.mem
  · rw [Hart.next, Hart.jump_pc, Hart.write_pc, here.pc, next_pc]
  · exact (kept _ (by decide)).trans here.left
  · exact (kept _ (by decide)).trans here.number
  · exact (kept _ (by decide)).trans here.buf
  · exact (kept _ (by decide)).trans here.len

theorem At.count (here : At mem start buf len left 2 p) (env : Environment) :
    At mem start buf len (left - 1) 3 ((UserInstr.base (.opImm .addi 5 5 0xfff)).exec env p) := by
  have lowered : (p.hart.write 5#5 (p.hart.x 5#5 + (0xfff#12).signExtend 32)).x 5#5 = left - 1 := by
    have minus : (0xfff#12).signExtend 32 = -1#32 := by decide
    rw [Hart.write_x, if_pos (by decide), here.left, minus, BitVec.sub_eq_add_neg]
    rfl
  have kept : ∀ r, r ≠ 5#5 → (p.hart.write 5#5 (p.hart.x 5#5 + (0xfff#12).signExtend 32)).x r = p.hart.x r := by
    intro r other
    rw [Hart.write_x, if_neg fun counter => other counter.2]
  constructor
  · exact here.live
  · exact (Hart.write_mem ..).trans here.mem
  · rw [UserInstr.exec, Base.exec, Hart.next, Hart.jump_pc, Hart.write_pc, here.pc, next_pc]
  · exact lowered
  · exact (kept _ (by decide)).trans here.number
  · exact (kept _ (by decide)).trans here.buf
  · exact (kept _ (by decide)).trans here.len

theorem branch_exec (env : Environment) (taken : Bool) (same : taken = decide (p.hart.x 5#5 ≠ 0)) :
    (UserInstr.base (.branch .bne 5 0 0xffa)).exec env p =
      { p with hart := p.hart.jump (p.hart.pc + if taken then (branchOffset 0xffa#12).signExtend 32 else 4) } := by
  have zero : p.hart.x 0#5 = 0#32 := p.hart.zero
  subst same
  simp only [UserInstr.exec, Base.exec, BranchOp.taken, Hart.next]
  by_cases counted : p.hart.x 5#5 = 0#32 <;> simp [counted, zero]

theorem At.branch (here : At mem start buf len left 3 p) (env : Environment) :
    At mem start buf len left (if left = 0 then 4 else 0)
      ((UserInstr.base (.branch .bne 5 0 0xffa)).exec env p) := by
  rw [branch_exec env (decide (left ≠ 0)) (by rw [here.left])]
  refine ⟨here.live, here.mem, ?_, here.left, here.number, here.buf, here.len⟩
  by_cases done : left = 0
  · rw [if_pos done, decide_eq_false (not_not.mpr done), Hart.jump_pc, here.pc]
    exact next_pc start 3
  · rw [if_neg done, decide_eq_true done, Hart.jump_pc, here.pc, BitVec.add_assoc]
    exact congrArg (start + ·) (by decide)

theorem At.call (here : At mem start buf len left 1 p) (env : Environment) :
    ∃ v, UserInstr.ecall.exec env p = { p with hart := (p.hart.write 10 v).next } := by
  have number : p.number = 64 := congrArg BitVec.toNat here.number
  simp only [UserInstr.exec, Process.call, number]
  exact ⟨_, rfl⟩

theorem At.request (here : At mem start buf len left 1 p) (fd : p.hart.x 10 = 1) :
    UserInstr.ecall.request p = some (.write 1 (contents mem buf len)) := by
  have number : p.number = 64 := congrArg BitVec.toNat here.number
  have buffer : p.hart.x 11 = buf := here.buf
  have length : p.hart.x 12 = len := here.len
  simp only [UserInstr.request, Process.request, number, fd, buffer, length, Process.bytes, here.mem, contents]

theorem untouching {i : Base} (untouched : i.access p.hart = none) : InstrSupported allowed p (.base i) := by
  intro a len touched
  rw [untouched] at touched
  cases touched

theorem Loaded.call (loaded : Loaded allowed mem start buf len) (here : At mem start buf len left 1 p) :
    InstrSupported allowed p .ecall := by
  have number : p.number = 64 := congrArg BitVec.toNat here.number
  have buffer : p.hart.x 11 = buf := here.buf
  have length : p.hart.x 12 = len := here.len
  simp only [InstrSupported, CallSupported, number, buffer, length]
  exact loaded.readable

end Steps

section Loop

variable {allowed : Word → Nat → Prop} {mem : Memory Word} {start buf len count : Word}

def Inv (mem : Memory Word) (start buf len count : Word) (asked : List (Option Request)) (p : Process) : Prop :=
  ∃ left, At mem start buf len left 0 p ∧ left ≠ 0 ∧ left.toNat ≤ count.toNat ∧
    asked.filterMap id = List.replicate (count.toNat - left.toNat) (.write 1 (contents mem buf len))

def Done (mem : Memory Word) (start buf len count : Word) (asked : List (Option Request)) (p : Process) : Prop :=
  At mem start buf len 0 4 p ∧
    asked.filterMap id = List.replicate count.toNat (.write 1 (contents mem buf len))

theorem round (loaded : Loaded allowed mem start buf len) (asked : List (Option Request)) (p : Process)
    (before : Inv mem start buf len count asked p) :
    Leads (userProcess (Supported allowed))
      (fun asked' p' => Done mem start buf len count asked' p' ∨
        Inv mem start buf len count asked' p' ∧ (p'.hart.x 5#5).toNat < (p.hart.x 5#5).toNat) asked p := by
  obtain ⟨left, here, running, bound, written⟩ := before
  have positive : left.toNat ≠ 0 := fun zero => running (BitVec.eq_of_toNat_eq zero)
  have lower : (left - 1).toNat = left.toNat - 1 := by
    rw [BitVec.toNat_sub_of_le (by rw [BitVec.le_def]; exact Nat.one_le_iff_ne_zero.mpr positive)]
    rfl
  apply leads_instr (.base (.opImm .addi 10 0 1)) here.live (loaded.instr here rfl)
    (loaded.supported here (by decide) (untouching rfl))
  intro env
  have second := here.write 10#5 (ImmOp.addi.eval (p.hart.x 0#5) ((1#12).signExtend 32)) (by decide)
  have fd : (p.hart.write 10#5 (ImmOp.addi.eval (p.hart.x 0#5) ((1#12).signExtend 32))).next.x 10#5 = 1 := by
    rw [Hart.next, Hart.jump_x, Hart.write_x, if_pos (by decide), p.hart.zero]
    decide
  apply leads_instr .ecall second.live (loaded.instr second rfl)
    (loaded.supported second (by decide) (loaded.call second))
  intro env'
  obtain ⟨v, answered⟩ := second.call env'
  have third := second.write 10#5 v (by decide)
  rw [second.request fd, answered]
  apply leads_instr (.base (.opImm .addi 5 5 0xfff)) third.live (loaded.instr third rfl)
    (loaded.supported third (by decide) (untouching rfl))
  intro env''
  have fourth := third.count env''
  apply leads_instr (.base (.branch .bne 5 0 0xffa)) fourth.live (loaded.instr fourth rfl)
    (loaded.supported fourth (by decide) (untouching rfl))
  intro env'''
  have fifth := fourth.branch env'''
  have once : (asked ++ [none] ++ [some (Request.write 1 (contents mem buf len))] ++ [none] ++ [none]).filterMap id =
      List.replicate (count.toNat - left.toNat + 1) (.write 1 (contents mem buf len)) := by
    simpa [List.replicate_succ'] using written
  apply Leads.here
  by_cases last : left - 1 = 0
  · rw [if_pos last, last] at fifth
    refine .inl ⟨fifth, once.trans ?_⟩
    have one : left.toNat - 1 = 0 := by
      rw [← lower, last]
      rfl
    exact congrArg (List.replicate · _) (by omega)
  · rw [if_neg last] at fifth
    refine .inr ⟨⟨left - 1, fifth, last, by omega, once.trans ?_⟩, ?_⟩
    · exact congrArg (List.replicate · _) (by omega)
    · rw [fifth.left, here.left]
      omega

theorem leads_done (loaded : Loaded allowed mem start buf len) {p : Process} (counted : count ≠ 0)
    (here : At mem start buf len count 0 p) :
    Leads (userProcess (Supported allowed)) (Done mem start buf len count) [] p :=
  .loop (fun _ p => (p.hart.x 5#5).toNat) (round loaded) ⟨count, here, counted, Nat.le_refl _, by simp⟩

end Loop

def host : Memory Nat := fun ptr =>
  ((program.flatMap fun (i : UserInstr) => (List.range 4).map (byteOf (n := 4) i.encode)) ++
    [0x68, 0x69, 0x0a]).getD (ptr - 0x5000) 0

def ctx : ElfContext where
  loadRegions :=
    [{ vmaBase := 0x1000, memBase := 0x5000, szReserved := 19, tag := some "LOAD" },
      { vmaBase := 0x2000, memBase := 0x6000, szReserved := 64, tag := some regionTagHeap },
      { vmaBase := 0x3000, memBase := 0x7000, szReserved := 64, tag := some regionTagStack }]
  entryPoint := 0x1000

def state : RvState :=
  ((((rvstateInit ctx host).setRegp 5 3).setRegp 17 64).setRegp 11 0x1010).setRegp 12 3

def flat : Memory Word := fun a => host ((elfVmaToMem ctx a).getD 0)

def process : Process where
  hart := { x := state.regs, zero := rfl, pc := 0x1000, mem := flat }
  f := fun _ => 0
  heap := 0x2000
  limit := 0x2040
  brk := 0x2000

theorem separated : ctx.Separated := by
  constructor <;>
    simp [ctx, ElfLoadRegion.vmaEnd, ElfLoadRegion.memEnd, ElfLoadRegion.Disjoint, ElfLoadRegion.Unshared,
      ElfContext.Buffered]

theorem embodies : Embodies ctx.Within process state where
  agrees := {
    regs := fun _ _ => rfl
    pc := rfl
    mem := by
      intro a ptr found
      have place : elfVmaToMem ctx a = some ptr := found
      simp only [process, flat, place, Option.getD_some, state, RvState.setRegp, rvstateInit] }
  fregs := rfl
  suspended := rfl
  separated := separated
  within := fun _ _ inside => inside
  heap := ⟨_, _, _, rfl, rfl, rfl, rfl⟩

theorem loaded : Loaded ctx.Within flat 0x1000 0x1010 3 where
  code := by
    intro k i listed
    obtain ⟨inside, rfl⟩ := List.getElem?_eq_some_iff.mp listed
    revert k
    decide
  fetchable k inside := by
    refine ⟨_, List.mem_cons_self, ?_⟩
    revert k
    decide
  readable := ⟨_, List.mem_cons_self, by decide⟩

def env : Environment where
  write := fun _ bytes => BitVec.ofNat 32 bytes.length
  stat := fun _ => (0, some fun _ => 0)

def calls : HostCalls where
  write := fun _ _ count _ => .value count
  fstat := fun _ buff host => (.value 0, ByteMemory.write host (hostCell buff) statSize fun _ => 0)

theorem presents : Presents env calls where
  write fd buff count host := by
    simp [calls, env, HostResult.toIword, hostBytes]
  answer _ _ _ := rfl
  unwritten := nofun
  record := by
    rintro fd buff host record ⟨⟩
    rfl

end Puts

open Puts in
theorem emulator_leads_puts :
    ∃ (n : Nat) (requests : List (Option Request)) (after : RvState),
      rvemuSteps default (List.replicate n Puts.calls) Puts.state = .ok (List.replicate n true, after) ∧
        requests.filterMap id = List.replicate 3 (Request.write 1 [0x68, 0x69, 0x0a]) := by
  have start : At flat 0x1000 0x1010 3 3 0 process :=
    ⟨rfl, by simp only [process], by decide, by decide, by decide, by decide, by decide⟩
  obtain ⟨n, requests, p', after, ran, -, -, -, written⟩ :=
    emulator_leads default embodies (leads_done loaded (by decide) start) fun _ => presents
  have text : contents flat 0x1010 3 = [0x68, 0x69, 0x0a] := by decide
  rw [text] at written
  refine ⟨n, requests, after, ?_, written⟩
  simpa [List.map_const'] using ran

end Urv86t
