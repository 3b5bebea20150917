import Urv86t.Breakpoint.Session
import Urv86t.Emulator.Bare

set_option autoImplicit false

namespace Urv86t

def listAfter {α β : Type} (run : Except Abort α) (later : α → List β) : List β :=
  match run with
  | .error _ => []
  | .ok out => later out

section ListAfter

variable {α β : Type}

@[simp] theorem listAfter_error (abort : Abort) (later : α → List β) : listAfter (.error abort) later = [] := rfl

@[simp] theorem listAfter_ok (out : α) (later : α → List β) : listAfter (.ok out) later = later out := rfl

end ListAfter

def bkptUserCalls (float : HostFloat) : List UserCommand → Watched → List HostCalls
  | [], _ => []
  | .continue :: _, _ => []
  | .step calls :: rest, emu =>
    calls :: listAfter (watchedStep float calls emu) fun out => bkptUserCalls float rest out.2
  | .regs :: rest, emu => bkptUserCalls float rest emu
  | .unknown :: rest, emu => bkptUserCalls float rest emu

def mainBodyCalls (float : HostFloat) (commands : List UserCommand) (emu : Watched) : List HostCalls :=
  match rvbkptPoll emu.state with
  | (none, _) => []
  | (some _, state) => bkptUserCalls float commands { emu with state := state }

def mainCalls (float : HostFloat) : List Round → Watched → List HostCalls
  | [], _ => []
  | round :: rest, emu =>
    round.calls :: listAfter (watchedStep float round.calls emu) fun out =>
      if out.1 then
        mainBodyCalls float round.commands out.2 ++
          listAfter (mainBody float round.commands out.2) (mainCalls float rest)
      else []

section Served

variable {float : HostFloat} {ok : HostCalls → Prop}

theorem listAfter_served {α : Type} {run : Except Abort α} {later : α → List HostCalls}
    (served : ∀ out, ∀ calls ∈ later out, ok calls) : ∀ calls ∈ listAfter run later, ok calls := by
  cases run with
  | error abort => exact List.forall_mem_nil _
  | ok out => exact served out

theorem bkptUserCalls_served {commands : List UserCommand} {emu : Watched}
    (typed : ∀ calls, .step calls ∈ commands → ok calls) : ∀ calls ∈ bkptUserCalls float commands emu, ok calls := by
  induction commands generalizing emu with
  | nil => exact List.forall_mem_nil _
  | cons command rest ih =>
    have others : ∀ calls, .step calls ∈ rest → ok calls :=
      fun calls listed => typed calls (List.mem_cons_of_mem _ listed)
    cases command with
    | «continue» => exact List.forall_mem_nil _
    | step calls =>
      exact List.forall_mem_cons.mpr ⟨typed calls List.mem_cons_self, listAfter_served fun out => ih others⟩
    | regs => exact ih others
    | unknown => exact ih others

theorem mainCalls_served {rounds : List Round} {emu : Watched} (served : ∀ round ∈ rounds, round.Served ok) :
    ∀ calls ∈ mainCalls float rounds emu, ok calls := by
  induction rounds generalizing emu with
  | nil => exact List.forall_mem_nil _
  | cons round rest ih =>
    obtain ⟨first, others⟩ := List.forall_mem_cons.mp served
    refine List.forall_mem_cons.mpr ⟨first.calls, listAfter_served fun out => ?_⟩
    obtain ⟨running, next⟩ := out
    cases running with
    | false => exact List.forall_mem_nil _
    | true =>
      refine List.forall_mem_append.mpr ⟨?_, listAfter_served fun emu => ih others⟩
      unfold mainBodyCalls
      generalize rvbkptPoll next.state = polled
      obtain ⟨which, state⟩ := polled
      cases which with
      | none => exact List.forall_mem_nil _
      | some evIdx => exact bkptUserCalls_served first.commands

end Served

section Steps

variable {float : HostFloat} {state : RvState} {emu : Watched}

theorem rvemuSteps_cons {calls : HostCalls} {rest : List HostCalls} {running : Bool} {next last : RvState}
    {results : List Bool} (stepped : rvemuStep float calls state = .ok (running, next))
    (ran : rvemuSteps float rest next = .ok (results, last)) :
    rvemuSteps float (calls :: rest) state = .ok (running :: results, last) := by
  rw [rvemuSteps, stepped]
  simp only [bind, Except.bind, ran]
  rfl

theorem SameGuest.watched {calls : HostCalls} {running : Bool} {next : Watched} (same : SameGuest state emu.state)
    (stepped : watchedStep float calls emu = .ok (running, next)) :
    ∃ after, rvemuStep float calls state = .ok (running, after) ∧ SameGuest after next.state := by
  obtain ⟨⟨returned, final⟩, result, stepped⟩ := bind_returned stepped
  cases stepped
  obtain ⟨after, ran, alike⟩ := same.symm.stepped result
  exact ⟨after, ran, alike.symm⟩

theorem bkptUserLoop_steps {commands : List UserCommand} {last : Watched} (same : SameGuest state emu.state)
    (ran : bkptUserLoop float commands emu = .ok last) :
    ∃ results after, rvemuSteps float (bkptUserCalls float commands emu) state = .ok (results, after) ∧
      SameGuest after last.state := by
  induction commands generalizing state emu with
  | nil =>
    cases ran
    exact ⟨[], state, rfl, same⟩
  | cons command rest ih =>
    cases command with
    | «continue» =>
      cases ran
      exact ⟨[], state, rfl, same⟩
    | step calls =>
      rw [bkptUserLoop] at ran
      obtain ⟨⟨running, next⟩, stepped, onward⟩ := bind_returned ran
      obtain ⟨mid, step, alike⟩ := same.watched stepped
      obtain ⟨results, after, later, final⟩ := ih alike onward
      refine ⟨running :: results, after, ?_, final⟩
      rw [bkptUserCalls, stepped, listAfter_ok]
      exact rvemuSteps_cons step later
    | regs => exact ih same ran
    | unknown => exact ih same ran

theorem mainBody_steps {commands : List UserCommand} {last : Watched} (same : SameGuest state emu.state)
    (ran : mainBody float commands emu = .ok last) :
    ∃ results after, rvemuSteps float (mainBodyCalls float commands emu) state = .ok (results, after) ∧
      SameGuest after last.state := by
  obtain ⟨table, framed⟩ := rvbkptPoll_frame emu.state
  have polled := same.trans (framed ▸ withTable_sameGuest emu.state table)
  unfold mainBody at ran
  unfold mainBodyCalls
  generalize rvbkptPoll emu.state = out at ran polled ⊢
  obtain ⟨which, next⟩ := out
  cases which with
  | none =>
    cases ran
    exact ⟨[], state, rfl, polled⟩
  | some evIdx => exact bkptUserLoop_steps polled ran

theorem mainRun_steps {rounds : List Round} {last : Watched} (same : SameGuest state emu.state)
    (ran : mainRun float rounds emu = .ok (some last)) :
    ∃ results after, rvemuSteps float (mainCalls float rounds emu) state = .ok (results, after) ∧
      SameGuest after last.state := by
  induction rounds generalizing state emu with
  | nil => cases ran
  | cons round rest ih =>
    rw [mainRun] at ran
    obtain ⟨⟨running, next⟩, stepped, onward⟩ := bind_returned ran
    obtain ⟨mid, step, alike⟩ := same.watched stepped
    rw [mainCalls, stepped, listAfter_ok]
    cases running with
    | false =>
      cases onward
      exact ⟨[false], mid, rvemuSteps_cons step rfl, alike⟩
    | true =>
      simp only [if_true] at onward ⊢
      obtain ⟨body, inBody, behind⟩ := bind_returned onward
      obtain ⟨prompted, mid', asked, alike'⟩ := mainBody_steps alike inBody
      obtain ⟨results, after, later, final⟩ := ih alike' behind
      rw [inBody, listAfter_ok]
      exact ⟨true :: (prompted ++ results), after, rvemuSteps_cons step (rvemuSteps_append asked later), final⟩

end Steps

theorem SameOutcome.trans {left middle right : Except Abort (Bool × RvState)} (first : SameOutcome left middle)
    (second : SameOutcome middle right) : SameOutcome left right := by
  cases first with
  | aborted abort => exact second
  | returned running same =>
    cases second with
    | returned running same' => exact .returned running (same.trans same')

theorem rvemuDispatchBare_check (float : HostFloat) (calls : HostCalls) (state : RvState) (insn : Insn) :
    SameOutcome ((rvemuDispatchBare float calls state insn).map (Prod.mk true))
      ((rvemuDispatch float calls state insn).map fun arm => (true, arm.state)) := by
  have checked : rvbkptCheckInsn state insn = state.withTable (rvbkptCheckInsn state insn).bkptEvArr := rfl
  rw [rvemuDispatchBare, rvemuDispatch, checked, rvemuDispatchInsn_withTable]
  cases rvemuDispatchInsn float calls state insn with
  | error abort => exact .aborted abort
  | ok arm => exact .returned true (withTable_sameGuest _ _)

theorem rvemuStepBare_check (float : HostFloat) (calls : HostCalls) (state : RvState) :
    SameOutcome (rvemuStepBare float calls state) (rvemuStep float calls state) := by
  rw [rvemuStepBare, rvemuStep, rvemuStepOut]
  by_cases suspended : state.suspended = true
  · rw [if_pos suspended, if_pos suspended]
    exact .returned false (.refl state)
  rw [if_neg suspended, if_neg suspended]
  simp only [bind, Except.bind]
  cases read : rvstateFetch (state.setRegp 0 0) with
  | error abort => exact .aborted abort
  | ok word =>
    cases decoded : rvdecInsn (state.setRegp 0 0) word.1 with
    | error abort =>
      simp only [decoded]
      exact .aborted abort
    | ok out =>
      simp only [decoded]
      by_cases invalid : out.1.insnTy = .invalid
      · rw [if_pos invalid, if_pos invalid]
        exact .returned false (.refl out.2)
      · rw [if_neg invalid, if_neg invalid]
        have dispatched := rvemuDispatchBare_check float calls out.2 out.1
        revert dispatched
        cases rvemuDispatchBare float calls out.2 out.1 <;> cases rvemuDispatch float calls out.2 out.1 <;> exact id

theorem SameGuest.stepBare {bare state : RvState} (same : SameGuest bare state) (float : HostFloat)
    (calls : HostCalls) : SameOutcome (rvemuStepBare float calls bare) (rvemuStep float calls state) :=
  (rvemuStepBare_check float calls bare).trans (same.step float calls)

/-- The bare loop, served with the calls `used` so far, has done what the session has done. -/
inductive Shadows (float : HostFloat) (bare : RvState) (used : List HostCalls) :
    Except Abort (Bool × Watched) → Prop where
  | aborted {abort : Abort} (ran : ∀ later, mainRunBare float (used ++ later) bare = .error abort) :
      Shadows float bare used (.error abort)
  | running {next : RvState} {emu : Watched}
      (ran : ∀ later, mainRunBare float (used ++ later) bare = mainRunBare float later next)
      (same : SameGuest next emu.state) : Shadows float bare used (.ok (true, emu))
  | halted {final : RvState} {emu : Watched}
      (ran : ∀ later, mainRunBare float (used ++ later) bare = .ok (some final))
      (same : SameGuest final emu.state) (stuck : Stuck float emu.state) : Shadows float bare used (.ok (false, emu))

section Sessions

variable {float : HostFloat} {bare : RvState} {used : List HostCalls} {running : Bool} {emu : Watched}

theorem Shadows.step (shadows : Shadows float bare used (.ok (running, emu))) (calls : HostCalls) :
    Shadows float bare (used ++ [calls]) (watchedStep float calls emu) := by
  cases shadows with
  | @running next _ ran same =>
    have onward : ∀ later, mainRunBare float (used ++ [calls] ++ later) bare =
        mainRunBare float (calls :: later) next := by
      intro later
      rw [List.append_assoc, ran]
      rfl
    have outcome := same.stepBare float calls
    simp only [mainRunBare] at onward
    rw [watchedStep]
    generalize rvemuStepBare float calls next = left at outcome onward
    generalize right_eq : rvemuStep float calls emu.state = right at outcome
    cases outcome with
    | aborted abort => exact .aborted onward
    | @returned left right running same =>
      cases running with
      | true => exact .running onward same
      | false => exact .halted onward same (rvemuStep_stuck right_eq).2
  | halted ran same stuck =>
    obtain ⟨fetched, stepped⟩ := watchedStep_returned (stuck calls)
    rw [stepped]
    refine .halted (fun later => ?_) same stuck
    rw [List.append_assoc]
    exact ran _

theorem Shadows.user (shadows : Shadows float bare used (.ok (running, emu))) (commands : List UserCommand) :
    ∃ running', Shadows float bare (used ++ bkptUserCalls float commands emu)
      ((bkptUserLoop float commands emu).map (Prod.mk running')) := by
  induction commands generalizing used running emu with
  | nil =>
    rw [bkptUserCalls, List.append_nil]
    exact ⟨running, shadows⟩
  | cons command rest ih =>
    cases command with
    | «continue» =>
      rw [bkptUserCalls, List.append_nil]
      exact ⟨running, shadows⟩
    | step calls =>
      have stepped := shadows.step calls
      rw [bkptUserCalls, bkptUserLoop, ← List.singleton_append, ← List.append_assoc]
      generalize watchedStep float calls emu = out at stepped ⊢
      cases out with
      | error abort =>
        refine ⟨running, ?_⟩
        rw [listAfter_error, List.append_nil]
        exact stepped
      | ok out => exact ih stepped
    | regs => exact ih shadows
    | unknown => exact ih shadows

theorem Shadows.polled (shadows : Shadows float bare used (.ok (true, emu))) {state : RvState}
    (same : SameGuest emu.state state) : Shadows float bare used (.ok (true, { emu with state := state })) := by
  cases shadows with
  | running ran before => exact .running ran (before.trans same)

theorem Shadows.body (shadows : Shadows float bare used (.ok (true, emu))) (commands : List UserCommand) :
    ∃ running', Shadows float bare (used ++ mainBodyCalls float commands emu)
      ((mainBody float commands emu).map (Prod.mk running')) := by
  obtain ⟨table, framed⟩ := rvbkptPoll_frame emu.state
  have polled := shadows.polled (framed ▸ withTable_sameGuest emu.state table)
  unfold mainBodyCalls mainBody
  generalize rvbkptPoll emu.state = out at polled
  obtain ⟨which, state⟩ := out
  cases which with
  | none =>
    rw [List.append_nil]
    exact ⟨true, polled⟩
  | some evIdx => exact polled.user commands

theorem Shadows.main (shadows : Shadows float bare used (.ok (running, emu))) (rounds : List Round) :
    (∃ running' emu', Shadows float bare (used ++ mainCalls float rounds emu) (.ok (running', emu')) ∧
        rounds.length ≤ (mainCalls float rounds emu).length ∧
        ∀ more, mainRun float (rounds ++ more) emu = mainRun float more emu') ∨
      ∃ final ∈ loopEnd (mainRun float rounds emu),
        Shadows float bare (used ++ mainCalls float rounds emu) (final.map (Prod.mk false)) := by
  induction rounds generalizing used running emu with
  | nil =>
    rw [mainCalls, List.append_nil]
    exact .inl ⟨running, emu, shadows, Nat.le_refl 0, fun _ => rfl⟩
  | cons round rest ih =>
    have stepped := shadows.step round.calls
    simp only [mainCalls, mainRun, List.cons_append, List.length_cons]
    rw [← List.singleton_append, ← List.append_assoc]
    generalize watchedStep float round.calls emu = out at stepped ⊢
    obtain abort | ⟨running', next⟩ := out
    · rw [listAfter_error, List.append_nil]
      exact .inr ⟨.error abort, rfl, stepped⟩
    cases running' with
    | false =>
      refine .inr ⟨.ok next, rfl, ?_⟩
      simp only [listAfter_ok, Bool.false_eq_true, if_false, List.append_nil]
      exact stepped
    | true =>
      obtain ⟨running', body⟩ := stepped.body round.commands
      simp only [listAfter_ok, if_true, bind, Except.bind, ← List.append_assoc (used ++ [round.calls])]
      generalize mainBody float round.commands next = after at body ⊢
      cases after with
      | error abort =>
        rw [listAfter_error, List.append_nil]
        exact .inr ⟨.error abort, rfl, body⟩
      | ok emu' =>
        rw [listAfter_ok]
        rcases ih body with ⟨running'', emu'', shadows', longer, later⟩ | ended
        · refine .inl ⟨running'', emu'', shadows', ?_, later⟩
          rw [List.length_append]
          omega
        · exact .inr ended

end Sessions

def ComesTo {α : Type} (run : Nat → Except Abort (Option α)) (final : Except Abort α) : Prop :=
  ∃ n, final ∈ loopEnd (run n)

inductive SameEnd : Except Abort RvState → Except Abort Watched → Prop where
  | aborted (abort : Abort) : SameEnd (.error abort) (.error abort)
  | returned {state : RvState} {emu : Watched} (same : SameGuest state emu.state) : SameEnd (.ok state) (.ok emu)

section Ends

variable {float : HostFloat} {bare : RvState}

theorem mainRunBare_append {calls : List HostCalls} {final : Except Abort RvState}
    (come : final ∈ loopEnd (mainRunBare float calls bare)) (later : List HostCalls) :
    final ∈ loopEnd (mainRunBare float (calls ++ later) bare) := by
  induction calls generalizing bare with
  | nil => cases come
  | cons first rest ih =>
    rw [List.cons_append]
    rw [mainRunBare] at come ⊢
    generalize rvemuStepBare float first bare = out at come ⊢
    obtain abort | ⟨running, next⟩ := out
    · exact come
    cases running with
    | false => exact come
    | true => exact ih come

theorem mainRunBare_longer (host : Nat → HostCalls) {m n : Nat} (fewer : m ≤ n) {final : Except Abort RvState}
    (come : final ∈ loopEnd (mainRunBare float ((List.range m).map host) bare)) :
    final ∈ loopEnd (mainRunBare float ((List.range n).map host) bare) := by
  obtain ⟨more, rfl⟩ := Nat.exists_eq_add_of_le fewer
  rw [List.range_add, List.map_append]
  exact mainRunBare_append come _

theorem mainRunBare_unique {host : Nat → HostCalls} {left right : Except Abort RvState}
    (first : ComesTo (fun n => mainRunBare float ((List.range n).map host) bare) left)
    (second : ComesTo (fun n => mainRunBare float ((List.range n).map host) bare) right) : left = right := by
  obtain ⟨m, first⟩ := first
  obtain ⟨n, second⟩ := second
  have longer := mainRunBare_longer host (Nat.le_max_left m n) first
  exact Option.mem_unique longer (mainRunBare_longer host (Nat.le_max_right m n) second)

theorem Shadows.ended {used : List HostCalls} {final : Except Abort Watched}
    (shadows : Shadows float bare used (final.map (Prod.mk false))) :
    ∃ bareFinal ∈ loopEnd (mainRunBare float used bare), SameEnd bareFinal final := by
  generalize out_eq : final.map (Prod.mk false) = out at shadows
  cases shadows with
  | @aborted abort ran =>
    cases final with
    | error abort =>
      cases out_eq
      have ran := ran []
      rw [List.append_nil] at ran
      exact ⟨_, by rw [ran]; rfl, .aborted abort⟩
    | ok emu => cases out_eq
  | running ran same => cases final <;> cases out_eq
  | halted ran same stuck =>
    cases final with
    | error abort => cases out_eq
    | ok emu =>
      cases out_eq
      have ran := ran []
      rw [List.append_nil] at ran
      exact ⟨_, by rw [ran]; rfl, .returned same⟩

end Ends

section Transparency

variable {float : HostFloat} {host : Nat → HostCalls} {rounds : Nat → Round} {bare : RvState} {emu : Watched}

def ServedBy (float : HostFloat) (host : Nat → HostCalls) (rounds : Nat → Round) (emu : Watched) : Prop :=
  ∀ n, ∃ m, mainCalls float ((List.range n).map rounds) emu = (List.range m).map host

theorem mainRun_shadowed (same : SameGuest bare emu.state) (served : ServedBy float host rounds emu)
    {final : Except Abort Watched} (come : ComesTo (fun n => mainRun float ((List.range n).map rounds) emu) final) :
    ∃ bareFinal, ComesTo (fun n => mainRunBare float ((List.range n).map host) bare) bareFinal ∧
      SameEnd bareFinal final := by
  obtain ⟨n, come⟩ := come
  have start : Shadows float bare [] (.ok (true, emu)) := .running (fun _ => rfl) same
  obtain ⟨m, calls⟩ := served n
  rcases start.main ((List.range n).map rounds) with ⟨_, emu', -, -, waits⟩ | ⟨final', come', shadows⟩
  · have waits := waits []
    rw [List.append_nil] at waits
    change final ∈ loopEnd (mainRun float ((List.range n).map rounds) emu) at come
    rw [waits] at come
    cases come
  · cases Option.mem_unique come come'
    obtain ⟨bareFinal, ended, alike⟩ := shadows.ended
    rw [List.nil_append, calls] at ended
    exact ⟨bareFinal, ⟨m, ended⟩, alike⟩

theorem mainRun_ends (same : SameGuest bare emu.state) (served : ServedBy float host rounds emu)
    {bareFinal : Except Abort RvState}
    (come : ComesTo (fun n => mainRunBare float ((List.range n).map host) bare) bareFinal) :
    ∃ final, ComesTo (fun n => mainRun float ((List.range n).map rounds) emu) final := by
  obtain ⟨m, come⟩ := come
  have start : Shadows float bare [] (.ok (true, emu)) := .running (fun _ => rfl) same
  obtain ⟨k, calls⟩ := served m
  rcases start.main ((List.range m).map rounds) with ⟨_, emu', shadows, longer, waits⟩ | ⟨final, ended, -⟩
  · cases shadows with
    | running ran same =>
      -- The bare loop has been given as many calls, so it has come to its end already.
      have ran := ran []
      rw [List.nil_append, List.append_nil, calls] at ran
      rw [calls, List.length_map, List.length_map, List.length_range, List.length_range] at longer
      have late := mainRunBare_longer host longer come
      rw [ran] at late
      cases late
    | halted ran same stuck =>
      obtain ⟨fetched, stepped⟩ := watchedStep_returned (stuck (rounds m).calls)
      refine ⟨.ok ⟨emu'.state, fetched⟩, m + 1, ?_⟩
      change _ ∈ loopEnd (mainRun float ((List.range (m + 1)).map rounds) emu)
      rw [List.range_succ, List.map_append, List.map_singleton, waits, mainRun, stepped]
      rfl
  · exact ⟨final, m, ended⟩

theorem mainRun_transparent (float : HostFloat) (same : SameGuest bare emu.state)
    (served : ServedBy float host rounds emu) :
    (∀ final, ComesTo (fun n => mainRun float ((List.range n).map rounds) emu) final →
        ∃ bareFinal, ComesTo (fun n => mainRunBare float ((List.range n).map host) bare) bareFinal ∧
          SameEnd bareFinal final) ∧
      ∀ bareFinal, ComesTo (fun n => mainRunBare float ((List.range n).map host) bare) bareFinal →
        ∃ final, ComesTo (fun n => mainRun float ((List.range n).map rounds) emu) final ∧ SameEnd bareFinal final := by
  refine ⟨fun final come => mainRun_shadowed same served come, fun bareFinal come => ?_⟩
  obtain ⟨final, ended⟩ := mainRun_ends same served come
  obtain ⟨bareFinal', come', alike⟩ := mainRun_shadowed same served ended
  cases mainRunBare_unique come come'
  exact ⟨final, ended, alike⟩

theorem servedBy_always {calls : HostCalls} (served : ∀ k, (rounds k).Served (· = calls)) :
    ServedBy float (fun _ => calls) rounds emu := by
  intro n
  refine ⟨(mainCalls float ((List.range n).map rounds) emu).length, ?_⟩
  rw [List.map_const', List.length_range, List.eq_replicate_iff]
  refine ⟨rfl, mainCalls_served fun round listed => ?_⟩
  obtain ⟨k, -, rfl⟩ := List.mem_map.mp listed
  exact served k

end Transparency

-- `li a7, 93; ecall`, with a breakpoint on the first instruction.
def quitState (table : BkptTable) : RvState :=
  (rvstateInit
    { loadRegions := [{ vmaBase := 0x1000, memBase := 0x5000, szReserved := 8 }], entryPoint := 0x1000 }
    fun ptr => [0x93, 0x08, 0xd0, 0x05, 0x73, 0x00, 0x00, 0x00].getD (ptr - 0x5000) 0).withTable table

-- The second instruction is stepped over at the prompt.
def promptRound : Round := ⟨default, [.regs, .step default, .unknown, .continue]⟩

theorem mainRun_transparent_exit :
    ∃ final, ComesTo (fun n => mainRun default ((List.range n).map fun _ => promptRound)
        ⟨quitState (Function.update (fun _ => {}) 0 spinBkpt), none⟩) (.ok final) ∧ final.state.suspended = true := by
  have served : ∀ k : Nat, ((fun _ => promptRound) k).Served (· = default) := by
    refine fun _ => ⟨rfl, fun calls listed => ?_⟩
    simpa [promptRound] using listed
  obtain ⟨after, come, suspended⟩ : ∃ after : RvState,
      mainRunBare default [default, default, default] (quitState fun _ => {}) = .ok (some after) ∧
        after.suspended = true := ⟨_, rfl, rfl⟩
  have same : SameGuest (quitState fun _ => {}) (quitState (Function.update (fun _ => {}) 0 spinBkpt)) :=
    ⟨rfl, rfl, rfl, rfl, rfl, rfl⟩
  obtain ⟨final, come', alike⟩ :=
    (@mainRun_transparent _ _ _ ⟨_, none⟩ default same (servedBy_always served)).2 (.ok after)
      ⟨3, congrArg loopEnd come⟩
  cases alike with
  | @returned _ emu same => exact ⟨emu, come', same.suspended.symm.trans suspended⟩

end Urv86t
