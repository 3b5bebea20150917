import Urv86t.Breakpoint.Guest
import Urv86t.Runs.Halting
import Urv86t.Runs.Requests

set_option autoImplicit false

namespace Urv86t

open Simulation

structure Round.Served (ok : HostCalls → Prop) (round : Round) : Prop where
  calls : ok round.calls
  commands : ∀ calls, .step calls ∈ round.commands → ok calls

def loopEnd {α : Type} : Except Abort (Option α) → Option (Except Abort α)
  | .error abort => some (.error abort)
  | .ok none => none
  | .ok (some final) => some (.ok final)

theorem loopEnd_ok {α : Type} {run : Except Abort (Option α)} {final : α} (come : .ok final ∈ loopEnd run) :
    run = .ok (some final) := by
  cases run with
  | error abort => cases come
  | ok out =>
    cases out with
    | none => cases come
    | some final =>
      cases come
      rfl

def Finishes (float : HostFloat) (final : Except Abort RvState → Prop) (rounds : Nat → Round)
    (run : Except Abort Watched) : Prop :=
  ∃ n, ∃ result ∈ loopEnd (run >>= mainRun float ((List.range n).map rounds)), final (result.map Watched.state)

def Ending (float : HostFloat) (ok : HostCalls → Prop) (final : Except Abort RvState → Prop) (state : RvState) :
    Prop :=
  ∀ calls, ok calls → (∃ abort, rvemuStep float calls state = .error abort ∧ final (.error abort)) ∨
    ∃ halted, rvemuStep float calls state = .ok (false, halted) ∧ final (.ok halted)

section Steps

variable {float : HostFloat} {calls : HostCalls} {emu : Watched} {left right : RvState}
  {final : Except Abort RvState → Prop} {rounds : Nat → Round}

theorem SameGuest.stepped {running : Bool} {next : RvState} (same : SameGuest left right)
    (stepped : rvemuStep float calls left = .ok (running, next)) :
    ∃ next', rvemuStep float calls right = .ok (running, next') ∧ SameGuest next next' := by
  have outcome := same.step float calls
  rw [stepped] at outcome
  generalize rvemuStep float calls right = out at outcome
  cases outcome with
  | returned running after => exact ⟨_, rfl, after⟩

theorem SameGuest.aborted {abort : Abort} (same : SameGuest left right)
    (stepped : rvemuStep float calls left = .error abort) : rvemuStep float calls right = .error abort := by
  have outcome := same.step float calls
  rw [stepped] at outcome
  generalize rvemuStep float calls right = out at outcome
  cases outcome with
  | aborted abort => rfl

theorem watchedStep_returned {running : Bool} {next : RvState}
    (stepped : rvemuStep float calls emu.state = .ok (running, next)) :
    ∃ fetched, watchedStep float calls emu = .ok (running, ⟨next, fetched⟩) := by
  rw [watchedStep, stepped]
  exact ⟨_, rfl⟩

theorem watchedStep_aborted {abort : Abort} (stepped : rvemuStep float calls emu.state = .error abort) :
    watchedStep float calls emu = .error abort := by
  rw [watchedStep, stepped]
  rfl

theorem bkptUserLoop_stuck (stuck : Stuck float emu.state) (commands : List UserCommand) :
    ∃ fetched, bkptUserLoop float commands emu = .ok ⟨emu.state, fetched⟩ := by
  induction commands generalizing emu with
  | nil => exact ⟨emu.fetched, rfl⟩
  | cons command rest ih =>
    cases command with
    | «continue» => exact ⟨emu.fetched, rfl⟩
    | step calls =>
      obtain ⟨fetched, stepped⟩ := watchedStep_returned (stuck calls)
      rw [bkptUserLoop, stepped]
      exact @ih ⟨emu.state, fetched⟩ stuck
    | regs => exact ih stuck
    | unknown => exact ih stuck

theorem mainBody_polled (float : HostFloat) (emu : Watched) (commands : List UserCommand) :
    ∃ polled, SameGuest emu.state polled ∧
      (mainBody float commands emu = bkptUserLoop float commands { emu with state := polled } ∨
        mainBody float commands emu = bkptUserLoop float [] { emu with state := polled }) := by
  obtain ⟨table, framed⟩ := rvbkptPoll_frame emu.state
  refine ⟨(rvbkptPoll emu.state).2, framed ▸ withTable_sameGuest emu.state table, ?_⟩
  unfold mainBody
  generalize rvbkptPoll emu.state = out
  obtain ⟨which, polled⟩ := out
  cases which with
  | none => exact .inr rfl
  | some evIdx => exact .inl rfl

theorem nothing_typed {ok : HostCalls → Prop} (calls : HostCalls) (listed : .step calls ∈ ([] : List UserCommand)) :
    ok calls := absurd listed List.not_mem_nil

theorem finishes_aborted {abort : Abort} (holds : final (.error abort)) :
    Finishes float final rounds (.error abort) := ⟨0, .error abort, rfl, holds⟩

theorem finishes_stuck (stuck : Stuck float emu.state) (holds : final (.ok emu.state)) :
    Finishes float final rounds (.ok emu) := by
  obtain ⟨fetched, stepped⟩ := watchedStep_returned (stuck (rounds 0).calls)
  refine ⟨1, .ok ⟨emu.state, fetched⟩, ?_, holds⟩
  change _ ∈ loopEnd (mainRun float [rounds 0] emu)
  rw [mainRun, stepped]
  rfl

theorem finishes_round {next : RvState} {fetched : Option (BitVec 32 × BitVec 32)}
    (stepped : watchedStep float (rounds 0).calls emu = .ok (true, ⟨next, fetched⟩))
    (later : Finishes float final (fun k => rounds (k + 1)) (mainBody float (rounds 0).commands ⟨next, fetched⟩)) :
    Finishes float final rounds (.ok emu) := by
  obtain ⟨n, result, ended, holds⟩ := later
  refine ⟨n + 1, result, ?_, holds⟩
  rw [List.range_succ_eq_map, List.map_cons, List.map_map]
  change _ ∈ loopEnd (mainRun float (rounds 0 :: (List.range n).map fun k => rounds (k + 1)) emu)
  rw [mainRun, stepped]
  exact ended

end Steps

structure KeptBySteps (float : HostFloat) (ok : HostCalls → Prop) (Kept : RvState → Prop) : Prop where
  same : ∀ {left right}, SameGuest left right → Kept left → Kept right
  step : ∀ {state calls}, Kept state → ok calls →
    ∃ running next, rvemuStep float calls state = .ok (running, next) ∧ Kept next

section Keeping

variable {float : HostFloat} {ok : HostCalls → Prop} {Kept : RvState → Prop}

theorem KeptBySteps.watched (keeps : KeptBySteps float ok Kept) {emu : Watched} (kept : Kept emu.state)
    {calls : HostCalls} (isOk : ok calls) :
    ∃ running emu', watchedStep float calls emu = .ok (running, emu') ∧ Kept emu'.state ∧
      (running = false → Stuck float emu'.state) := by
  obtain ⟨running, next, stepped, onward⟩ := keeps.step kept isOk
  obtain ⟨fetched, watched⟩ := watchedStep_returned stepped
  refine ⟨running, ⟨next, fetched⟩, watched, onward, ?_⟩
  rintro rfl
  exact (rvemuStep_stuck stepped).2

theorem KeptBySteps.user (keeps : KeptBySteps float ok Kept) {emu : Watched} (kept : Kept emu.state)
    {commands : List UserCommand} (typed : ∀ calls, .step calls ∈ commands → ok calls) :
    ∃ emu', bkptUserLoop float commands emu = .ok emu' ∧ Kept emu'.state := by
  induction commands generalizing emu with
  | nil => exact ⟨emu, rfl, kept⟩
  | cons command rest ih =>
    have others : ∀ calls, .step calls ∈ rest → ok calls :=
      fun calls listed => typed calls (List.mem_cons_of_mem _ listed)
    cases command with
    | «continue» => exact ⟨emu, rfl, kept⟩
    | step calls =>
      obtain ⟨running, next, stepped, onward, -⟩ := keeps.watched kept (typed calls List.mem_cons_self)
      rw [bkptUserLoop, stepped]
      exact ih onward others
    | regs => exact ih kept others
    | unknown => exact ih kept others

theorem KeptBySteps.main (keeps : KeptBySteps float ok Kept) {emu : Watched} (kept : Kept emu.state)
    {rounds : List Round} (served : ∀ round ∈ rounds, round.Served ok) :
    ∃ out, mainRun float rounds emu = .ok out ∧ ∀ emu' ∈ out, Kept emu'.state ∧ Stuck float emu'.state := by
  induction rounds generalizing emu with
  | nil =>
    refine ⟨none, rfl, ?_⟩
    rintro emu' ⟨⟩
  | cons round rest ih =>
    obtain ⟨first, others⟩ := List.forall_mem_cons.mp served
    obtain ⟨running, next, stepped, onward, stuck⟩ := keeps.watched kept first.calls
    rw [mainRun, stepped]
    cases running with
    | false =>
      refine ⟨some next, rfl, ?_⟩
      rintro emu' ⟨⟩
      exact ⟨onward, stuck rfl⟩
    | true =>
      obtain ⟨polled, same, asks | passes⟩ := mainBody_polled float next round.commands
      · obtain ⟨emu', looped, later⟩ :=
          @KeptBySteps.user _ _ _ keeps ⟨polled, next.fetched⟩ (keeps.same same onward) _ first.commands
        obtain ⟨out, ran, holds⟩ := ih later others
        refine ⟨out, ?_, holds⟩
        simp only [bind, Except.bind, if_true, asks, looped, ran]
      · obtain ⟨out, ran, holds⟩ := @ih ⟨polled, next.fetched⟩ (keeps.same same onward) others
        refine ⟨out, ?_, holds⟩
        simp only [bind, Except.bind, if_true, passes, bkptUserLoop, ran]

end Keeping

section Sessions

variable {float : HostFloat} {ok : HostCalls → Prop} {final : Except Abort RvState → Prop}

theorem Ending.session (respected : ∀ left right, SameGuest left right → final (.ok left) → final (.ok right))
    {state : RvState} (ending : Ending float ok final state) {emu : Watched} (same : SameGuest state emu.state)
    {commands : List UserCommand} (typed : ∀ calls, .step calls ∈ commands → ok calls) {rounds : Nat → Round}
    (served : ∀ k, (rounds k).Served ok) :
    Finishes float final rounds (bkptUserLoop float commands emu) := by
  have last : ∀ calls, ok calls →
      (∃ abort, watchedStep float calls emu = .error abort ∧ final (.error abort)) ∨
        ∃ halted fetched, watchedStep float calls emu = .ok (false, ⟨halted, fetched⟩) ∧ Stuck float halted ∧
          final (.ok halted) := by
    intro calls isOk
    rcases ending calls isOk with ⟨abort, stepped, holds⟩ | ⟨halted, stepped, holds⟩
    · exact .inl ⟨abort, watchedStep_aborted (same.aborted stepped), holds⟩
    · obtain ⟨halted', stepped', after⟩ := same.stepped stepped
      obtain ⟨fetched, watched⟩ := watchedStep_returned stepped'
      exact .inr ⟨halted', fetched, watched, (rvemuStep_stuck stepped').2, respected _ _ after holds⟩
  have resume : Finishes float final rounds (.ok emu) := by
    rcases last _ (served 0).calls with ⟨abort, stepped, holds⟩ | ⟨halted, fetched, stepped, -, holds⟩
    · refine ⟨1, .error abort, ?_, holds⟩
      change _ ∈ loopEnd (mainRun float [rounds 0] emu)
      rw [mainRun, stepped]
      rfl
    · refine ⟨1, .ok ⟨halted, fetched⟩, ?_, holds⟩
      change _ ∈ loopEnd (mainRun float [rounds 0] emu)
      rw [mainRun, stepped]
      rfl
  induction commands with
  | nil => exact resume
  | cons command rest ih =>
    have others : ∀ calls, .step calls ∈ rest → ok calls :=
      fun calls listed => typed calls (List.mem_cons_of_mem _ listed)
    cases command with
    | «continue» => exact resume
    | step calls =>
      rw [bkptUserLoop]
      rcases last calls (typed calls List.mem_cons_self) with
        ⟨abort, stepped, holds⟩ | ⟨halted, fetched, stepped, stuck, holds⟩
      · rw [stepped]
        exact finishes_aborted holds
      · obtain ⟨fetched', stays⟩ := @bkptUserLoop_stuck float ⟨halted, fetched⟩ stuck rest
        rw [stepped]
        change Finishes float final rounds (bkptUserLoop float rest ⟨halted, fetched⟩)
        rw [stays]
        exact finishes_stuck stuck holds
    | regs => exact ih others
    | unknown => exact ih others

theorem leads_session (respected : ∀ left right, SameGuest left right → final (.ok left) → final (.ok right))
    {asked : List (Option Rv32.Request)} {state : RvState}
    (leads : Leads (served float ok) (fun _ => Ending float ok final) asked state) {emu : Watched}
    (same : SameGuest state emu.state) {commands : List UserCommand}
    (typed : ∀ calls, .step calls ∈ commands → ok calls) {rounds : Nat → Round}
    (served : ∀ k, (rounds k).Served ok) :
    Finishes float final rounds (bkptUserLoop float commands emu) := by
  induction leads generalizing emu commands rounds with
  | here ending => exact ending.session respected same typed served
  | @step asked state next steps later ih =>
    have advance : ∀ calls, (isOk : ok calls) → ∃ state' fetched,
        watchedStep float calls emu = .ok (true, ⟨state', fetched⟩) ∧
          SameGuest (next ⟨calls, isOk⟩).2 state' := by
      intro calls isOk
      obtain ⟨state', stepped, after⟩ := same.stepped (steps ⟨calls, isOk⟩).1
      obtain ⟨fetched, watched⟩ := watchedStep_returned stepped
      exact ⟨state', fetched, watched, after⟩
    have resume : Finishes float final rounds (.ok emu) := by
      obtain ⟨state', fetched, watched, after⟩ := advance _ (served 0).calls
      apply finishes_round watched
      obtain ⟨polled, between, asks | passes⟩ := mainBody_polled float ⟨state', fetched⟩ (rounds 0).commands
      · rw [asks]
        exact ih _ (after.trans between) (served 0).commands fun k => served (k + 1)
      · rw [passes]
        exact ih _ (after.trans between) nothing_typed fun k => served (k + 1)
    -- at the prompt of a guest that goes on
    induction commands with
    | nil => exact resume
    | cons command rest ihRest =>
      have others : ∀ calls, .step calls ∈ rest → ok calls :=
        fun calls listed => typed calls (List.mem_cons_of_mem _ listed)
      cases command with
      | «continue» => exact resume
      | step calls =>
        obtain ⟨state', fetched, watched, after⟩ := advance calls (typed calls List.mem_cons_self)
        rw [bkptUserLoop, watched]
        exact ih _ after others served
      | regs => exact ihRest others
      | unknown => exact ihRest others

end Sessions

end Urv86t
