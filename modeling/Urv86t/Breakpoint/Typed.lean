import Urv86t.Breakpoint.Transparent
import Urv86t.Emulator.Prompt

set_option autoImplicit false

namespace Urv86t

open Lines

/-- What `fgets` returns, call after call. -/
def texts (stdin : List (BitVec 8)) : List (List (BitVec 8)) :=
  (splitAfter (· == newline) stdin).flatMap (chunks (sizeofCmd - 2))

theorem texts_none {stdin : List (BitVec 8)} (read : fgets stdin = none) : texts stdin = [] := by
  cases stdin with
  | nil => rfl
  | cons byte rest => cases read

theorem userCommand_step {calls calls' : HostCalls} {text : List (BitVec 8)}
    (asked : userCommand calls text = .step calls') : calls' = calls := by
  dsimp only [userCommand] at asked
  split at asked
  · cases asked
  · split at asked
    · cases asked
      rfl
    · split at asked <;> cases asked

theorem texts_some {stdin text rest : List (BitVec 8)} (read : fgets stdin = some (text, rest)) :
    texts stdin = text :: texts rest := by
  obtain ⟨byte, later, rfl, taken⟩ := fgets_some read
  rw [texts, texts, ← readLines_eq, ← readLines_eq, readLines, taken]

def typedCommands (hosts : Nat → HostCalls) : Nat → List (List (BitVec 8)) → List UserCommand
  | _, [] => []
  | steps, text :: rest =>
    match userCommand (hosts steps) text with
    | .step calls => .step calls :: typedCommands hosts (steps + 1) rest
    | .continue => .continue :: typedCommands hosts steps rest
    | .regs => .regs :: typedCommands hosts steps rest
    | .unknown => .unknown :: typedCommands hosts steps rest

def fgetsLeft : Nat → List (BitVec 8) → List (BitVec 8)
  | 0, stdin => stdin
  | reads + 1, stdin =>
    match fgets stdin with
    | none => stdin
    | some (_, rest) => fgetsLeft reads rest

theorem fgetsLeft_some {stdin text rest : List (BitVec 8)} (read : fgets stdin = some (text, rest)) (reads : Nat) :
    fgetsLeft (reads + 1) stdin = fgetsLeft reads rest := by
  rw [fgetsLeft, read]

theorem fgetsLeft_none {stdin : List (BitVec 8)} (read : fgets stdin = none) (reads : Nat) :
    fgetsLeft reads stdin = stdin := by
  cases reads with
  | zero => rfl
  | succ reads => rw [fgetsLeft, read]

theorem fgetsLeft_add (first later : Nat) (stdin : List (BitVec 8)) :
    fgetsLeft (first + later) stdin = fgetsLeft later (fgetsLeft first stdin) := by
  induction first generalizing stdin with
  | zero => rw [Nat.zero_add, fgetsLeft]
  | succ first ih =>
    rw [Nat.add_right_comm]
    cases read : fgets stdin with
    | none => rw [fgetsLeft_none read, fgetsLeft_none read, fgetsLeft_none read]
    | some out => rw [fgetsLeft_some read, fgetsLeft_some read, ih]

/-- The commands `bkpt_user_loop` reads: all of them, if it is neither told to continue nor aborts. -/
def bkptUserTaken (float : HostFloat) : List UserCommand → Watched → List UserCommand
  | [], _ => []
  | .continue :: _, _ => [.continue]
  | .step calls :: rest, emu =>
    .step calls :: listAfter (watchedStep float calls emu) fun out => bkptUserTaken float rest out.2
  | .regs :: rest, emu => .regs :: bkptUserTaken float rest emu
  | .unknown :: rest, emu => .unknown :: bkptUserTaken float rest emu

def mainBodyTaken (float : HostFloat) (commands : List UserCommand) (emu : Watched) : List UserCommand :=
  match rvbkptPoll emu.state with
  | (none, _) => []
  | (some _, state) => bkptUserTaken float commands { emu with state := state }

def mainTaken (float : HostFloat) : List Round → Watched → List UserCommand
  | [], _ => []
  | round :: rest, emu =>
    listAfter (watchedStep float round.calls emu) fun out =>
      if out.1 then
        mainBodyTaken float round.commands out.2 ++
          listAfter (mainBody float round.commands out.2) (mainTaken float rest)
      else []

section Prompt

variable {float : HostFloat} {hosts : Nat → HostCalls} {stdin text rest : List (BitVec 8)} {steps : Nat}
  {emu : Watched}

theorem bkptUserLoopTyped_none (read : fgets stdin = none) :
    bkptUserLoopTyped float hosts stdin steps emu = .ok (emu, ⟨stdin, steps⟩) := by
  rw [bkptUserLoopTyped]
  split
  next => rfl
  next found => cases read.symm.trans found

theorem bkptUserLoopTyped_some (read : fgets stdin = some (text, rest)) :
    bkptUserLoopTyped float hosts stdin steps emu =
      match userCommand (hosts steps) text with
      | .continue => .ok (emu, ⟨rest, steps⟩)
      | .step calls => watchedStep float calls emu >>= fun out => bkptUserLoopTyped float hosts rest (steps + 1) out.2
      | .regs => bkptUserLoopTyped float hosts rest steps emu
      | .unknown => bkptUserLoopTyped float hosts rest steps emu := by
  rw [bkptUserLoopTyped]
  split
  next missed => cases read.symm.trans missed
  next found =>
    cases read.symm.trans found
    rfl

theorem bkptUserLoopTyped_reads :
    bkptUserLoopTyped float hosts stdin steps emu =
      (bkptUserLoop float (typedCommands hosts steps (texts stdin)) emu).map fun after => (after,
        ⟨fgetsLeft (bkptUserTaken float (typedCommands hosts steps (texts stdin)) emu).length stdin,
          steps + (bkptUserCalls float (typedCommands hosts steps (texts stdin)) emu).length⟩) := by
  induction length : stdin.length using Nat.strong_induction_on generalizing stdin steps emu with
  | _ n ih =>
    subst length
    cases read : fgets stdin with
    | none =>
      rw [bkptUserLoopTyped_none read, texts_none read]
      rfl
    | some out =>
      obtain ⟨text, rest⟩ := out
      have later := fun steps emu => @ih rest.length (fgets_shorter read) rest steps emu rfl
      rw [bkptUserLoopTyped_some read, texts_some read, typedCommands]
      cases asked : userCommand (hosts steps) text with
      | «continue» =>
        simp only [bkptUserLoop, bkptUserTaken, bkptUserCalls, List.length_singleton]
        rw [fgetsLeft_some read]
        rfl
      | step calls =>
        simp only [bkptUserLoop, bkptUserTaken, bkptUserCalls, List.length_cons, fgetsLeft_some read]
        cases watchedStep float calls emu with
        | error abort => rfl
        | ok out =>
          have behind := later (steps + 1) out.2
          rw [Nat.add_right_comm, Nat.add_assoc] at behind
          exact behind
      | regs =>
        simp only [bkptUserLoop, bkptUserTaken, bkptUserCalls, List.length_cons, fgetsLeft_some read]
        exact later steps emu
      | unknown =>
        simp only [bkptUserLoop, bkptUserTaken, bkptUserCalls, List.length_cons, fgetsLeft_some read]
        exact later steps emu

theorem typedCommands_served (texts : List (List (BitVec 8))) :
    ∀ calls, .step calls ∈ typedCommands hosts steps texts → calls ∈ Set.range hosts := by
  induction texts generalizing steps with
  | nil => exact fun calls listed => absurd listed List.not_mem_nil
  | cons text rest ih =>
    intro calls listed
    rw [typedCommands] at listed
    cases asked : userCommand (hosts steps) text with
    | step calls' =>
      rw [asked] at listed
      rcases List.mem_cons.mp listed with same | later
      · cases same
        rw [userCommand_step asked]
        exact ⟨steps, rfl⟩
      · exact ih calls later
    | «continue» | regs | unknown =>
      rw [asked] at listed
      rcases List.mem_cons.mp listed with same | later
      · cases same
      · exact ih calls later

end Prompt

/-- The round in front of which `rvemu_step` has been called `steps` times, and `fgets` has read `reads` texts. -/
def typedRound (hosts : Nat → HostCalls) (stdin : List (BitVec 8)) (steps reads : Nat) : Round :=
  ⟨hosts steps, typedCommands hosts (steps + 1) (texts (fgetsLeft reads stdin))⟩

/-- The console behind a round, of which `emu` is the state after the step. -/
def Console.past (float : HostFloat) (console : Console) (round : Round) (emu : Watched) : Console :=
  ⟨fgetsLeft (mainBodyTaken float round.commands emu).length console.stdin,
    console.steps + 1 + (mainBodyCalls float round.commands emu).length⟩

def nextTyped (float : HostFloat) (hosts : Nat → HostCalls) (console : Console) (emu : Watched) :
    Option (Watched × Console) :=
  match watchedStep float (hosts console.steps) emu with
  | .ok (true, emu) => (mainBodyTyped float hosts { console with steps := console.steps + 1 } emu).toOption
  | _ => none

def roundsTyped (float : HostFloat) (hosts : Nat → HostCalls) : Nat → Console → Watched → Round
  | 0, console, _ => typedRound hosts console.stdin console.steps 0
  | k + 1, console, emu =>
    match nextTyped float hosts console emu with
    | some (emu, console) => roundsTyped float hosts k console emu
    | none => typedRound hosts console.stdin console.steps 0

section Rounds

variable {float : HostFloat} {hosts : Nat → HostCalls} {console : Console} {emu : Watched}

theorem typedRound_served (stdin : List (BitVec 8)) (steps reads : Nat) :
    (typedRound hosts stdin steps reads).Served (· ∈ Set.range hosts) :=
  ⟨⟨steps, rfl⟩, typedCommands_served _⟩

theorem typedRound_later (stdin : List (BitVec 8)) (steps first later : Nat) :
    typedRound hosts (fgetsLeft first stdin) steps later = typedRound hosts stdin steps (first + later) := by
  rw [typedRound, typedRound, fgetsLeft_add]

theorem mainBodyTyped_reads {commands : List UserCommand}
    (typed : typedCommands hosts console.steps (texts console.stdin) = commands) :
    mainBodyTyped float hosts console emu = (mainBody float commands emu).map fun after => (after,
      ⟨fgetsLeft (mainBodyTaken float commands emu).length console.stdin,
        console.steps + (mainBodyCalls float commands emu).length⟩) := by
  subst typed
  unfold mainBodyTyped mainBodyTaken mainBodyCalls mainBody
  generalize rvbkptPoll emu.state = polled
  obtain ⟨which, state⟩ := polled
  cases which with
  | none => rfl
  | some evIdx => exact bkptUserLoopTyped_reads

theorem roundsTyped_served (k : Nat) : (roundsTyped float hosts k console emu).Served (· ∈ Set.range hosts) := by
  induction k generalizing console emu with
  | zero => exact typedRound_served _ _ _
  | succ k ih =>
    rw [roundsTyped]
    cases nextTyped float hosts console emu with
    | none => exact typedRound_served _ _ _
    | some out => exact ih

theorem mainBodyTyped_round {round : Round} (typed : typedRound hosts console.stdin console.steps 0 = round) :
    mainBodyTyped float hosts { console with steps := console.steps + 1 } emu =
      (mainBody float round.commands emu).map fun after => (after, console.past float round emu) := by
  subst typed
  exact mainBodyTyped_reads rfl

theorem nextTyped_some {round : Round} (typed : typedRound hosts console.stdin console.steps 0 = round)
    {mid after : Watched} (stepped : watchedStep float round.calls emu = .ok (true, mid))
    (ran : mainBody float round.commands mid = .ok after) :
    nextTyped float hosts console emu = some (after, console.past float round mid) := by
  have body := @mainBodyTyped_round float hosts console mid round typed
  subst typed
  rw [ran] at body
  rw [nextTyped]
  rw [typedRound] at stepped
  simp only [stepped, body]
  rfl

theorem roundsTyped_shift {out : Watched × Console} (next : nextTyped float hosts console emu = some out) :
    (fun k => roundsTyped float hosts k console emu) ∘ Nat.succ =
      fun k => roundsTyped float hosts k out.2 out.1 := by
  funext k
  rw [Function.comp_apply, Nat.succ_eq_add_one, roundsTyped, next]

theorem roundsTyped_eq {k : Nat} {before : List Round}
    (rounds : before = (List.range k).map fun k => roundsTyped float hosts k console emu)
    (come : mainRun float before emu = .ok none) :
    roundsTyped float hosts k console emu =
      typedRound hosts console.stdin (console.steps + (mainCalls float before emu).length)
        (mainTaken float before emu).length := by
  induction k generalizing console emu before with
  | zero =>
    subst rounds
    rfl
  | succ k ih =>
    rw [List.range_succ_eq_map, List.map_cons, List.map_map] at rounds
    subst rounds
    generalize typed : roundsTyped float hosts 0 console emu = round at come ⊢
    rw [mainRun] at come
    rw [mainCalls, mainTaken]
    cases stepped : watchedStep float round.calls emu with
    | error abort =>
      rw [stepped] at come
      cases come
    | ok out =>
      rw [stepped] at come
      obtain ⟨running, mid⟩ := out
      cases running with
      | false => cases come
      | true =>
        simp only [bind, Except.bind, listAfter_ok, if_true] at come ⊢
        cases ran : mainBody float round.commands mid with
        | error abort =>
          rw [ran] at come
          cases come
        | ok after =>
          have next := nextTyped_some typed stepped ran
          rw [ran, roundsTyped_shift next] at come
          have later := ih rfl come
          have steps : (console.past float round mid).steps =
              console.steps + (mainBodyCalls float round.commands mid).length + 1 := Nat.add_right_comm _ _ _
          rw [roundsTyped_shift next, listAfter_ok, listAfter_ok, List.length_cons, List.length_append,
            List.length_append, roundsTyped, next]
          simp only [later]
          rw [Nat.add_right_comm, ← Nat.add_assoc, ← Nat.add_assoc, steps]
          exact typedRound_later console.stdin _ _ _

theorem mainRunTyped_eq (n : Nat) :
    mainRunTyped float hosts n console emu =
      mainRun float ((List.range n).map fun k => roundsTyped float hosts k console emu) emu := by
  induction n generalizing console emu with
  | zero => rfl
  | succ n ih =>
    rw [List.range_succ_eq_map, List.map_cons, List.map_map, mainRunTyped, mainRun]
    generalize typed : roundsTyped float hosts 0 console emu = round
    obtain calls : round.calls = hosts console.steps := typed ▸ rfl
    rw [← calls]
    cases stepped : watchedStep float round.calls emu with
    | error abort => rfl
    | ok out =>
      obtain ⟨running, mid⟩ := out
      cases running with
      | false => rfl
      | true =>
        simp only [bind, Except.bind, if_true, mainBodyTyped_round typed]
        cases ran : mainBody float round.commands mid with
        | error abort => rfl
        | ok after =>
          rw [roundsTyped_shift (nextTyped_some typed stepped ran)]
          exact ih

theorem mainRunTyped_rounds (float : HostFloat) (hosts : Nat → HostCalls) (stdin : List (BitVec 8)) (emu : Watched) :
    ∃ rounds : Nat → Round,
      (∀ k, (rounds k).Served (· ∈ Set.range hosts)) ∧
      (∀ k before, before = (List.range k).map rounds → mainRun float before emu = .ok none →
        rounds k = typedRound hosts stdin (mainCalls float before emu).length (mainTaken float before emu).length) ∧
      ∀ n, mainRunTyped float hosts n ⟨stdin, 0⟩ emu = mainRun float ((List.range n).map rounds) emu := by
  refine ⟨fun k => roundsTyped float hosts k ⟨stdin, 0⟩ emu, roundsTyped_served, fun k before rounds come => ?_,
    mainRunTyped_eq⟩
  have read := roundsTyped_eq rounds come
  rw [Nat.zero_add] at read
  exact read

end Rounds

def keyText : UserCommand → List (BitVec 8)
  | .continue => ascii ['c', '\n']
  | .step _ => ascii ['s', '\n']
  | .regs => ascii ['r', '\n']
  | .unknown => ascii ['?', '\n']

def promptKeys : List UserCommand → List (BitVec 8)
  | [] => keyText .continue
  | .continue :: _ => keyText .continue
  | .step calls :: rest => keyText (.step calls) ++ promptKeys rest
  | .regs :: rest => keyText .regs ++ promptKeys rest
  | .unknown :: rest => keyText .unknown ++ promptKeys rest

def mainBodyKeys (commands : List UserCommand) (emu : Watched) : List (BitVec 8) :=
  match rvbkptPoll emu.state with
  | (none, _) => []
  | (some _, _) => promptKeys commands

def mainKeys (float : HostFloat) : List Round → Watched → List (BitVec 8)
  | [], _ => []
  | round :: rest, emu =>
    listAfter (watchedStep float round.calls emu) fun out =>
      if out.1 then
        mainBodyKeys round.commands out.2 ++ listAfter (mainBody float round.commands out.2) (mainKeys float rest)
      else []

def Supplies (hosts : Nat → HostCalls) : Nat → List HostCalls → Prop
  | _, [] => True
  | steps, calls :: rest => hosts steps = calls ∧ Supplies hosts (steps + 1) rest

section Typing

variable {float : HostFloat} {hosts : Nat → HostCalls} {steps : Nat}

theorem supplies_append {first later : List HostCalls} :
    Supplies hosts steps (first ++ later) ↔
      Supplies hosts steps first ∧ Supplies hosts (steps + first.length) later := by
  induction first generalizing steps with
  | nil => exact (true_and _).symm.to_iff
  | cons calls rest ih =>
    rw [List.cons_append, Supplies, Supplies, ih, and_assoc, List.length_cons, Nat.add_right_comm, Nat.add_assoc]

theorem supplies_getD (calls : List HostCalls) (quiet : HostCalls) :
    Supplies (fun n => calls.getD n quiet) 0 calls := by
  have behind : ∀ first later, calls = first ++ later →
      Supplies (fun n => calls.getD n quiet) first.length later := by
    intro first later whole
    induction later generalizing first with
    | nil => trivial
    | cons next rest ih =>
      refine ⟨by simp [whole], ?_⟩
      have length : (first ++ [next]).length = first.length + 1 := List.length_append
      exact length ▸ ih (first ++ [next]) (by rw [whole, List.append_assoc, List.singleton_append])
  exact behind [] calls rfl

theorem fgets_key (command : UserCommand) (more : List (BitVec 8)) :
    fgets (keyText command ++ more) = some (keyText command, more) := by
  cases command <;> rfl

theorem bkptUserLoopTyped_keys {commands : List UserCommand} {emu : Watched} (more : List (BitVec 8))
    (supplied : Supplies hosts steps (bkptUserCalls float commands emu)) :
    bkptUserLoopTyped float hosts (promptKeys commands ++ more) steps emu =
      (bkptUserLoop float commands emu).map
        fun after => (after, ⟨more, steps + (bkptUserCalls float commands emu).length⟩) := by
  induction commands generalizing steps emu with
  | nil => exact bkptUserLoopTyped_some (fgets_key .continue more)
  | cons command rest ih =>
    cases command with
    | «continue» => exact bkptUserLoopTyped_some (fgets_key .continue more)
    | step calls =>
      obtain ⟨host, others⟩ := supplied
      rw [promptKeys, List.append_assoc, bkptUserLoopTyped_some (fgets_key (.step calls) _), host]
      change watchedStep float calls emu >>= _ = _
      rw [bkptUserLoop, bkptUserCalls]
      cases stepped : watchedStep float calls emu with
      | error abort => rfl
      | ok out =>
        rw [stepped] at others
        have later := ih others
        rw [Nat.add_right_comm, Nat.add_assoc] at later
        exact later
    | regs =>
      rw [promptKeys, List.append_assoc, bkptUserLoopTyped_some (fgets_key .regs _)]
      exact ih supplied
    | unknown =>
      rw [promptKeys, List.append_assoc, bkptUserLoopTyped_some (fgets_key .unknown _)]
      exact ih supplied

theorem mainBodyTyped_keys {commands : List UserCommand} {emu : Watched} (more : List (BitVec 8))
    (supplied : Supplies hosts steps (mainBodyCalls float commands emu)) :
    mainBodyTyped float hosts ⟨mainBodyKeys commands emu ++ more, steps⟩ emu =
      (mainBody float commands emu).map
        fun after => (after, ⟨more, steps + (mainBodyCalls float commands emu).length⟩) := by
  unfold mainBodyTyped mainBodyKeys mainBody mainBodyCalls
  unfold mainBodyCalls at supplied
  generalize rvbkptPoll emu.state = polled at supplied ⊢
  obtain ⟨which, state⟩ := polled
  cases which with
  | none => rfl
  | some evIdx => exact bkptUserLoopTyped_keys more supplied

theorem mainRunTyped_keys {rounds : List Round} {emu : Watched} (more : List (BitVec 8))
    (supplied : Supplies hosts steps (mainCalls float rounds emu)) :
    mainRunTyped float hosts rounds.length ⟨mainKeys float rounds emu ++ more, steps⟩ emu =
      mainRun float rounds emu := by
  induction rounds generalizing steps emu with
  | nil => rfl
  | cons round rest ih =>
    rw [mainCalls, Supplies] at supplied
    obtain ⟨host, others⟩ := supplied
    rw [List.length_cons, mainRunTyped, mainRun, mainKeys, host]
    cases stepped : watchedStep float round.calls emu with
    | error abort => rfl
    | ok out =>
      obtain ⟨running, next⟩ := out
      cases running with
      | false => rfl
      | true =>
        simp only [stepped, listAfter_ok, if_true] at others
        obtain ⟨body, later⟩ := supplies_append.mp others
        simp only [bind, Except.bind, listAfter_ok, if_true, List.append_assoc]
        rw [mainBodyTyped_keys _ body]
        cases ran : mainBody float round.commands next with
        | error abort => rfl
        | ok after =>
          rw [ran, listAfter_ok] at later
          exact ih later

theorem mainRun_typed (float : HostFloat) (rounds : List Round) (emu : Watched) {ok : HostCalls → Prop}
    {quiet : HostCalls} (present : ok quiet) (served : ∀ round ∈ rounds, round.Served ok) :
    ∃ hosts stdin, (∀ n, ok (hosts n)) ∧
      mainRunTyped float hosts rounds.length ⟨stdin, 0⟩ emu = mainRun float rounds emu := by
  refine ⟨fun n => (mainCalls float rounds emu).getD n quiet, mainKeys float rounds emu ++ [], fun n => ?_,
    mainRunTyped_keys [] (supplies_getD _ quiet)⟩
  have calls := @mainCalls_served float ok rounds emu served
  cases found : (mainCalls float rounds emu)[n]? with
  | none => simpa [found] using present
  | some host => simpa [found] using calls host (List.mem_of_getElem? found)

end Typing

theorem mainRun_typed_prompt :
    ∃ hosts stdin, (∀ n, hosts n = default) ∧
      mainRunTyped default hosts 3 ⟨stdin, 0⟩ ⟨quitState (Function.update (fun _ => {}) 0 spinBkpt), none⟩ =
        mainRun default [promptRound, promptRound, promptRound]
          ⟨quitState (Function.update (fun _ => {}) 0 spinBkpt), none⟩ := by
  have served : ∀ round ∈ [promptRound, promptRound, promptRound], round.Served (· = default) := by
    intro round listed
    obtain rfl : round = promptRound := by simpa using listed
    exact ⟨rfl, fun calls typed => by simpa [promptRound] using typed⟩
  exact @mainRun_typed default [promptRound, promptRound, promptRound] _ (· = default) default rfl served

end Urv86t
