import Mathlib.Data.List.Forall2
import Mathlib.Order.WellFounded

set_option autoImplicit false

/-!
# Machines and simulations

A machine takes an input and gives an output at every step. `Run` is the relation of whole runs, `Simulates`
carries the runs of one machine over to another one. `Safe` says that a machine never gets stuck, and `Leads`
that some states of it are reached, whatever the inputs are. `EndAlike` relates the results of two programs.
-/

namespace Simulation

variable {S T I J O : Type}

structure Machine (S I O : Type) where
  step : S → I → O → S → Prop

namespace Machine

inductive Run (M : Machine S I O) : S → List I → List O → S → Prop where
  | done (s : S) : Run M s [] [] s
  | step {s mid s' : S} {i : I} {o : O} {is : List I} {os : List O} (first : M.step s i o mid)
    (rest : Run M mid is os s') : Run M s (i :: is) (o :: os) s'

end Machine

structure Simulates (A : Machine S I O) (C : Machine T J O) (serves : I → J → Prop) (related : S → T → Prop) :
    Prop where
  step : ∀ {a a' : S} {c : T} {i : I} {j : J} {o : O}, related a c → serves i j → A.step a i o a' →
    ∃ c', C.step c j o c' ∧ related a' c'

section Simulates

variable {A : Machine S I O} {C : Machine T J O} {serves : I → J → Prop} {related : S → T → Prop}

theorem Simulates.run (simulates : Simulates A C serves related) {a a' : S} {c : T} {is : List I} {js : List J}
    {os : List O} (start : related a c) (inputs : List.Forall₂ serves is js) (run : A.Run a is os a') :
    ∃ c', C.Run c js os c' ∧ related a' c' := by
  induction run generalizing c js with
  | done =>
    cases inputs
    exact ⟨c, .done c, start⟩
  | step first rest ih =>
    obtain ⟨input, later⟩ : ∃ j js', js = j :: js' ∧ serves _ j ∧ List.Forall₂ serves _ js' := by
      cases inputs with
      | cons here others => exact ⟨_, _, rfl, here, others⟩
    obtain ⟨js', rfl, here, others⟩ := later
    obtain ⟨mid, stepped, between⟩ := simulates.step start here first
    obtain ⟨c', ran, stop⟩ := ih between others
    exact ⟨c', .step stepped ran, stop⟩

end Simulates

structure Safe (M : Machine S I O) (final Inv : S → Prop) : Prop where
  step : ∀ {s : S}, Inv s → ¬final s → ∀ i, ∃ o s', M.step s i o s' ∧ Inv s'

theorem Safe.run {M : Machine S I O} {final Inv : S → Prop} (safe : Safe M final Inv) {s : S} (start : Inv s)
    (is : List I) :
    ∃ used left os s', is = used ++ left ∧ M.Run s used os s' ∧ Inv s' ∧ (left = [] ∨ final s') := by
  induction is generalizing s with
  | nil => exact ⟨[], [], [], s, rfl, .done s, start, .inl rfl⟩
  | cons i rest ih =>
    by_cases stopped : final s
    · exact ⟨[], i :: rest, [], s, rfl, .done s, start, .inr stopped⟩
    · obtain ⟨o, mid, stepped, kept⟩ := safe.step start stopped i
      obtain ⟨used, left, os, s', rfl, ran, stays, ended⟩ := ih kept
      exact ⟨i :: used, left, o :: os, s', rfl, .step stepped ran, stays, ended⟩

/--
From `s`, behind the outputs `os`, a state with `Q` is reached, whatever the inputs are: it is reached already, or
there is a step for every input from which it is reached.
-/
inductive Leads (M : Machine S I O) (Q : List O → S → Prop) : List O → S → Prop where
  | here {os : List O} {s : S} (holds : Q os s) : Leads M Q os s
  | step {os : List O} {s : S} (next : I → O × S) (steps : ∀ i, M.step s i (next i).1 (next i).2)
    (later : ∀ i, Leads M Q (os ++ [(next i).1]) (next i).2) : Leads M Q os s

namespace Leads

variable {M : Machine S I O} {P Q : List O → S → Prop} {os : List O} {s : S}

theorem trans (first : Leads M P os s) (second : ∀ os s, P os s → Leads M Q os s) : Leads M Q os s := by
  induction first with
  | here holds => exact second _ _ holds
  | step next steps later ih => exact .step next steps ih

theorem weaken (leads : Leads M P os s) (weaker : ∀ os s, P os s → Q os s) : Leads M Q os s :=
  leads.trans fun os s holds => .here (weaker os s holds)

theorem always {o : O} {s' : S} (steps : ∀ i, M.step s i o s') (later : Leads M Q (os ++ [o]) s') :
    Leads M Q os s :=
  .step (fun _ => (o, s')) steps fun _ => later

theorem loop {Inv : List O → S → Prop} (variant : List O → S → Nat)
    (round : ∀ os s, Inv os s →
      Leads M (fun os' s' => Q os' s' ∨ Inv os' s' ∧ variant os' s' < variant os s) os s)
    (before : Inv os s) : Leads M Q os s := by
  induction bound : variant os s using Nat.strong_induction_on generalizing os s with
  | _ n ih =>
    subst bound
    apply (round os s before).trans
    rintro os' s' (finished | ⟨again, smaller⟩)
    · exact .here finished
    · exact ih _ smaller again rfl

theorem simulated {A : Machine S I O} {C : Machine T J O} {serves : I → J → Prop} {related : S → T → Prop}
    (simulates : Simulates A C serves related) (served : ∀ j, ∃ i, serves i j) {c : T} (leads : Leads A Q os s)
    (start : related s c) : Leads C (fun os c => ∃ s, related s c ∧ Q os s) os c := by
  induction leads generalizing c with
  | @here os s holds => exact .here ⟨s, start, holds⟩
  | @step os s next steps later ih =>
    have advance : ∀ j, ∃ out : O × T, C.step c j out.1 out.2 ∧
        Leads C (fun os c => ∃ s, related s c ∧ Q os s) (os ++ [out.1]) out.2 := by
      intro j
      obtain ⟨i, serve⟩ := served j
      obtain ⟨c', stepped, between⟩ := simulates.step start serve (steps i)
      exact ⟨((next i).1, c'), stepped, ih i between⟩
    choose next' steps' later' using advance
    exact .step next' steps' later'

theorem run (leads : Leads M Q os s) (inputs : Nat → I) :
    ∃ n os' s', M.Run s ((List.range n).map inputs) os' s' ∧ Q (os ++ os') s' := by
  induction leads generalizing inputs with
  | here holds => exact ⟨0, [], _, .done _, by simpa using holds⟩
  | step next steps later ih =>
    obtain ⟨n, os', s', ran, holds⟩ := ih (inputs 0) fun k => inputs (k + 1)
    refine ⟨n + 1, (next (inputs 0)).1 :: os', s', ?_, by simpa using holds⟩
    rw [List.range_succ_eq_map, List.map_cons, List.map_map]
    exact .step (steps (inputs 0)) ran

end Leads

inductive EndAlike {E A B : Type} (related : A → B → Prop) : Except E A → Except E B → Prop where
  | failed (e : E) : EndAlike related (.error e) (.error e)
  | came {a : A} {b : B} (holds : related a b) : EndAlike related (.ok a) (.ok b)

namespace EndAlike

variable {E A B A' B' : Type} {related : A → B → Prop} {related' : A' → B' → Prop} {x : Except E A}
  {y : Except E B}

theorem bind (first : EndAlike related x y) {f : A → Except E A'} {g : B → Except E B'}
    (later : ∀ a b, related a b → EndAlike related' (f a) (g b)) : EndAlike related' (x >>= f) (y >>= g) := by
  cases first with
  | failed e => exact .failed e
  | came holds => exact later _ _ holds

theorem map (first : EndAlike related x y) {f : A → A'} {g : B → B'}
    (later : ∀ a b, related a b → related' (f a) (g b)) : EndAlike related' (x.map f) (y.map g) := by
  cases first with
  | failed e => exact .failed e
  | came holds => exact .came (later _ _ holds)

theorem error {e : E} (alike : EndAlike related x y) (failed : x = .error e) : y = .error e := by
  cases alike with
  | failed _ =>
    cases failed
    rfl
  | came _ => cases failed

theorem ok {a : A} (alike : EndAlike related x y) (came : x = .ok a) : ∃ b, y = .ok b ∧ related a b := by
  cases alike with
  | failed _ => cases came
  | came holds =>
    cases came
    exact ⟨_, rfl, holds⟩

end EndAlike

end Simulation
