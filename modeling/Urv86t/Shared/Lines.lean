import Mathlib.Data.List.Basic

set_option autoImplicit false

/-!
# Lines read through a buffer

A reader takes an input line by line, each through its stop, into a buffer that a line may be too long for.
-/

namespace Lines

variable {A : Type} (stop : A → Bool)

def readLine : Nat → List A → List A × List A
  | 0, input => ([], input)
  | _ + 1, [] => ([], [])
  | size + 1, a :: rest =>
    if stop a then ([a], rest) else (a :: (readLine size rest).1, (readLine size rest).2)

/-- The lines of an input; the last one may have no stop. -/
def splitAfter : List A → List (List A)
  | [] => []
  | a :: rest =>
    if stop a then [a] :: splitAfter rest
    else
      match splitAfter rest with
      | [] => [[a]]
      | line :: lines => (a :: line) :: lines

variable {stop}

theorem readLine_append (size : Nat) (input : List A) :
    (readLine stop size input).1 ++ (readLine stop size input).2 = input := by
  induction size generalizing input with
  | zero => rfl
  | succ size ih =>
    cases input with
    | nil => rfl
    | cons a rest =>
      rw [readLine]
      split
      · rfl
      · exact congrArg (a :: ·) (ih rest)

theorem readLine_shorter (size : Nat) (a : A) (rest : List A) :
    (readLine stop (size + 1) (a :: rest)).2.length < (a :: rest).length := by
  have whole := congrArg List.length (@readLine_append _ stop (size + 1) (a :: rest))
  have some : 0 < (readLine stop (size + 1) (a :: rest)).1.length := by
    rw [readLine]
    split <;> exact Nat.succ_pos _
  rw [List.length_append] at whole
  omega

variable (stop)

def readLines (size : Nat) : List A → List (List A)
  | [] => []
  | a :: rest =>
    (readLine stop (size + 1) (a :: rest)).1 :: readLines size (readLine stop (size + 1) (a :: rest)).2
  termination_by input => input.length
  decreasing_by exact readLine_shorter size a rest

def chunks (size : Nat) : List A → List (List A)
  | [] => []
  | a :: rest => (a :: rest.take size) :: chunks size (rest.drop size)
  termination_by input => input.length
  decreasing_by
    rw [List.length_drop, List.length_cons]
    omega

variable {stop}

theorem chunks_cons (size : Nat) (a : A) (rest : List A) :
    chunks size (a :: rest) = (a :: rest).take (size + 1) :: chunks size ((a :: rest).drop (size + 1)) := by
  rw [chunks, List.take_succ_cons, List.drop_succ_cons]

theorem splitAfter_stop {a : A} (stops : stop a = true) (rest : List A) :
    splitAfter stop (a :: rest) = [a] :: splitAfter stop rest := by
  rw [splitAfter, if_pos stops]

theorem splitAfter_open {a : A} {rest line : List A} {lines : List (List A)} (goesOn : ¬stop a = true)
    (split : splitAfter stop rest = line :: lines) : splitAfter stop (a :: rest) = (a :: line) :: lines := by
  rw [splitAfter, if_neg goesOn, split]

theorem splitAfter_nonempty {input line : List A} (listed : line ∈ splitAfter stop input) : line ≠ [] := by
  induction input generalizing line with
  | nil => cases listed
  | cons a rest ih =>
    rw [splitAfter] at listed
    split at listed
    · rcases List.mem_cons.mp listed with rfl | later
      · exact List.cons_ne_nil _ _
      · exact ih later
    · split at listed
      next => exact List.mem_singleton.mp listed ▸ List.cons_ne_nil _ _
      next first lines split =>
        rcases List.mem_cons.mp listed with rfl | later
        · exact List.cons_ne_nil _ _
        · exact ih (split ▸ List.mem_cons_of_mem _ later)

theorem splitAfter_nil_iff {input : List A} : splitAfter stop input = [] ↔ input = [] := by
  cases input with
  | nil => exact iff_of_true rfl rfl
  | cons a rest =>
    refine iff_of_false ?_ (List.cons_ne_nil _ _)
    rw [splitAfter]
    split
    · exact List.cons_ne_nil _ _
    · split <;> exact List.cons_ne_nil _ _

/-- What is left of a line stands before the others. -/
def resume (line : List A) (lines : List (List A)) : List (List A) := if line = [] then lines else line :: lines

theorem resume_cons (a : A) (line : List A) (lines : List (List A)) :
    resume (a :: line) lines = (a :: line) :: lines := if_neg (List.cons_ne_nil _ _)

theorem resume_chunks (size : Nat) (line : List A) (lines : List (List A)) :
    (resume line lines).flatMap (chunks size) = chunks size line ++ lines.flatMap (chunks size) := by
  cases line with
  | nil => rw [resume, if_pos rfl, chunks, List.nil_append]
  | cons a rest => rw [resume_cons, List.flatMap_cons]

theorem readLine_split {size : Nat} {input line : List A} {lines : List (List A)}
    (split : splitAfter stop input = line :: lines) :
    (readLine stop size input).1 = line.take size ∧
      splitAfter stop (readLine stop size input).2 = resume (line.drop size) lines := by
  induction size generalizing input line with
  | zero =>
    have nonempty : line ≠ [] := splitAfter_nonempty (split ▸ List.mem_cons_self)
    exact ⟨rfl, split.trans (if_neg nonempty).symm⟩
  | succ size ih =>
    cases input with
    | nil => cases split
    | cons a rest =>
      by_cases stops : stop a = true
      · rw [splitAfter_stop stops] at split
        cases split
        rw [readLine, if_pos stops, List.take_succ_cons, List.drop_succ_cons, List.take_nil, List.drop_nil]
        exact ⟨rfl, rfl⟩
      rw [readLine, if_neg stops]
      cases later : splitAfter stop rest with
      | nil =>
        obtain rfl := splitAfter_nil_iff.mp later
        rw [splitAfter, if_neg stops, later] at split
        cases split
        cases size <;> exact ⟨rfl, rfl⟩
      | cons first others =>
        rw [splitAfter_open stops later] at split
        cases split
        obtain ⟨read, left⟩ := ih later
        exact ⟨congrArg (a :: ·) read, left⟩

theorem readLines_eq (size : Nat) (input : List A) :
    readLines stop size input = (splitAfter stop input).flatMap (chunks size) := by
  induction input using readLines.induct stop size with
  | case1 =>
    rw [readLines]
    rfl
  | case2 a rest ih =>
    rw [readLines]
    cases split : splitAfter stop (a :: rest) with
    | nil => cases splitAfter_nil_iff.mp split
    | cons line lines =>
      obtain ⟨read, left⟩ := @readLine_split _ _ (size + 1) _ _ _ split
      rw [ih, read, left, resume_chunks, List.flatMap_cons]
      cases line with
      | nil => cases splitAfter_nonempty (split ▸ List.mem_cons_self) rfl
      | cons b line => rw [chunks_cons, List.cons_append]

end Lines
