import Mathlib.Data.List.Basic

set_option autoImplicit false

namespace Tokens

variable {A : Type} (delimiter : A → Bool)

def Plain (token : List A) : Prop := ∀ a ∈ token, delimiter a = false

instance (token : List A) : Decidable (Plain delimiter token) :=
  inferInstanceAs (Decidable (∀ a ∈ token, _))

def Opens (literal : List A) : Prop := ∃ a rest, literal = a :: rest ∧ delimiter a = true

def interleave : List (List A) → List (List A) → List A
  | token :: tokens, literal :: literals => token ++ (literal ++ interleave tokens literals)
  | _, _ => []

variable {delimiter} {token token' rest rest' literal : List A}

theorem opens_iff : Opens delimiter literal ↔ literal.head?.any delimiter = true := by
  cases literal with
  | nil => simp [Opens]
  | cons a rest => simp [Opens]

instance : Decidable (Opens delimiter literal) := decidable_of_iff _ opens_iff.symm

theorem Opens.append (opens : Opens delimiter literal) (rest : List A) : Opens delimiter (literal ++ rest) := by
  obtain ⟨a, tail, rfl, start⟩ := opens
  exact ⟨a, tail ++ rest, rfl, start⟩

theorem takeWhile_token (plain : Plain delimiter token) (opens : Opens delimiter rest) :
    (token ++ rest).takeWhile (fun a => !delimiter a) = token := by
  obtain ⟨a, tail, rfl, start⟩ := opens
  have inside : ∀ a ∈ token, (!delimiter a) = true := by
    intro a member
    rw [plain a member]
    rfl
  rw [List.takeWhile_append_of_pos inside]
  simp [start]

theorem token_unique (plain : Plain delimiter token) (plain' : Plain delimiter token')
    (opens : Opens delimiter rest) (opens' : Opens delimiter rest') (same : token ++ rest = token' ++ rest') :
    token = token' ∧ rest = rest' := by
  have first : token = token' := by
    rw [← takeWhile_token plain opens, same, takeWhile_token plain' opens']
  subst first
  exact ⟨rfl, List.append_cancel_left same⟩

theorem interleave_inj (literals tokens tokens' : List (List A)) (opens : ∀ l ∈ literals, Opens delimiter l)
    (plain : ∀ t ∈ tokens, Plain delimiter t) (plain' : ∀ t ∈ tokens', Plain delimiter t)
    (length : tokens.length = literals.length) (length' : tokens'.length = literals.length)
    (same : interleave tokens literals = interleave tokens' literals) : tokens = tokens' := by
  induction literals generalizing tokens tokens' with
  | nil => rw [List.length_eq_zero_iff.mp length, List.length_eq_zero_iff.mp length']
  | cons literal literals ih =>
    obtain ⟨token, tokens, rfl⟩ := List.exists_cons_of_length_eq_add_one length
    obtain ⟨token', tokens', rfl⟩ := List.exists_cons_of_length_eq_add_one length'
    have start := opens literal (by simp)
    obtain ⟨first, behind⟩ :=
      token_unique (plain token (by simp)) (plain' token' (by simp)) (start.append _) (start.append _) same
    have later := ih tokens tokens' (fun l member => opens l (by simp [member]))
      (fun t member => plain t (by simp [member])) (fun t member => plain' t (by simp [member]))
      (Nat.succ.inj length) (Nat.succ.inj length') (List.append_cancel_left behind)
    rw [first, later]

end Tokens
