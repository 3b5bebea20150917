import Mathlib.Logic.Function.Basic

set_option autoImplicit false

namespace ByteMemory

abbrev Byte := BitVec 8

abbrev Memory (α : Type) := α → Byte

variable {α β : Type}

-- Byte `0` is the least significant one.
def assemble : (n : Nat) → (Nat → Byte) → BitVec (8 * n)
  | 0, _ => 0#0
  | n + 1, bytes => assemble n (fun k => bytes (k + 1)) ++ bytes 0

def byteOf {n : Nat} (v : BitVec (8 * n)) (k : Nat) : Byte :=
  v.extractLsb' (8 * k) 8

def load (m : Memory α) (cell : Nat → α) (n : Nat) : BitVec (8 * n) :=
  assemble n fun k => m (cell k)

def write [DecidableEq α] (m : Memory α) (cell : Nat → α) : Nat → (Nat → Byte) → Memory α
  | 0, _ => m
  | n + 1, bytes => Function.update (write m cell n bytes) (cell n) (bytes n)

def store [DecidableEq α] (m : Memory α) (cell : Nat → α) (n : Nat) (v : BitVec (8 * n)) :
    Memory α :=
  write m cell n (byteOf v)

-- A contiguous range rewritten in one go, for blocks too long to store byte by byte.
def overlay (m : Memory Nat) (start n : Nat) (bytes : Nat → Byte) : Memory Nat := fun a =>
  if start ≤ a ∧ a < start + n then bytes (a - start) else m a

theorem assemble_congr (n : Nat) (f g : Nat → Byte) (same : ∀ k, k < n → f k = g k) :
    assemble n f = assemble n g := by
  induction n generalizing f g with
  | zero => rfl
  | succ n ih =>
    have head : f 0 = g 0 := same 0 (by omega)
    have tail := ih (fun k => f (k + 1)) (fun k => g (k + 1)) fun k inside => same (k + 1) (by omega)
    simp only [assemble, head, tail]

theorem load_congr (m : Memory α) (m' : Memory β) (cell : Nat → α) (cell' : Nat → β) (n : Nat)
    (same : ∀ k, k < n → m (cell k) = m' (cell' k)) : load m cell n = load m' cell' n :=
  assemble_congr n _ _ same

theorem write_miss [DecidableEq α] (m : Memory α) (cell : Nat → α) (n : Nat) (bytes : Nat → Byte)
    (a : α) (outside : ∀ k, k < n → cell k ≠ a) : write m cell n bytes a = m a := by
  induction n with
  | zero => rfl
  | succ n ih =>
    have last : a ≠ cell n := fun same => outside n (by omega) same.symm
    rw [write, Function.update_of_ne last, ih fun k inside => outside k (by omega)]

theorem store_miss [DecidableEq α] (m : Memory α) (cell : Nat → α) (n : Nat) (v : BitVec (8 * n))
    (a : α) (outside : ∀ k, k < n → cell k ≠ a) : store m cell n v a = m a :=
  write_miss m cell n _ a outside

theorem write_hit [DecidableEq α] (m : Memory α) (cell : Nat → α) (n : Nat) (bytes : Nat → Byte)
    (distinct : Function.Injective cell) (k : Nat) (inside : k < n) :
    write m cell n bytes (cell k) = bytes k := by
  induction n with
  | zero => omega
  | succ n ih =>
    by_cases last : k = n
    · subst last
      rw [write, Function.update_self]
    · have other : cell k ≠ cell n := fun same => last (distinct same)
      rw [write, Function.update_of_ne other, ih (by omega)]

theorem assemble_byteOf (n : Nat) (v : BitVec (8 * n)) : assemble n (byteOf v) = v := by
  induction n with
  | zero => exact BitVec.eq_of_zero_length rfl
  | succ n ih =>
    have tail : (fun k => byteOf v (k + 1)) = byteOf (v.extractLsb' 8 (8 * n)) := by
      funext k
      apply BitVec.eq_of_getLsbD_eq
      intro i hi
      have window : 8 * (k + 1) + i = 8 + (8 * k + i) := by omega
      simp only [byteOf, BitVec.getLsbD_extractLsb', hi, decide_true, Bool.true_and, window]
      by_cases low : 8 * k + i < 8 * n
      · simp [low]
      · simp [low, BitVec.getLsbD_of_ge v (8 + (8 * k + i)) (by omega)]
    have split : v.extractLsb' 8 (8 * n) ++ v.extractLsb' 0 8 = v.extractLsb' 0 (8 * n + 8) :=
      BitVec.extractLsb'_append_extractLsb'_eq_extractLsb' rfl
    rw [assemble, tail, ih]
    exact split.trans BitVec.extractLsb'_eq_self

theorem load_store [DecidableEq α] (m : Memory α) (cell : Nat → α) (n : Nat) (v : BitVec (8 * n))
    (distinct : Function.Injective cell) : load (store m cell n v) cell n = v := by
  have written := assemble_congr n (fun k => store m cell n v (cell k)) (byteOf v)
    fun k inside => write_hit m cell n _ distinct k inside
  exact written.trans (assemble_byteOf n v)

theorem overlay_inside (m : Memory Nat) (start n : Nat) (bytes : Nat → Byte) (k : Nat)
    (inside : k < n) : overlay m start n bytes (start + k) = bytes k := by
  have bounded : start ≤ start + k ∧ start + k < start + n := by omega
  rw [overlay, if_pos bounded, Nat.add_sub_cancel_left]

theorem overlay_outside (m : Memory Nat) (start n : Nat) (bytes : Nat → Byte) (a : Nat)
    (outside : a < start ∨ start + n ≤ a) : overlay m start n bytes a = m a := by
  have beyond : ¬(start ≤ a ∧ a < start + n) := by omega
  rw [overlay, if_neg beyond]

/-!
# Translated memories

`translate` sends an address of a flat memory to the cell that backs it, where there is one.
-/

section Translation

variable (translate : α → Option β)

def Agree (flat : Memory α) (backing : Memory β) : Prop :=
  ∀ a b, translate a = some b → flat a = backing b

def Injective : Prop :=
  ∀ a a' b, translate a = some b → translate a' = some b → a = a'

def Maps (cell : Nat → α) (cell' : Nat → β) (n : Nat) : Prop :=
  ∀ k, k < n → translate (cell k) = some (cell' k)

variable {translate}

theorem Agree.load {flat : Memory α} {backing : Memory β} (agree : Agree translate flat backing)
    {cell : Nat → α} {cell' : Nat → β} {n : Nat} (maps : Maps translate cell cell' n) :
    load flat cell n = load backing cell' n :=
  load_congr flat backing cell cell' n fun k inside => agree _ _ (maps k inside)

theorem Agree.write [DecidableEq α] [DecidableEq β] (injective : Injective translate)
    {flat : Memory α} {backing : Memory β} (agree : Agree translate flat backing)
    {cell : Nat → α} {cell' : Nat → β} (n : Nat) (maps : Maps translate cell cell' n)
    (bytes : Nat → Byte) :
    Agree translate (write flat cell n bytes) (write backing cell' n bytes) := by
  induction n with
  | zero => exact agree
  | succ n ih =>
    have earlier := ih fun k inside => maps k (by omega)
    have last := maps n (by omega)
    intro a b translated
    -- The two updates hit together because `translate` is a function and injective.
    by_cases hit : a = cell n
    · have sameCell : b = cell' n := by
        rw [hit, last] at translated
        exact (Option.some.inj translated).symm
      simp [ByteMemory.write, hit, sameCell]
    · have otherCell : b ≠ cell' n := fun same => hit (injective a (cell n) b translated (same ▸ last))
      simp only [ByteMemory.write, Function.update_of_ne hit, Function.update_of_ne otherCell]
      exact earlier a b translated

theorem Agree.store [DecidableEq α] [DecidableEq β] (injective : Injective translate)
    {flat : Memory α} {backing : Memory β} (agree : Agree translate flat backing)
    {cell : Nat → α} {cell' : Nat → β} {n : Nat} (maps : Maps translate cell cell' n)
    (v : BitVec (8 * n)) :
    Agree translate (store flat cell n v) (store backing cell' n v) :=
  agree.write injective n maps (byteOf v)

end Translation

end ByteMemory
