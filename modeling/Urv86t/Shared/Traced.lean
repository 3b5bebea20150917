import Mathlib.Logic.Basic

set_option autoImplicit false

/-!
# Programs that leave a trace

A program over a state reports events and either returns or aborts. `Exact safe program condition` says
when the trace is safe: always under `condition`, and only under it for runs that return. Where safety
depends on the state, `Ensures` carries it along between a precondition and a postcondition.
-/

namespace Traced

variable {E ε σ α β : Type}

structure Outcome (E ε σ α : Type) where
  log : List E
  result : Except ε (α × σ)

def Program (E ε σ α : Type) := σ → Outcome E ε σ α

namespace Program

protected def pure (a : α) : Program E ε σ α := fun s => ⟨[], .ok (a, s)⟩

protected def bind (x : Program E ε σ α) (f : α → Program E ε σ β) : Program E ε σ β := fun s =>
  match (x s).result with
  | .error err => ⟨(x s).log, .error err⟩
  | .ok (a, s') => ⟨(x s).log ++ (f a s').log, (f a s').result⟩

instance : Monad (Program E ε σ) where
  pure := Program.pure
  bind := Program.bind

def emit (event : E) : Program E ε σ Unit := fun s => ⟨[event], .ok ((), s)⟩

def abort (err : ε) : Program E ε σ α := fun _ => ⟨[], .error err⟩

def report (event : σ → E) : Program E ε σ Unit := fun s => ⟨[event s], .ok ((), s)⟩

def attempt (f : σ → Except ε (α × σ)) : Program E ε σ α := fun s => ⟨[], f s⟩

def access (f : σ → α × σ) : Program E ε σ α := fun s => ⟨[], .ok (f s)⟩

def each {ι : Type} (body : ι → β → Program E ε σ β) : List ι → β → Program E ε σ β
  | [], b => pure b
  | i :: rest, b => body i b >>= each body rest

def Returns (x : Program E ε σ α) (s : σ) (a : α) (s' : σ) : Prop := (x s).result = .ok (a, s')

@[simp] theorem returns_pure (a : α) (s : σ) (b : α) (s' : σ) :
    Returns (pure a : Program E ε σ α) s b s' ↔ a = b ∧ s = s' := by
  constructor
  · intro returned
    cases returned
    exact ⟨rfl, rfl⟩
  · rintro ⟨rfl, rfl⟩
    rfl

@[simp] theorem returns_emit (event : E) (s : σ) (b : Unit) (s' : σ) :
    Returns (emit event : Program E ε σ Unit) s b s' ↔ s = s' := by
  constructor
  · intro returned
    cases returned
    rfl
  · rintro rfl
    rfl

@[simp] theorem returns_abort (err : ε) (s : σ) (b : α) (s' : σ) :
    ¬Returns (abort err : Program E ε σ α) s b s' := by
  intro returned
  cases returned

@[simp] theorem returns_access (f : σ → α × σ) (s : σ) (b : α) (s' : σ) :
    Returns (access f : Program E ε σ α) s b s' ↔ f s = (b, s') := by
  constructor
  · intro returned
    exact Except.ok.inj returned
  · intro same
    exact congrArg Except.ok same

theorem returns_bind (x : Program E ε σ α) (f : α → Program E ε σ β) (s : σ) (b : β) (s' : σ) :
    Returns (x >>= f) s b s' ↔ ∃ a mid, Returns x s a mid ∧ Returns (f a) mid b s' := by
  change (Program.bind x f s).result = .ok (b, s') ↔ _
  cases ran : (x s).result with
  | error err =>
    constructor
    · intro returned
      simp only [Program.bind, ran] at returned
      cases returned
    · rintro ⟨a, mid, first, -⟩
      rw [Returns, ran] at first
      cases first
  | ok out =>
    obtain ⟨a, mid⟩ := out
    constructor
    · intro returned
      simp only [Program.bind, ran] at returned
      exact ⟨a, mid, ran, returned⟩
    · rintro ⟨a', mid', first, second⟩
      rw [Returns, ran] at first
      cases first
      simp only [Program.bind, ran]
      exact second

theorem log_bind_ok {x : Program E ε σ α} {f : α → Program E ε σ β} {s mid : σ} {a : α}
    (first : x.Returns s a mid) : ((x >>= f) s).log = (x s).log ++ (f a mid).log := by
  change (Program.bind x f s).log = _
  rw [Returns] at first
  simp only [Program.bind, first]

theorem log_bind_error {x : Program E ε σ α} {f : α → Program E ε σ β} {s : σ} {err : ε}
    (failed : (x s).result = .error err) : ((x >>= f) s).log = (x s).log := by
  change (Program.bind x f s).log = _
  simp only [Program.bind, failed]

theorem result_bind (x : Program E ε σ α) (f : α → Program E ε σ β) (s : σ) :
    ((x >>= f) s).result = (x s).result >>= fun out => (f out.1 out.2).result := by
  change (Program.bind x f s).result = _
  cases ran : (x s).result with
  | error err => simp only [Program.bind, ran, Except.bind, Bind.bind]
  | ok out => simp only [Program.bind, ran, Except.bind, Bind.bind]

theorem returns_emit_bind (event : E) (f : Unit → Program E ε σ β) (s : σ) (b : β) (s' : σ) :
    Returns (emit event >>= f) s b s' ↔ Returns (f ()) s b s' := by
  rw [returns_bind]
  constructor
  · rintro ⟨⟨⟩, mid, reported, rest⟩
    obtain rfl := (returns_emit event s () mid).mp reported
    exact rest
  · intro rest
    exact ⟨(), s, rfl, rest⟩

theorem returns_each {ι : Type} {body : ι → β → Program E ε σ β} (inv : List ι → β → σ → Prop)
    (step : ∀ i rest b s b' s', inv (i :: rest) b s → (body i b).Returns s b' s' → inv rest b' s')
    {indices : List ι} {b b' : β} {s s' : σ} (before : inv indices b s)
    (returned : (each body indices b).Returns s b' s') : inv [] b' s' := by
  induction indices generalizing b s with
  | nil =>
    obtain ⟨rfl, rfl⟩ := (returns_pure _ _ _ _).mp returned
    exact before
  | cons i rest ih =>
    rw [each, returns_bind] at returned
    obtain ⟨next, mid, ran, others⟩ := returned
    exact ih (step i rest b s next mid before ran) others

theorem returns_each_done {ι : Type} {body : ι → β → Program E ε σ β} (inv : List ι → β → σ → Prop)
    {indices : List ι}
    (step : ∀ done i b s b' s', i ∈ indices → done.length < indices.length → inv done b s →
      (body i b).Returns s b' s' → inv (done ++ [i]) b' s')
    {b b' : β} {s s' : σ} (before : inv [] b s) (returned : (each body indices b).Returns s b' s') :
    inv indices b' s' := by
  let passed (rest : List ι) (b : β) (s : σ) : Prop := ∃ done, done ++ rest = indices ∧ inv done b s
  have round : ∀ i rest b s b' s', passed (i :: rest) b s → (body i b).Returns s b' s' → passed rest b' s' := by
    rintro i rest b s b' s' ⟨done, split, holds⟩ ran
    have member : i ∈ indices := by simp [← split]
    have number : done.length < indices.length := by simp [← split]
    exact ⟨done ++ [i], by simp [← split], step done i b s b' s' member number holds ran⟩
  obtain ⟨done, split, holds⟩ := returns_each passed round ⟨[], rfl, before⟩ returned
  rw [List.append_nil] at split
  exact split ▸ holds

def Completes (x : Program E ε σ α) : Prop := ∀ s, ∃ a s', x.Returns s a s'

theorem completes_pure (a : α) : Completes (pure a : Program E ε σ α) := fun s => ⟨a, s, rfl⟩

theorem completes_emit (event : E) : Completes (emit event : Program E ε σ Unit) := fun s => ⟨(), s, rfl⟩

theorem completes_access (f : σ → α × σ) : Completes (access f : Program E ε σ α) := fun s =>
  ⟨(f s).1, (f s).2, rfl⟩

theorem Completes.bind {x : Program E ε σ α} {f : α → Program E ε σ β} (first : Completes x)
    (second : ∀ s a s', x.Returns s a s' → Completes (f a)) : Completes (x >>= f) := by
  intro s
  obtain ⟨a, mid, ran⟩ := first s
  obtain ⟨b, s', rest⟩ := second s a mid ran mid
  exact ⟨b, s', (returns_bind x f s b s').mpr ⟨a, mid, ran, rest⟩⟩

theorem Completes.ite {p : Prop} [Decidable p] {x y : Program E ε σ α} (onTrue : Completes x)
    (onFalse : Completes y) : Completes (if p then x else y) := by
  by_cases holds : p
  · rw [if_pos holds]
    exact onTrue
  · rw [if_neg holds]
    exact onFalse

theorem completes_each {ι : Type} {body : ι → β → Program E ε σ β} (step : ∀ i b, Completes (body i b))
    (indices : List ι) (b : β) : Completes (each body indices b) := by
  induction indices generalizing b with
  | nil => exact completes_pure b
  | cons i rest ih => exact (step i b).bind fun _ next _ _ => ih next

end Program

open Program

def AllSafe (safe : E → Prop) (log : List E) : Prop := ∀ event ∈ log, safe event

structure Exact (safe : E → Prop) (x : Program E ε σ α) (condition : Prop) : Prop where
  sound : condition → ∀ s, AllSafe safe (x s).log
  tight : ∀ s a s', x.Returns s a s' → AllSafe safe (x s).log → condition

namespace Exact

variable {safe : E → Prop} {x : Program E ε σ α} {C D : Prop}

theorem pure (a : α) : Exact safe (pure a : Program E ε σ α) True where
  sound _ _ := List.forall_mem_nil _
  tight _ _ _ _ _ := trivial

theorem emit (event : E) : Exact safe (Program.emit event : Program E ε σ Unit) (safe event) where
  sound holds _ := List.forall_mem_singleton.mpr holds
  tight _ _ _ _ all := List.forall_mem_singleton.mp all

theorem abort (err : ε) : Exact safe (Program.abort err : Program E ε σ α) C where
  sound _ _ := List.forall_mem_nil _
  tight s a s' returned := absurd returned (returns_abort err s a s')

theorem access (f : σ → α × σ) : Exact safe (Program.access f : Program E ε σ α) True where
  sound _ _ := List.forall_mem_nil _
  tight _ _ _ _ _ := trivial

theorem congr (exact : Exact safe x C) (same : C ↔ D) : Exact safe x D where
  sound holds := exact.sound (same.mpr holds)
  tight s a s' returned all := same.mp (exact.tight s a s' returned all)

theorem bind {f : α → Program E ε σ β} (first : Exact safe x C)
    (second : ∀ s a s', x.Returns s a s' → Exact safe (f a) D) : Exact safe (x >>= f) (C ∧ D) where
  sound holds s := by
    cases ran : (x s).result with
    | error err =>
      rw [log_bind_error ran]
      exact first.sound holds.1 s
    | ok out =>
      obtain ⟨a, mid⟩ := out
      rw [log_bind_ok ran]
      exact List.forall_mem_append.mpr ⟨first.sound holds.1 s, (second s a mid ran).sound holds.2 mid⟩
  tight s b s' returned all := by
    obtain ⟨a, mid, ran, rest⟩ := (returns_bind x f s b s').mp returned
    rw [log_bind_ok ran] at all
    obtain ⟨before, after⟩ := List.forall_mem_append.mp all
    exact ⟨first.tight s a mid ran before, (second s a mid ran).tight mid b s' rest after⟩

theorem bind_silent {f : α → Program E ε σ β} (first : Exact safe x True)
    (second : ∀ s a s', x.Returns s a s' → Exact safe (f a) D) : Exact safe (x >>= f) D :=
  (bind first second).congr (iff_of_eq (true_and D))

theorem onlyIf {p : Prop} [Decidable p] {y : Program E ε σ α} (onTrue : p → Exact safe x C)
    (onFalse : Exact safe y True) : Exact safe (if p then x else y) (p → C) := by
  by_cases holds : p
  · rw [if_pos holds]
    exact (onTrue holds).congr ⟨fun demand _ => demand, fun demand => demand holds⟩
  · rw [if_neg holds]
    exact onFalse.congr (iff_of_true trivial fun absurdly => absurd absurdly holds)

theorem exceptIf {p : Prop} [Decidable p] {y : Program E ε σ α} (onTrue : Exact safe x True)
    (onFalse : ¬p → Exact safe y C) : Exact safe (if p then x else y) (¬p → C) := by
  by_cases holds : p
  · rw [if_pos holds]
    exact onTrue.congr (iff_of_true trivial fun failed => absurd holds failed)
  · rw [if_neg holds]
    exact (onFalse holds).congr ⟨fun demand _ => demand, fun demand => demand holds⟩

theorem each {ι : Type} {body : ι → β → Program E ε σ β} {round : ι → Prop} (inv : List ι → β → Prop)
    (kept : ∀ i rest b s b' s', inv (i :: rest) b → (body i b).Returns s b' s' → inv rest b')
    (step : ∀ i rest b, inv (i :: rest) b → Exact safe (body i b) (round i)) {indices : List ι} {b : β}
    (before : inv indices b) : Exact safe (Program.each body indices b) (∀ i ∈ indices, round i) := by
  induction indices generalizing b with
  | nil => exact (pure b).congr (by simp)
  | cons i rest ih =>
    rw [List.forall_mem_cons]
    exact (step i rest b before).bind fun s next mid ran => ih (kept i rest b s next mid before ran)

end Exact

structure Ensures (safe : E → Prop) (before : σ → Prop) (x : Program E ε σ α) (after : α → σ → Prop) : Prop where
  events : ∀ s, before s → AllSafe safe (x s).log
  returns : ∀ s a s', before s → x.Returns s a s' → after a s'

namespace Ensures

variable {safe : E → Prop} {P : σ → Prop} {Q : α → σ → Prop} {R : β → σ → Prop} {x : Program E ε σ α}

theorem pure {a : α} (holds : ∀ s, P s → Q a s) : Ensures safe P (pure a : Program E ε σ α) Q where
  events _ _ := List.forall_mem_nil _
  returns s b s' before returned := by
    obtain ⟨rfl, rfl⟩ := (returns_pure a s b s').mp returned
    exact holds s before

theorem report {event : σ → E} {Q : Unit → σ → Prop} (reported : ∀ s, P s → safe (event s))
    (holds : ∀ s, P s → Q () s) : Ensures safe P (Program.report event : Program E ε σ Unit) Q where
  events s before := List.forall_mem_singleton.mpr (reported s before)
  returns s b s' before returned := by
    cases returned
    exact holds s before

theorem attempt {f : σ → Except ε (α × σ)} (holds : ∀ s a s', P s → f s = .ok (a, s') → Q a s') :
    Ensures safe P (Program.attempt f : Program E ε σ α) Q where
  events _ _ := List.forall_mem_nil _
  returns := holds

theorem access {f : σ → α × σ} (holds : ∀ s, P s → Q (f s).1 (f s).2) :
    Ensures safe P (Program.access f : Program E ε σ α) Q where
  events _ _ := List.forall_mem_nil _
  returns s a s' before returned := by
    have after := holds s before
    rwa [(returns_access f s a s').mp returned] at after

theorem bind {f : α → Program E ε σ β} (first : Ensures safe P x Q) (second : ∀ a, Ensures safe (Q a) (f a) R) :
    Ensures safe P (x >>= f) R where
  events s before := by
    cases ran : (x s).result with
    | error err =>
      rw [log_bind_error ran]
      exact first.events s before
    | ok out =>
      obtain ⟨a, mid⟩ := out
      have between := first.returns s a mid before ran
      rw [log_bind_ok ran]
      exact List.forall_mem_append.mpr ⟨first.events s before, (second a).events mid between⟩
  returns s b s' before returned := by
    obtain ⟨a, mid, ran, rest⟩ := (returns_bind x f s b s').mp returned
    exact (second a).returns mid b s' (first.returns s a mid before ran) rest

theorem weaken {P' : σ → Prop} {Q' : α → σ → Prop} (ensures : Ensures safe P x Q) (stronger : ∀ s, P' s → P s)
    (weaker : ∀ a s, Q a s → Q' a s) : Ensures safe P' x Q' where
  events s before := ensures.events s (stronger s before)
  returns s a s' before returned := weaker a s' (ensures.returns s a s' (stronger s before) returned)

end Ensures

end Traced
