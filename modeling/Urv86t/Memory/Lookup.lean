import Urv86t.Memory.Regions

set_option autoImplicit false

namespace Urv86t

namespace ElfLoadRegion

def Buffers (region : ElfLoadRegion) (q : Nat) : Prop := region.memBase ≤ q ∧ q < region.memEnd

theorem holds_iff (region : ElfLoadRegion) (q : Nat) : region.holds q = true ↔ region.Buffers q := by
  simp [holds, Buffers, memEnd]

end ElfLoadRegion

namespace ElfContext

variable (ctx : ElfContext) (p : BitVec 32)

structure LooksUp : Prop where
  mapped : ctx.pointer p ≠ 0 ↔ ∃ region ∈ ctx.loadRegions, region.Covers p
  first : ∀ region, ctx.firstCovering p = some region → ctx.pointer p = region.place p

/-- The first region around `p` ends below the top, or a later one has the same host byte at `p`. -/
def Reached (region : ElfLoadRegion) : Prop :=
  region.BelowTop ∨ ∃ later, ctx.firstBelowTop p = some later ∧ later.place p = region.place p

theorem selected_eq_firstBelowTop : ctx.selected p = ctx.firstBelowTop p := by
  unfold selected firstBelowTop
  congr 1
  funext region
  rw [Bool.eq_iff_iff, decide_eq_true_iff, region.hit_iff_covers]

theorem pointer_eq : ctx.pointer p = ((ctx.firstBelowTop p).map (·.place p)).getD 0 := by
  unfold pointer
  rw [elfVmaToMem_eq, ← selected_eq_firstBelowTop]
  cases found : ctx.selected p with
  | none => rfl
  | some region =>
    have low := (ElfLoadRegion.hit_bounds (selected_hit found)).1
    exact region.memAddr_eq p low

variable {ctx p}

theorem firstBelowTop_eq {region : ElfLoadRegion} (found : ctx.firstCovering p = some region)
    (below : region.BelowTop) : ctx.firstBelowTop p = some region := by
  obtain ⟨covers, before, after, split, missed⟩ := List.find?_eq_some_iff_append.mp found
  refine List.find?_eq_some_iff_append.mpr ⟨?_, before, after, split, ?_⟩
  · simpa [below] using covers
  · intro earlier member
    have uncovered := missed earlier member
    simp only [Bool.not_eq_true', decide_eq_false_iff_not] at uncovered ⊢
    exact fun both => uncovered both.1

theorem firstBelowTop_none (found : ctx.firstCovering p = none) : ctx.firstBelowTop p = none := by
  refine List.find?_eq_none.mpr fun region member => ?_
  have uncovered := List.find?_eq_none.mp found region member
  simp only [decide_eq_true_eq] at uncovered ⊢
  exact fun both => uncovered both.1

theorem firstCovering_isSome : (ctx.firstCovering p).isSome ↔ ∃ region ∈ ctx.loadRegions, region.Covers p := by
  simp [firstCovering]

theorem reached_iff {region : ElfLoadRegion} (found : ctx.firstCovering p = some region) :
    ctx.Reached p region ↔ ∃ served, ctx.firstBelowTop p = some served ∧ served.place p = region.place p := by
  constructor
  · rintro (below | later)
    · exact ⟨region, firstBelowTop_eq found below, rfl⟩
    · exact later
  · exact .inr

end ElfContext

theorem elfVmaToMem_looksUp_iff (ctx : ElfContext) (p : BitVec 32) :
    ctx.LooksUp p ↔
      ∀ region, ctx.firstCovering p = some region → region.place p ≠ 0 ∧ ctx.Reached p region := by
  constructor
  · intro looks region found
    have covered := ElfContext.firstCovering_isSome.mp (Option.isSome_of_eq_some found)
    have nonnull := looks.mapped.mpr covered
    have placed := looks.first region found
    refine ⟨placed ▸ nonnull, (ElfContext.reached_iff found).mpr ?_⟩
    rw [ElfContext.pointer_eq] at nonnull placed
    cases served : ctx.firstBelowTop p with
    | none => simp [served] at nonnull
    | some later => exact ⟨later, rfl, by simpa [served] using placed⟩
  · intro reached
    cases found : ctx.firstCovering p with
    | none =>
      have uncovered : ¬∃ region ∈ ctx.loadRegions, region.Covers p := by
        simp [← ElfContext.firstCovering_isSome, found]
      have missed := ElfContext.firstBelowTop_none found
      refine ⟨?_, fun region present => ?_⟩
      · simp [ElfContext.pointer_eq, missed, uncovered]
      · rw [found] at present
        cases present
    | some region =>
      obtain ⟨nonnull, served⟩ := reached region found
      obtain ⟨served, selected, same⟩ := (ElfContext.reached_iff found).mp served
      have placed : ctx.pointer p = region.place p := by
        rw [ElfContext.pointer_eq, selected]
        exact same
      refine ⟨?_, fun first present => ?_⟩
      · rw [placed, ← ElfContext.firstCovering_isSome, found]
        simp [nonnull]
      · rw [found] at present
        cases present
        exact placed

def topContext : ElfContext where
  loadRegions := [{ vmaBase := 0xfffff000, memBase := 0x10000, szReserved := 0x1000 }]

theorem elfVmaToMem_misses_top :
    (∀ region ∈ topContext.loadRegions, region.vmaEnd ≤ 0x100000000) ∧
      (∃ region ∈ topContext.loadRegions, region.Covers 0xfffff000) ∧
      elfVmaToMem topContext 0xfffff000 = none ∧ ¬topContext.LooksUp 0xfffff000 := by
  have covered : ∃ region ∈ topContext.loadRegions, region.Covers 0xfffff000 := by decide
  refine ⟨by decide, covered, by decide, fun looks => ?_⟩
  have nonnull := looks.mapped.mpr covered
  exact nonnull (by decide)

def ElfLoadRegion.HostApart (a b : ElfLoadRegion) : Prop := ∀ q, ¬(a.Buffers q ∧ b.Buffers q)

theorem ElfLoadRegion.Unshared.hostApart {a b : ElfLoadRegion} (unshared : a.Unshared b) : a.HostApart b := by
  rintro q ⟨inA, inB⟩
  unfold ElfLoadRegion.Buffers at inA inB
  rcases unshared with below | below <;> omega

instance ElfLoadRegion.decidableDisjoint (a b : ElfLoadRegion) : Decidable (a.Disjoint b) :=
  inferInstanceAs (Decidable (_ ∨ _))

instance ElfLoadRegion.decidableUnshared (a b : ElfLoadRegion) : Decidable (a.Unshared b) :=
  inferInstanceAs (Decidable (_ ∨ _))

section Inverse

variable {ctx : ElfContext} {region : ElfLoadRegion}

theorem elfMemToVma_of_buffers (apart : ctx.loadRegions.Pairwise ElfLoadRegion.HostApart)
    (member : region ∈ ctx.loadRegions) {q : Nat} (inside : region.Buffers q) :
    elfMemToVma ctx q = region.vmaAddr q := by
  have found : ctx.loadRegions.find? (·.holds q) = some region := by
    refine find_eq_of_apart (apart.imp ?_) member ((region.holds_iff q).mpr inside)
    intro a b disjoint
    rw [a.holds_iff, b.holds_iff]
    exact disjoint q
  rw [elfMemToVma, elfMemToVmaFrom_eq, found]
  rfl

theorem elfVmaToMem_of_covers (apart : ctx.loadRegions.Pairwise ElfLoadRegion.GuestApart)
    (member : region ∈ ctx.loadRegions) {p : BitVec 32} (covers : region.Covers p) (below : region.BelowTop) :
    elfVmaToMem ctx p = some (region.place p) := by
  have found : ctx.selected p = some region := by
    refine find_eq_of_apart (apart.imp ?_) member ((region.hit_iff_covers p).mpr ⟨covers, below⟩)
    intro a b disjoint
    rw [a.hit_iff_covers, b.hit_iff_covers]
    exact fun both => disjoint p ⟨both.1.1, both.2.1⟩
  rw [elfVmaToMem_eq, found]
  exact congrArg some (region.memAddr_eq p covers.1)

theorem ElfLoadRegion.vmaAddr_place (region : ElfLoadRegion) {p : BitVec 32}
    (low : region.vmaBase.toNat ≤ p.toNat) : region.vmaAddr (region.place p) = p := by
  apply BitVec.eq_of_toNat_eq
  rw [vmaAddr, place, Nat.add_sub_cancel_left, BitVec.toNat_add, BitVec.toNat_ofNat]
  have bound := p.isLt
  omega

theorem ElfLoadRegion.vmaAddr_toNat (region : ElfLoadRegion) {q : Nat} (inside : region.Buffers q)
    (below : region.BelowTop) : (region.vmaAddr q).toNat = region.vmaBase.toNat + (q - region.memBase) := by
  obtain ⟨low, high⟩ := inside
  unfold memEnd at high
  unfold BelowTop vmaEnd at below
  rw [vmaAddr, BitVec.toNat_add, BitVec.toNat_ofNat]
  omega

end Inverse

theorem elfMemToVma_inverse (ctx : ElfContext) (hostApart : ctx.loadRegions.Pairwise ElfLoadRegion.HostApart) :
    (∀ p q, elfVmaToMem ctx p = some q → elfMemToVma ctx q = p) ∧
      (ctx.loadRegions.Pairwise ElfLoadRegion.GuestApart → (∀ region ∈ ctx.loadRegions, region.BelowTop) →
        ∀ q, (∃ region ∈ ctx.loadRegions, region.Buffers q) →
          elfVmaToMem ctx (elfMemToVma ctx q) = some q) := by
  constructor
  · intro p q found
    obtain ⟨region, -, member, hit, rfl⟩ := ElfContext.elfVmaToMem_selected found
    have bounds := ElfLoadRegion.hit_bounds hit
    have inside : region.Buffers (region.place p) := by
      unfold ElfLoadRegion.Buffers ElfLoadRegion.place ElfLoadRegion.memEnd
      unfold ElfLoadRegion.vmaEnd at bounds
      omega
    exact (elfMemToVma_of_buffers hostApart member inside).trans (region.vmaAddr_place bounds.1)
  · rintro guestApart belowTop q ⟨region, member, inside⟩
    have below := belowTop region member
    have back := region.vmaAddr_toNat inside below
    have covers : region.Covers (region.vmaAddr q) := by
      obtain ⟨low, high⟩ := inside
      unfold ElfLoadRegion.Covers ElfLoadRegion.vmaEnd
      unfold ElfLoadRegion.memEnd at high
      omega
    rw [elfMemToVma_of_buffers hostApart member inside, elfVmaToMem_of_covers guestApart member covers below,
      ElfLoadRegion.place, back]
    have low := inside.1
    congr 1
    omega

def overlappedContext : ElfContext where
  loadRegions :=
    [{ vmaBase := 0x1000, memBase := 0x5000, szReserved := 0x1000 },
      { vmaBase := 0x3000, memBase := 0x8000, szReserved := 0x2000 }, {},
      { vmaBase := 0x4000, memBase := 0x2000, szReserved := 0x1000 }]

def apartContext : ElfContext where
  loadRegions :=
    [{ vmaBase := 0x1000, memBase := 0x5000, szReserved := 0x1000 }, {},
      { vmaBase := 0x3000, memBase := 0x8000, szReserved := 0x2000 }]

theorem elfMemToVma_inverse_overlapped :
    (overlappedContext.loadRegions.Pairwise ElfLoadRegion.HostApart ∧
      elfMemToVma overlappedContext 0x9004 = 0x4004) ∧
    apartContext.loadRegions.Pairwise ElfLoadRegion.HostApart ∧
      elfVmaToMem apartContext (elfMemToVma apartContext 0x9004) = some 0x9004 := by
  have overlappedApart : overlappedContext.loadRegions.Pairwise ElfLoadRegion.HostApart := by
    have unshared : overlappedContext.loadRegions.Pairwise ElfLoadRegion.Unshared := by decide
    exact unshared.imp ElfLoadRegion.Unshared.hostApart
  have hostApart : apartContext.loadRegions.Pairwise ElfLoadRegion.HostApart := by
    have unshared : apartContext.loadRegions.Pairwise ElfLoadRegion.Unshared := by decide
    exact unshared.imp ElfLoadRegion.Unshared.hostApart
  have guestApart : apartContext.loadRegions.Pairwise ElfLoadRegion.GuestApart := by
    have disjoint : apartContext.loadRegions.Pairwise ElfLoadRegion.Disjoint := by decide
    exact disjoint.imp ElfLoadRegion.Disjoint.guestApart
  have buffered : ∃ region ∈ apartContext.loadRegions, region.Buffers 0x9004 :=
    ⟨{ vmaBase := 0x3000, memBase := 0x8000, szReserved := 0x2000 }, by simp [apartContext],
      by simp [ElfLoadRegion.Buffers, ElfLoadRegion.memEnd]⟩
  exact ⟨⟨overlappedApart, (elfMemToVma_inverse overlappedContext overlappedApart).1 0x4004 0x9004 (by decide)⟩,
    hostApart, (elfMemToVma_inverse apartContext hostApart).2 guestApart (by decide) 0x9004 buffered⟩

end Urv86t
