import Urv86t.Memory.Touches

set_option autoImplicit false

namespace Urv86t

open ByteMemory

def ElfLoadRegion.unplaced (region : ElfLoadRegion) : ElfLoadRegion := { region with memBase := 0 }

def ElfContext.unplaced (ctx : ElfContext) : List ElfLoadRegion := ctx.loadRegions.map ElfLoadRegion.unplaced

/-- The slot of an address: the number of its region, and the offset there. -/
def locateFrom (a : BitVec 32) : List ElfLoadRegion → Option (Nat × Nat)
  | [] => none
  | region :: rest =>
    if region.hit a then some (0, a.toNat - region.vmaBase.toNat)
    else (locateFrom a rest).map fun slot => (slot.1 + 1, slot.2)

def ElfContext.locate (ctx : ElfContext) (a : BitVec 32) : Option (Nat × Nat) := locateFrom a ctx.loadRegions

def ElfContext.slot (ctx : ElfContext) (slot : Nat × Nat) : Option Nat :=
  ctx.loadRegions[slot.1]?.bind fun region =>
    if slot.2 < region.szReserved.toNat then some (region.memBase + slot.2) else none

def slotCell (slot : Nat × Nat) (k : Nat) : Nat × Nat := (slot.1, slot.2 + k)

theorem locateFrom_unplaced (a : BitVec 32) (regions : List ElfLoadRegion) :
    locateFrom a (regions.map ElfLoadRegion.unplaced) = locateFrom a regions := by
  induction regions with
  | nil => rfl
  | cons region rest ih =>
    rw [List.map_cons, locateFrom, locateFrom, ih]
    rfl

section Slots

variable {ctx ctx' : ElfContext} {a : BitVec 32}

theorem locate_congr (same : ctx.unplaced = ctx'.unplaced) (a : BitVec 32) : ctx.locate a = ctx'.locate a := by
  rw [ElfContext.locate, ElfContext.locate, ← locateFrom_unplaced, ← locateFrom_unplaced a ctx'.loadRegions]
  exact congrArg (locateFrom a) same

theorem selected_unplaced (ctx : ElfContext) (a : BitVec 32) :
    (ctx.selected a).map ElfLoadRegion.unplaced = ctx.unplaced.find? (·.hit a) := by
  rw [ElfContext.selected, ElfContext.unplaced, List.find?_map]
  rfl

theorem locate_selected (ctx : ElfContext) (a : BitVec 32) :
    ctx.locate a = none ∧ ctx.selected a = none ∨
      ∃ i region, ctx.locate a = some (i, a.toNat - region.vmaBase.toNat) ∧ ctx.loadRegions[i]? = some region ∧
        ctx.selected a = some region := by
  unfold ElfContext.locate ElfContext.selected
  induction ctx.loadRegions with
  | nil => exact .inl ⟨rfl, rfl⟩
  | cons first rest ih =>
    by_cases hit : first.hit a = true
    · exact .inr ⟨0, first, by rw [locateFrom, if_pos hit], rfl, List.find?_cons_of_pos hit⟩
    · rw [locateFrom, if_neg hit, @List.find?_cons_of_neg _ (·.hit a) first rest hit]
      rcases ih with ⟨missed, none⟩ | ⟨i, region, located, listed, found⟩
      · rw [missed]
        exact .inl ⟨rfl, none⟩
      · rw [located]
        exact .inr ⟨i + 1, region, rfl, listed, found⟩

theorem located_slot {slot : Nat × Nat} (located : ctx.locate a = some slot) :
    ∃ region, ctx.selected a = some region ∧ ctx.slot slot = some (region.memAddr a) := by
  rcases locate_selected ctx a with ⟨missed, -⟩ | ⟨i, region, located', listed, found⟩
  · cases located.symm.trans missed
  cases located.symm.trans located'
  obtain ⟨low, high, -⟩ := ElfLoadRegion.hit_bounds (ElfContext.selected_hit found)
  have inside : a.toNat - region.vmaBase.toNat < region.szReserved.toNat := by
    unfold ElfLoadRegion.vmaEnd at high
    omega
  refine ⟨region, found, ?_⟩
  rw [ElfContext.slot, listed, Option.bind_some, if_pos inside, region.memAddr_eq a low]

theorem elfVmaToMem_slot (ctx : ElfContext) (a : BitVec 32) : elfVmaToMem ctx a = (ctx.locate a).bind ctx.slot := by
  rw [elfVmaToMem_eq]
  cases located : ctx.locate a with
  | none =>
    rcases locate_selected ctx a with ⟨-, missed⟩ | ⟨_, _, located', -⟩
    · rw [missed]
      rfl
    · cases located.symm.trans located'
  | some slot =>
    obtain ⟨region, found, place⟩ := located_slot located
    rw [found, Option.bind_some, place]
    rfl

theorem Reaches.bound {len : Nat} (reaches : Reaches ctx a len) (buffered : ctx.Buffered) {region : ElfLoadRegion}
    (found : ctx.selected a = some region) : a.toNat + len ≤ region.vmaEnd := by
  have backed : ctx.backing a = some (region.memAddr a) := by
    rw [buffered.backing_eq, elfVmaToMem_eq, found]
    rfl
  apply reaches region found
  rw [ElfContext.pointer_of_backing backed]
  exact (ElfContext.backing_eq_some.mp backed).2

theorem Reaches.unplaced {len : Nat} (reaches : Reaches ctx a len) (buffered : ctx.Buffered)
    (same : ctx.unplaced = ctx'.unplaced) : Reaches ctx' a len := by
  intro region' found' _
  have looked := (selected_unplaced ctx a).trans ((congrArg _ same).trans (selected_unplaced ctx' a).symm)
  rw [found'] at looked
  obtain ⟨region, found, alike⟩ := Option.map_eq_some_iff.mp looked
  have bound : a.toNat + len ≤ region.vmaEnd := reaches.bound buffered found
  change a.toNat + len ≤ region.unplaced.vmaEnd at bound
  rw [alike] at bound
  exact bound

theorem Reaches.slots {slot : Nat × Nat} {ptr len : Nat} (reaches : Reaches ctx a len) (buffered : ctx.Buffered)
    (located : ctx.locate a = some slot) (found : ctx.slot slot = some ptr) :
    Maps ctx.slot (slotCell slot) (hostCell ptr) len := by
  rcases locate_selected ctx a with ⟨missed, -⟩ | ⟨i, region, located', listed, selected⟩
  · cases located.symm.trans missed
  cases located.symm.trans located'
  obtain ⟨low, high, -⟩ := ElfLoadRegion.hit_bounds (ElfContext.selected_hit selected)
  have bound := reaches.bound buffered selected
  unfold ElfLoadRegion.vmaEnd at bound high
  have first : a.toNat - region.vmaBase.toNat < region.szReserved.toNat := by omega
  rw [ElfContext.slot, listed, Option.bind_some, if_pos first] at found
  cases found
  intro k inside
  have later : a.toNat - region.vmaBase.toNat + k < region.szReserved.toNat := by omega
  rw [ElfContext.slot, slotCell, listed, Option.bind_some, if_pos later, hostCell, Nat.add_assoc]

theorem slot_region {i k ptr : Nat} (found : ctx.slot (i, k) = some ptr) :
    ∃ region, ctx.loadRegions[i]? = some region ∧ k < region.szReserved.toNat ∧ ptr = region.memBase + k := by
  rw [ElfContext.slot] at found
  cases listed : ctx.loadRegions[i]? with
  | none =>
    rw [listed] at found
    cases found
  | some region =>
    rw [listed, Option.bind_some] at found
    split at found
    next inside =>
      cases found
      exact ⟨region, rfl, inside, rfl⟩
    next => cases found

theorem slot_layout (ctx : ElfContext) (slot : Nat × Nat) :
    ctx.slot slot = ctx.layout[slot.1]?.bind fun region =>
      if slot.2 < region.szReserved.toNat then some (region.memBase + slot.2) else none := by
  rw [ElfContext.layout, List.getElem?_map, Option.bind_map]
  rfl

theorem reaches_zero (ctx : ElfContext) (a : BitVec 32) : Reaches ctx a 0 := fun _ found _ =>
  Nat.le_of_lt (ElfLoadRegion.hit_bounds (ElfContext.selected_hit found)).2.1

theorem slot_injective (unshared : ctx.loadRegions.Pairwise ElfLoadRegion.Unshared) : Injective ctx.slot := by
  rintro ⟨i, k⟩ ⟨i', k'⟩ ptr found found'
  obtain ⟨region, listed, inside, place⟩ := slot_region found
  obtain ⟨region', listed', inside', place'⟩ := slot_region found'
  obtain ⟨bound, rfl⟩ := List.getElem?_eq_some_iff.mp listed
  obtain ⟨bound', rfl⟩ := List.getElem?_eq_some_iff.mp listed'
  have apart : ∀ j j' (low : j < ctx.loadRegions.length) (high : j' < ctx.loadRegions.length), j < j' →
      ElfLoadRegion.Unshared ctx.loadRegions[j] ctx.loadRegions[j'] :=
    List.pairwise_iff_getElem.mp unshared
  rcases Nat.lt_trichotomy i i' with before | rfl | behind
  · have clear := apart i i' bound bound' before
    unfold ElfLoadRegion.Unshared ElfLoadRegion.memEnd at clear
    omega
  · rw [Prod.mk.injEq]
    exact ⟨rfl, by omega⟩
  · have clear := apart i' i bound' bound behind
    unfold ElfLoadRegion.Unshared ElfLoadRegion.memEnd at clear
    omega

end Slots

theorem elfGetRegionByTag_unplaced (tag : String) (regions : List ElfLoadRegion) :
    elfGetRegionByTag tag (regions.map ElfLoadRegion.unplaced) =
      (elfGetRegionByTag tag regions).map fun (before, region, after) =>
        (before.map ElfLoadRegion.unplaced, region.unplaced, after.map ElfLoadRegion.unplaced) := by
  induction regions with
  | nil => rfl
  | cons first rest ih =>
    have same : first.unplaced.tag = first.tag := rfl
    rw [List.map_cons, elfGetRegionByTag, elfGetRegionByTag, same, ih]
    split
    · rfl
    · cases elfGetRegionByTag tag rest <;> rfl

end Urv86t
