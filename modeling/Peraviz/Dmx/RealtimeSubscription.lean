import Mathlib.Data.Fin.Basic
import Mathlib.Data.List.Sort
import Peraviz.Dmx.ArtNetDmxParser

namespace Peraviz.Dmx

abbrev UniverseIndex := Fin kArtNetUniverseCount

/--
The universes a scene reads and, for each of them, the slots it reads. A universe is used if and
only if at least one of its slots is read.
-/
structure RealtimeSubscription where
  used : UniverseIndex → Bool
  offsets : UniverseIndex → Nat → Bool
  universes : List UniverseIndex
  hused : ∀ u, used u = true ↔ u ∈ universes
  hmask : ∀ u, used u = true ↔ ∃ o, offsets u o = true
  hoffset : ∀ u o, offsets u o = true → o < kDmxSlotCount
  hnodup : universes.Nodup

namespace RealtimeSubscription

/-- The subscription to nothing, from which `build` starts. -/
def empty : RealtimeSubscription where
  used := fun _ => false
  offsets := fun _ _ => false
  universes := []
  hused := by simp
  hmask := by simp
  hoffset := by simp
  hnodup := List.nodup_nil

/-- The mask of `u` once the offsets of one more entry are set. -/
def extendMask (s : RealtimeSubscription) (u : UniverseIndex) (entry : List Nat) (o : Nat) : Bool :=
  s.offsets u o || (decide (o < kDmxSlotCount) && entry.contains o)

def anyOffset (mask : Nat → Bool) : Bool := (List.range kDmxSlotCount).any mask

theorem extendMask_lt {s : RealtimeSubscription} {u : UniverseIndex} {entry : List Nat} {o : Nat}
    (h : s.extendMask u entry o = true) : o < kDmxSlotCount := by
  simp only [extendMask, Bool.or_eq_true, Bool.and_eq_true, decide_eq_true_eq] at h
  cases h with
  | inl h => exact s.hoffset u o h
  | inr h => exact h.1

theorem anyOffset_extendMask {s : RealtimeSubscription} {u : UniverseIndex} {entry : List Nat}
    : anyOffset (s.extendMask u entry) = true ↔ ∃ o, s.extendMask u entry o = true := by
  simp only [anyOffset, List.any_eq_true, List.mem_range]
  constructor
  . intro ⟨o, _, h⟩
    exact ⟨o, h⟩
  . intro ⟨o, h⟩
    exact ⟨o, extendMask_lt h, h⟩

theorem extendMask_of_offsets {s : RealtimeSubscription} {u : UniverseIndex} {entry : List Nat}
    {o : Nat} (h : s.offsets u o = true) : s.extendMask u entry o = true := by
  simp [extendMask, h]

def addEntry (s : RealtimeSubscription) (entry : Nat × List Nat) : RealtimeSubscription :=
  if hrange : entry.1 < kArtNetUniverseCount then
    let u : UniverseIndex := ⟨entry.1, hrange⟩
    if hnew : anyOffset (s.extendMask u entry.2) = true ∧ s.used u = false then
      {
        used := Function.update s.used u true
        offsets := Function.update s.offsets u (s.extendMask u entry.2)
        universes := s.universes ++ [u]
        hused := by
          intro v
          by_cases hv : v = u
          . simp [hv]
          . simp [hv, s.hused]
        hmask := by
          intro v
          by_cases hv : v = u
          . subst hv
            simpa using anyOffset_extendMask.mp hnew.1
          . simp [hv, s.hmask]
        hoffset := by
          intro v o h
          by_cases hv : v = u
          . subst hv
            rw [Function.update_self] at h
            exact extendMask_lt h
          . rw [Function.update_of_ne hv] at h
            exact s.hoffset v o h
        hnodup := by
          have : u ∉ s.universes := by
            rw [← s.hused]
            simp [hnew.2]
          rw [List.nodup_append]
          refine ⟨s.hnodup, List.nodup_singleton u, ?_⟩
          intro v hv w hw heq
          rw [List.mem_singleton] at hw
          apply this
          rw [← hw, ← heq]
          exact hv
      }
    else
      { s with
        offsets := Function.update s.offsets u (s.extendMask u entry.2)
        hmask := by
          intro v
          by_cases hv : v = u
          . subst hv
            rw [Function.update_self, ← anyOffset_extendMask]
            constructor
            . intro h
              obtain ⟨o, ho⟩ := (s.hmask _).mp h
              exact anyOffset_extendMask.mpr ⟨o, extendMask_of_offsets ho⟩
            . intro h
              simpa [h] using hnew
          . simp [hv, s.hmask]
        hoffset := by
          intro v o h
          by_cases hv : v = u
          . subst hv
            rw [Function.update_self] at h
            exact extendMask_lt h
          . rw [Function.update_of_ne hv] at h
            exact s.hoffset v o h
      }
  else
    s

def sortUniverses (s : RealtimeSubscription) : RealtimeSubscription :=
  { s with
    universes := s.universes.mergeSort (fun a b => decide (a ≤ b))
    hused := by simp [s.hused]
    hnodup := (List.mergeSort_perm _ _).nodup_iff.mpr s.hnodup
  }

def build (offsetsByUniverse : List (Nat × List Nat)) : RealtimeSubscription :=
  (offsetsByUniverse.foldl addEntry empty).sortUniverses

def contains (s : RealtimeSubscription) (universeId : Nat) : Bool :=
  if h : universeId < kArtNetUniverseCount then s.used ⟨universeId, h⟩ else false

theorem lt_of_contains {s : RealtimeSubscription} {universeId : Nat}
    (h : s.contains universeId = true) : universeId < kArtNetUniverseCount := by
  unfold contains at h
  split at h
  . assumption
  . contradiction

@[simp]
theorem contains_val (s : RealtimeSubscription) (u : UniverseIndex)
    : s.contains u.val = s.used u := by
  simp [contains, u.isLt]

theorem offsets_addEntry (s : RealtimeSubscription) (entry : Nat × List Nat) (u : UniverseIndex)
    (o : Nat)
    : (s.addEntry entry).offsets u o = true
        ↔ s.offsets u o = true ∨ (o < kDmxSlotCount ∧ entry.1 = u.val ∧ o ∈ entry.2) := by
  unfold addEntry
  by_cases hrange : entry.1 < kArtNetUniverseCount
  . rw [dif_pos hrange]
    dsimp only
    by_cases hu : u = ⟨entry.1, hrange⟩
    . subst hu
      split <;> simp [extendMask]
    . have : entry.1 ≠ u.val := fun h => hu (Fin.ext h.symm)
      split <;> simp [hu, this]
  . rw [dif_neg hrange]
    have : entry.1 ≠ u.val := fun h => hrange (h ▸ u.isLt)
    simp [this]

-- What the loop of `build` leaves of a universe: the offsets of all its entries.
theorem offsets_foldl_addEntry (entries : List (Nat × List Nat)) (s : RealtimeSubscription)
    (u : UniverseIndex) (o : Nat)
    : (entries.foldl addEntry s).offsets u o = true
        ↔ s.offsets u o = true ∨ (o < kDmxSlotCount ∧ ∃ e ∈ entries, e.1 = u.val ∧ o ∈ e.2) := by
  induction entries generalizing s with
  | nil => simp
  | cons entry entries ih =>
    rw [List.foldl_cons, ih, offsets_addEntry]
    simp only [List.mem_cons, exists_eq_or_imp]
    grind

theorem offsets_build (entries : List (Nat × List Nat)) (u : UniverseIndex) (o : Nat)
    : (build entries).offsets u o = true
        ↔ o < kDmxSlotCount ∧ ∃ e ∈ entries, e.1 = u.val ∧ o ∈ e.2 := by
  change (entries.foldl addEntry empty).offsets u o = true ↔ _
  rw [offsets_foldl_addEntry]
  simp [empty]

end RealtimeSubscription
end Peraviz.Dmx
