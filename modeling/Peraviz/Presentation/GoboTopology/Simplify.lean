import Mathlib.Data.List.Sort
import Peraviz.Presentation.GoboTopology.Impl

/-!
This module contains what thinning out a ring promises. Every round removes one point that passes
all checks, so the checks on the current ring carry over from round to round.
-/

namespace Peraviz.Presentation.GoboCompoundTopology

section Scan

variable {geometry : Geometry2D} {originalSign : Bool} {safeTarget : Nat} {areaThreshold : ℚ}
  {ring trial : PackedVector2Array} {candidates : List Candidate}

theorem acceptsRemoval_iff {index : Nat}
    : acceptsRemoval geometry originalSign ring index = true
      ↔ preservesNeighborTurns ring index = true
        ∧ hasSelfIntersections geometry (ring.eraseIdx index) = false
        ∧ decide (0 < signedArea (ring.eraseIdx index)) = originalSign := by
  rw [acceptsRemoval, Bool.and_eq_true, Bool.and_eq_true, Bool.not_eq_true', beq_iff_eq, and_assoc]

theorem removeCandidate_some
    (h : removeCandidate geometry originalSign safeTarget areaThreshold ring candidates
      = some trial)
    : ∃ candidate ∈ candidates, acceptsRemoval geometry originalSign ring candidate.index = true
        ∧ trial = ring.eraseIdx candidate.index := by
  induction candidates with
  | nil => cases h
  | cons candidate rest ih =>
    rw [removeCandidate] at h
    split at h
    . cases h
    . split at h
      . next haccepts =>
        cases h
        exact ⟨candidate, List.mem_cons_self .., haccepts, rfl⟩
      . obtain ⟨other, hmem, hother⟩ := ih h
        exact ⟨other, List.mem_cons_of_mem _ hmem, hother⟩

-- Above the target no candidate is left out for its area.
theorem removeCandidate_none
    (h : removeCandidate geometry originalSign safeTarget areaThreshold ring candidates = none)
    (habove : safeTarget < ring.length)
    : ∀ candidate ∈ candidates,
        ¬acceptsRemoval geometry originalSign ring candidate.index = true := by
  induction candidates with
  | nil => simp
  | cons candidate rest ih =>
    rw [removeCandidate, if_neg (fun hstop => absurd hstop.1 (Nat.not_le.mpr habove))] at h
    split at h
    . cases h
    . next hrejects =>
      rw [List.forall_mem_cons]
      exact ⟨hrejects, ih h⟩

end Scan

section Candidates

variable (sorting : SortCustom) {ring : PackedVector2Array}

theorem index_lt_of_mem_sort {candidate : Candidate}
    (h : candidate ∈ sorting.sort (candidatesOf ring)) : candidate.index < ring.length := by
  have hmem := (sorting.perm _).mem_iff.mp h
  obtain ⟨index, hindex, rfl⟩ := List.mem_map.mp hmem
  exact List.mem_range.mp hindex

theorem candidateAt_mem_sort {index : Nat} (h : index < ring.length)
    : candidateAt ring index ∈ sorting.sort (candidatesOf ring) := by
  apply (sorting.perm _).mem_iff.mpr
  exact List.mem_map_of_mem (List.mem_range.mpr h)

end Candidates

section Ascending

variable (candidates : List Candidate)

def sortByArea : List Candidate :=
  candidates.insertionSort (fun a b => a.area ≤ b.area)

theorem sortByArea_perm : (sortByArea candidates).Perm candidates :=
  List.perm_insertionSort _ _

theorem sortByArea_sorted
    : (sortByArea candidates).Pairwise (fun a b => a.area ≤ b.area) := by
  have htotal : Std.Total (fun a b : Candidate => a.area ≤ b.area) :=
    ⟨fun a b => le_total a.area b.area⟩
  have htrans : IsTrans Candidate (fun a b => a.area ≤ b.area) :=
    ⟨fun _ _ _ hab hbc => le_trans hab hbc⟩
  exact List.pairwise_insertionSort _ _

/-- A sort that keeps the order of candidates of one area. -/
def stableSort : SortCustom where
  sort := sortByArea
  perm := sortByArea_perm
  sorted := sortByArea_sorted

end Ascending

section Loop

variable {geometry : Geometry2D} {ring result : PackedVector2Array}

/-- What holds of the current ring in every round. -/
structure Simplified (geometry : Geometry2D) (ring result : PackedVector2Array) : Prop where
  sublist : result.Sublist ring
  points : minRingPoints ≤ result.length
  checked : result ≠ ring → hasSelfIntersections geometry result = false
    ∧ (0 < signedArea result ↔ 0 < signedArea ring)

theorem Simplified.refl (h : minRingPoints ≤ ring.length) : Simplified geometry ring ring where
  sublist := List.Sublist.refl ring
  points := h
  checked := fun hne => absurd rfl hne

theorem Simplified.erase (h : Simplified geometry ring result) {index : Nat}
    (hpoints : minRingPoints < result.length) (hindex : index < result.length)
    (haccepts : acceptsRemoval geometry (decide (0 < signedArea ring)) result index = true)
    : Simplified geometry ring (result.eraseIdx index) := by
  obtain ⟨_, hclear, hsign⟩ := acceptsRemoval_iff.mp haccepts
  constructor
  . exact (List.eraseIdx_sublist result index).trans h.sublist
  . rw [List.length_eraseIdx_of_lt hindex]
    omega
  . intro _
    exact ⟨hclear, decide_eq_decide.mp hsign⟩

/-- No further point can be removed. -/
def Exhausted (geometry : Geometry2D) (ring result : PackedVector2Array) : Prop :=
  ∀ index, index < result.length
    → ¬acceptsRemoval geometry (decide (0 < signedArea ring)) result index = true

-- Every round but the last removes one point, so as many rounds are enough as there are points.
theorem exists_simplifyRing (sorting : SortCustom) (safeTarget : Nat) (areaThreshold : ℚ)
    (htarget : minRingPoints ≤ safeTarget) {points : Nat} (hlength : result.length = points)
    (h : Simplified geometry ring result)
    : ∃ answer,
        (∀ fuel, points ≤ fuel →
          simplifyRing geometry sorting (decide (0 < signedArea ring)) safeTarget areaThreshold
            fuel result = some answer)
        ∧ Simplified geometry ring answer
        ∧ (safeTarget < answer.length → Exhausted geometry ring answer) := by
  induction points generalizing result with
  | zero =>
    have hpoints := h.points
    rw [hlength] at hpoints
    cases hpoints
  | succ points ih =>
    generalize hsort : sorting.sort (candidatesOf result) = candidates
    -- Whatever ends the loop in this round, the current ring is the answer.
    have hround (fuel : Nat) (hfuel : points + 1 ≤ fuel)
        : ∃ less, fuel = less + 1 ∧ points ≤ less :=
      ⟨fuel - 1, by omega, by omega⟩
    by_cases hpoints : result.length ≤ minRingPoints
    . refine ⟨result, ?_, h, fun habove => by omega⟩
      intro fuel hfuel
      obtain ⟨less, rfl, _⟩ := hround fuel hfuel
      rw [simplifyRing, if_pos hpoints]
    . by_cases hfinished : isFinished safeTarget areaThreshold result candidates = true
      . refine ⟨result, ?_, h, ?_⟩
        . intro fuel hfuel
          obtain ⟨less, rfl, _⟩ := hround fuel hfuel
          rw [simplifyRing, if_neg hpoints, hsort]
          exact if_pos hfinished
        . intro habove
          rw [isFinished, Bool.and_eq_true, decide_eq_true_eq] at hfinished
          omega
      . cases hremove : removeCandidate geometry (decide (0 < signedArea ring)) safeTarget
            areaThreshold result candidates with
        | none =>
          refine ⟨result, ?_, h, ?_⟩
          . intro fuel hfuel
            obtain ⟨less, rfl, _⟩ := hround fuel hfuel
            rw [simplifyRing, if_neg hpoints, hsort]
            simp only [hfinished, hremove]
            rfl
          . intro habove index hindex
            apply removeCandidate_none hremove habove (candidateAt result index)
            rw [← hsort]
            exact candidateAt_mem_sort sorting hindex
        | some trial =>
          obtain ⟨candidate, hmem, haccepts, rfl⟩ := removeCandidate_some hremove
          rw [← hsort] at hmem
          have hindex := index_lt_of_mem_sort sorting hmem
          have herased := h.erase (Nat.not_le.mp hpoints) hindex haccepts
          obtain ⟨answer, hanswer, hsound⟩ := ih
            (by rw [List.length_eraseIdx_of_lt hindex]; omega) herased
          refine ⟨answer, ?_, hsound⟩
          intro fuel hfuel
          obtain ⟨less, rfl, hless⟩ := hround fuel hfuel
          rw [simplifyRing, if_neg hpoints, hsort]
          simp only [hfinished, hremove]
          exact hanswer less hless

theorem simplifyClosedRing_sound (geometry : Geometry2D) (sorting : SortCustom)
    (ring : PackedVector2Array) (targetPoints : Int) (areaThreshold : ℚ)
    (h : 3 ≤ ring.length)
    : ∃ result,
        (∀ fuel, ring.length ≤ fuel →
          simplifyClosedRing geometry sorting fuel ring targetPoints areaThreshold = some result)
        ∧ result.Sublist ring ∧ 3 ≤ result.length
        ∧ (result ≠ ring → hasSelfIntersections geometry result = false
            ∧ (0 < signedArea result ↔ 0 < signedArea ring))
        ∧ (max targetPoints 3 < (result.length : Int) → ∀ index, index < result.length →
            ¬(preservesNeighborTurns result index = true
              ∧ hasSelfIntersections geometry (result.eraseIdx index) = false
              ∧ (0 < signedArea (result.eraseIdx index) ↔ 0 < signedArea ring))) := by
  have htarget : minRingPoints ≤ (max targetPoints minRingPoints).toNat := by
    rw [minRingPoints]
    omega
  obtain ⟨result, hresult, hsound, hexhausted⟩ :=
    exists_simplifyRing sorting _ areaThreshold htarget rfl (Simplified.refl h)
  refine ⟨result, hresult, hsound.sublist, hsound.points, hsound.checked, ?_⟩
  intro habove index hindex hpasses
  have hmany : (max targetPoints minRingPoints).toNat < result.length := by
    rw [minRingPoints]
    omega
  apply hexhausted hmany index hindex
  rw [acceptsRemoval_iff, decide_eq_decide]
  exact hpasses

/-- A plane in which nothing meets. -/
def clearPlane : Geometry2D where
  isPointInPolygon := fun _ _ => false
  segmentIntersectsSegment := fun _ _ _ _ => none

def square : PackedVector2Array :=
  [{ x := 0, y := 0 }, { x := 2, y := 0 }, { x := 2, y := 2 }, { x := 0, y := 2 }]

def squareWithMidpoint : PackedVector2Array :=
  [{ x := 0, y := 0 }, { x := 1, y := 0 }, { x := 2, y := 0 }, { x := 2, y := 2 },
    { x := 0, y := 2 }]

theorem simplifyClosedRing_sound_square
    : simplifyClosedRing clearPlane stableSort 5 squareWithMidpoint 4 0 = some square
      ∧ square.Sublist squareWithMidpoint ∧ 3 ≤ square.length
      ∧ hasSelfIntersections clearPlane square = false
      ∧ (0 < signedArea square ↔ 0 < signedArea squareWithMidpoint) := by
  have hsquare : simplifyClosedRing clearPlane stableSort 5 squareWithMidpoint 4 0 = some square
      ∧ square ≠ squareWithMidpoint := by
    decide +kernel
  obtain ⟨result, hresult, hsublist, hpoints, hchecked, _⟩ :=
    simplifyClosedRing_sound clearPlane stableSort squareWithMidpoint 4 0 (by decide)
  have hsame : result = square := by
    have hfive := hresult 5 (by decide)
    rw [hsquare.1] at hfive
    exact (Option.some.inj hfive).symm
  rw [hsame] at hsublist hpoints hchecked
  exact ⟨hsquare.1, hsublist, hpoints, hchecked hsquare.2⟩

end Loop

end Peraviz.Presentation.GoboCompoundTopology
