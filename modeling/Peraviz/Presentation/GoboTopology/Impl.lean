import Mathlib.Algebra.Order.Ring.Rat

/-!
This module contains the rings of a gobo image: how they are arranged into outer rings with their
holes, and how the points of one ring are thinned out. Coordinates are exact, and the predicates of
the engine on points and segments are parameters.
-/

namespace Peraviz.Presentation

structure Vector2 where
  x : ℚ
  y : ℚ
deriving DecidableEq

namespace Vector2

instance : Zero Vector2 := ⟨{ x := 0, y := 0 }⟩

instance : Sub Vector2 := ⟨fun a b => { x := a.x - b.x, y := a.y - b.y }⟩

def cross (a b : Vector2) : ℚ := a.x * b.y - a.y * b.x

theorem cross_anti (a b : Vector2) : b.cross a = -a.cross b := by
  rw [cross, cross, neg_sub, mul_comm b.x, mul_comm b.y]

end Vector2

abbrev PackedVector2Array := List Vector2

/-- What the engine answers about points and segments. -/
structure Geometry2D where
  isPointInPolygon : Vector2 → PackedVector2Array → Bool
  segmentIntersectsSegment : Vector2 → Vector2 → Vector2 → Vector2 → Option Vector2

namespace GoboCompoundTopology

def minRingPoints : Nat := 3

def pointAt (ring : PackedVector2Array) (index : Nat) : Vector2 := ring.getD index 0

def signedArea (ring : PackedVector2Array) : ℚ :=
  (List.range ring.length).foldl (fun area index =>
    area + (pointAt ring index).cross (pointAt ring ((index + 1) % ring.length))) 0 * (1 / 2)

def normalizeWinding (ring : PackedVector2Array) (counterClockwise : Bool) : PackedVector2Array :=
  if decide (0 < signedArea ring) != counterClockwise then ring.reverse else ring

section Build

structure Record where
  ring : PackedVector2Array
  area : ℚ
  parent : Option Nat
  depth : Nat

structure Component where
  outer : PackedVector2Array
  holes : List PackedVector2Array
  depth : Nat

def recordsOf (rings : List PackedVector2Array) : List Record :=
  (rings.filter (fun ring => minRingPoints ≤ ring.length)).map (fun ring =>
    { ring := ring, area := |signedArea ring|, parent := none, depth := 0 })

/-- The index and the area of the best parent so far. Without one the area is infinite. -/
abbrev BestParent := Option (Nat × ℚ)

def isBelow (area : ℚ) : BestParent → Bool
  | none => true
  | some best => decide (area < best.2)

def considerParent (geometry : Geometry2D) (index : Nat) (record : Record) (best : BestParent)
    (candidate : Record × Nat) : BestParent :=
  if candidate.2 = index ∨ candidate.1.area ≤ record.area then
    best
  else if geometry.isPointInPolygon (pointAt record.ring 0) candidate.1.ring
      && isBelow candidate.1.area best then
    some (candidate.2, candidate.1.area)
  else
    best

def findParent (geometry : Geometry2D) (records : List Record) (index : Nat) (record : Record)
    : Option Nat :=
  (records.zipIdx.foldl (considerParent geometry index record) none).map Prod.fst

def linkParents (geometry : Geometry2D) (records : List Record) : List Record :=
  records.mapIdx (fun index record =>
    { record with parent := findParent geometry records index record })

def parentOf (records : List Record) (index : Nat) : Option Nat :=
  records[index]?.bind Record.parent

/-- The walk along the parents. Nothing is answered where the fuel does not last. -/
def walkAncestors (records : List Record) : Nat → Nat → Option Nat → Option Nat
  | _, depth, none => some depth
  | 0, _, some _ => none
  | fuel + 1, depth, some ancestor =>
    walkAncestors records fuel (depth + 1) (parentOf records ancestor)

def windRecord (fuel : Nat) (records : List Record) (record : Record) : Option Record :=
  (walkAncestors records fuel 0 record.parent).map (fun depth =>
    { record with depth := depth, ring := normalizeWinding record.ring (depth % 2 == 0) })

def isHoleOf (index : Nat) (child : Record) : Bool :=
  child.parent == some index && child.depth % 2 == 1

def holesOf (records : List Record) (index : Nat) : List PackedVector2Array :=
  (records.filter (isHoleOf index)).map Record.ring

def componentAt (records : List Record) (entry : Record × Nat) : Option Component :=
  if entry.1.depth % 2 != 0 then
    none
  else
    some {
      outer := entry.1.ring
      holes := holesOf records entry.2
      depth := entry.1.depth
    }

def componentsOf (records : List Record) : List Component :=
  records.zipIdx.filterMap (componentAt records)

def build (geometry : Geometry2D) (fuel : Nat) (rings : List PackedVector2Array)
    : Option (List Component) := do
  let records := linkParents geometry (recordsOf rings)
  let wound ← records.mapM (windRecord fuel records)
  return componentsOf wound

end Build

section Simplify

def hasSelfIntersections (geometry : Geometry2D) (ring : PackedVector2Array) : Bool :=
  (List.range ring.length).any (fun first =>
    (List.range ring.length).any (fun second =>
      decide (first + 1 < second) && !(first == 0 && second == ring.length - 1)
        && (geometry.segmentIntersectsSegment (pointAt ring first)
          (pointAt ring ((first + 1) % ring.length)) (pointAt ring second)
          (pointAt ring ((second + 1) % ring.length))).isSome))

def sameNonzeroSign (referenceTurn candidate : ℚ) : Bool :=
  if |referenceTurn| ≤ 1 / 10000000 then true else decide (0 < candidate * referenceTurn)

-- Five points or more, so that the point two places back is reached without a negative number.
def preservesNeighborTurns (ring : PackedVector2Array) (removedIndex : Nat) : Bool :=
  let count := ring.length
  if count ≤ 4 then
    true
  else
    let previousPrevious := pointAt ring ((removedIndex + count - 2) % count)
    let previous := pointAt ring ((removedIndex + count - 1) % count)
    let removed := pointAt ring removedIndex
    let next := pointAt ring ((removedIndex + 1) % count)
    let nextNext := pointAt ring ((removedIndex + 2) % count)
    let oldPreviousTurn := (previous - previousPrevious).cross (removed - previous)
    let newPreviousTurn := (previous - previousPrevious).cross (next - previous)
    let oldNextTurn := (next - removed).cross (nextNext - next)
    let newNextTurn := (next - previous).cross (nextNext - next)
    sameNonzeroSign oldPreviousTurn newPreviousTurn && sameNonzeroSign oldNextTurn newNextTurn

structure Candidate where
  index : Nat
  area : ℚ
deriving DecidableEq

def candidateAt (ring : PackedVector2Array) (index : Nat) : Candidate :=
  let previous := pointAt ring ((index + ring.length - 1) % ring.length)
  let next := pointAt ring ((index + 1) % ring.length)
  {
    index := index
    area := |(pointAt ring index - previous).cross (next - pointAt ring index)|
  }

def candidatesOf (ring : PackedVector2Array) : List Candidate :=
  (List.range ring.length).map (candidateAt ring)

/-- A sort of the candidates by their area. The order of equal areas is up to the sort. -/
structure SortCustom where
  sort : List Candidate → List Candidate
  perm : ∀ candidates, (sort candidates).Perm candidates
  sorted : ∀ candidates, (sort candidates).Pairwise (fun a b => a.area ≤ b.area)

/-- The checks on a ring with one point removed. -/
def acceptsRemoval (geometry : Geometry2D) (originalSign : Bool) (ring : PackedVector2Array)
    (index : Nat) : Bool :=
  preservesNeighborTurns ring index
    && !hasSelfIntersections geometry (ring.eraseIdx index)
    && decide (0 < signedArea (ring.eraseIdx index)) == originalSign

def removeCandidate (geometry : Geometry2D) (originalSign : Bool) (safeTarget : Nat)
    (areaThreshold : ℚ) (ring : PackedVector2Array) : List Candidate → Option PackedVector2Array
  | [] => none
  | candidate :: rest =>
    if ring.length ≤ safeTarget ∧ areaThreshold < candidate.area then
      none
    else if acceptsRemoval geometry originalSign ring candidate.index then
      some (ring.eraseIdx candidate.index)
    else
      removeCandidate geometry originalSign safeTarget areaThreshold ring rest

/-- Whether the loop ends before it tries a candidate. -/
def isFinished (safeTarget : Nat) (areaThreshold : ℚ) (ring : PackedVector2Array)
    (candidates : List Candidate) : Bool :=
  decide (ring.length ≤ safeTarget)
    && (match candidates.head? with
      | none => true
      | some smallest => decide (areaThreshold < smallest.area))

def simplifyRing (geometry : Geometry2D) (sorting : SortCustom) (originalSign : Bool)
    (safeTarget : Nat) (areaThreshold : ℚ) : Nat → PackedVector2Array → Option PackedVector2Array
  | 0, _ => none
  | fuel + 1, result =>
    if result.length ≤ minRingPoints then
      some result
    else
      let candidates := sorting.sort (candidatesOf result)
      if isFinished safeTarget areaThreshold result candidates then
        some result
      else
        match removeCandidate geometry originalSign safeTarget areaThreshold result candidates with
        | none => some result
        | some trial =>
          simplifyRing geometry sorting originalSign safeTarget areaThreshold fuel trial

def simplifyClosedRing (geometry : Geometry2D) (sorting : SortCustom) (fuel : Nat)
    (ring : PackedVector2Array) (targetPoints : Int) (areaThreshold : ℚ)
    : Option PackedVector2Array :=
  simplifyRing geometry sorting (decide (0 < signedArea ring))
    (max targetPoints minRingPoints).toNat areaThreshold fuel ring

end Simplify

end GoboCompoundTopology

end Peraviz.Presentation
