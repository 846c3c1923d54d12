import Peraviz.Presentation.Setup.Emitters
import Mathlib.Data.List.Destutter

/-!
This module contains the grouping of the emitters for the renderer and the proof that the setup
index changes none of the three results of the setup.
-/

namespace Peraviz.Presentation.Setup

open Peraviz.Runtime

inductive RenderPresentationClass where
  | individual
  | aggregated
  | instanced
  deriving DecidableEq, Repr

structure RenderEmitterGroup (σ : Type) where
  id : Int32
  fixtureId : Int32
  presentation : RenderPresentationClass := .individual
  physicalIds : List Int32
  controlGroupIds : List Int32
  anchorGeometryKey : String := ""
  origin : EmitterVector σ
  direction : EmitterVector σ
  rejectionReason : String := ""
  approximateColorMembers : Nat
  candidateMembers : Nat
  nominalFlux : σ
  apertureRadius : σ
  beamAngle : σ
  fieldAngle : σ
  packingDensity : σ

section

variable {σ : Type} [SpatialScalar σ]

open SpatialScalar

attribute [local instance] Scalar.toBEq

namespace AggregationPolicy

def minimumMembers : Nat := 3
def minimumPackingDensity : σ := ofRat (45 / 100)
def maximumDirectionSpreadDegrees : σ := ofRat 2
def maximumAngleDifferenceDegrees : σ := ofRat (25 / 100)
def maximumRadiusRatio : σ := ofRat 12

end AggregationPolicy

/-- A beam with its descriptor, which the code reaches by one index into both vectors. -/
abbrev Emitter (σ : Type) := CompiledBeamOpticalProfile σ × EmitterSpatialDescriptor σ

def isZoomOf (beam : CompiledBeamOpticalProfile σ) (property : CompiledComponentProperty) : Bool :=
  property.semantic = .listed .zoom && (property.geometryName = beam.geometryPath ||
    (property.geometryName ++ "/").toList.isPrefixOf beam.geometryPath.toList)

def zoomAuthority (scene : CompiledRuntimeScene σ) (beam : CompiledBeamOpticalProfile σ)
    : List Int32 :=
  (scene.properties.filter (fun property => property.fixtureId = beam.fixtureId &&
    isZoomOf beam property)).map (fun property => property.propertyId)

def zoomAuthorityIndexed (scene : CompiledRuntimeScene σ) (beam : CompiledBeamOpticalProfile σ)
    : List Int32 :=
  (((SetupIndex.ofScene scene).properties beam.fixtureId).filter (isZoomOf beam)).map
    (fun property => property.propertyId)

def zoomOf (scene : CompiledRuntimeScene σ) (indexed : Bool) (beam : CompiledBeamOpticalProfile σ)
    : List Int32 :=
  if indexed then zoomAuthorityIndexed scene beam else zoomAuthority scene beam

def directionSpread : σ :=
  cos (div (mul AggregationPolicy.maximumDirectionSpreadDegrees
    (ofRat (3141592653589793 / 1000000000000000))) (ofRat 180))

def isNear (a b : σ) : Bool :=
  le (abs (sub a b)) AggregationPolicy.maximumAngleDifferenceDegrees

def compatible (scene : CompiledRuntimeScene σ) (indexed : Bool) (a b : Emitter σ) : Bool :=
  a.2.reliable && b.2.reliable && a.1.fixtureId = b.1.fixtureId &&
    a.2.anchorGeometryKey = b.2.anchorGeometryKey && a.2.axisLineage = b.2.axisLineage &&
    a.2.shutterAuthority = b.2.shutterAuthority && a.1.beamType = b.1.beamType &&
    a.1.beamAngleExplicit = b.1.beamAngleExplicit &&
    a.1.fieldAngleExplicit = b.1.fieldAngleExplicit &&
    a.1.colorTemperature == b.1.colorTemperature && isNear a.1.beamAngleDeg b.1.beamAngleDeg &&
    isNear a.1.fieldAngleDeg b.1.fieldAngleDeg &&
    zoomOf scene indexed a.1 = zoomOf scene indexed b.1 &&
    le directionSpread (dot a.2.direction b.2.direction)

def misfitReason (scene : CompiledRuntimeScene σ) (indexed : Bool) (member emitter : Emitter σ)
    : String :=
  if member.2.anchorGeometryKey ≠ emitter.2.anchorGeometryKey ∨
      member.2.axisLineage ≠ emitter.2.axisLineage then "axis_lineage"
  else if member.2.shutterAuthority ≠ emitter.2.shutterAuthority then "shutter_authority"
  else if zoomOf scene indexed member.1 ≠ zoomOf scene indexed emitter.1 then "zoom_authority"
  else if Scalar.lt (dot member.2.direction emitter.2.direction) directionSpread then
    "direction_spread"
  else "optical_profile"

def explainMisfit (scene : CompiledRuntimeScene σ) (indexed : Bool) (member emitter : Emitter σ)
    : Emitter σ :=
  if member.2.fixtureId = emitter.2.fixtureId ∧ member.2.reliable = true then
    (emitter.1, { emitter.2 with rejectionReason := misfitReason scene indexed member emitter })
  else emitter

def firstMisfit (scene : CompiledRuntimeScene σ) (indexed : Bool) (emitter : Emitter σ)
    (candidate : List (Emitter σ)) : Option (Emitter σ) :=
  candidate.find? (fun member => !compatible scene indexed member emitter)

def candidateAt (candidates : List (List (Emitter σ))) (position : Nat) : List (Emitter σ) :=
  (candidates[position]?).getD []

/-- The first eligible candidate that an emitter fits. Each one before it leaves a reason. -/
def findCandidate (scene : CompiledRuntimeScene σ) (indexed : Bool)
    (candidates : List (List (Emitter σ))) (emitter : Emitter σ)
    : List Nat → Emitter σ × Option Nat
  | [] => (emitter, none)
  | position :: eligible =>
    match firstMisfit scene indexed emitter (candidateAt candidates position) with
    | none => (emitter, some position)
    | some member =>
      findCandidate scene indexed candidates (explainMisfit scene indexed member emitter) eligible

structure CandidateState (σ : Type) where
  candidates : List (List (Emitter σ)) := []
  candidatesByFixture : Int32 → List Nat := fun _ => []
  allCandidates : List Nat := []

def eligibleOf (indexed : Bool) (x : CandidateState σ) (fixtureId : Int32) : List Nat :=
  if indexed then x.candidatesByFixture fixtureId else x.allCandidates

def joinCandidate (x : CandidateState σ) (emitter : Emitter σ) (position : Nat)
    : CandidateState σ :=
  { x with candidates := x.candidates.modify position (fun candidate => candidate ++ [emitter]) }

def newCandidate (x : CandidateState σ) (emitter : Emitter σ) : CandidateState σ where
  candidates := x.candidates ++ [[emitter]]
  candidatesByFixture :=
    KeyedIndex.push x.candidatesByFixture emitter.2.fixtureId x.candidates.length
  allCandidates := x.allCandidates ++ [x.candidates.length]

def searchEmitter (scene : CompiledRuntimeScene σ) (indexed : Bool) (x : CandidateState σ)
    (emitter : Emitter σ) : Emitter σ × Option Nat :=
  if emitter.2.reliable then
    findCandidate scene indexed x.candidates emitter (eligibleOf indexed x emitter.2.fixtureId)
  else (emitter, none)

def placeEmitter (scene : CompiledRuntimeScene σ) (indexed : Bool) (x : CandidateState σ)
    (emitter : Emitter σ) : CandidateState σ :=
  match searchEmitter scene indexed x emitter with
  | (emitter, some position) => joinCandidate x emitter position
  | (emitter, none) => newCandidate x emitter

def emittersOf (scene : CompiledRuntimeScene σ) (model : List (SceneNode σ)) (indexed : Bool)
    : List (Emitter σ) :=
  scene.beamProfiles.zip (compileEmitterSpatialDescriptors scene model indexed)

def candidatesOf (scene : CompiledRuntimeScene σ) (model : List (SceneNode σ)) (indexed : Bool)
    : List (List (Emitter σ)) :=
  ((emittersOf scene model indexed).foldl (placeEmitter scene indexed) {}).candidates

/-- Of two control groups with one physical id the code keeps the last. -/
def controlById (controls : List PresentationControlGroup) (physicalId : Int32) : Int32 :=
  ((controls.reverse.find? (fun c => c.physicalIds.contains physicalId)).map
    (fun c => c.id)).getD 0

def maxOf (a b : σ) : σ :=
  if Scalar.lt a b then b else a

def sumOf (weight : Emitter σ → σ) (candidate : List (Emitter σ)) : σ :=
  candidate.foldl (fun sum e => add sum (weight e)) (ofRat 0)

def sumVectors (vector : Emitter σ → EmitterVector σ) (candidate : List (Emitter σ))
    : EmitterVector σ :=
  candidate.foldl (fun sum e => addVector sum (vector e)) zeroVector

def largestOf (size : Emitter σ → σ) (candidate : List (Emitter σ)) : σ :=
  candidate.foldl (fun largest e => maxOf largest (size e)) (ofRat 0)

def groupOrigin (candidate : List (Emitter σ)) : EmitterVector σ :=
  let flux := sumOf (fun e => e.2.nominalFlux) candidate
  let origin := sumVectors (fun e => mulVector e.2.origin e.2.nominalFlux) candidate
  if Scalar.lt (ofRat 0) flux then mulVector origin (div (ofRat 1) flux) else origin

def groupDirection (candidate : List (Emitter σ)) : EmitterVector σ :=
  normalized (sumVectors (fun e => mulVector e.2.direction e.2.nominalFlux) candidate)

def offsetFrom (origin : EmitterVector σ) (e : Emitter σ) : EmitterVector σ :=
  addVector e.2.origin (mulVector origin (ofRat (-1)))

def groupRadius (candidate : List (Emitter σ)) : σ :=
  largestOf (fun e => add (length (offsetFrom (groupOrigin candidate) e)) e.2.apertureRadius)
    candidate

def groupDepth (candidate : List (Emitter σ)) : σ :=
  largestOf (fun e => abs (dot (offsetFrom (groupOrigin candidate) e) (groupDirection candidate)))
    candidate

def groupPacking (candidate : List (Emitter σ)) : σ :=
  let area := sumOf (fun e => mul e.2.apertureRadius e.2.apertureRadius) candidate
  let radius := groupRadius candidate
  if Scalar.lt (ofRat 0) radius then div area (mul radius radius) else ofRat 0

def largestRadius (candidate : List (Emitter σ)) : σ :=
  largestOf (fun e => e.2.apertureRadius) candidate

def maximumRadius (candidate : List (Emitter σ)) : σ :=
  mul (largestRadius candidate) AggregationPolicy.maximumRadiusRatio

def isCompact (first : Emitter σ) (candidate : List (Emitter σ)) : Bool :=
  AggregationPolicy.minimumMembers ≤ candidate.length && first.2.reliable &&
    le AggregationPolicy.minimumPackingDensity (groupPacking candidate) &&
    le (groupRadius candidate) (maximumRadius candidate) &&
    le (groupDepth candidate) (largestRadius candidate)

def aggregatedGroup (controls : List PresentationControlGroup) (id : Int32) (first : Emitter σ)
    (candidate : List (Emitter σ)) : RenderEmitterGroup σ where
  id
  fixtureId := first.2.fixtureId
  presentation := .aggregated
  physicalIds := candidate.map (fun e => e.2.physicalId)
  controlGroupIds := ((candidate.map (fun e => controlById controls e.2.physicalId)).mergeSort
    (fun a b => a ≤ b)).destutter (fun a b => a ≠ b)
  anchorGeometryKey := first.2.anchorGeometryKey
  origin := groupOrigin candidate
  direction := groupDirection candidate
  approximateColorMembers := candidate.countP (fun e => e.2.approximateColor)
  candidateMembers := candidate.length
  nominalFlux := sumOf (fun e => e.2.nominalFlux) candidate
  apertureRadius := groupRadius candidate
  beamAngle := first.1.beamAngleDeg
  fieldAngle := first.1.fieldAngleDeg
  packingDensity := groupPacking candidate

def singleReason (candidate : List (Emitter σ)) (e : Emitter σ) : String :=
  if !e.2.reliable then e.2.rejectionReason
  else if candidate.length < AggregationPolicy.minimumMembers then
    (if e.2.rejectionReason = "" then "compatible_peers" else e.2.rejectionReason)
  else if Scalar.lt (groupPacking candidate) AggregationPolicy.minimumPackingDensity then
    "packing_density"
  else if Scalar.lt (maximumRadius candidate) (groupRadius candidate) then "enclosure_radius"
  else "axial_depth"

def singleGroup (controls : List PresentationControlGroup) (id : Int32) (isFirst : Bool)
    (candidate : List (Emitter σ)) (e : Emitter σ) : RenderEmitterGroup σ where
  id
  fixtureId := e.2.fixtureId
  physicalIds := [e.2.physicalId]
  controlGroupIds := [controlById controls e.2.physicalId]
  origin := zeroVector
  direction := (ofRat 0, ofRat (-1), ofRat 0)
  rejectionReason := singleReason candidate e
  approximateColorMembers := if e.2.approximateColor then 1 else 0
  candidateMembers := if isFirst then candidate.length else 0
  nominalFlux := ofRat 0
  apertureRadius := ofRat 0
  beamAngle := ofRat 25
  fieldAngle := ofRat 25
  packingDensity := ofRat 0

def emitCandidate (controls : List PresentationControlGroup) (out : List (RenderEmitterGroup σ))
    (candidate : List (Emitter σ)) : List (RenderEmitterGroup σ) :=
  match candidate with
  | [] => out
  | first :: _ =>
    if isCompact first candidate then
      out ++ [aggregatedGroup controls (Int32.ofNat (out.length + 1)) first candidate]
    else
      out ++ candidate.zipIdx.map (fun (e, i) =>
        singleGroup controls (Int32.ofNat (out.length + i + 1)) (i = 0) candidate e)

def compileRenderEmitterGroups (scene : CompiledRuntimeScene σ) (model : List (SceneNode σ))
    (controls : List PresentationControlGroup) (indexed : Bool) : List (RenderEmitterGroup σ) :=
  (candidatesOf scene model indexed).foldl (emitCandidate controls) []

theorem zoomOf_indexed (scene : CompiledRuntimeScene σ)
    : zoomOf scene true = zoomOf scene false := by
  funext beam
  simp only [zoomOf, if_true, Bool.false_eq_true, if_false, zoomAuthorityIndexed, zoomAuthority,
    SetupIndex.ofScene, KeyedIndex.group_eq_filter, List.filter_filter, Bool.and_comm]

theorem compatible_indexed (scene : CompiledRuntimeScene σ)
    : compatible scene true = compatible scene false := by
  funext a b
  rw [compatible, zoomOf_indexed, ← compatible]

theorem explainMisfit_indexed (scene : CompiledRuntimeScene σ)
    : explainMisfit scene true = explainMisfit scene false := by
  funext member emitter
  rw [explainMisfit, misfitReason, zoomOf_indexed, ← misfitReason, ← explainMisfit]

theorem findCandidate_indexed (scene : CompiledRuntimeScene σ)
    (candidates : List (List (Emitter σ))) (emitter : Emitter σ) (eligible : List Nat)
    : findCandidate scene true candidates emitter eligible
        = findCandidate scene false candidates emitter eligible := by
  induction eligible generalizing emitter with
  | nil => rfl
  | cons position eligible ih =>
    simp only [findCandidate, firstMisfit, compatible_indexed, explainMisfit_indexed, ih]

-- The fixture of a candidate is the one of its first member.
def fixtureAt (candidates : List (List (Emitter σ))) (position : Nat) : Option Int32 :=
  (candidateAt candidates position).head?.map (fun e => e.2.fixtureId)

def isOfFixture (candidates : List (List (Emitter σ))) (fixtureId : Int32) (position : Nat)
    : Bool :=
  fixtureAt candidates position = some fixtureId

def Emitter.Described (e : Emitter σ) : Prop :=
  e.2.fixtureId = e.1.fixtureId

structure CandidateState.Consistent (x : CandidateState σ) : Prop where
  lt_length : ∀ position ∈ x.allCandidates, position < x.candidates.length
  nonempty : ∀ candidate ∈ x.candidates, candidate ≠ []
  described : ∀ candidate ∈ x.candidates, ∀ e ∈ candidate, Emitter.Described e
  byFixture : ∀ fixtureId, x.candidatesByFixture fixtureId
    = x.allCandidates.filter (isOfFixture x.candidates fixtureId)

omit [SpatialScalar σ] in
theorem candidateAt_mem {candidates : List (List (Emitter σ))} {position : Nat}
    (hlt : position < candidates.length)
    : candidateAt candidates position ∈ candidates := by
  rw [candidateAt, List.getElem?_eq_getElem hlt, Option.getD_some]
  apply List.getElem_mem

theorem compatible_fixture {scene : CompiledRuntimeScene σ} {indexed : Bool} {a b : Emitter σ}
    (h : compatible scene indexed a b = true)
    : a.1.fixtureId = b.1.fixtureId := by
  simp only [compatible, Bool.and_eq_true, decide_eq_true_eq] at h
  tauto

theorem explainMisfit_foreign {scene : CompiledRuntimeScene σ} {indexed : Bool}
    {member emitter : Emitter σ} (h : member.2.fixtureId ≠ emitter.2.fixtureId)
    : explainMisfit scene indexed member emitter = emitter := by
  rw [explainMisfit, if_neg]
  tauto

@[simp]
theorem explainMisfit_fst (scene : CompiledRuntimeScene σ) (indexed : Bool)
    (member emitter : Emitter σ)
    : (explainMisfit scene indexed member emitter).1 = emitter.1 := by
  rw [explainMisfit]
  split
  next => rfl
  next => rfl

@[simp]
theorem explainMisfit_fixtureId (scene : CompiledRuntimeScene σ) (indexed : Bool)
    (member emitter : Emitter σ)
    : (explainMisfit scene indexed member emitter).2.fixtureId = emitter.2.fixtureId := by
  rw [explainMisfit]
  split
  next => rfl
  next => rfl

theorem Emitter.Described.explainMisfit {e : Emitter σ} (h : Described e)
    (scene : CompiledRuntimeScene σ) (indexed : Bool) (member : Emitter σ)
    : Described (explainMisfit scene indexed member e) := by
  rw [Described, explainMisfit_fst, explainMisfit_fixtureId]
  exact h

theorem firstMisfit_foreign {scene : CompiledRuntimeScene σ} {indexed : Bool}
    {candidate : List (Emitter σ)} {emitter : Emitter σ} (hemitter : emitter.Described)
    (hcandidate : ∀ e ∈ candidate, Emitter.Described e) (hnonempty : candidate ≠ [])
    (hforeign : candidate.head?.map (fun e => e.2.fixtureId) ≠ some emitter.2.fixtureId)
    : ∃ member, firstMisfit scene indexed emitter candidate = some member ∧
        member.2.fixtureId ≠ emitter.2.fixtureId := by
  cases candidate with
  | nil => contradiction
  | cons member candidate =>
    have hne : member.2.fixtureId ≠ emitter.2.fixtureId := by simpa using hforeign
    have hmisfit : compatible scene indexed member emitter ≠ true := by
      intro hfits
      have hmember := hcandidate member (by simp)
      apply hne
      rw [hmember, compatible_fixture hfits, hemitter]
    refine ⟨member, ?_, hne⟩
    rw [firstMisfit, List.find?_cons_of_pos]
    simpa using hmisfit

theorem findCandidate_filter {scene : CompiledRuntimeScene σ} {indexed : Bool}
    {candidates : List (List (Emitter σ))} {emitter : Emitter σ} {eligible : List Nat}
    (hemitter : emitter.Described)
    (hlt : ∀ position ∈ eligible, position < candidates.length)
    (hnonempty : ∀ candidate ∈ candidates, candidate ≠ [])
    (hdescribed : ∀ candidate ∈ candidates, ∀ e ∈ candidate, Emitter.Described e)
    : findCandidate scene indexed candidates emitter
        (eligible.filter (isOfFixture candidates emitter.2.fixtureId))
        =
      findCandidate scene indexed candidates emitter eligible := by
  induction eligible generalizing emitter with
  | nil => rfl
  | cons position eligible ih =>
    have hmem := candidateAt_mem (hlt position (by simp))
    have ih := fun e h => @ih e h (fun q hq => hlt q (by simp [hq]))
    by_cases hfixture : fixtureAt candidates position = some emitter.2.fixtureId
    . have hpos : isOfFixture candidates emitter.2.fixtureId position = true := by
        simpa [isOfFixture] using hfixture
      rw [List.filter_cons_of_pos hpos, findCandidate, findCandidate]
      split
      next => rfl
      next member _ =>
        have := ih _ (hemitter.explainMisfit scene indexed member)
        rw [explainMisfit_fixtureId] at this
        exact this
    . have hneg : ¬isOfFixture candidates emitter.2.fixtureId position = true := by
        simpa [isOfFixture] using hfixture
      rw [List.filter_cons_of_neg hneg, ih _ hemitter]
      have hmisfit := @firstMisfit_foreign _ _ scene indexed _ _ hemitter (hdescribed _ hmem)
        (hnonempty _ hmem) hfixture
      cases hmisfit with
      | intro member hmember =>
        rw [findCandidate, hmember.1]
        dsimp only
        rw [explainMisfit_foreign hmember.2]

theorem searchEmitter_indexed {scene : CompiledRuntimeScene σ} {x : CandidateState σ}
    {emitter : Emitter σ} (hx : x.Consistent) (hemitter : emitter.Described)
    : searchEmitter scene true x emitter = searchEmitter scene false x emitter := by
  rw [searchEmitter, searchEmitter]
  simp only [eligibleOf, if_true, Bool.false_eq_true, if_false, hx.byFixture,
    findCandidate_indexed]
  rw [findCandidate_filter hemitter hx.lt_length hx.nonempty hx.described]

theorem placeEmitter_indexed {scene : CompiledRuntimeScene σ} {x : CandidateState σ}
    {emitter : Emitter σ} (hx : x.Consistent) (hemitter : emitter.Described)
    : placeEmitter scene true x emitter = placeEmitter scene false x emitter := by
  rw [placeEmitter, searchEmitter_indexed hx hemitter, ← placeEmitter]

theorem findCandidate_emitter {scene : CompiledRuntimeScene σ} {indexed : Bool}
    {candidates : List (List (Emitter σ))} {emitter : Emitter σ} (hemitter : emitter.Described)
    (eligible : List Nat)
    : (findCandidate scene indexed candidates emitter eligible).1.Described := by
  induction eligible generalizing emitter with
  | nil => exact hemitter
  | cons position eligible ih =>
    rw [findCandidate]
    split
    next => exact hemitter
    next => exact ih (hemitter.explainMisfit scene indexed _)

theorem searchEmitter_emitter {scene : CompiledRuntimeScene σ} {indexed : Bool}
    {x : CandidateState σ} {emitter : Emitter σ} (hemitter : emitter.Described)
    : (searchEmitter scene indexed x emitter).1.Described := by
  rw [searchEmitter]
  split
  next => exact findCandidate_emitter hemitter _
  next => exact hemitter

omit [SpatialScalar σ] in
theorem isOfFixture_modify {candidates : List (List (Emitter σ))} (emitter : Emitter σ)
    (hnonempty : ∀ candidate ∈ candidates, candidate ≠ []) (position : Nat)
    : isOfFixture (candidates.modify position (fun candidate => candidate ++ [emitter]))
        = isOfFixture candidates := by
  funext fixtureId q
  rw [isOfFixture, isOfFixture, decide_eq_decide]
  rw [fixtureAt, fixtureAt, candidateAt, candidateAt, List.getElem?_modify]
  cases hq : candidates[q]? with
  | none => rfl
  | some candidate =>
    have hne := hnonempty candidate (List.mem_of_getElem? hq)
    by_cases heq : position = q
    . simp [heq, List.head?_append_of_ne_nil _ hne]
    . simp [heq]

omit [SpatialScalar σ] in
theorem isOfFixture_append {candidates : List (List (Emitter σ))} (emitter : Emitter σ)
    (fixtureId : Int32) {position : Nat} (hlt : position < candidates.length)
    : isOfFixture (candidates ++ [[emitter]]) fixtureId position
        = isOfFixture candidates fixtureId position := by
  rw [isOfFixture, isOfFixture, decide_eq_decide]
  rw [fixtureAt, fixtureAt, candidateAt, candidateAt, List.getElem?_append_left hlt]

omit [SpatialScalar σ] in
theorem mem_modify_append {candidates : List (List (Emitter σ))} {emitter : Emitter σ}
    {position : Nat} {candidate : List (Emitter σ)}
    (h : candidate ∈ candidates.modify position (fun candidate => candidate ++ [emitter]))
    : candidate ∈ candidates ∨ ∃ candidate' ∈ candidates, candidate = candidate' ++ [emitter] := by
  have hq := List.mem_iff_getElem?.mp h
  cases hq with
  | intro q hq =>
    rw [List.getElem?_modify] at hq
    cases hcandidate : candidates[q]? with
    | none => simp [hcandidate] at hq
    | some candidate' =>
      have hmem := List.mem_of_getElem? hcandidate
      by_cases heq : position = q
      . simp only [heq, hcandidate, if_true, Option.map_eq_map, Option.map_some,
          Option.some.injEq] at hq
        exact Or.inr ⟨candidate', hmem, hq.symm⟩
      . simp only [heq, hcandidate, if_false, Option.map_eq_map, Option.map_some,
          Option.some.injEq] at hq
        exact Or.inl (hq ▸ hmem)

omit [SpatialScalar σ] in
theorem CandidateState.Consistent.joinCandidate {x : CandidateState σ} (hx : x.Consistent)
    {emitter : Emitter σ} (hemitter : emitter.Described) (position : Nat)
    : (joinCandidate x emitter position).Consistent where
  lt_length q hq := by
    rw [Setup.joinCandidate, List.length_modify]
    exact hx.lt_length q hq
  nonempty candidate hcandidate := by
    cases mem_modify_append hcandidate with
    | inl h => exact hx.nonempty candidate h
    | inr h =>
      cases h with
      | intro candidate' h => simp [h.2]
  described candidate hcandidate e he := by
    cases mem_modify_append hcandidate with
    | inl h => exact hx.described candidate h e he
    | inr h =>
      cases h with
      | intro candidate' h =>
        rw [h.2, List.mem_append, List.mem_singleton] at he
        cases he with
        | inl he => exact hx.described candidate' h.1 e he
        | inr he => exact he ▸ hemitter
  byFixture fixtureId := by
    simp only [Setup.joinCandidate]
    rw [isOfFixture_modify emitter hx.nonempty]
    exact hx.byFixture fixtureId

omit [SpatialScalar σ] in
theorem CandidateState.Consistent.newCandidate {x : CandidateState σ} (hx : x.Consistent)
    {emitter : Emitter σ} (hemitter : emitter.Described)
    : (newCandidate x emitter).Consistent where
  lt_length q hq := by
    simp only [Setup.newCandidate, List.mem_append, List.mem_singleton, List.length_append,
      List.length_singleton] at *
    cases hq with
    | inl hq =>
      have := hx.lt_length q hq
      omega
    | inr hq => omega
  nonempty candidate hcandidate := by
    simp only [Setup.newCandidate, List.mem_append, List.mem_singleton] at hcandidate
    cases hcandidate with
    | inl h => exact hx.nonempty candidate h
    | inr h => simp [h]
  described candidate hcandidate e he := by
    simp only [Setup.newCandidate, List.mem_append, List.mem_singleton] at hcandidate
    cases hcandidate with
    | inl h => exact hx.described candidate h e he
    | inr h =>
      rw [h, List.mem_singleton] at he
      exact he ▸ hemitter
  byFixture fixtureId := by
    have hold : x.allCandidates.filter (isOfFixture (x.candidates ++ [[emitter]]) fixtureId)
        = x.candidatesByFixture fixtureId := by
      rw [hx.byFixture]
      apply List.filter_congr
      intro q hq
      rw [isOfFixture_append emitter fixtureId (hx.lt_length q hq)]
    have hnew : isOfFixture (x.candidates ++ [[emitter]]) fixtureId x.candidates.length
        = decide (emitter.2.fixtureId = fixtureId) := by
      simp [isOfFixture, fixtureAt, candidateAt]
    simp only [Setup.newCandidate, KeyedIndex.push, List.filter_append, hold, List.filter_singleton,
      hnew]
    by_cases h : fixtureId = emitter.2.fixtureId
    . simp [h]
    . have h' : emitter.2.fixtureId ≠ fixtureId := fun heq => h heq.symm
      simp [h, h']

theorem CandidateState.Consistent.placeEmitter {x : CandidateState σ} (hx : x.Consistent)
    {emitter : Emitter σ} (hemitter : emitter.Described) (scene : CompiledRuntimeScene σ)
    (indexed : Bool)
    : (placeEmitter scene indexed x emitter).Consistent := by
  have hsearch := @searchEmitter_emitter _ _ scene indexed x _ hemitter
  rw [Setup.placeEmitter]
  split
  next heq =>
    rw [heq] at hsearch
    exact hx.joinCandidate hsearch _
  next heq =>
    rw [heq] at hsearch
    exact hx.newCandidate hsearch

theorem foldl_placeEmitter_indexed {scene : CompiledRuntimeScene σ} {emitters : List (Emitter σ)}
    {x : CandidateState σ} (hx : x.Consistent) (hemitters : ∀ e ∈ emitters, Emitter.Described e)
    : emitters.foldl (placeEmitter scene true) x = emitters.foldl (placeEmitter scene false) x := by
  induction emitters generalizing x with
  | nil => rfl
  | cons e emitters ih =>
    have he := hemitters e (by simp)
    rw [List.foldl_cons, List.foldl_cons, placeEmitter_indexed hx he]
    apply ih (hx.placeEmitter he scene false)
    intro e' he'
    apply hemitters e' (by simp [he'])

theorem described_of_mem_zip {scene : CompiledRuntimeScene σ} {model : List (SceneNode σ)}
    {indexed : Bool} {beams : List (CompiledBeamOpticalProfile σ)}
    : ∀ e ∈ beams.zip (beams.map (describeEmitter scene model indexed)), Emitter.Described e := by
  induction beams with
  | nil => simp
  | cons beam beams ih =>
    intro e he
    rw [List.map_cons, List.zip_cons_cons, List.mem_cons] at he
    cases he with
    | inl he =>
      rw [he, Emitter.Described, fixtureId_describeEmitter]
    | inr he => exact ih e he

theorem candidatesOf_indexed (scene : CompiledRuntimeScene σ) (model : List (SceneNode σ))
    : candidatesOf scene model true = candidatesOf scene model false := by
  have hempty : CandidateState.Consistent ({} : CandidateState σ) := by
    constructor
    all_goals simp
  have hemitters : ∀ e ∈ emittersOf scene model false, Emitter.Described e := described_of_mem_zip
  rw [candidatesOf, candidatesOf, emittersOf, compileEmitterSpatialDescriptors_indexed,
    ← emittersOf, foldl_placeEmitter_indexed hempty hemitters]

theorem compileRenderEmitterGroups_indexed (scene : CompiledRuntimeScene σ)
    (model : List (SceneNode σ)) (controls : List PresentationControlGroup)
    : compileRenderEmitterGroups scene model controls true
        = compileRenderEmitterGroups scene model controls false := by
  rw [compileRenderEmitterGroups, candidatesOf_indexed, ← compileRenderEmitterGroups]

/-- The setup index is a faithful optimisation: none of the three passes returns anything else than
with the linear search. -/
theorem setupIndex_faithful (scene : CompiledRuntimeScene σ) (model : List (SceneNode σ))
    : analyzeControlGroups scene true = analyzeControlGroups scene false ∧
        compileEmitterSpatialDescriptors scene model true
          = compileEmitterSpatialDescriptors scene model false ∧
        ∀ controls, compileRenderEmitterGroups scene model controls true
          = compileRenderEmitterGroups scene model controls false := by
  refine ⟨analyzeControlGroups_indexed scene, ?_, ?_⟩
  . apply compileEmitterSpatialDescriptors_indexed
  . apply compileRenderEmitterGroups_indexed

end

end Peraviz.Presentation.Setup
