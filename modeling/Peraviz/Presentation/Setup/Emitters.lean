import Peraviz.Presentation.Setup.ControlGroups
import Mathlib.Data.Rat.Defs

/-!
This module contains the spatial descriptors of the emitters: every beam is resolved relative to its
nearest mechanical boundary in the scene model.
-/

namespace Peraviz.Presentation.Setup

open Peraviz.Runtime

class SpatialScalar (σ : Type) extends Scalar σ where
  ofRat : ℚ → σ
  le : σ → σ → Bool
  add : σ → σ → σ
  sub : σ → σ → σ
  mul : σ → σ → σ
  div : σ → σ → σ
  sqrt : σ → σ
  abs : σ → σ
  cos : σ → σ

abbrev EmitterVector (σ : Type) := σ × σ × σ

structure Transform (σ : Type) where
  x : EmitterVector σ
  y : EmitterVector σ
  z : EmitterVector σ
  origin : EmitterVector σ

structure SceneTransform (σ : Type) where
  position : EmitterVector σ
  rotationDegrees : EmitterVector σ
  scale : EmitterVector σ
  basisX : EmitterVector σ
  basisY : EmitterVector σ
  basisZ : EmitterVector σ
  hasBasis : Bool := false

structure SceneNode (σ : Type) where
  nodeId : String := ""
  parentId : String := ""
  gdtfGeometryKey : String := ""
  gdtfGeometryPath : String := ""
  localTransform : SceneTransform σ
  isAxis : Bool := false

section

variable {σ : Type} [SpatialScalar σ]

open SpatialScalar

attribute [local instance] Scalar.toBEq

def addVector (a b : EmitterVector σ) : EmitterVector σ :=
  (add a.1 b.1, add a.2.1 b.2.1, add a.2.2 b.2.2)

def mulVector (v : EmitterVector σ) (k : σ) : EmitterVector σ :=
  (mul v.1 k, mul v.2.1 k, mul v.2.2 k)

def dot (a b : EmitterVector σ) : σ :=
  add (add (mul a.1 b.1) (mul a.2.1 b.2.1)) (mul a.2.2 b.2.2)

def length (v : EmitterVector σ) : σ :=
  sqrt (dot v v)

def zeroVector : EmitterVector σ :=
  (ofRat 0, ofRat 0, ofRat 0)

def normalized (v : EmitterVector σ) : EmitterVector σ :=
  let n := length v
  if Scalar.lt (ofRat (1 / 1000000000000)) n then mulVector v (div (ofRat 1) n) else zeroVector

def Transform.identity : Transform σ where
  x := (ofRat 1, ofRat 0, ofRat 0)
  y := (ofRat 0, ofRat 1, ofRat 0)
  z := (ofRat 0, ofRat 0, ofRat 1)
  origin := zeroVector

def rotate (t : Transform σ) (v : EmitterVector σ) : EmitterVector σ :=
  addVector (addVector (mulVector t.x v.1) (mulVector t.y v.2.1)) (mulVector t.z v.2.2)

def compose (a b : Transform σ) : Transform σ where
  x := rotate a b.x
  y := rotate a b.y
  z := rotate a b.z
  origin := addVector a.origin (rotate a b.origin)

def isOne (value : σ) : Bool :=
  Scalar.lt (abs (sub value (ofRat 1))) (ofRat (1 / 10000))

def isOrthogonal (a b : EmitterVector σ) : Bool :=
  Scalar.lt (abs (dot a b)) (ofRat (1 / 10000))

def isFiniteVector (v : EmitterVector σ) : Bool :=
  Scalar.isFinite v.1 && Scalar.isFinite v.2.1 && Scalar.isFinite v.2.2

def isEach (v : EmitterVector σ) (value : ℚ) : Bool :=
  v.1 == ofRat value && v.2.1 == ofRat value && v.2.2 == ofRat value

def rigidTransform (s : SceneTransform σ) : Option (Transform σ) :=
  let t : Transform σ :=
    if s.hasBasis then ⟨s.basisX, s.basisY, s.basisZ, s.position⟩
    else { Transform.identity with origin := s.position }
  if s.hasBasis = false ∧ (isEach s.rotationDegrees 0 && isEach s.scale 1) = false then none
  else if ([t.x, t.y, t.z, t.origin].all isFiniteVector && isOne (length t.x) &&
      isOne (length t.y) && isOne (length t.z) && isOrthogonal t.x t.y && isOrthogonal t.x t.z &&
      isOrthogonal t.y t.z) = true then some t
  else none

/-- The transforms of a chain up to the first one that is not rigid, and whether all are. -/
def composeChain (relative : Transform σ) : List (SceneNode σ) → Transform σ × Bool
  | [] => (relative, true)
  | node :: chain =>
    match rigidTransform node.localTransform with
    | some t => composeChain (compose relative t) chain
    | none => (relative, false)

def isMechanism (property : CompiledComponentProperty) : Bool :=
  property.semantic = .listed .pan || property.semantic = .listed .tilt

def mechanical (node : SceneNode σ) (scene : CompiledRuntimeScene σ) (fixture : Int32) : Bool :=
  node.isAxis || scene.properties.any (fun p => p.fixtureId = fixture &&
    p.geometryName = node.gdtfGeometryPath && isMechanism p)

def mechanicalPaths (scene : CompiledRuntimeScene σ) : Int32 → List CompiledComponentProperty :=
  KeyedIndex.group (fun p => p.fixtureId) (scene.properties.filter isMechanism)

def mechanicalIndexed (node : SceneNode σ) (scene : CompiledRuntimeScene σ) (fixture : Int32)
    : Bool :=
  node.isAxis || ((mechanicalPaths scene fixture).map
    (fun p => p.geometryName)).contains node.gdtfGeometryPath

def isMechanical (scene : CompiledRuntimeScene σ) (indexed : Bool) (node : SceneNode σ)
    (fixture : Int32) : Bool :=
  if indexed then mechanicalIndexed node scene fixture else mechanical node scene fixture

/-- The maps over the nodes keep the last node of an id. -/
def nodeById (model : List (SceneNode σ)) (nodeId : String) : Option (SceneNode σ) :=
  model.reverse.find? (fun node => node.nodeId ≠ "" && node.nodeId = nodeId)

def nodeByKey (model : List (SceneNode σ)) (key : String) : Option (SceneNode σ) :=
  model.reverse.find? (fun node => node.gdtfGeometryKey ≠ "" && node.gdtfGeometryKey = key)

/-- The nodes of a fixture from a node upwards. Each has an id that the ones before do not have,
so `steps`, one more than there are nodes, are enough. -/
def ancestors (model : List (SceneNode σ)) (fixtureUuid : String) (visited : List String)
    (node : Option (SceneNode σ)) (steps : Nat) : List (SceneNode σ) :=
  match node, steps with
  | some node, steps + 1 =>
    if node.gdtfGeometryKey ≠ "" ∧
        (fixtureUuid ++ "/").toList.isPrefixOf node.gdtfGeometryKey.toList = true ∧
        node.nodeId ∉ visited then
      node :: ancestors model fixtureUuid (node.nodeId :: visited) (nodeById model node.parentId)
        steps
    else []
  | _, _ => []

structure EmitterSpatialDescriptor (σ : Type) where
  physicalId : Int32
  fixtureId : Int32
  anchorGeometryKey : String := ""
  axisLineage : List String := []
  shutterAuthority : List ShutterAuthority
  origin : EmitterVector σ
  direction : EmitterVector σ
  apertureRadius : σ
  nominalFlux : σ
  reliable : Bool := false
  approximateColor : Bool := false
  rejectionReason : String := "geometry_lineage"

def unresolvedDescriptor (scene : CompiledRuntimeScene σ) (beam : CompiledBeamOpticalProfile σ)
    : EmitterSpatialDescriptor σ where
  physicalId := beam.renderTargetId
  fixtureId := beam.fixtureId
  shutterAuthority := shutterAuthorities scene beam.renderTargetId
  origin := zeroVector
  direction := (ofRat 0, ofRat (-1), ofRat 0)
  apertureRadius := beam.beamRadiusM
  nominalFlux := beam.effectiveLuminousFluxLm

def isPositive (value : σ) : Bool :=
  Scalar.isFinite value && !le value (ofRat 0)

def rejectionOf (view : BeamView σ) (beam : CompiledBeamOpticalProfile σ) (rigid : Bool) : String :=
  if !rigid then "nonrigid_geometry"
  else if !beam.valid then "invalid_optical_profile"
  else if !beam.hasProjectedBeam then "emission_only"
  else if beam.beamType ≠ "Wash" ∧ beam.beamType ≠ "Spot" then "beam_type"
  else if beam.beamRadiusSource ≠ "explicit" ∨ isPositive beam.beamRadiusM = false then
    "beam_radius_provenance"
  else if isPositive beam.effectiveLuminousFluxLm = false then "nominal_flux"
  else if view.projector then "projector_dependency"
  else ((analyzeWheelPresentation view beam).rejection).getD ""

/-- The position of the last mechanical node of a chain, 0 without one. -/
def anchorOf (mechanical : SceneNode σ → Bool) (chain : List (SceneNode σ)) : Nat :=
  (chain.zipIdx.filter (fun entry => mechanical entry.1)).getLast?.elim 0 Prod.snd

def resolvedDescriptor (scene : CompiledRuntimeScene σ) (indexed : Bool)
    (beam : CompiledBeamOpticalProfile σ) (root : SceneNode σ) (chain : List (SceneNode σ))
    : EmitterSpatialDescriptor σ :=
  let view := viewOf scene indexed beam
  let mechanical := fun node => isMechanical scene indexed node beam.fixtureId
  let anchor := anchorOf mechanical chain
  let (relative, rigid) := composeChain Transform.identity (chain.drop (anchor + 1))
  let rejectionReason := rejectionOf view beam rigid
  { unresolvedDescriptor scene beam with
    axisLineage := (chain.filter mechanical).map (fun node => node.gdtfGeometryKey)
    anchorGeometryKey := (chain.getD anchor root).gdtfGeometryKey
    origin := relative.origin
    -- the light axis -Z of the emitter anchor is the local -Y
    direction := normalized (rotate relative (ofRat 0, ofRat (-1), ofRat 0))
    approximateColor := (analyzeWheelPresentation view beam).approximate && beam.hasProjectedBeam
    rejectionReason
    reliable := rejectionReason = "" }

def describeEmitter (scene : CompiledRuntimeScene σ) (model : List (SceneNode σ)) (indexed : Bool)
    (beam : CompiledBeamOpticalProfile σ) : EmitterSpatialDescriptor σ :=
  match nodeByKey model beam.geometryKey with
  | none => unresolvedDescriptor scene beam
  | some node =>
    let chain := (ancestors model beam.fixtureUuid [] (some node) (model.length + 1)).reverse
    match chain with
    | [] => unresolvedDescriptor scene beam
    | root :: _ =>
      if '/' ∈ root.gdtfGeometryPath.toList ∨ root.nodeId = "" then unresolvedDescriptor scene beam
      else resolvedDescriptor scene indexed beam root chain

def compileEmitterSpatialDescriptors (scene : CompiledRuntimeScene σ) (model : List (SceneNode σ))
    (indexed : Bool) : List (EmitterSpatialDescriptor σ) :=
  scene.beamProfiles.map (describeEmitter scene model indexed)

omit [SpatialScalar σ] in
theorem isMechanical_indexed (scene : CompiledRuntimeScene σ)
    : isMechanical scene true = isMechanical scene false := by
  funext node fixture
  simp only [isMechanical, if_true, Bool.false_eq_true, if_false, mechanicalIndexed, mechanical,
    mechanicalPaths, KeyedIndex.group_eq_filter]
  congr 1
  rw [Bool.eq_iff_iff]
  simp only [List.contains_iff_mem, List.mem_map, List.mem_filter, List.any_eq_true,
    Bool.and_eq_true, decide_eq_true_eq]
  constructor
  . rintro ⟨p, ⟨⟨hp, hmechanism⟩, hfixture⟩, hname⟩
    exact ⟨p, hp, ⟨hfixture, hname⟩, hmechanism⟩
  . rintro ⟨p, hp, ⟨hfixture, hname⟩, hmechanism⟩
    exact ⟨p, ⟨⟨hp, hmechanism⟩, hfixture⟩, hname⟩

theorem describeEmitter_indexed {scene : CompiledRuntimeScene σ} (model : List (SceneNode σ))
    {beam : CompiledBeamOpticalProfile σ} (hbeam : beam ∈ scene.beamProfiles)
    : describeEmitter scene model true beam = describeEmitter scene model false beam := by
  simp only [describeEmitter, resolvedDescriptor, viewOf_indexed hbeam, isMechanical_indexed]

theorem compileEmitterSpatialDescriptors_indexed (scene : CompiledRuntimeScene σ)
    (model : List (SceneNode σ))
    : compileEmitterSpatialDescriptors scene model true
        = compileEmitterSpatialDescriptors scene model false := by
  apply List.map_congr_left
  intro beam hbeam
  apply describeEmitter_indexed model hbeam

theorem fixtureId_describeEmitter (scene : CompiledRuntimeScene σ) (model : List (SceneNode σ))
    (indexed : Bool) (beam : CompiledBeamOpticalProfile σ)
    : (describeEmitter scene model indexed beam).fixtureId = beam.fixtureId := by
  rw [describeEmitter]
  split
  next => rfl
  next =>
    dsimp only
    split
    next => rfl
    next =>
      split
      next => rfl
      next => rfl

end

end Peraviz.Presentation.Setup
