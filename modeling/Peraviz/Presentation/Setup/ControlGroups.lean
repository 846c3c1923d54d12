import Mathlib.Data.List.Lex
import Peraviz.Presentation.Setup.Views

/-!
This module contains the analysis of the control groups: each beam gets a signature of the
authorities that it is controlled by, and beams with one signature share a group when their
sharing is proved. A signature asks for the wheel eligibility of the beam: whether the Color wheels
of the beam present one resolved uniform transmission, and the controls that they present it by.
-/

namespace Peraviz.Presentation.Setup

open Peraviz.Runtime

variable {σ : Type} [Scalar σ]

abbrev WheelSetSignature (σ : Type) := UInt32 × UInt32 × Int32 × σ × σ

abbrev WheelControlSignature (σ : Type) :=
  Int32 × Int32 × Int32 × Bool × σ × List (WheelSetSignature σ)

structure WheelPresentationEligibility (σ : Type) where
  controls : List (WheelControlSignature σ) := []
  rejection : Option String := none
  approximate : Bool := false

def WheelPresentationEligibility.supported (wheel : WheelPresentationEligibility σ) : Bool :=
  wheel.rejection.isNone

structure EligibilityState (σ : Type) where
  result : WheelPresentationEligibility σ := {}
  bindingIds : List Int32 := []
  sourcesByWheel : List (Int32 × CompiledDmxSourceProgram σ) := []

def EligibilityState.reject (s : EligibilityState σ) (reason : String) : EligibilityState σ :=
  { s with result := { s.result with rejection := some reason } }

def misplacedByte (source : CompiledDmxSourceProgram σ) (byte : CompiledDmxByteSource) : Bool :=
  byte.universeId < 0 || source.sources.head?.any (fun front => byte.universeId ≠ front.universeId)
    || byte.address < 0 || 512 ≤ byte.address

def sourceAuthority (view : BeamView σ) (sourceProgramId : Int32)
    : Option (CompiledDmxSourceProgram σ) :=
  match view.source sourceProgramId with
  | none => none
  | some source =>
    if source.activation.valid = false ∨ source.sources = [] ∨ 4 < source.sources.length ∨
        source.dmxTo < source.dmxFrom then none
    else if view.sourceCount sourceProgramId ≠ 1 then none
    else if source.sources.any (misplacedByte source) = true then none
    else if source.activation.targetKind ≠ .listed .none ∧
        (view.source source.activation.masterProgramId).isNone = true then none
    else some source

def conflicts (source previous : CompiledDmxSourceProgram σ) : Bool :=
  previous.sources ≠ source.sources ||
    (source.dmxFrom ≤ previous.dmxTo && previous.dmxFrom ≤ source.dmxTo)

def checkSets (slots : List Int32) (sets : List (WheelSetSignature σ))
    : List (CompiledWheelChannelSet σ) → Except String (List (WheelSetSignature σ))
  | [] => .ok sets
  | set :: channelSets =>
    if set.dmxTo < set.dmxFrom ∨ set.wheelSlotIndex ∉ slots ∨
        Scalar.isFinite set.physicalFrom = false ∨ Scalar.isFinite set.physicalTo = false then
      .error "wheel_invalid_selection"
    else if sets.any (fun previous => set.dmxFrom ≤ previous.2.1 && previous.1 ≤ set.dmxTo) then
      .error "wheel_ambiguous_selection"
    else
      let entry := (set.dmxFrom, set.dmxTo, set.wheelSlotIndex, set.physicalFrom, set.physicalTo)
      checkSets slots (sets ++ [entry]) channelSets

def invalidBinding (s : EligibilityState σ) (binding : CompiledWheelTargetBinding σ) : Bool :=
  binding.bindingId ≤ 0 || binding.sourceProgramId ≤ 0 || binding.wheelRendererId ≤ 0 ||
    binding.bindingId ∈ s.bindingIds || !Scalar.isFinite binding.placementOffsetDegrees

/-- The source and the control of a binding, or why it is rejected. -/
def bindingControl (view : BeamView σ) (beam : CompiledBeamOpticalProfile σ)
    (s : EligibilityState σ) (binding : CompiledWheelTargetBinding σ)
    : Except String (CompiledDmxSourceProgram σ × WheelControlSignature σ) := do
  if invalidBinding s binding = true then throw "wheel_invalid_binding"
  match sourceAuthority view binding.sourceProgramId with
  | none => throw "wheel_missing_source_authority"
  | some source =>
    let previous := s.sourcesByWheel.filter (fun entry => entry.1 = binding.wheelRendererId)
    if previous.any (fun entry => conflicts source entry.2) = true then
      throw "wheel_ambiguous_control"
    match view.palette binding.wheelRendererId with
    | none => throw "wheel_missing_palette"
    | some (palette, proof) =>
      if palette.fixtureId ≠ beam.fixtureId ∨ palette.slots.isEmpty = true ∨
          view.paletteCount binding.wheelRendererId ≠ 1 then
        throw "wheel_missing_palette"
      match proof.rejection with
      | some reason => throw reason
      | none =>
        if binding.mode = .listed .select ∧ binding.channelSets.isEmpty = true then
          throw "wheel_invalid_selection"
        let sets ← checkSets proof.slots [] binding.channelSets
        return (source, (binding.wheelRendererId, binding.sourceProgramId,
          binding.mode.toUnderlying, binding.snap, binding.placementOffsetDegrees, sets))

def checkBinding (view : BeamView σ) (beam : CompiledBeamOpticalProfile σ)
    (s : EligibilityState σ) (binding : CompiledWheelTargetBinding σ) : EligibilityState σ :=
  -- a rejection returns at once
  if s.result.rejection.isSome = true then s
  else if binding.fixtureId ≤ 0 ∨ binding.beamRenderTargetId ≤ 0 then
    s.reject "wheel_ambiguous_ownership"
  else
    match binding.mode with
    | .unlisted _ _ => s.reject "wheel_unknown_presentation_contract"
    | .listed mode =>
      let approximate := s.result.approximate || mode ≠ .select
      let s := { s with result := { s.result with approximate } }
      match bindingControl view beam s binding with
      | .error reason => s.reject reason
      | .ok (source, control) => {
          result := { s.result with controls := s.result.controls ++ [control] }
          bindingIds := s.bindingIds ++ [binding.bindingId]
          sourcesByWheel := s.sourcesByWheel ++ [(binding.wheelRendererId, source)]
        }

def analyzeWheelPresentation (view : BeamView σ) (beam : CompiledBeamOpticalProfile σ)
    : WheelPresentationEligibility σ :=
  match beam.colorPresentationStatus with
  | .missingWheelResource => { rejection := some "wheel_missing_palette" }
  | status =>
    let approximate : Bool := status = .unsupportedEffectApproximation
    (view.bindings.foldl (checkBinding view beam) { result := { approximate } }).result

end Peraviz.Presentation.Setup

namespace Peraviz.Presentation.Setup

open Peraviz.Runtime

variable {σ : Type}

@[reducible]
def Scalar.toBEq [Scalar σ] : BEq σ := ⟨Scalar.eq⟩

/-- The comparison of tuples and containers is made from the `<` of their entries. -/
@[reducible]
def Scalar.toOrd [Scalar σ] : Ord σ where
  compare a b := if Scalar.lt a b then .lt else if Scalar.lt b a then .gt else .eq

attribute [local instance] Scalar.toBEq Scalar.toOrd lexOrd

variable [Scalar σ]

abbrev ColorInput (σ : Type) := Int32 × Int32 × σ × Bool × Int32 × Int32

abbrev ShutterAuthority := List Int

/-- Beam type, the two explicit angles, the scalars and last the projected and the emission
lumen scale. -/
abbrev Optics (σ : Type) := String × Bool × Bool × List σ × σ × σ

structure ControlSignature (σ : Type) where
  fixture : Int32
  dimmer : List Int32
  zoom : List Int32
  approximatedEffects : List Int32
  color : List (ColorInput σ)
  shutters : List ShutterAuthority
  wheels : List (WheelControlSignature σ)
  additive : Bool
  optics : Optics σ

namespace ControlSignature

def tie (s : ControlSignature σ) :=
  (s.fixture, s.dimmer, s.zoom, s.approximatedEffects, s.color, s.shutters, s.wheels, s.additive,
    s.optics)

def compare (s s' : ControlSignature σ) : Ordering :=
  Ord.compare s.tie s'.tie

end ControlSignature

structure PresentationControlGroup where
  id : Int32 := 0
  physicalIds : List Int32 := []
  deriving DecidableEq

structure ControlGroupFallbacks where
  dimmer : UInt32 := 0
  color : UInt32 := 0
  optics : UInt32 := 0
  projectorGobo : UInt32 := 0
  wheel : UInt32 := 0
  scaling : UInt32 := 0
  ambiguous : UInt32 := 0
  deriving DecidableEq

structure ControlGroupAnalysis where
  groups : List PresentationControlGroup := []
  fallbacks : ControlGroupFallbacks := {}
  deriving DecidableEq

def shutterControlSignature (b : CompiledShutterBinding σ) : ShutterAuthority :=
  [b.sourceProgramId.toInt, b.shutterIndex.toInt, b.wave.toUnderlying.toInt, b.status.toInt,
    b.dmxFrom.toNat, b.dmxTo.toNat, Scalar.bits b.duration, Scalar.bits b.duty,
    Scalar.bits b.offset, Scalar.bits b.physicalFrom, Scalar.bits b.physicalTo,
    b.fixtureId.toInt, b.modeFrom.toNat, b.modeTo.toNat, b.activationFunctionId.toInt]

def shutterAuthorities (scene : CompiledRuntimeScene σ) (target : Int32)
    : List ShutterAuthority :=
  ((scene.shutterBindings.filter (fun b => b.beamTargetId = target)).map
    shutterControlSignature).mergeSort (fun a b => a ≤ b)

def controls (ancestor beam : String) : Bool :=
  ancestor ≠ "" && (ancestor = beam || (ancestor ++ "/").toList.isPrefixOf beam.toList)

def opticsOf (beam : CompiledBeamOpticalProfile σ) : Optics σ :=
  (beam.beamType, beam.beamAngleExplicit, beam.fieldAngleExplicit,
    [beam.effectiveLuminousFluxLm, beam.beamAngleDeg, beam.fieldAngleDeg, beam.beamRadiusM,
      beam.throwRatio, beam.rectangleRatio, beam.colorTemperature, beam.luminousFlux],
    beam.projectedLumenScale, beam.emissionLumenScale)

def opticsFinite (optics : Optics σ) : Bool :=
  (optics.2.2.2.1 ++ [optics.2.2.2.2.1, optics.2.2.2.2.2]).all Scalar.isFinite

def colorInput (input : CompiledColorInputBinding σ) : ColorInput σ :=
  (input.sourceProgramId, input.semantic.toUnderlying, input.defaultValue,
    input.useNormalizedValue, input.emitterResourceId, input.filterResourceId)

def controllingProperties (view : BeamView σ) (beam : CompiledBeamOpticalProfile σ)
    : List CompiledComponentProperty :=
  view.properties.filter (fun property => controls property.geometryName beam.geometryPath)

def ofSemantic (name : SemanticName) (properties : List CompiledComponentProperty)
    : List CompiledComponentProperty :=
  properties.filter (fun property => property.semantic = .listed name)

def signatureOf (view : BeamView σ) (beam : CompiledBeamOpticalProfile σ)
    (shutters : List ShutterAuthority) : ControlSignature σ :=
  let properties := controllingProperties view beam
  {
    fixture := beam.fixtureId
    dimmer := (ofSemantic .dimmer properties).map (fun property => property.propertyId)
    zoom := (ofSemantic .zoom properties).map (fun property => property.propertyId)
    approximatedEffects := beam.approximatedColorSourcePrograms
    color := view.colors.flatMap (fun target => target.inputs.map colorInput)
    shutters
    wheels := (analyzeWheelPresentation view beam).controls
    additive := (view.colors.getLast?.map (fun target => target.additiveSource)).getD false
    optics := opticsOf beam
  }

/-- A source that is there and has a valid activation. -/
def isAuthority (view : BeamView σ) (sourceProgramId : Int32) : Bool :=
  (view.source sourceProgramId).any (fun source => source.activation.valid)

def isSafe (view : BeamView σ) (beam : CompiledBeamOpticalProfile σ) (s : ControlSignature σ)
    : Bool :=
  beam.valid && beam.hasProjectedBeam && (beam.beamType = "Wash" || beam.beamType = "Spot") &&
    opticsFinite s.optics && !view.projector &&
    (analyzeWheelPresentation view beam).supported &&
    s.approximatedEffects.all (isAuthority view) &&
    (ofSemantic .dimmer (controllingProperties view beam) ++
      ofSemantic .zoom (controllingProperties view beam)).all (fun property =>
        !property.contributors.isEmpty && property.contributors.all (isAuthority view)) &&
    s.dimmer.length = 1 && s.zoom.length ≤ 1 &&
    s.color.all (fun input => isAuthority view input.1) && view.colors.length ≤ 1

structure AnalysisState (σ : Type) where
  signatures : List (ControlSignature σ × Nat) := []
  firstSignature : List (Int32 × ControlSignature σ) := []
  analysis : ControlGroupAnalysis := {}

def countIf (counter : UInt32) (c : Bool) : UInt32 :=
  if c then counter + 1 else counter

def countFallbacks (view : BeamView σ) (beam : CompiledBeamOpticalProfile σ)
    (s : ControlSignature σ) (safe : Bool) (first : Option (ControlSignature σ))
    (fallbacks : ControlGroupFallbacks) : ControlGroupFallbacks :=
  let supported := (analyzeWheelPresentation view beam).supported
  let differs (different : ControlSignature σ → Bool) : Bool := first.any different
  {
    projectorGobo := countIf fallbacks.projectorGobo view.projector
    wheel := countIf fallbacks.wheel (!supported)
    dimmer := countIf fallbacks.dimmer (differs (fun first => s.dimmer != first.dimmer))
    color := countIf fallbacks.color (differs (fun first =>
      s.color != first.color || s.wheels != first.wheels ||
        s.approximatedEffects != first.approximatedEffects || s.additive != first.additive))
    optics := countIf fallbacks.optics (differs (fun first =>
      s.optics != first.optics || s.zoom != first.zoom))
    ambiguous := countIf fallbacks.ambiguous (!safe && !view.projector && supported)
    scaling := countIf fallbacks.scaling (differs (fun first =>
      first.optics.2.2.2.2.1 != beam.projectedLumenScale ||
        first.optics.2.2.2.2.2 != beam.emissionLumenScale))
  }

def joinGroup (groups : List PresentationControlGroup) (position : Nat) (physicalId : Int32)
    : List PresentationControlGroup :=
  groups.modify position (fun group =>
    { group with physicalIds := group.physicalIds ++ [physicalId] })

def newGroup (groups : List PresentationControlGroup) (physicalId : Int32)
    : List PresentationControlGroup :=
  groups ++ [⟨Int32.ofNat (groups.length + 1), [physicalId]⟩]

def findSignature (signatures : List (ControlSignature σ × Nat)) (s : ControlSignature σ)
    : Option Nat :=
  (signatures.find? (fun entry => entry.1.compare s = .eq)).map Prod.snd

def placeBeam (signatures : List (ControlSignature σ × Nat))
    (groups : List PresentationControlGroup) (s : ControlSignature σ) (safe : Bool)
    (physicalId : Int32) : List (ControlSignature σ × Nat) × List PresentationControlGroup :=
  if safe then
    match findSignature signatures s with
    | some position => (signatures, joinGroup groups position physicalId)
    | none => (signatures ++ [(s, groups.length)], newGroup groups physicalId)
  else (signatures, newGroup groups physicalId)

def analyzeBeam (scene : CompiledRuntimeScene σ) (indexed : Bool) (x : AnalysisState σ)
    (beam : CompiledBeamOpticalProfile σ) : AnalysisState σ :=
  let view := viewOf scene indexed beam
  let s := signatureOf view beam (shutterAuthorities scene beam.renderTargetId)
  let safe := isSafe view beam s
  let first := x.firstSignature.lookup beam.fixtureId
  let (signatures, groups) :=
    placeBeam x.signatures x.analysis.groups s safe beam.renderTargetId
  {
    signatures
    firstSignature :=
      if first.isNone then x.firstSignature ++ [(beam.fixtureId, s)] else x.firstSignature
    analysis := {
      groups
      fallbacks := countFallbacks view beam s safe first x.analysis.fallbacks
    }
  }

def analyzeControlGroups (scene : CompiledRuntimeScene σ) (indexed : Bool)
    : ControlGroupAnalysis :=
  (scene.beamProfiles.foldl (analyzeBeam scene indexed) {}).analysis

theorem analyzeControlGroups_indexed (scene : CompiledRuntimeScene σ)
    : analyzeControlGroups scene true = analyzeControlGroups scene false := by
  rw [analyzeControlGroups, analyzeControlGroups]
  congr 1
  apply List.foldl_ext
  intro x beam hbeam
  rw [analyzeBeam, viewOf_indexed hbeam, ← analyzeBeam]

end Peraviz.Presentation.Setup
