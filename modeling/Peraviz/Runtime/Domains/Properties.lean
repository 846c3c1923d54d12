import Peraviz.Runtime.Evaluation.Impl
import Peraviz.Runtime.Rows

/-!
This module contains the scalar domains: the evaluation of beam and transform properties, and the
merge of what is evaluated into the state that is held.
-/

namespace Peraviz.Runtime

inductive SemanticParameter where
  | unknown
  | pan
  | tilt
  | dimmer
  | zoom
  | colorAddRed
  | colorAddGreen
  | colorAddBlue
  | colorAddWhite
  | colorAddAmber
  | colorAddLime
  | colorSubCyan
  | colorSubMagenta
  | colorSubYellow
  deriving DecidableEq

def semanticParameterForCompiled : CompiledSemantic → SemanticParameter
  | .listed .pan => .pan
  | .listed .tilt => .tilt
  | .listed .dimmer => .dimmer
  | .listed .zoom => .zoom
  | .listed .colorAddRed => .colorAddRed
  | .listed .colorAddGreen => .colorAddGreen
  | .listed .colorAddBlue => .colorAddBlue
  | .listed .colorAddWhite => .colorAddWhite
  | .listed .colorAddAmber => .colorAddAmber
  | .listed .colorAddLime => .colorAddLime
  | .listed .colorSubCyan => .colorSubCyan
  | .listed .colorSubMagenta => .colorSubMagenta
  | .listed .colorSubYellow => .colorSubYellow
  | _ => .unknown

def visualMaskForParameter : SemanticParameter → UInt32
  | .dimmer => VisualChangeDimmer ||| VisualChangeMaterial
  | .pan => VisualChangeTransform
  | .tilt => VisualChangeTransform
  | .zoom => VisualChangeZoom
  | .unknown => VisualChangeNone
  | _ => VisualChangeColor

structure CompiledPropertyProgram where
  property : CompiledComponentProperty
  parameter : SemanticParameter
  sources : List Nat := []
  rangeSelector : Bool := false
  deriving DecidableEq

structure FixtureRenderParams where
  luminousFlux : ℚ := 10000
  beamAngleDefault : ℚ := 25
  zoomMinDeg : ℚ := -1
  zoomMaxDeg : ℚ := -1
  spotMultiplier : ℚ := 1
  beamMultiplier : ℚ := 20
  hasZoom : Bool := false
  deriving DecidableEq

/-- The sums over the contributors of a property. -/
structure WeightedTotal where
  result : EvaluatedSourceValue := {}
  normalized : ℚ := 0
  physical : ℚ := 0
  weight : ℚ := 0

def WeightedTotal.add (total : WeightedTotal) (value : EvaluatedSourceValue) (contribution : ℚ)
    : WeightedTotal :=
  if !value.valid then
    total
  else
    {
      result :=
        if !total.result.valid then
          { total.result with
            rawValue := value.rawValue
            activeProgramId := value.activeProgramId
            valid := true }
        else
          total.result
      normalized := total.normalized + value.normalizedValue * contribution
      physical := total.physical + value.physicalValue * contribution
      weight := total.weight + contribution
    }

def WeightedTotal.finish (p : Platform) (total : WeightedTotal) : EvaluatedSourceValue :=
  if total.weight = 0 ∨ !total.result.valid then
    {}
  else
    { total.result with
      normalizedValue := p.toFloat (total.normalized / total.weight)
      physicalValue := p.toFloat (total.physical / total.weight) }

section

variable {m : Type → Type} [Monad m]

def selectByRange (plan : EvaluationPlan) (evaluate : Nat → m EvaluatedSourceValue)
    (selected : EvaluatedSourceValue) (source : Nat) : m EvaluatedSourceValue := do
  let value ← evaluate source
  let definition := plan.program source
  return if !selected.valid && inRange value.rawValue definition.dmxFrom definition.dmxTo then value
    else selected

def addContributor (evaluate : Nat → m EvaluatedSourceValue) (total : WeightedTotal)
    (entry : Nat × CompiledPropertyContributor) : m WeightedTotal := do
  let value ← evaluate entry.1
  return total.add value entry.2.weight

/-- Evaluates a property with what `evaluate` answers for its sources. -/
def evaluatePropertyValue (p : Platform) (plan : EvaluationPlan)
    (evaluate : Nat → m EvaluatedSourceValue) (property : CompiledPropertyProgram)
    : m EvaluatedSourceValue :=
  if property.sources.length > 1 && property.rangeSelector then
    property.sources.foldlM (selectByRange plan evaluate) {}
  else do
    let total ← (property.sources.zip property.property.contributors).foldlM
      (addContributor evaluate) {}
    return total.finish p

end

/-- The value of a property on a frame, whatever is cached. -/
def SourceContext.propertyValue (ctx : SourceContext) (property : CompiledPropertyProgram)
    : EvaluatedSourceValue :=
  Id.run (evaluatePropertyValue ctx.platform ctx.plan (fun source => pure (ctx.value source))
    property)

def applySemanticValue (state : ComponentState) (parameter : SemanticParameter) (value : ℚ)
    : ComponentState :=
  match parameter with
  | .pan => { state with pan := value }
  | .tilt => { state with tilt := value }
  | .dimmer => { state with dimmer := value }
  | .zoom => { state with zoom := value }
  | _ => state

def cookBeamAngle (state : ComponentState) (params : FixtureRenderParams) : ℚ :=
  let maxBeamAngle := 90
  if params.hasZoom then
    if state.hasZoomPhysical then
      clamp state.zoom 0 maxBeamAngle
    else
      let zoomMin := if 0 ≤ params.zoomMinDeg then params.zoomMinDeg else 4
      let zoomMax := if 0 ≤ params.zoomMaxDeg then params.zoomMaxDeg else maxBeamAngle
      clamp (zoomMin + (zoomMax - zoomMin) * state.zoomNormalized) 0 maxBeamAngle
  else
    clamp params.beamAngleDefault (1 / 10) maxBeamAngle

def cookRenderState (p : Platform) (state : ComponentState) (params : FixtureRenderParams)
    : ComponentState :=
  let beamAngle := cookBeamAngle state params
  let baseEnergy := max params.luminousFlux 0 * state.dimmer * (2 / 100)
  { state with
    beamEnergy := p.toFloat baseEnergy
    spotEnergy := p.toFloat (baseEnergy * params.spotMultiplier)
    beamHalfAngle := p.toFloat (beamAngle * (1 / 2))
    beamAngle := p.toFloat beamAngle
    beamIntensity := p.toFloat (clamp (state.dimmer * params.beamMultiplier) 0 50)
    materialEnergy := state.dimmer * 4 }

/-- The mask of the render domains in which a property differs from the state that is held. -/
def propertyChange (previous next : ComponentState) (installedMask : UInt32) : UInt32 :=
  if !previous.initialized then
    installedMask
  else
    let dimmer :=
      if !nearlyEqual previous.dimmer next.dimmer kDefaultEpsilon then
        installedMask &&& visualMaskForParameter .dimmer
      else
        0
    let zoom :=
      if previous.hasZoomPhysical != next.hasZoomPhysical
          || !nearlyEqual previous.zoom next.zoom kAngleEpsilon
          || !nearlyEqual previous.zoomNormalized next.zoomNormalized kDefaultEpsilon
          || !nearlyEqual previous.beamAngle next.beamAngle kAngleEpsilon then
        installedMask &&& visualMaskForParameter .zoom
      else
        0
    (dimmer ||| zoom) &&& installedMask

def transformChange (previous next : ComponentState) (installedMask : UInt32) : UInt32 :=
  if !previous.initialized then
    installedMask &&& VisualChangeTransform
  else if !nearlyEqual previous.pan next.pan kDefaultEpsilon
      || !nearlyEqual previous.tilt next.tilt kDefaultEpsilon then
    VisualChangeTransform
  else
    VisualChangeNone

/-- What both merges do to their table: the next state is held whether or not it has changed. -/
def holdState (states : Int32 → ComponentState) (id : Int32) (next : ComponentState)
    : Int32 → ComponentState :=
  Function.update states id { next with initialized := true }

/-- The tables by fixture identifier that are fixed at the installation. -/
structure FixtureTables where
  renderParams : Int32 → FixtureRenderParams := fun _ => {}
  installedVisualMask : Int32 → UInt32 := fun _ => 0
  components : ComponentIds := {}

structure PropertyHeld where
  transformStateByFixture : Int32 → ComponentState := fun _ => {}
  propertyStateByProperty : Int32 → ComponentState := fun _ => {}

/-- `pending_transform_by_fixture`, the fixtures in the order of their first property. -/
structure PendingTransforms where
  fixtures : List Int32 := []
  states : Int32 → ComponentState := fun _ => {}

/-- The variables of the loop over the properties of one universe. -/
structure PropertyUpdate where
  held : PropertyHeld
  pending : PendingTransforms := {}
  rows : List PendingRow := []

def beamState (p : Platform) (tables : FixtureTables) (existing : ComponentState)
    (program : CompiledPropertyProgram) (evaluated : EvaluatedSourceValue) : ComponentState :=
  let state :=
    if program.parameter = .dimmer then
      applySemanticValue existing .dimmer evaluated.normalizedValue
    else
      { applySemanticValue existing program.parameter evaluated.physicalValue with
        zoomNormalized := evaluated.normalizedValue
        hasZoomPhysical := true }
  cookRenderState p state (tables.renderParams program.property.fixtureId)

def mergeBeamProperty (p : Platform) (tables : FixtureTables) (update : PropertyUpdate)
    (program : CompiledPropertyProgram) (evaluated : EvaluatedSourceValue) : PropertyUpdate :=
  let id := program.property.propertyId
  let previous := update.held.propertyStateByProperty id
  let state := beamState p tables previous program evaluated
  let changed := propertyChange previous state (visualMaskForParameter program.parameter)
  { update with
    held := { update.held with
      propertyStateByProperty := holdState update.held.propertyStateByProperty id state }
    rows :=
      if changed ≠ VisualChangeNone then
        update.rows ++ [{
          fixtureId := program.property.fixtureId
          renderTargetId := program.property.renderTargetId
          changedVisualMask := changed
          state := state
        }]
      else
        update.rows }

/-- The branch of every other parameter, what it evaluates is merged once for the fixture. -/
def mergePendingTransform (update : PropertyUpdate) (program : CompiledPropertyProgram)
    (evaluated : EvaluatedSourceValue) : PropertyUpdate :=
  let fixture := program.property.fixtureId
  let pending := update.pending.states fixture
  let existing := update.held.transformStateByFixture fixture
  let state := if !pending.initialized && existing.initialized then existing else pending
  { update with
    pending := {
      fixtures :=
        if fixture ∈ update.pending.fixtures then update.pending.fixtures
        else update.pending.fixtures ++ [fixture]
      states := Function.update update.pending.states fixture
        (applySemanticValue state program.parameter evaluated.physicalValue) } }

def mergeProperty (p : Platform) (tables : FixtureTables) (update : PropertyUpdate)
    (program : CompiledPropertyProgram) (evaluated : EvaluatedSourceValue) : PropertyUpdate :=
  if !evaluated.valid then
    update
  else if program.parameter = .dimmer ∨ program.parameter = .zoom then
    mergeBeamProperty p tables update program evaluated
  else
    mergePendingTransform update program evaluated

def SourceContext.updateProperty (ctx : SourceContext) (tables : FixtureTables)
    (properties : List CompiledPropertyProgram) (update : PropertyUpdate) (index : Nat)
    : EvalM PropertyUpdate :=
  match properties[index]? with
  | none => return update
  | some program => do
    let evaluated ← evaluatePropertyValue ctx.platform ctx.plan ctx.evaluateCachedSource program
    return mergeProperty ctx.platform tables update program evaluated

def SourceContext.updateProperties (ctx : SourceContext) (tables : FixtureTables)
    (properties : List CompiledPropertyProgram) (held : PropertyHeld) (indices : List Nat)
    : EvalM PropertyUpdate :=
  indices.foldlM (ctx.updateProperty tables properties) { held := held }

/-- The merge of one pending transform, `held` and `rows` so far. -/
def mergeTransform (p : Platform) (tables : FixtureTables) (pending : PendingTransforms)
    (update : PropertyHeld × List PendingRow) (fixture : Int32) : PropertyHeld × List PendingRow :=
  let state := cookRenderState p (pending.states fixture) (tables.renderParams fixture)
  let changed := transformChange (update.1.transformStateByFixture fixture) state
    (tables.installedVisualMask fixture)
  ({ update.1 with
      transformStateByFixture := holdState update.1.transformStateByFixture fixture state },
    if changed ≠ VisualChangeNone then
      update.2 ++ [{ fixtureId := fixture, changedVisualMask := changed, state := state }]
    else
      update.2)

/-- The transforms are merged in the order of the hash map they are pending in. -/
def mergeTransforms (p : Platform) (tables : FixtureTables) (pending : PendingTransforms)
    (held : PropertyHeld) : PropertyHeld × List PendingRow :=
  ((p.hashOrder (pending.fixtures.map Int32.toInt)).map Int32.ofInt).foldl
    (mergeTransform p tables pending) (held, [])

end Peraviz.Runtime
