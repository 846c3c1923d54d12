import Peraviz.Runtime.Install.Impl
import Peraviz.Transition.Machine

/-!
This module contains the visual runtime: the state that it holds between two consumes, the
installation of a scene, the submission of DMX and the transaction that turns the newest DMX of
every universe into one frame.
-/

namespace Peraviz.Runtime

structure UniverseState where
  latestFrame : List UInt8 := []
  hasPendingFrame : Bool := false
  changedOffsets : List Int32 := []
  lastRelevantValues : Int32 → UInt8 := fun _ => 0
  hasLastRelevantValues : Bool := false
  workspace : EvaluationWorkspace := {}
  prefetchedWarnings : Nat → SourceWarnings := fun _ => {}
  colorInputs : ColorInputs := fun _ _ => {}

structure Universe where
  layout : UniverseLayout
  state : UniverseState

/-- The tables of the runtime that no consume changes. -/
structure Definitions where
  tables : FixtureTables := {}
  resources : ColorResources := {}
  palettes : Int32 → Option CompiledWheelPalette := fun _ => none
  goboAsset : Int32 → Int32 → Int32 := fun _ _ => 0
  wheelLayers : WheelLayers := fun _ => []

structure HeldState where
  shutters : ShutterHeld := {}
  gobos : GoboHeld := {}
  properties : PropertyHeld := {}
  baseColors : Int32 → CookedEmitterColor := fun _ => {}
  colors : Int32 → CookedEmitterColor := fun _ => {}
  wheels : Int → WheelTargetState := fun _ => {}

structure Core where
  definitions : Definitions := {}
  schema : VisualFrameSchema := {}
  nextSchemaGeneration : Int32 := 1
  universes : List Universe := []
  held : HeldState := {}
  diagnosed : Int32 → SourceWarnings := fun _ => {}
  diagnostics : List CompiledRuntimeDiagnostic := []

def Core.layouts (core : Core) : List UniverseLayout := core.universes.map Universe.layout

/-! ### Installation -/

namespace InstalledTables

def capabilities (t : InstalledTables) : VisualFrameSchemaCapabilities :=
  let parameters := t.properties.map (fun x => semanticParameterForCompiled x.entry.semantic)
  {
    hasTransform := parameters.any (fun parameter => parameter == .pan || parameter == .tilt)
    hasIntensity := parameters.any (fun parameter => parameter == .dimmer)
    hasOptics := parameters.any (fun parameter => parameter == .zoom)
    hasColor := !t.colorTargets.isEmpty
    hasWheelSelection := !t.wheels.isEmpty
    hasGoboSelection := !t.gobos.isEmpty
    hasGoboRotation := !t.motions.isEmpty
    hasShutter := !(validEntries t.shutterEntries).isEmpty
  }

/-- Every render domain that an installed entry can dirty, with the fixture of the entry. -/
def visualMasks (t : InstalledTables) : List (Int32 × UInt32) :=
  t.properties.map (fun x =>
      (x.entry.fixtureId, visualMaskForParameter (semanticParameterForCompiled x.entry.semantic)))
    ++ t.colorTargets.map (fun x => (x.entry.fixtureId, VisualChangeColor))
    ++ t.wheels.map (fun x => (x.entry.fixtureId, VisualChangeColor))
    ++ t.gobos.map (fun x => (x.entry.binding.fixtureId, VisualChangeGobo))
    ++ t.motions.map (fun x => (x.entry.binding.fixtureId, VisualChangeGoboRotation))
    ++ (validEntries t.shutterEntries).map (fun x => (x.binding.fixtureId, VisualChangeStrobe))

def installedVisualMask (t : InstalledTables) (fixtureId : Int32) : UInt32 :=
  ((t.visualMasks.filter (fun entry => entry.1 == fixtureId)).map Prod.snd).foldl (· ||| ·) 0

/-- The component of the last property of a fixture with the parameter. -/
def componentOf (t : InstalledTables) (parameter : SemanticParameter) (fixtureId : Int32) : Int32 :=
  (t.properties.reverse.find? (fun x => x.entry.fixtureId == fixtureId
    && semanticParameterForCompiled x.entry.semantic == parameter)).elim 0 (fun x =>
      x.entry.componentId)

def fixtureTables (t : InstalledTables) (fixtures : List CompiledFixtureInstance)
    : FixtureTables where
  renderParams := fun fixtureId =>
    { fixtureRenderParams fixtures fixtureId with
      hasZoom := t.properties.any (fun x => x.entry.fixtureId == fixtureId
        && semanticParameterForCompiled x.entry.semantic == .zoom) }
  installedVisualMask := t.installedVisualMask
  components := ⟨t.componentOf .pan, t.componentOf .tilt⟩

/-- The wheels over a target in the order of their renderers. -/
def wheelLayers (t : InstalledTables) : WheelLayers := fun target =>
  (sortUnique ((t.wheels.filter (fun x => x.entry.beamRenderTargetId == target)).map (fun x =>
    x.entry.wheelRendererId))).map (wheelPhysicalKey target)

def wheelState (t : InstalledTables) (physicalKey : Int) : WheelTargetState :=
  match t.wheels.find? (fun x => x.entry.physicalKey == physicalKey) with
  | none => {}
  | some x => {
      beamTargetId := x.entry.beamRenderTargetId
      wheelRendererId := x.entry.wheelRendererId
    }

/-- Where the ranges of neighbouring bindings of one wheel overlap. -/
def overlapDiagnostics (t : InstalledTables) (p : Platform) (u : Int32)
    : List CompiledRuntimeDiagnostic :=
  let wheels := ofUniverse t.wheels u
  let binding := fun index => wheels.getD index {}
  let program := fun index => program? t.programs (binding index).sourceProgramId
  (p.hashOrder (firstOccurrences (wheels.map CompiledWheelTargetBinding.physicalKey))).flatMap
    (fun key =>
      let group := wheelGroup t.programs wheels key
      (group.zip group.tail).filterMap (fun (previous, next) =>
        if (program next).elim 0 CompiledDmxSourceProgram.dmxFrom
            ≤ (program previous).elim 0 CompiledDmxSourceProgram.dmxTo then
          some (wheelRangeOverlap
            "Wheel control ChannelFunction ranges overlap for one physical wheel; runtime will use deterministic binding order."
            (binding previous).beamRenderTargetId (binding previous).wheelRendererId)
        else
          none))

/-- The cycles that the walks from the sources find, each walk stops at a source seen before. -/
def cyclicMasters (planPrograms : List CompiledDmxSourceProgram)
    : List CompiledRuntimeDiagnostic :=
  let walk := fun (seen : List Nat × List CompiledRuntimeDiagnostic) (source : Nat) =>
    if source ∈ seen.1 then
      seen
    else
      let path := activationReach planPrograms source
      let fresh := path.takeWhile (fun cursor => cursor ∉ seen.1)
      let closing := (planMaster planPrograms (fresh.getLastD source)).filter (fun master =>
        master ∈ fresh)
      (seen.1 ++ fresh, seen.2 ++ closing.toList.map (fun cursor => {
        code := "PVZ-EVALUATION-CYCLIC-MASTER"
        severity := "warning"
        message := "Cyclic evaluation activation dependency remains inactive in the authoritative activation evaluator."
        subject := toString (planPrograms.getD cursor {}).programId
      }))
  ((List.range planPrograms.length).foldl walk ([], [])).2

def universeOrder (t : InstalledTables) (p : Platform) : List Int32 :=
  (p.hashOrder (t.universeIds.map Int32.toInt)).map Int32.ofInt

def initialColorInputs (p : Platform) (targets : List ColorTargetRuntime) : ColorInputs :=
  fun target input =>
    match (targets[target]?).bind (fun target => target.inputs[input]?) with
    | none => {}
    | some input => { value := p.toFloat input.binding.defaultValue }

def installUniverse (t : InstalledTables) (p : Platform) (u : Int32) : Universe :=
  let layout := universeLayout t u
  {
    layout := layout
    state := { colorInputs := initialColorInputs p layout.colors.targets }
  }

def held (t : InstalledTables) (p : Platform) (scene : CompiledRuntimeScene) : HeldState where
  shutters := { authorities := authorityState p scene t.shutterEntries }
  wheels := t.wheelState

end InstalledTables

def noProperties : CompiledRuntimeDiagnostic where
  code := "PVZ-RUNTIME-NO-PROPERTIES"
  severity := "error"
  message := "Compiled runtime scene installed zero supported native properties."
  subject := "CompiledRuntimeScene"

def installDiagnostics (p : Platform) (scene : CompiledRuntimeScene)
    : List CompiledRuntimeDiagnostic :=
  let t := installTables p scene
  scene.diagnostics
    ++ (if scene.fixtures.isEmpty then [emptyScene] else [])
    ++ (installPrograms scene.sourcePrograms).2
    ++ fixtureDiagnostics scene.fixtures
    ++ scene.properties.flatMap (fun property => (checkProperty t.programs property).diagnostics)
    ++ wheelDiagnostics t.programs scene.wheelPalettes scene.wheelBindings
    ++ scene.goboBindings.filterMap (goboDiagnostic t.programs)
    ++ (scene.goboMotionBindings.filter isMotion).filterMap (motionDiagnostic t.programs)
    ++ shutterDiagnostics t.shutterEntries
    ++ (if t.properties.isEmpty && scene.colorTargets.isEmpty && t.wheels.isEmpty
        && scene.goboBindings.isEmpty && scene.goboMotionBindings.isEmpty
        && scene.shutterBindings.isEmpty then [noProperties] else [])
    ++ (t.universeOrder p).flatMap (t.overlapDiagnostics p)
    ++ (t.universeOrder p).flatMap (fun u =>
      InstalledTables.missingMasters (t.planPrograms u)
        ++ InstalledTables.cyclicMasters (t.planPrograms u))

/-- What an installation makes of an accepted scene. -/
def installedCore (p : Platform) (generation : Int32) (scene : CompiledRuntimeScene) : Core :=
  let t := installTables p scene
  {
    definitions := {
      tables := t.fixtureTables scene.fixtures
      resources := ⟨scene.emitterResources, scene.filterResources⟩
      palettes := wheelPalette? scene.wheelPalettes
      goboAsset := goboAsset scene.goboAssets
      wheelLayers := t.wheelLayers
    }
    -- the generation is counted once more by the `clear` in front
    schema := makeVisualFrameSchema (generation + 2) t.capabilities
    nextSchemaGeneration := generation + 2
    universes := (t.universeOrder p).map (t.installUniverse p)
    held := t.held p scene
    diagnostics := installDiagnostics p scene
  }

/--
Installs a scene. Nothing is answered where the source takes the front of an empty list, which is
undefined: that is a complete wheel binding whose program has no sources.
-/
def installCompiledScene (p : Platform) (core : Core) (scene : CompiledRuntimeScene)
    : Option Core :=
  let programs := (installPrograms scene.sourcePrograms).1
  if scene.wheelBindings.any (readsEmptySources programs scene.wheelPalettes) then
    none
  else
    some (installedCore p core.nextSchemaGeneration scene)

/-! ### Submission -/

def submitToUniverse (universeId : Int32) (data : List UInt8) (u : Universe) : Universe :=
  if u.layout.universeId = universeId ∧ data ≠ [] then
    { u with state := { u.state with latestFrame := data.take 512, hasPendingFrame := true } }
  else
    u

/-- A frame without a byte, and one of a universe that is not installed, is ignored. -/
def submitUniverseFrame (core : Core) (universeId : Int32) (data : List UInt8) : Core :=
  { core with universes := core.universes.map (submitToUniverse universeId data) }

/-! ### Consume -/

/-- The byte of a frame at `offset`, `0` outside of it. -/
def byteOf (frame : List UInt8) (offset : Int32) : UInt8 := (frameByte frame offset).getD 0

/-- The interest offsets whose byte is not the one that was last relevant. -/
def discoverOffsets (interestOffsets : List Int32) (s : UniverseState) : UniverseState :=
  let changed := interestOffsets.filter (fun offset =>
    !s.hasLastRelevantValues || s.lastRelevantValues offset != byteOf s.latestFrame offset)
  { s with
    changedOffsets := changed
    lastRelevantValues := fun offset =>
      if offset ∈ changed then byteOf s.latestFrame offset else s.lastRelevantValues offset
    hasLastRelevantValues := true }

def beginUniverseUpdate (plan : EvaluationPlan) (s : UniverseState) : UniverseState :=
  { s with workspace := s.workspace.beginUpdate plan s.changedOffsets }

def dirtyConsumers (plan : EvaluationPlan) : EvalM (List EvaluationConsumer) :=
  fun s => (s.workspace.consumers.visit.map plan.consumer, s)

def indicesIn (domain : EvaluationDomain) (consumers : List EvaluationConsumer) : List Nat :=
  (consumers.filter (fun consumer => consumer.domain == domain)).map EvaluationConsumer.index

def targetsIn (domain : EvaluationDomain) (consumers : List EvaluationConsumer) : List Int :=
  (consumers.filter (fun consumer => consumer.domain == domain)).map EvaluationConsumer.target

/-- Puts the results of the workers into the cache, their warnings wait for the first use. -/
def injectSources (prepared : Option PreparedSlots) : EvalM Unit :=
  fun s =>
    ((), s.workspace.changedSources.foldl (fun s source =>
      match prepared.bind (fun prepared => prepared.source? source) with
      | some slot => s.storeSource source slot.value slot.warnings
      | none => s) s)

/-- What a universe has changed of the runtime, and what it has put out. -/
structure UniverseUpdate where
  held : HeldState
  colorInputs : ColorInputs
  frame : SectionedVisualFrame
  emission : Emission

/-- The body of the loop over the universes, from the dispatch of the dirty consumers on. -/
def updateDomains (p : Platform) (d : Definitions) (layout : UniverseLayout)
    (prepared : Option PreparedSlots) (now : ℚ) (frame : List UInt8) (held : HeldState)
    (colorInputs : ColorInputs) (out : SectionedVisualFrame) : EvalM UniverseUpdate := do
  let ctx : SourceContext := ⟨p, frame, layout.plan⟩
  injectSources prepared
  let dirty ← dirtyConsumers layout.plan
  let (shutters, out) ← ctx.evaluateShutters layout.shutters now held.shutters out
    (targetsIn .shutter dirty)
  let (gobos, goboRows) ← ctx.updateGoboSelections layout.gobos d.goboAsset held.gobos
    (targetsIn .goboSelection dirty)
  let (gobos, goboRotationRows) ← ctx.updateGoboMotions layout.gobos now gobos
    (targetsIn .goboMotion dirty)
  let properties ← ctx.updateProperties d.tables layout.properties held.properties
    (indicesIn .property dirty)
  let colors ← ctx.updateColors d.resources layout.colors layout.wheels prepared
    {
      inputs := colorInputs
      base := held.baseColors
      dirtyWheels := OrderedDirtyIndices.insertAll {} (indicesIn .wheel dirty)
    } (indicesIn .color dirty)
  let wheels ← ctx.updateWheels layout.wheels d.palettes held.wheels colors.dirtyWheels
  let (colorStates, colorRows) := composeColors p layout.colors d.wheelLayers prepared colors.base
    wheels.states held.colors (colors.dirtyTargets ++ wheels.dirtyTargets)
  let (propertyHeld, transformRows) := mergeTransforms p d.tables properties.pending
    properties.held
  return {
    held := {
      shutters := shutters
      gobos := gobos
      properties := propertyHeld
      baseColors := colors.base
      colors := colorStates
      wheels := wheels.states
    }
    colorInputs := colors.inputs
    frame := out
    emission := {
      rows := properties.rows ++ wheels.rows ++ colorRows ++ transformRows
      goboRows := goboRows
      goboRotationRows := goboRotationRows
    }
  }

/-- What the universes of one consume share. -/
structure ConsumeState where
  held : HeldState
  diagnosed : Int32 → SourceWarnings
  diagnostics : List CompiledRuntimeDiagnostic := []
  frame : SectionedVisualFrame
  emission : Emission := {}

def evaluationState (c : ConsumeState) (s : UniverseState) : EvaluationState where
  workspace := s.workspace
  prefetchedWarnings := s.prefetchedWarnings
  diagnosed := c.diagnosed
  diagnostics := c.diagnostics

/-- Runs the domains of a universe on what the consume shares. -/
def runDomains (p : Platform) (d : Definitions) (prepared : Option PreparedSlots) (now : ℚ)
    (c : ConsumeState) (u : Universe) : ConsumeState × Universe :=
  let (update, s) := updateDomains p d u.layout prepared now u.state.latestFrame c.held
    u.state.colorInputs c.frame (evaluationState c u.state)
  ({
      held := update.held
      diagnosed := s.diagnosed
      diagnostics := s.diagnostics
      frame := update.frame
      emission := c.emission.append update.emission
    },
    { u with
      state := { u.state with
        workspace := s.workspace
        prefetchedWarnings := s.prefetchedWarnings
        colorInputs := update.colorInputs } })

/-- One iteration of the loop over the universes, the inputs are not prepared ahead. -/
def consumeUniverse (p : Platform) (d : Definitions) (now : ℚ) (c : ConsumeState) (u : Universe)
    : ConsumeState × Universe :=
  if !u.state.hasPendingFrame then
    (c, u)
  else
    let s := discoverOffsets u.layout.interestOffsets { u.state with hasPendingFrame := false }
    if s.changedOffsets.isEmpty then
      (c, { u with state := s })
    else
      runDomains p d none now c { u with state := beginUniverseUpdate u.layout.plan s }

/-- The fold of a step over a list that also rewrites the elements. -/
def updateAll {σ α : Type} (step : σ → α → σ × α) : σ → List α → σ × List α
  | s, [] => (s, [])
  | s, a :: rest =>
    let (s, a) := step s a
    let (s, rest) := updateAll step s rest
    (s, a :: rest)

def Core.consumeState (core : Core) : ConsumeState where
  held := core.held
  diagnosed := core.diagnosed
  frame := { schemaGeneration := core.schema.schemaGeneration }

/-- The core and the frame after the universes are through. -/
def Core.finish (core : Core) (result : ConsumeState × List Universe)
    : Core × SectionedVisualFrame :=
  ({ core with
      universes := result.2
      held := result.1.held
      diagnosed := result.1.diagnosed
      diagnostics := core.diagnostics ++ result.1.diagnostics },
    packSections core.definitions.tables.components result.1.frame result.1.emission)

def consumeLatestVisualFrame (p : Platform) (core : Core) (now : ℚ)
    : Core × SectionedVisualFrame :=
  core.finish (updateAll (consumeUniverse p core.definitions now) core.consumeState core.universes)

inductive Operation where
  | submit (universeId : Int32) (data : List UInt8)
  | consume (now : ℚ)
  deriving DecidableEq

def Core.step (p : Platform) (core : Core) : Operation → Core × Option SectionedVisualFrame
  | .submit universeId data => (submitUniverseFrame core universeId data, none)
  | .consume now =>
    let (core, frame) := consumeLatestVisualFrame p core now
    (core, some frame)

/-- The runtime without an executor, from an installed core on. -/
def runtime (p : Platform) (core : Core) : Machine Core Operation (Option SectionedVisualFrame)
    where
  init := core
  step := Core.step p

end Peraviz.Runtime
