import Peraviz.Runtime.Domains.Colors
import Peraviz.Runtime.Domains.Gobos
import Peraviz.Runtime.Domains.Properties
import Peraviz.Runtime.Install.Shutters

/-!
This module contains the installation of a compiled scene: the tables that are fixed from then on,
and for each universe its layout, which is the programs it evaluates, their consumers and the slots
they read.
-/

namespace Peraviz.Runtime

/-- An entry of a table of the scene with the universe that it is evaluated in. -/
structure Installed (α : Type) where
  universeId : Int32
  entry : α

def ofUniverse {α : Type} (installed : List (Installed α)) (universeId : Int32) : List α :=
  (installed.filter (fun x => x.universeId == universeId)).map Installed.entry

def emptyScene : CompiledRuntimeDiagnostic where
  code := "PVZ-RUNTIME-EMPTY-SCENE"
  severity := "error"
  message := "Compiled runtime scene contains no fixture instances."
  subject := "CompiledRuntimeScene"

/-! ### Fixtures -/

def invalidPatch (fixture : CompiledFixtureInstance) : Bool :=
  fixture.fixtureId ≤ 0 || fixture.universeId < 0 || fixture.startAddress < 1
    || 512 < fixture.startAddress

def fixtureDiagnostics (fixtures : List CompiledFixtureInstance)
    : List CompiledRuntimeDiagnostic :=
  (fixtures.filter invalidPatch).map (fun fixture => {
    code := "PVZ-RUNTIME-INVALID-PATCH"
    severity := "error"
    message := "Compiled fixture has an invalid ID, universe, or patch address."
    subject := fixture.fixtureUuid
  })

/-- The parameters of the last valid fixture with the identifier. -/
def fixtureRenderParams (fixtures : List CompiledFixtureInstance) (fixtureId : Int32)
    : FixtureRenderParams :=
  match (fixtures.filter (fun fixture => !invalidPatch fixture)).reverse.find? (fun fixture =>
      fixture.fixtureId == fixtureId) with
  | none => {}
  | some fixture => {
      luminousFlux := fixture.luminousFlux
      beamAngleDefault := fixture.beamAngleDefault
      spotMultiplier := fixture.spotMultiplier
      beamMultiplier := fixture.beamMultiplier
    }

/-! ### Properties -/

structure PropertyCheck where
  location : UniverseCheck := {}
  diagnostics : List CompiledRuntimeDiagnostic := []

namespace PropertyCheck

def warn (check : PropertyCheck) (code message : String) (subject : Int32) : PropertyCheck where
  location := { check.location with valid := false }
  diagnostics := check.diagnostics ++ [⟨code, "warning", message, toString subject⟩]

def addSource (programId : Int32) (check : PropertyCheck) (source : CompiledDmxByteSource)
    : PropertyCheck :=
  let check :=
    if source.address < 0 ∨ 512 ≤ source.address then
      check.warn "PVZ-RUNTIME-SOURCE-OUT-OF-RANGE"
        "Compiled DMX byte source is outside the 512-slot universe." programId
    else
      check
  let next := check.location.add source
  if source.universeId ≠ next.universeId then
    { check with location := next }.warn "PVZ-RUNTIME-CROSS-UNIVERSE-PROPERTY"
      "Compiled property spans universes, which is not supported by this evaluator." programId
  else
    { check with location := next }

def addContributor (programs : List CompiledDmxSourceProgram) (check : PropertyCheck)
    (contributor : CompiledPropertyContributor) : PropertyCheck :=
  match program? programs contributor.sourceProgramId with
  | none =>
    check.warn "PVZ-RUNTIME-MISSING-PROGRAM" "Compiled property references a missing source program."
      contributor.sourceProgramId
  | some program =>
    if unsupportedByteCount program then
      check.warn "PVZ-RUNTIME-INVALID-SOURCE-COUNT"
        "Compiled source program must contain one to four DMX byte sources." program.programId
    else
      program.sources.foldl (addSource program.programId) check

end PropertyCheck

def incompleteProperty (property : CompiledComponentProperty) : Bool :=
  property.propertyId ≤ 0 || property.fixtureId ≤ 0
    || semanticParameterForCompiled property.semantic == .unknown || property.contributors.isEmpty

def checkProperty (programs : List CompiledDmxSourceProgram) (property : CompiledComponentProperty)
    : PropertyCheck :=
  if incompleteProperty property then
    PropertyCheck.warn {} "PVZ-RUNTIME-INVALID-PROPERTY"
      "Compiled property is missing property ID, fixture, semantic, or contributors."
      property.fixtureId
  else
    property.contributors.foldl (PropertyCheck.addContributor programs) {}

def installProperty? (programs : List CompiledDmxSourceProgram)
    (property : CompiledComponentProperty) : Option (Installed CompiledComponentProperty) :=
  (checkProperty programs property).location.universe?.map (fun universeId =>
    ⟨universeId, property⟩)

def installedProperties (programs : List CompiledDmxSourceProgram)
    (properties : List CompiledComponentProperty) : List (Installed CompiledComponentProperty) :=
  properties.filterMap (installProperty? programs)

/-! ### Color targets -/

def addColorInput (programs : List CompiledDmxSourceProgram) (check : UniverseCheck)
    (input : CompiledColorInputBinding) : UniverseCheck :=
  match program? programs input.sourceProgramId with
  | none => { check with valid := false }
  | some program =>
    if program.sources.isEmpty then { check with valid := false } else check.addAll program.sources

def installColorTarget? (programs : List CompiledDmxSourceProgram)
    (target : CompiledColorTargetProgram) : Option (Installed CompiledColorTargetProgram) :=
  if target.fixtureId ≤ 0 ∨ target.beamRenderTargetId ≤ 0 ∨ target.inputs.isEmpty then
    none
  else
    (target.inputs.foldl (addColorInput programs) {}).universe?.map (fun universeId =>
      ⟨universeId, target⟩)

def installedColorTargets (programs : List CompiledDmxSourceProgram)
    (targets : List CompiledColorTargetProgram) : List (Installed CompiledColorTargetProgram) :=
  targets.filterMap (installColorTarget? programs)

/-! ### Wheels -/

/-- Of two palettes of one wheel the later one counts. -/
def wheelPalette? (palettes : List CompiledWheelPalette) (wheelRendererId : Int32)
    : Option CompiledWheelPalette :=
  palettes.reverse.find? (fun palette => palette.wheelRendererId == wheelRendererId)

/-- The program of a wheel binding, if the binding is complete. -/
def wheelProgram? (programs : List CompiledDmxSourceProgram) (palettes : List CompiledWheelPalette)
    (binding : CompiledWheelTargetBinding) : Option CompiledDmxSourceProgram :=
  if binding.bindingId ≤ 0 ∨ binding.fixtureId ≤ 0 ∨ binding.beamRenderTargetId ≤ 0
      ∨ (wheelPalette? palettes binding.wheelRendererId).isNone
      ∨ (binding.mode = .listed .select ∧ binding.channelSets.isEmpty) then
    none
  else
    program? programs binding.sourceProgramId

def wheelDiagnostics (programs : List CompiledDmxSourceProgram)
    (palettes : List CompiledWheelPalette) (bindings : List CompiledWheelTargetBinding)
    : List CompiledRuntimeDiagnostic :=
  (bindings.filter (fun binding => (wheelProgram? programs palettes binding).isNone)).map
    (fun binding => {
      code := "PVZ-RUNTIME-INVALID-WHEEL-BINDING"
      severity := "warning"
      message := "Compiled wheel binding is missing a source, palette, target, or required ChannelSets."
      subject := toString binding.bindingId
    })

/-- The bindings whose program has a first source, whatever the other sources are. -/
def installedWheels (programs : List CompiledDmxSourceProgram)
    (palettes : List CompiledWheelPalette) (bindings : List CompiledWheelTargetBinding)
    : List (Installed CompiledWheelTargetBinding) :=
  bindings.filterMap (fun binding =>
    (wheelProgram? programs palettes binding).bind (fun program =>
      program.sources.head?.map (fun source => ⟨source.universeId, binding⟩)))

/-- A complete wheel binding whose program has no first source. -/
def readsEmptySources (programs : List CompiledDmxSourceProgram)
    (palettes : List CompiledWheelPalette) (binding : CompiledWheelTargetBinding) : Bool :=
  (wheelProgram? programs palettes binding).any (fun program => program.sources.isEmpty)

/-! ### Gobos -/

/-- The programs that a binding depends on, if they are installed and lie in one universe. -/
def goboDependencies? (programs : List CompiledDmxSourceProgram) (universeId sourceProgramId : Int32)
    : Option (List Int32) :=
  let walk := dependencyWalk programs nextMaster [] sourceProgramId
  let sources := (walk.1.filterMap (program? programs)).flatMap CompiledDmxSourceProgram.sources
  if (walk.2 ≤ 0 ∨ walk.2 ∈ walk.1) ∧ sources.all (fun source => source.universeId == universeId)
  then some walk.1 else none

/-- The universe of the first source of a program, if the binding is complete. -/
def goboUniverse? (programs : List CompiledDmxSourceProgram)
    (binding : CompiledGoboSelectionBinding) : Option Int32 :=
  if binding.bindingId ≤ 0 ∨ binding.fixtureId ≤ 0 ∨ binding.beamRenderTargetId ≤ 0
      ∨ binding.wheelId ≤ 0 ∨ binding.wheelInstanceIndex ≤ 0 ∨ binding.channelSets.isEmpty then
    none
  else
    (program? programs binding.sourceProgramId).bind (fun program =>
      program.sources.head?.map CompiledDmxByteSource.universeId)

def motionUniverse? (programs : List CompiledDmxSourceProgram)
    (binding : CompiledGoboMotionBinding) : Option Int32 :=
  if binding.bindingId ≤ 0 ∨ binding.beamRenderTargetId ≤ 0 ∨ !binding.scalarEvaluable then
    none
  else
    (program? programs binding.sourceProgramId).bind (fun program =>
      program.sources.head?.map CompiledDmxByteSource.universeId)

def isMotion (binding : CompiledGoboMotionBinding) : Bool :=
  binding.semanticKind = .listed .pos ∨ binding.semanticKind = .listed .posRotate

def goboDiagnostic (programs : List CompiledDmxSourceProgram)
    (binding : CompiledGoboSelectionBinding) : Option CompiledRuntimeDiagnostic :=
  match goboUniverse? programs binding with
  | none =>
    some {
      code := "PVZ-RUNTIME-INVALID-GOBO-BINDING"
      severity := "warning"
      message := "Compiled seated gobo binding is incomplete or has a non-positive wheel instance."
      subject := toString binding.bindingId
    }
  | some universeId =>
    if (goboDependencies? programs universeId binding.sourceProgramId).isSome then
      none
    else
      some {
        code := "PVZ-RUNTIME-CROSS-UNIVERSE-GOBO-SELECTION"
        severity := "warning"
        message := "Gobo selection activation dependencies are missing or span universes and cannot be evaluated."
        subject := toString binding.bindingId
      }

def motionDiagnostic (programs : List CompiledDmxSourceProgram)
    (binding : CompiledGoboMotionBinding) : Option CompiledRuntimeDiagnostic :=
  (motionUniverse? programs binding).bind (fun universeId =>
    if (goboDependencies? programs universeId binding.sourceProgramId).isSome then
      none
    else
      some {
        code := "PVZ-RUNTIME-CROSS-UNIVERSE-GOBO-MOTION"
        severity := "warning"
        message := "Gobo Pos activation dependencies are missing or span universes and cannot be evaluated."
        subject := toString binding.bindingId
      })

/-- A binding with the programs that its activation depends on. -/
structure DependentBinding (β : Type) where
  binding : β
  dependencyProgramIds : List Int32

def installDependent {β : Type} (programs : List CompiledDmxSourceProgram)
    (universe? : β → Option Int32) (sourceProgramId : β → Int32) (binding : β)
    : Option (Installed (DependentBinding β)) :=
  (universe? binding).bind (fun universeId =>
    (goboDependencies? programs universeId (sourceProgramId binding)).map (fun ids =>
      ⟨universeId, ⟨binding, ids⟩⟩))

def installedGobos (programs : List CompiledDmxSourceProgram)
    (bindings : List CompiledGoboSelectionBinding)
    : List (Installed (DependentBinding CompiledGoboSelectionBinding)) :=
  bindings.filterMap (installDependent programs (goboUniverse? programs)
    CompiledGoboSelectionBinding.sourceProgramId)

def installedMotions (programs : List CompiledDmxSourceProgram)
    (bindings : List CompiledGoboMotionBinding)
    : List (Installed (DependentBinding CompiledGoboMotionBinding)) :=
  (bindings.filter isMotion).filterMap (installDependent programs (motionUniverse? programs)
    CompiledGoboMotionBinding.sourceProgramId)

/-- The asset behind a slot of a gobo wheel, of two entries the later one counts. -/
def goboAsset (assets : List CompiledGoboAsset) (wheelId slotIndex : Int32) : Int32 :=
  match assets.reverse.find? (fun asset => asset.wheelId == wheelId && asset.slotIndex == slotIndex)
  with
  | none => 0
  | some asset => if asset.mediaValid && !asset.openSlot then asset.goboAssetId else 0

def installedShutters (entries : List ShutterEntry) : List (Installed ShutterEntry) :=
  (representativeEntries entries).filterMap (fun entry =>
    entry.universe?.map (fun universeId => ⟨universeId, entry⟩))

/-! ### The scene -/

/-- What an installation has found of a scene. -/
structure InstalledTables where
  programs : List CompiledDmxSourceProgram
  properties : List (Installed CompiledComponentProperty)
  colorTargets : List (Installed CompiledColorTargetProgram)
  wheels : List (Installed CompiledWheelTargetBinding)
  gobos : List (Installed (DependentBinding CompiledGoboSelectionBinding))
  motions : List (Installed (DependentBinding CompiledGoboMotionBinding))
  shutterEntries : List ShutterEntry

namespace InstalledTables

def shutters (t : InstalledTables) : List (Installed ShutterEntry) :=
  installedShutters t.shutterEntries

def programSources (t : InstalledTables) (ids : List Int32) : List Int32 :=
  ((ids.filterMap (program? t.programs)).flatMap CompiledDmxSourceProgram.sources).map
    CompiledDmxByteSource.address

/-- The programs that the consumers of a universe read. -/
def readIds (t : InstalledTables) (u : Int32) : List Int32 :=
  (ofUniverse t.properties u).flatMap (fun property =>
      property.contributors.map CompiledPropertyContributor.sourceProgramId)
    ++ (ofUniverse t.colorTargets u).flatMap (fun target =>
      target.inputs.map CompiledColorInputBinding.sourceProgramId)
    ++ (ofUniverse t.wheels u).map CompiledWheelTargetBinding.sourceProgramId
    ++ (ofUniverse t.gobos u).flatMap DependentBinding.dependencyProgramIds
    ++ (ofUniverse t.motions u).flatMap DependentBinding.dependencyProgramIds
    ++ (ofUniverse t.shutters u).flatMap ShutterEntry.dependencyProgramIds

def interestOffsets (t : InstalledTables) (u : Int32) : List Int32 :=
  sortUnique (t.programSources (t.readIds u))

/-- The master of a program as a node of the graph of a universe. -/
def sameUniverseMaster (t : InstalledTables) (u : Int32) (program : CompiledDmxSourceProgram)
    : Int32 :=
  match program? t.programs program.activation.masterProgramId with
  | none => 0
  | some master =>
    if master.sources.head?.any (fun source => source.universeId == u) then master.programId else 0

def requiredIds (t : InstalledTables) (u : Int32) : List Int32 :=
  sortUnique (t.readIds u ++ (t.readIds u).flatMap (fun id =>
    (dependencyWalk t.programs (t.sameUniverseMaster u) [] id).1))

def planPrograms (t : InstalledTables) (u : Int32) : List CompiledDmxSourceProgram :=
  (t.requiredIds u).filterMap (program? t.programs)

def missingMasters (planPrograms : List CompiledDmxSourceProgram)
    : List CompiledRuntimeDiagnostic :=
  (planPrograms.filter (fun program => program.activation.targetKind != .listed .none
      && (program? planPrograms program.activation.masterProgramId).isNone)).map (fun program => {
    code := "PVZ-EVALUATION-MISSING-MASTER"
    severity := "warning"
    message := "Evaluation source has no installed same-universe ModeMaster."
    subject := toString program.programId
  })

end InstalledTables

/-- The position of a program in a plan, `uint32_t` has no more than this one beyond every plan. -/
def sourceIndex (planPrograms : List CompiledDmxSourceProgram) (programId : Int32) : Nat :=
  (planPrograms.findIdx? (fun program => program.programId == programId)).getD 4294967295

def planMaster (planPrograms : List CompiledDmxSourceProgram) (source : Nat) : Option Nat :=
  match planPrograms[source]? with
  | none => none
  | some program =>
    if program.activation.targetKind = .listed .none then
      none
    else
      planPrograms.findIdx? (fun master =>
        master.programId == program.activation.masterProgramId)

/-- The sources from `cursor` along the masters, every step but the last adds to the path. -/
def activationPath (planPrograms : List CompiledDmxSourceProgram)
    : Nat → List Nat → Nat → List Nat
  | 0, path, _ => path
  | fuel + 1, path, cursor =>
    if cursor ∈ path ∨ planPrograms.length ≤ cursor then
      path
    else
      match planMaster planPrograms cursor with
      | none => path ++ [cursor]
      | some master => activationPath planPrograms fuel (path ++ [cursor]) master

def activationReach (planPrograms : List CompiledDmxSourceProgram) (source : Nat) : List Nat :=
  activationPath planPrograms (planPrograms.length + 1) [] source

def propertyProgram (planPrograms : List CompiledDmxSourceProgram)
    (property : CompiledComponentProperty) : CompiledPropertyProgram :=
  let sources := property.contributors.map (fun contributor =>
    sourceIndex planPrograms contributor.sourceProgramId)
  let definition := fun source => planPrograms.getD source {}
  let first := definition (sources.headD 0)
  {
    property := property
    parameter := semanticParameterForCompiled property.semantic
    sources := sources
    rangeSelector := sources.any (fun source =>
      (definition source).dmxFrom != first.dmxFrom || (definition source).dmxTo != first.dmxTo)
  }

def colorTargetRuntime (planPrograms : List CompiledDmxSourceProgram)
    (target : CompiledColorTargetProgram) : ColorTargetRuntime where
  target := target
  inputs := target.inputs.map (fun input =>
    ⟨input, sourceIndex planPrograms input.sourceProgramId⟩)

def evaluationContext (programs planPrograms : List CompiledDmxSourceProgram)
    (ids : List Int32) : GoboEvaluationContext where
  dependencyProgramIds := ids
  programs := ids.filterMap (program? programs)
  sources := ids.map (sourceIndex planPrograms)

/-- The indices of the elements of a list with a property. -/
def indicesOf {α : Type} (l : List α) (p : α → Bool) : List Nat :=
  (l.zipIdx.filter (fun entry => p entry.1)).map Prod.snd

def CompiledGoboSelectionBinding.layer (binding : CompiledGoboSelectionBinding) : Int :=
  layerKey binding.beamRenderTargetId binding.wheelInstanceIndex

def CompiledGoboMotionBinding.layer (binding : CompiledGoboMotionBinding) : Int :=
  layerKey binding.beamRenderTargetId binding.wheelInstanceIndex

def CompiledWheelTargetBinding.physicalKey (binding : CompiledWheelTargetBinding) : Int :=
  wheelPhysicalKey binding.beamRenderTargetId binding.wheelRendererId

/-- The order in which the bindings of one wheel are asked whether they are active. -/
def wheelBefore (programs : List CompiledDmxSourceProgram) (a b : CompiledWheelTargetBinding)
    : Bool :=
  let from' := fun binding : CompiledWheelTargetBinding =>
    (program? programs binding.sourceProgramId).elim 0 CompiledDmxSourceProgram.dmxFrom
  let to' := fun binding : CompiledWheelTargetBinding =>
    (program? programs binding.sourceProgramId).elim 0 CompiledDmxSourceProgram.dmxTo
  if from' a ≠ from' b then from' a < from' b
  else if to' a ≠ to' b then to' a < to' b
  else a.bindingId < b.bindingId

def wheelGroup (programs : List CompiledDmxSourceProgram)
    (bindings : List CompiledWheelTargetBinding) (physicalKey : Int) : List Nat :=
  (indicesOf bindings (fun binding => binding.physicalKey == physicalKey)).insertionSort
    (fun a b => ¬ wheelBefore programs (bindings.getD b {}) (bindings.getD a {}))

def wheelLayout (programs planPrograms : List CompiledDmxSourceProgram)
    (bindings : List CompiledWheelTargetBinding) : WheelLayout where
  bindings := bindings.map (fun binding =>
    ⟨binding, sourceIndex planPrograms binding.sourceProgramId⟩)
  indicesByTarget := fun target =>
    indicesOf bindings (fun binding => binding.beamRenderTargetId == target)
  indicesByPhysicalKey := wheelGroup programs bindings

/-- The owner of a target: that of its first color target, else that of its first wheel. -/
def fixtureByTarget (targets : List CompiledColorTargetProgram)
    (wheels : List CompiledWheelTargetBinding) (target : Int32) : Int32 :=
  let owners := targets.map (fun t => (t.beamRenderTargetId, t.fixtureId))
    ++ wheels.map (fun b => (b.beamRenderTargetId, b.fixtureId))
  (owners.find? (fun owner => owner.1 == target)).elim 0 Prod.snd

def colorLayout (planPrograms : List CompiledDmxSourceProgram)
    (targets : List CompiledColorTargetProgram) (wheels : List CompiledWheelTargetBinding)
    : ColorLayout where
  targets := targets.map (colorTargetRuntime planPrograms)
  fixtureByTarget := fixtureByTarget targets wheels

def goboLayout (programs planPrograms : List CompiledDmxSourceProgram)
    (gobos : List (DependentBinding CompiledGoboSelectionBinding))
    (motions : List (DependentBinding CompiledGoboMotionBinding)) : GoboLayout where
  bindings := gobos.map (fun gobo =>
    ⟨gobo.binding, evaluationContext programs planPrograms gobo.dependencyProgramIds⟩)
  layers := fun key => indicesOf gobos (fun gobo => gobo.binding.layer == key)
  motionBindings := motions.map (fun motion =>
    ⟨motion.binding, evaluationContext programs planPrograms motion.dependencyProgramIds⟩)
  motionLayers := fun key => indicesOf motions (fun motion => motion.binding.layer == key)

def shutterLayout (programs planPrograms : List CompiledDmxSourceProgram)
    (shutters : List ShutterEntry) : ShutterLayout where
  bindings := shutters.map (fun shutter =>
    ⟨shutter.binding, evaluationContext programs planPrograms shutter.dependencyProgramIds⟩)
  layers := fun key => indicesOf shutters (fun shutter => shutter.authority.toInt == key)

/-- The consumers of the layers of one domain, in the order of their keys. -/
def layerConsumers (planPrograms : List CompiledDmxSourceProgram) (domain : EvaluationDomain)
    (keys : List Int) (layers : Int → List Nat) (contexts : List GoboEvaluationContext)
    : List EvaluationConsumer :=
  (sortUnique keys).map (fun key => {
    domain := domain
    target := key
    reaches := (layers key).flatMap (fun index =>
      activationReach planPrograms (contexts.getD index {}).front)
  })

structure UniverseLayout where
  universeId : Int32
  interestOffsets : List Int32 := []
  plan : EvaluationPlan := {}
  properties : List CompiledPropertyProgram := []
  colors : ColorLayout := {}
  wheels : WheelLayout := {}
  gobos : GoboLayout := {}
  shutters : ShutterLayout := {}

namespace UniverseLayout

def propertyConsumers (properties : List CompiledPropertyProgram) : List EvaluationConsumer :=
  properties.zipIdx.map (fun (program, index) => {
    domain := .property
    index := index
    target :=
      if program.parameter = .pan ∨ program.parameter = .tilt then
        program.property.componentId.toInt
      else
        program.property.renderTargetId.toInt
    reaches := program.sources
  })

def colorConsumers (targets : List ColorTargetRuntime) : List EvaluationConsumer :=
  targets.zipIdx.map (fun (target, index) => {
    domain := .color
    index := index
    target := target.target.beamRenderTargetId.toInt
    reaches := target.inputs.map ColorInputRuntime.source
  })

def wheelConsumers (wheels : List WheelBindingRuntime) : List EvaluationConsumer :=
  wheels.zipIdx.map (fun (wheel, index) => {
    domain := .wheel
    index := index
    target := wheel.binding.beamRenderTargetId.toInt
    reaches := [wheel.source]
  })

end UniverseLayout

open UniverseLayout in
/-- The consumers of a universe, in the order in which they are added to its plan. -/
def consumersOf (planPrograms : List CompiledDmxSourceProgram)
    (properties : List CompiledPropertyProgram) (colors : ColorLayout) (wheels : WheelLayout)
    (gobos : GoboLayout) (shutters : ShutterLayout) (shutterKeys : List Int)
    : List EvaluationConsumer :=
  propertyConsumers properties ++ colorConsumers colors.targets ++ wheelConsumers wheels.bindings
    ++ layerConsumers planPrograms .goboSelection
      (gobos.bindings.map (fun gobo => gobo.binding.layer)) gobos.layers
      (gobos.bindings.map GoboBindingRuntime.context)
    ++ layerConsumers planPrograms .goboMotion
      (gobos.motionBindings.map (fun motion => motion.binding.layer)) gobos.motionLayers
      (gobos.motionBindings.map GoboMotionRuntime.context)
    ++ layerConsumers planPrograms .shutter shutterKeys shutters.layers
      (shutters.bindings.map ShutterBindingRuntime.context)

def universeLayout (t : InstalledTables) (u : Int32) : UniverseLayout :=
  let planPrograms := t.planPrograms u
  let properties := (ofUniverse t.properties u).map (propertyProgram planPrograms)
  let colors := colorLayout planPrograms (ofUniverse t.colorTargets u) (ofUniverse t.wheels u)
  let wheels := wheelLayout t.programs planPrograms (ofUniverse t.wheels u)
  let gobos := goboLayout t.programs planPrograms (ofUniverse t.gobos u) (ofUniverse t.motions u)
  let shutters := shutterLayout t.programs planPrograms (ofUniverse t.shutters u)
  {
    universeId := u
    interestOffsets := t.interestOffsets u
    plan := {
      programs := planPrograms
      consumers := consumersOf planPrograms properties colors wheels gobos shutters
        ((ofUniverse t.shutters u).map (fun shutter => shutter.authority.toInt))
    }
    properties := properties
    colors := colors
    wheels := wheels
    gobos := gobos
    shutters := shutters
  }

/-- The universes in the order in which the loops of the installation first need them. -/
def InstalledTables.universeIds (t : InstalledTables) : List Int32 :=
  firstOccurrences (t.properties.map Installed.universeId
    ++ t.colorTargets.map Installed.universeId ++ t.wheels.map Installed.universeId
    ++ t.gobos.map Installed.universeId ++ t.motions.map Installed.universeId
    ++ t.shutters.map Installed.universeId)

def installTables (p : Platform) (scene : CompiledRuntimeScene) : InstalledTables :=
  let programs := (installPrograms scene.sourcePrograms).1
  {
    programs := programs
    properties := installedProperties programs scene.properties
    colorTargets := installedColorTargets programs scene.colorTargets
    wheels := installedWheels programs scene.wheelPalettes scene.wheelBindings
    gobos := installedGobos programs scene.goboBindings
    motions := installedMotions programs scene.goboMotionBindings
    shutterEntries := shutterEntries p programs scene.shutterBindings
  }

end Peraviz.Runtime
