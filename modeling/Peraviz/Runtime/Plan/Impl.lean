import Peraviz.Chain.Basic
import Peraviz.Runtime.Install.Impl
import Peraviz.Transition.Machine

/-!
This module contains the construction of an evaluation plan from the programs of a universe and the
consumers that are added to it, and the operations on the plan once it is built. Every loop along
the masters counts down fuel, nothing is answered where it does not last.
-/

namespace Peraviz.Runtime

/-- The arguments of one `add_consumer`. -/
structure ConsumerRequest where
  domain : EvaluationDomain := .property
  index : Nat := 0
  target : Int := 0
  sources : List Nat := []
  activationDependencies : Bool := false
  deriving DecidableEq

structure EvaluationSourceNode where
  program : CompiledDmxSourceProgram
  master : Option Nat := none
  consumers : List Nat := []
  activationSlot : Option Nat := none

structure EvaluationOffsetEntry where
  offset : Int32 := 0
  sources : List Nat := []

structure CompiledEvaluationPlan where
  sources : List EvaluationSourceNode := []
  consumers : List ConsumerRequest := []
  offsets : List EvaluationOffsetEntry := []
  buildingConsumers : Nat → List Nat := fun _ => []
  activationCount : Nat := 0
  workspace : EvaluationWorkspace := {}

/-! ### The check for cyclic masters -/

inductive VisitState where
  | unvisited
  | onPath
  | done
  deriving DecidableEq

/-- Marks the path from `cursor` to the first source that was visited before. -/
def visitPath (master : Nat → Option Nat)
    : Nat → (Nat → VisitState) → List Nat → Option Nat
      → Option ((Nat → VisitState) × List Nat × Option Nat)
  | _, state, path, none => some (state, path, none)
  | 0, state, path, some cursor =>
    if state cursor = .unvisited then none else some (state, path, some cursor)
  | fuel + 1, state, path, some cursor =>
    if state cursor = .unvisited then
      visitPath master fuel (Function.update state cursor .onPath) (path ++ [cursor])
        (master cursor)
    else
      some (state, path, some cursor)

def cyclicMaster (program : CompiledDmxSourceProgram) : CompiledRuntimeDiagnostic where
  code := "PVZ-EVALUATION-CYCLIC-MASTER"
  severity := "warning"
  message := "Cyclic evaluation activation dependency remains inactive in the authoritative activation evaluator."
  subject := toString program.programId

def visitSource (programs : List CompiledDmxSourceProgram) (fuel : Nat)
    (visited : (Nat → VisitState) × List CompiledRuntimeDiagnostic) (source : Nat)
    : Option ((Nat → VisitState) × List CompiledRuntimeDiagnostic) := do
  let (state, path, cursor) ← visitPath (planMaster programs) fuel visited.1 [] (some source)
  let closing := cursor.filter (fun cursor => state cursor == .onPath)
  return (path.foldl (fun state index => Function.update state index .done) state,
    visited.2 ++ closing.toList.map (fun cursor => cyclicMaster (programs.getD cursor {})))

namespace CompiledEvaluationPlan

/-! ### Construction -/

def sourcesByOffset (programs : List CompiledDmxSourceProgram) (offset : Nat) : List Nat :=
  sortUnique (programs.zipIdx.flatMap (fun (program, source) =>
    (program.sources.filter (fun byte => byte.address == Int32.ofNat offset)).map (fun _ => source)))

def offsetEntryAt (programs : List CompiledDmxSourceProgram) (offset : Nat)
    : Option EvaluationOffsetEntry :=
  match sourcesByOffset programs offset with
  | [] => none
  | indices => some ⟨Int32.ofNat offset, indices⟩

def offsetEntries (programs : List CompiledDmxSourceProgram) : List EvaluationOffsetEntry :=
  (List.range 512).filterMap (offsetEntryAt programs)

def sourceNodes (programs : List CompiledDmxSourceProgram) : List EvaluationSourceNode :=
  programs.zipIdx.map (fun (program, source) =>
    { program := program, master := planMaster programs source })

def install (fuel : Nat) (programs : List CompiledDmxSourceProgram)
    : Option (CompiledEvaluationPlan × List CompiledRuntimeDiagnostic) := do
  let (_, diagnostics) ← (List.range programs.length).foldlM (visitSource programs fuel)
    (fun _ => .unvisited, InstalledTables.missingMasters programs)
  return ({ sources := sourceNodes programs, offsets := offsetEntries programs }, diagnostics)

/-- The first use of a source as an activation reserves a slot for its result. -/
def assignSlot (plan : CompiledEvaluationPlan) (source : Nat) : CompiledEvaluationPlan :=
  match plan.sources[source]? with
  | none => plan
  | some node =>
    if node.activationSlot.isSome then
      plan
    else
      { plan with
        sources := plan.sources.set source { node with activationSlot := some plan.activationCount }
        activationCount := plan.activationCount + 1 }

def master (plan : CompiledEvaluationPlan) (source : Nat) : Option Nat :=
  plan.sources[source]?.bind EvaluationSourceNode.master

def pushConsumer (consumer : Nat) (building : Nat → List Nat) (source : Nat) : Nat → List Nat :=
  Function.update building source (building source ++ [consumer])

/-- The sources that a consumer depends on by one of its own sources. -/
def dependencies (plan : CompiledEvaluationPlan) (fuel : Nat) (activationDependencies : Bool)
    (source : Nat) : Option (List Nat) :=
  if plan.sources.length ≤ source then
    some []
  else if activationDependencies then
    Chain.walk plan.master fuel [] (some source)
  else
    some [source]

def addSource (fuel consumer : Nat) (activationDependencies : Bool) (plan : CompiledEvaluationPlan)
    (source : Nat) : Option CompiledEvaluationPlan := do
  let plan := if activationDependencies then plan.assignSlot source else plan
  let path ← plan.dependencies fuel activationDependencies source
  return { plan with
    buildingConsumers := path.foldl (pushConsumer consumer) plan.buildingConsumers }

def addConsumer (fuel : Nat) (plan : CompiledEvaluationPlan) (request : ConsumerRequest)
    : Option CompiledEvaluationPlan :=
  request.sources.foldlM (addSource fuel plan.consumers.length request.activationDependencies)
    { plan with consumers := plan.consumers ++ [request] }

def finishInstall (plan : CompiledEvaluationPlan) : CompiledEvaluationPlan :=
  { plan with
    sources := plan.sources.zipIdx.map (fun (node, source) =>
      { node with consumers := sortUnique (plan.buildingConsumers source) })
    buildingConsumers := fun _ => [] }

/-- The calls that build the plan of a universe, in their order. -/
def compile (fuel : Nat) (programs : List CompiledDmxSourceProgram)
    (requests : List ConsumerRequest)
    : Option (CompiledEvaluationPlan × List CompiledRuntimeDiagnostic) := do
  let (plan, diagnostics) ← install fuel programs
  let plan ← requests.foldlM (addConsumer fuel) plan
  return (plan.finishInstall, diagnostics)

/-! ### Playback -/

/-- The sources at an offset, found by `std::lower_bound` in the ascending entries. -/
def sourcesAt (plan : CompiledEvaluationPlan) (offset : Int32) : List Nat :=
  if offset < 0 ∨ 512 ≤ offset then
    []
  else
    match plan.offsets.find? (fun entry => offset ≤ entry.offset) with
    | none => []
    | some entry => if entry.offset = offset then entry.sources else []

def consumersOf (plan : CompiledEvaluationPlan) (source : Nat) : List Nat :=
  plan.sources[source]?.elim [] EvaluationSourceNode.consumers

def markSource (plan : CompiledEvaluationPlan) (w : EvaluationWorkspace) (source : Nat)
    : EvaluationWorkspace :=
  if w.sourceChanged source then
    w
  else
    { w with
      changed := Function.update w.changed source w.generation
      invalid := Function.update w.invalid source true
      changedSources := w.changedSources ++ [source]
      consumers := w.consumers.insertAll (plan.consumersOf source) }

def beginUpdate (plan : CompiledEvaluationPlan) (offsets : List Int32) : CompiledEvaluationPlan :=
  { plan with
    workspace := (offsets.flatMap plan.sourcesAt).foldl plan.markSource
      plan.workspace.nextGeneration }

def activationSlot (plan : CompiledEvaluationPlan) (source : Nat) : Option Nat :=
  plan.sources[source]?.bind EvaluationSourceNode.activationSlot

def activationCached (plan : CompiledEvaluationPlan) (source : Nat) : Bool :=
  (plan.activationSlot source).any plan.workspace.activationCached

/-- Without a slot there is nothing to store, the source has no caller that would. -/
def storeActivation (plan : CompiledEvaluationPlan) (source : Nat) (active : Bool)
    : CompiledEvaluationPlan :=
  match plan.activationSlot source with
  | none => plan
  | some slot => { plan with workspace := plan.workspace.storeActivation slot active }

/-- The consumers of an update in the order in which they are visited. -/
def dirtyConsumers (plan : CompiledEvaluationPlan) : List Nat := plan.workspace.consumers.visit

inductive Operation where
  | beginUpdate (offsets : List Int32)
  | store (source : Nat) (value : EvaluatedSourceValue)
  | storeActivation (source : Nat) (active : Bool)

def step (plan : CompiledEvaluationPlan) : Operation → CompiledEvaluationPlan × Unit
  | .beginUpdate offsets => (plan.beginUpdate offsets, ())
  | .store source value => ({ plan with workspace := plan.workspace.store source value }, ())
  | .storeActivation source active => (plan.storeActivation source active, ())

/-- A plan from its installation on, in the hands of the evaluators. -/
def machine (plan : CompiledEvaluationPlan) : Machine CompiledEvaluationPlan Operation Unit where
  init := plan
  step := step

end CompiledEvaluationPlan

/-! ### The plan of a universe -/

def propertyRequests (properties : List CompiledPropertyProgram) : List ConsumerRequest :=
  properties.zipIdx.map (fun (program, index) => {
    domain := .property
    index := index
    target :=
      if program.parameter = .pan ∨ program.parameter = .tilt then
        program.property.componentId.toInt
      else
        program.property.renderTargetId.toInt
    sources := program.sources
  })

def colorRequests (targets : List ColorTargetRuntime) : List ConsumerRequest :=
  targets.zipIdx.map (fun (target, index) => {
    domain := .color
    index := index
    target := target.target.beamRenderTargetId.toInt
    sources := target.inputs.map ColorInputRuntime.source
  })

def wheelRequests (wheels : List WheelBindingRuntime) : List ConsumerRequest :=
  wheels.zipIdx.map (fun (wheel, index) => {
    domain := .wheel
    index := index
    target := wheel.binding.beamRenderTargetId.toInt
    sources := [wheel.source]
  })

def layerRequests (domain : EvaluationDomain) (keys : List Int) (layers : Int → List Nat)
    (contexts : List GoboEvaluationContext) : List ConsumerRequest :=
  (sortUnique keys).map (fun key => {
    domain := domain
    target := key
    sources := (layers key).map (fun index => (contexts.getD index {}).front)
    activationDependencies := true
  })

/-- The calls of `add_consumer` that an installation makes for a universe. -/
def UniverseLayout.requests (layout : UniverseLayout) (shutterKeys : List Int)
    : List ConsumerRequest :=
  propertyRequests layout.properties ++ colorRequests layout.colors.targets
    ++ wheelRequests layout.wheels.bindings
    ++ layerRequests .goboSelection
      (layout.gobos.bindings.map (fun gobo => gobo.binding.layer)) layout.gobos.layers
      (layout.gobos.bindings.map GoboBindingRuntime.context)
    ++ layerRequests .goboMotion
      (layout.gobos.motionBindings.map (fun motion => motion.binding.layer))
      layout.gobos.motionLayers (layout.gobos.motionBindings.map GoboMotionRuntime.context)
    ++ layerRequests .shutter shutterKeys layout.shutters.layers
      (layout.shutters.bindings.map ShutterBindingRuntime.context)

end Peraviz.Runtime
