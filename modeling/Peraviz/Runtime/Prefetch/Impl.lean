import Peraviz.KeyedLog.Basic
import Peraviz.Runtime.Core.Impl
import Peraviz.Runtime.WorkerPool.Impl

/-!
This module contains the prefetch of a consume: the inputs of all universes are discovered in front
of the loop over the universes, workers evaluate sources and colors into slots, and the loop takes
from the slots what was evaluated for it.
-/

namespace Peraviz.Runtime

/-- A job borrows its universe as it is while the workers run. -/
structure PrefetchJob where
  owner : Universe
  index : Nat

def PrefetchJob.key (job : PrefetchJob) : Int32 × Nat := (job.owner.layout.universeId, job.index)

/-- The calls that evaluate the jobs of a consume, in the order in which they come about. -/
structure WorkerCalls where
  sources : List NativeWorkerPool.FunctionCall
  colors : List NativeWorkerPool.FunctionCall

structure ParallelEvaluationPrefetch where
  sourceSlots : Int32 × Nat → SourceSlot := fun _ => {}
  colorSlots : Int32 × Nat → ColorSlot := fun _ => {}
  inputsPrepared : Int32 → Bool := fun _ => false
  generation : UInt64 := 0
  prepared : Bool := false

namespace ParallelEvaluationPrefetch

/-- Whether no wheel lies over a color target. -/
def noWheels (core : Core) (key : Int32 × Nat) : Bool :=
  let u := core.universes.find? (fun u => u.layout.universeId == key.1)
  let target := u.bind (fun u => u.layout.colors.targets[key.2]?)
  target.any (fun target => (core.definitions.wheelLayers target.target.beamRenderTargetId).isEmpty)

/-- The constructor, on the scene that is installed. -/
def ofCore (core : Core) : ParallelEvaluationPrefetch where
  colorSlots := fun key => { noWheels := noWheels core key }

/-- The slots of one universe, once the workers are through. -/
def slotsOf (prefetch : ParallelEvaluationPrefetch) (universeId : Int32) : Option PreparedSlots :=
  if prefetch.prepared then
    some {
      generation := prefetch.generation
      slots := {
        sourceSlots := fun source => prefetch.sourceSlots (universeId, source)
        colorSlots := fun target => prefetch.colorSlots (universeId, target)
      }
    }
  else
    none

def nextGeneration (prefetch : ParallelEvaluationPrefetch) : ParallelEvaluationPrefetch :=
  if prefetch.generation + 1 = 0 then
    { prefetch with
      sourceSlots := fun key => { prefetch.sourceSlots key with generation := 0 }
      colorSlots := fun key => { prefetch.colorSlots key with generation := 0 }
      generation := 1 }
  else
    { prefetch with generation := prefetch.generation + 1 }

/-! ### The workers -/

def evaluateSource (p : Platform) (generation : UInt64) (job : PrefetchJob) (_ : SourceSlot)
    : SourceSlot :=
  let evaluated := evaluateSourceProgram p job.owner.state.latestFrame
    (job.owner.layout.plan.program job.index)
  {
    value := evaluated.1
    generation := generation
    warnings := evaluated.2
  }

/-- The value of an input, as it is held where its source was not evaluated. -/
def preparedInput (prefetch : ParallelEvaluationPrefetch) (universeId : Int32)
    (state : ColorInputState) (input : ColorInputRuntime) : ℚ :=
  let source := prefetch.sourceSlots (universeId, input.source)
  if source.generation = prefetch.generation then
    colorValueFromEvaluation input.binding.semantic source.value
  else
    state.value

def evaluateColor (p : Platform) (core : Core) (prefetch : ParallelEvaluationPrefetch)
    (job : PrefetchJob) (slot : ColorSlot) : ColorSlot :=
  match job.owner.layout.colors.targets[job.index]? with
  | none => slot
  | some target =>
    let inputs := job.owner.state.colorInputs job.index
    let values := target.inputs.zipIdx.map (fun entry =>
      prefetch.preparedInput job.owner.layout.universeId (inputs entry.2) entry.1)
    let changed := (List.range target.inputs.length).any (fun i =>
      !(inputs i).initialized || !nearlyEqual (inputs i).value (values.getD i 0) kDefaultEpsilon)
    let slot := { slot with
      values := fun i => values.getD i (slot.values i)
      changed := changed
      generation := prefetch.generation }
    if changed then
      let cooked := cookEmitterColor p core.definitions.resources target.target
        ((target.inputs.map ColorInputRuntime.binding).zip values)
      let slot := { slot with cooked := cooked }
      if slot.noWheels then
        { slot with
          final := composeOrderedTargetColor p cooked
            ((core.definitions.wheelLayers target.target.beamRenderTargetId).map
              core.held.wheels) }
      else
        slot
    else
      slot

/-! ### The preparation -/

def prepareUniverse (u : Universe) : Universe :=
  if u.state.hasPendingFrame then
    { u with
      state := beginUniverseUpdate u.layout.plan
        (discoverOffsets u.layout.interestOffsets u.state) }
  else
    u

def sourceJobs (us : List Universe) : List PrefetchJob :=
  (us.filter (fun u => u.state.hasPendingFrame)).flatMap (fun u =>
    (u.state.workspace.changedSources.filter (fun source =>
      !(u.layout.plan.consumersOf source).isEmpty)).map (PrefetchJob.mk u))

def colorJobs (us : List Universe) : List PrefetchJob :=
  (us.filter (fun u => u.state.hasPendingFrame)).flatMap (fun u =>
    (indicesIn .color (u.state.workspace.consumers.visit.map u.layout.plan.consumer)).map
      (PrefetchJob.mk u))

/-- The jobs that the calls evaluate, each call those of its range. -/
def jobsOf (calls : List NativeWorkerPool.FunctionCall) (jobs : List PrefetchJob)
    : List PrefetchJob :=
  calls.flatMap (fun call => (jobs.take call.last).drop call.first)

/-- The workers evaluate all sources before the first color. -/
def runWorkers (p : Platform) (core : Core) (calls : WorkerCalls)
    (prefetch : ParallelEvaluationPrefetch) : ParallelEvaluationPrefetch :=
  let sources := jobsOf calls.sources (sourceJobs core.universes)
  let evaluated := { prefetch with
    sourceSlots := KeyedLog.revise PrefetchJob.key (evaluateSource p prefetch.generation)
      prefetch.sourceSlots sources }
  let colors := jobsOf calls.colors (colorJobs core.universes)
  { evaluated with
    colorSlots := KeyedLog.revise PrefetchJob.key (evaluateColor p core evaluated)
      evaluated.colorSlots colors
    prepared := true }

/-- Without calls the consume evaluates serially, on the inputs that are discovered here. -/
def prepare (p : Platform) (core : Core) (calls : Option WorkerCalls)
    (prefetch : ParallelEvaluationPrefetch) : Core × ParallelEvaluationPrefetch :=
  let prefetch := { prefetch.nextGeneration with
    inputsPrepared := fun universeId => core.universes.any (fun u =>
      u.layout.universeId == universeId && u.state.hasPendingFrame)
    prepared := false }
  let core := { core with universes := core.universes.map prepareUniverse }
  (core, calls.elim prefetch (fun calls => prefetch.runWorkers p core calls))

/-- One iteration of the loop over the universes, with the inputs that are prepared ahead. -/
def consumeUniverse (p : Platform) (d : Definitions) (prefetch : ParallelEvaluationPrefetch)
    (now : ℚ) (c : ConsumeState) (u : Universe) : ConsumeState × Universe :=
  if !u.state.hasPendingFrame then
    (c, u)
  else
    let inputsPrepared := prefetch.inputsPrepared u.layout.universeId
    let s := { u.state with hasPendingFrame := false }
    let s := if inputsPrepared then s else discoverOffsets u.layout.interestOffsets s
    if s.changedOffsets.isEmpty then
      (c, { u with state := s })
    else
      let s := if inputsPrepared then s else beginUniverseUpdate u.layout.plan s
      runDomains p d (prefetch.slotsOf u.layout.universeId) now c { u with state := s }

end ParallelEvaluationPrefetch

/-! ### The runtime with an executor -/

structure PrefetchedCore where
  core : Core
  prefetch : Option ParallelEvaluationPrefetch := none

inductive PrefetchedOperation where
  | submit (universeId : Int32) (data : List UInt8)
  | setNativeExecutor (attached : Bool)
  | consume (now : ℚ) (calls : Option WorkerCalls)

namespace PrefetchedCore

def consume (p : Platform) (s : PrefetchedCore) (now : ℚ) (calls : Option WorkerCalls)
    : PrefetchedCore × SectionedVisualFrame :=
  match s.prefetch with
  | none =>
    let (core, frame) := consumeLatestVisualFrame p s.core now
    ({ s with core := core }, frame)
  | some prefetch =>
    let (core, prefetch) := prefetch.prepare p s.core calls
    let (core, frame) := core.finish (updateAll (prefetch.consumeUniverse p core.definitions now)
      core.consumeState core.universes)
    (⟨core, some prefetch⟩, frame)

def step (p : Platform) (s : PrefetchedCore)
    : PrefetchedOperation → PrefetchedCore × Option SectionedVisualFrame
  | .submit universeId data => ({ s with core := submitUniverseFrame s.core universeId data }, none)
  | .setNativeExecutor attached =>
    ({ s with prefetch := if attached then some (.ofCore s.core) else none }, none)
  | .consume now calls =>
    let (s, frame) := s.consume p now calls
    (s, some frame)

end PrefetchedCore

def prefetchedRuntime (p : Platform) (core : Core)
    : Machine PrefetchedCore PrefetchedOperation (Option SectionedVisualFrame) where
  init := { core := core }
  step := PrefetchedCore.step p

/-- The operation of a runtime without an executor. -/
def PrefetchedOperation.serial : PrefetchedOperation → Option Operation
  | .submit universeId data => some (.submit universeId data)
  | .setNativeExecutor _ => none
  | .consume now _ => some (.consume now)

end Peraviz.Runtime
