import Mathlib.Data.List.Sort
import Mathlib.Logic.Function.Basic
import Peraviz.Runtime.Platform

/-!
This module contains the evaluation of the DMX sources of one universe: the decoding of a source,
the cache of decoded values with its generation stamps, and the evaluators that read through it.
-/

namespace Peraviz.Runtime

/-- The byte of a frame at `offset`, nothing outside of the frame. -/
def frameByte (frame : List UInt8) (offset : Int32) : Option UInt8 :=
  if 0 ≤ offset then frame[offset.toInt.toNat]? else none

structure SourceWarnings where
  byteCount : Bool := false
  missingByte : Bool := false
  deriving DecidableEq

structure EvaluatedSourceValue where
  rawValue : UInt32 := 0
  normalizedValue : ℚ := 0
  physicalValue : ℚ := 0
  activeProgramId : Int32 := 0
  valid : Bool := false
  deriving DecidableEq

structure SourceValueMapping where
  maximum : UInt32 := 255
  inverseMaximum : ℚ := 1 / 255
  span : ℚ := 255
  physicalFrom : ℚ := 0
  physicalTo : ℚ := 1

def maxRawValueForSourceCount (sourceCount : Nat) : UInt32 :=
  (List.range (min sourceCount 4)).foldl (fun maxValue _ => (maxValue <<< 8) ||| 0xff) 0

def sourceValueMapping (program : CompiledDmxSourceProgram) : SourceValueMapping :=
  let maximum := maxRawValueForSourceCount program.sources.length
  {
    maximum := maximum
    inverseMaximum := if 0 < maximum then 1 / maximum.toNat else 0
    span :=
      if program.dmxFrom < program.dmxTo then (program.dmxTo - program.dmxFrom).toNat
      else maximum.toNat
    physicalFrom := program.physicalFrom
    physicalTo := program.physicalTo
  }

def unsupportedByteCount (program : CompiledDmxSourceProgram) : Bool :=
  program.sources.isEmpty || program.sources.length > 4

def shiftByte (rawValue : UInt32) (value : UInt8) : UInt32 := (rawValue <<< 8) ||| value.toUInt32

/-- `read_raw_value` as a worker calls it: what is wrong is noted, but not reported. -/
def readRawValue (frame : List UInt8) (program : CompiledDmxSourceProgram)
    : UInt32 × SourceWarnings :=
  if unsupportedByteCount program then
    (0, { byteCount := true })
  else
    program.sources.foldl (fun (rawValue, warnings) source =>
        match frameByte frame source.address with
        | some value => (shiftByte rawValue value, warnings)
        | none => (shiftByte rawValue 0, { warnings with missingByte := true }))
      (0, {})

/-- The representations of a raw value that its program asks for. -/
def mapRawValue (p : Platform) (program : CompiledDmxSourceProgram) (rawValue : UInt32)
    : EvaluatedSourceValue :=
  let mapping := sourceValueMapping program
  let fullRangeNormalized := rawValue.toNat * mapping.inverseMaximum
  let localValue :=
    if 0 < mapping.span then
      clamp (((rawValue.toNat : ℚ) - program.dmxFrom.toNat) / mapping.span) 0 1
    else
      fullRangeNormalized
  let physical := mapping.physicalFrom + (mapping.physicalTo - mapping.physicalFrom) * localValue
  {
    rawValue := rawValue
    normalizedValue := p.toFloat localValue
    physicalValue := p.toFloat physical
    activeProgramId := program.programId
    valid := true
  }

def evaluateSourceProgram (p : Platform) (frame : List UInt8) (program : CompiledDmxSourceProgram)
    : EvaluatedSourceValue × SourceWarnings :=
  let (rawValue, warnings) := readRawValue frame program
  (mapRawValue p program rawValue, warnings)

/-- Nominated indices, each of them once, visited in ascending order. -/
structure OrderedDirtyIndices where
  indices : List Nat := []

namespace OrderedDirtyIndices

def insert (dirty : OrderedDirtyIndices) (index : Nat) : OrderedDirtyIndices :=
  if index ∈ dirty.indices then dirty else ⟨dirty.indices ++ [index]⟩

def insertAll (dirty : OrderedDirtyIndices) (indices : List Nat) : OrderedDirtyIndices :=
  indices.foldl insert dirty

def visit (dirty : OrderedDirtyIndices) : List Nat :=
  dirty.indices.insertionSort (fun a b => a ≤ b)

end OrderedDirtyIndices

inductive EvaluationDomain where
  | property
  | color
  | wheel
  | goboSelection
  | goboMotion
  | shutter
  deriving DecidableEq

/-- A consumer and the sources that have it in their adjacency. -/
structure EvaluationConsumer where
  domain : EvaluationDomain := .property
  index : Nat := 0
  target : Int := 0
  reaches : List Nat := []
  deriving DecidableEq

structure EvaluationPlan where
  programs : List CompiledDmxSourceProgram := []
  consumers : List EvaluationConsumer := []
  deriving DecidableEq

namespace EvaluationPlan

def program (plan : EvaluationPlan) (source : Nat) : CompiledDmxSourceProgram :=
  plan.programs.getD source {}

def consumer (plan : EvaluationPlan) (index : Nat) : EvaluationConsumer :=
  plan.consumers.getD index {}

/-- The adjacency of a source, in the order `finish_install` leaves it in. -/
def consumersOf (plan : EvaluationPlan) (source : Nat) : List Nat :=
  (List.range plan.consumers.length).filter (fun c => source ∈ (plan.consumer c).reaches)

def readsOffset (program : CompiledDmxSourceProgram) (offset : Int32) : Bool :=
  program.sources.any (fun source => source.address == offset)

/-- The sources that read a slot of the universe. -/
def sourcesAt (plan : EvaluationPlan) (offset : Int32) : List Nat :=
  if 0 ≤ offset ∧ offset < 512 then
    (List.range plan.programs.length).filter (fun source => readsOffset (plan.program source) offset)
  else
    []

end EvaluationPlan

structure EvaluationWorkspace where
  values : Nat → EvaluatedSourceValue := fun _ => {}
  invalid : Nat → Bool := fun _ => true
  changed : Nat → UInt64 := fun _ => 0
  activationGenerations : Nat → UInt64 := fun _ => 0
  activations : Nat → Bool := fun _ => false
  changedSources : List Nat := []
  consumers : OrderedDirtyIndices := {}
  generation : UInt64 := 0

namespace EvaluationWorkspace

def sourceChanged (w : EvaluationWorkspace) (source : Nat) : Bool :=
  w.changed source == w.generation

def activationCached (w : EvaluationWorkspace) (source : Nat) : Bool :=
  w.activationGenerations source == w.generation

def store (w : EvaluationWorkspace) (source : Nat) (value : EvaluatedSourceValue)
    : EvaluationWorkspace :=
  { w with
    values := Function.update w.values source value
    invalid := Function.update w.invalid source false }

def storeActivation (w : EvaluationWorkspace) (source : Nat) (active : Bool)
    : EvaluationWorkspace :=
  { w with
    activations := Function.update w.activations source active
    activationGenerations := Function.update w.activationGenerations source w.generation }

/-- The next generation, every stamp is reset where the counter wraps. -/
def nextGeneration (w : EvaluationWorkspace) : EvaluationWorkspace :=
  if w.generation + 1 = 0 then
    { w with
      consumers := {}
      changedSources := []
      changed := fun _ => 0
      activationGenerations := fun _ => 0
      generation := 1 }
  else
    { w with consumers := {}, changedSources := [], generation := w.generation + 1 }

def markSource (plan : EvaluationPlan) (w : EvaluationWorkspace) (source : Nat)
    : EvaluationWorkspace :=
  if w.sourceChanged source then
    w
  else
    { w with
      changed := Function.update w.changed source w.generation
      invalid := Function.update w.invalid source true
      changedSources := w.changedSources ++ [source]
      consumers := w.consumers.insertAll (plan.consumersOf source) }

def beginUpdate (plan : EvaluationPlan) (w : EvaluationWorkspace) (offsets : List Int32)
    : EvaluationWorkspace :=
  (offsets.flatMap plan.sourcesAt).foldl (markSource plan) w.nextGeneration

end EvaluationWorkspace

/-- What the evaluators of a universe change: its cache, and what is reported once a program. -/
structure EvaluationState where
  workspace : EvaluationWorkspace := {}
  prefetchedWarnings : Nat → SourceWarnings := fun _ => {}
  diagnosed : Int32 → SourceWarnings := fun _ => {}
  diagnostics : List CompiledRuntimeDiagnostic := []

namespace EvaluationState

def report (s : EvaluationState) (diagnostic : CompiledRuntimeDiagnostic) : EvaluationState :=
  { s with diagnostics := s.diagnostics ++ [diagnostic] }

def reportByteCount (program : CompiledDmxSourceProgram) (s : EvaluationState) : EvaluationState :=
  if (s.diagnosed program.programId).byteCount then
    s
  else
    {
      s.report {
        code := "PVZ-RUNTIME-UNSUPPORTED-BYTE-COUNT"
        severity := "warning"
        message := "Compiled DMX source byte count must be between one and four."
        subject := toString program.programId
      } with
      diagnosed := Function.update s.diagnosed program.programId
        { s.diagnosed program.programId with byteCount := true }
    }

def reportMissingByte (program : CompiledDmxSourceProgram) (s : EvaluationState)
    : EvaluationState :=
  if (s.diagnosed program.programId).missingByte then
    s
  else
    {
      s.report {
        code := "PVZ-RUNTIME-INVALID-BYTE"
        severity := "warning"
        message := "Compiled DMX byte address is outside the submitted frame."
        subject := toString program.programId
      } with
      diagnosed := Function.update s.diagnosed program.programId
        { s.diagnosed program.programId with missingByte := true }
    }

def emitSourceWarnings (program : CompiledDmxSourceProgram) (warnings : SourceWarnings)
    (s : EvaluationState) : EvaluationState :=
  let s := if warnings.byteCount then s.reportByteCount program else s
  if warnings.missingByte then s.reportMissingByte program else s

/-- `read_raw_value` as the coordinator calls it: what is wrong is reported while it reads. -/
def readReporting (frame : List UInt8) (program : CompiledDmxSourceProgram) (s : EvaluationState)
    : UInt32 × EvaluationState :=
  if unsupportedByteCount program then
    (0, s.reportByteCount program)
  else
    program.sources.foldl (fun (rawValue, s) source =>
        match frameByte frame source.address with
        | some value => (shiftByte rawValue value, s)
        | none => (shiftByte rawValue 0, s.reportMissingByte program))
      (0, s)

def storeSource (s : EvaluationState) (source : Nat) (value : EvaluatedSourceValue)
    (warnings : SourceWarnings) : EvaluationState :=
  { s with
    workspace := s.workspace.store source value
    prefetchedWarnings := Function.update s.prefetchedWarnings source warnings }

def clearWarnings (s : EvaluationState) (source : Nat) : EvaluationState :=
  { s with prefetchedWarnings := Function.update s.prefetchedWarnings source {} }

end EvaluationState

abbrev EvalM := StateM EvaluationState

/-- The frame of a universe and the programs its sources are indices of. -/
structure SourceContext where
  platform : Platform
  frame : List UInt8
  plan : EvaluationPlan

namespace SourceContext

def value (ctx : SourceContext) (source : Nat) : EvaluatedSourceValue :=
  (evaluateSourceProgram ctx.platform ctx.frame (ctx.plan.program source)).1

def warnings (ctx : SourceContext) (source : Nat) : SourceWarnings :=
  (evaluateSourceProgram ctx.platform ctx.frame (ctx.plan.program source)).2

/-- The branch of `evaluate_cached_source` that decodes. -/
def decodeSource (ctx : SourceContext) (source : Nat) (s : EvaluationState) : EvaluationState :=
  let program := ctx.plan.program source
  let (rawValue, s) := s.readReporting ctx.frame program
  s.storeSource source (mapRawValue ctx.platform program rawValue) {}

/-- What a worker has noted of a source is reported at the first use of the source. -/
def flushWarnings (ctx : SourceContext) (source : Nat) (s : EvaluationState) : EvaluationState :=
  if s.prefetchedWarnings source = {} then
    s
  else
    (s.emitSourceWarnings (ctx.plan.program source) (s.prefetchedWarnings source)).clearWarnings
      source

def evaluateCachedSource (ctx : SourceContext) (source : Nat) : EvalM EvaluatedSourceValue :=
  fun s =>
    let s := if s.workspace.invalid source then ctx.decodeSource source s else s
    let s := ctx.flushWarnings source s
    (s.workspace.values source, s)

end SourceContext

def report (diagnostic : CompiledRuntimeDiagnostic) : EvalM Unit :=
  fun s => ((), s.report diagnostic)

structure GoboSourceValue where
  sourceProgramId : Int32 := 0
  rawValue : UInt32 := 0
  deriving DecidableEq

/-- A source program with the masters its activation depends on, the program itself is first. -/
structure GoboEvaluationContext where
  dependencyProgramIds : List Int32 := []
  programs : List CompiledDmxSourceProgram := []
  sources : List Nat := []
  deriving DecidableEq

def GoboEvaluationContext.front (context : GoboEvaluationContext) : Nat :=
  context.sources.headD 0

def inRange (value low high : UInt32) : Bool := low ≤ value && value ≤ high

/-- The depth bound of the source counts up to the number of programs, the fuel counts down. -/
def activationIsActive (programs : List CompiledDmxSourceProgram) (values : List GoboSourceValue)
    : Nat → CompiledDmxSourceProgram → Bool
  | 0, _ => false
  | fuel + 1, program =>
    match values.find? (fun value => value.sourceProgramId == program.programId) with
    | none => false
    | some ownValue =>
      if !inRange ownValue.rawValue program.dmxFrom program.dmxTo then
        false
      else if !program.activation.valid || program.activation.targetKind = .listed .invalid then
        false
      else if program.activation.targetKind = .listed .none then
        true
      else
        match programs.find? (fun master =>
            master.programId == program.activation.masterProgramId) with
        | none => false
        | some master =>
          match values.find? (fun value => value.sourceProgramId == master.programId) with
          | none => false
          | some masterValue =>
            if !inRange masterValue.rawValue program.activation.fromValue
                program.activation.toValue then
              false
            else if program.activation.targetKind = .listed .channelFunction then
              activationIsActive programs values fuel master
            else
              true

def evaluateGoboSourceActivation (sourceProgramId : Int32)
    (programs : List CompiledDmxSourceProgram) (values : List GoboSourceValue) : Bool :=
  match programs.find? (fun program => program.programId == sourceProgramId) with
  | none => false
  | some program => activationIsActive programs values (programs.length + 1) program

namespace SourceContext

def fillGoboContext (ctx : SourceContext) (context : GoboEvaluationContext)
    : EvalM (List GoboSourceValue) :=
  (context.dependencyProgramIds.zip context.sources).foldlM (fun values entry => do
    let value ← ctx.evaluateCachedSource entry.2
    return values ++ [⟨entry.1, value.rawValue⟩]) []

def evaluateActivation (ctx : SourceContext) (context : GoboEvaluationContext) : EvalM Bool := do
  let values ← ctx.fillGoboContext context
  let active := evaluateGoboSourceActivation (context.dependencyProgramIds.headD 0)
    context.programs values
  modify (fun s =>
    { s with workspace := s.workspace.storeActivation context.front active })
  return active

def evaluateCachedActivation (ctx : SourceContext) (context : GoboEvaluationContext) : EvalM Bool :=
  fun s =>
    if s.workspace.activationCached context.front then
      (s.workspace.activations context.front, s)
    else
      ctx.evaluateActivation context s

end SourceContext

end Peraviz.Runtime
