import Peraviz.Runtime.Evaluation.Impl
import Peraviz.Runtime.Frame.Impl

/-!
This module contains the shutter domain: the parameters that the active functions of a control
authority select, and the rows that are put out when they change.
-/

namespace Peraviz.Runtime

structure ShutterParameters where
  wave : ShutterWave := .listed .open
  functionId : Int32 := 0
  revision : Int32 := 0
  status : Int32 := 0
  frequency : ℚ := 0
  duration : ℚ := 25 / 1000
  duty : ℚ := 1
  offset : ℚ := 1
  phase : ℚ := 0
  reference : ℚ := 0
  activation : Int32 := 0
  seed : UInt32 := 0
  deriving DecidableEq

structure ShutterBindingRuntime where
  binding : CompiledShutterBinding
  context : GoboEvaluationContext
  deriving DecidableEq

structure ShutterAuthorityState where
  fixtureId : Int32 := 0
  index : Int32 := 1
  seed : UInt32 := 0
  diagnosed : Bool := false
  targets : List Int32 := []
  parameters : ShutterParameters := {}
  deriving DecidableEq

structure ShutterLayout where
  bindings : List ShutterBindingRuntime := []
  layers : Int → List Nat := fun _ => []

structure ShutterHeld where
  authorities : Int32 → ShutterAuthorityState := fun _ => {}
  unsupportedFixtures : Int32 → Bool := fun _ => false

def shutterFraction (value : ℚ) : ℚ := value - value.floor

def shutterRandom (wave : ShutterWave) : Bool :=
  (9 : Int32) ≤ wave.toUnderlying && wave.toUnderlying ≤ 12

def shutterPeriodic (wave : ShutterWave) : Bool :=
  ((2 : Int32) ≤ wave.toUnderlying && wave.toUnderlying ≤ 5) || shutterRandom wave

/-- The held parameters after an update, nothing if the effective state is the one held. -/
def updateShutter (held next : ShutterParameters) (now : ℚ) : Option ShutterParameters :=
  if held.revision ≠ 0 ∧ held.functionId = next.functionId ∧ held.wave = next.wave
      ∧ held.frequency = next.frequency ∧ held.duration = next.duration ∧ held.duty = next.duty
      ∧ held.offset = next.offset ∧ held.status = next.status then
    none
  else
    let continuing := held.revision ≠ 0 ∧ held.functionId = next.functionId
      ∧ held.wave = next.wave
    let accumulated := held.phase + max (now - held.reference) 0 * held.frequency
    some { next with
      phase :=
        if continuing then
          (if shutterRandom next.wave then accumulated else shutterFraction accumulated)
        else
          0
      activation := if continuing then held.activation else held.revision + 1
      reference := now
      revision := held.revision + 1 }

def shutterRow (p : Platform) (fixture target index : Int32) (parameters : ShutterParameters)
    (now : ℚ) (authority : Int32) : SectionRow where
  integers := [fixture, target, index, parameters.wave.toUnderlying, parameters.revision,
    parameters.status, parameters.functionId, parameters.activation, authority,
    parameters.seed.toInt32]
  floats := [p.toFloat parameters.frequency, p.toFloat parameters.duration,
    p.toFloat parameters.duty, p.toFloat parameters.offset, p.toFloat parameters.phase,
    p.toFloat parameters.reference, p.toFloat now]

/-- The last descriptor with one more row, if it is that of the shutter section. -/
def bumpShutterDescriptor (descriptors : List Int32) : Option (List Int32) :=
  let count := descriptors.length
  if 5 ≤ count ∧ descriptors.getD (count - 5) 0 = VisualSectionType.shutterState.toInt32 then
    some (descriptors.set (count - 4) (descriptors.getD (count - 4) 0 + 1))
  else
    none

def appendShutterRow (frame : SectionedVisualFrame) (row : SectionRow) : SectionedVisualFrame :=
  let intOffset := Int32.ofNat frame.integers.length
  let floatOffset := Int32.ofNat frame.floats.length
  let frame := { frame with
    integers := frame.integers ++ row.integers
    floats := frame.floats ++ row.floats }
  match bumpShutterDescriptor frame.descriptors with
  | some descriptors => { frame with descriptors := descriptors }
  | none => appendDescriptor frame .shutterState 1 intOffset floatOffset

/-- The local variables of the loop over the functions of one authority. -/
structure ShutterScan where
  next : ShutterParameters := {}
  active : Nat := 0
  durations : Nat := 0
  duration : ℚ := 25 / 1000

def ShutterScan.add (scan : ShutterScan) (binding : CompiledShutterBinding) (rawValue : UInt32)
    : ShutterScan :=
  let localValue : ℚ :=
    if binding.dmxFrom < binding.dmxTo then
      (rawValue - binding.dmxFrom).toNat / (binding.dmxTo - binding.dmxFrom).toNat
    else
      0
  let physical := binding.physicalFrom + localValue * (binding.physicalTo - binding.physicalFrom)
  if binding.wave = .listed .duration then
    { scan with duration := physical, durations := scan.durations + 1 }
  else
    { scan with
      active := scan.active + 1
      next := { scan.next with
        wave := binding.wave
        functionId :=
          if binding.activationFunctionId ≠ 0 then binding.activationFunctionId
          else binding.sourceProgramId
        frequency := if shutterPeriodic binding.wave then physical else 0
        duration := binding.duration
        duty := binding.duty
        offset := binding.offset
        status := binding.status } }

/-- Whether the mode range of a binding, if it has one, holds the value of its master. -/
def SourceContext.shutterModeAllows (ctx : SourceContext) (runtime : ShutterBindingRuntime)
    : EvalM Bool :=
  if runtime.binding.modeFrom = 0 ∧ runtime.binding.modeTo = 4294967295 then
    return true
  else
    match runtime.context.sources[1]? with
    | none => return false
    | some source => do
      let mode ← ctx.evaluateCachedSource source
      return inRange mode.rawValue runtime.binding.modeFrom runtime.binding.modeTo

def SourceContext.scanShutter (ctx : SourceContext) (bindings : List ShutterBindingRuntime)
    (scan : ShutterScan) (index : Nat) : EvalM ShutterScan :=
  match bindings[index]? with
  | none => return scan
  | some runtime => do
    let value ← ctx.evaluateCachedSource runtime.context.front
    let active ← ctx.evaluateCachedActivation runtime.context
    if !active || !inRange value.rawValue runtime.binding.dmxFrom runtime.binding.dmxTo then
      return scan
    else do
      let allowed ← ctx.shutterModeAllows runtime
      return if allowed then scan.add runtime.binding value.rawValue else scan

/-- Every scalar is finite here, what remains of the guard is the count and the signs. -/
def ShutterScan.unsupported (scan : ShutterScan) (next : ShutterParameters) : Bool :=
  scan.active > 1 || scan.durations > 1 || next.duration < 0
    || (shutterPeriodic next.wave && next.frequency < 0)

def shutterUnsupported (fixtureId : Int32) : CompiledRuntimeDiagnostic where
  code := "PVZ-SHUTTER-STATE-UNSUPPORTED"
  severity := "warning"
  message := "Ambiguous/invalid shutter state remains open; no periodic approximation is inferred."
  subject := toString fixtureId

/-- The parameters that a scan selects for an authority, if they are supported. -/
def ShutterScan.candidate (scan : ShutterScan) (seed : UInt32) : ShutterParameters :=
  { scan.next with
    seed := seed
    duration := if scan.durations ≠ 0 then scan.duration else scan.next.duration }

def ShutterParameters.remainOpen (parameters : ShutterParameters) : ShutterParameters :=
  { parameters with
    wave := .listed .unsupported
    status := 2
    frequency := 0
    duration := 25 / 1000
    duty := 1
    offset := 1 }

/-- An unsupported state is reported once for a fixture. -/
def reportShutter (held : ShutterHeld) (authority : ShutterAuthorityState) (unsupported : Bool)
    : EvalM (Int32 → Bool) :=
  if unsupported && !authority.diagnosed && !held.unsupportedFixtures authority.fixtureId then do
    report (shutterUnsupported authority.fixtureId)
    return Function.update held.unsupportedFixtures authority.fixtureId true
  else
    return held.unsupportedFixtures

def shutterRows (p : Platform) (authority : ShutterAuthorityState)
    (parameters : ShutterParameters) (now : ℚ) (key : Int32) : List SectionRow :=
  authority.targets.map (fun target =>
    shutterRow p authority.fixtureId target authority.index parameters now key)

def SourceContext.updateShutterAuthority (ctx : SourceContext) (layout : ShutterLayout) (now : ℚ)
    (update : ShutterHeld × SectionedVisualFrame) (key : Int)
    : EvalM (ShutterHeld × SectionedVisualFrame) := do
  let held := update.1
  let id := Int32.ofInt key
  let authority := held.authorities id
  let scan ← (layout.layers key).foldlM (ctx.scanShutter layout.bindings) {}
  let candidate := scan.candidate authority.seed
  let unsupported := scan.unsupported candidate
  let next := if unsupported then candidate.remainOpen else candidate
  let unsupportedFixtures ← reportShutter held authority unsupported
  let authority := { authority with diagnosed := authority.diagnosed || next.status = 2 }
  let held := { held with unsupportedFixtures := unsupportedFixtures }
  match updateShutter authority.parameters next now with
  | none =>
    return ({ held with authorities := Function.update held.authorities id authority }, update.2)
  | some parameters =>
    return ({ held with
        authorities := Function.update held.authorities id
          { authority with parameters := parameters } },
      (shutterRows ctx.platform authority parameters now id).foldl appendShutterRow update.2)

def SourceContext.evaluateShutters (ctx : SourceContext) (layout : ShutterLayout) (now : ℚ)
    (held : ShutterHeld) (frame : SectionedVisualFrame) (keys : List Int)
    : EvalM (ShutterHeld × SectionedVisualFrame) :=
  keys.foldlM (ctx.updateShutterAuthority layout now) (held, frame)

end Peraviz.Runtime
