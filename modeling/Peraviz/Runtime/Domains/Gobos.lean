import Peraviz.Runtime.Evaluation.Impl
import Peraviz.Runtime.Rows

/-!
This module contains the gobo domains: which gobo of a wheel is seated, and how it is rotated.
-/

namespace Peraviz.Runtime

structure GoboBindingRuntime where
  binding : CompiledGoboSelectionBinding
  context : GoboEvaluationContext
  deriving DecidableEq

structure GoboMotionRuntime where
  binding : CompiledGoboMotionBinding
  context : GoboEvaluationContext
  deriving DecidableEq

structure GoboSelectionState where
  slotIndex : Int32 := 0
  assetId : Int32 := 0
  contributingBindingId : Int32 := 0
  revision : Int32 := 0
  initialized : Bool := false
  deriving DecidableEq

structure GoboRotationState where
  phaseDegrees : ℚ := 0
  angularVelocityDps : ℚ := 0
  referenceSeconds : ℚ := 0
  posDegrees : ℚ := 0
  posRotateDps : ℚ := 0
  mode : GoboRotationMode := .hold
  revision : Int32 := 0
  posBindingId : Int32 := 0
  posRotateBindingId : Int32 := 0
  posActive : Bool := false
  posRotateActive : Bool := false
  initialized : Bool := false
  deriving DecidableEq

/-- The layers of one universe, each the indices of its bindings in declaration order. -/
structure GoboLayout where
  bindings : List GoboBindingRuntime := []
  layers : Int → List Nat := fun _ => []
  motionBindings : List GoboMotionRuntime := []
  motionLayers : Int → List Nat := fun _ => []

structure GoboHeld where
  selectionStateByLayer : Int → GoboSelectionState := fun _ => {}
  rotationStateByLayer : Int → GoboRotationState := fun _ => {}
  diagnosedAmbiguousSelection : Int → Bool := fun _ => false
  diagnosedAmbiguousPos : Int → Bool := fun _ => false
  diagnosedAmbiguousPosRotate : Int → Bool := fun _ => false
  diagnosedSimultaneousPosRotate : Int → Bool := fun _ => false

/-- A diagnostic that is reported for a key at most once. -/
def reportOnce (diagnosed : Int → Bool) (key : Int) (condition : Bool)
    (diagnostic : CompiledRuntimeDiagnostic) : EvalM (Int → Bool) :=
  if condition && !diagnosed key then do
    report diagnostic
    return Function.update diagnosed key true
  else
    return diagnosed

def activeSet (channelSets : List CompiledWheelChannelSet) (rawValue : UInt32)
    : Option CompiledWheelChannelSet :=
  channelSets.find? (fun set => inRange rawValue set.dmxFrom set.dmxTo)

structure SelectionScan where
  selected : Option (CompiledGoboSelectionBinding × CompiledWheelChannelSet) := none
  activeBindingCount : Nat := 0

def SourceContext.scanGoboBinding (ctx : SourceContext) (bindings : List GoboBindingRuntime)
    (scan : SelectionScan) (index : Nat) : EvalM SelectionScan :=
  match bindings[index]? with
  | none => return scan
  | some runtime => do
    let active ← ctx.evaluateCachedActivation runtime.context
    if !active then
      return scan
    else do
      let value ← ctx.evaluateCachedSource runtime.context.front
      match activeSet runtime.binding.channelSets value.rawValue with
      | none => return scan
      | some set =>
        return {
          selected := scan.selected <|> some (runtime.binding, set)
          activeBindingCount := scan.activeBindingCount + 1
        }

def ambiguousSelection (layerKey : Int) : CompiledRuntimeDiagnostic where
  code := "PVZ-RUNTIME-AMBIGUOUS-GOBO-SELECTION"
  severity := "warning"
  message := "Multiple active gobo selection bindings share one physical layer; parser declaration order is used."
  subject := toString layerKey

def seatGobo (state : GoboSelectionState) (binding : CompiledGoboSelectionBinding)
    (set : CompiledWheelChannelSet) (assetId : Int32) : GoboSelectionState where
  slotIndex := set.wheelSlotIndex
  assetId := assetId
  contributingBindingId := binding.bindingId
  revision := state.revision + 1
  initialized := true

def goboRow (binding : CompiledGoboSelectionBinding) (state : GoboSelectionState) : GoboRow where
  fixtureId := binding.fixtureId
  beamTargetId := binding.beamRenderTargetId
  wheelId := binding.wheelId
  wheelInstanceIndex := binding.wheelInstanceIndex
  slotIndex := state.slotIndex
  assetId := state.assetId
  mode := binding.mode
  revision := state.revision

def SourceContext.updateGoboSelection (ctx : SourceContext) (layout : GoboLayout)
    (goboAsset : Int32 → Int32 → Int32) (update : GoboHeld × List GoboRow) (layerKey : Int)
    : EvalM (GoboHeld × List GoboRow) := do
  let scan ← (layout.layers layerKey).foldlM (ctx.scanGoboBinding layout.bindings) {}
  match scan.selected with
  | none => return update
  | some (binding, set) => do
    let held := update.1
    let diagnosed ← reportOnce held.diagnosedAmbiguousSelection layerKey
      (scan.activeBindingCount > 1) (ambiguousSelection layerKey)
    let held := { held with diagnosedAmbiguousSelection := diagnosed }
    let assetId := goboAsset binding.wheelId set.wheelSlotIndex
    let state := held.selectionStateByLayer layerKey
    if state.initialized && state.slotIndex == set.wheelSlotIndex && state.assetId == assetId then
      return (held, update.2)
    else
      let state := seatGobo state binding set assetId
      return ({ held with
          selectionStateByLayer := Function.update held.selectionStateByLayer layerKey state },
        update.2 ++ [goboRow binding state])

structure EvaluatedGoboScalar where
  bindingId : Int32 := 0
  semanticKind : GoboSemanticKind := .listed .none
  rawValue : UInt32 := 0
  normalizedValue : ℚ := 0
  physicalValue : ℚ := 0
  wheelSlotIndex : Int32 := 0
  physicalUnit : String := ""
  active : Bool := false

def scaleGoboScalar (scalar : EvaluatedGoboScalar) (rawValue scalarFrom scalarTo : UInt32)
    (physicalFrom physicalTo : ℚ) : EvaluatedGoboScalar :=
  let span := scalarTo - scalarFrom
  let normalized := clamp (if span = 0 then 0 else (rawValue - scalarFrom).toNat / span.toNat) 0 1
  { scalar with
    normalizedValue := normalized
    physicalValue := physicalFrom + (physicalTo - physicalFrom) * normalized
    active := true }

def evaluateActiveGoboMotionScalar (binding : CompiledGoboMotionBinding)
    (program : CompiledDmxSourceProgram) (rawValue : UInt32) (active : Bool)
    : EvaluatedGoboScalar :=
  let scalar : EvaluatedGoboScalar := {
    bindingId := binding.bindingId
    semanticKind := binding.semanticKind
    physicalUnit := binding.physicalUnit
  }
  if !binding.scalarEvaluable || !active then
    scalar
  else
    let scalar := { scalar with rawValue := rawValue }
    if binding.semanticKind = .listed .selectSpin ∨ binding.semanticKind = .listed .selectShake then
      match activeSet binding.channelSets rawValue with
      | some set =>
        scaleGoboScalar { scalar with wheelSlotIndex := set.wheelSlotIndex } rawValue set.dmxFrom
          set.dmxTo set.physicalFrom set.physicalTo
      | none =>
        if binding.channelSets.isEmpty then
          scaleGoboScalar scalar rawValue program.dmxFrom program.dmxTo binding.physicalFrom
            binding.physicalTo
        else
          scalar
    else
      scaleGoboScalar scalar rawValue program.dmxFrom program.dmxTo binding.physicalFrom
        binding.physicalTo

structure MotionScan where
  pos : Option (CompiledGoboMotionBinding × ℚ) := none
  rotate : Option (CompiledGoboMotionBinding × ℚ) := none
  activePosCount : Nat := 0
  activeRotateCount : Nat := 0

/-- Of several active bindings of one kind the first counts. -/
def MotionScan.add (scan : MotionScan) (binding : CompiledGoboMotionBinding)
    (evaluated : EvaluatedGoboScalar) : MotionScan :=
  if !evaluated.active then
    scan
  else if binding.semanticKind = .listed .pos then
    { scan with
      activePosCount := scan.activePosCount + 1
      pos := scan.pos <|> some (binding, evaluated.physicalValue) }
  else if binding.semanticKind = .listed .posRotate then
    { scan with
      activeRotateCount := scan.activeRotateCount + 1
      rotate := scan.rotate <|> some (binding, evaluated.physicalValue) }
  else
    scan

def SourceContext.scanGoboMotion (ctx : SourceContext) (bindings : List GoboMotionRuntime)
    (scan : MotionScan) (index : Nat) : EvalM MotionScan :=
  match bindings[index]? with
  | none => return scan
  | some motion => do
    let active ← ctx.evaluateCachedActivation motion.context
    let value ← ctx.evaluateCachedSource motion.context.front
    return scan.add motion.binding (evaluateActiveGoboMotionScalar motion.binding
      (ctx.plan.program motion.context.front) value.rawValue active)

/-- Whether a component of the motion differs from what is held of it. -/
def motionChanged (p : Platform) (wasActive : Bool) (heldBindingId : Int32) (heldValue : ℚ)
    (next : Option (CompiledGoboMotionBinding × ℚ)) : Bool :=
  match next with
  | none => wasActive
  | some (binding, value) =>
    !wasActive || heldBindingId != binding.bindingId
      || !nearlyEqual (p.toFloat heldValue) (p.toFloat value) kAngleEpsilon

def boundId (next : Option (CompiledGoboMotionBinding × ℚ)) : Int32 :=
  next.elim 0 (fun (binding, _) => binding.bindingId)

def boundValue (next : Option (CompiledGoboMotionBinding × ℚ)) (held : ℚ) : ℚ :=
  next.elim held Prod.snd

/-- The mode, the phase and the velocity that the active components ask for. -/
def nextMotion (scan : MotionScan) (posChanged : Bool) (currentPhase : ℚ)
    : GoboRotationMode × ℚ × ℚ :=
  match scan.rotate, scan.pos with
  | some (_, velocity), some (_, degrees) =>
    (.continuous, if posChanged then degrees else currentPhase, velocity)
  | some (_, velocity), none => (.continuous, currentPhase, velocity)
  | none, some (_, degrees) => (.indexed, degrees, 0)
  | none, none => (.hold, currentPhase, 0)

/-- The motion of a layer after its bindings are scanned, and whether a row is due. -/
def stepRotation (p : Platform) (state : GoboRotationState) (scan : MotionScan) (now : ℚ)
    : GoboRotationState × Bool :=
  let elapsed := if state.initialized then max 0 (now - state.referenceSeconds) else 0
  let currentPhase :=
    if state.initialized then state.phaseDegrees + state.angularVelocityDps * elapsed else 0
  let posChanged := motionChanged p state.posActive state.posBindingId state.posDegrees scan.pos
  let rotateChanged := motionChanged p state.posRotateActive state.posRotateBindingId
    state.posRotateDps scan.rotate
  let (nextMode, nextPhase, nextVelocity) := nextMotion scan posChanged currentPhase
  let changed := !state.initialized || state.mode != nextMode || posChanged || rotateChanged
    || !nearlyEqual (p.toFloat state.angularVelocityDps) (p.toFloat nextVelocity) kAngleEpsilon
    || (nextMode == .indexed
      && !nearlyEqual (p.toFloat state.phaseDegrees) (p.toFloat nextPhase) kAngleEpsilon)
  let state := { state with
    posActive := scan.pos.isSome
    posRotateActive := scan.rotate.isSome
    posBindingId := boundId scan.pos
    posRotateBindingId := boundId scan.rotate
    posDegrees := boundValue scan.pos state.posDegrees
    posRotateDps := boundValue scan.rotate state.posRotateDps }
  if changed then
    ({ state with
        phaseDegrees := nextPhase
        angularVelocityDps := nextVelocity
        referenceSeconds := now
        mode := nextMode
        initialized := true
        revision := state.revision + 1 }, true)
  else
    (state, false)

def goboRotationRow (p : Platform) (identity : CompiledGoboMotionBinding)
    (state : GoboRotationState) : GoboRotationRow where
  fixtureId := identity.fixtureId
  beamTargetId := identity.beamRenderTargetId
  wheelId := identity.wheelId
  wheelInstanceIndex := identity.wheelInstanceIndex
  mode := state.mode
  phaseDegrees := p.toFloat state.phaseDegrees
  angularVelocityDps := p.toFloat state.angularVelocityDps
  referenceSeconds := p.toFloat state.referenceSeconds
  revision := state.revision

def ambiguousPos (layerKey : Int) : CompiledRuntimeDiagnostic where
  code := "PVZ-RUNTIME-AMBIGUOUS-GOBO-POS"
  severity := "warning"
  message := "Multiple active Gobo(n)Pos bindings share one physical layer; parser declaration order is used."
  subject := toString layerKey

def ambiguousPosRotate (layerKey : Int) : CompiledRuntimeDiagnostic where
  code := "PVZ-RUNTIME-AMBIGUOUS-GOBO-POSROTATE"
  severity := "warning"
  message := "Multiple active Gobo(n)PosRotate bindings share one physical layer; parser declaration order is used."
  subject := toString layerKey

def simultaneousPosRotate (layerKey : Int) : CompiledRuntimeDiagnostic where
  code := "PVZ-RUNTIME-SIMULTANEOUS-GOBO-POS-POSROTATE"
  severity := "info"
  message := "Simultaneous Pos and PosRotate contribute indexed phase and signed velocity to one physical layer."
  subject := toString layerKey

def reportMotion (held : GoboHeld) (scan : MotionScan) (layerKey : Int) : EvalM GoboHeld := do
  let pos ← reportOnce held.diagnosedAmbiguousPos layerKey (scan.activePosCount > 1)
    (ambiguousPos layerKey)
  let rotate ← reportOnce held.diagnosedAmbiguousPosRotate layerKey (scan.activeRotateCount > 1)
    (ambiguousPosRotate layerKey)
  let simultaneous ← reportOnce held.diagnosedSimultaneousPosRotate layerKey
    (scan.pos.isSome && scan.rotate.isSome) (simultaneousPosRotate layerKey)
  return { held with
    diagnosedAmbiguousPos := pos
    diagnosedAmbiguousPosRotate := rotate
    diagnosedSimultaneousPosRotate := simultaneous }

/-- The binding that names the layer in a row: an active one, else the first. -/
def motionIdentity (bindings : List GoboMotionRuntime) (layer : List Nat) (scan : MotionScan)
    : Option CompiledGoboMotionBinding :=
  (scan.rotate.map Prod.fst <|> scan.pos.map Prod.fst)
    <|> (layer.head?.bind (fun index => bindings[index]?)).map GoboMotionRuntime.binding

def SourceContext.updateGoboMotion (ctx : SourceContext) (layout : GoboLayout) (now : ℚ)
    (update : GoboHeld × List GoboRotationRow) (layerKey : Int)
    : EvalM (GoboHeld × List GoboRotationRow) := do
  let layer := layout.motionLayers layerKey
  let scan ← layer.foldlM (ctx.scanGoboMotion layout.motionBindings) {}
  let held := update.1
  let state := held.rotationStateByLayer layerKey
  if !state.initialized && scan.pos.isNone && scan.rotate.isNone then
    return update
  else do
    let (state, changed) := stepRotation ctx.platform state scan now
    let held := { held with
      rotationStateByLayer := Function.update held.rotationStateByLayer layerKey state }
    if !changed then
      return (held, update.2)
    else do
      let held ← reportMotion held scan layerKey
      let identity := (motionIdentity layout.motionBindings layer scan).getD {}
      return (held, update.2 ++ [goboRotationRow ctx.platform identity state])

def SourceContext.updateGoboSelections (ctx : SourceContext) (layout : GoboLayout)
    (goboAsset : Int32 → Int32 → Int32) (held : GoboHeld) (layerKeys : List Int)
    : EvalM (GoboHeld × List GoboRow) :=
  layerKeys.foldlM (ctx.updateGoboSelection layout goboAsset) (held, [])

def SourceContext.updateGoboMotions (ctx : SourceContext) (layout : GoboLayout) (now : ℚ)
    (held : GoboHeld) (layerKeys : List Int) : EvalM (GoboHeld × List GoboRotationRow) :=
  layerKeys.foldlM (ctx.updateGoboMotion layout now) (held, [])

end Peraviz.Runtime
