import Peraviz.Runtime.Evaluation.Impl
import Peraviz.Runtime.Domains.Wheels

/-!
This module contains the color domain: the inputs of the color targets, the color they cook to and
the composition of that color with the layers of the wheels. A worker may have computed parts of it
ahead, what it has computed is found in slots.
-/

namespace Peraviz.Runtime

structure ColorInputRuntime where
  binding : CompiledColorInputBinding
  source : Nat
  deriving DecidableEq

structure ColorTargetRuntime where
  target : CompiledColorTargetProgram
  inputs : List ColorInputRuntime
  deriving DecidableEq

structure ColorInputState where
  value : ℚ := 0
  initialized : Bool := false
  deriving DecidableEq

/-- The state of the inputs, by the index of the target and the index of the input. -/
abbrev ColorInputs := Nat → Nat → ColorInputState

def ColorInputs.set (inputs : ColorInputs) (target input : Nat) (state : ColorInputState)
    : ColorInputs :=
  Function.update inputs target (Function.update (inputs target) input state)

structure SourceSlot where
  value : EvaluatedSourceValue := {}
  generation : UInt64 := 0
  warnings : SourceWarnings := {}
  deriving DecidableEq

structure ColorSlot where
  values : Nat → ℚ := fun _ => 0
  cooked : CookedEmitterColor := {}
  final : CookedEmitterColor := {}
  generation : UInt64 := 0
  changed : Bool := false
  noWheels : Bool := false

structure PrefetchUniverse where
  sourceSlots : Nat → SourceSlot := fun _ => {}
  colorSlots : Nat → ColorSlot := fun _ => {}

/-- The slots of a universe once its prefetch is prepared. -/
structure PreparedSlots where
  generation : UInt64
  slots : PrefetchUniverse

namespace PreparedSlots

def source? (prepared : PreparedSlots) (source : Nat) : Option SourceSlot :=
  let slot := prepared.slots.sourceSlots source
  if slot.generation = prepared.generation then some slot else none

def color? (prepared : PreparedSlots) (target : Nat) : Option ColorSlot :=
  let slot := prepared.slots.colorSlots target
  if slot.generation = prepared.generation then some slot else none

end PreparedSlots

def unitPhysical : CompiledSemantic → Bool
  | .listed .colorAddRed => true
  | .listed .colorAddGreen => true
  | .listed .colorAddBlue => true
  | .listed .colorAddWhite => true
  | .listed .colorAddAmber => true
  | .listed .colorAddLime => true
  | .listed .cieX => true
  | .listed .cieY => true
  | .listed .cieBrightness => true
  | .listed .tint => true
  | _ => false

def colorTemperature : CompiledSemantic → Bool
  | .listed .cto => true
  | .listed .ctb => true
  | .listed .ctc => true
  | _ => false

def colorValueFromEvaluation (semantic : CompiledSemantic) (evaluated : EvaluatedSourceValue)
    : ℚ :=
  if unitPhysical semantic && -1 ≤ evaluated.physicalValue && evaluated.physicalValue ≤ 1 then
    evaluated.physicalValue
  else if colorTemperature semantic && 0 < evaluated.physicalValue then
    evaluated.physicalValue
  else
    clamp evaluated.normalizedValue 0 1

def sourceChanged (source : Nat) : EvalM Bool :=
  fun s => (s.workspace.sourceChanged source, s)

def skipInput (state : ColorInputState) (source : Nat) : EvalM Bool := do
  let changed ← sourceChanged source
  return state.initialized && !changed

def SourceContext.updateColorInput (ctx : SourceContext) (target : Nat)
    (update : ColorInputs × Bool) (entry : ColorInputRuntime × Nat) : EvalM (ColorInputs × Bool) :=
  do
  let (input, index) := entry
  let state := update.1 target index
  let skip ← skipInput state input.source
  if skip then
    return update
  else do
    let evaluated ← ctx.evaluateCachedSource input.source
    if !evaluated.valid then
      return update
    else
      let next := colorValueFromEvaluation input.binding.semantic evaluated
      return (update.1.set target index ⟨next, true⟩,
        update.2 || !state.initialized || !nearlyEqual state.value next kDefaultEpsilon)

/-- The serial evaluation of the inputs of a target, and whether one of them has changed. -/
def SourceContext.updateColorInputs (ctx : SourceContext) (inputs : ColorInputs) (index : Nat)
    (target : ColorTargetRuntime) : EvalM (ColorInputs × Bool) :=
  target.inputs.zipIdx.foldlM (ctx.updateColorInput index) (inputs, false)

def SourceContext.commitColorInput (ctx : SourceContext) (slot : ColorSlot) (target : Nat)
    (inputs : ColorInputs) (entry : ColorInputRuntime × Nat) : EvalM ColorInputs := do
  let (input, index) := entry
  let skip ← skipInput (inputs target index) input.source
  if skip then
    return inputs
  else do
    modify (ctx.flushWarnings input.source)
    return inputs.set target index ⟨slot.values index, true⟩

def SourceContext.commitColorInputs (ctx : SourceContext) (slot : ColorSlot) (inputs : ColorInputs)
    (index : Nat) (target : ColorTargetRuntime) : EvalM ColorInputs :=
  target.inputs.zipIdx.foldlM (ctx.commitColorInput slot index) inputs

/-- Each input with the value that is held of it. -/
def targetInputs (inputs : ColorInputs) (index : Nat) (target : ColorTargetRuntime)
    : List (CompiledColorInputBinding × ℚ) :=
  target.inputs.zipIdx.map (fun (input, i) => (input.binding, (inputs index i).value))

structure ColorLayout where
  targets : List ColorTargetRuntime := []
  /-- The owner of a target as far as this universe knows it. -/
  fixtureByTarget : Int32 → Int32 := fun _ => 0

structure ColorUpdate where
  inputs : ColorInputs
  base : Int32 → CookedEmitterColor
  dirtyTargets : List Int32 := []
  dirtyWheels : OrderedDirtyIndices

def ColorUpdate.cook (update : ColorUpdate) (wheels : WheelLayout) (beamTargetId : Int32)
    (cooked : CookedEmitterColor) : ColorUpdate :=
  { update with
    base := Function.update update.base beamTargetId { cooked with initialized := true }
    dirtyTargets := update.dirtyTargets ++ [beamTargetId]
    dirtyWheels := update.dirtyWheels.insertAll (wheels.indicesByTarget beamTargetId) }

/-- The inputs of a target, from its slot where there is one, and whether one has changed. -/
def SourceContext.readColorInputs (ctx : SourceContext) (slot : Option ColorSlot)
    (inputs : ColorInputs) (index : Nat) (target : ColorTargetRuntime)
    : EvalM (ColorInputs × Bool) :=
  match slot with
  | some slot => do
    let inputs ← ctx.commitColorInputs slot inputs index target
    return (inputs, slot.changed)
  | none => ctx.updateColorInputs inputs index target

def SourceContext.updateColor (ctx : SourceContext) (resources : ColorResources)
    (layout : ColorLayout) (wheels : WheelLayout) (prepared : Option PreparedSlots)
    (update : ColorUpdate) (index : Nat) : EvalM ColorUpdate :=
  match layout.targets[index]? with
  | none => return update
  | some target => do
    let slot := prepared.bind (fun prepared => prepared.color? index)
    let (inputs, changed) ← ctx.readColorInputs slot update.inputs index target
    let update := { update with inputs := inputs }
    if !changed then
      return update
    else
      let cooked := slot.elim
        (cookEmitterColor ctx.platform resources target.target (targetInputs inputs index target))
        ColorSlot.cooked
      return update.cook wheels target.target.beamRenderTargetId cooked

def SourceContext.updateColors (ctx : SourceContext) (resources : ColorResources)
    (layout : ColorLayout) (wheels : WheelLayout) (prepared : Option PreparedSlots)
    (update : ColorUpdate) (indices : List Nat) : EvalM ColorUpdate :=
  indices.foldlM (ctx.updateColor resources layout wheels prepared) update

/-- `final_color`: the slot of the last target with the identifier that has changed. -/
def PreparedSlots.finalColor (prepared : PreparedSlots) (layout : ColorLayout)
    (beamTargetId : Int32) : Option CookedEmitterColor :=
  (layout.targets.zipIdx.filter (fun entry =>
    entry.1.target.beamRenderTargetId == beamTargetId)).reverse.findSome? (fun entry =>
      ((prepared.color? entry.2).filter (fun slot => slot.changed && slot.noWheels)).map
        ColorSlot.final)

def colorChanged (previous composed : CookedEmitterColor) : Bool :=
  let usefulDelta :=
    max (max |previous.srgbRed - composed.srgbRed| |previous.srgbGreen - composed.srgbGreen|)
      (max |previous.srgbBlue - composed.srgbBlue| |previous.gain - composed.gain|)
  !previous.initialized || kDefaultEpsilon < usefulDelta || previous.valid != composed.valid

def colorPendingRow (fixtureId beamTargetId : Int32) (composed : CookedEmitterColor)
    : PendingRow where
  fixtureId := fixtureId
  renderTargetId := beamTargetId
  changedVisualMask := VisualChangeColor
  color := composed

/-- The color of a target that is held, and its row if it has changed. -/
def mergeColor (composed : Int32 → CookedEmitterColor) (fixtureByTarget : Int32 → Int32)
    (update : (Int32 → CookedEmitterColor) × List PendingRow) (beamTargetId : Int32)
    : (Int32 → CookedEmitterColor) × List PendingRow :=
  let next := composed beamTargetId
  (Function.update update.1 beamTargetId { next with initialized := true },
    if colorChanged (update.1 beamTargetId) next then
      update.2 ++ [colorPendingRow (fixtureByTarget beamTargetId) beamTargetId next]
    else
      update.2)

/-- The wheels whose layers lie over a target, by their identifier. -/
abbrev WheelLayers := Int32 → List Int

/-- The composition of a target from what the runtime holds of it. -/
def composedColor (p : Platform) (layers : WheelLayers) (base : Int32 → CookedEmitterColor)
    (wheelStates : Int → WheelTargetState) (beamTargetId : Int32) : CookedEmitterColor :=
  let held := base beamTargetId
  composeOrderedTargetColor p (if held.initialized then held else {})
    ((layers beamTargetId).map wheelStates)

def composeColors (p : Platform) (layout : ColorLayout) (layers : WheelLayers)
    (prepared : Option PreparedSlots) (base : Int32 → CookedEmitterColor)
    (wheelStates : Int → WheelTargetState) (held : Int32 → CookedEmitterColor)
    (dirtyTargets : List Int32) : (Int32 → CookedEmitterColor) × List PendingRow :=
  let composed := fun beamTargetId =>
    (prepared.bind (fun prepared => prepared.finalColor layout beamTargetId)).getD
      (composedColor p layers base wheelStates beamTargetId)
  (sortUnique dirtyTargets).foldl (mergeColor composed layout.fixtureByTarget) (held, [])

end Peraviz.Runtime
