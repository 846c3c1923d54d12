import Mathlib.Data.List.Dedup
import Peraviz.Runtime.Evaluation.Impl
import Peraviz.Runtime.Rows

/-!
This module contains the wheel domain: which slots of a color wheel are in the beam of a target.
-/

namespace Peraviz.Runtime

structure WheelBindingRuntime where
  binding : CompiledWheelTargetBinding
  source : Nat
  deriving DecidableEq

structure WheelLayout where
  bindings : List WheelBindingRuntime := []
  indicesByTarget : Int32 → List Nat := fun _ => []
  indicesByPhysicalKey : Int → List Nat := fun _ => []

def wheelPhysicalKey (beamTargetId wheelRendererId : Int32) : Int :=
  beamTargetId.toInt * 2 ^ 32 + wheelRendererId.toUInt32.toNat

theorem wheelPhysicalKey_inj {target target' renderer renderer' : Int32}
    (h : wheelPhysicalKey target renderer = wheelPhysicalKey target' renderer')
    : (target, renderer) = (target', renderer') := by
  unfold wheelPhysicalKey at h
  have hlt := renderer.toUInt32.toNat_lt
  have hlt' := renderer'.toUInt32.toNat_lt
  have htarget : target.toInt = target'.toInt := by omega
  have hrenderer : renderer.toUInt32 = renderer'.toUInt32 := by
    apply UInt32.toNat_inj.mp
    omega
  rw [Int32.toInt_inj.mp htarget]
  exact congrArg (Prod.mk target') (congrArg Int32.ofUInt32 hrenderer)

/-- `std::sort` and the removal of what `std::unique` leaves over. -/
def sortUnique {α : Type} [LE α] [DecidableLE α] [DecidableEq α] (l : List α) : List α :=
  (l.insertionSort (fun a b => a ≤ b)).dedup

theorem mem_sortUnique {α : Type} [LE α] [DecidableLE α] [DecidableEq α] {l : List α} {x : α}
    : x ∈ sortUnique l ↔ x ∈ l := by
  unfold sortUnique
  rw [List.mem_dedup]
  exact (List.perm_insertionSort _ _).mem_iff

def wheelRangeOverlap (message : String) (beamTargetId wheelRendererId : Int32)
    : CompiledRuntimeDiagnostic where
  code := "PVZ-RUNTIME-WHEEL-RANGE-OVERLAP"
  severity := "warning"
  message := message
  subject := toString beamTargetId ++ ":" ++ toString wheelRendererId

/-- Of the bindings whose function is active the first one counts, every other is reported. -/
def SourceContext.scanWheel (ctx : SourceContext) (bindings : List WheelBindingRuntime)
    (active : Option (CompiledWheelTargetBinding × EvaluatedSourceValue)) (index : Nat)
    : EvalM (Option (CompiledWheelTargetBinding × EvaluatedSourceValue)) :=
  match bindings[index]? with
  | none => return active
  | some candidate => do
    let evaluated ← ctx.evaluateCachedSource candidate.source
    let program := ctx.plan.program candidate.source
    if !evaluated.valid || !inRange evaluated.rawValue program.dmxFrom program.dmxTo then
      return active
    else if active.isSome then do
      report (wheelRangeOverlap
        "Multiple wheel control bindings were active for one physical wheel; using deterministic binding order."
        candidate.binding.beamRenderTargetId candidate.binding.wheelRendererId)
      return active
    else
      return some (candidate.binding, evaluated)

/-- The slots that a wheel shows and the color that they cook to. -/
structure WheelResolution where
  slotA : Int32
  slotB : Int32
  normalizedPhase : ℚ := 0
  splitFraction : ℚ := 0
  boundaryAngleDegrees : ℚ := 0
  cooked : CookedEmitterColor
  deriving DecidableEq

def normalizeDegrees (degrees : ℚ) : ℚ :=
  let wrapped := fmod degrees 360
  if wrapped < 0 then wrapped + 360 else wrapped

def resolveIndex (p : Platform) (binding : CompiledWheelTargetBinding)
    (slots : List CompiledWheelPaletteSlot) (physicalValue : ℚ) : Option WheelResolution :=
  if slots.isEmpty then
    none
  else
    let boundary := normalizeDegrees (physicalValue + binding.placementOffsetDegrees)
    let phase := boundary / 360
    let coordinate := phase * slots.length
    let base := coordinate.floor.toNat % slots.length
    let split := coordinate - coordinate.floor
    let slotA := slots.getD base {}
    let slotB := slots.getD ((base + 1) % slots.length) {}
    some {
      slotA := slotA.slotIndex
      slotB := slotB.slotIndex
      normalizedPhase := phase
      splitFraction := split
      boundaryAngleDegrees := boundary
      cooked := aggregateIndexedWheelLayer p slotA slotB split
    }

def seatedSlot (p : Platform) (slot : CompiledWheelPaletteSlot) : WheelResolution where
  slotA := slot.slotIndex
  slotB := slot.slotIndex
  cooked := cookWheelSlotLayer p slot

def slotLookup (bindingId wheelSlotIndex : Int32) : CompiledRuntimeDiagnostic where
  code := "PVZ-RUNTIME-WHEEL-SLOT-LOOKUP"
  severity := "error"
  message := "WheelSelection could not resolve exactly one palette slot for ChannelSet.WheelSlotIndex."
  subject := toString bindingId ++ " slot=" ++ toString wheelSlotIndex

def resolveSelect (p : Platform) (binding : CompiledWheelTargetBinding)
    (slots : List CompiledWheelPaletteSlot) (rawValue : UInt32)
    : EvalM (Option WheelResolution) :=
  match binding.channelSets.find? (fun set => inRange rawValue set.dmxFrom set.dmxTo) with
  | none => return none
  | some set =>
    match slots.filter (fun slot => slot.slotIndex == set.wheelSlotIndex) with
    | [slot] => return some (seatedSlot p slot)
    | _ => do
      report (slotLookup binding.bindingId set.wheelSlotIndex)
      return none

/-- A mode without a control of its own shows the first slot. -/
def resolveWheel (p : Platform) (binding : CompiledWheelTargetBinding)
    (slots : List CompiledWheelPaletteSlot) (evaluated : EvaluatedSourceValue)
    : EvalM (Option WheelResolution) :=
  if binding.mode = .listed .index then
    return resolveIndex p binding slots evaluated.physicalValue
  else if binding.mode = .listed .select then
    resolveSelect p binding slots evaluated.rawValue
  else
    return some (seatedSlot p (slots.headD {}))

def wheelChanged (previous : WheelTargetState) (binding : CompiledWheelTargetBinding)
    (next : WheelResolution) : Bool :=
  !previous.initialized || previous.activeBindingId != binding.bindingId
    || previous.mode != binding.mode || previous.slotA != next.slotA
    || previous.slotB != next.slotB
    || !nearlyEqual previous.normalizedPhase next.normalizedPhase kDefaultEpsilon
    || !nearlyEqual previous.splitFraction next.splitFraction kDefaultEpsilon
    || !nearlyEqual previous.srgbRed next.cooked.srgbRed kDefaultEpsilon
    || !nearlyEqual previous.srgbGreen next.cooked.srgbGreen kDefaultEpsilon
    || !nearlyEqual previous.srgbBlue next.cooked.srgbBlue kDefaultEpsilon
    || !nearlyEqual previous.gain next.cooked.gain kDefaultEpsilon

def showWheel (previous : WheelTargetState) (binding : CompiledWheelTargetBinding)
    (next : WheelResolution) : WheelTargetState where
  initialized := true
  activeBindingId := binding.bindingId
  beamTargetId := binding.beamRenderTargetId
  wheelRendererId := binding.wheelRendererId
  mode := binding.mode
  slotA := next.slotA
  slotB := next.slotB
  normalizedPhase := next.normalizedPhase
  splitFraction := next.splitFraction
  boundaryAngleDegrees := next.boundaryAngleDegrees
  srgbRed := next.cooked.srgbRed
  srgbGreen := next.cooked.srgbGreen
  srgbBlue := next.cooked.srgbBlue
  gain := next.cooked.gain
  linearRed := next.cooked.linearRed
  linearGreen := next.cooked.linearGreen
  linearBlue := next.cooked.linearBlue
  revision := previous.revision + 1

/-- The state of a wheel that no binding is active for any more. -/
def clearWheel (previous : WheelTargetState) : WheelTargetState where
  beamTargetId := previous.beamTargetId
  wheelRendererId := previous.wheelRendererId
  revision := previous.revision + 1

def wheelPendingRow (binding : CompiledWheelTargetBinding) (next : WheelResolution)
    (revision : Int32) : PendingRow where
  fixtureId := binding.fixtureId
  renderTargetId := binding.beamRenderTargetId
  changedVisualMask := VisualChangeColor
  color := next.cooked
  wheelId := binding.wheelRendererId
  slotA := next.slotA
  slotB := next.slotB
  normalizedPhase := next.normalizedPhase
  splitFraction := next.splitFraction
  boundaryAngleDegrees := next.boundaryAngleDegrees
  wheelMode := binding.mode
  revision := revision
  wheelRow := true

structure WheelUpdate where
  states : Int → WheelTargetState
  dirtyTargets : List Int32 := []
  rows : List PendingRow := []

namespace WheelUpdate

def clear (update : WheelUpdate) (physicalKey : Int) : WheelUpdate :=
  let previous := update.states physicalKey
  if previous.initialized then
    { update with
      states := Function.update update.states physicalKey (clearWheel previous)
      dirtyTargets := update.dirtyTargets ++ [previous.beamTargetId] }
  else
    update

def merge (update : WheelUpdate) (physicalKey : Int) (binding : CompiledWheelTargetBinding)
    (next : WheelResolution) : WheelUpdate :=
  let previous := update.states physicalKey
  if wheelChanged previous binding next then
    let state := showWheel previous binding next
    {
      states := Function.update update.states physicalKey state
      dirtyTargets := update.dirtyTargets ++ [binding.beamRenderTargetId]
      rows := update.rows ++ [wheelPendingRow binding next state.revision]
    }
  else
    update

end WheelUpdate

def SourceContext.updateWheel (ctx : SourceContext) (layout : WheelLayout)
    (palettes : Int32 → Option CompiledWheelPalette) (update : WheelUpdate) (physicalKey : Int)
    : EvalM WheelUpdate := do
  let active ← (layout.indicesByPhysicalKey physicalKey).foldlM (ctx.scanWheel layout.bindings) none
  match active with
  | none => return update.clear physicalKey
  | some (binding, evaluated) =>
    match palettes binding.wheelRendererId with
    | none => return update
    | some palette => do
      let resolution ← resolveWheel ctx.platform binding palette.slots evaluated
      match resolution with
      | none => return update
      | some next => return update.merge physicalKey binding next

/-- The wheels that a nominated binding controls. -/
def dirtyPhysicalWheels (layout : WheelLayout) (dirtyWheels : OrderedDirtyIndices) : List Int :=
  sortUnique (dirtyWheels.visit.filterMap (fun index => layout.bindings[index]?.map (fun wheel =>
    wheelPhysicalKey wheel.binding.beamRenderTargetId wheel.binding.wheelRendererId)))

def SourceContext.updateWheels (ctx : SourceContext) (layout : WheelLayout)
    (palettes : Int32 → Option CompiledWheelPalette) (states : Int → WheelTargetState)
    (dirtyWheels : OrderedDirtyIndices) : EvalM WheelUpdate :=
  (dirtyPhysicalWheels layout dirtyWheels).foldlM (ctx.updateWheel layout palettes)
    { states := states }

end Peraviz.Runtime
