import Peraviz.Checked.Basic
import Peraviz.Dmx.Binding.Types

/-!
This module contains the binding of patched fixtures: the offsets of every control are moved to the
address of the patch, zoom gives way to the gobo wheels, a fixture without a channel in its universe
is refused, and the indices that are left are sanitized.
-/

namespace Peraviz.Dmx

open CheckedInt

namespace Attribute

def all : List Attribute :=
  [dimmer, pan, tilt, zoom, cyan, magenta, yellow, strobe, prism, prismIndex, prismRotation,
    colorWheel, colorWheelRotation, animationWheel, animationWheelRotation, gobo, goboIndex,
    goboRotation]

/-- The controls one of which has to be in range, beside the gobo wheels. -/
def accepting : List Attribute :=
  [dimmer, pan, tilt, zoom, cyan, magenta, yellow, strobe, prism, prismIndex, prismRotation,
    colorWheel, colorWheelRotation, animationWheel, animationWheelRotation, gobo]

theorem mem_all (a : Attribute) : a ∈ all := by
  cases a with
  | _ => decide

/-- The values of all attributes, if each is defined. -/
def traverse (f : Attribute → Option FixtureAttributeChannel)
    : Option (Attribute → FixtureAttributeChannel) :=
  if all.all (fun a => (f a).isSome) then some (fun a => (f a).getD {}) else none

theorem traverse_isSome_iff {f : Attribute → Option FixtureAttributeChannel}
    : (traverse f).isSome ↔ ∀ a, (f a).isSome := by
  unfold traverse
  split
  next h =>
    rw [List.all_eq_true] at h
    simp only [Option.isSome_some, true_iff]
    intro a
    exact h a (mem_all a)
  next h =>
    simp only [Option.isSome_none, Bool.false_eq_true, false_iff]
    intro hall
    apply h
    rw [List.all_eq_true]
    intro a _
    exact hall a

theorem eq_some_of_traverse {f : Attribute → Option FixtureAttributeChannel}
    {g : Attribute → FixtureAttributeChannel} (h : traverse f = some g) (a : Attribute)
    : f a = some (g a) := by
  have hsome := traverse_isSome_iff.mp (by rw [h]; rfl) a
  unfold traverse at h
  split at h
  next =>
    rw [← Option.some.inj h]
    cases hfa : f a with
    | none =>
      rw [hfa] at hsome
      contradiction
    | some c => simp [hfa]
  next => contradiction

end Attribute

/-- A sum or difference that leaves `int` is undefined. -/
def toChannelIndex0 (patch : FixturePatch) (offset : Int32) : Option Int32 :=
  if offset ≤ 0 then some (-1)
  else do
    let base ← subChecked patch.mvrAddress 1
    let step ← subChecked offset 1
    addChecked base step

def isValidChannelIndex (index : Int32) : Bool :=
  0 ≤ index && index < 512

def toChannelBinding (patch : FixturePatch) (offsets : ChannelOffsets)
    : Option FixtureAttributeChannel := do
  let coarse ← toChannelIndex0 patch offsets.coarse
  let fine ← toChannelIndex0 patch offsets.fine
  let ultraFine ← toChannelIndex0 patch offsets.ultraFine
  return { coarse, fine, ultraFine }

def sanitizeIndex (index : Int32) : Int32 :=
  if 0 ≤ index && !isValidChannelIndex index then -1 else index

/-- The tests of the first seven attributes, which stand in the loop, are the same. -/
def sanitizeChannelBinding (channel : FixtureAttributeChannel) : FixtureAttributeChannel :=
  { channel with
    fine := sanitizeIndex channel.fine
    ultraFine := sanitizeIndex channel.ultraFine }

def collectChannelIndices (channel : FixtureAttributeChannel) : List Int32 :=
  [channel.coarse, channel.fine, channel.ultraFine].filter isValidChannelIndex

def wheelIndices (wheel : FixtureGoboWheelBinding) : List Int32 :=
  collectChannelIndices wheel.channel ++ collectChannelIndices wheel.indexChannel
    ++ collectChannelIndices wheel.rotationChannel

/-- The zoom without the indices that the gobo wheels use. -/
def reservedZoom (goboIndices : List Int32) (zoom : FixtureAttributeChannel)
    : FixtureAttributeChannel :=
  if goboIndices.isEmpty then zoom
  else if goboIndices.contains zoom.coarse then {}
  else
    { zoom with
      fine := if goboIndices.contains zoom.fine then -1 else zoom.fine
      ultraFine := if goboIndices.contains zoom.ultraFine then -1 else zoom.ultraFine }

def reserveGoboWheelChannelsFromZoom (binding : FixtureControlBinding) : FixtureControlBinding :=
  let zoom := reservedZoom (binding.goboWheels.flatMap wheelIndices) (binding.channels .zoom)
  { binding with channels := fun a => if a = .zoom then zoom else binding.channels a }

def hasChannel (binding : FixtureControlBinding) : Bool :=
  Attribute.accepting.any (fun a => isValidChannelIndex (binding.channels a).coarse) ||
    binding.goboWheels.any (fun wheel => isValidChannelIndex wheel.channel.coarse)

def sanitizeWheel (wheel : FixtureGoboWheelBinding) : FixtureGoboWheelBinding :=
  { wheel with
    channel := sanitizeChannelBinding wheel.channel
    indexChannel := sanitizeChannelBinding wheel.indexChannel
    rotationChannel := sanitizeChannelBinding wheel.rotationChannel }

def sanitizeBinding (binding : FixtureControlBinding) : FixtureControlBinding :=
  { binding with
    channels := fun a => sanitizeChannelBinding (binding.channels a)
    goboWheels := binding.goboWheels.map sanitizeWheel }

def wheelBindingOf (patch : FixturePatch) (wheel : FixtureGoboWheelOffset)
    : Option FixtureGoboWheelBinding := do
  let channel ← toChannelBinding patch wheel.select
  let indexChannel ← toChannelBinding patch wheel.index
  let rotationChannel ← toChannelBinding patch wheel.rotation
  return { wheel.toGoboWheelTraits with channel, indexChannel, rotationChannel }

/-- The binding of a fixture whose offsets are resolved, `none` inside where it is refused. -/
def bindFixture (patch : FixturePatch) (universeOffset : Int32) (offsets : FixtureControlOffsets)
    : Option (Option FixtureControlBinding) := do
  let artnetUniverseId ← addChecked patch.mvrUniverse universeOffset
  let channels ← Attribute.traverse (fun a => toChannelBinding patch (offsets.offsets a))
  let goboWheels ← offsets.goboWheels.mapM (wheelBindingOf patch)
  let binding := reserveGoboWheelChannelsFromZoom {
    offsets.toFixtureTraits with
    fixtureUuid := patch.fixtureUuid, dmxMode := patch.dmxMode, gdtfPath := patch.gdtfPath
    artnetUniverseId, channels, goboWheels }
  return if hasChannel binding then some (sanitizeBinding binding) else none

inductive PatchOutcome where
  | skipped
  | refused (reason : String)
  | resolved (offsets : FixtureControlOffsets) (binding : Option FixtureControlBinding)

/-- What one round of the loop makes of a patch. `resolve_fixture_control_offsets` is a parameter:
any offsets, or the reason why there are none. -/
def outcomeOf (resolve : String → String → Except String FixtureControlOffsets)
    (universeOffset : Int32) (patch : FixturePatch) : Option PatchOutcome :=
  if patch.fixtureUuid = "" then some .skipped
  else if patch.mvrUniverse ≤ 0 ∨ patch.mvrAddress ≤ 0 ∨ 512 < patch.mvrAddress then
    some (.refused "missing or invalid MVR patch (universe/address)")
  else if patch.dmxMode = "" then some (.refused "missing DMX mode in MVR fixture")
  else if patch.gdtfPath = "" then some (.refused "missing resolved GDTF path")
  else
    match resolve patch.gdtfPath patch.dmxMode with
    | .error reason => some (.refused reason)
    | .ok offsets => (bindFixture patch universeOffset offsets).map (.resolved offsets)

namespace FixtureBindingBuildResult

def refuse (result : FixtureBindingBuildResult) (patch : FixturePatch) (reason : String)
    : FixtureBindingBuildResult :=
  { result with unbound := result.unbound ++ [⟨patch.fixtureUuid, reason⟩] }

/-- The lease and the warnings of resolved offsets, each warning of a fixture once. -/
def note (result : FixtureBindingBuildResult) (patch : FixturePatch)
    (offsets : FixtureControlOffsets) : FixtureBindingBuildResult :=
  { result with
    assetCacheLeases := result.assetCacheLeases ++ offsets.assetCacheLease.toList
    warnings := offsets.warnings.foldl (fun warnings warning =>
      let warning := { warning with fixtureUuid := patch.fixtureUuid }
      if warnings.contains warning then warnings else warnings ++ [warning]) result.warnings }

def record (result : FixtureBindingBuildResult) (patch : FixturePatch)
    : PatchOutcome → FixtureBindingBuildResult
  | .skipped => result
  | .refused reason => result.refuse patch reason
  | .resolved offsets none =>
    (result.note patch offsets).refuse patch "resolved DMX channels are out of 0..511 range"
  | .resolved offsets (some binding) =>
    let noted := result.note patch offsets
    { noted with
      bindings := noted.bindings ++ [binding]
      fixtureLookup := fun uuid =>
        if uuid = binding.fixtureUuid then some binding else noted.fixtureLookup uuid }

end FixtureBindingBuildResult

def buildFixtureControlBindings
    (resolve : String → String → Except String FixtureControlOffsets)
    (patches : List FixturePatch) (universeOffset : Int32) : Option FixtureBindingBuildResult :=
  patches.foldlM (fun result patch => (outcomeOf resolve universeOffset patch).map
    (result.record patch)) {}

end Peraviz.Dmx
