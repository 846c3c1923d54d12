import Mathlib.Algebra.Group.Nat.Defs
import Peraviz.Runtime.Types

/-!
This module contains the packed form of a compiled scene: two arrays, one of integers and one of
floats that the integers point into.
-/

namespace Peraviz.Runtime

/-- The conversion from `double` to `float`, on the values that both can hold exactly. -/
structure FloatFormat where
  toFloat : ℚ → ℚ
  toFloat_toFloat : ∀ x, toFloat (toFloat x) = toFloat x

namespace Codec

def kPackedSceneV7SourceFixedIntegers : Nat := 14
def kPackedSceneV6SourceFixedIntegers : Nat := 8
def kPackedSceneFixtureIntegers : Nat := 6
def kPackedSceneGoboMotionIntegers : Nat := 13

structure PackedCompiledRuntimeScene where
  integers : List Int32 := []
  floats : List ℚ := []
  deriving DecidableEq

/-- One argument of `i.insert`: an integer, or a scalar that goes through `push_float`. -/
inductive Cell where
  | int (value : Int32)
  | float (value : ℚ)

def pushCell (fmt : FloatFormat) (out : PackedCompiledRuntimeScene)
    : Cell → PackedCompiledRuntimeScene
  | .int value => { out with integers := out.integers ++ [value] }
  | .float value => {
      integers := out.integers ++ [Int32.ofNat out.floats.length]
      floats := out.floats ++ [fmt.toFloat value]
    }

def insert (fmt : FloatFormat) (out : PackedCompiledRuntimeScene) (cells : List Cell)
    : PackedCompiledRuntimeScene :=
  cells.foldl (pushCell fmt) out

def ofBool (b : Bool) : Cell := .int (if b then 1 else 0)
def ofSize {α : Type} (l : List α) : Cell := .int (Int32.ofNat l.length)
def ofUInt32 (value : UInt32) : Cell := .int value.toInt32

def ofUInt8 (value : UInt8) : Cell := .int value.toUInt32.toInt32

def fixtureCells (v : CompiledFixtureInstance) : List Cell :=
  [.int v.fixtureId, .int v.universeId, .int v.startAddress, .int 0, .float v.luminousFlux,
    .float v.beamAngleDefault]

def byteSourceCells (s : CompiledDmxByteSource) : List Cell :=
  [.int s.universeId, .int s.address, .int s.byteOrder]

def sourceProgramCells (v : CompiledDmxSourceProgram) : List Cell :=
  [.int v.programId, .int v.semantic.toUnderlying, ofSize v.sources, ofUInt32 v.dmxFrom,
    ofUInt32 v.dmxTo, .float v.physicalFrom, .float v.physicalTo,
    ofUInt8 v.activation.targetKind.toUnderlying, .int v.activation.masterProgramId,
    ofUInt32 v.activation.fromValue, ofUInt32 v.activation.toValue, ofBool v.activation.valid,
    .int v.activation.targetId, .int v.activation.masterChannelId]
    ++ v.sources.flatMap byteSourceCells

def contributorCells (c : CompiledPropertyContributor) : List Cell :=
  [.int c.sourceProgramId, .float c.weight, .int c.operation.toUnderlying]

def propertyCells (v : CompiledComponentProperty) : List Cell :=
  [.int v.propertyId, .int v.fixtureId, .int v.componentId, .int v.renderTargetId,
    .int v.semantic.toUnderlying, ofSize v.contributors]
    ++ v.contributors.flatMap contributorCells

def colorInputCells (x : CompiledColorInputBinding) : List Cell :=
  [.int x.sourceProgramId, .int x.semantic.toUnderlying, .float x.defaultValue,
    ofBool x.useNormalizedValue, .int x.emitterResourceId, .int x.filterResourceId]

def colorTargetCells (v : CompiledColorTargetProgram) : List Cell :=
  [.int v.colorTargetId, .int v.fixtureId, .int v.beamRenderTargetId, .int v.geometryId,
    ofBool v.additiveSource, ofSize v.inputs]
    ++ v.inputs.flatMap colorInputCells

def paletteSlotCells (s : CompiledWheelPaletteSlot) : List Cell :=
  [.int s.slotIndex, .float s.srgbRed, .float s.srgbGreen, .float s.srgbBlue, .float s.linearRed,
    .float s.linearGreen, .float s.linearBlue, .float s.gain, ofBool s.identity]

def wheelPaletteCells (v : CompiledWheelPalette) : List Cell :=
  [.int v.wheelRendererId, .int v.fixtureId, .float v.placementOffsetDegrees, ofSize v.slots]
    ++ v.slots.flatMap paletteSlotCells

def channelSetCells (s : CompiledWheelChannelSet) : List Cell :=
  [ofUInt32 s.dmxFrom, ofUInt32 s.dmxTo, .int s.wheelSlotIndex]

def wheelBindingCells (v : CompiledWheelTargetBinding) : List Cell :=
  [.int v.bindingId, .int v.fixtureId, .int v.beamRenderTargetId, .int v.wheelRendererId,
    .int v.sourceProgramId, .int v.mode.toUnderlying, ofBool v.snap,
    .float v.placementOffsetDegrees, ofSize v.channelSets]
    ++ v.channelSets.flatMap channelSetCells

def goboAssetCells (v : CompiledGoboAsset) : List Cell :=
  [.int v.goboAssetId, .int v.wheelId, .int v.slotIndex, ofBool v.openSlot, ofBool v.mediaValid]

def goboBindingCells (v : CompiledGoboSelectionBinding) : List Cell :=
  [.int v.bindingId, .int v.fixtureId, .int v.beamRenderTargetId, .int v.wheelId,
    .int v.wheelInstanceIndex, .int v.sourceProgramId, .int v.mode.toUnderlying,
    ofSize v.channelSets]
    ++ v.channelSets.flatMap channelSetCells

def goboMotionCells (v : CompiledGoboMotionBinding) : List Cell :=
  [.int v.bindingId, .int v.fixtureId, .int v.beamRenderTargetId, .int v.wheelId,
    .int v.wheelInstanceIndex, .int v.sourceProgramId, ofUInt8 v.semanticKind.toUnderlying,
    ofUInt8 v.controlledScope.toUnderlying, .float v.physicalFrom, .float v.physicalTo,
    ofBool v.scalarEvaluable, ofBool v.rendered, ofBool (v.physicalUnit == "Angle")]

def shutterCells (v : CompiledShutterBinding) : List Cell :=
  [.int v.fixtureId, .int v.beamTargetId, .int v.shutterIndex, .int v.sourceProgramId,
    .int v.wave.toUnderlying, .int v.status, ofUInt32 v.dmxFrom, ofUInt32 v.dmxTo,
    .float v.duration, .float v.duty, .float v.offset, .float v.physicalFrom, .float v.physicalTo,
    ofUInt32 v.modeFrom, ofUInt32 v.modeTo, .int v.activationFunctionId]

def headerCells (scene : CompiledRuntimeScene) : List Cell :=
  [.int scene.contractVersion, ofSize scene.fixtures, ofSize scene.sourcePrograms,
    ofSize scene.properties, ofSize scene.colorTargets, ofSize scene.wheelPalettes,
    ofSize scene.wheelBindings, ofSize scene.goboAssets, ofSize scene.goboBindings,
    ofSize scene.goboMotionBindings, ofSize scene.shutterBindings, ofSize scene.diagnostics]

def sceneCells (scene : CompiledRuntimeScene) : List Cell :=
  headerCells scene
    ++ (scene.fixtures.flatMap fixtureCells
    ++ (scene.sourcePrograms.flatMap sourceProgramCells
    ++ (scene.properties.flatMap propertyCells
    ++ (scene.colorTargets.flatMap colorTargetCells
    ++ (scene.wheelPalettes.flatMap wheelPaletteCells
    ++ (scene.wheelBindings.flatMap wheelBindingCells
    ++ (scene.goboAssets.flatMap goboAssetCells
    ++ (scene.goboBindings.flatMap goboBindingCells
    ++ (scene.goboMotionBindings.flatMap goboMotionCells
    ++ scene.shutterBindings.flatMap shutterCells)))))))))

def encodeCompiledRuntimeScene (fmt : FloatFormat) (scene : CompiledRuntimeScene)
    : PackedCompiledRuntimeScene :=
  insert fmt {} (sceneCells scene)

/-- The integers from the cursor on, out of `size`, and the scene as far as it is decoded. -/
structure Decoder where
  size : Nat
  rest : List Int32
  floats : List ℚ
  valid : Bool := true
  diagnostic : String := ""
  scene : CompiledRuntimeScene := {}

/-- A piece of the decoder, without a result where the source jumps to `done`. -/
def DecodeM (α : Type) : Type := Decoder → Option α × Decoder

instance : Monad DecodeM where
  pure a := fun d => (some a, d)
  bind x f := fun d =>
    match x d with
    | (some a, d) => f a d
    | (none, d) => (none, d)

def done {α : Type} : DecodeM α := fun d => (none, d)

def Decoder.fail (d : Decoder) (message : String) : Decoder :=
  if d.valid then { d with valid := false, diagnostic := message } else d

def read : DecodeM Int32 := fun d =>
  match d.rest with
  | [] =>
    (some 0, d.fail
      "PVZ-PACKED-SCENE-TRUNCATED: integer payload ended before the declared records.")
  | value :: rest => (some value, { d with rest := rest })

def require (count : Nat) : DecodeM Bool := fun d =>
  if !d.valid || decide (d.rest.length < count) then
    (some false,
      d.fail "PVZ-PACKED-SCENE-TRUNCATED: declared record exceeds the integer payload.")
  else
    (some true, d)

def validCount (count : Int32) : DecodeM Bool := fun d =>
  if count < 0 ∨ (d.size : Int) < count.toInt then
    (some false, d.fail "PVZ-PACKED-SCENE-COUNT: record count is invalid.")
  else
    (some true, d)

def floatAt (floats : List ℚ) (index : Int32) (fallback : ℚ) : ℚ :=
  if 0 ≤ index ∧ index.toInt < floats.length then
    floats.getD index.toInt.toNat fallback
  else
    fallback

def readFloatAt (index : Int32) (fallback : ℚ) : DecodeM ℚ :=
  fun d => (some (floatAt d.floats index fallback), d)

def readFloat (fallback : ℚ) : DecodeM ℚ := do
  let index ← read
  readFloatAt index fallback

def readUInt32 : DecodeM UInt32 := do return (← read).toUInt32

/-- The conversion to an enumeration over `uint8_t` drops the upper bits. -/
def readUInt8 : DecodeM UInt8 := do return (← read).toUInt32.toUInt8

def readBool : DecodeM Bool := do return (← read) != 0

def push (update : CompiledRuntimeScene → CompiledRuntimeScene) : DecodeM Unit :=
  fun d => (some (), { d with scene := update d.scene })

def orDone (condition : DecodeM Bool) : DecodeM Unit := do
  if ← condition then return () else done

/-- `for (int n = 0; n < count && d.require(fixed); ++n)` -/
def records (fixed : Nat) (record : DecodeM Unit) : Nat → DecodeM Unit
  | 0 => return ()
  | n + 1 => do
    if ← require fixed then
      record
      records fixed record n
    else
      return ()

/-- `for (int x = 0; x < count; ++x) list.push_back(entry);` -/
def entries {α : Type} (entry : DecodeM α) : Nat → DecodeM (List α)
  | 0 => return []
  | n + 1 => do
    let value ← entry
    let values ← entries entry n
    return value :: values

/-- A nested list whose entries take `stride` integers each. -/
def nested {α : Type} (count : Int32) (stride : Nat) (entry : DecodeM α) : DecodeM (List α) := do
  orDone (validCount count)
  orDone (require (count.toNatClampNeg * stride))
  entries entry count.toNatClampNeg

def decodeFixture : DecodeM Unit := do
  let fixtureId ← read
  let universeId ← read
  let startAddress ← read
  let _ ← read
  let luminousFlux ← readFloat 10000
  let beamAngleDefault ← readFloat 25
  push fun scene => { scene with
    fixtures := scene.fixtures ++ [{
      fixtureId := fixtureId
      universeId := universeId
      startAddress := startAddress
      luminousFlux := luminousFlux
      beamAngleDefault := beamAngleDefault
    }]
  }

def decodeByteSource : DecodeM CompiledDmxByteSource := do
  let universeId ← read
  let address ← read
  let byteOrder ← read
  return ⟨universeId, address, byteOrder⟩

def decodeActivation (version : Int32) : DecodeM ModeMasterCondition := do
  if 7 ≤ version then
    let targetKind ← readUInt8
    let masterProgramId ← read
    let fromValue ← readUInt32
    let toValue ← readUInt32
    let valid ← readBool
    let targetId ← read
    let masterChannelId ← read
    return {
      targetKind := .ofUnderlying targetKind
      targetId := targetId
      masterProgramId := masterProgramId
      fromValue := fromValue
      toValue := toValue
      valid := valid
      masterChannelId := masterChannelId
    }
  else
    let _ ← read
    return {}

def decodeSourceProgram (version : Int32) : DecodeM Unit := do
  let programId ← read
  let semantic ← read
  let count ← read
  let dmxFrom ← readUInt32
  let dmxTo ← readUInt32
  let physicalFrom ← readFloat 0
  let physicalTo ← readFloat 1
  let activation ← decodeActivation version
  let sources ← nested count 3 decodeByteSource
  push fun scene => { scene with
    sourcePrograms := scene.sourcePrograms ++ [{
      programId := programId
      semantic := .ofUnderlying semantic
      sources := sources
      dmxFrom := dmxFrom
      dmxTo := dmxTo
      physicalFrom := physicalFrom
      physicalTo := physicalTo
      activation := activation
    }]
  }

def decodeContributor : DecodeM CompiledPropertyContributor := do
  let sourceProgramId ← read
  let weight ← readFloat 1
  let operation ← read
  return ⟨sourceProgramId, weight, .ofUnderlying operation⟩

def decodeProperty : DecodeM Unit := do
  let propertyId ← read
  let fixtureId ← read
  let componentId ← read
  let renderTargetId ← read
  let semantic ← read
  let count ← read
  let contributors ← nested count 3 decodeContributor
  push fun scene => { scene with
    properties := scene.properties ++ [{
      propertyId := propertyId
      fixtureId := fixtureId
      componentId := componentId
      renderTargetId := renderTargetId
      semantic := .ofUnderlying semantic
      contributors := contributors
    }]
  }

def decodeColorInput (version : Int32) : DecodeM CompiledColorInputBinding := do
  let sourceProgramId ← read
  let semantic ← read
  let defaultValue ← readFloat 0
  let useNormalizedValue ← readBool
  if 3 ≤ version then
    let emitterResourceId ← read
    let filterResourceId ← read
    return {
      sourceProgramId := sourceProgramId
      semantic := .ofUnderlying semantic
      defaultValue := defaultValue
      useNormalizedValue := useNormalizedValue
      emitterResourceId := emitterResourceId
      filterResourceId := filterResourceId
    }
  else
    return {
      sourceProgramId := sourceProgramId
      semantic := .ofUnderlying semantic
      defaultValue := defaultValue
      useNormalizedValue := useNormalizedValue
    }

def decodeColorTarget (version : Int32) : DecodeM Unit := do
  let colorTargetId ← read
  let fixtureId ← read
  let beamRenderTargetId ← read
  let geometryId ← read
  let additiveSource ← readBool
  let count ← read
  let inputs ← nested count (if 3 ≤ version then 6 else 4) (decodeColorInput version)
  push fun scene => { scene with
    colorTargets := scene.colorTargets ++ [{
      colorTargetId := colorTargetId
      fixtureId := fixtureId
      beamRenderTargetId := beamRenderTargetId
      geometryId := geometryId
      inputs := inputs
      additiveSource := additiveSource
    }]
  }

def decodePaletteSlot (fmt : FloatFormat) : DecodeM CompiledWheelPaletteSlot := do
  let slotIndex ← read
  let srgbRed ← readFloat 1
  let srgbGreen ← readFloat 1
  let srgbBlue ← readFloat 1
  let linearRed ← readFloat 1
  let linearGreen ← readFloat 1
  let linearBlue ← readFloat 1
  let gain ← readFloat 1
  let identity ← readBool
  return {
    slotIndex := slotIndex
    srgbRed := fmt.toFloat srgbRed
    srgbGreen := fmt.toFloat srgbGreen
    srgbBlue := fmt.toFloat srgbBlue
    linearRed := fmt.toFloat linearRed
    linearGreen := fmt.toFloat linearGreen
    linearBlue := fmt.toFloat linearBlue
    gain := fmt.toFloat gain
    identity := identity
  }

def decodeWheelPalette (fmt : FloatFormat) : DecodeM Unit := do
  let wheelRendererId ← read
  let fixtureId ← read
  let placementOffsetDegrees ← readFloat 270
  let count ← read
  let slots ← nested count 9 (decodePaletteSlot fmt)
  push fun scene => { scene with
    wheelPalettes := scene.wheelPalettes ++ [{
      wheelRendererId := wheelRendererId
      fixtureId := fixtureId
      placementOffsetDegrees := fmt.toFloat placementOffsetDegrees
      slots := slots
    }]
  }

def decodeChannelSet : DecodeM CompiledWheelChannelSet := do
  let dmxFrom ← readUInt32
  let dmxTo ← readUInt32
  let wheelSlotIndex ← read
  return { dmxFrom := dmxFrom, dmxTo := dmxTo, wheelSlotIndex := wheelSlotIndex }

def decodeWheelBinding (fmt : FloatFormat) : DecodeM Unit := do
  let bindingId ← read
  let fixtureId ← read
  let beamRenderTargetId ← read
  let wheelRendererId ← read
  let sourceProgramId ← read
  let mode ← read
  let snap ← readBool
  let placementOffsetDegrees ← readFloat 270
  let count ← read
  let channelSets ← nested count 3 decodeChannelSet
  push fun scene => { scene with
    wheelBindings := scene.wheelBindings ++ [{
      bindingId := bindingId
      fixtureId := fixtureId
      beamRenderTargetId := beamRenderTargetId
      wheelRendererId := wheelRendererId
      sourceProgramId := sourceProgramId
      mode := .ofUnderlying mode
      snap := snap
      placementOffsetDegrees := fmt.toFloat placementOffsetDegrees
      channelSets := channelSets
    }]
  }

def decodeGoboAsset : DecodeM Unit := do
  let goboAssetId ← read
  let wheelId ← read
  let slotIndex ← read
  let openSlot ← readBool
  let mediaValid ← readBool
  push fun scene => { scene with
    goboAssets := scene.goboAssets ++ [⟨goboAssetId, wheelId, slotIndex, openSlot, mediaValid⟩]
  }

def decodeGoboBinding : DecodeM Unit := do
  let bindingId ← read
  let fixtureId ← read
  let beamRenderTargetId ← read
  let wheelId ← read
  let wheelInstanceIndex ← read
  let sourceProgramId ← read
  let mode ← read
  let count ← read
  let channelSets ← nested count 3 decodeChannelSet
  push fun scene => { scene with
    goboBindings := scene.goboBindings ++ [{
      bindingId := bindingId
      fixtureId := fixtureId
      beamRenderTargetId := beamRenderTargetId
      wheelId := wheelId
      wheelInstanceIndex := wheelInstanceIndex
      sourceProgramId := sourceProgramId
      mode := .ofUnderlying mode
      channelSets := channelSets
    }]
  }

def decodeGoboMotion : DecodeM Unit := do
  let bindingId ← read
  let fixtureId ← read
  let beamRenderTargetId ← read
  let wheelId ← read
  let wheelInstanceIndex ← read
  let sourceProgramId ← read
  let semanticKind ← readUInt8
  let controlledScope ← readUInt8
  let physicalFrom ← readFloat 0
  let physicalTo ← readFloat 1
  let scalarEvaluable ← readBool
  let rendered ← readBool
  let angle ← read
  push fun scene => { scene with
    goboMotionBindings := scene.goboMotionBindings ++ [{
      bindingId := bindingId
      fixtureId := fixtureId
      beamRenderTargetId := beamRenderTargetId
      wheelId := wheelId
      wheelInstanceIndex := wheelInstanceIndex
      sourceProgramId := sourceProgramId
      semanticKind := .ofUnderlying semanticKind
      controlledScope := .ofUnderlying controlledScope
      physicalFrom := physicalFrom
      physicalTo := physicalTo
      physicalUnit := if angle = 1 then "Angle" else "None"
      scalarEvaluable := scalarEvaluable
      rendered := rendered
    }]
  }

/-- The ModeMaster range of a shutter, which version 9 added. -/
def decodeShutterMode (version : Int32) : DecodeM (UInt32 × UInt32 × Int32) := do
  if 9 ≤ version then
    let modeFrom ← readUInt32
    let modeTo ← readUInt32
    let activationFunctionId ← read
    return (modeFrom, modeTo, activationFunctionId)
  else
    return (0, 4294967295, 0)

def decodeShutter (version : Int32) : DecodeM Unit := do
  let fixtureId ← read
  let beamTargetId ← read
  let shutterIndex ← read
  let sourceProgramId ← read
  let wave ← read
  let status ← read
  let dmxFrom ← readUInt32
  let dmxTo ← readUInt32
  let duration ← readFloat (25 / 1000)
  let duty ← readFloat 1
  let offset ← readFloat 1
  let physicalFrom ← readFloat 0
  let physicalTo ← readFloat 1
  let (modeFrom, modeTo, activationFunctionId) ← decodeShutterMode version
  push fun scene => { scene with
    shutterBindings := scene.shutterBindings ++ [{
      fixtureId := fixtureId
      beamTargetId := beamTargetId
      shutterIndex := shutterIndex
      sourceProgramId := sourceProgramId
      wave := .ofUnderlying wave
      duration := duration
      duty := duty
      offset := offset
      dmxFrom := dmxFrom
      dmxTo := dmxTo
      physicalFrom := physicalFrom
      physicalTo := physicalTo
      status := status
      modeFrom := modeFrom
      modeTo := modeTo
      activationFunctionId := activationFunctionId
    }]
  }

/-- `count` integers of the header, all `0` in the versions before `since`. -/
def headerCounts (version since : Int32) (count : Nat) : DecodeM (List Int32) := do
  if since ≤ version then
    orDone (require count)
    entries read count
  else
    return List.replicate count 0

def validCounts : List Int32 → DecodeM Unit
  | [] => return ()
  | count :: counts => do
    orDone (validCount count)
    validCounts counts

def countAt (counts : List Int32) (position : Nat) : Nat := (counts.getD position 0).toNatClampNeg

def decodeTables (fmt : FloatFormat) (version : Int32) : DecodeM Unit := do
  let counts ← entries read 4
  let wheelCounts ← headerCounts version 2 2
  let goboCounts ← headerCounts version 4 2
  let motionCount ← headerCounts version 7 1
  let shutterCount ← headerCounts version 8 1
  orDone (require 1)
  let _ ← read
  validCounts (counts ++ wheelCounts ++ goboCounts ++ motionCount ++ shutterCount)
  records kPackedSceneFixtureIntegers decodeFixture (countAt counts 0)
  records
    (if 7 ≤ version then kPackedSceneV7SourceFixedIntegers else kPackedSceneV6SourceFixedIntegers)
    (decodeSourceProgram version) (countAt counts 1)
  records 6 decodeProperty (countAt counts 2)
  records 6 (decodeColorTarget version) (countAt counts 3)
  records 4 (decodeWheelPalette fmt) (countAt wheelCounts 0)
  records 9 (decodeWheelBinding fmt) (countAt wheelCounts 1)
  records 5 decodeGoboAsset (countAt goboCounts 0)
  records 8 decodeGoboBinding (countAt goboCounts 1)
  records kPackedSceneGoboMotionIntegers decodeGoboMotion (countAt motionCount 0)
  records (if 9 ≤ version then 16 else 13) (decodeShutter version) (countAt shutterCount 0)

def checkTrailing : DecodeM Unit := fun d =>
  if d.valid && !d.rest.isEmpty then
    (some (), d.fail
      "PVZ-PACKED-SCENE-TRAILING: decoder cursor did not land at the payload boundary.")
  else
    (some (), d)

/-- Whether there are integers for the first part of the header, and the version. -/
def decodeVersion : DecodeM (Bool × Int32) := do
  let enough ← require 6
  let version ← read
  return (enough, version)

def decodeBody (fmt : FloatFormat) (version : Int32) : DecodeM Unit := do
  push fun scene => { scene with contractVersion := version }
  decodeTables fmt version
  checkTrailing

structure CompiledRuntimeSceneDecodeResult where
  scene : CompiledRuntimeScene := {}
  consumedIntegers : Nat := 0
  valid : Bool := false
  diagnostic : String := ""
  deriving DecidableEq

def decodeCompiledRuntimeScene (fmt : FloatFormat) (integers : List Int32) (floats : List ℚ)
    : CompiledRuntimeSceneDecodeResult :=
  let d : Decoder := { size := integers.length, rest := integers, floats := floats }
  match decodeVersion d with
  | (some (true, version), d) =>
    if version < 1 ∨ kCompiledRuntimeSceneContractVersion < version then
      { diagnostic := "PVZ-PACKED-SCENE-VERSION: unsupported compiled runtime scene version." }
    else
      let d := (decodeBody fmt version d).2
      {
        scene := d.scene
        consumedIntegers := d.size - d.rest.length
        valid := d.valid
        diagnostic := d.diagnostic
      }
  | (_, d) => { diagnostic := d.diagnostic }

end Codec
end Peraviz.Runtime
