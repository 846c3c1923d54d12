import Mathlib.Algebra.Order.Group.Unbundled.Abs
import Mathlib.Algebra.Order.Ring.Rat
import Mathlib.Data.Fin.VecNotation
import Mathlib.Data.List.FinRange
import Peraviz.Intervals.Basic

/-!
This module contains the decoder of whole universes: the values of the fixtures whose bytes have
changed, the render values that are derived from them, and the filter that lets through the rows
that have visibly changed. The numbers are exact.
-/

namespace Peraviz.Dmx.Decoder

open Intervals

/-! ### Bindings -/

/-- An address that leaves `int` lies behind every frame as well as one that does not. -/
structure FixtureChannelBinding where
  fixtureId : Int32 := 0
  startAddress : Int := 0
  fineAddress : Int := -1
  ultraFineAddress : Int := -1
  channelType : Int := 0
  bitDepth : Int := 8
  scaleMin : ℚ := 0
  scaleMax : ℚ := 1

def bytesForBitDepth (bitDepth : Int) : Nat :=
  if bitDepth ≤ 8 then 1 else if bitDepth ≤ 16 then 2 else 3

def addressForByteIndex (binding : FixtureChannelBinding) (byteIndex : Nat) : Int :=
  if byteIndex = 0 then binding.startAddress
  else if byteIndex = 1 ∧ 0 ≤ binding.fineAddress then binding.fineAddress
  else if byteIndex = 2 ∧ 0 ≤ binding.ultraFineAddress then binding.ultraFineAddress
  else binding.startAddress + byteIndex

/-- The byte of a frame at an address, 0 outside of it. -/
def byteAt (frame : List UInt8) (address : Int) : UInt8 :=
  if 0 ≤ address then (frame[address.toNat]?).getD 0 else 0

def channelBytes (frame : List UInt8) (binding : FixtureChannelBinding) : List UInt8 :=
  (List.range (bytesForBitDepth binding.bitDepth)).map
    (fun byteIndex => byteAt frame (addressForByteIndex binding byteIndex))

def readNormalizedValue (frame : List UInt8) (binding : FixtureChannelBinding) : ℚ :=
  let bytes := channelBytes frame binding
  let rawValue : Nat := bytes.foldl (fun value byte => value * 256 + byte.toNat) 0
  let maxValue : Nat := bytes.foldl (fun value _ => value * 256 + 255) 0
  let normalized : ℚ := if 0 < maxValue then rawValue / maxValue else 0
  clamp (binding.scaleMin + (binding.scaleMax - binding.scaleMin) * normalized) 0 1

/-- The column of the values of a fixture that belongs to a channel type. -/
def compactIndexForChannelType (channelType : Int) : Option (Fin 13) :=
  match channelType with
  | 3 => some 0
  | 1 => some 1
  | 2 => some 2
  | 4 => some 3
  | 5 => some 4
  | 6 => some 5
  | 7 => some 6
  | 8 => some 7
  | 9 => some 8
  | 10 => some 9
  | 11 => some 10
  | 12 => some 11
  | 13 => some 12
  | _ => none

def bytesChanged (previousFrame currentFrame : List UInt8) (binding : FixtureChannelBinding)
    : Bool :=
  previousFrame.length ≠ currentFrame.length ||
    channelBytes currentFrame binding ≠ channelBytes previousFrame binding

/-! ### Values of the changed fixtures -/

structure CompactRow where
  fixtureId : Int32
  mask : Nat := 0
  values : Fin 13 → ℚ := fun _ => 0

namespace CompactRow

def set (row : CompactRow) (index : Fin 13) (value : ℚ) : CompactRow :=
  { row with values := fun i => if i = index then value else row.values i }

def mark (row : CompactRow) (index : Fin 13) (value : ℚ) : CompactRow :=
  { row.set index value with mask := row.mask ||| 2 ^ index.val }

end CompactRow

/-- The row of a fixture is changed where it is there. -/
def updateRow (rows : List CompactRow) (fixtureId : Int32) (f : CompactRow → CompactRow)
    : List CompactRow :=
  rows.map (fun row => if row.fixtureId = fixtureId then f row else row)

def hasRow (rows : List CompactRow) (fixtureId : Int32) : Bool :=
  rows.any (fun row => row.fixtureId = fixtureId)

/-- The rows with a blank one for the fixture where it has none. -/
def withRow (rows : List CompactRow) (fixtureId : Int32) : List CompactRow :=
  if hasRow rows fixtureId then rows else rows ++ [{ fixtureId := fixtureId }]

/-- The first loop: a row for each fixture with a changed channel. -/
def markChanged (previousFrame currentFrame : List UInt8) (rows : List CompactRow)
    (binding : FixtureChannelBinding) : List CompactRow :=
  match compactIndexForChannelType binding.channelType with
  | none => rows
  | some index =>
    if bytesChanged previousFrame currentFrame binding then
      let value := readNormalizedValue currentFrame binding
      updateRow (withRow rows binding.fixtureId) binding.fixtureId
        (fun row => row.mark index value)
    else rows

/-- The second loop: all channels of the fixtures that have a row. -/
def fillRow (currentFrame : List UInt8) (rows : List CompactRow)
    (binding : FixtureChannelBinding) : List CompactRow :=
  match compactIndexForChannelType binding.channelType with
  | none => rows
  | some index =>
    updateRow rows binding.fixtureId
      (fun row => row.set index (readNormalizedValue currentFrame binding))

def compactRows (bindings : List FixtureChannelBinding) (previousFrame currentFrame : List UInt8)
    : List CompactRow :=
  bindings.foldl (fillRow currentFrame) (bindings.foldl (markChanged previousFrame currentFrame) [])

/-! ### Render values -/

structure FixtureRenderParams where
  luminousFlux : ℚ := 10000
  beamAngleDefault : ℚ := 25
  zoomMinDeg : ℚ := -1
  zoomMaxDeg : ℚ := -1
  hasZoom : Bool := false
  hasColorTemperature : Bool := false
  colorTempK : ℚ := 5600
  spotMultiplier : ℚ := 1
  beamMultiplier : ℚ := 20

/-- `std::log` and `std::pow`. -/
structure MathLibrary where
  log : ℚ → ℚ
  pow : ℚ → ℚ → ℚ

def beamAngleOf (params : FixtureRenderParams) (zoom : ℚ) : ℚ :=
  if params.hasZoom then
    let zoomMin := if 0 ≤ params.zoomMinDeg then params.zoomMinDeg else 4
    let zoomMax := if 0 ≤ params.zoomMaxDeg then params.zoomMaxDeg else 90
    let lower := clamp (if zoomMax < zoomMin then zoomMax else zoomMin) (1 / 10) 90
    let upper := clamp (if zoomMax < zoomMin then zoomMin else zoomMax) lower 90
    lower + (upper - lower) * zoom
  else clamp params.beamAngleDefault (1 / 10) 90

structure Rgb where
  red : ℚ := 1
  green : ℚ := 1
  blue : ℚ := 1

def temperatureColor (math : MathLibrary) (colorTempK : ℚ) : Rgb :=
  let clampedTemperature := clamp colorTempK 1000 12000
  let warmFactor := clamp ((3200 - clampedTemperature) / (3200 - 2000)) 0 1
  let coolFactor := clamp ((clampedTemperature - 8500) / (11000 - 8500)) 0 1
  let tintMix := clamp (max warmFactor coolFactor * (4 / 100)) 0 1
  let t := clampedTemperature / 100
  let kelvin : Rgb :=
    if t ≤ 66 then
      { red := 255
        green := 994708025861 / 10000000000 * math.log t - 1611195681661 / 10000000000
        blue :=
          if t ≤ 19 then 0
          else 1385177312231 / 10000000000 * math.log (t - 10) - 3050447927307 / 10000000000 }
    else
      { red := 329698727446 / 1000000000 * math.pow (t - 60) (-1332047592 / 10000000000)
        green := 2881221695283 / 10000000000 * math.pow (t - 60) (-755148492 / 10000000000)
        blue := 255 }
  { red := 1 + (clamp (kelvin.red / 255) 0 1 - 1) * tintMix
    green := 1 + (clamp (kelvin.green / 255) 0 1 - 1) * tintMix
    blue := 1 + (clamp (kelvin.blue / 255) 0 1 - 1) * tintMix }

def colorOf (math : MathLibrary) (params : FixtureRenderParams) (cyan magenta yellow : ℚ) : Rgb :=
  if 1 / 10000 < cyan ∨ 1 / 10000 < magenta ∨ 1 / 10000 < yellow then
    { red := 1 - cyan, green := 1 - magenta, blue := 1 - yellow }
  else if params.hasColorTemperature then temperatureColor math params.colorTempK
  else {}

def renderReadyValues (math : MathLibrary) (params : FixtureRenderParams) (compact : Fin 13 → ℚ)
    : Fin 9 → ℚ :=
  let dimmer := clamp (compact 0) 0 1
  let zoom := clamp (compact 3) 0 1
  let color := colorOf math params (clamp (compact 4) 0 1) (clamp (compact 5) 0 1)
    (clamp (compact 6) 0 1)
  let beamAngle := beamAngleOf params zoom
  let baseEnergy := max params.luminousFlux 0 * dimmer * (2 / 100)
  ![baseEnergy, baseEnergy * params.spotMultiplier, beamAngle * (1 / 2), beamAngle, color.red,
    color.green, color.blue, clamp (dimmer * params.beamMultiplier) 0 50, dimmer * 4]

/-! ### Visible changes -/

structure VisualValues where
  compact : Fin 13 → ℚ := fun _ => 0
  render : Fin 9 → ℚ := fun _ => 0

structure VisualRow extends VisualValues where
  fixtureId : Int32
  mask : Nat

structure FixtureVisualState extends VisualValues where
  initialized : Bool := false

def compactEpsilon (index : Fin 13) : ℚ :=
  if index = 3 then 1 / 100 else 1 / 10000

def renderEpsilon (index : Fin 9) : ℚ :=
  if index = 2 ∨ index = 3 then 1 / 100 else 1 / 10000

def visualValueChanged (previousValue currentValue epsilon : ℚ) : Bool :=
  epsilon < |previousValue - currentValue|

def visualValuesChanged (previous current : VisualValues) : Bool :=
  (List.finRange 13).any (fun i =>
      visualValueChanged (previous.compact i) (current.compact i) (compactEpsilon i)) ||
    (List.finRange 9).any (fun i =>
      visualValueChanged (previous.render i) (current.render i) (renderEpsilon i))

/-- Whether a row is visibly changed. The state takes its values in either case. -/
def fixtureVisualStateChanged (state : FixtureVisualState) (row : VisualRow)
    : Bool × FixtureVisualState :=
  (!state.initialized || visualValuesChanged state.toVisualValues row.toVisualValues,
    { row.toVisualValues with initialized := true })

structure PeravizDmxUniverseDecoder where
  bindingsByUniverse : Int32 → Option (List FixtureChannelBinding) := fun _ => none
  previousFrames : Int32 → List UInt8 := fun _ => []
  renderParams : Int32 → Option FixtureRenderParams := fun _ => none
  visualStates : Int32 → FixtureVisualState := fun _ => {}

namespace PeravizDmxUniverseDecoder

variable (math : MathLibrary)

/-- The rows of the changed fixtures, and the decoder with the frame. -/
def decodeUniverseCompact (decoder : PeravizDmxUniverseDecoder) (universeId : Int32)
    (currentFrame : List UInt8) : List CompactRow × PeravizDmxUniverseDecoder :=
  let kept := { decoder with
    previousFrames := fun u => if u = universeId then currentFrame else decoder.previousFrames u }
  match decoder.bindingsByUniverse universeId with
  | none => ([], kept)
  | some bindings =>
    if currentFrame = [] then ([], kept)
    else (compactRows bindings (decoder.previousFrames universeId) currentFrame, kept)

def renderReadyRow (decoder : PeravizDmxUniverseDecoder) (row : CompactRow) : VisualRow where
  fixtureId := row.fixtureId
  mask := row.mask
  compact := row.values
  render := renderReadyValues math ((decoder.renderParams row.fixtureId).getD {}) row.values

def decodeUniverseRenderReady (decoder : PeravizDmxUniverseDecoder) (universeId : Int32)
    (currentFrame : List UInt8) : List VisualRow × PeravizDmxUniverseDecoder :=
  let decoded := decoder.decodeUniverseCompact universeId currentFrame
  (decoded.1.map (decoder.renderReadyRow math), decoded.2)

/-- One round of the loop over the rows. -/
def visitRow (x : List VisualRow × PeravizDmxUniverseDecoder) (row : VisualRow)
    : List VisualRow × PeravizDmxUniverseDecoder :=
  let result := fixtureVisualStateChanged (x.2.visualStates row.fixtureId) row
  (if result.1 then x.1 ++ [row] else x.1,
    { x.2 with
      visualStates := fun id =>
        if id = row.fixtureId then result.2 else x.2.visualStates id })

/-- The rows that are emitted. -/
def decodeUniverseVisualRenderReady (decoder : PeravizDmxUniverseDecoder) (universeId : Int32)
    (currentFrame : List UInt8) : List VisualRow × PeravizDmxUniverseDecoder :=
  let decoded := decoder.decodeUniverseRenderReady math universeId currentFrame
  decoded.1.foldl visitRow ([], decoded.2)

end PeravizDmxUniverseDecoder

end Peraviz.Dmx.Decoder
