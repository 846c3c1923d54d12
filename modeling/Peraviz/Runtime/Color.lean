import Peraviz.Runtime.Platform

namespace Peraviz.Runtime

structure LinearRgb where
  r : ℚ := 0
  g : ℚ := 0
  b : ℚ := 0
  deriving DecidableEq

namespace LinearRgb

def add (x y : LinearRgb) : LinearRgb := ⟨x.r + y.r, x.g + y.g, x.b + y.b⟩
def mul (x y : LinearRgb) : LinearRgb := ⟨x.r * y.r, x.g * y.g, x.b * y.b⟩
def scale (x : LinearRgb) (factor : ℚ) : LinearRgb := ⟨x.r * factor, x.g * factor, x.b * factor⟩

end LinearRgb

structure CieXyz where
  x : ℚ := 0
  y : ℚ := 0
  z : ℚ := 0
  valid : Bool := false

structure CieXyY where
  x : ℚ := 0
  y : ℚ := 0
  Y : ℚ := 0
  valid : Bool := false

def kEpsilon : ℚ := 1 / 1000000

def cieXyyToXyz (xyy : CieXyY) : CieXyz :=
  if !xyy.valid || xyy.y ≤ kEpsilon || xyy.Y < 0 then
    {}
  else
    ⟨xyy.x * xyy.Y / xyy.y, xyy.Y, (1 - xyy.x - xyy.y) * xyy.Y / xyy.y, true⟩

def xyzToLinearSrgb (xyz : CieXyz) : LinearRgb :=
  if !xyz.valid then
    {}
  else
    {
      r := 32404542 / 10000000 * xyz.x - 15371385 / 10000000 * xyz.y - 4985314 / 10000000 * xyz.z
      g := -9692660 / 10000000 * xyz.x + 18760108 / 10000000 * xyz.y + 415560 / 10000000 * xyz.z
      b := 556434 / 10000000 * xyz.x - 2040259 / 10000000 * xyz.y + 10572252 / 10000000 * xyz.z
    }

def srgbEncode (p : Platform) (value : ℚ) : ℚ :=
  let clamped := clamp value 0 1
  if clamped ≤ 31308 / 10000000 then
    clamped * (1292 / 100)
  else
    1055 / 1000 * p.pow clamped (10 / 24) - 55 / 1000

def cctToLinearSrgb (p : Platform) (kelvin : ℚ) : LinearRgb :=
  let t := kelvin / 100
  {
    r :=
      if t ≤ 66 then 1
      else clamp (1292936186 / 1000000000 * p.pow (t - 60) (-1332047592 / 10000000000)) 0 1
    g :=
      if t ≤ 66 then clamp (3900815788 / 10000000000 * p.log t - 6318414438 / 10000000000) 0 1
      else clamp (1129890861 / 1000000000 * p.pow (t - 60) (-755148492 / 10000000000)) 0 1
    b :=
      if 66 ≤ t then 1
      else if t ≤ 19 then 0
      else clamp (5432067891 / 10000000000 * p.log (t - 10) - 11962540891 / 10000000000) 0 1
  }

/-- The chromaticity of a color and its gain, both zero for a color that is not visible. -/
def normalizeColorGain (rgb : LinearRgb) : LinearRgb × ℚ :=
  let gain := max (max rgb.r rgb.g) (max rgb.b 0)
  if gain ≤ kEpsilon then ({}, 0) else (⟨rgb.r / gain, rgb.g / gain, rgb.b / gain⟩, gain)

structure CookedEmitterColor where
  srgbRed : ℚ := 1
  srgbGreen : ℚ := 1
  srgbBlue : ℚ := 1
  gain : ℚ := 1
  linearRed : ℚ := 1
  linearGreen : ℚ := 1
  linearBlue : ℚ := 1
  valid : Bool := true
  initialized : Bool := false
  deriving DecidableEq

def CookedEmitterColor.linear (color : CookedEmitterColor) : LinearRgb :=
  ⟨color.linearRed, color.linearGreen, color.linearBlue⟩

def CookedEmitterColor.dark : CookedEmitterColor := ⟨0, 0, 0, 0, 0, 0, 0, true, true⟩

def encodeCooked (p : Platform) (linear : LinearRgb) (gain : ℚ) : CookedEmitterColor where
  srgbRed := p.toFloat (srgbEncode p linear.r)
  srgbGreen := p.toFloat (srgbEncode p linear.g)
  srgbBlue := p.toFloat (srgbEncode p linear.b)
  gain := p.toFloat gain
  linearRed := linear.r
  linearGreen := linear.g
  linearBlue := linear.b
  valid := true
  initialized := true

/-- How every cook ends: the gain is split off and the chromaticity is encoded. -/
def cookLinear (p : Platform) (linear : LinearRgb) : CookedEmitterColor :=
  let (normalized, gain) := normalizeColorGain linear
  if gain ≤ 0 then .dark else encodeCooked p normalized gain

/-- The resource tables, of two resources with one identifier the later one counts. -/
structure ColorResources where
  emitters : List CompiledEmitterResource := []
  filters : List CompiledFilterResource := []

namespace ColorResources

def emitter? (resources : ColorResources) (id : Int32) : Option CompiledEmitterResource :=
  resources.emitters.reverse.find? (fun emitter => emitter.resourceId == id)

def filter? (resources : ColorResources) (id : Int32) : Option CompiledFilterResource :=
  resources.filters.reverse.find? (fun filter => filter.resourceId == id)

end ColorResources

/-- The local variables of the loop over the inputs of a color target. -/
structure EmitterMix where
  add : LinearRgb := {}
  subC : ℚ := 0
  subM : ℚ := 0
  subY : ℚ := 0
  physicalFilters : List (CompiledFilterResource × ℚ) := []
  hasAdditive : Bool := false
  cieX : Option ℚ := none
  cieY : Option ℚ := none
  cieBrightness : Option ℚ := none
  cctKelvin : ℚ := 0
  tintValue : Option ℚ := none

namespace EmitterMix

def addLight (mix : EmitterMix) (light : LinearRgb) : EmitterMix :=
  { mix with add := mix.add.add light, hasAdditive := true }

def addSemantic (mix : EmitterMix) (semantic : CompiledSemantic) (raw v : ℚ) : EmitterMix :=
  match semantic with
  | .listed .colorAddRed => mix.addLight ⟨v, 0, 0⟩
  | .listed .colorAddGreen => mix.addLight ⟨0, v, 0⟩
  | .listed .colorAddBlue => mix.addLight ⟨0, 0, v⟩
  | .listed .colorAddWhite => mix.addLight ⟨v, v, v⟩
  | .listed .colorAddAmber => mix.addLight ⟨v, v * (45 / 100), 0⟩
  | .listed .colorAddLime => mix.addLight ⟨v * (15 / 100), v, 0⟩
  | .listed .colorSubCyan => { mix with subC := max mix.subC v }
  | .listed .colorSubMagenta => { mix with subM := max mix.subM v }
  | .listed .colorSubYellow => { mix with subY := max mix.subY v }
  | .listed .cieX => { mix with cieX := some raw }
  | .listed .cieY => { mix with cieY := some raw }
  | .listed .cieBrightness => { mix with cieBrightness := some (max 0 raw) }
  | .listed .cto => { mix with cctKelvin := raw }
  | .listed .ctb => { mix with cctKelvin := raw }
  | .listed .ctc => { mix with cctKelvin := raw }
  | .listed .tint => { mix with tintValue := some raw }
  | _ => mix

/-- A valid emitter comes before a valid filter, and both before the semantic. -/
def addInput (resources : ColorResources) (mix : EmitterMix)
    (input : CompiledColorInputBinding × ℚ) : EmitterMix :=
  let v := clamp input.2 0 1
  match (resources.emitter? input.1.emitterResourceId).filter (·.valid) with
  | some emitter =>
    mix.addLight
      (LinearRgb.scale ⟨emitter.fallbackLinearR, emitter.fallbackLinearG, emitter.fallbackLinearB⟩
        v)
  | none =>
    match (resources.filter? input.1.filterResourceId).filter (·.valid) with
    | some filter => { mix with physicalFilters := mix.physicalFilters ++ [(filter, v)] }
    | none => mix.addSemantic input.1.semantic input.2 v

end EmitterMix

def applyFilter (linear : LinearRgb) (entry : CompiledFilterResource × ℚ) : LinearRgb :=
  let insertion := clamp entry.2 0 1
  let transmission := 1 + (clamp entry.1.fallbackTransmission 0 1 - 1) * insertion
  linear.mul {
    r := transmission * (1 + (clamp entry.1.fallbackLinearR 0 1 - 1) * insertion)
    g := transmission * (1 + (clamp entry.1.fallbackLinearG 0 1 - 1) * insertion)
    b := transmission * (1 + (clamp entry.1.fallbackLinearB 0 1 - 1) * insertion)
  }

def applySubtractive (mix : EmitterMix) (linear : LinearRgb) : LinearRgb :=
  linear.mul ⟨1 - clamp mix.subC 0 1, 1 - clamp mix.subM 0 1, 1 - clamp mix.subY 0 1⟩

def applyCorrections (p : Platform) (mix : EmitterMix) (linear : LinearRgb) : LinearRgb :=
  let linear := if 0 < mix.cctKelvin then linear.mul (cctToLinearSrgb p mix.cctKelvin) else linear
  match mix.tintValue with
  | none => linear
  | some tint =>
    let shift := clamp tint (-1) 1 * (8 / 100)
    linear.mul ⟨1 - shift * (1 / 2), 1 + shift, 1 - shift * (1 / 2)⟩

def mixedLight (mix : EmitterMix) : LinearRgb :=
  match mix.cieX, mix.cieY, mix.cieBrightness with
  | some x, some y, some brightness => xyzToLinearSrgb (cieXyyToXyz ⟨x, y, brightness, true⟩)
  | _, _, _ => if mix.hasAdditive then mix.add else ⟨1, 1, 1⟩

/-- The inputs are those of the target in order, each with its value or the override of it. -/
def cookEmitterColor (p : Platform) (resources : ColorResources)
    (target : CompiledColorTargetProgram) (inputs : List (CompiledColorInputBinding × ℚ))
    : CookedEmitterColor :=
  let mix := inputs.foldl (EmitterMix.addInput resources) { hasAdditive := target.additiveSource }
  let filtered := mix.physicalFilters.foldl applyFilter (mixedLight mix)
  cookLinear p (applyCorrections p mix (applySubtractive mix filtered))

structure WheelTargetState where
  activeBindingId : Int32 := 0
  beamTargetId : Int32 := 0
  wheelRendererId : Int32 := 0
  slotA : Int32 := 0
  slotB : Int32 := 0
  srgbRed : ℚ := 1
  srgbGreen : ℚ := 1
  srgbBlue : ℚ := 1
  gain : ℚ := 1
  linearRed : ℚ := 1
  linearGreen : ℚ := 1
  linearBlue : ℚ := 1
  normalizedPhase : ℚ := 0
  splitFraction : ℚ := 0
  boundaryAngleDegrees : ℚ := 0
  mode : CompiledWheelMode := .listed .select
  revision : Int32 := 0
  initialized : Bool := false
  deriving DecidableEq

def applyLayer (absolute : LinearRgb) (layer : WheelTargetState) : LinearRgb :=
  if !layer.initialized then
    absolute
  else
    absolute.mul
      (LinearRgb.scale ⟨layer.linearRed, layer.linearGreen, layer.linearBlue⟩ layer.gain)

def composeOrderedTargetColor (p : Platform) (base : CookedEmitterColor)
    (layers : List WheelTargetState) : CookedEmitterColor :=
  cookLinear p (layers.foldl applyLayer (base.linear.scale base.gain))

def cookWheelSlotLayer (p : Platform) (slot : CompiledWheelPaletteSlot) : CookedEmitterColor :=
  let linear : LinearRgb :=
    ⟨clamp slot.linearRed 0 1, clamp slot.linearGreen 0 1, clamp slot.linearBlue 0 1⟩
  let gain := max 0 slot.gain
  if gain ≤ 0 ∨ (linear.r ≤ 0 ∧ linear.g ≤ 0 ∧ linear.b ≤ 0) then
    .dark
  else
    { encodeCooked p linear gain with gain := gain }

def slotLight (slot : CompiledWheelPaletteSlot) : LinearRgb :=
  LinearRgb.scale ⟨clamp slot.linearRed 0 1, clamp slot.linearGreen 0 1, clamp slot.linearBlue 0 1⟩
    (max 0 slot.gain)

def aggregateIndexedWheelLayer (p : Platform) (slotA slotB : CompiledWheelPaletteSlot)
    (splitFraction : ℚ) : CookedEmitterColor :=
  let bWeight := clamp splitFraction 0 1
  let aWeight := 1 - bWeight
  cookLinear p (((slotLight slotA).scale aWeight).add ((slotLight slotB).scale bWeight))

end Peraviz.Runtime
