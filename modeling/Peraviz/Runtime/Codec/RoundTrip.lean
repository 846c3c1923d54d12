import Peraviz.Runtime.Codec.Lemmas

/-!
This module contains the round trip of a compiled scene through its packed form.
-/

namespace Peraviz.Runtime
namespace Codec

variable {fmt : FloatFormat}

def transportFixture (fmt : FloatFormat) (v : CompiledFixtureInstance)
    : CompiledFixtureInstance where
  fixtureId := v.fixtureId
  universeId := v.universeId
  startAddress := v.startAddress
  luminousFlux := fmt.toFloat v.luminousFlux
  beamAngleDefault := fmt.toFloat v.beamAngleDefault

def transportSourceProgram (fmt : FloatFormat) (v : CompiledDmxSourceProgram)
    : CompiledDmxSourceProgram :=
  { v with
    physicalFrom := fmt.toFloat v.physicalFrom
    physicalTo := fmt.toFloat v.physicalTo
  }

def transportContributor (fmt : FloatFormat) (c : CompiledPropertyContributor)
    : CompiledPropertyContributor :=
  { c with weight := fmt.toFloat c.weight }

def transportProperty (fmt : FloatFormat) (v : CompiledComponentProperty)
    : CompiledComponentProperty :=
  { v with contributors := v.contributors.map (transportContributor fmt) }

def transportColorInput (fmt : FloatFormat) (x : CompiledColorInputBinding)
    : CompiledColorInputBinding :=
  { x with defaultValue := fmt.toFloat x.defaultValue }

def transportColorTarget (fmt : FloatFormat) (v : CompiledColorTargetProgram)
    : CompiledColorTargetProgram :=
  { v with inputs := v.inputs.map (transportColorInput fmt) }

def transportPaletteSlot (fmt : FloatFormat) (s : CompiledWheelPaletteSlot)
    : CompiledWheelPaletteSlot where
  slotIndex := s.slotIndex
  srgbRed := fmt.toFloat s.srgbRed
  srgbGreen := fmt.toFloat s.srgbGreen
  srgbBlue := fmt.toFloat s.srgbBlue
  linearRed := fmt.toFloat s.linearRed
  linearGreen := fmt.toFloat s.linearGreen
  linearBlue := fmt.toFloat s.linearBlue
  gain := fmt.toFloat s.gain
  identity := s.identity

def transportWheelPalette (fmt : FloatFormat) (v : CompiledWheelPalette) : CompiledWheelPalette :=
  { v with
    placementOffsetDegrees := fmt.toFloat v.placementOffsetDegrees
    slots := v.slots.map (transportPaletteSlot fmt)
  }

/-- The physical range of a channel set is not packed. -/
def transportChannelSet (s : CompiledWheelChannelSet) : CompiledWheelChannelSet where
  dmxFrom := s.dmxFrom
  dmxTo := s.dmxTo
  wheelSlotIndex := s.wheelSlotIndex

def transportWheelBinding (fmt : FloatFormat) (v : CompiledWheelTargetBinding)
    : CompiledWheelTargetBinding :=
  { v with
    placementOffsetDegrees := fmt.toFloat v.placementOffsetDegrees
    channelSets := v.channelSets.map transportChannelSet
  }

def transportGoboBinding (v : CompiledGoboSelectionBinding) : CompiledGoboSelectionBinding :=
  { v with channelSets := v.channelSets.map transportChannelSet }

/-- Of the physical unit, only whether it is the angle is packed. -/
def transportUnit (physicalUnit : String) : String :=
  if physicalUnit = "Angle" then "Angle" else "None"

def transportGoboMotion (fmt : FloatFormat) (v : CompiledGoboMotionBinding)
    : CompiledGoboMotionBinding :=
  { v with
    physicalFrom := fmt.toFloat v.physicalFrom
    physicalTo := fmt.toFloat v.physicalTo
    physicalUnit := transportUnit v.physicalUnit
    channelSets := []
  }

def transportShutter (fmt : FloatFormat) (v : CompiledShutterBinding) : CompiledShutterBinding :=
  { v with
    duration := fmt.toFloat v.duration
    duty := fmt.toFloat v.duty
    offset := fmt.toFloat v.offset
    physicalFrom := fmt.toFloat v.physicalFrom
    physicalTo := fmt.toFloat v.physicalTo
  }

/-- What the packed form carries of a scene, everything else is the default. -/
def transport (fmt : FloatFormat) (scene : CompiledRuntimeScene) : CompiledRuntimeScene where
  contractVersion := scene.contractVersion
  fixtures := scene.fixtures.map (transportFixture fmt)
  sourcePrograms := scene.sourcePrograms.map (transportSourceProgram fmt)
  properties := scene.properties.map (transportProperty fmt)
  colorTargets := scene.colorTargets.map (transportColorTarget fmt)
  wheelPalettes := scene.wheelPalettes.map (transportWheelPalette fmt)
  wheelBindings := scene.wheelBindings.map (transportWheelBinding fmt)
  goboAssets := scene.goboAssets
  goboBindings := scene.goboBindings.map transportGoboBinding
  goboMotionBindings := scene.goboMotionBindings.map (transportGoboMotion fmt)
  shutterBindings := scene.shutterBindings.map (transportShutter fmt)

theorem decodes_fixture (v : CompiledFixtureInstance)
    : Decodes fmt decodeFixture (fixtureCells v) () (fun scene => { scene with
        fixtures := scene.fixtures ++ [transportFixture fmt v] }) := by
  unfold decodeFixture fixtureCells
  iterate 4 apply Decodes.read_bind
  iterate 2 apply Decodes.readFloat_bind
  exact Decodes.push _

theorem decodes_byteSource (s : CompiledDmxByteSource)
    : Decodes fmt decodeByteSource (byteSourceCells s) s id := by
  unfold decodeByteSource byteSourceCells
  iterate 3 apply Decodes.read_bind
  exact Decodes.pure _

theorem decodes_activation (c : ModeMasterCondition)
    : Decodes fmt (decodeActivation 9) [ofUInt8 c.targetKind.toUnderlying, .int c.masterProgramId,
        ofUInt32 c.fromValue, ofUInt32 c.toValue, ofBool c.valid, .int c.targetId,
        .int c.masterChannelId] c id := by
  unfold decodeActivation
  rw [if_pos (by decide)]
  apply Decodes.readUInt8_bind
  apply Decodes.read_bind
  iterate 2 apply Decodes.readUInt32_bind
  apply Decodes.readBool_bind
  iterate 2 apply Decodes.read_bind
  rw [Enumeration.ofUnderlying_toUnderlying]
  exact Decodes.pure _

theorem decodes_sourceProgram (v : CompiledDmxSourceProgram) (hsources : v.sources.length < 2 ^ 31)
    : Decodes fmt (decodeSourceProgram 9) (sourceProgramCells v) () (fun scene => { scene with
        sourcePrograms := scene.sourcePrograms ++ [transportSourceProgram fmt v] }) := by
  have hnested : Decodes fmt (nested (Int32.ofNat v.sources.length) 3 decodeByteSource)
      (v.sources.flatMap byteSourceCells) (v.sources.map id) id :=
    Decodes.nested 3 decodes_byteSource (fun _ => rfl) (by decide) hsources
  unfold decodeSourceProgram sourceProgramCells
  iterate 3 apply Decodes.read_bind
  iterate 2 apply Decodes.readUInt32_bind
  iterate 2 apply Decodes.readFloat_bind
  apply (decodes_activation v.activation).id_bind
  rw [Enumeration.ofUnderlying_toUnderlying]
  rw [List.map_id] at hnested
  exact hnested.bind_push _

theorem decodes_contributor (c : CompiledPropertyContributor)
    : Decodes fmt decodeContributor (contributorCells c) (transportContributor fmt c) id := by
  unfold decodeContributor contributorCells
  apply Decodes.read_bind
  apply Decodes.readFloat_bind
  apply Decodes.read_bind
  rw [Enumeration.ofUnderlying_toUnderlying]
  exact Decodes.pure _

theorem decodes_property (v : CompiledComponentProperty)
    (hcontributors : v.contributors.length < 2 ^ 31)
    : Decodes fmt decodeProperty (propertyCells v) () (fun scene => { scene with
        properties := scene.properties ++ [transportProperty fmt v] }) := by
  have hnested := Decodes.nested 3 (@decodes_contributor fmt) (fun _ => rfl) (by decide)
    hcontributors
  unfold decodeProperty propertyCells
  iterate 6 apply Decodes.read_bind
  rw [Enumeration.ofUnderlying_toUnderlying]
  exact hnested.bind_push _

theorem decodes_colorInput (x : CompiledColorInputBinding)
    : Decodes fmt (decodeColorInput 9) (colorInputCells x) (transportColorInput fmt x) id := by
  unfold decodeColorInput colorInputCells
  iterate 2 apply Decodes.read_bind
  apply Decodes.readFloat_bind
  apply Decodes.readBool_bind
  rw [if_pos (by decide)]
  iterate 2 apply Decodes.read_bind
  rw [Enumeration.ofUnderlying_toUnderlying]
  exact Decodes.pure _

theorem decodes_colorTarget (v : CompiledColorTargetProgram) (hinputs : v.inputs.length < 2 ^ 31)
    : Decodes fmt (decodeColorTarget 9) (colorTargetCells v) () (fun scene => { scene with
        colorTargets := scene.colorTargets ++ [transportColorTarget fmt v] }) := by
  have hnested := Decodes.nested 6 (@decodes_colorInput fmt) (fun _ => rfl) (by decide)
    hinputs
  unfold decodeColorTarget colorTargetCells
  iterate 4 apply Decodes.read_bind
  apply Decodes.readBool_bind
  apply Decodes.read_bind
  exact hnested.bind_push _

theorem decodes_paletteSlot (s : CompiledWheelPaletteSlot)
    : Decodes fmt (decodePaletteSlot fmt) (paletteSlotCells s) (transportPaletteSlot fmt s) id := by
  unfold decodePaletteSlot paletteSlotCells
  apply Decodes.read_bind
  iterate 7 apply Decodes.readFloat_bind
  apply Decodes.readBool_bind
  simp only [fmt.toFloat_toFloat]
  exact Decodes.pure _

theorem decodes_wheelPalette (v : CompiledWheelPalette) (hslots : v.slots.length < 2 ^ 31)
    : Decodes fmt (decodeWheelPalette fmt) (wheelPaletteCells v) () (fun scene => { scene with
        wheelPalettes := scene.wheelPalettes ++ [transportWheelPalette fmt v] }) := by
  have hnested := Decodes.nested 9 (@decodes_paletteSlot fmt) (fun _ => rfl) (by decide)
    hslots
  unfold decodeWheelPalette wheelPaletteCells
  iterate 2 apply Decodes.read_bind
  apply Decodes.readFloat_bind
  apply Decodes.read_bind
  rw [fmt.toFloat_toFloat]
  exact hnested.bind_push _

theorem decodes_channelSet (s : CompiledWheelChannelSet)
    : Decodes fmt decodeChannelSet (channelSetCells s) (transportChannelSet s) id := by
  unfold decodeChannelSet channelSetCells
  iterate 2 apply Decodes.readUInt32_bind
  apply Decodes.read_bind
  exact Decodes.pure _

theorem decodes_wheelBinding (v : CompiledWheelTargetBinding)
    (hsets : v.channelSets.length < 2 ^ 31)
    : Decodes fmt (decodeWheelBinding fmt) (wheelBindingCells v) () (fun scene => { scene with
        wheelBindings := scene.wheelBindings ++ [transportWheelBinding fmt v] }) := by
  have hnested := Decodes.nested 3 (@decodes_channelSet fmt) (fun _ => rfl) (by decide) hsets
  unfold decodeWheelBinding wheelBindingCells
  iterate 6 apply Decodes.read_bind
  apply Decodes.readBool_bind
  apply Decodes.readFloat_bind
  apply Decodes.read_bind
  rw [fmt.toFloat_toFloat, Enumeration.ofUnderlying_toUnderlying]
  exact hnested.bind_push _

theorem decodes_goboAsset (v : CompiledGoboAsset)
    : Decodes fmt decodeGoboAsset (goboAssetCells v) () (fun scene => { scene with
        goboAssets := scene.goboAssets ++ [v] }) := by
  unfold decodeGoboAsset goboAssetCells
  iterate 3 apply Decodes.read_bind
  iterate 2 apply Decodes.readBool_bind
  exact Decodes.push _

theorem decodes_goboBinding (v : CompiledGoboSelectionBinding)
    (hsets : v.channelSets.length < 2 ^ 31)
    : Decodes fmt decodeGoboBinding (goboBindingCells v) () (fun scene => { scene with
        goboBindings := scene.goboBindings ++ [transportGoboBinding v] }) := by
  have hnested := Decodes.nested 3 (@decodes_channelSet fmt) (fun _ => rfl) (by decide) hsets
  unfold decodeGoboBinding goboBindingCells
  iterate 8 apply Decodes.read_bind
  rw [Enumeration.ofUnderlying_toUnderlying]
  exact hnested.bind_push _

theorem decodes_goboMotion (v : CompiledGoboMotionBinding)
    : Decodes fmt decodeGoboMotion (goboMotionCells v) () (fun scene => { scene with
        goboMotionBindings := scene.goboMotionBindings ++ [transportGoboMotion fmt v] }) := by
  unfold decodeGoboMotion goboMotionCells
  iterate 6 apply Decodes.read_bind
  iterate 2 apply Decodes.readUInt8_bind
  iterate 2 apply Decodes.readFloat_bind
  iterate 2 apply Decodes.readBool_bind
  apply Decodes.read_bind
  apply (Decodes.push _).congr rfl
  intro scene
  by_cases h : v.physicalUnit = "Angle" <;> simp [h, transportGoboMotion, transportUnit]

theorem decodes_shutterMode (modeFrom modeTo : UInt32) (activationFunctionId : Int32)
    : Decodes fmt (decodeShutterMode 9)
        [ofUInt32 modeFrom, ofUInt32 modeTo, .int activationFunctionId]
        (modeFrom, modeTo, activationFunctionId) id := by
  unfold decodeShutterMode
  rw [if_pos (by decide)]
  iterate 2 apply Decodes.readUInt32_bind
  apply Decodes.read_bind
  exact Decodes.pure _

theorem decodes_shutter (v : CompiledShutterBinding)
    : Decodes fmt (decodeShutter 9) (shutterCells v) () (fun scene => { scene with
        shutterBindings := scene.shutterBindings ++ [transportShutter fmt v] }) := by
  unfold decodeShutter shutterCells
  iterate 6 apply Decodes.read_bind
  iterate 2 apply Decodes.readUInt32_bind
  iterate 5 apply Decodes.readFloat_bind
  rw [Enumeration.ofUnderlying_toUnderlying]
  exact (decodes_shutterMode v.modeFrom v.modeTo v.activationFunctionId).bind_push _

def tableSizes (scene : CompiledRuntimeScene) : List Nat :=
  [scene.fixtures.length, scene.sourcePrograms.length, scene.properties.length,
    scene.colorTargets.length, scene.wheelPalettes.length, scene.wheelBindings.length,
    scene.goboAssets.length, scene.goboBindings.length, scene.goboMotionBindings.length,
    scene.shutterBindings.length]

/-- Every count and every float index fits an `int32_t`. -/
structure Fits (scene : CompiledRuntimeScene) : Prop where
  tables : ∀ n ∈ tableSizes scene, n < 2 ^ 31
  sources : ∀ v ∈ scene.sourcePrograms, v.sources.length < 2 ^ 31
  contributors : ∀ v ∈ scene.properties, v.contributors.length < 2 ^ 31
  inputs : ∀ v ∈ scene.colorTargets, v.inputs.length < 2 ^ 31
  slots : ∀ v ∈ scene.wheelPalettes, v.slots.length < 2 ^ 31
  wheelSets : ∀ v ∈ scene.wheelBindings, v.channelSets.length < 2 ^ 31
  goboSets : ∀ v ∈ scene.goboBindings, v.channelSets.length < 2 ^ 31
  floats : (sceneCells scene).countP (fun cell => cell matches .float _) < 2 ^ 31

theorem length_le_flatMap {γ : Type} (cellsOf : γ → List Cell) (h : ∀ v, 0 < (cellsOf v).length)
    (l : List γ)
    : l.length ≤ (l.flatMap cellsOf).length := by
  induction l with
  | nil => simp
  | cons v l ih =>
    have := h v
    rw [List.flatMap_cons, List.length_append, List.length_cons]
    omega

def tableCells (scene : CompiledRuntimeScene) : List Cell :=
  (sceneCells scene).drop 12

theorem size_le_tableCells (scene : CompiledRuntimeScene)
    : ∀ n ∈ tableSizes scene, n ≤ (tableCells scene).length := by
  have h1 := length_le_flatMap fixtureCells (by simp [fixtureCells]) scene.fixtures
  have h2 := length_le_flatMap sourceProgramCells (by simp [sourceProgramCells]) scene.sourcePrograms
  have h3 := length_le_flatMap propertyCells (by simp [propertyCells]) scene.properties
  have h4 := length_le_flatMap colorTargetCells (by simp [colorTargetCells]) scene.colorTargets
  have h5 := length_le_flatMap wheelPaletteCells (by simp [wheelPaletteCells]) scene.wheelPalettes
  have h6 := length_le_flatMap wheelBindingCells (by simp [wheelBindingCells]) scene.wheelBindings
  have h7 := length_le_flatMap goboAssetCells (by simp [goboAssetCells]) scene.goboAssets
  have h8 := length_le_flatMap goboBindingCells (by simp [goboBindingCells]) scene.goboBindings
  have h9 := length_le_flatMap goboMotionCells (by simp [goboMotionCells]) scene.goboMotionBindings
  have h10 := length_le_flatMap shutterCells (by simp [shutterCells]) scene.shutterBindings
  intro n hn
  simp only [tableSizes, List.mem_cons, List.not_mem_nil, or_false] at hn
  simp only [tableCells, sceneCells, headerCells, List.cons_append, List.nil_append,
    List.drop_succ_cons, List.drop_zero, List.length_append]
  omega

/-- What the records of the packed form do to the scene that is decoded. -/
def appendTables (fmt : FloatFormat) (scene s : CompiledRuntimeScene) : CompiledRuntimeScene :=
  { s with
    fixtures := s.fixtures ++ (transport fmt scene).fixtures
    sourcePrograms := s.sourcePrograms ++ (transport fmt scene).sourcePrograms
    properties := s.properties ++ (transport fmt scene).properties
    colorTargets := s.colorTargets ++ (transport fmt scene).colorTargets
    wheelPalettes := s.wheelPalettes ++ (transport fmt scene).wheelPalettes
    wheelBindings := s.wheelBindings ++ (transport fmt scene).wheelBindings
    goboAssets := s.goboAssets ++ (transport fmt scene).goboAssets
    goboBindings := s.goboBindings ++ (transport fmt scene).goboBindings
    goboMotionBindings := s.goboMotionBindings ++ (transport fmt scene).goboMotionBindings
    shutterBindings := s.shutterBindings ++ (transport fmt scene).shutterBindings
  }

section

variable {scene : CompiledRuntimeScene}

theorem decodes_fixtures
    : Decodes fmt (records 6 decodeFixture scene.fixtures.length)
        (scene.fixtures.flatMap fixtureCells) ()
        (fun s => { s with fixtures := s.fixtures ++ scene.fixtures.map (transportFixture fmt) }) :=
  Decodes.table (fun l s => { s with fixtures := s.fixtures ++ l }) (by simp) (by simp)
    (fun v _ => decodes_fixture v) (by simp [fixtureCells])

theorem decodes_sourcePrograms (h : Fits scene)
    : Decodes fmt (records 14 (decodeSourceProgram 9) scene.sourcePrograms.length)
        (scene.sourcePrograms.flatMap sourceProgramCells) ()
        (fun s => { s with sourcePrograms :=
          s.sourcePrograms ++ scene.sourcePrograms.map (transportSourceProgram fmt) }) :=
  Decodes.table (fun l s => { s with sourcePrograms := s.sourcePrograms ++ l }) (by simp) (by simp)
    (fun v hv => decodes_sourceProgram v (h.sources v hv)) (by simp [sourceProgramCells])

theorem decodes_properties (h : Fits scene)
    : Decodes fmt (records 6 decodeProperty scene.properties.length)
        (scene.properties.flatMap propertyCells) ()
        (fun s => { s with properties :=
          s.properties ++ scene.properties.map (transportProperty fmt) }) :=
  Decodes.table (fun l s => { s with properties := s.properties ++ l }) (by simp) (by simp)
    (fun v hv => decodes_property v (h.contributors v hv)) (by simp [propertyCells])

theorem decodes_colorTargets (h : Fits scene)
    : Decodes fmt (records 6 (decodeColorTarget 9) scene.colorTargets.length)
        (scene.colorTargets.flatMap colorTargetCells) ()
        (fun s => { s with colorTargets :=
          s.colorTargets ++ scene.colorTargets.map (transportColorTarget fmt) }) :=
  Decodes.table (fun l s => { s with colorTargets := s.colorTargets ++ l }) (by simp) (by simp)
    (fun v hv => decodes_colorTarget v (h.inputs v hv)) (by simp [colorTargetCells])

theorem decodes_wheelPalettes (h : Fits scene)
    : Decodes fmt (records 4 (decodeWheelPalette fmt) scene.wheelPalettes.length)
        (scene.wheelPalettes.flatMap wheelPaletteCells) ()
        (fun s => { s with wheelPalettes :=
          s.wheelPalettes ++ scene.wheelPalettes.map (transportWheelPalette fmt) }) :=
  Decodes.table (fun l s => { s with wheelPalettes := s.wheelPalettes ++ l }) (by simp) (by simp)
    (fun v hv => decodes_wheelPalette v (h.slots v hv)) (by simp [wheelPaletteCells])

theorem decodes_wheelBindings (h : Fits scene)
    : Decodes fmt (records 9 (decodeWheelBinding fmt) scene.wheelBindings.length)
        (scene.wheelBindings.flatMap wheelBindingCells) ()
        (fun s => { s with wheelBindings :=
          s.wheelBindings ++ scene.wheelBindings.map (transportWheelBinding fmt) }) :=
  Decodes.table (fun l s => { s with wheelBindings := s.wheelBindings ++ l }) (by simp) (by simp)
    (fun v hv => decodes_wheelBinding v (h.wheelSets v hv)) (by simp [wheelBindingCells])

theorem decodes_goboAssets
    : Decodes fmt (records 5 decodeGoboAsset scene.goboAssets.length)
        (scene.goboAssets.flatMap goboAssetCells) ()
        (fun s => { s with goboAssets := s.goboAssets ++ scene.goboAssets.map id }) :=
  Decodes.table (fun l s => { s with goboAssets := s.goboAssets ++ l }) (by simp) (by simp)
    (fun v _ => decodes_goboAsset v) (by simp [goboAssetCells])

theorem decodes_goboBindings (h : Fits scene)
    : Decodes fmt (records 8 decodeGoboBinding scene.goboBindings.length)
        (scene.goboBindings.flatMap goboBindingCells) ()
        (fun s => { s with goboBindings :=
          s.goboBindings ++ scene.goboBindings.map transportGoboBinding }) :=
  Decodes.table (fun l s => { s with goboBindings := s.goboBindings ++ l }) (by simp) (by simp)
    (fun v hv => decodes_goboBinding v (h.goboSets v hv)) (by simp [goboBindingCells])

theorem decodes_goboMotions
    : Decodes fmt (records 13 decodeGoboMotion scene.goboMotionBindings.length)
        (scene.goboMotionBindings.flatMap goboMotionCells) ()
        (fun s => { s with goboMotionBindings :=
          s.goboMotionBindings ++ scene.goboMotionBindings.map (transportGoboMotion fmt) }) :=
  Decodes.table (fun l s => { s with goboMotionBindings := s.goboMotionBindings ++ l }) (by simp)
    (by simp) (fun v _ => decodes_goboMotion v) (by simp [goboMotionCells])

theorem decodes_shutters
    : Decodes fmt (records 16 (decodeShutter 9) scene.shutterBindings.length)
        (scene.shutterBindings.flatMap shutterCells) ()
        (fun s => { s with shutterBindings :=
          s.shutterBindings ++ scene.shutterBindings.map (transportShutter fmt) }) :=
  Decodes.table (fun l s => { s with shutterBindings := s.shutterBindings ++ l }) (by simp)
    (by simp) (fun v _ => decodes_shutter v) (by simp [shutterCells])

theorem decodes_records (h : Fits scene)
    : Decodes fmt (do
        records 6 decodeFixture scene.fixtures.length
        records 14 (decodeSourceProgram 9) scene.sourcePrograms.length
        records 6 decodeProperty scene.properties.length
        records 6 (decodeColorTarget 9) scene.colorTargets.length
        records 4 (decodeWheelPalette fmt) scene.wheelPalettes.length
        records 9 (decodeWheelBinding fmt) scene.wheelBindings.length
        records 5 decodeGoboAsset scene.goboAssets.length
        records 8 decodeGoboBinding scene.goboBindings.length
        records 13 decodeGoboMotion scene.goboMotionBindings.length
        records 16 (decodeShutter 9) scene.shutterBindings.length)
        (tableCells scene) () (appendTables fmt scene) := by
  apply Decodes.congr
  . apply decodes_fixtures.bind
    apply (decodes_sourcePrograms h).bind
    apply (decodes_properties h).bind
    apply (decodes_colorTargets h).bind
    apply (decodes_wheelPalettes h).bind
    apply (decodes_wheelBindings h).bind
    apply decodes_goboAssets.bind
    apply (decodes_goboBindings h).bind
    apply decodes_goboMotions.bind
    exact decodes_shutters
  . rfl
  . intro s
    simp [appendTables, transport]

theorem decodes_tables (h : Fits scene)
    : Decodes fmt (decodeTables fmt 9) ((sceneCells scene).drop 1) () (appendTables fmt scene) := by
  have hcounts : ∀ n ∈ tableSizes scene, n < 2 ^ 31 ∧ n ≤ (tableCells scene).length :=
    fun n hn => ⟨h.tables n hn, size_le_tableCells scene n hn⟩
  have hclamp : ∀ n ∈ tableSizes scene, (Int32.ofNat n).toNatClampNeg = n :=
    fun n hn => toNatClampNeg_ofNat (h.tables n hn)
  simp only [tableSizes, List.mem_cons, List.not_mem_nil, or_false, forall_eq_or_imp,
    forall_eq] at hclamp
  obtain ⟨h1, h2, h3, h4, h5, h6, h7, h8, h9, h10⟩ := hclamp
  unfold decodeTables
  apply (Decodes.counts [Int32.ofNat scene.fixtures.length,
    Int32.ofNat scene.sourcePrograms.length, Int32.ofNat scene.properties.length,
    Int32.ofNat scene.colorTargets.length]).id_bind
  apply (Decodes.headerCounts (by decide) [Int32.ofNat scene.wheelPalettes.length,
    Int32.ofNat scene.wheelBindings.length]).id_bind
  apply (Decodes.headerCounts (by decide) [Int32.ofNat scene.goboAssets.length,
    Int32.ofNat scene.goboBindings.length]).id_bind
  apply (Decodes.headerCounts (by decide) [Int32.ofNat scene.goboMotionBindings.length]).id_bind
  apply (Decodes.headerCounts (by decide) [Int32.ofNat scene.shutterBindings.length]).id_bind
  apply Decodes.orDone_require_bind
  . simp
  apply Decodes.read_bind
  apply Decodes.validCounts_bind hcounts
  simp only [countAt, List.getD_cons_zero, List.getD_cons_succ, h1, h2, h3, h4, h5, h6, h7, h8,
    h9, h10]
  rw [if_pos (by decide), if_pos (by decide)]
  exact decodes_records h

end

def scalars : List Cell → List ℚ
  | [] => []
  | .int _ :: cells => scalars cells
  | .float value :: cells => value :: scalars cells

@[simp]
theorem scalars_nil : scalars [] = [] := rfl

@[simp]
theorem scalars_int (value : Int32) (cells : List Cell)
    : scalars (.int value :: cells) = scalars cells := rfl

@[simp]
theorem scalars_ofBool (b : Bool) (cells : List Cell)
    : scalars (ofBool b :: cells) = scalars cells := rfl

@[simp]
theorem scalars_ofSize {γ : Type} (l : List γ) (cells : List Cell)
    : scalars (ofSize l :: cells) = scalars cells := rfl

@[simp]
theorem scalars_ofUInt32 (value : UInt32) (cells : List Cell)
    : scalars (ofUInt32 value :: cells) = scalars cells := rfl

@[simp]
theorem scalars_ofUInt8 (value : UInt8) (cells : List Cell)
    : scalars (ofUInt8 value :: cells) = scalars cells := rfl

@[simp]
theorem scalars_float (value : ℚ) (cells : List Cell)
    : scalars (.float value :: cells) = value :: scalars cells := rfl

@[simp]
theorem scalars_append (front back : List Cell)
    : scalars (front ++ back) = scalars front ++ scalars back := by
  induction front with
  | nil => rfl
  | cons cell front ih => cases cell <;> simp [ih]

theorem cellFloats_eq (cells : List Cell) : cellFloats fmt cells = (scalars cells).map fmt.toFloat
    := by
  induction cells with
  | nil => rfl
  | cons cell cells ih => cases cell <;> simp [cellFloats, ih]

theorem length_scalars (cells : List Cell)
    : (scalars cells).length = cells.countP (fun cell => cell matches .float _) := by
  induction cells with
  | nil => rfl
  | cons cell cells ih => cases cell <;> simp [ih]

theorem scalars_flatMap_map (fmt : FloatFormat) {γ : Type} (cellsOf : γ → List Cell)
    (value : γ → γ)
    (h : ∀ v, scalars (cellsOf (value v)) = (scalars (cellsOf v)).map fmt.toFloat) (l : List γ)
    : scalars ((l.map value).flatMap cellsOf) = (scalars (l.flatMap cellsOf)).map fmt.toFloat := by
  induction l with
  | nil => rfl
  | cons v l ih => simp [h, ih]

theorem scalars_flatMap_of_nil {γ : Type} (cellsOf : γ → List Cell)
    (h : ∀ v, scalars (cellsOf v) = []) (l : List γ)
    : scalars (l.flatMap cellsOf) = [] := by
  induction l with
  | nil => rfl
  | cons v l ih => simp [h, ih]

def packedScalars (scene : CompiledRuntimeScene) : List ℚ := scalars (sceneCells scene)

@[simp]
theorem scalars_byteSources (l : List CompiledDmxByteSource)
    : scalars (l.flatMap byteSourceCells) = [] :=
  scalars_flatMap_of_nil byteSourceCells (by simp [byteSourceCells]) l

@[simp]
theorem scalars_channelSets (l : List CompiledWheelChannelSet)
    : scalars (l.flatMap channelSetCells) = [] :=
  scalars_flatMap_of_nil channelSetCells (by simp [channelSetCells]) l

@[simp]
theorem scalars_contributors (l : List CompiledPropertyContributor)
    : scalars ((l.map (transportContributor fmt)).flatMap contributorCells)
        = (scalars (l.flatMap contributorCells)).map fmt.toFloat :=
  scalars_flatMap_map fmt contributorCells _ (by simp [contributorCells, transportContributor]) l

@[simp]
theorem scalars_colorInputs (l : List CompiledColorInputBinding)
    : scalars ((l.map (transportColorInput fmt)).flatMap colorInputCells)
        = (scalars (l.flatMap colorInputCells)).map fmt.toFloat :=
  scalars_flatMap_map fmt colorInputCells _ (by simp [colorInputCells, transportColorInput]) l

@[simp]
theorem scalars_paletteSlots (l : List CompiledWheelPaletteSlot)
    : scalars ((l.map (transportPaletteSlot fmt)).flatMap paletteSlotCells)
        = (scalars (l.flatMap paletteSlotCells)).map fmt.toFloat :=
  scalars_flatMap_map fmt paletteSlotCells _ (by simp [paletteSlotCells, transportPaletteSlot]) l

theorem packedScalars_transport (scene : CompiledRuntimeScene)
    : packedScalars (transport fmt scene) = (packedScalars scene).map fmt.toFloat := by
  have hfixtures := scalars_flatMap_map fmt fixtureCells (transportFixture fmt)
    (by simp [fixtureCells, transportFixture]) scene.fixtures
  have hprograms := scalars_flatMap_map fmt sourceProgramCells (transportSourceProgram fmt)
    (by simp [sourceProgramCells, transportSourceProgram]) scene.sourcePrograms
  have hproperties := scalars_flatMap_map fmt propertyCells (transportProperty fmt)
    (by simp [propertyCells, transportProperty]) scene.properties
  have hcolors := scalars_flatMap_map fmt colorTargetCells (transportColorTarget fmt)
    (by simp [colorTargetCells, transportColorTarget]) scene.colorTargets
  have hpalettes := scalars_flatMap_map fmt wheelPaletteCells (transportWheelPalette fmt)
    (by simp [wheelPaletteCells, transportWheelPalette]) scene.wheelPalettes
  have hwheels := scalars_flatMap_map fmt wheelBindingCells (transportWheelBinding fmt)
    (by simp [wheelBindingCells, transportWheelBinding]) scene.wheelBindings
  have hassets := scalars_flatMap_of_nil goboAssetCells (by simp [goboAssetCells]) scene.goboAssets
  have hgobos := scalars_flatMap_of_nil goboBindingCells (by simp [goboBindingCells]) scene.goboBindings
  have hgobos' := scalars_flatMap_of_nil goboBindingCells (by simp [goboBindingCells])
    (scene.goboBindings.map transportGoboBinding)
  have hmotions := scalars_flatMap_map fmt goboMotionCells (transportGoboMotion fmt)
    (by simp [goboMotionCells, transportGoboMotion]) scene.goboMotionBindings
  have hshutters := scalars_flatMap_map fmt shutterCells (transportShutter fmt)
    (by simp [shutterCells, transportShutter]) scene.shutterBindings
  simp only [packedScalars, sceneCells, transport, scalars_append, List.map_append, hfixtures,
    hprograms, hproperties, hcolors, hpalettes, hwheels, hassets, hgobos, hgobos', hmotions,
    hshutters]
  simp [headerCells]

/-- The decoder on a payload before anything is read. -/
def startOf (packed : PackedCompiledRuntimeScene) : Decoder where
  size := packed.integers.length
  rest := packed.integers
  floats := packed.floats

theorem ahead_startOf {scene : CompiledRuntimeScene}
    (h : (sceneCells scene).countP (fun cell => cell matches .float _) < 2 ^ 31)
    : Ahead fmt (startOf (encodeCompiledRuntimeScene fmt scene)) (sceneCells scene) := by
  unfold encodeCompiledRuntimeScene
  rw [insert_eq]
  refine ⟨rfl, le_refl _, ?_, [], rfl, rfl⟩
  simp only [startOf, List.nil_append]
  rw [cellFloats_eq, List.length_map, length_scalars]
  exact h

theorem checkTrailing_of_ahead {d : Decoder} (h : Ahead fmt d []) : checkTrailing d = (some (), d)
    := by
  have hrest := h.length_rest
  unfold checkTrailing
  rw [if_neg]
  simp [List.length_eq_zero_iff.mp hrest]

theorem decodeVersion_of_ahead {scene : CompiledRuntimeScene}
    (hversion : scene.contractVersion = 9) {d : Decoder} (h : Ahead fmt d (sceneCells scene))
    : ∃ d', decodeVersion d = (some (true, 9), d') ∧ Ahead fmt d' ((sceneCells scene).drop 1)
        ∧ d'.size = d.size ∧ d'.scene = d.scene ∧ d'.diagnostic = d.diagnostic := by
  have hcells : sceneCells scene = [.int 9] ++ (sceneCells scene).drop 1 := by
    rw [← hversion]
    rfl
  have hlength : 6 ≤ (sceneCells scene).length := by
    simp only [sceneCells, headerCells, List.length_append, List.length_cons]
    omega
  have h' := h
  rw [hcells] at h'
  obtain ⟨d', hread, hahead, hsize, hscene, hdiag⟩ := Decodes.read _ _ _ h'
  refine ⟨d', ?_, hahead, hsize, hscene, hdiag⟩
  unfold decodeVersion
  rw [h.require_bind hlength, bind_apply, hread]
  rfl

theorem decodeBody_of_ahead {scene : CompiledRuntimeScene} (h : Fits scene) {d : Decoder}
    (hd : Ahead fmt d ((sceneCells scene).drop 1))
    : ∃ d', decodeBody fmt 9 d = (some (), d') ∧ d'.rest = [] ∧ d'.valid = true
        ∧ d'.size = d.size
        ∧ d'.scene = appendTables fmt scene { d.scene with contractVersion := 9 }
        ∧ d'.diagnostic = d.diagnostic := by
  have hd' : Ahead fmt d ((sceneCells scene).drop 1 ++ []) := by
    rw [List.append_nil]
    exact hd
  have hbody : Decodes fmt
      (push (fun scene => { scene with contractVersion := 9 }) >>= fun _ => decodeTables fmt 9)
      ([] ++ (sceneCells scene).drop 1) ()
      (appendTables fmt scene ∘ fun s => { s with contractVersion := 9 }) :=
    (Decodes.push _).bind (decodes_tables h)
  obtain ⟨d', hrun, hahead, hsize, hscene, hdiag⟩ := hbody d [] hd'
  refine ⟨d', ?_, List.length_eq_zero_iff.mp hahead.length_rest, hahead.valid, hsize, hscene, hdiag⟩
  have hsplit : decodeBody fmt 9 = push (fun scene => { scene with contractVersion := 9 })
      >>= fun _ => decodeTables fmt 9 >>= fun _ => checkTrailing := rfl
  rw [hsplit, ← bind_bind, bind_apply, hrun]
  exact checkTrailing_of_ahead hahead

theorem appendTables_default {scene : CompiledRuntimeScene} (hversion : scene.contractVersion = 9)
    : appendTables fmt scene { ({} : CompiledRuntimeScene) with contractVersion := 9 }
        = transport fmt scene := by
  simp [appendTables, transport, hversion]

theorem decode_encode_eq {scene : CompiledRuntimeScene}
    (hversion : scene.contractVersion = kCompiledRuntimeSceneContractVersion) (h : Fits scene)
    : decodeCompiledRuntimeScene fmt (encodeCompiledRuntimeScene fmt scene).integers
          (encodeCompiledRuntimeScene fmt scene).floats
        = {
            scene := transport fmt scene
            consumedIntegers := (encodeCompiledRuntimeScene fmt scene).integers.length
            valid := true
            diagnostic := ""
          } := by
  obtain ⟨d, hhead, hahead, hsize, hscene, hdiag⟩ :=
    decodeVersion_of_ahead hversion (@ahead_startOf fmt scene h.floats)
  obtain ⟨d', hbody, hrest, hvalid, hsize', hscene', hdiag'⟩ := decodeBody_of_ahead h hahead
  rw [hscene] at hscene'
  have hscene'' := hscene'.trans (appendTables_default hversion)
  unfold startOf at hhead
  unfold decodeCompiledRuntimeScene
  simp only [hhead]
  rw [if_neg (by decide), hbody]
  simp only [hrest, hvalid, hscene'', hsize', hsize, hdiag', hdiag]
  rfl

theorem floats_encode (scene : CompiledRuntimeScene)
    : (encodeCompiledRuntimeScene fmt scene).floats = packedScalars (transport fmt scene) := by
  unfold encodeCompiledRuntimeScene
  rw [insert_eq, packedScalars_transport]
  exact cellFloats_eq _

/-- The packed form of a scene of the current version carries the fields it has room for. -/
theorem decode_encode {scene : CompiledRuntimeScene}
    (hversion : scene.contractVersion = kCompiledRuntimeSceneContractVersion) (h : Fits scene)
    : decodeCompiledRuntimeScene fmt (encodeCompiledRuntimeScene fmt scene).integers
          (encodeCompiledRuntimeScene fmt scene).floats
        = {
            scene := transport fmt scene
            consumedIntegers := (encodeCompiledRuntimeScene fmt scene).integers.length
            valid := true
            diagnostic := ""
          }
        ∧ (encodeCompiledRuntimeScene fmt scene).floats = packedScalars (transport fmt scene) :=
  ⟨decode_encode_eq hversion h, floats_encode scene⟩

def exactFormat : FloatFormat := ⟨id, fun _ => rfl⟩

/-- A dimmer that reads the second slot of universe 7. -/
def dimmerScene : CompiledRuntimeScene where
  fixtures := [{ fixtureId := 1, universeId := 7, startAddress := 1 }]
  sourcePrograms := [{ programId := 3, semantic := .listed .dimmer, sources := [⟨7, 1, 0⟩] }]
  properties := [{
    propertyId := 5
    fixtureId := 1
    semantic := .listed .dimmer
    contributors := [{ sourceProgramId := 3 }]
  }]

theorem fits_dimmerScene : Fits dimmerScene := by
  constructor <;> simp [dimmerScene, tableSizes, sceneCells, headerCells, fixtureCells,
    sourceProgramCells, byteSourceCells, propertyCells, contributorCells, ofSize, ofBool, ofUInt32,
    ofUInt8]

theorem decode_encode_dimmerScene
    : (decodeCompiledRuntimeScene exactFormat
        (encodeCompiledRuntimeScene exactFormat dimmerScene).integers
        (encodeCompiledRuntimeScene exactFormat dimmerScene).floats).scene = dimmerScene := by
  rw [(decode_encode rfl fits_dimmerScene).1]
  rfl

/-- In front of `cells`, the piece jumps to `done` with an error. -/
def Aborts (fmt : FloatFormat) {α : Type} (x : DecodeM α) (cells : List Cell) : Prop :=
  ∀ d, Ahead fmt d cells → ∃ d', x d = (none, d') ∧ d'.valid = false

section

variable {α β : Type}

theorem Decodes.bind_aborts {x : DecodeM α} {f : α → DecodeM β} {front back : List Cell} {a : α}
    {update : CompiledRuntimeScene → CompiledRuntimeScene}
    (hx : Decodes fmt x front a update) (hf : Aborts fmt (f a) back)
    : Aborts fmt (x >>= f) (front ++ back) := by
  intro d h
  obtain ⟨d', hrun, h', _⟩ := hx d back h
  rw [bind_apply, hrun]
  exact hf d' h'

theorem Aborts.bind {x : DecodeM α} {cells : List Cell} (hx : Aborts fmt x cells)
    (f : α → DecodeM β)
    : Aborts fmt (x >>= f) cells := by
  intro d h
  obtain ⟨d', hrun, hvalid⟩ := hx d h
  refine ⟨d', ?_, hvalid⟩
  rw [bind_apply, hrun]

theorem Aborts.orDone_require_bind {f : Unit → DecodeM β} {cells : List Cell} {count : Nat}
    (hcount : count ≤ cells.length) (hf : Aborts fmt (f ()) cells)
    : Aborts fmt (orDone (require count) >>= f) cells := by
  intro d h
  rw [orDone_bind_of_true (h.require hcount)]
  exact hf d h

theorem Aborts.validCounts {cells : List Cell} {counts : List Int32}
    (h : ∃ count ∈ counts, count < 0)
    : Aborts fmt (validCounts counts) cells := by
  intro d hd
  induction counts with
  | nil => simp at h
  | cons count counts ih =>
    by_cases hinvalid : count < 0 ∨ (d.size : Int) < count.toInt
    . have hrun : validCount count d
          = (some false, d.fail "PVZ-PACKED-SCENE-COUNT: record count is invalid.") := by
        unfold validCount
        rw [if_pos hinvalid]
      refine ⟨d.fail "PVZ-PACKED-SCENE-COUNT: record count is invalid.", ?_, ?_⟩
      . unfold Codec.validCounts orDone
        rw [bind_apply, bind_apply, hrun]
        rfl
      . unfold Decoder.fail
        rw [if_pos hd.valid]
    . have hrun : validCount count d = (some true, d) := by
        unfold validCount
        rw [if_neg hinvalid]
      unfold Codec.validCounts
      rw [orDone_bind_of_true hrun]
      apply ih
      obtain ⟨negative, hmem, hnegative⟩ := h
      cases List.mem_cons.mp hmem with
      | inl heq =>
        rw [heq] at hnegative
        exact absurd (Or.inl hnegative) hinvalid
      | inr hmem => exact ⟨negative, hmem, hnegative⟩

end

theorem ofNat_neg {n : Nat} (hlow : 2 ^ 31 ≤ n) (hhigh : n < 2 ^ 32) : Int32.ofNat n < 0 := by
  rw [Int32.lt_iff_toInt_lt, Int32.toInt_ofNat', Int32.toInt_zero, show Int32.size = 2 ^ 32 from rfl]
  simp only [Int.bmod]
  omega

-- A count that is negative as an `int32_t` stops the decoder behind the header.
theorem aborts_tables {scene : CompiledRuntimeScene} (hlow : 2 ^ 31 ≤ scene.goboAssets.length)
    (hhigh : scene.goboAssets.length < 2 ^ 32)
    : Aborts fmt (decodeTables fmt 9) ((sceneCells scene).drop 1) := by
  unfold decodeTables
  apply (Decodes.counts [Int32.ofNat scene.fixtures.length,
    Int32.ofNat scene.sourcePrograms.length, Int32.ofNat scene.properties.length,
    Int32.ofNat scene.colorTargets.length]).bind_aborts
  apply (Decodes.headerCounts (by decide) [Int32.ofNat scene.wheelPalettes.length,
    Int32.ofNat scene.wheelBindings.length]).bind_aborts
  apply (Decodes.headerCounts (by decide) [Int32.ofNat scene.goboAssets.length,
    Int32.ofNat scene.goboBindings.length]).bind_aborts
  apply (Decodes.headerCounts (by decide) [Int32.ofNat scene.goboMotionBindings.length]).bind_aborts
  apply (Decodes.headerCounts (by decide) [Int32.ofNat scene.shutterBindings.length]).bind_aborts
  apply Aborts.orDone_require_bind
  . simp
  apply (Decodes.read _).bind_aborts
  apply Aborts.bind
  apply Aborts.validCounts
  refine ⟨Int32.ofNat scene.goboAssets.length, ?_, ofNat_neg hlow hhigh⟩
  simp

theorem decode_encode_tooMany {scene : CompiledRuntimeScene}
    (hversion : scene.contractVersion = kCompiledRuntimeSceneContractVersion)
    (hfloats : (sceneCells scene).countP (fun cell => cell matches .float _) < 2 ^ 31)
    (hlow : 2 ^ 31 ≤ scene.goboAssets.length) (hhigh : scene.goboAssets.length < 2 ^ 32)
    : (decodeCompiledRuntimeScene fmt (encodeCompiledRuntimeScene fmt scene).integers
        (encodeCompiledRuntimeScene fmt scene).floats).valid = false := by
  obtain ⟨d, hhead, hahead, _⟩ := decodeVersion_of_ahead hversion (@ahead_startOf fmt scene hfloats)
  have hbody : Aborts fmt (decodeBody fmt 9) ([] ++ (sceneCells scene).drop 1) :=
    (Decodes.push _).bind_aborts ((aborts_tables hlow hhigh).bind _)
  obtain ⟨d', hrun, hvalid⟩ := hbody d hahead
  unfold startOf at hhead
  unfold decodeCompiledRuntimeScene
  simp only [hhead]
  rw [if_neg (by decide), hrun]
  exact hvalid

/-- A motion binding with the unit it is declared with, none. -/
def unitlessScene : CompiledRuntimeScene where
  goboMotionBindings := [{ bindingId := 1 }]

def crowdedScene (count : Nat) : CompiledRuntimeScene where
  goboAssets := List.replicate count {}

theorem packed_crowdedScene (count : Nat)
    : (sceneCells (crowdedScene count)).countP (fun cell => cell matches .float _) < 2 ^ 31 := by
  have hnone := scalars_flatMap_of_nil goboAssetCells (by simp [goboAssetCells])
    (crowdedScene count).goboAssets
  rw [← length_scalars]
  unfold sceneCells headerCells
  simp only [scalars_append, hnone]
  simp [crowdedScene]

theorem valid_crowdedScene {count : Nat} (hlow : 2 ^ 31 ≤ count) (hhigh : count < 2 ^ 32)
    : (decodeCompiledRuntimeScene fmt (encodeCompiledRuntimeScene fmt (crowdedScene count)).integers
        (encodeCompiledRuntimeScene fmt (crowdedScene count)).floats).valid = false := by
  have hlength : (crowdedScene count).goboAssets.length = count := List.length_replicate
  apply decode_encode_tooMany rfl (packed_crowdedScene count)
  . omega
  . omega

/-- Not every scene comes back: the unit of a motion is reduced to whether it is the angle, and
tables that an `int32_t` cannot count are not decoded. -/
theorem decode_encode_losses
    : ((decodeCompiledRuntimeScene exactFormat
          (encodeCompiledRuntimeScene exactFormat unitlessScene).integers
          (encodeCompiledRuntimeScene exactFormat unitlessScene).floats).scene.goboMotionBindings.map
            (fun binding => binding.physicalUnit)
          ≠ unitlessScene.goboMotionBindings.map (fun binding => binding.physicalUnit))
        ∧ (decodeCompiledRuntimeScene exactFormat
            (encodeCompiledRuntimeScene exactFormat (crowdedScene (2 ^ 31))).integers
            (encodeCompiledRuntimeScene exactFormat (crowdedScene (2 ^ 31))).floats).valid
              = false := by
  constructor
  . rw [decode_encode_eq rfl]
    . decide
    . constructor <;> simp [unitlessScene, tableSizes, sceneCells, headerCells, goboMotionCells,
        ofSize, ofBool, ofUInt8]
  . exact valid_crowdedScene (le_refl _) (by decide)

end Codec
end Peraviz.Runtime
