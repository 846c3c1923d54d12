import Peraviz.Runtime.Codec.RoundTrip
import Peraviz.Runtime.Core.Impl

/-!
This module contains what is installed of a scene that arrives in the packed form. Of a scene whose
scalars are not rounded everything arrives that an installation reads, but for the multipliers of
the fixtures and the resources of the colors.
-/

namespace Peraviz.Runtime

namespace Codec

variable {fmt : FloatFormat}

/-- The packed form rounds no scalar of the scene. -/
def ScalarsExact (fmt : FloatFormat) (scene : CompiledRuntimeScene) : Prop :=
  ∀ x ∈ packedScalars scene, fmt.toFloat x = x

theorem mem_scalars_flatMap {γ : Type} {cellsOf : γ → List Cell} {l : List γ} {x : ℚ}
    : x ∈ scalars (l.flatMap cellsOf) ↔ ∃ v ∈ l, x ∈ scalars (cellsOf v) := by
  induction l with
  | nil => simp
  | cons v l ih => simp [ih]

-- A record whose scalars are not rounded arrives as if nothing were.
theorem map_transport_eq {γ : Type} {cellsOf : γ → List Cell} {value : FloatFormat → γ → γ}
    (hvalue : ∀ v, (∀ x ∈ scalars (cellsOf v), fmt.toFloat x = x)
      → value fmt v = value exactFormat v) {l : List γ}
    (hl : ∀ x ∈ scalars (l.flatMap cellsOf), fmt.toFloat x = x)
    : l.map (value fmt) = l.map (value exactFormat) := by
  apply List.map_congr_left
  intro v hv
  apply hvalue v
  intro x hx
  exact hl x (mem_scalars_flatMap.mpr ⟨v, hv, hx⟩)

theorem transport_eq_of_exact {scene : CompiledRuntimeScene} (h : ScalarsExact fmt scene)
    : transport fmt scene = transport exactFormat scene := by
  unfold ScalarsExact packedScalars sceneCells at h
  simp only [scalars_append, List.forall_mem_append] at h
  obtain ⟨_, hfixtures, hprograms, hproperties, htargets, hpalettes, hwheels, _, _, hmotions,
    hshutters⟩ := h
  unfold transport
  rw [@map_transport_eq fmt _ fixtureCells transportFixture _ _ hfixtures,
    @map_transport_eq fmt _ sourceProgramCells transportSourceProgram _ _ hprograms,
    @map_transport_eq fmt _ propertyCells transportProperty _ _ hproperties,
    @map_transport_eq fmt _ colorTargetCells transportColorTarget _ _ htargets,
    @map_transport_eq fmt _ wheelPaletteCells transportWheelPalette _ _ hpalettes,
    @map_transport_eq fmt _ wheelBindingCells transportWheelBinding _ _ hwheels,
    @map_transport_eq fmt _ goboMotionCells transportGoboMotion _ _ hmotions,
    @map_transport_eq fmt _ shutterCells transportShutter _ _ hshutters]
  . intro v hv
    simp [shutterCells] at hv
    simp [transportShutter, exactFormat, hv]
  . intro v hv
    simp [goboMotionCells] at hv
    simp [transportGoboMotion, exactFormat, hv]
  . intro v hv
    simp [wheelBindingCells] at hv
    simp [transportWheelBinding, exactFormat, hv]
  . intro v hv
    simp only [wheelPaletteCells, scalars_append, List.forall_mem_append] at hv
    unfold transportWheelPalette
    rw [@map_transport_eq fmt _ paletteSlotCells transportPaletteSlot _ _ hv.2]
    . simp [scalars] at hv
      simp [exactFormat, hv]
    . intro s hs
      simp [paletteSlotCells] at hs
      simp [transportPaletteSlot, exactFormat, hs]
  . intro v hv
    simp only [colorTargetCells, scalars_append, List.forall_mem_append] at hv
    unfold transportColorTarget
    rw [@map_transport_eq fmt _ colorInputCells transportColorInput _ _ hv.2]
    intro s hs
    simp [colorInputCells] at hs
    simp [transportColorInput, exactFormat, hs]
  . intro v hv
    simp only [propertyCells, scalars_append, List.forall_mem_append] at hv
    unfold transportProperty
    rw [@map_transport_eq fmt _ contributorCells transportContributor _ _ hv.2]
    intro s hs
    simp [contributorCells] at hs
    simp [transportContributor, exactFormat, hs]
  . intro v hv
    simp [sourceProgramCells] at hv
    simp [transportSourceProgram, exactFormat, hv]
  . intro v hv
    simp [fixtureCells] at hv
    simp [transportFixture, exactFormat, hv]

end Codec

open Codec

abbrev packedWheel : CompiledWheelTargetBinding → CompiledWheelTargetBinding :=
  transportWheelBinding exactFormat

abbrev packedMotion : CompiledGoboMotionBinding → CompiledGoboMotionBinding :=
  transportGoboMotion exactFormat

def Installed.map {α β : Type} (f : α → β) (x : Installed α) : Installed β :=
  ⟨x.universeId, f x.entry⟩

def DependentBinding.map {α β : Type} (f : α → β) (x : DependentBinding α) : DependentBinding β :=
  ⟨f x.binding, x.dependencyProgramIds⟩

def InstalledTables.packed (t : InstalledTables) : InstalledTables :=
  { t with
    wheels := t.wheels.map (Installed.map packedWheel)
    gobos := t.gobos.map (Installed.map (DependentBinding.map transportGoboBinding))
    motions := t.motions.map (Installed.map (DependentBinding.map packedMotion)) }

theorem wheelProgram?_packed (programs : List CompiledDmxSourceProgram)
    (palettes : List CompiledWheelPalette) (binding : CompiledWheelTargetBinding)
    : wheelProgram? programs palettes (packedWheel binding)
        = wheelProgram? programs palettes binding := by
  unfold wheelProgram?
  simp [packedWheel, transportWheelBinding]

theorem installedWheels_packed (programs : List CompiledDmxSourceProgram)
    (palettes : List CompiledWheelPalette) (bindings : List CompiledWheelTargetBinding)
    : installedWheels programs palettes (bindings.map packedWheel)
        = (installedWheels programs palettes bindings).map (Installed.map packedWheel) := by
  unfold installedWheels
  rw [List.filterMap_map, List.map_filterMap]
  apply List.filterMap_congr
  intro binding _
  rw [Function.comp_apply, wheelProgram?_packed, Option.map_bind]
  apply congrArg (Option.bind _)
  funext program
  rw [Function.comp_apply, Option.map_map]
  rfl

theorem installDependent_map {β : Type} {f : β → β} (programs : List CompiledDmxSourceProgram)
    {universe? : β → Option Int32} {sourceProgramId : β → Int32}
    (huniverse : ∀ binding, universe? (f binding) = universe? binding)
    (hsource : ∀ binding, sourceProgramId (f binding) = sourceProgramId binding) (binding : β)
    : installDependent programs universe? sourceProgramId (f binding)
        = (installDependent programs universe? sourceProgramId binding).map
          (Installed.map (DependentBinding.map f)) := by
  unfold installDependent
  rw [huniverse, hsource, Option.map_bind]
  apply congrArg (Option.bind _)
  funext universeId
  rw [Function.comp_apply, Option.map_map]
  rfl

theorem installedGobos_packed (programs : List CompiledDmxSourceProgram)
    (bindings : List CompiledGoboSelectionBinding)
    : installedGobos programs (bindings.map transportGoboBinding)
        = (installedGobos programs bindings).map
          (Installed.map (DependentBinding.map transportGoboBinding)) := by
  unfold installedGobos
  rw [List.filterMap_map, List.map_filterMap]
  apply List.filterMap_congr
  intro binding _
  apply installDependent_map
  . intro binding
    unfold goboUniverse?
    simp [transportGoboBinding]
  . intro binding
    rfl

theorem installedMotions_packed (programs : List CompiledDmxSourceProgram)
    (bindings : List CompiledGoboMotionBinding)
    : installedMotions programs (bindings.map packedMotion)
        = (installedMotions programs bindings).map
          (Installed.map (DependentBinding.map packedMotion)) := by
  have hmotion : isMotion ∘ packedMotion = isMotion := rfl
  unfold installedMotions
  rw [List.filter_map, hmotion, List.filterMap_map, List.map_filterMap]
  apply List.filterMap_congr
  intro binding _
  apply installDependent_map
  . intro binding
    rfl
  . intro binding
    rfl

theorem transport_exact (scene : CompiledRuntimeScene)
    : transport exactFormat scene
        = { scene with
            fixtures := scene.fixtures.map (transportFixture exactFormat)
            emitterResources := []
            filterResources := []
            wheelBindings := scene.wheelBindings.map packedWheel
            goboBindings := scene.goboBindings.map transportGoboBinding
            goboMotionBindings := scene.goboMotionBindings.map packedMotion
            diagnostics := [] } := by
  have hprograms : scene.sourcePrograms.map (transportSourceProgram exactFormat)
      = scene.sourcePrograms := List.map_id'' (fun _ => rfl) _
  have hproperties : scene.properties.map (transportProperty exactFormat) = scene.properties := by
    apply List.map_id''
    intro v
    unfold transportProperty
    rw [List.map_id'' (f := transportContributor exactFormat) (fun _ => rfl)]
  have htargets : scene.colorTargets.map (transportColorTarget exactFormat)
      = scene.colorTargets := by
    apply List.map_id''
    intro v
    unfold transportColorTarget
    rw [List.map_id'' (f := transportColorInput exactFormat) (fun _ => rfl)]
  have hpalettes : scene.wheelPalettes.map (transportWheelPalette exactFormat)
      = scene.wheelPalettes := by
    apply List.map_id''
    intro v
    unfold transportWheelPalette
    rw [List.map_id'' (f := transportPaletteSlot exactFormat) (fun _ => rfl)]
    rfl
  have hshutters : scene.shutterBindings.map (transportShutter exactFormat)
      = scene.shutterBindings := List.map_id'' (fun _ => rfl) _
  unfold transport
  rw [hprograms, hproperties, htargets, hpalettes, hshutters]

theorem installTables_transport (p : Platform) (scene : CompiledRuntimeScene)
    : installTables p (transport exactFormat scene) = (installTables p scene).packed := by
  rw [transport_exact]
  unfold installTables InstalledTables.packed
  dsimp only
  rw [installedWheels_packed, installedGobos_packed, installedMotions_packed]

/-! ### The layouts -/

def WheelLayout.packed (layout : WheelLayout) : WheelLayout :=
  { layout with
    bindings := layout.bindings.map (fun wheel => { wheel with
      binding := packedWheel wheel.binding }) }

def GoboLayout.packed (layout : GoboLayout) : GoboLayout :=
  { layout with
    bindings := layout.bindings.map (fun gobo => { gobo with
      binding := transportGoboBinding gobo.binding })
    motionBindings := layout.motionBindings.map (fun motion => { motion with
      binding := packedMotion motion.binding }) }

def UniverseLayout.packed (layout : UniverseLayout) : UniverseLayout :=
  { layout with
    wheels := layout.wheels.packed
    gobos := layout.gobos.packed }

theorem ofUniverse_map {α β : Type} (f : α → β) (l : List (Installed α)) (u : Int32)
    : ofUniverse (l.map (Installed.map f)) u = (ofUniverse l u).map f := by
  unfold ofUniverse
  rw [List.filter_map, List.map_map, List.map_map]
  rfl

theorem indicesOf_map {α β : Type} (f : α → β) (l : List α) (p : β → Bool)
    : indicesOf (l.map f) p = indicesOf l (fun a => p (f a)) := by
  unfold indicesOf
  rw [List.zipIdx_map, List.filter_map, List.map_map]
  rfl

theorem getD_map_default {α : Type} {f : α → α} {d : α} (hd : f d = d) (l : List α) (i : Nat)
    : (l.map f).getD i d = f (l.getD i d) := by
  rw [List.getD_eq_getElem?_getD, List.getD_eq_getElem?_getD, List.getElem?_map]
  cases l[i]? with
  | none => exact hd.symm
  | some a => rfl

theorem readIds_packed (t : InstalledTables) (u : Int32) : t.packed.readIds u = t.readIds u := by
  unfold InstalledTables.readIds InstalledTables.packed
  simp only [ofUniverse_map, List.map_map, List.flatMap_map]
  rfl

theorem planPrograms_packed (t : InstalledTables) (u : Int32)
    : t.packed.planPrograms u = t.planPrograms u := by
  unfold InstalledTables.planPrograms InstalledTables.requiredIds
  rw [readIds_packed]
  rfl

theorem wheelGroup_packed (programs : List CompiledDmxSourceProgram)
    (bindings : List CompiledWheelTargetBinding)
    : wheelGroup programs (bindings.map packedWheel) = wheelGroup programs bindings := by
  funext key
  unfold wheelGroup
  simp only [indicesOf_map, getD_map_default (f := packedWheel) (d := {}) rfl]
  rfl

theorem wheelLayout_packed (programs planPrograms : List CompiledDmxSourceProgram)
    (bindings : List CompiledWheelTargetBinding)
    : wheelLayout programs planPrograms (bindings.map packedWheel)
        = (wheelLayout programs planPrograms bindings).packed := by
  unfold wheelLayout WheelLayout.packed
  simp only [wheelGroup_packed, indicesOf_map, List.map_map]
  rfl

theorem goboLayout_packed (programs planPrograms : List CompiledDmxSourceProgram)
    (gobos : List (DependentBinding CompiledGoboSelectionBinding))
    (motions : List (DependentBinding CompiledGoboMotionBinding))
    : goboLayout programs planPrograms (gobos.map (DependentBinding.map transportGoboBinding))
          (motions.map (DependentBinding.map packedMotion))
        = (goboLayout programs planPrograms gobos motions).packed := by
  unfold goboLayout GoboLayout.packed
  simp only [indicesOf_map, List.map_map]
  rfl

theorem colorLayout_packed (planPrograms : List CompiledDmxSourceProgram)
    (targets : List CompiledColorTargetProgram) (wheels : List CompiledWheelTargetBinding)
    : colorLayout planPrograms targets (wheels.map packedWheel)
        = colorLayout planPrograms targets wheels := by
  unfold colorLayout fixtureByTarget
  rw [List.map_map]
  rfl

theorem consumersOf_packed (planPrograms : List CompiledDmxSourceProgram)
    (properties : List CompiledPropertyProgram) (colors : ColorLayout) (wheels : WheelLayout)
    (gobos : GoboLayout) (shutters : ShutterLayout) (keys : List Int)
    : consumersOf planPrograms properties colors wheels.packed gobos.packed shutters keys
        = consumersOf planPrograms properties colors wheels gobos shutters keys := by
  unfold consumersOf UniverseLayout.wheelConsumers WheelLayout.packed GoboLayout.packed
  simp only [List.zipIdx_map, List.map_map]
  rfl

theorem universeLayout_packed (t : InstalledTables) (u : Int32)
    : universeLayout t.packed u = (universeLayout t u).packed := by
  have hwheels : ofUniverse t.packed.wheels u = (ofUniverse t.wheels u).map packedWheel :=
    ofUniverse_map _ _ _
  have hgobos : ofUniverse t.packed.gobos u
      = (ofUniverse t.gobos u).map (DependentBinding.map transportGoboBinding) :=
    ofUniverse_map _ _ _
  have hmotions : ofUniverse t.packed.motions u
      = (ofUniverse t.motions u).map (DependentBinding.map packedMotion) :=
    ofUniverse_map _ _ _
  have hoffsets : t.packed.interestOffsets u = t.interestOffsets u := by
    unfold InstalledTables.interestOffsets
    rw [readIds_packed]
    rfl
  unfold universeLayout UniverseLayout.packed
  rw [planPrograms_packed, hwheels, hgobos, hmotions, hoffsets]
  dsimp only
  rw [wheelLayout_packed, goboLayout_packed, colorLayout_packed, consumersOf_packed]
  rfl

/-! ### The core -/

theorem universeIds_packed (t : InstalledTables) : t.packed.universeIds = t.universeIds := by
  unfold InstalledTables.universeIds InstalledTables.packed
  simp only [List.map_map]
  rfl

theorem visualMasks_packed (t : InstalledTables) : t.packed.visualMasks = t.visualMasks := by
  unfold InstalledTables.visualMasks InstalledTables.packed
  simp only [List.map_map]
  rfl

theorem capabilities_packed (t : InstalledTables) : t.packed.capabilities = t.capabilities := by
  unfold InstalledTables.capabilities InstalledTables.packed
  simp only [List.isEmpty_map]

theorem wheelLayers_packed (t : InstalledTables) : t.packed.wheelLayers = t.wheelLayers := by
  funext target
  unfold InstalledTables.wheelLayers InstalledTables.packed
  simp only [List.filter_map, List.map_map]
  rfl

theorem wheelState_packed (t : InstalledTables) : t.packed.wheelState = t.wheelState := by
  funext key
  unfold InstalledTables.wheelState InstalledTables.packed
  simp only [List.find?_map]
  have hkey : (fun x : Installed CompiledWheelTargetBinding => x.entry.physicalKey == key)
      ∘ Installed.map packedWheel = fun x => x.entry.physicalKey == key := rfl
  rw [hkey]
  cases t.wheels.find? (fun x => x.entry.physicalKey == key) with
  | none => rfl
  | some x => rfl

end Peraviz.Runtime
