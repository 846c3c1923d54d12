import Peraviz.Runtime.Core.Lemmas
import Peraviz.Runtime.Packed.Domains
import Peraviz.Runtime.Packed.Properties
import Peraviz.Runtime.Shutter.Transport

/-!
This module contains the runs of a runtime that installs what arrives of a scene in the packed form.
It puts out the same frames as the one that installs the scene, unless a dimmer is scaled by a
multiplier or a color names a resource.
-/

namespace Peraviz.Runtime

open Codec

/-! ### One universe -/

structure HeldState.Alike (a b : HeldState) : Prop where
  shutters : a.shutters = b.shutters
  gobos : a.gobos = b.gobos
  properties : a.properties.unscaled = b.properties.unscaled
  baseColors : a.baseColors = b.baseColors
  colors : a.colors = b.colors
  wheels : a.wheels = b.wheels

structure Emission.Alike (a b : Emission) : Prop where
  rows : a.rows.map PendingRow.shown = b.rows.map PendingRow.shown
  goboRows : a.goboRows = b.goboRows
  goboRotationRows : a.goboRotationRows = b.goboRotationRows

structure UniverseUpdate.Alike (a b : UniverseUpdate) : Prop where
  held : a.held.Alike b.held
  colorInputs : a.colorInputs = b.colorInputs
  frame : a.frame = b.frame
  emission : a.emission.Alike b.emission

def Definitions.packed (d : Definitions) : Definitions :=
  { d with
    tables := d.tables.packed
    resources := {} }

/-- Nothing is lost of a universe that it could show. -/
structure UniverseLayout.Carried (layout : UniverseLayout) (d : Definitions) : Prop where
  multipliers : ∀ program ∈ layout.properties, program.parameter = .dimmer
    → (d.tables.renderParams program.property.fixtureId).packed
      = d.tables.renderParams program.property.fixtureId
  resources : ∀ target ∈ layout.colors.targets, ∀ input ∈ target.inputs,
    d.resources.Unnamed input.binding

variable {p : Platform} {d : Definitions} {layout : UniverseLayout}

theorem updateDomains_alike (h : layout.Carried d) (now : ℚ) (frame : List UInt8)
    {held held' : HeldState} (hheld : held.Alike held') (colorInputs : ColorInputs)
    (out : SectionedVisualFrame)
    : Coupled Eq UniverseUpdate.Alike
        (updateDomains p d.packed layout.packed none now frame held colorInputs out)
        (updateDomains p d layout none now frame held' colorInputs out) := by
  unfold updateDomains
  dsimp only [UniverseLayout.packed, Definitions.packed]
  rw [updateGoboSelections_packed, updateGoboMotions_packed, updateWheels_packed,
    hheld.shutters, hheld.gobos, hheld.baseColors, hheld.colors, hheld.wheels]
  apply (Coupled.same _).bind_eq
  intro _
  apply (Coupled.same _).bind_eq
  intro dirty
  apply (Coupled.same _).bind_eq
  intro shutters
  apply (Coupled.same _).bind_eq
  intro gobos
  apply (Coupled.same _).bind_eq
  intro motions
  apply (updateProperties_alike hheld.properties h.multipliers _).bind
  intro properties properties' hproperties
  rw [updateColors_unnamed layout.wheels h.resources]
  apply (Coupled.same _).bind_eq
  intro colors
  apply (Coupled.same _).bind_eq
  intro wheels
  apply Coupled.pure
  obtain ⟨htransforms, hrows⟩ := @mergeTransforms_alike p d.tables _ _ _ _ hproperties.pending
    hproperties.held
  refine ⟨⟨rfl, rfl, htransforms, rfl, rfl, rfl⟩, rfl, rfl, ?_, rfl, rfl⟩
  simp only [List.map_append, hproperties.rows, hrows]

/-- The universe of the same state, as it is laid out for what is left of the scene. -/
def Universe.packed (u : Universe) : Universe := { u with layout := u.layout.packed }

structure ConsumeState.Alike (a b : ConsumeState) : Prop where
  held : a.held.Alike b.held
  diagnosed : a.diagnosed = b.diagnosed
  diagnostics : a.diagnostics = b.diagnostics
  frame : a.frame = b.frame
  emission : a.emission.Alike b.emission

theorem Emission.Alike.append {a b a' b' : Emission} (h : a.Alike b) (h' : a'.Alike b')
    : (a.append a').Alike (b.append b') := by
  constructor
  . simp only [Emission.append, List.map_append, h.rows, h'.rows]
  . simp only [Emission.append, h.goboRows, h'.goboRows]
  . simp only [Emission.append, h.goboRotationRows, h'.goboRotationRows]

theorem runDomains_alike {u : Universe} (h : u.layout.Carried d) (now : ℚ) {c c' : ConsumeState}
    (hc : c.Alike c')
    : (runDomains p d.packed none now c u.packed).1.Alike (runDomains p d none now c' u).1
        ∧ (runDomains p d.packed none now c u.packed).2
          = (runDomains p d none now c' u).2.packed := by
  have hstate : evaluationState c u.state = evaluationState c' u.state := by
    unfold evaluationState
    rw [hc.diagnosed, hc.diagnostics]
  obtain ⟨hupdate, hafter⟩ := @updateDomains_alike p d u.layout h now u.state.latestFrame _ _
    hc.held u.state.colorInputs c'.frame _ _ hstate
  unfold runDomains Universe.packed
  dsimp only
  rw [hc.frame]
  generalize updateDomains p d.packed u.layout.packed none now u.state.latestFrame c.held
    u.state.colorInputs c'.frame (evaluationState c u.state) = result at hupdate hafter ⊢
  generalize updateDomains p d u.layout none now u.state.latestFrame c'.held
    u.state.colorInputs c'.frame (evaluationState c' u.state) = result' at hupdate hafter ⊢
  obtain ⟨update, s⟩ := result
  obtain ⟨update', s'⟩ := result'
  dsimp only at hupdate hafter ⊢
  subst hafter
  refine ⟨⟨hupdate.held, rfl, rfl, hupdate.frame, hc.emission.append hupdate.emission⟩, ?_⟩
  rw [hupdate.colorInputs]

theorem consumeUniverse_alike {u : Universe} (h : u.layout.Carried d) (now : ℚ)
    {c c' : ConsumeState} (hc : c.Alike c')
    : (consumeUniverse p d.packed now c u.packed).1.Alike (consumeUniverse p d now c' u).1
        ∧ (consumeUniverse p d.packed now c u.packed).2
          = (consumeUniverse p d now c' u).2.packed := by
  unfold consumeUniverse
  rw [show u.packed.state = u.state from rfl]
  split
  . exact ⟨hc, rfl⟩
  . dsimp only
    rw [show u.packed.layout.interestOffsets = u.layout.interestOffsets from rfl]
    split
    . exact ⟨hc, rfl⟩
    . exact @runDomains_alike p d
        { u with
          state := beginUniverseUpdate u.layout.plan (discoverOffsets u.layout.interestOffsets
            { u.state with hasPendingFrame := false }) } h now c c' hc

theorem updateAll_alike {us : List Universe} (h : ∀ u ∈ us, u.layout.Carried d) (now : ℚ)
    {c c' : ConsumeState} (hc : c.Alike c')
    : (updateAll (consumeUniverse p d.packed now) c (us.map Universe.packed)).1.Alike
          (updateAll (consumeUniverse p d now) c' us).1
        ∧ (updateAll (consumeUniverse p d.packed now) c (us.map Universe.packed)).2
          = (updateAll (consumeUniverse p d now) c' us).2.map Universe.packed := by
  induction us generalizing c c' with
  | nil => exact ⟨hc, rfl⟩
  | cons u us ih =>
    rw [List.forall_mem_cons] at h
    obtain ⟨hfirst, huniverse⟩ := @consumeUniverse_alike p d u h.1 now c c' hc
    obtain ⟨hrest, huniverses⟩ := ih h.2 hfirst
    refine ⟨hrest, ?_⟩
    simp only [List.map_cons, updateAll]
    rw [huniverse, huniverses]

/-! ### Runs -/

theorem changes_shown (row : PendingRow) (mask : UInt32) : row.shown.changes mask = row.changes mask
    := by
  unfold PendingRow.shown
  split <;> rfl

theorem wheelRow_shown (row : PendingRow) : row.shown.wheelRow = row.wheelRow := by
  unfold PendingRow.shown
  split <;> rfl

theorem intensityRow_shown {row : PendingRow} (h : row.intense = true) : row.shown = row :=
  if_pos h

-- A section that reads nothing of a row but what is shown is the same for both.
theorem filter_map_shown {a b : List PendingRow} (h : a.map PendingRow.shown = b.map PendingRow.shown)
    {keep : PendingRow → Bool} {toRow : PendingRow → SectionRow}
    (hkeep : ∀ row : PendingRow, keep row.shown = keep row)
    (hrow : ∀ row : PendingRow, keep row = true → toRow row.shown = toRow row)
    : (a.filter keep).map toRow = (b.filter keep).map toRow := by
  have hshown (rows : List PendingRow) : (rows.filter keep).map toRow
      = ((rows.map PendingRow.shown).filter keep).map toRow := by
    rw [List.filter_map, List.map_map]
    have hsame : keep ∘ PendingRow.shown = keep := funext hkeep
    rw [hsame]
    apply List.map_congr_left
    intro row hrow'
    exact (hrow row (List.mem_filter.mp hrow').2).symm
  rw [hshown a, hshown b, h]

theorem packSections_alike (ids : ComponentIds) (frame : SectionedVisualFrame) {a b : Emission}
    (h : a.Alike b) : packSections ids frame a = packSections ids frame b := by
  have htransform : a.transformRows ids = b.transformRows ids := by
    apply filter_map_shown h.rows
    . intro row
      exact changes_shown row _
    . intro row _
      unfold PendingRow.shown
      split <;> rfl
  have hintensity : a.intensityRows = b.intensityRows := by
    apply filter_map_shown h.rows
    . intro row
      exact changes_shown row _
    . intro row hrow
      rw [intensityRow_shown hrow]
  have hcolor : a.colorRows = b.colorRows := by
    apply filter_map_shown h.rows
    . intro row
      rw [changes_shown, wheelRow_shown]
    . intro row _
      unfold PendingRow.shown
      split <;> rfl
  have hwheel : a.wheelRows = b.wheelRows := by
    apply filter_map_shown h.rows
    . exact wheelRow_shown
    . intro row _
      unfold PendingRow.shown
      split <;> rfl
  have hoptics : a.opticsRows = b.opticsRows := by
    apply filter_map_shown h.rows
    . intro row
      exact changes_shown row _
    . intro row _
      unfold PendingRow.shown
      split <;> rfl
  unfold packSections
  rw [htransform, hintensity, hcolor, hwheel, hoptics, h.goboRows, h.goboRotationRows]

/-- The runtime of a scene and the runtime of what is left of it, after one history. -/
structure Core.Alike (core core' : Core) : Prop where
  definitions : core.definitions = core'.definitions.packed
  schema : core.schema = core'.schema
  universes : core.universes = core'.universes.map Universe.packed
  held : core.held.Alike core'.held
  diagnosed : core.diagnosed = core'.diagnosed

/-- Nothing is lost of a runtime that it could show. -/
def Core.Carried (core : Core) : Prop :=
  ∀ layout ∈ core.layouts, layout.Carried core.definitions

theorem Core.Alike.step {core core' : Core} (h : core.Alike core') (hcarried : core'.Carried)
    (operation : Operation)
    : (core.step p operation).2 = (core'.step p operation).2
        ∧ (core.step p operation).1.Alike (core'.step p operation).1 := by
  cases operation with
  | submit universeId data =>
    refine ⟨rfl, h.definitions, h.schema, ?_, h.held, h.diagnosed⟩
    simp only [Core.step, submitUniverseFrame, h.universes, List.map_map]
    apply List.map_congr_left
    intro u _
    unfold Function.comp submitToUniverse
    rw [show u.packed.layout.universeId = u.layout.universeId from rfl]
    split <;> rfl
  | consume now =>
    have hc : core.consumeState.Alike core'.consumeState :=
      ⟨h.held, h.diagnosed, rfl, by simp only [Core.consumeState, h.schema], rfl, rfl, rfl⟩
    have huniverses : ∀ u ∈ core'.universes, u.layout.Carried core'.definitions := by
      intro u hu
      exact hcarried u.layout (List.mem_map_of_mem hu)
    obtain ⟨hresult, hafter⟩ := @updateAll_alike p core'.definitions _ huniverses now _ _ hc
    simp only [Core.step, consumeLatestVisualFrame, Core.finish, h.definitions, h.universes]
    refine ⟨?_, rfl, h.schema, hafter, hresult.held, hresult.diagnosed⟩
    rw [hresult.frame]
    exact congrArg some (packSections_alike _ _ hresult.emission)

theorem Core.Carried.step {core : Core} (h : core.Carried) (operation : Operation)
    : (core.step p operation).1.Carried := by
  obtain ⟨hdefinitions, hlayouts⟩ := step_layouts (p := p) core operation
  unfold Core.Carried
  rw [hdefinitions, hlayouts]
  exact h

theorem Core.Alike.trace {core core' : Core} (h : core.Alike core') (hcarried : core'.Carried)
    (first first' : Core) (operations : List Operation)
    : (runtime p first).trace core operations = (runtime p first').trace core' operations := by
  induction operations generalizing core core' with
  | nil => rfl
  | cons operation operations ih =>
    obtain ⟨hout, hafter⟩ := h.step hcarried operation
    simp only [Machine.trace]
    congr 1
    . exact congrArg (Prod.mk operation) hout
    . exact ih hafter (hcarried.step operation)

theorem fixtureRenderParams_packed (fixtures : List CompiledFixtureInstance) (fixtureId : Int32)
    : fixtureRenderParams (fixtures.map (transportFixture exactFormat)) fixtureId
        = (fixtureRenderParams fixtures fixtureId).packed := by
  have hvalid : (fun fixture => !invalidPatch fixture) ∘ transportFixture exactFormat
      = fun fixture => !invalidPatch fixture := rfl
  have hid : (fun fixture : CompiledFixtureInstance => fixture.fixtureId == fixtureId)
      ∘ transportFixture exactFormat = fun fixture => fixture.fixtureId == fixtureId := rfl
  unfold fixtureRenderParams
  rw [List.filter_map, hvalid, ← List.map_reverse, List.find?_map, hid]
  cases (fixtures.filter (fun fixture => !invalidPatch fixture)).reverse.find? (fun fixture =>
      fixture.fixtureId == fixtureId) <;> rfl

theorem installedCore_alike (p : Platform) (generation : Int32) (scene : CompiledRuntimeScene)
    : (installedCore p generation (transport exactFormat scene)).Alike
        (installedCore p generation scene) := by
  have htables : (installTables p scene).packed.fixtureTables
      (scene.fixtures.map (transportFixture exactFormat))
      = ((installTables p scene).fixtureTables scene.fixtures).packed := by
    unfold InstalledTables.fixtureTables FixtureTables.packed InstalledTables.installedVisualMask
    simp only [fixtureRenderParams_packed, visualMasks_packed]
    rfl
  have huniverse : (installTables p scene).packed.installUniverse p
      = fun u => ((installTables p scene).installUniverse p u).packed := by
    funext u
    unfold InstalledTables.installUniverse Universe.packed
    dsimp only
    rw [universeLayout_packed]
    rfl
  have horder : (installTables p scene).packed.universeOrder p
      = (installTables p scene).universeOrder p := by
    unfold InstalledTables.universeOrder
    rw [universeIds_packed]
  unfold installedCore
  rw [installTables_transport, transport_exact]
  dsimp only
  rw [capabilities_packed, wheelLayers_packed, horder, huniverse, htables]
  constructor
  . rfl
  . rfl
  . rw [List.map_map]
    rfl
  . refine ⟨rfl, rfl, rfl, rfl, rfl, ?_⟩
    exact wheelState_packed _
  . rfl

/-- Nothing is lost of a scene that it could show. -/
structure Carried (p : Platform) (scene : CompiledRuntimeScene) : Prop where
  fits : Fits scene
  multipliers : ∀ property ∈ (installTables p scene).properties,
    semanticParameterForCompiled property.entry.semantic = .dimmer
    → (fixtureRenderParams scene.fixtures property.entry.fixtureId).spotMultiplier = 1
      ∧ (fixtureRenderParams scene.fixtures property.entry.fixtureId).beamMultiplier = 20
  resources : ∀ target ∈ (installTables p scene).colorTargets, ∀ input ∈ target.entry.inputs,
    (⟨scene.emitterResources, scene.filterResources⟩ : ColorResources).Unnamed input

theorem Carried.core {scene : CompiledRuntimeScene} (h : Carried p scene) (generation : Int32)
    : (installedCore p generation scene).Carried := by
  intro layout hlayout
  rw [layouts_installedCore] at hlayout
  obtain ⟨u, _, rfl⟩ := List.mem_map.mp hlayout
  constructor
  . intro program hprogram hdimmer
    obtain ⟨property, hproperty, rfl⟩ := List.mem_map.mp hprogram
    obtain ⟨x, hx, _, rfl⟩ := mem_ofUniverse.mp hproperty
    obtain ⟨hspot, hbeam⟩ := h.multipliers x hx hdimmer
    unfold installedCore InstalledTables.fixtureTables propertyProgram FixtureRenderParams.packed
    dsimp only
    rw [hspot, hbeam]
  . intro target htarget input hinput
    obtain ⟨compiled, hcompiled, rfl⟩ := List.mem_map.mp htarget
    obtain ⟨x, hx, _, rfl⟩ := mem_ofUniverse.mp hcompiled
    obtain ⟨binding, hbinding, rfl⟩ := List.mem_map.mp hinput
    exact h.resources x hx binding hbinding

theorem readsEmptySources_packed (programs : List CompiledDmxSourceProgram)
    (palettes : List CompiledWheelPalette)
    : readsEmptySources programs palettes ∘ packedWheel = readsEmptySources programs palettes := by
  funext binding
  unfold Function.comp readsEmptySources
  rw [wheelProgram?_packed]

theorem installCompiledScene_transport {core installed : Core} {scene : CompiledRuntimeScene}
    (h : installCompiledScene p core scene = some installed)
    : installCompiledScene p core (transport exactFormat scene)
        = some (installedCore p core.nextSchemaGeneration (transport exactFormat scene)) := by
  unfold installCompiledScene at h ⊢
  dsimp only at h ⊢
  split at h
  . cases h
  next haccepted =>
    rw [if_neg]
    rw [transport_exact, List.any_map, readsEmptySources_packed]
    exact haccepted

/--
A scene of which nothing is lost that it could show, and what arrives of it in the packed form, are
installed as runtimes that put out the same frames on every history.
-/
theorem packed_install_shows {p : Platform} {core installed : Core} {scene : CompiledRuntimeScene}
    (hversion : scene.contractVersion = kCompiledRuntimeSceneContractVersion)
    (hexact : ScalarsExact p.toFloatFormat scene)
    (hinstall : installCompiledScene p core scene = some installed) (h : Carried p scene)
    : ∃ arrived, installCompiledScene p core (roundTrip p scene) = some arrived
        ∧ ∀ operations, (runtime p arrived).trace arrived operations
          = (runtime p installed).trace installed operations := by
  rw [roundTrip_of_fits hversion h.fits, transport_eq_of_exact hexact]
  refine ⟨_, installCompiledScene_transport hinstall, ?_⟩
  intro operations
  rw [installCompiledScene_eq_some hinstall]
  exact (installedCore_alike p core.nextSchemaGeneration scene).trace (h.core _) _ _ operations

/-- A beam whose red input is an emitter that measures green. -/
def emitterScene (valid : Bool) : CompiledRuntimeScene where
  emitterResources := [{ resourceId := 5, fallbackLinearG := 1, valid := valid }]
  sourcePrograms := [{
    programId := 1
    semantic := .listed .colorAddRed
    sources := [⟨0, 0, 0⟩]
  }]
  colorTargets := [{
    fixtureId := 1
    beamRenderTargetId := 1
    inputs := [{ sourceProgramId := 1, semantic := .listed .colorAddRed, emitterResourceId := 5 }]
  }]

theorem fits_emitterScene (valid : Bool) : Fits (emitterScene valid) := by
  constructor <;> simp [emitterScene, tableSizes, sceneCells, headerCells, sourceProgramCells,
    byteSourceCells, colorTargetCells, colorInputCells, ofSize, ofBool, ofUInt32, ofUInt8]

theorem packed_install_shows_emitter
    : ∃ arrived, installCompiledScene exactPlatform {} (roundTrip exactPlatform
            (emitterScene false)) = some arrived
        ∧ ∀ operations, (runtime exactPlatform arrived).trace arrived operations
          = (runtime exactPlatform (installedCore exactPlatform 1 (emitterScene false))).trace
            (installedCore exactPlatform 1 (emitterScene false)) operations := by
  apply @packed_install_shows exactPlatform {} (installedCore exactPlatform 1 (emitterScene false))
    (emitterScene false) rfl (fun _ _ => rfl) rfl
  constructor
  . exact fits_emitterScene false
  . intro property hproperty
    cases hproperty
  . unfold ColorResources.Unnamed
    decide +kernel

/-- The resources are not packed, the runtime that installs what arrives shows red. -/
theorem emitter_lost
    : ¬ ∀ (p : Platform) (core installed : Core) (scene : CompiledRuntimeScene),
        scene.contractVersion = kCompiledRuntimeSceneContractVersion
        → ScalarsExact p.toFloatFormat scene
        → installCompiledScene p core scene = some installed
        → ∃ arrived, installCompiledScene p core (roundTrip p scene) = some arrived
          ∧ ∀ operations, (runtime p arrived).trace arrived operations
            = (runtime p installed).trace installed operations := by
  intro h
  obtain ⟨arrived, harrived, htrace⟩ := h exactPlatform {}
    (installedCore exactPlatform 1 (emitterScene true)) (emitterScene true) rfl (fun _ _ => rfl) rfl
  rw [roundTrip_of_fits rfl (fits_emitterScene true)] at harrived
  rw [installCompiledScene_eq_some harrived] at htrace
  have hframes := congrArg (List.map Prod.snd) (htrace [.submit 0 [255], .consume 0])
  revert hframes
  decide +kernel

end Peraviz.Runtime
