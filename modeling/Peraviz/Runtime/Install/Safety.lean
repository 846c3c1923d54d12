import Peraviz.Runtime.Core.Lemmas

/-!
This module contains what an installation has to check for the evaluation that comes after it: that
every offset a universe watches is a slot, and that no list whose front is taken is empty.
-/

namespace Peraviz.Runtime

/-- The modes that show the front slot of their palette. -/
def showsFront (mode : CompiledWheelMode) : Prop :=
  mode ≠ .listed .index ∧ mode ≠ .listed .select

/-- Some frame makes the function of the program active. -/
def Activatable (program : CompiledDmxSourceProgram) : Prop :=
  ∃ frame, inRange (readRawValue frame program).1 program.dmxFrom program.dmxTo = true

def GoboEvaluationContext.HasFront (context : GoboEvaluationContext) : Prop :=
  context.dependencyProgramIds ≠ [] ∧ context.sources ≠ []

/-- What the evaluation of a universe relies on without a check of its own. -/
structure UniverseLayout.Guarded (palettes : Int32 → Option CompiledWheelPalette)
    (layout : UniverseLayout) : Prop where
  offsets : ∀ offset ∈ layout.interestOffsets, IsSlot offset
  properties : ∀ program ∈ layout.properties, program.sources ≠ []
  gobos : ∀ gobo ∈ layout.gobos.bindings, gobo.context.HasFront
  motions : ∀ motion ∈ layout.gobos.motionBindings, motion.context.HasFront
  shutters : ∀ shutter ∈ layout.shutters.bindings, shutter.context.HasFront
  wheels : ∀ wheel ∈ layout.wheels.bindings, showsFront wheel.binding.mode
    → Activatable (layout.plan.program wheel.source)
    → ∀ palette, palettes wheel.binding.wheelRendererId = some palette → palette.slots ≠ []

/-! ### The indexing of the last relevant values -/

/-- The index of an offset in `last_relevant_values`, nothing outside of the array. -/
def slot? (offset : Int32) : Option (Fin 512) :=
  if h : offset.toInt.toNat < 512 then
    if 0 ≤ offset then some ⟨offset.toInt.toNat, h⟩ else none
  else
    none

/-- The loop over the interest offsets on the array, which stops where an index is outside. -/
def discoverIndexed (frame : List UInt8) (hasLast : Bool)
    (found : List Int32 × (Fin 512 → UInt8)) (offset : Int32)
    : Option (List Int32 × (Fin 512 → UInt8)) := do
  let slot ← slot? offset
  let value := byteOf frame offset
  if !hasLast || found.2 slot != value then
    return (found.1 ++ [offset], Function.update found.2 slot value)
  else
    return found

theorem isSome_slot? {offset : Int32} : (slot? offset).isSome = true ↔ IsSlot offset := by
  have hnonneg := Int32.le_iff_toInt_le (x := 0) (y := offset)
  have hlt := Int32.lt_iff_toInt_lt (x := offset) (y := 512)
  have h512 : (512 : Int32).toInt = 512 := rfl
  rw [Int32.toInt_zero] at hnonneg
  rw [h512] at hlt
  unfold slot? IsSlot
  split
  next h =>
    split
    next h0 =>
      simp only [Option.isSome_some, true_iff]
      refine ⟨h0, hlt.mpr ?_⟩
      omega
    next h0 => simp [h0]
  next h =>
    simp only [Option.isSome_none, Bool.false_eq_true, false_iff, not_and]
    intro h0 h1
    have := hnonneg.mp h0
    have := hlt.mp h1
    omega

theorem isSome_discoverIndexed (frame : List UInt8) (hasLast : Bool)
    (found : List Int32 × (Fin 512 → UInt8)) {offset : Int32}
    : (discoverIndexed frame hasLast found offset).isSome = (slot? offset).isSome := by
  unfold discoverIndexed
  cases slot? offset with
  | none => rfl
  | some slot =>
    simp only [Option.bind_eq_bind, Option.bind_some]
    split <;> rfl

theorem isSome_foldlM_discoverIndexed {frame : List UInt8} {hasLast : Bool} {offsets : List Int32}
    {found : List Int32 × (Fin 512 → UInt8)}
    : (offsets.foldlM (discoverIndexed frame hasLast) found).isSome = true
        ↔ ∀ offset ∈ offsets, IsSlot offset := by
  induction offsets generalizing found with
  | nil => simp
  | cons offset offsets ih =>
    rw [List.foldlM_cons, List.forall_mem_cons, ← isSome_slot?,
      ← isSome_discoverIndexed frame hasLast found]
    cases hstep : discoverIndexed frame hasLast found offset with
    | none => simp
    | some next => simp [ih]

def UniverseState.lastRelevantArray (s : UniverseState) (slot : Fin 512) : UInt8 :=
  s.lastRelevantValues (Int32.ofNat slot)

theorem slot?_eq {offset : Int32} {slot : Fin 512} (h : slot? offset = some slot)
    : offset = Int32.ofNat slot := by
  unfold slot? at h
  split at h
  . split at h
    next h0 =>
      have h0 := Int32.le_iff_toInt_le.mp h0
      rw [Int32.toInt_zero] at h0
      cases h
      dsimp only
      rw [← Int32.ofInt_eq_ofNat, Int.toNat_of_nonneg h0, Int32.ofInt_toInt]
    . cases h
  . cases h

theorem ofNat_inj {slot slot' : Fin 512}
    (h : Int32.ofNat (slot : Nat) = Int32.ofNat (slot' : Nat)) : slot = slot' := by
  have hslot := Int32.toInt_ofNat_of_lt (n := slot) (by omega)
  have hslot' := Int32.toInt_ofNat_of_lt (n := slot') (by omega)
  rw [h, hslot'] at hslot
  omega

theorem update_lastRelevant (last : Int32 → UInt8) (slot : Fin 512) (value : UInt8)
    : Function.update (fun slot : Fin 512 => last (Int32.ofNat slot)) slot value
        = fun other : Fin 512 =>
          Function.update last (Int32.ofNat slot) value (Int32.ofNat other) := by
  funext other
  by_cases h : other = slot
  . rw [h, Function.update_self, Function.update_self]
  . rw [Function.update_of_ne h, Function.update_of_ne]
    intro heq
    exact h (ofNat_inj heq)

theorem foldlM_discoverIndexed {frame : List UInt8} {hasLast : Bool} {offsets : List Int32}
    (hslots : ∀ offset ∈ offsets, IsSlot offset) (hnodup : offsets.Nodup)
    (last : Int32 → UInt8) (changed : List Int32)
    : offsets.foldlM (discoverIndexed frame hasLast)
          (changed, fun slot : Fin 512 => last (Int32.ofNat slot))
        = some (changed ++ offsets.filter (fun offset =>
            !hasLast || last offset != byteOf frame offset),
          fun slot : Fin 512 => if Int32.ofNat slot ∈ offsets.filter (fun offset =>
              !hasLast || last offset != byteOf frame offset)
            then byteOf frame (Int32.ofNat slot) else last (Int32.ofNat slot)) := by
  induction offsets generalizing last changed with
  | nil => simp
  | cons offset offsets ih =>
    obtain ⟨hnew, hnodup'⟩ := List.nodup_cons.mp hnodup
    obtain ⟨hslot, hbehind⟩ := List.forall_mem_cons.mp hslots
    obtain ⟨slot, hslot⟩ := Option.isSome_iff_exists.mp (isSome_slot?.mpr hslot)
    obtain rfl := slot?_eq hslot
    have hstep : discoverIndexed frame hasLast
        (changed, fun slot : Fin 512 => last (Int32.ofNat slot)) (Int32.ofNat slot)
        = if (!hasLast || last (Int32.ofNat slot) != byteOf frame (Int32.ofNat slot)) = true then
            some (changed ++ [Int32.ofNat slot],
              Function.update (fun slot : Fin 512 => last (Int32.ofNat slot)) slot
                (byteOf frame (Int32.ofNat slot)))
          else
            some (changed, fun slot : Fin 512 => last (Int32.ofNat slot)) := by
      unfold discoverIndexed
      rw [hslot]
      rfl
    rw [List.foldlM_cons, hstep, List.filter_cons]
    split
    next hchanged =>
      -- the offsets behind are others, so their values are those from before
      have hrest : offsets.filter (fun offset => !hasLast
            || Function.update last (Int32.ofNat slot) (byteOf frame (Int32.ofNat slot)) offset
              != byteOf frame offset)
          = offsets.filter (fun offset => !hasLast || last offset != byteOf frame offset) := by
        apply List.filter_congr
        intro other hother
        rw [Function.update_of_ne]
        rintro rfl
        exact hnew hother
      rw [Option.bind_eq_bind, Option.bind_some, update_lastRelevant, ih hbehind hnodup', hrest]
      congr 2
      . simp
      . funext other
        by_cases h : other = slot
        . rw [h]
          simp
        . have hne : Int32.ofNat (other : Nat) ≠ Int32.ofNat slot := fun heq => h (ofNat_inj heq)
          simp [hne]
    next =>
      rw [Option.bind_eq_bind, Option.bind_some, ih hbehind hnodup']

theorem discoverOffsets_indexed {offsets : List Int32} (hslots : ∀ offset ∈ offsets, IsSlot offset)
    (hnodup : offsets.Nodup) (s : UniverseState)
    : offsets.foldlM (discoverIndexed s.latestFrame s.hasLastRelevantValues)
          ([], s.lastRelevantArray)
        = some ((discoverOffsets offsets s).changedOffsets,
          (discoverOffsets offsets s).lastRelevantArray) :=
  foldlM_discoverIndexed hslots hnodup s.lastRelevantValues []

/-! ### What the installation leaves unchecked -/

/-- The programs that entries other than the properties read. -/
def InstalledTables.uncheckedIds (t : InstalledTables) : List Int32 :=
  t.colorTargets.flatMap (fun x => x.entry.inputs.map CompiledColorInputBinding.sourceProgramId)
    ++ t.wheels.map (fun x => x.entry.sourceProgramId)
    ++ t.gobos.flatMap (fun x => x.entry.dependencyProgramIds)
    ++ t.motions.flatMap (fun x => x.entry.dependencyProgramIds)
    ++ t.shutters.flatMap (fun x => x.entry.dependencyProgramIds)

/--
What a scene has to bring along: slots for the sources of everything but the properties, sources
for every wheel, and a slot in every palette whose front a wheel shows.
-/
structure InstallGuard (p : Platform) (scene : CompiledRuntimeScene) : Prop where
  addresses : ∀ id ∈ (installTables p scene).uncheckedIds,
    ∀ program, program? (installTables p scene).programs id = some program
      → ∀ byte ∈ program.sources, IsSlot byte.address
  sources : ∀ binding ∈ scene.wheelBindings,
    readsEmptySources (installTables p scene).programs scene.wheelPalettes binding = false
  palettes : ∀ x ∈ (installTables p scene).wheels, showsFront x.entry.mode
    → ∀ program, program? (installTables p scene).programs x.entry.sourceProgramId = some program
      → Activatable program
    → ∀ palette, wheelPalette? scene.wheelPalettes x.entry.wheelRendererId = some palette
      → palette.slots ≠ []

section

variable {p : Platform} {scene : CompiledRuntimeScene}

theorem installCompiledScene_guarded (core : Core) (h : ∀ binding ∈ scene.wheelBindings,
      readsEmptySources (installTables p scene).programs scene.wheelPalettes binding = false)
    : installCompiledScene p core scene
        = some (installedCore p core.nextSchemaGeneration scene) := by
  unfold installCompiledScene
  dsimp only
  rw [if_neg]
  rw [Bool.not_eq_true, List.any_eq_false]
  intro binding hbinding
  rw [Bool.not_eq_true]
  exact h binding hbinding

theorem sources_of_installed {core core' : Core} (h : installCompiledScene p core scene = some core')
    : ∀ binding ∈ scene.wheelBindings,
      readsEmptySources (installTables p scene).programs scene.wheelPalettes binding = false := by
  unfold installCompiledScene at h
  dsimp only at h
  split at h
  . cases h
  next hnone =>
    rw [Bool.not_eq_true, List.any_eq_false] at hnone
    intro binding hbinding
    rw [← Bool.not_eq_true]
    exact hnone binding hbinding

theorem slots_property {x : Installed CompiledComponentProperty}
    (hx : x ∈ (installTables p scene).properties)
    : x.entry.contributors ≠ [] ∧ ∀ contributor ∈ x.entry.contributors,
        ∃ program, program? (installTables p scene).programs contributor.sourceProgramId
            = some program ∧ ∀ byte ∈ program.sources, IsSlot byte.address := by
  obtain ⟨property, _, hproperty⟩ := List.mem_filterMap.mp hx
  obtain ⟨heq, hresolves⟩ := resolves_property hproperty
  rw [heq]
  exact hresolves

theorem mem_readIds {u id : Int32} (hid : id ∈ (installTables p scene).readIds u)
    : (∃ x ∈ (installTables p scene).properties, ∃ contributor ∈ x.entry.contributors,
        contributor.sourceProgramId = id)
      ∨ id ∈ (installTables p scene).uncheckedIds := by
  unfold InstalledTables.readIds at hid
  unfold InstalledTables.uncheckedIds
  simp only [List.mem_append, List.mem_flatMap, List.mem_map, mem_ofUniverse] at hid ⊢
  rcases hid with ((((h | h) | h) | h) | h) | h
  . obtain ⟨property, ⟨x, hx, _, rfl⟩, contributor, hcontributor, rfl⟩ := h
    exact Or.inl ⟨x, hx, contributor, hcontributor, rfl⟩
  . obtain ⟨target, ⟨x, hx, _, rfl⟩, input, hinput, rfl⟩ := h
    exact Or.inr (Or.inl (Or.inl (Or.inl (Or.inl ⟨x, hx, input, hinput, rfl⟩))))
  . obtain ⟨binding, ⟨x, hx, _, rfl⟩, rfl⟩ := h
    exact Or.inr (Or.inl (Or.inl (Or.inl (Or.inr ⟨x, hx, rfl⟩))))
  . obtain ⟨binding, ⟨x, hx, _, rfl⟩, hid⟩ := h
    exact Or.inr (Or.inl (Or.inl (Or.inr ⟨x, hx, hid⟩)))
  . obtain ⟨binding, ⟨x, hx, _, rfl⟩, hid⟩ := h
    exact Or.inr (Or.inl (Or.inr ⟨x, hx, hid⟩))
  . obtain ⟨entry, ⟨x, hx, _, rfl⟩, hid⟩ := h
    exact Or.inr (Or.inr ⟨x, hx, hid⟩)

theorem mem_readIds_of_wheel {t : InstalledTables} {x : Installed CompiledWheelTargetBinding}
    (hx : x ∈ t.wheels) : x.entry.sourceProgramId ∈ t.readIds x.universeId := by
  unfold InstalledTables.readIds
  simp only [List.mem_append, List.mem_map, mem_ofUniverse]
  exact Or.inl (Or.inl (Or.inl (Or.inr ⟨x.entry, ⟨x, hx, rfl, rfl⟩, rfl⟩)))

theorem hasFront_evaluationContext {programs planPrograms : List CompiledDmxSourceProgram}
    {ids : List Int32} (h : ids ≠ []) : (evaluationContext programs planPrograms ids).HasFront := by
  refine ⟨h, ?_⟩
  intro hnil
  exact h (List.map_eq_nil_iff.mp hnil)

theorem InstallGuard.universeLayout (h : InstallGuard p scene) (u : Int32)
    : (Runtime.universeLayout (installTables p scene) u).Guarded
        (wheelPalette? scene.wheelPalettes) := by
  have hresolved := resolved_installTables p scene
  constructor
  . intro offset hoffset
    obtain ⟨id, hid, program, hprogram, byte, hbyte, rfl⟩ := mem_interestOffsets.mp hoffset
    rcases mem_readIds hid with ⟨x, hx, contributor, hcontributor, rfl⟩ | hid
    . obtain ⟨program', hprogram', hslots⟩ := (slots_property hx).2 contributor hcontributor
      rw [hprogram] at hprogram'
      cases hprogram'
      exact hslots byte hbyte
    . exact h.addresses id hid program hprogram byte hbyte
  . intro program hprogram
    obtain ⟨property, hproperty, rfl⟩ := List.mem_map.mp hprogram
    obtain ⟨x, hx, _, rfl⟩ := mem_ofUniverse.mp hproperty
    intro hnil
    exact (slots_property hx).1 (List.map_eq_nil_iff.mp hnil)
  . intro gobo hgobo
    obtain ⟨binding, hbinding, rfl⟩ := List.mem_map.mp hgobo
    obtain ⟨x, hx, _, rfl⟩ := mem_ofUniverse.mp hbinding
    exact hasFront_evaluationContext (hresolved.gobos x hx).1
  . intro motion hmotion
    obtain ⟨binding, hbinding, rfl⟩ := List.mem_map.mp hmotion
    obtain ⟨x, hx, _, rfl⟩ := mem_ofUniverse.mp hbinding
    exact hasFront_evaluationContext (hresolved.motions x hx).1
  . intro shutter hshutter
    obtain ⟨entry, hentry, rfl⟩ := List.mem_map.mp hshutter
    obtain ⟨x, hx, _, rfl⟩ := mem_ofUniverse.mp hentry
    exact hasFront_evaluationContext (hresolved.shutters x hx).1
  . intro wheel hwheel hmode hactivatable
    obtain ⟨binding, hbinding, rfl⟩ := List.mem_map.mp hwheel
    obtain ⟨x, hx, hu, rfl⟩ := mem_ofUniverse.mp hbinding
    obtain ⟨program, hprogram, hget⟩ := hresolved.sourceIndex (mem_readIds_of_wheel hx)
    rw [hu] at hget
    dsimp only at hactivatable
    rw [program_universeLayout hget] at hactivatable
    exact h.palettes x hx hmode program hprogram hactivatable

theorem mem_universeIds_of_unchecked {id : Int32}
    (hid : id ∈ (installTables p scene).uncheckedIds)
    : ∃ u ∈ (installTables p scene).universeIds, id ∈ (installTables p scene).readIds u := by
  unfold InstalledTables.uncheckedIds at hid
  unfold InstalledTables.universeIds InstalledTables.readIds
  simp only [mem_firstOccurrences, List.mem_append, List.mem_flatMap, List.mem_map,
    mem_ofUniverse] at hid ⊢
  rcases hid with (((h | h) | h) | h) | h
  . obtain ⟨x, hx, input, hinput, rfl⟩ := h
    refine ⟨x.universeId, Or.inl (Or.inl (Or.inl (Or.inl (Or.inr ⟨x, hx, rfl⟩)))), ?_⟩
    exact Or.inl (Or.inl (Or.inl (Or.inl (Or.inr
      ⟨x.entry, ⟨x, hx, rfl, rfl⟩, input, hinput, rfl⟩))))
  . obtain ⟨x, hx, rfl⟩ := h
    refine ⟨x.universeId, Or.inl (Or.inl (Or.inl (Or.inr ⟨x, hx, rfl⟩))), ?_⟩
    exact Or.inl (Or.inl (Or.inl (Or.inr ⟨x.entry, ⟨x, hx, rfl, rfl⟩, rfl⟩)))
  . obtain ⟨x, hx, hid⟩ := h
    refine ⟨x.universeId, Or.inl (Or.inl (Or.inr ⟨x, hx, rfl⟩)), ?_⟩
    exact Or.inl (Or.inl (Or.inr ⟨x.entry, ⟨x, hx, rfl, rfl⟩, hid⟩))
  . obtain ⟨x, hx, hid⟩ := h
    refine ⟨x.universeId, Or.inl (Or.inr ⟨x, hx, rfl⟩), ?_⟩
    exact Or.inl (Or.inr ⟨x.entry, ⟨x, hx, rfl, rfl⟩, hid⟩)
  . obtain ⟨x, hx, hid⟩ := h
    refine ⟨x.universeId, Or.inr ⟨x, hx, rfl⟩, ?_⟩
    exact Or.inr ⟨x.entry, ⟨x, hx, rfl, rfl⟩, hid⟩

theorem installGuard_of_guarded (hsources : ∀ binding ∈ scene.wheelBindings,
      readsEmptySources (installTables p scene).programs scene.wheelPalettes binding = false)
    (hlayouts : ∀ u ∈ (installTables p scene).universeIds,
      (universeLayout (installTables p scene) u).Guarded (wheelPalette? scene.wheelPalettes))
    : InstallGuard p scene := by
  refine ⟨?_, hsources, ?_⟩
  . intro id hid program hprogram byte hbyte
    obtain ⟨u, hu, hread⟩ := mem_universeIds_of_unchecked hid
    apply (hlayouts u hu).offsets
    exact mem_interestOffsets.mpr ⟨id, hread, program, hprogram, byte, hbyte, rfl⟩
  . intro x hx hmode program hprogram hactivatable
    have hu : x.universeId ∈ (installTables p scene).universeIds := by
      unfold InstalledTables.universeIds
      simp only [mem_firstOccurrences, List.mem_append]
      exact Or.inl (Or.inl (Or.inl (Or.inr (List.mem_map_of_mem hx))))
    have hwheel : (⟨x.entry, sourceIndex ((installTables p scene).planPrograms x.universeId)
          x.entry.sourceProgramId⟩ : WheelBindingRuntime)
        ∈ (universeLayout (installTables p scene) x.universeId).wheels.bindings :=
      List.mem_map.mpr ⟨x.entry, mem_ofUniverse.mpr ⟨x, hx, rfl, rfl⟩, rfl⟩
    obtain ⟨program', hprogram', hget⟩ :=
      (resolved_installTables p scene).sourceIndex (mem_readIds_of_wheel hx)
    rw [hprogram] at hprogram'
    cases hprogram'
    apply (hlayouts _ hu).wheels _ hwheel hmode
    rw [program_universeLayout hget]
    exact hactivatable

end

/-- A payload of version 9 with one program, of a byte at address 600, and a color target on it. -/
def outsidePayload : List Int32 :=
  [9, 0, 1, 0, 1, 0, 0, 0, 0, 0, 0, 0]
    ++ [1, 0, 1, 0, 255, -1, -1, 0, 0, 0, 0, 1, 0, 0, 3, 600, 0]
    ++ [1, 1, 1, 0, 0, 1, 1, 12, -1, 0, 0, 0]

def outsideScene : CompiledRuntimeScene where
  sourcePrograms := [{
    programId := 1
    sources := [{ universeId := 3, address := 600 }]
  }]
  colorTargets := [{
    colorTargetId := 1
    fixtureId := 1
    beamRenderTargetId := 1
    inputs := [{ sourceProgramId := 1, semantic := .listed .colorAddRed }]
  }]

theorem decode_outsidePayload
    : (Codec.decodeCompiledRuntimeScene exactPlatform.toFloatFormat outsidePayload []).valid = true
        ∧ (Codec.decodeCompiledRuntimeScene exactPlatform.toFloatFormat outsidePayload []).scene
          = outsideScene := by
  decide +kernel

end Peraviz.Runtime
