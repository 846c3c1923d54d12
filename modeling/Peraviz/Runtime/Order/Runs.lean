import Peraviz.Runtime.Order.Domains
import Peraviz.Transition.Machine

/-!
This module contains the runs of a runtime in which every consume visits the universes in an order
of its own: what is held and the rows that are put out do not depend on the orders.
-/

open Footprint

namespace Peraviz.Runtime

/-- An order in which the universes are visited. -/
structure VisitingOrder where
  order : List Universe → List Universe
  perm : ∀ universes, (order universes).Perm universes

def VisitingOrder.stored : VisitingOrder := ⟨id, fun universes => List.Perm.refl universes⟩

inductive OrderedOperation where
  | submit (universeId : Int32) (data : List UInt8)
  | consume (now : ℚ) (visiting : VisitingOrder)

def OrderedOperation.operation : OrderedOperation → Operation
  | .submit universeId data => .submit universeId data
  | .consume now _ => .consume now

def Operation.visiting (visiting : VisitingOrder) : Operation → OrderedOperation
  | .submit universeId data => .submit universeId data
  | .consume now => .consume now visiting

/-- The universes of a consume in the order that is given. -/
def Core.consumeIn (p : Platform) (core : Core) (now : ℚ) (visiting : VisitingOrder)
    : ConsumeState × List Universe :=
  updateAll (consumeUniverse p core.definitions now) core.consumeState
    (visiting.order core.universes)

def Core.stepIn (p : Platform) (core : Core)
    : OrderedOperation → Core × Option SectionedVisualFrame
  | .submit universeId data => (submitUniverseFrame core universeId data, none)
  | .consume now visiting =>
    let (core, frame) := core.finish (core.consumeIn p now visiting)
    (core, some frame)

/-- The runtime of `runtime`, the container of its universes has no order. -/
def orderedRuntime (p : Platform) (core : Core)
    : Machine Core OrderedOperation (Option SectionedVisualFrame) where
  init := core
  step := Core.stepIn p

/-- The rows of the sections of what a consume merges into the state that is held. -/
def Emission.heldSections (ids : ComponentIds) (e : Emission) : List (List SectionRow) :=
  [e.transformRows ids, e.intensityRows, e.colorRows, e.wheelRows, e.opticsRows]

namespace InstalledTables

/-- Each installed entry as its universe and what the entry writes. -/
def writers (t : InstalledTables) : List (Int32 × HeldKey) :=
  t.properties.map (fun x =>
      (x.universeId, x.entry.heldKey (semanticParameterForCompiled x.entry.semantic)))
    ++ t.colorTargets.map (fun x => (x.universeId, .beam x.entry.beamRenderTargetId))
    ++ t.wheels.map (fun x => (x.universeId, .beam x.entry.beamRenderTargetId))

/-- Each property, each transform and each beam target is written by programs of one universe. -/
def OneWriter (t : InstalledTables) : Prop :=
  ∀ a ∈ t.writers, ∀ b ∈ t.writers, a.2 = b.2 → a.1 = b.1

instance (t : InstalledTables) : Decidable t.OneWriter :=
  decidable_of_iff (t.writers.all (fun a => t.writers.all (fun b =>
    decide (a.2 = b.2 → a.1 = b.1))) = true) (by simp [OneWriter, imp_iff_not_or])

def Owns (t : InstalledTables) (u : Int32) (key : HeldKey) : Prop := (u, key) ∈ t.writers

variable {t : InstalledTables}

theorem controls_physicalKey {u : Int32} {key : Int} {binding : CompiledWheelTargetBinding}
    (h : (universeLayout t u).wheels.Controls key binding) : binding.physicalKey = key := by
  obtain ⟨index, hindex, wheel, hget, rfl⟩ := h
  obtain ⟨installed, hinstalled, hkey⟩ := mem_indicesOf.mp
    ((List.perm_insertionSort _ _).mem_iff.mp hindex)
  have hwheel : wheel.binding = installed := by
    have hmap : (universeLayout t u).wheels.bindings[index]?.map WheelBindingRuntime.binding
        = some installed := by simpa [universeLayout, wheelLayout] using hinstalled
    rw [hget] at hmap
    exact Option.some.inj hmap
  rw [hwheel]
  exact eq_of_beq hkey

theorem owns_universeLayout (t : InstalledTables) (u : Int32)
    : (universeLayout t u).Owns (t.Owns u) := by
  constructor
  . intro program hprogram
    obtain ⟨property, hproperty, rfl⟩ := List.mem_map.mp hprogram
    obtain ⟨x, hx, rfl, rfl⟩ := mem_ofUniverse.mp hproperty
    apply List.mem_append_left
    apply List.mem_append_left
    exact List.mem_map_of_mem (f := fun x : Installed CompiledComponentProperty =>
      (x.universeId, x.entry.heldKey (semanticParameterForCompiled x.entry.semantic))) hx
  . intro target htarget
    obtain ⟨program, hprogram, rfl⟩ := List.mem_map.mp htarget
    obtain ⟨x, hx, rfl, rfl⟩ := mem_ofUniverse.mp hprogram
    apply List.mem_append_left
    apply List.mem_append_right
    exact List.mem_map_of_mem (f := fun x : Installed CompiledColorTargetProgram =>
      (x.universeId, HeldKey.beam x.entry.beamRenderTargetId)) hx
  . intro wheel hwheel
    obtain ⟨binding, hbinding, rfl⟩ := List.mem_map.mp hwheel
    obtain ⟨x, hx, rfl, rfl⟩ := mem_ofUniverse.mp hbinding
    apply List.mem_append_right
    exact List.mem_map_of_mem (f := fun x : Installed CompiledWheelTargetBinding =>
      (x.universeId, HeldKey.beam x.entry.beamRenderTargetId)) hx
  . intro key binding
    exact controls_physicalKey

theorem over_wheelLayers (t : InstalledTables) : t.wheelLayers.Over := by
  intro target key hkey
  obtain ⟨renderer, _, rfl⟩ := List.mem_map.mp hkey
  exact ⟨renderer, rfl⟩

theorem seated_wheelState (t : InstalledTables) : Seated t.wheelState := by
  intro target renderer hinitialized
  unfold wheelState at hinitialized
  split at hinitialized
  . cases hinitialized
  . cases hinitialized

theorem OneWriter.disjoint (h : t.OneWriter) {us : List Universe}
    (hus : (us.map (fun u => u.layout.universeId)).Nodup) : Disjoint (heldParts t.Owns) us := by
  unfold Footprint.Disjoint
  rw [List.Nodup, List.pairwise_map] at hus
  apply hus.imp
  intro a b hne key ha hb
  exact hne (h _ ha _ hb rfl)

end InstalledTables

theorem updateAll_eq_visitAll {σ α : Type} (step : σ → α → σ × α) (s : σ) (l : List α)
    : updateAll step s l = visitAll step s l := by
  induction l generalizing s with
  | nil => rfl
  | cons a l ih => simp only [updateAll, visitAll, ih]

/-! ### Two runs -/

variable {p : Platform} {t : InstalledTables} {core core' : Core}

/-- The state of two runs with the same operations, whose universes were visited in other orders. -/
structure Reordered (t : InstalledTables) (core core' : Core) : Prop where
  definitions : core'.definitions = core.definitions
  universes : core.universes.Perm core'.universes
  view : ∀ key, core.held.view key = core'.held.view key
  seated : Seated core.held.wheels
  seated' : Seated core'.held.wheels
  layers : core.definitions.wheelLayers.Over
  layouts : ∀ layout ∈ core.layouts, layout = universeLayout t layout.universeId
  ids : (core.layouts.map UniverseLayout.universeId).Nodup

namespace Reordered

theorem submit (h : Reordered t core core') (universeId : Int32) (data : List UInt8)
    : Reordered t (submitUniverseFrame core universeId data)
        (submitUniverseFrame core' universeId data) := by
  have hlayouts := (step_layouts (p := exactPlatform) core (.submit universeId data)).2
  exact {
    definitions := h.definitions
    universes := h.universes.map _
    view := h.view
    seated := h.seated
    seated' := h.seated'
    layers := h.layers
    layouts := by
      rw [show (submitUniverseFrame core universeId data).layouts = core.layouts from hlayouts]
      exact h.layouts
    ids := by
      rw [show (submitUniverseFrame core universeId data).layouts = core.layouts from hlayouts]
      exact h.ids
  }

variable (hone : t.OneWriter) (h : Reordered t core core') (now : ℚ)
  (visiting visiting' : VisitingOrder)
include hone h

theorem consumeIn
    : let c := core.consumeIn p now visiting
      let c' := core'.consumeIn p now visiting'
      (∀ key, c.1.held.view key = c'.1.held.view key) ∧ c.2.Perm c'.2
        ∧ c.1.emission.rows.Perm c'.1.emission.rows
        ∧ Seated c.1.held.wheels ∧ Seated c'.1.held.wheels := by
  have hperm := (visiting.perm core.universes).trans
    (h.universes.trans (visiting'.perm core'.universes).symm)
  have hdisjoint : Disjoint (heldParts t.Owns) (visiting.order core.universes) := by
    apply hone.disjoint
    have hids := h.ids
    rw [Core.layouts, List.map_map] at hids
    exact ((visiting.perm core.universes).map _).nodup_iff.mpr hids
  have hconfined : ∀ u ∈ visiting.order core.universes,
      Confined (heldParts t.Owns) (fun c => Seated c.held.wheels)
        (consumeUniverse p core.definitions now) u := by
    intro u hu
    apply confined_consumeUniverse _ h.layers
    have hlayout := h.layouts u.layout
      (List.mem_map_of_mem ((visiting.perm core.universes).mem_iff.mp hu))
    have howns := t.owns_universeLayout u.layout.universeId
    rw [← hlayout] at howns
    exact howns
  obtain ⟨hview, helements, added, added', hout, hout', hadded⟩ := visitAll_perm hconfined hdisjoint
    hperm (s := core.consumeState) (t := core'.consumeState) h.seated h.seated' h.view
  dsimp only [Core.consumeIn]
  rw [h.definitions, updateAll_eq_visitAll, updateAll_eq_visitAll]
  refine ⟨hview, helements, ?_⟩
  have hrows : (visitAll (consumeUniverse p core.definitions now) core.consumeState
      (visiting.order core.universes)).1.emission.rows = added := hout
  have hrows' : (visitAll (consumeUniverse p core.definitions now) core'.consumeState
      (visiting'.order core'.universes)).1.emission.rows = added' := hout'
  rw [hrows, hrows']
  refine ⟨hadded, ?_, ?_⟩
  . exact (visitAll_alone hconfined hdisjoint h.seated h.seated (fun _ _ _ _ => rfl)).inv
  . exact (visitAll_alone (fun u hu => hconfined u (hperm.mem_iff.mpr hu)) (hdisjoint.perm hperm)
      h.seated' h.seated' (fun _ _ _ _ => rfl)).inv

theorem consume
    : Reordered t (core.finish (core.consumeIn p now visiting)).1
        (core'.finish (core'.consumeIn p now visiting')).1 := by
  obtain ⟨hview, huniverses, _, hseated, hseated'⟩ :=
    h.consumeIn hone (p := p) now visiting visiting'
  have hlayouts : (core.finish (core.consumeIn p now visiting)).1.layouts.Perm core.layouts := by
    change ((core.consumeIn p now visiting).2.map Universe.layout).Perm core.layouts
    rw [Core.consumeIn, layouts_updateAll]
    exact (visiting.perm core.universes).map Universe.layout
  exact {
    definitions := h.definitions
    universes := huniverses
    view := hview
    seated := hseated
    seated' := hseated'
    layers := h.layers
    layouts := fun layout hlayout => h.layouts layout (hlayouts.mem_iff.mp hlayout)
    ids := (hlayouts.map UniverseLayout.universeId).nodup_iff.mpr h.ids
  }

end Reordered

theorem Reordered.run (hone : t.OneWriter) (h : Reordered t core core') (first : Core)
    {past past' : List OrderedOperation}
    (hsame : past.map OrderedOperation.operation = past'.map OrderedOperation.operation)
    : Reordered t ((orderedRuntime p first).run core past)
        ((orderedRuntime p first).run core' past') := by
  induction past generalizing core core' past' with
  | nil =>
    rw [List.map_eq_nil_iff.mp hsame.symm]
    exact h
  | cons operation past ih =>
    cases past' with
    | nil => cases hsame
    | cons operation' past' =>
      obtain ⟨hoperation, hrest⟩ := List.cons.inj hsame
      rw [Machine.run_cons, Machine.run_cons]
      apply ih _ hrest
      cases operation with
      | submit universeId data =>
        cases operation' with
        | submit universeId' data' =>
          cases hoperation
          exact h.submit universeId data
        | consume now' visiting' => cases hoperation
      | consume now visiting =>
        cases operation' with
        | submit universeId' data' => cases hoperation
        | consume now' visiting' =>
          cases hoperation
          exact h.consume hone now visiting visiting'

theorem Reordered.installed (generation : Int32) (scene : CompiledRuntimeScene)
    : Reordered (installTables p scene) (installedCore p generation scene)
        (installedCore p generation scene) := by
  have hlayouts := layouts_installedCore (p := p) generation scene
  have hseated : Seated (installedCore p generation scene).held.wheels :=
    (installTables p scene).seated_wheelState
  exact {
    definitions := rfl
    universes := List.Perm.refl _
    view := fun _ => rfl
    seated := hseated
    seated' := hseated
    layers := (installTables p scene).over_wheelLayers
    layouts := by
      rw [hlayouts]
      intro layout hlayout
      obtain ⟨u, _, rfl⟩ := List.mem_map.mp hlayout
      rfl
    ids := by
      rw [hlayouts, List.map_map]
      have hids : (UniverseLayout.universeId ∘ universeLayout (installTables p scene)) = id := rfl
      rw [hids, List.map_id]
      exact (installTables p scene).nodup_universeOrder p
  }

theorem perm_heldSections {e e' : Emission} (h : e.rows.Perm e'.rows) (ids : ComponentIds)
    : List.Forall₂ List.Perm (e.heldSections ids) (e'.heldSections ids) := by
  have hsection (keep : PendingRow → Bool) (row : PendingRow → SectionRow)
      : ((e.rows.filter keep).map row).Perm ((e'.rows.filter keep).map row) :=
    (h.filter keep).map row
  exact .cons (hsection _ _) (.cons (hsection _ _) (.cons (hsection _ _) (.cons (hsection _ _)
    (.cons (hsection _ _) .nil))))

/-! ### The order of the universes -/

/--
After the same operations, whatever the orders in which the universes were visited, a consume in one
order leaves what a consume in another one leaves, and puts out the same rows for it.
-/
theorem run_visitingOrder {core core' : Core} {scene : CompiledRuntimeScene}
    (hinstall : installCompiledScene p core scene = some core')
    (hone : (installTables p scene).OneWriter) {past past' : List OrderedOperation}
    (hsame : past.map OrderedOperation.operation = past'.map OrderedOperation.operation) (now : ℚ)
    (visiting visiting' : VisitingOrder)
    : let c := (((orderedRuntime p core').run core' past).consumeIn p now visiting).1
      let c' := (((orderedRuntime p core').run core' past').consumeIn p now visiting').1
      c.held.properties = c'.held.properties
        ∧ c.held.baseColors = c'.held.baseColors
        ∧ c.held.colors = c'.held.colors
        ∧ (∀ target renderer, c.held.wheels (wheelPhysicalKey target renderer)
          = c'.held.wheels (wheelPhysicalKey target renderer))
        ∧ ∀ ids, List.Forall₂ List.Perm (c.emission.heldSections ids)
          (c'.emission.heldSections ids) := by
  rw [installCompiledScene_eq_some hinstall]
  intro c c'
  obtain ⟨hview, _, hrows, _⟩ := ((Reordered.installed core.nextSchemaGeneration scene).run hone _
    hsame).consumeIn hone (p := p) now visiting visiting'
  have hbeam (target : Int32) := HeldValue.beam.inj (hview (.beam target))
  refine ⟨?_, ?_, ?_, ?_, ?_⟩
  . have hproperties : c.held.properties.propertyStateByProperty
        = c'.held.properties.propertyStateByProperty := by
      funext id
      exact HeldValue.state.inj (hview (.property id))
    have htransforms : c.held.properties.transformStateByFixture
        = c'.held.properties.transformStateByFixture := by
      funext fixture
      exact HeldValue.state.inj (hview (.transform fixture))
    exact congrArg₂ PropertyHeld.mk htransforms hproperties
  . funext target
    exact (hbeam target).1
  . funext target
    exact (hbeam target).2.1
  . intro target renderer
    exact congrFun (hbeam target).2.2 renderer
  . exact perm_heldSections hrows

/-- A wheel and a color target of two beam targets, each in a universe of its own. -/
def twoUniverses : CompiledRuntimeScene where
  sourcePrograms := [
    { programId := 1, sources := [⟨0, 0, 0⟩] },
    { programId := 2, sources := [⟨1, 0, 0⟩] }
  ]
  colorTargets := [{
    fixtureId := 1
    beamRenderTargetId := 1
    inputs := [{ sourceProgramId := 1 }]
  }]
  wheelPalettes := [{ wheelRendererId := 1, slots := [{ slotIndex := 1 }] }]
  wheelBindings := [{
    bindingId := 1
    fixtureId := 2
    beamRenderTargetId := 2
    wheelRendererId := 1
    sourceProgramId := 2
    channelSets := [{ dmxFrom := 32, dmxTo := 160, wheelSlotIndex := 1 }]
  }]

def VisitingOrder.reversed : VisitingOrder := ⟨List.reverse, List.reverse_perm⟩

def twoUniversesCore : Core := installedCore exactPlatform 1 twoUniverses

def bothPending : List OrderedOperation := [.submit 0 [100], .submit 1 [100]]

/-- The rows come in another order, but they are the same. -/
theorem run_visitingOrder_twoUniverses
    : let c := (((orderedRuntime exactPlatform twoUniversesCore).run twoUniversesCore
        bothPending).consumeIn exactPlatform 0 VisitingOrder.stored).1
      let c' := (((orderedRuntime exactPlatform twoUniversesCore).run twoUniversesCore
        bothPending).consumeIn exactPlatform 0 VisitingOrder.reversed).1
      c.emission ≠ c'.emission
        ∧ c.held.colors = c'.held.colors
        ∧ ∀ ids, List.Forall₂ List.Perm (c.emission.heldSections ids)
          (c'.emission.heldSections ids) := by
  have hinstall : installCompiledScene exactPlatform {} twoUniverses = some twoUniversesCore := by
    unfold installCompiledScene
    dsimp only
    rw [if_neg (by decide)]
    rfl
  have hsame := @run_visitingOrder exactPlatform {} twoUniversesCore twoUniverses hinstall
    (by decide +kernel) bothPending bothPending rfl 0 VisitingOrder.stored VisitingOrder.reversed
  exact ⟨by decide +kernel, hsame.2.2.1, hsame.2.2.2.2⟩

end Peraviz.Runtime
