import Peraviz.Footprint.Basic
import Peraviz.Runtime.Coherence.Cache
import Peraviz.Runtime.Domains.Rules

/-!
This module contains why a universe is updated the same whatever was reported before and whatever is
held of the shutters and the gobos, and which part of the state that is held its domains read and
write: the states of their own properties, fixtures and beam targets. The update of a universe in a
consume stays in the part that its universe owns, and puts out the same rows whatever the other
universes have done.
-/

namespace Peraviz.Runtime

variable {ctx : SourceContext}

namespace EvaluationState

variable {s t : EvaluationState}

theorem Quiet.symm (h : Quiet s t) : Quiet t s := ⟨h.workspace.symm, h.prefetchedWarnings.symm⟩

theorem quiet_emitSourceWarnings (program : CompiledDmxSourceProgram) (warnings : SourceWarnings)
    (s : EvaluationState) : Quiet s (s.emitSourceWarnings program warnings) := by
  unfold emitSourceWarnings
  have hcount : Quiet s (if warnings.byteCount then s.reportByteCount program else s) := by
    split
    . apply quiet_reportByteCount
    . exact Quiet.refl s
  dsimp only
  split
  . exact hcount.trans (quiet_reportMissingByte program _)
  . exact hcount

theorem Quiet.storeSource (h : Quiet s t) (source : Nat) (value : EvaluatedSourceValue)
    (warnings : SourceWarnings)
    : Quiet (s.storeSource source value warnings) (t.storeSource source value warnings) := by
  unfold EvaluationState.storeSource
  constructor
  . rw [h.workspace]
  . rw [h.prefetchedWarnings]

theorem Quiet.decodeSource (h : Quiet s t) (source : Nat)
    : Quiet (ctx.decodeSource source s) (ctx.decodeSource source t) := by
  unfold SourceContext.decodeSource
  dsimp only
  rw [fst_readReporting, fst_readReporting]
  apply Quiet.storeSource
  apply (quiet_readReporting _ _ s).symm.trans
  exact h.trans (quiet_readReporting _ _ t)

theorem Quiet.flushWarnings (h : Quiet s t) (source : Nat)
    : Quiet (ctx.flushWarnings source s) (ctx.flushWarnings source t) := by
  unfold SourceContext.flushWarnings
  rw [h.prefetchedWarnings]
  split
  . exact h
  . have hemitted := (quiet_emitSourceWarnings (ctx.plan.program source)
      (s.prefetchedWarnings source) s).symm.trans (h.trans
        (quiet_emitSourceWarnings (ctx.plan.program source) (s.prefetchedWarnings source) t))
    unfold clearWarnings
    constructor
    . exact hemitted.workspace
    . rw [hemitted.prefetchedWarnings]

theorem Quiet.evaluateCachedSource (source : Nat)
    : Coupled Quiet Eq (ctx.evaluateCachedSource source) (ctx.evaluateCachedSource source) := by
  intro s t h
  unfold SourceContext.evaluateCachedSource
  rw [h.workspace]
  dsimp only
  split
  . have hflushed : Quiet (ctx.flushWarnings source (ctx.decodeSource source s))
        (ctx.flushWarnings source (ctx.decodeSource source t)) :=
      (h.decodeSource source).flushWarnings source
    exact ⟨by rw [hflushed.workspace], hflushed⟩
  . have hflushed : Quiet (ctx.flushWarnings source s) (ctx.flushWarnings source t) :=
      h.flushWarnings source
    exact ⟨by rw [hflushed.workspace], hflushed⟩

theorem Quiet.evaluateActivation (context : GoboEvaluationContext)
    : Coupled Quiet Eq (ctx.evaluateActivation context) (ctx.evaluateActivation context) := by
  refine Coupled.bind_eq ?_ ?_
  . apply Coupled.foldlM_eq
    intro entry _ values
    apply (Quiet.evaluateCachedSource entry.2).bind_eq
    intro value
    apply Coupled.pure
    rfl
  . intro values s t h
    refine ⟨rfl, ?_, h.prefetchedWarnings⟩
    change t.workspace.storeActivation _ _ = s.workspace.storeActivation _ _
    rw [h.workspace]

theorem Quiet.alike : Alike Quiet ctx (fun _ => True) where
  source source _ := Quiet.evaluateCachedSource source
  activation context _ := by
    intro s t h
    unfold SourceContext.evaluateCachedActivation
    rw [h.workspace]
    split
    . exact ⟨rfl, h⟩
    . exact Quiet.evaluateActivation context s t h
  changed source _ := by
    intro s t h
    exact ⟨by simp only [sourceChanged, h.workspace], h⟩
  report _ := fun _ _ h => ⟨rfl, h.workspace, h.prefetchedWarnings⟩
  dirty := by
    intro s t h
    exact ⟨by simp only [dirtyConsumers, h.workspace], h⟩

theorem Quiet.both {α β : Type} {x : EvalM α} {y : EvalM β} (hx : ∀ s, Quiet s (x s).2)
    (hy : ∀ t, Quiet t (y t).2) : Coupled Quiet (fun _ _ => True) x y :=
  fun s t h => ⟨trivial, (hx s).symm.trans (h.trans (hy t))⟩

end EvaluationState

open EvaluationState

theorem within_true (context : GoboEvaluationContext) : context.Within (fun _ => True) :=
  ⟨trivial, fun _ _ => trivial⟩

/-! ### The domains in front of the properties -/

theorem quiet_reportShutter (held : ShutterHeld) (authority : ShutterAuthorityState)
    (unsupported : Bool) (s : EvaluationState)
    : Quiet s (reportShutter held authority unsupported s).2 := by
  unfold reportShutter
  split
  . exact ⟨rfl, rfl⟩
  . exact Quiet.refl s

theorem quiet_reportOnce (diagnosed : Int → Bool) (key : Int) (condition : Bool)
    (diagnostic : CompiledRuntimeDiagnostic) (s : EvaluationState)
    : Quiet s (reportOnce diagnosed key condition diagnostic s).2 := by
  unfold reportOnce
  split
  . exact ⟨rfl, rfl⟩
  . exact Quiet.refl s

theorem quiet_reportMotion (held : GoboHeld) (scan : MotionScan) (key : Int) (s : EvaluationState)
    : Quiet s (reportMotion held scan key s).2 := by
  have hpos := quiet_reportOnce held.diagnosedAmbiguousPos key (scan.activePosCount > 1)
    (ambiguousPos key) s
  have hrotate := quiet_reportOnce held.diagnosedAmbiguousPosRotate key
    (scan.activeRotateCount > 1) (ambiguousPosRotate key)
  have hboth := quiet_reportOnce held.diagnosedSimultaneousPosRotate key
    (scan.pos.isSome && scan.rotate.isSome) (simultaneousPosRotate key)
  exact (hpos.trans (hrotate _)).trans (hboth _)

theorem quiet_evaluateShutters (layout : ShutterLayout) (now : ℚ) (held held' : ShutterHeld)
    (frame frame' : SectionedVisualFrame) (keys : List Int)
    : Coupled Quiet (fun _ _ => True) (ctx.evaluateShutters layout now held frame keys)
        (ctx.evaluateShutters layout now held' frame' keys) := by
  apply Coupled.foldlM trivial
  intro key _ update update' _
  apply (Coupled.foldlM_eq (fun index _ scan => Quiet.alike.scanShutter
    (fun shutter _ => within_true shutter.context) scan index) {}).bind_eq
  intro scan
  refine (Quiet.both (quiet_reportShutter _ _ _) (quiet_reportShutter _ _ _)).bind ?_
  intro _ _ _
  apply Quiet.both
  . intro s
    dsimp only
    generalize updateShutter _ _ now = updated
    cases updated with
    | none => exact Quiet.refl s
    | some parameters => exact Quiet.refl s
  . intro t
    dsimp only
    generalize updateShutter _ _ now = updated
    cases updated with
    | none => exact Quiet.refl t
    | some parameters => exact Quiet.refl t

theorem quiet_updateGoboSelections (layout : GoboLayout) (goboAsset : Int32 → Int32 → Int32)
    (held held' : GoboHeld) (keys : List Int)
    : Coupled Quiet (fun _ _ => True) (ctx.updateGoboSelections layout goboAsset held keys)
        (ctx.updateGoboSelections layout goboAsset held' keys) := by
  apply Coupled.foldlM trivial
  intro key _ update update' _
  apply (Coupled.foldlM_eq (fun index _ scan => Quiet.alike.scanGoboBinding
    (fun gobo _ => within_true gobo.context) scan index) {}).bind_eq
  intro scan
  split
  . exact Coupled.pure trivial
  . refine (Quiet.both (quiet_reportOnce _ _ _ _) (quiet_reportOnce _ _ _ _)).bind ?_
    intro _ _ _
    apply Quiet.both
    . intro s
      dsimp only
      split
      . exact Quiet.refl s
      . exact Quiet.refl s
    . intro t
      dsimp only
      split
      . exact Quiet.refl t
      . exact Quiet.refl t

theorem quiet_updateGoboMotions (layout : GoboLayout) (now : ℚ) (held held' : GoboHeld)
    (keys : List Int)
    : Coupled Quiet (fun _ _ => True) (ctx.updateGoboMotions layout now held keys)
        (ctx.updateGoboMotions layout now held' keys) := by
  apply Coupled.foldlM trivial
  intro key _ update update' _
  apply (Coupled.foldlM_eq (fun index _ scan => Quiet.alike.scanGoboMotion
    (fun motion _ => within_true motion.context) scan index) {}).bind_eq
  intro scan
  have hmerge (update : GoboHeld × List GoboRotationRow) (s : EvaluationState) : Quiet s
      ((if !(update.1.rotationStateByLayer key).initialized && scan.pos.isNone
          && scan.rotate.isNone then
        (pure update : EvalM (GoboHeld × List GoboRotationRow))
      else do
        let rotation := stepRotation ctx.platform (update.1.rotationStateByLayer key) scan now
        let held := { update.1 with
          rotationStateByLayer := Function.update update.1.rotationStateByLayer key rotation.1 }
        if !rotation.2 then
          return (held, update.2)
        else do
          let held ← reportMotion held scan key
          let identity := (motionIdentity layout.motionBindings (layout.motionLayers key) scan).getD {}
          return (held, update.2 ++ [goboRotationRow ctx.platform identity rotation.1])) s).2 := by
    split
    . exact Quiet.refl s
    . dsimp only
      split
      . exact Quiet.refl s
      . exact quiet_reportMotion _ _ _ s
  exact Quiet.both (hmerge update) (hmerge update')

end Peraviz.Runtime

open Footprint

namespace Peraviz.Runtime

/-- The parts of the state that is held, that of a beam target is its color and its wheels. -/
inductive HeldKey where
  | property (propertyId : Int32)
  | transform (fixtureId : Int32)
  | beam (beamTargetId : Int32)
  deriving DecidableEq

/-- The part that the value of a property is merged into. -/
def CompiledComponentProperty.heldKey (property : CompiledComponentProperty)
    (parameter : SemanticParameter) : HeldKey :=
  if parameter = .dimmer ∨ parameter = .zoom then
    .property property.propertyId
  else
    .transform property.fixtureId

/-- The wheels over the beam targets that are owned. -/
def OwnsWheel (owned : HeldKey → Prop) (physicalKey : Int) : Prop :=
  ∃ target renderer, wheelPhysicalKey target renderer = physicalKey ∧ owned (.beam target)

/-- Whatever the domains of a layout write is owned. -/
structure UniverseLayout.Owns (layout : UniverseLayout) (owned : HeldKey → Prop) : Prop where
  properties : ∀ program ∈ layout.properties, owned (program.property.heldKey program.parameter)
  colors : ∀ target ∈ layout.colors.targets, owned (.beam target.target.beamRenderTargetId)
  wheels : ∀ wheel ∈ layout.wheels.bindings, owned (.beam wheel.binding.beamRenderTargetId)
  controls : ∀ key binding, layout.wheels.Controls key binding → binding.physicalKey = key

variable {owned : HeldKey → Prop} {ctx : SourceContext} {p : Platform} {tables : FixtureTables}

/-! ### Properties -/

structure LocalProperties (owned : HeldKey → Prop) (before : PropertyHeld) (a b : PropertyUpdate)
    : Prop where
  properties : Local (fun id => owned (.property id)) before.propertyStateByProperty
    a.held.propertyStateByProperty b.held.propertyStateByProperty
  transforms : Local (fun fixture => owned (.transform fixture)) before.transformStateByFixture
    a.held.transformStateByFixture b.held.transformStateByFixture
  pending : a.pending = b.pending
  rows : a.rows = b.rows
  fixtures : ∀ fixture ∈ a.pending.fixtures, owned (.transform fixture)

namespace LocalProperties

variable {before : PropertyHeld} {a b : PropertyUpdate} {program : CompiledPropertyProgram}

theorem mergeBeamProperty (h : LocalProperties owned before a b)
    (howned : owned (.property program.property.propertyId)) (evaluated : EvaluatedSourceValue)
    : LocalProperties owned before (mergeBeamProperty p tables a program evaluated)
        (mergeBeamProperty p tables b program evaluated) := by
  have hstate := h.properties.agree _ howned
  constructor
  . apply h.properties.update howned
    rw [hstate]
  . exact h.transforms
  . exact h.pending
  . dsimp only [Runtime.mergeBeamProperty]
    rw [hstate, h.rows]
  . exact h.fixtures

theorem mergePendingTransform (h : LocalProperties owned before a b)
    (howned : owned (.transform program.property.fixtureId)) (evaluated : EvaluatedSourceValue)
    : LocalProperties owned before (mergePendingTransform a program evaluated)
        (mergePendingTransform b program evaluated) := by
  have hstate := h.transforms.agree _ howned
  constructor
  . exact h.properties
  . exact h.transforms
  . dsimp only [Runtime.mergePendingTransform]
    rw [hstate, h.pending]
  . exact h.rows
  . dsimp only [Runtime.mergePendingTransform]
    split
    . exact h.fixtures
    . exact forall_mem_concat h.fixtures howned

theorem mergeProperty (h : LocalProperties owned before a b)
    (howned : owned (program.property.heldKey program.parameter))
    (evaluated : EvaluatedSourceValue)
    : LocalProperties owned before (mergeProperty p tables a program evaluated)
        (mergeProperty p tables b program evaluated) := by
  unfold CompiledComponentProperty.heldKey at howned
  unfold Runtime.mergeProperty
  split
  . exact h
  . split
    next hbeam =>
      rw [if_pos hbeam] at howned
      exact h.mergeBeamProperty howned evaluated
    next hbeam =>
      rw [if_neg hbeam] at howned
      exact h.mergePendingTransform howned evaluated

end LocalProperties

/-- The two tables of the properties. -/
structure LocalTables (owned : HeldKey → Prop) (before a b : PropertyHeld) : Prop where
  properties : Local (fun id => owned (.property id)) before.propertyStateByProperty
    a.propertyStateByProperty b.propertyStateByProperty
  transforms : Local (fun fixture => owned (.transform fixture)) before.transformStateByFixture
    a.transformStateByFixture b.transformStateByFixture

theorem local_updateProperties {properties : List CompiledPropertyProgram} {held held' : PropertyHeld}
    (hproperties : ∀ program ∈ properties, owned (program.property.heldKey program.parameter))
    (h : LocalTables owned held held held') (indices : List Nat)
    : Coupled EvaluationState.Quiet (LocalProperties owned held)
        (ctx.updateProperties tables properties held indices)
        (ctx.updateProperties tables properties held' indices) := by
  apply Coupled.foldlM
  . exact ⟨h.properties, h.transforms, rfl, rfl, by simp⟩
  intro index _ a b hab
  unfold SourceContext.updateProperty
  split
  . exact Coupled.pure hab
  next program hprogram =>
    apply (EvaluationState.Quiet.alike.evaluatePropertyValue (fun _ _ => trivial)).bind_eq
    intro evaluated
    apply Coupled.pure
    exact hab.mergeProperty (hproperties program (List.mem_of_getElem? hprogram)) evaluated

theorem LocalProperties.mergeTransforms {before : PropertyHeld} {a b : PropertyUpdate}
    (h : LocalProperties owned before a b)
    : LocalTables owned before (mergeTransforms p tables a.pending a.held).1
          (mergeTransforms p tables b.pending b.held).1
        ∧ (mergeTransforms p tables a.pending a.held).2
          = (mergeTransforms p tables b.pending b.held).2 := by
  unfold Runtime.mergeTransforms
  rw [← h.pending]
  apply List.foldl_rel (r := fun x y : PropertyHeld × List PendingRow =>
    LocalTables owned before x.1 y.1 ∧ x.2 = y.2)
  . exact ⟨⟨h.properties, h.transforms⟩, rfl⟩
  intro fixture hfixture x y ⟨htables, hrows⟩
  have howned : owned (.transform fixture) := by
    obtain ⟨id, hid, rfl⟩ := List.mem_map.mp hfixture
    obtain ⟨pending, hpending, rfl⟩ := List.mem_map.mp ((p.hashOrder_perm _).mem_iff.mp hid)
    rw [Int32.ofInt_toInt]
    exact h.fixtures pending hpending
  constructor
  . exact ⟨htables.properties, htables.transforms.update howned rfl⟩
  . dsimp only [mergeTransform]
    rw [htables.transforms.agree fixture howned, hrows]

/-! ### Colors -/

structure LocalColors (owned : HeldKey → Prop) (before : Int32 → CookedEmitterColor)
    (a b : ColorUpdate) : Prop where
  base : Local (fun target => owned (.beam target)) before a.base b.base
  inputs : a.inputs = b.inputs
  dirtyTargets : a.dirtyTargets = b.dirtyTargets
  dirtyWheels : a.dirtyWheels = b.dirtyWheels
  targets : ∀ target ∈ a.dirtyTargets, owned (.beam target)

theorem LocalColors.cook {before : Int32 → CookedEmitterColor} {a b : ColorUpdate}
    (h : LocalColors owned before a b) (inputs : ColorInputs) (wheels : WheelLayout)
    {target : Int32} (howned : owned (.beam target)) (cooked : CookedEmitterColor)
    : LocalColors owned before (ColorUpdate.cook { a with inputs := inputs } wheels target cooked)
        (ColorUpdate.cook { b with inputs := inputs } wheels target cooked) := by
  constructor
  . exact h.base.update howned rfl
  . rfl
  . exact congrArg (· ++ [target]) h.dirtyTargets
  . exact congrArg (fun wheelsBefore : OrderedDirtyIndices =>
      wheelsBefore.insertAll (wheels.indicesByTarget target)) h.dirtyWheels
  . exact forall_mem_concat h.targets howned

theorem local_updateColors {layout : ColorLayout} {update update' : ColorUpdate}
    (hlayout : ∀ target ∈ layout.targets, owned (.beam target.target.beamRenderTargetId))
    (h : LocalColors owned update.base update update') (resources : ColorResources)
    (wheels : WheelLayout) (indices : List Nat)
    : Coupled EvaluationState.Quiet (LocalColors owned update.base)
        (ctx.updateColors resources layout wheels none update indices)
        (ctx.updateColors resources layout wheels none update' indices) := by
  apply Coupled.foldlM h
  intro index _ a b hab
  unfold SourceContext.updateColor
  split
  . exact Coupled.pure hab
  next target htarget =>
    dsimp only [Option.bind_none, SourceContext.readColorInputs]
    rw [← hab.inputs]
    apply (EvaluationState.Quiet.alike.updateColorInputs (fun _ _ => trivial) _ _).bind_eq
    intro result
    apply Coupled.ite
    . intro _
      apply Coupled.pure
      exact ⟨hab.base, rfl, hab.dirtyTargets, hab.dirtyWheels, hab.targets⟩
    . intro _
      apply Coupled.pure
      exact hab.cook result.1 wheels (hlayout target (List.mem_of_getElem? htarget)) _

/-! ### Wheels -/

/-- A wheel that is shown lies over the target of its key. -/
def Seated (states : Int → WheelTargetState) : Prop :=
  ∀ target renderer, (states (wheelPhysicalKey target renderer)).initialized = true →
    (states (wheelPhysicalKey target renderer)).beamTargetId = target

theorem Seated.update {states : Int → WheelTargetState} (h : Seated states) {target renderer : Int32}
    {state : WheelTargetState} (hstate : state.initialized = true → state.beamTargetId = target)
    : Seated (Function.update states (wheelPhysicalKey target renderer) state) := by
  intro target' renderer' hinitialized
  by_cases hkey : wheelPhysicalKey target' renderer' = wheelPhysicalKey target renderer
  . obtain ⟨rfl, rfl⟩ := Prod.mk.inj (wheelPhysicalKey_inj hkey)
    rw [Function.update_self] at hinitialized ⊢
    exact hstate hinitialized
  . rw [Function.update_of_ne hkey] at hinitialized ⊢
    exact h target' renderer' hinitialized

structure LocalWheels (owned : HeldKey → Prop) (before : Int → WheelTargetState)
    (a b : WheelUpdate) : Prop where
  states : Local (OwnsWheel owned) before a.states b.states
  dirtyTargets : a.dirtyTargets = b.dirtyTargets
  rows : a.rows = b.rows
  targets : ∀ target ∈ a.dirtyTargets, owned (.beam target)
  seated : Seated a.states

namespace LocalWheels

variable {before : Int → WheelTargetState} {a b : WheelUpdate}

theorem clear (h : LocalWheels owned before a b) {target : Int32} (renderer : Int32)
    (howned : owned (.beam target))
    : LocalWheels owned before (a.clear (wheelPhysicalKey target renderer))
        (b.clear (wheelPhysicalKey target renderer)) := by
  have hkey : OwnsWheel owned (wheelPhysicalKey target renderer) := ⟨target, renderer, rfl, howned⟩
  unfold WheelUpdate.clear
  dsimp only
  rw [← h.states.agree _ hkey]
  split
  next hinitialized =>
    have htarget := h.seated target renderer hinitialized
    constructor
    . exact h.states.update hkey rfl
    . exact congrArg (· ++ [_]) h.dirtyTargets
    . exact h.rows
    . apply forall_mem_concat h.targets
      rw [htarget]
      exact howned
    . apply h.seated.update
      intro hcleared
      cases hcleared
  . exact h

theorem merge (h : LocalWheels owned before a b) {binding : CompiledWheelTargetBinding}
    (howned : owned (.beam binding.beamRenderTargetId)) (next : WheelResolution)
    : LocalWheels owned before (a.merge binding.physicalKey binding next)
        (b.merge binding.physicalKey binding next) := by
  have hkey : OwnsWheel owned binding.physicalKey := ⟨_, _, rfl, howned⟩
  unfold WheelUpdate.merge
  dsimp only
  rw [← h.states.agree _ hkey]
  split
  . constructor
    . exact h.states.update hkey rfl
    . exact congrArg (· ++ [_]) h.dirtyTargets
    . exact congrArg (· ++ [_]) h.rows
    . exact forall_mem_concat h.targets howned
    . apply h.seated.update
      intro _
      rfl
  . exact h

end LocalWheels

-- A program that answers the same, with what its first run is known to answer.
theorem coupled_answers {α : Type} {R : EvaluationState → EvaluationState → Prop} {P : α → Prop}
    {x y : EvalM α} (h : Coupled R Eq x y) (hx : Answers P x)
    : Coupled R (fun a b => a = b ∧ P a) x y := by
  intro s t hst
  obtain ⟨heq, hrest⟩ := h s t hst
  exact ⟨⟨heq, hx.of s⟩, hrest⟩

theorem mem_dirtyPhysicalWheels {layout : WheelLayout} {dirtyWheels : OrderedDirtyIndices}
    {physicalKey : Int} (h : physicalKey ∈ dirtyPhysicalWheels layout dirtyWheels)
    : ∃ wheel ∈ layout.bindings, wheel.binding.physicalKey = physicalKey := by
  obtain ⟨index, _, hwheel⟩ := List.mem_filterMap.mp (mem_sortUnique.mp h)
  obtain ⟨wheel, hget, rfl⟩ := Option.map_eq_some_iff.mp hwheel
  exact ⟨wheel, List.mem_of_getElem? hget, rfl⟩

theorem local_updateWheels {layout : WheelLayout} {states states' : Int → WheelTargetState}
    (hlayout : ∀ wheel ∈ layout.bindings, owned (.beam wheel.binding.beamRenderTargetId))
    (hcontrols : ∀ key binding, layout.Controls key binding → binding.physicalKey = key)
    (h : LocalWheels owned states { states := states } { states := states' })
    (palettes : Int32 → Option CompiledWheelPalette) (dirtyWheels : OrderedDirtyIndices)
    : Coupled EvaluationState.Quiet (LocalWheels owned states)
        (ctx.updateWheels layout palettes states dirtyWheels)
        (ctx.updateWheels layout palettes states' dirtyWheels) := by
  apply Coupled.foldlM h
  intro physicalKey hkey a b hab
  obtain ⟨wheel, hwheel, rfl⟩ := mem_dirtyPhysicalWheels hkey
  have hscan : Coupled EvaluationState.Quiet Eq
      ((layout.indicesByPhysicalKey wheel.binding.physicalKey).foldlM
        (ctx.scanWheel layout.bindings) none)
      ((layout.indicesByPhysicalKey wheel.binding.physicalKey).foldlM
        (ctx.scanWheel layout.bindings) none) := by
    apply Coupled.foldlM_eq
    intro index _ active
    exact EvaluationState.Quiet.alike.scanWheel (fun _ _ => trivial) active index
  apply (coupled_answers hscan answers_scanWheels).bind
  rintro active _ ⟨rfl, hactive⟩
  split
  . apply Coupled.pure
    exact hab.clear _ (hlayout wheel hwheel)
  next binding evaluated =>
    have hbinding : layout.Controls wheel.binding.physicalKey binding := hactive _ rfl
    split
    . exact Coupled.pure hab
    . apply ((@EvaluationState.Quiet.alike ctx).resolveWheel _ _ _ _).bind_eq
      intro resolution
      split
      . exact Coupled.pure hab
      next next =>
        apply Coupled.pure
        have hwheelKey := hcontrols _ binding hbinding
        obtain ⟨_, _, controlled, hget, rfl⟩ := hbinding
        rw [← hwheelKey]
        exact hab.merge (hlayout controlled (List.mem_of_getElem? hget)) next

/-! ### Composition -/

/-- The wheels over a target carry it in their key. -/
def WheelLayers.Over (layers : WheelLayers) : Prop :=
  ∀ target, ∀ key ∈ layers target, ∃ renderer, wheelPhysicalKey target renderer = key

theorem local_composedColor {layers : WheelLayers} (hlayers : layers.Over)
    {base base' before : Int32 → CookedEmitterColor} {states states' held : Int → WheelTargetState}
    (hbase : Local (fun target => owned (.beam target)) before base base')
    (hstates : Local (OwnsWheel owned) held states states') {target : Int32}
    (howned : owned (.beam target))
    : composedColor p layers base states target = composedColor p layers base' states' target := by
  have hmap : (layers target).map states = (layers target).map states' := by
    apply List.map_congr_left
    intro key hkey
    obtain ⟨renderer, hrenderer⟩ := hlayers target key hkey
    exact hstates.agree key ⟨target, renderer, hrenderer, howned⟩
  unfold Runtime.composedColor
  rw [hmap, hbase.agree target howned]

theorem local_mergeColor {composed composed' fixtureByTarget : _} {held : Int32 → CookedEmitterColor}
    {x y : (Int32 → CookedEmitterColor) × List PendingRow} {target : Int32}
    (hcomposed : composed target = composed' target) (howned : owned (.beam target))
    (hheld : Local (fun target => owned (.beam target)) held x.1 y.1) (hrows : x.2 = y.2)
    : Local (fun target => owned (.beam target)) held (mergeColor composed fixtureByTarget x target).1
          (mergeColor composed' fixtureByTarget y target).1
        ∧ (mergeColor composed fixtureByTarget x target).2
          = (mergeColor composed' fixtureByTarget y target).2 := by
  unfold mergeColor
  dsimp only
  rw [hcomposed, hheld.agree target howned, hrows]
  exact ⟨hheld.update howned rfl, rfl⟩

theorem local_composeColors {layers : WheelLayers} (layout : ColorLayout)
    {base base' : Int32 → CookedEmitterColor} {states states' : Int → WheelTargetState}
    {held held' : Int32 → CookedEmitterColor} {dirtyTargets : List Int32}
    (hcomposed : ∀ target, owned (.beam target) →
      composedColor p layers base states target = composedColor p layers base' states' target)
    (hheld : Local (fun target => owned (.beam target)) held held held')
    (htargets : ∀ target ∈ dirtyTargets, owned (.beam target))
    : let composed := composeColors p layout layers none base states held dirtyTargets
      let composed' := composeColors p layout layers none base' states' held' dirtyTargets
      Local (fun target => owned (.beam target)) held composed.1 composed'.1
        ∧ composed.2 = composed'.2 := by
  unfold composeColors
  apply List.foldl_rel (r := fun x y : (Int32 → CookedEmitterColor) × List PendingRow =>
    Local (fun target => owned (.beam target)) held x.1 y.1 ∧ x.2 = y.2)
  . exact ⟨hheld, rfl⟩
  intro target htarget x y ⟨hlocal, hrows⟩
  have howned := htargets target (mem_sortUnique.mp htarget)
  exact local_mergeColor (hcomposed target howned) howned hlocal hrows

end Peraviz.Runtime

/-! ### The update of a universe -/

open Footprint

namespace Peraviz.Runtime

inductive HeldValue where
  | state (state : ComponentState)
  | beam (base color : CookedEmitterColor) (wheels : Int32 → WheelTargetState)

def HeldState.view (held : HeldState) : HeldKey → HeldValue
  | .property propertyId => .state (held.properties.propertyStateByProperty propertyId)
  | .transform fixtureId => .state (held.properties.transformStateByFixture fixtureId)
  | .beam target =>
    .beam (held.baseColors target) (held.colors target) (fun renderer =>
      held.wheels (wheelPhysicalKey target renderer))

/-- The state that is held and the rows of a consume, `owns` are the parts of each universe. -/
def heldParts (owns : Int32 → HeldKey → Prop)
    : Parts ConsumeState Universe HeldKey HeldValue PendingRow where
  view := fun c => c.held.view
  out := fun c => c.emission.rows
  owns := fun u => owns u.layout.universeId

variable {owned : HeldKey → Prop} {p : Platform} {d : Definitions} {now : ℚ}

theorem OwnsWheel.beam {target renderer : Int32}
    (h : OwnsWheel owned (wheelPhysicalKey target renderer)) : owned (.beam target) := by
  obtain ⟨target', renderer', hkey, howned⟩ := h
  obtain ⟨rfl, rfl⟩ := Prod.mk.inj (wheelPhysicalKey_inj hkey)
  exact howned

structure LocalHeld (owned : HeldKey → Prop) (before a b : HeldState) : Prop where
  properties : LocalTables owned before.properties a.properties b.properties
  baseColors : Local (fun target => owned (.beam target)) before.baseColors a.baseColors
    b.baseColors
  colors : Local (fun target => owned (.beam target)) before.colors a.colors b.colors
  wheels : Local (OwnsWheel owned) before.wheels a.wheels b.wheels

namespace LocalHeld

variable {held held' before a b : HeldState}

theorem start (h : ∀ key, owned key → held.view key = held'.view key)
    : LocalHeld owned held held held' := by
  constructor
  . constructor
    . apply Local.start
      intro id hid
      exact HeldValue.state.inj (h (.property id) hid)
    . apply Local.start
      intro fixture hfixture
      exact HeldValue.state.inj (h (.transform fixture) hfixture)
  . apply Local.start
    intro target htarget
    exact (HeldValue.beam.inj (h (.beam target) htarget)).1
  . apply Local.start
    intro target htarget
    exact (HeldValue.beam.inj (h (.beam target) htarget)).2.1
  . apply Local.start
    rintro _ ⟨target, renderer, rfl, htarget⟩
    exact congrFun (HeldValue.beam.inj (h (.beam target) htarget)).2.2 renderer

theorem view (h : LocalHeld owned before a b) : Local owned before.view a.view b.view := by
  constructor
  . intro key hkey
    cases key with
    | property id => exact congrArg HeldValue.state (h.properties.properties.agree id hkey)
    | transform fixture =>
      exact congrArg HeldValue.state (h.properties.transforms.agree fixture hkey)
    | beam target =>
      have hwheels : (fun renderer => a.wheels (wheelPhysicalKey target renderer))
          = fun renderer => b.wheels (wheelPhysicalKey target renderer) := by
        funext renderer
        exact h.wheels.agree _ ⟨target, renderer, rfl, hkey⟩
      dsimp only [HeldState.view]
      rw [h.baseColors.agree target hkey, h.colors.agree target hkey, hwheels]
  . intro key hkey
    cases key with
    | property id => exact congrArg HeldValue.state (h.properties.properties.frame id hkey)
    | transform fixture =>
      exact congrArg HeldValue.state (h.properties.transforms.frame fixture hkey)
    | beam target =>
      have hwheels : (fun renderer => a.wheels (wheelPhysicalKey target renderer))
          = fun renderer => before.wheels (wheelPhysicalKey target renderer) := by
        funext renderer
        exact h.wheels.frame _ (fun howned => hkey howned.beam)
      dsimp only [HeldState.view]
      rw [h.baseColors.frame target hkey, h.colors.frame target hkey, hwheels]

end LocalHeld

/-- What the domains of a universe answer from two states that agree on what it owns. -/
structure LocalUpdate (owned : HeldKey → Prop) (before : HeldState) (a b : UniverseUpdate)
    : Prop where
  held : LocalHeld owned before a.held b.held
  seated : Seated a.held.wheels
  colorInputs : a.colorInputs = b.colorInputs
  rows : a.emission.rows = b.emission.rows

theorem local_updateDomains {layout : UniverseLayout} (howns : layout.Owns owned)
    (hlayers : d.wheelLayers.Over) {held held' : HeldState}
    (h : LocalHeld owned held held held') (hseated : Seated held.wheels) (frame : List UInt8)
    (colorInputs : ColorInputs) (out out' : SectionedVisualFrame)
    : Coupled EvaluationState.Quiet (LocalUpdate owned held)
        (updateDomains p d layout none now frame held colorInputs out)
        (updateDomains p d layout none now frame held' colorInputs out') := by
  refine Coupled.bind (Q := fun _ _ => True) ?_ ?_
  . intro s t hst
    rw [injectSources_none, injectSources_none]
    exact ⟨trivial, hst⟩
  intro _ _ _
  apply (@EvaluationState.Quiet.alike ⟨p, frame, layout.plan⟩).dirty.bind_eq
  intro dirty
  apply (quiet_evaluateShutters layout.shutters now _ _ out out' _).bind
  intro shutters shutters' _
  apply (quiet_updateGoboSelections layout.gobos d.goboAsset _ _ _).bind
  intro gobos gobos' _
  apply (quiet_updateGoboMotions layout.gobos now _ _ _).bind
  intro motions motions' _
  apply (local_updateProperties howns.properties h.properties _).bind
  intro properties properties' hproperties
  have hcolors : LocalColors owned held.baseColors
      { inputs := colorInputs
        base := held.baseColors
        dirtyWheels := OrderedDirtyIndices.insertAll {} (indicesIn .wheel dirty) }
      { inputs := colorInputs
        base := held'.baseColors
        dirtyWheels := OrderedDirtyIndices.insertAll {} (indicesIn .wheel dirty) } :=
    ⟨h.baseColors, rfl, rfl, rfl, by simp⟩
  apply (local_updateColors howns.colors hcolors d.resources layout.wheels _).bind
  intro colors colors' hcolors
  have hwheels : LocalWheels owned held.wheels { states := held.wheels }
      { states := held'.wheels } := ⟨h.wheels, rfl, rfl, by simp, hseated⟩
  rw [← hcolors.dirtyWheels]
  apply (local_updateWheels howns.wheels howns.controls hwheels d.palettes _).bind
  intro wheels wheels' hwheels
  rw [← hcolors.dirtyTargets, ← hwheels.dirtyTargets]
  have htargets := List.forall_mem_append.mpr ⟨hcolors.targets, hwheels.targets⟩
  have hcomposed (target : Int32) (htarget : owned (.beam target)) :=
    local_composedColor (p := p) hlayers hcolors.base hwheels.states htarget
  have hcomposition := local_composeColors layout.colors hcomposed h.colors htargets
  have hmerged := @LocalProperties.mergeTransforms owned p d.tables _ _ _ hproperties
  dsimp only at hcomposition
  -- the results are pairs that the update takes apart
  generalize composeColors p layout.colors d.wheelLayers none colors.base wheels.states
    held.colors _ = composed at hcomposition ⊢
  generalize composeColors p layout.colors d.wheelLayers none colors'.base wheels'.states
    held'.colors _ = composed' at hcomposition ⊢
  generalize mergeTransforms p d.tables properties.pending properties.held = merged at hmerged ⊢
  generalize mergeTransforms p d.tables properties'.pending properties'.held = merged'
    at hmerged ⊢
  apply Coupled.pure
  constructor
  . exact ⟨hmerged.1, hcolors.base, hcomposition.1, hwheels.states⟩
  . exact hwheels.seated
  . exact hcolors.inputs
  . dsimp only
    rw [hproperties.rows, hwheels.rows, hcomposition.2, hmerged.2]

/-- What one universe makes of two states that agree on what it owns. -/
structure LocalConsume (owned : HeldKey → Prop) (c c' : ConsumeState) (r r' : ConsumeState × Universe)
    : Prop where
  updated : r.2 = r'.2
  held : Local owned c.held.view r.1.held.view r'.1.held.view
  seated : Seated r.1.held.wheels
  rows : ∃ delta, r.1.emission.rows = c.emission.rows ++ delta
    ∧ r'.1.emission.rows = c'.emission.rows ++ delta

section Consume

variable {c c' : ConsumeState} {u : Universe}

theorem local_runDomains (howns : u.layout.Owns owned) (hlayers : d.wheelLayers.Over)
    (hview : ∀ key, owned key → c.held.view key = c'.held.view key)
    (hseated : Seated c.held.wheels)
    : LocalConsume owned c c' (runDomains p d none now c u) (runDomains p d none now c' u) := by
  obtain ⟨hupdate, hquiet⟩ := @local_updateDomains owned p d now u.layout howns hlayers _ _
    (LocalHeld.start hview) hseated u.state.latestFrame u.state.colorInputs c.frame c'.frame
    (evaluationState c u.state) (evaluationState c' u.state) ⟨rfl, rfl⟩
  unfold runDomains
  generalize updateDomains p d u.layout none now u.state.latestFrame c.held u.state.colorInputs
    c.frame (evaluationState c u.state) = result at hupdate hquiet ⊢
  generalize updateDomains p d u.layout none now u.state.latestFrame c'.held u.state.colorInputs
    c'.frame (evaluationState c' u.state) = result' at hupdate hquiet ⊢
  obtain ⟨update, s⟩ := result
  obtain ⟨update', s'⟩ := result'
  constructor
  . dsimp only
    rw [hquiet.workspace, hquiet.prefetchedWarnings, hupdate.colorInputs]
  . exact hupdate.held.view
  . exact hupdate.seated
  . refine ⟨update.emission.rows, rfl, ?_⟩
    rw [hupdate.rows]
    rfl

theorem local_consumeUniverse (howns : u.layout.Owns owned) (hlayers : d.wheelLayers.Over)
    (hview : ∀ key, owned key → c.held.view key = c'.held.view key)
    (hseated : Seated c.held.wheels)
    : LocalConsume owned c c' (consumeUniverse p d now c u) (consumeUniverse p d now c' u) := by
  have hnothing (u : Universe) : LocalConsume owned c c' (c, u) (c', u) := by
    constructor
    . rfl
    . exact Local.start hview
    . exact hseated
    . exact ⟨[], (List.append_nil _).symm, (List.append_nil _).symm⟩
  unfold consumeUniverse
  split
  . apply hnothing
  . dsimp only
    split
    . apply hnothing
    . exact local_runDomains howns hlayers hview hseated

theorem confined_consumeUniverse {owns : Int32 → HeldKey → Prop}
    (howns : u.layout.Owns (owns u.layout.universeId)) (hlayers : d.wheelLayers.Over)
    : Confined (heldParts owns) (fun c => Seated c.held.wheels) (consumeUniverse p d now) u := by
  constructor
  . intro s hs
    exact (local_consumeUniverse howns hlayers (fun _ _ => rfl) hs).seated
  . intro s t hs _ hview
    have hlocal := @local_consumeUniverse _ p d now _ _ _ howns hlayers hview hs
    exact ⟨hlocal.updated, hlocal.held, hlocal.rows⟩

end Consume

end Peraviz.Runtime
