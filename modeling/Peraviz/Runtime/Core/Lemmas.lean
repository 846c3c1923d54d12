import Mathlib.Data.List.GetD
import Peraviz.Runtime.Core.Impl
import Peraviz.Runtime.Evaluation.Workspace
import Peraviz.Runtime.Install.Lemmas

/-!
This module contains what no operation of the runtime changes after an installation, its tables and
the layouts of its universes, and the phases that one universe goes through in a consume. By the
induction over all of them, what every update of a universe preserves of the state that is held, of
the frame and of the pending rows, a consume preserves.
-/

namespace Peraviz.Runtime

variable {p : Platform}

theorem installCompiledScene_eq_some {core core' : Core} {scene : CompiledRuntimeScene}
    (h : installCompiledScene p core scene = some core')
    : core' = installedCore p core.nextSchemaGeneration scene := by
  unfold installCompiledScene at h
  dsimp only at h
  split at h
  . cases h
  . exact (Option.some.inj h).symm

theorem mem_foldl_firstOccurrences {α : Type} [DecidableEq α] {l seen : List α} {x : α}
    : x ∈ l.foldl (fun seen x => if x ∈ seen then seen else seen ++ [x]) seen
        ↔ x ∈ seen ∨ x ∈ l := by
  induction l generalizing seen with
  | nil => simp
  | cons y l ih =>
    rw [List.foldl_cons, ih, List.mem_cons]
    split
    next hy =>
      constructor
      . rintro (h | h)
        . exact Or.inl h
        . exact Or.inr (Or.inr h)
      . rintro (h | rfl | h)
        . exact Or.inl h
        . exact Or.inl hy
        . exact Or.inr h
    next => rw [List.mem_append, List.mem_singleton, or_assoc]

theorem mem_firstOccurrences {α : Type} [DecidableEq α] {l : List α} {x : α}
    : x ∈ firstOccurrences l ↔ x ∈ l := by
  unfold firstOccurrences
  rw [mem_foldl_firstOccurrences]
  simp

theorem InstalledTables.mem_universeOrder {t : InstalledTables} {u : Int32}
    : u ∈ t.universeOrder p ↔ u ∈ t.universeIds := by
  unfold InstalledTables.universeOrder
  rw [List.mem_map]
  constructor
  . intro ⟨id, hid, heq⟩
    obtain ⟨v, hv, rfl⟩ := List.mem_map.mp ((p.hashOrder_perm _).mem_iff.mp hid)
    rw [Int32.ofInt_toInt] at heq
    rw [← heq]
    exact hv
  . intro hu
    refine ⟨u.toInt, (p.hashOrder_perm _).mem_iff.mpr (List.mem_map_of_mem hu), ?_⟩
    exact Int32.ofInt_toInt u

theorem nodup_foldl_firstOccurrences {α : Type} [DecidableEq α] {l seen : List α}
    (h : seen.Nodup)
    : (l.foldl (fun seen x => if x ∈ seen then seen else seen ++ [x]) seen).Nodup := by
  induction l generalizing seen with
  | nil => exact h
  | cons x l ih =>
    rw [List.foldl_cons]
    apply ih
    split
    . exact h
    next hnew =>
      apply List.Nodup.append h (List.nodup_singleton x)
      exact List.disjoint_singleton.mpr hnew

theorem nodup_firstOccurrences {α : Type} [DecidableEq α] (l : List α)
    : (firstOccurrences l).Nodup := nodup_foldl_firstOccurrences List.nodup_nil

theorem InstalledTables.nodup_universeOrder (t : InstalledTables) (p : Platform)
    : (t.universeOrder p).Nodup := by
  unfold InstalledTables.universeOrder
  have hids : (t.universeIds.map Int32.toInt).Nodup := by
    apply List.Nodup.map
    . intro a b hab
      exact Int32.toInt_inj.mp hab
    . exact nodup_firstOccurrences _
  apply List.Nodup.map_on
  . intro a ha b hb hab
    obtain ⟨x, _, rfl⟩ := List.mem_map.mp ((p.hashOrder_perm _).mem_iff.mp ha)
    obtain ⟨y, _, rfl⟩ := List.mem_map.mp ((p.hashOrder_perm _).mem_iff.mp hb)
    rw [Int32.ofInt_toInt, Int32.ofInt_toInt] at hab
    rw [hab]
  . exact (p.hashOrder_perm _).nodup_iff.mpr hids

theorem mem_targetsIn {domain : EvaluationDomain} {consumers : List EvaluationConsumer} {key : Int}
    : key ∈ targetsIn domain consumers
        ↔ ∃ consumer ∈ consumers, consumer.domain = domain ∧ consumer.target = key := by
  simp [targetsIn, and_assoc]

theorem injectSources_none (s : EvaluationState) : injectSources none s = ((), s) := by
  unfold injectSources
  simp

/-! ### What stays -/

theorem layout_submitToUniverse (universeId : Int32) (data : List UInt8) (u : Universe)
    : (submitToUniverse universeId data u).layout = u.layout := by
  unfold submitToUniverse
  split <;> rfl

theorem layout_runDomains (d : Definitions) (prepared : Option PreparedSlots) (now : ℚ)
    (c : ConsumeState) (u : Universe) : (runDomains p d prepared now c u).2.layout = u.layout := by
  unfold runDomains
  generalize updateDomains p d u.layout prepared now u.state.latestFrame c.held
    u.state.colorInputs c.frame (evaluationState c u.state) = result
  rfl

theorem layout_consumeUniverse (d : Definitions) (now : ℚ) (c : ConsumeState) (u : Universe)
    : (consumeUniverse p d now c u).2.layout = u.layout := by
  unfold consumeUniverse
  split
  . rfl
  . dsimp only
    split
    . rfl
    . exact layout_runDomains _ _ _ _ _

theorem layouts_updateAll (d : Definitions) (now : ℚ) (c : ConsumeState) (us : List Universe)
    : (updateAll (consumeUniverse p d now) c us).2.map Universe.layout
        = us.map Universe.layout := by
  induction us generalizing c with
  | nil => rfl
  | cons u us ih =>
    simp only [updateAll, List.map_cons]
    rw [ih, layout_consumeUniverse]

theorem step_layouts (core : Core) (operation : Operation)
    : (core.step p operation).1.definitions = core.definitions
        ∧ (core.step p operation).1.layouts = core.layouts := by
  cases operation with
  | submit universeId data =>
    refine ⟨rfl, ?_⟩
    simp only [Core.step, submitUniverseFrame, Core.layouts, List.map_map]
    apply List.map_congr_left
    intro u _
    exact layout_submitToUniverse universeId data u
  | consume now => exact ⟨rfl, layouts_updateAll _ _ _ _⟩

theorem run_layouts (first core : Core) (operations : List Operation)
    : ((runtime p first).run core operations).definitions = core.definitions
        ∧ ((runtime p first).run core operations).layouts = core.layouts := by
  apply (runtime p first).run_induction (fun s => s.definitions = core.definitions
    ∧ s.layouts = core.layouts)
  . intro s operation h
    obtain ⟨hdefinitions, hlayouts⟩ := step_layouts (p := p) s operation
    exact ⟨hdefinitions.trans h.1, hlayouts.trans h.2⟩
  . exact ⟨rfl, rfl⟩

theorem layouts_installedCore (generation : Int32) (scene : CompiledRuntimeScene)
    : (installedCore p generation scene).layouts
        = ((installTables p scene).universeOrder p).map (universeLayout (installTables p scene)) := by
  unfold Core.layouts installedCore
  rw [List.map_map]
  rfl

end Peraviz.Runtime

/-! ### The phases of a consume -/

namespace Peraviz.Runtime

/-- What the domains of one universe have answered, one after the other. -/
structure DomainPhases where
  shutters : ShutterHeld × SectionedVisualFrame
  gobos : GoboHeld × List GoboRow
  motions : GoboHeld × List GoboRotationRow
  properties : PropertyUpdate
  colors : ColorUpdate
  wheels : WheelUpdate

/-- What is fixed while one universe is updated, with the consumers that are dirty. -/
structure UpdateContext where
  platform : Platform
  definitions : Definitions
  layout : UniverseLayout
  now : ℚ
  frame : List UInt8
  dirty : List EvaluationConsumer

namespace UpdateContext

def sources (x : UpdateContext) : SourceContext := ⟨x.platform, x.frame, x.layout.plan⟩

/-- Each phase answers what it answers in some state of the cache. -/
structure Phases (x : UpdateContext) (held : HeldState) (out : SectionedVisualFrame)
    (phases : DomainPhases) : Prop where
  shutters : ∃ s, phases.shutters = (x.sources.evaluateShutters x.layout.shutters x.now
    held.shutters out (targetsIn .shutter x.dirty) s).1
  gobos : ∃ s, phases.gobos = (x.sources.updateGoboSelections x.layout.gobos
    x.definitions.goboAsset held.gobos (targetsIn .goboSelection x.dirty) s).1
  motions : ∃ s, phases.motions = (x.sources.updateGoboMotions x.layout.gobos x.now
    phases.gobos.1 (targetsIn .goboMotion x.dirty) s).1
  properties : ∃ s, phases.properties = (x.sources.updateProperties x.definitions.tables
    x.layout.properties held.properties (indicesIn .property x.dirty) s).1
  colors : ∃ inputs s, phases.colors = (x.sources.updateColors x.definitions.resources
    x.layout.colors x.layout.wheels none
    {
      inputs := inputs
      base := held.baseColors
      dirtyWheels := OrderedDirtyIndices.insertAll {} (indicesIn .wheel x.dirty)
    } (indicesIn .color x.dirty) s).1
  wheels : ∃ s, phases.wheels = (x.sources.updateWheels x.layout.wheels x.definitions.palettes
    held.wheels phases.colors.dirtyWheels s).1

def transforms (x : UpdateContext) (phases : DomainPhases) : PropertyHeld × List PendingRow :=
  mergeTransforms x.platform x.definitions.tables phases.properties.pending phases.properties.held

def composed (x : UpdateContext) (held : HeldState) (phases : DomainPhases)
    : (Int32 → CookedEmitterColor) × List PendingRow :=
  composeColors x.platform x.layout.colors x.definitions.wheelLayers none phases.colors.base
    phases.wheels.states held.colors (phases.colors.dirtyTargets ++ phases.wheels.dirtyTargets)

def next (x : UpdateContext) (held : HeldState) (phases : DomainPhases) : HeldState where
  shutters := phases.shutters.1
  gobos := phases.motions.1
  properties := (x.transforms phases).1
  baseColors := phases.colors.base
  colors := (x.composed held phases).1
  wheels := phases.wheels.states

def emission (x : UpdateContext) (held : HeldState) (phases : DomainPhases) : Emission where
  rows := phases.properties.rows ++ phases.wheels.rows ++ (x.composed held phases).2
    ++ (x.transforms phases).2
  goboRows := phases.gobos.2
  goboRotationRows := phases.motions.2

end UpdateContext

theorem updateDomains_phases (p : Platform) (d : Definitions) (layout : UniverseLayout) (now : ℚ)
    (frame : List UInt8) (held : HeldState) (colorInputs : ColorInputs)
    (out : SectionedVisualFrame) (s : EvaluationState)
    : ∃ phases,
        let x : UpdateContext :=
          ⟨p, d, layout, now, frame, s.workspace.consumers.visit.map layout.plan.consumer⟩
        x.Phases held out phases
          ∧ (updateDomains p d layout none now frame held colorInputs out s).1
            = ⟨x.next held phases, phases.colors.inputs, phases.shutters.2,
              x.emission held phases⟩ := by
  let dirty := s.workspace.consumers.visit.map layout.plan.consumer
  let ctx : SourceContext := ⟨p, frame, layout.plan⟩
  let shutters := ctx.evaluateShutters layout.shutters now held.shutters out
    (targetsIn .shutter dirty) s
  let gobos := ctx.updateGoboSelections layout.gobos d.goboAsset held.gobos
    (targetsIn .goboSelection dirty) shutters.2
  let motions := ctx.updateGoboMotions layout.gobos now gobos.1.1 (targetsIn .goboMotion dirty)
    gobos.2
  let properties := ctx.updateProperties d.tables layout.properties held.properties
    (indicesIn .property dirty) motions.2
  let colors := ctx.updateColors d.resources layout.colors layout.wheels none
    {
      inputs := colorInputs
      base := held.baseColors
      dirtyWheels := OrderedDirtyIndices.insertAll {} (indicesIn .wheel dirty)
    } (indicesIn .color dirty) properties.2
  let wheels := ctx.updateWheels layout.wheels d.palettes held.wheels colors.1.dirtyWheels colors.2
  refine ⟨⟨shutters.1, gobos.1, motions.1, properties.1, colors.1, wheels.1⟩, ?_, ?_⟩
  . exact ⟨⟨_, rfl⟩, ⟨_, rfl⟩, ⟨_, rfl⟩, ⟨_, rfl⟩, ⟨_, _, rfl⟩, ⟨_, rfl⟩⟩
  . have hinject (f : Unit → EvalM UniverseUpdate) : (injectSources none >>= f) s = f () s := by
      change f (injectSources none s).1 (injectSources none s).2 = _
      rw [injectSources_none]
    unfold updateDomains
    rw [hinject]
    rfl

variable {p : Platform} {d : Definitions} {now : ℚ}

/-- The context of an update in one consume of a runtime. -/
structure UpdateContext.In (x : UpdateContext) (p : Platform) (d : Definitions) (now : ℚ)
    (layout : UniverseLayout) : Prop where
  platform : x.platform = p
  definitions : x.definitions = d
  now : x.now = now
  dirty : x.dirty.Sublist layout.plan.consumers
  layout : x.layout = layout

-- An update visits its consumers in the order of the plan, and each of them once.
theorem sublist_visit (plan : EvaluationPlan) (w : EvaluationWorkspace) (offsets : List Int32)
    : ((w.beginUpdate plan offsets).consumers.visit.map plan.consumer).Sublist plan.consumers := by
  have hmarked : EvaluationWorkspace.Marked plan (offsets.flatMap plan.sourcesAt) w.nextGeneration
    (w.beginUpdate plan offsets) := .foldl _
  have hascending : (w.beginUpdate plan offsets).consumers.visit.Pairwise (fun a b => a < b) := by
    apply OrderedDirtyIndices.visit_ascending
    apply hmarked.nodup
    rw [EvaluationWorkspace.nextGeneration_consumers]
    exact List.nodup_nil
  have hbound : ∀ c ∈ (w.beginUpdate plan offsets).consumers.visit, c < plan.consumers.length := by
    intro c hc
    rw [OrderedDirtyIndices.mem_visit, hmarked.consumers,
      EvaluationWorkspace.nextGeneration_consumers] at hc
    cases hc with
    | inl hc => cases hc
    | inr hc =>
      obtain ⟨source, _, _, hc⟩ := hc
      exact List.mem_range.mp (List.mem_filter.mp hc).1
  generalize (w.beginUpdate plan offsets).consumers.visit = visit at hascending hbound ⊢
  have hsublist := @List.map_getElem_sublist _ plan.consumers (visit.pmap Fin.mk hbound)
    (hascending.pmap hbound (fun _ _ _ _ hlt => hlt))
  rw [List.map_pmap] at hsublist
  have hmap : visit.map plan.consumer
      = visit.pmap (fun c hc => plan.consumers[Fin.mk c hc]) hbound := by
    rw [← List.pmap_eq_map (p := fun c => c < plan.consumers.length) (H := hbound)]
    apply List.pmap_congr_left
    intro c _ hc _
    exact List.getD_eq_getElem plan.consumers {} hc
  rw [hmap]
  exact hsublist

theorem runDomains_phases (p : Platform) (d : Definitions) (now : ℚ) (c : ConsumeState) (u : Universe)
    (hvisit : (u.state.workspace.consumers.visit.map u.layout.plan.consumer).Sublist
      u.layout.plan.consumers)
    : ∃ (x : UpdateContext) (phases : DomainPhases),
        x.In p d now u.layout ∧ x.Phases c.held c.frame phases
          ∧ (runDomains p d none now c u).1.held = x.next c.held phases
          ∧ (runDomains p d none now c u).1.frame = phases.shutters.2
          ∧ (runDomains p d none now c u).1.emission
            = c.emission.append (x.emission c.held phases) := by
  obtain ⟨phases, hphases, hupdate⟩ := updateDomains_phases p d u.layout now
    u.state.latestFrame c.held u.state.colorInputs c.frame
    (evaluationState c u.state)
  refine ⟨_, phases, ⟨rfl, rfl, rfl, hvisit, rfl⟩, hphases, ?_⟩
  unfold runDomains
  generalize updateDomains p d u.layout none now u.state.latestFrame c.held u.state.colorInputs
    c.frame (evaluationState c u.state) = result at hupdate ⊢
  obtain ⟨update, s⟩ := result
  dsimp only at hupdate
  subst hupdate
  exact ⟨rfl, rfl, rfl⟩

-- The invariant may name the universes that the consume has been through.
theorem consume_prefix_induction
    {I : List Universe → HeldState → SectionedVisualFrame → Emission → Prop}
    {us : List Universe}
    (hskip : ∀ u ∈ us, ∀ through held out e, I through held out e → I (through ++ [u]) held out e)
    (hstep : ∀ u ∈ us, u.state.hasPendingFrame = true → ∀ through held out e,
      I through held out e → ∀ (x : UpdateContext) (phases : DomainPhases), x.In p d now u.layout
      → x.Phases held out phases
      → I (through ++ [u]) (x.next held phases) phases.shutters.2
          (e.append (x.emission held phases)))
    {c : ConsumeState} {through : List Universe} (hc : I through c.held c.frame c.emission)
    : I (through ++ us) (updateAll (consumeUniverse p d now) c us).1.held
        (updateAll (consumeUniverse p d now) c us).1.frame
        (updateAll (consumeUniverse p d now) c us).1.emission := by
  induction us generalizing c through with
  | nil =>
    rw [List.append_nil]
    exact hc
  | cons u us ih =>
    have hone : I (through ++ [u]) (consumeUniverse p d now c u).1.held
        (consumeUniverse p d now c u).1.frame (consumeUniverse p d now c u).1.emission := by
      unfold consumeUniverse
      split
      . exact hskip u List.mem_cons_self _ _ _ _ hc
      . next hpending =>
        dsimp only
        split
        . exact hskip u List.mem_cons_self _ _ _ _ hc
        . obtain ⟨x, phases, hx, hphases, hheld, hframe, hemission⟩ := runDomains_phases p d now c
            { u with
              state := beginUniverseUpdate u.layout.plan (discoverOffsets u.layout.interestOffsets
                { u.state with hasPendingFrame := false }) } (sublist_visit _ _ _)
          rw [hheld, hframe, hemission]
          exact hstep u List.mem_cons_self (by simpa using hpending) _ _ _ _ hc x phases hx hphases
    rw [← List.singleton_append, ← List.append_assoc]
    apply ih
    . intro v hv
      exact hskip v (List.mem_cons_of_mem u hv)
    . intro v hv
      exact hstep v (List.mem_cons_of_mem u hv)
    . exact hone

theorem consume_induction {I : HeldState → SectionedVisualFrame → Emission → Prop}
    {us : List Universe}
    (hstep : ∀ u ∈ us, ∀ (x : UpdateContext) (phases : DomainPhases) (held : HeldState)
      (out : SectionedVisualFrame) (e : Emission), x.In p d now u.layout → I held out e
      → x.Phases held out phases
      → I (x.next held phases) phases.shutters.2 (e.append (x.emission held phases)))
    {c : ConsumeState} (hc : I c.held c.frame c.emission)
    : I (updateAll (consumeUniverse p d now) c us).1.held
        (updateAll (consumeUniverse p d now) c us).1.frame
        (updateAll (consumeUniverse p d now) c us).1.emission := by
  apply @consume_prefix_induction p d now (fun _ => I) us _ _ c [] hc
  . intro u _ _ held out e h
    exact h
  . intro u hu _ _ held out e h x phases hx hphases
    exact hstep u hu x phases held out e hx h hphases

end Peraviz.Runtime
