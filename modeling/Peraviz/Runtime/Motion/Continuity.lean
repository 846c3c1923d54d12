import Peraviz.Runtime.Motion.Runs

/-!
This module contains the continuity of the published motions over every history of submissions and
consumes of an installed scene.
-/

namespace Peraviz.Runtime

variable {p : Platform} {t : InstalledTables} {u : Int32} {layer : Int}

theorem motion_mem_universeLayout {motion : GoboMotionRuntime}
    (h : motion ∈ (universeLayout t u).gobos.motionBindings)
    : ∃ x ∈ t.motions, x.universeId = u ∧ x.entry.binding = motion.binding := by
  obtain ⟨binding, hbinding, rfl⟩ := List.mem_map.mp h
  obtain ⟨x, hx, hu, rfl⟩ := mem_ofUniverse.mp hbinding
  exact ⟨x, hx, hu, rfl⟩

theorem InstalledTables.LayerIn.mem_universeOrder (h : t.LayerIn u layer)
    : u ∈ t.universeOrder p := by
  obtain ⟨x, hx, hlayer⟩ := h.1
  rw [InstalledTables.mem_universeOrder]
  apply mem_firstOccurrences.mpr
  rw [← h.2 x hx hlayer]
  simp only [List.mem_append]
  exact Or.inl (Or.inr (List.mem_map_of_mem hx))

theorem has_installUniverse {scene : CompiledRuntimeScene}
    : ((installTables p scene).installUniverse p u).Has p {} where
  layout := moves_universeLayout
  current := {
    relevant := ⟨nofun, fun _ _ => rfl⟩
    coherent := ⟨nofun, fun _ => rfl, EvaluationWorkspace.Stamped.initial⟩
    evaluated := by simp
    received := by simp [InstalledTables.installUniverse]
    has := by simp [InstalledTables.installUniverse]
    pending := nofun
  }
  received := rfl
  idle := fun _ => rfl

/-! ### The invariant -/

/-- A runtime with its published motions after a history, for a layer of the universe `u`. -/
structure Rotating (p : Platform) (t : InstalledTables) (u : Int32) (layer : Int)
    (past : List Operation) (s : Core × (Int → Option GoboRotationRow)) : Prop where
  layouts : s.1.layouts = (t.universeOrder p).map (universeLayout t)
  universes : ∀ v ∈ s.1.universes, v.Has p (universeInput v.layout.universeId past)
  valid : ∀ now, (∀ time ∈ consumeTimes past, time ≤ now) →
    ∀ layer, (s.1.held.gobos.rotationStateByLayer layer).Valid now
  published : ∀ layer, Published (s.2 layer) (s.1.held.gobos.rotationStateByLayer layer)
  holds : ∀ now, (∀ time ∈ consumeTimes past, time ≤ now) →
    (universeLayout t u).Holds p (universeInput u past).evaluated layer
      (s.1.held.gobos.rotationStateByLayer layer) now

theorem universeInput_concat (id : Int32) (past : List Operation) (operation : Operation)
    : universeInput id (past ++ [operation]) = (universeInput id past).next id operation := by
  simp [universeInput]

theorem consumeTimes_append (front back : List Operation)
    : consumeTimes (front ++ back) = consumeTimes front ++ consumeTimes back := by
  simp [consumeTimes]

namespace Rotating

variable {past : List Operation} {s : Core × (Int → Option GoboRotationRow)} {now : ℚ}

theorem installed {generation : Int32} {scene : CompiledRuntimeScene}
    : Rotating p (installTables p scene) u layer [] (installedCore p generation scene, fun _ => none)
    where
  layouts := layouts_installedCore generation scene
  universes := by
    intro v hv
    obtain ⟨id, _, rfl⟩ := List.mem_map.mp hv
    exact has_installUniverse
  valid := fun now _ _ => GoboRotationState.valid_fresh now
  published := fun _ => rfl
  holds := fun _ _ => Or.inr ⟨rfl, Or.inl rfl⟩

theorem exists_universe (h : Rotating p t u layer past s) (hlayer : t.LayerIn u layer)
    : ∃ v ∈ s.1.universes, v.layout = universeLayout t u := by
  have hmem : universeLayout t u ∈ s.1.layouts := by
    rw [h.layouts]
    exact List.mem_map_of_mem hlayer.mem_universeOrder
  exact List.mem_map.mp hmem

theorem layout_eq (h : Rotating p t u layer past s) {v : Universe} (hv : v ∈ s.1.universes)
    : v.layout = universeLayout t v.layout.universeId := by
  have hmem : v.layout ∈ s.1.layouts := List.mem_map_of_mem hv
  rw [h.layouts] at hmem
  obtain ⟨id, _, hid⟩ := List.mem_map.mp hmem
  rw [← hid]
  rfl

theorem nodup (h : Rotating p t u layer past s)
    : (s.1.universes.map (fun v => v.layout.universeId)).Nodup := by
  have hids : s.1.universes.map (fun v => v.layout.universeId) = t.universeOrder p := by
    have hlayouts := congrArg (List.map UniverseLayout.universeId) h.layouts
    rw [Core.layouts, List.map_map, List.map_map] at hlayouts
    exact hlayouts.trans (List.map_id _)
  rw [hids]
  exact t.nodup_universeOrder p

theorem submit (h : Rotating p t u layer past s) (universeId : Int32) (data : List UInt8)
    : Rotating p t u layer (past ++ [.submit universeId data])
        (submitUniverseFrame s.1 universeId data, s.2) := by
  have htimes : consumeTimes (past ++ [.submit universeId data]) = consumeTimes past := by
    rw [consumeTimes_append]
    exact List.append_nil _
  constructor
  . exact (step_layouts (p := p) s.1 (.submit universeId data)).2.trans h.layouts
  . intro v hv
    obtain ⟨w, hw, rfl⟩ := List.mem_map.mp hv
    rw [universeInput_concat, layout_submitToUniverse]
    exact (h.universes w hw).submit universeId data
  . rw [htimes]
    exact h.valid
  . exact h.published
  . rw [htimes, universeInput_concat]
    have hevaluated : ((universeInput u past).next u (.submit universeId data)).evaluated
        = (universeInput u past).evaluated := by
      unfold UniverseInput.next
      dsimp only
      split
      . rfl
      . rfl
    rw [hevaluated]
    exact h.holds

theorem consume (hexact : ∀ x, p.toFloat x = x) (hlayer : t.LayerIn u layer) (first : Core)
    (h : Rotating p t u layer past s) (htimes : ∀ time ∈ consumeTimes past, time ≤ now)
    : let s' := ((motionRuntime p first).step s (.consume now)).1
      Rotating p t u layer (past ++ [.consume now]) s'
        ∧ Continues ((universeLayout t u).scan p (universeInput u past).evaluated layer)
          ((universeLayout t u).scan p (universeInput u past).received layer)
          (s.1.held.gobos.rotationStateByLayer layer) (s'.1.held.gobos.rotationStateByLayer layer)
          now := by
  intro s'
  have hmoving : s.1.consumeState.Moving s.2 now := ⟨h.valid now htimes, h.published⟩
  obtain ⟨v, hv, hlayout⟩ := h.exists_universe hlayer
  have hid : v.layout.universeId = u := by
    rw [hlayout]
    rfl
  have hone : ∀ w ∈ s.1.universes, w.Moves layer → w.layout.universeId = v.layout.universeId := by
    rintro w hw ⟨motion, hmotion, hkey⟩
    rw [h.layout_eq hw] at hmotion
    obtain ⟨x, hx, hwu, hbinding⟩ := motion_mem_universeLayout hmotion
    rw [← hbinding] at hkey
    rw [← hwu, hid]
    exact hlayer.2 x hx hkey
  have hholds := h.holds now htimes
  rw [← hlayout, ← hid] at hholds
  obtain ⟨hnext, hcontinues⟩ := @updateAll_holds p s.1.definitions now
    (fun id => universeInput id past) s.1.universes s.1.consumeState layer s.2 hexact v hv
    h.universes h.nodup hone hmoving hholds
  rw [hlayout] at hnext hcontinues
  have hafter := @updateAll_moving p s.1.definitions now (fun id => universeInput id past)
    s.1.universes s.1.consumeState s.2 hexact h.universes hmoving
  have hlast (later : ℚ) (hlater : ∀ time ∈ consumeTimes (past ++ [.consume now]), time ≤ later)
      : now ≤ later := by
    apply hlater
    rw [consumeTimes_append]
    exact List.mem_append_right _ List.mem_cons_self
  refine ⟨?_, hcontinues⟩
  constructor
  . exact (step_layouts (p := p) s.1 (.consume now)).2.trans h.layouts
  . intro w hw
    rw [universeInput_concat]
    exact @updateAll_has p _ _ (fun id => universeInput id past) _ _ h.universes w hw
  . intro later hlater layer
    exact (hafter.valid layer).mono (hlast later hlater)
  . exact hafter.published
  . intro later hlater
    rw [universeInput_concat]
    exact hnext.mono (hlast later hlater)

theorem step (hexact : ∀ x, p.toFloat x = x) (hlayer : t.LayerIn u layer) (first : Core)
    (h : Rotating p t u layer past s) (operation : Operation)
    (htimes : (consumeTimes (past ++ [operation])).Pairwise (fun a b => a ≤ b))
    : Rotating p t u layer (past ++ [operation]) ((motionRuntime p first).step s operation).1 := by
  cases operation with
  | submit universeId data => exact h.submit universeId data
  | consume now =>
    rw [consumeTimes_append, List.pairwise_append] at htimes
    apply (Rotating.consume hexact hlayer first h ?_).1
    intro time htime
    exact htimes.2.2 time htime now List.mem_cons_self

theorem run (hexact : ∀ x, p.toFloat x = x) (hlayer : t.LayerIn u layer) {core : Core}
    (h : Rotating p t u layer [] (core, fun _ => none)) (operations : List Operation)
    (htimes : (consumeTimes operations).Pairwise (fun a b => a ≤ b))
    : Rotating p t u layer operations
        ((motionRuntime p core).run (core, fun _ => none) operations) := by
  apply (motionRuntime p core).history_induction (fun past s =>
    (consumeTimes past).Pairwise (fun a b => a ≤ b) → Rotating p t u layer past s)
  . exact fun _ => h
  . intro past s operation ih htimes
    apply step hexact hlayer core (ih ?_) operation htimes
    rw [consumeTimes_append, List.pairwise_append] at htimes
    exact htimes.1
  . exact htimes

end Rotating

/-! ### What is published -/

theorem Published.of_some {row : GoboRotationRow} {published : Option GoboRotationRow}
    {s : GoboRotationState} (h : Published published s) (hrow : published = some row)
    : row.Shows s := by
  rw [hrow] at h
  exact h

theorem Published.of_none {published : Option GoboRotationRow} {s : GoboRotationState}
    (h : Published published s) (hnone : published = none) : s.initialized = false := by
  rw [hnone] at h
  exact h

theorem Published.exists_row {published : Option GoboRotationRow} {s : GoboRotationState}
    (h : Published published s) (hinit : s.initialized = true)
    : ∃ row, published = some row ∧ row.Shows s := by
  cases published with
  | none =>
    rw [show s.initialized = false from h] at hinit
    cases hinit
  | some row => exact ⟨row, rfl, h⟩

theorem UniverseLayout.Holds.asks {layout : UniverseLayout} {frame : List UInt8}
    {s : GoboRotationState} {now : ℚ} (h : layout.Holds p frame layer s now) {row : GoboRotationRow}
    (hrow : row.Shows s)
    : (layout.scan p frame layer).Asks row.mode row.phaseDegrees row.angularVelocityDps := by
  cases h with
  | inl htracks =>
    rw [hrow.mode, hrow.phase, hrow.velocity]
    exact htracks.2.aims
  | inr hfresh =>
    have hinit := hrow.initialized
    rw [hfresh.1] at hinit
    cases hinit

theorem GoboRotationRow.Shows.still {row : GoboRotationRow} {s : GoboRotationState} {now : ℚ}
    (h : row.Shows s) (hvalid : s.Valid now) (hmode : row.mode = .hold) (time : ℚ)
    : row.motionAt time = row.phaseDegrees := by
  have hstill : row.angularVelocityDps = 0 := by
    rw [h.velocity]
    apply hvalid.still
    rw [← h.mode, hmode]
    decide
  rw [GoboRotationRow.motionAt, hstill, zero_mul, add_zero]

theorem UniverseLayout.Holds.idle {layout : UniverseLayout} {frame : List UInt8}
    {s : GoboRotationState} {now : ℚ} (h : layout.Holds p frame layer s now)
    (hinit : s.initialized = false) (hframe : frame ≠ []) (hreads : layout.ReadsSlot layer)
    : (layout.scan p frame layer).pos = none ∧ (layout.scan p frame layer).rotate = none := by
  cases h with
  | inl htracks =>
    have haims := htracks.2.aims
    have hpos := htracks.2.posActive
    have hrotate := htracks.2.posRotateActive
    rw [htracks.2.valid.fresh hinit] at hpos hrotate
    constructor
    . simpa using hpos.symm
    . simpa using hrotate.symm
  | inr hfresh =>
    cases hfresh.2 with
    | inl hnil => exact absurd hnil hframe
    | inr hnot => exact absurd hreads hnot

/--
Just after every consume the motion that is published of a layer is where it was just before, unless
the consume changes the selected Pos binding or its value or makes the motion indexed. A motion that
is held stands still, and after every consume the motion is what the newest DMX asks for. Nothing is
published of a layer only as long as it is not asked for a motion.
-/
theorem run_publishedMotion {core core' : Core} {scene : CompiledRuntimeScene}
    (hexact : ∀ x, p.toFloat x = x) (hinstall : installCompiledScene p core scene = some core')
    (hlayer : (installTables p scene).LayerIn u layer) (past : List Operation) (now : ℚ)
    (htimes : (consumeTimes (past ++ [.consume now])).Pairwise (fun a b => a ≤ b))
    : let layout := universeLayout (installTables p scene) u
      let input := universeInput u past
      let old := layout.scan p input.evaluated layer
      let new := layout.scan p input.received layer
      let before := publishedMotion p core' layer past
      let after := publishedMotion p core' layer (past ++ [.consume now])
      (∀ row, before = some row → ∃ next, after = some next
          ∧ (next.motionAt now = row.motionAt now
            ∨ new.selectedPos ≠ old.selectedPos
            ∨ row.mode ≠ .indexed ∧ next.mode = .indexed))
        ∧ (∀ next, after = some next →
          (next.mode = .hold → ∀ time, next.motionAt time = next.phaseDegrees)
            ∧ new.Asks next.mode next.phaseDegrees next.angularVelocityDps)
        ∧ (after = none → input.received ≠ [] → layout.ReadsSlot layer →
          new.pos = none ∧ new.rotate = none) := by
  rw [installCompiledScene_eq_some hinstall]
  rw [consumeTimes_append, List.pairwise_append] at htimes
  have hbefore := Rotating.run hexact hlayer
    (@Rotating.installed p u layer core.nextSchemaGeneration scene) past htimes.1
  have hlast : ∀ time ∈ consumeTimes past, time ≤ now :=
    fun time htime => htimes.2.2 time htime now List.mem_cons_self
  obtain ⟨hafter, hcontinues⟩ := Rotating.consume hexact hlayer
    (installedCore p core.nextSchemaGeneration scene) hbefore hlast
  have hconsumed : ∀ time ∈ consumeTimes (past ++ [.consume now]), time ≤ now := by
    intro time htime
    rw [consumeTimes_append] at htime
    rcases List.mem_append.mp htime with htime | htime
    . exact hlast time htime
    . exact (List.mem_singleton.mp htime).le
  have hholds := hafter.holds now hconsumed
  rw [universeInput_concat] at hholds
  have hrun := (motionRuntime p (installedCore p core.nextSchemaGeneration scene)).run_concat
    (installedCore p core.nextSchemaGeneration scene, fun _ => none) past (.consume now)
  intro layout input old new before after
  have hshown := hafter.published layer
  have hsame : after = _ := congrArg (fun s => s.2 layer) hrun
  rw [hsame]
  refine ⟨?_, ?_, ?_⟩
  . intro row hrow
    have hshows := (hbefore.published layer).of_some hrow
    obtain ⟨hinit, hphase⟩ := hcontinues hshows.initialized
    obtain ⟨next, hnext, hnextShows⟩ := hshown.exists_row hinit
    refine ⟨next, hnext, ?_⟩
    rw [hshows.motionAt, hnextShows.motionAt, hshows.mode, hnextShows.mode]
    exact hphase
  . intro next hnext
    have hshows := hshown.of_some hnext
    exact ⟨hshows.still hholds.valid, hholds.asks hshows⟩
  . intro hnone hreceived hreads
    apply hholds.idle _ hreceived hreads
    exact hshown.of_none hnone

/-- A gobo that is turned by one channel, at a degree per second and step. -/
def turningGobo : CompiledGoboMotionBinding where
  bindingId := 1
  fixtureId := 1
  beamRenderTargetId := 1
  wheelId := 1
  wheelInstanceIndex := 1
  sourceProgramId := 1
  semanticKind := .listed .posRotate
  physicalTo := 255
  scalarEvaluable := true

def turningGoboScene : CompiledRuntimeScene where
  sourcePrograms := [{ programId := 1, sources := [⟨0, 0, 0⟩] }]
  goboMotionBindings := [turningGobo]

theorem motions_turningGoboScene
    : (installTables exactPlatform turningGoboScene).motions = [⟨0, ⟨turningGobo, [1]⟩⟩] := by
  have huniverse : motionUniverse? (installPrograms turningGoboScene.sourcePrograms).1 turningGobo
      = some 0 := by decide
  have hdependencies : goboDependencies? (installPrograms turningGoboScene.sourcePrograms).1 0
      turningGobo.sourceProgramId = some [1] := by decide +kernel
  have hfilter : turningGoboScene.goboMotionBindings.filter isMotion = [turningGobo] := by decide
  change installedMotions _ _ = _
  rw [installedMotions, hfilter, List.filterMap_cons]
  simp [installDependent, huniverse, hdependencies]

def turning : List Operation := [.submit 0 [10], .consume 0, .submit 0 [20]]

theorem run_publishedMotion_turningGobo
    : ∃ row next,
        publishedMotion exactPlatform (installedCore exactPlatform 1 turningGoboScene)
            (layerKey 1 1) turning = some row
          ∧ publishedMotion exactPlatform (installedCore exactPlatform 1 turningGoboScene)
            (layerKey 1 1) (turning ++ [.consume 1]) = some next
          ∧ next.mode = .continuous ∧ next.motionAt 1 = row.motionAt 1 := by
  have hlayer : (installTables exactPlatform turningGoboScene).LayerIn 0 (layerKey 1 1) := by
    rw [InstalledTables.LayerIn, motions_turningGoboScene]
    simp [CompiledGoboMotionBinding.layer, turningGobo]
  obtain ⟨row, hrow⟩ := Option.isSome_iff_exists.mp (show
    (publishedMotion exactPlatform (installedCore exactPlatform 1 turningGoboScene) (layerKey 1 1)
      turning).isSome = true by decide +kernel)
  obtain ⟨next, hnext, hphase⟩ := (run_publishedMotion (fun _ => rfl)
    (show installCompiledScene exactPlatform {} turningGoboScene = some _ from rfl) hlayer turning 1
    (by simp [turning, consumeTimes])).1 row hrow
  have hmode : (publishedMotion exactPlatform (installedCore exactPlatform 1 turningGoboScene)
      (layerKey 1 1) (turning ++ [.consume 1])).map GoboRotationRow.mode
        = some .continuous := by decide +kernel
  have hturns : next.mode = .continuous := by
    have hmap := hmode
    rw [show publishedMotion _ _ _ _ = some next from hnext] at hmap
    exact Option.some.inj hmap
  refine ⟨row, next, hrow, hnext, hturns, ?_⟩
  rcases hphase with hphase | hselected | ⟨_, hindexed⟩
  . exact hphase
  . exact absurd (by decide +kernel) hselected
  . rw [hturns] at hindexed
    cases hindexed

end Peraviz.Runtime
