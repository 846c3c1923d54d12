import Peraviz.Runtime.Coherence.Core
import Peraviz.Runtime.Prefetch.Universe

/-!
This module contains the runs of a runtime with workers: whatever calls they get to make, and
whether a consume uses them or not, the runtime puts out what it would without them.
-/

namespace Peraviz.Runtime

/-! ### The layouts of an installation -/

section Layout

variable {t : InstalledTables} {u : Int32}

theorem not_color_of_mem_layerConsumers {planPrograms : List CompiledDmxSourceProgram}
    {domain : EvaluationDomain} (hdomain : domain ≠ .color) {keys : List Int}
    {layers : Int → List Nat} {contexts : List GoboEvaluationContext}
    : ∀ consumer ∈ layerConsumers planPrograms domain keys layers contexts,
        consumer.domain ≠ .color := by
  intro consumer hconsumer
  obtain ⟨key, _, rfl⟩ := List.mem_map.mp hconsumer
  exact hdomain

theorem pairwise_of_not_color {consumers : List EvaluationConsumer}
    (h : ∀ consumer ∈ consumers, consumer.domain ≠ .color)
    : consumers.Pairwise (fun a b =>
        a.domain = .color → b.domain = .color → a.index < b.index) := by
  apply List.pairwise_iff_getElem.mpr
  intro i j hi hj _ hcolor
  exact absurd hcolor (h _ (List.getElem_mem hi))

-- Of the consumers of a universe only those of its targets are colors, and they are in order.
theorem ordered_append {front back : List EvaluationConsumer}
    (hfront : front.Pairwise (fun a b =>
      a.domain = .color → b.domain = .color → a.index < b.index))
    (hback : ∀ consumer ∈ back, consumer.domain ≠ .color)
    : (front ++ back).Pairwise (fun a b =>
        a.domain = .color → b.domain = .color → a.index < b.index) := by
  rw [List.pairwise_append]
  refine ⟨hfront, pairwise_of_not_color hback, ?_⟩
  intro a _ b hb _ hcolor
  exact absurd hcolor (hback b hb)

theorem ordered_consumers
    : (universeLayout t u).plan.consumers.Pairwise (fun a b =>
        a.domain = .color → b.domain = .color → a.index < b.index) := by
  apply ordered_append
  . apply ordered_append
    . apply ordered_append
      . apply ordered_append
        . rw [List.pairwise_append]
          refine ⟨pairwise_of_not_color ?_, ?_, ?_⟩
          . intro consumer hconsumer
            obtain ⟨entry, _, rfl⟩ := List.mem_map.mp hconsumer
            simp
          . apply List.pairwise_map.mpr
            have hascending : ((colorLayout (t.planPrograms u) (ofUniverse t.colorTargets u)
                (ofUniverse t.wheels u)).targets.zipIdx.map Prod.snd).Pairwise
                  (fun a b => a < b) := by
              rw [List.zipIdx_map_snd]
              exact List.pairwise_lt_range'
            apply (List.pairwise_map.mp hascending).imp
            intro a b hab _ _
            exact hab
          . intro a ha b _ hcolor
            obtain ⟨entry, _, rfl⟩ := List.mem_map.mp ha
            cases hcolor
        . intro consumer hconsumer
          obtain ⟨entry, _, rfl⟩ := List.mem_map.mp hconsumer
          simp
      . apply not_color_of_mem_layerConsumers
        simp
    . apply not_color_of_mem_layerConsumers
      simp
  . apply not_color_of_mem_layerConsumers
    simp

theorem mem_consumersOf_color {index : Nat} {target : ColorTargetRuntime}
    (htarget : (universeLayout t u).colors.targets[index]? = some target)
    {input : ColorInputRuntime} (hinput : input ∈ target.inputs)
    : ∃ c ∈ (universeLayout t u).plan.consumersOf input.source,
        ((universeLayout t u).plan.consumer c).domain = .color
          ∧ ((universeLayout t u).plan.consumer c).index = index := by
  have hmem : (⟨.color, index, target.target.beamRenderTargetId.toInt,
      target.inputs.map ColorInputRuntime.source⟩ : EvaluationConsumer)
        ∈ (universeLayout t u).plan.consumers := by
    simp only [universeLayout, consumersOf, List.mem_append]
    refine Or.inl (Or.inl (Or.inl (Or.inl (Or.inr ?_))))
    exact List.mem_map.mpr ⟨(target, index), List.mem_zipIdx_iff_getElem?.mpr htarget, rfl⟩
  obtain ⟨c, hc, hget⟩ := List.mem_iff_getElem.mp hmem
  have hconsumer : (universeLayout t u).plan.consumer c = ⟨.color, index,
      target.target.beamRenderTargetId.toInt, target.inputs.map ColorInputRuntime.source⟩ := by
    simp [EvaluationPlan.consumer, List.getD_eq_getElem?_getD, List.getElem?_eq_getElem hc, hget]
  refine ⟨c, ?_, by rw [hconsumer], by rw [hconsumer]⟩
  unfold EvaluationPlan.consumersOf
  rw [List.mem_filter, List.mem_range, hconsumer]
  exact ⟨hc, by simpa using ⟨input, hinput, rfl⟩⟩

/-- Every program of a scene reads a byte. -/
def SourcesRead (scene : CompiledRuntimeScene) : Prop :=
  ∀ program ∈ scene.sourcePrograms, program.sources ≠ []

theorem reads_of_color {p : Platform} {scene : CompiledRuntimeScene} (hsources : SourcesRead scene)
    {target : ColorTargetRuntime}
    (htarget : target ∈ (universeLayout (installTables p scene) u).colors.targets)
    {input : ColorInputRuntime} (hinput : input ∈ target.inputs)
    : ((universeLayout (installTables p scene) u).plan.program input.source).sources ≠ [] := by
  obtain ⟨compiled, hcompiled, rfl⟩ := List.mem_map.mp htarget
  obtain ⟨binding, hbinding, rfl⟩ := List.mem_map.mp hinput
  have hread : binding.sourceProgramId ∈ (installTables p scene).readIds u := by
    simp only [InstalledTables.readIds, List.mem_append, List.mem_flatMap, List.mem_map]
    exact Or.inl (Or.inl (Or.inl (Or.inl (Or.inr ⟨compiled, hcompiled, binding, hbinding, rfl⟩))))
  obtain ⟨program, hprogram, hget⟩ := (resolved_installTables p scene).sourceIndex hread
  rw [program_universeLayout hget]
  obtain ⟨_, original, horiginal, rfl⟩ := mem_installPrograms (program?_eq_some hprogram).1
  obtain ⟨byte, hbyte⟩ := List.exists_mem_of_ne_nil _ (hsources original horiginal)
  exact List.ne_nil_of_mem (mem_sources_sortSources.mpr hbyte)

theorem prefetchable_universeLayout {p : Platform} {scene : CompiledRuntimeScene}
    (haddresses : AddressesInRange scene) (hsources : SourcesRead scene) (u : Int32)
    : (universeLayout (installTables p scene) u).Prefetchable where
  sound := sound_universeLayout haddresses u
  ordered := ordered_consumers
  reached _ _ htarget _ hinput := mem_consumersOf_color htarget hinput
  reads _ htarget _ hinput := reads_of_color hsources htarget hinput

end Layout

/-! ### The universes of two runtimes -/

variable {p : Platform}

/-- The universes of two runtimes, one by one, with the frames that were processed last. -/
inductive AllPairs (p : Platform) : List (List UInt8) → List Universe → List Universe → Prop
  | nil : AllPairs p [] [] []
  | cons {frame : List UInt8} {u v : Universe} {frames : List (List UInt8)} {us vs : List Universe}
    (head : UniversePair p frame u v) (tail : AllPairs p frames us vs)
    : AllPairs p (frame :: frames) (u :: us) (v :: vs)

theorem UniversePair.submit {frame : List UInt8} {u v : Universe} (h : UniversePair p frame u v)
    (universeId : Int32) (data : List UInt8)
    : UniversePair p frame (submitToUniverse universeId data u)
        (submitToUniverse universeId data v) := by
  unfold submitToUniverse
  rw [h.layout]
  split
  . have := h.state
    exact ⟨rfl, h.prefetchable, rfl, rfl, this.lastRelevantValues, this.hasLastRelevantValues,
      this.colorInputs, ⟨⟨this.left.relevant.values, this.left.relevant.fresh⟩, this.left.cached⟩,
      ⟨⟨this.right.relevant.values, this.right.relevant.fresh⟩, this.right.cached⟩,
      this.initialized⟩
  . exact h

namespace AllPairs

variable {frames : List (List UInt8)} {us vs : List Universe}

theorem submit (h : AllPairs p frames us vs) (universeId : Int32) (data : List UInt8)
    : AllPairs p frames (us.map (submitToUniverse universeId data))
        (vs.map (submitToUniverse universeId data)) := by
  induction h with
  | nil => exact AllPairs.nil
  | cons head tail ih => exact AllPairs.cons (head.submit universeId data) ih

theorem consumeSerial (h : AllPairs p frames us vs) {c c' : ConsumeState} (hc : ConsumeTwins c c')
    (d : Definitions) (now : ℚ)
    : ConsumeTwins (updateAll (consumeUniverse p d now) c us).1
          (updateAll (consumeUniverse p d now) c' vs).1
        ∧ AllPairs p (us.zipWith processedFrame frames)
          (updateAll (consumeUniverse p d now) c us).2
          (updateAll (consumeUniverse p d now) c' vs).2 := by
  induction h generalizing c c' with
  | nil => exact ⟨hc, AllPairs.nil⟩
  | cons head tail ih =>
    obtain ⟨hc', hpair⟩ := head.consumeSerial hc now
    obtain ⟨hc'', hrest⟩ := ih hc'
    exact ⟨hc'', AllPairs.cons hpair hrest⟩

theorem consume (h : AllPairs p frames us vs) {c c' : ConsumeState} (hc : ConsumeTwins c c')
    {d : Definitions} {prefetch : ParallelEvaluationPrefetch}
    (hoffers : ∀ v ∈ vs, Offers p d prefetch (ParallelEvaluationPrefetch.prepareUniverse v))
    (now : ℚ)
    : ConsumeTwins (updateAll (consumeUniverse p d now) c us).1
          (updateAll (prefetch.consumeUniverse p d now) c'
            (vs.map ParallelEvaluationPrefetch.prepareUniverse)).1
        ∧ AllPairs p (us.zipWith processedFrame frames)
          (updateAll (consumeUniverse p d now) c us).2
          (updateAll (prefetch.consumeUniverse p d now) c'
            (vs.map ParallelEvaluationPrefetch.prepareUniverse)).2 := by
  induction h generalizing c c' with
  | nil => exact ⟨hc, AllPairs.nil⟩
  | cons head tail ih =>
    rw [List.forall_mem_cons] at hoffers
    obtain ⟨hc', hpair⟩ := head.consumePrepared hc hoffers.1 now
    obtain ⟨hc'', hrest⟩ := ih hc' hoffers.2
    exact ⟨hc'', AllPairs.cons hpair hrest⟩

theorem layouts (h : AllPairs p frames us vs) : vs.map Universe.layout = us.map Universe.layout := by
  induction h with
  | nil => rfl
  | cons head tail ih => rw [List.map_cons, List.map_cons, head.layout, ih]

theorem colorInputs (h : AllPairs p frames us vs)
    : vs.map (fun v => v.state.colorInputs) = us.map (fun u => u.state.colorInputs) := by
  induction h with
  | nil => rfl
  | cons head tail ih => rw [List.map_cons, List.map_cons, head.state.colorInputs, ih]

end AllPairs

/-! ### The preparation of a consume -/

namespace ParallelEvaluationPrefetch

variable {us : List Universe} {prefetch : ParallelEvaluationPrefetch}

theorem layout_prepareUniverse (v : Universe) : (prepareUniverse v).layout = v.layout := by
  unfold prepareUniverse
  split
  . rfl
  . rfl

theorem pending_prepareUniverse (v : Universe)
    : (prepareUniverse v).state.hasPendingFrame = v.state.hasPendingFrame := by
  unfold prepareUniverse
  split
  . rfl
  . rfl

theorem distinctIds_prepare (h : DistinctIds us) : DistinctIds (us.map prepareUniverse) := by
  unfold DistinctIds at h ⊢
  rw [List.map_map]
  have hids : (fun u : Universe => u.layout.universeId) ∘ prepareUniverse
      = fun u => u.layout.universeId := by
    funext v
    simp only [Function.comp_apply, layout_prepareUniverse]
  rw [hids]
  exact h

/-- The prefetch of a consume in front of its workers. -/
def nextConsume (prefetch : ParallelEvaluationPrefetch) (us : List Universe)
    : ParallelEvaluationPrefetch :=
  { prefetch.nextGeneration with
    inputsPrepared := fun universeId => us.any (fun u =>
      u.layout.universeId == universeId && u.state.hasPendingFrame)
    prepared := false }

/-- A prefetch between two consumes. -/
structure Valid (d : Definitions) (layouts : List UniverseLayout)
    (prefetch : ParallelEvaluationPrefetch) : Prop where
  stamped : prefetch.Stamped
  wheels : ∀ layout ∈ layouts, prefetch.KnowsWheels d layout

theorem Stamped.nextConsume (h : prefetch.Stamped) (us : List Universe)
    : (prefetch.nextConsume us).Behind :=
  ⟨h.nextGeneration.sources, h.nextGeneration.colors⟩

theorem KnowsWheels.nextConsume {d : Definitions} {layout : UniverseLayout}
    (h : prefetch.KnowsWheels d layout) (us : List Universe)
    : (prefetch.nextConsume us).KnowsWheels d layout := by
  intro index target htarget
  rw [← h index target htarget]
  exact noWheels_nextGeneration prefetch _

theorem KnowsWheels.runWorkers {core : Core} {d : Definitions} {layout : UniverseLayout}
    (h : prefetch.KnowsWheels d layout) (calls : WorkerCalls)
    : (prefetch.runWorkers p core calls).KnowsWheels d layout := by
  intro index target htarget
  rw [← h index target htarget, noWheels_runWorkers]

theorem inputsPrepared_nextConsume (hids : DistinctIds us) {v : Universe} (hv : v ∈ us)
    : (prefetch.nextConsume us).inputsPrepared v.layout.universeId = v.state.hasPendingFrame := by
  rw [Bool.eq_iff_iff]
  simp only [nextConsume, List.any_eq_true, Bool.and_eq_true, beq_iff_eq]
  constructor
  . rintro ⟨u, hu, hid, hpending⟩
    rw [← hids.eq hu hv hid]
    exact hpending
  . intro hpending
    exact ⟨v, hv, rfl, hpending⟩

variable {core : Core} {calls : Option WorkerCalls}

/-- The core with the inputs of its universes prepared. -/
def prepareCore (core : Core) : Core :=
  { core with universes := core.universes.map prepareUniverse }

theorem prepare_eq : prefetch.prepare p core calls
    = (prepareCore core,
      calls.elim (prefetch.nextConsume core.universes)
        ((prefetch.nextConsume core.universes).runWorkers p (prepareCore core))) := rfl

theorem Valid.prepare (h : prefetch.Valid core.definitions core.layouts)
    : (prefetch.prepare p core calls).2.Valid core.definitions core.layouts := by
  rw [prepare_eq]
  have hbehind := h.stamped.nextConsume core.universes
  cases calls with
  | none =>
    exact ⟨hbehind.stamped, fun layout hlayout => (h.wheels layout hlayout).nextConsume _⟩
  | some calls =>
    exact ⟨hbehind.runWorkers,
      fun layout hlayout => ((h.wheels layout hlayout).nextConsume _).runWorkers calls⟩

-- Whether the workers have run or not, a universe finds in its slots what it may use.
theorem Valid.offers (h : prefetch.Valid core.definitions core.layouts)
    (hids : DistinctIds core.universes)
    (hcomplete : ∀ workers, calls = some workers →
      workers.Complete (core.universes.map prepareUniverse))
    {v : Universe} (hv : v ∈ core.universes)
    : Offers p core.definitions (prefetch.prepare p core calls).2 (prepareUniverse v) := by
  rw [prepare_eq]
  have hbehind := h.stamped.nextConsume core.universes
  have hinputs : (prefetch.nextConsume core.universes).inputsPrepared v.layout.universeId
      = v.state.hasPendingFrame := inputsPrepared_nextConsume hids hv
  rw [← layout_prepareUniverse, ← pending_prepareUniverse] at hinputs
  cases calls with
  | none =>
    refine ⟨hinputs, ?_, ?_⟩
    . intro slots hslots
      cases hslots
    . intro _ slots hslots
      cases hslots
  | some workers =>
    have hmem : prepareUniverse v ∈ (prepareCore core).universes := List.mem_map_of_mem hv
    have hdistinct : DistinctIds (prepareCore core).universes := distinctIds_prepare hids
    have hwheels : (prefetch.nextConsume core.universes).KnowsWheels
        (prepareCore core).definitions (prepareUniverse v).layout := by
      rw [layout_prepareUniverse]
      exact (h.wheels v.layout (List.mem_map_of_mem hv)).nextConsume _
    refine ⟨hinputs, ?_, ?_⟩
    . intro slots hslots
      exact source?_of_slotsOf hbehind hdistinct hmem hslots
    . intro hpending slots hslots marks hready
      have hserves := @serves_of_slotsOf p (prepareCore core) workers _ _ slots hbehind hdistinct
        (hcomplete workers rfl) hmem hpending marks hready hwheels hslots
      exact hserves

theorem Valid.ofCore (hids : DistinctIds core.universes)
    : (ofCore core).Valid core.definitions core.layouts := by
  refine ⟨⟨fun _ => UInt64.le_refl 0, fun _ => UInt64.le_refl 0⟩, ?_⟩
  intro layout hlayout index target htarget
  obtain ⟨u, hu, rfl⟩ := List.mem_map.mp hlayout
  have hfind : core.universes.find? (fun v => v.layout.universeId == u.layout.universeId)
      = some u := by
    cases hfound : core.universes.find? (fun v => v.layout.universeId == u.layout.universeId) with
    | none =>
      have hnone := List.find?_eq_none.mp hfound u hu
      simp at hnone
    | some v =>
      have hid := List.find?_some hfound
      rw [beq_iff_eq] at hid
      rw [hids.eq (List.mem_of_find?_eq_some hfound) hu hid]
  simp only [ParallelEvaluationPrefetch.ofCore, noWheels, hfind, Option.bind_some, htarget,
    Option.any_some]

end ParallelEvaluationPrefetch

/-! ### Two runtimes -/

structure CorePair (p : Platform) (frames : List (List UInt8)) (core : Core) (s : PrefetchedCore)
    : Prop where
  definitions : s.core.definitions = core.definitions
  schema : s.core.schema = core.schema
  held : s.core.held = core.held
  universes : AllPairs p frames core.universes s.core.universes
  ids : DistinctIds s.core.universes
  prefetch : ∀ prefetch, s.prefetch = some prefetch →
    prefetch.Valid s.core.definitions s.core.layouts

/-- The batches of a consume are answered. -/
def PrefetchedOperation.Complete (s : PrefetchedCore) : PrefetchedOperation → Prop
  | .consume _ (some calls) =>
    calls.Complete (s.core.universes.map ParallelEvaluationPrefetch.prepareUniverse)
  | _ => True

theorem distinctIds_iff {us : List Universe}
    : DistinctIds us ↔ ((us.map Universe.layout).map UniverseLayout.universeId).Nodup := by
  rw [List.map_map]
  rfl

namespace CorePair

variable {frames : List (List UInt8)} {core : Core} {s : PrefetchedCore}

theorem submit (h : CorePair p frames core s) (universeId : Int32) (data : List UInt8)
    : CorePair p frames (submitUniverseFrame core universeId data)
        { s with core := submitUniverseFrame s.core universeId data } := by
  have hlayouts : (submitUniverseFrame s.core universeId data).layouts = s.core.layouts := by
    unfold Core.layouts submitUniverseFrame
    rw [List.map_map]
    apply List.map_congr_left
    intro u _
    exact layout_submitToUniverse universeId data u
  refine ⟨h.definitions, h.schema, h.held, h.universes.submit universeId data, ?_, ?_⟩
  . apply distinctIds_iff.mpr
    change ((submitUniverseFrame s.core universeId data).layouts.map _).Nodup
    rw [hlayouts]
    exact distinctIds_iff.mp h.ids
  . intro prefetch hprefetch
    change prefetch.Valid s.core.definitions (submitUniverseFrame s.core universeId data).layouts
    rw [hlayouts]
    exact h.prefetch prefetch hprefetch

theorem setNativeExecutor (h : CorePair p frames core s) (attached : Bool)
    : CorePair p frames core
        { s with prefetch := if attached then some (.ofCore s.core) else none } := by
  refine ⟨h.definitions, h.schema, h.held, h.universes, h.ids, ?_⟩
  intro prefetch hprefetch
  cases attached with
  | false => cases hprefetch
  | true =>
    cases hprefetch
    exact ParallelEvaluationPrefetch.Valid.ofCore h.ids

-- The layouts of the universes stay, so the slots fit them after the consume as well.
theorem finish {c c' : ConsumeState} {us vs : List Universe} {frames' : List (List UInt8)}
    (h : CorePair p frames core s) (hc : ConsumeTwins c c') (hpairs : AllPairs p frames' us vs)
    (hlayouts : us.map Universe.layout = core.universes.map Universe.layout)
    {prefetch : Option ParallelEvaluationPrefetch}
    (hprefetch : ∀ slots, prefetch = some slots → slots.Valid s.core.definitions s.core.layouts)
    (universes : List Universe)
    : (Core.finish { s.core with universes := universes } (c', vs)).2 = (core.finish (c, us)).2
        ∧ CorePair p frames' (core.finish (c, us)).1
          ⟨(Core.finish { s.core with universes := universes } (c', vs)).1, prefetch⟩ := by
  have hsame : vs.map Universe.layout = s.core.universes.map Universe.layout := by
    rw [hpairs.layouts, hlayouts, h.universes.layouts]
  refine ⟨?_, h.definitions, h.schema, hc.held, hpairs, ?_, ?_⟩
  . simp only [Core.finish, hc.frame, hc.emission, h.definitions]
  . apply distinctIds_iff.mpr
    change ((vs.map Universe.layout).map _).Nodup
    rw [hsame]
    exact distinctIds_iff.mp h.ids
  . intro slots hslots
    change slots.Valid s.core.definitions (vs.map Universe.layout)
    rw [hsame]
    exact hprefetch slots hslots

theorem consume (h : CorePair p frames core s) (now : ℚ) {calls : Option WorkerCalls}
    (hcomplete : PrefetchedOperation.Complete s (.consume now calls))
    : (s.consume p now calls).2 = (consumeLatestVisualFrame p core now).2
        ∧ CorePair p (core.universes.zipWith processedFrame frames)
          (consumeLatestVisualFrame p core now).1 (s.consume p now calls).1 := by
  have hc : ConsumeTwins core.consumeState s.core.consumeState :=
    ⟨h.held, by simp only [Core.consumeState, h.schema], rfl⟩
  have hlayouts := layouts_updateAll (p := p) core.definitions now core.consumeState core.universes
  unfold PrefetchedCore.consume consumeLatestVisualFrame
  cases hprefetch : s.prefetch with
  | none =>
    obtain ⟨hc', hpairs⟩ := h.universes.consumeSerial hc core.definitions now
    rw [← h.definitions] at hc' hpairs hlayouts ⊢
    refine h.finish hc' hpairs hlayouts ?_ s.core.universes
    intro slots hslots
    cases hslots
  | some prefetch =>
    have hvalid := h.prefetch prefetch hprefetch
    have hoffers (v : Universe) (hv : v ∈ s.core.universes)
        : Offers p s.core.definitions (prefetch.prepare p s.core calls).2
          (ParallelEvaluationPrefetch.prepareUniverse v) := by
      apply hvalid.offers h.ids _ hv
      intro workers hworkers
      rw [hworkers] at hcomplete
      exact hcomplete
    obtain ⟨hc', hpairs⟩ := h.universes.consume hc hoffers now
    rw [← h.definitions] at hlayouts ⊢
    refine h.finish hc' hpairs hlayouts ?_ _
    intro slots hslots
    cases hslots
    exact hvalid.prepare

end CorePair

/-- The step of the runtime without workers that an operation is, if it is one. -/
theorem CorePair.step {frames : List (List UInt8)} {core : Core} {s : PrefetchedCore}
    (h : CorePair p frames core s) {operation : PrefetchedOperation}
    (hcomplete : operation.Complete s) (first : Core)
    : (s.step p operation).2.toList
          = ((runtime p first).trace core operation.serial.toList).filterMap Prod.snd
        ∧ ∃ frames', CorePair p frames' ((runtime p first).run core operation.serial.toList)
          (s.step p operation).1 := by
  cases operation with
  | submit universeId data => exact ⟨rfl, frames, h.submit universeId data⟩
  | setNativeExecutor attached => exact ⟨rfl, frames, h.setNativeExecutor attached⟩
  | consume now calls =>
    obtain ⟨hframe, hpair⟩ := h.consume now hcomplete
    refine ⟨?_, _, hpair⟩
    exact congrArg (fun frame => [frame]) hframe

theorem CorePair.run {frames : List (List UInt8)} {core : Core} {s : PrefetchedCore}
    (h : CorePair p frames core s) {operations : List PrefetchedOperation} (first first' : Core)
    (hcomplete : (prefetchedRuntime p first').StepsMeet PrefetchedOperation.Complete s operations)
    : ((prefetchedRuntime p first').trace s operations).filterMap Prod.snd
          = ((runtime p first).trace core
            (operations.filterMap PrefetchedOperation.serial)).filterMap Prod.snd
        ∧ ∃ frames', CorePair p frames'
          ((runtime p first).run core (operations.filterMap PrefetchedOperation.serial))
          ((prefetchedRuntime p first').run s operations) := by
  induction operations generalizing frames core s with
  | nil => exact ⟨rfl, frames, h⟩
  | cons operation operations ih =>
    obtain ⟨hfirst, hrest⟩ := hcomplete
    obtain ⟨hout, frames', hpair⟩ := h.step hfirst first
    obtain ⟨hframes, hrun⟩ := ih hpair hrest
    have hserial : (operation :: operations).filterMap PrefetchedOperation.serial
        = operation.serial.toList ++ operations.filterMap PrefetchedOperation.serial := by
      cases operation with
      | submit universeId data => rfl
      | setNativeExecutor attached => rfl
      | consume now calls => rfl
    rw [hserial, Machine.trace_append, List.filterMap_append, ← hframes, ← hout,
      Machine.run_append]
    refine ⟨?_, hrun⟩
    have hstep : (prefetchedRuntime p first').step s operation = s.step p operation := rfl
    simp only [Machine.trace, List.filterMap_cons, hstep]
    cases (s.step p operation).2 with
    | none => rfl
    | some frame => rfl

theorem UniversePair.installed {t : InstalledTables} {u : Int32}
    (hlayout : (universeLayout t u).Prefetchable)
    : UniversePair p [] (t.installUniverse p u) (t.installUniverse p u) := by
  have hsettled : Settled p (universeLayout t u) [] (t.installUniverse p u).state := by
    refine ⟨⟨?_, fun _ _ => rfl⟩, ⟨?_, EvaluationWorkspace.Stamped.initial⟩⟩
    . intro hhas
      cases hhas
    . intro source _ hvalid
      cases hvalid
  refine ⟨rfl, hlayout, rfl, rfl, rfl, rfl, rfl, hsettled, hsettled, ?_⟩
  intro hhas
  cases hhas

theorem AllPairs.installed {t : InstalledTables} (h : ∀ u, (universeLayout t u).Prefetchable)
    (ids : List Int32)
    : AllPairs p ((ids.map (t.installUniverse p)).map (fun _ => []))
        (ids.map (t.installUniverse p)) (ids.map (t.installUniverse p)) := by
  induction ids with
  | nil => exact AllPairs.nil
  | cons u ids ih => exact AllPairs.cons (UniversePair.installed (h u)) ih

theorem CorePair.installed {core core' : Core} {scene : CompiledRuntimeScene}
    (haddresses : AddressesInRange scene) (hsources : SourcesRead scene)
    (hinstall : installCompiledScene p core scene = some core')
    : CorePair p (core'.universes.map (fun _ => [])) core' { core := core' } := by
  rw [installCompiledScene_eq_some hinstall]
  refine ⟨rfl, rfl, rfl,
    AllPairs.installed (prefetchable_universeLayout haddresses hsources) _, ?_, ?_⟩
  . unfold DistinctIds installedCore
    rw [List.map_map]
    have hids : (fun u : Universe => u.layout.universeId)
        ∘ (installTables p scene).installUniverse p = id := rfl
    rw [hids, List.map_id]
    exact (installTables p scene).nodup_universeOrder p
  . intro prefetch hprefetch
    cases hprefetch

/--
A runtime with workers puts out the frames of a runtime without them and holds what it holds: for
every scene whose programs read slots of their universe, at least one each, every history of
submissions and consumes, the executor attached and detached in between, and whatever calls the pool
has made of the batches that it has answered.
-/
theorem run_prefetched {core core' : Core} {scene : CompiledRuntimeScene}
    (haddresses : AddressesInRange scene) (hsources : SourcesRead scene)
    (hinstall : installCompiledScene p core scene = some core')
    {operations : List PrefetchedOperation}
    (hcomplete : (prefetchedRuntime p core').StepsMeet PrefetchedOperation.Complete
      { core := core' } operations)
    : ((prefetchedRuntime p core').trace { core := core' } operations).filterMap Prod.snd
          = ((runtime p core').trace core'
            (operations.filterMap PrefetchedOperation.serial)).filterMap Prod.snd
        ∧ ((prefetchedRuntime p core').run { core := core' } operations).core.held
          = ((runtime p core').run core' (operations.filterMap PrefetchedOperation.serial)).held
        ∧ ((prefetchedRuntime p core').run { core := core' } operations).core.universes.map
            (fun u => u.state.colorInputs)
          = ((runtime p core').run core'
            (operations.filterMap PrefetchedOperation.serial)).universes.map
              (fun u => u.state.colorInputs) := by
  obtain ⟨hframes, _, hpair⟩ :=
    (CorePair.installed haddresses hsources hinstall).run core' core' hcomplete
  exact ⟨hframes, hpair.held, hpair.universes.colorInputs⟩

def twoTargetScene : CompiledRuntimeScene where
  fixtures := [{ fixtureId := 1, universeId := 0, startAddress := 1 }]
  sourcePrograms := [
    { programId := 1, semantic := .listed .colorAddRed, sources := [⟨0, 0, 0⟩] },
    { programId := 2, semantic := .listed .colorAddRed, sources := [⟨0, 1, 0⟩] }
  ]
  colorTargets := [
    {
      fixtureId := 1
      beamRenderTargetId := 5
      inputs := [{ semantic := .listed .colorAddRed, sourceProgramId := 1 }]
      additiveSource := true
    },
    {
      fixtureId := 1
      beamRenderTargetId := 6
      inputs := [{ semantic := .listed .colorAddRed, sourceProgramId := 2 }]
      additiveSource := true
    }
  ]

def twoTargetCore : Core := installedCore exactPlatform 1 twoTargetScene

/-- The second of two workers is the first to call. -/
def backwardPass : List NativeWorkerPool.FunctionCall := [⟨some 1, 1, 2, false⟩, ⟨some 0, 0, 1, false⟩]

def singlePass : List NativeWorkerPool.FunctionCall := [⟨none, 0, 1, false⟩]

def twoTargetOperations : List PrefetchedOperation := [
  .setNativeExecutor true,
  .submit 0 [255, 128],
  .consume 0 (some ⟨backwardPass, backwardPass⟩),
  .submit 0 [255, 64],
  .consume 1 (some ⟨singlePass, singlePass⟩)
]

theorem answered_backwardPass : Answered 2 backwardPass := by
  refine ⟨[], backwardPass, rfl, by simp [backwardPass], ?_⟩
  intro k
  simp only [backwardPass, List.countP_cons, List.countP_nil, decide_eq_true_eq]
  split <;> split <;> split <;> omega

theorem answered_singlePass : Answered 1 singlePass :=
  ⟨[], singlePass, rfl, NativeWorkerPool.covers_serial 1⟩

-- the first frame dirties both targets, the second one of them
theorem run_prefetched_twoTargets
    : ((prefetchedRuntime exactPlatform twoTargetCore).trace { core := twoTargetCore }
          twoTargetOperations).filterMap Prod.snd
        = ((runtime exactPlatform twoTargetCore).trace twoTargetCore
          (twoTargetOperations.filterMap PrefetchedOperation.serial)).filterMap Prod.snd := by
  have hcomplete : (prefetchedRuntime exactPlatform twoTargetCore).StepsMeet
      PrefetchedOperation.Complete { core := twoTargetCore } twoTargetOperations := by
    refine ⟨trivial, trivial, ⟨?_, ?_⟩, trivial, ⟨?_, ?_⟩, trivial⟩
    . convert answered_backwardPass
      decide +kernel
    . convert answered_backwardPass
      decide +kernel
    . convert answered_singlePass
      decide +kernel
    . convert answered_singlePass
      decide +kernel
  exact (@run_prefetched exactPlatform {} twoTargetCore twoTargetScene
    (by simp [AddressesInRange, twoTargetScene]) (by simp [SourcesRead, twoTargetScene]) rfl _
    hcomplete).1

end Peraviz.Runtime
