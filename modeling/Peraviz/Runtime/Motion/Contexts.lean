import Peraviz.Runtime.Coherence.Core
import Peraviz.Runtime.Motion.Scan
import Peraviz.Runtime.Plan.Lemmas

/-!
This module contains the contexts of an installed universe: each is the walk along the masters from
one program, so it is told by its front and lies on the chain of its front in the plan. A layer that
an update does not visit would be scanned on the new frame as it was on the one before.
-/

namespace Peraviz.Runtime

variable {programs : List CompiledDmxSourceProgram} {next : CompiledDmxSourceProgram → Int32}
  {id : Int32}

/-! ### The walk along the masters -/

theorem dependencyWalk_extends {visited : List Int32}
    : visited <+: (dependencyWalk programs next visited id).1 := by
  fun_induction dependencyWalk programs next visited id with
  | case1 => exact List.prefix_rfl
  | case2 => exact List.prefix_rfl
  | case3 visited id hnew program hfind ih => exact (List.prefix_append _ _).trans ih

theorem dependencyWalk_head (h : (dependencyWalk programs next [] id).1 ≠ [])
    : ∃ rest, (dependencyWalk programs next [] id).1 = id :: rest := by
  rw [dependencyWalk] at h ⊢
  split
  next hstop =>
    rw [if_pos hstop] at h
    exact absurd rfl h
  next hnew =>
    rw [if_neg hnew] at h
    split
    next hnone =>
      split at h
      . exact absurd rfl h
      next program hfound =>
        rw [hnone] at hfound
        cases hfound
    next program hfound =>
      obtain ⟨rest, hrest⟩ := @dependencyWalk_extends programs next (next program) ([] ++ [id])
      exact ⟨rest, hrest.symm⟩

def WalkLink (programs : List CompiledDmxSourceProgram) (next : CompiledDmxSourceProgram → Int32)
    (ids : List Int32) (a b : Int32) : Prop :=
  a ∈ ids ∧ b ∈ ids ∧ ∃ program, program? programs a = some program ∧ next program = b

theorem dependencyWalk_links {visited : List Int32}
    : ∀ other ∈ (dependencyWalk programs next visited id).1, other ∈ visited
        ∨ id ∈ (dependencyWalk programs next visited id).1
          ∧ Relation.ReflTransGen
            (WalkLink programs next (dependencyWalk programs next visited id).1) id other := by
  fun_induction dependencyWalk programs next visited id with
  | case1 => exact fun other hother => Or.inl hother
  | case2 => exact fun other hother => Or.inl hother
  | case3 visited id hnew program hfind ih =>
    intro other hother
    have hself : id ∈ (dependencyWalk programs next (visited ++ [id]) (next program)).1 := by
      apply dependencyWalk_extends.subset
      simp
    rcases ih other hother with hmem | ⟨hnext, hchain⟩
    . rcases List.mem_append.mp hmem with hmem | hmem
      . exact Or.inl hmem
      . rw [List.mem_singleton.mp hmem]
        exact Or.inr ⟨hself, Relation.ReflTransGen.refl⟩
    . exact Or.inr ⟨hself, Relation.ReflTransGen.head ⟨hself, hnext, program, hfind, rfl⟩ hchain⟩

/-- The programs that a binding depends on are the walk from the program of the binding. -/
def Walked (programs : List CompiledDmxSourceProgram) (ids : List Int32) : Prop :=
  ∃ id, ids = (dependencyWalk programs nextMaster [] id).1

theorem walked_installDependent {β : Type} {universe? : β → Option Int32}
    {sourceProgramId : β → Int32} {binding : β} {installed : Installed (DependentBinding β)}
    (h : installDependent programs universe? sourceProgramId binding = some installed)
    : Walked programs installed.entry.dependencyProgramIds := by
  obtain ⟨u, _, hinstalled⟩ := Option.bind_eq_some_iff.mp h
  obtain ⟨ids, hids, heq⟩ := Option.map_eq_some_iff.mp hinstalled
  rw [← heq]
  unfold goboDependencies? at hids
  dsimp only at hids
  split at hids
  . cases hids
    exact ⟨_, rfl⟩
  . cases hids

theorem walked_shutter {p : Platform} {bindings : List CompiledShutterBinding}
    {installed : Installed ShutterEntry}
    (h : installed ∈ installedShutters (shutterEntries p programs bindings))
    : Walked programs installed.entry.dependencyProgramIds := by
  obtain ⟨entry, hentry, hinstalled⟩ := List.mem_filterMap.mp h
  obtain ⟨u, _, heq⟩ := Option.map_eq_some_iff.mp hinstalled
  have hmem := (List.mem_filter.mp (List.mem_filter.mp hentry).1).1
  obtain ⟨binding, _, hbinding⟩ := List.mem_map.mp hmem
  rw [← heq, ← hbinding]
  exact ⟨_, rfl⟩

/-! ### The contexts of a universe -/

theorem front_mem_evaluationContext {planPrograms : List CompiledDmxSourceProgram}
    {ids : List Int32} (h : ids ≠ [])
    : (evaluationContext programs planPrograms ids).front
        ∈ (evaluationContext programs planPrograms ids).sources := by
  cases ids with
  | nil => exact absurd rfl h
  | cons id rest => exact List.mem_cons_self

section Universe

variable {p : Platform} {scene : CompiledRuntimeScene} {u : Int32}

theorem mem_contexts {context : GoboEvaluationContext}
    (h : context ∈ (universeLayout (installTables p scene) u).contexts)
    : ∃ ids, context = evaluationContext (installTables p scene).programs
          ((installTables p scene).planPrograms u) ids
        ∧ ids ≠ [] ∧ Walked (installTables p scene).programs ids
        ∧ ∀ id ∈ ids, id ∈ (installTables p scene).readIds u := by
  have hresolved := resolved_installTables p scene
  simp only [UniverseLayout.contexts, List.mem_append, List.mem_map] at h
  rcases h with (⟨gobo, hgobo, rfl⟩ | ⟨motion, hmotion, rfl⟩) | ⟨shutter, hshutter, rfl⟩
  . obtain ⟨binding, hbinding, rfl⟩ := List.mem_map.mp hgobo
    obtain ⟨x, hx, _, rfl⟩ := mem_ofUniverse.mp hbinding
    refine ⟨_, rfl, (hresolved.gobos x hx).1, ?_, ?_⟩
    . obtain ⟨b, _, hb⟩ := List.mem_filterMap.mp hx
      exact walked_installDependent hb
    . intro id hid
      simp only [InstalledTables.readIds, List.mem_append, List.mem_flatMap]
      exact Or.inl (Or.inl (Or.inr ⟨x.entry, hbinding, hid⟩))
  . obtain ⟨binding, hbinding, rfl⟩ := List.mem_map.mp hmotion
    obtain ⟨x, hx, _, rfl⟩ := mem_ofUniverse.mp hbinding
    refine ⟨_, rfl, (hresolved.motions x hx).1, ?_, ?_⟩
    . obtain ⟨b, _, hb⟩ := List.mem_filterMap.mp hx
      exact walked_installDependent hb
    . intro id hid
      simp only [InstalledTables.readIds, List.mem_append, List.mem_flatMap]
      exact Or.inl (Or.inr ⟨x.entry, hbinding, hid⟩)
  . obtain ⟨entry, hentry, rfl⟩ := List.mem_map.mp hshutter
    obtain ⟨x, hx, _, rfl⟩ := mem_ofUniverse.mp hentry
    refine ⟨_, rfl, (hresolved.shutters x hx).1, walked_shutter hx, ?_⟩
    intro id hid
    simp only [InstalledTables.readIds, List.mem_append, List.mem_flatMap]
    exact Or.inr ⟨x.entry, hentry, hid⟩

variable {t : InstalledTables}

theorem sourceIndex_injective (h : t.Resolved) {a b : Int32} (ha : a ∈ t.readIds u)
    (hb : b ∈ t.readIds u)
    (heq : sourceIndex (t.planPrograms u) a = sourceIndex (t.planPrograms u) b) : a = b := by
  obtain ⟨program, hprogram, hget⟩ := h.sourceIndex ha
  obtain ⟨other, hother, hget'⟩ := h.sourceIndex hb
  rw [heq, hget'] at hget
  cases hget
  exact (program?_eq_some hprogram).2.symm.trans (program?_eq_some hother).2

theorem frontsDiffer_universeLayout
    : (universeLayout (installTables p scene) u).FrontsDiffer := by
  intro a ha b hb hfront
  obtain ⟨ids, rfl, hids, ⟨id, hid⟩, hread⟩ := mem_contexts ha
  obtain ⟨others, rfl, hothers, ⟨other, hother⟩, hread'⟩ := mem_contexts hb
  rw [hid] at hids hread
  rw [hother] at hothers hread'
  obtain ⟨rest, hrest⟩ := dependencyWalk_head hids
  obtain ⟨rest', hrest'⟩ := dependencyWalk_head hothers
  have hsame : id = other := by
    apply sourceIndex_injective (resolved_installTables p scene)
      (hread id (by simp [hrest])) (hread' other (by simp [hrest']))
    rw [hid, hother, hrest, hrest', front_evaluationContext, front_evaluationContext] at hfront
    exact hfront
  rw [hid, hother, hsame]

-- A program of a plan and its master are linked there as they are in the walk.
theorem planMaster_sourceIndex {a b : Int32} {program : CompiledDmxSourceProgram}
    (ha : a ∈ (installTables p scene).readIds u) (hb : b ∈ (installTables p scene).readIds u)
    (hprogram : program? (installTables p scene).programs a = some program)
    (hnext : nextMaster program = b)
    : planMaster ((installTables p scene).planPrograms u)
          (sourceIndex ((installTables p scene).planPrograms u) a)
        = some (sourceIndex ((installTables p scene).planPrograms u) b) := by
  have hresolved := resolved_installTables p scene
  obtain ⟨found, hfound, hget⟩ := hresolved.sourceIndex ha
  obtain ⟨master, hmaster, hgetMaster⟩ := hresolved.sourceIndex hb
  rw [hprogram] at hfound
  cases hfound
  have hpos : 0 < b := pos_of_program? (hresolved.readIds hb)
  have hkind : program.activation.targetKind ≠ .listed .none := by
    intro hkind
    rw [← hnext, nextMaster, if_pos hkind] at hpos
    exact Int32.lt_irrefl hpos
  have hid : program.activation.masterProgramId = b := by
    rw [← hnext, nextMaster, if_neg hkind]
  unfold planMaster
  rw [hget]
  dsimp only
  rw [if_neg hkind, hid]
  unfold sourceIndex at hgetMaster ⊢
  cases hindex : List.findIdx? (fun program => program.programId == b)
      ((installTables p scene).planPrograms u) with
  | some index => rfl
  | none =>
    have hmem : master ∈ (installTables p scene).planPrograms u := List.mem_of_getElem? hgetMaster
    have hnone := List.findIdx?_eq_none_iff.mp hindex master hmem
    simp [(program?_eq_some hmaster).2] at hnone

theorem mem_activationReach_context {context : GoboEvaluationContext}
    (h : context ∈ (universeLayout (installTables p scene) u).contexts)
    : context.front ∈ context.sources ∧ ∀ source ∈ context.sources,
        source ∈ activationReach ((installTables p scene).planPrograms u) context.front := by
  obtain ⟨ids, rfl, hids, ⟨id, hid⟩, hread⟩ := mem_contexts h
  refine ⟨front_mem_evaluationContext hids, ?_⟩
  rw [hid] at hids
  obtain ⟨rest, hrest⟩ := dependencyWalk_head hids
  have hfront : (evaluationContext (installTables p scene).programs
      ((installTables p scene).planPrograms u) ids).front
        = sourceIndex ((installTables p scene).planPrograms u) id := by
    rw [hid, hrest, front_evaluationContext]
  rw [hfront]
  intro source hsource
  obtain ⟨other, hother, rfl⟩ := List.mem_map.mp hsource
  rw [mem_activationReach]
  have hself : id ∈ ids := by
    rw [hid, hrest]
    exact List.mem_cons_self
  obtain ⟨program, _, hget⟩ := (resolved_installTables p scene).sourceIndex (hread id hself)
  refine ⟨(List.getElem?_eq_some_iff.mp hget).1, ?_⟩
  rw [hid] at hother
  rcases dependencyWalk_links other hother with hnone | ⟨_, hchain⟩
  . cases hnone
  . rw [← hid] at hchain
    refine hchain.lift _ ?_
    rintro a b ⟨ha, hb, program, hprogram, hnext⟩
    exact planMaster_sourceIndex (hread a ha) (hread b hb) hprogram hnext

end Universe

end Peraviz.Runtime

/-! ### The schedule of the layers -/

namespace Peraviz.Runtime

/-- What an update relies on to keep the motions of a universe. -/
structure UniverseLayout.Moves (layout : UniverseLayout) : Prop where
  within : layout.Within layout.Covered
  fronts : layout.FrontsDiffer
  laidOut : layout.gobos.LaidOut
  targets : ∀ consumer ∈ layout.plan.consumers, consumer.domain = .goboMotion →
    ∃ motion ∈ layout.gobos.motionBindings, motion.binding.layer = consumer.target
  reaches : ∀ motion ∈ layout.gobos.motionBindings, motion.context.front ∈ motion.context.sources
    ∧ ∃ consumer ∈ layout.plan.consumers, consumer.domain = .goboMotion
      ∧ consumer.target = motion.binding.layer
      ∧ ∀ source ∈ motion.context.sources, source ∈ consumer.reaches

/-- Whether the bindings of a layer read a slot of the universe. -/
def UniverseLayout.ReadsSlot (layout : UniverseLayout) (layer : Int) : Prop :=
  ∃ motion ∈ layout.gobos.motionBindings, motion.binding.layer = layer
    ∧ ∃ source ∈ motion.context.sources, ∃ byte ∈ (layout.plan.program source).sources,
      IsSlot byte.address

/-! ### The layouts of an installation -/

section Install

variable {p : Platform} {scene : CompiledRuntimeScene} {u : Int32}

theorem domain_layerConsumers {planPrograms : List CompiledDmxSourceProgram}
    {domain : EvaluationDomain} {keys : List Int} {layers : Int → List Nat}
    {contexts : List GoboEvaluationContext} {consumer : EvaluationConsumer}
    (h : consumer ∈ layerConsumers planPrograms domain keys layers contexts)
    : consumer.domain = domain ∧ consumer.target ∈ keys := by
  obtain ⟨key, hkey, rfl⟩ := List.mem_map.mp h
  exact ⟨rfl, mem_sortUnique.mp hkey⟩

theorem layer_of_consumer {planPrograms : List CompiledDmxSourceProgram}
    {properties : List CompiledPropertyProgram} {colors : ColorLayout} {wheels : WheelLayout}
    {gobos : GoboLayout} {shutters : ShutterLayout} {shutterKeys : List Int}
    {consumer : EvaluationConsumer}
    (h : consumer ∈ consumersOf planPrograms properties colors wheels gobos shutters shutterKeys)
    (hdomain : consumer.domain = .goboMotion)
    : ∃ motion ∈ gobos.motionBindings, motion.binding.layer = consumer.target := by
  simp only [consumersOf, List.mem_append] at h
  rcases h with ((((hproperty | hcolor) | hwheel) | hgobo) | hmotion) | hshutter
  . obtain ⟨entry, _, rfl⟩ := List.mem_map.mp hproperty
    cases hdomain
  . obtain ⟨entry, _, rfl⟩ := List.mem_map.mp hcolor
    cases hdomain
  . obtain ⟨entry, _, rfl⟩ := List.mem_map.mp hwheel
    cases hdomain
  . rw [(domain_layerConsumers hgobo).1] at hdomain
    cases hdomain
  . obtain ⟨motion, hmem, heq⟩ := List.mem_map.mp (domain_layerConsumers hmotion).2
    exact ⟨motion, hmem, heq⟩
  . rw [(domain_layerConsumers hshutter).1] at hdomain
    cases hdomain

theorem laidOut_goboLayout (programs planPrograms : List CompiledDmxSourceProgram)
    (gobos : List (DependentBinding CompiledGoboSelectionBinding))
    (motions : List (DependentBinding CompiledGoboMotionBinding))
    : (goboLayout programs planPrograms gobos motions).LaidOut := by
  intro key index
  simp only [goboLayout, mem_indicesOf, List.getElem?_map, beq_iff_eq]
  constructor
  . intro ⟨motion, hmotion, hlayer⟩
    exact ⟨_, congrArg (Option.map _) hmotion, hlayer⟩
  . intro ⟨motion, hmotion, hlayer⟩
    obtain ⟨found, hfound, rfl⟩ := Option.map_eq_some_iff.mp hmotion
    exact ⟨found, hfound, hlayer⟩

theorem exists_motionConsumer {layout : GoboLayout} (hlayout : layout.LaidOut)
    (planPrograms : List CompiledDmxSourceProgram) {motion : GoboMotionRuntime}
    (hmotion : motion ∈ layout.motionBindings)
    : ∃ consumer ∈ layerConsumers planPrograms .goboMotion
          (layout.motionBindings.map (fun motion => motion.binding.layer)) layout.motionLayers
          (layout.motionBindings.map GoboMotionRuntime.context),
        consumer.domain = .goboMotion ∧ consumer.target = motion.binding.layer
          ∧ ∀ source ∈ activationReach planPrograms motion.context.front,
            source ∈ consumer.reaches := by
  refine ⟨_, List.mem_map_of_mem (mem_sortUnique.mpr (List.mem_map_of_mem hmotion)), rfl, rfl, ?_⟩
  intro source hsource
  obtain ⟨index, hindex⟩ := List.mem_iff_getElem?.mp hmotion
  apply List.mem_flatMap.mpr
  refine ⟨index, (hlayout _ index).mpr ⟨motion, hindex, rfl⟩, ?_⟩
  rw [List.getD_eq_getElem?_getD, List.getElem?_map, hindex]
  exact hsource

theorem moves_universeLayout : (universeLayout (installTables p scene) u).Moves where
  within := within_universeLayout (resolved_installTables p scene)
  fronts := frontsDiffer_universeLayout
  laidOut := laidOut_goboLayout _ _ _ _
  targets _ hconsumer hdomain := layer_of_consumer hconsumer hdomain
  reaches motion hmotion := by
    obtain ⟨hfront, hreach⟩ := mem_activationReach_context (UniverseLayout.mem_contexts_motion hmotion)
    obtain ⟨consumer, hconsumer, hdomain, htarget, hreaches⟩ := exists_motionConsumer
      (laidOut_goboLayout _ _ _ _) ((installTables p scene).planPrograms u) hmotion
    refine ⟨hfront, consumer, ?_, hdomain, htarget, ?_⟩
    . exact List.mem_append_left _ (List.mem_append_right _ hconsumer)
    . intro source hsource
      exact hreaches source (hreach source hsource)

end Install

/-! ### The layers that an update visits -/

variable {p : Platform} {layout : UniverseLayout} {frame : List UInt8} {s : UniverseState}

def UniverseLayout.dirtyLayers (layout : UniverseLayout) (w : EvaluationWorkspace) : List Int :=
  targetsIn .goboMotion (w.consumers.visit.map layout.plan.consumer)

theorem consumer_mem {plan : EvaluationPlan} {source c : Nat} (h : c ∈ plan.consumersOf source)
    : plan.consumer c ∈ plan.consumers ∧ source ∈ (plan.consumer c).reaches := by
  obtain ⟨hlt, hreaches⟩ := List.mem_filter.mp h
  refine ⟨?_, by simpa using hreaches⟩
  unfold EvaluationPlan.consumer
  rw [List.getD_eq_getElem?_getD, List.getElem?_eq_getElem (List.mem_range.mp hlt)]
  exact List.getElem_mem _

theorem mem_consumersOf_of_reaches {plan : EvaluationPlan} {source : Nat}
    {consumer : EvaluationConsumer} (hconsumer : consumer ∈ plan.consumers)
    (hreaches : source ∈ consumer.reaches)
    : ∃ c ∈ plan.consumersOf source, plan.consumer c = consumer := by
  obtain ⟨c, hc⟩ := List.mem_iff_getElem?.mp hconsumer
  have heq : plan.consumer c = consumer := by
    unfold EvaluationPlan.consumer
    rw [List.getD_eq_getElem?_getD, hc]
    rfl
  refine ⟨c, List.mem_filter.mpr ⟨?_, ?_⟩, heq⟩
  . exact List.mem_range.mpr (List.getElem?_eq_some_iff.mp hc).1
  . rw [heq]
    exact decide_eq_true hreaches

section Begun

variable {offsets : List Int32} {w w' : EvaluationWorkspace}
  (hbegun : EvaluationWorkspace.Begun layout.plan offsets w w') (hlayout : layout.Moves)
include hbegun hlayout

theorem motion_of_dirtyLayers {layer : Int} (h : layer ∈ layout.dirtyLayers w')
    : ∃ motion ∈ layout.gobos.motionBindings, motion.binding.layer = layer := by
  obtain ⟨consumer, hconsumer, hdomain, rfl⟩ := mem_targetsIn.mp h
  obtain ⟨c, hc, rfl⟩ := List.mem_map.mp hconsumer
  obtain ⟨source, _, hmem⟩ := (hbegun.consumers c).mp (OrderedDirtyIndices.mem_visit.mp hc)
  exact hlayout.targets _ (consumer_mem hmem).1 hdomain

theorem mem_dirtyLayers {motion : GoboMotionRuntime}
    (hmotion : motion ∈ layout.gobos.motionBindings) {source : Nat}
    (hsource : source ∈ motion.context.sources) (hmarked : w'.sourceChanged source = true)
    : motion.binding.layer ∈ layout.dirtyLayers w' := by
  obtain ⟨_, consumer, hconsumer, hdomain, htarget, hreaches⟩ := hlayout.reaches motion hmotion
  obtain ⟨c, hc, heq⟩ := mem_consumersOf_of_reaches hconsumer (hreaches source hsource)
  apply mem_targetsIn.mpr
  refine ⟨consumer, ?_, hdomain, htarget⟩
  rw [← heq]
  apply List.mem_map_of_mem
  apply OrderedDirtyIndices.mem_visit.mpr
  exact (hbegun.consumers c).mpr ⟨source, hmarked, hc⟩

end Begun

/-! ### What a scan depends on -/

theorem activation_congr {ctx ctx' : SourceContext} {context : GoboEvaluationContext}
    (h : ∀ source ∈ context.sources, ctx.value source = ctx'.value source)
    : ctx.activation context = ctx'.activation context := by
  unfold SourceContext.activation
  congr 1
  apply List.map_congr_left
  intro entry hentry
  rw [h entry.2 (List.of_mem_zip hentry).2]

theorem motionScan_congr {ctx ctx' : SourceContext} {gobos : GoboLayout} {layer : Int}
    (hplan : ctx.plan = ctx'.plan) (hlayout : gobos.LaidOut)
    (h : ∀ motion ∈ gobos.motionBindings, motion.binding.layer = layer →
      ctx.value motion.context.front = ctx'.value motion.context.front
        ∧ ∀ source ∈ motion.context.sources, ctx.value source = ctx'.value source)
    : ctx.motionScan gobos layer = ctx'.motionScan gobos layer := by
  unfold SourceContext.motionScan
  apply List.foldl_ext
  intro scan index hindex
  obtain ⟨motion, hmotion, hlayer⟩ := (hlayout layer index).mp hindex
  obtain ⟨hfront, hsources⟩ := h motion (List.mem_of_getElem? hmotion) hlayer
  unfold SourceContext.addMotion SourceContext.motionScalar
  rw [hmotion]
  dsimp only
  rw [hplan, hfront, activation_congr hsources]

/-! ### The bytes outside of a universe -/

theorem byteOf_of_not_slot (hlength : frame.length ≤ 512) {offset : Int32} (h : ¬ IsSlot offset)
    : byteOf frame offset = 0 := by
  apply byteOf_of_none
  unfold frameByte
  split
  next hnonneg =>
    apply List.getElem?_eq_none
    have hlarge : 512 ≤ offset := by
      apply Int32.not_lt.mp
      intro hlt
      exact h ⟨hnonneg, hlt⟩
    rw [Int32.le_iff_toInt_le] at hlarge
    change 512 ≤ offset.toInt at hlarge
    omega
  . rfl

-- A source that is not marked has the value on the new frame that it had on the one before.
theorem value_of_unmarked {w' : EvaluationWorkspace} (hrelevant : Relevant layout frame s)
    (hlength : frame.length ≤ 512) (hlatest : s.latestFrame.length ≤ 512)
    (hbegun : EvaluationWorkspace.Begun layout.plan
      (discoverOffsets layout.interestOffsets s).changedOffsets s.workspace w')
    {source : Nat} (hcovered : layout.Covered source) (hunmarked : w'.sourceChanged source = false)
    : SourceContext.value ⟨p, frame, layout.plan⟩ source
        = SourceContext.value ⟨p, s.latestFrame, layout.plan⟩ source := by
  apply value_congr
  intro byte hbyte
  by_cases hslot : IsSlot byte.address
  . refine (hrelevant.of_not_changed (hcovered byte hbyte) ?_).2
    intro hchanged
    rw [changed_of_byte hbegun hbyte hslot hchanged] at hunmarked
    cases hunmarked
  . rw [byteOf_of_not_slot hlength hslot, byteOf_of_not_slot hlatest hslot]

end Peraviz.Runtime
