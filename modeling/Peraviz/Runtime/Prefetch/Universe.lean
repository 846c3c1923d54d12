import Peraviz.Runtime.Prefetch.Slots

/-!
This module contains one universe in two runtimes, one of them with workers. After every consume the
universe holds the same in both of them, its cache aside.
-/

namespace Peraviz.Runtime

/-- A layout that workers may evaluate ahead: the marks of an update tell what its colors read. -/
structure UniverseLayout.Prefetchable (layout : UniverseLayout) : Prop where
  sound : layout.Sound
  ordered : layout.plan.consumers.Pairwise (fun a b =>
    a.domain = .color → b.domain = .color → a.index < b.index)
  reached : ∀ (index : Nat) (target : ColorTargetRuntime),
    layout.colors.targets[index]? = some target → ∀ input ∈ target.inputs,
      ∃ c ∈ layout.plan.consumersOf input.source,
        (layout.plan.consumer c).domain = .color ∧ (layout.plan.consumer c).index = index
  reads : ∀ target ∈ layout.colors.targets, ∀ input ∈ target.inputs,
    (layout.plan.program input.source).sources ≠ []

/-- The state of a universe once an update has begun. -/
def UniverseLayout.begun (layout : UniverseLayout) (s : UniverseState) : UniverseState :=
  beginUniverseUpdate layout.plan (discoverOffsets layout.interestOffsets s)

variable {p : Platform} {layout : UniverseLayout} {frame : List UInt8} {s t : UniverseState}

/-! ### One cache over its updates -/

structure Settled (p : Platform) (layout : UniverseLayout) (frame : List UInt8)
    (s : UniverseState) : Prop where
  relevant : Relevant layout frame s
  cached : Cached ⟨p, frame, layout.plan⟩ layout.Covered s.workspace

namespace Settled

theorem taken (h : Settled p layout frame s)
    : Settled p layout frame { s with hasPendingFrame := false } :=
  ⟨⟨h.relevant.values, h.relevant.fresh⟩, h.cached⟩

theorem relevant_discovered (h : Settled p layout frame s)
    : Relevant layout s.latestFrame (discoverOffsets layout.interestOffsets s) := by
  constructor
  . intro _
    exact h.relevant.discoverOffsets
  . intro hnone
    cases hnone

theorem begun (hlayout : layout.Sound) (h : Settled p layout frame s)
    : Settled p layout s.latestFrame (layout.begun s) := by
  have hbegun := h.cached.stamped.beginUpdate layout.plan
    (discoverOffsets layout.interestOffsets s).changedOffsets
  refine ⟨⟨h.relevant_discovered.values, ?_⟩, ?_, hbegun.stamped⟩
  . intro hnone
    cases hnone
  . intro source hcovered hvalid
    have hinvalid := hbegun.invalid source
    change (s.workspace.beginUpdate layout.plan _).invalid source = false at hvalid
    rw [hvalid] at hinvalid
    simp only [Bool.false_eq_true, false_iff, not_or, Bool.not_eq_true] at hinvalid
    change (s.workspace.beginUpdate layout.plan _).values source = _
    rw [hbegun.values, h.cached.values source hcovered hinvalid.1]
    apply h.relevant.value_eq hcovered
    intro byte hbyte hchanged
    have hmarked := changed_of_byte hbegun hbyte (hlayout.inRange _ (hcovered byte hbyte)) hchanged
    rw [hmarked] at hinvalid
    cases hinvalid.2

theorem unchanged (h : Settled p layout frame s)
    (hchanged : (discoverOffsets layout.interestOffsets s).changedOffsets = [])
    : Settled p layout s.latestFrame (discoverOffsets layout.interestOffsets s) := by
  refine ⟨h.relevant_discovered, ?_, h.cached.stamped⟩
  intro source hcovered hvalid
  refine (h.cached.values source hcovered hvalid).trans ?_
  apply h.relevant.value_eq hcovered
  intro byte _
  rw [hchanged]
  exact List.not_mem_nil

end Settled

theorem sameUpdate_of_begun {plan : EvaluationPlan} {offsets : List Int32}
    {w w' v v' : EvaluationWorkspace} (hw : EvaluationWorkspace.Begun plan offsets w w')
    (hv : EvaluationWorkspace.Begun plan offsets v v')
    : SameUpdate w'.sourceChanged w'.consumers.visit w' v' := by
  have hmarks : v'.sourceChanged = w'.sourceChanged := by
    funext source
    rw [Bool.eq_iff_iff, hv.changed, hw.changed]
  refine ⟨⟨rfl, rfl⟩, ⟨hmarks, ?_⟩, ?_, ?_⟩
  . refine @List.Perm.eq_of_pairwise _ (fun a b => a < b) _ _ ?_
      (OrderedDirtyIndices.visit_ascending hv.nodup)
      (OrderedDirtyIndices.visit_ascending hw.nodup) ?_
    . intro a b _ _ hab hba
      exact absurd hab (Nat.lt_asymm hba)
    . apply (List.perm_insertionSort _ _).trans
      refine List.Perm.trans ?_ (List.perm_insertionSort _ _).symm
      rw [List.perm_ext_iff_of_nodup hv.nodup hw.nodup]
      intro c
      rw [hv.consumers, hw.consumers, hmarks]
  . funext source
    rw [hv.activationCached, hw.activationCached]
  . intro source hcached
    rw [hw.activationCached] at hcached
    cases hcached

/-! ### The inputs of the colors -/

def ColorLayout.Initialized (layout : ColorLayout) (inputs : ColorInputs) : Prop :=
  ∀ (index : Nat) (target : ColorTargetRuntime), layout.targets[index]? = some target →
    ∀ entry ∈ target.inputs.zipIdx, (inputs index entry.2).initialized = true

/-- The inputs have their values from the first update on. -/
def InitializedOnce (layout : UniverseLayout) (s : UniverseState) : Prop :=
  s.hasLastRelevantValues = true → layout.colors.Initialized s.colorInputs

theorem mem_inputs_of_mem_zipIdx {target : ColorTargetRuntime} {entry : ColorInputRuntime × Nat}
    (h : entry ∈ target.inputs.zipIdx) : entry.1 ∈ target.inputs :=
  List.mem_of_getElem? (List.mem_zipIdx_iff_getElem?.mp h)

-- An input without a value is one whose source has a byte that is found changed.
theorem initialized_or_changed (hlayout : layout.Prefetchable) (h : InitializedOnce layout s)
    {index : Nat} {target : ColorTargetRuntime}
    (htarget : layout.colors.targets[index]? = some target) {entry : ColorInputRuntime × Nat}
    (hentry : entry ∈ target.inputs.zipIdx)
    : (s.colorInputs index entry.2).initialized = true
        ∨ ∃ byte ∈ (layout.plan.program entry.1.source).sources,
          byte.address ∈ layout.interestOffsets
            ∧ byte.address ∈ (discoverOffsets layout.interestOffsets s).changedOffsets := by
  cases hhas : s.hasLastRelevantValues with
  | true => exact Or.inl (h hhas index target htarget entry hentry)
  | false =>
    have hmem := List.mem_of_getElem? htarget
    have hinput := mem_inputs_of_mem_zipIdx hentry
    obtain ⟨byte, hbyte⟩ := List.exists_mem_of_ne_nil _ (hlayout.reads target hmem entry.1 hinput)
    have hinterest := hlayout.sound.within.colors target hmem entry.1 hinput byte hbyte
    refine Or.inr ⟨byte, hbyte, hinterest, ?_⟩
    simp [discoverOffsets, hinterest, hhas]

theorem initialized_of_unchanged (hlayout : layout.Prefetchable) (h : InitializedOnce layout s)
    (hchanged : (discoverOffsets layout.interestOffsets s).changedOffsets = [])
    : layout.colors.Initialized s.colorInputs := by
  intro index target htarget entry hentry
  rcases initialized_or_changed hlayout h htarget hentry with hvalue | ⟨byte, _, _, hbyte⟩
  . exact hvalue
  . rw [hchanged] at hbyte
    cases hbyte

theorem readyInputs_of_begun (hlayout : layout.Prefetchable) (h : InitializedOnce layout s)
    {w w' : EvaluationWorkspace}
    (hbegun : EvaluationWorkspace.Begun layout.plan
      (discoverOffsets layout.interestOffsets s).changedOffsets w w')
    {index : Nat} {target : ColorTargetRuntime}
    (htarget : layout.colors.targets[index]? = some target)
    : ParallelEvaluationPrefetch.ReadyInputs w'.sourceChanged (s.colorInputs index) target := by
  intro entry hentry
  rcases initialized_or_changed hlayout h htarget hentry
    with hvalue | ⟨byte, hbyte, hinterest, hchanged⟩
  . exact Or.inl hvalue
  . exact Or.inr (changed_of_byte hbegun hbyte (hlayout.sound.inRange _ hinterest) hchanged)

theorem pairwise_indicesIn (hlayout : layout.Prefetchable) {visited : List Nat}
    (h : visited.Pairwise (fun a b => a < b))
    : (indicesIn .color (visited.map layout.plan.consumer)).Pairwise (fun a b => a < b) := by
  unfold indicesIn
  rw [List.pairwise_map, List.pairwise_filter, List.pairwise_map]
  apply h.imp
  intro a b hab ha hb
  rw [beq_iff_eq] at ha hb
  have hlt : b < layout.plan.consumers.length := by
    by_contra hge
    simp [EvaluationPlan.consumer, List.getD_eq_getElem?_getD,
      List.getElem?_eq_none (Nat.le_of_not_lt hge)] at hb
  have hordered := List.pairwise_iff_getElem.mp hlayout.ordered a b (Nat.lt_trans hab hlt) hlt hab
  simp only [EvaluationPlan.consumer, List.getD_eq_getElem?_getD,
    List.getElem?_eq_getElem hlt, List.getElem?_eq_getElem (Nat.lt_trans hab hlt),
    Option.getD_some] at ha hb ⊢
  exact hordered ha hb

-- A target that is not visited has no input whose source is marked.
theorem initialized_of_refreshed (hlayout : layout.Prefetchable) {offsets : List Int32}
    {w w' : EvaluationWorkspace} (hbegun : EvaluationWorkspace.Begun layout.plan offsets w w')
    {inputs inputs' : ColorInputs}
    (hready : ∀ (index : Nat) (target : ColorTargetRuntime),
      layout.colors.targets[index]? = some target →
        ParallelEvaluationPrefetch.ReadyInputs w'.sourceChanged (inputs index) target)
    (hrefreshed : Refreshed layout.colors
      (indicesIn .color (w'.consumers.visit.map layout.plan.consumer)) inputs inputs')
    : layout.colors.Initialized inputs' := by
  intro index target htarget entry hentry
  by_cases hindex : index ∈ indicesIn .color (w'.consumers.visit.map layout.plan.consumer)
  . exact hrefreshed.visited index hindex target htarget entry hentry
  . rw [hrefreshed.others index hindex]
    rcases hready index target htarget entry hentry with hvalue | hmarked
    . exact hvalue
    . obtain ⟨c, hc, hdomain, hat⟩ := hlayout.reached index target htarget entry.1
        (mem_inputs_of_mem_zipIdx hentry)
      refine absurd ?_ hindex
      unfold indicesIn
      rw [List.mem_map]
      refine ⟨layout.plan.consumer c, ?_, hat⟩
      rw [List.mem_filter, List.mem_map]
      refine ⟨⟨c, ?_, rfl⟩, by rw [hdomain]; rfl⟩
      rw [OrderedDirtyIndices.mem_visit, hbegun.consumers]
      exact ⟨entry.1.source, hmarked, hc⟩

/-! ### Two runtimes -/

/-- Two states of a universe that differ in their caches only. -/
structure StatePair (p : Platform) (layout : UniverseLayout) (frame : List UInt8)
    (s t : UniverseState) : Prop where
  latestFrame : t.latestFrame = s.latestFrame
  hasPendingFrame : t.hasPendingFrame = s.hasPendingFrame
  lastRelevantValues : t.lastRelevantValues = s.lastRelevantValues
  hasLastRelevantValues : t.hasLastRelevantValues = s.hasLastRelevantValues
  colorInputs : t.colorInputs = s.colorInputs
  left : Settled p layout frame s
  right : Settled p layout frame t
  initialized : InitializedOnce layout s

structure UniversePair (p : Platform) (frame : List UInt8) (u v : Universe) : Prop where
  layout : v.layout = u.layout
  prefetchable : u.layout.Prefetchable
  state : StatePair p u.layout frame u.state v.state

/-- What the slots tell a universe whose inputs are prepared. -/
structure Offers (p : Platform) (d : Definitions) (prefetch : ParallelEvaluationPrefetch)
    (v : Universe) : Prop where
  inputsPrepared : prefetch.inputsPrepared v.layout.universeId = v.state.hasPendingFrame
  sources : ∀ slots, prefetch.slotsOf v.layout.universeId = some slots →
    ∀ source slot, slots.source? source = some slot →
      slot.value = (ParallelEvaluationPrefetch.sourceContext p v).value source
  colors : v.state.hasPendingFrame = true →
    ∀ slots, prefetch.slotsOf v.layout.universeId = some slots →
      ∀ marks, ParallelEvaluationPrefetch.Ready marks v →
        slots.Serves (ParallelEvaluationPrefetch.sourceContext p v) marks d v.layout.colors
          v.state.colorInputs v.dirtyColors

namespace StatePair

theorem taken (h : StatePair p layout frame s t)
    : StatePair p layout frame { s with hasPendingFrame := false }
        { t with hasPendingFrame := false } :=
  ⟨h.latestFrame, rfl, h.lastRelevantValues, h.hasLastRelevantValues, h.colorInputs, h.left.taken,
    h.right.taken, h.initialized⟩

theorem changedOffsets (h : StatePair p layout frame s t)
    : (discoverOffsets layout.interestOffsets t).changedOffsets
        = (discoverOffsets layout.interestOffsets s).changedOffsets := by
  simp only [discoverOffsets, h.latestFrame, h.lastRelevantValues, h.hasLastRelevantValues]

theorem discovered (h : StatePair p layout frame s t)
    : (discoverOffsets layout.interestOffsets t).lastRelevantValues
        = (discoverOffsets layout.interestOffsets s).lastRelevantValues := by
  simp only [discoverOffsets, h.latestFrame, h.lastRelevantValues, h.hasLastRelevantValues]

theorem unchangedSerial (hlayout : layout.Prefetchable) (h : StatePair p layout frame s t)
    (hchanged : (discoverOffsets layout.interestOffsets s).changedOffsets = [])
    : StatePair p layout s.latestFrame (discoverOffsets layout.interestOffsets s)
        (discoverOffsets layout.interestOffsets t) := by
  have hinitialized := initialized_of_unchanged hlayout h.initialized hchanged
  refine ⟨h.latestFrame, h.hasPendingFrame, h.discovered, rfl, h.colorInputs,
    h.left.unchanged hchanged, ?_, fun _ => hinitialized⟩
  rw [← h.latestFrame]
  exact h.right.unchanged (h.changedOffsets.trans hchanged)

-- The side with workers begins an update even where nothing has changed.
theorem unchanged (hlayout : layout.Prefetchable) (h : StatePair p layout frame s t)
    (hchanged : (discoverOffsets layout.interestOffsets s).changedOffsets = [])
    : StatePair p layout s.latestFrame (discoverOffsets layout.interestOffsets s)
        (layout.begun t) := by
  have hinitialized := initialized_of_unchanged hlayout h.initialized hchanged
  refine ⟨h.latestFrame, h.hasPendingFrame, h.discovered, rfl, h.colorInputs,
    h.left.unchanged hchanged, ?_, fun _ => hinitialized⟩
  rw [← h.latestFrame]
  exact h.right.begun hlayout.sound

theorem sameUpdate (h : StatePair p layout frame s t)
    : SameUpdate (layout.begun s).workspace.sourceChanged
        (layout.begun s).workspace.consumers.visit (layout.begun s).workspace
        (layout.begun t).workspace := by
  have hs := h.left.cached.stamped.beginUpdate layout.plan
    (discoverOffsets layout.interestOffsets s).changedOffsets
  have ht := h.right.cached.stamped.beginUpdate layout.plan
    (discoverOffsets layout.interestOffsets t).changedOffsets
  have heq := h.changedOffsets
  unfold UniverseLayout.begun beginUniverseUpdate
  rw [heq] at ht ⊢
  exact sameUpdate_of_begun hs ht

end StatePair

open ParallelEvaluationPrefetch in
theorem StatePair.ready (h : StatePair p layout frame s t) (hlayout : layout.Prefetchable)
    : Ready (layout.begun s).workspace.sourceChanged ⟨layout, layout.begun t⟩ := by
  have hbegun := h.right.cached.stamped.beginUpdate layout.plan
    (discoverOffsets layout.interestOffsets t).changedOffsets
  have hinitialized : InitializedOnce layout t := by
    unfold InitializedOnce
    rw [h.hasLastRelevantValues, h.colorInputs]
    exact h.initialized
  rw [← h.sameUpdate.right.marks]
  constructor
  . exact hbegun.changedSources
  . intro index target htarget input hinput
    obtain ⟨c, hc, _⟩ := hlayout.reached index target htarget input hinput
    exact List.ne_nil_of_mem hc
  . intro index target htarget
    exact readyInputs_of_begun hlayout hinitialized hbegun htarget

namespace StatePair

theorem agrees (hlayout : layout.Sound) (h : StatePair p layout frame s t) (c c' : ConsumeState)
    : PrefetchAgrees ⟨p, s.latestFrame, layout.plan⟩ layout.Covered
        (layout.begun s).workspace.sourceChanged (layout.begun s).workspace.consumers.visit
        (evaluationState c (layout.begun s)) (evaluationState c' (layout.begun t)) := by
  have hright := h.right.begun hlayout
  rw [h.latestFrame] at hright
  exact ⟨(h.left.begun hlayout).cached, hright.cached, h.sameUpdate⟩

end StatePair

theorem ConsumeTwins.runPrepared {c c' : ConsumeState} (hc : ConsumeTwins c c')
    (hlayout : layout.Prefetchable) (h : StatePair p layout frame s t) {d : Definitions}
    {prepared : Option PreparedSlots}
    (hsources : ∀ slots, prepared = some slots → ∀ source slot, slots.source? source = some slot →
      slot.value = SourceContext.value ⟨p, s.latestFrame, layout.plan⟩ source)
    (hserves : ∀ slots, prepared = some slots →
      slots.Serves ⟨p, s.latestFrame, layout.plan⟩ (layout.begun s).workspace.sourceChanged d
        layout.colors s.colorInputs (Universe.dirtyColors ⟨layout, layout.begun s⟩))
    (now : ℚ)
    : ConsumeTwins (Runtime.runDomains p d none now c ⟨layout, layout.begun s⟩).1
          (Runtime.runDomains p d prepared now c' ⟨layout, layout.begun t⟩).1
        ∧ UniversePair p s.latestFrame
          (Runtime.runDomains p d none now c ⟨layout, layout.begun s⟩).2
          (Runtime.runDomains p d prepared now c' ⟨layout, layout.begun t⟩).2 := by
  have hbegun := h.left.cached.stamped.beginUpdate layout.plan
    (discoverOffsets layout.interestOffsets s).changedOffsets
  have hascending := pairwise_indicesIn hlayout
    (OrderedDirtyIndices.visit_ascending hbegun.nodup)
  have hcoupled := PrefetchAgrees.updateDomains hlayout.sound.within d now c.held s.colorInputs c.frame
    hsources hserves hascending _ _ (h.agrees hlayout.sound c c')
  have hlatest : (layout.begun t).latestFrame = s.latestFrame := h.latestFrame
  have hcolors : (layout.begun t).colorInputs = s.colorInputs := h.colorInputs
  have hlatest' : (layout.begun s).latestFrame = s.latestFrame := rfl
  have hcolors' : (layout.begun s).colorInputs = s.colorInputs := rfl
  unfold Runtime.runDomains
  simp only [hlatest, hcolors, hlatest', hcolors', hc.held, hc.frame] at hcoupled ⊢
  generalize updateDomains _ _ _ none _ _ _ _ _ _ = left at hcoupled ⊢
  generalize updateDomains _ _ _ prepared _ _ _ _ _ _ = right at hcoupled ⊢
  obtain ⟨update, s'⟩ := left
  obtain ⟨update', t'⟩ := right
  obtain ⟨⟨heq, hrefreshed⟩, hcaches⟩ := hcoupled
  simp only at heq
  subst heq
  have hready (index : Nat) (target : ColorTargetRuntime)
      (htarget : layout.colors.targets[index]? = some target) :=
    readyInputs_of_begun hlayout h.initialized hbegun htarget
  have hinitialized := initialized_of_refreshed hlayout hbegun hready hrefreshed
  have hrelevant := h.right.relevant_discovered
  rw [h.latestFrame] at hrelevant
  refine ⟨⟨rfl, rfl, by simp only [hc.emission]⟩, rfl, hlayout, ?_⟩
  refine ⟨rfl, h.hasPendingFrame, h.discovered, rfl, rfl,
    ⟨⟨h.left.relevant_discovered.values, ?_⟩, hcaches.left⟩,
    ⟨⟨hrelevant.values, ?_⟩, hcaches.right⟩, fun _ => hinitialized⟩
  . intro hnone
    cases hnone
  . intro hnone
    cases hnone

theorem consumeUniverse_of_pending {d : Definitions} {now : ℚ} {c : ConsumeState}
    (hpending : s.hasPendingFrame = true)
    : consumeUniverse p d now c ⟨layout, s⟩
        = if (discoverOffsets layout.interestOffsets
              { s with hasPendingFrame := false }).changedOffsets.isEmpty then
            (c, ⟨layout, discoverOffsets layout.interestOffsets
              { s with hasPendingFrame := false }⟩)
          else
            runDomains p d none now c ⟨layout, layout.begun { s with hasPendingFrame := false }⟩ := by
  simp only [consumeUniverse, hpending]
  rfl

-- Either nothing is found changed on both sides, or both of them run their domains.
theorem ConsumeTwins.consumePair {c c' : ConsumeState} (hc : ConsumeTwins c c')
    (hlayout : layout.Prefetchable) (h : StatePair p layout frame s t) {d : Definitions}
    {prepared : Option PreparedSlots}
    (hsources : ∀ slots, prepared = some slots → ∀ source slot, slots.source? source = some slot →
      slot.value = SourceContext.value ⟨p, s.latestFrame, layout.plan⟩ source)
    (hserves : ∀ slots, prepared = some slots →
      slots.Serves ⟨p, s.latestFrame, layout.plan⟩ (layout.begun s).workspace.sourceChanged d
        layout.colors s.colorInputs (Universe.dirtyColors ⟨layout, layout.begun s⟩))
    {t' : UniverseState}
    (hunchanged : (discoverOffsets layout.interestOffsets s).changedOffsets = [] →
      StatePair p layout s.latestFrame (discoverOffsets layout.interestOffsets s) t')
    {left right : ConsumeState × Universe} {now : ℚ}
    (hleft : left = if (discoverOffsets layout.interestOffsets s).changedOffsets.isEmpty then
        (c, ⟨layout, discoverOffsets layout.interestOffsets s⟩)
      else
        Runtime.runDomains p d none now c ⟨layout, layout.begun s⟩)
    (hright : right = if (discoverOffsets layout.interestOffsets t).changedOffsets.isEmpty then
        (c', ⟨layout, t'⟩)
      else
        Runtime.runDomains p d prepared now c' ⟨layout, layout.begun t⟩)
    : ConsumeTwins left.1 right.1 ∧ UniversePair p s.latestFrame left.2 right.2 := by
  rw [hleft, hright, h.changedOffsets]
  split
  . next hnone => exact ⟨hc, rfl, hlayout, hunchanged (List.isEmpty_iff.mp hnone)⟩
  . exact ConsumeTwins.runPrepared hc hlayout h hsources hserves now

namespace UniversePair

variable {u v : Universe} {c c' : ConsumeState} {d : Definitions}

-- Without workers neither side prepares its inputs.
theorem consumeSerial (h : UniversePair p frame u v) (hc : ConsumeTwins c c') (now : ℚ)
    : ConsumeTwins (Runtime.consumeUniverse p d now c u).1
          (Runtime.consumeUniverse p d now c' v).1
        ∧ UniversePair p (processedFrame u frame) (Runtime.consumeUniverse p d now c u).2
          (Runtime.consumeUniverse p d now c' v).2 := by
  obtain ⟨ulayout, s⟩ := u
  obtain ⟨vlayout, t⟩ := v
  obtain ⟨hlayout, hprefetchable, hstate⟩ := h
  simp only at hlayout
  subst hlayout
  have hpending : t.hasPendingFrame = s.hasPendingFrame := hstate.hasPendingFrame
  cases hp : s.hasPendingFrame with
  | false =>
    rw [hp] at hpending
    simp only [Runtime.consumeUniverse, processedFrame, hp, hpending]
    exact ⟨hc, rfl, hprefetchable, hstate⟩
  | true =>
    rw [hp] at hpending
    have hframe : processedFrame ⟨vlayout, s⟩ frame = s.latestFrame := if_pos hp
    rw [hframe]
    refine hc.consumePair hprefetchable hstate.taken ?_ ?_
      (hstate.taken.unchangedSerial hprefetchable) (consumeUniverse_of_pending hp)
      (consumeUniverse_of_pending hpending)
    . intro slots hslots
      cases hslots
    . intro slots hslots
      cases hslots

theorem consumePrepared (h : UniversePair p frame u v) (hc : ConsumeTwins c c')
    {prefetch : ParallelEvaluationPrefetch}
    (hoffers : Offers p d prefetch (ParallelEvaluationPrefetch.prepareUniverse v)) (now : ℚ)
    : ConsumeTwins (Runtime.consumeUniverse p d now c u).1
          (prefetch.consumeUniverse p d now c'
            (ParallelEvaluationPrefetch.prepareUniverse v)).1
        ∧ UniversePair p (processedFrame u frame) (Runtime.consumeUniverse p d now c u).2
          (prefetch.consumeUniverse p d now c'
            (ParallelEvaluationPrefetch.prepareUniverse v)).2 := by
  obtain ⟨ulayout, s⟩ := u
  obtain ⟨vlayout, t⟩ := v
  obtain ⟨hlayout, hprefetchable, hstate⟩ := h
  simp only at hlayout
  subst hlayout
  have hpending : t.hasPendingFrame = s.hasPendingFrame := hstate.hasPendingFrame
  cases hp : s.hasPendingFrame with
  | false =>
    rw [hp] at hpending
    have hprepare : ParallelEvaluationPrefetch.prepareUniverse ⟨vlayout, t⟩ = ⟨vlayout, t⟩ := by
      simp [ParallelEvaluationPrefetch.prepareUniverse, hpending]
    rw [hprepare]
    simp only [Runtime.consumeUniverse, ParallelEvaluationPrefetch.consumeUniverse, processedFrame,
      hp, hpending]
    exact ⟨hc, rfl, hprefetchable, hstate⟩
  | true =>
    rw [hp] at hpending
    have hprepare : ParallelEvaluationPrefetch.prepareUniverse ⟨vlayout, t⟩
        = ⟨vlayout, vlayout.begun t⟩ := by
      simp only [ParallelEvaluationPrefetch.prepareUniverse, hpending, if_true]
      rfl
    have hframe : processedFrame ⟨vlayout, s⟩ frame = s.latestFrame := if_pos hp
    rw [hprepare] at hoffers ⊢
    rw [hframe]
    have hinputs : prefetch.inputsPrepared vlayout.universeId = true :=
      hoffers.inputsPrepared.trans hpending
    have hpending' : (vlayout.begun t).hasPendingFrame = true := hpending
    have hlatest : (vlayout.begun t).latestFrame = s.latestFrame := hstate.latestFrame
    have hcolors : (vlayout.begun t).colorInputs = s.colorInputs := hstate.colorInputs
    have hdirty : Universe.dirtyColors ⟨vlayout, vlayout.begun t⟩
        = Universe.dirtyColors ⟨vlayout, vlayout.begun s⟩ := by
      unfold Universe.dirtyColors
      rw [hstate.sameUpdate.right.visit]
    have hsources := hoffers.sources
    have hserves := hoffers.colors hpending
    simp only [ParallelEvaluationPrefetch.sourceContext, hlatest, hcolors, hdirty]
      at hsources hserves
    refine hc.consumePair hprefetchable hstate.taken hsources ?_
      (hstate.taken.unchanged hprefetchable) (consumeUniverse_of_pending hp) ?_
    . intro slots hslots
      exact hserves slots hslots _ (hstate.ready hprefetchable)
    . simp only [ParallelEvaluationPrefetch.consumeUniverse, hpending', hinputs]
      rfl

end UniversePair

end Peraviz.Runtime
