import Peraviz.Runtime.Motion.Contexts

/-!
This module contains the motions of one universe over a consume: a layer that is visited is updated
by its scan on the new frame, and one that is not would be left as it is by that scan.
-/

namespace Peraviz.Runtime

/-- A universe whose caches are those of `frame`, which was processed last. -/
structure UniverseState.Current (p : Platform) (layout : UniverseLayout) (frame : List UInt8)
    (s : UniverseState) : Prop where
  relevant : Relevant layout frame s
  coherent : Coherent ⟨p, frame, layout.plan⟩ layout.Covered s.evaluation
  evaluated : frame.length ≤ 512
  received : s.latestFrame.length ≤ 512
  has : s.hasLastRelevantValues = true ↔ frame ≠ []
  pending : s.hasPendingFrame = true → s.latestFrame ≠ []

def UniverseLayout.scan (layout : UniverseLayout) (p : Platform) (frame : List UInt8)
    (layer : Int) : MotionScan :=
  SourceContext.motionScan ⟨p, frame, layout.plan⟩ layout.gobos layer

/-- The updates of the layers of a universe on a frame. -/
def UniverseLayout.moveLayers (layout : UniverseLayout) (p : Platform) (frame : List UInt8)
    (now : ℚ) (keys : List Int) (states : Int → GoboRotationState)
    : (Int → GoboRotationState) × List GoboRotationRow :=
  keys.foldl (SourceContext.stepMotion ⟨p, frame, layout.plan⟩ layout.gobos now) (states, [])

variable {p : Platform} {d : Definitions} {now : ℚ} {layout : UniverseLayout} {frame : List UInt8}

/-! ### The domains of an update -/

theorem updateDomains_motions (hlayout : layout.Moves) {s : EvaluationState}
    (h : Exact ⟨p, frame, layout.plan⟩ layout s) (held : HeldState) (colorInputs : ColorInputs)
    (out : SectionedVisualFrame)
    : let update := (updateDomains p d layout none now frame held colorInputs out s).1
      (update.held.gobos.rotationStateByLayer, update.emission.goboRotationRows)
        = layout.moveLayers p frame now (layout.dirtyLayers s.workspace)
          held.gobos.rotationStateByLayer := by
  let dirty := s.workspace.consumers.visit.map layout.plan.consumer
  let ctx : SourceContext := ⟨p, frame, layout.plan⟩
  let shutters := ctx.evaluateShutters layout.shutters now held.shutters out
    (targetsIn .shutter dirty) s
  let gobos := ctx.updateGoboSelections layout.gobos d.goboAsset held.gobos
    (targetsIn .goboSelection dirty) shutters.2
  have hshutters : Exact ctx layout shutters.2 :=
    (exact_evaluateShutters hlayout.within hlayout.fronts now held.shutters out _ s h).2
  obtain ⟨hgobos, hexact⟩ := exact_updateGoboSelections hlayout.within hlayout.fronts d.goboAsset
    held.gobos (targetsIn .goboSelection dirty) shutters.2 hshutters
  have hmotions := (exact_updateGoboMotions hlayout.within hlayout.fronts now gobos.1.1
    (layout.dirtyLayers s.workspace) gobos.2 hexact).1
  have hinject (f : Unit → EvalM UniverseUpdate) : (injectSources none >>= f) s = f () s := by
    change f (injectSources none s).1 (injectSources none s).2 = _
    rw [injectSources_none]
  unfold updateDomains
  rw [hinject]
  unfold UniverseLayout.moveLayers
  rw [← hgobos]
  exact hmotions

theorem Coherent.updateDomains (hlayout : layout.Within layout.Covered) {s : EvaluationState}
    (h : Coherent ⟨p, frame, layout.plan⟩ layout.Covered s) (held : HeldState)
    (colorInputs : ColorInputs) (out : SectionedVisualFrame)
    : Coherent ⟨p, frame, layout.plan⟩ layout.Covered
        (updateDomains p d layout none now frame held colorInputs out s).2 :=
  (Twins.alike.updateDomains hlayout d now held colorInputs out s s
    ⟨h, h, ⟨rfl, rfl, rfl, rfl, rfl⟩⟩).2.left

/-! ### The motions of a universe -/

/-- What a consume makes of the motions, in a universe that has processed `next` after `frame`. -/
structure MovesTo (p : Platform) (now : ℚ) (layout : UniverseLayout) (frame next : List UInt8)
    (c c' : ConsumeState) (keys : List Int) : Prop where
  known : ∀ key ∈ keys, ∃ motion ∈ layout.gobos.motionBindings, motion.binding.layer = key
  visited : keys ≠ [] → next ≠ []
  kept : frame ≠ [] → next ≠ []
  states : c'.held.gobos.rotationStateByLayer
    = (layout.moveLayers p next now keys c.held.gobos.rotationStateByLayer).1
  rows : c'.emission.goboRotationRows = c.emission.goboRotationRows
    ++ (layout.moveLayers p next now keys c.held.gobos.rotationStateByLayer).2
  skipped : ∀ layer ∉ keys, frame ≠ [] → layout.scan p next layer = layout.scan p frame layer
  untouched : ∀ layer ∉ keys, frame = [] → next ≠ [] → ¬ layout.ReadsSlot layer

theorem MovesTo.refl (frame : List UInt8) (c : ConsumeState)
    : MovesTo p now layout frame frame c c [] where
  known := by simp
  visited := by simp
  kept := id
  states := rfl
  rows := (List.append_nil _).symm
  skipped := fun _ _ _ => rfl
  untouched := fun _ _ hnil hne => absurd hnil hne

section Scan

variable {s : UniverseState} {next : List UInt8} {layer : Int}

theorem scan_eq_of_values (hlayout : layout.Moves)
    (h : ∀ motion ∈ layout.gobos.motionBindings, motion.binding.layer = layer →
      ∀ source ∈ motion.context.sources, SourceContext.value ⟨p, frame, layout.plan⟩ source
        = SourceContext.value ⟨p, next, layout.plan⟩ source)
    : layout.scan p next layer = layout.scan p frame layer := by
  symm
  refine motionScan_congr ?_ hlayout.laidOut ?_
  . rfl
  intro motion hmotion hlayer
  have hsources := h motion hmotion hlayer
  exact ⟨hsources _ (hlayout.reaches motion hmotion).1, hsources⟩

theorem not_readsSlot (hlayout : layout.Moves)
    (hskipped : ∀ motion ∈ layout.gobos.motionBindings, motion.binding.layer = layer →
      ∀ source ∈ motion.context.sources, ∀ byte ∈ (layout.plan.program source).sources,
        IsSlot byte.address →
          byte.address ∉ (discoverOffsets layout.interestOffsets s).changedOffsets)
    (hnone : s.hasLastRelevantValues = false) : ¬ layout.ReadsSlot layer := by
  rintro ⟨motion, hmotion, hlayer, source, hsource, byte, hbyte, hslot⟩
  apply hskipped motion hmotion hlayer source hsource byte hbyte hslot
  have hcovered := (hlayout.within.motions motion hmotion).2 source hsource byte hbyte
  simp [discoverOffsets, hcovered, hnone]

end Scan

variable {u : Universe}

theorem runDomains_motions (hlayout : u.layout.Moves)
    (h : u.state.Current p u.layout u.state.latestFrame)
    (hhas : u.state.hasLastRelevantValues = true)
    (hcached : ∀ source, u.state.workspace.activationCached source = false) (c : ConsumeState)
    : let moved := u.layout.moveLayers p u.state.latestFrame now
        (u.layout.dirtyLayers u.state.workspace) c.held.gobos.rotationStateByLayer
      (runDomains p d none now c u).1.held.gobos.rotationStateByLayer = moved.1
        ∧ (runDomains p d none now c u).1.emission.goboRotationRows
          = c.emission.goboRotationRows ++ moved.2
        ∧ (runDomains p d none now c u).2.state.Current p u.layout u.state.latestFrame
        ∧ (runDomains p d none now c u).2.state.latestFrame = u.state.latestFrame
        ∧ (runDomains p d none now c u).2.state.hasPendingFrame = u.state.hasPendingFrame := by
  have hcoherent : Coherent ⟨p, u.state.latestFrame, u.layout.plan⟩ u.layout.Covered
      (evaluationState c u.state) := h.coherent.quiet ⟨rfl, rfl⟩
  have hexact : Exact ⟨p, u.state.latestFrame, u.layout.plan⟩ u.layout
      (evaluationState c u.state) := by
    refine ⟨hcoherent, ?_⟩
    intro context _ htrue
    exact absurd (htrue.symm.trans (hcached context.front)) (by simp)
  have hmotions := @updateDomains_motions p d now u.layout u.state.latestFrame hlayout _ hexact
    c.held u.state.colorInputs c.frame
  have hafter := @Coherent.updateDomains p d now u.layout u.state.latestFrame hlayout.within _
    hcoherent c.held u.state.colorInputs c.frame
  intro moved
  unfold runDomains
  generalize updateDomains _ _ _ _ _ _ _ _ _ (evaluationState c u.state) = result
    at hmotions hafter ⊢
  obtain ⟨update, s⟩ := result
  obtain ⟨hstates, hrows⟩ := Prod.mk.inj hmotions
  refine ⟨hstates, congrArg (c.emission.goboRotationRows ++ ·) hrows, ?_, rfl, rfl⟩
  exact {
    relevant := ⟨h.relevant.values, fun hnone => absurd (hhas.symm.trans hnone) (by simp)⟩
    coherent := hafter.quiet ⟨rfl, rfl⟩
    evaluated := h.evaluated
    received := h.received
    has := h.has
    pending := h.pending
  }

namespace UniverseState.Current

variable {s : UniverseState}

theorem taken (h : s.Current p layout frame)
    : UniverseState.Current p layout frame { s with hasPendingFrame := false } where
  relevant := ⟨h.relevant.values, h.relevant.fresh⟩
  coherent := h.coherent
  evaluated := h.evaluated
  received := h.received
  has := h.has
  pending := by simp

theorem unchanged (h : s.Current p layout frame) (hlayout : layout.Moves)
    (hpending : s.hasPendingFrame = false) (hlatest : s.latestFrame ≠ [])
    (hchanged : (discoverOffsets layout.interestOffsets s).changedOffsets = [])
    (c : ConsumeState)
    : MovesTo p now layout frame s.latestFrame c c []
        ∧ UniverseState.Current p layout s.latestFrame
          (discoverOffsets layout.interestOffsets s) := by
  constructor
  . constructor
    . simp
    . simp
    . exact fun _ => hlatest
    . rfl
    . exact (List.append_nil _).symm
    . intro layer _ hframe
      apply scan_eq_of_values hlayout
      intro motion hmotion _ source hsource
      apply h.relevant.value_eq ((hlayout.within.motions motion hmotion).2 source hsource)
      simp [hchanged]
    . intro layer _ hnil _
      apply @not_readsSlot layout s layer hlayout
      . simp [hchanged]
      . simpa [hnil] using h.has
  . exact {
      relevant := ⟨fun _ => h.relevant.discoverOffsets, fun hnone => by cases hnone⟩
      coherent := coherent_of_unchanged h.relevant h.coherent hchanged
      evaluated := h.received
      received := h.received
      has := ⟨fun _ => hlatest, fun _ => rfl⟩
      pending := fun htrue => absurd (hpending.symm.trans htrue) (by simp)
    }

theorem begun (h : s.Current p layout frame)
    (hpending : s.hasPendingFrame = false) (hlatest : s.latestFrame ≠ [])
    : UniverseState.Current p layout s.latestFrame
        (beginUniverseUpdate layout.plan (discoverOffsets layout.interestOffsets s)) := by
  have hbegun := h.coherent.stamped.beginUpdate layout.plan
    (discoverOffsets layout.interestOffsets s).changedOffsets
  exact {
    relevant := ⟨fun _ => h.relevant.discoverOffsets, fun hnone => by cases hnone⟩
    coherent := by
      apply coherent_of_values h.coherent hbegun
      intro source hcovered hunmarked
      exact value_of_unmarked h.relevant h.evaluated h.received hbegun hcovered hunmarked
    evaluated := h.received
    received := h.received
    has := ⟨fun _ => hlatest, fun _ => rfl⟩
    pending := fun htrue => absurd (hpending.symm.trans htrue) (by simp)
  }

theorem runDomains (h : s.Current p layout frame) (hlayout : layout.Moves)
    (hpending : s.hasPendingFrame = false) (hlatest : s.latestFrame ≠ []) (c : ConsumeState)
    : let u : Universe :=
        ⟨layout, beginUniverseUpdate layout.plan (discoverOffsets layout.interestOffsets s)⟩
      MovesTo p now layout frame s.latestFrame c (runDomains p d none now c u).1
          (layout.dirtyLayers u.state.workspace)
        ∧ (Runtime.runDomains p d none now c u).2.state.Current p layout s.latestFrame
        ∧ (Runtime.runDomains p d none now c u).2.state.latestFrame = s.latestFrame
        ∧ (Runtime.runDomains p d none now c u).2.state.hasPendingFrame = false := by
  intro u
  have hbegun := h.coherent.stamped.beginUpdate layout.plan
    (discoverOffsets layout.interestOffsets s).changedOffsets
  obtain ⟨hstates, hrows, hcurrent, hreceived, hsame⟩ := @runDomains_motions p d now u hlayout
    (h.begun hpending hlatest) rfl hbegun.activationCached c
  refine ⟨⟨?_, fun _ => hlatest, fun _ => hlatest, hstates, hrows, ?_, ?_⟩, hcurrent,
    hreceived, hsame.trans hpending⟩
  . intro key hkey
    exact motion_of_dirtyLayers hbegun hlayout hkey
  . intro layer hlayer _
    apply scan_eq_of_values hlayout
    intro motion hmotion hmotionLayer source hsource
    have hcovered := (hlayout.within.motions motion hmotion).2 source hsource
    apply value_of_unmarked h.relevant h.evaluated h.received hbegun hcovered
    rw [← Bool.not_eq_true]
    intro hmarked
    apply hlayer
    rw [← hmotionLayer]
    exact mem_dirtyLayers hbegun hlayout hmotion hsource hmarked
  . intro layer hlayer hnil _
    apply @not_readsSlot layout s layer hlayout
    . intro motion hmotion hmotionLayer source hsource byte hbyte hslot hchanged
      apply hlayer
      rw [← hmotionLayer]
      exact mem_dirtyLayers hbegun hlayout hmotion hsource
        (changed_of_byte hbegun hbyte hslot hchanged)
    . simpa [hnil] using h.has

end UniverseState.Current

theorem consumeUniverse_motions (hlayout : u.layout.Moves)
    (h : u.state.Current p u.layout frame) (c : ConsumeState)
    : (∃ keys, MovesTo p now u.layout frame (processedFrame u frame) c
          (consumeUniverse p d now c u).1 keys)
        ∧ (consumeUniverse p d now c u).2.state.Current p u.layout (processedFrame u frame)
        ∧ (consumeUniverse p d now c u).2.state.latestFrame = u.state.latestFrame
        ∧ (consumeUniverse p d now c u).2.state.hasPendingFrame = false := by
  obtain ⟨layout, s⟩ := u
  unfold consumeUniverse processedFrame
  dsimp only at hlayout h ⊢
  cases hp : s.hasPendingFrame with
  | false => exact ⟨⟨[], MovesTo.refl frame c⟩, h, rfl, hp⟩
  | true =>
    simp only [Bool.not_true, Bool.false_eq_true, if_false, if_true]
    have hlatest := h.pending hp
    split
    next hempty =>
      obtain ⟨hmoves, hcurrent⟩ := @UniverseState.Current.unchanged p now layout frame _ h.taken hlayout rfl hlatest
        (List.isEmpty_iff.mp hempty) c
      exact ⟨⟨[], hmoves⟩, hcurrent, rfl, rfl⟩
    next =>
      obtain ⟨hmoves, hrest⟩ := @UniverseState.Current.runDomains p d now layout frame _ h.taken hlayout rfl hlatest c
      exact ⟨⟨_, hmoves⟩, hrest⟩

end Peraviz.Runtime
