import Peraviz.Runtime.Coherence.Domains
import Peraviz.Runtime.Evaluation.Workspace

/-!
This module contains the coherence of the cache of decoded sources: a value that is not marked
invalid is the value of its source on the frame, and so are the answers of the evaluators. Over the
consumes of a universe, the offsets that are found changed are all that the values of its sources
can have changed by.
-/

namespace Peraviz.Runtime

/-! ### Decoding -/

theorem byteOf_of_some {frame : List UInt8} {offset : Int32} {value : UInt8}
    (h : frameByte frame offset = some value) : byteOf frame offset = value := by
  simp [byteOf, h]

theorem byteOf_of_none {frame : List UInt8} {offset : Int32} (h : frameByte frame offset = none)
    : byteOf frame offset = 0 := by
  simp [byteOf, h]

-- A byte that is missing decodes like a zero, so only `byteOf` decides about a value.
theorem fst_readRawValue (frame : List UInt8) (program : CompiledDmxSourceProgram)
    : (readRawValue frame program).1 =
        if unsupportedByteCount program then 0
        else program.sources.foldl (fun rawValue source =>
          shiftByte rawValue (byteOf frame source.address)) 0 := by
  unfold readRawValue
  split
  . rfl
  . symm
    change List.foldl _ (Prod.fst ((0 : UInt32), ({} : SourceWarnings))) _ = _
    apply List.foldl_hom Prod.fst
    intro read source
    cases h : frameByte frame source.address with
    | none => simp [byteOf_of_none h]
    | some value => simp [byteOf_of_some h]

theorem fst_readReporting (frame : List UInt8) (program : CompiledDmxSourceProgram)
    (s : EvaluationState)
    : (s.readReporting frame program).1 = (readRawValue frame program).1 := by
  rw [fst_readRawValue]
  unfold EvaluationState.readReporting
  split
  . rfl
  . symm
    change List.foldl _ (Prod.fst ((0 : UInt32), s)) _ = _
    apply List.foldl_hom Prod.fst
    intro read source
    cases h : frameByte frame source.address with
    | none => simp [byteOf_of_none h]
    | some value => simp [byteOf_of_some h]

theorem value_congr {p : Platform} {plan : EvaluationPlan} {frame frame' : List UInt8}
    {source : Nat} (h : ∀ byte ∈ (plan.program source).sources,
      byteOf frame byte.address = byteOf frame' byte.address)
    : SourceContext.value ⟨p, frame, plan⟩ source = SourceContext.value ⟨p, frame', plan⟩ source
    := by
  have hraw : (readRawValue frame (plan.program source)).1
      = (readRawValue frame' (plan.program source)).1 := by
    rw [fst_readRawValue, fst_readRawValue]
    split
    . rfl
    . apply List.foldl_ext
      intro rawValue byte hbyte
      rw [h byte hbyte]
  simp only [SourceContext.value, evaluateSourceProgram, hraw]

/-! ### Reports -/

namespace EvaluationState

/-- Nothing but what is reported differs. -/
structure Quiet (s s' : EvaluationState) : Prop where
  workspace : s'.workspace = s.workspace
  prefetchedWarnings : s'.prefetchedWarnings = s.prefetchedWarnings

theorem Quiet.refl (s : EvaluationState) : Quiet s s := ⟨rfl, rfl⟩

theorem Quiet.trans {s s' s'' : EvaluationState} (h : Quiet s s') (h' : Quiet s' s'')
    : Quiet s s'' :=
  ⟨h'.workspace.trans h.workspace, h'.prefetchedWarnings.trans h.prefetchedWarnings⟩

theorem quiet_reportByteCount (program : CompiledDmxSourceProgram) (s : EvaluationState)
    : Quiet s (reportByteCount program s) := by
  unfold reportByteCount
  split
  . exact Quiet.refl s
  . exact ⟨rfl, rfl⟩

theorem quiet_reportMissingByte (program : CompiledDmxSourceProgram) (s : EvaluationState)
    : Quiet s (reportMissingByte program s) := by
  unfold reportMissingByte
  split
  . exact Quiet.refl s
  . exact ⟨rfl, rfl⟩

theorem quiet_readReporting (frame : List UInt8) (program : CompiledDmxSourceProgram)
    (s : EvaluationState) : Quiet s (s.readReporting frame program).2 := by
  unfold readReporting
  split
  . apply quiet_reportByteCount
  . generalize (0 : UInt32) = rawValue
    generalize program.sources = sources
    induction sources generalizing rawValue s with
    | nil => exact Quiet.refl s
    | cons source sources ih =>
      rw [List.foldl_cons]
      cases h : frameByte frame source.address with
      | some value => apply ih
      | none =>
        apply (quiet_reportMissingByte program s).trans
        apply ih

end EvaluationState

/-! ### The cache -/

/-- What is not invalid was decoded from the frame, and no warning waits for its first use. -/
structure Coherent (ctx : SourceContext) (Q : Nat → Prop) (s : EvaluationState) : Prop where
  values : ∀ source, s.workspace.invalid source = false →
    Q source ∧ s.workspace.values source = ctx.value source
  warnings : ∀ source, s.prefetchedWarnings source = {}
  stamped : s.workspace.Stamped

/-- The stamps of two workspaces, and so what an update looks at, are the same. -/
structure SameStamps (w w' : EvaluationWorkspace) : Prop where
  generation : w'.generation = w.generation
  changed : w'.changed = w.changed
  consumers : w'.consumers = w.consumers
  activationGenerations : w'.activationGenerations = w.activationGenerations
  activations : w'.activations = w.activations

structure Twins (ctx : SourceContext) (Q : Nat → Prop) (s t : EvaluationState) : Prop where
  left : Coherent ctx Q s
  right : Coherent ctx Q t
  stamps : SameStamps s.workspace t.workspace

variable {ctx : SourceContext} {Q : Nat → Prop}

theorem Coherent.quiet {s s' : EvaluationState} (h : Coherent ctx Q s)
    (hquiet : EvaluationState.Quiet s s') : Coherent ctx Q s' := by
  constructor
  . rw [hquiet.workspace]
    exact h.values
  . rw [hquiet.prefetchedWarnings]
    exact h.warnings
  . rw [hquiet.workspace]
    exact h.stamped

theorem Coherent.flushWarnings {s : EvaluationState} (h : Coherent ctx Q s) (source : Nat)
    : ctx.flushWarnings source s = s := by
  unfold SourceContext.flushWarnings
  rw [if_pos (h.warnings source)]

theorem Coherent.decodeSource {s : EvaluationState} (h : Coherent ctx Q s) {source : Nat}
    (hsource : Q source)
    : Coherent ctx Q (ctx.decodeSource source s)
      ∧ SameStamps s.workspace (ctx.decodeSource source s).workspace
      ∧ (ctx.decodeSource source s).workspace.values source = ctx.value source := by
  have hquiet := EvaluationState.quiet_readReporting ctx.frame (ctx.plan.program source) s
  have hvalue : mapRawValue ctx.platform (ctx.plan.program source)
      (s.readReporting ctx.frame (ctx.plan.program source)).1 = ctx.value source := by
    rw [fst_readReporting]
    rfl
  unfold SourceContext.decodeSource
  simp only [hvalue, EvaluationState.storeSource, EvaluationWorkspace.store, hquiet.workspace,
    hquiet.prefetchedWarnings]
  refine ⟨⟨?_, ?_, h.stamped.store _ _⟩, ⟨rfl, rfl, rfl, rfl, rfl⟩, by simp⟩
  . intro x hx
    simp only [Function.update_apply] at hx ⊢
    split
    . next heq =>
      rw [heq]
      exact ⟨hsource, rfl⟩
    . next hne =>
      rw [if_neg hne] at hx
      exact h.values x hx
  . intro x
    simp only [Function.update_apply]
    split
    . rfl
    . exact h.warnings x

theorem Coherent.evaluateCachedSource {s : EvaluationState} (h : Coherent ctx Q s) {source : Nat}
    (hsource : Q source)
    : (ctx.evaluateCachedSource source s).1 = ctx.value source
      ∧ Coherent ctx Q (ctx.evaluateCachedSource source s).2
      ∧ SameStamps s.workspace (ctx.evaluateCachedSource source s).2.workspace := by
  unfold SourceContext.evaluateCachedSource
  split
  . obtain ⟨hcoherent, hstamps, hvalue⟩ := h.decodeSource hsource
    simp only [hcoherent.flushWarnings]
    exact ⟨hvalue, hcoherent, hstamps⟩
  . next hvalid =>
    simp only [h.flushWarnings]
    exact ⟨(h.values source (by simpa using hvalid)).2, h, ⟨rfl, rfl, rfl, rfl, rfl⟩⟩

theorem Twins.evaluateCachedSource {source : Nat} (hsource : Q source)
    : Coupled (Twins ctx Q) Eq (ctx.evaluateCachedSource source)
        (ctx.evaluateCachedSource source) := by
  intro s t h
  obtain ⟨hs, hleft, hstamps⟩ := h.left.evaluateCachedSource hsource
  obtain ⟨ht, hright, hstamps'⟩ := h.right.evaluateCachedSource hsource
  refine ⟨hs.trans ht.symm, hleft, hright, ?_⟩
  have := h.stamps
  constructor
  . rw [hstamps'.generation, this.generation, hstamps.generation]
  . rw [hstamps'.changed, this.changed, hstamps.changed]
  . rw [hstamps'.consumers, this.consumers, hstamps.consumers]
  . rw [hstamps'.activationGenerations, this.activationGenerations, hstamps.activationGenerations]
  . rw [hstamps'.activations, this.activations, hstamps.activations]

theorem Twins.evaluateActivation {context : GoboEvaluationContext} (hcontext : context.Within Q)
    : Coupled (Twins ctx Q) Eq (ctx.evaluateActivation context)
        (ctx.evaluateActivation context) := by
  refine Coupled.bind_eq ?_ ?_
  . apply Coupled.foldlM_eq
    intro entry hentry values
    apply (Twins.evaluateCachedSource (hcontext.2 entry.2 (List.of_mem_zip hentry).2)).bind_eq
    intro value
    apply Coupled.pure
    rfl
  . intro values s t h
    refine ⟨rfl, ⟨h.left.values, h.left.warnings, h.left.stamped.storeActivation _ _⟩,
      ⟨h.right.values, h.right.warnings, h.right.stamped.storeActivation _ _⟩, ?_⟩
    have := h.stamps
    constructor
    . exact this.generation
    . exact this.changed
    . exact this.consumers
    . change Function.update _ _ _ = Function.update _ _ _
      rw [this.activationGenerations, this.generation]
    . change Function.update _ _ _ = Function.update _ _ _
      rw [this.activations]

theorem Twins.evaluateCachedActivation {context : GoboEvaluationContext}
    (hcontext : context.Within Q)
    : Coupled (Twins ctx Q) Eq (ctx.evaluateCachedActivation context)
        (ctx.evaluateCachedActivation context) := by
  intro s t h
  have hcached : t.workspace.activationCached context.front
      = s.workspace.activationCached context.front := by
    unfold EvaluationWorkspace.activationCached
    rw [h.stamps.activationGenerations, h.stamps.generation]
  unfold SourceContext.evaluateCachedActivation
  rw [hcached]
  split
  . exact ⟨by rw [h.stamps.activations], h⟩
  . exact Twins.evaluateActivation hcontext s t h

theorem Twins.alike : Alike (Twins ctx Q) ctx Q where
  source _ hsource := Twins.evaluateCachedSource hsource
  activation _ hcontext := Twins.evaluateCachedActivation hcontext
  changed source _ := by
    intro s t h
    refine ⟨?_, h⟩
    simp only [sourceChanged, EvaluationWorkspace.sourceChanged, h.stamps.changed,
      h.stamps.generation]
  report _ := by
    intro s t h
    exact ⟨rfl, h.left.quiet ⟨rfl, rfl⟩, h.right.quiet ⟨rfl, rfl⟩, h.stamps⟩
  dirty := by
    intro s t h
    refine ⟨?_, h⟩
    simp only [dirtyConsumers, h.stamps.consumers]

end Peraviz.Runtime

/-! ### The cache of one universe -/

namespace Peraviz.Runtime

def UniverseLayout.Covered (layout : UniverseLayout) (source : Nat) : Prop :=
  ∀ byte ∈ (layout.plan.program source).sources, byte.address ∈ layout.interestOffsets

/-- A layout whose consumers read watched bytes only, all of them slots of the universe. -/
structure UniverseLayout.Sound (layout : UniverseLayout) : Prop where
  within : layout.Within layout.Covered
  inRange : ∀ offset ∈ layout.interestOffsets, 0 ≤ offset ∧ offset < 512

/-! ### The begin of an update -/

namespace SameStamps

theorem nextGeneration {w w' : EvaluationWorkspace} (h : SameStamps w w')
    : SameStamps w.nextGeneration w'.nextGeneration := by
  unfold EvaluationWorkspace.nextGeneration
  rw [h.generation]
  split
  . exact ⟨rfl, rfl, rfl, rfl, h.activations⟩
  . exact ⟨rfl, h.changed, rfl, h.activationGenerations, h.activations⟩

theorem markSource {w w' : EvaluationWorkspace} (h : SameStamps w w') (plan : EvaluationPlan)
    (source : Nat) : SameStamps (EvaluationWorkspace.markSource plan w source)
        (EvaluationWorkspace.markSource plan w' source) := by
  unfold EvaluationWorkspace.markSource EvaluationWorkspace.sourceChanged
  rw [h.changed, h.generation]
  split
  . exact h
  . constructor
    . rfl
    . rfl
    . simp only [h.consumers]
    . exact h.activationGenerations
    . exact h.activations

theorem beginUpdate {w w' : EvaluationWorkspace} (h : SameStamps w w') (plan : EvaluationPlan)
    (offsets : List Int32)
    : SameStamps (w.beginUpdate plan offsets) (w'.beginUpdate plan offsets) := by
  unfold EvaluationWorkspace.beginUpdate
  have hnext := h.nextGeneration
  generalize w.nextGeneration = v at hnext
  generalize w'.nextGeneration = v' at hnext
  generalize offsets.flatMap plan.sourcesAt = sources
  induction sources generalizing v v' with
  | nil => exact hnext
  | cons source sources ih =>
    apply ih
    exact hnext.markSource plan source

end SameStamps

/-! ### Discovery -/

variable {p : Platform} {layout : UniverseLayout}

/-- What is held of the relevant bytes is what the last processed frame had there. -/
structure Relevant (layout : UniverseLayout) (frame : List UInt8) (s : UniverseState) : Prop where
  values : s.hasLastRelevantValues = true → ∀ offset ∈ layout.interestOffsets,
    s.lastRelevantValues offset = byteOf frame offset
  fresh : s.hasLastRelevantValues = false → ∀ source, s.workspace.invalid source = true

theorem Relevant.of_not_changed {frame : List UInt8} {s : UniverseState}
    (h : Relevant layout frame s) {offset : Int32} (hoffset : offset ∈ layout.interestOffsets)
    (hchanged : offset ∉ (discoverOffsets layout.interestOffsets s).changedOffsets)
    : s.hasLastRelevantValues = true ∧ byteOf frame offset = byteOf s.latestFrame offset := by
  simp only [discoverOffsets, List.mem_filter, hoffset, true_and, Bool.or_eq_true, not_or,
    Bool.not_eq_true', bne_iff_ne, ne_eq, not_not, Bool.not_eq_false] at hchanged
  exact ⟨hchanged.1, (h.values hchanged.1 offset hoffset).symm.trans hchanged.2⟩

theorem Relevant.discoverOffsets {frame : List UInt8} {s : UniverseState}
    (h : Relevant layout frame s)
    : ∀ offset ∈ layout.interestOffsets,
        (discoverOffsets layout.interestOffsets s).lastRelevantValues offset
          = byteOf s.latestFrame offset := by
  intro offset hoffset
  by_cases hchanged : offset ∈ (Runtime.discoverOffsets layout.interestOffsets s).changedOffsets
  . exact if_pos hchanged
  . obtain ⟨hhas, hbyte⟩ := h.of_not_changed hoffset hchanged
    rw [← hbyte, ← h.values hhas offset hoffset]
    exact if_neg hchanged

-- A valid source without a changed byte has on the new frame the value that it had.
theorem Relevant.value_eq {frame : List UInt8} {s : UniverseState} (h : Relevant layout frame s)
    {source : Nat} (hcovered : layout.Covered source)
    (hchanged : ∀ byte ∈ (layout.plan.program source).sources,
      byte.address ∉ (Runtime.discoverOffsets layout.interestOffsets s).changedOffsets)
    : SourceContext.value ⟨p, frame, layout.plan⟩ source
        = SourceContext.value ⟨p, s.latestFrame, layout.plan⟩ source := by
  apply value_congr
  intro byte hbyte
  exact (h.of_not_changed (hcovered byte hbyte) (hchanged byte hbyte)).2

/-! ### Two caches of one universe -/

def UniverseState.evaluation (s : UniverseState) : EvaluationState where
  workspace := s.workspace
  prefetchedWarnings := s.prefetchedWarnings

/-- Two states that differ in what is cached only, `frame` is what was processed last. -/
structure StateTwins (p : Platform) (layout : UniverseLayout) (frame : List UInt8)
    (s t : UniverseState) : Prop where
  latestFrame : t.latestFrame = s.latestFrame
  hasPendingFrame : t.hasPendingFrame = s.hasPendingFrame
  lastRelevantValues : t.lastRelevantValues = s.lastRelevantValues
  hasLastRelevantValues : t.hasLastRelevantValues = s.hasLastRelevantValues
  colorInputs : t.colorInputs = s.colorInputs
  left : Relevant layout frame s
  right : Relevant layout frame t
  caches : Twins ⟨p, frame, layout.plan⟩ layout.Covered s.evaluation t.evaluation

variable {frame : List UInt8} {s t : UniverseState}

theorem StateTwins.changedOffsets (h : StateTwins p layout frame s t)
    : (discoverOffsets layout.interestOffsets t).changedOffsets
        = (discoverOffsets layout.interestOffsets s).changedOffsets := by
  simp only [discoverOffsets, h.latestFrame, h.lastRelevantValues, h.hasLastRelevantValues]

theorem StateTwins.discovered (h : StateTwins p layout frame s t)
    : (discoverOffsets layout.interestOffsets t).lastRelevantValues
        = (discoverOffsets layout.interestOffsets s).lastRelevantValues := by
  simp only [discoverOffsets, h.latestFrame, h.lastRelevantValues, h.hasLastRelevantValues]

theorem changed_of_byte {plan : EvaluationPlan} {offsets : List Int32} {w w' : EvaluationWorkspace}
    (hbegun : EvaluationWorkspace.Begun plan offsets w w') {source : Nat}
    {byte : CompiledDmxByteSource} (hbyte : byte ∈ (plan.program source).sources)
    (hrange : 0 ≤ byte.address ∧ byte.address < 512) (hchanged : byte.address ∈ offsets)
    : w'.sourceChanged source = true := by
  apply (hbegun.changed source).mpr
  refine ⟨byte.address, hchanged, ?_⟩
  unfold EvaluationPlan.sourcesAt
  rw [if_pos hrange, List.mem_filter]
  constructor
  . apply List.mem_range.mpr
    by_contra hout
    simp [EvaluationPlan.program, List.getD_eq_getElem?_getD,
      List.getElem?_eq_none (Nat.le_of_not_lt hout)] at hbyte
  . apply List.any_eq_true.mpr
    exact ⟨byte, hbyte, by simp⟩

-- What a begun update leaves valid is coherent with a frame on which it has the same values.
theorem coherent_of_values {next : List UInt8} {offsets : List Int32} {w' : EvaluationWorkspace}
    (hcoherent : Coherent ⟨p, frame, layout.plan⟩ layout.Covered s.evaluation)
    (hbegun : EvaluationWorkspace.Begun layout.plan offsets s.workspace w')
    (hvalues : ∀ source, layout.Covered source → w'.sourceChanged source = false →
      SourceContext.value ⟨p, frame, layout.plan⟩ source
        = SourceContext.value ⟨p, next, layout.plan⟩ source)
    : Coherent ⟨p, next, layout.plan⟩ layout.Covered { s.evaluation with workspace := w' } := by
  refine ⟨?_, hcoherent.warnings, hbegun.stamped⟩
  intro source hvalid
  have hinvalid := hbegun.invalid source
  change w'.invalid source = false at hvalid
  rw [hvalid] at hinvalid
  simp only [Bool.false_eq_true, false_iff, not_or, Bool.not_eq_true] at hinvalid
  obtain ⟨hcovered, hvalue⟩ := hcoherent.values source hinvalid.1
  refine ⟨hcovered, ?_⟩
  change w'.values source = _
  rw [hbegun.values]
  exact hvalue.trans (hvalues source hcovered hinvalid.2)

-- What a begun update leaves valid is coherent with the frame that it begins for.
theorem coherent_of_begun {w' : EvaluationWorkspace} (hlayout : layout.Sound)
    (hrelevant : Relevant layout frame s)
    (hcoherent : Coherent ⟨p, frame, layout.plan⟩ layout.Covered s.evaluation)
    (hbegun : EvaluationWorkspace.Begun layout.plan
      (discoverOffsets layout.interestOffsets s).changedOffsets s.workspace w')
    : Coherent ⟨p, s.latestFrame, layout.plan⟩ layout.Covered
        { s.evaluation with workspace := w' } := by
  apply coherent_of_values hcoherent hbegun
  intro source hcovered hunmarked
  apply hrelevant.value_eq hcovered
  intro byte hbyte hchanged
  rw [changed_of_byte hbegun hbyte (hlayout.inRange _ (hcovered byte hbyte)) hchanged] at hunmarked
  cases hunmarked

theorem coherent_of_unchanged (hrelevant : Relevant layout frame s)
    (hcoherent : Coherent ⟨p, frame, layout.plan⟩ layout.Covered s.evaluation)
    (hchanged : (discoverOffsets layout.interestOffsets s).changedOffsets = [])
    : Coherent ⟨p, s.latestFrame, layout.plan⟩ layout.Covered s.evaluation := by
  refine ⟨?_, hcoherent.warnings, hcoherent.stamped⟩
  intro source hvalid
  obtain ⟨hcovered, hvalue⟩ := hcoherent.values source hvalid
  refine ⟨hcovered, hvalue.trans ?_⟩
  apply hrelevant.value_eq hcovered
  intro byte _
  rw [hchanged]
  exact List.not_mem_nil

/-- What a consume leaves in the parts of the runtime that every universe shares. -/
structure ConsumeTwins (c c' : ConsumeState) : Prop where
  held : c'.held = c.held
  frame : c'.frame = c.frame
  emission : c'.emission = c.emission

/-- The frame that was processed last, after a consume. -/
def processedFrame (u : Universe) (frame : List UInt8) : List UInt8 :=
  if u.state.hasPendingFrame then u.state.latestFrame else frame

structure UniverseTwins (p : Platform) (frame : List UInt8) (u v : Universe) : Prop where
  layout : v.layout = u.layout
  sound : u.layout.Sound
  state : StateTwins p u.layout frame u.state v.state

theorem StateTwins.unchanged (h : StateTwins p layout frame s t)
    (hchanged : (discoverOffsets layout.interestOffsets s).changedOffsets = [])
    : StateTwins p layout s.latestFrame (discoverOffsets layout.interestOffsets s)
        (discoverOffsets layout.interestOffsets t) := by
  have hlatest := h.latestFrame
  refine ⟨h.latestFrame, h.hasPendingFrame, h.discovered, rfl, h.colorInputs, ⟨?_, ?_⟩, ⟨?_, ?_⟩,
    ⟨coherent_of_unchanged h.left h.caches.left hchanged, ?_, h.caches.stamps⟩⟩
  . intro _
    exact h.left.discoverOffsets
  . intro hnone
    cases hnone
  . intro _
    rw [← hlatest]
    exact h.right.discoverOffsets
  . intro hnone
    cases hnone
  . rw [← hlatest]
    apply coherent_of_unchanged h.right h.caches.right
    rw [h.changedOffsets, hchanged]

theorem StateTwins.begun (hlayout : layout.Sound) (h : StateTwins p layout frame s t)
    : StateTwins p layout s.latestFrame
        (beginUniverseUpdate layout.plan (discoverOffsets layout.interestOffsets s))
        (beginUniverseUpdate layout.plan (discoverOffsets layout.interestOffsets t)) := by
  have hlatest := h.latestFrame
  have hbegun := h.caches.left.stamped.beginUpdate layout.plan
    (discoverOffsets layout.interestOffsets s).changedOffsets
  have hbegun' := h.caches.right.stamped.beginUpdate layout.plan
    (discoverOffsets layout.interestOffsets t).changedOffsets
  refine ⟨h.latestFrame, h.hasPendingFrame, h.discovered, rfl, h.colorInputs, ⟨?_, ?_⟩, ⟨?_, ?_⟩,
    ⟨coherent_of_begun hlayout h.left h.caches.left hbegun, ?_, ?_⟩⟩
  . intro _
    exact h.left.discoverOffsets
  . intro hnone
    cases hnone
  . intro _
    rw [← hlatest]
    exact h.right.discoverOffsets
  . intro hnone
    cases hnone
  . rw [← hlatest]
    exact coherent_of_begun hlayout h.right h.caches.right hbegun'
  . have hstamps := h.caches.stamps.beginUpdate layout.plan
      (discoverOffsets layout.interestOffsets s).changedOffsets
    have heq := h.changedOffsets
    change SameStamps _ (t.workspace.beginUpdate layout.plan
      (discoverOffsets layout.interestOffsets t).changedOffsets)
    rw [heq]
    exact hstamps

theorem ConsumeTwins.runDomains {c c' : ConsumeState} (hc : ConsumeTwins c c')
    {u v : Universe} (h : UniverseTwins p u.state.latestFrame u v)
    (hhas : u.state.hasLastRelevantValues = true) (d : Definitions) (now : ℚ)
    : ConsumeTwins (runDomains p d none now c u).1 (runDomains p d none now c' v).1
      ∧ UniverseTwins p u.state.latestFrame (runDomains p d none now c u).2
        (runDomains p d none now c' v).2 := by
  obtain ⟨ulayout, s⟩ := u
  obtain ⟨vlayout, t⟩ := v
  obtain ⟨hlayout, hsound, hstate⟩ := h
  simp only at hlayout hhas
  subst hlayout
  have hcaches : Twins ⟨p, s.latestFrame, vlayout.plan⟩ vlayout.Covered (evaluationState c s)
      (evaluationState c' t) :=
    ⟨hstate.caches.left.quiet ⟨rfl, rfl⟩, hstate.caches.right.quiet ⟨rfl, rfl⟩,
      hstate.caches.stamps⟩
  have hcoupled := Twins.alike.updateDomains hsound.within d now c.held s.colorInputs c.frame
    _ _ hcaches
  have hlatest : t.latestFrame = s.latestFrame := hstate.latestFrame
  have hcolors : t.colorInputs = s.colorInputs := hstate.colorInputs
  have hhas' : t.hasLastRelevantValues = true := hstate.hasLastRelevantValues.trans hhas
  unfold Runtime.runDomains
  simp only [hlatest, hcolors, hc.held, hc.frame] at hcoupled ⊢
  generalize updateDomains _ _ _ _ _ _ _ _ _ (evaluationState c s) = left at hcoupled ⊢
  generalize updateDomains _ _ _ _ _ _ _ _ _ (evaluationState c' t) = right at hcoupled ⊢
  obtain ⟨update, s'⟩ := left
  obtain ⟨update', t'⟩ := right
  obtain ⟨heq, hcaches'⟩ := hcoupled
  simp only at heq
  subst heq
  refine ⟨⟨rfl, rfl, by simp only [hc.emission]⟩, rfl, hsound, ?_⟩
  refine ⟨rfl, hstate.hasPendingFrame, hstate.lastRelevantValues,
    hstate.hasLastRelevantValues, rfl, ⟨hstate.left.values, ?_⟩, ⟨hstate.right.values, ?_⟩,
    ⟨hcaches'.left.quiet ⟨rfl, rfl⟩, hcaches'.right.quiet ⟨rfl, rfl⟩, hcaches'.stamps⟩⟩
  . intro hnone
    simp [hhas] at hnone
  . intro hnone
    simp [hhas'] at hnone

theorem StateTwins.taken (h : StateTwins p layout frame s t)
    : StateTwins p layout frame { s with hasPendingFrame := false }
        { t with hasPendingFrame := false } :=
  ⟨h.latestFrame, rfl, h.lastRelevantValues, h.hasLastRelevantValues, h.colorInputs,
    ⟨h.left.values, h.left.fresh⟩, ⟨h.right.values, h.right.fresh⟩, h.caches⟩

theorem UniverseTwins.consumeUniverse {u v : Universe} (h : UniverseTwins p frame u v)
    {c c' : ConsumeState} (hc : ConsumeTwins c c') (d : Definitions) (now : ℚ)
    : ConsumeTwins (consumeUniverse p d now c u).1 (consumeUniverse p d now c' v).1
      ∧ UniverseTwins p (processedFrame u frame) (consumeUniverse p d now c u).2
        (consumeUniverse p d now c' v).2 := by
  obtain ⟨ulayout, s⟩ := u
  obtain ⟨vlayout, t⟩ := v
  obtain ⟨hlayout, hsound, hstate⟩ := h
  simp only at hlayout
  subst hlayout
  have hpending : t.hasPendingFrame = s.hasPendingFrame := hstate.hasPendingFrame
  unfold Runtime.consumeUniverse processedFrame
  simp only [hpending]
  cases hp : s.hasPendingFrame with
  | false => exact ⟨hc, rfl, hsound, hstate⟩
  | true =>
    simp only [Bool.not_true, Bool.false_eq_true, if_false, if_true]
    have htaken := hstate.taken
    rw [htaken.changedOffsets]
    split
    . next hempty =>
      refine ⟨hc, rfl, hsound, ?_⟩
      exact htaken.unchanged (List.isEmpty_iff.mp hempty)
    . have hbegun : UniverseTwins p s.latestFrame
          ⟨vlayout, beginUniverseUpdate vlayout.plan
            (discoverOffsets vlayout.interestOffsets { s with hasPendingFrame := false })⟩
          ⟨vlayout, beginUniverseUpdate vlayout.plan
            (discoverOffsets vlayout.interestOffsets { t with hasPendingFrame := false })⟩ :=
        ⟨rfl, hsound, htaken.begun hsound⟩
      exact hc.runDomains hbegun rfl d now

end Peraviz.Runtime
