import Peraviz.Coupling.Basic
import Peraviz.Runtime.Core.Lemmas

/-!
This module contains why the domains of a universe cannot tell two caches apart: if from related
states the evaluators answer the same and leave related states, then so does every domain.
-/

namespace Peraviz.Runtime

variable {R : EvaluationState → EvaluationState → Prop} {ctx : SourceContext} {Q : Nat → Prop}

def GoboEvaluationContext.Within (Q : Nat → Prop) (context : GoboEvaluationContext) : Prop :=
  Q context.front ∧ ∀ source ∈ context.sources, Q source

/-- Two caches that the evaluators of the sources in `Q` cannot tell apart. -/
structure Alike (R : EvaluationState → EvaluationState → Prop) (ctx : SourceContext)
    (Q : Nat → Prop) : Prop where
  source : ∀ source, Q source →
    Coupled R Eq (ctx.evaluateCachedSource source) (ctx.evaluateCachedSource source)
  activation : ∀ context : GoboEvaluationContext, context.Within Q →
    Coupled R Eq (ctx.evaluateCachedActivation context) (ctx.evaluateCachedActivation context)
  changed : ∀ source, Q source → Coupled R Eq (sourceChanged source) (sourceChanged source)
  report : ∀ diagnostic, Coupled R Eq (report diagnostic) (report diagnostic)
  dirty : Coupled R Eq (dirtyConsumers ctx.plan) (dirtyConsumers ctx.plan)

/-- What a layout asks the evaluators for. -/
structure UniverseLayout.Within (Q : Nat → Prop) (layout : UniverseLayout) : Prop where
  properties : ∀ program ∈ layout.properties, ∀ source ∈ program.sources, Q source
  colors : ∀ target ∈ layout.colors.targets, ∀ input ∈ target.inputs, Q input.source
  wheels : ∀ wheel ∈ layout.wheels.bindings, Q wheel.source
  gobos : ∀ gobo ∈ layout.gobos.bindings, gobo.context.Within Q
  motions : ∀ motion ∈ layout.gobos.motionBindings, motion.context.Within Q
  shutters : ∀ shutter ∈ layout.shutters.bindings, shutter.context.Within Q

namespace Alike

theorem pure {α : Type} (a : α) : Coupled R Eq (pure a : EvalM α) (pure a : EvalM α) :=
  Coupled.pure rfl

variable (h : Alike R ctx Q)
include h

/-! ### Shutters -/

theorem shutterModeAllows {runtime : ShutterBindingRuntime} (hruntime : runtime.context.Within Q)
    : Coupled R Eq (ctx.shutterModeAllows runtime) (ctx.shutterModeAllows runtime) := by
  unfold SourceContext.shutterModeAllows
  split
  . apply Alike.pure
  . split
    . apply Alike.pure
    . next source hsource =>
      apply (h.source source (hruntime.2 source (List.mem_of_getElem? hsource))).bind_eq
      intro mode
      apply Alike.pure

theorem scanShutter {bindings : List ShutterBindingRuntime}
    (hbindings : ∀ shutter ∈ bindings, shutter.context.Within Q) (scan : ShutterScan) (index : Nat)
    : Coupled R Eq (ctx.scanShutter bindings scan index) (ctx.scanShutter bindings scan index) := by
  unfold SourceContext.scanShutter
  split
  . apply Alike.pure
  . next runtime hruntime =>
    have hwithin := hbindings runtime (List.mem_of_getElem? hruntime)
    apply (h.source _ hwithin.1).bind_eq
    intro value
    apply (h.activation _ hwithin).bind_eq
    intro active
    apply Coupled.ite
    . intro _
      apply Alike.pure
    . intro _
      apply (h.shutterModeAllows hwithin).bind_eq
      intro allowed
      apply Alike.pure

theorem reportShutter (held : ShutterHeld) (authority : ShutterAuthorityState) (unsupported : Bool)
    : Coupled R Eq (reportShutter held authority unsupported)
        (reportShutter held authority unsupported) := by
  unfold Peraviz.Runtime.reportShutter
  apply Coupled.ite
  . intro _
    apply (h.report _).bind_eq
    intro _
    apply Alike.pure
  . intro _
    apply Alike.pure

theorem evaluateShutters {layout : ShutterLayout}
    (hlayout : ∀ shutter ∈ layout.bindings, shutter.context.Within Q) (now : ℚ) (held : ShutterHeld)
    (frame : SectionedVisualFrame) (keys : List Int)
    : Coupled R Eq (ctx.evaluateShutters layout now held frame keys)
        (ctx.evaluateShutters layout now held frame keys) := by
  apply Coupled.foldlM_eq
  intro key _ update
  apply (Coupled.foldlM_eq (fun index _ scan => h.scanShutter hlayout scan index) {}).bind_eq
  intro scan
  apply (h.reportShutter _ _ _).bind_eq
  intro unsupportedFixtures
  dsimp only
  generalize updateShutter _ _ now = updated
  cases updated with
  | none => apply Alike.pure
  | some parameters => apply Alike.pure

/-! ### Gobos -/

theorem reportOnce (diagnosed : Int → Bool) (key : Int) (condition : Bool)
    (diagnostic : CompiledRuntimeDiagnostic)
    : Coupled R Eq (reportOnce diagnosed key condition diagnostic)
        (reportOnce diagnosed key condition diagnostic) := by
  unfold Peraviz.Runtime.reportOnce
  apply Coupled.ite
  . intro _
    apply (h.report _).bind_eq
    intro _
    apply Alike.pure
  . intro _
    apply Alike.pure

theorem scanGoboBinding {bindings : List GoboBindingRuntime}
    (hbindings : ∀ gobo ∈ bindings, gobo.context.Within Q) (scan : SelectionScan) (index : Nat)
    : Coupled R Eq (ctx.scanGoboBinding bindings scan index)
        (ctx.scanGoboBinding bindings scan index) := by
  unfold SourceContext.scanGoboBinding
  split
  . apply Alike.pure
  . next runtime hruntime =>
    have hwithin := hbindings runtime (List.mem_of_getElem? hruntime)
    apply (h.activation _ hwithin).bind_eq
    intro active
    apply Coupled.ite
    . intro _
      apply Alike.pure
    . intro _
      apply (h.source _ hwithin.1).bind_eq
      intro value
      split
      . apply Alike.pure
      . apply Alike.pure

theorem updateGoboSelections {layout : GoboLayout}
    (hlayout : ∀ gobo ∈ layout.bindings, gobo.context.Within Q)
    (goboAsset : Int32 → Int32 → Int32) (held : GoboHeld) (keys : List Int)
    : Coupled R Eq (ctx.updateGoboSelections layout goboAsset held keys)
        (ctx.updateGoboSelections layout goboAsset held keys) := by
  apply Coupled.foldlM_eq
  intro key _ update
  apply (Coupled.foldlM_eq (fun index _ scan => h.scanGoboBinding hlayout scan index) {}).bind_eq
  intro scan
  split
  . apply Alike.pure
  . apply (h.reportOnce _ _ _ _).bind_eq
    intro diagnosed
    apply Coupled.ite
    . intro _
      apply Alike.pure
    . intro _
      apply Alike.pure

theorem scanGoboMotion {bindings : List GoboMotionRuntime}
    (hbindings : ∀ motion ∈ bindings, motion.context.Within Q) (scan : MotionScan) (index : Nat)
    : Coupled R Eq (ctx.scanGoboMotion bindings scan index)
        (ctx.scanGoboMotion bindings scan index) := by
  unfold SourceContext.scanGoboMotion
  split
  . apply Alike.pure
  . next motion hmotion =>
    have hwithin := hbindings motion (List.mem_of_getElem? hmotion)
    apply (h.activation _ hwithin).bind_eq
    intro active
    apply (h.source _ hwithin.1).bind_eq
    intro value
    apply Alike.pure

theorem reportMotion (held : GoboHeld) (scan : MotionScan) (key : Int)
    : Coupled R Eq (reportMotion held scan key) (reportMotion held scan key) := by
  apply (h.reportOnce _ _ _ _).bind_eq
  intro pos
  apply (h.reportOnce _ _ _ _).bind_eq
  intro rotate
  apply (h.reportOnce _ _ _ _).bind_eq
  intro simultaneous
  apply Alike.pure

theorem updateGoboMotions {layout : GoboLayout}
    (hlayout : ∀ motion ∈ layout.motionBindings, motion.context.Within Q) (now : ℚ)
    (held : GoboHeld) (keys : List Int)
    : Coupled R Eq (ctx.updateGoboMotions layout now held keys)
        (ctx.updateGoboMotions layout now held keys) := by
  apply Coupled.foldlM_eq
  intro key _ update
  apply (Coupled.foldlM_eq (fun index _ scan => h.scanGoboMotion hlayout scan index) {}).bind_eq
  intro scan
  apply Coupled.ite
  . intro _
    apply Alike.pure
  . intro _
    apply Coupled.ite
    . intro _
      apply Alike.pure
    . intro _
      apply (h.reportMotion _ _ _).bind_eq
      intro held
      apply Alike.pure

/-! ### Properties -/

theorem evaluatePropertyValue {program : CompiledPropertyProgram}
    (hprogram : ∀ source ∈ program.sources, Q source)
    : Coupled R Eq
        (evaluatePropertyValue ctx.platform ctx.plan ctx.evaluateCachedSource program)
        (evaluatePropertyValue ctx.platform ctx.plan ctx.evaluateCachedSource program) := by
  unfold Peraviz.Runtime.evaluatePropertyValue
  apply Coupled.ite
  . intro _
    apply Coupled.foldlM_eq
    intro source hsource selected
    apply (h.source source (hprogram source hsource)).bind_eq
    intro value
    apply Alike.pure
  . intro _
    refine (Coupled.foldlM_eq ?_ ({} : WeightedTotal)).bind_eq ?_
    . intro entry hentry total
      apply (h.source entry.1 (hprogram entry.1 (List.of_mem_zip hentry).1)).bind_eq
      intro value
      apply Alike.pure
    . intro total
      apply Alike.pure

theorem updateProperties {properties : List CompiledPropertyProgram}
    (hproperties : ∀ program ∈ properties, ∀ source ∈ program.sources, Q source)
    (tables : FixtureTables) (held : PropertyHeld) (indices : List Nat)
    : Coupled R Eq (ctx.updateProperties tables properties held indices)
        (ctx.updateProperties tables properties held indices) := by
  apply Coupled.foldlM_eq
  intro index _ update
  unfold SourceContext.updateProperty
  split
  . apply Alike.pure
  . next program hprogram =>
    apply (h.evaluatePropertyValue (hproperties program (List.mem_of_getElem? hprogram))).bind_eq
    intro evaluated
    apply Alike.pure

/-! ### Colors -/

theorem skipInput {source : Nat} (hsource : Q source) (state : ColorInputState)
    : Coupled R Eq (skipInput state source) (skipInput state source) := by
  apply (h.changed source hsource).bind_eq
  intro changed
  apply Alike.pure

theorem updateColorInputs {target : ColorTargetRuntime}
    (htarget : ∀ input ∈ target.inputs, Q input.source) (inputs : ColorInputs) (index : Nat)
    : Coupled R Eq (ctx.updateColorInputs inputs index target)
        (ctx.updateColorInputs inputs index target) := by
  apply Coupled.foldlM_eq
  intro entry hentry update
  have hsource : Q entry.1.source := by
    apply htarget
    apply List.mem_of_getElem?
    exact List.mem_zipIdx_iff_getElem?.mp hentry
  apply (h.skipInput hsource _).bind_eq
  intro skip
  apply Coupled.ite
  . intro _
    apply Alike.pure
  . intro _
    apply (h.source _ hsource).bind_eq
    intro evaluated
    apply Coupled.ite
    . intro _
      apply Alike.pure
    . intro _
      apply Alike.pure

theorem updateColors {layout : ColorLayout}
    (hlayout : ∀ target ∈ layout.targets, ∀ input ∈ target.inputs, Q input.source)
    (resources : ColorResources) (wheels : WheelLayout) (update : ColorUpdate) (indices : List Nat)
    : Coupled R Eq (ctx.updateColors resources layout wheels none update indices)
        (ctx.updateColors resources layout wheels none update indices) := by
  apply Coupled.foldlM_eq
  intro index _ update
  unfold SourceContext.updateColor
  split
  . apply Alike.pure
  . next target htarget =>
    have hinputs := hlayout target (List.mem_of_getElem? htarget)
    apply (h.updateColorInputs hinputs update.inputs index).bind_eq
    intro result
    apply Coupled.ite
    . intro _
      apply Alike.pure
    . intro _
      apply Alike.pure

/-! ### Wheels -/

theorem scanWheel {bindings : List WheelBindingRuntime} (hbindings : ∀ wheel ∈ bindings, Q wheel.source)
    (active : Option (CompiledWheelTargetBinding × EvaluatedSourceValue)) (index : Nat)
    : Coupled R Eq (ctx.scanWheel bindings active index) (ctx.scanWheel bindings active index) := by
  unfold SourceContext.scanWheel
  split
  . apply Alike.pure
  . next candidate hcandidate =>
    apply (h.source _ (hbindings candidate (List.mem_of_getElem? hcandidate))).bind_eq
    intro evaluated
    apply Coupled.ite
    . intro _
      apply Alike.pure
    . intro _
      apply Coupled.ite
      . intro _
        apply (h.report _).bind_eq
        intro _
        apply Alike.pure
      . intro _
        apply Alike.pure

theorem resolveWheel (p : Platform) (binding : CompiledWheelTargetBinding)
    (slots : List CompiledWheelPaletteSlot) (evaluated : EvaluatedSourceValue)
    : Coupled R Eq (resolveWheel p binding slots evaluated)
        (resolveWheel p binding slots evaluated) := by
  unfold Peraviz.Runtime.resolveWheel
  apply Coupled.ite
  . intro _
    apply Alike.pure
  . intro _
    apply Coupled.ite
    . intro _
      unfold resolveSelect
      split
      . apply Alike.pure
      . split
        . apply Alike.pure
        . apply (h.report _).bind_eq
          intro _
          apply Alike.pure
    . intro _
      apply Alike.pure

theorem updateWheels {layout : WheelLayout} (hlayout : ∀ wheel ∈ layout.bindings, Q wheel.source)
    (palettes : Int32 → Option CompiledWheelPalette) (states : Int → WheelTargetState)
    (dirtyWheels : OrderedDirtyIndices)
    : Coupled R Eq (ctx.updateWheels layout palettes states dirtyWheels)
        (ctx.updateWheels layout palettes states dirtyWheels) := by
  apply Coupled.foldlM_eq
  intro key _ update
  apply (Coupled.foldlM_eq (fun index _ active => h.scanWheel hlayout active index) none).bind_eq
  intro active
  split
  . apply Alike.pure
  . split
    . apply Alike.pure
    . apply (h.resolveWheel _ _ _ _).bind_eq
      intro resolution
      split
      . apply Alike.pure
      . apply Alike.pure

end Alike

theorem Alike.updateDomains {p : Platform} {layout : UniverseLayout} {frame : List UInt8}
    (h : Alike R ⟨p, frame, layout.plan⟩ Q) (hlayout : layout.Within Q) (d : Definitions) (now : ℚ)
    (held : HeldState) (colorInputs : ColorInputs) (out : SectionedVisualFrame)
    : Coupled R Eq (updateDomains p d layout none now frame held colorInputs out)
        (updateDomains p d layout none now frame held colorInputs out) := by
  refine Coupled.bind_eq ?_ ?_
  . intro s t hst
    rw [injectSources_none, injectSources_none]
    exact ⟨rfl, hst⟩
  intro _
  apply h.dirty.bind_eq
  intro dirty
  apply (h.evaluateShutters hlayout.shutters now held.shutters out _).bind_eq
  intro shutters
  apply (h.updateGoboSelections hlayout.gobos d.goboAsset held.gobos _).bind_eq
  intro gobos
  apply (h.updateGoboMotions hlayout.motions now gobos.1 _).bind_eq
  intro motions
  apply (h.updateProperties hlayout.properties d.tables held.properties _).bind_eq
  intro properties
  apply (h.updateColors hlayout.colors d.resources layout.wheels _ _).bind_eq
  intro colors
  apply (h.updateWheels hlayout.wheels d.palettes held.wheels _).bind_eq
  intro wheels
  apply Alike.pure

end Peraviz.Runtime
