import Peraviz.KeyedLog.Basic
import Peraviz.Runtime.Coherence.Cache
import Peraviz.Runtime.Domains.Rules
import Peraviz.Runtime.Motion.Step

/-!
This module contains the values that the domains of an update read, as functions of the frame alone,
the proof that the cache of the sources and that of the activations answer them, and the motions
that are published: every row shows the motion that is held of its layer, and the last row of a
layer the one that is held now.
-/

namespace Peraviz.Runtime

namespace SourceContext

/-- Whether a source is active on the frame, decoded anew. -/
def activation (ctx : SourceContext) (context : GoboEvaluationContext) : Bool :=
  evaluateGoboSourceActivation (context.dependencyProgramIds.headD 0) context.programs
    ((context.dependencyProgramIds.zip context.sources).map (fun entry =>
      ⟨entry.1, (ctx.value entry.2).rawValue⟩))

def motionScalar (ctx : SourceContext) (motion : GoboMotionRuntime) : EvaluatedGoboScalar :=
  evaluateActiveGoboMotionScalar motion.binding (ctx.plan.program motion.context.front)
    (ctx.value motion.context.front).rawValue (ctx.activation motion.context)

def addMotion (ctx : SourceContext) (bindings : List GoboMotionRuntime) (scan : MotionScan)
    (index : Nat) : MotionScan :=
  match bindings[index]? with
  | none => scan
  | some motion => scan.add motion.binding (ctx.motionScalar motion)

def motionScan (ctx : SourceContext) (layout : GoboLayout) (layerKey : Int) : MotionScan :=
  (layout.motionLayers layerKey).foldl (ctx.addMotion layout.motionBindings) {}

/-- The update of a layer by its scan, on the motions that are held and the rows put out. -/
def stepMotion (ctx : SourceContext) (layout : GoboLayout) (now : ℚ)
    (update : (Int → GoboRotationState) × List GoboRotationRow) (layerKey : Int)
    : (Int → GoboRotationState) × List GoboRotationRow :=
  let scan := ctx.motionScan layout layerKey
  let state := update.1 layerKey
  if !state.initialized && scan.pos.isNone && scan.rotate.isNone then
    update
  else
    let next := stepRotation ctx.platform state scan now
    let identity :=
      (motionIdentity layout.motionBindings (layout.motionLayers layerKey) scan).getD {}
    (Function.update update.1 layerKey next.1,
      if next.2 then update.2 ++ [goboRotationRow ctx.platform identity next.1] else update.2)

end SourceContext

namespace UniverseLayout

def contexts (layout : UniverseLayout) : List GoboEvaluationContext :=
  layout.gobos.bindings.map GoboBindingRuntime.context
    ++ layout.gobos.motionBindings.map GoboMotionRuntime.context
    ++ layout.shutters.bindings.map ShutterBindingRuntime.context

/-- The results of the activations are kept by source, which is enough. -/
def FrontsDiffer (layout : UniverseLayout) : Prop :=
  ∀ a ∈ layout.contexts, ∀ b ∈ layout.contexts, a.front = b.front → a = b

theorem mem_contexts_gobo {layout : UniverseLayout} {gobo : GoboBindingRuntime}
    (h : gobo ∈ layout.gobos.bindings) : gobo.context ∈ layout.contexts :=
  List.mem_append_left _ (List.mem_append_left _ (List.mem_map_of_mem h))

theorem mem_contexts_motion {layout : UniverseLayout} {motion : GoboMotionRuntime}
    (h : motion ∈ layout.gobos.motionBindings) : motion.context ∈ layout.contexts :=
  List.mem_append_left _ (List.mem_append_right _ (List.mem_map_of_mem h))

theorem mem_contexts_shutter {layout : UniverseLayout} {shutter : ShutterBindingRuntime}
    (h : shutter ∈ layout.shutters.bindings) : shutter.context ∈ layout.contexts :=
  List.mem_append_right _ (List.mem_map_of_mem h)

theorem within_contexts {layout : UniverseLayout} {Q : Nat → Prop} (h : layout.Within Q)
    : ∀ context ∈ layout.contexts, context.Within Q := by
  intro context hcontext
  simp only [contexts, List.mem_append, List.mem_map] at hcontext
  rcases hcontext with (⟨gobo, hgobo, rfl⟩ | ⟨motion, hmotion, rfl⟩) | ⟨shutter, hshutter, rfl⟩
  . exact h.gobos gobo hgobo
  . exact h.motions motion hmotion
  . exact h.shutters shutter hshutter

end UniverseLayout

/-- Both caches answer what a decoding of the frame would. -/
structure Exact (ctx : SourceContext) (layout : UniverseLayout) (s : EvaluationState) : Prop where
  coherent : Coherent ctx layout.Covered s
  activations : ∀ context ∈ layout.contexts,
    s.workspace.activationCached context.front = true →
      s.workspace.activations context.front = ctx.activation context

variable {ctx : SourceContext} {layout : UniverseLayout}

theorem exact_source {source : Nat} (hsource : layout.Covered source)
    : Keeps (Exact ctx layout) (fun value => value = ctx.value source)
        (ctx.evaluateCachedSource source) := by
  intro s h
  obtain ⟨hvalue, hcoherent, hstamps⟩ := h.coherent.evaluateCachedSource hsource
  refine ⟨hvalue, hcoherent, ?_⟩
  intro context hcontext hcached
  rw [hstamps.activations]
  apply h.activations context hcontext
  unfold EvaluationWorkspace.activationCached at hcached ⊢
  rw [hstamps.activationGenerations, hstamps.generation] at hcached
  exact hcached

theorem exact_report (diagnostic : CompiledRuntimeDiagnostic)
    : Keeps (Exact ctx layout) (fun _ => True) (report diagnostic) :=
  fun _ h => ⟨trivial, h.coherent.quiet ⟨rfl, rfl⟩, h.activations⟩

theorem exact_fillGoboContext {context : GoboEvaluationContext}
    (hcontext : context.Within layout.Covered)
    : Keeps (Exact ctx layout) (fun values => values
        = (context.dependencyProgramIds.zip context.sources).map (fun entry =>
          ⟨entry.1, (ctx.value entry.2).rawValue⟩)) (ctx.fillGoboContext context) := by
  have hfold : Keeps (Exact ctx layout) (fun values => values
      = (context.dependencyProgramIds.zip context.sources).foldl (fun values entry =>
        values ++ [⟨entry.1, (ctx.value entry.2).rawValue⟩]) [])
      (ctx.fillGoboContext context) := by
    apply Keeps.foldlM_pure
    intro entry hentry values
    apply (exact_source (hcontext.2 entry.2 (List.of_mem_zip hentry).2)).bind
    intro value hvalue
    apply Keeps.pure
    rw [hvalue]
  apply hfold.mono
  intro values hvalues
  rw [hvalues, List.foldl_append_eq_append, List.nil_append, ← List.flatMap_def,
    List.map_eq_flatMap]

theorem exact_activation (hwithin : layout.Within layout.Covered) (hfronts : layout.FrontsDiffer)
    {context : GoboEvaluationContext} (hcontext : context ∈ layout.contexts)
    : Keeps (Exact ctx layout) (fun active => active = ctx.activation context)
        (ctx.evaluateCachedActivation context) := by
  intro s h
  unfold SourceContext.evaluateCachedActivation
  split
  next hcached => exact ⟨h.activations context hcontext hcached, h⟩
  next =>
    have hfill := exact_fillGoboContext (UniverseLayout.within_contexts hwithin context hcontext) s h
    unfold SourceContext.evaluateActivation
    obtain ⟨hvalues, hexact⟩ := hfill
    have hactive : evaluateGoboSourceActivation (context.dependencyProgramIds.headD 0)
        context.programs (ctx.fillGoboContext context s).1 = ctx.activation context := by
      rw [hvalues]
      rfl
    refine ⟨hactive, ⟨hexact.coherent.values, hexact.coherent.warnings,
      hexact.coherent.stamped.storeActivation _ _⟩, ?_⟩
    intro other hother hcached
    by_cases hfront : other.front = context.front
    . rw [hfronts other hother context hcontext hfront]
      exact (Function.update_self context.front _ _).trans hactive
    . apply (Function.update_of_ne hfront _ _).trans
      apply hexact.activations other hother
      rw [← hcached]
      exact congrArg (· == _) (Function.update_of_ne hfront _ _).symm

section Domains

variable (hwithin : layout.Within layout.Covered) (hfronts : layout.FrontsDiffer)
include hwithin

/-! ### The domains in front of the motion -/

theorem exact_shutterModeAllows {runtime : ShutterBindingRuntime}
    (hruntime : runtime ∈ layout.shutters.bindings)
    : Keeps (Exact ctx layout) (fun _ => True) (ctx.shutterModeAllows runtime) := by
  unfold SourceContext.shutterModeAllows
  split
  . exact Keeps.pure trivial
  . split
    . exact Keeps.pure trivial
    next source hsource =>
      have hcovered := (hwithin.shutters runtime hruntime).2 source (List.mem_of_getElem? hsource)
      apply (exact_source hcovered).bind
      intro mode _
      exact Keeps.pure trivial

include hfronts

theorem exact_scanShutter (scan : ShutterScan) (index : Nat)
    : Keeps (Exact ctx layout) (fun _ => True)
        (ctx.scanShutter layout.shutters.bindings scan index) := by
  unfold SourceContext.scanShutter
  split
  . exact Keeps.pure trivial
  next runtime hruntime =>
    have hmem := List.mem_of_getElem? hruntime
    apply (exact_source (hwithin.shutters runtime hmem).1).bind
    intro value _
    apply (exact_activation hwithin hfronts (UniverseLayout.mem_contexts_shutter hmem)).bind
    intro active _
    split
    . exact Keeps.pure trivial
    . apply (exact_shutterModeAllows hwithin hmem).bind
      intro allowed _
      exact Keeps.pure trivial

theorem exact_evaluateShutters (now : ℚ) (held : ShutterHeld) (frame : SectionedVisualFrame)
    (keys : List Int)
    : Keeps (Exact ctx layout) (fun _ => True)
        (ctx.evaluateShutters layout.shutters now held frame keys) := by
  apply Keeps.foldlM trivial
  intro key _ update _
  have hscan : Keeps (Exact ctx layout) (fun _ => True)
      ((layout.shutters.layers key).foldlM (ctx.scanShutter layout.shutters.bindings) {}) := by
    apply Keeps.foldlM trivial
    intro index _ scan _
    exact exact_scanShutter hwithin hfronts scan index
  apply hscan.bind
  intro scan _
  have hreport : Keeps (Exact ctx layout) (fun _ => True) (reportShutter update.1
      (update.1.authorities (Int32.ofInt key)) (scan.unsupported
        (scan.candidate (update.1.authorities (Int32.ofInt key)).seed))) := by
    unfold reportShutter
    split
    . apply (exact_report _).bind
      intro _ _
      exact Keeps.pure trivial
    . exact Keeps.pure trivial
  apply hreport.bind
  intro unsupportedFixtures _
  dsimp only
  split
  . exact Keeps.pure trivial
  . exact Keeps.pure trivial

theorem exact_scanGoboBinding (scan : SelectionScan) (index : Nat)
    : Keeps (Exact ctx layout) (fun _ => True)
        (ctx.scanGoboBinding layout.gobos.bindings scan index) := by
  unfold SourceContext.scanGoboBinding
  split
  . exact Keeps.pure trivial
  next runtime hruntime =>
    have hmem := List.mem_of_getElem? hruntime
    apply (exact_activation hwithin hfronts (UniverseLayout.mem_contexts_gobo hmem)).bind
    intro active _
    split
    . exact Keeps.pure trivial
    . apply (exact_source (hwithin.gobos runtime hmem).1).bind
      intro value _
      split
      . exact Keeps.pure trivial
      . exact Keeps.pure trivial

omit hwithin hfronts in
theorem exact_reportOnce (diagnosed : Int → Bool) (key : Int) (condition : Bool)
    (diagnostic : CompiledRuntimeDiagnostic)
    : Keeps (Exact ctx layout) (fun _ => True)
        (reportOnce diagnosed key condition diagnostic) := by
  unfold reportOnce
  split
  . apply (exact_report _).bind
    intro _ _
    exact Keeps.pure trivial
  . exact Keeps.pure trivial

theorem exact_updateGoboSelections (goboAsset : Int32 → Int32 → Int32) (held : GoboHeld)
    (keys : List Int)
    : Keeps (Exact ctx layout)
        (fun update => update.1.rotationStateByLayer = held.rotationStateByLayer)
        (ctx.updateGoboSelections layout.gobos goboAsset held keys) := by
  apply Keeps.foldlM
  . rfl
  intro key _ update hheld
  have hscan : Keeps (Exact ctx layout) (fun _ => True)
      ((layout.gobos.layers key).foldlM (ctx.scanGoboBinding layout.gobos.bindings) {}) := by
    apply Keeps.foldlM trivial
    intro index _ scan _
    exact exact_scanGoboBinding hwithin hfronts scan index
  apply hscan.bind
  intro scan _
  split
  . exact Keeps.pure hheld
  . apply (exact_reportOnce _ _ _ _).bind
    intro diagnosed _
    dsimp only
    split
    . exact Keeps.pure hheld
    . exact Keeps.pure hheld

/-! ### The motion -/

theorem exact_scanGoboMotion (scan : MotionScan) (index : Nat)
    : Keeps (Exact ctx layout) (fun next => next = ctx.addMotion layout.gobos.motionBindings scan index)
        (ctx.scanGoboMotion layout.gobos.motionBindings scan index) := by
  unfold SourceContext.scanGoboMotion SourceContext.addMotion
  cases hmotion : layout.gobos.motionBindings[index]? with
  | none => exact Keeps.pure rfl
  | some motion =>
    have hmem := List.mem_of_getElem? hmotion
    apply (exact_activation hwithin hfronts (UniverseLayout.mem_contexts_motion hmem)).bind
    intro active hactive
    apply (exact_source (hwithin.motions motion hmem).1).bind
    intro value hvalue
    apply Keeps.pure
    rw [hactive, hvalue]
    rfl

omit hwithin hfronts in
theorem exact_reportMotion (held : GoboHeld) (scan : MotionScan) (key : Int)
    : Keeps (Exact ctx layout)
        (fun next => next.rotationStateByLayer = held.rotationStateByLayer)
        (reportMotion held scan key) := by
  apply (exact_reportOnce _ _ _ _).bind
  intro pos _
  apply (exact_reportOnce _ _ _ _).bind
  intro rotate _
  apply (exact_reportOnce _ _ _ _).bind
  intro simultaneous _
  exact Keeps.pure rfl

theorem exact_updateGoboMotions (now : ℚ) (held : GoboHeld) (keys : List Int)
    : Keeps (Exact ctx layout) (fun update => (update.1.rotationStateByLayer, update.2)
          = keys.foldl (ctx.stepMotion layout.gobos now) (held.rotationStateByLayer, []))
        (ctx.updateGoboMotions layout.gobos now held keys) := by
  refine @Keeps.foldlM_view _ _ _ _ _ _ _ (fun update : GoboHeld × List GoboRotationRow =>
    (update.1.rotationStateByLayer, update.2)) _ ?_ _
  intro key _ update
  have hscan := Keeps.foldlM_pure (fun index (_ : index ∈ layout.gobos.motionLayers key) scan =>
    @exact_scanGoboMotion ctx layout hwithin hfronts scan index)
  apply (hscan {}).bind
  rintro _ rfl
  unfold SourceContext.stepMotion SourceContext.motionScan
  dsimp only
  split
  . exact Keeps.pure rfl
  . generalize stepRotation ctx.platform _ _ now = stepped
    obtain ⟨next, changed⟩ := stepped
    cases changed with
    | false => exact Keeps.pure rfl
    | true =>
      apply (exact_reportMotion _ _ _).bind
      intro held hheld
      apply Keeps.pure
      rw [hheld]
      rfl

end Domains

end Peraviz.Runtime

/-! ### The motions that are published -/

namespace Peraviz.Runtime

def GoboRotationRow.layer (row : GoboRotationRow) : Int :=
  layerKey row.beamTargetId row.wheelInstanceIndex

def GoboRotationRow.motionAt (row : GoboRotationRow) (t : ℚ) : ℚ :=
  row.phaseDegrees + row.angularVelocityDps * (t - row.referenceSeconds)

/-- A row with the motion that is held. -/
structure GoboRotationRow.Shows (row : GoboRotationRow) (s : GoboRotationState) : Prop where
  initialized : s.initialized = true
  mode : row.mode = s.mode
  phase : row.phaseDegrees = s.phaseDegrees
  velocity : row.angularVelocityDps = s.angularVelocityDps
  reference : row.referenceSeconds = s.referenceSeconds

/-- What was published last of a layer, nothing before its first row. -/
def Published (last : Option GoboRotationRow) (s : GoboRotationState) : Prop :=
  match last with
  | none => s.initialized = false
  | some row => row.Shows s

def keyedRotations (rows : List GoboRotationRow) : List (Int × GoboRotationRow) :=
  rows.map (fun row => (row.layer, row))

/-- The indices of every layer are those of its bindings. -/
def GoboLayout.LaidOut (layout : GoboLayout) : Prop :=
  ∀ key index, index ∈ layout.motionLayers key ↔
    ∃ motion, layout.motionBindings[index]? = some motion ∧ motion.binding.layer = key

variable {p : Platform} {ctx : SourceContext} {layout : GoboLayout} {now : ℚ} {key layer : Int}
  {last : Int → Option GoboRotationRow}
  {update : (Int → GoboRotationState) × List GoboRotationRow}

theorem GoboRotationRow.Shows.motionAt {row : GoboRotationRow} {s : GoboRotationState}
    (h : row.Shows s) (t : ℚ) : row.motionAt t = s.motionAt t := by
  unfold GoboRotationRow.motionAt GoboRotationState.motionAt
  rw [h.phase, h.velocity, h.reference]

/-! ### The identity of a row -/

def MotionScan.Of (key : Int) (scan : MotionScan) : Prop :=
  (∀ found, scan.pos = some found → found.1.layer = key)
    ∧ ∀ found, scan.rotate = some found → found.1.layer = key

theorem orElse_of {α : Type} {P : α → Prop} {held : Option α} {next : α}
    (hheld : ∀ a, held = some a → P a) (hnext : P next)
    : ∀ a, (held <|> some next) = some a → P a := by
  intro a ha
  cases held with
  | none =>
    cases ha
    exact hnext
  | some b =>
    cases ha
    exact hheld a rfl

theorem MotionScan.Of.add {scan : MotionScan} (h : scan.Of key)
    {binding : CompiledGoboMotionBinding} (hbinding : binding.layer = key)
    (evaluated : EvaluatedGoboScalar) : (scan.add binding evaluated).Of key := by
  unfold MotionScan.add
  split
  . exact h
  . split
    . exact ⟨orElse_of h.1 hbinding, h.2⟩
    . split
      . exact ⟨h.1, orElse_of h.2 hbinding⟩
      . exact h

theorem of_motionScan (hlayout : layout.LaidOut) : (ctx.motionScan layout key).Of key := by
  apply List.foldl_keeps
  . intro index hindex scan hscan
    obtain ⟨motion, hmotion, hlayer⟩ := (hlayout key index).mp hindex
    unfold SourceContext.addMotion
    rw [hmotion]
    exact hscan.add hlayer _
  . constructor
    . rintro _ ⟨⟩
    . rintro _ ⟨⟩

theorem layer_motionIdentity (hlayout : layout.LaidOut) {scan : MotionScan} (hscan : scan.Of key)
    (hkey : ∃ motion ∈ layout.motionBindings, motion.binding.layer = key)
    : ((motionIdentity layout.motionBindings (layout.motionLayers key) scan).getD {}).layer
        = key := by
  unfold motionIdentity
  cases hrotate : scan.rotate with
  | some found => exact hscan.2 found hrotate
  | none =>
    cases hpos : scan.pos with
    | some found => exact hscan.1 found hpos
    | none =>
      obtain ⟨first, hfirst, hlayer⟩ := hkey
      obtain ⟨i, hi⟩ := List.mem_iff_getElem?.mp hfirst
      have hmem := (hlayout key i).mpr ⟨first, hi, hlayer⟩
      cases hlist : layout.motionLayers key with
      | nil =>
        rw [hlist] at hmem
        cases hmem
      | cons index rest =>
        have hindex : index ∈ layout.motionLayers key := by
          rw [hlist]
          exact List.mem_cons_self
        obtain ⟨motion, hmotion, hkey⟩ := (hlayout key index).mp hindex
        simpa [hmotion] using hkey

/-! ### One update of a layer -/

theorem fst_stepMotion
    : (ctx.stepMotion layout now update key).1 layer
        = if key = layer then
            nextRotation ctx.platform (update.1 layer) (ctx.motionScan layout layer) now
          else
            update.1 layer := by
  unfold SourceContext.stepMotion nextRotation
  by_cases hkey : key = layer
  . rw [if_pos hkey, hkey]
    dsimp only
    split
    . rfl
    . exact Function.update_self layer _ _
  . rw [if_neg hkey]
    dsimp only
    split
    . rfl
    . exact Function.update_of_ne (Ne.symm hkey) _ _

theorem shows_goboRotationRow (hexact : ∀ x, p.toFloat x = x)
    (identity : CompiledGoboMotionBinding) {s : GoboRotationState} (h : s.initialized = true)
    : (goboRotationRow p identity s).Shows s :=
  ⟨h, rfl, hexact _, hexact _, hexact _⟩

-- What an update without a row leaves of a motion is shown by the row before it.
theorem Published.remember {row : Option GoboRotationRow} {s : GoboRotationState}
    (h : Published row s) (scan : MotionScan) : Published row (remember s scan) := by
  cases row with
  | none => exact h
  | some row => exact ⟨h.initialized, h.mode, h.phase, h.velocity, h.reference⟩

theorem stepRotation_published (hexact : ∀ x, p.toFloat x = x) {row : Option GoboRotationRow}
    {s : GoboRotationState} (h : Published row s) (hvalid : s.Valid now) (scan : MotionScan)
    (identity : CompiledGoboMotionBinding)
    : Published (if (stepRotation p s scan now).2 then
          some (goboRotationRow p identity (stepRotation p s scan now).1)
        else
          row) (stepRotation p s scan now).1 := by
  rw [@stepRotation_eq p s scan now hvalid]
  split
  . exact shows_goboRotationRow hexact identity rfl
  . exact h.remember scan

theorem stepMotion_published (hexact : ∀ x, ctx.platform.toFloat x = x) (hlayout : layout.LaidOut)
    (hkey : ∃ motion ∈ layout.motionBindings, motion.binding.layer = key)
    (hvalid : (update.1 key).Valid now)
    (h : Published (KeyedLog.fold last (keyedRotations update.2) layer) (update.1 layer))
    : Published
        (KeyedLog.fold last (keyedRotations (ctx.stepMotion layout now update key).2) layer)
        ((ctx.stepMotion layout now update key).1 layer) := by
  unfold SourceContext.stepMotion
  dsimp only
  split
  . exact h
  . have hidentity := layer_motionIdentity hlayout (@of_motionScan ctx layout key hlayout) hkey
    generalize (motionIdentity layout.motionBindings (layout.motionLayers key) _).getD {}
      = identity at hidentity ⊢
    generalize ctx.motionScan layout key = scan
    dsimp only
    by_cases hlayer : layer = key
    . have hstep := stepRotation_published hexact (hlayer ▸ h) hvalid scan identity
      rw [hlayer, Function.update_self]
      generalize stepRotation ctx.platform (update.1 key) scan now = next at hstep ⊢
      cases hchanged : next.2 with
      | false =>
        rw [hchanged] at hstep
        exact hstep
      | true =>
        rw [hchanged] at hstep
        have hrow : (goboRotationRow ctx.platform identity next.1).layer = key := hidentity
        simp only [if_true, keyedRotations, List.map_append, List.map_cons, List.map_nil,
          KeyedLog.fold_append, KeyedLog.fold_singleton, hrow, Function.update_self] at hstep ⊢
        exact hstep
    . rw [Function.update_of_ne hlayer]
      split
      . have hrow (next : GoboRotationState)
            : (goboRotationRow ctx.platform identity next).layer = key := hidentity
        simp only [keyedRotations, List.map_append, List.map_cons, List.map_nil,
          KeyedLog.fold_append, KeyedLog.fold_singleton, hrow, Function.update_of_ne hlayer]
        exact h
      . exact h

/-! ### The updates of a universe -/

theorem valid_stepMotion (hexact : ∀ x, ctx.platform.toFloat x = x)
    (h : (update.1 layer).Valid now)
    : ((ctx.stepMotion layout now update key).1 layer).Valid now := by
  rw [fst_stepMotion]
  split
  . exact (tracks_nextRotation hexact h).valid
  . exact h

-- The layers that are updated are updated once, however often they are asked for.
theorem fst_foldl_stepMotion (hexact : ∀ x, ctx.platform.toFloat x = x) {keys : List Int}
    (h : (update.1 layer).Valid now)
    : (keys.foldl (ctx.stepMotion layout now) update).1 layer
        = if layer ∈ keys then
            nextRotation ctx.platform (update.1 layer) (ctx.motionScan layout layer) now
          else
            update.1 layer := by
  induction keys generalizing update with
  | nil => simp
  | cons key keys ih =>
    rw [List.foldl_cons, ih (valid_stepMotion hexact h), fst_stepMotion]
    by_cases hkey : key = layer
    . have hmem : layer ∈ key :: keys := by simp [hkey]
      rw [if_pos hkey, nextRotation_nextRotation hexact h, if_pos hmem, ite_self]
    . rw [if_neg hkey]
      simp [Ne.symm hkey]

theorem foldl_stepMotion_published (hexact : ∀ x, ctx.platform.toFloat x = x)
    (hlayout : layout.LaidOut) {keys : List Int}
    (hkeys : ∀ key ∈ keys, ∃ motion ∈ layout.motionBindings, motion.binding.layer = key)
    (hvalid : ∀ layer, (update.1 layer).Valid now)
    (h : Published (KeyedLog.fold last (keyedRotations update.2) layer) (update.1 layer))
    : Published
        (KeyedLog.fold last
          (keyedRotations (keys.foldl (ctx.stepMotion layout now) update).2) layer)
        ((keys.foldl (ctx.stepMotion layout now) update).1 layer) := by
  induction keys generalizing update with
  | nil => exact h
  | cons key keys ih =>
    apply ih
    . exact fun other hother => hkeys other (List.mem_cons_of_mem key hother)
    . exact fun layer => valid_stepMotion hexact (hvalid layer)
    . exact stepMotion_published hexact hlayout (hkeys key List.mem_cons_self) (hvalid key) h

end Peraviz.Runtime
