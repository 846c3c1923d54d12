import Peraviz.Runtime.Frame.Sections
import Peraviz.Runtime.Motion.Contexts
import Peraviz.Runtime.Replay.Agreement

/-!
This module contains why the rows of a consume belong to sections that the installation has declared:
a property changes no other domain than that of its parameter, a fixture without a pan and a tilt
never moves, and a layer or an authority is visited only where one is installed.
-/

namespace Peraviz.Runtime

variable {capabilities : VisualFrameSchemaCapabilities}

/-- What a schema declares for a pending row, the color of the row apart. -/
structure PendingRow.Declared (capabilities : VisualFrameSchemaCapabilities) (row : PendingRow)
    : Prop where
  transform : row.changes VisualChangeTransform = true → capabilities.hasTransform = true
  intensity : row.changes (VisualChangeDimmer ||| VisualChangeMaterial
    ||| VisualChangeBeamTopology) = true → capabilities.hasIntensity = true
  optics : row.changes VisualChangeZoom = true → capabilities.hasOptics = true
  wheel : row.wheelRow = true → capabilities.hasWheelSelection = true

/-- What a schema declares for a property with a parameter. -/
structure SemanticParameter.Declared (capabilities : VisualFrameSchemaCapabilities)
    (parameter : SemanticParameter) : Prop where
  transform : parameter = .pan ∨ parameter = .tilt → capabilities.hasTransform = true
  intensity : parameter = .dimmer → capabilities.hasIntensity = true
  optics : parameter = .zoom → capabilities.hasOptics = true

/-! ### Masks -/

theorem and_eq_zero_of_within {mask limit bit : UInt32} (h : mask &&& limit = mask)
    (hbit : limit &&& bit = 0) : mask &&& bit = 0 := by
  rw [← h, UInt32.and_assoc, hbit, UInt32.and_zero]

theorem changes_eq_false {row : PendingRow} {limit bit : UInt32}
    (h : row.changedVisualMask &&& limit = row.changedVisualMask) (hbit : limit &&& bit = 0)
    : row.changes bit = false := by
  unfold PendingRow.changes
  rw [and_eq_zero_of_within h hbit]
  rfl

theorem propertyChange_within (previous next : ComponentState) (installedMask : UInt32)
    : propertyChange previous next installedMask &&& installedMask
        = propertyChange previous next installedMask := by
  unfold propertyChange
  split
  . exact UInt32.and_self
  . dsimp only
    rw [UInt32.and_assoc, UInt32.and_self]

theorem transformChange_within (previous next : ComponentState) (installedMask : UInt32)
    : transformChange previous next installedMask &&& VisualChangeTransform
        = transformChange previous next installedMask := by
  unfold transformChange
  split
  . rw [UInt32.and_assoc, UInt32.and_self]
  . split
    . exact UInt32.and_self
    . exact UInt32.zero_and

-- Each branch of the merges puts out the mask of its own domain and no other one.
theorem declared_of_mask {row : PendingRow} (hwheel : row.wheelRow = false)
    {limit : UInt32} (h : row.changedVisualMask &&& limit = row.changedVisualMask)
    (htransform : limit &&& VisualChangeTransform ≠ 0 → capabilities.hasTransform = true)
    (hintensity : limit &&& (VisualChangeDimmer ||| VisualChangeMaterial
      ||| VisualChangeBeamTopology) ≠ 0 → capabilities.hasIntensity = true)
    (hoptics : limit &&& VisualChangeZoom ≠ 0 → capabilities.hasOptics = true)
    : row.Declared capabilities := by
  constructor
  . intro hchanges
    apply htransform
    intro hbit
    rw [changes_eq_false h hbit] at hchanges
    cases hchanges
  . intro hchanges
    apply hintensity
    intro hbit
    rw [changes_eq_false h hbit] at hchanges
    cases hchanges
  . intro hchanges
    apply hoptics
    intro hbit
    rw [changes_eq_false h hbit] at hchanges
    cases hchanges
  . intro hrow
    rw [hwheel] at hrow
    cases hrow

theorem declared_color {row : PendingRow} (h : row.changedVisualMask = VisualChangeColor)
    (hwheel : row.wheelRow = true → capabilities.hasWheelSelection = true)
    : row.Declared capabilities := by
  constructor
  . unfold PendingRow.changes
    rw [h]
    intro hchanges
    exact absurd hchanges (by decide)
  . unfold PendingRow.changes
    rw [h]
    intro hchanges
    exact absurd hchanges (by decide)
  . unfold PendingRow.changes
    rw [h]
    intro hchanges
    exact absurd hchanges (by decide)
  . exact hwheel

/-! ### Properties and transforms -/

/-- Where no transform is declared, no fixture is held away from its rest. -/
def AtRest (capabilities : VisualFrameSchemaCapabilities) (states : Int32 → ComponentState)
    : Prop :=
  capabilities.hasTransform = false → ∀ fixture, (states fixture).pan = 0 ∧ (states fixture).tilt = 0

theorem AtRest.update {states : Int32 → ComponentState} (h : AtRest capabilities states)
    {fixture : Int32} {next : ComponentState}
    (hnext : capabilities.hasTransform = false → next.pan = 0 ∧ next.tilt = 0)
    : AtRest capabilities (Function.update states fixture next) := by
  intro hno other
  by_cases heq : other = fixture
  . subst heq
    rw [Function.update_self]
    exact hnext hno
  . rw [Function.update_of_ne heq]
    exact h hno other

structure PropertyUpdate.Declared (capabilities : VisualFrameSchemaCapabilities)
    (update : PropertyUpdate) : Prop where
  held : AtRest capabilities update.held.transformStateByFixture
  pending : AtRest capabilities update.pending.states
  rows : ∀ row ∈ update.rows, row.Declared capabilities

theorem declared_mergeBeamProperty {p : Platform} {tables : FixtureTables} {update : PropertyUpdate}
    {program : CompiledPropertyProgram} {evaluated : EvaluatedSourceValue}
    (hprogram : program.parameter.Declared capabilities)
    (hparameter : program.parameter = .dimmer ∨ program.parameter = .zoom)
    (h : update.Declared capabilities)
    : (mergeBeamProperty p tables update program evaluated).Declared capabilities := by
  unfold mergeBeamProperty
  refine ⟨h.held, h.pending, ?_⟩
  dsimp only
  split
  . apply forall_mem_concat h.rows
    apply declared_of_mask rfl (propertyChange_within _ _ _)
    . intro hbit
      rcases hparameter with heq | heq <;> rw [heq] at hbit <;> exact absurd rfl hbit
    . intro hbit
      rcases hparameter with heq | heq
      . exact hprogram.intensity heq
      . rw [heq] at hbit
        exact absurd rfl hbit
    . intro hbit
      rcases hparameter with heq | heq
      . rw [heq] at hbit
        exact absurd rfl hbit
      . exact hprogram.optics heq
  . exact h.rows

theorem rest_applySemanticValue {parameter : SemanticParameter}
    (hparameter : parameter.Declared capabilities) {state : ComponentState} {value : ℚ}
    (hno : capabilities.hasTransform = false) (hstate : state.pan = 0 ∧ state.tilt = 0)
    : (applySemanticValue state parameter value).pan = 0
        ∧ (applySemanticValue state parameter value).tilt = 0 := by
  have hmoves : ¬(parameter = .pan ∨ parameter = .tilt) := by
    intro hmoves
    rw [hparameter.transform hmoves] at hno
    cases hno
  cases parameter with
  | pan => exact absurd (Or.inl rfl) hmoves
  | tilt => exact absurd (Or.inr rfl) hmoves
  | _ => exact hstate

theorem declared_mergePendingTransform {update : PropertyUpdate} {program : CompiledPropertyProgram}
    {evaluated : EvaluatedSourceValue} (hprogram : program.parameter.Declared capabilities)
    (h : update.Declared capabilities)
    : (mergePendingTransform update program evaluated).Declared capabilities := by
  unfold mergePendingTransform
  refine ⟨h.held, ?_, h.rows⟩
  apply h.pending.update
  intro hno
  apply rest_applySemanticValue hprogram hno
  split
  . exact h.held hno _
  . exact h.pending hno _

theorem answers_declared_updateProperties {ctx : SourceContext} {tables : FixtureTables}
    {properties : List CompiledPropertyProgram} {held : PropertyHeld} {indices : List Nat}
    (hproperties : ∀ program ∈ properties, program.parameter.Declared capabilities)
    (hheld : AtRest capabilities held.transformStateByFixture)
    : Answers (PropertyUpdate.Declared capabilities)
        (ctx.updateProperties tables properties held indices) := by
  apply answers_updateProperties
  . intro program hmem update evaluated hupdate
    have hprogram := hproperties program hmem
    unfold mergeProperty
    split
    . exact hupdate
    . split
      next hparameter => exact declared_mergeBeamProperty hprogram hparameter hupdate
      next => exact declared_mergePendingTransform hprogram hupdate
  . exact ⟨hheld, fun _ _ => ⟨rfl, rfl⟩, by simp⟩

-- A fixture at rest that stays at rest has no row.
theorem transformChange_rest {previous next : ComponentState} {installedMask : UInt32}
    (hmask : installedMask &&& VisualChangeTransform = 0)
    (hprevious : previous.pan = 0 ∧ previous.tilt = 0) (hnext : next.pan = 0 ∧ next.tilt = 0)
    : transformChange previous next installedMask = VisualChangeNone := by
  unfold transformChange
  rw [hmask, hprevious.1, hprevious.2, hnext.1, hnext.2,
    nearlyEqual_self 0 kDefaultEpsilon (by norm_num [kDefaultEpsilon])]
  split
  . rfl
  . rfl

theorem declared_mergeTransforms {p : Platform} {tables : FixtureTables}
    {pending : PendingTransforms} {held : PropertyHeld}
    (hmask : capabilities.hasTransform = false
      → ∀ fixture, tables.installedVisualMask fixture &&& VisualChangeTransform = 0)
    (hpending : AtRest capabilities pending.states)
    (hheld : AtRest capabilities held.transformStateByFixture)
    : AtRest capabilities (mergeTransforms p tables pending held).1.transformStateByFixture
        ∧ ∀ row ∈ (mergeTransforms p tables pending held).2, row.Declared capabilities := by
  unfold mergeTransforms
  apply List.foldl_keeps (I := fun update : PropertyHeld × List PendingRow =>
    AtRest capabilities update.1.transformStateByFixture
      ∧ ∀ row ∈ update.2, row.Declared capabilities)
  . intro fixture _ update ⟨hrest, hrows⟩
    have hcooked : capabilities.hasTransform = false
        → (cookRenderState p (pending.states fixture) (tables.renderParams fixture)).pan = 0
          ∧ (cookRenderState p (pending.states fixture) (tables.renderParams fixture)).tilt = 0 :=
      fun hno => hpending hno fixture
    unfold mergeTransform
    dsimp only
    refine ⟨hrest.update hcooked, ?_⟩
    split
    next hchanged =>
      apply forall_mem_concat hrows
      apply declared_of_mask rfl (transformChange_within _ _ _)
      . intro _
        cases hno : capabilities.hasTransform with
        | true => rfl
        | false =>
          exact absurd (transformChange_rest (hmask hno fixture) (hrest hno fixture) (hcooked hno))
            hchanged
      . intro hbit
        exact absurd rfl hbit
      . intro hbit
        exact absurd rfl hbit
    next => exact hrows
  . exact ⟨hheld, by simp⟩

/-! ### Colors and wheels -/

theorem declared_composeColors {p : Platform} {layout : ColorLayout} {layers : WheelLayers}
    {prepared : Option PreparedSlots} {base : Int32 → CookedEmitterColor}
    {wheelStates : Int → WheelTargetState} {held : Int32 → CookedEmitterColor}
    {dirtyTargets : List Int32}
    : ∀ row ∈ (composeColors p layout layers prepared base wheelStates held dirtyTargets).2,
        row.Declared capabilities := by
  unfold composeColors
  apply List.foldl_keeps (I := fun update : (Int32 → CookedEmitterColor) × List PendingRow =>
    ∀ row ∈ update.2, row.Declared capabilities)
  . intro target _ update hrows
    unfold mergeColor
    dsimp only
    split
    . apply forall_mem_concat hrows
      exact declared_color rfl (fun h => nomatch h)
    . exact hrows
  . simp

theorem answers_declared_updateWheels {ctx : SourceContext} {layout : WheelLayout}
    {palettes : Int32 → Option CompiledWheelPalette} {states : Int → WheelTargetState}
    {dirtyWheels : OrderedDirtyIndices}
    (hwheels : layout.bindings ≠ [] → capabilities.hasWheelSelection = true)
    : Answers (fun update => ∀ row ∈ update.rows, row.Declared capabilities)
        (ctx.updateWheels layout palettes states dirtyWheels) := by
  apply answers_updateWheels
  . intro update physicalKey hrows
    unfold WheelUpdate.clear
    dsimp only
    split
    . exact hrows
    . exact hrows
  . intro update physicalKey binding next hcontrols hrows
    unfold WheelUpdate.merge
    dsimp only
    split
    . apply forall_mem_concat hrows
      obtain ⟨_, _, _, hget, _⟩ := hcontrols
      exact declared_color rfl (fun _ => hwheels (List.ne_nil_of_mem (List.mem_of_getElem? hget)))
    . exact hrows
  . simp

/-! ### The update of a universe -/

/-- What a schema declares for the consumers of a domain that has sections of its own. -/
def VisualFrameSchemaCapabilities.visits (capabilities : VisualFrameSchemaCapabilities)
    : EvaluationDomain → Bool
  | .goboSelection => capabilities.hasGoboSelection
  | .goboMotion => capabilities.hasGoboRotation
  | .shutter => capabilities.hasShutter
  | _ => true

structure UniverseLayout.Declared (capabilities : VisualFrameSchemaCapabilities)
    (layout : UniverseLayout) : Prop where
  properties : ∀ program ∈ layout.properties, program.parameter.Declared capabilities
  wheels : layout.wheels.bindings ≠ [] → capabilities.hasWheelSelection = true
  layers : ∀ consumer ∈ layout.plan.consumers, capabilities.visits consumer.domain = true

def Definitions.Declared (capabilities : VisualFrameSchemaCapabilities) (d : Definitions) : Prop :=
  capabilities.hasTransform = false
    → ∀ fixture, d.tables.installedVisualMask fixture &&& VisualChangeTransform = 0

structure Emission.Declared (capabilities : VisualFrameSchemaCapabilities) (e : Emission)
    : Prop where
  rows : ∀ row ∈ e.rows, row.Declared capabilities
  gobos : e.goboRows ≠ [] → capabilities.hasGoboSelection = true
  rotations : e.goboRotationRows ≠ [] → capabilities.hasGoboRotation = true

/-- The shutter rows that were put out behind a frame. -/
structure ShutterRows (capabilities : VisualFrameSchemaCapabilities)
    (start out : SectionedVisualFrame) (rows : List SectionRow) : Prop where
  out : out = rows.foldl appendShutterRow start
  fits : ∀ row ∈ rows, row.Fits .shutterState
  shutter : rows ≠ [] → capabilities.hasShutter = true

structure Emitted (capabilities : VisualFrameSchemaCapabilities) (start : SectionedVisualFrame)
    (held : HeldState) (out : SectionedVisualFrame) (e : Emission) : Prop where
  rest : AtRest capabilities held.properties.transformStateByFixture
  emission : e.Declared capabilities
  shutters : ∃ rows, ShutterRows capabilities start out rows

section Phases

variable {p : Platform} {d : Definitions} {now : ℚ} {layout : UniverseLayout}
  {start out : SectionedVisualFrame} {held : HeldState} {e : Emission}

theorem UniverseLayout.Declared.visits (hlayout : layout.Declared capabilities)
    {x : UpdateContext} (hx : x.In p d now layout) {domain : EvaluationDomain}
    (hkeys : targetsIn domain x.dirty ≠ []) : capabilities.visits domain = true := by
  obtain ⟨key, hkey⟩ := List.exists_mem_of_ne_nil _ hkeys
  obtain ⟨consumer, hconsumer, rfl, _⟩ := Runtime.mem_targetsIn.mp (hx.mem_targetsIn hkey)
  exact hlayout.layers consumer hconsumer

theorem answers_declared_evaluateShutters {ctx : SourceContext} {shutters : ShutterLayout}
    {held : ShutterHeld} {keys : List Int}
    (hkeys : keys ≠ [] → capabilities.hasShutter = true)
    (h : ∃ rows, ShutterRows capabilities start out rows)
    : Answers (fun update => ∃ rows, ShutterRows capabilities start update.2 rows)
        (ctx.evaluateShutters shutters now held out keys) := by
  apply answers_evaluateShutters
  . intro key _ held frame unsupportedFixtures diagnosed hI
    exact hI
  . intro key hkey held frame unsupportedFixtures diagnosed next parameters hI _
    obtain ⟨rows, hrows⟩ := hI
    refine ⟨rows ++ shutterRows ctx.platform (held.authorities (Int32.ofInt key)) parameters now
      (Int32.ofInt key), ?_, ?_, ?_⟩
    . rw [List.foldl_append, ← hrows.out]
    . intro row hrow
      rcases List.mem_append.mp hrow with hrow | hrow
      . exact hrows.fits row hrow
      . exact width_shutterRows row hrow
    . intro _
      exact hkeys (List.ne_nil_of_mem hkey)
  . exact h

theorem rows_updateGoboSelections {ctx : SourceContext} {gobos : GoboLayout}
    {goboAsset : Int32 → Int32 → Int32} {held : GoboHeld} {keys : List Int} {s : EvaluationState}
    (h : (ctx.updateGoboSelections gobos goboAsset held keys s).1.2 ≠ []) : keys ≠ [] := by
  rintro rfl
  exact h rfl

theorem rows_updateGoboMotions {ctx : SourceContext} {gobos : GoboLayout} {held : GoboHeld}
    {keys : List Int} {s : EvaluationState}
    (h : (ctx.updateGoboMotions gobos now held keys s).1.2 ≠ []) : keys ≠ [] := by
  rintro rfl
  exact h rfl

theorem append_ne_nil {α : Type} {front back : List α} {P : Prop} (hfront : front ≠ [] → P)
    (hback : back ≠ [] → P) (h : front ++ back ≠ []) : P := by
  by_cases hnil : front = []
  . rw [hnil, List.nil_append] at h
    exact hback h
  . exact hfront hnil

-- One universe puts out nothing that is not declared, if nothing undeclared was held.
theorem Emitted.phases (h : Emitted capabilities start held out e) {x : UpdateContext}
    {phases : DomainPhases} (hx : x.In p d now layout) (hlayout : layout.Declared capabilities)
    (hd : d.Declared capabilities) (hphases : x.Phases held out phases)
    : Emitted capabilities start (x.next held phases) phases.shutters.2
        (e.append (x.emission held phases)) := by
  have hlayout' := hlayout
  rw [← hx.layout] at hlayout'
  have hmask := hd
  rw [← hx.definitions] at hmask
  obtain ⟨s, hproperties⟩ := hphases.properties
  have hproperty : phases.properties.Declared capabilities := by
    rw [hproperties]
    exact (answers_declared_updateProperties hlayout'.properties h.rest).of s
  obtain ⟨hrest, htransforms⟩ : AtRest capabilities (x.transforms phases).1.transformStateByFixture
      ∧ ∀ row ∈ (x.transforms phases).2, row.Declared capabilities :=
    declared_mergeTransforms hmask hproperty.pending hproperty.held
  obtain ⟨t, hwheels⟩ := hphases.wheels
  have hwheel : ∀ row ∈ phases.wheels.rows, row.Declared capabilities := by
    rw [hwheels]
    exact (answers_declared_updateWheels hlayout'.wheels).of t
  refine ⟨hrest, ⟨?_, ?_, ?_⟩, ?_⟩
  . intro row hrow
    simp only [Emission.append, UpdateContext.emission, List.mem_append] at hrow
    rcases hrow with hrow | ((hrow | hrow) | hrow) | hrow
    . exact h.emission.rows row hrow
    . exact hproperty.rows row hrow
    . exact hwheel row hrow
    . exact declared_composeColors row hrow
    . exact htransforms row hrow
  . apply append_ne_nil h.emission.gobos
    intro hrows
    obtain ⟨r, hgobos⟩ := hphases.gobos
    have hkeys : targetsIn .goboSelection x.dirty ≠ [] := by
      apply rows_updateGoboSelections
      rw [← hgobos]
      exact hrows
    exact hlayout.visits hx hkeys
  . apply append_ne_nil h.emission.rotations
    intro hrows
    obtain ⟨r, hmotions⟩ := hphases.motions
    have hkeys : targetsIn .goboMotion x.dirty ≠ [] := by
      apply rows_updateGoboMotions
      rw [← hmotions]
      exact hrows
    exact hlayout.visits hx hkeys
  . obtain ⟨r, hshutters⟩ := hphases.shutters
    rw [hshutters]
    exact (answers_declared_evaluateShutters (fun hkeys => hlayout.visits hx hkeys) h.shutters).of r

end Phases

end Peraviz.Runtime
