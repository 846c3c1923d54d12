import Peraviz.Coupling.Basic
import Peraviz.Runtime.Domains.Properties

/-!
This module contains what the multipliers of a fixture scale: two energies of a beam, which only the
rows of a dimmer show.
-/

namespace Peraviz.Runtime

def ComponentState.unscaled (state : ComponentState) : ComponentState :=
  { state with spotEnergy := 0, beamIntensity := 0 }

theorem ComponentState.eq_of_unscaled {a b : ComponentState} (h : a.unscaled = b.unscaled)
    : ∃ spot beam, a = { b with spotEnergy := spot, beamIntensity := beam } := by
  obtain ⟨_, _, _, _, _, _, _, spot, _, _, beam, _, _⟩ := a
  obtain ⟨_, _, _, _, _, _, _, _, _, _, _, _, _⟩ := b
  cases h
  exact ⟨spot, beam, rfl⟩

def FixtureRenderParams.packed (params : FixtureRenderParams) : FixtureRenderParams :=
  { params with spotMultiplier := 1, beamMultiplier := 20 }

def FixtureTables.packed (tables : FixtureTables) : FixtureTables :=
  { tables with renderParams := fun fixtureId => (tables.renderParams fixtureId).packed }

/-- The rows of the intensity section. -/
def PendingRow.intense (row : PendingRow) : Bool :=
  row.changes (VisualChangeDimmer ||| VisualChangeMaterial ||| VisualChangeBeamTopology)

/-- What of a row reaches a frame. -/
def PendingRow.shown (row : PendingRow) : PendingRow :=
  if row.intense then row else { row with state := row.state.unscaled }

def PropertyHeld.unscaled (held : PropertyHeld) : PropertyHeld where
  transformStateByFixture id := (held.transformStateByFixture id).unscaled
  propertyStateByProperty id := (held.propertyStateByProperty id).unscaled

def PendingTransforms.unscaled (pending : PendingTransforms) : PendingTransforms :=
  { pending with states := fun id => (pending.states id).unscaled }

structure PropertyUpdate.Alike (a b : PropertyUpdate) : Prop where
  held : a.held.unscaled = b.held.unscaled
  pending : a.pending.unscaled = b.pending.unscaled
  rows : a.rows.map PendingRow.shown = b.rows.map PendingRow.shown

theorem unscaled_cookRenderState (p : Platform) (state : ComponentState)
    (params : FixtureRenderParams) (spot beam : ℚ)
    : (cookRenderState p { state with spotEnergy := spot, beamIntensity := beam }
          params.packed).unscaled
        = (cookRenderState p state params).unscaled := rfl

theorem unscaled_update {states states' : Int32 → ComponentState} {id : Int32}
    {next next' : ComponentState}
    (hstates : (fun id => (states id).unscaled) = fun id => (states' id).unscaled)
    (hnext : next.unscaled = next'.unscaled)
    : (fun i => (Function.update states id next i).unscaled)
        = fun i => (Function.update states' id next' i).unscaled := by
  funext i
  by_cases h : i = id
  . subst h
    rw [Function.update_self, Function.update_self]
    exact hnext
  . rw [Function.update_of_ne h, Function.update_of_ne h]
    exact congrFun hstates i

theorem unscaled_holdState {states states' : Int32 → ComponentState} {id : Int32}
    {next next' : ComponentState}
    (hstates : (fun id => (states id).unscaled) = fun id => (states' id).unscaled)
    (hnext : next.unscaled = next'.unscaled)
    : (fun i => (holdState states id next i).unscaled)
        = fun i => (holdState states' id next' i).unscaled := by
  apply unscaled_update hstates
  obtain ⟨spot, beam, rfl⟩ := ComponentState.eq_of_unscaled hnext
  rfl

theorem applySemanticValue_scaled (state : ComponentState) (parameter : SemanticParameter)
    (value spot beam : ℚ)
    : applySemanticValue { state with spotEnergy := spot, beamIntensity := beam } parameter value
        = { applySemanticValue state parameter value with
            spotEnergy := spot, beamIntensity := beam } := by
  cases parameter <;> rfl

theorem propertyChange_unscaled (previous next : ComponentState) (mask : UInt32)
    : propertyChange previous.unscaled next.unscaled mask = propertyChange previous next mask := rfl

theorem transformChange_unscaled (previous next : ComponentState) (mask : UInt32)
    : transformChange previous.unscaled next.unscaled mask = transformChange previous next mask :=
  rfl

-- The rows of a zoom are not in the intensity section.
theorem propertyChange_zoom (previous next : ComponentState)
    : propertyChange previous next (visualMaskForParameter .zoom)
        &&& (VisualChangeDimmer ||| VisualChangeMaterial ||| VisualChangeBeamTopology) = 0 := by
  have hmask (changes : UInt32) : changes &&& visualMaskForParameter .zoom
      &&& (VisualChangeDimmer ||| VisualChangeMaterial ||| VisualChangeBeamTopology) = 0 := by
    rw [UInt32.and_assoc]
    exact UInt32.and_zero
  unfold propertyChange
  split
  . rfl
  . exact hmask _

theorem beamState_unscaled {p : Platform} {tables : FixtureTables}
    {program : CompiledPropertyProgram} {existing existing' : ComponentState}
    (hexisting : existing.unscaled = existing'.unscaled) (evaluated : EvaluatedSourceValue)
    : (beamState p tables.packed existing program evaluated).unscaled
        = (beamState p tables existing' program evaluated).unscaled := by
  obtain ⟨spot, beam, rfl⟩ := ComponentState.eq_of_unscaled hexisting
  unfold beamState
  generalize program.parameter = parameter
  cases parameter <;> rfl

theorem beamState_eq {p : Platform} {tables : FixtureTables} {program : CompiledPropertyProgram}
    {existing existing' : ComponentState} (hexisting : existing.unscaled = existing'.unscaled)
    (evaluated : EvaluatedSourceValue)
    (hparams : (tables.renderParams program.property.fixtureId).packed
      = tables.renderParams program.property.fixtureId)
    : beamState p tables.packed existing program evaluated
        = beamState p tables existing' program evaluated := by
  obtain ⟨spot, beam, rfl⟩ := ComponentState.eq_of_unscaled hexisting
  unfold beamState FixtureTables.packed
  dsimp only
  rw [hparams]
  generalize program.parameter = parameter
  cases parameter <;> rfl

theorem PropertyUpdate.Alike.mergeBeamProperty {p : Platform} {tables : FixtureTables}
    {a b : PropertyUpdate} (h : a.Alike b) {program : CompiledPropertyProgram}
    (hkind : program.parameter = .dimmer ∨ program.parameter = .zoom)
    (hparams : program.parameter = .dimmer
      → (tables.renderParams program.property.fixtureId).packed
        = tables.renderParams program.property.fixtureId)
    (evaluated : EvaluatedSourceValue)
    : (mergeBeamProperty p tables.packed a program evaluated).Alike
        (mergeBeamProperty p tables b program evaluated) := by
  have hstates : (fun id => (a.held.propertyStateByProperty id).unscaled)
      = fun id => (b.held.propertyStateByProperty id).unscaled :=
    congrArg PropertyHeld.propertyStateByProperty h.held
  have hprevious := congrFun hstates program.property.propertyId
  have hnext := @beamState_unscaled p tables program _ _ hprevious evaluated
  have hchanged : propertyChange (a.held.propertyStateByProperty program.property.propertyId)
      (beamState p tables.packed (a.held.propertyStateByProperty program.property.propertyId)
        program evaluated) (visualMaskForParameter program.parameter)
      = propertyChange (b.held.propertyStateByProperty program.property.propertyId)
        (beamState p tables (b.held.propertyStateByProperty program.property.propertyId)
          program evaluated) (visualMaskForParameter program.parameter) := by
    rw [← propertyChange_unscaled, hprevious, hnext, propertyChange_unscaled]
  unfold Runtime.mergeBeamProperty
  dsimp only
  rw [hchanged]
  constructor
  . have hheld : (fun id => (a.held.transformStateByFixture id).unscaled)
        = fun id => (b.held.transformStateByFixture id).unscaled :=
      congrArg PropertyHeld.transformStateByFixture h.held
    unfold PropertyHeld.unscaled
    rw [hheld, unscaled_holdState hstates hnext]
  . exact h.pending
  . split
    . rw [List.map_append, List.map_append, h.rows]
      congr 1
      rcases hkind with hkind | hkind
      . rw [beamState_eq hprevious evaluated (hparams hkind)]
      . have hquiet := propertyChange_zoom
          (b.held.propertyStateByProperty program.property.propertyId)
          (beamState p tables (b.held.propertyStateByProperty program.property.propertyId)
            program evaluated)
        simp only [List.map_cons, List.map_nil, PendingRow.shown, PendingRow.intense,
          PendingRow.changes, hkind, hquiet, hnext]
        rfl
    . exact h.rows

theorem PropertyUpdate.Alike.mergePendingTransform {a b : PropertyUpdate} (h : a.Alike b)
    (program : CompiledPropertyProgram) (evaluated : EvaluatedSourceValue)
    : (mergePendingTransform a program evaluated).Alike
        (mergePendingTransform b program evaluated) := by
  have hstates : (fun id => (a.pending.states id).unscaled)
      = fun id => (b.pending.states id).unscaled := congrArg PendingTransforms.states h.pending
  have hpending := congrFun hstates program.property.fixtureId
  have hexisting := congrFun (congrArg PropertyHeld.transformStateByFixture h.held)
    program.property.fixtureId
  have hfixtures : a.pending.unscaled.fixtures = b.pending.unscaled.fixtures := by
    rw [h.pending]
  have hnext : (applySemanticValue
      (if !(a.pending.states program.property.fixtureId).initialized
          && (a.held.transformStateByFixture program.property.fixtureId).initialized
        then a.held.transformStateByFixture program.property.fixtureId
        else a.pending.states program.property.fixtureId) program.parameter
      evaluated.physicalValue).unscaled
      = (applySemanticValue
        (if !(b.pending.states program.property.fixtureId).initialized
            && (b.held.transformStateByFixture program.property.fixtureId).initialized
          then b.held.transformStateByFixture program.property.fixtureId
          else b.pending.states program.property.fixtureId) program.parameter
        evaluated.physicalValue).unscaled := by
    obtain ⟨spot, beam, hpending⟩ := ComponentState.eq_of_unscaled hpending
    obtain ⟨spot', beam', hexisting⟩ := ComponentState.eq_of_unscaled hexisting
    rw [hpending, hexisting]
    dsimp only
    split
    . rw [applySemanticValue_scaled]
      rfl
    . rw [applySemanticValue_scaled]
      rfl
  constructor
  . exact h.held
  . change a.pending.fixtures = b.pending.fixtures at hfixtures
    unfold Runtime.mergePendingTransform PendingTransforms.unscaled
    dsimp only
    rw [hfixtures, unscaled_update hstates hnext]
  . exact h.rows

theorem PropertyUpdate.Alike.mergeProperty {p : Platform} {tables : FixtureTables}
    {a b : PropertyUpdate} (h : a.Alike b) {program : CompiledPropertyProgram}
    (hparams : program.parameter = .dimmer
      → (tables.renderParams program.property.fixtureId).packed
        = tables.renderParams program.property.fixtureId)
    (evaluated : EvaluatedSourceValue)
    : (mergeProperty p tables.packed a program evaluated).Alike
        (mergeProperty p tables b program evaluated) := by
  unfold Runtime.mergeProperty
  split
  . exact h
  . split
    next hkind => exact h.mergeBeamProperty hkind hparams evaluated
    next => exact h.mergePendingTransform program evaluated

theorem unscaled_cook {p : Platform} {state state' : ComponentState}
    (h : state.unscaled = state'.unscaled) (params : FixtureRenderParams)
    : (cookRenderState p state params.packed).unscaled
        = (cookRenderState p state' params).unscaled := by
  obtain ⟨spot, beam, rfl⟩ := ComponentState.eq_of_unscaled h
  rfl

/-- Rows of transforms are in no section that shows what is scaled. -/
theorem transformChange_intense (previous next : ComponentState) (mask : UInt32)
    : transformChange previous next mask
        &&& (VisualChangeDimmer ||| VisualChangeMaterial ||| VisualChangeBeamTopology) = 0 := by
  have hmask : mask &&& VisualChangeTransform
      &&& (VisualChangeDimmer ||| VisualChangeMaterial ||| VisualChangeBeamTopology) = 0 := by
    rw [UInt32.and_assoc]
    exact UInt32.and_zero
  unfold transformChange
  split
  . exact hmask
  . split <;> rfl

theorem mergeTransform_alike {p : Platform} {tables : FixtureTables}
    {pending pending' : PendingTransforms} (hpending : pending.unscaled = pending'.unscaled)
    {update update' : PropertyHeld × List PendingRow}
    (hheld : update.1.unscaled = update'.1.unscaled)
    (hrows : update.2.map PendingRow.shown = update'.2.map PendingRow.shown) (fixture : Int32)
    : (mergeTransform p tables.packed pending update fixture).1.unscaled
          = (mergeTransform p tables pending' update' fixture).1.unscaled
        ∧ (mergeTransform p tables.packed pending update fixture).2.map PendingRow.shown
          = (mergeTransform p tables pending' update' fixture).2.map PendingRow.shown := by
  have hstates : (fun id => (update.1.transformStateByFixture id).unscaled)
      = fun id => (update'.1.transformStateByFixture id).unscaled :=
    congrArg PropertyHeld.transformStateByFixture hheld
  have hproperties : (fun id => (update.1.propertyStateByProperty id).unscaled)
      = fun id => (update'.1.propertyStateByProperty id).unscaled :=
    congrArg PropertyHeld.propertyStateByProperty hheld
  have hstate := @unscaled_cook p _ _
    (congrFun (congrArg PendingTransforms.states hpending) fixture) (tables.renderParams fixture)
  have hchanged : transformChange (update.1.transformStateByFixture fixture)
      (cookRenderState p (pending.states fixture) (tables.renderParams fixture).packed)
      (tables.installedVisualMask fixture)
      = transformChange (update'.1.transformStateByFixture fixture)
        (cookRenderState p (pending'.states fixture) (tables.renderParams fixture))
        (tables.installedVisualMask fixture) := by
    rw [← transformChange_unscaled, congrFun hstates fixture, hstate, transformChange_unscaled]
  unfold mergeTransform
  constructor
  . unfold PropertyHeld.unscaled
    dsimp only
    rw [PropertyHeld.mk.injEq]
    exact ⟨unscaled_holdState hstates hstate, hproperties⟩
  . dsimp only [FixtureTables.packed]
    rw [hchanged]
    split
    . rw [List.map_append, List.map_append, hrows]
      have hquiet := transformChange_intense (update'.1.transformStateByFixture fixture)
        (cookRenderState p (pending'.states fixture) (tables.renderParams fixture))
        (tables.installedVisualMask fixture)
      simp only [List.map_cons, List.map_nil, PendingRow.shown, PendingRow.intense,
        PendingRow.changes, hquiet, hstate]
      rfl
    . exact hrows

theorem mergeTransforms_alike {p : Platform} {tables : FixtureTables}
    {pending pending' : PendingTransforms} {held held' : PropertyHeld}
    (hpending : pending.unscaled = pending'.unscaled) (hheld : held.unscaled = held'.unscaled)
    : (mergeTransforms p tables.packed pending held).1.unscaled
          = (mergeTransforms p tables pending' held').1.unscaled
        ∧ (mergeTransforms p tables.packed pending held).2.map PendingRow.shown
          = (mergeTransforms p tables pending' held').2.map PendingRow.shown := by
  have hfixtures : pending.unscaled.fixtures = pending'.unscaled.fixtures := by rw [hpending]
  change pending.fixtures = pending'.fixtures at hfixtures
  unfold mergeTransforms
  rw [hfixtures]
  apply List.foldl_rel (r := fun update update' : PropertyHeld × List PendingRow =>
    update.1.unscaled = update'.1.unscaled
      ∧ update.2.map PendingRow.shown = update'.2.map PendingRow.shown)
  . exact ⟨hheld, rfl⟩
  . intro fixture _ update update' h
    exact mergeTransform_alike hpending h.1 h.2 fixture

theorem updateProperties_alike {ctx : SourceContext} {tables : FixtureTables}
    {properties : List CompiledPropertyProgram} {held held' : PropertyHeld}
    (hheld : held.unscaled = held'.unscaled)
    (hparams : ∀ program ∈ properties, program.parameter = .dimmer
      → (tables.renderParams program.property.fixtureId).packed
        = tables.renderParams program.property.fixtureId) (indices : List Nat)
    : Coupled Eq PropertyUpdate.Alike
        (ctx.updateProperties tables.packed properties held indices)
        (ctx.updateProperties tables properties held' indices) := by
  apply Coupled.foldlM
  . exact ⟨hheld, rfl, rfl⟩
  . intro index _ a b hab
    unfold SourceContext.updateProperty
    cases hprogram : properties[index]? with
    | none => exact Coupled.pure hab
    | some program =>
      apply (Coupled.same _).bind_eq
      intro evaluated
      apply Coupled.pure
      exact hab.mergeProperty (hparams program (List.mem_of_getElem? hprogram)) evaluated

end Peraviz.Runtime
