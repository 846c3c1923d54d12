import Peraviz.Dmx.Decoder.Rows
import Peraviz.Transition.Machine

/-!
This module contains the runs of the decoder: in a run without creeping values, the last row that
was emitted for a fixture is never further from the row of the current frame than the epsilons.
-/

namespace Peraviz.Dmx.Decoder

open PeravizDmxUniverseDecoder

/-! ### One call -/

section

variable {math : MathLibrary} {decoder : PeravizDmxUniverseDecoder} {universeId : Int32}
variable {currentFrame : List UInt8}

/-- The bindings of a universe, none where it has no table. -/
def bindingsOf (bindingsByUniverse : Int32 → Option (List FixtureChannelBinding))
    (universeId : Int32) : List FixtureChannelBinding :=
  (bindingsByUniverse universeId).getD []

/-- A row is computed for the fixture. -/
def isComputed (decoder : PeravizDmxUniverseDecoder) (universeId : Int32)
    (currentFrame : List UInt8) (id : Int32) : Bool :=
  fixtureChanged (bindingsOf decoder.bindingsByUniverse universeId)
    (decoder.previousFrames universeId) currentFrame id

/-- The values of the computed row. -/
def computedValues (math : MathLibrary) (decoder : PeravizDmxUniverseDecoder) (universeId : Int32)
    (currentFrame : List UInt8) (id : Int32) : VisualValues :=
  valuesOf math decoder.renderParams (bindingsOf decoder.bindingsByUniverse universeId)
    currentFrame id

structure ReadyRows (math : MathLibrary) (decoder : PeravizDmxUniverseDecoder) (universeId : Int32)
    (currentFrame : List UInt8) (rows : List VisualRow) : Prop where
  nodup : (rows.map VisualRow.fixtureId).Nodup
  mem_iff : ∀ id, id ∈ rows.map VisualRow.fixtureId
    ↔ isComputed decoder universeId currentFrame id = true
  values : ∀ row ∈ rows, row.toVisualValues
    = computedValues math decoder universeId currentFrame row.fixtureId

theorem compactRows_decode (h : currentFrame ≠ [])
    : (decoder.decodeUniverseCompact universeId currentFrame).1
        = compactRows (bindingsOf decoder.bindingsByUniverse universeId)
            (decoder.previousFrames universeId) currentFrame := by
  unfold decodeUniverseCompact bindingsOf
  cases decoder.bindingsByUniverse universeId with
  | none => rfl
  | some bindings =>
    dsimp only [Option.getD_some]
    rw [if_neg h]

theorem kept_decode
    : (decoder.decodeUniverseCompact universeId currentFrame).2
        = { decoder with
            previousFrames := fun u =>
              if u = universeId then currentFrame else decoder.previousFrames u } := by
  unfold decodeUniverseCompact
  cases decoder.bindingsByUniverse universeId with
  | none => rfl
  | some bindings =>
    dsimp only
    split
    next => rfl
    next => rfl

theorem readyRows_decode (h : currentFrame ≠ [])
    : ReadyRows math decoder universeId currentFrame
        (decoder.decodeUniverseRenderReady math universeId currentFrame).1 := by
  have hcomputed := computed_compactRows (bindingsOf decoder.bindingsByUniverse universeId)
    (decoder.previousFrames universeId) currentFrame
  have hrows : (decoder.decodeUniverseRenderReady math universeId currentFrame).1
      = (compactRows (bindingsOf decoder.bindingsByUniverse universeId)
          (decoder.previousFrames universeId) currentFrame).map (decoder.renderReadyRow math) := by
    rw [← compactRows_decode h]
    rfl
  have hids : ((decoder.decodeUniverseRenderReady math universeId currentFrame).1).map
      VisualRow.fixtureId = (compactRows (bindingsOf decoder.bindingsByUniverse universeId)
        (decoder.previousFrames universeId) currentFrame).map CompactRow.fixtureId := by
    rw [hrows, List.map_map]
    rfl
  constructor
  . rw [hids]
    exact hcomputed.nodup
  . rw [hids]
    exact hcomputed.mem_iff
  . intro row hrow
    rw [hrows] at hrow
    obtain ⟨source, hsource, hrow⟩ := List.mem_map.mp hrow
    rw [← hrow]
    dsimp only [renderReadyRow, computedValues, valuesOf]
    rw [hcomputed.values source hsource]

/-- The computed row of a fixture is let through. -/
def isEmitted (math : MathLibrary) (decoder : PeravizDmxUniverseDecoder) (universeId : Int32)
    (currentFrame : List UInt8) (id : Int32) : Bool :=
  isComputed decoder universeId currentFrame id
    && (!(decoder.visualStates id).initialized
      || visualValuesChanged (decoder.visualStates id).toVisualValues
        (computedValues math decoder universeId currentFrame id))

/-- What a call does: it keeps the frame, stores the values of every computed row, and emits those
that have visibly changed. -/
structure Decoded (math : MathLibrary) (decoder : PeravizDmxUniverseDecoder) (universeId : Int32)
    (currentFrame : List UInt8) (result : List VisualRow × PeravizDmxUniverseDecoder) : Prop where
  bindings : result.2.bindingsByUniverse = decoder.bindingsByUniverse
  renderParams : result.2.renderParams = decoder.renderParams
  frames : ∀ u, result.2.previousFrames u
    = if u = universeId then currentFrame else decoder.previousFrames u
  states : ∀ id, result.2.visualStates id
    = if isComputed decoder universeId currentFrame id then
        { computedValues math decoder universeId currentFrame id with initialized := true }
      else decoder.visualStates id
  rows : ∀ id, (result.1.filter (fun row => row.fixtureId = id)).map VisualRow.toVisualValues
    = if isEmitted math decoder universeId currentFrame id then
        [computedValues math decoder universeId currentFrame id]
      else []

-- with one row for each id, the rows with an id are that row or none
theorem filter_eq_find {rows : List VisualRow} (hnodup : (rows.map VisualRow.fixtureId).Nodup)
    (id : Int32)
    : rows.filter (fun row => row.fixtureId = id)
        = (rows.find? (fun row => row.fixtureId = id)).toList := by
  induction rows with
  | nil => rfl
  | cons row rest ih =>
    rw [List.map_cons, List.nodup_cons] at hnodup
    rw [List.filter_cons, List.find?_cons]
    by_cases heq : row.fixtureId = id
    . have hnone : rest.filter (fun other => other.fixtureId = id) = [] := by
        rw [List.filter_eq_nil_iff]
        intro other hmem
        rw [decide_eq_true_eq, ← heq]
        intro hsame
        apply hnodup.1
        rw [← hsame]
        exact List.mem_map_of_mem hmem
      simp only [heq, decide_true, if_true, hnone, Option.toList_some]
    . simp only [heq, decide_false, Bool.false_eq_true, if_false]
      exact ih hnodup.2

theorem find_readyRows {rows : List VisualRow}
    (h : ReadyRows math decoder universeId currentFrame rows) (id : Int32)
    : (rows.find? (fun row => row.fixtureId = id)).map VisualRow.toVisualValues
          = if isComputed decoder universeId currentFrame id then
              some (computedValues math decoder universeId currentFrame id)
            else none := by
  cases hfound : rows.find? (fun row => row.fixtureId = id) with
  | none =>
    rw [List.find?_eq_none] at hfound
    rw [if_neg]
    . rfl
    . rw [← h.mem_iff id, List.mem_map]
      intro hmem
      obtain ⟨row, hrow, heq⟩ := hmem
      exact hfound row hrow (decide_eq_true heq)
  | some row =>
    have hmem := List.mem_of_find?_eq_some hfound
    have heq := List.find?_some hfound
    rw [decide_eq_true_eq] at heq
    rw [if_pos]
    . rw [Option.map_some, h.values row hmem, heq]
    . rw [← h.mem_iff id, List.mem_map]
      exact ⟨row, hmem, heq⟩

theorem decoded_decode (math : MathLibrary) (decoder : PeravizDmxUniverseDecoder)
    (universeId : Int32) (h : currentFrame ≠ [])
    : Decoded math decoder universeId currentFrame
        (decoder.decodeUniverseVisualRenderReady math universeId currentFrame) := by
  have hready := @readyRows_decode math decoder universeId currentFrame h
  have hkept := @kept_decode decoder universeId currentFrame
  have hresult : decoder.decodeUniverseVisualRenderReady math universeId currentFrame
      = ((decoder.decodeUniverseRenderReady math universeId currentFrame).1.filter
          (isVisible (decoder.decodeUniverseCompact universeId currentFrame).2),
        { (decoder.decodeUniverseCompact universeId currentFrame).2 with
          visualStates := visitedState (decoder.decodeUniverseCompact universeId currentFrame).2
            (decoder.decodeUniverseRenderReady math universeId currentFrame).1 }) :=
    foldl_visitRow hready.nodup [] _
  generalize (decoder.decodeUniverseRenderReady math universeId currentFrame).1 = rows at *
  rw [hresult, hkept]
  constructor
  . rfl
  . rfl
  . intro u
    rfl
  . intro id
    have hfind := find_readyRows hready id
    dsimp only [visitedState]
    cases hfound : rows.find? (fun row => row.fixtureId = id) with
    | none =>
      rw [hfound] at hfind
      split at hfind
      next => contradiction
      next hnot => rw [if_neg hnot]
    | some row =>
      rw [hfound] at hfind
      split at hfind
      next hcomputed =>
        rw [if_pos hcomputed, ← Option.some.inj hfind]
      next => contradiction
  . intro id
    have hfind := find_readyRows hready id
    rw [List.filter_comm, filter_eq_find hready.nodup]
    unfold isEmitted
    cases hfound : rows.find? (fun row => row.fixtureId = id) with
    | none =>
      rw [hfound] at hfind
      split at hfind
      next => contradiction
      next hnot =>
        rw [Bool.eq_false_iff.mpr hnot]
        rfl
    | some row =>
      have heq := List.find?_some hfound
      rw [decide_eq_true_eq] at heq
      rw [hfound] at hfind
      split at hfind
      next hcomputed =>
        have hvalues := Option.some.inj hfind
        have hvisible : isVisible { decoder with
            previousFrames := fun u =>
              if u = universeId then currentFrame else decoder.previousFrames u } row
            = (!(decoder.visualStates id).initialized
              || visualValuesChanged (decoder.visualStates id).toVisualValues
                (computedValues math decoder universeId currentFrame id)) := by
          rw [← hvalues, ← heq]
          rfl
        rw [hcomputed, Bool.true_and, Option.toList_some, List.filter_cons, List.filter_nil,
          hvisible]
        split
        next => rw [List.map_cons, List.map_nil, hvalues]
        next => rfl
      next => contradiction

end

/-! ### Runs -/

/-- The bindings of all universes, no fixture has bindings in two of them. -/
structure BindingTable where
  byUniverse : Int32 → Option (List FixtureChannelBinding)
  oneUniverse : ∀ u u', ∀ a ∈ bindingsOf byUniverse u, ∀ b ∈ bindingsOf byUniverse u',
    a.fixtureId = b.fixtureId → u = u'

structure DecodeCall where
  universeId : Int32
  frame : List UInt8
  nonempty : frame ≠ []

/-- The decoder with its tables, in front of the first frame. -/
def configured (table : BindingTable) (renderParams : Int32 → Option FixtureRenderParams)
    : PeravizDmxUniverseDecoder where
  bindingsByUniverse := table.byUniverse
  renderParams := renderParams

def decoderMachine (math : MathLibrary) (table : BindingTable)
    (renderParams : Int32 → Option FixtureRenderParams)
    : Machine PeravizDmxUniverseDecoder DecodeCall (List VisualRow) where
  init := configured table renderParams
  step decoder call :=
    let result := decoder.decodeUniverseVisualRenderReady math call.universeId call.frame
    (result.2, result.1)

/-- The current frame of a universe. -/
def lastFrame (past : List (DecodeCall × List VisualRow)) (u : Int32) : Option (List UInt8) :=
  ((past.map (fun entry => entry.1)).filter (fun call => call.universeId = u)).getLast?.map
    DecodeCall.frame

/-- The row that was emitted last for a fixture. -/
def lastEmitted (past : List (DecodeCall × List VisualRow)) (id : Int32) : Option VisualRow :=
  ((past.flatMap (fun entry => entry.2)).filter (fun row => row.fixtureId = id)).getLast?

/-- No column differs by more than its epsilon. -/
structure Within (emitted scratch : VisualValues) : Prop where
  compact : ∀ i, |emitted.compact i - scratch.compact i| ≤ compactEpsilon i
  render : ∀ i, |emitted.render i - scratch.render i| ≤ renderEpsilon i

/-- Every fixture with a bound channel in a universe that has a frame was emitted last within the
epsilons of the row that a fresh decoder computes from that frame. -/
def UpToDate (math : MathLibrary) (table : BindingTable)
    (renderParams : Int32 → Option FixtureRenderParams)
    (past : List (DecodeCall × List VisualRow)) : Prop :=
  ∀ u frame, lastFrame past u = some frame → ∀ binding ∈ bindingsOf table.byUniverse u,
    (compactIndexForChannelType binding.channelType).isSome →
      ∃ emitted scratch, lastEmitted past binding.fixtureId = some emitted
        ∧ scratch ∈ ((configured table renderParams).decodeUniverseVisualRenderReady math u frame).1
        ∧ scratch.fixtureId = binding.fixtureId
        ∧ Within emitted.toVisualValues scratch.toVisualValues

/-- No fixture creeps: from the last frame of the universe to this one its values stay the same, or
one of them changes by more than its epsilon. -/
def NoCreep (math : MathLibrary) (decoder : PeravizDmxUniverseDecoder) (call : DecodeCall)
    : Prop :=
  decoder.previousFrames call.universeId ≠ [] →
    ∀ binding ∈ bindingsOf decoder.bindingsByUniverse call.universeId,
      let previous := computedValues math decoder call.universeId
        (decoder.previousFrames call.universeId) binding.fixtureId
      let current := computedValues math decoder call.universeId call.frame binding.fixtureId
      visualValuesChanged previous current = true ∨ previous = current

section

variable {math : MathLibrary} {table : BindingTable}
variable {renderParams : Int32 → Option FixtureRenderParams}
variable {past : List (DecodeCall × List VisualRow)} {decoder : PeravizDmxUniverseDecoder}

def lastValues (past : List (DecodeCall × List VisualRow)) (id : Int32) : Option VisualValues :=
  (lastEmitted past id).map VisualRow.toVisualValues

theorem lastFrame_concat (call : DecodeCall) (rows : List VisualRow) (u : Int32)
    : lastFrame (past ++ [(call, rows)]) u
        = if call.universeId = u then some call.frame else lastFrame past u := by
  unfold lastFrame
  rw [List.map_append, List.filter_append, List.map_cons, List.map_nil, List.filter_cons,
    List.filter_nil]
  split
  next h =>
    rw [decide_eq_true_eq] at h
    rw [List.getLast?_concat, if_pos h]
    rfl
  next h =>
    rw [decide_eq_true_eq] at h
    rw [List.append_nil, if_neg h]

theorem ne_nil_of_lastFrame {u : Int32} {frame : List UInt8} (h : lastFrame past u = some frame)
    : frame ≠ [] := by
  obtain ⟨call, _, hcall⟩ := Option.map_eq_some_iff.mp h
  rw [← hcall]
  exact call.nonempty

theorem lastValues_concat {call : DecodeCall}
    {result : List VisualRow × PeravizDmxUniverseDecoder}
    (h : Decoded math decoder call.universeId call.frame result) (id : Int32)
    : lastValues (past ++ [(call, result.1)]) id
        = if isEmitted math decoder call.universeId call.frame id then
            some (computedValues math decoder call.universeId call.frame id)
          else lastValues past id := by
  have hrows := h.rows id
  unfold lastValues lastEmitted
  rw [List.flatMap_append, List.flatMap_cons, List.flatMap_nil, List.append_nil,
    List.filter_append, ← List.getLast?_map, List.map_append, hrows]
  split
  next => rw [List.getLast?_concat]
  next => rw [List.append_nil, List.getLast?_map]

theorem isBound_of_computed {u : Int32} {frame : List UInt8} {id : Int32}
    (h : isComputed decoder u frame id = true)
    : isBound (bindingsOf decoder.bindingsByUniverse u) id = true := by
  unfold isComputed fixtureChanged at h
  obtain ⟨binding, hmem, htest⟩ := List.any_eq_true.mp h
  rw [Bool.and_eq_true] at htest
  exact List.any_eq_true.mpr ⟨binding, hmem, htest.1⟩

theorem exists_binding_of_bound {bindings : List FixtureChannelBinding} {id : Int32}
    (h : isBound bindings id = true) : ∃ binding ∈ bindings, binding.fixtureId = id := by
  obtain ⟨binding, hmem, htest⟩ := List.any_eq_true.mp h
  refine ⟨binding, hmem, ?_⟩
  unfold columnOf at htest
  split at htest
  next heq => exact heq
  next => contradiction

theorem isComputed_of_first {u : Int32} {frame : List UInt8} {id : Int32}
    (hfirst : decoder.previousFrames u = []) (hframe : frame ≠ [])
    (h : isBound (bindingsOf decoder.bindingsByUniverse u) id = true)
    : isComputed decoder u frame id = true := by
  obtain ⟨binding, hmem, htest⟩ := List.any_eq_true.mp h
  refine List.any_eq_true.mpr ⟨binding, hmem, ?_⟩
  have hlength : ([] : List UInt8).length ≠ frame.length := by
    intro heq
    exact hframe (List.length_eq_zero_iff.mp heq.symm)
  rw [htest, hfirst, bytesChanged, decide_eq_true hlength]
  rfl

theorem computedValues_of_not_computed {u : Int32} {frame : List UInt8} {id : Int32}
    (h : isComputed decoder u frame id = false)
    : computedValues math decoder u (decoder.previousFrames u) id
        = computedValues math decoder u frame id := by
  unfold computedValues valuesOf
  rw [compactValues_of_not_changed h]

/-- The values of the row of a fixture that a fresh decoder computes. -/
def scratchValues (math : MathLibrary) (table : BindingTable)
    (renderParams : Int32 → Option FixtureRenderParams) (u : Int32) (frame : List UInt8)
    (id : Int32) : VisualValues :=
  computedValues math (configured table renderParams) u frame id

/-- What the decoder stores and what was emitted last are the values of the current frame. -/
structure Tracks (math : MathLibrary) (table : BindingTable)
    (renderParams : Int32 → Option FixtureRenderParams)
    (past : List (DecodeCall × List VisualRow)) (decoder : PeravizDmxUniverseDecoder) : Prop where
  bindings : decoder.bindingsByUniverse = table.byUniverse
  params : decoder.renderParams = renderParams
  frames : ∀ u, decoder.previousFrames u = (lastFrame past u).getD []
  stored : ∀ u id, isBound (bindingsOf table.byUniverse u) id = true → ∀ frame,
    lastFrame past u = some frame →
      decoder.visualStates id
        = { scratchValues math table renderParams u frame id with initialized := true }
      ∧ lastValues past id = some (scratchValues math table renderParams u frame id)
  blank : ∀ u id, isBound (bindingsOf table.byUniverse u) id = true → lastFrame past u = none →
    (decoder.visualStates id).initialized = false

theorem tracks_configured
    : Tracks math table renderParams [] (configured table renderParams) := by
  refine ⟨rfl, rfl, fun _ => rfl, ?_, fun _ _ _ _ => rfl⟩
  intro u id _ frame hframe
  contradiction

theorem Tracks.computed_eq (h : Tracks math table renderParams past decoder) (u : Int32)
    (frame : List UInt8) (id : Int32)
    : computedValues math decoder u frame id
        = scratchValues math table renderParams u frame id := by
  unfold computedValues scratchValues
  rw [h.bindings, h.params]
  rfl

/-- What a call leaves behind for a fixture of its own universe. -/
theorem Tracks.stored_of_call (h : Tracks math table renderParams past decoder) {call : DecodeCall}
    (hcreep : NoCreep math decoder call) {result : List VisualRow × PeravizDmxUniverseDecoder}
    (hresult : Decoded math decoder call.universeId call.frame result) {id : Int32}
    (hbound : isBound (bindingsOf table.byUniverse call.universeId) id = true)
    : result.2.visualStates id
          = { scratchValues math table renderParams call.universeId call.frame id with
              initialized := true }
        ∧ lastValues (past ++ [(call, result.1)]) id
          = some (scratchValues math table renderParams call.universeId call.frame id) := by
  have hbound' := hbound
  rw [← h.bindings] at hbound'
  rw [hresult.states id, lastValues_concat hresult, isEmitted, h.computed_eq]
  cases hlast : lastFrame past call.universeId with
  | none =>
    have hfirst : decoder.previousFrames call.universeId = [] := by
      rw [h.frames, hlast]
      rfl
    rw [isComputed_of_first hfirst call.nonempty hbound', h.blank _ id hbound hlast]
    exact ⟨rfl, rfl⟩
  | some previous =>
    have hprevious : decoder.previousFrames call.universeId = previous := by
      rw [h.frames, hlast]
      rfl
    obtain ⟨hstate, hvalues⟩ := h.stored call.universeId id hbound previous hlast
    cases hcomputed : isComputed decoder call.universeId call.frame id with
    | false =>
      have hsame := @computedValues_of_not_computed math _ _ _ _ hcomputed
      rw [hprevious, h.computed_eq, h.computed_eq] at hsame
      rw [hstate, hvalues, hsame]
      exact ⟨rfl, rfl⟩
    | true =>
      have hne : decoder.previousFrames call.universeId ≠ [] := by
        rw [hprevious]
        exact ne_nil_of_lastFrame hlast
      obtain ⟨binding, hmem, hid⟩ := exists_binding_of_bound hbound'
      have hstep := hcreep hne binding hmem
      rw [hid, hprevious, h.computed_eq, h.computed_eq] at hstep
      rw [hstate, hvalues]
      refine ⟨rfl, ?_⟩
      cases hstep with
      | inl hchanged =>
        rw [hchanged]
        rfl
      | inr hsame =>
        rw [hsame]
        split
        next => rfl
        next => rfl

theorem tracks_step (h : Tracks math table renderParams past decoder) (call : DecodeCall)
    (hcreep : NoCreep math decoder call)
    : Tracks math table renderParams
        (past ++ [(call, ((decoderMachine math table renderParams).step decoder call).2)])
        ((decoderMachine math table renderParams).step decoder call).1 := by
  have hresult := decoded_decode math decoder call.universeId call.nonempty
  change Tracks math table renderParams
    (past ++ [(call, (decoder.decodeUniverseVisualRenderReady math _ _).1)])
    (decoder.decodeUniverseVisualRenderReady math _ _).2
  -- a fixture of another universe gets no row
  have hother : ∀ u id, u ≠ call.universeId → isBound (bindingsOf table.byUniverse u) id = true →
      isComputed decoder call.universeId call.frame id = false := by
    intro u id hne hbound
    rw [Bool.eq_false_iff]
    intro hcomputed
    have hbound' := isBound_of_computed hcomputed
    rw [h.bindings] at hbound'
    obtain ⟨a, ha, haid⟩ := exists_binding_of_bound hbound
    obtain ⟨b, hb, hbid⟩ := exists_binding_of_bound hbound'
    exact hne (table.oneUniverse _ _ a ha b hb (haid.trans hbid.symm))
  refine ⟨hresult.bindings.trans h.bindings, hresult.renderParams.trans h.params, ?_, ?_, ?_⟩
  . intro u
    rw [hresult.frames, lastFrame_concat]
    by_cases hu : u = call.universeId
    . rw [if_pos hu, if_pos hu.symm]
      rfl
    . rw [if_neg hu, if_neg (Ne.symm hu)]
      exact h.frames u
  . intro u id hbound frame hframe
    rw [lastFrame_concat] at hframe
    by_cases hu : u = call.universeId
    . rw [if_pos hu.symm] at hframe
      rw [hu] at hbound
      rw [hu, ← Option.some.inj hframe]
      exact h.stored_of_call hcreep hresult hbound
    . rw [if_neg (Ne.symm hu)] at hframe
      have hnot := hother u id hu hbound
      rw [hresult.states, lastValues_concat hresult, isEmitted, hnot]
      exact h.stored u id hbound frame hframe
  . intro u id hbound hnone
    rw [lastFrame_concat] at hnone
    split at hnone
    next => contradiction
    next hu =>
      rw [hresult.states, hother u id (Ne.symm hu) hbound]
      exact h.blank u id hbound hnone

/-! ### Columns -/

theorem compactEpsilon_nonneg (i : Fin 13) : 0 ≤ compactEpsilon i := by
  unfold compactEpsilon
  split
  next => decide +kernel
  next => decide +kernel

theorem renderEpsilon_nonneg (i : Fin 9) : 0 ≤ renderEpsilon i := by
  unfold renderEpsilon
  split
  next => decide +kernel
  next => decide +kernel

theorem within_self (values : VisualValues) : Within values values := by
  constructor
  . intro i
    rw [sub_self, abs_zero]
    exact compactEpsilon_nonneg i
  . intro i
    rw [sub_self, abs_zero]
    exact renderEpsilon_nonneg i

/-- A fresh decoder emits a row for every fixture with a bound channel. -/
theorem exists_scratch_row {u : Int32} {frame : List UInt8} (hframe : frame ≠ []) {id : Int32}
    (hbound : isBound (bindingsOf table.byUniverse u) id = true)
    : ∃ row ∈ ((configured table renderParams).decodeUniverseVisualRenderReady math u frame).1,
        row.fixtureId = id
        ∧ row.toVisualValues = scratchValues math table renderParams u frame id := by
  have hrows := (decoded_decode math (configured table renderParams) u hframe).rows id
  have hemitted : isEmitted math (configured table renderParams) u frame id = true := by
    rw [isEmitted, isComputed_of_first rfl hframe hbound]
    rfl
  rw [if_pos hemitted] at hrows
  have hmem : scratchValues math table renderParams u frame id
      ∈ [computedValues math (configured table renderParams) u frame id] :=
    List.mem_singleton.mpr rfl
  rw [← hrows] at hmem
  obtain ⟨row, hrow, hvalues⟩ := List.mem_map.mp hmem
  rw [List.mem_filter, decide_eq_true_eq] at hrow
  exact ⟨row, hrow.1, hrow.2, hvalues⟩

theorem Tracks.upToDate (h : Tracks math table renderParams past decoder)
    : UpToDate math table renderParams past := by
  intro u frame hframe binding hmem hcolumn
  have hbound : isBound (bindingsOf table.byUniverse u) binding.fixtureId = true := by
    refine List.any_eq_true.mpr ⟨binding, hmem, ?_⟩
    rw [columnOf_self]
    exact hcolumn
  obtain ⟨emitted, hemitted, hvalues⟩ :=
    Option.map_eq_some_iff.mp (h.stored u binding.fixtureId hbound frame hframe).2
  obtain ⟨scratch, hscratch, hid, hsame⟩ := @exists_scratch_row math table renderParams _ _
    (ne_nil_of_lastFrame hframe) _ hbound
  refine ⟨emitted, scratch, hemitted, hscratch, hid, ?_⟩
  rw [hvalues, hsame]
  exact within_self _

end

/-- In every run without creeping values the emitted rows are up to date. -/
theorem upToDate_of_noCreep (math : MathLibrary) (table : BindingTable)
    (renderParams : Int32 → Option FixtureRenderParams) (calls : List DecodeCall)
    (hcreep : (decoderMachine math table renderParams).StepsMeet (NoCreep math)
      (configured table renderParams) calls)
    : UpToDate math table renderParams
        ((decoderMachine math table renderParams).trace (configured table renderParams) calls) := by
  apply Tracks.upToDate
  apply (decoderMachine math table renderParams).guarded_trace_induction (NoCreep math)
    (Tracks math table renderParams)
  . exact tracks_configured
  . intro past decoder call htracks hcall
    exact tracks_step htracks call hcall
  . exact hcreep

/-! ### A slow fade -/

/-- A fixture with a pan channel of two bytes in universe 0. -/
def panUniverse (u : Int32) : Option (List FixtureChannelBinding) :=
  if u = 0 then some [{ fixtureId := 1, channelType := 1, bitDepth := 16 }] else none

theorem eq_zero_of_panUniverse {u : Int32} {binding : FixtureChannelBinding}
    (h : binding ∈ bindingsOf panUniverse u) : u = 0 := by
  unfold bindingsOf panUniverse at h
  split at h
  next hzero => exact hzero
  next => contradiction

theorem panUniverse_oneUniverse
    : ∀ u u', ∀ a ∈ bindingsOf panUniverse u, ∀ b ∈ bindingsOf panUniverse u',
        a.fixtureId = b.fixtureId → u = u' := by
  intro u u' a ha b hb _
  rw [eq_zero_of_panUniverse ha, eq_zero_of_panUniverse hb]

def panTable : BindingTable where
  byUniverse := panUniverse
  oneUniverse := panUniverse_oneUniverse

def noMath : MathLibrary where
  log := id
  pow := fun x _ => x

theorem panFrame_nonempty (low : UInt8) : [0, low] ≠ [] :=
  List.cons_ne_nil _ _

def panCall (low : UInt8) : DecodeCall where
  universeId := 0
  frame := [0, low]
  nonempty := panFrame_nonempty low

theorem upToDate_of_noCreep_jump
    : UpToDate noMath panTable (fun _ => none)
        ((decoderMachine noMath panTable (fun _ => none)).trace
          (configured panTable (fun _ => none)) [panCall 0, panCall 200]) := by
  apply upToDate_of_noCreep
  refine ⟨fun hne => absurd rfl hne, ?_, trivial⟩
  intro _ binding hmem
  left
  revert binding
  decide +kernel

def slowFade : List DecodeCall :=
  [panCall 0, panCall 1, panCall 2, panCall 3, panCall 4, panCall 5, panCall 6, panCall 7]

/-- Every step of the fade is below the epsilon of pan, so that only the first row is emitted. The
seventh step has moved pan by more than that. -/
theorem slowFade_stale
    : ¬ UpToDate noMath panTable (fun _ => none)
        ((decoderMachine noMath panTable (fun _ => none)).trace
          (configured panTable (fun _ => none)) slowFade) := by
  intro h
  obtain ⟨emitted, scratch, hemitted, hscratch, _, hwithin⟩ := h 0 [0, 7] (by decide +kernel)
    { fixtureId := 1, channelType := 1, bitDepth := 16 } List.mem_cons_self rfl
  have hpan : (lastEmitted ((decoderMachine noMath panTable (fun _ => none)).trace
      (configured panTable (fun _ => none)) slowFade) 1).map (fun row => row.compact 1)
      = some 0 := by
    decide +kernel
  have hcurrent : ∀ row ∈ ((configured panTable (fun _ => none)).decodeUniverseVisualRenderReady
      noMath 0 [0, 7]).1, row.compact 1 = 7 / 65535 := by
    decide +kernel
  rw [hemitted, Option.map_some, Option.some.injEq] at hpan
  have hclose := hwithin.compact 1
  rw [hpan, hcurrent scratch hscratch] at hclose
  revert hclose
  decide +kernel

end Peraviz.Dmx.Decoder
