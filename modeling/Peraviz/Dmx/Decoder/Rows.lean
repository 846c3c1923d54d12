import Mathlib.Data.List.Induction
import Mathlib.Data.List.Nodup
import Peraviz.Dmx.Decoder.Impl

/-!
This module contains what one call of the decoder does: which fixtures get a row, that the values of
a row are those of the frame, and which rows are emitted.
-/

namespace Peraviz.Dmx.Decoder

/-- The column of a binding, if it is for the fixture. -/
def columnOf (binding : FixtureChannelBinding) (fixtureId : Int32) : Option (Fin 13) :=
  if binding.fixtureId = fixtureId then compactIndexForChannelType binding.channelType else none

/-- The values of a fixture once the bindings are read behind each other. -/
def fillValues (bindings : List FixtureChannelBinding) (frame : List UInt8) (fixtureId : Int32)
    (values : Fin 13 → ℚ) : Fin 13 → ℚ :=
  bindings.foldl (fun values binding =>
    match columnOf binding fixtureId with
    | none => values
    | some index => fun i => if i = index then readNormalizedValue frame binding else values i)
    values

/-- The values of a fixture in a frame. -/
def compactValues (bindings : List FixtureChannelBinding) (frame : List UInt8) (fixtureId : Int32)
    : Fin 13 → ℚ :=
  fillValues bindings frame fixtureId (fun _ => 0)

/-- A channel of the fixture has other bytes. -/
def fixtureChanged (bindings : List FixtureChannelBinding) (previousFrame currentFrame : List UInt8)
    (fixtureId : Int32) : Bool :=
  bindings.any (fun binding => (columnOf binding fixtureId).isSome
    && bytesChanged previousFrame currentFrame binding)

def isBound (bindings : List FixtureChannelBinding) (fixtureId : Int32) : Bool :=
  bindings.any (fun binding => (columnOf binding fixtureId).isSome)

/-! ### Columns -/

theorem columnOf_self (binding : FixtureChannelBinding)
    : columnOf binding binding.fixtureId = compactIndexForChannelType binding.channelType :=
  if_pos rfl

theorem columnOf_of_ne {binding : FixtureChannelBinding} {fixtureId : Int32}
    (h : binding.fixtureId ≠ fixtureId) : columnOf binding fixtureId = none :=
  if_neg h

theorem fillValues_cons (binding : FixtureChannelBinding) (bindings : List FixtureChannelBinding)
    (frame : List UInt8) (fixtureId : Int32) (values : Fin 13 → ℚ)
    : fillValues (binding :: bindings) frame fixtureId values
        = fillValues bindings frame fixtureId (match columnOf binding fixtureId with
          | none => values
          | some index =>
            fun i => if i = index then readNormalizedValue frame binding else values i) := rfl

-- a column that is bound later takes its value there, whatever it held before
theorem fillValues_congr {bindings : List FixtureChannelBinding} {frame : List UInt8}
    {fixtureId : Int32} {values values' : Fin 13 → ℚ}
    (h : ∀ i, values i = values' i ∨ ∃ binding ∈ bindings, columnOf binding fixtureId = some i)
    : fillValues bindings frame fixtureId values = fillValues bindings frame fixtureId values' := by
  induction bindings generalizing values values' with
  | nil =>
    funext i
    cases h i with
    | inl h => exact h
    | inr h =>
      obtain ⟨binding, hmem, _⟩ := h
      contradiction
  | cons binding bindings ih =>
    rw [fillValues_cons, fillValues_cons]
    apply ih
    intro i
    cases hcolumn : columnOf binding fixtureId with
    | none =>
      cases h i with
      | inl heq => exact .inl heq
      | inr hbound =>
        obtain ⟨other, hmem, hother⟩ := hbound
        cases List.mem_cons.mp hmem with
        | inl heq =>
          rw [heq, hcolumn] at hother
          contradiction
        | inr hmem => exact .inr ⟨other, hmem, hother⟩
    | some index =>
      dsimp only
      by_cases hi : i = index
      . left
        rw [if_pos hi, if_pos hi]
      . rw [if_neg hi, if_neg hi]
        cases h i with
        | inl heq => exact .inl heq
        | inr hbound =>
          obtain ⟨other, hmem, hother⟩ := hbound
          cases List.mem_cons.mp hmem with
          | inl heq =>
            rw [heq, hcolumn] at hother
            exact absurd (Option.some.inj hother).symm hi
          | inr hmem => exact .inr ⟨other, hmem, hother⟩

theorem readNormalizedValue_of_not_changed {previousFrame currentFrame : List UInt8}
    {binding : FixtureChannelBinding} (h : bytesChanged previousFrame currentFrame binding = false)
    : readNormalizedValue previousFrame binding = readNormalizedValue currentFrame binding := by
  simp only [bytesChanged, Bool.or_eq_false_iff, decide_eq_false_iff_not, not_not] at h
  unfold readNormalizedValue
  rw [h.2]

theorem compactValues_of_not_changed {bindings : List FixtureChannelBinding}
    {previousFrame currentFrame : List UInt8} {fixtureId : Int32}
    (h : fixtureChanged bindings previousFrame currentFrame fixtureId = false)
    : compactValues bindings previousFrame fixtureId
        = compactValues bindings currentFrame fixtureId := by
  unfold compactValues
  generalize (fun _ => 0 : Fin 13 → ℚ) = values
  induction bindings generalizing values with
  | nil => rfl
  | cons binding bindings ih =>
    rw [fixtureChanged, List.any_cons, Bool.or_eq_false_iff] at h
    rw [fillValues_cons, fillValues_cons]
    cases hcolumn : columnOf binding fixtureId with
    | none => exact ih h.2 values
    | some index =>
      rw [hcolumn, Option.isSome_some, Bool.true_and] at h
      rw [readNormalizedValue_of_not_changed h.1]
      exact ih h.2 _

/-! ### The first loop -/

/-- The rows of the fixtures with a changed channel, with values in bound columns only. -/
structure Marked (bindings : List FixtureChannelBinding) (previousFrame currentFrame : List UInt8)
    (rows : List CompactRow) : Prop where
  nodup : (rows.map CompactRow.fixtureId).Nodup
  mem_iff : ∀ id, id ∈ rows.map CompactRow.fixtureId
    ↔ fixtureChanged bindings previousFrame currentFrame id = true
  values : ∀ row ∈ rows, ∀ i, row.values i = 0
    ∨ ∃ binding ∈ bindings, columnOf binding row.fixtureId = some i

section

variable {previousFrame currentFrame : List UInt8} {bindings : List FixtureChannelBinding}
variable {rows : List CompactRow}

theorem map_fixtureId_updateRow {fixtureId : Int32} {f : CompactRow → CompactRow}
    (h : ∀ row, (f row).fixtureId = row.fixtureId)
    : (updateRow rows fixtureId f).map CompactRow.fixtureId = rows.map CompactRow.fixtureId := by
  rw [updateRow, List.map_map]
  apply List.map_congr_left
  intro row _
  dsimp only [Function.comp_apply]
  split
  next => exact h row
  next => rfl

theorem hasRow_iff {fixtureId : Int32}
    : hasRow rows fixtureId = true ↔ fixtureId ∈ rows.map CompactRow.fixtureId := by
  simp only [hasRow, List.any_eq_true, decide_eq_true_eq, List.mem_map]

theorem fixtureChanged_concat (binding : FixtureChannelBinding) (fixtureId : Int32)
    : fixtureChanged (bindings ++ [binding]) previousFrame currentFrame fixtureId
        = (fixtureChanged bindings previousFrame currentFrame fixtureId
          || ((columnOf binding fixtureId).isSome
            && bytesChanged previousFrame currentFrame binding)) := by
  simp only [fixtureChanged, List.any_append, List.any_cons, List.any_nil, Bool.or_false]

theorem nodup_withRow {fixtureId : Int32} (h : (rows.map CompactRow.fixtureId).Nodup)
    : ((withRow rows fixtureId).map CompactRow.fixtureId).Nodup := by
  unfold withRow
  split
  next => exact h
  next hmissing =>
    rw [hasRow_iff] at hmissing
    rw [List.map_append, List.map_cons, List.map_nil, List.nodup_append]
    refine ⟨h, List.nodup_singleton _, ?_⟩
    intro a ha b hb heq
    rw [heq, List.mem_singleton.mp hb] at ha
    exact hmissing ha

theorem mem_withRow_iff {fixtureId id : Int32}
    : id ∈ (withRow rows fixtureId).map CompactRow.fixtureId
        ↔ id ∈ rows.map CompactRow.fixtureId ∨ id = fixtureId := by
  unfold withRow
  split
  next hthere =>
    rw [hasRow_iff] at hthere
    constructor
    . exact .inl
    . intro h
      cases h with
      | inl h => exact h
      | inr h =>
        rw [h]
        exact hthere
  next =>
    rw [List.map_append, List.mem_append, List.map_cons, List.map_nil, List.mem_singleton]

theorem eq_of_mem_withRow {fixtureId : Int32} {row : CompactRow} (h : row ∈ withRow rows fixtureId)
    : row ∈ rows ∨ row = { fixtureId := fixtureId } := by
  unfold withRow at h
  split at h
  next => exact .inl h
  next =>
    cases List.mem_append.mp h with
    | inl h => exact .inl h
    | inr h => exact .inr (List.mem_singleton.mp h)

theorem marked_concat (h : Marked bindings previousFrame currentFrame rows)
    (binding : FixtureChannelBinding)
    : Marked (bindings ++ [binding]) previousFrame currentFrame
        (markChanged previousFrame currentFrame rows binding) := by
  have hvalues : ∀ row ∈ rows, ∀ i, row.values i = 0
      ∨ ∃ other ∈ bindings ++ [binding], columnOf other row.fixtureId = some i := by
    intro row hrow i
    apply (h.values row hrow i).imp_right
    intro hbound
    obtain ⟨other, hmem, hother⟩ := hbound
    exact ⟨other, List.mem_append_left _ hmem, hother⟩
  unfold markChanged
  cases hindex : compactIndexForChannelType binding.channelType with
  | none =>
    refine ⟨h.nodup, ?_, hvalues⟩
    intro id
    have hcolumn : columnOf binding id = none := by
      unfold columnOf
      split
      next => exact hindex
      next => rfl
    rw [fixtureChanged_concat, hcolumn, Option.isSome_none, Bool.false_and, Bool.or_false]
    exact h.mem_iff id
  | some index =>
    dsimp only
    split
    next hchanged =>
      have hids := @map_fixtureId_updateRow (withRow rows binding.fixtureId) binding.fixtureId
        (fun row => row.mark index (readNormalizedValue currentFrame binding)) (fun _ => rfl)
      constructor
      . rw [hids]
        exact nodup_withRow h.nodup
      . intro id
        have hcolumn : (columnOf binding id).isSome = true ↔ id = binding.fixtureId := by
          unfold columnOf
          split
          next heq => simp [hindex, heq]
          next hne => simp [Ne.symm hne]
        rw [hids, mem_withRow_iff, h.mem_iff id, fixtureChanged_concat, hchanged, Bool.and_true,
          Bool.or_eq_true, hcolumn]
      . intro row hrow i
        obtain ⟨source, hsource, hrow⟩ := List.mem_map.mp hrow
        have hold : source.values i = 0
            ∨ ∃ other ∈ bindings ++ [binding], columnOf other source.fixtureId = some i := by
          cases eq_of_mem_withRow hsource with
          | inl hmem => exact hvalues source hmem i
          | inr heq =>
            left
            rw [heq]
        rw [← hrow]
        split
        next heq =>
          dsimp only [CompactRow.mark, CompactRow.set]
          split
          next hi =>
            right
            refine ⟨binding, List.mem_append_right _ List.mem_cons_self, ?_⟩
            rw [heq, columnOf_self, hindex, hi]
          next => exact hold
        next => exact hold
    next hchanged =>
      refine ⟨h.nodup, ?_, hvalues⟩
      intro id
      rw [fixtureChanged_concat, Bool.eq_false_iff.mpr hchanged, Bool.and_false, Bool.or_false]
      exact h.mem_iff id

theorem marked_foldl (bindings : List FixtureChannelBinding)
    : Marked bindings previousFrame currentFrame
        (bindings.foldl (markChanged previousFrame currentFrame) []) := by
  induction bindings using List.reverseRecOn with
  | nil =>
    refine ⟨List.nodup_nil, ?_, ?_⟩
    . intro id
      simp [fixtureChanged]
    . intro row hrow
      contradiction
  | append_singleton bindings binding ih =>
    rw [List.foldl_concat]
    exact marked_concat ih binding

/-! ### The second loop -/

theorem fillRow_eq (binding : FixtureChannelBinding) (rows : List CompactRow)
    : fillRow currentFrame rows binding = rows.map (fun row =>
        { row with values := fillValues [binding] currentFrame row.fixtureId row.values }) := by
  unfold fillRow updateRow
  cases hindex : compactIndexForChannelType binding.channelType with
  | none =>
    apply Eq.symm
    apply List.map_id''
    intro row
    have hcolumn : columnOf binding row.fixtureId = none := by
      unfold columnOf
      split
      next => exact hindex
      next => rfl
    rw [fillValues_cons, hcolumn]
    rfl
  | some index =>
    apply List.map_congr_left
    intro row _
    split
    next heq =>
      rw [fillValues_cons, heq, columnOf_self, hindex, ← heq]
      rfl
    next hne =>
      rw [fillValues_cons, columnOf_of_ne (Ne.symm hne)]
      rfl

theorem foldl_fillRow (bindings : List FixtureChannelBinding) (rows : List CompactRow)
    : bindings.foldl (fillRow currentFrame) rows = rows.map (fun row =>
        { row with values := fillValues bindings currentFrame row.fixtureId row.values }) := by
  induction bindings generalizing rows with
  | nil => exact (List.map_id' rows).symm
  | cons binding bindings ih =>
    rw [List.foldl_cons, ih, fillRow_eq, List.map_map]
    rfl

/-- One row for each fixture with a changed channel, with the values of the frame. -/
structure Computed (bindings : List FixtureChannelBinding) (previousFrame currentFrame : List UInt8)
    (rows : List CompactRow) : Prop where
  nodup : (rows.map CompactRow.fixtureId).Nodup
  mem_iff : ∀ id, id ∈ rows.map CompactRow.fixtureId
    ↔ fixtureChanged bindings previousFrame currentFrame id = true
  values : ∀ row ∈ rows, row.values = compactValues bindings currentFrame row.fixtureId

theorem computed_compactRows (bindings : List FixtureChannelBinding)
    (previousFrame currentFrame : List UInt8)
    : Computed bindings previousFrame currentFrame
        (compactRows bindings previousFrame currentFrame) := by
  have hmarked := @marked_foldl previousFrame currentFrame bindings
  have hids : (compactRows bindings previousFrame currentFrame).map CompactRow.fixtureId
      = (bindings.foldl (markChanged previousFrame currentFrame) []).map
          CompactRow.fixtureId := by
    rw [compactRows, foldl_fillRow, List.map_map]
    rfl
  constructor
  . rw [hids]
    exact hmarked.nodup
  . rw [hids]
    exact hmarked.mem_iff
  . intro row hrow
    rw [compactRows, foldl_fillRow] at hrow
    obtain ⟨source, hsource, hrow⟩ := List.mem_map.mp hrow
    rw [← hrow]
    exact fillValues_congr (hmarked.values source hsource)

end

/-! ### Emission -/

/-- The values of the row of a fixture in a frame. -/
def valuesOf (math : MathLibrary) (renderParams : Int32 → Option FixtureRenderParams)
    (bindings : List FixtureChannelBinding) (frame : List UInt8) (fixtureId : Int32)
    : VisualValues where
  compact := compactValues bindings frame fixtureId
  render := renderReadyValues math ((renderParams fixtureId).getD {})
    (compactValues bindings frame fixtureId)

/-- The row is let through. -/
def isVisible (decoder : PeravizDmxUniverseDecoder) (row : VisualRow) : Bool :=
  (fixtureVisualStateChanged (decoder.visualStates row.fixtureId) row).1

/-- The state of a fixture behind the loop over the rows. -/
def visitedState (decoder : PeravizDmxUniverseDecoder) (rows : List VisualRow) (id : Int32)
    : FixtureVisualState :=
  match rows.find? (fun row => row.fixtureId = id) with
  | some row => { row.toVisualValues with initialized := true }
  | none => decoder.visualStates id

open PeravizDmxUniverseDecoder

-- no fixture has two rows, so that each row is compared with the state in front of the loop
theorem foldl_visitRow {rows : List VisualRow} (hnodup : (rows.map VisualRow.fixtureId).Nodup)
    (out : List VisualRow) (decoder : PeravizDmxUniverseDecoder)
    : rows.foldl visitRow (out, decoder)
        = (out ++ rows.filter (isVisible decoder),
          { decoder with visualStates := visitedState decoder rows }) := by
  induction rows generalizing out decoder with
  | nil =>
    rw [List.foldl_nil, List.filter_nil, List.append_nil]
    rfl
  | cons row rest ih =>
    rw [List.map_cons, List.nodup_cons] at hnodup
    have hother : ∀ other ∈ rest, other.fixtureId ≠ row.fixtureId := by
      intro other hmem heq
      apply hnodup.1
      rw [← heq]
      exact List.mem_map_of_mem hmem
    rw [List.foldl_cons, visitRow]
    dsimp only
    rw [ih hnodup.2]
    congr 1
    . have hrest : rest.filter (isVisible { decoder with
          visualStates := fun id =>
            if id = row.fixtureId then
              (fixtureVisualStateChanged (decoder.visualStates row.fixtureId) row).2
            else decoder.visualStates id }) = rest.filter (isVisible decoder) := by
        apply List.filter_congr
        intro other hmem
        unfold isVisible
        dsimp only
        rw [if_neg (hother other hmem)]
      rw [hrest, List.filter_cons]
      change (if isVisible decoder row = true then _ else _) ++ _ = _
      split
      next => rw [List.append_assoc, List.singleton_append]
      next => rfl
    . congr 1
      funext id
      unfold visitedState
      rw [List.find?_cons]
      by_cases heq : row.fixtureId = id
      . have hnone : rest.find? (fun other => other.fixtureId = id) = none := by
          rw [List.find?_eq_none]
          intro other hmem
          rw [decide_eq_true_eq, ← heq]
          exact hother other hmem
        simp only [hnone, heq, decide_true]
        rfl
      . simp only [heq, decide_false, if_neg (Ne.symm heq)]

end Peraviz.Dmx.Decoder
