import Peraviz.Presentation.RenderState.Contributions
import Peraviz.Presentation.RenderState.Deltas

/-!
This module contains the second pass of a projection, which emits the marked rows, and what a whole
projection does to the rows. The runs of a held lighting state together with its projection are here
as well, with what holds of the two in every state that a run reaches.
-/

namespace Peraviz.Presentation

open Peraviz.Runtime
open Setup (RenderPresentationClass)

def RenderRowAccumulator.drawn (p : Platform) (physical : DensePresentationState)
    (row : RenderRowAccumulator) : RenderValues :=
  let held := physical.renderValues p row.representative
  if row.presentation = .aggregated then row.aggregate p held else held

/-- A row that was looked at is committed with these values. -/
def RenderRowAccumulator.settle (row : RenderRowAccumulator) (values : RenderValues)
    : RenderRowAccumulator :=
  { row with
    previous := values
    committed := true
    mask := 0
  }

namespace RenderGroupProjection

/-- A row that is not drawn as it was the last time. -/
def Emits (row : RenderRowAccumulator) (values : RenderValues) : Prop :=
  !row.committed ∨ row.previous ≠ values ∨ row.mask &&& VisualChangeBeamTopology ≠ 0

instance (row : RenderRowAccumulator) (values : RenderValues) : Decidable (Emits row values) :=
  inferInstanceAs (Decidable (_ ∨ _))

def emission (row : RenderRowAccumulator) (values : RenderValues) (r : Nat)
    : List PreparedRenderRow :=
  if Emits row values then [⟨r, row.mask, values⟩] else []

section Pass

variable {p : Platform} {physical : DensePresentationState} {t : RenderGroupProjection}

theorem settle_of_not_emits {row : RenderRowAccumulator} {values : RenderValues}
    (h : ¬ Emits row values) : row.settle values = { row with mask := 0 } := by
  unfold Emits at h
  rw [not_or, not_or, Bool.not_eq_true', Bool.not_eq_false, not_not] at h
  rw [RenderRowAccumulator.settle, ← h.1, ← h.2.1]

theorem prepareRow_eq (t : RenderGroupProjection) (r : Nat)
    : prepareRow p physical t r = { t with
      prepared := t.prepared ++ emission (t.row r) ((t.row r).drawn p physical) r
      rows := t.rows.set r ((t.row r).settle ((t.row r).drawn p physical)) } := by
  unfold prepareRow emission
  change (if Emits (t.row r) ((t.row r).drawn p physical) then _ else _) = _
  split
  . rfl
  next hquiet =>
    rw [settle_of_not_emits hquiet, List.append_nil]

/-- The second pass over rows that are marked once. -/
structure Emitting (p : Platform) (physical : DensePresentationState)
    (marked t : RenderGroupProjection) (rows : List Nat) : Prop where
  mapping : t.physicalToRow = marked.physicalToRow
  members : t.members = marked.members
  rowsLength : t.rows.length = marked.rows.length
  row : ∀ r, t.row r = if r ∈ rows then (marked.row r).settle ((marked.row r).drawn p physical)
    else marked.row r
  prepared : t.prepared = marked.prepared
    ++ rows.flatMap (fun r => emission (marked.row r) ((marked.row r).drawn p physical) r)

theorem emitting_start (p : Platform) (physical : DensePresentationState)
    (marked : RenderGroupProjection) : Emitting p physical marked marked [] where
  mapping := rfl
  members := rfl
  rowsLength := rfl
  row _ := by rw [if_neg List.not_mem_nil]
  prepared := by rw [List.flatMap_nil, List.append_nil]

theorem Emitting.step {marked : RenderGroupProjection} {rows : List Nat}
    (h : Emitting p physical marked t rows) {r : Nat} (hfresh : r ∉ rows)
    (hlt : r < marked.rows.length)
    : Emitting p physical marked (prepareRow p physical t r) (rows ++ [r]) := by
  have hrow : t.row r = marked.row r := by
    rw [h.row, if_neg hfresh]
  rw [prepareRow_eq, hrow]
  constructor
  . exact h.mapping
  . exact h.members
  . exact List.length_set.trans h.rowsLength
  . intro other
    change (t.rows.set r _).getD other {} = _
    rw [getD_set (by rw [h.rowsLength]; exact hlt)]
    by_cases heq : other = r
    . rw [heq, if_pos rfl, if_pos (List.mem_append_right _ (List.mem_singleton_self r))]
    . rw [if_neg heq]
      change t.row other = _
      rw [h.row]
      by_cases hmem : other ∈ rows
      . rw [if_pos hmem, if_pos (List.mem_append_left _ hmem)]
      . rw [if_neg hmem, if_neg]
        intro hor
        cases mem_visited hor with
        | inl hold => exact hmem hold
        | inr hnew => exact heq hnew
  . change t.prepared ++ _ = _
    rw [h.prepared, List.flatMap_append, List.flatMap_singleton, List.append_assoc]

theorem Emitting.run {marked : RenderGroupProjection} {rows : List Nat}
    (h : Emitting p physical marked t rows) {rest : List Nat} (hnodup : (rows ++ rest).Nodup)
    (hlt : ∀ r ∈ rest, r < marked.rows.length)
    : Emitting p physical marked (rest.foldl (prepareRow p physical) t) (rows ++ rest) := by
  induction rest generalizing t rows with
  | nil =>
    rw [List.append_nil]
    exact h
  | cons r rest ih =>
    have hfresh : r ∉ rows := by
      intro hmem
      exact (List.nodup_append.mp hnodup).2.2 r hmem r List.mem_cons_self rfl
    have hstep := h.step hfresh (hlt r List.mem_cons_self)
    have hsplit : rows ++ r :: rest = rows ++ [r] ++ rest := by
      rw [List.append_assoc, List.singleton_append]
    rw [hsplit] at hnodup ⊢
    exact ih hstep hnodup (fun other hmem => hlt other (List.mem_cons_of_mem _ hmem))

end Pass

/-! ### A whole projection -/

section Projection

variable {p : Platform} {physical : DensePresentationState} {t : RenderGroupProjection}

/-- Nothing is pending of the rows between two projections. -/
def Idle (t : RenderGroupProjection) : Prop := ∀ r, (t.row r).mask = 0

def opened (t : RenderGroupProjection) : RenderGroupProjection :=
  { t with
    prepared := []
    dirtyRows := []
  }

def marked (p : Platform) (physical : DensePresentationState) (t : RenderGroupProjection)
    : RenderGroupProjection :=
  physical.dirty.foldl (prepareMember p physical) t.opened

theorem Exact.opened (h : Exact p t) : Exact p t.opened :=
  ⟨h.lengths, h.mapped, h.scratch, h.sums⟩

theorem marking_marked (hexact : Exact p t) (hidle : t.Idle)
    : Marking p physical t.opened (marked p physical t) physical.dirty
        ∧ Exact p (marked p physical t) := by
  have hstart : Marking p physical t.opened t.opened [] := marking_start hidle rfl
  have hrun := hstart.run hexact.opened physical.dirty
  rw [List.nil_append] at hrun
  exact hrun

theorem emitting_prepare (hexact : Exact p t) (hidle : t.Idle)
    : Emitting p physical (marked p physical t) (t.prepare p physical)
        (marked p physical t).dirtyRows := by
  obtain ⟨hmarking, hexactMarked⟩ := @marking_marked p physical t hexact hidle
  have hrows : ∀ r ∈ (marked p physical t).dirtyRows, r < (marked p physical t).rows.length := by
    intro r hr
    obtain ⟨i, hlt, _, hi⟩ := hmarking.source r hr
    rw [hmarking.rowsLength, ← hi]
    exact hexact.mapped i (by rw [← hexact.lengths]; exact hlt)
  exact (emitting_start p physical (marked p physical t)).run hmarking.nodup hrows

theorem Exact.prepare (hexact : Exact p t) (hidle : t.Idle)
    : Exact p (t.prepare p physical) := by
  obtain ⟨hmarking, hmarked⟩ := @marking_marked p physical t hexact hidle
  have hemitting := @emitting_prepare p physical t hexact hidle
  have hmember : ∀ i, (t.prepare p physical).member i = (marked p physical t).member i := by
    intro i
    rw [member, hemitting.members]
    rfl
  constructor
  . rw [hemitting.members, hemitting.mapping]
    exact hmarked.lengths
  . rw [hemitting.mapping, hemitting.rowsLength]
    exact hmarked.mapped
  . intro i
    rw [hmember]
    exact hmarked.scratch i
  . intro r hr
    simp only [hmember]
    rw [hemitting.mapping]
    rw [hemitting.row] at hr ⊢
    split at hr
    next hmem =>
      rw [if_pos hmem]
      exact hmarked.sums r hr
    next hmem =>
      rw [if_neg hmem]
      exact hmarked.sums r hr

theorem Idle.prepare (hexact : Exact p t) (hidle : t.Idle) : (t.prepare p physical).Idle := by
  obtain ⟨hmarking, _⟩ := @marking_marked p physical t hexact hidle
  intro r
  rw [(@emitting_prepare p physical t hexact hidle).row]
  split
  . rfl
  next hclean =>
    by_contra hmask
    exact hclean ((hmarking.marked r).mpr hmask)

end Projection

end RenderGroupProjection
end Peraviz.Presentation

/-! ### Runs of a state with its projection -/

namespace Peraviz.Presentation

open Peraviz.Runtime
open Setup (RenderPresentationClass)

namespace DensePresentationState

/-- An operation that writes values, and neither installs, replays nor finishes. -/
def Operation.Writes : Operation → Prop
  | .update .. | .updateTarget .. | .compose .. | .trace _ => True
  | _ => False

end DensePresentationState

/-- A held lighting state, its projection and every row that was emitted so far. -/
structure RenderPair where
  physical : DensePresentationState
  projection : RenderGroupProjection
  log : List (Nat × RenderValues) := []

/-- A snapshot is a projection that is finished before anything else happens. -/
inductive RenderOperation where
  | write (operation : DensePresentationState.Operation) (h : operation.Writes)
  | invalidate
  | prepare
  | snapshot (generation : UInt64)

def RenderOperation.Quiet : RenderOperation → Prop
  | .write .. => False
  | _ => True

namespace RenderPair

def prepare (p : Platform) (pair : RenderPair) : RenderPair :=
  let projection := pair.projection.prepare p pair.physical
  { pair with
    projection := projection
    log := pair.log ++ RenderGroupProjection.renderLog projection.prepared
  }

def step (p : Platform) (pair : RenderPair) : RenderOperation → RenderPair
  | .write operation _ => { pair with physical := (pair.physical.apply operation).1 }
  | .invalidate =>
    { pair with
      physical := pair.physical.invalidateRenderer
      projection := pair.projection.invalidate
    }
  | .prepare => pair.prepare p
  | .snapshot generation =>
    { pair.prepare p with physical := pair.physical.finishSnapshot generation }

def run (p : Platform) (pair : RenderPair) (operations : List RenderOperation) : RenderPair :=
  operations.foldl (step p) pair

/-- A lighting state and a projection that were just installed. -/
def Installed (pair : RenderPair) : Prop :=
  (∃ s fresh outputs targets,
      DensePresentationState.installOutputs s fresh outputs targets = (pair.physical, true))
    ∧ (∃ t mapping classes,
      RenderGroupProjection.install t mapping classes = (pair.projection, true))
    ∧ pair.log = []

end RenderPair

def lastEmitted (log : List (Nat × RenderValues)) (r : Nat) : Option RenderValues :=
  log.foldl (fun last entry => if entry.1 = r then some entry.2 else last) none

section Log

variable {log rows : List (Nat × RenderValues)} {r : Nat}

theorem foldl_lastEmitted (last : Option RenderValues)
    : rows.foldl (fun last entry => if entry.1 = r then some entry.2 else last) last
        = (lastEmitted rows r).or last := by
  induction rows using List.reverseRecOn with
  | nil => rfl
  | append_singleton rows entry ih =>
    unfold lastEmitted at ih ⊢
    rw [List.foldl_append, List.foldl_append, ih]
    simp only [List.foldl_cons, List.foldl_nil]
    split
    . rfl
    . rfl

theorem lastEmitted_append
    : lastEmitted (log ++ rows) r = (lastEmitted rows r).or (lastEmitted log r) := by
  rw [lastEmitted, List.foldl_append]
  exact foldl_lastEmitted _

theorem lastEmitted_eq_none (h : ∀ entry ∈ rows, entry.1 ≠ r) : lastEmitted rows r = none := by
  unfold lastEmitted
  apply List.foldl_keeps (I := fun last : Option RenderValues => last = none)
  . intro entry hentry last hlast
    rw [if_neg (h entry hentry)]
    exact hlast
  . rfl

end Log

namespace RenderGroupProjection

theorem renderLog_append (a b : List PreparedRenderRow)
    : renderLog (a ++ b) = renderLog a ++ renderLog b := List.map_append

theorem lastEmitted_emissions {values : Nat → RenderValues} {row : Nat → RenderRowAccumulator}
    {rows : List Nat} (hnodup : rows.Nodup) (r : Nat)
    : lastEmitted (renderLog (rows.flatMap (fun r => emission (row r) (values r) r))) r
        = if r ∈ rows ∧ Emits (row r) (values r) then some (values r) else none := by
  induction rows with
  | nil => rfl
  | cons first rows ih =>
    rw [List.flatMap_cons, renderLog_append, lastEmitted_append, ih hnodup.of_cons]
    have hfirst := (List.nodup_cons.mp hnodup).1
    unfold emission
    by_cases heq : first = r
    . rw [heq] at hfirst ⊢
      rw [if_neg (fun hmem => hfirst hmem.1), Option.none_or]
      split
      next hemits =>
        rw [if_pos ⟨List.mem_cons_self, hemits⟩]
        simp [renderLog, lastEmitted]
      next hquiet =>
        rw [if_neg (fun hmem => hquiet hmem.2)]
        rfl
    . have hnone : lastEmitted (renderLog (if Emits (row first) (values first)
          then [⟨first, (row first).mask, values first⟩] else [])) r = none := by
        apply lastEmitted_eq_none
        intro entry hentry
        split at hentry
        . rw [List.mem_singleton.mp hentry]
          exact heq
        . cases hentry
      rw [hnone, Option.or_none]
      simp only [List.mem_cons, Ne.symm heq, false_or]

end RenderGroupProjection

end Peraviz.Presentation
