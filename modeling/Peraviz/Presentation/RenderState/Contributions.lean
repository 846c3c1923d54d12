import Mathlib.Algebra.BigOperators.Group.Finset.Basic
import Mathlib.Algebra.Group.Prod
import Peraviz.Presentation.RenderState.Projection
import Peraviz.Presentation.RenderState.Tracking

/-!
This module contains the first pass of a projection: dirty outputs exchange their contributions to
the sums of their rows and mark the rows. It keeps the sums exact.
-/

namespace Peraviz.Presentation

open Peraviz.Runtime
open Setup (RenderPresentationClass)

/-- Energy, decoded red, green and blue, and intensity. -/
abbrev Sums := ℚ × ℚ × ℚ × ℚ × ℚ

def MemberContribution.sums (c : MemberContribution) : Sums :=
  (c.energy, c.red, c.green, c.blue, c.intensity)

def RenderRowAccumulator.sums (row : RenderRowAccumulator) : Sums :=
  (row.energy, row.red, row.green, row.blue, row.intensity)

/-- The contribution of a member, computed anew from its values. -/
def MemberContribution.scratch (p : Platform) (c : MemberContribution) : MemberContribution :=
  if c.valid then contribution p c.values else {}

def rowMembers (mapping : List Nat) (r : Nat) : Finset Nat :=
  (Finset.range mapping.length).filter (fun i => mapping.getD i 0 = r)

theorem mem_rowMembers {mapping : List Nat} {r i : Nat}
    : i ∈ rowMembers mapping r ↔ i < mapping.length ∧ mapping.getD i 0 = r := by
  rw [rowMembers, Finset.mem_filter, Finset.mem_range]

theorem sum_replace {f g : Nat → Sums} {members : Finset Nat} {i : Nat}
    (h : ∀ j, j ≠ i → g j = f j)
    : ∑ j ∈ members, g j = ∑ j ∈ members, f j + if i ∈ members then g i - f i else 0 := by
  have hsingle : ∑ j ∈ members, (g j - f j) = if i ∈ members then g i - f i else 0 := by
    split
    next hmem =>
      apply Finset.sum_eq_single_of_mem i hmem
      intro j _ hne
      rw [h j hne, sub_self]
    next hmem =>
      apply Finset.sum_eq_zero
      intro j hj
      have hne : j ≠ i := fun heq => hmem (heq ▸ hj)
      rw [h j hne, sub_self]
  rw [← hsingle, Finset.sum_sub_distrib, add_sub_cancel]

namespace RenderGroupProjection

def member (t : RenderGroupProjection) (i : Nat) : MemberContribution := t.members.getD i {}

/-- The sums of the aggregated rows are those of the contributions, and these are up to date. -/
structure Exact (p : Platform) (t : RenderGroupProjection) : Prop where
  lengths : t.members.length = t.physicalToRow.length
  mapped : ∀ i < t.physicalToRow.length, t.physicalToRow.getD i 0 < t.rows.length
  scratch : ∀ i, t.member i = (t.member i).scratch p
  sums : ∀ r, (t.row r).presentation = .aggregated
    → (t.row r).sums = ∑ i ∈ rowMembers t.physicalToRow r, (t.member i).sums

/-- What a row keeps through a projection. -/
structure SameRow (row row' : RenderRowAccumulator) : Prop where
  presentation : row'.presentation = row.presentation
  representative : row'.representative = row.representative
  previous : row'.previous = row.previous
  committed : row'.committed = row.committed

theorem SameRow.refl (row : RenderRowAccumulator) : SameRow row row := ⟨rfl, rfl, rfl, rfl⟩

theorem SameRow.trans {row row' row'' : RenderRowAccumulator} (h : SameRow row row')
    (h' : SameRow row' row'') : SameRow row row'' where
  presentation := h'.presentation.trans h.presentation
  representative := h'.representative.trans h.representative
  previous := h'.previous.trans h.previous
  committed := h'.committed.trans h.committed

section Pass

variable {p : Platform} {physical : DensePresentationState} {start t : RenderGroupProjection}

/-- An output is passed over: nothing of it has changed. -/
def Passes (p : Platform) (physical : DensePresentationState) (t : RenderGroupProjection)
    (index : Nat) : Prop :=
  (t.member index).valid ∧ (t.member index).values = physical.renderValues p index
    ∧ (t.row (t.physicalToRow.getD index 0)).committed
    ∧ physical.pendingMask index &&& VisualChangeBeamTopology = 0

/-- The row of an output that is not passed over. -/
def markedRow (p : Platform) (physical : DensePresentationState) (t : RenderGroupProjection)
    (index : Nat) : RenderRowAccumulator :=
  let old := t.member index
  let row := t.row (t.physicalToRow.getD index 0)
  let mask := row.mask ||| (physical.pendingMask index ||| VisualChangeDimmer
    ||| VisualChangeColor ||| VisualChangeMaterial)
  let marked := { row with
    mask := if !old.valid || !row.committed then
        mask ||| (VisualChangeBeamTopology ||| VisualChangeZoom)
      else
        mask
  }
  if row.presentation = .aggregated then
    marked.exchange old (contribution p (physical.renderValues p index))
  else
    marked

/-- The state after an output that exchanges its contribution. -/
def exchanged (p : Platform) (physical : DensePresentationState) (t : RenderGroupProjection)
    (index : Nat) : RenderGroupProjection :=
  { t with
    dirtyRows :=
      if (t.row (t.physicalToRow.getD index 0)).mask = 0 then
        t.dirtyRows ++ [t.physicalToRow.getD index 0]
      else
        t.dirtyRows
    rows := t.rows.set (t.physicalToRow.getD index 0) (markedRow p physical t index)
    members := t.members.set index (contribution p (physical.renderValues p index))
  }

theorem prepareMember_cases (p : Platform) (physical : DensePresentationState)
    (t : RenderGroupProjection) (index : Nat)
    : (t.members.length ≤ index ∧ prepareMember p physical t index = t)
        ∨ (index < t.members.length ∧ Passes p physical t index
          ∧ prepareMember p physical t index = t)
        ∨ (index < t.members.length
          ∧ prepareMember p physical t index = exchanged p physical t index) := by
  unfold prepareMember
  dsimp only
  split
  next hge => exact Or.inl ⟨hge, rfl⟩
  next hlt =>
    apply Or.inr
    split
    next hpasses => exact Or.inl ⟨Nat.not_le.mp hlt, hpasses, rfl⟩
    next => exact Or.inr ⟨Nat.not_le.mp hlt, rfl⟩

theorem sameRow_markedRow (p : Platform) (physical : DensePresentationState)
    (t : RenderGroupProjection) (index : Nat)
    : SameRow (t.row (t.physicalToRow.getD index 0)) (markedRow p physical t index) := by
  unfold markedRow
  dsimp only
  split
  . exact ⟨rfl, rfl, rfl, rfl⟩
  . exact ⟨rfl, rfl, rfl, rfl⟩

theorem sums_markedRow (p : Platform) (physical : DensePresentationState)
    (t : RenderGroupProjection) (index : Nat)
    (h : (t.row (t.physicalToRow.getD index 0)).presentation = .aggregated)
    : (markedRow p physical t index).sums = (t.row (t.physicalToRow.getD index 0)).sums
        + ((contribution p (physical.renderValues p index)).sums - (t.member index).sums) := by
  unfold markedRow
  dsimp only
  rw [if_pos h]
  rfl

theorem mask_markedRow (p : Platform) (physical : DensePresentationState)
    (t : RenderGroupProjection) (index : Nat) : (markedRow p physical t index).mask ≠ 0 := by
  have hmaterial : (t.row (t.physicalToRow.getD index 0)).mask
      ||| (physical.pendingMask index ||| VisualChangeDimmer ||| VisualChangeColor
        ||| VisualChangeMaterial) ≠ 0 :=
    DensePresentationState.or_ne_zero (DensePresentationState.or_ne_zero (by decide))
  have hmarked : (if !(t.member index).valid || !(t.row (t.physicalToRow.getD index 0)).committed
      then (t.row (t.physicalToRow.getD index 0)).mask
        ||| (physical.pendingMask index ||| VisualChangeDimmer ||| VisualChangeColor
          ||| VisualChangeMaterial) ||| (VisualChangeBeamTopology ||| VisualChangeZoom)
      else (t.row (t.physicalToRow.getD index 0)).mask
        ||| (physical.pendingMask index ||| VisualChangeDimmer ||| VisualChangeColor
          ||| VisualChangeMaterial)) ≠ 0 := by
    split
    . exact DensePresentationState.or_ne_zero (by decide)
    . exact hmaterial
  unfold markedRow
  dsimp only
  split
  . exact hmarked
  . exact hmarked

theorem getD_set {α : Type} {l : List α} {i : Nat} (hi : i < l.length) (a d : α) (j : Nat)
    : (l.set i a).getD j d = if j = i then a else l.getD j d := by
  rw [List.getD_eq_getElem?_getD, List.getElem?_set]
  by_cases heq : i = j
  . rw [if_pos heq, if_pos hi, if_pos heq.symm, Option.getD_some]
  . rw [if_neg heq, if_neg (Ne.symm heq), List.getD_eq_getElem?_getD]

/-- What the first pass has done when it has visited these outputs. -/
structure Marking (p : Platform) (physical : DensePresentationState)
    (start t : RenderGroupProjection) (visited : List Nat) : Prop where
  mapping : t.physicalToRow = start.physicalToRow
  prepared : t.prepared = start.prepared
  membersLength : t.members.length = start.members.length
  rowsLength : t.rows.length = start.rows.length
  nodup : t.dirtyRows.Nodup
  marked : ∀ r, r ∈ t.dirtyRows ↔ (t.row r).mask ≠ 0
  same : ∀ r, SameRow (start.row r) (t.row r)
  clean : ∀ r, r ∉ t.dirtyRows → t.row r = start.row r
  source : ∀ r ∈ t.dirtyRows, ∃ i < start.members.length,
    i ∈ visited ∧ start.physicalToRow.getD i 0 = r
  kept : ∀ i, i ∉ visited → t.member i = start.member i
  seen : ∀ i ∈ visited, i < start.members.length
    → (t.member i).valid ∧ (t.member i).values = physical.renderValues p i
  forced : ∀ i ∈ visited, i < start.members.length
    → (start.row (start.physicalToRow.getD i 0)).committed = false
    → start.physicalToRow.getD i 0 ∈ t.dirtyRows
  passed : ∀ i ∈ visited, i < start.members.length → start.physicalToRow.getD i 0 ∉ t.dirtyRows
    → (start.member i).valid ∧ (start.member i).values = physical.renderValues p i

theorem marking_start (hidle : ∀ r, (start.row r).mask = 0) (hdirty : start.dirtyRows = [])
    : Marking p physical start start [] where
  mapping := rfl
  prepared := rfl
  membersLength := rfl
  rowsLength := rfl
  nodup := by
    rw [hdirty]
    exact List.nodup_nil
  marked r := by
    rw [hdirty]
    exact ⟨fun hmem => absurd hmem List.not_mem_nil, fun hmask => absurd (hidle r) hmask⟩
  same r := SameRow.refl _
  clean _ _ := rfl
  source r hmem := by
    rw [hdirty] at hmem
    cases hmem
  kept _ _ := rfl
  seen i hmem := by cases hmem
  forced i hmem := by cases hmem
  passed i hmem := by cases hmem

theorem mem_visited {visited : List Nat} {i index : Nat} (h : i ∈ visited ++ [index])
    : i ∈ visited ∨ i = index := by
  cases List.mem_append.mp h with
  | inl hmem => exact Or.inl hmem
  | inr hmem => exact Or.inr (List.mem_singleton.mp hmem)

theorem notMem_visited {visited : List Nat} {i index : Nat} (h : i ∉ visited ++ [index])
    : i ∉ visited ∧ i ≠ index := by
  rw [List.mem_append, List.mem_singleton, not_or] at h
  exact h

theorem Marking.pass {visited : List Nat} (h : Marking p physical start t visited) {index : Nat}
    (hpass : index < start.members.length → Passes p physical t index)
    : Marking p physical start t (visited ++ [index]) where
  mapping := h.mapping
  prepared := h.prepared
  membersLength := h.membersLength
  rowsLength := h.rowsLength
  nodup := h.nodup
  marked := h.marked
  same := h.same
  clean := h.clean
  source r hr := by
    obtain ⟨i, hlt, hmem, heq⟩ := h.source r hr
    exact ⟨i, hlt, List.mem_append_left _ hmem, heq⟩
  kept i hi := h.kept i (notMem_visited hi).1
  seen i hi hlt := by
    cases mem_visited hi with
    | inl hmem => exact h.seen i hmem hlt
    | inr heq =>
      rw [heq] at hlt ⊢
      exact ⟨(hpass hlt).1, (hpass hlt).2.1⟩
  forced i hi hlt hcommitted := by
    cases mem_visited hi with
    | inl hmem => exact h.forced i hmem hlt hcommitted
    | inr heq =>
      rw [heq] at hlt hcommitted
      have hsame := (h.same (start.physicalToRow.getD index 0)).committed
      have hrow := (hpass hlt).2.2.1
      rw [h.mapping, hsame, hcommitted] at hrow
      cases hrow
  passed i hi hlt hclean := by
    cases mem_visited hi with
    | inl hmem => exact h.passed i hmem hlt hclean
    | inr heq =>
      by_cases hmem : i ∈ visited
      . exact h.passed i hmem hlt hclean
      . rw [← h.kept i hmem]
        rw [heq] at hlt ⊢
        exact ⟨(hpass hlt).1, (hpass hlt).2.1⟩

theorem row_exchanged {index : Nat} (hrow : t.physicalToRow.getD index 0 < t.rows.length) (r : Nat)
    : (exchanged p physical t index).row r
        = if r = t.physicalToRow.getD index 0 then markedRow p physical t index else t.row r :=
  getD_set hrow _ _ r

theorem member_exchanged {index : Nat} (hindex : index < t.members.length) (i : Nat)
    : (exchanged p physical t index).member i
        = if i = index then contribution p (physical.renderValues p index) else t.member i :=
  getD_set hindex _ _ i

theorem mem_dirtyRows_exchanged {index : Nat}
    (hmarked : ∀ r, r ∈ t.dirtyRows ↔ (t.row r).mask ≠ 0) (r : Nat)
    : r ∈ (exchanged p physical t index).dirtyRows
        ↔ r = t.physicalToRow.getD index 0 ∨ r ∈ t.dirtyRows := by
  unfold exchanged
  dsimp only
  split
  next => rw [List.mem_append, List.mem_singleton, or_comm]
  next hmask =>
    constructor
    . exact Or.inr
    . rintro (heq | hmem)
      . rw [heq]
        exact (hmarked _).mpr hmask
      . exact hmem

theorem Exact.exchange (h : Exact p t) {index : Nat} (hindex : index < t.members.length)
    : Exact p (exchanged p physical t index) := by
  have hrow : t.physicalToRow.getD index 0 < t.rows.length :=
    h.mapped index (by rw [← h.lengths]; exact hindex)
  constructor
  . exact List.length_set.trans h.lengths
  . intro i hi
    exact Nat.lt_of_lt_of_eq (h.mapped i hi) List.length_set.symm
  . intro i
    rw [member_exchanged hindex]
    split
    . rfl
    . exact h.scratch i
  . intro r hr
    have hmembers : ∀ j, j ≠ index
        → ((exchanged p physical t index).member j).sums = (t.member j).sums := by
      intro j hne
      rw [member_exchanged hindex, if_neg hne]
    change ((exchanged p physical t index).row r).sums
      = ∑ i ∈ rowMembers t.physicalToRow r, ((exchanged p physical t index).member i).sums
    rw [sum_replace hmembers, member_exchanged hindex, if_pos rfl]
    rw [row_exchanged hrow] at hr ⊢
    split
    next heq =>
      rw [if_pos heq] at hr
      have haggregated := ((sameRow_markedRow p physical t index).presentation).symm.trans hr
      have hmem : index ∈ rowMembers t.physicalToRow r :=
        mem_rowMembers.mpr ⟨by rw [← h.lengths]; exact hindex, heq.symm⟩
      rw [if_pos hmem, sums_markedRow p physical t index haggregated, heq,
        h.sums _ haggregated]
    next hne =>
      rw [if_neg hne] at hr
      have hmem : index ∉ rowMembers t.physicalToRow r := by
        rw [mem_rowMembers]
        exact fun hmem => hne hmem.2.symm
      rw [if_neg hmem, add_zero, h.sums r hr]

theorem Marking.exchange {visited : List Nat} (h : Marking p physical start t visited)
    {index : Nat} (hindex : index < t.members.length)
    (hrow : t.physicalToRow.getD index 0 < t.rows.length)
    : Marking p physical start (exchanged p physical t index) (visited ++ [index]) where
  mapping := h.mapping
  prepared := h.prepared
  membersLength := List.length_set.trans h.membersLength
  rowsLength := List.length_set.trans h.rowsLength
  nodup := by
    unfold exchanged
    dsimp only
    split
    next hmask =>
      rw [List.nodup_append]
      refine ⟨h.nodup, List.nodup_singleton _, ?_⟩
      intro a ha b hb hab
      rw [List.mem_singleton.mp hb] at hab
      rw [hab] at ha
      exact (h.marked _).mp ha hmask
    next => exact h.nodup
  marked r := by
    rw [mem_dirtyRows_exchanged h.marked, row_exchanged hrow]
    split
    next heq => exact ⟨fun _ => mask_markedRow p physical t index, fun _ => Or.inl heq⟩
    next hne =>
      rw [← h.marked]
      exact ⟨fun hor => hor.resolve_left hne, Or.inr⟩
  same r := by
    rw [row_exchanged hrow]
    split
    next heq =>
      rw [heq]
      exact (h.same _).trans (sameRow_markedRow p physical t index)
    next => exact h.same r
  clean r hr := by
    rw [mem_dirtyRows_exchanged h.marked, not_or] at hr
    rw [row_exchanged hrow, if_neg hr.1]
    exact h.clean r hr.2
  source r hr := by
    cases (mem_dirtyRows_exchanged h.marked r).mp hr with
    | inl heq =>
      refine ⟨index, ?_, List.mem_append_right _ (List.mem_singleton_self index), ?_⟩
      . rw [← h.membersLength]
        exact hindex
      . rw [← h.mapping]
        exact heq.symm
    | inr hmem =>
      obtain ⟨i, hlt, hvisited, heq⟩ := h.source r hmem
      exact ⟨i, hlt, List.mem_append_left _ hvisited, heq⟩
  kept i hi := by
    obtain ⟨hvisited, hne⟩ := notMem_visited hi
    rw [member_exchanged hindex, if_neg hne]
    exact h.kept i hvisited
  seen i hi hlt := by
    rw [member_exchanged hindex]
    split
    next heq =>
      rw [heq]
      exact ⟨rfl, rfl⟩
    next hne => exact h.seen i ((mem_visited hi).resolve_right hne) hlt
  forced i hi hlt hcommitted := by
    rw [mem_dirtyRows_exchanged h.marked]
    cases mem_visited hi with
    | inl hmem => exact Or.inr (h.forced i hmem hlt hcommitted)
    | inr heq =>
      rw [heq, h.mapping]
      exact Or.inl rfl
  passed i hi hlt hclean := by
    rw [mem_dirtyRows_exchanged h.marked, not_or, h.mapping] at hclean
    cases mem_visited hi with
    | inl hmem => exact h.passed i hmem hlt hclean.2
    | inr heq =>
      rw [heq] at hclean
      exact absurd rfl hclean.1

theorem Marking.step {visited : List Nat} (h : Marking p physical start t visited)
    (hexact : Exact p t) (index : Nat)
    : Marking p physical start (prepareMember p physical t index) (visited ++ [index])
        ∧ Exact p (prepareMember p physical t index) := by
  rcases prepareMember_cases p physical t index with ⟨hge, heq⟩ | ⟨_, hpass, heq⟩ | ⟨hlt, heq⟩
  . rw [heq]
    refine ⟨h.pass ?_, hexact⟩
    intro hlt
    rw [← h.membersLength] at hlt
    exact absurd hlt (Nat.not_lt.mpr hge)
  . rw [heq]
    exact ⟨h.pass (fun _ => hpass), hexact⟩
  . rw [heq]
    have hrow := hexact.mapped index (by rw [← hexact.lengths]; exact hlt)
    exact ⟨h.exchange hlt hrow, hexact.exchange hlt⟩

theorem Marking.run {visited : List Nat} (h : Marking p physical start t visited)
    (hexact : Exact p t) (indices : List Nat)
    : Marking p physical start (indices.foldl (prepareMember p physical) t) (visited ++ indices)
        ∧ Exact p (indices.foldl (prepareMember p physical) t) := by
  induction indices generalizing t visited with
  | nil =>
    rw [List.append_nil]
    exact ⟨h, hexact⟩
  | cons index indices ih =>
    obtain ⟨hstep, hexactStep⟩ := h.step hexact index
    have hrest := ih hstep hexactStep
    rw [List.append_assoc] at hrest
    exact hrest

end Pass

end RenderGroupProjection
end Peraviz.Presentation
