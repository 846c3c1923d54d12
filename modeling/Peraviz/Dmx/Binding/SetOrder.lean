import Mathlib.Data.List.Pairwise
import Peraviz.Checked.OptionFold
import Peraviz.Dmx.Binding.GoboSets

/-!
This module contains the exact condition under which the DMX ranges of the ChannelSets of a function
are apart and in the order in which their starts are declared. A start below that of the function is
relative to it, so that two declared starts can meet or change places.
-/

namespace Peraviz.Dmx

open Intervals Peraviz.Gdtf

section

variable {α : Type}

/-- The ranges lie in the window, no two of them meet, and they are in the order of the declared
starts. -/
structure OrderedRanges (window : Window) (rows : List (ChannelSetRow α)) : Prop where
  inside : ∀ row ∈ rows, window.dmxFrom ≤ row.dmxFrom ∧ row.dmxFrom ≤ row.dmxTo
    ∧ row.dmxTo ≤ window.dmxTo
  disjoint : rows.Pairwise (fun a b => a.dmxTo < b.dmxFrom ∨ b.dmxTo < a.dmxFrom)
  sameOrder : rows.Pairwise (fun a b => a.declaredFrom < b.declaredFrom)

/-- Two declared starts, the first one lower, that stay apart: an absolute one has to lie in front
of the end of the function, a relative one has to do so once it is moved, and it must not reach an
absolute one. -/
def StaysApart (window : Window) (lower upper : Int) : Prop :=
  if window.dmxFrom ≤ lower then lower < window.dmxTo
  else window.dmxFrom + lower < window.dmxTo
    ∧ (window.dmxFrom ≤ upper → window.dmxFrom + lower < upper)

instance (window : Window) (lower upper : Int) : Decidable (StaysApart window lower upper) :=
  inferInstanceAs (Decidable (
    if window.dmxFrom ≤ lower then lower < window.dmxTo
    else window.dmxFrom + lower < window.dmxTo
      ∧ (window.dmxFrom ≤ upper → window.dmxFrom + lower < upper)))

/-- The ChannelSets declare different starts and no end. -/
structure DeclareStarts (channelFunction : XMLElement) : Prop where
  distinct : (channelSets channelFunction).Pairwise (fun a b => declaredFrom a ≠ declaredFrom b)
  noEnds : ∀ channelSet ∈ channelSets channelFunction, declaredTo channelSet < 0

/-! ### Declared starts -/

theorem parseDmxValue8bit_le (rawValue : Option String) : parseDmxValue8bit rawValue ≤ 255 := by
  unfold parseDmxValue8bit
  cases rawValue with
  | none => decide
  | some raw =>
    dsimp only
    split
    next => decide
    next =>
      cases strtol (splitResolution (trimChars raw.toList)).1 with
      | none =>
        change (-1 : Int) ≤ 255
        decide
      | some parsed =>
        have h8 := @clamp_le parsed 0 255 (by omega)
        have h16 := @clamp_le parsed 0 65535 (by omega)
        have h24 := @clamp_le parsed 0 16777215 (by omega)
        have h32 := @clamp_le parsed 0 4294967295 (by omega)
        dsimp only
        split
        next => omega
        next =>
          split
          next => exact h8
          next =>
            split
            next => omega
            next => split <;> omega

theorem declaredFrom_bounds (channelSet : XMLElement)
    : 0 ≤ declaredFrom channelSet ∧ declaredFrom channelSet ≤ 255 := by
  have hvalue : dmxAttribute channelSet "DMXFrom" "dmxfrom" ≤ 255 := by
    unfold dmxAttribute
    dsimp only
    split
    next => exact parseDmxValue8bit_le _
    next => exact parseDmxValue8bit_le _
  unfold declaredFrom
  dsimp only
  split
  next => omega
  next => omega

theorem resolve_bounds (window : Window) (rawValue : Int)
    : window.dmxFrom ≤ resolveChannelSetDmx window rawValue
        ∧ resolveChannelSetDmx window rawValue ≤ window.dmxTo := by
  unfold resolveChannelSetDmx
  split
  next => exact clamp_bounds window.ordered
  next => exact clamp_bounds window.ordered

theorem resolve_eq (window : Window) {rawValue : Int} (h : 0 ≤ rawValue ∧ rawValue ≤ 255)
    : resolveChannelSetDmx window rawValue
        = min (if window.dmxFrom ≤ rawValue then rawValue else window.dmxFrom + rawValue)
            window.dmxTo := by
  unfold resolveChannelSetDmx
  split
  next habsolute => rw [clamp_of_le habsolute.1, if_pos habsolute.1]
  next hrelative =>
    rw [clamp_of_le (by omega), if_neg (by omega)]
    omega

theorem resolve_lt_iff (window : Window) {lower upper : Int} (hlower : 0 ≤ lower ∧ lower ≤ 255)
    (hupper : 0 ≤ upper ∧ upper ≤ 255) (hlt : lower < upper)
    : resolveChannelSetDmx window lower < resolveChannelSetDmx window upper
        ↔ StaysApart window lower upper := by
  rw [resolve_eq window hlower, resolve_eq window hupper, StaysApart]
  split
  next => split <;> omega
  next => split <;> omega

/-! ### Closed rows -/

/-- A row as it is made of a set that declares no end. -/
structure OpenRow (window : Window) (row : ChannelSetRow α) : Prop where
  dmxFrom : row.dmxFrom = resolveChannelSetDmx window row.declaredFrom
  dmxTo : row.dmxTo < 0
  declared : 0 ≤ row.declaredFrom ∧ row.declaredFrom ≤ 255

/-- The closed row still has the data of the open one. -/
structure SameRow (window : Window) (row closed : ChannelSetRow α) : Prop where
  isOpen : OpenRow window row
  dmxFrom : closed.dmxFrom = row.dmxFrom
  declaredFrom : closed.declaredFrom = row.declaredFrom
  set : closed.set = row.set

variable {window : Window}

theorem openRow_rowOf {channelSet : XMLElement} (h : declaredTo channelSet < 0) (set : α)
    : OpenRow window (rowOf window channelSet set) := by
  refine ⟨rfl, ?_, declaredFrom_bounds channelSet⟩
  change (if declaredTo channelSet < 0 then (-1 : Int) else _) < 0
  rw [if_pos h]
  decide

/-- The next row starts where this one does or behind. -/
def SortedBefore (row : ChannelSetRow α) (next : Option (ChannelSetRow α)) : Prop :=
  ∀ other, next = some other → row.dmxFrom ≤ other.dmxFrom ∧ other.dmxFrom ≤ window.dmxTo

theorem closeRow_eq {row : ChannelSetRow α} {next : Option (ChannelSetRow α)}
    (hopen : OpenRow window row) (hnext : @SortedBefore α window row next)
    : closeRow window row next = { row with dmxTo := closedTo window row next }
        ∧ row.dmxFrom ≤ closedTo window row next ∧ closedTo window row next ≤ window.dmxTo := by
  have hbounds := resolve_bounds window row.declaredFrom
  rw [← hopen.dmxFrom] at hbounds
  have hto : row.dmxFrom ≤ closedTo window row next
      ∧ closedTo window row next ≤ window.dmxTo := by
    unfold closedTo
    rw [if_pos hopen.dmxTo]
    cases next with
    | none =>
      dsimp only
      omega
    | some other =>
      have hother := hnext other rfl
      dsimp only
      omega
  have hfirst : clamp row.dmxFrom window.dmxFrom window.dmxTo = row.dmxFrom :=
    clamp_of_bounds hbounds
  have hlast : clamp (closedTo window row next) window.dmxFrom window.dmxTo
      = closedTo window row next := clamp_of_bounds (by omega)
  refine ⟨?_, hto⟩
  unfold closeRow
  dsimp only
  rw [hfirst, hlast, if_neg (by omega), if_neg (by omega)]

/-- The first of two closed rows ends in front of the second one, unless they start together. -/
structure Follows (a b : ChannelSetRow α) : Prop where
  sorted : a.dmxFrom ≤ b.dmxFrom
  ends : a.dmxTo < b.dmxFrom ↔ a.dmxFrom < b.dmxFrom

structure Closed (window : Window) (closed : List (ChannelSetRow α)) : Prop where
  inside : ∀ row ∈ closed, window.dmxFrom ≤ row.dmxFrom ∧ row.dmxFrom ≤ row.dmxTo
    ∧ row.dmxTo ≤ window.dmxTo
  follows : closed.Pairwise Follows

theorem sortedBefore_head {row : ChannelSetRow α} {rest : List (ChannelSetRow α)}
    (hopen : ∀ other ∈ rest, OpenRow window other)
    (hsorted : ∀ other ∈ rest, row.dmxFrom ≤ other.dmxFrom)
    : @SortedBefore α window row rest.head? := by
  intro other hother
  have hmem := List.mem_of_head? hother
  refine ⟨hsorted other hmem, ?_⟩
  rw [(hopen other hmem).dmxFrom]
  exact (resolve_bounds window other.declaredFrom).2

theorem closedTo_lt_iff {row : ChannelSetRow α} {rest : List (ChannelSetRow α)}
    (hopen : row.dmxTo < 0) (hsorted : (row :: rest).Pairwise (fun a b => a.dmxFrom ≤ b.dmxFrom))
    {other : ChannelSetRow α} (hother : other ∈ rest)
    : closedTo window row rest.head? < other.dmxFrom ↔ row.dmxFrom < other.dmxFrom := by
  cases rest with
  | nil => contradiction
  | cons next rest =>
    simp only [List.pairwise_cons, List.forall_mem_cons] at hsorted
    have hle : next.dmxFrom ≤ other.dmxFrom := by
      cases List.mem_cons.mp hother with
      | inl heq => rw [heq]
      | inr hmem => exact hsorted.2.1 other hmem
    have hrow := hsorted.1.1
    unfold closedTo
    rw [if_pos hopen, List.head?_cons]
    dsimp only
    omega

theorem sameRow_closeRows {rows : List (ChannelSetRow α)}
    (hopen : ∀ row ∈ rows, OpenRow window row)
    (hsorted : rows.Pairwise (fun a b => a.dmxFrom ≤ b.dmxFrom))
    : List.Forall₂ (SameRow window) rows (closeRows window rows) := by
  induction rows with
  | nil => exact List.Forall₂.nil
  | cons row rest ih =>
    rw [List.pairwise_cons] at hsorted
    rw [List.forall_mem_cons] at hopen
    have hclose := (closeRow_eq hopen.1 (sortedBefore_head hopen.2 hsorted.1)).1
    apply List.Forall₂.cons
    . rw [hclose]
      exact ⟨hopen.1, rfl, rfl, rfl⟩
    . exact ih hopen.2 hsorted.2

theorem closed_closeRows {rows : List (ChannelSetRow α)}
    (hopen : ∀ row ∈ rows, OpenRow window row)
    (hsorted : rows.Pairwise (fun a b => a.dmxFrom ≤ b.dmxFrom))
    : Closed window (closeRows window rows) := by
  induction rows with
  | nil => exact ⟨fun row h => absurd h List.not_mem_nil, List.Pairwise.nil⟩
  | cons row rest ih =>
    have hopen' := List.forall_mem_cons.mp hopen
    have hsorted' := List.pairwise_cons.mp hsorted
    have hrest := ih hopen'.2 hsorted'.2
    have hnext := sortedBefore_head hopen'.2 hsorted'.1
    obtain ⟨hclose, hfirst, hlast⟩ := closeRow_eq hopen'.1 hnext
    have hbounds := resolve_bounds window row.declaredFrom
    rw [← hopen'.1.dmxFrom] at hbounds
    rw [closeRows, hclose]
    constructor
    . rw [List.forall_mem_cons]
      exact ⟨⟨hbounds.1, hfirst, hlast⟩, hrest.inside⟩
    . rw [List.pairwise_cons]
      refine ⟨?_, hrest.follows⟩
      have hsame : ∀ other closed, SameRow window other closed →
          ((row.dmxFrom ≤ other.dmxFrom ∧ (closedTo window row rest.head? < other.dmxFrom
              ↔ row.dmxFrom < other.dmxFrom))
            ↔ Follows { row with dmxTo := closedTo window row rest.head? } closed) := by
        intro other closed hsame
        rw [← hsame.dmxFrom]
        constructor
        . intro h
          exact ⟨h.1, h.2⟩
        . intro h
          exact ⟨h.sorted, h.ends⟩
      apply (OptionFold.forall_mem_iff_of_forall₂ (sameRow_closeRows hopen'.2 hsorted'.2) hsame).mp
      intro other hother
      exact ⟨hsorted'.1 other hother, closedTo_lt_iff hopen'.1.dmxTo hsorted hother⟩

/-! ### Order -/

theorem orderedRanges_iff {rows : List (ChannelSetRow α)} (hclosed : Closed window rows)
    (hdistinct : rows.Pairwise (fun a b => a.declaredFrom ≠ b.declaredFrom))
    : OrderedRanges window rows ↔ ∀ a ∈ rows, ∀ b ∈ rows, a.declaredFrom < b.declaredFrom →
        a.dmxFrom < b.dmxFrom := by
  constructor
  . intro h
    have hforward : rows.Pairwise (fun a b => a.declaredFrom < b.declaredFrom →
        a.dmxFrom < b.dmxFrom) := by
      apply List.Pairwise.imp_of_mem _ (h.disjoint.and hclosed.follows)
      intro a b ha hb hboth _
      have hinsideA := h.inside a ha
      have hinsideB := h.inside b hb
      have hsorted := hboth.2.sorted
      omega
    -- a row behind is declared behind
    have hbackward : rows.Pairwise (flip (fun a b => a.declaredFrom < b.declaredFrom →
        a.dmxFrom < b.dmxFrom)) := by
      apply List.Pairwise.imp _ h.sameOrder
      intro a b horder hflipped
      omega
    intro a ha b hb
    apply List.Pairwise.forall_of_forall_of_flip _ hforward hbackward ha hb
    intro row _ hself
    omega
  . intro h
    have hpairs : rows.Pairwise (fun a b => a.declaredFrom < b.declaredFrom
        ∧ a.dmxTo < b.dmxFrom) := by
      apply List.Pairwise.imp_of_mem _ (hdistinct.and hclosed.follows)
      intro a b ha hb hboth
      have hsorted := hboth.2.sorted
      have hlt : a.declaredFrom < b.declaredFrom := by
        rcases lt_or_gt_of_ne hboth.1 with hlt | hgt
        . exact hlt
        . have := h b hb a ha hgt
          omega
      exact ⟨hlt, hboth.2.ends.mpr (h a ha b hb hlt)⟩
    refine ⟨hclosed.inside, ?_, ?_⟩
    . exact hpairs.imp (fun h => .inl h.2)
    . exact hpairs.imp (fun h => h.1)

theorem sortRows_pair {a b : ChannelSetRow α} (h : b.dmxFrom < a.dmxFrom)
    : sortRows [a, b] = [b, a] := by
  have hle : ¬ a.dmxFrom ≤ b.dmxFrom := by omega
  unfold sortRows
  simp [List.mergeSort, List.MergeSort.Internal.splitInTwo, hle]

theorem sortRows_pairwise (rows : List (ChannelSetRow α))
    : (sortRows rows).Pairwise (fun a b => a.dmxFrom ≤ b.dmxFrom) := by
  have hsorted := @List.pairwise_mergeSort (ChannelSetRow α)
    (fun a b => decide (a.dmxFrom ≤ b.dmxFrom))
    (by
      intro a b c hab hbc
      rw [decide_eq_true_eq] at hab hbc
      rw [decide_eq_true_eq]
      omega)
    (by
      intro a b
      rw [Bool.or_eq_true, decide_eq_true_eq, decide_eq_true_eq]
      omega)
    rows
  exact hsorted.imp of_decide_eq_true

/-- The rows with a property of their sets are in order exactly when their declared starts stay
apart in pairs. -/
theorem orderedRanges_closed_iff {parsed : List (ChannelSetRow α)}
    (hopen : ∀ row ∈ parsed, OpenRow window row)
    (hdistinct : parsed.Pairwise (fun a b => a.declaredFrom ≠ b.declaredFrom))
    {p : ChannelSetRow α → Bool} {q : α → Bool} (hp : ∀ row, p row = q row.set)
    : OrderedRanges window ((closeRows window (sortRows parsed)).filter p)
        ↔ ∀ a ∈ parsed, q a.set = true → ∀ b ∈ parsed, q b.set = true →
          a.declaredFrom < b.declaredFrom → StaysApart window a.declaredFrom b.declaredFrom := by
  have hperm : (sortRows parsed).Perm parsed := List.mergeSort_perm ..
  have hopen' : ∀ row ∈ sortRows parsed, OpenRow window row := by
    intro row hrow
    exact hopen row (hperm.mem_iff.mp hrow)
  have hclosed := closed_closeRows hopen' (sortRows_pairwise parsed)
  have hsame := sameRow_closeRows hopen' (sortRows_pairwise parsed)
  have hdistinct' : (closeRows window (sortRows parsed)).Pairwise
      (fun a b => a.declaredFrom ≠ b.declaredFrom) := by
    have hstarts : (closeRows window (sortRows parsed)).map ChannelSetRow.declaredFrom
        = (sortRows parsed).map ChannelSetRow.declaredFrom := by
      rw [← List.forall₂_eq_eq_eq, List.forall₂_map_left_iff, List.forall₂_map_right_iff]
      exact hsame.flip.imp (fun closed row h => h.declaredFrom)
    have hsorted := (hperm.pairwise_iff (fun h => Ne.symm h)).mpr hdistinct
    rw [← @List.pairwise_map _ _ ChannelSetRow.declaredFrom (fun a b => a ≠ b)] at hsorted ⊢
    rw [hstarts]
    exact hsorted
  have hfiltered : Closed window ((closeRows window (sortRows parsed)).filter p) := by
    constructor
    . intro row hrow
      exact hclosed.inside row (List.mem_filter.mp hrow).1
    . exact hclosed.follows.filter p
  rw [orderedRanges_iff hfiltered (hdistinct'.filter p)]
  simp only [List.mem_filter, and_imp, hp, ← hperm.mem_iff]
  apply Iff.symm
  apply OptionFold.forall_mem_iff_of_forall₂ hsame
  intro a closedA ha
  rw [ha.set]
  apply imp_congr_right
  intro _
  apply OptionFold.forall_mem_iff_of_forall₂ hsame
  intro b closedB hb
  rw [hb.set, ha.declaredFrom, hb.declaredFrom]
  apply imp_congr_right
  intro _
  apply imp_congr_right
  intro hlt
  rw [ha.dmxFrom, hb.dmxFrom, ha.isOpen.dmxFrom, hb.isOpen.dmxFrom,
    resolve_lt_iff window ha.isOpen.declared hb.isOpen.declared hlt]

end

/-! ### Functions -/

section

variable (floatText : String → Option ℚ) {window : Window} {channelFunction : XMLElement}

theorem openRow_gatherGoboSets {definition : GoboWheelDefinition} {lastSlotIndex : Int32}
    {sets : List XMLElement} (hnoEnds : ∀ channelSet ∈ sets, declaredTo channelSet < 0)
    : ∀ row ∈ gatherGoboSets floatText window channelFunction definition lastSlotIndex sets,
        OpenRow window row := by
  induction sets generalizing lastSlotIndex with
  | nil =>
    intro row hrow
    contradiction
  | cons channelSet rest ih =>
    rw [List.forall_mem_cons] at hnoEnds
    rw [gatherGoboSets]
    dsimp only
    split
    next => exact ih hnoEnds.2
    next =>
      rw [List.forall_mem_cons]
      exact ⟨openRow_rowOf hnoEnds.1 _, ih hnoEnds.2⟩

theorem declaredFrom_gatherGoboSets (definition : GoboWheelDefinition) (lastSlotIndex : Int32)
    (sets : List XMLElement)
    : ((gatherGoboSets floatText window channelFunction definition lastSlotIndex sets).map
        ChannelSetRow.declaredFrom).Sublist (sets.map declaredFrom) := by
  induction sets generalizing lastSlotIndex with
  | nil => exact List.Sublist.slnil
  | cons channelSet rest ih =>
    rw [gatherGoboSets]
    dsimp only
    split
    next => exact (ih lastSlotIndex).cons _
    next => exact (ih _).cons_cons _

theorem distinct_gatherGoboSets (h : DeclareStarts channelFunction)
    (definition : GoboWheelDefinition) (lastSlotIndex : Int32)
    : (gatherGoboSets floatText window channelFunction definition lastSlotIndex
        (channelSets channelFunction)).Pairwise (fun a b => a.declaredFrom ≠ b.declaredFrom) := by
  have hdistinct := h.distinct
  rw [← @List.pairwise_map _ _ declaredFrom (fun a b => a ≠ b)] at hdistinct
  rw [← @List.pairwise_map _ _ ChannelSetRow.declaredFrom (fun a b => a ≠ b)]
  exact hdistinct.sublist (declaredFrom_gatherGoboSets floatText definition lastSlotIndex _)

theorem ranges_pushGoboRow (mode : Window) (functionPhysical amplitude : Option (ℚ × ℚ))
    (wheel : FixtureGoboWheelOffset) (row : ChannelSetRow GoboSet)
    : (pushGoboRow window mode functionPhysical amplitude wheel row).ranges
        = wheel.ranges ++ [goboRangeOf mode row] := by
  unfold pushGoboRow
  dsimp only
  split
  next => rfl
  next => rfl
  next => rfl
  next => rfl

theorem ranges_foldl_pushGoboRow (mode : Window) (functionPhysical amplitude : Option (ℚ × ℚ))
    (wheel : FixtureGoboWheelOffset) (rows : List (ChannelSetRow GoboSet))
    : (rows.foldl (pushGoboRow window mode functionPhysical amplitude) wheel).ranges
        = wheel.ranges ++ rows.map (goboRangeOf mode) := by
  induction rows generalizing wheel with
  | nil => exact (List.append_nil _).symm
  | cons row rest ih =>
    rw [List.foldl_cons, ih, ranges_pushGoboRow, List.map_cons, List.append_assoc]
    rfl

/-- The physical values of a set of a rotation channel are known. -/
def hasRotationPhysical (functionPhysical : Option (ℚ × ℚ)) (set : RotationSet) : Bool :=
  set.physical.isSome || functionPhysical.isSome ||
    (inferRotationPhysicalFromName set.name).isSome

theorem rotationRowPhysical_isSome (functionPhysical : Option (ℚ × ℚ))
    (row : ChannelSetRow RotationSet)
    : (rotationRowPhysical window functionPhysical row).isSome
        = hasRotationPhysical functionPhysical row.set := by
  unfold rotationRowPhysical hasRotationPhysical
  cases row.set.physical with
  | some physical => rfl
  | none =>
    cases functionPhysical with
    | some physical =>
      dsimp only
      split
      next => rfl
      next => rfl
    | none => rfl

theorem goboRows_ordered_iff (h : DeclareStarts channelFunction)
    (definition : GoboWheelDefinition) (wheel : FixtureGoboWheelOffset)
    : OrderedRanges window (goboRows floatText window channelFunction definition wheel)
        ↔ ∀ a ∈ gatherGoboSets floatText window channelFunction definition (lastSlotOf wheel)
            (channelSets channelFunction),
          ∀ b ∈ gatherGoboSets floatText window channelFunction definition (lastSlotOf wheel)
            (channelSets channelFunction),
          a.declaredFrom < b.declaredFrom → StaysApart window a.declaredFrom b.declaredFrom := by
  have hordered := @orderedRanges_closed_iff _ window _
    (@openRow_gatherGoboSets floatText window channelFunction definition (lastSlotOf wheel) _
      h.noEnds)
    (distinct_gatherGoboSets floatText h definition (lastSlotOf wheel))
    (fun _ => true) (fun _ => true) (fun _ => rfl)
  rw [List.filter_true] at hordered
  simp only [true_implies] at hordered
  exact hordered

theorem orderedRanges_wholeRow (functionPhysical : Option (ℚ × ℚ))
    : OrderedRanges window (wholeRow window functionPhysical) := by
  unfold wholeRow
  cases functionPhysical with
  | none => exact ⟨fun row h => absurd h List.not_mem_nil, List.Pairwise.nil, List.Pairwise.nil⟩
  | some physical =>
    refine ⟨?_, List.pairwise_singleton .., List.pairwise_singleton ..⟩
    intro row hrow
    rw [List.mem_singleton.mp hrow]
    exact ⟨Int.le_refl _, window.ordered, Int.le_refl _⟩

theorem rotationRows_ordered_iff (h : DeclareStarts channelFunction)
    : OrderedRanges window (rotationRows floatText window channelFunction)
        ↔ ∀ a ∈ gatherRotationSets floatText window channelFunction,
          hasRotationPhysical (physicalRange floatText channelFunction) a.set = true →
          ∀ b ∈ gatherRotationSets floatText window channelFunction,
          hasRotationPhysical (physicalRange floatText channelFunction) b.set = true →
          a.declaredFrom < b.declaredFrom → StaysApart window a.declaredFrom b.declaredFrom := by
  unfold rotationRows
  dsimp only
  split
  next hempty =>
    rw [List.isEmpty_iff] at hempty
    rw [hempty]
    constructor
    . intro _ a ha
      contradiction
    . intro _
      exact orderedRanges_wholeRow _
  next =>
    apply orderedRanges_closed_iff
    . intro row hrow
      obtain ⟨channelSet, hmem, hrow⟩ := List.mem_map.mp hrow
      rw [← hrow]
      exact openRow_rowOf (h.noEnds channelSet hmem) _
    . rw [gatherRotationSets, List.pairwise_map]
      exact h.distinct
    . intro row
      exact rotationRowPhysical_isSome _ row

end

/--
The ranges that both functions append belong to the rows of the sets that are consumed. They are in
the window, apart, and in the order of the declared starts exactly when the declared starts of any
two of these sets stay apart.
-/
theorem channelSets_ordered_iff (floatText : String → Option ℚ) (root channelFunction : XMLElement)
    (wheelCatalog : GoboWheelCatalog) (definition : GoboWheelDefinition)
    (wheel : FixtureGoboWheelOffset) (outRanges : List FixtureGoboRotationRange)
    (functionDmxFrom functionDmxTo modeWindowFrom modeWindowTo : Int)
    (hlinked : linkedWheel channelFunction wheelCatalog = some definition)
    (hdeclared : DeclareStarts channelFunction)
    : let window := windowOf functionDmxFrom functionDmxTo
      let mode := windowOf modeWindowFrom modeWindowTo
      let functionPhysical := physicalRange floatText channelFunction
      let sets := gatherGoboSets floatText window channelFunction definition (lastSlotOf wheel)
        (channelSets channelFunction)
      let rotationSets := gatherRotationSets floatText window channelFunction
      ((consumeGoboChannelSets floatText root channelFunction wheelCatalog wheel functionDmxFrom
            functionDmxTo modeWindowFrom modeWindowTo).ranges
          = wheel.ranges ++ (goboRows floatText window channelFunction definition wheel).map
              (goboRangeOf mode)
        ∧ (OrderedRanges window (goboRows floatText window channelFunction definition wheel)
          ↔ ∀ a ∈ sets, ∀ b ∈ sets, a.declaredFrom < b.declaredFrom →
            StaysApart window a.declaredFrom b.declaredFrom))
      ∧ (consumeGoboRotationChannelSets floatText channelFunction outRanges functionDmxFrom
            functionDmxTo modeWindowFrom modeWindowTo
          = outRanges ++ (rotationRows floatText window channelFunction).filterMap (fun row =>
              (rotationRowPhysical window functionPhysical row).map (rotationRangeOf mode true row))
        ∧ (OrderedRanges window (rotationRows floatText window channelFunction)
          ↔ ∀ a ∈ rotationSets, hasRotationPhysical functionPhysical a.set = true →
            ∀ b ∈ rotationSets, hasRotationPhysical functionPhysical b.set = true →
              a.declaredFrom < b.declaredFrom →
                StaysApart window a.declaredFrom b.declaredFrom)) := by
  intro window mode functionPhysical sets rotationSets
  refine ⟨⟨?_, ?_⟩, rfl, ?_⟩
  . unfold consumeGoboChannelSets
    rw [hlinked]
    exact ranges_foldl_pushGoboRow mode _ _ _ _
  . exact goboRows_ordered_iff floatText hdeclared definition wheel
  . exact rotationRows_ordered_iff floatText hdeclared

def twoSlots : GoboWheelDefinition where
  declaredSlotOrder := [1, 2]
  declaredSlots := [1, 2]

def twoSlotsCatalog : GoboWheelCatalog where
  wheels name := if name = "gobo1" then some twoSlots else none

/-- A gobo function with a set for each of the two slots. -/
def twoSetsFunction (first second : String) : XMLElement :=
  .node 1 "ChannelFunction" [("Attribute", "Gobo1"), ("Wheel", "Gobo1")]
    [.node 2 "ChannelSet" [("DMXFrom", first), ("WheelSlotIndex", "1")] [],
      .node 3 "ChannelSet" [("DMXFrom", second), ("WheelSlotIndex", "2")] []]

theorem channelSets_ordered_iff_absolute
    : OrderedRanges (windowOf 10 100) (goboRows (fun _ => none) (windowOf 10 100)
        (twoSetsFunction "12/1" "40/1") twoSlots {}) :=
  ((channelSets_ordered_iff (fun _ => none) (twoSetsFunction "12/1" "40/1")
    (twoSetsFunction "12/1" "40/1") twoSlotsCatalog twoSlots {} [] 10 100 0 255 (by decide +kernel)
    ⟨by decide +kernel, by decide +kernel⟩).1.2).mpr (by decide +kernel)

/-- In a function over 10..100 the set that starts at 5 is put behind the one that starts at 12. -/
theorem mixedStarts_reordered
    : DeclareStarts (twoSetsFunction "5/1" "12/1")
        ∧ linkedWheel (twoSetsFunction "5/1" "12/1") twoSlotsCatalog = some twoSlots
        ∧ goboRows (fun _ => none) (windowOf 10 100) (twoSetsFunction "5/1" "12/1") twoSlots {}
          = [⟨12, 14, 12, ⟨2, .fixed, "", none⟩⟩, ⟨15, 100, 5, ⟨1, .fixed, "", none⟩⟩]
        ∧ ¬ OrderedRanges (windowOf 10 100)
          (goboRows (fun _ => none) (windowOf 10 100) (twoSetsFunction "5/1" "12/1") twoSlots {}) := by
  have hsets : gatherGoboSets (fun _ => none) (windowOf 10 100) (twoSetsFunction "5/1" "12/1")
      twoSlots (lastSlotOf {}) (channelSets (twoSetsFunction "5/1" "12/1"))
      = [⟨15, -1, 5, ⟨1, .fixed, "", none⟩⟩, ⟨12, -1, 12, ⟨2, .fixed, "", none⟩⟩] := by
    decide +kernel
  have hrows : goboRows (fun _ => none) (windowOf 10 100) (twoSetsFunction "5/1" "12/1") twoSlots {}
      = [⟨12, 14, 12, ⟨2, .fixed, "", none⟩⟩, ⟨15, 100, 5, ⟨1, .fixed, "", none⟩⟩] := by
    rw [goboRows, hsets, sortRows_pair (by decide)]
    decide
  refine ⟨⟨by decide +kernel, by decide +kernel⟩, by decide +kernel, hrows, ?_⟩
  rw [hrows]
  intro h
  have horder := h.sameOrder
  revert horder
  decide

end Peraviz.Dmx
