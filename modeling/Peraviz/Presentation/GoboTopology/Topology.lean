import Mathlib.Data.List.Sigma
import Peraviz.Checked.OptionFold
import Peraviz.Cyclic.Basic
import Peraviz.KeyedIndex.Basic
import Peraviz.Presentation.GoboTopology.Impl

/-!
This module contains what the arrangement of the rings promises. A parent has a strictly larger
area, so the parents form a forest. Depths alternate along it between outer rings and holes.
-/

namespace Peraviz.Presentation.GoboCompoundTopology

section Area

theorem foldl_add_eq_sum (weigh : Nat → ℚ) (indices : List Nat) (start : ℚ)
    : indices.foldl (fun area index => area + weigh index) start
      = start + (indices.map weigh).sum := by
  induction indices generalizing start with
  | nil => simp
  | cons index indices ih => rw [List.foldl_cons, ih, List.map_cons, List.sum_cons, add_assoc]

theorem signedArea_eq_pairSum (ring : PackedVector2Array)
    : signedArea ring = Cyclic.pairSum Vector2.cross ring * (1 / 2) := by
  rw [signedArea, foldl_add_eq_sum, zero_add, Cyclic.pairSum_eq_range Vector2.cross ring 0]
  rfl

theorem signedArea_reverse (ring : PackedVector2Array)
    : signedArea ring.reverse = -signedArea ring := by
  rw [signedArea_eq_pairSum, signedArea_eq_pairSum, Cyclic.pairSum_reverse Vector2.cross_anti,
    neg_mul]

theorem normalizeWinding_eq (ring : PackedVector2Array) (counterClockwise : Bool)
    : normalizeWinding ring counterClockwise = ring
      ∨ normalizeWinding ring counterClockwise = ring.reverse := by
  unfold normalizeWinding
  split
  . exact Or.inr rfl
  . exact Or.inl rfl

theorem abs_signedArea_normalizeWinding (ring : PackedVector2Array) (counterClockwise : Bool)
    : |signedArea (normalizeWinding ring counterClockwise)| = |signedArea ring| := by
  cases normalizeWinding_eq ring counterClockwise with
  | inl heq => rw [heq]
  | inr heq => rw [heq, signedArea_reverse, abs_neg]

theorem signedArea_counterClockwise {ring : PackedVector2Array}
    (h : signedArea (normalizeWinding ring true) ≠ 0)
    : 0 < signedArea (normalizeWinding ring true) := by
  unfold normalizeWinding at h ⊢
  split at h
  . next hwound =>
    rw [if_pos hwound]
    simp only [bne_iff_ne, ne_eq, decide_eq_true_eq, not_lt] at hwound
    rw [signedArea_reverse] at h ⊢
    exact neg_pos.mpr (lt_of_le_of_ne hwound (fun heq => h (by rw [heq, neg_zero])))
  . next hwound =>
    rw [if_neg hwound]
    simpa using hwound

theorem signedArea_clockwise {ring : PackedVector2Array}
    (h : signedArea (normalizeWinding ring false) ≠ 0)
    : signedArea (normalizeWinding ring false) < 0 := by
  unfold normalizeWinding at h ⊢
  split at h
  . next hwound =>
    rw [if_pos hwound, signedArea_reverse]
    simpa using hwound
  . next hwound =>
    rw [if_neg hwound]
    simp only [bne_iff_ne, ne_eq, decide_eq_false_iff_not, not_not, not_lt] at hwound
    exact lt_of_le_of_ne hwound h

end Area

section Parents

variable {geometry : Geometry2D} {records : List Record}

/-- What is known of the parent that is best so far. -/
def IsLarger (records : List Record) (record : Record) (best : BestParent) : Prop :=
  ∀ entry, best = some entry
    → ∃ parent, records[entry.1]? = some parent ∧ record.area < parent.area

theorem isLarger_considerParent {index : Nat} {record : Record} {best : BestParent}
    {candidate : Record × Nat} (hmem : candidate ∈ records.zipIdx)
    (h : IsLarger records record best)
    : IsLarger records record (considerParent geometry index record best candidate) := by
  unfold considerParent
  split
  . exact h
  . next hskip =>
    split
    . intro entry hentry
      cases hentry
      have hget : records[candidate.2]? = some candidate.1 := List.mem_zipIdx_iff_getElem?.mp hmem
      exact ⟨candidate.1, hget, lt_of_not_ge (fun hle => hskip (Or.inr hle))⟩
    . exact h

theorem isLarger_foldl {index : Nat} {record : Record} {candidates : List (Record × Nat)}
    {best : BestParent} (hmem : ∀ candidate ∈ candidates, candidate ∈ records.zipIdx)
    (h : IsLarger records record best)
    : IsLarger records record (candidates.foldl (considerParent geometry index record) best) := by
  induction candidates generalizing best with
  | nil => exact h
  | cons candidate candidates ih =>
    rw [List.forall_mem_cons] at hmem
    exact ih hmem.2 (isLarger_considerParent hmem.1 h)

theorem area_lt_of_findParent {index ancestor : Nat} {record : Record}
    (h : findParent geometry records index record = some ancestor)
    : ∃ parent, records[ancestor]? = some parent ∧ record.area < parent.area := by
  obtain ⟨entry, hentry, rfl⟩ := Option.map_eq_some_iff.mp h
  apply isLarger_foldl (fun _ hmem => hmem) _ entry hentry
  intro entry hnone
  cases hnone

/-- Every parent is a record with a larger area. -/
def Descending (records : List Record) : Prop :=
  ∀ record ∈ records, ∀ ancestor, record.parent = some ancestor
    → ∃ parent, records[ancestor]? = some parent ∧ record.area < parent.area

theorem descending_linkParents (geometry : Geometry2D) (records : List Record)
    : Descending (linkParents geometry records) := by
  intro record hmem ancestor hancestor
  obtain ⟨index, hlt, rfl⟩ := List.mem_iff_getElem.mp hmem
  simp only [linkParents, List.getElem_mapIdx] at hancestor ⊢
  obtain ⟨parent, hparent, hless⟩ := area_lt_of_findParent hancestor
  refine ⟨{ parent with parent := findParent geometry records ancestor parent }, ?_, hless⟩
  rw [List.getElem?_mapIdx, hparent]
  rfl

end Parents

section Depths

variable {records : List Record}

/-- How many records have a larger area. -/
def larger (records : List Record) (area : ℚ) : Nat :=
  records.countP (fun record => area < record.area)

theorem larger_lt_length {record : Record} (h : record ∈ records)
    : larger records record.area < records.length := by
  apply Nat.lt_of_le_of_ne List.countP_le_length
  intro heq
  have := List.countP_eq_length.mp heq record h
  simp at this

theorem larger_lt_larger {record parent : Record} (h : parent ∈ records)
    (hless : record.area < parent.area)
    : larger records parent.area < larger records record.area := by
  obtain ⟨front, back, rfl⟩ := List.append_of_mem h
  have hmono (part : List Record)
      : larger part parent.area ≤ larger part record.area := by
    apply List.countP_mono_left
    intro other _ hlarger
    simp only [decide_eq_true_eq] at hlarger ⊢
    exact lt_trans hless hlarger
  have hfront := hmono front
  have hback := hmono back
  simp only [larger, List.countP_append, List.countP_cons, lt_self_iff_false, decide_false, hless,
    decide_true] at hfront hback ⊢
  simp
  omega

theorem walkAncestors_succ (fuel depth : Nat) (ancestor : Option Nat)
    : walkAncestors records fuel (depth + 1) ancestor
      = (walkAncestors records fuel depth ancestor).map (· + 1) := by
  induction fuel generalizing depth ancestor with
  | zero => cases ancestor <;> rfl
  | succ fuel ih =>
    cases ancestor with
    | none => rfl
    | some ancestor => exact ih _ _

theorem walkAncestors_mono {less fuel depth answer : Nat} {ancestor : Option Nat}
    (h : walkAncestors records less depth ancestor = some answer) (hle : less ≤ fuel)
    : walkAncestors records fuel depth ancestor = some answer := by
  induction less generalizing fuel depth ancestor with
  | zero =>
    cases ancestor with
    | none => cases fuel <;> exact h
    | some ancestor => cases h
  | succ less ih =>
    cases fuel with
    | zero => omega
    | succ fuel =>
      cases ancestor with
      | none => exact h
      | some ancestor =>
        rw [walkAncestors] at h ⊢
        exact ih h (by omega)

-- Along the parents fewer and fewer records have a larger area.
theorem exists_walkAncestors (hdesc : Descending records) {fuel depth : Nat}
    {ancestor : Option Nat}
    (h : ∀ index, ancestor = some index
      → ∃ record, records[index]? = some record ∧ larger records record.area < fuel)
    : ∃ answer, walkAncestors records fuel depth ancestor = some answer := by
  induction fuel generalizing depth ancestor with
  | zero =>
    cases ancestor with
    | none => exact ⟨depth, rfl⟩
    | some index =>
      obtain ⟨record, _, hlt⟩ := h index rfl
      omega
  | succ fuel ih =>
    cases ancestor with
    | none => exact ⟨depth, rfl⟩
    | some index =>
      obtain ⟨record, hget, hlt⟩ := h index rfl
      apply ih
      intro next hnext
      rw [parentOf, hget] at hnext
      obtain ⟨parent, hparent, hless⟩ := hdesc record (List.mem_of_getElem? hget) next hnext
      have := larger_lt_larger (List.mem_of_getElem? hparent) hless
      exact ⟨parent, hparent, by omega⟩

theorem exists_windRecord (hdesc : Descending records) {fuel : Nat}
    (hfuel : records.length ≤ fuel) {record : Record} (hmem : record ∈ records)
    : (windRecord fuel records record).isSome := by
  have hwalk : ∃ answer, walkAncestors records fuel 0 record.parent = some answer := by
    apply exists_walkAncestors hdesc
    intro index hindex
    obtain ⟨parent, hparent, _⟩ := hdesc record hmem index hindex
    have := larger_lt_length (List.mem_of_getElem? hparent)
    exact ⟨parent, hparent, by omega⟩
  obtain ⟨answer, hanswer⟩ := hwalk
  rw [windRecord, hanswer]
  rfl

end Depths

section Layers

variable {records wound : List Record} {fuel : Nat}

/-- What `windRecord` makes of a record. -/
structure IsWound (record after : Record) : Prop where
  ring : after.ring = normalizeWinding record.ring (after.depth % 2 == 0)
  area : after.area = record.area
  parent : after.parent = record.parent

theorem windRecord_spec {record after : Record} (h : windRecord fuel records record = some after)
    : IsWound record after
      ∧ walkAncestors records fuel 0 record.parent = some after.depth := by
  obtain ⟨depth, hdepth, rfl⟩ := Option.map_eq_some_iff.mp h
  exact ⟨{ ring := rfl, area := rfl, parent := rfl }, hdepth⟩

/-- A record without a parent is outermost, any other one lies one deeper than its parent. -/
structure IsLayered (wound : List Record) (record : Record) : Prop where
  outermost : record.parent = none → record.depth = 0
  deeper : ∀ index, record.parent = some index
    → ∃ parent, wound[index]? = some parent ∧ record.area < parent.area
      ∧ record.depth = parent.depth + 1

theorem isLayered_of_mapM (hdesc : Descending records)
    (h : records.mapM (windRecord fuel records) = some wound) {after : Record}
    (hmem : after ∈ wound) : IsLayered wound after := by
  obtain ⟨index, hindex⟩ := List.mem_iff_getElem?.mp hmem
  rw [OptionFold.getElem?_mapM h] at hindex
  obtain ⟨record, hrecord, hafter⟩ := Option.bind_eq_some_iff.mp hindex
  obtain ⟨hwound, hwalk⟩ := windRecord_spec hafter
  constructor
  . intro hnone
    rw [← hwound.parent, hnone] at hwalk
    cases fuel <;> exact (Option.some.inj hwalk).symm
  . intro ancestor hancestor
    rw [hwound.parent] at hancestor
    obtain ⟨parent, hparent, hless⟩ :=
      hdesc record (List.mem_of_getElem? hrecord) ancestor hancestor
    have hsome : (windRecord fuel records parent).isSome := by
      apply OptionFold.mapM_isSome_iff.mp _ parent (List.mem_of_getElem? hparent)
      rw [h]
      rfl
    obtain ⟨above, habove⟩ := Option.isSome_iff_exists.mp hsome
    obtain ⟨hwoundAbove, hwalkAbove⟩ := windRecord_spec habove
    refine ⟨above, ?_, ?_, ?_⟩
    . rw [OptionFold.getElem?_mapM h, hparent]
      exact habove
    . rw [hwound.area, hwoundAbove.area]
      exact hless
    . rw [hancestor] at hwalk
      cases fuel with
      | zero => cases hwalk
      | succ fuel =>
        rw [walkAncestors, walkAncestors_succ, parentOf, hparent] at hwalk
        obtain ⟨depth, hdepth, heq⟩ := Option.map_eq_some_iff.mp hwalk
        rw [Option.bind_some] at hdepth
        have hsame := walkAncestors_mono hdepth (Nat.le_succ fuel)
        rw [hwalkAbove] at hsame
        rw [← heq, Option.some.inj hsame]

end Layers

section Components

variable {wound : List Record}

def isOuter (entry : Record × Nat) : Bool := entry.1.depth % 2 == 0

def isHole (record : Record) : Bool := record.depth % 2 == 1

def componentOf (wound : List Record) (entry : Record × Nat) : Component :=
  {
    outer := entry.1.ring
    holes := holesOf wound entry.2
    depth := entry.1.depth
  }

theorem componentsOf_eq
    : componentsOf wound = (wound.zipIdx.filter isOuter).map (componentOf wound) := by
  have hsome : (wound.zipIdx.filter isOuter).map (componentOf wound)
      = (wound.zipIdx.filter isOuter).filterMap (fun entry => some (componentOf wound entry)) := by
    rw [List.filterMap_eq_map']
  rw [hsome, List.filterMap_filter, componentsOf]
  apply List.filterMap_congr
  intro entry _
  unfold componentAt isOuter
  cases hparity : entry.1.depth % 2 == 0 with
  | false => simp [bne, hparity]
  | true => simp [bne, hparity, componentOf]

theorem holesOf_eq (index : Nat)
    : holesOf wound index
      = ((wound.filter isHole).filter (fun child => child.parent = some index)).map
          Record.ring := by
  rw [holesOf, List.filter_filter]
  apply congrArg (List.map Record.ring)
  apply List.filter_congr
  intro child _
  rw [isHoleOf, isHole, Bool.beq_eq_decide_eq child.parent]

-- Holes are gathered by the index of their parent, which is the index of an outer ring.
theorem holes_perm (h : ∀ record ∈ wound, IsLayered wound record)
    : ((wound.zipIdx.filter isOuter).flatMap (fun entry => holesOf wound entry.2)).Perm
        ((wound.filter isHole).map Record.ring) := by
  have hindices : ((wound.zipIdx.filter isOuter).map (fun entry => some entry.2)).Nodup := by
    have hsub := (List.filter_sublist (p := isOuter) (l := wound.zipIdx)).map Prod.snd
    have hnodup := (List.nodup_zipIdx_map_snd wound).sublist hsub
    rw [← Function.comp_def some Prod.snd, ← List.map_map]
    exact hnodup.map (Option.some_injective Nat)
  have hparents : ∀ hole ∈ wound.filter isHole,
      hole.parent ∈ (wound.zipIdx.filter isOuter).map (fun entry => some entry.2) := by
    intro hole hmem
    rw [List.mem_filter, isHole, beq_iff_eq] at hmem
    have hlayered := h hole hmem.1
    cases hparent : hole.parent with
    | none =>
      have := hlayered.outermost hparent
      omega
    | some index =>
      obtain ⟨parent, hget, _, hdepth⟩ := hlayered.deeper index hparent
      apply List.mem_map.mpr
      refine ⟨(parent, index), List.mem_filter.mpr ⟨List.mem_zipIdx_iff_getElem?.mpr hget, ?_⟩, rfl⟩
      rw [isOuter, beq_iff_eq]
      dsimp only
      omega
  have hgathered := KeyedIndex.flatMap_filter_perm Record.parent hindices hparents
  rw [List.flatMap_map] at hgathered
  simp only [holesOf_eq, ← List.map_flatMap]
  exact hgathered.map Record.ring

theorem components_perm (h : ∀ record ∈ wound, IsLayered wound record)
    : ((componentsOf wound).flatMap (fun component =>
        component.outer :: component.holes)).Perm (wound.map Record.ring) := by
  have houter : (wound.zipIdx.filter isOuter).map (fun entry => entry.1.ring)
      = (wound.filter (fun record => !isHole record)).map Record.ring := by
    have hparity : (fun record => !isHole record) ∘ Prod.fst = isOuter := by
      funext entry
      rw [Function.comp_apply, isHole, isOuter]
      cases Nat.mod_two_eq_zero_or_one entry.1.depth with
      | inl hzero => rw [hzero]; rfl
      | inr hone => rw [hone]; rfl
    have hfst : wound.filter (fun record => !isHole record)
        = (wound.zipIdx.filter isOuter).map Prod.fst := by
      rw [← hparity, ← List.filter_map, List.zipIdx_map_fst]
    rw [hfst, List.map_map]
    rfl
  rw [componentsOf_eq, List.flatMap_map]
  apply (List.map_append_flatMap_perm (wound.zipIdx.filter isOuter) (fun entry => entry.1.ring)
    (fun entry => holesOf wound entry.2)).symm.trans
  rw [houter]
  apply (List.Perm.append_left _ (holes_perm h)).trans
  rw [← List.map_append]
  apply List.Perm.map
  apply List.perm_append_comm.trans
  exact List.filter_append_perm isHole wound

end Components

section Build

variable {records wound : List Record} {fuel : Nat}

theorem winding_spec (h : records.mapM (windRecord fuel records) = some wound)
    (harea : ∀ record ∈ records, record.area = |signedArea record.ring|)
    : ∀ after ∈ wound, after.area = |signedArea after.ring|
      ∧ (after.depth % 2 = 0 → signedArea after.ring ≠ 0 → 0 < signedArea after.ring)
      ∧ (after.depth % 2 = 1 → signedArea after.ring ≠ 0 → signedArea after.ring < 0) := by
  intro after hmem
  obtain ⟨index, hindex⟩ := List.mem_iff_getElem?.mp hmem
  rw [OptionFold.getElem?_mapM h] at hindex
  obtain ⟨record, hrecord, hafter⟩ := Option.bind_eq_some_iff.mp hindex
  obtain ⟨hwound, _⟩ := windRecord_spec hafter
  have hring := hwound.ring
  refine ⟨?_, ?_, ?_⟩
  . rw [hwound.area, harea record (List.mem_of_getElem? hrecord), hring,
      abs_signedArea_normalizeWinding]
  . intro heven hne
    rw [heven] at hring
    rw [hring] at hne ⊢
    exact signedArea_counterClockwise hne
  . intro hodd hne
    rw [hodd] at hring
    rw [hring] at hne ⊢
    exact signedArea_clockwise hne

theorem mem_componentsOf {component : Component} (h : component ∈ componentsOf wound)
    : ∃ index outer, wound[index]? = some outer ∧ outer.depth % 2 = 0
      ∧ component.outer = outer.ring
      ∧ ∀ ring ∈ component.holes, ∃ hole ∈ wound, hole.parent = some index
          ∧ hole.depth % 2 = 1 ∧ hole.ring = ring := by
  rw [componentsOf_eq] at h
  obtain ⟨entry, hentry, rfl⟩ := List.mem_map.mp h
  rw [List.mem_filter, isOuter, beq_iff_eq] at hentry
  refine ⟨entry.2, entry.1, List.mem_zipIdx_iff_getElem?.mp hentry.1, hentry.2, rfl, ?_⟩
  intro ring hring
  obtain ⟨hole, hhole, rfl⟩ := List.mem_map.mp hring
  rw [List.mem_filter, isHoleOf, Bool.and_eq_true, beq_iff_eq, beq_iff_eq] at hhole
  exact ⟨hole, hhole.1, hhole.2.1, hhole.2.2, rfl⟩

theorem hole_area_lt_of_mem {component : Component} {hole : PackedVector2Array}
    (hlayered : ∀ record ∈ wound, IsLayered wound record)
    (harea : ∀ record ∈ wound, record.area = |signedArea record.ring|)
    (h : component ∈ componentsOf wound) (hhole : hole ∈ component.holes)
    : |signedArea hole| < |signedArea component.outer| := by
  obtain ⟨index, outer, hget, _, houter, hholes⟩ := mem_componentsOf h
  obtain ⟨record, hmem, hparent, _, rfl⟩ := hholes hole hhole
  obtain ⟨parent, hsame, hless, _⟩ := (hlayered record hmem).deeper index hparent
  rw [hget] at hsame
  cases hsame
  rw [houter, ← harea record hmem, ← harea outer (List.mem_of_getElem? hget)]
  exact hless

theorem map_linkParents {β : Type} (geometry : Geometry2D) (records : List Record)
    (f : Record → β) (h : ∀ record parent, f { record with parent := parent } = f record)
    : (linkParents geometry records).map f = records.map f := by
  rw [linkParents]
  apply List.ext_getElem
  . simp
  . intro index hleft hright
    simp [h]

theorem rings_of_recordsOf (geometry : Geometry2D) (rings : List PackedVector2Array)
    : (linkParents geometry (recordsOf rings)).map Record.ring
      = rings.filter (fun ring => minRingPoints ≤ ring.length) := by
  rw [map_linkParents geometry _ Record.ring (fun _ _ => rfl), recordsOf, List.map_map]
  exact List.map_id _

theorem area_of_recordsOf (geometry : Geometry2D) (rings : List PackedVector2Array)
    : ∀ record ∈ linkParents geometry (recordsOf rings),
        record.area = |signedArea record.ring| := by
  intro record hmem
  have hlinked := List.mem_map_of_mem (f := fun record => (record.area, record.ring)) hmem
  rw [map_linkParents geometry _ _ (fun _ _ => rfl), recordsOf, List.map_map] at hlinked
  obtain ⟨ring, _, heq⟩ := List.mem_map.mp hlinked
  cases record
  cases heq
  rfl

-- The depths do not depend on how much fuel is left over.
theorem mapM_windRecord_mono {less : Nat}
    (h : records.mapM (windRecord less records) = some wound) (hle : less ≤ fuel)
    : records.mapM (windRecord fuel records) = some wound := by
  rw [← h]
  apply OptionFold.mapM_congr
  intro record hmem
  have hsome : (windRecord less records record).isSome := by
    apply OptionFold.mapM_isSome_iff.mp _ record hmem
    rw [h]
    rfl
  obtain ⟨after, hafter⟩ := Option.isSome_iff_exists.mp hsome
  obtain ⟨depth, hdepth, _⟩ := Option.map_eq_some_iff.mp hafter
  rw [windRecord, windRecord, hdepth, walkAncestors_mono hdepth hle]

theorem exists_wound (hdesc : Descending records) (hfuel : records.length ≤ fuel)
    : ∃ wound, records.mapM (windRecord fuel records) = some wound := by
  apply Option.isSome_iff_exists.mp
  apply OptionFold.mapM_isSome_iff.mpr
  intro record hmem
  exact exists_windRecord hdesc hfuel hmem

theorem build_topology (geometry : Geometry2D) (rings : List PackedVector2Array)
    : ∃ components,
        (∀ fuel, rings.length ≤ fuel → build geometry fuel rings = some components)
        ∧ (∃ wound, List.Forall₂ (fun ring after => after = ring ∨ after = ring.reverse)
              (rings.filter (fun ring => 3 ≤ ring.length)) wound
            ∧ (components.flatMap (fun component =>
                component.outer :: component.holes)).Perm wound)
        ∧ ∀ component ∈ components,
            (signedArea component.outer ≠ 0 → 0 < signedArea component.outer)
            ∧ ∀ hole ∈ component.holes, |signedArea hole| < |signedArea component.outer|
              ∧ (signedArea hole ≠ 0 → signedArea hole < 0) := by
  have hdesc := descending_linkParents geometry (recordsOf rings)
  have hrings := rings_of_recordsOf geometry rings
  have hareas := area_of_recordsOf geometry rings
  generalize hrecords : linkParents geometry (recordsOf rings) = records at hdesc hrings hareas
  have hlength : records.length ≤ rings.length := by
    rw [← List.length_map Record.ring, hrings]
    exact List.length_filter_le _ _
  obtain ⟨wound, hwound⟩ := exists_wound hdesc hlength
  have hlayered : ∀ record ∈ wound, IsLayered wound record :=
    fun record hmem => isLayered_of_mapM hdesc hwound hmem
  have hwinding := winding_spec hwound hareas
  refine ⟨componentsOf wound, ?_, ⟨wound.map Record.ring, ?_, components_perm hlayered⟩, ?_⟩
  . intro fuel hle
    rw [build, hrecords, mapM_windRecord_mono hwound hle]
    rfl
  . have hall := OptionFold.forall₂_of_mapM hwound
    have hsame : rings.filter (fun ring => 3 ≤ ring.length) = records.map Record.ring := by
      rw [hrings]
      rfl
    rw [hsame, List.forall₂_map_left_iff, List.forall₂_map_right_iff]
    apply hall.imp
    intro record after hafter
    rw [(windRecord_spec hafter).1.ring]
    exact normalizeWinding_eq _ _
  . intro component hmem
    obtain ⟨index, outer, hget, heven, houter, hholes⟩ := mem_componentsOf hmem
    constructor
    . rw [houter]
      exact (hwinding outer (List.mem_of_getElem? hget)).2.1 heven
    . intro hole hhole
      constructor
      . exact hole_area_lt_of_mem hlayered (fun record h => (hwinding record h).1) hmem hhole
      . obtain ⟨record, hrecord, _, hodd, rfl⟩ := hholes hole hhole
        exact (hwinding record hrecord).2.2 hodd

end Build

end Peraviz.Presentation.GoboCompoundTopology
