import Mathlib.Data.List.Sort
import Peraviz.Runtime.Evaluation.Workspace
import Peraviz.Transition.Machine

/-!
This module contains the storage behind the nominations of an update: a membership bit for each
installed index beside a list that is only sorted when it is visited, the finite set that the two
stand for, and the model of the nominations that they refine.
-/

namespace Peraviz.Runtime.DirtyStorage

structure OrderedDirtyIndices where
  sorted : Bool := true
  seen : List UInt8 := []
  indices : List Int := []
  deriving DecidableEq

namespace OrderedDirtyIndices

def bit (seen : List UInt8) (n : Nat) : UInt8 :=
  seen.getD n 0

-- `sorted` stays as it is here: an empty list is sorted whatever the flag says.
def install (dirty : OrderedDirtyIndices) (size : Nat) : OrderedDirtyIndices :=
  { dirty with seen := List.replicate size 0, indices := [] }

def clear (dirty : OrderedDirtyIndices) : OrderedDirtyIndices :=
  { sorted := true
    seen := dirty.indices.foldl (fun seen index => seen.set index.toNat 0) dirty.seen
    indices := [] }

def insertIndex (dirty : OrderedDirtyIndices) (index : Int) : OrderedDirtyIndices :=
  if 0 ≤ index ∧ index.toNat < dirty.seen.length ∧ bit dirty.seen index.toNat = 0 then
    { sorted := false
      seen := dirty.seen.set index.toNat 1
      indices := dirty.indices ++ [index] }
  else
    dirty

def insert (dirty : OrderedDirtyIndices) (indices : List Int) : OrderedDirtyIndices :=
  indices.foldl insertIndex dirty

/-- What an iteration leaves behind; it visits the list from its front to its end. -/
def begin (dirty : OrderedDirtyIndices) : OrderedDirtyIndices :=
  if dirty.sorted then
    dirty
  else
    { dirty with sorted := true, indices := dirty.indices.insertionSort (fun a b => a ≤ b) }

/-- The bits and the list are in step: both hold the same installed indices, each once. -/
structure Coherent (dirty : OrderedDirtyIndices) : Prop where
  installed : ∀ index ∈ dirty.indices, 0 ≤ index ∧ index.toNat < dirty.seen.length
  nodup : dirty.indices.Nodup
  bits : ∀ n < dirty.seen.length, bit dirty.seen n = if (n : Int) ∈ dirty.indices then 1 else 0
  ascending : dirty.sorted = true → dirty.indices.Pairwise (fun a b => a < b)

@[simp]
theorem bit_replicate (size n : Nat) : bit (List.replicate size 0) n = 0 := by
  unfold bit
  rw [List.getD_eq_getElem?_getD, List.getElem?_replicate]
  split <;> rfl

theorem bit_set {seen : List UInt8} {index : Nat} (h : index < seen.length) (value : UInt8)
    (n : Nat) : bit (seen.set index value) n = if index = n then value else bit seen n := by
  simp only [bit, List.getD_eq_getElem?_getD, List.getElem?_set]
  by_cases heq : index = n
  . subst heq
    simp [h]
  . simp [heq]

theorem bit_clear {indices : List Int} {seen : List UInt8}
    (h : ∀ index ∈ indices, 0 ≤ index ∧ index.toNat < seen.length) (n : Nat)
    : bit (indices.foldl (fun seen index => seen.set index.toNat 0) seen) n
        = if (n : Int) ∈ indices then 0 else bit seen n := by
  induction indices generalizing seen with
  | nil => simp
  | cons index indices ih =>
    rw [List.forall_mem_cons] at h
    have hcast : index.toNat = n ↔ (n : Int) = index := by omega
    rw [List.foldl_cons, ih (by simpa using h.2), bit_set h.1.2]
    simp only [hcast, List.mem_cons]
    by_cases hhead : (n : Int) = index
    . simp [hhead]
    . simp [hhead]

theorem length_clear (indices : List Int) (seen : List UInt8)
    : (indices.foldl (fun seen index => seen.set index.toNat 0) seen).length = seen.length := by
  induction indices generalizing seen with
  | nil => rfl
  | cons index indices ih => rw [List.foldl_cons, ih, List.length_set]

namespace Coherent

variable {dirty : OrderedDirtyIndices}

theorem install (dirty : OrderedDirtyIndices) (size : Nat) : (dirty.install size).Coherent where
  installed := by simp [OrderedDirtyIndices.install]
  nodup := List.nodup_nil
  bits := by simp [OrderedDirtyIndices.install]
  ascending := fun _ => List.Pairwise.nil

theorem insertIndex (h : dirty.Coherent) (index : Int) : (dirty.insertIndex index).Coherent := by
  unfold OrderedDirtyIndices.insertIndex
  split
  . next hnew =>
    have hfresh : index ∉ dirty.indices := by
      intro hmem
      have hbit := h.bits index.toNat hnew.2.1
      rw [Int.toNat_of_nonneg hnew.1, if_pos hmem, hnew.2.2] at hbit
      contradiction
    constructor
    . intro other hother
      simp only [List.mem_append, List.mem_singleton] at hother
      rw [List.length_set]
      cases hother with
      | inl hold => exact h.installed other hold
      | inr heq =>
        rw [heq]
        exact ⟨hnew.1, hnew.2.1⟩
    . rw [List.nodup_append]
      refine ⟨h.nodup, List.nodup_singleton index, ?_⟩
      intro a ha b hb hab
      rw [List.mem_singleton.mp hb] at hab
      exact hfresh (hab ▸ ha)
    . intro n hn
      simp only [List.length_set] at hn
      rw [bit_set hnew.2.1]
      have hcast : index.toNat = n ↔ (n : Int) = index := by omega
      simp only [List.mem_append, List.mem_singleton, hcast]
      split
      . next heq => simp [heq]
      . next hne =>
        rw [h.bits n hn]
        simp [hne]
    . simp
  . exact h

theorem insert (h : dirty.Coherent) (indices : List Int) : (dirty.insert indices).Coherent := by
  unfold OrderedDirtyIndices.insert
  induction indices generalizing dirty with
  | nil => exact h
  | cons index indices ih =>
    rw [List.foldl_cons]
    apply ih
    exact h.insertIndex index

theorem clear (h : dirty.Coherent) : dirty.clear.Coherent := by
  constructor
  . simp [OrderedDirtyIndices.clear]
  . exact List.nodup_nil
  . intro n hn
    simp only [OrderedDirtyIndices.clear, length_clear] at hn
    simp only [OrderedDirtyIndices.clear, bit_clear h.installed, h.bits n hn]
    split <;> simp
  . exact fun _ => List.Pairwise.nil

theorem begin (h : dirty.Coherent) : dirty.begin.Coherent := by
  unfold OrderedDirtyIndices.begin
  split
  . exact h
  . have hperm := List.perm_insertionSort (fun a b : Int => a ≤ b) dirty.indices
    have hnodup := hperm.nodup_iff.mpr h.nodup
    constructor
    . intro index hindex
      exact h.installed index (hperm.mem_iff.mp hindex)
    . exact hnodup
    . intro n hn
      simp only [hperm.mem_iff]
      exact h.bits n hn
    . intro _
      have hsorted := List.pairwise_insertionSort (fun a b : Int => a ≤ b) dirty.indices
      apply (hsorted.and hnodup).imp
      intro a b hab
      exact lt_of_le_of_ne hab.1 hab.2

theorem mem_insertIndex (h : dirty.Coherent) (index other : Int)
    : other ∈ (dirty.insertIndex index).indices
        ↔ other ∈ dirty.indices ∨ other = index ∧ 0 ≤ other ∧ other < dirty.seen.length := by
  unfold OrderedDirtyIndices.insertIndex
  split
  . next hnew =>
    simp only [List.mem_append, List.mem_singleton]
    constructor
    . intro hother
      cases hother with
      | inl hold => exact Or.inl hold
      | inr heq => exact Or.inr ⟨heq, by omega⟩
    . intro hother
      cases hother with
      | inl hold => exact Or.inl hold
      | inr heq => exact Or.inr heq.1
  . next hold =>
    constructor
    . exact Or.inl
    . intro hother
      cases hother with
      | inl hmem => exact hmem
      | inr heq =>
        -- An installed index that is refused has its bit set, so the list holds it.
        have hindex : index.toNat < dirty.seen.length := by omega
        have hbit := h.bits index.toNat hindex
        rw [Int.toNat_of_nonneg (by omega)] at hbit
        rw [heq.1]
        by_contra hmem
        rw [if_neg hmem] at hbit
        exact hold ⟨by omega, hindex, hbit⟩

@[simp]
theorem length_seen_insertIndex (dirty : OrderedDirtyIndices) (index : Int)
    : (dirty.insertIndex index).seen.length = dirty.seen.length := by
  unfold OrderedDirtyIndices.insertIndex
  split
  . exact List.length_set
  . rfl

theorem length_seen_insert (dirty : OrderedDirtyIndices) (indices : List Int)
    : (dirty.insert indices).seen.length = dirty.seen.length := by
  unfold OrderedDirtyIndices.insert
  induction indices generalizing dirty with
  | nil => rfl
  | cons index indices ih => rw [List.foldl_cons, ih, length_seen_insertIndex]

theorem mem_insert (h : dirty.Coherent) (indices : List Int) (other : Int)
    : other ∈ (dirty.insert indices).indices
        ↔ other ∈ dirty.indices ∨ other ∈ indices ∧ 0 ≤ other ∧ other < dirty.seen.length := by
  unfold OrderedDirtyIndices.insert
  induction indices generalizing dirty with
  | nil => simp
  | cons index indices ih =>
    rw [List.foldl_cons, ih (h.insertIndex index), h.mem_insertIndex, length_seen_insertIndex,
      List.mem_cons]
    tauto

theorem mem_begin (dirty : OrderedDirtyIndices) (index : Int)
    : index ∈ dirty.begin.indices ↔ index ∈ dirty.indices := by
  unfold OrderedDirtyIndices.begin
  split
  . rfl
  . exact (List.perm_insertionSort _ _).mem_iff

@[simp]
theorem seen_begin (dirty : OrderedDirtyIndices) : dirty.begin.seen = dirty.seen := by
  unfold OrderedDirtyIndices.begin
  split <;> rfl

@[simp]
theorem sorted_begin (dirty : OrderedDirtyIndices) : dirty.begin.sorted = true := by
  unfold OrderedDirtyIndices.begin
  split
  . assumption
  . rfl

end Coherent

end OrderedDirtyIndices

inductive Operation where
  | install (size : Nat)
  | insert (indices : List Int)
  | clear
  | iterate

/-- One object under its operations; an iteration answers with what it visits, in its order. -/
def machine : Machine OrderedDirtyIndices Operation (List Int) where
  init := {}
  step dirty operation :=
    match operation with
    | .install size => (dirty.install size, [])
    | .insert indices => (dirty.insert indices, [])
    | .clear => (dirty.clear, [])
    | .iterate => (dirty.begin, dirty.begin.indices)

def capacityAfter (past : List Operation) : Nat :=
  past.foldl (fun capacity operation =>
    match operation with
    | .install size => size
    | _ => capacity) 0

/-- The indices of the insertions behind the last clear or install, as they were handed over. -/
def insertedSinceClear (past : List Operation) : List Int :=
  past.foldl (fun inserted operation =>
    match operation with
    | .insert indices => inserted ++ indices
    | .iterate => inserted
    | _ => []) []

/-- The finite set that the operations leave behind: nominations without an index are not in it. -/
def Nominated (past : List Operation) (index : Int) : Prop :=
  index ∈ insertedSinceClear past ∧ 0 ≤ index ∧ index < capacityAfter past

/-- What the object holds after its operations, against the set that they stand for. -/
structure Holds (past : List Operation) (dirty : OrderedDirtyIndices) : Prop where
  coherent : dirty.Coherent
  capacity : dirty.seen.length = capacityAfter past
  mem_iff : ∀ index, index ∈ dirty.indices ↔ Nominated past index

namespace Holds

variable {past : List Operation} {dirty : OrderedDirtyIndices}

theorem init : Holds [] {} where
  coherent := OrderedDirtyIndices.Coherent.install {} 0
  capacity := rfl
  mem_iff := by simp [Nominated, insertedSinceClear]

theorem install (dirty : OrderedDirtyIndices) (size : Nat)
    : Holds (past ++ [.install size]) (dirty.install size) where
  coherent := OrderedDirtyIndices.Coherent.install dirty size
  capacity := by simp [capacityAfter, OrderedDirtyIndices.install]
  mem_iff := by simp [Nominated, insertedSinceClear, OrderedDirtyIndices.install]

theorem insert (h : Holds past dirty) (indices : List Int)
    : Holds (past ++ [.insert indices]) (dirty.insert indices) where
  coherent := h.coherent.insert indices
  capacity := by
    rw [OrderedDirtyIndices.Coherent.length_seen_insert, h.capacity]
    simp [capacityAfter]
  mem_iff := by
    intro index
    rw [h.coherent.mem_insert, h.mem_iff, h.capacity]
    simp only [Nominated, insertedSinceClear, capacityAfter, List.foldl_append, List.foldl_cons,
      List.foldl_nil, List.mem_append]
    tauto

theorem clear (h : Holds past dirty) : Holds (past ++ [.clear]) dirty.clear where
  coherent := h.coherent.clear
  capacity := by
    simp only [OrderedDirtyIndices.clear, OrderedDirtyIndices.length_clear, h.capacity]
    simp [capacityAfter]
  mem_iff := by simp [Nominated, insertedSinceClear, OrderedDirtyIndices.clear]

theorem iterate (h : Holds past dirty) : Holds (past ++ [.iterate]) dirty.begin where
  coherent := h.coherent.begin
  capacity := by
    rw [OrderedDirtyIndices.Coherent.seen_begin, h.capacity]
    simp [capacityAfter]
  mem_iff := by
    intro index
    rw [OrderedDirtyIndices.Coherent.mem_begin, h.mem_iff]
    simp [Nominated, insertedSinceClear, capacityAfter]

end Holds

theorem holds_run (past : List Operation) : Holds past (machine.run machine.init past) := by
  apply machine.history_induction Holds
  . exact Holds.init
  . intro past dirty operation h
    cases operation with
    | install size => exact Holds.install dirty size
    | insert indices => exact h.insert indices
    | clear => exact h.clear
    | iterate => exact h.iterate

theorem visits_nominated_in_order (past : List Operation)
    : let dirty := machine.run machine.init past
      let visited := (machine.step dirty .iterate).2
      visited.Pairwise (fun a b => a < b)
        ∧ (∀ index, index ∈ visited ↔ Nominated past index)
        ∧ dirty.seen.length = capacityAfter past
        ∧ ∀ n < capacityAfter past,
            (OrderedDirtyIndices.bit dirty.seen n = 1 ↔ Nominated past n)
              ∧ (OrderedDirtyIndices.bit dirty.seen n = 0 ↔ ¬ Nominated past n) := by
  intro dirty visited
  have h : Holds past dirty := holds_run past
  have hvisited := h.iterate
  refine ⟨?_, ?_, h.capacity, ?_⟩
  . apply hvisited.coherent.ascending
    apply OrderedDirtyIndices.Coherent.sorted_begin
  . intro index
    exact (OrderedDirtyIndices.Coherent.mem_begin dirty index).trans (h.mem_iff index)
  . intro n hn
    rw [← h.capacity] at hn
    rw [h.coherent.bits n hn, ← h.mem_iff]
    split
    . next hmem => simp [hmem]
    . next hmem => simp [hmem]

/-- The storage holds what the nominations of the evaluation hold. -/
structure Represents (dirty : OrderedDirtyIndices) (nominations : Runtime.OrderedDirtyIndices)
    : Prop where
  coherent : dirty.Coherent
  perm : dirty.indices.Perm (nominations.indices.map (fun index : Nat => (index : Int)))

namespace Represents

variable {dirty : OrderedDirtyIndices} {nominations : Runtime.OrderedDirtyIndices}

theorem clear (h : dirty.Coherent) : Represents dirty.clear {} :=
  ⟨h.clear, List.Perm.nil⟩

theorem mem_iff (h : Represents dirty nominations) (index : Nat)
    : (index : Int) ∈ dirty.indices ↔ index ∈ nominations.indices := by
  rw [h.perm.mem_iff]
  simp

theorem insertIndex (h : Represents dirty nominations) {index : Nat}
    (hindex : index < dirty.seen.length)
    : Represents (dirty.insertIndex index) (nominations.insert index) := by
  refine ⟨h.coherent.insertIndex index, ?_⟩
  have hbit := h.coherent.bits index hindex
  simp only [h.mem_iff] at hbit
  unfold OrderedDirtyIndices.insertIndex Runtime.OrderedDirtyIndices.insert
  split at hbit
  . next hmem =>
    rw [if_pos hmem, if_neg (by simp [hbit])]
    exact h.perm
  . next hnew =>
    rw [if_neg hnew, if_pos (by simp [hbit, hindex])]
    dsimp only
    rw [List.map_append]
    exact h.perm.append_right [(index : Int)]

theorem insert (h : Represents dirty nominations) {indices : List Nat}
    (hindices : ∀ index ∈ indices, index < dirty.seen.length)
    : Represents (dirty.insert (indices.map (fun index : Nat => (index : Int))))
        (nominations.insertAll indices) := by
  unfold OrderedDirtyIndices.insert Runtime.OrderedDirtyIndices.insertAll
  induction indices generalizing dirty nominations with
  | nil => exact h
  | cons index indices ih =>
    rw [List.forall_mem_cons] at hindices
    rw [List.map_cons, List.foldl_cons, List.foldl_cons]
    apply ih (h.insertIndex hindices.1)
    rw [OrderedDirtyIndices.Coherent.length_seen_insertIndex]
    exact hindices.2

theorem visit (h : Represents dirty nominations)
    : dirty.begin.indices = nominations.visit.map (fun index : Nat => (index : Int)) := by
  have hbegin : dirty.begin.indices.Perm dirty.indices := by
    unfold OrderedDirtyIndices.begin
    split
    . exact List.Perm.refl _
    . exact List.perm_insertionSort _ _
  have hvisit : nominations.visit.Perm nominations.indices := List.perm_insertionSort _ _
  have hascending : dirty.begin.indices.Pairwise (fun a b => a ≤ b) := by
    apply (h.coherent.begin.ascending (OrderedDirtyIndices.Coherent.sorted_begin dirty)).imp
    intro a b hab
    exact Int.le_of_lt hab
  have hvisited : nominations.visit.Pairwise (fun a b => a ≤ b) := List.pairwise_insertionSort _ _
  apply List.Perm.eq_of_pairwise _ hascending
  . apply List.Pairwise.map _ _ hvisited
    intro a b hab
    exact Int.ofNat_le.mpr hab
  . exact (hbegin.trans h.perm).trans (hvisit.map _).symm
  . intro a b _ _ hab hba
    exact Int.le_antisymm hab hba

end Represents

end Peraviz.Runtime.DirtyStorage
