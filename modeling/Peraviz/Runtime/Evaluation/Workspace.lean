import Peraviz.Runtime.Evaluation.Impl

/-!
This module contains what the begin of an update does to a workspace: which sources it marks, which
consumers it nominates and why no stamp of an earlier update is taken for one of this update.
-/

namespace Peraviz.Runtime

namespace OrderedDirtyIndices

theorem mem_insert {dirty : OrderedDirtyIndices} {index x : Nat}
    : x ∈ (dirty.insert index).indices ↔ x ∈ dirty.indices ∨ x = index := by
  unfold insert
  split
  . next h =>
    constructor
    . exact Or.inl
    . intro hx
      cases hx with
      | inl hx => exact hx
      | inr hx =>
        rw [hx]
        exact h
  . simp

theorem nodup_insert {dirty : OrderedDirtyIndices} (h : dirty.indices.Nodup) (index : Nat)
    : (dirty.insert index).indices.Nodup := by
  unfold insert
  split
  . exact h
  . next hnew =>
    rw [List.nodup_append]
    refine ⟨h, by simp, ?_⟩
    intro a ha b hb hab
    rw [List.mem_singleton.mp hb] at hab
    exact hnew (hab ▸ ha)

theorem mem_insertAll {dirty : OrderedDirtyIndices} {indices : List Nat} {x : Nat}
    : x ∈ (dirty.insertAll indices).indices ↔ x ∈ dirty.indices ∨ x ∈ indices := by
  unfold insertAll
  induction indices generalizing dirty with
  | nil => simp
  | cons index indices ih =>
    rw [List.foldl_cons, ih, mem_insert, List.mem_cons, or_assoc]

theorem nodup_insertAll {dirty : OrderedDirtyIndices} (h : dirty.indices.Nodup)
    (indices : List Nat) : (dirty.insertAll indices).indices.Nodup := by
  unfold insertAll
  induction indices generalizing dirty with
  | nil => exact h
  | cons index indices ih =>
    rw [List.foldl_cons]
    apply ih
    exact nodup_insert h index

theorem mem_visit {dirty : OrderedDirtyIndices} {x : Nat}
    : x ∈ dirty.visit ↔ x ∈ dirty.indices := by
  unfold visit
  exact (List.perm_insertionSort _ _).mem_iff

theorem visit_ascending {dirty : OrderedDirtyIndices} (h : dirty.indices.Nodup)
    : dirty.visit.Pairwise (fun a b => a < b) := by
  have hsorted : dirty.visit.Pairwise (fun a b => a ≤ b) := List.pairwise_insertionSort _ _
  have hnodup : dirty.visit.Nodup := (List.perm_insertionSort _ _).nodup_iff.mpr h
  apply (hsorted.and hnodup).imp
  intro a b hab
  exact lt_of_le_of_ne hab.1 hab.2

end OrderedDirtyIndices

namespace EvaluationWorkspace

variable {plan : EvaluationPlan} {w : EvaluationWorkspace}

/-- No stamp is ahead of the generation that it was copied from. -/
structure Stamped (w : EvaluationWorkspace) : Prop where
  changed : ∀ source, w.changed source ≤ w.generation
  activations : ∀ source, w.activationGenerations source ≤ w.generation

theorem Stamped.initial : Stamped {} := ⟨fun _ => UInt64.le_refl 0, fun _ => UInt64.le_refl 0⟩

theorem Stamped.store (h : Stamped w) (source : Nat) (value : EvaluatedSourceValue)
    : Stamped (w.store source value) :=
  ⟨h.changed, h.activations⟩

theorem Stamped.storeActivation (h : Stamped w) (source : Nat) (active : Bool)
    : Stamped (w.storeActivation source active) := by
  refine ⟨h.changed, ?_⟩
  intro x
  simp only [EvaluationWorkspace.storeActivation]
  rw [Function.update_apply]
  split
  . exact UInt64.le_refl w.generation
  . exact h.activations x

-- The wrap of the counter included, every stamp is behind the next generation.
theorem Stamped.behind (h : Stamped w) (source : Nat)
    : w.nextGeneration.changed source < w.nextGeneration.generation
      ∧ w.nextGeneration.activationGenerations source < w.nextGeneration.generation := by
  have hchanged := h.changed source
  have hactivation := h.activations source
  unfold nextGeneration
  split
  . constructor <;> simp only <;> decide
  . next hwrap =>
    have hnext : (w.generation + 1).toNat = w.generation.toNat + 1 := by
      rw [UInt64.toNat_add]
      apply Nat.mod_eq_of_lt
      have hlt := w.generation.toNat_lt
      by_contra hge
      apply hwrap
      apply UInt64.toNat_inj.mp
      rw [UInt64.toNat_add]
      have heq : w.generation.toNat + 1 = 2 ^ 64 := by
        have : (1 : UInt64).toNat = 1 := rfl
        omega
      rw [show (1 : UInt64).toNat = 1 from rfl, heq]
      rfl
    simp only [UInt64.lt_iff_toNat_lt, UInt64.le_iff_toNat_le] at *
    omega

theorem Stamped.nextGeneration (h : Stamped w) : Stamped w.nextGeneration :=
  ⟨fun source => UInt64.le_of_lt (h.behind source).1,
    fun source => UInt64.le_of_lt (h.behind source).2⟩

/-- What the marks of a list of sources leave behind. -/
structure Marked (plan : EvaluationPlan) (sources : List Nat) (w w' : EvaluationWorkspace)
    : Prop where
  generation : w'.generation = w.generation
  values : w'.values = w.values
  activations : w'.activations = w.activations
  activationGenerations : w'.activationGenerations = w.activationGenerations
  changed : ∀ source, w'.sourceChanged source = true ↔
    w.sourceChanged source = true ∨ source ∈ sources
  stamp : ∀ source, w'.sourceChanged source = true ∨ w'.changed source = w.changed source
  invalid : ∀ source, w'.invalid source = true ↔
    w.invalid source = true ∨ source ∈ sources ∧ w.sourceChanged source = false
  changedSources : ∀ source, source ∈ w'.changedSources ↔
    source ∈ w.changedSources ∨ source ∈ sources ∧ w.sourceChanged source = false
  consumers : ∀ c, c ∈ w'.consumers.indices ↔ c ∈ w.consumers.indices
    ∨ ∃ source ∈ sources, w.sourceChanged source = false ∧ c ∈ plan.consumersOf source
  nodup : w.consumers.indices.Nodup → w'.consumers.indices.Nodup

theorem Marked.refl : Marked plan [] w w := by
  constructor <;> simp

theorem Marked.markSource (source : Nat) : Marked plan [source] w (markSource plan w source) := by
  unfold EvaluationWorkspace.markSource
  split
  . next h =>
    constructor <;> simp [h]
  . next h =>
    have hmem (c : Nat) := @OrderedDirtyIndices.mem_insertAll w.consumers (plan.consumersOf source) c
    constructor
    case nodup =>
      intro hnodup
      exact OrderedDirtyIndices.nodup_insertAll hnodup _
    all_goals grind [sourceChanged, Function.update_apply]

theorem Marked.trans {front back : List Nat} {w' w'' : EvaluationWorkspace}
    (hfront : Marked plan front w w') (hback : Marked plan back w' w'')
    : Marked plan (front ++ back) w w'' := by
  have hchanged := hfront.changed
  constructor
  case nodup => exact fun h => hback.nodup (hfront.nodup h)
  case consumers =>
    intro c
    rw [hback.consumers, hfront.consumers]
    grind
  all_goals grind [Marked]

theorem Marked.foldl (sources : List Nat)
    : Marked plan sources w (sources.foldl (EvaluationWorkspace.markSource plan) w) := by
  induction sources generalizing w with
  | nil => exact Marked.refl
  | cons source sources ih => exact (Marked.markSource source).trans ih

theorem nextGeneration_values : w.nextGeneration.values = w.values := by
  unfold nextGeneration
  split <;> rfl

theorem nextGeneration_invalid : w.nextGeneration.invalid = w.invalid := by
  unfold nextGeneration
  split <;> rfl

theorem nextGeneration_changedSources : w.nextGeneration.changedSources = [] := by
  unfold nextGeneration
  split <;> rfl

theorem nextGeneration_consumers : w.nextGeneration.consumers = {} := by
  unfold nextGeneration
  split <;> rfl

/-- What the begin of an update leaves of the workspace before it. -/
structure Begun (plan : EvaluationPlan) (offsets : List Int32) (w w' : EvaluationWorkspace)
    : Prop where
  stamped : Stamped w'
  values : w'.values = w.values
  changed : ∀ source, w'.sourceChanged source = true ↔ ∃ offset ∈ offsets,
    source ∈ plan.sourcesAt offset
  invalid : ∀ source, w'.invalid source = true ↔
    w.invalid source = true ∨ w'.sourceChanged source = true
  changedSources : ∀ source, source ∈ w'.changedSources ↔ w'.sourceChanged source = true
  consumers : ∀ c, c ∈ w'.consumers.indices ↔
    ∃ source, w'.sourceChanged source = true ∧ c ∈ plan.consumersOf source
  nodup : w'.consumers.indices.Nodup
  activationCached : ∀ source, w'.activationCached source = false

theorem Stamped.beginUpdate (h : Stamped w) (plan : EvaluationPlan) (offsets : List Int32)
    : Begun plan offsets w (w.beginUpdate plan offsets) := by
  have hfresh (source : Nat) : w.nextGeneration.sourceChanged source = false := by
    simpa [sourceChanged] using UInt64.ne_of_lt (h.behind source).1
  have hmarked : Marked plan (offsets.flatMap plan.sourcesAt) w.nextGeneration
    (w.beginUpdate plan offsets) := Marked.foldl _
  have hchanged (source : Nat) : (w.beginUpdate plan offsets).sourceChanged source = true ↔
      source ∈ offsets.flatMap plan.sourcesAt := by
    simpa [hfresh source] using hmarked.changed source
  constructor
  case stamped =>
    constructor
    . intro source
      cases hmarked.stamp source with
      | inl hs =>
        rw [eq_of_beq hs]
        exact UInt64.le_refl _
      | inr hs =>
        rw [hs, hmarked.generation]
        exact h.nextGeneration.changed source
    . intro source
      rw [hmarked.activationGenerations, hmarked.generation]
      exact h.nextGeneration.activations source
  case values => rw [hmarked.values, nextGeneration_values]
  case changed => simpa using hchanged
  case invalid =>
    intro source
    rw [hmarked.invalid, hchanged, nextGeneration_invalid]
    simp [hfresh source]
  case changedSources =>
    intro source
    rw [hmarked.changedSources, hchanged, nextGeneration_changedSources]
    simp [hfresh source]
  case consumers =>
    intro c
    rw [hmarked.consumers, nextGeneration_consumers]
    simp only [hfresh, hchanged]
    simp
  case nodup =>
    apply hmarked.nodup
    rw [nextGeneration_consumers]
    exact List.nodup_nil
  case activationCached =>
    intro source
    simp only [EvaluationWorkspace.activationCached, hmarked.activationGenerations,
      hmarked.generation]
    simpa using UInt64.ne_of_lt (h.behind source).2

end EvaluationWorkspace

end Peraviz.Runtime
