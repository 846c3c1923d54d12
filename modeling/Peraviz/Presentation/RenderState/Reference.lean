import Mathlib.Algebra.BigOperators.Pi
import Mathlib.Algebra.Order.BigOperators.Group.Finset
import Peraviz.Presentation.RenderState.Coherence

/-!
This module contains the reference of a render row, its aggregate computed anew from the values that
its members show, and the exactness of the incremental projection against it.
-/

namespace Peraviz.Presentation

open Peraviz.Runtime
open Setup (RenderPresentationClass)

def blackoutEnergy : ℚ := 1 / 10 ^ 12

def chromaticity (v : RenderValues) : ℚ × ℚ × ℚ := (v.red, v.green, v.blue)

def white : ℚ × ℚ × ℚ := (1, 1, 1)

section Reference

variable (p : Platform) (values : Nat → RenderValues) (mapping : List Nat) (r : Nat)

def rowEnergy : ℚ := ∑ i ∈ rowMembers mapping r, max 0 (values i).beamEnergy

def rowIntensity : ℚ := ∑ i ∈ rowMembers mapping r, max 0 (values i).beamIntensity

/-- The energy of a channel, decoded before it is added up. -/
def rowChannel (channel : RenderValues → ℚ) : ℚ :=
  ∑ i ∈ rowMembers mapping r, linear p (channel (values i)) * max 0 (values i).beamEnergy

def mixed (before : Option RenderValues) (channel : RenderValues → ℚ) : ℚ :=
  if blackoutEnergy < rowEnergy values mapping r then
    encoded p (rowChannel p values mapping r channel / rowEnergy values mapping r)
  else
    (before.map channel).getD 1

/-- A row from nothing but what its members show and how it was emitted before. -/
def referenceRow (presentation : RenderPresentationClass) (before : Option RenderValues)
    : RenderValues :=
  let shown := values (mapping.idxOf r)
  if presentation = .aggregated then
    let energy := p.toFloat (rowEnergy values mapping r)
    let intensity := p.toFloat (clamp (rowIntensity values mapping r) 0 50)
    let visible := if p.toFloat (1 / 1000000) < intensity then 1 else 0
    { shown with
      red := mixed p values mapping r before RenderValues.red
      green := mixed p values mapping r before RenderValues.green
      blue := mixed p values mapping r before RenderValues.blue
      beamEnergy := energy
      spotEnergy := energy
      beamIntensity := intensity
      dimmer := visible
      visible := visible
      materialEnergy := 0
      colorGain := 1
    }
  else
    shown

end Reference

section Aggregate

variable {p : Platform} {values : Nat → RenderValues} {mapping : List Nat} {r : Nat}
  {row : RenderRowAccumulator}

/-- The chromaticity that a row has while it is dark. -/
def RenderRowAccumulator.held (row : RenderRowAccumulator) : ℚ × ℚ × ℚ :=
  if row.committed then chromaticity row.previous else white

def RenderRowAccumulator.asBefore (row before : RenderRowAccumulator) : RenderRowAccumulator :=
  { row with
    previous := before.previous
    committed := before.committed
  }

theorem rowEnergy_nonneg (values : Nat → RenderValues) (mapping : List Nat) (r : Nat)
    : 0 ≤ rowEnergy values mapping r :=
  Finset.sum_nonneg (fun _ _ => le_max_left _ _)

/-- The sums of a row whose members contribute what they show. -/
structure Summed (p : Platform) (values : Nat → RenderValues) (mapping : List Nat) (r : Nat)
    (row : RenderRowAccumulator) : Prop where
  energy : row.energy = rowEnergy values mapping r
  red : row.red = rowChannel p values mapping r RenderValues.red
  green : row.green = rowChannel p values mapping r RenderValues.green
  blue : row.blue = rowChannel p values mapping r RenderValues.blue
  intensity : row.intensity = rowIntensity values mapping r

theorem summed_of_sums
    (h : row.sums = ∑ i ∈ rowMembers mapping r, (contribution p (values i)).sums)
    : Summed p values mapping r row := by
  have hsecond := congrArg Prod.snd h
  have hthird := congrArg Prod.snd hsecond
  have hfourth := congrArg Prod.snd hthird
  rw [Prod.snd_sum] at hsecond
  rw [Prod.snd_sum, Prod.snd_sum] at hthird
  rw [Prod.snd_sum, Prod.snd_sum, Prod.snd_sum] at hfourth
  constructor
  . exact (congrArg Prod.fst h).trans Prod.fst_sum
  . exact (congrArg Prod.fst hsecond).trans Prod.fst_sum
  . exact (congrArg Prod.fst hthird).trans Prod.fst_sum
  . exact (congrArg Prod.fst hfourth).trans Prod.fst_sum
  . exact (congrArg Prod.snd hfourth).trans Prod.snd_sum

-- An aggregate is the reference unless the row is dark and holds another chromaticity.
theorem aggregate_eq_iff (h : Summed p values mapping r row) (before : Option RenderValues)
    : row.aggregate p (values (mapping.idxOf r))
          = referenceRow p values mapping r .aggregated before
        ↔ blackoutEnergy < rowEnergy values mapping r
          ∨ row.held = (before.map chromaticity).getD white := by
  have hmax : max (rowEnergy values mapping r) 0 = rowEnergy values mapping r :=
    max_eq_left (rowEnergy_nonneg values mapping r)
  unfold RenderRowAccumulator.aggregate referenceRow
  rw [if_pos rfl]
  dsimp only
  rw [h.energy, h.red, h.green, h.blue, h.intensity, hmax]
  simp only [RenderValues.mk.injEq, true_and, and_true]
  unfold mixed
  by_cases hlit : blackoutEnergy < rowEnergy values mapping r
  . have hlit' : (1 : ℚ) / 10 ^ 12 < rowEnergy values mapping r := hlit
    rw [if_pos hlit', if_pos hlit', if_pos hlit', if_pos hlit, if_pos hlit, if_pos hlit]
    exact ⟨fun _ => Or.inl hlit, fun _ => ⟨rfl, rfl, rfl⟩⟩
  . have hdark : ¬ (1 : ℚ) / 10 ^ 12 < rowEnergy values mapping r := hlit
    rw [if_neg hdark, if_neg hdark, if_neg hdark, if_neg hlit, if_neg hlit, if_neg hlit]
    have hor : (blackoutEnergy < rowEnergy values mapping r
        ∨ row.held = (before.map chromaticity).getD white)
          ↔ row.held = (before.map chromaticity).getD white :=
      ⟨fun hor => hor.resolve_left hlit, Or.inr⟩
    rw [hor]
    unfold RenderRowAccumulator.held chromaticity white
    cases row.committed with
    | true =>
      cases before with
      | none => simp
      | some v => simp
    | false =>
      cases before with
      | none => simp
      | some v => simp

end Aggregate

namespace RenderPair

/-- The projection has seen every member of a row. -/
def AllSeen (pair : RenderPair) (r : Nat) : Prop :=
  ∀ i ∈ rowMembers pair.projection.physicalToRow r, (pair.projection.member i).valid

/--
A row that was invalidated while it holds a chromaticity other than white, and that is dark at the
next projection.
-/
def ForgetsChromaticity (p : Platform) (pair : RenderPair) (r : Nat) : Prop :=
  (pair.projection.row r).presentation = .aggregated
    ∧ (pair.projection.row r).committed = false
    ∧ rowEnergy (pair.physical.renderValues p) pair.projection.physicalToRow r ≤ blackoutEnergy
    ∧ ∃ v, lastEmitted pair.log r = some v ∧ chromaticity v ≠ white

section Prepare

open RenderGroupProjection

variable {p : Platform} {pair : RenderPair} {seen : Nat → RenderValues}

theorem Coherent.summed (h : pair.Coherent p seen) {r : Nat}
    (hseen : (pair.prepare p).AllSeen r)
    (haggregated : ((pair.prepare p).projection.row r).presentation = .aggregated)
    : Summed p (pair.physical.renderValues p) pair.projection.physicalToRow r
        ((pair.prepare p).projection.row r) := by
  apply summed_of_sums
  have hexact := h.prepare.exact
  rw [hexact.sums r haggregated, h.mapping_prepare]
  apply Finset.sum_congr rfl
  intro i hi
  have hvalid := hseen i (by rw [h.mapping_prepare]; exact hi)
  rw [hexact.scratch i, MemberContribution.scratch, if_pos hvalid, (h.values_prepare hvalid).1]

-- What was emitted last, in a form in which both cases of a projection have it.
theorem Coherent.lastEmitted_next (h : pair.Coherent p seen) {r : Nat}
    (hr : r < pair.projection.rows.length) (hseen : (pair.prepare p).AllSeen r)
    : lastEmitted (pair.prepare p).log r = some
        ((((pair.prepare p).projection.row r).asBefore (pair.projection.row r)).drawn p
          pair.physical) := by
  by_cases hmem : r ∈ (pair.between p).dirtyRows
  . rw [h.lastEmitted_dirty hmem, h.row_prepare_dirty hmem]
    have hsame := h.marking.same r
    apply congrArg some
    unfold RenderRowAccumulator.drawn RenderRowAccumulator.aggregate
    dsimp only [RenderRowAccumulator.settle, RenderRowAccumulator.asBefore]
    rw [hsame.committed, hsame.previous]
    rfl
  . have hrepresentative := h.representative r hr
    have hmember : pair.projection.physicalToRow.idxOf r
        ∈ rowMembers pair.projection.physicalToRow r := by
      have hindex := List.idxOf_lt_length_of_mem hrepresentative.2
      rw [mem_rowMembers, List.getD_eq_getElem?_getD, List.getElem?_eq_getElem hindex,
        List.getElem_idxOf]
      exact ⟨hindex, rfl⟩
    have hcommitted := h.committed_prepare hmember
      (hseen _ (by rw [h.mapping_prepare]; exact hmember))
    rw [h.row_prepare_clean hmem] at hcommitted ⊢
    obtain ⟨v, hv⟩ := Option.isSome_iff_exists.mp (h.committed r hcommitted)
    have hshown := h.shown_prepare ((h.lastEmitted_clean hmem).trans hv)
    rw [h.row_prepare_clean hmem] at hshown
    rw [h.lastEmitted_clean hmem, hv, hshown.2]
    unfold RenderRowAccumulator.shown RenderRowAccumulator.drawn RenderRowAccumulator.asBefore
    rw [hcommitted]

-- The chromaticity that a row holds is that of its last emission unless it was invalidated.
theorem Coherent.held_eq_iff (h : pair.Coherent p seen) (r : Nat)
    : (pair.projection.row r).held = ((lastEmitted pair.log r).map chromaticity).getD white
        ↔ ¬ ((pair.projection.row r).committed = false
          ∧ ∃ v, lastEmitted pair.log r = some v ∧ chromaticity v ≠ white) := by
  unfold RenderRowAccumulator.held
  cases hcommitted : (pair.projection.row r).committed with
  | true =>
    obtain ⟨v, hv⟩ := Option.isSome_iff_exists.mp (h.committed r hcommitted)
    rw [hv, (h.shown r v hv).1]
    simp
  | false =>
    cases hv : lastEmitted pair.log r with
    | none => simp
    | some v =>
      simp
      exact eq_comm

theorem Coherent.lastEmitted_eq_iff (h : pair.Coherent p seen) {r : Nat}
    (hr : r < pair.projection.rows.length) (hseen : (pair.prepare p).AllSeen r)
    : lastEmitted (pair.prepare p).log r = some (referenceRow p (pair.physical.renderValues p)
          pair.projection.physicalToRow r (pair.projection.row r).presentation
          (lastEmitted pair.log r))
        ↔ ¬ pair.ForgetsChromaticity p r := by
  have hnext := h.prepare
  have hsame : ((pair.prepare p).projection.row r).presentation
      = (pair.projection.row r).presentation
      ∧ ((pair.prepare p).projection.row r).representative
        = (pair.projection.row r).representative := by
    by_cases hmem : r ∈ (pair.between p).dirtyRows
    . rw [h.row_prepare_dirty hmem]
      exact ⟨(h.marking.same r).presentation, (h.marking.same r).representative⟩
    . rw [h.row_prepare_clean hmem]
      exact ⟨rfl, rfl⟩
  have hpresentation : (((pair.prepare p).projection.row r).asBefore
      (pair.projection.row r)).presentation = (pair.projection.row r).presentation := hsame.1
  have hrepresentative : (((pair.prepare p).projection.row r).asBefore
      (pair.projection.row r)).representative = pair.projection.physicalToRow.idxOf r :=
    hsame.2.trans (h.representative r hr).1
  rw [h.lastEmitted_next hr hseen, Option.some.injEq, RenderRowAccumulator.drawn, hpresentation,
    hrepresentative]
  by_cases haggregated : (pair.projection.row r).presentation = .aggregated
  . rw [if_pos haggregated, haggregated]
    have hsummed := h.summed hseen (hsame.1.trans haggregated)
    have hiff := @aggregate_eq_iff p (pair.physical.renderValues p) pair.projection.physicalToRow r
      (((pair.prepare p).projection.row r).asBefore (pair.projection.row r))
      ⟨hsummed.energy, hsummed.red, hsummed.green, hsummed.blue, hsummed.intensity⟩
      (lastEmitted pair.log r)
    have hheld : (((pair.prepare p).projection.row r).asBefore (pair.projection.row r)).held
        = (pair.projection.row r).held := rfl
    rw [hheld, h.held_eq_iff r] at hiff
    rw [hiff, ForgetsChromaticity, ← not_lt]
    constructor
    . rintro (hlit | hholds) ⟨_, hcommitted, hdark, hforgotten⟩
      . exact hdark hlit
      . exact hholds ⟨hcommitted, hforgotten⟩
    . intro hforgets
      by_cases hlit : blackoutEnergy
          < rowEnergy (pair.physical.renderValues p) pair.projection.physicalToRow r
      . exact Or.inl hlit
      . exact Or.inr (fun hboth => hforgets ⟨haggregated, hboth.1, hlit, hboth.2⟩)
  . rw [if_neg haggregated]
    unfold referenceRow
    rw [if_neg haggregated]
    exact ⟨fun _ hforgets => haggregated hforgets.1, fun _ => rfl⟩

theorem Coherent.nodup_prepared (h : pair.Coherent p seen)
    : ((pair.prepare p).projection.prepared.map PreparedRenderRow.index).Nodup := by
  have hsublist : ((pair.prepare p).projection.prepared.map PreparedRenderRow.index).Sublist
      (pair.between p).dirtyRows := by
    rw [h.emitting.prepared, h.marking.prepared]
    change (List.map _ ([] ++ _)).Sublist _
    rw [List.nil_append]
    generalize (pair.between p).dirtyRows = rows
    induction rows with
    | nil => exact List.Sublist.slnil
    | cons r rows ih =>
      rw [List.flatMap_cons, List.map_append]
      unfold emission at ih ⊢
      split
      . exact ih.cons_cons r
      . exact ih.cons r
  exact hsublist.nodup h.marking.nodup

end Prepare

/--
In every run the sums of the aggregated rows are exact and no projection emits a row twice. A row
with all members seen was emitted last with its reference, unless it was invalidated while it holds a
chromaticity and is now dark.
-/
theorem run_projection_exact (p : Platform) {start : RenderPair} (hstart : start.Installed)
    (operations : List RenderOperation)
    : let pair := start.run p operations
      let next := pair.prepare p
      (∀ r, (pair.projection.row r).presentation = .aggregated
          → (pair.projection.row r).sums = ∑ i ∈ rowMembers pair.projection.physicalToRow r,
            ((pair.projection.member i).scratch p).sums)
        ∧ (next.projection.prepared.map PreparedRenderRow.index).Nodup
        ∧ ∀ r < pair.projection.rows.length, next.AllSeen r
          → (lastEmitted next.log r = some (referenceRow p (pair.physical.renderValues p)
              pair.projection.physicalToRow r (pair.projection.row r).presentation
              (lastEmitted pair.log r))
            ↔ ¬ pair.ForgetsChromaticity p r) := by
  intro pair next
  obtain ⟨seen, hpair⟩ := (Installed.coherent hstart : start.Coherent p _).run operations
  refine ⟨?_, hpair.nodup_prepared, ?_⟩
  . intro r hr
    rw [hpair.exact.sums r hr]
    apply Finset.sum_congr rfl
    intro i _
    exact congrArg MemberContribution.sums (hpair.exact.scratch i)
  . intro r hr hseen
    exact hpair.lastEmitted_eq_iff hr hseen

def oneRow : RenderPair where
  physical := ((DensePresentationState.runOperations []).installOutputs 1 [{ canonicalId := 1 }] []).1
  projection := (RenderGroupProjection.install {} [0] [.aggregated]).1

theorem installed_oneRow : oneRow.Installed :=
  ⟨⟨{}, 1, [{ canonicalId := 1 }], [], Prod.ext rfl (by decide +kernel)⟩,
    ⟨{}, [0], [.aggregated], Prod.ext rfl (by decide +kernel)⟩, rfl⟩

def writeRow (lightingSection : Int32) (v : List CallerFloat) : RenderOperation :=
  .write (.update 1 0 lightingSection 0 (some v)) trivial

def lightUp : List RenderOperation :=
  [writeRow 3 [some 1, some 0, some 0, some 1],
    writeRow 2 [some 1, some 1, some 1, some 1, some 1], .snapshot 1]

/-- The light goes out, and its renderer is replaced. -/
def blackOut : List RenderOperation :=
  [writeRow 2 [some 0, some 0, some 0, some 0, some 0], .snapshot 1, .invalidate]

theorem run_projection_exact_lightUp
    : let pair := oneRow.run exactPlatform lightUp
      lastEmitted (pair.prepare exactPlatform).log 0
        = some (referenceRow exactPlatform (pair.physical.renderValues exactPlatform)
          pair.projection.physicalToRow 0 (pair.projection.row 0).presentation
          (lastEmitted pair.log 0)) := by
  have hexact := (run_projection_exact exactPlatform installed_oneRow lightUp).2.2 0
    (by decide +kernel) (by unfold AllSeen; decide +kernel)
  apply hexact.mpr
  intro hforgets
  exact absurd hforgets.2.2.1 (by decide +kernel)

/-- The renderer is told white, though the last emission was red. -/
theorem run_projection_exact_blackOut
    : ¬ ∀ (p : Platform) (start : RenderPair), start.Installed
      → ∀ operations : List RenderOperation,
        let pair := start.run p operations
        let next := pair.prepare p
        ∀ r < pair.projection.rows.length, next.AllSeen r
          → lastEmitted next.log r = some (referenceRow p (pair.physical.renderValues p)
            pair.projection.physicalToRow r (pair.projection.row r).presentation
            (lastEmitted pair.log r)) := by
  intro h
  have hexact := h exactPlatform oneRow installed_oneRow (lightUp ++ blackOut) 0
    (by decide +kernel) (by unfold AllSeen; decide +kernel)
  exact absurd hexact (by decide +kernel)

end RenderPair
end Peraviz.Presentation
