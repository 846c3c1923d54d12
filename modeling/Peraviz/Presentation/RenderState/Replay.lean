import Peraviz.Presentation.RenderState.Reference

/-!
This module contains the replay of the held values after a renderer was replaced: which rows are
emitted, and when with the values that they were emitted with before.
-/

namespace Peraviz.Presentation

open Peraviz.Runtime
open Setup (RenderPresentationClass)

/-- Operations that end in a projection and replays after it. -/
def NothingPending (operations : List RenderOperation) : Prop :=
  ∃ before projection quiet, operations = before ++ projection :: quiet
    ∧ (projection = .prepare ∨ ∃ generation, projection = .snapshot generation)
    ∧ ∀ operation ∈ quiet, operation.Quiet

namespace RenderPair

variable {p : Platform} {pair : RenderPair} {seen : Nat → RenderValues}

/-- Both are invalidated and projected: every row once, with the values of its last emission. -/
def Replays (p : Platform) (pair : RenderPair) : Prop :=
  ∀ r < pair.projection.rows.length, ∃ v, lastEmitted pair.log r = some v
    ∧ ((((pair.step p .invalidate).prepare p).projection.prepared.filter
      (fun entry => entry.index = r)).map PreparedRenderRow.values) = [v]

/-- No value update is pending that changes what a row shows. -/
def ShowsLast (p : Platform) (pair : RenderPair) (r : Nat) : Prop :=
  lastEmitted pair.log r = some (referenceRow p (pair.physical.renderValues p)
    pair.projection.physicalToRow r (pair.projection.row r).presentation (lastEmitted pair.log r))

/-- An aggregated row is lit or was emitted white. -/
def KeepsChromaticity (p : Platform) (pair : RenderPair) (r : Nat) : Prop :=
  (pair.projection.row r).presentation = .aggregated
    → blackoutEnergy < rowEnergy (pair.physical.renderValues p) pair.projection.physicalToRow r
      ∨ (lastEmitted pair.log r).map chromaticity = some white

/-! ### Members that were never written -/

theorem sums_untouched (hzero : p.toFloat 0 = 0) {s : DensePresentationState} {i : Nat}
    (h : (s.state i).settled = {}) : (contribution p (s.renderValues p i)).sums = 0 := by
  have hdark : (s.state i).beamEnergy = 0 ∧ (s.state i).beamIntensity = 0 := by
    simp only [OutputState.settled, OutputState.mk.injEq] at h
    exact ⟨h.2.1, h.2.2.2.1⟩
  have hclamp : clamp 0 0 50 = 0 := by decide
  have henergy : (s.renderValues p i).beamEnergy = 0 := by
    simp [DensePresentationState.renderValues, hdark.1, hzero]
  have hintensity : (s.renderValues p i).beamIntensity = 0 := by
    simp [DensePresentationState.renderValues, hdark.2, hzero, hclamp]
  simp only [contribution, MemberContribution.sums, henergy, hintensity, max_self, mul_zero]
  rfl

theorem state_of_le {s : DensePresentationState} {i : Nat} (h : s.states.length ≤ i)
    : (s.state i).settled = {} := by
  rw [DensePresentationState.state, List.getD_eq_getElem?_getD, List.getElem?_eq_none h]
  rfl

-- The sums of a row whose members were seen with what they show, or never written.
theorem summed_of_members (hzero : p.toFloat 0 = 0) {t : RenderGroupProjection}
    {s : DensePresentationState} (hexact : t.Exact p) {r : Nat}
    (haggregated : (t.row r).presentation = .aggregated)
    (hmember : ∀ i ∈ rowMembers t.physicalToRow r,
      if (t.member i).valid then (t.member i).values = s.renderValues p i
      else (s.state i).settled = {})
    : Summed p (s.renderValues p) t.physicalToRow r (t.row r) := by
  apply summed_of_sums
  rw [hexact.sums r haggregated]
  apply Finset.sum_congr rfl
  intro i hi
  have hcase := hmember i hi
  rw [hexact.scratch i, MemberContribution.scratch]
  split
  next hvalid =>
    rw [if_pos hvalid] at hcase
    rw [hcase]
  next hunseen =>
    rw [if_neg hunseen] at hcase
    rw [sums_untouched hzero hcase]
    rfl

theorem chromaticity_aggregate {row : RenderRowAccumulator} {values : RenderValues}
    (hdark : ¬ blackoutEnergy < max row.energy 0)
    : chromaticity (row.aggregate p values) = row.held := by
  have hdark : ¬ (1 : ℚ) / 10 ^ 12 < max row.energy 0 := hdark
  unfold chromaticity RenderRowAccumulator.aggregate RenderRowAccumulator.held
  dsimp only
  rw [if_neg hdark, if_neg hdark, if_neg hdark]
  split
  . rfl
  . rfl

/-! ### The replay of one row -/

section Row

open RenderGroupProjection

abbrev replaced (p : Platform) (pair : RenderPair) : RenderPair := pair.step p .invalidate

theorem renderValues_replaced
    : (pair.replaced p).physical.renderValues p = pair.physical.renderValues p :=
  funext (DensePresentationState.renderValues_invalidateRenderer p pair.physical)

theorem Coherent.mem_dirtyRows_replaced (h : pair.Coherent p seen) {r : Nat}
    (hr : (lastEmitted pair.log r).isSome)
    : r ∈ ((pair.replaced p).between p).dirtyRows := by
  have hinvalidated := h.invalidate
  obtain ⟨i, hi, hvalid⟩ := h.emitted r hr
  obtain ⟨hlt, hrow⟩ := mem_rowMembers.mp hi
  have hdirty := DensePresentationState.mem_dirty_invalidateRenderer pair.physical
    (h.inside i hvalid)
  have hmembers : i < (pair.replaced p).projection.members.length := by
    change i < pair.projection.members.length
    rw [h.exact.lengths]
    exact hlt
  have hforced := hinvalidated.marking.forced i hdirty hmembers
  change (pair.projection.invalidate.row (pair.projection.physicalToRow.getD i 0)).committed = false
    → pair.projection.physicalToRow.getD i 0 ∈ _ at hforced
  rw [hrow, row_invalidate] at hforced
  exact hforced rfl

theorem filter_emissions {values : Nat → RenderValues} {row : Nat → RenderRowAccumulator}
    {rows : List Nat} (hnodup : rows.Nodup) {r : Nat} (hr : r ∈ rows)
    (hemits : Emits (row r) (values r))
    : ((rows.flatMap (fun r => emission (row r) (values r) r)).filter
        (fun entry => entry.index = r)).map PreparedRenderRow.values = [values r] := by
  have hother : ∀ rows : List Nat, r ∉ rows
      → (rows.flatMap (fun r => emission (row r) (values r) r)).filter
        (fun entry => entry.index = r) = [] := by
    intro rows hr
    rw [List.filter_eq_nil_iff]
    intro entry hentry
    obtain ⟨other, hmem, hentry⟩ := List.mem_flatMap.mp hentry
    unfold emission at hentry
    split at hentry
    . rw [List.mem_singleton.mp hentry, decide_eq_true_eq]
      intro heq
      exact hr (heq ▸ hmem)
    . cases hentry
  induction rows with
  | nil => cases hr
  | cons first rows ih =>
    obtain ⟨hfirst, hrest⟩ := List.nodup_cons.mp hnodup
    rw [List.flatMap_cons, List.filter_append, List.map_append]
    cases List.mem_cons.mp hr with
    | inl heq =>
      rw [← heq] at hfirst ⊢
      rw [hother rows hfirst]
      unfold emission
      rw [if_pos hemits]
      simp
    | inr hmem =>
      have hne : first ≠ r := fun heq => hfirst (heq ▸ hmem)
      have hnone := hother [first] (by simpa using Ne.symm hne)
      rw [List.flatMap_singleton] at hnone
      rw [ih hrest hmem, hnone]
      rfl

theorem Coherent.replayed (h : pair.Coherent p seen) {r : Nat}
    (hr : (lastEmitted pair.log r).isSome)
    : ((((pair.replaced p).prepare p).projection.prepared.filter
        (fun entry => entry.index = r)).map PreparedRenderRow.values)
        = [(((pair.replaced p).between p).row r).drawn p (pair.replaced p).physical] := by
  have hinvalidated := h.invalidate
  have hmem := h.mem_dirtyRows_replaced hr
  have huncommitted : (((pair.replaced p).between p).row r).committed = false := by
    rw [(hinvalidated.marking.same r).committed]
    change (pair.projection.invalidate.row r).committed = false
    rw [row_invalidate]
  rw [hinvalidated.emitting.prepared, hinvalidated.marking.prepared]
  apply filter_emissions hinvalidated.marking.nodup hmem
  apply Or.inl
  rw [huncommitted]
  rfl

theorem Coherent.summed_replaced (h : pair.Coherent p seen) (hzero : p.toFloat 0 = 0) {r : Nat}
    (haggregated : (((pair.replaced p).between p).row r).presentation = .aggregated)
    : Summed p (pair.physical.renderValues p) pair.projection.physicalToRow r
        (((pair.replaced p).between p).row r) := by
  have hinvalidated := h.invalidate
  have hmarking := hinvalidated.marking
  have hexact : Exact p ((pair.replaced p).between p) :=
    (marking_marked hinvalidated.exact hinvalidated.idle).2
  have hmapping : ((pair.replaced p).between p).physicalToRow = pair.projection.physicalToRow :=
    hmarking.mapping
  have hmembers : ∀ i ∈ rowMembers ((pair.replaced p).between p).physicalToRow r,
      if (((pair.replaced p).between p).member i).valid then
        (((pair.replaced p).between p).member i).values = pair.physical.renderValues p i
      else (pair.physical.state i).settled = {} := by
    intro i hi
    rw [hmapping] at hi
    have hlt : i < pair.projection.members.length := by
      rw [h.exact.lengths]
      exact (mem_rowMembers.mp hi).1
    cases Nat.lt_or_ge i pair.physical.states.length with
    | inl hin =>
      have hdirty := DensePresentationState.mem_dirty_invalidateRenderer pair.physical hin
      obtain ⟨hvalid, hvalues⟩ := hmarking.seen i hdirty hlt
      rw [if_pos hvalid, hvalues]
      exact congrFun renderValues_replaced i
    | inr hout =>
      have hclean : i ∉ (pair.replaced p).physical.dirty := by
        intro hdirty
        have hlength : (pair.replaced p).physical.states.length = pair.physical.states.length :=
          (DensePresentationState.advances_invalidateRenderer pair.physical).states_length
        have hinside := hinvalidated.tracks.lt hdirty
        rw [hlength] at hinside
        omega
      have hkept : ((pair.replaced p).between p).member i = pair.projection.member i :=
        hmarking.kept i hclean
      rw [hkept, if_neg]
      . exact state_of_le hout
      . intro hvalid
        have hinside := h.inside i hvalid
        omega
  have hsummed := summed_of_members hzero hexact haggregated hmembers
  rw [hmapping] at hsummed
  exact hsummed

-- A replayed row shows what it showed when nothing else is pending and it keeps its chromaticity.
theorem Coherent.drawn_eq_iff (h : pair.Coherent p seen) (hzero : p.toFloat 0 = 0) {r : Nat}
    (hlt : r < pair.projection.rows.length) {v : RenderValues}
    (hv : lastEmitted pair.log r = some v)
    : (((pair.replaced p).between p).row r).drawn p (pair.replaced p).physical = v
        ↔ pair.ShowsLast p r ∧ pair.KeepsChromaticity p r := by
  have hsame := h.invalidate.marking.same r
  have hopened : (pair.replaced p).projection.opened.row r
      = { pair.projection.row r with committed := false } := row_invalidate pair.projection r
  rw [hopened] at hsame
  have hrepresentative := hsame.representative.trans (h.representative r hlt).1
  have hsummed := @Coherent.summed_replaced p pair seen h hzero r
  unfold ShowsLast KeepsChromaticity RenderRowAccumulator.drawn
  dsimp only
  rw [renderValues_replaced, hrepresentative, hsame.presentation, hv, Option.some.injEq,
    Option.map_some, Option.some.injEq]
  generalize ((pair.replaced p).between p).row r = row at hsame hsummed ⊢
  by_cases haggregated : (pair.projection.row r).presentation = .aggregated
  . have hsummed := hsummed (hsame.presentation.trans haggregated)
    rw [if_pos haggregated, haggregated]
    have hiff := aggregate_eq_iff hsummed (some v)
    have hheld : row.held = white := by
      rw [RenderRowAccumulator.held, hsame.committed]
      rfl
    rw [hheld, Option.map_some, Option.getD_some] at hiff
    constructor
    . intro hdrawn
      have hkeeps : blackoutEnergy
            < rowEnergy (pair.physical.renderValues p) pair.projection.physicalToRow r
          ∨ chromaticity v = white := by
        by_cases hlit : blackoutEnergy
            < rowEnergy (pair.physical.renderValues p) pair.projection.physicalToRow r
        . exact Or.inl hlit
        . apply Or.inr
          rw [← hdrawn, ← hheld]
          apply chromaticity_aggregate
          rw [hsummed.energy, max_eq_left (rowEnergy_nonneg _ _ _)]
          exact hlit
      refine ⟨?_, fun _ => hkeeps⟩
      rw [← hiff.mpr (hkeeps.imp_right Eq.symm)]
      exact hdrawn.symm
    . rintro ⟨hshows, hkeeps⟩
      rw [hiff.mpr ((hkeeps rfl).imp_right Eq.symm)]
      exact hshows.symm
  . rw [if_neg haggregated]
    unfold referenceRow
    rw [if_neg haggregated]
    exact ⟨fun hdrawn => ⟨hdrawn.symm, fun h => absurd h haggregated⟩, fun hboth => hboth.1.symm⟩

end Row

/-! ### Nothing but replays since a projection -/

/-- The outputs show what the projection has seen, the others were never written. -/
structure Still (p : Platform) (pair : RenderPair) : Prop where
  coherent : pair.Coherent p (pair.physical.renderValues p)
  unseen : ∀ i < pair.projection.members.length, (pair.projection.member i).valid = false
    → (pair.physical.state i).settled = {}

theorem Coherent.still_prepare (h : pair.Coherent p seen) : (pair.prepare p).Still p := by
  constructor
  . exact h.prepare
  . intro i hlt hunseen
    apply h.prepare.untouched i hlt _ hunseen
    intro hdirty
    have hmembers : (pair.prepare p).projection.members.length = pair.projection.members.length := by
      rw [h.emitting.members]
      exact h.marking.membersLength
    rw [h.valid_prepare (Or.inr ⟨hdirty, Nat.lt_of_lt_of_eq hlt hmembers⟩)] at hunseen
    cases hunseen

theorem Coherent.still_snapshot (h : pair.Coherent p seen) (generation : UInt64)
    : (pair.step p (.snapshot generation)).Still p := by
  have hvalues : (pair.step p (.snapshot generation)).physical.renderValues p
      = pair.physical.renderValues p := by
    apply funext
    intro i
    apply DensePresentationState.renderValues_congr
    . change (pair.physical.finishSnapshot generation).bindings = _
      unfold DensePresentationState.finishSnapshot
      split
      . rfl
      . rfl
    . exact DensePresentationState.settled_finishSnapshot pair.physical generation i
  constructor
  . rw [hvalues]
    exact h.snapshot generation
  . intro i hlt hunseen
    change ((pair.physical.finishSnapshot generation).state i).settled = {}
    rw [DensePresentationState.settled_finishSnapshot]
    exact h.still_prepare.unseen i hlt hunseen

theorem Still.step (h : pair.Still p) {operation : RenderOperation} (hquiet : operation.Quiet)
    : (pair.step p operation).Still p := by
  cases operation with
  | write operation hwrites => cases hquiet
  | invalidate =>
    constructor
    . have hinvalidated := h.coherent.invalidate
      rw [← @renderValues_replaced p pair] at hinvalidated
      exact hinvalidated
    . intro i hlt hunseen
      change (pair.physical.invalidateRenderer.state i).settled = {}
      rw [DensePresentationState.settled_invalidateRenderer]
      exact h.unseen i hlt hunseen
  | prepare => exact h.coherent.still_prepare
  | snapshot generation => exact h.coherent.still_snapshot generation

theorem Still.run (h : pair.Still p) {quiet : List RenderOperation}
    (hquiet : ∀ operation ∈ quiet, operation.Quiet) : (pair.run p quiet).Still p := by
  induction quiet generalizing pair with
  | nil => exact h
  | cons operation quiet ih =>
    have hstep := h.step (hquiet operation List.mem_cons_self)
    exact ih hstep (fun other hmem => hquiet other (List.mem_cons_of_mem _ hmem))

theorem Still.showsLast (h : pair.Still p) (hzero : p.toFloat 0 = 0) {r : Nat}
    (hlt : r < pair.projection.rows.length) {v : RenderValues}
    (hv : lastEmitted pair.log r = some v) : pair.ShowsLast p r := by
  obtain ⟨hprevious, hshown⟩ := h.coherent.shown r v hv
  unfold ShowsLast
  rw [hv]
  apply congrArg some
  apply hshown.trans
  unfold RenderRowAccumulator.shown
  rw [(h.coherent.representative r hlt).1]
  by_cases haggregated : (pair.projection.row r).presentation = .aggregated
  . rw [if_pos haggregated, haggregated]
    have hsummed := summed_of_members hzero h.coherent.exact haggregated (fun i hi => by
      have hmember : i < pair.projection.members.length := by
        rw [h.coherent.exact.lengths]
        exact (mem_rowMembers.mp hi).1
      split
      next hvalid => exact h.coherent.values i hvalid
      next hunseen => exact h.unseen i hmember (Bool.eq_false_iff.mpr hunseen))
    have hiff := @aggregate_eq_iff p _ _ r { pair.projection.row r with committed := true }
      ⟨hsummed.energy, hsummed.red, hsummed.green, hsummed.blue, hsummed.intensity⟩ (some v)
    apply hiff.mpr
    apply Or.inr
    rw [← hprevious]
    rfl
  . unfold referenceRow
    rw [if_neg haggregated, if_neg haggregated]

end RenderPair
end Peraviz.Presentation
