import Peraviz.Presentation.Setup.RenderGroups
import Mathlib.Data.List.FinRange
import Mathlib.Data.List.Forall2
import Mathlib.Data.List.Perm.Basic

/-!
This module contains the proof that the groups of the renderer partition the beam profiles and that
the emitters of one candidate are compatible in pairs.
-/

namespace Peraviz.Presentation.Setup

open Peraviz.Runtime

section

variable {σ : Type} [SpatialScalar σ]

/-- An emitter without the reason that the search for a candidate leaves on it. -/
def Emitter.core (e : Emitter σ) : Emitter σ := (e.1, { e.2 with rejectionReason := "" })

theorem core_explainMisfit (scene : CompiledRuntimeScene σ) (indexed : Bool)
    (member emitter : Emitter σ)
    : (explainMisfit scene indexed member emitter).core = emitter.core := by
  rw [explainMisfit]
  split
  next => rfl
  next => rfl

theorem core_findCandidate (scene : CompiledRuntimeScene σ) (indexed : Bool)
    (candidates : List (List (Emitter σ))) (emitter : Emitter σ) (eligible : List Nat)
    : (findCandidate scene indexed candidates emitter eligible).1.core = emitter.core := by
  induction eligible generalizing emitter with
  | nil => rfl
  | cons position eligible ih =>
    rw [findCandidate]
    split
    next => rfl
    next member _ => exact (ih _).trans (core_explainMisfit scene indexed member emitter)

-- The candidate that was found is eligible, and the emitter fits each of its members.
theorem findCandidate_some {scene : CompiledRuntimeScene σ} {indexed : Bool}
    {candidates : List (List (Emitter σ))} {emitter found : Emitter σ} {eligible : List Nat}
    {position : Nat}
    (h : findCandidate scene indexed candidates emitter eligible = (found, some position))
    : position ∈ eligible
        ∧ ∀ member ∈ candidateAt candidates position, compatible scene indexed member found := by
  induction eligible generalizing emitter with
  | nil => cases h
  | cons first eligible ih =>
    rw [findCandidate] at h
    split at h
    next hfits =>
      cases h
      refine ⟨List.mem_cons_self, ?_⟩
      intro member hmember
      have hnone := List.find?_eq_none.mp hfits member hmember
      simpa using hnone
    next =>
      obtain ⟨hposition, hmembers⟩ := ih h
      exact ⟨List.mem_cons_of_mem _ hposition, hmembers⟩

theorem core_searchEmitter (scene : CompiledRuntimeScene σ) (indexed : Bool)
    (x : CandidateState σ) (emitter : Emitter σ)
    : (searchEmitter scene indexed x emitter).1.core = emitter.core := by
  rw [searchEmitter]
  split
  next => exact core_findCandidate scene indexed _ emitter _
  next => rfl

omit [SpatialScalar σ] in
theorem CandidateState.Consistent.eligible_lt {x : CandidateState σ} (hx : x.Consistent)
    {indexed : Bool} {fixtureId : Int32} {position : Nat}
    (h : position ∈ eligibleOf indexed x fixtureId) : position < x.candidates.length := by
  unfold eligibleOf at h
  split at h
  next =>
    rw [hx.byFixture] at h
    exact hx.lt_length position (List.mem_of_mem_filter h)
  next => exact hx.lt_length position h

theorem searchEmitter_some {scene : CompiledRuntimeScene σ} {indexed : Bool}
    {x : CandidateState σ} (hx : x.Consistent) {emitter found : Emitter σ} {position : Nat}
    (h : searchEmitter scene indexed x emitter = (found, some position))
    : position < x.candidates.length
        ∧ ∀ member ∈ candidateAt x.candidates position, compatible scene indexed member found := by
  rw [searchEmitter] at h
  split at h
  next =>
    obtain ⟨hposition, hmembers⟩ := findCandidate_some h
    exact ⟨hx.eligible_lt hposition, hmembers⟩
  next => cases h

/-- A candidate's members are compatible in pairs, each with the ones after it. -/
def CandidateState.Paired (scene : CompiledRuntimeScene σ) (indexed : Bool)
    (x : CandidateState σ) : Prop :=
  ∀ candidate ∈ x.candidates,
    candidate.Pairwise (fun a b => compatible scene indexed a b = true)

theorem CandidateState.Paired.placeEmitter {scene : CompiledRuntimeScene σ} {indexed : Bool}
    {x : CandidateState σ} (h : x.Paired scene indexed) (hx : x.Consistent) (emitter : Emitter σ)
    : (placeEmitter scene indexed x emitter).Paired scene indexed := by
  rw [Setup.placeEmitter]
  split
  next found position hfound =>
    obtain ⟨hlt, hmembers⟩ := searchEmitter_some hx hfound
    intro candidate hcandidate
    obtain ⟨q, hq⟩ := List.mem_iff_getElem?.mp hcandidate
    rw [joinCandidate, List.getElem?_modify] at hq
    by_cases heq : position = q
    . rw [← heq, List.getElem?_eq_getElem hlt] at hq
      simp only [if_true, Option.map_eq_map, Option.map_some, Option.some.injEq] at hq
      rw [← hq]
      rw [candidateAt, List.getElem?_eq_getElem hlt, Option.getD_some] at hmembers
      apply List.pairwise_append.mpr
      refine ⟨h _ (List.getElem_mem hlt), List.pairwise_singleton _ _, ?_⟩
      intro member hmember other hother
      rw [List.mem_singleton.mp hother]
      exact hmembers member hmember
    . simp only [heq, if_false, Option.map_eq_map, Option.map_id_fun', id] at hq
      exact h candidate (List.mem_of_getElem? hq)
  next found hfound =>
    intro candidate hcandidate
    cases List.mem_append.mp hcandidate with
    | inl hold => exact h candidate hold
    | inr hnew =>
      rw [List.mem_singleton.mp hnew]
      exact List.pairwise_singleton _ _

omit [SpatialScalar σ] in
theorem flatten_modify_perm (candidates : List (List (Emitter σ))) (emitter : Emitter σ)
    {position : Nat} (hlt : position < candidates.length)
    : (candidates.modify position (fun candidate => candidate ++ [emitter])).flatten.Perm
        (candidates.flatten ++ [emitter]) := by
  induction candidates generalizing position with
  | nil => cases hlt
  | cons candidate candidates ih =>
    cases position with
    | zero =>
      rw [List.modify_zero_cons, List.flatten_cons, List.flatten_cons, List.append_assoc,
        List.append_assoc]
      exact (List.perm_append_comm).append_left candidate
    | succ position =>
      rw [List.modify_succ_cons, List.flatten_cons, List.flatten_cons, List.append_assoc]
      exact (ih (Nat.lt_of_succ_lt_succ hlt)).append_left candidate

theorem perm_placeEmitter {scene : CompiledRuntimeScene σ} {indexed : Bool}
    {x : CandidateState σ} (hx : x.Consistent) (emitter : Emitter σ)
    : ((placeEmitter scene indexed x emitter).candidates.flatten.map Emitter.core).Perm
        (x.candidates.flatten.map Emitter.core ++ [emitter.core]) := by
  have hcore := core_searchEmitter scene indexed x emitter
  rw [placeEmitter]
  split
  next found position hfound =>
    rw [hfound] at hcore
    have hperm := flatten_modify_perm x.candidates found (searchEmitter_some hx hfound).1
    have hmapped := hperm.map Emitter.core
    rw [List.map_append, List.map_singleton, hcore] at hmapped
    exact hmapped
  next found hfound =>
    rw [hfound] at hcore
    rw [newCandidate, List.flatten_append, List.map_append, List.flatten_singleton,
      List.map_singleton, hcore]

theorem foldl_placeEmitter {scene : CompiledRuntimeScene σ} {indexed : Bool}
    {emitters : List (Emitter σ)} {x : CandidateState σ} (hx : x.Consistent)
    (hpaired : x.Paired scene indexed) (hemitters : ∀ e ∈ emitters, Emitter.Described e)
    : let y := emitters.foldl (placeEmitter scene indexed) x
      y.Consistent ∧ y.Paired scene indexed
        ∧ (y.candidates.flatten.map Emitter.core).Perm
          (x.candidates.flatten.map Emitter.core ++ emitters.map Emitter.core) := by
  induction emitters generalizing x with
  | nil =>
    rw [List.map_nil, List.append_nil]
    exact ⟨hx, hpaired, List.Perm.refl _⟩
  | cons e emitters ih =>
    have he := hemitters e List.mem_cons_self
    have hrest := ih (hx.placeEmitter he scene indexed) (hpaired.placeEmitter hx e)
      (fun e' he' => hemitters e' (List.mem_cons_of_mem _ he'))
    refine ⟨hrest.1, hrest.2.1, hrest.2.2.trans ?_⟩
    have hplaced := (@perm_placeEmitter _ _ scene indexed _ hx e).append_right
      (emitters.map Emitter.core)
    rw [List.append_assoc] at hplaced
    exact hplaced

theorem candidatesOf_spec (scene : CompiledRuntimeScene σ) (model : List (SceneNode σ))
    (indexed : Bool)
    : (∀ candidate ∈ candidatesOf scene model indexed, candidate ≠ []
          ∧ candidate.Pairwise (fun a b => compatible scene indexed a b = true))
        ∧ ((candidatesOf scene model indexed).flatten.map Emitter.core).Perm
          ((emittersOf scene model indexed).map Emitter.core) := by
  have hempty : CandidateState.Consistent ({} : CandidateState σ) := by
    constructor
    all_goals simp
  have hpaired : CandidateState.Paired scene indexed ({} : CandidateState σ) := by
    intro candidate hcandidate
    cases hcandidate
  have hemitters : ∀ e ∈ emittersOf scene model indexed, Emitter.Described e :=
    described_of_mem_zip
  obtain ⟨hx, hpaired, hperm⟩ := foldl_placeEmitter hempty hpaired hemitters
  exact ⟨fun candidate h => ⟨hx.nonempty candidate h, hpaired candidate h⟩, hperm⟩

/-! ### The groups of the candidates -/

/-- A candidate is accepted as a whole or dissolved. -/
def partsOf : List (Emitter σ) → List (List (Emitter σ))
  | [] => []
  | first :: rest =>
    if isCompact first (first :: rest) then [first :: rest]
    else (first :: rest).map (fun e => [e])

theorem flatten_partsOf (candidate : List (Emitter σ))
    : (partsOf candidate).flatten = candidate := by
  cases candidate with
  | nil => rfl
  | cons first rest =>
    rw [partsOf]
    split
    next => exact List.flatten_singleton
    next =>
      rw [← List.flatMap_def]
      exact List.flatMap_singleton' _

structure BuiltOf (controls : List PresentationControlGroup) (group : RenderEmitterGroup σ)
    (part : List (Emitter σ)) : Prop where
  physicalIds : group.physicalIds = part.map (fun e => e.2.physicalId)
  aggregated : group.presentation = .aggregated → ∃ first, part.head? = some first
    ∧ isCompact first part = true ∧ group = aggregatedGroup controls group.id first part

def Numbered (groups : List (RenderEmitterGroup σ)) : Prop :=
  groups.map RenderEmitterGroup.id
    = (List.range groups.length).map (fun position => Int32.ofNat (position + 1))

omit [SpatialScalar σ] in
theorem Numbered.append {out news : List (RenderEmitterGroup σ)} (h : Numbered out)
    (hnews : news.map RenderEmitterGroup.id
      = (List.range news.length).map (fun i => Int32.ofNat (out.length + i + 1)))
    : Numbered (out ++ news) := by
  unfold Numbered at h ⊢
  rw [List.map_append, List.length_append, List.range_add, List.map_append, h, hnews,
    List.map_map]
  rfl

theorem builtOf_singles (controls : List PresentationControlGroup) (whole : List (Emitter σ))
    (number : Nat → Int32) (candidate : List (Emitter σ)) (start : Nat)
    : List.Forall₂ (BuiltOf controls)
        ((candidate.zipIdx start).map (fun (e, i) =>
          singleGroup controls (number i) (i = 0) whole e))
        (candidate.map (fun e => [e])) := by
  induction candidate generalizing start with
  | nil => exact List.Forall₂.nil
  | cons e candidate ih =>
    rw [List.zipIdx_cons, List.map_cons, List.map_cons]
    apply List.Forall₂.cons
    . constructor
      . rfl
      . intro haggregated
        cases haggregated
    . exact ih (start + 1)

theorem emitCandidate_spec (controls : List PresentationControlGroup)
    (out : List (RenderEmitterGroup σ)) (candidate : List (Emitter σ))
    : ∃ news, emitCandidate controls out candidate = out ++ news
        ∧ List.Forall₂ (BuiltOf controls) news (partsOf candidate)
        ∧ news.map RenderEmitterGroup.id
          = (List.range news.length).map (fun i => Int32.ofNat (out.length + i + 1)) := by
  cases candidate with
  | nil => exact ⟨[], (List.append_nil out).symm, List.Forall₂.nil, rfl⟩
  | cons first rest =>
    unfold emitCandidate partsOf
    dsimp only
    split
    next hcompact =>
      refine ⟨_, rfl, ?_, rfl⟩
      apply List.Forall₂.cons
      . constructor
        . rfl
        . intro _
          exact ⟨first, rfl, hcompact, rfl⟩
      . exact List.Forall₂.nil
    next =>
      refine ⟨_, rfl, builtOf_singles controls (first :: rest)
        (fun i => Int32.ofNat (out.length + i + 1)) (first :: rest) 0, ?_⟩
      have hids : ∀ (entries : List (Emitter σ × Nat)), (entries.map (fun (e, i) =>
          singleGroup controls (Int32.ofNat (out.length + i + 1)) (i = 0) (first :: rest) e)).map
            RenderEmitterGroup.id
          = (entries.map Prod.snd).map (fun i => Int32.ofNat (out.length + i + 1)) := by
        intro entries
        rw [List.map_map, List.map_map]
        rfl
      rw [hids, List.zipIdx_map_snd, List.length_map, List.length_zipIdx, ← List.range_eq_range']

theorem foldl_emitCandidate (controls : List PresentationControlGroup)
    (candidates : List (List (Emitter σ))) {out : List (RenderEmitterGroup σ)}
    {parts : List (List (Emitter σ))} (hnumbered : Numbered out)
    (hbuilt : List.Forall₂ (BuiltOf controls) out parts)
    : Numbered (candidates.foldl (emitCandidate controls) out)
        ∧ List.Forall₂ (BuiltOf controls) (candidates.foldl (emitCandidate controls) out)
          (parts ++ candidates.flatMap partsOf) := by
  induction candidates generalizing out parts with
  | nil =>
    rw [List.flatMap_nil, List.append_nil]
    exact ⟨hnumbered, hbuilt⟩
  | cons candidate candidates ih =>
    obtain ⟨news, heq, hnews, hids⟩ := emitCandidate_spec controls out candidate
    rw [List.foldl_cons, heq, List.flatMap_cons, ← List.append_assoc]
    exact ih (hnumbered.append hids) (List.rel_append hbuilt hnews)

/-! ### The beam profiles of the groups -/

def emitterOf (scene : CompiledRuntimeScene σ) (model : List (SceneNode σ)) (indexed : Bool)
    (beam : CompiledBeamOpticalProfile σ) : Emitter σ :=
  (beam, describeEmitter scene model indexed beam)

theorem emittersOf_eq_map (scene : CompiledRuntimeScene σ) (model : List (SceneNode σ))
    (indexed : Bool)
    : emittersOf scene model indexed
        = (List.finRange scene.beamProfiles.length).map
          (fun i => emitterOf scene model indexed (scene.beamProfiles.get i)) := by
  have hzip : emittersOf scene model indexed
      = scene.beamProfiles.map (emitterOf scene model indexed) := by
    unfold emittersOf compileEmitterSpatialDescriptors
    generalize scene.beamProfiles = beams
    induction beams with
    | nil => rfl
    | cons beam beams ih =>
      rw [List.map_cons, List.zip_cons_cons, ih]
      rfl
  rw [hzip]
  conv =>
    lhs
    rw [← List.map_get_finRange scene.beamProfiles]
  rw [List.map_map]
  rfl

theorem exists_members {α β : Type} {R : α → β → Prop} {parts : List (List β)} {l : List α}
    (h : List.Forall₂ R l parts.flatten)
    : ∃ members : List (List α), members.flatten = l
        ∧ List.Forall₂ (List.Forall₂ R) members parts := by
  induction parts generalizing l with
  | nil =>
    cases h
    exact ⟨[], rfl, List.Forall₂.nil⟩
  | cons part parts ih =>
    rw [List.flatten_cons] at h
    obtain ⟨members, hflatten, hmembers⟩ := ih (List.forall₂_drop_append l part _ h)
    refine ⟨l.take part.length :: members, ?_,
      List.Forall₂.cons (List.forall₂_take_append l part _ h) hmembers⟩
    rw [List.flatten_cons, hflatten]
    exact List.take_append_drop part.length l

/-- The emitter of a part is the one of a beam profile, up to the reason on it. -/
def IsBeam (scene : CompiledRuntimeScene σ) (model : List (SceneNode σ)) (indexed : Bool)
    (i : Fin scene.beamProfiles.length) (e : Emitter σ) : Prop :=
  e.core = (emitterOf scene model indexed (scene.beamProfiles.get i)).core

theorem compileRenderEmitterGroups_parts (scene : CompiledRuntimeScene σ)
    (model : List (SceneNode σ)) (controls : List PresentationControlGroup) (indexed : Bool)
    : let groups := compileRenderEmitterGroups scene model controls indexed
      Numbered groups ∧ ∃ parts members,
        members.flatten.Perm (List.finRange scene.beamProfiles.length)
          ∧ List.Forall₂ (BuiltOf controls) groups parts
          ∧ List.Forall₂ (List.Forall₂ (IsBeam scene model indexed)) members parts
          ∧ ∀ part ∈ parts, part.Pairwise (fun a b => compatible scene indexed a b = true) := by
  intro groups
  obtain ⟨hcandidates, hperm⟩ := candidatesOf_spec scene model indexed
  obtain ⟨hnumbered, hbuilt⟩ := foldl_emitCandidate controls (candidatesOf scene model indexed)
    (show Numbered [] from rfl) List.Forall₂.nil
  rw [List.nil_append] at hbuilt
  have hflatten : ((candidatesOf scene model indexed).flatMap partsOf).flatten
      = (candidatesOf scene model indexed).flatten := by
    generalize candidatesOf scene model indexed = candidates
    induction candidates with
    | nil => rfl
    | cons candidate candidates ih =>
      rw [List.flatMap_cons, List.flatten_append, List.flatten_cons, ih, flatten_partsOf]
  rw [← hflatten, emittersOf_eq_map, List.map_map] at hperm
  have hbeams : List.Forall₂
      (fun e i => e = (emitterOf scene model indexed (scene.beamProfiles.get i)).core)
      ((List.finRange scene.beamProfiles.length).map
        (Emitter.core ∘ fun i => emitterOf scene model indexed (scene.beamProfiles.get i)))
      (List.finRange scene.beamProfiles.length) := by
    rw [List.forall₂_map_left_iff]
    exact List.forall₂_same.mpr (fun _ _ => rfl)
  obtain ⟨order, horder, hall⟩ := List.perm_comp_forall₂ hperm hbeams
  rw [List.forall₂_map_left_iff] at horder
  obtain ⟨members, hmembers, hparts⟩ := exists_members horder.flip
  refine ⟨hnumbered, _, members, hmembers ▸ hall, hbuilt, hparts, ?_⟩
  intro part hpart
  obtain ⟨candidate, hcandidate, hpart⟩ := List.mem_flatMap.mp hpart
  obtain ⟨_, hpaired⟩ := hcandidates candidate hcandidate
  cases candidate with
  | nil => cases hpart
  | cons first rest =>
    rw [partsOf] at hpart
    split at hpart
    next =>
      rw [List.mem_singleton.mp hpart]
      exact hpaired
    next =>
      obtain ⟨e, _, rfl⟩ := List.mem_map.mp hpart
      exact List.pairwise_singleton _ _

end

end Peraviz.Presentation.Setup
