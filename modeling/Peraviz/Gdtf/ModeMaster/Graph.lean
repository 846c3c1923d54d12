import Peraviz.Chain.Verdict
import Peraviz.Gdtf.ModeMaster.Impl

/-!
This module contains the correctness of `validateModeMasterGraph`: the visits mark exactly what
resolves and leads into no cycle.
-/

namespace Peraviz.Gdtf

open Peraviz.Runtime Chain

/-- What the condition of a function needs: a ChannelFunction link has to name a function. -/
structure Resolves (functions : List ChannelFunctionActivation) (f : ChannelFunctionActivation)
    : Prop where
  valid : f.modeMaster.valid = true
  kind : f.modeMaster.targetKind ≠ .listed .invalid
  target : f.modeMaster.targetKind = .listed .channelFunction
    → ∃ g ∈ functions, g.functionId = f.modeMaster.targetId

/-- The directed graph of the master links. -/
structure MasterLink (functions : List ChannelFunctionActivation)
    (f g : ChannelFunctionActivation) : Prop where
  source : f ∈ functions
  master : g ∈ functions
  kind : f.modeMaster.targetKind = .listed .channelFunction
  target : f.modeMaster.targetId = g.functionId

def verdictAt (functions : List ChannelFunctionActivation) (index : Nat) : Verdict Nat :=
  match functions[index]? with
  | none => .accept
  | some f =>
    match conditionOf functions f with
    | .error _ => .refuse
    | .ok none => .accept
    | .ok (some target) => .ask target

section Indices

variable {functions : List ChannelFunctionActivation} {id : Int32}

-- By induction on the number of functions that the loop has seen.
theorem indexOf_cases (functions : List ChannelFunctionActivation) (id : Int32)
    : (indexOf functions id = none ∧ ∀ f ∈ functions, f.functionId ≠ id)
        ∨ ∃ index f, indexOf functions id = some index ∧ functions[index]? = some f
          ∧ f.functionId = id := by
  unfold indexOf
  have hupTo : ∀ step : Option Nat → Nat → Option Nat,
      (∀ found index f, functions[index]? = some f →
        step found index = if f.functionId = id then some index else found) →
      ∀ n, n ≤ functions.length →
      let found := (List.range n).foldl step none
      (found = none ∧ ∀ f ∈ functions.take n, f.functionId ≠ id)
        ∨ ∃ index f, found = some index ∧ functions[index]? = some f ∧ f.functionId = id := by
    intro step hstep n hn
    induction n with
    | zero =>
      apply Or.inl
      refine ⟨rfl, ?_⟩
      rw [List.take_zero]
      intro f hf
      cases hf
    | succ n ih =>
      have hlt : n < functions.length := hn
      have ih := ih (Nat.le_of_lt hlt)
      dsimp only at ih ⊢
      rw [List.range_succ, List.foldl_concat]
      generalize (List.range n).foldl _ none = found at ih ⊢
      rw [hstep found n functions[n] (List.getElem?_eq_getElem hlt)]
      split
      next hid => exact Or.inr ⟨n, functions[n], rfl, List.getElem?_eq_getElem hlt, hid⟩
      next hid =>
        cases ih with
        | inl hnone =>
          apply Or.inl
          refine ⟨hnone.1, ?_⟩
          intro f hf
          rw [← List.take_concat_get' functions n hlt, List.mem_append, List.mem_singleton] at hf
          cases hf with
          | inl hearlier => exact hnone.2 f hearlier
          | inr heq =>
            rw [heq]
            exact hid
        | inr hsome => exact Or.inr hsome
  have hall := fun step hstep => hupTo step hstep functions.length (Nat.le_refl _)
  rw [List.take_length] at hall
  apply hall
  intro found index f hf
  rw [hf]

theorem index_inj (hids : (functions.map ChannelFunctionActivation.functionId).Nodup) {i j : Nat}
    {f g : ChannelFunctionActivation} (hf : functions[i]? = some f) (hg : functions[j]? = some g)
    (hid : f.functionId = g.functionId) : i = j := by
  obtain ⟨hi, _⟩ := List.getElem?_eq_some_iff.mp hf
  have hlt : i < (functions.map ChannelFunctionActivation.functionId).length := by
    rw [List.length_map]
    exact hi
  apply (List.getElem?_inj hlt hids).mp
  rw [List.getElem?_map, List.getElem?_map, hf, hg, Option.map_some, Option.map_some, hid]

theorem conditionOf_cases (functions : List ChannelFunctionActivation)
    (f : ChannelFunctionActivation)
    : (conditionOf functions f = .error f.unresolved ∧ ¬ Resolves functions f)
        ∨ (conditionOf functions f = .ok none ∧ Resolves functions f
          ∧ f.modeMaster.targetKind ≠ .listed .channelFunction)
        ∨ ∃ target g, conditionOf functions f = .ok (some target) ∧ Resolves functions f
          ∧ f.modeMaster.targetKind = .listed .channelFunction ∧ functions[target]? = some g
          ∧ f.modeMaster.targetId = g.functionId := by
  unfold conditionOf
  split
  next hinvalid =>
    apply Or.inl
    refine ⟨rfl, ?_⟩
    intro h
    cases hinvalid with
    | inl hkind => exact h.kind hkind
    | inr hvalid =>
      rw [h.valid] at hvalid
      cases hvalid
  next hvalid =>
    rw [not_or, Bool.not_eq_false] at hvalid
    split
    next hfunction =>
      cases indexOf_cases functions f.modeMaster.targetId with
      | inl hnone =>
        rw [hnone.1]
        apply Or.inl
        refine ⟨rfl, ?_⟩
        intro h
        obtain ⟨g, hg, hid⟩ := h.target hfunction
        exact hnone.2 g hg hid
      | inr hsome =>
        obtain ⟨target, g, htarget, hg, hid⟩ := hsome
        rw [htarget]
        have hresolves : Resolves functions f :=
          ⟨hvalid.2, hvalid.1, fun _ => ⟨g, List.mem_of_getElem? hg, hid⟩⟩
        exact Or.inr (Or.inr ⟨target, g, rfl, hresolves, hfunction, hg, hid.symm⟩)
    next hother =>
      exact Or.inr (Or.inl ⟨rfl, ⟨hvalid.2, hvalid.1, fun h => absurd h hother⟩, hother⟩)

theorem verdictAt_eq {index : Nat} {f : ChannelFunctionActivation} (hf : functions[index]? = some f)
    : verdictAt functions index =
      match conditionOf functions f with
      | .error _ => .refuse
      | .ok none => .accept
      | .ok (some target) => .ask target := by
  rw [verdictAt, hf]

theorem verdictAt_ne_refuse_iff {index : Nat} {f : ChannelFunctionActivation}
    (hf : functions[index]? = some f)
    : verdictAt functions index ≠ .refuse ↔ Resolves functions f := by
  rw [verdictAt_eq hf]
  rcases conditionOf_cases functions f with hrefuse | haccept | ⟨target, g, hask⟩
  . rw [hrefuse.1]
    exact ⟨fun h => absurd rfl h, fun h => absurd h hrefuse.2⟩
  . rw [haccept.1]
    exact ⟨fun _ => haccept.2.1, fun _ h => by cases h⟩
  . rw [hask.1]
    exact ⟨fun _ => hask.2.1, fun _ h => by cases h⟩

theorem link_of_verdictAt {index target : Nat} (h : verdictAt functions index = .ask target)
    : ∃ f g, functions[index]? = some f ∧ functions[target]? = some g
        ∧ MasterLink functions f g := by
  cases hf : functions[index]? with
  | none =>
    rw [verdictAt, hf] at h
    cases h
  | some f =>
    rw [verdictAt_eq hf] at h
    rcases conditionOf_cases functions f with hrefuse | haccept | ⟨found, g, hask⟩
    . rw [hrefuse.1] at h
      cases h
    . rw [haccept.1] at h
      cases h
    . rw [hask.1] at h
      cases h
      obtain ⟨_, _, hkind, hg, htarget⟩ := hask
      exact ⟨f, g, rfl, hg, List.mem_of_getElem? hf, List.mem_of_getElem? hg, hkind, htarget⟩

theorem verdictAt_of_link (hids : (functions.map ChannelFunctionActivation.functionId).Nodup)
    {i j : Nat} {f g : ChannelFunctionActivation} (hlink : MasterLink functions f g)
    (hresolves : Resolves functions f) (hi : functions[i]? = some f) (hj : functions[j]? = some g)
    : verdictAt functions i = .ask j := by
  rw [verdictAt_eq hi]
  rcases conditionOf_cases functions f with hrefuse | haccept | ⟨found, master, hask⟩
  . exact absurd hresolves hrefuse.2
  . exact absurd hlink.kind haccept.2.2
  . obtain ⟨hcondition, _, _, hmaster, htarget⟩ := hask
    rw [hcondition, index_inj hids hmaster hj (htarget.symm.trans hlink.target)]

end Indices

/-! ### The visits -/

section Visits

variable {functions : List ChannelFunctionActivation} {state left : List VisitMark} {index : Nat}

def Done (functions : List ChannelFunctionActivation) (state : List VisitMark) : Prop :=
  state.length = functions.length
    ∧ ∀ i, state[i]? = some .visited → Accepts (verdictAt functions) i

theorem Done.set_visiting (h : Done functions state) (index : Nat)
    : Done functions (state.set index .visiting) := by
  refine ⟨by rw [List.length_set]; exact h.1, ?_⟩
  intro i hi
  rw [List.getElem?_set] at hi
  split at hi
  . split at hi
    . cases hi
    . cases hi
  . exact h.2 i hi

theorem Done.set_visited (h : Done functions state) (haccepts : Accepts (verdictAt functions) index)
    : Done functions (state.set index .visited) := by
  refine ⟨by rw [List.length_set]; exact h.1, ?_⟩
  intro i hi
  rw [List.getElem?_set] at hi
  split at hi
  next heq =>
    rw [← heq]
    exact haccepts
  next => exact h.2 i hi

/-- What a successful visit keeps and adds. -/
structure Visits (functions : List ChannelFunctionActivation) (state left : List VisitMark)
    (index : Nat) : Prop where
  done : Done functions left
  here : left[index]? = some .visited
  keeps : ∀ i : Nat, state[i]? = some .visited → left[i]? = some .visited

theorem Done.finish (h : Done functions left) (haccepts : Accepts (verdictAt functions) index)
    (hindex : index < functions.length)
    (hkeeps : ∀ i : Nat, state[i]? = some .visited → i = index ∨ left[i]? = some .visited)
    : Visits functions state (left.set index .visited) index := by
  have hset : (left.set index VisitMark.visited)[index]? = some .visited := by
    rw [List.getElem?_set_self]
    rw [h.1]
    exact hindex
  refine ⟨h.set_visited haccepts, hset, ?_⟩
  intro i hi
  cases hkeeps i hi with
  | inl heq =>
    rw [heq]
    exact hset
  | inr hleft =>
    rw [List.getElem?_set]
    split
    next heq =>
      rw [← heq] at hleft
      obtain ⟨hlt, _⟩ := List.getElem?_eq_some_iff.mp hleft
      rw [if_pos hlt]
    next => exact hleft

theorem getElem?_set_visiting {i : Nat} (h : state[i]? = some .visited)
    : i = index ∨ (state.set index .visiting)[i]? = some .visited := by
  rw [List.getElem?_set]
  split
  next heq => exact Or.inl heq.symm
  next => exact Or.inr h

theorem visiting_of_set_visited {i : Nat}
    (h : (state.set index .visited)[i]? = some .visiting)
    : i ≠ index ∧ state[i]? = some .visiting := by
  rw [List.getElem?_set] at h
  split at h
  . split at h
    . cases h
    . cases h
  next hne => exact ⟨fun heq => hne heq.symm, h⟩

theorem visiting_of_set_visiting {i : Nat}
    (h : (state.set index .visiting)[i]? = some .visiting)
    : i = index ∨ state[i]? = some .visiting := by
  rw [List.getElem?_set] at h
  split at h
  next heq => exact Or.inl heq.symm
  next => exact Or.inr h

theorem visitFunction_sound (h : visitFunction functions state index = .ok left) (hdone : Done functions state)
    (hindex : index < functions.length) : Visits functions state left index := by
  fun_induction visitFunction functions state index generalizing left with
  | case1 state index hf =>
    rw [List.getElem?_eq_getElem hindex] at hf
    cases hf
  | case2 => cases h
  | case3 => cases h
  | case4 state index f hf _ _ hcondition =>
    cases h
    have haccept : verdictAt functions index = .accept := by
      rw [verdictAt_eq hf, hcondition]
    exact (hdone.set_visiting index).finish (Accepts.accept haccept) hindex
      (fun i hi => getElem?_set_visiting hi)
  | case5 => cases h
  | case6 state index f hf _ _ target hcondition deeper hdeeper ih =>
    cases h
    have hask : verdictAt functions index = .ask target := by
      rw [verdictAt_eq hf, hcondition]
    obtain ⟨_, g, _, hg, _⟩ := link_of_verdictAt hask
    obtain ⟨htarget, _⟩ := List.getElem?_eq_some_iff.mp hg
    have hvisits := ih hdeeper (hdone.set_visiting index) htarget
    have haccepts := Accepts.ask hask (hvisits.done.2 target hvisits.here)
    apply hvisits.done.finish haccepts hindex
    intro i hi
    cases @getElem?_set_visiting state index i hi with
    | inl heq => exact Or.inl heq
    | inr hset => exact Or.inr (hvisits.keeps i hset)
  | case7 state index f hf hvisiting hunvisited =>
    cases h
    have hlt : index < state.length := by
      rw [hdone.1]
      exact hindex
    have hhere : state[index]? = some .visited := by
      rw [List.getElem?_eq_getElem hlt] at hvisiting hunvisited ⊢
      cases hmark : state[index] with
      | unvisited => exact absurd (congrArg some hmark) hunvisited
      | visiting => exact absurd (congrArg some hmark) hvisiting
      | visited => rfl
    exact ⟨hdone, hhere, fun _ hi => hi⟩

theorem way_deeper {target : Nat} (hask : verdictAt functions index = .ask target)
    (hway : ∀ i : Nat, state[i]? = some .visiting →
      Relation.TransGen (Asks (verdictAt functions)) i index)
    : ∀ i : Nat, (state.set index .visiting)[i]? = some .visiting →
      Relation.TransGen (Asks (verdictAt functions)) i target := by
  intro i hi
  cases visiting_of_set_visiting hi with
  | inl heq =>
    rw [heq]
    exact Relation.TransGen.single hask
  | inr hearlier => exact (hway i hearlier).tail hask

-- A visit of an accepted function succeeds when what is on the way leads to it.
theorem visitFunction_complete (haccepts : Accepts (verdictAt functions) index)
    (hway : ∀ i : Nat, state[i]? = some .visiting →
      Relation.TransGen (Asks (verdictAt functions)) i index)
    : ∃ left, visitFunction functions state index = .ok left
        ∧ ∀ i : Nat, left[i]? = some .visiting → state[i]? = some .visiting := by
  fun_induction visitFunction functions state index with
  | case1 state => exact ⟨state, rfl, fun _ hi => hi⟩
  | case2 state index f hf hvisiting => exact absurd (hway index hvisiting) haccepts.not_loop
  | case3 state index f hf _ _ diagnostic hcondition =>
    have hrefuse : verdictAt functions index = .refuse := by
      rw [verdictAt_eq hf, hcondition]
    cases haccepts with
    | accept h =>
      rw [hrefuse] at h
      cases h
    | ask h _ =>
      rw [hrefuse] at h
      cases h
  | case4 state index f hf _ _ hcondition =>
    refine ⟨_, rfl, ?_⟩
    intro i hi
    rw [List.set_set] at hi
    exact (visiting_of_set_visited hi).2
  | case5 state index f hf _ _ target hcondition diagnostic hdeeper ih =>
    have hask : verdictAt functions index = .ask target := by
      rw [verdictAt_eq hf, hcondition]
    have htarget := haccepts.reaches (Relation.ReflTransGen.single hask)
    obtain ⟨left, hleft, _⟩ := ih htarget (way_deeper hask hway)
    rw [hdeeper] at hleft
    cases hleft
  | case6 state index f hf _ _ target hcondition deeper hdeeper ih =>
    have hask : verdictAt functions index = .ask target := by
      rw [verdictAt_eq hf, hcondition]
    have htarget := haccepts.reaches (Relation.ReflTransGen.single hask)
    obtain ⟨left, hleft, hvisiting⟩ := ih htarget (way_deeper hask hway)
    rw [hdeeper] at hleft
    cases hleft
    refine ⟨_, rfl, ?_⟩
    intro i hi
    obtain ⟨hne, hdeeperMark⟩ := visiting_of_set_visited hi
    cases visiting_of_set_visiting (hvisiting i hdeeperMark) with
    | inl heq => exact absurd heq hne
    | inr hearlier => exact hearlier
  | case7 state => exact ⟨state, rfl, fun _ hi => hi⟩

theorem visitAll_sound {indices : List Nat}
    (h : indices.foldlM (visitFunction functions) state = .ok left) (hdone : Done functions state)
    (hindices : ∀ i ∈ indices, i < functions.length)
    : Done functions left ∧ (∀ i ∈ indices, left[i]? = some .visited)
        ∧ ∀ i : Nat, state[i]? = some .visited → left[i]? = some .visited := by
  induction indices generalizing state with
  | nil =>
    cases h
    refine ⟨hdone, ?_, fun _ hi => hi⟩
    intro i hi
    cases hi
  | cons index indices ih =>
    rw [List.foldlM_cons] at h
    cases hvisit : visitFunction functions state index with
    | error diagnostic =>
      rw [hvisit] at h
      cases h
    | ok next =>
      rw [hvisit] at h
      have hvisits := visitFunction_sound hvisit hdone (hindices index List.mem_cons_self)
      obtain ⟨hleft, hrest, hkeeps⟩ :=
        ih h hvisits.done (fun i hi => hindices i (List.mem_cons_of_mem _ hi))
      refine ⟨hleft, ?_, fun i hi => hkeeps i (hvisits.keeps i hi)⟩
      intro i hi
      cases List.mem_cons.mp hi with
      | inl heq =>
        rw [heq]
        exact hkeeps index hvisits.here
      | inr hmem => exact hrest i hmem

theorem visitAll_complete {indices : List Nat}
    (haccepts : ∀ i ∈ indices, Accepts (verdictAt functions) i)
    (hidle : ∀ i : Nat, state[i]? ≠ some .visiting)
    : ∃ left, indices.foldlM (visitFunction functions) state = .ok left := by
  induction indices generalizing state with
  | nil => exact ⟨state, rfl⟩
  | cons index indices ih =>
    obtain ⟨next, hnext, hvisiting⟩ := visitFunction_complete (haccepts index List.mem_cons_self)
      (fun i hi => absurd hi (hidle i))
    rw [List.foldlM_cons, hnext]
    apply ih
    . intro i hi
      exact haccepts i (List.mem_cons_of_mem _ hi)
    . intro i hi
      exact hidle i (hvisiting i hi)

end Visits

section Validation

variable {functions : List ChannelFunctionActivation}

theorem validateModeMasterGraph_accepts (functions : List ChannelFunctionActivation)
    : validateModeMasterGraph functions = .ok ()
        ↔ ∀ i ∈ List.range functions.length, Accepts (verdictAt functions) i := by
  have hreplicate : ∀ (i : Nat) (mark : VisitMark),
      (List.replicate functions.length VisitMark.unvisited)[i]? = some mark → mark = .unvisited := by
    intro i mark hmark
    exact List.eq_of_mem_replicate (List.mem_of_getElem? hmark)
  unfold validateModeMasterGraph
  constructor
  . intro h i hi
    cases hall : (List.range functions.length).foldlM (visitFunction functions)
        (List.replicate functions.length .unvisited) with
    | error diagnostic =>
      rw [hall] at h
      cases h
    | ok left =>
      have hdone : Done functions (List.replicate functions.length .unvisited) :=
        ⟨List.length_replicate, fun j hj => by cases hreplicate j _ hj⟩
      obtain ⟨hleft, hvisited, _⟩ :=
        visitAll_sound hall hdone (fun j hj => List.mem_range.mp hj)
      exact hleft.2 i (hvisited i hi)
  . intro haccepts
    obtain ⟨left, hall⟩ := @visitAll_complete functions
      (List.replicate functions.length .unvisited) _ haccepts
      (fun j hj => by cases hreplicate j _ hj)
    rw [hall]
    rfl

theorem verdictAt_mem {index target : Nat} (h : verdictAt functions index = .ask target)
    : target ∈ List.range functions.length := by
  obtain ⟨_, g, _, hg, _⟩ := link_of_verdictAt h
  obtain ⟨hlt, _⟩ := List.getElem?_eq_some_iff.mp hg
  exact List.mem_range.mpr hlt

theorem getElem?_idxOf {f : ChannelFunctionActivation} (hf : f ∈ functions)
    : functions[functions.idxOf f]? = some f := by
  rw [List.getElem?_eq_getElem (List.idxOf_lt_length_of_mem hf), List.getElem_idxOf]

theorem loop_iff_cycle (hids : (functions.map ChannelFunctionActivation.functionId).Nodup)
    (hresolves : ∀ f ∈ functions, Resolves functions f)
    : (∀ i ∈ List.range functions.length, ¬ Relation.TransGen (Asks (verdictAt functions)) i i)
        ↔ ∀ f ∈ functions, ¬ Relation.TransGen (MasterLink functions) f f := by
  constructor
  . intro hloop f hf hcycle
    have hasks : ∀ g h, MasterLink functions g h
        → Asks (verdictAt functions) (functions.idxOf g) (functions.idxOf h) :=
      fun g h hlink => verdictAt_of_link hids hlink (hresolves g hlink.source)
        (getElem?_idxOf hlink.source) (getElem?_idxOf hlink.master)
    have hindex := List.mem_range.mpr (List.idxOf_lt_length_of_mem hf)
    exact hloop _ hindex (hcycle.lift functions.idxOf hasks)
  . intro hcycle i hi hloop
    let at' (j : Nat) : ChannelFunctionActivation := functions[j]?.getD {}
    have hlinks : ∀ j k, Asks (verdictAt functions) j k → MasterLink functions (at' j) (at' k) := by
      intro j k hask
      obtain ⟨f, g, hf, hg, hlink⟩ := link_of_verdictAt hask
      dsimp only [at']
      rw [hf, hg]
      exact hlink
    have hlt := List.mem_range.mp hi
    have hmem : at' i ∈ functions := by
      dsimp only [at']
      rw [List.getElem?_eq_getElem hlt]
      exact List.getElem_mem hlt
    exact hcycle _ hmem (hloop.lift at' hlinks)

/--
The check of the graph passes exactly when every condition is valid and resolves and the master
links form no cycle.
-/
theorem validateModeMasterGraph_iff
    (hids : (functions.map ChannelFunctionActivation.functionId).Nodup)
    : validateModeMasterGraph functions = .ok ()
        ↔ (∀ f ∈ functions, Resolves functions f)
          ∧ ∀ f ∈ functions, ¬ Relation.TransGen (MasterLink functions) f f := by
  have hrefuse : (∀ i ∈ List.range functions.length, verdictAt functions i ≠ .refuse)
      ↔ ∀ f ∈ functions, Resolves functions f := by
    constructor
    . intro h f hf
      have hlt := List.idxOf_lt_length_of_mem hf
      exact (verdictAt_ne_refuse_iff (getElem?_idxOf hf)).mp (h _ (List.mem_range.mpr hlt))
    . intro h i hi
      have hlt := List.mem_range.mp hi
      exact (verdictAt_ne_refuse_iff (List.getElem?_eq_getElem hlt)).mpr
        (h _ (List.getElem_mem hlt))
  rw [validateModeMasterGraph_accepts, forall_accepts_iff (fun i _ j h => verdictAt_mem h), hrefuse]
  exact and_congr_right (fun hresolves => loop_iff_cycle hids hresolves)

end Validation

def sharedMaster : List ChannelFunctionActivation :=
  [{ functionId := 1 },
    { functionId := 2, modeMaster := { targetKind := .listed .channelFunction, targetId := 1 } },
    { functionId := 3, modeMaster := { targetKind := .listed .channelFunction, targetId := 1 } }]

theorem validateModeMasterGraph_iff_sharedMaster
    : validateModeMasterGraph sharedMaster = .ok ()
        ↔ (∀ f ∈ sharedMaster, Resolves sharedMaster f)
          ∧ ∀ f ∈ sharedMaster, ¬ Relation.TransGen (MasterLink sharedMaster) f f :=
  validateModeMasterGraph_iff (by decide)

end Peraviz.Gdtf
