import Mathlib.Data.List.Induction
import Mathlib.Data.List.Perm.Basic
import Mathlib.Logic.Function.Basic

/-!
This module contains steps that share a state of which each reads and writes a part of its own. Run
one after the other they do what each would have done alone, so their order does not matter. Where
only some elements take their step, the others stand as they did.
-/

universe u v w x y

namespace Footprint

variable {σ : Type u} {α : Type v} {κ : Type w} {ω : Type x} {ρ : Type y}

/-- The fold of a step over a list that also rewrites the elements. -/
def visitAll (step : σ → α → σ × α) : σ → List α → σ × List α
  | s, [] => (s, [])
  | s, a :: rest =>
    let (s, a) := step s a
    let (s, rest) := visitAll step s rest
    (s, a :: rest)

/-- Two maps that agree on what is owned, the first is elsewhere what it was before. -/
structure Local (owned : κ → Prop) (before f g : κ → ω) : Prop where
  agree : ∀ k, owned k → f k = g k
  frame : ∀ k, ¬ owned k → f k = before k

namespace Local

variable {owned : κ → Prop} {before f g : κ → ω}

theorem start (h : ∀ k, owned k → f k = g k) : Local owned f f g := ⟨h, fun _ _ => rfl⟩

theorem update [DecidableEq κ] (h : Local owned before f g) {k : κ} (hk : owned k) {a b : ω}
    (hab : a = b) : Local owned before (Function.update f k a) (Function.update g k b) := by
  subst hab
  constructor
  . intro k' hk'
    rw [Function.update_apply, Function.update_apply, h.agree k' hk']
  . intro k' hk'
    rw [Function.update_apply, if_neg]
    . exact h.frame k' hk'
    . intro heq
      subst heq
      exact hk' hk

end Local

/-- The parts of a state: the values of its keys, each element has its own, and an output. -/
structure Parts (σ : Type u) (α : Type v) (κ : Type w) (ω : Type x) (ρ : Type y) where
  view : σ → κ → ω
  out : σ → List ρ
  owns : α → κ → Prop

/-- The step of an element reads and writes its keys only, it puts out the same wherever it runs. -/
structure Confined (P : Parts σ α κ ω ρ) (I : σ → Prop) (step : σ → α → σ × α) (a : α) : Prop where
  inv : ∀ s, I s → I (step s a).1
  confined : ∀ s t, I s → I t → (∀ k, P.owns a k → P.view s k = P.view t k) →
    (step s a).2 = (step t a).2
      ∧ Local (P.owns a) (P.view s) (P.view (step s a).1) (P.view (step t a).1)
      ∧ ∃ delta, P.out (step s a).1 = P.out s ++ delta ∧ P.out (step t a).1 = P.out t ++ delta

def Disjoint (P : Parts σ α κ ω ρ) (l : List α) : Prop :=
  l.Pairwise (fun a b => ∀ k, P.owns a k → ¬ P.owns b k)

/-- What the step of an element adds to the output of a state. -/
def delta (P : Parts σ α κ ω ρ) (step : σ → α → σ × α) (s : σ) (a : α) : List ρ :=
  (P.out (step s a).1).drop (P.out s).length

variable {P : Parts σ α κ ω ρ} {I : σ → Prop} {step : σ → α → σ × α} {l l' : List α}

theorem Disjoint.perm (h : Disjoint P l) (hperm : l.Perm l') : Disjoint P l' := by
  apply hperm.pairwise h
  intro a b hab k hb ha
  exact hab k ha hb

theorem Confined.frame {a : α} (h : Confined P I step a) {s : σ} (hs : I s) {k : κ}
    (hk : ¬ P.owns a k) : P.view (step s a).1 k = P.view s k :=
  (h.confined s s hs hs (fun _ _ => rfl)).2.1.frame k hk

theorem Confined.out_eq {a : α} (h : Confined P I step a) {s t : σ} (hs : I s) (ht : I t)
    (hview : ∀ k, P.owns a k → P.view s k = P.view t k)
    : P.out (step s a).1 = P.out s ++ delta P step t a := by
  obtain ⟨_, _, delta, hout, hout'⟩ := h.confined s t hs ht hview
  rw [hout, Footprint.delta, hout', List.drop_left]

/-- What the steps of a list do from `s`, told by what each of them does from `t`. -/
structure Alone (P : Parts σ α κ ω ρ) (I : σ → Prop) (step : σ → α → σ × α) (t s : σ)
    (l : List α) : Prop where
  inv : I (visitAll step s l).1
  elements : (visitAll step s l).2 = l.map (fun a => (step t a).2)
  owned : ∀ a ∈ l, ∀ k, P.owns a k → P.view (visitAll step s l).1 k = P.view (step t a).1 k
  frame : ∀ k, (∀ a ∈ l, ¬ P.owns a k) → P.view (visitAll step s l).1 k = P.view s k
  out : P.out (visitAll step s l).1 = P.out s ++ l.flatMap (delta P step t)

theorem visitAll_alone (hconfined : ∀ a ∈ l, Confined P I step a) (hdisjoint : Disjoint P l)
    {s t : σ} (hs : I s) (ht : I t)
    (hview : ∀ a ∈ l, ∀ k, P.owns a k → P.view s k = P.view t k) : Alone P I step t s l := by
  induction l generalizing s with
  | nil => exact ⟨hs, rfl, by simp, fun _ _ => rfl, (List.append_nil _).symm⟩
  | cons a l ih =>
    have ha := hconfined a List.mem_cons_self
    obtain ⟨hother, hrest⟩ := List.pairwise_cons.mp hdisjoint
    obtain ⟨helement, howned, _⟩ := ha.confined s t hs ht (hview a List.mem_cons_self)
    have hout := ha.out_eq hs ht (hview a List.mem_cons_self)
    -- the keys of the others are still those of `s`
    have hkept : ∀ b ∈ l, ∀ k, P.owns b k → P.view (step s a).1 k = P.view t k := by
      intro b hb k hk
      rw [ha.frame hs (fun hak => hother b hb k hak hk)]
      exact hview b (List.mem_cons_of_mem a hb) k hk
    have hl := ih (fun b hb => hconfined b (List.mem_cons_of_mem a hb)) hrest (ha.inv s hs) hkept
    constructor
    . exact hl.inv
    . rw [List.map_cons, ← helement]
      exact congrArg (List.cons _) hl.elements
    . intro b hb k hk
      rcases List.mem_cons.mp hb with rfl | hb
      . exact (hl.frame k (fun c hc => hother c hc k hk)).trans (howned.agree k hk)
      . exact hl.owned b hb k hk
    . intro k hk
      have htail := hl.frame k (fun b hb => hk b (List.mem_cons_of_mem a hb))
      exact htail.trans (ha.frame hs (hk a List.mem_cons_self))
    . rw [List.flatMap_cons, ← List.append_assoc, ← hout]
      exact hl.out

-- Steps with disjoint keys do the same in any order, from states with the same values.
theorem visitAll_perm (hconfined : ∀ a ∈ l, Confined P I step a) (hdisjoint : Disjoint P l)
    (hperm : l.Perm l') {s t : σ} (hs : I s) (ht : I t) (hview : ∀ k, P.view s k = P.view t k)
    : (∀ k, P.view (visitAll step s l).1 k = P.view (visitAll step t l').1 k)
        ∧ (visitAll step s l).2.Perm (visitAll step t l').2
        ∧ ∃ added added', P.out (visitAll step s l).1 = P.out s ++ added
          ∧ P.out (visitAll step t l').1 = P.out t ++ added' ∧ added.Perm added' := by
  have hleft := visitAll_alone hconfined hdisjoint hs hs (fun _ _ _ _ => rfl)
  have hright := visitAll_alone (fun a ha => hconfined a (hperm.mem_iff.mpr ha))
    (hdisjoint.perm hperm) ht hs (fun _ _ k _ => (hview k).symm)
  refine ⟨?_, ?_, _, _, hleft.out, hright.out, hperm.flatMap_right _⟩
  . intro k
    by_cases hk : ∃ a ∈ l, P.owns a k
    . obtain ⟨a, ha, hak⟩ := hk
      rw [hleft.owned a ha k hak, hright.owned a (hperm.mem_iff.mp ha) k hak]
    . push Not at hk
      rw [hleft.frame k hk, hright.frame k (fun a ha => hk a (hperm.mem_iff.mpr ha)), hview k]
  . rw [hleft.elements, hright.elements]
    exact hperm.map _

/-! ### The steps of some elements -/

/-- The step of the element at a position. -/
def visitAt (step : σ → α → σ × α) (held : σ × List α) (i : Nat) : σ × List α :=
  match held.2[i]? with
  | none => held
  | some a => ((step held.1 a).1, held.2.set i (step held.1 a).2)

section Tenants

variable {owns : α → κ → Prop} {view : σ → κ → ω} {step : σ → α → σ × α}

/-- A step that leaves the keys of the others alone and takes no further ones. -/
structure Tenant (owns : α → κ → Prop) (view : σ → κ → ω) (step : σ → α → σ × α) : Prop where
  keys : ∀ s a k, owns (step s a).2 k → owns a k
  frame : ∀ s a k, ¬ owns a k → view (step s a).1 k = view s k

theorem Tenant.andThen {step' : σ → α → σ × α} (h : Tenant owns view step)
    (h' : Tenant owns view step')
    : Tenant owns view (fun s a => step' (step s a).1 (step s a).2) where
  keys s a k hk := h.keys s a k (h'.keys _ _ k hk)
  frame s a k hk := by
    rw [h'.frame _ _ k (fun hk' => hk (h.keys s a k hk'))]
    exact h.frame s a k hk

theorem tenant_pure {g : α → α} (hg : ∀ a k, owns (g a) k → owns a k)
    : Tenant owns view (fun s a => (s, g a)) where
  keys _ := hg
  frame _ _ _ _ := rfl

/-- A fact about an element for which only the values of its own keys matter. -/
def Domestic (owns : α → κ → Prop) (view : σ → κ → ω) (P : σ → α → Prop) : Prop :=
  ∀ s t a, (∀ k, owns a k → view s k = view t k) → P s a → P t a

def Separate (owns : α → κ → Prop) (l : List α) : Prop :=
  ∀ (i j : Nat) (a b : α), l[i]? = some a → l[j]? = some b → i ≠ j → ∀ k, owns a k → ¬ owns b k

theorem getElem?_visitAt (held : σ × List α) (i j : Nat)
    : (visitAt step held i).2[j]?
        = if i = j then held.2[j]?.map (fun a => (step held.1 a).2) else held.2[j]? := by
  unfold visitAt
  split
  next hnone =>
    split
    next heq => rw [← heq, hnone, Option.map_none]
    next => rfl
  next a ha =>
    rw [List.getElem?_set]
    split
    next heq =>
      obtain ⟨hlt, _⟩ := List.getElem?_eq_some_iff.mp ha
      rw [if_pos hlt, ← heq, ha, Option.map_some]
    next => rfl

theorem length_foldl_visitAt (step : σ → α → σ × α) (held : σ × List α) (visited : List Nat)
    : (visited.foldl (visitAt step) held).2.length = held.2.length := by
  induction visited generalizing held with
  | nil => rfl
  | cons i visited ih =>
    rw [List.foldl_cons, ih]
    unfold visitAt
    split
    . rfl
    . rw [List.length_set]

theorem Separate.visitAt (htenant : Tenant owns view step) {held : σ × List α}
    (hsep : Separate owns held.2) (i : Nat) : Separate owns (visitAt step held i).2 := by
  -- an element after the step has no key that its element did not have before
  have hkeys : ∀ (j : Nat) (b : α), (Footprint.visitAt step held i).2[j]? = some b
      → ∃ a, held.2[j]? = some a ∧ ∀ k, owns b k → owns a k := by
    intro j b hb
    rw [getElem?_visitAt] at hb
    split at hb
    . cases ha : held.2[j]? with
      | none => simp [ha] at hb
      | some a =>
        rw [ha, Option.map_some, Option.some.injEq] at hb
        refine ⟨a, rfl, ?_⟩
        rw [← hb]
        exact htenant.keys held.1 a
    . exact ⟨b, hb, fun _ h => h⟩
  intro j j' b b' hb hb' hne k hk hk'
  obtain ⟨a, ha, hak⟩ := hkeys j b hb
  obtain ⟨a', ha', hak'⟩ := hkeys j' b' hb'
  exact hsep j j' a a' ha ha' hne k (hak k hk) (hak' k hk')

theorem view_visitAt (htenant : Tenant owns view step) {held : σ × List α} {k : κ}
    (hk : ∀ a ∈ held.2, ¬ owns a k) (i : Nat) : view (visitAt step held i).1 k = view held.1 k := by
  unfold visitAt
  split
  . rfl
  next a ha => exact htenant.frame held.1 a k (hk a (List.mem_of_getElem? ha))

/-- What stands after some elements took their step: `Q` of these and `P` of the others. -/
theorem foldl_visitAt {P Q : Nat → σ → α → Prop} (htenant : Tenant owns view step)
    (hP : ∀ i, Domestic owns view (P i)) (hQ : ∀ i, Domestic owns view (Q i))
    (hfirst : ∀ i s a, P i s a → Q i (step s a).1 (step s a).2)
    (hagain : ∀ i s a, Q i s a → Q i (step s a).1 (step s a).2) {s : σ} {l : List α}
    (hsep : Separate owns l) (hl : ∀ (i : Nat) a, l[i]? = some a → P i s a)
    (visited : List Nat)
    : Separate owns (visited.foldl (visitAt step) (s, l)).2
        ∧ ∀ (i : Nat) a, (visited.foldl (visitAt step) (s, l)).2[i]? = some a
          → (i ∈ visited → Q i (visited.foldl (visitAt step) (s, l)).1 a)
            ∧ (i ∉ visited → P i (visited.foldl (visitAt step) (s, l)).1 a) := by
  induction visited using List.reverseRecOn with
  | nil => exact ⟨hsep, fun i a ha => ⟨fun h => absurd h List.not_mem_nil, fun _ => hl i a ha⟩⟩
  | append_singleton visited j ih =>
    rw [List.foldl_concat]
    generalize visited.foldl (visitAt step) (s, l) = held at ih
    obtain ⟨hsep', hheld⟩ := ih
    refine ⟨hsep'.visitAt htenant j, ?_⟩
    intro i b hb
    rw [getElem?_visitAt] at hb
    split at hb
    next heq =>
      cases heq
      cases ha : held.2[j]? with
      | none => simp [ha] at hb
      | some a =>
        rw [ha, Option.map_some, Option.some.injEq] at hb
        have hstate : (visitAt step held j).1 = (step held.1 a).1 := by simp [visitAt, ha]
        have hvisited : Q j (visitAt step held j).1 b := by
          rw [hstate, ← hb]
          by_cases hmem : j ∈ visited
          . exact hagain j held.1 a ((hheld j a ha).1 hmem)
          . exact hfirst j held.1 a ((hheld j a ha).2 hmem)
        exact ⟨fun _ => hvisited, fun hnot => absurd (by simp) hnot⟩
    next hne =>
      -- the keys of the others are as they were
      have hsame : ∀ k, owns b k → view held.1 k = view (visitAt step held j).1 k := by
        intro k hk
        unfold visitAt
        split
        . rfl
        next a ha =>
          apply Eq.symm
          apply htenant.frame
          intro hak
          exact hsep' j i a b ha hb hne k hak hk
      have hnotj : i ≠ j := fun h => hne h.symm
      constructor
      . intro hmem
        have hin : i ∈ visited := by simpa [hnotj] using hmem
        exact hQ i _ _ b hsame ((hheld i b hb).1 hin)
      . intro hnot
        have hout : i ∉ visited := by simpa [hnotj] using hnot
        exact hP i _ _ b hsame ((hheld i b hb).2 hout)

theorem view_foldl_visitAt (htenant : Tenant owns view step) {s : σ} {l : List α} {k : κ}
    (hk : ∀ a ∈ l, ¬ owns a k) (visited : List Nat)
    : view (visited.foldl (visitAt step) (s, l)).1 k = view s k := by
  have hheld : view (visited.foldl (visitAt step) (s, l)).1 k = view s k
      ∧ ∀ a ∈ (visited.foldl (visitAt step) (s, l)).2, ¬ owns a k := by
    induction visited using List.reverseRecOn with
    | nil => exact ⟨rfl, hk⟩
    | append_singleton visited j ih =>
      rw [List.foldl_concat]
      generalize visited.foldl (visitAt step) (s, l) = held at ih
      refine ⟨(view_visitAt htenant ih.2 j).trans ih.1, ?_⟩
      intro b hb hbk
      obtain ⟨i, hi⟩ := List.getElem?_of_mem hb
      rw [getElem?_visitAt] at hi
      split at hi
      . cases ha : held.2[i]? with
        | none => simp [ha] at hi
        | some a =>
          rw [ha, Option.map_some, Option.some.injEq] at hi
          apply ih.2 a (List.mem_of_getElem? ha)
          apply htenant.keys held.1 a
          rw [hi]
          exact hbk
      . exact ih.2 b (List.mem_of_getElem? hi) hbk
  exact hheld.1

end Tenants

end Footprint
