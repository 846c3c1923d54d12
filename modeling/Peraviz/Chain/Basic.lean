import Mathlib.Data.List.Perm.Subperm
import Mathlib.Logic.Relation

/-!
This module contains walks along a partial successor function. Every element has at most one
successor, so what is reachable from an element is one path that ends, leads into a loop or runs
into what was seen before. Where every successor of a relation is followed, the depth of the
recursion is bounded over finitely many elements unless it runs into a cycle.
-/

universe u

namespace Chain

variable {α : Type u}

def Link (next : α → Option α) (a b : α) : Prop := next a = some b

/-- What lies on the chain of an element, the element itself included. -/
def Reaches (next : α → Option α) : α → α → Prop := Relation.ReflTransGen (Link next)

theorem Reaches.refl {next : α → Option α} (a : α) : Reaches next a a := Relation.ReflTransGen.refl

theorem Reaches.head {next : α → Option α} {a b c : α} (h : next a = some b)
    (hbc : Reaches next b c) : Reaches next a c :=
  Relation.ReflTransGen.head h hbc

def Closed (next : α → Option α) (p : α → Prop) : Prop :=
  ∀ a, p a → ∀ b, next a = some b → p b

theorem Closed.reaches {next : α → Option α} {p : α → Prop} (hp : Closed next p) {a b : α}
    (hab : Reaches next a b) (ha : p a) : p b := by
  induction hab with
  | refl => exact ha
  | tail _ hlink ih => exact hp _ ih _ hlink

/-- The invariant of a walk: what follows an element of the path is on it or comes next. -/
def Linked (next : α → Option α) (path : List α) (cursor : Option α) : Prop :=
  ∀ a ∈ path, ∀ b, next a = some b → b ∈ path ∨ cursor = some b

theorem Linked.push {next : α → Option α} {path : List α} {cursor : α}
    (h : Linked next path (some cursor)) : Linked next (path ++ [cursor]) (next cursor) := by
  intro a ha b hb
  rcases List.mem_append.mp ha with ha | ha
  . left
    rcases h a ha b hb with hmem | heq
    . exact List.mem_append_left _ hmem
    . simpa using Or.inr (Option.some.inj heq).symm
  . right
    rw [List.mem_singleton.mp ha] at hb
    exact hb

theorem Linked.closed {next : α → Option α} {path : List α} {cursor : Option α}
    (h : Linked next path cursor) (hstop : ∀ c, cursor = some c → c ∈ path)
    : Closed next (fun a => a ∈ path) := by
  intro a ha b hb
  rcases h a ha b hb with hmem | heq
  . exact hmem
  . exact hstop b heq

section Walk

variable [DecidableEq α]

/--
Collects the elements from `cursor` on, until the chain ends or meets the path. Nothing is answered
where the fuel does not last.
-/
def walk (next : α → Option α) : Nat → List α → Option α → Option (List α)
  | _, path, none => some path
  | 0, path, some cursor => if cursor ∈ path then some path else none
  | fuel + 1, path, some cursor =>
    if cursor ∈ path then some path else walk next fuel (path ++ [cursor]) (next cursor)

-- A walk that ends answers a closed set of what it started with and what is reachable.
theorem walk_spec {next : α → Option α} {fuel : Nat} {path result : List α} {cursor : Option α}
    (h : walk next fuel path cursor = some result) (hlinked : Linked next path cursor)
    : Closed next (fun a => a ∈ result) ∧ (∀ a ∈ path, a ∈ result)
      ∧ (∀ c, cursor = some c → c ∈ result)
      ∧ ∀ b ∈ result, b ∈ path ∨ ∃ c, cursor = some c ∧ Reaches next c b := by
  have stopped {p : List α} {c : Option α} (hl : Linked next p c)
      (hstop : ∀ x, c = some x → x ∈ p)
      : Closed next (fun a => a ∈ p) ∧ (∀ a ∈ p, a ∈ p) ∧ (∀ x, c = some x → x ∈ p)
        ∧ ∀ b ∈ p, b ∈ p ∨ ∃ x, c = some x ∧ Reaches next x b :=
    ⟨hl.closed hstop, fun a ha => ha, hstop, fun b hb => Or.inl hb⟩
  induction fuel generalizing path cursor with
  | zero =>
    cases cursor with
    | none =>
      cases h
      exact stopped hlinked (by simp)
    | some c =>
      simp only [walk] at h
      split at h
      . next hmem =>
        cases h
        exact stopped hlinked (by simpa using hmem)
      . cases h
  | succ fuel ih =>
    cases cursor with
    | none =>
      cases h
      exact stopped hlinked (by simp)
    | some c =>
      simp only [walk] at h
      split at h
      . next hmem =>
        cases h
        exact stopped hlinked (by simpa using hmem)
      . obtain ⟨hclosed, hpath, hnext, hreach⟩ := ih h hlinked.push
        refine ⟨hclosed, ?_, ?_, ?_⟩
        . intro a ha
          exact hpath a (List.mem_append_left _ ha)
        . intro x hx
          cases hx
          apply hpath
          simp
        . intro b hb
          rcases hreach b hb with hmem | ⟨x, hx, hxb⟩
          . rcases List.mem_append.mp hmem with hmem | hmem
            . exact Or.inl hmem
            . rw [List.mem_singleton.mp hmem]
              exact Or.inr ⟨c, rfl, Reaches.refl c⟩
          . exact Or.inr ⟨c, rfl, Reaches.head hx hxb⟩

theorem mem_walk {next : α → Option α} {fuel : Nat} {result : List α} {a b : α}
    (h : walk next fuel [] (some a) = some result) : b ∈ result ↔ Reaches next a b := by
  obtain ⟨hclosed, _, hcursor, hreach⟩ := walk_spec h (by simp [Linked])
  constructor
  . intro hb
    rcases hreach b hb with hmem | ⟨c, hc, hcb⟩
    . cases hmem
    . cases hc
      exact hcb
  . intro hab
    exact hclosed.reaches hab (hcursor a rfl)

-- The path of a walk is free of repetitions, so it is no longer than the elements are many.
theorem exists_walk {next : α → Option α} {nodes : List α}
    (hnext : ∀ a ∈ nodes, ∀ b, next a = some b → b ∈ nodes) {fuel : Nat} {path : List α}
    {cursor : Option α} (hnodup : path.Nodup) (hpath : path ⊆ nodes)
    (hcursor : ∀ c, cursor = some c → c ∈ nodes) (hfuel : nodes.length ≤ path.length + fuel)
    : ∃ result, walk next fuel path cursor = some result := by
  induction fuel generalizing path cursor with
  | zero =>
    cases cursor with
    | none => exact ⟨path, rfl⟩
    | some c =>
      simp only [walk]
      split
      . exact ⟨path, rfl⟩
      . next hmem =>
        exfalso
        have hsub : c :: path ⊆ nodes := List.cons_subset.mpr ⟨hcursor c rfl, hpath⟩
        have := (List.subperm_of_subset (List.nodup_cons.mpr ⟨hmem, hnodup⟩) hsub).length_le
        simp only [List.length_cons] at this
        omega
  | succ fuel ih =>
    cases cursor with
    | none => exact ⟨path, rfl⟩
    | some c =>
      simp only [walk]
      split
      . exact ⟨path, rfl⟩
      . next hmem =>
        have hc := hcursor c rfl
        apply ih
        . rw [List.nodup_append]
          refine ⟨hnodup, by simp, ?_⟩
          intro a ha b hb hab
          rw [List.mem_singleton.mp hb] at hab
          exact hmem (hab ▸ ha)
        . simpa using ⟨hpath, hc⟩
        . intro b hb
          exact hnext c hc b hb
        . simp only [List.length_append, List.length_singleton]
          omega

end Walk

end Chain

/-! ### Descents -/

namespace Chain

variable {α : Type u} {r : α → α → Prop} {a b : α}

/-- A recursion over all successors ends at a depth below `fuel`. -/
def Descends (r : α → α → Prop) : Nat → α → Prop
  | 0, _ => False
  | fuel + 1, a => ∀ b, r a b → Descends r fuel b

theorem Descends.step {fuel : Nat} (h : Descends r fuel a) (hab : r a b)
    : ∃ less, less < fuel ∧ Descends r less b := by
  cases fuel with
  | zero => exact h.elim
  | succ less => exact ⟨less, Nat.lt_succ_self less, h b hab⟩

theorem Descends.of_transGen {fuel : Nat} (h : Descends r fuel a) (hab : Relation.TransGen r a b)
    : ∃ less, less < fuel ∧ Descends r less b := by
  induction hab with
  | single hab => exact h.step hab
  | tail _ hbc ih =>
    obtain ⟨less, hless, h⟩ := ih
    obtain ⟨least, hleast, h⟩ := h.step hbc
    exact ⟨least, by omega, h⟩

theorem Descends.of_reflTransGen {fuel : Nat} (h : Descends r fuel a)
    (hab : Relation.ReflTransGen r a b) : ∃ less, less ≤ fuel ∧ Descends r less b := by
  cases Relation.reflTransGen_iff_eq_or_transGen.mp hab with
  | inl heq =>
    rw [heq]
    exact ⟨fuel, Nat.le_refl fuel, h⟩
  | inr hab =>
    obtain ⟨less, hless, h⟩ := h.of_transGen hab
    exact ⟨less, Nat.le_of_lt hless, h⟩

-- An element of a cycle would be below itself.
theorem Descends.not_transGen {fuel : Nat} (h : Descends r fuel a) : ¬ Relation.TransGen r a a := by
  intro hcycle
  induction fuel using Nat.strongRecOn with
  | ind fuel ih =>
    obtain ⟨less, hless, h⟩ := h.of_transGen hcycle
    exact ih less hless h

/-- What can be reached has no cycle on it. -/
def Acyclic (r : α → α → Prop) (a : α) : Prop :=
  ∀ b, Relation.ReflTransGen r a b → ¬ Relation.TransGen r b b

theorem Acyclic.step (h : Acyclic r a) (hab : r a b) : Acyclic r b :=
  fun c hbc => h c (hbc.head hab)

theorem Descends.acyclic {fuel : Nat} (h : Descends r fuel a) : Acyclic r a := by
  intro b hab
  obtain ⟨_, _, h⟩ := h.of_reflTransGen hab
  exact h.not_transGen

-- The path down to `a` has no element twice, so it is not longer than the list of all elements.
theorem Acyclic.descends_below {all path : List α} {fuel : Nat} (h : Acyclic r a)
    (hall : ∀ b, Relation.ReflTransGen r a b → b ∈ all) (hnodup : path.Nodup) (hsub : path ⊆ all)
    (hpath : ∀ b ∈ path, Relation.TransGen r b a) (hfuel : all.length < path.length + fuel)
    : Descends r fuel a := by
  induction fuel generalizing a path with
  | zero =>
    have hle := (hnodup.subperm hsub).length_le
    omega
  | succ fuel ih =>
    intro b hab
    have hfresh : a ∉ path := fun hmem => h a .refl (hpath a hmem)
    apply @ih b (a :: path) (h.step hab)
    . exact fun c hbc => hall c (hbc.head hab)
    . exact List.nodup_cons.mpr ⟨hfresh, hnodup⟩
    . exact List.cons_subset.mpr ⟨hall a .refl, hsub⟩
    . intro c hc
      cases List.mem_cons.mp hc with
      | inl heq =>
        rw [heq]
        exact .single hab
      | inr hc => exact (hpath c hc).tail hab
    . rw [List.length_cons]
      omega

theorem Acyclic.descends {all : List α} (h : Acyclic r a)
    (hall : ∀ b, Relation.ReflTransGen r a b → b ∈ all) : Descends r (all.length + 1) a :=
  h.descends_below hall List.nodup_nil (List.nil_subset all) (by simp) (by simp)

theorem exists_descends_iff {all : List α} (hall : ∀ b, Relation.ReflTransGen r a b → b ∈ all)
    : (∃ fuel, Descends r fuel a) ↔ Acyclic r a := by
  constructor
  . intro h
    obtain ⟨_, h⟩ := h
    exact h.acyclic
  . intro h
    exact ⟨all.length + 1, h.descends hall⟩

end Chain
