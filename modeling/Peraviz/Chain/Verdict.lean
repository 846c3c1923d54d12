import Mathlib.Data.Finite.Prod
import Mathlib.Data.List.Perm.Subperm
import Mathlib.Data.Set.Finite.List
import Mathlib.Logic.Relation
import Mathlib.Order.WellFounded

/-!
This module contains decisions that one element may hand on to another: an element refuses, accepts
or asks one other element. What is accepted is a least fixed point; a walk with a bound of as many
steps as there are elements decides it, and a depth-first walk that marks what it has seen does too.
-/

universe u v

namespace Chain

variable {α : Type u} {β : Type v}

inductive Verdict (α : Type u) where
  | refuse
  | accept
  | ask (other : α)

namespace Verdict

def map (f : α → β) : Verdict α → Verdict β
  | refuse => refuse
  | accept => accept
  | ask other => ask (f other)

end Verdict

def Asks (step : α → Verdict α) (a b : α) : Prop := step a = .ask b

/-- What is accepted at the end of the questions. -/
inductive Accepts (step : α → Verdict α) : α → Prop where
  | accept {a : α} (h : step a = .accept) : Accepts step a
  | ask {a b : α} (h : step a = .ask b) (hb : Accepts step b) : Accepts step a

def acceptsWithin (step : α → Verdict α) : Nat → α → Bool
  | 0, _ => false
  | bound + 1, a =>
    match step a with
    | .refuse => false
    | .accept => true
    | .ask b => acceptsWithin step bound b

section Bounded

variable {step : α → Verdict α} {a b : α} {bound : Nat}

theorem acceptsWithin_ask (h : step a = .ask b)
    : acceptsWithin step (bound + 1) a = acceptsWithin step bound b := by
  rw [acceptsWithin, h]

theorem acceptsWithin_accept (h : step a = .accept) : acceptsWithin step (bound + 1) a = true := by
  rw [acceptsWithin, h]

theorem accepts_of_acceptsWithin (h : acceptsWithin step bound a = true) : Accepts step a := by
  induction bound generalizing a with
  | zero => cases h
  | succ bound ih =>
    cases hstep : step a with
    | refuse =>
      rw [acceptsWithin, hstep] at h
      cases h
    | accept => exact Accepts.accept hstep
    | ask b =>
      rw [acceptsWithin_ask hstep] at h
      exact Accepts.ask hstep (ih h)

theorem exists_acceptsWithin (h : Accepts step a) : ∃ bound, acceptsWithin step bound a = true := by
  induction h with
  | accept hstep => exact ⟨1, acceptsWithin_accept hstep⟩
  | ask hstep _ ih =>
    obtain ⟨bound, hbound⟩ := ih
    exact ⟨bound + 1, by rw [acceptsWithin_ask hstep]; exact hbound⟩

theorem acceptsWithin_succ (h : acceptsWithin step bound a = true)
    : acceptsWithin step (bound + 1) a = true := by
  induction bound generalizing a with
  | zero => cases h
  | succ bound ih =>
    cases hstep : step a with
    | refuse =>
      rw [acceptsWithin, hstep] at h
      cases h
    | accept => exact acceptsWithin_accept hstep
    | ask b =>
      rw [acceptsWithin_ask hstep] at h ⊢
      exact ih h

theorem acceptsWithin_mono {larger : Nat} (hle : bound ≤ larger)
    (h : acceptsWithin step bound a = true) : acceptsWithin step larger a = true := by
  induction hle with
  | refl => exact h
  | step _ ih => exact acceptsWithin_succ ih

-- The elements that are asked from one that needs exactly this bound on need smaller bounds, so
-- that they differ.
theorem exists_path {nodes : List α} (hask : ∀ a ∈ nodes, ∀ b, step a = .ask b → b ∈ nodes)
    (ha : a ∈ nodes) (h : acceptsWithin step (bound + 1) a = true)
    (hexact : acceptsWithin step bound a = false)
    : ∃ path : List α, path.length = bound + 1 ∧ path ⊆ nodes ∧ path.Nodup
        ∧ ∀ b ∈ path, acceptsWithin step (bound + 1) b = true := by
  induction bound generalizing a with
  | zero =>
    refine ⟨[a], rfl, ?_, List.nodup_singleton a, ?_⟩
    . intro b hb
      rw [List.mem_singleton.mp hb]
      exact ha
    . intro b hb
      rw [List.mem_singleton.mp hb]
      exact h
  | succ bound ih =>
    cases hstep : step a with
    | refuse =>
      rw [acceptsWithin, hstep] at h
      cases h
    | accept =>
      rw [acceptsWithin_accept hstep] at hexact
      cases hexact
    | ask next =>
      have hnext := h
      rw [acceptsWithin_ask hstep] at hnext hexact
      obtain ⟨path, hlength, hnodes, hnodup, hpath⟩ := ih (hask a ha next hstep) hnext hexact
      have hfresh : a ∉ path := by
        intro hmem
        have hsmaller := hpath a hmem
        rw [acceptsWithin_ask hstep, hexact] at hsmaller
        cases hsmaller
      refine ⟨a :: path, ?_, List.cons_subset.mpr ⟨ha, hnodes⟩,
        List.nodup_cons.mpr ⟨hfresh, hnodup⟩, ?_⟩
      . rw [List.length_cons, hlength]
      . intro b hb
        cases List.mem_cons.mp hb with
        | inl heq =>
          rw [heq]
          exact h
        | inr hmem => exact acceptsWithin_succ (hpath b hmem)

theorem acceptsWithin_iff {nodes : List α} (hask : ∀ a ∈ nodes, ∀ b, step a = .ask b → b ∈ nodes)
    (ha : a ∈ nodes) (hbound : nodes.length ≤ bound)
    : acceptsWithin step bound a = true ↔ Accepts step a := by
  constructor
  . exact accepts_of_acceptsWithin
  . intro haccepts
    classical
    have hexists := exists_acceptsWithin haccepts
    have hleast := Nat.find_spec hexists
    have hmin := fun n => @Nat.find_min _ _ hexists n
    cases hfind : Nat.find hexists with
    | zero =>
      rw [hfind] at hleast
      cases hleast
    | succ least =>
      rw [hfind] at hleast hmin
      have hexact : acceptsWithin step least a = false :=
        Bool.eq_false_iff.mpr (hmin least (Nat.lt_succ_self least))
      obtain ⟨path, hlength, hnodes, hnodup, _⟩ := exists_path hask ha hleast hexact
      have hle := (List.subperm_of_subset hnodup hnodes).length_le
      apply acceptsWithin_mono _ hleast
      omega

end Bounded

section Loops

variable {step : α → Verdict α} {a b : α}

theorem Accepts.reaches (h : Accepts step a) (hreach : Relation.ReflTransGen (Asks step) a b)
    : Accepts step b := by
  induction hreach with
  | refl => exact h
  | tail _ hlink ih =>
    cases ih with
    | accept hstep =>
      rw [Asks, hstep] at hlink
      cases hlink
    | ask hstep hb =>
      rw [Asks, hstep] at hlink
      cases hlink
      exact hb

theorem Accepts.not_loop (h : Accepts step a) : ¬ Relation.TransGen (Asks step) a a := by
  induction h with
  | accept hstep =>
    intro hloop
    obtain ⟨b, hlink, _⟩ := Relation.TransGen.head'_iff.mp hloop
    rw [Asks, hstep] at hlink
    cases hlink
  | @ask a b hstep _ ih =>
    intro hloop
    obtain ⟨next, hlink, hback⟩ := Relation.TransGen.head'_iff.mp hloop
    rw [Asks, hstep] at hlink
    cases hlink
    exact ih (Relation.TransGen.tail' hback hstep)

-- Of finitely many elements all are accepted unless one refuses or asks in a loop.
theorem forall_accepts_iff {nodes : List α}
    (hask : ∀ a ∈ nodes, ∀ b, step a = .ask b → b ∈ nodes)
    : (∀ a ∈ nodes, Accepts step a)
        ↔ (∀ a ∈ nodes, step a ≠ .refuse)
          ∧ ∀ a ∈ nodes, ¬ Relation.TransGen (Asks step) a a := by
  constructor
  . intro haccepts
    constructor
    . intro a ha hrefuse
      cases haccepts a ha with
      | accept hstep =>
        rw [hrefuse] at hstep
        cases hstep
      | ask hstep _ =>
        rw [hrefuse] at hstep
        cases hstep
    . intro a ha
      exact (haccepts a ha).not_loop
  . rintro ⟨hrefuse, hloop⟩
    let below (x y : {a // a ∈ nodes}) : Prop := Relation.TransGen (Asks step) y.1 x.1
    have : Finite {a // a ∈ nodes} := List.finite_toSet nodes
    have : IsTrans {a // a ∈ nodes} below := ⟨fun _ _ _ hxy hyz => hyz.trans hxy⟩
    have : Std.Irrefl below := ⟨fun x => hloop x.1 x.2⟩
    have hwell : WellFounded below := Finite.wellFounded_of_trans_of_irrefl below
    have hall : ∀ x : {a // a ∈ nodes}, Accepts step x.1 := by
      intro x
      induction x using hwell.induction with
      | _ x ih =>
        cases hstep : step x.1 with
        | refuse => exact absurd hstep (hrefuse x.1 x.2)
        | accept => exact Accepts.accept hstep
        | ask b =>
          have hb := hask x.1 x.2 b hstep
          exact Accepts.ask hstep (ih ⟨b, hb⟩ (Relation.TransGen.single hstep))
    intro a ha
    exact hall ⟨a, ha⟩

end Loops

/-- One round of an evaluator over other elements, which has the verdicts of the walk. -/
def Follows (step : β → Verdict β) (f : α → β) (nodes : List α) (eval : Nat → α → Bool)
    (bound : Nat) (a : α) : Prop :=
  match step (f a) with
  | .refuse => eval (bound + 1) a = false
  | .accept => eval (bound + 1) a = true
  | .ask b => ∃ a' ∈ nodes, f a' = b ∧ eval (bound + 1) a = eval bound a'

theorem eval_eq_acceptsWithin {step : β → Verdict β} {f : α → β} {nodes : List α}
    {eval : Nat → α → Bool} (hzero : ∀ a, eval 0 a = false)
    (hfollows : ∀ bound, ∀ a ∈ nodes, Follows step f nodes eval bound a) (bound : Nat) {a : α}
    (ha : a ∈ nodes) : eval bound a = acceptsWithin step bound (f a) := by
  induction bound generalizing a with
  | zero => exact hzero a
  | succ bound ih =>
    have hround := hfollows bound a ha
    unfold Follows at hround
    rw [acceptsWithin]
    cases hstep : step (f a) with
    | refuse =>
      rw [hstep] at hround
      exact hround
    | accept =>
      rw [hstep] at hround
      exact hround
    | ask b =>
      rw [hstep] at hround
      obtain ⟨next, hnext, hb, heq⟩ := hround
      rw [heq, ih hnext, hb]

end Chain
