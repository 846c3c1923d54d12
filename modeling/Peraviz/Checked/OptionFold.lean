import Mathlib.Data.List.Forall2

/-!
This module contains folds and maps that can stop: what holds of their results, when they come to
a result and how they commute with a map of their states.
-/

namespace OptionFold

variable {α β γ : Type}

theorem invariant {I : β → Prop} {step : β → α → Option β} {l : List α} {b r : β} (hb : I b)
    (hstep : ∀ b c, I b → ∀ a ∈ l, step b a = some c → I c) (h : l.foldlM step b = some r)
    : I r := by
  induction l generalizing b with
  | nil =>
    cases h
    exact hb
  | cons a l ih =>
    rw [List.foldlM_cons] at h
    obtain ⟨c, hc, h⟩ := Option.bind_eq_some_iff.mp h
    apply ih (hstep b c hb a (List.mem_cons_self ..) hc) _ h
    intro b c hb a ha
    exact hstep b c hb a (List.mem_cons_of_mem _ ha)

theorem isSome_iff {step : β → α → Option β} {p : α → Prop} (h : ∀ b a, (step b a).isSome ↔ p a)
    {l : List α} {b : β} : (l.foldlM step b).isSome ↔ ∀ a ∈ l, p a := by
  induction l generalizing b with
  | nil => simp
  | cons a l ih =>
    rw [List.foldlM_cons, List.forall_mem_cons, ← h b a]
    cases step b a with
    | none => simp
    | some next => simpa using ih

theorem foldlM_map {step : β → α → Option β} {step' : γ → α → Option γ} {φ : γ → β}
    (h : ∀ c a, step (φ c) a = (step' c a).map φ) {l : List α} {c : γ}
    : l.foldlM step (φ c) = (l.foldlM step' c).map φ := by
  induction l generalizing c with
  | nil => rfl
  | cons a l ih =>
    rw [List.foldlM_cons, List.foldlM_cons, h]
    cases step' c a with
    | none => rfl
    | some next => exact ih

/-- What the steps append to a part of the state is appended by the fold. -/
theorem emitted {step : β → α → Option β} {emit : β → List γ} {out : α → List γ}
    (h : ∀ b a c, step b a = some c → emit c = emit b ++ out a) {l : List α} {b r : β}
    (hr : l.foldlM step b = some r)
    : emit r = emit b ++ l.flatMap out := by
  induction l generalizing b with
  | nil =>
    cases hr
    rw [List.flatMap_nil, List.append_nil]
  | cons a l ih =>
    rw [List.foldlM_cons] at hr
    obtain ⟨c, hc, hr⟩ := Option.bind_eq_some_iff.mp hr
    rw [ih hr, h b a c hc, List.flatMap_cons, List.append_assoc]

theorem mapM_isSome_iff {f : α → Option β} {l : List α}
    : (l.mapM f).isSome ↔ ∀ a ∈ l, (f a).isSome := by
  induction l with
  | nil => simp
  | cons a l ih =>
    rw [List.mapM_cons, List.forall_mem_cons, ← ih]
    cases f a with
    | none => simp
    | some b => cases l.mapM f <;> simp

theorem forall₂_of_mapM {f : α → Option β} {l : List α} {r : List β} (h : l.mapM f = some r)
    : List.Forall₂ (fun a b => f a = some b) l r := by
  induction l generalizing r with
  | nil =>
    cases h
    exact List.Forall₂.nil
  | cons a l ih =>
    rw [List.mapM_cons] at h
    obtain ⟨b, hb, h⟩ := Option.bind_eq_some_iff.mp h
    obtain ⟨rest, hrest, h⟩ := Option.bind_eq_some_iff.mp h
    cases h
    exact List.Forall₂.cons hb (ih hrest)

theorem getElem?_mapM {f : α → Option β} {l : List α} {r : List β} (h : l.mapM f = some r)
    (index : Nat) : r[index]? = l[index]?.bind f := by
  induction l generalizing r index with
  | nil =>
    cases h
    simp
  | cons a l ih =>
    rw [List.mapM_cons] at h
    obtain ⟨b, hb, h⟩ := Option.bind_eq_some_iff.mp h
    obtain ⟨rest, hrest, h⟩ := Option.bind_eq_some_iff.mp h
    cases h
    cases index with
    | zero => simp [hb]
    | succ index => simpa using ih hrest index

theorem exists_of_mapM {f : α → Option β} {l : List α} {r : List β} (h : l.mapM f = some r) {b : β}
    (hb : b ∈ r) : ∃ a ∈ l, f a = some b := by
  obtain ⟨index, hindex⟩ := List.getElem?_of_mem hb
  rw [getElem?_mapM h] at hindex
  obtain ⟨a, ha, hfa⟩ := Option.bind_eq_some_iff.mp hindex
  exact ⟨a, List.mem_of_getElem? ha, hfa⟩

theorem mapM_congr {f g : α → Option β} {l : List α} (h : ∀ a ∈ l, f a = g a)
    : l.mapM f = l.mapM g := by
  induction l with
  | nil => rfl
  | cons a l ih =>
    rw [List.forall_mem_cons] at h
    rw [List.mapM_cons, List.mapM_cons, h.1, ih h.2]

section

variable {R : α → β → Prop} {P : α → Prop} {Q : β → Prop} {l : List α} {r : List β}

theorem exists_mem_iff_of_forall₂ (h : List.Forall₂ R l r) (hiff : ∀ a b, R a b → (P a ↔ Q b))
    : (∃ a ∈ l, P a) ↔ ∃ b ∈ r, Q b := by
  induction h with
  | nil => simp
  | cons hfirst _ ih =>
    rw [List.exists_mem_cons_iff, List.exists_mem_cons_iff, hiff _ _ hfirst, ih]

theorem forall_mem_iff_of_forall₂ (h : List.Forall₂ R l r) (hiff : ∀ a b, R a b → (P a ↔ Q b))
    : (∀ a ∈ l, P a) ↔ ∀ b ∈ r, Q b := by
  induction h with
  | nil => simp
  | cons hfirst _ ih =>
    rw [List.forall_mem_cons, List.forall_mem_cons, hiff _ _ hfirst, ih]

end

end OptionFold
