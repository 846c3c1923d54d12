import Mathlib.Algebra.GroupWithZero.Nat
import Mathlib.Data.List.Basic
import Mathlib.Data.List.DropRight

/-!
This module contains lists that are split at a separator, where the elements of the parts are, and
lists that are trimmed at both ends.
-/

namespace List

universe u

variable {α : Type u} [BEq α] [LawfulBEq α] {separator : α}

omit [LawfulBEq α] in
theorem exists_splitOn_eq_cons (separator : α) (xs : List α)
    : ∃ first rest, xs.splitOn separator = first :: rest := by
  cases h : xs.splitOn separator with
  | nil => exact absurd h (splitOn_ne_nil separator xs)
  | cons first rest => exact ⟨first, rest, rfl⟩

theorem splitOn_cons_self (xs : List α)
    : (separator :: xs).splitOn separator = [] :: xs.splitOn separator := by
  simp [splitOn_cons_eq_if_modifyHead]

theorem splitOn_concat_self (xs : List α)
    : (xs ++ [separator]).splitOn separator = xs.splitOn separator ++ [[]] := by
  rw [splitOn_append_cons_self, splitOn_nil]

theorem not_mem_of_mem_splitOn {xs part : List α} (h : part ∈ xs.splitOn separator)
    : separator ∉ part := by
  induction xs generalizing part with
  | nil =>
    rw [splitOn_nil, mem_singleton] at h
    simp [h]
  | cons x xs ih =>
    rw [splitOn_cons_eq_if_modifyHead] at h
    obtain ⟨first, rest, hsplit⟩ := exists_splitOn_eq_cons separator xs
    rw [hsplit] at h ih
    split at h
    . cases h with
      | head => simp
      | tail _ h => exact ih h
    . next hx =>
      rw [modifyHead_cons] at h
      cases h with
      | head =>
        have hfirst := ih mem_cons_self
        rw [mem_cons, not_or]
        refine ⟨?_, hfirst⟩
        intro heq
        exact hx (by simp [heq])
      | tail _ h => exact ih (mem_cons_of_mem first h)

omit [LawfulBEq α] in
theorem mem_of_mem_splitOn {xs part : List α} (h : part ∈ xs.splitOn separator) {x : α}
    (hx : x ∈ part) : x ∈ xs := by
  induction xs generalizing part with
  | nil =>
    rw [splitOn_nil, mem_singleton] at h
    simp [h] at hx
  | cons y xs ih =>
    rw [splitOn_cons_eq_if_modifyHead] at h
    obtain ⟨first, rest, hsplit⟩ := exists_splitOn_eq_cons separator xs
    rw [hsplit] at h ih
    rw [mem_cons]
    split at h
    . cases h with
      | head => simp at hx
      | tail _ h => exact Or.inr (ih h hx)
    . rw [modifyHead_cons] at h
      cases h with
      | head =>
        rw [mem_cons] at hx
        cases hx with
        | inl heq => exact Or.inl heq
        | inr hx => exact Or.inr (ih mem_cons_self hx)
      | tail _ h => exact Or.inr (ih (mem_cons_of_mem first h) hx)

theorem exists_mem_splitOn_of_mem {xs : List α} {x : α} (h : x ∈ xs) (hx : x ≠ separator)
    : ∃ part ∈ xs.splitOn separator, x ∈ part := by
  induction xs with
  | nil => simp at h
  | cons y xs ih =>
    rw [splitOn_cons_eq_if_modifyHead]
    obtain ⟨first, rest, hsplit⟩ := exists_splitOn_eq_cons separator xs
    rw [hsplit] at ih ⊢
    rw [mem_cons] at h
    split
    . next hy =>
      cases h with
      | inl heq => exact absurd (heq.trans (by simpa using hy)) hx
      | inr h =>
        obtain ⟨part, hpart, hmem⟩ := ih h
        exact ⟨part, mem_cons_of_mem [] hpart, hmem⟩
    . rw [modifyHead_cons]
      cases h with
      | inl heq => exact ⟨y :: first, mem_cons_self, by simp [heq]⟩
      | inr h =>
        obtain ⟨part, hpart, hmem⟩ := ih h
        cases hpart with
        | head => exact ⟨y :: first, mem_cons_self, mem_cons_of_mem y hmem⟩
        | tail _ hpart => exact ⟨part, mem_cons_of_mem _ hpart, hmem⟩

-- The first separator of both lists is at the same place.
theorem append_separator_inj {front back front' back' : List α}
    (h : front ++ separator :: back = front' ++ separator :: back')
    (hfront : separator ∉ front) (hfront' : separator ∉ front')
    : front = front' ∧ back = back' := by
  have hsplit := splitOn_append_cons_self_of_not_mem hfront back
  rw [h, splitOn_append_cons_self_of_not_mem hfront' back'] at hsplit
  have heq := (cons.inj hsplit).1
  rw [heq] at h
  exact ⟨heq.symm, (cons.inj (append_cancel_left h)).2⟩

-- Each part but the last one has a separator behind it.
omit [LawfulBEq α] in
theorem sum_length_splitOn (separator : α) (xs : List α)
    : ((xs.splitOn separator).map (fun part => part.length + 1)).sum = xs.length + 1 := by
  induction xs with
  | nil => rfl
  | cons x xs ih =>
    rw [splitOn_cons_eq_if_modifyHead]
    obtain ⟨first, rest, hsplit⟩ := exists_splitOn_eq_cons separator xs
    rw [hsplit, map_cons, sum_cons] at ih
    rw [hsplit, length_cons]
    split
    . rw [map_cons, sum_cons, map_cons, sum_cons, length_nil]
      omega
    . rw [modifyHead_cons, map_cons, sum_cons, length_cons]
      omega

end List

/-! ### Trimming -/

namespace List

variable {α : Type} {p : α → Bool}

theorem rdropWhile_cons (x : α) (l : List α)
    : (x :: l).rdropWhile p
        =
      if l.rdropWhile p = [] then (if p x then [] else [x]) else x :: l.rdropWhile p := by
  induction l using List.reverseRecOn with
  | nil => simp [rdropWhile_singleton]
  | append_singleton l y ih =>
    rw [← List.cons_append, rdropWhile_concat, rdropWhile_concat]
    cases p y with
    | true => simpa using ih
    | false => simp

theorem dropWhile_rdropWhile (l : List α)
    : (l.rdropWhile p).dropWhile p = (l.dropWhile p).rdropWhile p := by
  induction l with
  | nil => rfl
  | cons x l ih =>
    rw [rdropWhile_cons]
    cases hx : p x with
    | true =>
      rw [dropWhile_cons_of_pos hx, ← ih]
      split
      next h => simp [h]
      next => rw [dropWhile_cons_of_pos hx]
    | false =>
      have hnot : ¬ p x = true := by simp [hx]
      rw [dropWhile_cons_of_neg hnot, rdropWhile_cons]
      simp only [hx]
      split
      next => simp [hx]
      next => rw [dropWhile_cons_of_neg hnot]

theorem mem_dropWhile_of_mem {x : α} {l : List α} (h : x ∈ l) (hx : p x = false)
    : x ∈ l.dropWhile p := by
  induction l with
  | nil => simp at h
  | cons y l ih =>
    rw [dropWhile_cons]
    split
    next hy =>
      apply ih
      cases h with
      | head => simp [hx] at hy
      | tail _ h => exact h
    next => exact h

theorem mem_rdropWhile_of_mem {x : α} {l : List α} (h : x ∈ l) (hx : p x = false)
    : x ∈ l.rdropWhile p := by
  rw [rdropWhile, mem_reverse]
  apply mem_dropWhile_of_mem _ hx
  rw [mem_reverse]
  exact h

end List

namespace Trimming

variable {α : Type} (p : α → Bool)

/-- The list without what `p` holds of at its ends. -/
def trim (l : List α) : List α :=
  (l.dropWhile p).rdropWhile p

def Trimmed (l : List α) : Prop :=
  l.dropWhile p = l ∧ l.rdropWhile p = l

variable {p}

theorem Trimmed.trim_eq {l : List α} (h : Trimmed p l) : trim p l = l := by
  rw [trim, h.1, h.2]

theorem trimmed_trim (l : List α) : Trimmed p (trim p l) := by
  constructor
  . rw [trim, ← List.dropWhile_rdropWhile, List.dropWhile_idempotent]
  . rw [trim, List.rdropWhile_idempotent]

theorem mem_of_mem_trim {c : α} {l : List α} (h : c ∈ trim p l) : c ∈ l := by
  have hfirst : trim p l <+: l.dropWhile p := List.rdropWhile_prefix p (l.dropWhile p)
  apply (List.dropWhile_suffix p).subset
  apply hfirst.subset
  exact h

theorem mem_trim {c : α} {l : List α} (h : c ∈ l) (hc : p c = false) : c ∈ trim p l := by
  apply List.mem_rdropWhile_of_mem _ hc
  apply List.mem_dropWhile_of_mem h hc

theorem trim_eq_nil_iff {l : List α} : trim p l = [] ↔ ∀ c ∈ l, p c = true := by
  constructor
  . intro h c hc
    cases hpc : p c with
    | true => rfl
    | false =>
      have hmem := mem_trim hc hpc
      rw [h] at hmem
      cases hmem
  . intro h
    rw [trim, List.dropWhile_eq_nil_iff.mpr h, List.rdropWhile_nil]

end Trimming
