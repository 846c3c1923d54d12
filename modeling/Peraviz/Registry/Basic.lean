import Mathlib.Algebra.GroupWithZero.Nat
import Mathlib.Data.List.Basic
import Mathlib.Data.List.Nodup
import Mathlib.Logic.Function.Basic

/-!
This module contains registers that are kept twice: a list and the stored position of each of its
entries, a queue and a mark on each of its entries, and counters with the number of those that are
not zero.
-/

universe u

namespace Registry

variable {α : Type u} [DecidableEq α]

/-! ### Stored positions -/

/-- Every entry is listed once, at the position that is stored for it. -/
def Listed (items : List α) (position : α → Option Nat) : Prop :=
  ∀ a i, position a = some i ↔ items[i]? = some a

section

variable {items : List α} {position : α → Option Nat} {a last : α} {i : Nat}

omit [DecidableEq α] in
theorem Listed.mem_iff (h : Listed items position) : a ∈ items ↔ position a ≠ none := by
  rw [List.mem_iff_getElem?]
  constructor
  . intro hmem
    cases hmem with
    | intro i hi =>
      rw [(h a i).mpr hi]
      exact Option.some_ne_none i
  . intro hsome
    cases hposition : position a with
    | none => contradiction
    | some i => exact ⟨i, (h a i).mp hposition⟩

omit [DecidableEq α] in
theorem Listed.nodup (h : Listed items position) : items.Nodup := by
  rw [List.nodup_iff_getElem?_ne_getElem?]
  intro i j hij hj heq
  have hlast := (h items[j] j).mpr (List.getElem?_eq_getElem hj)
  have hfirst := (h items[j] i).mpr (by rw [heq, List.getElem?_eq_getElem hj])
  rw [hlast] at hfirst
  have hsame := Option.some.inj hfirst
  omega

omit [DecidableEq α] in
theorem listed_nil (h : ∀ a, position a = none) : Listed [] position := by
  intro a i
  simp [h a]

theorem Listed.append (h : Listed items position) (ha : position a = none)
    : Listed (items ++ [a]) (Function.update position a (some items.length)) := by
  intro b i
  by_cases hb : b = a
  . rw [hb, Function.update_self]
    constructor
    . intro hi
      rw [← Option.some.inj hi, List.getElem?_concat_length]
    . intro hi
      by_cases hlt : i < items.length
      . rw [List.getElem?_append_left hlt] at hi
        rw [(h a i).mpr hi] at ha
        contradiction
      . have hbound := (List.getElem?_eq_some_iff.mp hi).1
        rw [List.length_append, List.length_singleton] at hbound
        congr 1
        omega
  . rw [Function.update_of_ne hb, h b i]
    by_cases hlt : i < items.length
    . rw [List.getElem?_append_left hlt]
    . rw [List.getElem?_append_right (by omega), List.getElem?_eq_none (by omega)]
      cases hsub : i - items.length with
      | zero => simp [Ne.symm hb]
      | succ k => simp

theorem Listed.swapRemove (h : Listed items position) (ha : position a = some i)
    (hlast : items.getLast? = some last)
    : Listed ((items.set i last).dropLast)
        (Function.update (Function.update position last (some i)) a none) := by
  have hi := (h a i).mp ha
  have hilt := (List.getElem?_eq_some_iff.mp hi).1
  rw [List.getLast?_eq_getElem?] at hlast
  have hlastPosition := (h last (items.length - 1)).mpr hlast
  have hget : ∀ j, (items.set i last).dropLast[j]?
      = if j < items.length - 1 then (if i = j then some last else items[j]?) else none := by
    intro j
    rw [List.getElem?_dropLast, List.length_set, List.getElem?_set]
    by_cases hij : i = j
    . rw [if_pos hij, if_pos hij, if_pos hilt]
    . rw [if_neg hij, if_neg hij]
  intro b j
  rw [hget]
  by_cases hba : b = a
  . rw [hba, Function.update_self]
    constructor
    . intro hnone
      contradiction
    . intro hj
      split at hj
      next hjlt =>
        split at hj
        next hij =>
          rw [Option.some.inj hj, ha] at hlastPosition
          have hsame := Option.some.inj hlastPosition
          omega
        next hij =>
          have hja := (h a j).mpr hj
          rw [ha] at hja
          exact absurd (Option.some.inj hja) hij
      next => contradiction
  . rw [Function.update_of_ne hba]
    by_cases hbl : b = last
    . rw [hbl, Function.update_self]
      have hne : i ≠ items.length - 1 := by
        intro hend
        rw [hend, hlast] at hi
        exact hba (hbl.trans (Option.some.inj hi))
      constructor
      . intro hj
        rw [← Option.some.inj hj, if_pos (by omega), if_pos rfl]
      . intro hj
        split at hj
        next hjlt =>
          split at hj
          next hij => rw [hij]
          next =>
            have hjl := (h last j).mpr hj
            rw [hlastPosition] at hjl
            have hsame := Option.some.inj hjl
            omega
        next => contradiction
    . rw [Function.update_of_ne hbl, h b j]
      constructor
      . intro hj
        have hjlt := (List.getElem?_eq_some_iff.mp hj).1
        have hne : j ≠ items.length - 1 := by
          intro hend
          rw [hend, hlast] at hj
          exact hbl (Option.some.inj hj).symm
        have hij : i ≠ j := by
          intro hij
          rw [← hij, hi] at hj
          exact hba (Option.some.inj hj).symm
        rw [if_pos (by omega), if_neg hij]
        exact hj
      . intro hj
        split at hj
        next =>
          split at hj
          next => exact absurd (Option.some.inj hj).symm hbl
          next => exact hj
        next => contradiction

end

/-! ### Marks -/

/-- What is marked is queued, once. -/
structure Marked (queue : List α) (mark : α → Bool) : Prop where
  nodup : queue.Nodup
  mem_iff : ∀ a, mark a = true ↔ a ∈ queue

section

variable {queue : List α} {mark : α → Bool} {a : α}

omit [DecidableEq α] in
theorem marked_nil (h : ∀ a, mark a = false) : Marked [] mark where
  nodup := List.nodup_nil
  mem_iff a := by simp [h a]

theorem Marked.push (h : Marked queue mark) (ha : mark a = false)
    : Marked (queue ++ [a]) (Function.update mark a true) where
  nodup := by
    have hmem : a ∉ queue := by
      rw [← h.mem_iff, ha]
      exact Bool.false_ne_true
    rw [List.nodup_append]
    refine ⟨h.nodup, List.nodup_singleton a, ?_⟩
    intro b hb c hc heq
    rw [List.mem_singleton.mp hc] at heq
    rw [heq] at hb
    contradiction
  mem_iff b := by
    by_cases hb : b = a
    . simp [hb]
    . rw [Function.update_of_ne hb, h.mem_iff]
      simp [hb]

theorem Marked.pop (h : Marked (a :: queue) mark)
    : Marked queue (Function.update mark a false) where
  nodup := (List.nodup_cons.mp h.nodup).2
  mem_iff b := by
    have ha := (List.nodup_cons.mp h.nodup).1
    by_cases hb : b = a
    . rw [hb, Function.update_self]
      simp [ha]
    . rw [Function.update_of_ne hb, h.mem_iff]
      simp [hb]

end

/-! ### Counters -/

def occupied (size : Nat) (counts : Nat → Nat) : Nat :=
  (List.range size).countP (fun i => counts i ≠ 0)

theorem countP_update {l : List α} (hnodup : l.Nodup) {a : α} (ha : a ∈ l) {p q : α → Bool}
    (hagree : ∀ b, b ≠ a → p b = q b)
    : l.countP q + (if p a then 1 else 0) = l.countP p + (if q a then 1 else 0) := by
  induction l with
  | nil => contradiction
  | cons b l ih =>
    have hb := List.nodup_cons.mp hnodup
    rw [List.countP_cons, List.countP_cons]
    by_cases hba : b = a
    . have hrest : l.countP p = l.countP q := by
        apply List.countP_congr
        intro c hc
        have hca : c ≠ a := by
          intro hca
          rw [← hca] at hba
          rw [hba] at hb
          exact hb.1 hc
        rw [hagree c hca]
      rw [hba, hrest]
      omega
    . have hmem : a ∈ l := by
        cases List.mem_cons.mp ha with
        | inl heq => exact absurd heq.symm hba
        | inr hmem => exact hmem
      have ih := ih hb.2 hmem
      rw [hagree b hba]
      omega

theorem sum_update {l : List α} (hnodup : l.Nodup) {a : α} (ha : a ∈ l) {f g : α → Nat}
    (hagree : ∀ b, b ≠ a → f b = g b)
    : (l.map g).sum + f a = (l.map f).sum + g a := by
  induction l with
  | nil => contradiction
  | cons b l ih =>
    have hb := List.nodup_cons.mp hnodup
    rw [List.map_cons, List.map_cons, List.sum_cons, List.sum_cons]
    by_cases hba : b = a
    . have hrest : l.map f = l.map g := by
        apply List.map_congr_left
        intro c hc
        apply hagree
        intro hca
        rw [hca, ← hba] at hc
        exact hb.1 hc
      rw [hba, hrest]
      omega
    . have hmem : a ∈ l := by
        cases List.mem_cons.mp ha with
        | inl heq => exact absurd heq.symm hba
        | inr hmem => exact hmem
      have ih := ih hb.2 hmem
      rw [hagree b hba]
      omega

theorem occupied_update {size : Nat} (counts : Nat → Nat) {i : Nat} (hi : i < size) (n : Nat)
    : occupied size (Function.update counts i n) + (if counts i = 0 then 0 else 1)
      = occupied size counts + (if n = 0 then 0 else 1) := by
  have h := @countP_update Nat _ (List.range size) List.nodup_range i (List.mem_range.mpr hi)
    (fun j => counts j ≠ 0) (fun j => Function.update counts i n j ≠ 0) (by
      intro j hj
      simp only [Function.update_of_ne hj])
  simpa [occupied] using h

end Registry
