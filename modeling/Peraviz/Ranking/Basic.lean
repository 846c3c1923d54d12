import Mathlib.Algebra.Group.Nat.Defs
import Mathlib.Algebra.GroupWithZero.Nat
import Mathlib.Data.List.Sort

/-!
This module contains the elements of a list by their rank, and how a rank is found again when only
the number of the elements in each of some buckets is known.
-/

namespace Ranking

universe u

section Ranked

variable {α : Type u} [LinearOrder α]

def ascending (xs : List α) : List α :=
  xs.insertionSort (fun a b => a ≤ b)

theorem ascending_perm (xs : List α) : (ascending xs).Perm xs :=
  List.perm_insertionSort _ _

@[simp]
theorem length_ascending (xs : List α) : (ascending xs).length = xs.length :=
  (ascending_perm xs).length_eq

theorem ascending_pairwise (xs : List α) : (ascending xs).Pairwise (fun a b => a ≤ b) :=
  List.pairwise_insertionSort _ _

theorem getElem_le_getElem {s : List α} (hs : s.Pairwise (fun a b => a ≤ b)) {low high : Nat}
    (hle : low ≤ high) (h : high < s.length) : s[low] ≤ s[high] := by
  cases Nat.lt_or_eq_of_le hle with
  | inl hlt => exact List.pairwise_iff_getElem.mp hs low high _ h hlt
  | inr heq => simp [heq]

-- What is smaller than the element of a rank stands in front of it.
theorem countP_lt_getElem {s : List α} (hs : s.Pairwise (fun a b => a ≤ b)) {rank : Nat}
    (h : rank < s.length) : s.countP (fun x => x < s[rank]) ≤ rank := by
  have hback : (s.drop rank).countP (fun x => x < s[rank]) = 0 := by
    rw [List.countP_eq_zero]
    intro x hx
    rw [List.mem_drop_iff_getElem] at hx
    obtain ⟨i, hlt, heq⟩ := hx
    have hle := getElem_le_getElem hs (Nat.le_add_right rank i) (by omega)
    rw [heq] at hle
    simpa using hle
  have hfront : (s.take rank).countP (fun x => x < s[rank]) ≤ (s.take rank).length :=
    List.countP_le_length
  have hsplit : (s.take rank ++ s.drop rank).countP (fun x => x < s[rank])
      = (s.take rank).countP (fun x => x < s[rank]) + (s.drop rank).countP (fun x => x < s[rank]) :=
    List.countP_append
  rw [List.take_append_drop] at hsplit
  rw [List.length_take] at hfront
  omega

theorem lt_countP_le_getElem {s : List α} (hs : s.Pairwise (fun a b => a ≤ b)) {rank : Nat}
    (h : rank < s.length) : rank < s.countP (fun x => x ≤ s[rank]) := by
  have hfront : (s.take (rank + 1)).countP (fun x => x ≤ s[rank]) = (s.take (rank + 1)).length := by
    rw [List.countP_eq_length]
    intro x hx
    rw [List.mem_take_iff_getElem] at hx
    obtain ⟨i, hlt, heq⟩ := hx
    have hle := getElem_le_getElem hs (show i ≤ rank by omega) h
    rw [heq] at hle
    simpa using hle
  have hsub : (s.take (rank + 1)).countP (fun x => x ≤ s[rank])
      ≤ s.countP (fun x => x ≤ s[rank]) :=
    (List.take_sublist (rank + 1) s).countP_le
  rw [hfront, List.length_take] at hsub
  omega

end Ranked

/-- The index of the first count at which the sum of the counts so far reaches a target. -/
def firstReaching (target : Nat) : List Nat → Nat → Nat → Option Nat
  | [], _, _ => none
  | bucket :: rest, index, count =>
    if target ≤ count + bucket then
      some index
    else
      firstReaching target rest (index + 1) (count + bucket)

theorem firstReaching_eq_some {target : Nat} {counts : List Nat} {b index count : Nat}
    (hb : b < counts.length) (hbelow : count + (counts.take b).sum < target)
    (hreached : target ≤ count + (counts.take (b + 1)).sum)
    : firstReaching target counts index count = some (index + b) := by
  induction counts generalizing b index count with
  | nil => simp at hb
  | cons bucket rest ih =>
    unfold firstReaching
    cases b with
    | zero =>
      rw [if_pos (by simpa using hreached)]
      rfl
    | succ b =>
      simp only [List.take_succ_cons, List.sum_cons] at hbelow hreached
      rw [if_neg (by omega), ih (by simpa using hb) (by omega) (by omega)]
      congr 1
      omega

section Bucketed

variable {α : Type u}

def bucketCounts (bucket : α → Nat) (xs : List α) (n : Nat) : List Nat :=
  (List.range n).map (fun b => xs.countP (fun x => bucket x = b))

theorem take_bucketCounts (bucket : α → Nat) (xs : List α) {b n : Nat} (h : b ≤ n)
    : (bucketCounts bucket xs n).take b = bucketCounts bucket xs b := by
  unfold bucketCounts
  rw [← List.map_take, List.take_range, Nat.min_eq_left h]

theorem countP_lt_succ (bucket : α → Nat) (xs : List α) (b : Nat)
    : xs.countP (fun x => bucket x < b + 1)
        = xs.countP (fun x => bucket x < b) + xs.countP (fun x => bucket x = b) := by
  induction xs with
  | nil => rfl
  | cons x xs ih =>
    simp only [List.countP_cons, ih, decide_eq_true_eq]
    split <;> split <;> split <;> omega

theorem sum_bucketCounts (bucket : α → Nat) (xs : List α) (n : Nat)
    : (bucketCounts bucket xs n).sum = xs.countP (fun x => bucket x < n) := by
  unfold bucketCounts
  induction n with
  | zero => simp
  | succ n ih =>
    rw [List.range_succ, List.map_append, List.sum_append, ih, countP_lt_succ]
    simp

theorem firstReaching_bucketCounts [LinearOrder α] {bucket : α → Nat}
    (hmono : ∀ x y, x ≤ y → bucket x ≤ bucket y) (xs : List α) {rank n : Nat}
    (h : rank < (ascending xs).length) (hn : bucket (ascending xs)[rank] < n)
    : firstReaching (rank + 1) (bucketCounts bucket xs n) 0 0
        = some (bucket (ascending xs)[rank]) := by
  have hbelow : (ascending xs).countP (fun x => bucket x < bucket (ascending xs)[rank]) ≤ rank := by
    apply Nat.le_trans _ (countP_lt_getElem (ascending_pairwise xs) h)
    apply List.countP_mono_left
    intro x _ hx
    simp only [decide_eq_true_eq] at hx ⊢
    by_contra hge
    have := hmono _ _ (not_lt.mp hge)
    omega
  have hreached
      : rank < (ascending xs).countP (fun x => bucket x < bucket (ascending xs)[rank] + 1) := by
    apply Nat.lt_of_lt_of_le (lt_countP_le_getElem (ascending_pairwise xs) h)
    apply List.countP_mono_left
    intro x _ hx
    simp only [decide_eq_true_eq] at hx ⊢
    have := hmono _ _ hx
    omega
  rw [(ascending_perm xs).countP_eq] at hbelow hreached
  rw [firstReaching_eq_some, Nat.zero_add]
  . simpa [bucketCounts] using hn
  . rw [take_bucketCounts bucket xs (by omega), sum_bucketCounts]
    omega
  . rw [take_bucketCounts bucket xs (show _ + 1 ≤ n from hn), sum_bucketCounts]
    omega

end Bucketed

end Ranking
