import Mathlib.Algebra.BigOperators.Group.List.Basic
import Mathlib.Algebra.Group.Basic
import Mathlib.Data.List.Rotate

/-!
This module contains sums over the neighbouring pairs of a closed chain, the pair of its last and
its first element included.
-/

namespace Cyclic

universe u v

variable {α : Type u} {G : Type v} [AddCommGroup G]

def pairSum (weigh : α → α → G) (xs : List α) : G :=
  (List.zipWith weigh xs (xs.rotate 1)).sum

theorem pairSum_eq_range (weigh : α → α → G) (xs : List α) (fallback : α)
    : pairSum weigh xs
      = ((List.range xs.length).map (fun index =>
          weigh (xs.getD index fallback)
            (xs.getD ((index + 1) % xs.length) fallback))).sum := by
  have hlist : List.zipWith weigh xs (xs.rotate 1)
      = (List.range xs.length).map (fun index =>
          weigh (xs.getD index fallback) (xs.getD ((index + 1) % xs.length) fallback)) := by
    apply List.ext_getElem
    . simp
    . intro index hleft hright
      simp only [List.length_map, List.length_range] at hright
      have hnext : (index + 1) % xs.length < xs.length := Nat.mod_lt _ (by omega)
      simp [List.getElem_rotate, List.getD_eq_getElem?_getD, hright, hnext]
  rw [pairSum, hlist]

theorem pairSum_rotate (weigh : α → α → G) (xs : List α) (n : Nat)
    : pairSum weigh (xs.rotate n) = pairSum weigh xs := by
  have hswap : (xs.rotate n).rotate 1 = (xs.rotate 1).rotate n := by
    rw [List.rotate_rotate, List.rotate_rotate, Nat.add_comm]
  have hlength : xs.length = (xs.rotate 1).length := (List.length_rotate xs 1).symm
  rw [pairSum, hswap, ← List.zipWith_rotate_distrib weigh xs (xs.rotate 1) n hlength]
  exact (List.rotate_perm _ n).sum_eq

theorem sum_zipWith_swap {weigh : α → α → G} (hanti : ∀ a b, weigh b a = -weigh a b)
    (xs ys : List α)
    : (List.zipWith weigh ys xs).sum = -(List.zipWith weigh xs ys).sum := by
  induction xs generalizing ys with
  | nil => simp
  | cons x xs ih =>
    cases ys with
    | nil => simp
    | cons y ys =>
      rw [List.zipWith_cons_cons, List.zipWith_cons_cons, List.sum_cons, List.sum_cons, ih ys,
        hanti x y, neg_add]

theorem rotate_one_reverse (xs : List α)
    : xs.reverse.rotate 1 = (xs.rotate (xs.length - 1)).reverse := by
  have hmod : (xs.length - 1 % xs.length) % xs.length = (xs.length - 1) % xs.length := by
    cases Nat.lt_or_ge 1 xs.length with
    | inl hlt => rw [Nat.mod_eq_of_lt hlt]
    | inr hle =>
      cases Nat.le_one_iff_eq_zero_or_eq_one.mp hle with
      | inl hzero => rw [hzero]
      | inr hone => rw [hone]
  rw [List.rotate_reverse, ← List.rotate_mod, hmod, List.rotate_mod]

-- Backwards every pair is met with its elements exchanged.
theorem pairSum_reverse {weigh : α → α → G} (hanti : ∀ a b, weigh b a = -weigh a b)
    (xs : List α) : pairSum weigh xs.reverse = -pairSum weigh xs := by
  cases Nat.eq_zero_or_pos xs.length with
  | inl hzero =>
    rw [List.length_eq_zero_iff.mp hzero]
    simp [pairSum]
  | inr hpos =>
    have hback : (xs.rotate (xs.length - 1)).rotate 1 = xs := by
      rw [List.rotate_rotate, Nat.sub_add_cancel hpos, List.rotate_length]
    calc pairSum weigh xs.reverse
        = (List.zipWith weigh xs.reverse (xs.rotate (xs.length - 1)).reverse).sum := by
          rw [pairSum, rotate_one_reverse]
      _ = (List.zipWith weigh xs (xs.rotate (xs.length - 1))).sum := by
          rw [← List.reverse_zipWith (List.length_rotate _ _).symm, List.sum_reverse]
      _ = -(List.zipWith weigh (xs.rotate (xs.length - 1)) xs).sum := sum_zipWith_swap hanti _ _
      _ = -pairSum weigh (xs.rotate (xs.length - 1)) := by rw [pairSum, hback]
      _ = -pairSum weigh xs := by rw [pairSum_rotate]

end Cyclic
