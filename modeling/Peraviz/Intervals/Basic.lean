import Mathlib.Data.Int.Order.Basic
import Mathlib.Data.List.Basic

/-!
This module contains lists of closed intervals of natural numbers that are kept in order: lists that
are separated, and lists that tile a range without a gap or an overlap. The intervals between the
values of an ascending function and the clamping of a value between two bounds are here as well.
-/

namespace Intervals

variable {α : Type} (lo hi : α → Nat)

def Holds (a : α) (value : Nat) : Prop :=
  lo a ≤ value ∧ value ≤ hi a

def Separated (l : List α) : Prop :=
  l.Pairwise (fun a b => hi a < lo b)

/-- The intervals of a list follow each other from `start` up to, and without, `stop`. -/
def Tiles : Nat → Nat → List α → Prop
  | start, stop, [] => start = stop
  | start, stop, a :: l => lo a = start ∧ start ≤ hi a ∧ Tiles (hi a + 1) stop l

variable {lo hi}

theorem Separated.eq_of_holds {l : List α} (h : Separated lo hi l) {a b : α} (ha : a ∈ l)
    (hb : b ∈ l) {value : Nat} (hheld : Holds lo hi a value) (hheld' : Holds lo hi b value)
    : a = b := by
  induction l with
  | nil => cases ha
  | cons c l ih =>
    rw [Separated, List.pairwise_cons] at h
    obtain ⟨hl, hu⟩ := hheld
    obtain ⟨hl', hu'⟩ := hheld'
    cases List.mem_cons.mp ha with
    | inl hac =>
      cases List.mem_cons.mp hb with
      | inl hbc => rw [hac, hbc]
      | inr hb =>
        have := h.1 b hb
        rw [← hac] at this
        omega
    | inr ha =>
      cases List.mem_cons.mp hb with
      | inl hbc =>
        have := h.1 a ha
        rw [← hbc] at this
        omega
      | inr hb => exact ih h.2 ha hb

namespace Tiles

theorem start_le {start stop : Nat} {l : List α} (h : Tiles lo hi start stop l)
    : start ≤ stop := by
  induction l generalizing start with
  | nil =>
    have : start = stop := h
    omega
  | cons a l ih =>
    have := ih h.2.2
    have := h.2.1
    omega

theorem bounds {start stop : Nat} {l : List α} (h : Tiles lo hi start stop l) {a : α}
    (ha : a ∈ l)
    : start ≤ lo a ∧ lo a ≤ hi a ∧ hi a < stop := by
  induction l generalizing start with
  | nil => cases ha
  | cons b l ih =>
    obtain ⟨hlo, hhi, hrest⟩ := h
    have hstop := start_le hrest
    cases List.mem_cons.mp ha with
    | inl heq =>
      rw [heq]
      omega
    | inr hmem =>
      have := ih hrest hmem
      omega

theorem separated {start stop : Nat} {l : List α} (h : Tiles lo hi start stop l)
    : Separated lo hi l := by
  induction l generalizing start with
  | nil => exact List.Pairwise.nil
  | cons a l ih =>
    apply List.Pairwise.cons
    . intro b hb
      have := bounds h.2.2 hb
      omega
    . exact ih h.2.2

/-- Exactly the values of the range are held. -/
theorem holds_iff {start stop : Nat} {l : List α} (h : Tiles lo hi start stop l) (value : Nat)
    : (∃ a ∈ l, Holds lo hi a value) ↔ start ≤ value ∧ value < stop := by
  induction l generalizing start with
  | nil =>
    have hempty : start = stop := h
    constructor
    . intro hheld
      obtain ⟨a, ha, _⟩ := hheld
      cases ha
    . omega
  | cons a l ih =>
    obtain ⟨hlo, hhi, hrest⟩ := h
    have hstop := start_le hrest
    simp only [List.mem_cons, exists_eq_or_imp]
    rw [ih hrest, Holds]
    omega

end Tiles

/-- Each element of a list with the one behind it. -/
def withNext : List α → List (α × Option α)
  | [] => []
  | a :: l => (a, l.head?) :: withNext l

theorem map_fst_withNext (l : List α) : (withNext l).map Prod.fst = l := by
  induction l with
  | nil => rfl
  | cons a l ih => rw [withNext, List.map_cons, ih]

end Intervals

/-! ### Between the values of a function -/

namespace Intervals

theorem countP_between {f : Nat → Nat} (hmono : ∀ i, f i ≤ f (i + 1)) (count k : Nat)
    : (List.range count).countP (fun i => f i ≤ k ∧ k < f (i + 1))
        = if f 0 ≤ k ∧ k < f count then 1 else 0 := by
  have hfirst : ∀ i, f 0 ≤ f i := by
    intro i
    induction i with
    | zero => exact Nat.le_refl _
    | succ i ih => exact Nat.le_trans ih (hmono i)
  induction count with
  | zero =>
    rw [if_neg (by omega)]
    rfl
  | succ count ih =>
    have hstep := hmono count
    have hlow := hfirst count
    rw [List.range_succ, List.countP_append, ih, List.countP_singleton]
    -- Both sides only depend on where the number lies among three values.
    simp only [decide_eq_true_eq]
    split <;> split <;> split <;> omega

end Intervals

/-! ### Clamping -/

namespace Intervals

/-- `std::clamp`. -/
def clamp {α : Type} [LT α] [DecidableLT α] (value lower upper : α) : α :=
  if value < lower then lower else if upper < value then upper else value

section

variable {value lower upper : Int}

theorem clamp_bounds (h : lower ≤ upper)
    : lower ≤ clamp value lower upper ∧ clamp value lower upper ≤ upper := by
  unfold clamp
  split
  next => omega
  next =>
    split
    next => omega
    next => omega

theorem le_clamp (h : lower ≤ upper) : lower ≤ clamp value lower upper :=
  (clamp_bounds h).1

theorem clamp_le (h : lower ≤ upper) : clamp value lower upper ≤ upper :=
  (clamp_bounds h).2

theorem clamp_of_bounds (h : lower ≤ value ∧ value ≤ upper) : clamp value lower upper = value := by
  unfold clamp
  rw [if_neg (by omega), if_neg (by omega)]

theorem clamp_of_le (h : lower ≤ value) : clamp value lower upper = min value upper := by
  unfold clamp
  rw [if_neg (by omega)]
  split
  next => omega
  next => omega

end

end Intervals
