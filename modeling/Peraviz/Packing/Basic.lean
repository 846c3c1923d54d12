import Mathlib.Algebra.Group.Nat.Defs
import Mathlib.Data.Int.Interval
import Mathlib.Data.List.Basic

/-!
This module contains tables of rows of one width that lie in a buffer of cells: what reading one
gives where it was written, and after the buffer has grown at either end. Tables that lie apart from
each other have no more cells than the buffer.
-/

namespace Packing

variable {α : Type}

/-- The rows of a table of `count` rows from `offset` on. -/
def readRows (width offset count : Nat) (cells : List α) : List (List α) :=
  (List.range count).map (fun row => (cells.drop (offset + row * width)).take width)

@[simp]
theorem readRows_zero (width offset : Nat) (cells : List α)
    : readRows width offset 0 cells = [] := rfl

theorem readRows_succ (width offset count : Nat) (cells : List α)
    : readRows width offset (count + 1) cells
        = (cells.drop offset).take width :: readRows width (offset + width) count cells := by
  simp only [readRows, List.range_succ_eq_map, List.map_cons, List.map_map, Nat.zero_mul,
    Nat.add_zero, List.cons.injEq, true_and]
  apply List.map_congr_left
  intro row _
  simp only [Function.comp_apply, Nat.succ_eq_add_one, Nat.add_mul, Nat.one_mul]
  congr 2
  omega

@[simp]
theorem length_readRows (width offset count : Nat) (cells : List α)
    : (readRows width offset count cells).length = count := by
  simp [readRows]

theorem readRows_append_left (width offset count : Nat) (front cells : List α)
    : readRows width (front.length + offset) count (front ++ cells)
        = readRows width offset count cells := by
  apply List.map_congr_left
  intro row _
  rw [Nat.add_assoc, ← List.drop_drop, List.drop_left]

theorem readRows_append_right {width offset count : Nat} {cells : List α}
    (h : offset + count * width ≤ cells.length) (back : List α)
    : readRows width offset count (cells ++ back) = readRows width offset count cells := by
  apply List.map_congr_left
  intro row hrow
  have hlast : (row + 1) * width ≤ count * width :=
    Nat.mul_le_mul_right width (List.mem_range.mp hrow)
  rw [Nat.add_mul, Nat.one_mul] at hlast
  rw [List.drop_append_of_le_length (by omega), List.take_append_of_le_length]
  rw [List.length_drop]
  omega

-- What is written row by row is read row by row.
theorem readRows_flatten {width : Nat} {rows : List (List α)}
    (h : ∀ row ∈ rows, row.length = width) (back : List α)
    : readRows width 0 rows.length (rows.flatten ++ back) = rows := by
  induction rows with
  | nil => rfl
  | cons row rows ih =>
    obtain ⟨hrow, hrows⟩ := List.forall_mem_cons.mp h
    rw [List.length_cons, readRows_succ, List.drop_zero, List.flatten_cons, List.append_assoc,
      List.take_left' hrow, Nat.zero_add]
    have htail := readRows_append_left width 0 rows.length row (rows.flatten ++ back)
    rw [Nat.add_zero, hrow] at htail
    rw [htail, ih hrows]

theorem readRows_flatten_between {width : Nat} {rows : List (List α)}
    (h : ∀ row ∈ rows, row.length = width) (front back : List α)
    : readRows width front.length rows.length (front ++ rows.flatten ++ back) = rows := by
  have hleft := readRows_append_left width 0 rows.length front (rows.flatten ++ back)
  rw [Nat.add_zero] at hleft
  rw [List.append_assoc, hleft, readRows_flatten h]

-- The rows of a table, put together again, are its range of the buffer.
theorem flatten_readRows {width offset count : Nat} {cells : List α}
    (h : offset + count * width ≤ cells.length)
    : (readRows width offset count cells).flatten = (cells.drop offset).take (count * width) := by
  induction count generalizing offset with
  | zero => simp
  | succ count ih =>
    rw [Nat.add_mul, Nat.one_mul] at h
    rw [readRows_succ, List.flatten_cons, ih (by omega), Nat.add_comm offset width,
      ← List.drop_drop, List.drop_drop, Nat.add_mul, Nat.one_mul, Nat.add_comm (count * width),
      List.take_add, List.drop_drop, Nat.add_comm width offset]

theorem length_of_mem_readRows {width offset count : Nat} {cells : List α}
    (h : offset + count * width ≤ cells.length)
    : ∀ row ∈ readRows width offset count cells, row.length = width := by
  intro row hrow
  obtain ⟨index, hindex, rfl⟩ := List.mem_map.mp hrow
  have hlast : (index + 1) * width ≤ count * width :=
    Nat.mul_le_mul_right width (List.mem_range.mp hindex)
  rw [Nat.add_mul, Nat.one_mul] at hlast
  rw [List.length_take, List.length_drop]
  omega

/-! ### Ranges of a buffer -/

theorem exists_cells {ranges : List (Int × Int)} (hwithin : ∀ r ∈ ranges, r.1 ≤ r.2)
    (hapart : ranges.Pairwise (fun a b => a.2 ≤ b.1 ∨ b.2 ≤ a.1))
    : ∃ cells : Finset Int, (∀ c ∈ cells, ∃ r ∈ ranges, r.1 ≤ c ∧ c < r.2)
        ∧ (cells.card : Int) = (ranges.map (fun r => r.2 - r.1)).sum := by
  induction ranges with
  | nil => exact ⟨∅, by simp, rfl⟩
  | cons r ranges ih =>
    obtain ⟨hr, hranges⟩ := List.forall_mem_cons.mp hwithin
    obtain ⟨hfirst, hrest⟩ := List.pairwise_cons.mp hapart
    obtain ⟨cells, hcells, hcard⟩ := ih hranges hrest
    refine ⟨Finset.Ico r.1 r.2 ∪ cells, ?_, ?_⟩
    . intro c hc
      cases Finset.mem_union.mp hc with
      | inl hc => exact ⟨r, List.mem_cons_self, Finset.mem_Ico.mp hc⟩
      | inr hc =>
        obtain ⟨other, hother, hin⟩ := hcells c hc
        exact ⟨other, List.mem_cons_of_mem _ hother, hin⟩
    . rw [Finset.card_union_of_disjoint]
      . rw [List.map_cons, List.sum_cons, ← hcard, Int.card_Ico]
        omega
      . rw [Finset.disjoint_left]
        intro c hc hmem
        obtain ⟨other, hother, hin⟩ := hcells c hmem
        have hout := hfirst other hother
        rw [Finset.mem_Ico] at hc
        omega

-- Ranges that lie apart in a buffer are not longer than it.
theorem sum_ranges_le {size : Nat} {ranges : List (Int × Int)}
    (hwithin : ∀ r ∈ ranges, 0 ≤ r.1 ∧ r.1 ≤ r.2 ∧ r.2 ≤ size)
    (hapart : ranges.Pairwise (fun a b => a.2 ≤ b.1 ∨ b.2 ≤ a.1))
    : (ranges.map (fun r => r.2 - r.1)).sum ≤ size := by
  obtain ⟨cells, hcells, hcard⟩ := exists_cells (fun r hr => (hwithin r hr).2.1) hapart
  have hsubset : cells ⊆ Finset.Ico 0 (size : Int) := by
    intro c hc
    obtain ⟨r, hr, hin⟩ := hcells c hc
    have hbounds := hwithin r hr
    rw [Finset.mem_Ico]
    omega
  have hle := Finset.card_le_card hsubset
  rw [Int.card_Ico] at hle
  omega

end Packing
