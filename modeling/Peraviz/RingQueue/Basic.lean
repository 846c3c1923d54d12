import Mathlib.Data.List.Basic
import Mathlib.Logic.Function.Basic

/-!
This module contains a bounded first-in first-out queue that is stored in a circular array, and the
list of elements it stands for.
-/

universe u

/--
A circular array of `capacity` cells of which `count` cells, starting at `head`, are in use.
-/
structure RingQueue (capacity : Nat) (α : Type u) where
  cells : Nat → α
  head : Nat
  count : Nat
  hhead : head < capacity
  hcount : count ≤ capacity

namespace RingQueue

variable {capacity : Nat} {α : Type u}

def empty (hcap : 0 < capacity) (fill : α) : RingQueue capacity α :=
  ⟨fun _ => fill, 0, 0, hcap, Nat.zero_le _⟩

/-- Forget every element, the cells keep their stale content. -/
def clear (q : RingQueue capacity α) : RingQueue capacity α :=
  { q with
    head := 0
    count := 0
    hhead := Nat.zero_lt_of_lt q.hhead
    hcount := Nat.zero_le _
  }

/-- Append an element, or leave a full queue as it is. -/
def push (q : RingQueue capacity α) (x : α) : RingQueue capacity α :=
  if hfull : q.count < capacity then
    { q with
      cells := Function.update q.cells ((q.head + q.count) % capacity) x
      count := q.count + 1
      hcount := hfull
    }
  else
    q

def pop (q : RingQueue capacity α) : Option (α × RingQueue capacity α) :=
  if q.count = 0 then
    none
  else
    some (q.cells q.head,
      { q with
        head := (q.head + 1) % capacity
        count := q.count - 1
        hhead := Nat.mod_lt _ (Nat.zero_lt_of_lt q.hhead)
        hcount := Nat.le_trans (Nat.sub_le _ _) q.hcount
      })

def toList (q : RingQueue capacity α) : List α :=
  (List.range q.count).map (fun i => q.cells ((q.head + i) % capacity))

@[simp]
theorem length_toList (q : RingQueue capacity α) : q.toList.length = q.count := by
  simp [toList]

@[simp]
theorem toList_empty (hcap : 0 < capacity) (fill : α)
    : (empty hcap fill : RingQueue capacity α).toList = [] := rfl

@[simp]
theorem toList_clear (q : RingQueue capacity α) : q.clear.toList = [] := rfl

theorem toList_push_of_lt (q : RingQueue capacity α) (x : α) (h : q.count < capacity)
    : (q.push x).toList = q.toList ++ [x] := by
  unfold push
  rw [dif_pos h]
  simp only [toList, List.range_succ, List.map_append, List.map_cons, List.map_nil,
    Function.update_self]
  congr 1
  apply List.map_congr_left
  intro i hi
  have hi : i < q.count := by simpa using hi
  have hhead := q.hhead
  -- two different cells in use never share an array index
  have hne : (q.head + i) % capacity ≠ (q.head + q.count) % capacity := by
    intro heq
    have hdvd : (q.head + q.count - (q.head + i)) % capacity = 0 :=
      Nat.sub_mod_eq_zero_of_mod_eq heq.symm
    rw [Nat.mod_eq_of_lt (by omega)] at hdvd
    omega
  rw [Function.update_of_ne hne]

theorem pop_eq_none (q : RingQueue capacity α) : q.pop = none ↔ q.toList = [] := by
  unfold pop
  split
  . next h => simp [toList, h]
  . next h => simp [toList, h]

theorem toList_of_pop_eq_some {q q' : RingQueue capacity α} {x : α} (h : q.pop = some (x, q'))
    : q.toList = x :: q'.toList := by
  unfold pop at h
  split at h
  . contradiction
  . next hne =>
    injection h with h
    injection h with hx hq
    subst hx hq
    obtain ⟨n, hn⟩ := Nat.exists_eq_succ_of_ne_zero hne
    simp only [toList, hn, Nat.succ_eq_add_one, Nat.add_sub_cancel, List.range_succ_eq_map,
      List.map_cons, List.map_map, Nat.add_zero, Nat.mod_eq_of_lt q.hhead]
    congr 1
    apply List.map_congr_left
    intro i _
    simp only [Function.comp, Nat.mod_add_mod]
    congr 2
    omega

end RingQueue
