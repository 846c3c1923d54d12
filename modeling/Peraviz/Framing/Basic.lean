import Mathlib.Data.List.Basic
import Mathlib.Tactic.Cases

/-!
This module contains streams of self-delimiting records: a reader takes one record from the front
of its input, and all of a stream is read by taking records until the reader stops.
-/

universe u v

namespace Framing

variable {α : Type u} {β : Type v}

/-- At most `fuel` records from the front of an input. -/
def readAll (read : List β → Option (α × List β)) : Nat → List β → List α
  | 0, _ => []
  | fuel + 1, input =>
    match read input with
    | none => []
    | some (a, rest) => a :: readAll read fuel rest

/-- A reader that finds a record in front of any input, and no record in a part of one. -/
structure Delimits (encode : α → List β) (read : List β → Option (α × List β)) (a : α) : Prop where
  read_append : ∀ rest, read (encode a ++ rest) = some (a, rest)
  read_take : ∀ n < (encode a).length, read ((encode a).take n) = none

variable {encode : α → List β} {read : List β → Option (α × List β)}

theorem Delimits.length_pos {a : α} (h : Delimits encode read a) (hnil : read [] = none)
    : 0 < (encode a).length := by
  rw [List.length_pos_iff]
  intro hempty
  have := h.read_append []
  simp [hempty, hnil] at this

theorem readAll_flatMap {records : List α} (h : ∀ a ∈ records, Delimits encode read a)
    (hnil : read [] = none) {fuel : Nat} (hfuel : records.length ≤ fuel)
    : readAll read fuel (records.flatMap encode) = records := by
  induction records generalizing fuel with
  | nil =>
    cases fuel with
    | zero => rfl
    | succ fuel => simp [readAll, hnil]
  | cons a records ih =>
    cases fuel with
    | zero => simp at hfuel
    | succ fuel =>
      have hrecords : ∀ b ∈ records, Delimits encode read b := fun b hb => h b (by simp [hb])
      rw [List.flatMap_cons, readAll, (h a (by simp)).read_append]
      dsimp only
      rw [ih hrecords]
      rw [List.length_cons] at hfuel
      omega

theorem readAll_take {records : List α} (h : ∀ a ∈ records, Delimits encode read a)
    (hnil : read [] = none) (n fuel : Nat)
    : readAll read fuel ((records.flatMap encode).take n) <+: records := by
  induction records generalizing n fuel with
  | nil =>
    cases fuel with
    | zero => simp [readAll]
    | succ fuel => simp [readAll, hnil]
  | cons a records ih =>
    have hrecords : ∀ b ∈ records, Delimits encode read b := fun b hb => h b (by simp [hb])
    cases fuel with
    | zero => simp [readAll]
    | succ fuel =>
      rw [List.flatMap_cons, readAll]
      by_cases hcut : n < (encode a).length
      . rw [List.take_append_of_le_length (by omega), (h a (by simp)).read_take n hcut]
        apply List.nil_prefix
      . have htake : (encode a ++ records.flatMap encode).take n
            = encode a ++ (records.flatMap encode).take (n - (encode a).length) := by
          rw [List.take_append, List.take_of_length_le (by omega)]
        rw [htake, (h a (by simp)).read_append]
        dsimp only
        rw [List.prefix_cons_inj]
        apply ih hrecords

theorem length_le_flatMap {records : List α} (h : ∀ a ∈ records, Delimits encode read a)
    (hnil : read [] = none)
    : records.length ≤ (records.flatMap encode).length := by
  induction records with
  | nil => simp
  | cons a records ih =>
    have ih := ih (fun b hb => h b (by simp [hb]))
    have := (h a (by simp)).length_pos hnil
    simp only [List.flatMap_cons, List.length_append, List.length_cons]
    omega

end Framing
