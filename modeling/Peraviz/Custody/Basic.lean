import Mathlib.Data.Fintype.Card
import Mathlib.Data.List.Nodup

/-!
This module contains the custody of resources that several parties hand to each other: who holds
what at the moment, and the moves that keep every resource in one pair of hands.
-/

universe u v

namespace Custody

variable {π : Type u} {β : Type v}

def Exclusive (holdings : List (π × β)) : Prop :=
  (holdings.map Prod.snd).Nodup

theorem Exclusive.eq_of_mem {holdings : List (π × β)} (h : Exclusive holdings) {p q : π} {b : β}
    (hp : (p, b) ∈ holdings) (hq : (q, b) ∈ holdings)
    : p = q := by
  have heq : (p, b) = (q, b) := List.inj_on_of_nodup_map h hp hq rfl
  exact congrArg Prod.fst heq

theorem exists_free [Fintype β] [DecidableEq β] (holdings : List (π × β))
    (h : holdings.length < Fintype.card β)
    : ∃ b, b ∉ holdings.map Prod.snd := by
  have hcard : (holdings.map Prod.snd).toFinset.card < Fintype.card β := by
    calc (holdings.map Prod.snd).toFinset.card
        ≤ (holdings.map Prod.snd).length := List.toFinset_card_le _
      _ < Fintype.card β := by rw [List.length_map]; exact h
  have hne : (holdings.map Prod.snd).toFinset ≠ Finset.univ := by
    intro heq
    rw [heq, Finset.card_univ] at hcard
    exact Nat.lt_irrefl _ hcard
  obtain ⟨b, hb⟩ := not_forall.mp (fun hall => hne (Finset.eq_univ_iff_forall.mpr hall))
  exact ⟨b, fun hmem => hb (List.mem_toFinset.mpr hmem)⟩

end Custody
