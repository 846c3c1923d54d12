import Mathlib.Data.List.Nodup

/-!
This module contains enumerations over a fixed underlying integer type. A conversion from the
underlying type never fails, so a value may be an integer that no enumerator has.
-/

universe u v

class Enumerators (U : outParam (Type u)) (E : Type v) where
  all : List E
  toUnderlying : E → U
  complete : ∀ e, e ∈ all
  nodup : (all.map toUnderlying).Nodup

theorem Enumerators.injective {U : Type u} {E : Type v} [Enumerators U E] {a b : E}
    (h : Enumerators.toUnderlying a = Enumerators.toUnderlying b) : a = b :=
  List.inj_on_of_nodup_map Enumerators.nodup (complete a) (complete b) h

inductive Enumeration {U : Type u} (E : Type v) [Enumerators U E] where
  | listed (e : E)
  | unlisted (value : U) (h : ∀ e : E, Enumerators.toUnderlying e ≠ value)

namespace Enumeration

variable {U : Type u} {E : Type v} [Enumerators U E]

def toUnderlying : Enumeration E → U
  | .listed e => Enumerators.toUnderlying e
  | .unlisted value _ => value

def ofUnderlying [DecidableEq U] (value : U) : Enumeration E :=
  match hfind : (Enumerators.all : List E).find?
      (fun e => decide (Enumerators.toUnderlying e = value)) with
  | some e => .listed e
  | none =>
    .unlisted value (by
      intro e
      have := List.find?_eq_none.mp hfind e (Enumerators.complete e)
      simpa using this)

theorem toUnderlying_injective {a b : Enumeration E} (h : a.toUnderlying = b.toUnderlying)
    : a = b := by
  cases a with
  | listed a =>
    cases b with
    | listed b => rw [Enumerators.injective h]
    | unlisted value hvalue => exact absurd h (hvalue a)
  | unlisted value hvalue =>
    cases b with
    | listed b => exact absurd h.symm (hvalue b)
    | unlisted value' hvalue' =>
      simp only [toUnderlying] at h
      subst h
      rfl

@[simp]
theorem toUnderlying_ofUnderlying [DecidableEq U] (value : U)
    : (ofUnderlying value : Enumeration E).toUnderlying = value := by
  unfold ofUnderlying
  split
  . next e hfind => simpa [toUnderlying] using List.find?_some hfind
  . rfl

@[simp]
theorem ofUnderlying_toUnderlying [DecidableEq U] (e : Enumeration E)
    : ofUnderlying e.toUnderlying = e := by
  apply toUnderlying_injective
  simp

instance [DecidableEq U] : DecidableEq (Enumeration E) := fun a b =>
  decidable_of_iff (a.toUnderlying = b.toUnderlying)
    ⟨toUnderlying_injective, fun h => by rw [h]⟩

instance : Coe E (Enumeration E) := ⟨.listed⟩

end Enumeration
