import Mathlib.Data.List.Basic

/-!
This module contains walks over chunks that lie one behind the other, and how a walk that succeeds
carries over to other walks along the same chunks.
-/

namespace Chunked

variable {ε κ σ τ υ : Type}

theorem bind_eq_ok {α β : Type} {x : Except ε α} {f : α → Except ε β} {b : β}
    : (x >>= f) = .ok b ↔ ∃ a, x = .ok a ∧ f a = .ok b := by
  cases x with
  | error e =>
    constructor
    . intro h
      cases h
    . intro h
      obtain ⟨a, ha, _⟩ := h
      cases ha
  | ok a =>
    constructor
    . intro h
      exact ⟨a, rfl, h⟩
    . intro h
      obtain ⟨a', ha, hf⟩ := h
      cases ha
      exact hf

theorem eq_ok_of_toOption {α : Type} {x : Except ε α} {a : α} (h : x.toOption = some a)
    : x = .ok a := by
  cases x with
  | error e => cases h
  | ok b =>
    cases h
    rfl

def require (condition : Prop) [Decidable condition] (fault : ε) : Except ε Unit :=
  if condition then .ok () else .error fault

theorem require_eq_ok {condition : Prop} [Decidable condition] {fault : ε} {done : Unit}
    : require condition fault = .ok done ↔ condition := by
  unfold require
  split
  . next h => simp [h]
  . next h => simp [h]

theorem require_of {condition : Prop} [Decidable condition] {fault : ε} (h : condition)
    : require condition fault = .ok () :=
  if_pos h

/-- A computation without a fault, and what holds of its value. -/
def Ends {α : Type} (x : Except ε α) (P : α → Prop) : Prop :=
  ∃ a, x = .ok a ∧ P a

namespace Ends

variable {α β : Type} {P : α → Prop} {Q : β → Prop} {x : Except ε α} {f : α → Except ε β}

theorem ok {a : α} (h : P a) : Ends (.ok a : Except ε α) P :=
  ⟨a, rfl, h⟩

theorem mono {Q : α → Prop} (hx : Ends x P) (h : ∀ a, P a → Q a) : Ends x Q := by
  obtain ⟨a, ha, hp⟩ := hx
  exact ⟨a, ha, h a hp⟩

theorem bind (hx : Ends x P) (hf : ∀ a, P a → Ends (f a) Q) : Ends (x >>= f) Q := by
  obtain ⟨a, rfl, hp⟩ := hx
  exact hf a hp

theorem step {a : α} (hx : x = .ok a) (hf : Ends (f a) Q) : Ends (x >>= f) Q := by
  rw [hx]
  exact hf

end Ends

section Walk

variable {read : Nat → Except ε κ} {next : κ → Nat} {exhausted : ε} {stop fuel pos : Nat}

/-- Visits the chunks from a position up to `stop`. It is a fault where the fuel does not last. -/
def walk (read : Nat → Except ε κ) (next : κ → Nat) (exhausted : ε)
    (visit : σ → κ → Except ε σ) (stop : Nat) : Nat → Nat → σ → Except ε σ
  | 0, pos, state => if stop ≤ pos then .ok state else .error exhausted
  | fuel + 1, pos, state =>
    if stop ≤ pos then
      .ok state
    else do
      let chunk ← read pos
      let state ← visit state chunk
      walk read next exhausted visit stop fuel (next chunk) state

/--
Two walks succeed along the chunks of one that did, where each of their visits follows from its
visit.
-/
theorem walk_simulates {visit : σ → κ → Except ε σ} {f : τ → κ → Except ε τ}
    {g : υ → κ → Except ε υ} {R : σ → τ → υ → Nat → Prop} {s s' : σ} {t : τ} {u : υ}
    (h : walk read next exhausted visit stop fuel pos s = .ok s')
    (hread : ∀ pos chunk, read pos = .ok chunk → next chunk ≤ stop)
    (hstep : ∀ pos chunk s t u s', pos < stop → read pos = .ok chunk → visit s chunk = .ok s'
      → R s t u pos
      → ∃ t' u', f t chunk = .ok t' ∧ g u chunk = .ok u' ∧ R s' t' u' (next chunk))
    (hpos : pos ≤ stop) (hR : R s t u pos)
    : ∃ t' u', walk read next exhausted f stop fuel pos t = .ok t'
        ∧ walk read next exhausted g stop fuel pos u = .ok u' ∧ R s' t' u' stop := by
  induction fuel generalizing pos s t u with
  | zero =>
    rw [walk] at h
    split at h
    . next hend =>
      cases h
      have heq : pos = stop := Nat.le_antisymm hpos hend
      rw [heq] at hR
      exact ⟨t, u, by rw [walk, if_pos hend], by rw [walk, if_pos hend], hR⟩
    . cases h
  | succ fuel ih =>
    rw [walk] at h
    split at h
    . next hend =>
      cases h
      have heq : pos = stop := Nat.le_antisymm hpos hend
      rw [heq] at hR
      exact ⟨t, u, by rw [walk, if_pos hend], by rw [walk, if_pos hend], hR⟩
    . next hend =>
      obtain ⟨chunk, hchunk, h⟩ := bind_eq_ok.mp h
      obtain ⟨after, hvisit, h⟩ := bind_eq_ok.mp h
      obtain ⟨t', u', hf, hg, hR'⟩ :=
        hstep pos chunk s t u after (Nat.lt_of_not_le hend) hchunk hvisit hR
      obtain ⟨t'', u'', hwalkf, hwalkg, hR''⟩ := ih h (hread pos chunk hchunk) hR'
      refine ⟨t'', u'', ?_, ?_, hR''⟩
      . rw [walk, if_neg hend]
        exact bind_eq_ok.mpr ⟨chunk, hchunk, bind_eq_ok.mpr ⟨t', hf, hwalkf⟩⟩
      . rw [walk, if_neg hend]
        exact bind_eq_ok.mpr ⟨chunk, hchunk, bind_eq_ok.mpr ⟨u', hg, hwalkg⟩⟩

end Walk

end Chunked
