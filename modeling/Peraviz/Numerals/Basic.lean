import Mathlib.Data.List.TakeWhile

/-!
This module contains texts that are spelled by a pattern of literal characters and decimal numerals.
Where no digit follows a numeral of the pattern, a scan that takes the longest numeral each time
finds the only way to spell a text.
-/

namespace Numerals

inductive Item where
  | literal (c : Char)
  | numeral
deriving DecidableEq

def IsNumeral (digits : List Char) : Prop :=
  digits ≠ [] ∧ ∀ c ∈ digits, c.isDigit = true

/-- The text is the pattern with these numerals in place of its numeral items. -/
inductive Spells : List Item → List Char → List (List Char) → Prop
  | nil : Spells [] [] []
  | literal {pattern : List Item} {text : List Char} {numerals : List (List Char)} (c : Char)
      (h : Spells pattern text numerals) : Spells (.literal c :: pattern) (c :: text) numerals
  | numeral {pattern : List Item} {text : List Char} {numerals : List (List Char)}
      {digits : List Char} (hdigits : IsNumeral digits) (h : Spells pattern text numerals)
      : Spells (.numeral :: pattern) (digits ++ text) (digits :: numerals)

/-- A pattern that no digit continues. -/
def stops : List Item → Bool
  | [] => true
  | .literal c :: _ => !c.isDigit
  | .numeral :: _ => false

/-- No digit follows a numeral. -/
def separated : List Item → Bool
  | [] => true
  | .literal _ :: pattern => separated pattern
  | .numeral :: pattern => stops pattern && separated pattern

def scan : List Item → List Char → Option (List (List Char))
  | [], [] => some []
  | [], _ :: _ => none
  | .literal _ :: _, [] => none
  | .literal c :: pattern, d :: text => if c = d then scan pattern text else none
  | .numeral :: pattern, text =>
    if text.takeWhile Char.isDigit = [] then none
    else (scan pattern (text.dropWhile Char.isDigit)).map (text.takeWhile Char.isDigit :: ·)

/-- A scan comes to a numeral with `p`. -/
def Meets (p : List Char → Prop) : List Item → List Char → Prop
  | [], _ => False
  | .literal _ :: _, [] => False
  | .literal c :: pattern, d :: text => c = d ∧ Meets p pattern text
  | .numeral :: pattern, text =>
    text.takeWhile Char.isDigit ≠ [] ∧
      (p (text.takeWhile Char.isDigit) ∨ Meets p pattern (text.dropWhile Char.isDigit))

theorem isNumeral_takeWhile {text : List Char} (h : text.takeWhile Char.isDigit ≠ [])
    : IsNumeral (text.takeWhile Char.isDigit) :=
  ⟨h, fun _ hc => List.mem_takeWhile_imp hc⟩

def NoDigitHead (text : List Char) : Prop :=
  ∀ c, text.head? = some c → c.isDigit = false

theorem takeWhile_numeral {digits text : List Char} (hdigits : ∀ c ∈ digits, c.isDigit = true)
    (htext : NoDigitHead text)
    : (digits ++ text).takeWhile Char.isDigit = digits ∧
        (digits ++ text).dropWhile Char.isDigit = text := by
  rw [List.takeWhile_append_of_pos hdigits, List.dropWhile_append_of_pos hdigits]
  cases text with
  | nil => simp
  | cons c text =>
    have hc := htext c rfl
    rw [List.takeWhile_cons_of_neg (by simp [hc]), List.dropWhile_cons_of_neg (by simp [hc])]
    simp

theorem Spells.noDigitHead {pattern : List Item} {text : List Char} {numerals : List (List Char)}
    (h : Spells pattern text numerals) (hstops : stops pattern = true) : NoDigitHead text := by
  intro c hc
  cases h with
  | nil => cases hc
  | literal d _ =>
    cases hc
    simpa [stops] using hstops
  | numeral _ _ => cases hstops

theorem spells_of_scan {pattern : List Item} {text : List Char} {numerals : List (List Char)}
    (h : scan pattern text = some numerals) : Spells pattern text numerals := by
  induction pattern generalizing text numerals with
  | nil =>
    cases text with
    | nil =>
      cases h
      exact .nil
    | cons c text => cases h
  | cons item pattern ih =>
    cases item with
    | literal c =>
      cases text with
      | nil => cases h
      | cons d text =>
        rw [scan] at h
        split at h
        next heq =>
          rw [heq]
          exact .literal d (ih h)
        next => cases h
    | numeral =>
      rw [scan] at h
      split at h
      next => cases h
      next hne =>
        obtain ⟨rest, hrest, heq⟩ := Option.map_eq_some_iff.mp h
        have hspells := Spells.numeral (isNumeral_takeWhile hne) (ih hrest)
        rw [List.takeWhile_append_dropWhile, heq] at hspells
        exact hspells

theorem Spells.scan_eq {pattern : List Item} {text : List Char} {numerals : List (List Char)}
    (h : Spells pattern text numerals) (hseparated : separated pattern = true)
    : scan pattern text = some numerals := by
  induction h with
  | nil => rfl
  | literal c _ ih =>
    rw [scan, if_pos rfl]
    exact ih hseparated
  | numeral hdigits h ih =>
    rw [separated, Bool.and_eq_true] at hseparated
    have hrun := takeWhile_numeral hdigits.2 (h.noDigitHead hseparated.1)
    rw [scan, hrun.1, hrun.2, if_neg hdigits.1, ih hseparated.2]
    rfl

theorem scan_literals {literals : List Char} {pattern : List Item} {text : List Char}
    : scan (literals.map Item.literal ++ pattern) (literals ++ text) = scan pattern text := by
  induction literals with
  | nil => rfl
  | cons c literals ih =>
    rw [List.map_cons, List.cons_append, List.cons_append, scan, if_pos rfl]
    exact ih

theorem prefix_of_scan {literals : List Char} {pattern : List Item} {text : List Char}
    {numerals : List (List Char)}
    (h : scan (literals.map Item.literal ++ pattern) text = some numerals)
    : ∃ rest, text = literals ++ rest ∧ scan pattern rest = some numerals := by
  induction literals generalizing text with
  | nil => exact ⟨text, rfl, h⟩
  | cons c literals ih =>
    cases text with
    | nil => cases h
    | cons d text =>
      rw [List.map_cons, List.cons_append, scan] at h
      split at h
      next heq =>
        obtain ⟨rest, htext, hrest⟩ := ih h
        refine ⟨rest, ?_, hrest⟩
        rw [heq, htext]
        rfl
      next => cases h

theorem meets_literals {p : List Char → Prop} {literals : List Char} {pattern : List Item}
    {text : List Char}
    : Meets p (literals.map Item.literal ++ pattern) (literals ++ text) ↔ Meets p pattern text := by
  induction literals with
  | nil => rfl
  | cons c literals ih =>
    rw [List.map_cons, List.cons_append, List.cons_append, Meets]
    simpa using ih

theorem prefix_of_meets {p : List Char → Prop} {literals : List Char} {pattern : List Item}
    {text : List Char} (h : Meets p (literals.map Item.literal ++ pattern) text)
    : ∃ rest, text = literals ++ rest ∧ Meets p pattern rest := by
  induction literals generalizing text with
  | nil => exact ⟨text, rfl, h⟩
  | cons c literals ih =>
    cases text with
    | nil => exact h.elim
    | cons d text =>
      obtain ⟨heq, h⟩ := h
      obtain ⟨rest, htext, hrest⟩ := ih h
      refine ⟨rest, ?_, hrest⟩
      rw [heq, htext]
      rfl

theorem not_meets_of_scan {p : List Char → Prop} {pattern : List Item} {text : List Char}
    {numerals : List (List Char)} (h : scan pattern text = some numerals)
    (hp : ∀ digits ∈ numerals, ¬ p digits) : ¬ Meets p pattern text := by
  induction pattern generalizing text numerals with
  | nil => exact id
  | cons item pattern ih =>
    cases item with
    | literal c =>
      cases text with
      | nil => exact id
      | cons d text =>
        rw [scan] at h
        split at h
        next =>
          intro hmeets
          exact ih h hp hmeets.2
        next => cases h
    | numeral =>
      rw [scan] at h
      split at h
      next => cases h
      next =>
        obtain ⟨rest, hrest, heq⟩ := Option.map_eq_some_iff.mp h
        rw [← heq, List.forall_mem_cons] at hp
        intro hmeets
        exact hmeets.2.elim hp.1 (ih hrest hp.2)

end Numerals
