import Peraviz.Gdtf.FixtureType
import Peraviz.Splitting.Basic

/-!
This module contains the proof that the permissive offset reader sees only offsets in 1..512 on a
channel that the validation of its mode lets through.
-/

namespace List

variable {α : Type} {p q : α → Bool}

theorem splitOn_cons [BEq α] (c x : α) (l : List α)
    : (x :: l).splitOn c
        =
      if x == c then [] :: l.splitOn c else (l.splitOn c).modifyHead (x :: ·) := by
  simp only [splitOn]
  rw [splitOnP_cons_eq_if_modifyHead]

theorem mem_splitOn [BEq α] [LawfulBEq α] {c x : α} {l : List α} (h : x ∈ l)
    : x = c ∨ ∃ piece ∈ l.splitOn c, x ∈ piece := by
  induction l with
  | nil => simp at h
  | cons y l ih =>
    rw [splitOn_cons]
    split
    next hy =>
      cases mem_cons.mp h with
      | inl h => exact .inl (by simpa [h] using hy)
      | inr h =>
        cases ih h with
        | inl h => exact .inl h
        | inr h =>
          obtain ⟨piece, hpiece, hx⟩ := h
          exact .inr ⟨piece, by simp [hpiece], hx⟩
    next =>
      cases hsplit : l.splitOn c with
      | nil => exact absurd hsplit (by simp [splitOn])
      | cons first rest =>
        rw [hsplit] at ih
        simp only [modifyHead_cons]
        cases mem_cons.mp h with
        | inl h => exact .inr ⟨y :: first, by simp, by simp [h]⟩
        | inr h =>
          cases ih h with
          | inl h => exact .inl h
          | inr h =>
            obtain ⟨piece, hpiece, hx⟩ := h
            right
            cases mem_cons.mp hpiece with
            | inl hfirst => exact ⟨y :: first, by simp, by simp [← hfirst, hx]⟩
            | inr hrest => exact ⟨piece, by simp [hrest], hx⟩

section

variable [BEq α] [LawfulBEq α] {c : α} (hc : p c = false)
include hc

theorem beq_eq_false_of_space {x : α} (hx : p x = true) : (x == c) = false := by
  cases hxc : x == c with
  | true =>
    rw [eq_of_beq hxc, hc] at hx
    contradiction
  | false => rfl

theorem map_dropWhile_splitOn (l : List α)
    : ((l.dropWhile p).splitOn c).map (dropWhile p) = (l.splitOn c).map (dropWhile p) := by
  induction l with
  | nil => rfl
  | cons x l ih =>
    rw [dropWhile_cons]
    split
    next hx =>
      rw [ih, splitOn_cons, beq_eq_false_of_space hc hx]
      cases l.splitOn c with
      | nil => rfl
      | cons first rest => simp [hx]
    next => rfl

theorem map_rdropWhile_splitOn_concat {y : α} (hy : p y = true) (l : List α)
    : ((l ++ [y]).splitOn c).map (rdropWhile p) = (l.splitOn c).map (rdropWhile p) := by
  induction l with
  | nil =>
    rw [nil_append, splitOn_cons, beq_eq_false_of_space hc hy]
    simp [splitOn, hy]
  | cons x l ih =>
    rw [cons_append, splitOn_cons, splitOn_cons]
    split
    next => simp [ih]
    next =>
      cases hlong : (l ++ [y]).splitOn c with
      | nil => exact absurd hlong (by simp [splitOn])
      | cons first rest =>
        cases hshort : l.splitOn c with
        | nil => exact absurd hshort (by simp [splitOn])
        | cons first' rest' =>
          rw [hlong, hshort, map_cons, map_cons, cons.injEq] at ih
          simp [rdropWhile_cons, ih.1, ih.2]

theorem map_rdropWhile_splitOn (l : List α)
    : ((l.rdropWhile p).splitOn c).map (rdropWhile p) = (l.splitOn c).map (rdropWhile p) := by
  induction l using List.reverseRecOn with
  | nil => rfl
  | append_singleton l y ih =>
    rw [rdropWhile_concat]
    split
    next hy => rw [ih, map_rdropWhile_splitOn_concat hc hy]
    next => rfl

end

end List

namespace Peraviz.Gdtf

open CheckedInt

theorem trimChars_eq (cs : List Char)
    : trimChars cs = (cs.rdropWhile isSpace).dropWhile isSpace := by
  rw [trimChars, List.dropWhile_rdropWhile]

@[simp]
theorem trimChars_trimChars (cs : List Char) : trimChars (trimChars cs) = trimChars cs := by
  rw [trimChars, trimChars, List.dropWhile_rdropWhile, List.dropWhile_idempotent,
    List.rdropWhile_idempotent]

theorem map_trimChars_splitOn (cs : List Char)
    : ((trimChars cs).splitOn ',').map trimChars = (cs.splitOn ',').map trimChars := by
  have hcomma : isSpace ',' = false := by decide
  have hsplit (l : List (List Char))
      : l.map trimChars = (l.map (List.dropWhile isSpace)).map (List.rdropWhile isSpace) := by
    rw [List.map_map]
    rfl
  have hsplit' (l : List (List Char))
      : l.map trimChars = (l.map (List.rdropWhile isSpace)).map (List.dropWhile isSpace) := by
    rw [List.map_map]
    apply List.map_congr_left
    intro piece _
    apply trimChars_eq
  calc ((trimChars cs).splitOn ',').map trimChars
      = ((cs.dropWhile isSpace).splitOn ',').map trimChars := by
        rw [hsplit', hsplit', trimChars, List.map_rdropWhile_splitOn hcomma]
    _ = (cs.splitOn ',').map trimChars := by
        rw [hsplit, hsplit, List.map_dropWhile_splitOn hcomma]

theorem mem_trimChars {c : Char} {cs : List Char} (h : c ∈ cs) (hc : isSpace c = false)
    : c ∈ trimChars cs := by
  apply List.mem_rdropWhile_of_mem _ hc
  apply List.mem_dropWhile_of_mem h hc

/-- A one-based offset inside of a break of 512 slots. -/
def IsOffset (offset : Int32) : Prop :=
  1 ≤ offset.toInt ∧ offset.toInt ≤ 512

theorem fromChars_eq_some {cs : List Char} {value : Int32} (h : fromChars cs = some value)
    (hone : 1 ≤ value.toInt)
    : cs ≠ [] ∧ (∀ c ∈ cs, c.isDigit = true) ∧ value.toInt = decimal cs := by
  unfold fromChars at h
  split at h
  next =>
    split at h
    next =>
      have hvalue := narrow_eq_some h
      omega
    next => contradiction
  next =>
    split at h
    next hdigits => exact ⟨hdigits.1, List.all_eq_true.mp hdigits.2, narrow_eq_some h⟩
    next => contradiction

theorem patchNumber_eq_some {raw : List Char} {minimum value : Int32}
    (h : patchNumber raw minimum = some value)
    : fromChars (trimChars raw) = some value ∧ minimum.toInt ≤ value.toInt := by
  unfold patchNumber at h
  split at h
  next parsed hparsed =>
    split at h
    next hle =>
      rw [← Option.some.inj h]
      exact ⟨hparsed, Int32.le_iff_toInt_le.mp hle⟩
    next => contradiction
  next => contradiction

/-- The text of an offset that the validation accepts. -/
structure IsOffsetText (cs : List Char) : Prop where
  nonempty : cs ≠ []
  digits : ∀ c ∈ cs, c.isDigit = true
  positive : 1 ≤ decimal cs
  bounded : decimal cs ≤ 512

theorem isOffsetText_of_patchNumber {raw : List Char} {value : Int32}
    (h : patchNumber raw 1 = some value) (hle : value ≤ 512)
    : IsOffsetText (trimChars raw) := by
  obtain ⟨hparsed, hone⟩ := patchNumber_eq_some h
  have hone' : 1 ≤ value.toInt := hone
  have hle' : value.toInt ≤ 512 := Int32.le_iff_toInt_le.mp hle
  obtain ⟨hne, hdigits, hvalue⟩ := fromChars_eq_some hparsed hone'
  exact ⟨hne, hdigits, by omega, by omega⟩

theorem isOffsetText_of_checkOffsets {pieces : List (List Char)} {seen seen' : List Int32}
    (h : checkOffsets seen pieces = some seen')
    : ∀ piece ∈ pieces, IsOffsetText (trimChars piece) := by
  induction pieces generalizing seen with
  | nil => simp
  | cons piece pieces ih =>
    rw [checkOffsets] at h
    split at h
    next value hvalue =>
      split at h
      next => contradiction
      next hgood =>
        have hle : value ≤ 512 := by
          rw [not_or] at hgood
          apply Int32.not_lt.mp hgood.1
        simp only [List.mem_cons, forall_eq_or_imp]
        exact ⟨isOffsetText_of_patchNumber hvalue hle, ih h⟩
    next => contradiction

theorem strtol_digits {cs : List Char} (hne : cs ≠ []) (h : ∀ c ∈ cs, c.isDigit = true)
    : strtol cs = some (min (decimal cs : Int) 9223372036854775807) := by
  have hall : cs.takeWhile Char.isDigit = cs := List.takeWhile_eq_self_iff.mpr h
  have hdrop : cs.dropWhile isSpace = cs := by
    apply List.dropWhile_eq_self_iff.mpr
    intro hpos
    simp [isSpace_of_isDigit (h _ (List.getElem_mem hpos))]
  cases cs with
  | nil => contradiction
  | cons c rest =>
    have hc : c.isDigit = true := h c (by simp)
    have hminus : c ≠ '-' := by
      rintro rfl
      contradiction
    have hplus : c ≠ '+' := by
      rintro rfl
      contradiction
    rw [strtol, hdrop]
    split
    next heq => exact absurd (List.cons.inj heq).1 hminus
    next heq => exact absurd (List.cons.inj heq).1 hplus
    next =>
      simp [hall]

theorem offsetValue_of_text {piece : List Char} (h : IsOffsetText piece)
    : offsetValue piece = some (decimal piece : Int) := by
  have hpos := h.positive
  have hle := h.bounded
  have hmin : min (decimal piece : Int) 9223372036854775807 = decimal piece := by omega
  rw [offsetValue, if_neg h.nonempty, strtol_digits h.nonempty h.digits, hmin]
  simp
  omega

theorem offsetPieces_of_texts {rawOffset : String}
    (h : ∀ piece ∈ rawOffset.toList.splitOn ',', IsOffsetText (trimChars piece))
    : offsetPieces (trimAscii rawOffset) = (rawOffset.toList.splitOn ',').map trimChars := by
  have hsame : (trimChars rawOffset.toList).map (fun c => if c == ';' then ',' else c)
      = trimChars rawOffset.toList := by
    have hmap : ∀ c ∈ trimChars rawOffset.toList, (if c == ';' then ',' else c) = c := by
      intro c hc
      split
      next hsemi =>
        exfalso
        have hmem : c ∈ rawOffset.toList := by
          apply List.dropWhile_sublist isSpace |>.subset
          apply List.rdropWhile_prefix isSpace _ |>.subset hc
        obtain rfl : c = ';' := by simpa using hsemi
        cases List.mem_splitOn hmem (c := ',') with
        | inl heq => simp at heq
        | inr hin =>
          obtain ⟨piece, hpiece, hcp⟩ := hin
          have hdigit := (h piece hpiece).digits ';' (mem_trimChars hcp (by decide))
          simp at hdigit
      next => rfl
    rw [List.map_congr_left hmap, List.map_id']
  rw [offsetPieces, trimAscii, String.toList_ofList, trimChars_trimChars, hsame,
    map_trimChars_splitOn]

theorem defined_narrow_offset {n : Int} (h : 1 ≤ n ∧ n ≤ 512)
    : Defined (narrow n) IsOffset := by
  apply Defined.mono (defined_narrow (by omega))
  intro a ha
  rw [IsOffset, ha]
  exact h

theorem defined_parseOffsets_of_texts {rawOffset : String}
    (h : ∀ piece ∈ rawOffset.toList.splitOn ',', IsOffsetText (trimChars piece))
    : Defined (parseOffsets (trimAscii rawOffset)) (∀ offset ∈ ·, IsOffset offset) := by
  rw [parseOffsets, offsetPieces_of_texts h]
  apply Defined.mapM
  intro n hn
  simp only [List.mem_filterMap, List.mem_map] at hn
  obtain ⟨_, ⟨piece, hpiece, rfl⟩, hvalue⟩ := hn
  have htext := h piece hpiece
  rw [offsetValue_of_text htext] at hvalue
  obtain rfl := Option.some.inj hvalue
  have hpos := htext.positive
  have hle := htext.bounded
  apply defined_narrow_offset
  omega

theorem defined_parseOffsets {channel : XMLElement} (h : channelIssue channel = none)
    : Defined (parseOffsets (readAttr channel "Offset" "offset"))
        (∀ offset ∈ ·, IsOffset offset) := by
  rw [channelIssue] at h
  rw [readAttr]
  split at h
  next hraw =>
    rw [hraw]
    exact ⟨[], by decide, by simp⟩
  next raw hraw =>
    rw [hraw]
    split at h
    next hnone =>
      simp only [hnone]
      exact ⟨[], by decide, by simp⟩
    next =>
      split at h
      next => contradiction
      next seen hseen =>
        apply defined_parseOffsets_of_texts
        apply isOffsetText_of_checkOffsets hseen

theorem sourceBreakOf_nonneg (channel : XMLElement) : 0 ≤ (sourceBreakOf channel).toInt := by
  simp only [sourceBreakOf]
  split
  next => decide
  next =>
    split
    next => decide
    next =>
      cases hnumber : patchNumber (readAttr channel "DMXBreak" "dmxbreak").toList 1 with
      | none => decide
      | some value =>
        have hone := (patchNumber_eq_some hnumber).2
        have : (1 : Int32).toInt = 1 := rfl
        simp only [Option.getD_some]
        omega

mutual

theorem collectModeDmxChannels_subset {selected : Bool} {channel : XMLElement}
    : ∀ {e : XMLElement}, channel ∈ collectModeDmxChannels selected e →
      channel ∈ collectElementsByName "dmxchannel" e
  | .node handle name attributes children, h => by
    rw [collectModeDmxChannels] at h
    rw [collectElementsByName]
    split at h
    next => simp at h
    next =>
      split at h
      next hname => simp_all
      next =>
        simp only [List.mem_append]
        exact .inr (channelsOfChildren_subset h)

theorem channelsOfChildren_subset {channel : XMLElement}
    : ∀ {children : List XMLElement}, channel ∈ channelsOfChildren children →
      channel ∈ collectFromChildren "dmxchannel" children
  | [], h => by simp [channelsOfChildren] at h
  | child :: children, h => by
    rw [channelsOfChildren, List.mem_append] at h
    rw [collectFromChildren, List.mem_append]
    cases h with
    | inl h => exact .inr (collectModeDmxChannels_subset h)
    | inr h => exact .inl (channelsOfChildren_subset h)

end

theorem channelIssue_of_validate {mode channel : XMLElement}
    (h : validateChannelAddresses mode = none)
    (hchannel : channel ∈ collectModeDmxChannels true mode)
    : channelIssue channel = none := by
  rw [validateChannelAddresses, List.findSome?_eq_none_iff] at h
  apply h
  apply collectModeDmxChannels_subset hchannel

end Peraviz.Gdtf
