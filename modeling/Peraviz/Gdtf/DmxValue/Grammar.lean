import Mathlib.Data.List.TakeWhile
import Peraviz.Gdtf.DmxValue.Convert

/-!
This module contains the lexical forms `Uint/n` and `Uint/ns` of a DMX value and the texts beyond
them that the numbers of the C library let in: signs, inner blanks, leading zeros of the byte count
and anything behind a null character.
-/

namespace Peraviz.Gdtf

/-! ### The lexical forms -/

def IsDigits (cs : List Char) : Prop := cs ≠ [] ∧ ∀ c ∈ cs, c.isDigit = true

def byteCounts : List Char := ['1', '2', '3', '4']

/-- The lexical forms with their number, their byte count and their shift flag. -/
inductive DmxValueForm : List Char → Nat → Nat → DmxValueConversion → Prop where
  | plain (digits : List Char) (h : IsDigits digits)
      : DmxValueForm digits (decimal digits) 1 .mirror
  | mirrored (digits : List Char) (count : Char) (h : IsDigits digits) (hcount : count ∈ byteCounts)
      : DmxValueForm (digits ++ ['/', count]) (decimal digits) (decimal [count]) .mirror
  | shifted (digits : List Char) (count flag : Char) (h : IsDigits digits)
      (hcount : count ∈ byteCounts) (hflag : flag = 's' ∨ flag = 'S')
      : DmxValueForm (digits ++ ['/', count, flag]) (decimal digits) (decimal [count]) .shift

/-- The value that the lexical forms give to a text. -/
def IsDmxValue (raw : String) (parsed : ParsedDmxValue) : Prop :=
  DmxValueForm (trimChars raw.toList) parsed.value.toNat parsed.byteCount.toNat parsed.conversion
    ∧ parsed.value.toNat ≤ 256 ^ parsed.byteCount.toNat - 1

/-! ### The numbers of the library -/

/-- A text that the library reads as a number, in the parts in which it reads it. -/
structure Numeral where
  blanks : List Char
  sign : List Char
  digits : List Char
  hidden : List Char
  blanks_space : ∀ c ∈ blanks, isSpace c = true
  sign_cases : sign = [] ∨ sign = ['+'] ∨ sign = ['-']
  isDigits : IsDigits digits
  hidden_cases : hidden = [] ∨ hidden.head? = some '\x00'

namespace Numeral

def text (n : Numeral) : List Char := n.blanks ++ (n.sign ++ (n.digits ++ n.hidden))

def value (n : Numeral) : Nat :=
  if ulongMax < decimal n.digits then ulongMax
  else if n.sign = ['-'] then (2 ^ 64 - decimal n.digits) % 2 ^ 64
  else decimal n.digits

def Plain (n : Numeral) : Prop := n.blanks = [] ∧ n.sign = [] ∧ n.hidden = []

end Numeral

/--
A text in range that is none of the lexical forms: its number is not plain, or its byte count is
not plain or has leading zeros.
-/
def BeyondForms (raw : String) : Prop :=
  ∃ number count : Numeral,
    (splitResolution (trimChars raw.toList)).1 = number.text
      ∧ (splitConversion (splitResolution (trimChars raw.toList)).2).2 = count.text
      ∧ 1 ≤ count.value ∧ count.value ≤ 4
      ∧ number.value ≤ 256 ^ count.value - 1
      ∧ ¬ (number.Plain ∧ count.Plain ∧ count.digits.length = 1)

section Chars

variable {c : Char} {cs : List Char}

theorem IsDigits.takeWhile (h : IsDigits cs) : cs.takeWhile Char.isDigit = cs :=
  List.takeWhile_eq_self_iff.mpr h.2

theorem IsDigits.dropWhile (h : IsDigits cs) : cs.dropWhile Char.isDigit = [] :=
  List.dropWhile_eq_nil_iff.mpr h.2

end Chars

namespace Numeral

variable {n : Numeral}

theorem plain_of_isDigits (h : ∀ c ∈ n.text, c.isDigit = true) : n.Plain := by
  have hblanks : n.blanks = [] := by
    cases hcase : n.blanks with
    | nil => rfl
    | cons c rest =>
      have hmem : c ∈ n.blanks := by
        rw [hcase]
        exact List.mem_cons_self
      have hspace := n.blanks_space c hmem
      have hdigit := h c (List.mem_append_left _ hmem)
      rw [isSpace_of_isDigit hdigit] at hspace
      cases hspace
  have hsign : n.sign = [] := by
    cases n.sign_cases with
    | inl hnil => exact hnil
    | inr hsigned =>
      cases hsigned with
      | inl hplus =>
        have hdigit := h '+' (by simp [text, hplus])
        cases hdigit
      | inr hminus =>
        have hdigit := h '-' (by simp [text, hminus])
        cases hdigit
  have hhidden : n.hidden = [] := by
    cases n.hidden_cases with
    | inl hnil => exact hnil
    | inr hnull =>
      have hmem := List.mem_of_mem_head? (Option.mem_def.mpr hnull)
      have hdigit := h '\x00' (by simp [text, hmem])
      cases hdigit
  exact ⟨hblanks, hsign, hhidden⟩

theorem text_of_plain (h : n.Plain) : n.text = n.digits := by
  rw [text, h.1, h.2.1, h.2.2, List.nil_append, List.nil_append, List.append_nil]

theorem value_of_plain (h : n.Plain) (hfits : n.value < ulongMax) : n.value = decimal n.digits := by
  unfold value at hfits ⊢
  split
  next hsaturated =>
    rw [if_pos hsaturated] at hfits
    omega
  next hexact =>
    rw [if_neg]
    rw [h.2.1]
    exact List.cons_ne_nil _ _ ∘ Eq.symm

def ofDigits (digits : List Char) (h : IsDigits digits) : Numeral where
  blanks := []
  sign := []
  digits := digits
  hidden := []
  blanks_space := fun _ hmem => nomatch hmem
  sign_cases := Or.inl rfl
  isDigits := h
  hidden_cases := Or.inl rfl

theorem value_ofDigits {digits : List Char} (h : IsDigits digits) (hfits : decimal digits ≤ ulongMax)
    : (ofDigits digits h).value = decimal digits := by
  unfold value ofDigits
  dsimp only
  rw [if_neg (Nat.not_lt.mpr hfits), if_neg]
  exact List.cons_ne_nil _ _ ∘ Eq.symm

theorem text_ofDigits {digits : List Char} (h : IsDigits digits)
    : (ofDigits digits h).text = digits :=
  text_of_plain ⟨rfl, rfl, rfl⟩

end Numeral

/-! ### The library reads the numerals -/

section Library

variable {cs : List Char}

theorem cString_append {hidden : List Char} (hcs : ∀ c ∈ cs, c ≠ '\x00')
    (hhidden : hidden = [] ∨ hidden.head? = some '\x00') : cString (cs ++ hidden) = cs := by
  unfold cString
  rw [List.takeWhile_append_of_pos]
  . cases hhidden with
    | inl hnil => rw [hnil, List.takeWhile_nil, List.append_nil]
    | inr hnull =>
      cases hidden with
      | nil => cases hnull
      | cons c rest =>
        rw [List.head?_cons, Option.some.injEq] at hnull
        rw [List.takeWhile_cons_of_neg, List.append_nil]
        simp [hnull]
  . intro c hc
    exact decide_eq_true (hcs c hc)

def magnitude (negative : Bool) (rest : List Char) : Option (Nat × List Char) :=
  let digits := rest.takeWhile Char.isDigit
  let n := decimal digits
  if digits = [] then none
  else if ulongMax < n then some (ulongMax, rest.dropWhile Char.isDigit)
  else some (if negative then (2 ^ 64 - n) % 2 ^ 64 else n, rest.dropWhile Char.isDigit)

def signed (cs : List Char) : Option (Nat × List Char) :=
  match cs with
  | '-' :: rest => magnitude true rest
  | '+' :: rest => magnitude false rest
  | rest => magnitude false rest

theorem strtoul_eq (cs : List Char) : strtoul cs = signed ((cString cs).dropWhile isSpace) := rfl

theorem signed_cases (cs : List Char)
    : (∃ rest, cs = '-' :: rest ∧ signed cs = magnitude true rest)
        ∨ (∃ rest, cs = '+' :: rest ∧ signed cs = magnitude false rest)
        ∨ signed cs = magnitude false cs := by
  unfold signed
  split
  next rest => exact Or.inl ⟨rest, rfl, rfl⟩
  next rest => exact Or.inr (Or.inl ⟨rest, rfl, rfl⟩)
  next => exact Or.inr (Or.inr rfl)

theorem signed_digits (h : IsDigits cs) : signed cs = magnitude false cs := by
  rcases signed_cases cs with ⟨rest, hcs, _⟩ | ⟨rest, hcs, _⟩ | heq
  . rw [hcs] at h
    cases h.2 '-' List.mem_cons_self
  . rw [hcs] at h
    cases h.2 '+' List.mem_cons_self
  . exact heq

theorem magnitude_digits (negative : Bool) (h : IsDigits cs)
    : magnitude negative cs
        = some (if ulongMax < decimal cs then ulongMax
          else if negative then (2 ^ 64 - decimal cs) % 2 ^ 64 else decimal cs, []) := by
  unfold magnitude
  dsimp only
  rw [h.takeWhile, h.dropWhile, if_neg h.1]
  split
  . rfl
  . rfl

theorem magnitude_whole {negative : Bool} {v : Nat} (h : magnitude negative cs = some (v, []))
    : IsDigits cs := by
  unfold magnitude at h
  dsimp only at h
  have hrest : cs.dropWhile Char.isDigit = [] ∧ cs.takeWhile Char.isDigit ≠ [] := by
    split at h
    next hnil => cases h
    next hdigits =>
      split at h
      . rw [Option.some.injEq, Prod.mk.injEq] at h
        exact ⟨h.2, hdigits⟩
      . rw [Option.some.injEq, Prod.mk.injEq] at h
        exact ⟨h.2, hdigits⟩
  have hall := List.dropWhile_eq_nil_iff.mp hrest.1
  constructor
  . intro hnil
    rw [hnil] at hrest
    exact hrest.2 rfl
  . exact hall

end Library

theorem Numeral.visible_ne_null (n : Numeral) {c : Char}
    (hc : c ∈ n.blanks ++ (n.sign ++ n.digits)) : c ≠ '\x00' := by
  rw [List.mem_append, List.mem_append] at hc
  intro hnull
  subst hnull
  cases hc with
  | inl hblank => cases n.blanks_space _ hblank
  | inr hrest =>
    cases hrest with
    | inl hsign =>
      rcases n.sign_cases with hnil | hplus | hminus
      . rw [hnil] at hsign
        cases hsign
      . rw [hplus] at hsign
        exact absurd hsign (by decide)
      . rw [hminus] at hsign
        exact absurd hsign (by decide)
    | inr hdigit => cases n.isDigits.2 _ hdigit

theorem dropWhile_blanks {blanks cs : List Char} (hblanks : ∀ c ∈ blanks, isSpace c = true)
    (hcs : ∀ c ∈ cs.head?, isSpace c = false) : (blanks ++ cs).dropWhile isSpace = cs := by
  rw [List.dropWhile_append_of_pos hblanks]
  cases cs with
  | nil => rfl
  | cons c rest =>
    rw [List.dropWhile_cons_of_neg]
    rw [hcs c rfl]
    decide

theorem Numeral.head_signed (n : Numeral)
    : ∀ c ∈ (n.sign ++ n.digits).head?, isSpace c = false := by
  intro c hc
  rcases n.sign_cases with hnil | hplus | hminus
  . rw [hnil, List.nil_append] at hc
    exact isSpace_of_isDigit (n.isDigits.2 c (List.mem_of_mem_head? hc))
  . rw [hplus] at hc
    cases hc
    rfl
  . rw [hminus] at hc
    cases hc
    rfl

theorem Numeral.signed_eq (n : Numeral) : signed (n.sign ++ n.digits) = some (n.value, []) := by
  unfold Numeral.value
  rcases n.sign_cases with hnil | hplus | hminus
  . rw [hnil, List.nil_append, signed_digits n.isDigits, magnitude_digits _ n.isDigits]
    rfl
  . rw [hplus]
    exact magnitude_digits false n.isDigits
  . rw [hminus]
    exact magnitude_digits true n.isDigits

theorem wholeNumber_text (n : Numeral) : wholeNumber n.text = some n.value := by
  have hvisible : cString n.text = n.blanks ++ (n.sign ++ n.digits) := by
    have htext : n.text = (n.blanks ++ (n.sign ++ n.digits)) ++ n.hidden := by
      rw [Numeral.text, List.append_assoc, List.append_assoc]
    rw [htext]
    exact cString_append (fun c hc => n.visible_ne_null hc) n.hidden_cases
  unfold wholeNumber
  rw [strtoul_eq, hvisible, dropWhile_blanks n.blanks_space n.head_signed, n.signed_eq]

theorem cString_hidden (cs : List Char)
    : ∃ hidden, cs = cString cs ++ hidden ∧ (hidden = [] ∨ hidden.head? = some '\x00') := by
  refine ⟨cs.dropWhile (· ≠ '\x00'), List.takeWhile_append_dropWhile.symm, ?_⟩
  cases hcase : cs.dropWhile (· ≠ '\x00') with
  | nil => exact Or.inl rfl
  | cons c rest =>
    apply Or.inr
    have hhead := List.head_dropWhile_not (fun c : Char => decide (c ≠ '\x00'))
      (l := cs) (by rw [hcase]; exact List.cons_ne_nil _ _)
    simp only [hcase, List.head_cons, decide_eq_false_iff_not, not_not] at hhead
    rw [hhead, List.head?_cons]

theorem exists_numeral {cs : List Char} {v : Nat} (h : wholeNumber cs = some v)
    : ∃ n : Numeral, cs = n.text ∧ n.value = v := by
  obtain ⟨hidden, hcs, hhidden⟩ := cString_hidden cs
  have hblanks := @List.takeWhile_append_dropWhile _ isSpace (cString cs)
  have hspace : ∀ c ∈ (cString cs).takeWhile isSpace, isSpace c = true :=
    fun c hc => List.mem_takeWhile_imp hc
  have hsigned : signed ((cString cs).dropWhile isSpace) = some (v, []) := by
    unfold wholeNumber at h
    rw [strtoul_eq] at h
    split at h
    next found hfound =>
      rw [hfound, Option.some.inj h]
    next => cases h
  -- The sign decides how the digits are read, the numeral is the same up to it.
  have hnumeral : ∃ sign digits, (cString cs).dropWhile isSpace = sign ++ digits
      ∧ (sign = [] ∨ sign = ['+'] ∨ sign = ['-']) ∧ IsDigits digits := by
    rcases signed_cases ((cString cs).dropWhile isSpace) with
      ⟨rest, hrest, heq⟩ | ⟨rest, hrest, heq⟩ | heq
    . rw [heq] at hsigned
      exact ⟨['-'], rest, hrest, by simp, magnitude_whole hsigned⟩
    . rw [heq] at hsigned
      exact ⟨['+'], rest, hrest, by simp, magnitude_whole hsigned⟩
    . rw [heq] at hsigned
      exact ⟨[], _, rfl, by simp, magnitude_whole hsigned⟩
  obtain ⟨sign, digits, hrest, hsign, hdigits⟩ := hnumeral
  refine ⟨⟨_, sign, digits, hidden, hspace, hsign, hdigits, hhidden⟩, ?_, ?_⟩
  . rw [Numeral.text]
    dsimp only
    rw [← List.append_assoc sign, ← hrest, ← List.append_assoc, hblanks]
    exact hcs
  . have hvalue := Numeral.signed_eq ⟨_, sign, digits, hidden, hspace, hsign, hdigits, hhidden⟩
    dsimp only at hvalue
    rw [← hrest, hsigned, Option.some.injEq, Prod.mk.injEq] at hvalue
    exact hvalue.1.symm

/-! ### The parts of a value -/

section Parts

variable {text digits : List Char}

theorem splitResolution_slash (h : '/' ∉ digits) (resolution : List Char)
    : splitResolution (digits ++ '/' :: resolution) = (digits, resolution) := by
  have hne : ∀ c ∈ digits, decide (c ≠ '/') = true :=
    fun c hc => decide_eq_true (fun heq => h (heq ▸ hc))
  unfold splitResolution
  rw [if_pos (List.mem_append_right _ List.mem_cons_self), List.takeWhile_append_of_pos hne,
    List.dropWhile_append_of_pos hne, List.takeWhile_cons_of_neg (by decide), List.append_nil,
    List.dropWhile_cons_of_neg (by decide), List.tail_cons]

theorem IsDigits.slash_notMem (h : IsDigits digits) : '/' ∉ digits := by
  intro hmem
  cases h.2 _ hmem

theorem splitResolution_cases (text : List Char)
    : ('/' ∉ text ∧ splitResolution text = (text, ['1']))
        ∨ text = (splitResolution text).1 ++ '/' :: (splitResolution text).2 := by
  unfold splitResolution
  split
  next hmem =>
    apply Or.inr
    have hparts := @List.takeWhile_append_dropWhile _ (fun c : Char => decide (c ≠ '/')) text
    have hslash : text.dropWhile (fun c => decide (c ≠ '/'))
        = '/' :: (text.dropWhile (fun c => decide (c ≠ '/'))).tail := by
      cases hcase : text.dropWhile (fun c => decide (c ≠ '/')) with
      | nil =>
        have hall := List.dropWhile_eq_nil_iff.mp hcase _ hmem
        exact absurd rfl (of_decide_eq_true hall)
      | cons c rest =>
        have hhead := List.head_dropWhile_not (fun c : Char => decide (c ≠ '/'))
          (l := text) (by rw [hcase]; exact List.cons_ne_nil _ _)
        simp only [hcase, List.head_cons, decide_eq_false_iff_not, not_not] at hhead
        rw [hhead, List.tail_cons]
    dsimp only
    rw [← hslash, hparts]
  next hmem => exact Or.inl ⟨hmem, rfl⟩

theorem splitConversion_cases (resolution : List Char)
    : (∃ flag, (flag = 's' ∨ flag = 'S')
          ∧ resolution = (splitConversion resolution).2 ++ [flag]
          ∧ (splitConversion resolution).1 = .shift)
        ∨ splitConversion resolution = (.mirror, resolution) := by
  unfold splitConversion
  split
  next hlast =>
    have hends := List.dropLast_append_getLast? 's' hlast
    exact Or.inl ⟨'s', Or.inl rfl, hends.symm, rfl⟩
  next hlast =>
    have hends := List.dropLast_append_getLast? 'S' hlast
    exact Or.inl ⟨'S', Or.inr rfl, hends.symm, rfl⟩
  next => exact Or.inr rfl

theorem splitConversion_flag (count : List Char) {flag : Char} (hflag : flag = 's' ∨ flag = 'S')
    : splitConversion (count ++ [flag]) = (.shift, count) := by
  unfold splitConversion
  rw [List.getLast?_append, List.getLast?_singleton, List.dropLast_concat]
  cases hflag with
  | inl hlower =>
    rw [hlower]
    rfl
  | inr hupper =>
    rw [hupper]
    rfl

theorem splitConversion_count {count : Char} (hcount : count ∈ byteCounts)
    : splitConversion [count] = (.mirror, [count]) := by
  simp only [byteCounts, List.mem_cons, List.not_mem_nil, or_false] at hcount
  rcases hcount with h | h | h | h
  . rw [h]
    rfl
  . rw [h]
    rfl
  . rw [h]
    rfl
  . rw [h]
    rfl

theorem dmxValueForm_iff {number bytes : Nat} {conversion : DmxValueConversion}
    : DmxValueForm text number bytes conversion
        ↔ IsDigits (splitResolution text).1 ∧ number = decimal (splitResolution text).1
          ∧ (splitConversion (splitResolution text).2).1 = conversion
          ∧ ∃ count ∈ byteCounts, (splitConversion (splitResolution text).2).2 = [count]
            ∧ bytes = decimal [count] := by
  constructor
  . intro h
    cases h with
    | plain digits hdigits =>
      have hsplit : splitResolution text = (text, ['1']) := if_neg hdigits.slash_notMem
      rw [hsplit]
      exact ⟨hdigits, rfl, rfl, '1', by decide, rfl, rfl⟩
    | mirrored digits count hdigits hcount =>
      rw [splitResolution_slash hdigits.slash_notMem, splitConversion_count hcount]
      exact ⟨hdigits, rfl, rfl, count, hcount, rfl, rfl⟩
    | shifted digits count flag hdigits hcount hflag =>
      rw [splitResolution_slash hdigits.slash_notMem]
      have hflagged := splitConversion_flag [count] hflag
      rw [List.singleton_append] at hflagged
      rw [hflagged]
      exact ⟨hdigits, rfl, rfl, count, hcount, rfl, rfl⟩
  . rintro ⟨hdigits, hnumber, hconversion, count, hcount, htext, hbytes⟩
    subst hnumber hconversion hbytes
    cases splitResolution_cases text with
    | inl hplain =>
      rw [hplain.2] at hdigits htext ⊢
      have hone : count = '1' := by
        cases htext
        rfl
      rw [hone]
      exact DmxValueForm.plain text hdigits
    | inr hslash =>
      generalize splitResolution text = parts at hdigits htext hslash ⊢
      rw [hslash]
      cases splitConversion_cases parts.2 with
      | inl hflagged =>
        obtain ⟨flag, hflag, hresolution, hshift⟩ := hflagged
        rw [hshift]
        rw [htext] at hresolution
        rw [hresolution]
        exact DmxValueForm.shifted _ count flag hdigits hcount hflag
      | inr hmirror =>
        rw [hmirror] at htext ⊢
        rw [htext]
        exact DmxValueForm.mirrored _ count hdigits hcount

end Parts

/-! ### What the code accepts -/

theorem parseGdtfDmxValue_numerals {raw : String} {number count : Numeral}
    (hnumber : (splitResolution (trimChars raw.toList)).1 = number.text)
    (hcount : (splitConversion (splitResolution (trimChars raw.toList)).2).2 = count.text)
    (hpos : 1 ≤ count.value) (hbytes : count.value ≤ 4)
    (hrange : number.value ≤ 256 ^ count.value - 1)
    : parseGdtfDmxValue raw = some ⟨UInt32.ofNat number.value, UInt8.ofNat count.value,
        (splitConversion (splitResolution (trimChars raw.toList)).2).1⟩ := by
  have hnonempty : ∀ n : Numeral, n.text ≠ [] := by
    intro n hempty
    simp only [Numeral.text, List.append_eq_nil_iff] at hempty
    exact n.isDigits.1 hempty.2.2.1
  have htext : trimChars raw.toList ≠ [] := by
    intro hempty
    rw [hempty] at hnumber
    exact hnonempty number hnumber.symm
  have hresolution : (splitResolution (trimChars raw.toList)).2 ≠ [] := by
    intro hempty
    rw [hempty] at hcount
    exact hnonempty count hcount.symm
  have hwidth : (UInt8.ofNat count.value).toNat = count.value := by
    rw [UInt8.toNat_ofNat']
    omega
  have hmax : (byteMax (UInt8.ofNat count.value)).toNat = 256 ^ count.value - 1 := by
    rw [toNat_byteMax, hwidth]
    . rw [UInt8.le_iff_toNat_le, hwidth]
      exact hpos
    . rw [UInt8.le_iff_toNat_le, hwidth]
      exact hbytes
  unfold parseGdtfDmxValue
  dsimp only
  rw [if_neg (not_or.mpr ⟨htext, hresolution⟩), hcount, wholeNumber_text]
  dsimp only
  rw [if_neg (by omega), hnumber, wholeNumber_text]
  dsimp only
  rw [hmax, if_neg (by omega)]

theorem numerals_of_parseGdtfDmxValue {raw : String} {parsed : ParsedDmxValue}
    (h : parseGdtfDmxValue raw = some parsed)
    : ∃ number count : Numeral,
        (splitResolution (trimChars raw.toList)).1 = number.text
          ∧ (splitConversion (splitResolution (trimChars raw.toList)).2).2 = count.text
          ∧ 1 ≤ count.value ∧ count.value ≤ 4 ∧ number.value ≤ 256 ^ count.value - 1 := by
  unfold parseGdtfDmxValue at h
  dsimp only at h
  split at h
  next => cases h
  next =>
    split at h
    next => cases h
    next bytes hcount =>
      obtain ⟨count, hcountText, hcountValue⟩ := exists_numeral hcount
      split at h
      next => cases h
      next hbytes =>
        split at h
        next => cases h
        next value hnumber =>
          obtain ⟨number, hnumberText, hnumberValue⟩ := exists_numeral hnumber
          split at h
          next => cases h
          next hrange =>
            have hwidth : (UInt8.ofNat bytes).toNat = bytes := by
              rw [UInt8.toNat_ofNat']
              omega
            rw [toNat_byteMax, hwidth] at hrange
            . subst hcountValue hnumberValue
              exact ⟨number, count, hnumberText, hcountText, by omega, by omega, by omega⟩
            . rw [UInt8.le_iff_toNat_le, hwidth]
              exact Nat.not_lt.mp (fun hlt => hbytes (Or.inl hlt))
            . rw [UInt8.le_iff_toNat_le, hwidth]
              exact Nat.not_lt.mp (fun hlt => hbytes (Or.inr hlt))

theorem decimal_byteCounts {count : Char} (h : count ∈ byteCounts)
    : IsDigits [count] ∧ 1 ≤ decimal [count] ∧ decimal [count] ≤ 4 := by
  simp only [byteCounts, List.mem_cons, List.not_mem_nil, or_false] at h
  have hdigits : count.isDigit = true → IsDigits [count] := by
    intro hdigit
    refine ⟨List.cons_ne_nil _ _, fun c hc => ?_⟩
    rw [List.mem_singleton.mp hc]
    exact hdigit
  rcases h with h | h | h | h
  . exact ⟨hdigits (by rw [h]; rfl), by rw [h]; decide⟩
  . exact ⟨hdigits (by rw [h]; rfl), by rw [h]; decide⟩
  . exact ⟨hdigits (by rw [h]; rfl), by rw [h]; decide⟩
  . exact ⟨hdigits (by rw [h]; rfl), by rw [h]; decide⟩

theorem mem_byteCounts {count : Char} (hdigit : count.isDigit = true) (hpos : 1 ≤ decimal [count])
    (hbytes : decimal [count] ≤ 4) : count ∈ byteCounts := by
  rw [isDigit_iff] at hdigit
  have hvalue : decimal [count] = count.toNat - 48 := by simp [decimal]
  rw [hvalue] at hpos hbytes
  have hcases : count.toNat = 49 ∨ count.toNat = 50 ∨ count.toNat = 51 ∨ count.toNat = 52 := by
    omega
  have hchar : ∀ c : Char, count.toNat = c.toNat → count = c := fun c h => Char.toNat_inj.mp h
  simp only [byteCounts, List.mem_cons, List.not_mem_nil, or_false]
  rcases hcases with h | h | h | h
  . exact Or.inl (hchar '1' h)
  . exact Or.inr (Or.inl (hchar '2' h))
  . exact Or.inr (Or.inr (Or.inl (hchar '3' h)))
  . exact Or.inr (Or.inr (Or.inr (hchar '4' h)))

theorem parseGdtfDmxValue_of_form {raw : String} {parsed : ParsedDmxValue}
    (h : IsDmxValue raw parsed) : parseGdtfDmxValue raw = some parsed := by
  obtain ⟨hform, hrange⟩ := h
  rw [dmxValueForm_iff] at hform
  obtain ⟨hdigits, hnumber, hconversion, count, hcount, hcountText, hbytes⟩ := hform
  obtain ⟨hcountDigits, hpos, hfour⟩ := decimal_byteCounts hcount
  rw [hnumber, hbytes] at hrange
  have hwidth : 256 ^ decimal [count] ≤ 256 ^ 4 := Nat.pow_le_pow_right (by omega) hfour
  have hfits : decimal (splitResolution (trimChars raw.toList)).1 ≤ ulongMax := by
    unfold ulongMax
    omega
  have hcountFits : decimal [count] ≤ ulongMax := by
    unfold ulongMax
    omega
  have hnumberValue := Numeral.value_ofDigits hdigits hfits
  have hcountValue := Numeral.value_ofDigits hcountDigits hcountFits
  rw [@parseGdtfDmxValue_numerals raw (Numeral.ofDigits _ hdigits)
    (Numeral.ofDigits _ hcountDigits), hnumberValue, hcountValue, hconversion, ← hnumber, ← hbytes,
    UInt32.ofNat_toNat, UInt8.ofNat_toNat]
  . exact (Numeral.text_ofDigits hdigits).symm
  . rw [hcountText]
    exact (Numeral.text_ofDigits hcountDigits).symm
  . rw [hcountValue]
    exact hpos
  . rw [hcountValue]
    exact hfour
  . rw [hnumberValue, hcountValue]
    exact hrange

theorem isDmxValue_of_plain {raw : String} {parsed : ParsedDmxValue} {number count : Numeral}
    (hparsed : parseGdtfDmxValue raw = some parsed)
    (hnumber : (splitResolution (trimChars raw.toList)).1 = number.text)
    (hcount : (splitConversion (splitResolution (trimChars raw.toList)).2).2 = count.text)
    (hpos : 1 ≤ count.value) (hbytes : count.value ≤ 4)
    (hrange : number.value ≤ 256 ^ count.value - 1) (hnumberPlain : number.Plain)
    (hcountPlain : count.Plain) (hlength : count.digits.length = 1) : IsDmxValue raw parsed := by
  rw [parseGdtfDmxValue_numerals hnumber hcount hpos hbytes hrange] at hparsed
  have hwidth : 256 ^ count.value ≤ 256 ^ 4 := Nat.pow_le_pow_right (by omega) hbytes
  have hnumberValue := Numeral.value_of_plain hnumberPlain (by unfold ulongMax; omega)
  have hcountValue := Numeral.value_of_plain hcountPlain (by unfold ulongMax; omega)
  have hvalue : (UInt32.ofNat number.value).toNat = number.value := by
    rw [UInt32.toNat_ofNat']
    omega
  have hcountByte : (UInt8.ofNat count.value).toNat = count.value := by
    rw [UInt8.toNat_ofNat']
    omega
  rw [Numeral.text_of_plain hnumberPlain] at hnumber
  rw [Numeral.text_of_plain hcountPlain] at hcount
  obtain ⟨c, hdigit⟩ := List.length_eq_one_iff.mp hlength
  rw [hdigit] at hcount hcountValue
  have hisDigit : c.isDigit = true := by
    apply count.isDigits.2
    rw [hdigit]
    exact List.mem_cons_self
  rw [← Option.some.inj hparsed]
  unfold IsDmxValue
  dsimp only
  rw [dmxValueForm_iff, hvalue, hcountByte, hnumber]
  refine ⟨⟨number.isDigits, hnumberValue, rfl, c, ?_, hcount, hcountValue⟩, hrange⟩
  apply mem_byteCounts hisDigit
  . omega
  . omega

/--
The code reads a text exactly as the lexical forms say unless the numbers of the library let in a
text beyond them.
-/
theorem parseGdtfDmxValue_iff_forms (raw : String)
    : (∀ parsed, parseGdtfDmxValue raw = some parsed ↔ IsDmxValue raw parsed)
        ↔ ¬ BeyondForms raw := by
  constructor
  . rintro hiff ⟨number, count, hnumber, hcount, hpos, hbytes, hrange, hbeyond⟩
    have hparsed := parseGdtfDmxValue_numerals hnumber hcount hpos hbytes hrange
    obtain ⟨hdigits, _, _, c, hc, hcountText, _⟩ := dmxValueForm_iff.mp ((hiff _).mp hparsed).1
    rw [hnumber] at hdigits
    rw [hcount] at hcountText
    have hcountDigits := (decimal_byteCounts hc).1
    rw [← hcountText] at hcountDigits
    have hnumberPlain := Numeral.plain_of_isDigits hdigits.2
    have hcountPlain := Numeral.plain_of_isDigits hcountDigits.2
    apply hbeyond
    refine ⟨hnumberPlain, hcountPlain, ?_⟩
    rw [← Numeral.text_of_plain hcountPlain, hcountText, List.length_singleton]
  . intro hforms parsed
    constructor
    . intro hparsed
      obtain ⟨number, count, hnumber, hcount, hpos, hbytes, hrange⟩ :=
        numerals_of_parseGdtfDmxValue hparsed
      have hplain : number.Plain ∧ count.Plain ∧ count.digits.length = 1 := by
        by_contra hbeyond
        exact hforms ⟨number, count, hnumber, hcount, hpos, hbytes, hrange, hbeyond⟩
      exact isDmxValue_of_plain hparsed hnumber hcount hpos hbytes hrange hplain.1 hplain.2.1
        hplain.2.2
    . exact parseGdtfDmxValue_of_form

/-- A sign in front of the number. -/
theorem parseGdtfDmxValue_plus
    : ¬ ∀ raw parsed, parseGdtfDmxValue raw = some parsed ↔ IsDmxValue raw parsed := by
  intro hiff
  have hparsed : parseGdtfDmxValue "+7/1" = some ⟨7, 1, .mirror⟩ := by decide +kernel
  have hdigits := (dmxValueForm_iff.mp ((hiff "+7/1" _).mp hparsed).1).1
  have hplus : '+' ∈ (splitResolution (trimChars "+7/1".toList)).1 := by decide +kernel
  cases hdigits.2 _ hplus

end Peraviz.Gdtf
