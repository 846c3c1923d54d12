import Peraviz.Gdtf.AttributeIdentity

/-!
This module contains the grammar of the official attribute names and the proof that the matcher
follows it, except for the numerals that are too large for an `int`.
-/

namespace Peraviz.Gdtf

open CheckedInt Numerals Peraviz.Runtime

def itemsOf : List Char → List Item
  | '(' :: 'n' :: ')' :: pattern => .numeral :: itemsOf pattern
  | c :: pattern => .literal c :: itemsOf pattern
  | [] => []

def AttributePattern.items (pattern : AttributePattern) : List Item :=
  itemsOf pattern.canonicalPattern.toList

/-- What the items of a pattern have behind the first wildcard. -/
def AttributePattern.suffixItems (pattern : AttributePattern) : List Item :=
  itemsOf (pattern.canonicalPattern.toList.drop (pattern.family.toList.length + 3))

/-- The indexes are the values of the numerals. -/
def Denotes (indexes : List Int32) (numerals : List (List Char)) : Prop :=
  indexes.map Int32.toInt = numerals.map (fun digits => (decimal digits : Int))

def ExceedsInt (digits : List Char) : Prop :=
  2147483647 < decimal digits

/-- The name is spelled by an official pattern of the family, with these indexes. -/
def IsOfficial (name : String) (family : String) (indexes : List Int32) : Prop :=
  ∃ pattern ∈ officialAttributePatterns, pattern.family = family ∧
    ∃ numerals, Spells pattern.items name.toList numerals ∧ Denotes indexes numerals

/-- The name is an exact gobo name up to its letters' case and the blanks around it. -/
def IsGoboAttribute (name : String) (wheelNumber : Int32) : Prop :=
  ∃ definition ∈ goboDefinitions, ∃ digits, IsNumeral digits ∧ 0 < wheelNumber.toInt ∧
    (decimal digits : Int) = wheelNumber.toInt ∧
    lowerToken name.toList = "gobo".toList ++ (digits ++ definition.1.toList)

/-- An official pattern spells the name up to a wildcard where it has a numeral above the range. -/
def HasExceedingNumeral (name : String) : Prop :=
  ∃ pattern ∈ officialAttributePatterns, Meets ExceedsInt pattern.items name.toList

/-! ### Numbers -/

theorem stoi_fits {digits : List Char} (h : ¬ ExceedsInt digits)
    : ∃ value, stoi digits = .ok value ∧ value.toInt = decimal digits := by
  have hfits : -2147483648 ≤ (decimal digits : Int) ∧ (decimal digits : Int) < 2147483648 := by
    rw [ExceedsInt] at h
    omega
  obtain ⟨value, hvalue, heq⟩ := defined_narrow hfits
  refine ⟨value, ?_, heq⟩
  rw [stoi, hvalue]
  rfl

theorem stoi_exceeds {digits : List Char} (h : ExceedsInt digits)
    : stoi digits = .error .outOfRange := by
  have hnarrow : narrow (decimal digits) = none := by
    rw [narrow, if_neg]
    rw [ExceedsInt] at h
    omega
  rw [stoi, hnarrow]
  rfl

theorem not_exceedsInt_of_eq {digits : List Char} {value : Int32}
    (h : (decimal digits : Int) = value.toInt) : ¬ ExceedsInt digits := by
  have hupper := value.toInt_lt
  rw [ExceedsInt]
  omega

theorem readNumber_exceeds {text : List Char} (hrun : text.takeWhile Char.isDigit ≠ [])
    (h : ExceedsInt (text.takeWhile Char.isDigit)) : readNumber text = .error .outOfRange := by
  rw [readNumber, if_neg hrun, stoi_exceeds h]

theorem readNumber_fits {text : List Char} (hrun : text.takeWhile Char.isDigit ≠ [])
    (h : ¬ ExceedsInt (text.takeWhile Char.isDigit))
    : ∃ value, readNumber text = .ok (some (value, text.dropWhile Char.isDigit)) ∧
        value.toInt = decimal (text.takeWhile Char.isDigit) := by
  obtain ⟨value, hvalue, heq⟩ := stoi_fits h
  refine ⟨value, ?_, heq⟩
  rw [readNumber, if_neg hrun, hvalue]

/-! ### The matcher of one pattern -/

/-- What is read of the text by the items, behind the indexes that are read already. -/
def ReadsAfter (items : List Item) (done : List Int32) (text : List Char) (indexes : List Int32)
    : Prop :=
  ∃ numerals more, scan items text = some numerals ∧ indexes = done ++ more ∧
    Denotes more numerals

/-- A matcher fails where the items meet a numeral that is too large, else it tells what they
read. -/
def Decides (items : List Item) (done : List Int32) (text : List Char)
    (x : Except StandardException (Option (List Int32))) : Prop :=
  match x with
  | .error _ => Meets ExceedsInt items text
  | .ok found => ¬ Meets ExceedsInt items text ∧
    ∀ indexes, found = some indexes ↔ ReadsAfter items done text indexes

namespace Decides

variable {items : List Item} {done : List Int32} {text : List Char}

theorem not_meets_literals {literals : List Char}
    : ¬ Meets ExceedsInt (literals.map Item.literal) text := by
  intro h
  rw [← List.append_nil (literals.map Item.literal)] at h
  obtain ⟨_, _, h⟩ := prefix_of_meets h
  exact h

theorem scan_literals_iff {literals : List Char} {numerals : List (List Char)}
    : scan (literals.map Item.literal) text = some numerals ↔ text = literals ∧ numerals = [] := by
  constructor
  . intro h
    rw [← List.append_nil (literals.map Item.literal)] at h
    obtain ⟨rest, htext, hrest⟩ := prefix_of_scan h
    cases rest with
    | nil =>
      cases hrest
      exact ⟨by rw [htext, List.append_nil], rfl⟩
    | cons c rest => cases hrest
  . intro h
    have hscan := @scan_literals literals [] []
    rw [List.append_nil, List.append_nil] at hscan
    rw [h.1, h.2, hscan]
    rfl

theorem literals {literals : List Char}
    : Decides (literals.map Item.literal) done text
        (.ok (if text = literals then some done else none)) := by
  refine ⟨not_meets_literals, ?_⟩
  intro indexes
  constructor
  . intro h
    split at h
    next htext =>
      cases h
      exact ⟨[], [], scan_literals_iff.mpr ⟨htext, rfl⟩, by simp, rfl⟩
    next => cases h
  . intro h
    obtain ⟨numerals, more, hscan, hindexes, hmore⟩ := h
    obtain ⟨htext, hnumerals⟩ := scan_literals_iff.mp hscan
    rw [hnumerals] at hmore
    rw [if_pos htext, hindexes, List.map_eq_nil_iff.mp hmore, List.append_nil]

theorem pre {literals rest : List Char} {x : Except StandardException (Option (List Int32))}
    (h : Decides items done rest x)
    : Decides (literals.map Item.literal ++ items) done (literals ++ rest) x := by
  cases x with
  | error e => exact meets_literals.mpr h
  | ok found =>
    refine ⟨fun hmeets => h.1 (meets_literals.mp hmeets), ?_⟩
    intro indexes
    rw [h.2 indexes, ReadsAfter, ReadsAfter, scan_literals]

theorem noPrefix {literals : List Char} (h : ¬ literals <+: text)
    : Decides (literals.map Item.literal ++ items) done text (.ok none) := by
  constructor
  . intro hmeets
    obtain ⟨rest, htext, _⟩ := prefix_of_meets hmeets
    exact h ⟨rest, htext.symm⟩
  . intro indexes
    constructor
    . intro hnone
      cases hnone
    . intro hreads
      obtain ⟨numerals, more, hscan, _⟩ := hreads
      obtain ⟨rest, htext, _⟩ := prefix_of_scan hscan
      exact absurd ⟨rest, htext.symm⟩ h

theorem number {next : Int32 → List Char → Except StandardException (Option (List Int32))}
    (h : ∀ value rest, Decides items (done ++ [value]) rest (next value rest))
    : Decides (.numeral :: items) done text (withNumber text next) := by
  rw [withNumber]
  by_cases hrun : text.takeWhile Char.isDigit = []
  . rw [readNumber, if_pos hrun]
    constructor
    . intro hmeets
      exact hmeets.1 hrun
    . intro indexes
      constructor
      . intro hnone
        cases hnone
      . intro hreads
        obtain ⟨numerals, more, hscan, _⟩ := hreads
        rw [scan, if_pos hrun] at hscan
        cases hscan
  . by_cases hexceeds : ExceedsInt (text.takeWhile Char.isDigit)
    . rw [readNumber_exceeds hrun hexceeds]
      exact ⟨hrun, .inl hexceeds⟩
    . obtain ⟨value, hvalue, heq⟩ := readNumber_fits hrun hexceeds
      rw [hvalue]
      have hnext := h value (text.dropWhile Char.isDigit)
      dsimp only
      generalize next value (text.dropWhile Char.isDigit) = x at hnext ⊢
      cases x with
      | error e => exact ⟨hrun, .inr hnext⟩
      | ok found =>
        refine ⟨fun hmeets => hmeets.2.elim hexceeds hnext.1, ?_⟩
        intro indexes
        rw [hnext.2 indexes]
        constructor
        . intro hreads
          obtain ⟨numerals, more, hscan, hindexes, hmore⟩ := hreads
          refine ⟨text.takeWhile Char.isDigit :: numerals, value :: more, ?_, ?_, ?_⟩
          . rw [scan, if_neg hrun, hscan]
            rfl
          . rw [hindexes, List.append_assoc]
            rfl
          . rw [Denotes, List.map_cons, List.map_cons, heq, hmore]
        . intro hreads
          obtain ⟨numerals, more, hscan, hindexes, hmore⟩ := hreads
          rw [scan, if_neg hrun] at hscan
          obtain ⟨tail, htail, hnumerals⟩ := Option.map_eq_some_iff.mp hscan
          rw [← hnumerals, Denotes] at hmore
          cases more with
          | nil => cases hmore
          | cons first more =>
            rw [List.map_cons, List.map_cons, List.cons.injEq] at hmore
            have hfirst : first = value := Int32.toInt_inj.mp (hmore.1.trans heq.symm)
            refine ⟨tail, more, htail, ?_, hmore.2⟩
            rw [hindexes, hfirst, List.append_assoc]
            rfl

end Decides

/-- What the items of a pattern have behind its family. -/
def AttributePattern.wildcardItems (pattern : AttributePattern) : List Item :=
  if pattern.wildcardCount = 0 then [] else .numeral :: pattern.suffixItems

theorem official_items
    : ∀ pattern ∈ officialAttributePatterns,
        pattern.items = pattern.family.toList.map Item.literal ++ pattern.wildcardItems
        ∧ (pattern.wildcardCount = 0 ∨
          (pattern.canonicalPattern = "Blade(n)A" ∧ pattern.suffixItems = ['A'].map Item.literal) ∨
          (pattern.canonicalPattern = "Blade(n)B" ∧ pattern.suffixItems = ['B'].map Item.literal) ∨
          (pattern.canonicalPattern = "VideoEffect(n)Parameter(n)" ∧
            pattern.suffixItems = "Parameter".toList.map Item.literal ++ [.numeral]) ∨
          (pattern.canonicalPattern ∉ ["Blade(n)A", "Blade(n)B", "VideoEffect(n)Parameter(n)"] ∧
            pattern.suffixItems = [].map Item.literal)) := by
  decide +kernel

theorem items_eq {pattern : AttributePattern} (h : pattern ∈ officialAttributePatterns)
    : pattern.items = pattern.family.toList.map Item.literal ++ pattern.wildcardItems :=
  (official_items pattern h).1

theorem matchSuffix_decides {pattern : AttributePattern} (h : pattern ∈ officialAttributePatterns)
    (hcount : pattern.wildcardCount ≠ 0) (primary : Int32) (text : List Char)
    : Decides pattern.suffixItems [primary] text (matchSuffix pattern primary text) := by
  rw [matchSuffix]
  rcases (official_items pattern h).2 with hzero | hblade | hblade | hvideo | hplain
  . exact absurd hzero hcount
  . rw [if_pos hblade.1, hblade.2]
    exact .literals
  . rw [if_neg (by rw [hblade.1]; decide), if_pos hblade.1, hblade.2]
    exact .literals
  . rw [if_neg (by rw [hvideo.1]; decide), if_neg (by rw [hvideo.1]; decide), if_pos hvideo.1,
      hvideo.2]
    by_cases hfamily : "Parameter".toList <+: text
    . obtain ⟨rest, hrest⟩ := hfamily
      have htake : text.take 9 = "Parameter".toList := by
        rw [← hrest]
        exact List.take_left' (by decide)
      have hdrop : text.drop 9 = rest := by
        rw [← hrest]
        exact List.drop_left' (by decide)
      rw [if_neg (not_not_intro htake), hdrop, ← hrest]
      apply Decides.pre
      apply Decides.number
      intro value rest
      exact @Decides.literals _ _ []
    . rw [if_pos]
      . exact Decides.noPrefix hfamily
      . intro htake
        exact hfamily ⟨text.drop 9, by rw [← htake]; exact List.take_append_drop 9 text⟩
  . simp only [List.mem_cons, List.not_mem_nil, or_false, not_or] at hplain
    rw [if_neg hplain.1.1, if_neg hplain.1.2.1, if_neg hplain.1.2.2, hplain.2]
    exact .literals

theorem matchOfficialPattern_decides {pattern : AttributePattern}
    (h : pattern ∈ officialAttributePatterns) (name : List Char)
    : Decides pattern.items [] name (matchOfficialPattern name pattern) := by
  rw [matchOfficialPattern, items_eq h]
  by_cases hfamily : pattern.family.toList <+: name
  . obtain ⟨rest, hrest⟩ := hfamily
    have hpre : pattern.family.toList.isPrefixOf name = true := by
      rw [List.isPrefixOf_iff_prefix]
      exact ⟨rest, hrest⟩
    rw [hpre, if_neg Bool.noConfusion, ← hrest, List.drop_left]
    apply Decides.pre
    rw [AttributePattern.wildcardItems]
    by_cases hcount : pattern.wildcardCount = 0
    . rw [if_pos hcount, if_pos hcount]
      exact @Decides.literals _ _ []
    . rw [if_neg hcount, if_neg hcount]
      exact Decides.number (matchSuffix_decides h hcount)
  . rw [if_pos]
    . exact Decides.noPrefix hfamily
    . rw [← Bool.not_eq_true, List.isPrefixOf_iff_prefix]
      exact hfamily

/-! ### All patterns -/

theorem readsAfter_nil {items : List Item} {text : List Char} {indexes : List Int32}
    : ReadsAfter items [] text indexes ↔
        ∃ numerals, scan items text = some numerals ∧ Denotes indexes numerals := by
  simp [ReadsAfter]

theorem Denotes.inj {indexes indexes' : List Int32} {numerals : List (List Char)}
    (h : Denotes indexes numerals) (h' : Denotes indexes' numerals) : indexes = indexes' :=
  List.map_injective_iff.mpr (fun _ _ => Int32.toInt_inj.mp) (h.trans h'.symm)

theorem Denotes.fits {indexes : List Int32} {numerals : List (List Char)}
    (h : Denotes indexes numerals) : ∀ digits ∈ numerals, ¬ ExceedsInt digits := by
  intro digits hdigits
  have hmem := List.mem_map_of_mem (f := fun digits => (decimal digits : Int)) hdigits
  rw [← h] at hmem
  obtain ⟨value, _, hvalue⟩ := List.mem_map.mp hmem
  exact not_exceedsInt_of_eq hvalue.symm

section

variable {pattern other : AttributePattern} {name : List Char} {indexes : List Int32}

theorem not_meets_of_reads (h : ReadsAfter pattern.items [] name indexes)
    : ¬ Meets ExceedsInt pattern.items name := by
  obtain ⟨numerals, hscan, hnumerals⟩ := readsAfter_nil.mp h
  exact not_meets_of_scan hscan hnumerals.fits

theorem reads_inj {indexes' : List Int32} (h : ReadsAfter pattern.items [] name indexes)
    (h' : ReadsAfter pattern.items [] name indexes') : indexes = indexes' := by
  obtain ⟨numerals, hscan, hnumerals⟩ := readsAfter_nil.mp h
  obtain ⟨numerals', hscan', hnumerals'⟩ := readsAfter_nil.mp h'
  rw [hscan] at hscan'
  cases hscan'
  exact hnumerals.inj hnumerals'

/-- What a pattern says about a name that begins with its family: the name is official by it, or it
fails at it. -/
def Concerns (pattern : AttributePattern) (name : List Char) : Prop :=
  Meets ExceedsInt pattern.items name ∨ ∃ indexes, ReadsAfter pattern.items [] name indexes

theorem Concerns.behind (h : pattern ∈ officialAttributePatterns) (hname : Concerns pattern name)
    : ∃ rest, name = pattern.family.toList ++ rest ∧
        (Meets ExceedsInt pattern.wildcardItems rest ∨
          ∃ indexes, ReadsAfter pattern.wildcardItems [] rest indexes) := by
  rw [Concerns, items_eq h] at hname
  cases hname with
  | inl hmeets =>
    obtain ⟨rest, hrest, hmeets⟩ := prefix_of_meets hmeets
    exact ⟨rest, hrest, .inl hmeets⟩
  | inr hreads =>
    obtain ⟨indexes, numerals, more, hscan, hindexes, hmore⟩ := hreads
    obtain ⟨rest, hrest, hscan⟩ := prefix_of_scan hscan
    exact ⟨rest, hrest, .inr ⟨indexes, numerals, more, hscan, hindexes, hmore⟩⟩

-- No family is a proper prefix of another, and only the blades share a family.
theorem official_families
    : ∀ pattern ∈ officialAttributePatterns, ∀ other ∈ officialAttributePatterns,
        (pattern.family.toList.isPrefixOf other.family.toList = true →
          pattern.family = other.family)
        ∧ (pattern.family = other.family → pattern = other ∨
          (pattern.wildcardItems = [.numeral, .literal 'A'] ∧
            other.wildcardItems = [.numeral, .literal 'B']) ∨
          (pattern.wildcardItems = [.numeral, .literal 'B'] ∧
            other.wildcardItems = [.numeral, .literal 'A'])) := by
  decide +kernel

theorem blades_disjoint {c d : Char} {rest : List Char} (hne : c ≠ d)
    (h : ReadsAfter [.numeral, .literal c] [] rest indexes)
    : ¬ (Meets ExceedsInt [.numeral, .literal d] rest ∨
        ∃ indexes, ReadsAfter [.numeral, .literal d] [] rest indexes) := by
  obtain ⟨numerals, hscan, hnumerals⟩ := readsAfter_nil.mp h
  rw [scan] at hscan
  split at hscan
  next => cases hscan
  next hrun =>
    obtain ⟨tail, htail, heq⟩ := Option.map_eq_some_iff.mp hscan
    have hrest : rest.dropWhile Char.isDigit = [c] :=
      (@Decides.scan_literals_iff _ [c] tail).mp htail |>.1
    rw [← heq] at hnumerals
    intro hother
    cases hother with
    | inl hmeets =>
      cases hmeets.2 with
      | inl hexceeds => exact hnumerals.fits _ List.mem_cons_self hexceeds
      | inr hmeets =>
        rw [hrest] at hmeets
        exact hmeets.2
    | inr hreads =>
      obtain ⟨indexes', numerals', _, hscan', _⟩ := hreads
      rw [scan, if_neg hrun, hrest, scan, if_neg (Ne.symm hne)] at hscan'
      cases hscan'

theorem pattern_unique (h : pattern ∈ officialAttributePatterns)
    (hother : other ∈ officialAttributePatterns)
    (hreads : ReadsAfter pattern.items [] name indexes) (hconcerns : Concerns other name)
    : pattern = other := by
  have hfull : Concerns pattern name := .inr ⟨indexes, hreads⟩
  obtain ⟨rest, hrest, _⟩ := hfull.behind h
  obtain ⟨rest', hrest', hbehind⟩ := hconcerns.behind hother
  have hfamily : pattern.family = other.family := by
    have hbegins : pattern.family.toList <+: name := ⟨rest, hrest.symm⟩
    have hbegins' : other.family.toList <+: name := ⟨rest', hrest'.symm⟩
    cases List.prefix_or_prefix_of_prefix hbegins hbegins' with
    | inl hle => exact (official_families pattern h other hother).1 (List.isPrefixOf_iff_prefix.mpr hle)
    | inr hle =>
      exact ((official_families other hother pattern h).1
        (List.isPrefixOf_iff_prefix.mpr hle)).symm
  rw [hrest, hfamily, List.append_cancel_left_eq] at hrest'
  rw [items_eq h, hrest, ReadsAfter] at hreads
  simp only [scan_literals] at hreads
  rw [← hrest'] at hbehind
  rcases (official_families pattern h other hother).2 hfamily with heq | hblades | hblades
  . exact heq
  . rw [hblades.1] at hreads
    rw [hblades.2] at hbehind
    exact absurd hbehind (blades_disjoint (by decide) hreads)
  . rw [hblades.1] at hreads
    rw [hblades.2] at hbehind
    exact absurd hbehind (blades_disjoint (by decide) hreads)

end

/-- What the search for a pattern tells about the name. -/
def Searches (patterns : List AttributePattern) (name : List Char)
    (x : Except StandardException (Option (AttributePattern × List Int32))) : Prop :=
  match x with
  | .error _ => ∃ pattern ∈ patterns, Meets ExceedsInt pattern.items name
  | .ok none => ∀ pattern ∈ patterns, ¬ Concerns pattern name
  | .ok (some found) => found.1 ∈ patterns ∧ ReadsAfter found.1.items [] name found.2

theorem firstOfficialPattern_searches {name : List Char} {patterns : List AttributePattern}
    (h : ∀ pattern ∈ patterns, pattern ∈ officialAttributePatterns)
    : Searches patterns name (firstOfficialPattern name patterns) := by
  induction patterns with
  | nil =>
    intro pattern hpattern
    cases hpattern
  | cons pattern patterns ih =>
    have hdecides := matchOfficialPattern_decides (h pattern List.mem_cons_self) name
    have hrest := ih (fun pattern hpattern => h pattern (List.mem_cons_of_mem _ hpattern))
    rw [firstOfficialPattern]
    generalize matchOfficialPattern name pattern = x at hdecides ⊢
    cases x with
    | error e => exact ⟨pattern, List.mem_cons_self, hdecides⟩
    | ok found =>
      cases found with
      | some indexes => exact ⟨List.mem_cons_self, (hdecides.2 indexes).mp rfl⟩
      | none =>
        have hnone : ¬ Concerns pattern name := by
          intro hconcerns
          cases hconcerns with
          | inl hmeets => exact hdecides.1 hmeets
          | inr hreads =>
            obtain ⟨indexes, hreads⟩ := hreads
            cases (hdecides.2 indexes).mpr hreads
        dsimp only
        generalize firstOfficialPattern name patterns = y at hrest ⊢
        cases y with
        | error e =>
          obtain ⟨other, hother, hmeets⟩ := hrest
          exact ⟨other, List.mem_cons_of_mem _ hother, hmeets⟩
        | ok found =>
          cases found with
          | none => exact List.forall_mem_cons.mpr ⟨hnone, hrest⟩
          | some found => exact ⟨List.mem_cons_of_mem _ hrest.1, hrest.2⟩

theorem isOfficial_iff {name family : String} {indexes : List Int32}
    : IsOfficial name family indexes ↔ ∃ pattern ∈ officialAttributePatterns,
        pattern.family = family ∧ ReadsAfter pattern.items [] name.toList indexes := by
  have hseparated : ∀ pattern ∈ officialAttributePatterns, separated pattern.items = true := by
    decide +kernel
  constructor
  . intro h
    obtain ⟨pattern, hpattern, hfamily, numerals, hspells, hindexes⟩ := h
    refine ⟨pattern, hpattern, hfamily, readsAfter_nil.mpr ⟨numerals, ?_, hindexes⟩⟩
    exact hspells.scan_eq (hseparated pattern hpattern)
  . intro h
    obtain ⟨pattern, hpattern, hfamily, hreads⟩ := h
    obtain ⟨numerals, hscan, hindexes⟩ := readsAfter_nil.mp hreads
    exact ⟨pattern, hpattern, hfamily, numerals, spells_of_scan hscan, hindexes⟩

end Peraviz.Gdtf
