import Peraviz.Gdtf.AttributeGrammar
import Peraviz.Gdtf.Routing

/-!
This module contains the identity that an attribute name is given: an official one for the gobo
names and for the names that an official pattern spells, a custom one for all others, and none for a
name with a numeral that is too large.
-/

namespace Peraviz.Gdtf

open CheckedInt Numerals Peraviz.Runtime

/-! ### Lowering and trimming -/

theorem toLower_of_isDigit {c : Char} (h : c.isDigit = true) : c.toLower = c := by
  rw [isDigit_iff] at h
  apply dif_neg
  intro hupper
  have hle : 65 ≤ c.toNat := UInt32.le_iff_toNat_le.mp hupper.1
  omega

theorem isDigit_toLower (c : Char) : c.toLower.isDigit = c.isDigit := by
  delta Char.toLower
  split
  next h =>
    have hlower : 65 ≤ c.toNat := UInt32.le_iff_toNat_le.mp h.1
    have hupper : c.toNat ≤ 90 := UInt32.le_iff_toNat_le.mp h.2
    have hval : (c.val + ('a'.val - 'A'.val)).toNat = c.toNat + 32 := by
      rw [UInt32.toNat_add]
      apply Nat.mod_eq_of_lt
      change c.toNat + 32 < 4294967296
      omega
    rw [Bool.eq_iff_iff, isDigit_iff, isDigit_iff, Char.toNat, hval]
    omega
  next => rfl

theorem rdropWhile_append {p : Char → Bool} {cs text : List Char} (h : ∀ c ∈ cs, p c = false)
    : (cs ++ text).rdropWhile p = cs ++ text.rdropWhile p := by
  induction text using List.reverseRecOn with
  | nil =>
    rw [List.append_nil, List.rdropWhile_nil, List.append_nil, List.rdropWhile_eq_self_iff]
    intro hne
    rw [h _ (List.getLast_mem hne)]
    decide
  | append_singleton text c ih =>
    rw [← List.append_assoc, List.rdropWhile_concat, List.rdropWhile_concat]
    split
    . exact ih
    . rw [List.append_assoc]

theorem lowerToken_append {cs text : List Char} (hne : cs ≠ []) (h : ∀ c ∈ cs, isSpace c = false)
    : lowerToken (cs ++ text)
        = cs.map Char.toLower ++ (text.rdropWhile isSpace).map Char.toLower := by
  have hdrop : (cs ++ text).dropWhile isSpace = cs ++ text := by
    cases cs with
    | nil => contradiction
    | cons c cs =>
      rw [List.cons_append, List.dropWhile_cons_of_neg]
      rw [h c List.mem_cons_self]
      decide
  rw [lowerToken, trimChars, hdrop, rdropWhile_append h, List.map_append]

-- The digits at the head of a text are not changed.
theorem takeWhile_lowered {text : List Char}
    : ((text.rdropWhile isSpace).map Char.toLower).takeWhile Char.isDigit
        = text.takeWhile Char.isDigit := by
  have hdigits : ∀ c ∈ text.takeWhile Char.isDigit, c.isDigit = true :=
    fun _ hc => List.mem_takeWhile_imp hc
  have hlower : (text.takeWhile Char.isDigit).map Char.toLower = text.takeWhile Char.isDigit := by
    rw [List.map_congr_left (fun c hc => toLower_of_isDigit (hdigits c hc)), List.map_id']
  have hsplit : text.rdropWhile isSpace = text.takeWhile Char.isDigit ++
      (text.dropWhile Char.isDigit).rdropWhile isSpace := by
    rw [← rdropWhile_append (fun c hc => isSpace_of_isDigit (hdigits c hc)),
      List.takeWhile_append_dropWhile]
  rw [hsplit, List.map_append, hlower]
  apply (takeWhile_numeral hdigits _).1
  intro c hc
  rw [List.head?_map] at hc
  obtain ⟨d, hd, hdc⟩ := Option.map_eq_some_iff.mp hc
  have hhead : (text.dropWhile Char.isDigit).head? = some d := by
    obtain ⟨rest, hrest⟩ := List.rdropWhile_prefix isSpace (l := text.dropWhile Char.isDigit)
    rw [← hrest, List.head?_append, hd]
    rfl
  rw [← hdc, isDigit_toLower]
  have hnot := List.head?_dropWhile_not Char.isDigit text
  rw [hhead] at hnot
  simpa using hnot

/-! ### Gobo names -/

theorem stoi_eq_ok {digits : List Char} {value : Int32} (h : stoi digits = .ok value)
    : (decimal digits : Int) = value.toInt := by
  by_cases hexceeds : ExceedsInt digits
  . rw [stoi_exceeds hexceeds] at h
    cases h
  . obtain ⟨value', hvalue, heq⟩ := stoi_fits hexceeds
    rw [hvalue] at h
    cases h
    exact heq.symm

theorem stoi_of_eq {digits : List Char} {value : Int32} (h : (decimal digits : Int) = value.toInt)
    : stoi digits = .ok value := by
  obtain ⟨value', hvalue, heq⟩ := stoi_fits (not_exceedsInt_of_eq h)
  rw [hvalue, Int32.toInt_inj.mp (heq.trans h)]

theorem isGoboAttribute_of_recognized {name : String}
    (h : (parseGoboSemantic name).recognized = true)
    : IsGoboAttribute name (parseGoboSemantic name).wheelNumber := by
  unfold parseGoboSemantic at h ⊢
  unfold IsGoboAttribute
  dsimp only at h ⊢
  generalize lowerToken name.toList = lower at h ⊢
  split at h
  next => cases h
  next hgobo =>
    rw [if_neg hgobo]
    rw [Bool.not_eq_false, List.isPrefixOf_iff_prefix] at hgobo
    obtain ⟨rest, hrest⟩ := hgobo
    have hdrop : lower.drop 4 = rest := by
      rw [← hrest]
      exact List.drop_left' (by decide)
    rw [hdrop] at h ⊢
    split at h
    next => cases h
    next hrun =>
      rw [if_neg hrun]
      split at h
      next => cases h
      next wheelNumber hwheel =>
        split at h
        next => cases h
        next hpositive =>
          rw [if_neg hpositive]
          split at h
          next => cases h
          next definition hdefinition =>
            refine ⟨_, mem_of_lookup_eq_some hdefinition, rest.takeWhile Char.isDigit,
              isNumeral_takeWhile hrun, ?_, stoi_eq_ok hwheel, ?_⟩
            . rw [Int32.le_iff_toInt_le] at hpositive
              exact Int.not_le.mp hpositive
            . have hsuffix := @String.toList_ofList (rest.dropWhile Char.isDigit)
              dsimp only
              rw [hsuffix, List.takeWhile_append_dropWhile, hrest]

theorem goboDefinitions_spec {definition : String × GoboDefinition}
    (h : definition ∈ goboDefinitions)
    : NoDigitHead definition.1.toList ∧ ∃ found, goboDefinitions.lookup definition.1 = some found := by
  have hall : ∀ definition ∈ goboDefinitions,
      (definition.1.toList.head?.all (fun c => !c.isDigit)) = true ∧
        (goboDefinitions.lookup definition.1).isSome = true := by
    decide +kernel
  obtain ⟨hhead, hlookup⟩ := hall definition h
  refine ⟨?_, Option.isSome_iff_exists.mp hlookup⟩
  intro c hc
  rw [hc] at hhead
  simpa using hhead

theorem IsGoboAttribute.recognized {name : String} {wheelNumber : Int32}
    (h : IsGoboAttribute name wheelNumber)
    : (parseGoboSemantic name).recognized = true ∧
        (parseGoboSemantic name).wheelNumber = wheelNumber := by
  obtain ⟨definition, hdefinition, digits, hdigits, hpositive, hvalue, hlower⟩ := h
  obtain ⟨hnoDigit, found, hfound⟩ := goboDefinitions_spec hdefinition
  have hrun := takeWhile_numeral hdigits.2 hnoDigit
  have hgobo : "gobo".toList.isPrefixOf (lowerToken name.toList) = true := by
    rw [List.isPrefixOf_iff_prefix, hlower]
    exact List.prefix_append _ _
  have hdrop : (lowerToken name.toList).drop 4 = digits ++ definition.1.toList := by
    rw [hlower]
    exact List.drop_left' (by decide)
  have hwheel : ¬ wheelNumber ≤ 0 := by
    rw [Int32.le_iff_toInt_le]
    exact Int.not_le.mpr hpositive
  unfold parseGoboSemantic
  dsimp only
  rw [hgobo, if_neg Bool.noConfusion, hdrop, hrun.1, hrun.2, if_neg hdigits.1,
    stoi_of_eq hvalue, String.ofList_toList, hfound]
  dsimp only
  rw [if_neg hwheel]
  exact ⟨rfl, rfl⟩

-- The only pattern that can concern a gobo name is the gobo pattern, at the same number.
theorem IsGoboAttribute.concerned {name : String} {wheelNumber : Int32}
    (h : IsGoboAttribute name wheelNumber) {pattern : AttributePattern}
    (hpattern : pattern ∈ officialAttributePatterns) (hconcerns : Concerns pattern name.toList)
    : pattern.family = "Gobo" ∧ ReadsAfter pattern.items [] name.toList [wheelNumber] := by
  obtain ⟨definition, hdefinition, digits, hdigits, hpositive, hvalue, hlower⟩ := h
  obtain ⟨rest, hrest, hbehind⟩ := hconcerns.behind hpattern
  have hfamilies : ∀ pattern ∈ officialAttributePatterns,
      pattern.family.toList ≠ [] ∧ pattern.family.toList.any isSpace = false ∧
        ((pattern.family.toList.map Char.toLower).head? = some 'g' →
          pattern = ⟨"Gobo", "Gobo(n)", 1⟩) := by
    decide +kernel
  obtain ⟨hne, hspace, hgobo⟩ := hfamilies pattern hpattern
  rw [hrest, lowerToken_append hne (by simpa using hspace)] at hlower
  have hhead : (pattern.family.toList.map Char.toLower).head? = some 'g' := by
    have hfirst := congrArg List.head? hlower
    rw [List.head?_append_of_ne_nil _ (by simpa using hne)] at hfirst
    exact hfirst
  rw [hgobo hhead] at hrest hlower hbehind hpattern ⊢
  have hfamily : "Gobo".toList.map Char.toLower = "gobo".toList := by decide
  rw [hfamily, List.append_cancel_left_eq] at hlower
  have hrun : rest.takeWhile Char.isDigit = digits := by
    rw [← takeWhile_lowered, hlower]
    exact (takeWhile_numeral hdigits.2 (goboDefinitions_spec hdefinition).1).1
  have hitems : (AttributePattern.mk "Gobo" "Gobo(n)" 1).wildcardItems = [.numeral] := by
    decide +kernel
  refine ⟨rfl, ?_⟩
  rw [items_eq hpattern, hrest, ReadsAfter, scan_literals, hitems]
  rw [hitems] at hbehind
  cases hbehind with
  | inl hmeets =>
    rw [Meets, hrun] at hmeets
    exact absurd (hmeets.2.resolve_right id) (not_exceedsInt_of_eq hvalue)
  | inr hreads =>
    obtain ⟨indexes, numerals, _, hscan, _⟩ := hreads
    rw [scan, hrun, if_neg hdigits.1] at hscan ⊢
    obtain ⟨tail, htail, _⟩ := Option.map_eq_some_iff.mp hscan
    refine ⟨digits :: tail, [wheelNumber], ?_, rfl, ?_⟩
    . rw [htail]
      rfl
    . have hnil : tail = [] := (@Decides.scan_literals_iff _ [] tail).mp htail |>.2
      rw [hnil, Denotes, List.map_singleton, List.map_singleton, hvalue]

/-! ### The identity -/

/-- What the identity of a name has to be. -/
structure Identifies (name : String) (identity : NormalizedAttribute) : Prop where
  name_eq : identity.name = name
  official : ∀ family indexes,
    (identity.knownOfficial = true ∧ identity.canonicalFamily = family ∧
      identity.wildcardIndexes = indexes) ↔
      (∃ wheelNumber, IsGoboAttribute name wheelNumber ∧ family = "Gobo" ∧
        indexes = [wheelNumber]) ∨ IsOfficial name family indexes
  custom : identity.custom = !identity.knownOfficial
  preserved : identity.knownOfficial = false →
    identity.canonicalFamily = name ∧ identity.wildcardIndexes = []

theorem identifies_gobo {name : String} (h : (parseGoboSemantic name).recognized = true)
    {identity : NormalizedAttribute} (hname : identity.name = name)
    (hknown : identity.knownOfficial = true) (hfamily : identity.canonicalFamily = "Gobo")
    (hindexes : identity.wildcardIndexes = [(parseGoboSemantic name).wheelNumber])
    (hcustom : identity.custom = false)
    : Identifies name identity ∧ ¬ HasExceedingNumeral name := by
  have hgobo := isGoboAttribute_of_recognized h
  constructor
  . refine ⟨hname, ?_, by rw [hcustom, hknown]; rfl, ?_⟩
    . intro family indexes
      rw [hfamily, hindexes]
      constructor
      . intro hofficial
        exact .inl ⟨_, hgobo, hofficial.2.1.symm, hofficial.2.2.symm⟩
      . intro hofficial
        cases hofficial with
        | inl hother =>
          obtain ⟨wheelNumber, hwheel, hfamily, hindexes⟩ := hother
          rw [hwheel.recognized.2]
          exact ⟨hknown, hfamily.symm, hindexes.symm⟩
        | inr hofficial =>
          obtain ⟨pattern, hpattern, hfamily, hreads⟩ := isOfficial_iff.mp hofficial
          obtain ⟨hpatternFamily, hnumber⟩ := hgobo.concerned hpattern (.inr ⟨indexes, hreads⟩)
          exact ⟨hknown, hpatternFamily.symm.trans hfamily, reads_inj hnumber hreads⟩
    . intro hunknown
      rw [hknown] at hunknown
      cases hunknown
  . intro hexceeds
    obtain ⟨pattern, hpattern, hmeets⟩ := hexceeds
    exact not_meets_of_reads (hgobo.concerned hpattern (.inl hmeets)).2 hmeets

theorem identifies_found {name : String} (h : (parseGoboSemantic name).recognized = false)
    {found : AttributePattern × List Int32} (hfound : found.1 ∈ officialAttributePatterns)
    (hreads : ReadsAfter found.1.items [] name.toList found.2) {identity : NormalizedAttribute}
    (hname : identity.name = name) (hknown : identity.knownOfficial = true)
    (hfamily : identity.canonicalFamily = found.1.family)
    (hindexes : identity.wildcardIndexes = found.2) (hcustom : identity.custom = false)
    : Identifies name identity ∧ ¬ HasExceedingNumeral name := by
  constructor
  . refine ⟨hname, ?_, by rw [hcustom, hknown]; rfl, ?_⟩
    . intro family indexes
      rw [hfamily, hindexes]
      constructor
      . intro hofficial
        right
        rw [← hofficial.2.1, ← hofficial.2.2]
        exact isOfficial_iff.mpr ⟨found.1, hfound, rfl, hreads⟩
      . intro hofficial
        cases hofficial with
        | inl hgobo =>
          obtain ⟨wheelNumber, hwheel, _⟩ := hgobo
          rw [hwheel.recognized.1] at h
          cases h
        | inr hofficial =>
          obtain ⟨pattern, hpattern, hfamily, hother⟩ := isOfficial_iff.mp hofficial
          have heq := pattern_unique hfound hpattern hreads (.inr ⟨indexes, hother⟩)
          rw [← heq] at hfamily hother
          exact ⟨hknown, hfamily, reads_inj hreads hother⟩
    . intro hunknown
      rw [hknown] at hunknown
      cases hunknown
  . intro hexceeds
    obtain ⟨pattern, hpattern, hmeets⟩ := hexceeds
    rw [← pattern_unique hfound hpattern hreads (.inl hmeets)] at hmeets
    exact not_meets_of_reads hreads hmeets

theorem identifies_custom {name : String} (h : (parseGoboSemantic name).recognized = false)
    (hnone : ∀ pattern ∈ officialAttributePatterns, ¬ Concerns pattern name.toList)
    {identity : NormalizedAttribute} (hname : identity.name = name)
    (hknown : identity.knownOfficial = false) (hfamily : identity.canonicalFamily = name)
    (hindexes : identity.wildcardIndexes = []) (hcustom : identity.custom = true)
    : Identifies name identity ∧ ¬ HasExceedingNumeral name := by
  constructor
  . refine ⟨hname, ?_, by rw [hcustom, hknown]; rfl, fun _ => ⟨hfamily, hindexes⟩⟩
    intro family indexes
    rw [hknown]
    constructor
    . intro hofficial
      cases hofficial.1
    . intro hofficial
      cases hofficial with
      | inl hgobo =>
        obtain ⟨wheelNumber, hwheel, _⟩ := hgobo
        rw [hwheel.recognized.1] at h
        cases h
      | inr hofficial =>
        obtain ⟨pattern, hpattern, _, hreads⟩ := isOfficial_iff.mp hofficial
        exact absurd (.inr ⟨indexes, hreads⟩) (hnone pattern hpattern)
  . intro hexceeds
    obtain ⟨pattern, hpattern, hmeets⟩ := hexceeds
    exact hnone pattern hpattern (.inl hmeets)

/-- The import of a name fails at a numeral that is too large, else it makes its identity. -/
def Normalizes (id : Int32) (name : String) (x : Except StandardException NormalizedAttribute)
    : Prop :=
  match x with
  | .error _ => HasExceedingNumeral name
  | .ok identity => identity.id = id ∧ Identifies name identity ∧ ¬ HasExceedingNumeral name

theorem normalizeAttributeIdentity_normalizes (id : Int32) (name : String)
    : Normalizes id name (normalizeAttributeIdentity id name) := by
  have hsearch := @firstOfficialPattern_searches name.toList _ (fun pattern hpattern => hpattern)
  unfold normalizeAttributeIdentity
  dsimp only
  cases hgobo : (parseGoboSemantic name).recognized with
  | true => exact ⟨rfl, identifies_gobo hgobo rfl rfl rfl rfl rfl⟩
  | false =>
    rw [if_neg Bool.noConfusion]
    generalize firstOfficialPattern name.toList officialAttributePatterns = x at hsearch ⊢
    cases x with
    | error e => exact hsearch
    | ok found =>
      cases found with
      | none => exact ⟨rfl, identifies_custom hgobo hsearch rfl rfl rfl rfl rfl⟩
      | some found => exact ⟨rfl, identifies_found hgobo hsearch.1 hsearch.2 rfl rfl rfl rfl rfl⟩

theorem normalizeAttributeIdentity_iff (id : Int32) (name : String)
    : (∃ identity, normalizeAttributeIdentity id name = .ok identity ∧ identity.id = id ∧
        Identifies name identity) ↔ ¬ HasExceedingNumeral name := by
  have hnormalizes := normalizeAttributeIdentity_normalizes id name
  generalize normalizeAttributeIdentity id name = x at hnormalizes ⊢
  cases x with
  | error e =>
    constructor
    . intro h
      obtain ⟨identity, h, _⟩ := h
      cases h
    . intro h
      exact absurd hnormalizes h
  | ok identity =>
    constructor
    . intro _
      exact hnormalizes.2.2
    . intro _
      exact ⟨identity, rfl, hnormalizes.1, hnormalizes.2.1⟩

theorem normalizeAttributeIdentity_color99999999999
    : normalizeAttributeIdentity 1 "Color99999999999" = .error .outOfRange := by
  have hmeets : Meets ExceedsInt ("Color".toList.map Item.literal ++ [.numeral])
      ("Color".toList ++ "99999999999".toList) := by
    rw [meets_literals]
    exact ⟨by decide, .inl (by unfold ExceedsInt; decide +kernel)⟩
  have hitems : (AttributePattern.mk "Color" "Color(n)" 1).items
      = "Color".toList.map Item.literal ++ [.numeral] := by
    decide +kernel
  have hexceeds : HasExceedingNumeral "Color99999999999" := by
    refine ⟨⟨"Color", "Color(n)", 1⟩, by decide, ?_⟩
    rw [hitems]
    exact hmeets
  have hnormalizes := normalizeAttributeIdentity_normalizes 1 "Color99999999999"
  cases hresult : normalizeAttributeIdentity 1 "Color99999999999" with
  | error e => rfl
  | ok identity =>
    rw [hresult] at hnormalizes
    exact absurd hexceeds hnormalizes.2.2

end Peraviz.Gdtf
