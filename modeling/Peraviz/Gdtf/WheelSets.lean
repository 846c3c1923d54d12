import Peraviz.Gdtf.ShutterSets

/-!
This module contains the ChannelSets of wheel functions: each set with a valid slot becomes an
interval that ends in front of the next one, and what is left out before decides who owns a value.
-/

namespace Peraviz.Gdtf

open CheckedInt Intervals Peraviz.Runtime

/-- `std::atoi`, the `long` of `strtol` cut to an `int`. -/
def atoi (cs : List Char) : Int32 :=
  Int32.ofInt ((strtol cs).getD 0)

/-- `parse_dmx_value` of the importer, between one and four bytes. -/
def parseDmxValue (raw : String) (sourceCount : Nat) : Option UInt32 :=
  parseAndConvertGdtfDmxValue raw (UInt8.ofNat (max 1 (min sourceCount 4)))

structure CandidateSet where
  dmxFrom : UInt32 := 0
  wheelSlotIndex : Int32 := 0
  declaredOrder : Nat := 0
  name : String := ""
  physicalFrom : ℚ := 0
  physicalTo : ℚ := 1

def isWheelSlot (wheel : Option ParsedWheel) (slot : Int32) : Bool :=
  match wheel with
  | none => false
  | some wheel => !(slot < 1 || Int32.ofNat wheel.slotCount < slot)

def wheelSlotIndexOf (node : XMLElement) : Int32 :=
  let slotRaw := readAttr node "WheelSlotIndex" "wheelslotindex"
  if slotRaw = "" then 0 else atoi slotRaw.toList

/-- What the loops report of a ChannelSet. -/
def wheelSetWarning (code message name : String) : RuntimeDiagnostic where
  code := code
  severity := "warning"
  message := message
  subject := name

/-- A function with its range and the wheel it is linked to. The numbers of `read_float_attr` are
read by `floatAttribute`, nothing is assumed of it. -/
structure WheelFunction where
  sourceCount : Nat
  dmxFrom : UInt32
  dmxTo : UInt32
  physicalFrom : ℚ
  physicalTo : ℚ
  wheel : Option ParsedWheel
  floatAttribute : XMLElement → String → String → Option ℚ

namespace WheelFunction

variable (fn : WheelFunction)

def candidateOf (node : XMLElement) (declaredOrder : Nat)
    : Except RuntimeDiagnostic CandidateSet :=
  let name := readAttr node "Name" "name"
  match parseDmxValue (readAttr node "DMXFrom" "dmxfrom") fn.sourceCount with
  | none => .error (wheelSetWarning "PVZ-GDTF-WHEEL-CHANNELSET-DMXFROM-MISSING"
      "ChannelSet is missing standard DMXFrom and cannot be compiled." name)
  | some dmxFrom =>
    if isWheelSlot fn.wheel (wheelSlotIndexOf node) = false then
      .error (wheelSetWarning "PVZ-GDTF-WHEEL-SLOT-INVALID"
        "ChannelSet WheelSlotIndex is outside the linked wheel slot range." name)
    else if dmxFrom < fn.dmxFrom ∨ fn.dmxTo < dmxFrom then
      .error (wheelSetWarning "PVZ-GDTF-WHEEL-CHANNELSET-RANGE-OUTSIDE-FUNCTION"
        "ChannelSet DMXFrom is outside its parent ChannelFunction range." name)
    else
      .ok {
        dmxFrom, wheelSlotIndex := wheelSlotIndexOf node, declaredOrder, name
        physicalFrom :=
          (fn.floatAttribute node "PhysicalFrom" "physicalfrom").getD fn.physicalFrom
        physicalTo := (fn.floatAttribute node "PhysicalTo" "physicalto").getD fn.physicalTo }

def collect (outcome : Except RuntimeDiagnostic CandidateSet)
    (rest : List CandidateSet × List RuntimeDiagnostic)
    : List CandidateSet × List RuntimeDiagnostic :=
  match outcome with
  | .ok candidate => (candidate :: rest.1, rest.2)
  | .error warning => (rest.1, warning :: rest.2)

/-- The first loop, with the number of the first of `nodes`. -/
def candidates (declaredOrder : Nat) : List XMLElement →
    List CandidateSet × List RuntimeDiagnostic
  | [] => ([], [])
  | node :: nodes =>
    collect (fn.candidateOf node declaredOrder) (candidates (declaredOrder + 1) nodes)

def sortsBefore (a b : CandidateSet) : Bool :=
  if a.dmxFrom ≠ b.dmxFrom then a.dmxFrom < b.dmxFrom else a.declaredOrder ≤ b.declaredOrder

/-- The first value behind a candidate, at 64 bits. -/
def nextFrom (rest : List CandidateSet) : Nat :=
  match rest.head? with
  | some next => next.dmxFrom.toNat
  | none => fn.dmxTo.toNat + 1

def wheelSetOf (candidate : CandidateSet) (next : Nat) : ParsedWheelChannelSet where
  declaredDmxFrom := max candidate.dmxFrom fn.dmxFrom
  effectiveDmxTo := UInt32.ofNat (min (next - 1) fn.dmxTo.toNat)
  wheelSlotIndex := candidate.wheelSlotIndex
  name := candidate.name
  physicalFrom := candidate.physicalFrom
  physicalTo := candidate.physicalTo

/-- The second loop, `previous` is the start of the candidate in front. -/
def closeSets (previous : Option UInt32) : List CandidateSet →
    List ParsedWheelChannelSet × List RuntimeDiagnostic
  | [] => ([], [])
  | candidate :: rest =>
    let closed := closeSets (some candidate.dmxFrom) rest
    let next := fn.nextFrom rest
    let set := fn.wheelSetOf candidate next
    if previous = some candidate.dmxFrom then
      (closed.1, wheelSetWarning "PVZ-GDTF-WHEEL-CHANNELSET-DUPLICATE-DMXFROM"
        "Duplicate ChannelSet DMXFrom values are ambiguous and skipped." candidate.name :: closed.2)
    else if next ≤ candidate.dmxFrom.toNat then
      (closed.1, wheelSetWarning "PVZ-GDTF-WHEEL-CHANNELSET-RANGE-INVALID"
        "ChannelSet effective range is decreasing or empty." candidate.name :: closed.2)
    else if set.effectiveDmxTo < set.declaredDmxFrom then
      (closed.1, wheelSetWarning "PVZ-GDTF-WHEEL-CHANNELSET-RANGE-INVALID"
        "ChannelSet effective range is outside the parent ChannelFunction after clamping."
        candidate.name :: closed.2)
    else (set :: closed.1, closed.2)

def parseWheelChannelSets (node : XMLElement)
    : List ParsedWheelChannelSet × List RuntimeDiagnostic :=
  let found := fn.candidates 0 (collectDirectChildrenByName node "channelset")
  let closed := fn.closeSets none (found.1.mergeSort sortsBefore)
  (closed.1, found.2 ++ closed.2)

def InRange (start : UInt32) : Prop :=
  fn.dmxFrom ≤ start ∧ start ≤ fn.dmxTo

/-- The set is the interval of `owner` among the candidates `l`. -/
structure Owns (l : List CandidateSet) (set : ParsedWheelChannelSet) (owner : CandidateSet)
    : Prop where
  first : set.declaredDmxFrom = owner.dmxFrom
  slot : set.wheelSlotIndex = owner.wheelSlotIndex
  nonempty : firstValue set ≤ lastValue set
  within : lastValue set ≤ fn.dmxTo.toNat
  stops : ∀ other ∈ l, owner.dmxFrom.toNat < other.dmxFrom.toNat →
    lastValue set < other.dmxFrom.toNat
  reaches : ∀ value, value ≤ fn.dmxTo.toNat →
    (∀ other ∈ l, owner.dmxFrom.toNat < other.dmxFrom.toNat → value < other.dmxFrom.toNat) →
      value ≤ lastValue set

/-- No other candidate starts where this one does. -/
def IsAlone (l : List CandidateSet) (owner : CandidateSet) : Prop :=
  l.filter (fun other => other.dmxFrom = owner.dmxFrom) = [owner]

variable {fn}

theorem lastValue_wheelSetOf (candidate : CandidateSet) (next : Nat)
    : lastValue (fn.wheelSetOf candidate next) = min (next - 1) fn.dmxTo.toNat := by
  have := fn.dmxTo.toNat_lt
  unfold lastValue wheelSetOf
  rw [UInt32.toNat_ofNat_of_lt']
  apply Nat.lt_of_le_of_lt (Nat.min_le_right ..) this

theorem firstValue_wheelSetOf {candidate : CandidateSet} (h : fn.InRange candidate.dmxFrom)
    (next : Nat)
    : (fn.wheelSetOf candidate next).declaredDmxFrom = candidate.dmxFrom := by
  have hle := UInt32.le_iff_toNat_le.mp h.1
  apply UInt32.toNat_inj.mp
  unfold wheelSetOf
  rw [toNat_max]
  omega

theorem nextFrom_le {rest : List CandidateSet}
    (hsorted : rest.Pairwise (fun a b => a.dmxFrom ≤ b.dmxFrom)) {other : CandidateSet}
    (h : other ∈ rest)
    : fn.nextFrom rest ≤ other.dmxFrom.toNat := by
  cases rest with
  | nil => cases h
  | cons first rest =>
    rw [List.pairwise_cons] at hsorted
    change first.dmxFrom.toNat ≤ other.dmxFrom.toNat
    cases List.mem_cons.mp h with
    | inl heq => rw [heq]
    | inr hmem => exact UInt32.le_iff_toNat_le.mp (hsorted.1 other hmem)

theorem owns_wheelSetOf {candidate : CandidateSet} {rest : List CandidateSet}
    (hrange : fn.InRange candidate.dmxFrom)
    (hsorted : rest.Pairwise (fun a b => a.dmxFrom ≤ b.dmxFrom))
    (hnext : candidate.dmxFrom.toNat < fn.nextFrom rest)
    : fn.Owns (candidate :: rest) (fn.wheelSetOf candidate (fn.nextFrom rest)) candidate := by
  have hle := UInt32.le_iff_toNat_le.mp hrange.2
  have hlast := @lastValue_wheelSetOf fn candidate (fn.nextFrom rest)
  constructor
  . exact firstValue_wheelSetOf hrange _
  . rfl
  . rw [hlast, firstValue, firstValue_wheelSetOf hrange]
    omega
  . rw [hlast]
    omega
  . intro other hother hlt
    rw [hlast]
    cases List.mem_cons.mp hother with
    | inl heq =>
      rw [heq] at hlt
      omega
    | inr hmem =>
      have := @nextFrom_le fn _ hsorted _ hmem
      omega
  . intro value hvalue hbefore
    rw [hlast]
    cases rest with
    | nil =>
      change value ≤ min (fn.dmxTo.toNat + 1 - 1) fn.dmxTo.toNat
      omega
    | cons first rest =>
      have hnext' : candidate.dmxFrom.toNat < first.dmxFrom.toNat := hnext
      have := hbefore first (by simp) hnext'
      change value ≤ min (first.dmxFrom.toNat - 1) fn.dmxTo.toNat
      omega

theorem Owns.cons {candidate owner : CandidateSet} {rest : List CandidateSet}
    {set : ParsedWheelChannelSet} (h : fn.Owns rest set owner)
    (hle : candidate.dmxFrom ≤ owner.dmxFrom)
    : fn.Owns (candidate :: rest) set owner := by
  rw [UInt32.le_iff_toNat_le] at hle
  refine ⟨h.first, h.slot, h.nonempty, h.within, ?_, ?_⟩
  . intro other hother hlt
    cases List.mem_cons.mp hother with
    | inl heq =>
      rw [heq] at hlt
      omega
    | inr hmem => exact h.stops other hmem hlt
  . intro value hvalue hbefore
    apply h.reaches value hvalue
    intro other hother
    exact hbefore other (List.mem_cons_of_mem _ hother)

-- the range check behind the clamping never fires, the first loop has kept to the function
theorem closeSets_cons {previous : Option UInt32} {candidate : CandidateSet}
    {rest : List CandidateSet} (hrange : fn.InRange candidate.dmxFrom)
    : (fn.closeSets previous (candidate :: rest)).1
        = if previous ≠ some candidate.dmxFrom ∧ candidate.dmxFrom.toNat < fn.nextFrom rest then
            fn.wheelSetOf candidate (fn.nextFrom rest)
              :: (fn.closeSets (some candidate.dmxFrom) rest).1
          else (fn.closeSets (some candidate.dmxFrom) rest).1 := by
  have hle := UInt32.le_iff_toNat_le.mp hrange.2
  have hfits (hnext : candidate.dmxFrom.toNat < fn.nextFrom rest)
      : ¬(fn.wheelSetOf candidate (fn.nextFrom rest)).effectiveDmxTo
        < (fn.wheelSetOf candidate (fn.nextFrom rest)).declaredDmxFrom := by
    have hlast := @lastValue_wheelSetOf fn candidate (fn.nextFrom rest)
    unfold lastValue at hlast
    rw [UInt32.not_lt, firstValue_wheelSetOf hrange, UInt32.le_iff_toNat_le, hlast]
    omega
  rw [closeSets]
  split
  . next hprevious => rw [if_neg (fun h => h.1 hprevious)]
  . next hprevious =>
    split
    . next hnext => rw [if_neg (by omega)]
    . next hnext =>
      rw [if_neg (hfits (by omega)), if_pos ⟨hprevious, by omega⟩]

theorem isAlone_cons_self {candidate : CandidateSet} {rest : List CandidateSet}
    (hsorted : rest.Pairwise (fun a b => a.dmxFrom ≤ b.dmxFrom))
    (hnext : candidate.dmxFrom.toNat < fn.nextFrom rest)
    : IsAlone (candidate :: rest) candidate := by
  unfold IsAlone
  rw [List.filter_cons_of_pos (by simp), List.filter_eq_nil_iff.mpr]
  intro other hother heq
  have := @nextFrom_le fn _ hsorted _ hother
  rw [of_decide_eq_true heq] at this
  omega

theorem isAlone_cons_iff {candidate owner : CandidateSet} {rest : List CandidateSet}
    (hne : candidate.dmxFrom ≠ owner.dmxFrom)
    : IsAlone (candidate :: rest) owner ↔ IsAlone rest owner := by
  unfold IsAlone
  rw [List.filter_cons_of_neg (by simpa using hne)]

/-- The starts of a list ascend, within the function and behind `previous`. -/
structure Ascends (fn : WheelFunction) (previous : Option UInt32) (l : List CandidateSet)
    : Prop where
  sorted : l.Pairwise (fun a b => a.dmxFrom ≤ b.dmxFrom)
  range : ∀ candidate ∈ l, fn.InRange candidate.dmxFrom
  previous : ∀ start, previous = some start → ∀ candidate ∈ l, start ≤ candidate.dmxFrom

theorem Ascends.tail {previous : Option UInt32} {candidate : CandidateSet}
    {rest : List CandidateSet} (h : Ascends fn previous (candidate :: rest))
    : Ascends fn (some candidate.dmxFrom) rest := by
  have hsorted := List.pairwise_cons.mp h.sorted
  refine ⟨hsorted.2, ?_, ?_⟩
  . intro other hother
    exact h.range other (List.mem_cons_of_mem _ hother)
  . intro start hstart other hother
    cases hstart
    exact hsorted.1 other hother

theorem closeSets_owned {previous : Option UInt32} {l : List CandidateSet}
    (h : Ascends fn previous l)
    : ∀ set ∈ (fn.closeSets previous l).1, ∃ owner ∈ l, previous ≠ some owner.dmxFrom
        ∧ IsAlone l owner ∧ fn.Owns l set owner := by
  induction l generalizing previous with
  | nil =>
    intro set hset
    cases hset
  | cons candidate rest ih =>
    have hsorted := List.pairwise_cons.mp h.sorted
    intro set hset
    have hlater : set ∈ (fn.closeSets (some candidate.dmxFrom) rest).1 →
        ∃ owner ∈ candidate :: rest, previous ≠ some owner.dmxFrom
          ∧ IsAlone (candidate :: rest) owner ∧ fn.Owns (candidate :: rest) set owner := by
      intro hmem
      obtain ⟨owner, howner, hne, halone, howns⟩ := ih h.tail set hmem
      have hne' : candidate.dmxFrom ≠ owner.dmxFrom := by
        intro heq
        exact hne (congrArg some heq)
      refine ⟨owner, List.mem_cons_of_mem _ howner, ?_, (isAlone_cons_iff hne').mpr halone,
        howns.cons (hsorted.1 owner howner)⟩
      intro hprevious
      apply hne'
      apply UInt32.le_antisymm
      . exact hsorted.1 owner howner
      . exact h.previous owner.dmxFrom hprevious candidate (List.mem_cons_self ..)
    rw [closeSets_cons (h.range candidate (List.mem_cons_self ..))] at hset
    split at hset
    . next hkept =>
      cases List.mem_cons.mp hset with
      | inl heq =>
        rw [heq]
        exact ⟨candidate, List.mem_cons_self .., hkept.1, isAlone_cons_self hsorted.2 hkept.2,
          owns_wheelSetOf (h.range candidate (List.mem_cons_self ..)) hsorted.2 hkept.2⟩
      | inr hmem => exact hlater hmem
    . exact hlater hset

theorem exists_owned {previous : Option UInt32} {l : List CandidateSet}
    (h : Ascends fn previous l) {owner : CandidateSet} (howner : owner ∈ l)
    (hne : previous ≠ some owner.dmxFrom) (halone : IsAlone l owner)
    : ∃ set ∈ (fn.closeSets previous l).1, fn.Owns l set owner := by
  induction l generalizing previous with
  | nil => cases howner
  | cons candidate rest ih =>
    have hsorted := List.pairwise_cons.mp h.sorted
    have hrange := h.range candidate (List.mem_cons_self ..)
    rw [closeSets_cons hrange]
    by_cases heq : candidate.dmxFrom = owner.dmxFrom
    . unfold IsAlone at halone
      rw [List.filter_cons_of_pos (by simpa using heq)] at halone
      obtain ⟨hself, hnone⟩ := List.cons.inj halone
      have hnext : candidate.dmxFrom.toNat < fn.nextFrom rest := by
        cases rest with
        | nil =>
          have := UInt32.le_iff_toNat_le.mp hrange.2
          change candidate.dmxFrom.toNat < fn.dmxTo.toNat + 1
          omega
        | cons first rest =>
          have hle := UInt32.le_iff_toNat_le.mp (hsorted.1 first (List.mem_cons_self ..))
          have hdiff : candidate.dmxFrom.toNat ≠ first.dmxFrom.toNat := by
            intro hsame
            apply List.filter_eq_nil_iff.mp hnone first (List.mem_cons_self ..)
            rw [decide_eq_true_eq, ← heq]
            exact (UInt32.toNat_inj.mp hsame).symm
          change candidate.dmxFrom.toNat < first.dmxFrom.toNat
          omega
      rw [← hself] at hne ⊢
      rw [if_pos ⟨hne, hnext⟩]
      exact ⟨_, List.mem_cons_self .., owns_wheelSetOf hrange hsorted.2 hnext⟩
    . have hmem : owner ∈ rest := by
        cases List.mem_cons.mp howner with
        | inl hsame => exact absurd (by rw [hsame]) heq
        | inr hmem => exact hmem
      obtain ⟨set, hset, howns⟩ := ih h.tail hmem (by simpa using heq)
        ((isAlone_cons_iff heq).mp halone)
      refine ⟨set, ?_, howns.cons (hsorted.1 owner hmem)⟩
      split
      . exact List.mem_cons_of_mem _ hset
      . exact hset

theorem separated_closeSets {previous : Option UInt32} {l : List CandidateSet}
    (h : Ascends fn previous l)
    : Separated firstValue lastValue (fn.closeSets previous l).1 := by
  induction l generalizing previous with
  | nil => exact List.Pairwise.nil
  | cons candidate rest ih =>
    have hsorted := List.pairwise_cons.mp h.sorted
    rw [closeSets_cons (h.range candidate (List.mem_cons_self ..))]
    split
    . next hkept =>
      apply List.Pairwise.cons _ (ih h.tail)
      intro set hset
      obtain ⟨owner, howner, _, _, howns⟩ := closeSets_owned h.tail set hset
      have hnext := @nextFrom_le fn _ hsorted.2 _ howner
      rw [lastValue_wheelSetOf, firstValue, howns.first]
      omega
    . exact ih h.tail

/-- A ChannelSet that starts inside of the function, with the slot that it selects. -/
structure DeclaredSet where
  dmxFrom : UInt32
  slot : Option Int32
  deriving DecidableEq

variable (fn) in
def declaredOf (node : XMLElement) : Option DeclaredSet :=
  match parseDmxValue (readAttr node "DMXFrom" "dmxfrom") fn.sourceCount with
  | none => none
  | some dmxFrom =>
    if dmxFrom < fn.dmxFrom ∨ fn.dmxTo < dmxFrom then none
    else some ⟨dmxFrom, if isWheelSlot fn.wheel (wheelSlotIndexOf node) then
      some (wheelSlotIndexOf node) else none⟩

variable (fn) in
def declared (node : XMLElement) : List DeclaredSet :=
  (collectDirectChildrenByName node "channelset").filterMap fn.declaredOf

def CandidateSet.toDeclared (candidate : CandidateSet) : DeclaredSet :=
  ⟨candidate.dmxFrom, some candidate.wheelSlotIndex⟩

theorem declaredOf_of_ok {node : XMLElement} {order : Nat} {candidate : CandidateSet}
    (h : fn.candidateOf node order = .ok candidate)
    : fn.declaredOf node = some (CandidateSet.toDeclared candidate)
        ∧ fn.InRange candidate.dmxFrom := by
  unfold candidateOf at h
  unfold declaredOf
  cases hparse : parseDmxValue (readAttr node "DMXFrom" "dmxfrom") fn.sourceCount with
  | none =>
    rw [hparse] at h
    cases h
  | some dmxFrom =>
    rw [hparse] at h
    dsimp only at h ⊢
    split at h
    . cases h
    . next hslot =>
      rw [Bool.not_eq_false] at hslot
      split at h
      . cases h
      . next hrange =>
        rw [if_neg hrange, if_pos hslot, ← Except.ok.inj h]
        refine ⟨rfl, ?_, ?_⟩
        . exact UInt32.not_lt.mp (fun hlt => hrange (Or.inl hlt))
        . exact UInt32.not_lt.mp (fun hlt => hrange (Or.inr hlt))

theorem declaredOf_of_error {node : XMLElement} {order : Nat} {warning : RuntimeDiagnostic}
    (h : fn.candidateOf node order = .error warning)
    : ∀ set, fn.declaredOf node = some set → set.slot = none := by
  intro set hset
  unfold candidateOf at h
  unfold declaredOf at hset
  cases hparse : parseDmxValue (readAttr node "DMXFrom" "dmxfrom") fn.sourceCount with
  | none =>
    rw [hparse] at hset
    cases hset
  | some dmxFrom =>
    rw [hparse] at h hset
    dsimp only at h hset
    split at hset
    . cases hset
    . next hrange =>
      rw [← Option.some.inj hset]
      split at h
      . next hslot => simp [hslot]
      . cases h

theorem map_candidates (nodes : List XMLElement) (order : Nat)
    : (fn.candidates order nodes).1.map CandidateSet.toDeclared
        = (nodes.filterMap fn.declaredOf).filter (fun set => set.slot.isSome) := by
  induction nodes generalizing order with
  | nil => rfl
  | cons node nodes ih =>
    rw [candidates]
    cases hnode : fn.candidateOf node order with
    | ok candidate =>
      rw [List.filterMap_cons_some (declaredOf_of_ok hnode).1, List.filter_cons_of_pos rfl, ← ih]
      rfl
    | error warning =>
      have hnone := declaredOf_of_error hnode
      cases hdeclared : fn.declaredOf node with
      | none =>
        rw [List.filterMap_cons_none hdeclared, ← ih (order + 1)]
        rfl
      | some set =>
        have hslot : ¬set.slot.isSome = true := by simp [hnone set hdeclared]
        rw [List.filterMap_cons_some hdeclared, List.filter_cons, if_neg hslot, ← ih (order + 1)]
        rfl

theorem inRange_candidates (nodes : List XMLElement) (order : Nat)
    : ∀ candidate ∈ (fn.candidates order nodes).1, fn.InRange candidate.dmxFrom := by
  induction nodes generalizing order with
  | nil =>
    intro candidate h
    cases h
  | cons node nodes ih =>
    rw [candidates]
    cases hnode : fn.candidateOf node order with
    | ok candidate =>
      intro other hother
      cases List.mem_cons.mp hother with
      | inl heq =>
        rw [heq]
        exact (declaredOf_of_ok hnode).2
      | inr hmem => exact ih (order + 1) other hmem
    | error warning => exact ih (order + 1)

theorem ascends_sorted (nodes : List XMLElement)
    : Ascends fn none ((fn.candidates 0 nodes).1.mergeSort sortsBefore) := by
  constructor
  . apply List.Pairwise.imp _ (@List.pairwise_mergeSort _ sortsBefore _ _ _)
    . intro a b hab
      unfold sortsBefore at hab
      split at hab
      . exact UInt32.le_of_lt (of_decide_eq_true hab)
      . next heq =>
        rw [not_not.mp heq]
        exact UInt32.le_refl _
    . intro a b c hab hbc
      unfold sortsBefore at *
      grind
    . intro a b
      unfold sortsBefore
      grind
  . intro candidate h
    exact inRange_candidates nodes 0 candidate (List.mem_mergeSort.mp h)
  . intro start h
    cases h

/-- `set` is the declared set with the greatest start that is not above `value`. -/
def Governs (sets : List DeclaredSet) (set : DeclaredSet) (value : Nat) : Prop :=
  set ∈ sets ∧ set.dmxFrom.toNat ≤ value
    ∧ ∀ other ∈ sets, other.dmxFrom.toNat ≤ value → other.dmxFrom ≤ set.dmxFrom

/-- How many sets with a valid slot start at a value. -/
def startersAt (sets : List DeclaredSet) (start : UInt32) : Nat :=
  (sets.filter (fun set => set.dmxFrom = start && set.slot.isSome)).length

/-- The intervals of a wheel function as the GDTF sets declare them. -/
structure Faithful (fn : WheelFunction) (node : XMLElement) : Prop where
  separated : Separated firstValue lastValue (fn.parseWheelChannelSets node).1
  within : ∀ set ∈ (fn.parseWheelChannelSets node).1, fn.dmxFrom.toNat ≤ firstValue set
    ∧ firstValue set ≤ lastValue set ∧ lastValue set ≤ fn.dmxTo.toNat
  selects : ∀ set ∈ (fn.parseWheelChannelSets node).1, ∀ value,
    Holds firstValue lastValue set value →
      (∃ governing, Governs (fn.declared node) governing value)
        ∧ ∀ governing, Governs (fn.declared node) governing value →
          governing.slot = some set.wheelSlotIndex

/-- A set without a valid slot starts below all sets that have one, or the nearest of those below it
starts where a second one does. -/
def NothingAbsorbed (fn : WheelFunction) (node : XMLElement) : Prop :=
  ∀ set ∈ fn.declared node, set.slot = none → ∀ nearest ∈ fn.declared node,
    nearest.slot.isSome = true → nearest.dmxFrom ≤ set.dmxFrom →
      (∀ other ∈ fn.declared node, other.slot.isSome = true → other.dmxFrom ≤ set.dmxFrom →
        other.dmxFrom ≤ nearest.dmxFrom) →
        2 ≤ startersAt (fn.declared node) nearest.dmxFrom

section

variable (fn) (node : XMLElement)

def sortedCandidates : List CandidateSet :=
  (fn.candidates 0 (collectDirectChildrenByName node "channelset")).1.mergeSort sortsBefore

theorem map_sortedCandidates
    : ((fn.sortedCandidates node).map CandidateSet.toDeclared).Perm
        ((fn.declared node).filter (fun set => set.slot.isSome)) := by
  rw [declared, ← map_candidates _ 0]
  apply List.Perm.map
  apply List.mergeSort_perm

theorem mem_sortedCandidates_iff (set : DeclaredSet)
    : (∃ candidate ∈ fn.sortedCandidates node, CandidateSet.toDeclared candidate = set)
        ↔ set ∈ fn.declared node ∧ set.slot.isSome = true := by
  rw [← List.mem_map, (map_sortedCandidates fn node).mem_iff, List.mem_filter]

theorem length_starters (start : UInt32)
    : ((fn.sortedCandidates node).filter (fun other => other.dmxFrom = start)).length
        = startersAt (fn.declared node) start := by
  have hperm := (map_sortedCandidates fn node).filter (fun set => set.dmxFrom = start)
  rw [List.filter_map, List.filter_filter] at hperm
  have hlength := hperm.length_eq
  rw [List.length_map] at hlength
  exact hlength

theorem inRange_declared {set : DeclaredSet} (h : set ∈ fn.declared node)
    : fn.InRange set.dmxFrom := by
  obtain ⟨child, _, hdeclared⟩ := List.mem_filterMap.mp h
  unfold declaredOf at hdeclared
  split at hdeclared
  . cases hdeclared
  . split at hdeclared
    . cases hdeclared
    . next hrange =>
      rw [← Option.some.inj hdeclared]
      refine ⟨?_, ?_⟩
      . exact UInt32.not_lt.mp (fun hlt => hrange (Or.inl hlt))
      . exact UInt32.not_lt.mp (fun hlt => hrange (Or.inr hlt))

end

section

variable {node : XMLElement}

theorem ascends_sortedCandidates : Ascends fn none (fn.sortedCandidates node) :=
  ascends_sorted _

theorem isAlone_of_starters {owner : CandidateSet} (howner : owner ∈ fn.sortedCandidates node)
    (h : startersAt (fn.declared node) owner.dmxFrom < 2)
    : IsAlone (fn.sortedCandidates node) owner := by
  have hmem : owner ∈ (fn.sortedCandidates node).filter
      (fun other => other.dmxFrom = owner.dmxFrom) := by
    rw [List.mem_filter]
    exact ⟨howner, by simp⟩
  rw [← length_starters] at h
  unfold IsAlone
  cases hlist : (fn.sortedCandidates node).filter
      (fun other => other.dmxFrom = owner.dmxFrom) with
  | nil =>
    rw [hlist] at hmem
    cases hmem
  | cons first rest =>
    rw [hlist] at hmem h
    cases rest with
    | nil => rw [List.mem_singleton.mp hmem]
    | cons second rest =>
      simp only [List.length_cons] at h
      omega

theorem starters_of_isAlone {owner : CandidateSet} (h : IsAlone (fn.sortedCandidates node) owner)
    : startersAt (fn.declared node) owner.dmxFrom = 1 := by
  rw [← length_starters, h]
  rfl

theorem mem_declared_of_owner {owner : CandidateSet} (h : owner ∈ fn.sortedCandidates node)
    : CandidateSet.toDeclared owner ∈ fn.declared node :=
  ((mem_sortedCandidates_iff fn node _).mp ⟨owner, h, rfl⟩).1

-- where nothing is absorbed, no declared set starts between an interval's start and its end
theorem le_owner_of_holds (h : NothingAbsorbed fn node) {set : ParsedWheelChannelSet}
    {owner : CandidateSet} (howner : owner ∈ fn.sortedCandidates node)
    (halone : IsAlone (fn.sortedCandidates node) owner)
    (howns : fn.Owns (fn.sortedCandidates node) set owner) {other : DeclaredSet}
    (hother : other ∈ fn.declared node) (hle : other.dmxFrom.toNat ≤ lastValue set)
    : other.dmxFrom ≤ owner.dmxFrom := by
  have hvalid : ∀ valid ∈ fn.declared node, valid.slot.isSome = true →
      valid.dmxFrom.toNat ≤ lastValue set → valid.dmxFrom ≤ owner.dmxFrom := by
    intro valid hmem hslot hlast
    obtain ⟨candidate, hcandidate, rfl⟩ := (mem_sortedCandidates_iff fn node valid).mpr ⟨hmem, hslot⟩
    rw [UInt32.le_iff_toNat_le]
    apply Nat.le_of_not_lt
    intro hlt
    have := howns.stops candidate hcandidate hlt
    have hlast' : candidate.dmxFrom.toNat ≤ lastValue set := hlast
    omega
  cases hslot : other.slot with
  | some slot => exact hvalid other hother (by rw [hslot]; rfl) hle
  | none =>
    apply UInt32.not_lt.mp
    intro hlt
    have htwice := h other hother hslot (CandidateSet.toDeclared owner)
      (mem_declared_of_owner howner) rfl (UInt32.le_of_lt hlt) (by
        intro valid hmem hvalidSlot hbelow
        rw [UInt32.le_iff_toNat_le] at hbelow
        exact hvalid valid hmem hvalidSlot (by omega))
    have honce := starters_of_isAlone halone
    change 2 ≤ startersAt (fn.declared node) owner.dmxFrom at htwice
    omega

theorem selects_of_nothingAbsorbed (h : NothingAbsorbed fn node) {set : ParsedWheelChannelSet}
    (hset : set ∈ (fn.parseWheelChannelSets node).1) {value : Nat}
    (hholds : Holds firstValue lastValue set value)
    : (∃ governing, Governs (fn.declared node) governing value)
        ∧ ∀ governing, Governs (fn.declared node) governing value →
          governing.slot = some set.wheelSlotIndex := by
  obtain ⟨owner, howner, _, halone, howns⟩ := closeSets_owned ascends_sortedCandidates set hset
  obtain ⟨hfirst, hlast⟩ := hholds
  rw [firstValue, howns.first] at hfirst
  constructor
  . refine ⟨CandidateSet.toDeclared owner, mem_declared_of_owner howner, hfirst, ?_⟩
    intro other hother hle
    exact le_owner_of_holds h howner halone howns hother (by omega)
  . intro governing hgoverns
    obtain ⟨hmem, hle, hgreatest⟩ := hgoverns
    have hsame : governing.dmxFrom = owner.dmxFrom := by
      apply UInt32.le_antisymm
      . exact le_owner_of_holds h howner halone howns hmem (by omega)
      . exact hgreatest (CandidateSet.toDeclared owner) (mem_declared_of_owner howner) hfirst
    cases hslot : governing.slot with
    | some slot =>
      obtain ⟨candidate, hcandidate, rfl⟩ := (mem_sortedCandidates_iff fn node governing).mpr
        ⟨hmem, by rw [hslot]; rfl⟩
      have hfilter : candidate ∈ (fn.sortedCandidates node).filter
          (fun other => other.dmxFrom = owner.dmxFrom) := by
        rw [List.mem_filter]
        exact ⟨hcandidate, decide_eq_true hsame⟩
      rw [halone, List.mem_singleton] at hfilter
      rw [← hslot, howns.slot, hfilter]
      rfl
    | none =>
      have htwice := h governing hmem hslot (CandidateSet.toDeclared owner)
        (mem_declared_of_owner howner) rfl (by rw [hsame]; exact UInt32.le_refl _) (by
          intro other hother _ hbelow
          change other.dmxFrom ≤ owner.dmxFrom
          rw [← hsame]
          exact hbelow)
      have honce := starters_of_isAlone halone
      change 2 ≤ startersAt (fn.declared node) owner.dmxFrom at htwice
      omega

theorem nothingAbsorbed_of_selects
    (h : ∀ set ∈ (fn.parseWheelChannelSets node).1, ∀ value,
      Holds firstValue lastValue set value → ∀ governing,
        Governs (fn.declared node) governing value → governing.slot = some set.wheelSlotIndex)
    : NothingAbsorbed fn node := by
  intro set hset hslot nearest hnearest hvalid hle hgreatest
  apply Nat.le_of_not_lt
  intro hfew
  obtain ⟨owner, howner, rfl⟩ := (mem_sortedCandidates_iff fn node nearest).mpr ⟨hnearest, hvalid⟩
  have halone := isAlone_of_starters howner hfew
  obtain ⟨interval, hinterval, howns⟩ :=
    exists_owned ascends_sortedCandidates howner (by simp) halone
  have hrange := UInt32.le_iff_toNat_le.mp (inRange_declared fn node hset).2
  have hbelow : owner.dmxFrom.toNat ≤ set.dmxFrom.toNat := UInt32.le_iff_toNat_le.mp hle
  have hholds : Holds firstValue lastValue interval set.dmxFrom.toNat := by
    constructor
    . rw [firstValue, howns.first]
      exact hbelow
    . apply howns.reaches _ hrange
      intro other hother hlt
      apply Nat.lt_of_not_le
      intro hle'
      have hmem := mem_declared_of_owner hother
      have := hgreatest _ hmem rfl (UInt32.le_iff_toNat_le.mpr hle')
      have : other.dmxFrom.toNat ≤ owner.dmxFrom.toNat := UInt32.le_iff_toNat_le.mp this
      omega
  have hselected := h interval hinterval _ hholds set ⟨hset, Nat.le_refl _, by
    intro other _ hother
    exact UInt32.le_iff_toNat_le.mpr hother⟩
  rw [hslot] at hselected
  cases hselected

end

/-- The intervals are in order, apart and inside of the function for every list of sets, and they
select what the sets declare exactly when no interval absorbs a set without a valid slot. -/
theorem parseWheelChannelSets_faithful_iff (fn : WheelFunction) (node : XMLElement)
    : Faithful fn node ↔ NothingAbsorbed fn node := by
  constructor
  . intro h
    apply nothingAbsorbed_of_selects
    intro set hset value hholds
    exact (h.selects set hset value hholds).2
  . intro h
    constructor
    . exact separated_closeSets ascends_sortedCandidates
    . intro set hset
      obtain ⟨owner, howner, _, _, howns⟩ := closeSets_owned ascends_sortedCandidates set hset
      have hrange := UInt32.le_iff_toNat_le.mp (ascends_sortedCandidates.range owner howner).1
      refine ⟨?_, howns.nonempty, howns.within⟩
      rw [firstValue, howns.first]
      exact hrange
    . intro set hset value hholds
      exact selects_of_nothingAbsorbed h hset hholds

def openThenSpin : XMLElement :=
  .node 1 "ChannelFunction" [] [
    .node 2 "ChannelSet" [("Name", "Open"), ("DMXFrom", "0/1"), ("WheelSlotIndex", "1")] [],
    .node 3 "ChannelSet" [("Name", "Spin"), ("DMXFrom", "128/1")] []]

def twoSlotFunction : WheelFunction where
  sourceCount := 1
  dmxFrom := 0
  dmxTo := 255
  physicalFrom := 0
  physicalTo := 1
  wheel := some { id := 1, name := "Gobo Wheel", slotCount := 2 }
  floatAttribute := fun _ _ _ => none

/-- The values of a set without a slot are given to the slot of the set in front of it. -/
theorem openThenSpin_not_faithful : ¬Faithful twoSlotFunction openThenSpin := by
  intro h
  have hdeclared : twoSlotFunction.declared openThenSpin = [⟨0, some 1⟩, ⟨128, none⟩] := by
    decide +kernel
  have hsets : ∃ set ∈ (twoSlotFunction.parseWheelChannelSets openThenSpin).1,
      firstValue set = 0 ∧ lastValue set = 255 := by
    decide +kernel
  obtain ⟨set, hset, hfirst, hlast⟩ := hsets
  have hselects := (h.selects set hset 128 ⟨by omega, by omega⟩).2 ⟨128, none⟩ (by
    rw [hdeclared]
    unfold Governs
    decide)
  cases hselects

end WheelFunction
end Peraviz.Gdtf
