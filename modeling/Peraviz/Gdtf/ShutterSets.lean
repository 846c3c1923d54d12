import Mathlib.Algebra.Order.Ring.Rat
import Peraviz.Gdtf.DmxValue.Convert
import Peraviz.Gdtf.Fixture
import Peraviz.Intervals.Basic

/-!
This module contains the ranges of shutter functions and of their ChannelSets: the range of a
function ends in front of the next start, and the sets of a function are cut out of its range.
-/

namespace Peraviz.Gdtf

open CheckedInt Intervals Peraviz.Runtime

/-- A difference of unsigned numbers, `none` where it wraps around. -/
def uintSubChecked (a b : UInt32) : Option UInt32 :=
  if b ≤ a then some (a - b) else none

def isConditional (node : XMLElement) : Bool :=
  match patchAttribute node "ModeMaster" "modemaster" with
  | some master => trimAscii master ≠ ""
  | none => false

def shutterStart (node : XMLElement) (bytes : Nat) : Option UInt32 :=
  parseAndConvertGdtfDmxValue ((patchAttribute node "DMXFrom" "dmxfrom").getD "0/1")
    (UInt8.ofNat bytes)

def fullRange (bytes : Nat) : UInt32 :=
  if bytes = 4 then 0xffffffff else UInt32.ofNat (2 ^ (bytes * 8) - 1)

/-- One round over the other functions, `none` is a range that is refused. -/
def cutAtStart (fn : XMLElement) (bytes : Nat) (start : UInt32) (stop : UInt32)
    (other : XMLElement) : Option UInt32 := do
  let next ← shutterStart other bytes
  if other.handle ≠ fn.handle ∧ next = start ∧ isConditional fn = false ∧
      isConditional other = false then
    none
  else return if start < next then min stop (next - 1) else stop

def shutterFunctionRange (fn : XMLElement) (functions : List XMLElement) (bytes : Nat)
    : Option (UInt32 × UInt32) := do
  let start ← shutterStart fn bytes
  let stop ← functions.foldlM (cutAtStart fn bytes start) (fullRange bytes)
  match patchAttribute fn "DMXTo" "dmxto" with
  | none => return (start, stop)
  | some raw =>
    let explicitTo ← parseAndConvertGdtfDmxValue raw (UInt8.ofNat bytes)
    if explicitTo < start ∨ stop < explicitTo then none else return (start, explicitTo)

section

variable (doubleText : List Char → Option ℚ)

/-- The physical value of an attribute, and whether its text is one where there is a text. The
numbers of the C++ library are read by `doubleText`, nothing is assumed of it. -/
def shutterPhysical (node : XMLElement) (name : String) (fallback : ℚ) : ℚ × Bool :=
  match patchAttribute node name (lowerAscii name) with
  | none => (fallback, true)
  | some raw =>
    let text := trimChars raw.toList
    match doubleText (if text.head? = some '+' then text.tail else text) with
    | some value => (value, true)
    | none => (fallback, false)

def declareShutterSet (bytes : Nat) (stop : UInt32) (physicalFrom physicalTo : ℚ)
    (x : List ParsedWheelChannelSet × Bool) (node : XMLElement)
    : List ParsedWheelChannelSet × Bool :=
  match shutterStart node bytes with
  | none => (x.1, false)
  | some value =>
    if stop < value then (x.1, false)
    else
      let start := shutterPhysical doubleText node "PhysicalFrom" physicalFrom
      let last := shutterPhysical doubleText node "PhysicalTo" physicalTo
      let set : ParsedWheelChannelSet := {
        declaredDmxFrom := value, effectiveDmxTo := stop
        name := (node.attributeText "Name").getD ""
        physicalFrom := start.1, physicalTo := last.1 }
      (x.1 ++ [set], x.2 && start.2 && last.2)

def keepShutterSet (start : UInt32) (set : ParsedWheelChannelSet)
    (sets : List ParsedWheelChannelSet) : List ParsedWheelChannelSet :=
  if set.effectiveDmxTo < start then sets
  else { set with declaredDmxFrom := max start set.declaredDmxFrom } :: sets

/-- The second loop: every set ends in front of the next one. The flag is `false` where two sets
start at one value. -/
def closeShutterSets (start : UInt32) : List ParsedWheelChannelSet →
    Option (List ParsedWheelChannelSet × Bool)
  | [] => some ([], true)
  | set :: rest => do
    let closed ← closeShutterSets start rest
    match rest.head? with
    | none => return (keepShutterSet start set closed.1, closed.2)
    | some next =>
      if set.declaredDmxFrom = next.declaredDmxFrom then
        return (closed.1, false)
      else
        let stop ← uintSubChecked next.declaredDmxFrom 1
        return (keepShutterSet start { set with effectiveDmxTo := stop } closed.1, closed.2)

/-- The unnamed start of the function in front of its first set. -/
def insertPrefix (start stop : UInt32) (physicalFrom physicalTo : ℚ)
    (sets : List ParsedWheelChannelSet) : Option (List ParsedWheelChannelSet) :=
  match sets with
  | [] => some []
  | first :: rest =>
    if start < first.declaredDmxFrom then do
      let last ← uintSubChecked first.declaredDmxFrom 1
      let physicalEnd :=
        if start < stop then
          physicalFrom + (physicalTo - physicalFrom) * (last - start).toNat / (stop - start).toNat
        else physicalFrom
      return { declaredDmxFrom := start, effectiveDmxTo := last, physicalFrom
               physicalTo := physicalEnd } :: first :: rest
    else some (first :: rest)

def startsBefore (a b : ParsedWheelChannelSet) : Bool :=
  a.declaredDmxFrom ≤ b.declaredDmxFrom

/-- The sets with the flag `valid`, `none` is a difference that wraps around. -/
def parseShutterSets (fn : XMLElement) (bytes : Nat) (start stop : UInt32)
    (physicalFrom physicalTo : ℚ) (valid : Bool)
    : Option (List ParsedWheelChannelSet × Bool) := do
  let declared := (collectDirectChildrenByName fn "channelset").foldl
    (declareShutterSet doubleText bytes stop physicalFrom physicalTo) ([], valid)
  let closed ← closeShutterSets start (declared.1.mergeSort startsBefore)
  let sets ← insertPrefix start stop physicalFrom physicalTo closed.1
  let valid := declared.2 && closed.2
  return (if valid then sets else [], valid)

end

def firstValue (set : ParsedWheelChannelSet) : Nat := set.declaredDmxFrom.toNat

def lastValue (set : ParsedWheelChannelSet) : Nat := set.effectiveDmxTo.toNat

/-- The sets are an exact partition of the values from `start` to `stop`. -/
def Partitions (start stop : UInt32) (sets : List ParsedWheelChannelSet) : Prop :=
  Tiles firstValue lastValue start.toNat (stop.toNat + 1) sets

/-- Each value of the range has exactly one set. -/
theorem Partitions.exists_unique {start stop : UInt32} {sets : List ParsedWheelChannelSet}
    (h : Partitions start stop sets) {value : UInt32} (hstart : start ≤ value) (hstop : value ≤ stop)
    : ∃ set ∈ sets, Holds firstValue lastValue set value.toNat ∧
        ∀ other ∈ sets, Holds firstValue lastValue other value.toNat → other = set := by
  have hwithin : start.toNat ≤ value.toNat ∧ value.toNat < stop.toNat + 1 :=
    ⟨UInt32.le_iff_toNat_le.mp hstart, Nat.lt_succ_of_le (UInt32.le_iff_toNat_le.mp hstop)⟩
  obtain ⟨set, hset, hholds⟩ := (h.holds_iff value.toNat).mpr hwithin
  refine ⟨set, hset, hholds, ?_⟩
  intro other hother hholds'
  apply h.separated.eq_of_holds hother hset hholds' hholds

theorem defined_uintSubChecked {a b : UInt32} (h : b ≤ a)
    : Defined (uintSubChecked a b) (fun c => c.toNat = a.toNat - b.toNat) := by
  refine ⟨a - b, ?_, ?_⟩
  . rw [uintSubChecked, if_pos h]
  . exact UInt32.toNat_sub_of_le a b h

theorem one_le_of_lt {a b : UInt32} (h : a < b) : 1 ≤ b := by
  rw [UInt32.lt_iff_toNat_lt] at h
  rw [UInt32.le_iff_toNat_le]
  have hone : (1 : UInt32).toNat = 1 := rfl
  omega

theorem toNat_max (a b : UInt32) : (max a b).toNat = max a.toNat b.toNat := by
  change (if a ≤ b then b else a).toNat = _
  split
  . next h =>
    rw [UInt32.le_iff_toNat_le] at h
    omega
  . next h =>
    rw [UInt32.le_iff_toNat_le] at h
    omega

theorem toNat_min (a b : UInt32) : (min a b).toNat = min a.toNat b.toNat := by
  change (if a ≤ b then a else b).toNat = _
  split
  . next h =>
    rw [UInt32.le_iff_toNat_le] at h
    omega
  . next h =>
    rw [UInt32.le_iff_toNat_le] at h
    omega

/-- What the second loop makes of the sets from `first` on: nothing of a range that is empty, and
else a partition of what the sets reach, unless two of them start at one value. -/
structure Closed (start stop : UInt32) (first : Nat) (closed : List ParsedWheelChannelSet × Bool)
    : Prop where
  empty : stop < start → closed.1 = []
  tiles : closed.2 = true → start ≤ stop →
    Tiles firstValue lastValue (max start.toNat first) (stop.toNat + 1) closed.1

theorem tiles_keepShutterSet {start : UInt32} {set : ParsedWheelChannelSet}
    {sets : List ParsedWheelChannelSet} {next stop : Nat}
    (hset : firstValue set < next) (hend : lastValue set + 1 = next)
    (hrest : Tiles firstValue lastValue (max start.toNat next) stop sets)
    : Tiles firstValue lastValue (max start.toNat (firstValue set)) stop
        (keepShutterSet start set sets) := by
  unfold keepShutterSet
  split
  . next hlt =>
    rw [UInt32.lt_iff_toNat_lt] at hlt
    unfold lastValue at hend
    rw [show max start.toNat (firstValue set) = max start.toNat next by omega]
    exact hrest
  . next hge =>
    have hge := UInt32.le_iff_toNat_le.mp (UInt32.not_lt.mp hge)
    unfold lastValue at hend
    refine ⟨?_, ?_, ?_⟩
    . rw [firstValue, toNat_max]
      rfl
    . change max start.toNat (firstValue set) ≤ set.effectiveDmxTo.toNat
      omega
    . change Tiles firstValue lastValue (set.effectiveDmxTo.toNat + 1) stop sets
      rw [show set.effectiveDmxTo.toNat + 1 = max start.toNat next by omega]
      exact hrest

theorem closed_keepShutterSet {start stop : UInt32} {set : ParsedWheelChannelSet}
    {closed : List ParsedWheelChannelSet × Bool} {next : Nat}
    (hset : firstValue set < next) (hend : lastValue set + 1 = next) (hstop : next ≤ stop.toNat + 1)
    (hempty : stop < start → closed.1 = [])
    (htiles : closed.2 = true → start ≤ stop →
      Tiles firstValue lastValue (max start.toNat next) (stop.toNat + 1) closed.1)
    : Closed start stop (firstValue set) (keepShutterSet start set closed.1, closed.2) := by
  constructor
  . intro hlt
    have hlt' := UInt32.lt_iff_toNat_lt.mp hlt
    unfold lastValue at hend
    unfold keepShutterSet
    rw [if_pos (UInt32.lt_iff_toNat_lt.mpr (by omega))]
    exact hempty hlt
  . intro hdistinct hle
    apply tiles_keepShutterSet hset hend
    exact htiles hdistinct hle

def nextStart (stop : UInt32) (l : List ParsedWheelChannelSet) : Nat :=
  (l.head?.map firstValue).getD (stop.toNat + 1)

theorem defined_closeShutterSets {start stop : UInt32} {l : List ParsedWheelChannelSet}
    (hsorted : l.Pairwise (fun a b => startsBefore a b = true))
    (hstop : ∀ set ∈ l, set.declaredDmxFrom ≤ stop ∧ set.effectiveDmxTo = stop)
    : Defined (closeShutterSets start l) (Closed start stop (nextStart stop l)) := by
  induction l with
  | nil =>
    apply Defined.pure
    refine ⟨fun _ => rfl, ?_⟩
    intro _ hle
    rw [UInt32.le_iff_toNat_le] at hle
    change max start.toNat (stop.toNat + 1) = stop.toNat + 1
    omega
  | cons set rest ih =>
    rw [List.pairwise_cons] at hsorted
    obtain ⟨hbefore, hrest⟩ := hsorted
    obtain ⟨hle, heffective⟩ := hstop set (List.mem_cons_self ..)
    rw [UInt32.le_iff_toNat_le] at hle
    have hlater : ∀ other ∈ rest, other.declaredDmxFrom ≤ stop ∧ other.effectiveDmxTo = stop := by
      intro other hother
      exact hstop other (List.mem_cons_of_mem _ hother)
    unfold closeShutterSets
    apply Defined.bind (ih hrest hlater)
    intro closed hclosed
    cases rest with
    | nil =>
      apply Defined.pure
      have hlast : lastValue set + 1 = nextStart stop [] := by
        rw [lastValue, heffective]
        rfl
      apply closed_keepShutterSet _ hlast (Nat.le_refl _) hclosed.empty hclosed.tiles
      exact Nat.lt_succ_of_le hle
    | cons next rest =>
      have hnextStop := UInt32.le_iff_toNat_le.mp (hlater next (List.mem_cons_self ..)).1
      have hsetNext : set.declaredDmxFrom ≤ next.declaredDmxFrom := by
        have := hbefore next (List.mem_cons_self ..)
        simpa [startsBefore] using this
      rw [UInt32.le_iff_toNat_le] at hsetNext
      simp only [List.head?_cons]
      split
      . apply Defined.pure
        exact ⟨hclosed.empty, by simp⟩
      . next hne =>
        have hlt : set.declaredDmxFrom.toNat < next.declaredDmxFrom.toNat := by
          have : set.declaredDmxFrom.toNat ≠ next.declaredDmxFrom.toNat := by
            intro heq
            exact hne (UInt32.toNat_inj.mp heq)
          omega
        apply Defined.bind (defined_uintSubChecked (one_le_of_lt (UInt32.lt_iff_toNat_lt.mpr hlt)))
        intro last hlast
        have hone : (1 : UInt32).toNat = 1 := rfl
        apply Defined.pure
        apply @closed_keepShutterSet _ _ { set with effectiveDmxTo := last } _
          next.declaredDmxFrom.toNat hlt _ _ hclosed.empty hclosed.tiles
        . change last.toNat + 1 = next.declaredDmxFrom.toNat
          omega
        . omega

theorem defined_insertPrefix {start stop : UInt32} {physicalFrom physicalTo : ℚ}
    {sets : List ParsedWheelChannelSet}
    : Defined (insertPrefix start stop physicalFrom physicalTo sets) (fun result =>
        (sets = [] → result = []) ∧ ∀ first, sets.head? = some first →
          start ≤ first.declaredDmxFrom →
            Tiles firstValue lastValue (firstValue first) (stop.toNat + 1) sets →
              Partitions start stop result) := by
  unfold insertPrefix
  cases sets with
  | nil =>
    apply Defined.pure
    refine ⟨fun _ => rfl, ?_⟩
    intro first h
    cases h
  | cons first rest =>
    dsimp only
    split
    . next hlt =>
      have hlt' := UInt32.lt_iff_toNat_lt.mp hlt
      have hone : (1 : UInt32).toNat = 1 := rfl
      apply Defined.bind (defined_uintSubChecked (one_le_of_lt hlt))
      intro last hlast
      apply Defined.pure
      refine ⟨by simp, ?_⟩
      intro other hother _ htiles
      cases hother
      refine ⟨rfl, ?_, ?_⟩
      . change start.toNat ≤ last.toNat
        omega
      . change Tiles firstValue lastValue (last.toNat + 1) (stop.toNat + 1) (first :: rest)
        rw [show last.toNat + 1 = firstValue first by unfold firstValue; omega]
        exact htiles
    . next hge =>
      apply Defined.pure
      refine ⟨by simp, ?_⟩
      intro other hother hle htiles
      cases hother
      have heq : firstValue first = start.toNat := by
        rw [UInt32.lt_iff_toNat_lt] at hge
        rw [UInt32.le_iff_toNat_le] at hle
        unfold firstValue
        omega
      rw [heq] at htiles
      exact htiles

section

variable {doubleText : List Char → Option ℚ} {bytes : Nat} {stop : UInt32}
  {physicalFrom physicalTo : ℚ}

theorem declareShutterSet_within {x : List ParsedWheelChannelSet × Bool} {node : XMLElement}
    (h : ∀ set ∈ x.1, set.declaredDmxFrom ≤ stop ∧ set.effectiveDmxTo = stop)
    : ∀ set ∈ (declareShutterSet doubleText bytes stop physicalFrom physicalTo x node).1,
        set.declaredDmxFrom ≤ stop ∧ set.effectiveDmxTo = stop := by
  unfold declareShutterSet
  split
  . exact h
  . next value hvalue =>
    split
    . exact h
    . next hle =>
      intro set hset
      cases List.mem_append.mp hset with
      | inl hold => exact h set hold
      | inr hnew =>
        rw [List.mem_singleton.mp hnew]
        exact ⟨UInt32.not_lt.mp hle, rfl⟩

theorem foldl_declareShutterSet_within {nodes : List XMLElement}
    {x : List ParsedWheelChannelSet × Bool}
    (h : ∀ set ∈ x.1, set.declaredDmxFrom ≤ stop ∧ set.effectiveDmxTo = stop)
    : ∀ set ∈ (nodes.foldl
          (declareShutterSet doubleText bytes stop physicalFrom physicalTo) x).1,
        set.declaredDmxFrom ≤ stop ∧ set.effectiveDmxTo = stop := by
  induction nodes generalizing x with
  | nil => exact h
  | cons node nodes ih =>
    apply ih
    exact declareShutterSet_within h

theorem pairwise_startsBefore (l : List ParsedWheelChannelSet)
    : (l.mergeSort startsBefore).Pairwise (fun a b => startsBefore a b = true) := by
  apply List.pairwise_mergeSort
  . intro a b c hab hbc
    simp only [startsBefore, decide_eq_true_eq] at hab hbc ⊢
    exact UInt32.le_trans hab hbc
  . intro a b
    simp only [startsBefore, Bool.or_eq_true, decide_eq_true_eq]
    exact UInt32.le_total ..

theorem partitions_of_closed {start : UInt32} {first : Nat}
    {closed : List ParsedWheelChannelSet × Bool} {sets : List ParsedWheelChannelSet}
    (hclosed : Closed start stop first closed) (hdistinct : closed.2 = true)
    (hsets : (closed.1 = [] → sets = []) ∧ ∀ set, closed.1.head? = some set →
      start ≤ set.declaredDmxFrom →
        Tiles firstValue lastValue (firstValue set) (stop.toNat + 1) closed.1 →
          Partitions start stop sets)
    : sets = [] ∨ Partitions start stop sets := by
  by_cases hlt : stop < start
  . left
    apply hsets.1
    exact hclosed.empty hlt
  . have htiles := hclosed.tiles hdistinct (UInt32.not_lt.mp hlt)
    cases hlist : closed.1 with
    | nil =>
      left
      exact hsets.1 hlist
    | cons set rest =>
      right
      rw [hlist] at htiles
      have hfirst : firstValue set = max start.toNat first := htiles.1
      apply hsets.2 set (by rw [hlist]; rfl)
      . rw [UInt32.le_iff_toNat_le]
        unfold firstValue at hfirst
        omega
      . rw [hlist, hfirst]
        exact htiles

end

/-- The sets of a function are none at all, or an exact partition of its range, and no end in front
of a next start wraps around. -/
theorem parseShutterSets_partition (doubleText : List Char → Option ℚ) (fn : XMLElement)
    (bytes : Nat) (start stop : UInt32) (physicalFrom physicalTo : ℚ) (valid : Bool)
    : Defined (parseShutterSets doubleText fn bytes start stop physicalFrom physicalTo valid)
        (fun result => result.1 = [] ∨ Partitions start stop result.1) := by
  unfold parseShutterSets
  dsimp only
  generalize hdeclared : (collectDirectChildrenByName fn "channelset").foldl
    (declareShutterSet doubleText bytes stop physicalFrom physicalTo) ([], valid) = declared
  have hwithin : ∀ set ∈ declared.1, set.declaredDmxFrom ≤ stop ∧ set.effectiveDmxTo = stop := by
    rw [← hdeclared]
    apply foldl_declareShutterSet_within
    simp
  apply Defined.bind (defined_closeShutterSets (pairwise_startsBefore declared.1) (by
    intro set hset
    exact hwithin set (List.mem_mergeSort.mp hset)))
  intro closed hclosed
  apply Defined.bind defined_insertPrefix
  intro sets hsets
  apply Defined.pure
  dsimp only
  split
  . next hvalid =>
    rw [Bool.and_eq_true] at hvalid
    exact partitions_of_closed hclosed hvalid.2 hsets
  . left
    rfl

section

variable {fn : XMLElement} {bytes : Nat} {start : UInt32}

theorem cutAtStart_le {stop stop' : UInt32} {other : XMLElement}
    (h : cutAtStart fn bytes start stop other = some stop')
    : stop' ≤ stop ∧ ∀ next, shutterStart other bytes = some next → start < next →
        stop' < next := by
  unfold cutAtStart at h
  obtain ⟨next, hnext, h⟩ := Option.bind_eq_some_iff.mp h
  split at h
  . cases h
  . have h := Option.some.inj h
    constructor
    . rw [← h]
      split
      . rw [UInt32.le_iff_toNat_le, toNat_min]
        omega
      . exact UInt32.le_refl stop
    . intro next' hnext' hlt
      rw [hnext] at hnext'
      cases hnext'
      rw [if_pos hlt] at h
      have hone : (1 : UInt32).toNat = 1 := rfl
      have hpos := UInt32.le_iff_toNat_le.mp (one_le_of_lt hlt)
      rw [← h, UInt32.lt_iff_toNat_lt, toNat_min, UInt32.toNat_sub_of_le _ _ (one_le_of_lt hlt)]
      omega

theorem foldlM_cutAtStart {functions : List XMLElement} {stop last : UInt32}
    (h : functions.foldlM (cutAtStart fn bytes start) stop = some last)
    : last ≤ stop ∧ ∀ other ∈ functions, ∀ next, shutterStart other bytes = some next →
        start < next → last < next := by
  induction functions generalizing stop with
  | nil =>
    cases h
    exact ⟨UInt32.le_refl _, by simp⟩
  | cons first functions ih =>
    rw [List.foldlM_cons] at h
    obtain ⟨stop', hcut, hrest⟩ := Option.bind_eq_some_iff.mp h
    obtain ⟨hle, hfirst⟩ := cutAtStart_le hcut
    obtain ⟨hle', hlater⟩ := ih hrest
    refine ⟨UInt32.le_trans hle' hle, ?_⟩
    intro other hother next hnext hlt
    cases List.mem_cons.mp hother with
    | inl heq =>
      rw [heq] at hnext
      exact UInt32.lt_of_le_of_lt hle' (hfirst next hnext hlt)
    | inr hmem => exact hlater other hmem next hnext hlt

theorem shutterFunctionRange_ends {functions : List XMLElement} {range : UInt32 × UInt32}
    (h : shutterFunctionRange fn functions bytes = some range)
    : shutterStart fn bytes = some range.1 ∧ ∀ other ∈ functions, ∀ next,
        shutterStart other bytes = some next → range.1 < next → range.2 < next := by
  unfold shutterFunctionRange at h
  obtain ⟨first, hstart, h⟩ := Option.bind_eq_some_iff.mp h
  obtain ⟨stop, hstop, h⟩ := Option.bind_eq_some_iff.mp h
  obtain ⟨_, hends⟩ := foldlM_cutAtStart hstop
  split at h
  . cases h
    exact ⟨hstart, hends⟩
  . obtain ⟨explicitTo, _, h⟩ := Option.bind_eq_some_iff.mp h
    split at h
    . cases h
    . next hwithin =>
      cases h
      refine ⟨hstart, ?_⟩
      intro other hother next hnext hlt
      have hle : explicitTo ≤ stop := by
        apply UInt32.not_lt.mp
        intro hbeyond
        exact hwithin (Or.inr hbeyond)
      exact UInt32.lt_of_le_of_lt hle (hends other hother next hnext hlt)

end

theorem shutterFunctionRange_disjoint {functions : List XMLElement} {bytes : Nat}
    {f g : XMLElement} {range range' : UInt32 × UInt32} (hf : f ∈ functions) (hg : g ∈ functions)
    (h : shutterFunctionRange f functions bytes = some range)
    (h' : shutterFunctionRange g functions bytes = some range') (hne : range.1 ≠ range'.1)
    : range.2 < range'.1 ∨ range'.2 < range.1 := by
  obtain ⟨hstart, hends⟩ := shutterFunctionRange_ends h
  obtain ⟨hstart', hends'⟩ := shutterFunctionRange_ends h'
  cases UInt32.lt_or_lt_of_ne hne with
  | inl hlt =>
    left
    exact hends g hg range'.1 hstart' hlt
  | inr hlt =>
    right
    exact hends' f hf range.1 hstart hlt

/-- The two halves of the ranges of a shutter channel: the sets of a function partition it, and its
functions are apart. -/
theorem shutterRanges_correct (doubleText : List Char → Option ℚ) (functions : List XMLElement)
    (bytes : Nat)
    : (∀ fn start stop physicalFrom physicalTo valid,
        Defined (parseShutterSets doubleText fn bytes start stop physicalFrom physicalTo valid)
          (fun result => result.1 = [] ∨ Partitions start stop result.1))
      ∧ ∀ f ∈ functions, ∀ g ∈ functions, ∀ range range',
        shutterFunctionRange f functions bytes = some range →
          shutterFunctionRange g functions bytes = some range' → range.1 ≠ range'.1 →
            range.2 < range'.1 ∨ range'.2 < range.1 := by
  constructor
  . intro fn start stop physicalFrom physicalTo valid
    exact parseShutterSets_partition doubleText fn bytes start stop physicalFrom physicalTo valid
  . intro f hf g hg range range' h h' hne
    exact shutterFunctionRange_disjoint hf hg h h' hne

def closedFunction : XMLElement :=
  .node 1 "ChannelFunction" [("DMXFrom", "0/1")] [.node 2 "ChannelSet" [("DMXFrom", "10/1")] []]

def openFunction : XMLElement :=
  .node 3 "ChannelFunction" [("DMXFrom", "32/1")] []

theorem shutterRanges_closed_open
    : shutterFunctionRange closedFunction [closedFunction, openFunction] 1 = some (0, 31)
      ∧ shutterFunctionRange openFunction [closedFunction, openFunction] 1 = some (32, 255)
      ∧ ((31 : UInt32) < 32 ∨ (255 : UInt32) < 0) := by
  have hclosed : shutterFunctionRange closedFunction [closedFunction, openFunction] 1
      = some (0, 31) := by decide +kernel
  have hopen : shutterFunctionRange openFunction [closedFunction, openFunction] 1
      = some (32, 255) := by decide +kernel
  refine ⟨hclosed, hopen, ?_⟩
  exact (shutterRanges_correct (fun _ => none) [closedFunction, openFunction] 1).2 closedFunction
    (by simp) openFunction (by simp) (0, 31) (32, 255) hclosed hopen (by decide)

end Peraviz.Gdtf
