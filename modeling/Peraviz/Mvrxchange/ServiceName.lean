import Peraviz.Mvrxchange.Json

/-!
This module contains the DNS-SD service instance names of MVR-xchange stations: the name that the
local station advertises, and the parser that takes the group out of it again.
-/

namespace Peraviz.Mvrxchange

open Trimming

def kMvrXchangeServiceType : List UInt8 := ascii "_mvrxchange._tcp.local."
def kDefaultGroupName : List UInt8 := ascii "Default"

structure ParsedServiceName where
  stationName : List UInt8 := []
  group : List UInt8 := []
  valid : Bool := false
  deriving DecidableEq

/-- `std::string::rfind` of one character. -/
def rfind (c : UInt8) : List UInt8 → Option Nat
  | [] => none
  | first :: rest =>
    match rfind c rest with
    | some i => some (i + 1)
    | none => if first = c then some 0 else none

def removeServiceSuffix (value : List UInt8) : List UInt8 :=
  let value :=
    if kMvrXchangeServiceType <:+ value then
      value.take (value.length - kMvrXchangeServiceType.length)
    else value
  if value.getLast? = some 46 then value.dropLast else value

def normalizeGroupName (group : List UInt8) : List UInt8 :=
  let trimmed := trimCopy group
  if trimmed = [] then kDefaultGroupName else trimmed

def parseMvrXchangeServiceName (serviceName : List UInt8) : ParsedServiceName :=
  let text := trimCopy (removeServiceSuffix serviceName)
  if text = [] then {}
  else
    match rfind 64 text with
    | none => { stationName := text, group := kDefaultGroupName, valid := true }
    | some separator =>
      let stationName := trimCopy (text.take separator)
      let group := normalizeGroupName (text.drop (separator + 1))
      { stationName, group, valid := stationName ≠ [] }

def mvrXchangeServiceMatchesGroup (serviceName group : List UInt8) : Bool :=
  let parsed := parseMvrXchangeServiceName serviceName
  parsed.valid && parsed.group = normalizeGroupName group

/-- The name that `MvrXchangeLocalStation::start` advertises. -/
def localServiceName (stationName group : List UInt8) : List UInt8 :=
  stationName ++ ascii "@" ++ normalizeGroupName group ++ ascii "." ++ kMvrXchangeServiceType

/-! ### The last separator -/

theorem rfind_eq_none_iff {c : UInt8} {l : List UInt8} : rfind c l = none ↔ c ∉ l := by
  induction l with
  | nil => simp [rfind]
  | cons first rest ih =>
    rw [rfind]
    split
    next i hi =>
      rw [hi] at ih
      simp at ih
      simp [ih]
    next hnone =>
      have hrest := ih.mp hnone
      simp [hrest, eq_comm]

theorem not_mem_of_rfind {c : UInt8} {l : List UInt8} {i : Nat} (h : rfind c l = some i)
    : c ∉ l.drop (i + 1) := by
  induction l generalizing i with
  | nil => simp [rfind] at h
  | cons first rest ih =>
    rw [rfind] at h
    split at h
    next j hj =>
      cases h
      apply ih hj
    next hnone =>
      split at h
      next =>
        cases h
        rw [List.drop_succ_cons, List.drop_zero]
        exact rfind_eq_none_iff.mp hnone
      next => contradiction

theorem rfind_append_of_some {c : UInt8} {back : List UInt8} {i : Nat} (h : rfind c back = some i)
    (front : List UInt8)
    : rfind c (front ++ back) = some (front.length + i) := by
  induction front with
  | nil => simp [h]
  | cons first front ih =>
    rw [List.cons_append, rfind, ih]
    simp only [List.length_cons, Option.some.injEq]
    omega

theorem rfind_cons_of_not_mem {c : UInt8} {back : List UInt8} (h : c ∉ back)
    : rfind c (c :: back) = some 0 := by
  rw [rfind, rfind_eq_none_iff.mpr h]
  simp

/-! ### Groups -/

theorem not_mem_kDefaultGroupName : 64 ∉ kDefaultGroupName := by
  decide

theorem normalizeGroupName_ne_nil (group : List UInt8) : normalizeGroupName group ≠ [] := by
  unfold normalizeGroupName
  dsimp only
  split
  next => decide
  next h => exact h

theorem trimmed_normalizeGroupName (group : List UInt8)
    : Trimmed isSpace (normalizeGroupName group) := by
  unfold normalizeGroupName
  dsimp only
  split
  next => exact ⟨by decide, by decide⟩
  next => apply trimmed_trim

@[simp]
theorem normalizeGroupName_normalizeGroupName (group : List UInt8)
    : normalizeGroupName (normalizeGroupName group) = normalizeGroupName group := by
  have htrim : trimCopy (normalizeGroupName group) = normalizeGroupName group :=
    (trimmed_normalizeGroupName group).trim_eq
  rw [normalizeGroupName, htrim]
  simp [normalizeGroupName_ne_nil]

theorem mem_normalizeGroupName_iff {group : List UInt8}
    : 64 ∈ normalizeGroupName group ↔ 64 ∈ group := by
  unfold normalizeGroupName
  dsimp only
  split
  next h =>
    have hblank := trim_eq_nil_iff.mp h
    constructor
    . intro hmem
      exact absurd hmem not_mem_kDefaultGroupName
    . intro hmem
      exact absurd (hblank 64 hmem) (by decide)
  next =>
    constructor
    . exact mem_of_mem_trim
    . intro hmem
      exact mem_trim hmem (by decide)

/-! ### The advertised name -/

theorem removeServiceSuffix_localServiceName (stationName group : List UInt8)
    : removeServiceSuffix (localServiceName stationName group)
        = stationName ++ 64 :: normalizeGroupName group := by
  have hdot : ascii "." = [46] := by decide
  have hat : ascii "@" = [64] := by decide
  have htake : (localServiceName stationName group).take
      ((localServiceName stationName group).length - kMvrXchangeServiceType.length)
      = stationName ++ 64 :: normalizeGroupName group ++ [46] := by
    rw [localServiceName, List.length_append, Nat.add_sub_cancel, List.take_left, hdot, hat]
    simp
  have hsuffix : kMvrXchangeServiceType <:+ localServiceName stationName group :=
    List.suffix_append _ _
  unfold removeServiceSuffix
  simp only [if_pos hsuffix, htake]
  rw [if_pos List.getLast?_concat, List.dropLast_concat]

theorem trimCopy_localInstance (stationName group : List UInt8)
    : trimCopy (stationName ++ 64 :: normalizeGroupName group)
        = stationName.dropWhile isSpace ++ 64 :: normalizeGroupName group := by
  have hgroup := trimmed_normalizeGroupName group
  have hat : isSpace 64 = false := by decide
  rw [trimCopy, trim, List.dropWhile_append, List.dropWhile_cons_of_neg (by simp [hat])]
  have hfront : (if (stationName.dropWhile isSpace).isEmpty = true then
      64 :: normalizeGroupName group
      else stationName.dropWhile isSpace ++ 64 :: normalizeGroupName group)
      = stationName.dropWhile isSpace ++ 64 :: normalizeGroupName group := by
    split
    next h => simp [List.isEmpty_iff.mp h]
    next => rfl
  rw [hfront, List.rdropWhile_eq_self_iff]
  intro hne
  have hlast := List.rdropWhile_eq_self_iff.mp hgroup.2 (normalizeGroupName_ne_nil group)
  rw [List.getLast_append_of_ne_nil hne (List.cons_ne_nil _ _),
    List.getLast_cons (normalizeGroupName_ne_nil group)]
  exact hlast

theorem parse_localServiceName_of_not_mem {stationName group : List UInt8} (h : 64 ∉ group)
    : parseMvrXchangeServiceName (localServiceName stationName group) = {
        stationName := trimCopy (stationName.dropWhile isSpace)
        group := normalizeGroupName group
        valid := trimCopy (stationName.dropWhile isSpace) ≠ [] } := by
  have hnot : 64 ∉ normalizeGroupName group := by
    rw [mem_normalizeGroupName_iff]
    exact h
  have hfind := rfind_append_of_some (rfind_cons_of_not_mem hnot) (stationName.dropWhile isSpace)
  have hne : stationName.dropWhile isSpace ++ 64 :: normalizeGroupName group ≠ [] := by simp
  unfold parseMvrXchangeServiceName
  rw [removeServiceSuffix_localServiceName, trimCopy_localInstance]
  simp only [if_neg hne, hfind, Nat.add_zero, List.take_left']
  rw [← List.drop_drop, List.drop_left, List.drop_succ_cons, List.drop_zero,
    normalizeGroupName_normalizeGroupName]

-- The parser splits at the last separator, so no group that it finds holds one.
theorem not_mem_group_parse (serviceName : List UInt8)
    : 64 ∉ (parseMvrXchangeServiceName serviceName).group := by
  unfold parseMvrXchangeServiceName
  dsimp only
  split
  next => simp
  next =>
    split
    next => exact not_mem_kDefaultGroupName
    next separator hfind =>
      rw [mem_normalizeGroupName_iff]
      exact not_mem_of_rfind hfind

theorem trimCopy_dropWhile_ne_nil_iff {stationName : List UInt8}
    : trimCopy (stationName.dropWhile isSpace) ≠ [] ↔ ∃ c ∈ stationName, isSpace c = false := by
  have hsame : trimCopy (stationName.dropWhile isSpace) = trimCopy stationName := by
    rw [trimCopy, trim, List.dropWhile_idempotent]
    rfl
  rw [hsame, ne_eq, trimCopy, trim_eq_nil_iff]
  simp

/-- The group comes back, and it alone matches, exactly when it holds no `@` and the name of the
station is not blank. -/
theorem serviceName_roundTrip_iff (stationName group : List UInt8)
    : ((parseMvrXchangeServiceName (localServiceName stationName group)).group
          = normalizeGroupName group
        ∧ ∀ wanted, mvrXchangeServiceMatchesGroup (localServiceName stationName group) wanted = true
            ↔ normalizeGroupName wanted = normalizeGroupName group)
      ↔ 64 ∉ group ∧ ∃ c ∈ stationName, isSpace c = false := by
  constructor
  . intro h
    have hnot : 64 ∉ group := by
      intro hmem
      apply not_mem_group_parse (localServiceName stationName group)
      rw [h.1, mem_normalizeGroupName_iff]
      exact hmem
    have hmatch := (h.2 group).mpr rfl
    rw [mvrXchangeServiceMatchesGroup, parse_localServiceName_of_not_mem hnot] at hmatch
    simp only [Bool.and_eq_true, decide_eq_true_eq] at hmatch
    exact ⟨hnot, trimCopy_dropWhile_ne_nil_iff.mp hmatch.1⟩
  . intro h
    have hvalid := trimCopy_dropWhile_ne_nil_iff.mpr h.2
    constructor
    . rw [parse_localServiceName_of_not_mem h.1]
    . intro wanted
      rw [mvrXchangeServiceMatchesGroup, parse_localServiceName_of_not_mem h.1]
      simp [hvalid, eq_comm]

/-- A station in the group `FOH@Stage` is taken for one in the group `Stage`. -/
theorem groupWithAt_lost
    : (parseMvrXchangeServiceName (localServiceName (ascii "Peraviz") (ascii "FOH@Stage"))).group
          ≠ normalizeGroupName (ascii "FOH@Stage")
        ∧ mvrXchangeServiceMatchesGroup (localServiceName (ascii "Peraviz") (ascii "FOH@Stage"))
            (ascii "FOH@Stage") = false
        ∧ mvrXchangeServiceMatchesGroup (localServiceName (ascii "Peraviz") (ascii "FOH@Stage"))
            (ascii "Stage") = true := by
  decide +kernel

end Peraviz.Mvrxchange
