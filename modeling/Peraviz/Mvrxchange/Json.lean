import Peraviz.Pattern.Basic
import Peraviz.Splitting.Basic

/-!
This module contains the byte strings of the MVR-xchange code, with the character classes of the C
locale and the trimming of blanks, and the JSON texts of its messages: the writer, which escapes
quotes and backslashes, the reader of one field, which searches for it with a regular expression,
and the canonical form of a UUID, which is its own canonical form.
-/

namespace Peraviz.Mvrxchange

/-- The bytes of an ASCII literal. -/
def ascii (literal : String) : List UInt8 :=
  literal.toList.map (fun c => UInt8.ofNat c.toNat)

def isSpace (c : UInt8) : Bool :=
  c == 32 || (9 ≤ c && c ≤ 13)

def isDigit (c : UInt8) : Bool :=
  48 ≤ c && c ≤ 57

def isHexDigit (c : UInt8) : Bool :=
  isDigit c || (65 ≤ c && c ≤ 70) || (97 ≤ c && c ≤ 102)

def toLower (c : UInt8) : UInt8 :=
  if 65 ≤ c && c ≤ 90 then c + 32 else c

/-- What holds of all 256 bytes. -/
theorem forall_byte {P : UInt8 → Prop} (h : ∀ n < 256, P (UInt8.ofNat n)) (c : UInt8) : P c := by
  have hc := h c.toNat c.toNat_lt
  rw [UInt8.ofNat_toNat] at hc
  exact hc

/-- Whether `std::string::find` finds a text. -/
def containsText (wanted : List UInt8) : List UInt8 → Bool
  | [] => wanted.isEmpty
  | c :: rest => wanted.isPrefixOf (c :: rest) || containsText wanted rest

def trimCopy (value : List UInt8) : List UInt8 :=
  Trimming.trim isSpace value

end Peraviz.Mvrxchange

namespace Peraviz.Mvrxchange

open Pattern

def jsonEscape (value : List UInt8) : List UInt8 :=
  value.flatMap (fun c => if c = 92 ∨ c = 34 then [92, c] else [c])

def buildJoinMessage (stationName stationUuid : List UInt8) : List UInt8 :=
  ascii "\x7b\"Type\":\"MVR_JOIN\",\"Provider\":\"Peraviz\",\"verMajor\":1,\"verMinor\":6,\"StationUUID\":\""
    ++ jsonEscape stationUuid ++ ascii "\",\"StationName\":\"" ++ jsonEscape stationName
    ++ ascii "\",\"Commits\":[]\x7d"

def buildJoinRetMessage (stationName stationUuid : List UInt8) (ok : Bool) (message : List UInt8)
    : List UInt8 :=
  ascii "\x7b\"Type\":\"MVR_JOIN_RET\",\"OK\":" ++ (if ok then ascii "true" else ascii "false")
    ++ ascii ",\"Message\":\"" ++ jsonEscape message
    ++ ascii "\",\"Provider\":\"Peraviz\",\"verMajor\":1,\"verMinor\":6,\"StationUUID\":\""
    ++ jsonEscape stationUuid ++ ascii "\",\"StationName\":\"" ++ jsonEscape stationName
    ++ ascii "\",\"Commits\":[]\x7d"

/-! ### Reading a field -/

/-- The class `["']`. -/
def isQuote (c : UInt8) : Bool :=
  c == 34 || c == 39

def isNotQuote (c : UInt8) : Bool :=
  !isQuote c

/-- How `std::regex::icase` compares two characters. -/
def sameIgnoringCase (a b : UInt8) : Bool :=
  toLower a == toLower b

/-- `\s*:\s*` and then `value`. -/
def colonPattern (value : Pattern UInt8) : Pattern UInt8 :=
  seq (many isSpace) (seq (one (· == 58)) (seq (many isSpace) value))

/-- `["']name["']\s*:\s*` and then `value`, for a name of plain characters. -/
def fieldPattern (name : List UInt8) (value : Pattern UInt8) : Pattern UInt8 :=
  seq (one isQuote) (word sameIgnoringCase (seq (one isQuote) (colonPattern value)) name)

/-- `["']([^"']*)["']` -/
def stringValue : Pattern UInt8 :=
  seq (one isQuote) (seq (group (many isNotQuote)) (one isQuote))

/-- `([0-9]+)` -/
def numberValue : Pattern UInt8 :=
  group (seq (one isDigit) (many isDigit))

def jsonStringValue (text : List UInt8) : List (List UInt8) → List UInt8
  | [] => []
  | name :: names =>
    match (fieldPattern name stringValue).search text with
    | some found => found.getD []
    | none =>
      match (fieldPattern name numberValue).search text with
      | some found => found.getD []
      | none => jsonStringValue text names

/-! ### UUIDs -/

/-- The hexadecimal digits of a UUID text in lower case, `none` at a character of another kind. -/
def uuidDigits : List UInt8 → Option (List UInt8)
  | [] => some []
  | c :: rest =>
    if c = 123 ∨ c = 125 ∨ c = 45 then uuidDigits rest
    else if isHexDigit c then (uuidDigits rest).map (toLower c :: ·)
    else none

def groupUuid (hex : List UInt8) : List UInt8 :=
  hex.take 8 ++ ascii "-" ++ (hex.drop 8).take 4 ++ ascii "-" ++ (hex.drop 12).take 4 ++ ascii "-"
    ++ (hex.drop 16).take 4 ++ ascii "-" ++ (hex.drop 20).take 12

def canonicalizeUuid (value : List UInt8) : List UInt8 :=
  match uuidDigits value with
  | none => []
  | some hex => if hex.length ≠ 32 then [] else groupUuid hex

def isValidUuid (value : List UInt8) : Bool :=
  canonicalizeUuid value ≠ []

end Peraviz.Mvrxchange

/-! ### Canonical texts of UUIDs -/

namespace Peraviz.Mvrxchange

/-- A UUID as `canonicalize_uuid` writes it. -/
structure IsCanonicalUuid (value : List UInt8) : Prop where
  valid : value ≠ []
  canonical : canonicalizeUuid value = value

def isLowerHex (c : UInt8) : Bool :=
  isHexDigit c && toLower c == c && c ≠ 123 && c ≠ 125 && c ≠ 45

theorem isLowerHex_toLower {c : UInt8} (h : isHexDigit c = true) : isLowerHex (toLower c) = true := by
  have hall : ∀ n < 256, isHexDigit (UInt8.ofNat n) = true →
      isLowerHex (toLower (UInt8.ofNat n)) = true := by
    decide +kernel
  exact forall_byte (P := fun c => isHexDigit c = true → isLowerHex (toLower c) = true) hall c h

theorem isLowerHex_of_uuidDigits {value hex : List UInt8} (h : uuidDigits value = some hex)
    : ∀ c ∈ hex, isLowerHex c = true := by
  induction value generalizing hex with
  | nil =>
    cases h
    intro c hc
    contradiction
  | cons c rest ih =>
    rw [uuidDigits] at h
    split at h
    next => exact ih h
    next =>
      split at h
      next hdigit =>
        obtain ⟨digits, hdigits, h⟩ := Option.map_eq_some_iff.mp h
        rw [← h, List.forall_mem_cons]
        exact ⟨isLowerHex_toLower hdigit, ih hdigits⟩
      next => contradiction

theorem uuidDigits_append_hex {hex : List UInt8} (h : ∀ c ∈ hex, isLowerHex c = true)
    (rest : List UInt8)
    : uuidDigits (hex ++ rest) = (uuidDigits rest).map (hex ++ ·) := by
  induction hex with
  | nil => simp
  | cons c hex ih =>
    rw [List.forall_mem_cons] at h
    have hc := h.1
    simp only [isLowerHex, Bool.and_eq_true, beq_iff_eq, decide_eq_true_eq] at hc
    rw [List.cons_append, uuidDigits, if_neg (by simp [hc.1.1.2, hc.1.2, hc.2]),
      if_pos hc.1.1.1.1, hc.1.1.1.2, ih h.2, Option.map_map]
    rfl

theorem uuidDigits_append_dash (rest : List UInt8)
    : uuidDigits (ascii "-" ++ rest) = uuidDigits rest := by
  have hdash : ascii "-" = [45] := by decide
  rw [hdash, List.singleton_append, uuidDigits, if_pos (by decide)]

theorem append_groups {hex : List UInt8} (hlength : hex.length = 32)
    : hex.take 8 ++ ((hex.drop 8).take 4 ++ ((hex.drop 12).take 4 ++ ((hex.drop 16).take 4
      ++ (hex.drop 20).take 12))) = hex := by
  have hgroup : ∀ start width, (hex.drop start).take width ++ hex.drop (start + width)
      = hex.drop start := by
    intro start width
    rw [← List.drop_drop, List.take_append_drop]
  have hlast : (hex.drop 20).take 12 = hex.drop 20 := by
    apply List.take_of_length_le
    rw [List.length_drop]
    omega
  rw [hlast, hgroup 16 4, hgroup 12 4, hgroup 8 4, List.take_append_drop]

theorem uuidDigits_groupUuid {hex : List UInt8} (h : ∀ c ∈ hex, isLowerHex c = true)
    (hlength : hex.length = 32) : uuidDigits (groupUuid hex) = some hex := by
  have hpart : ∀ start width, ∀ c ∈ (hex.drop start).take width, isLowerHex c = true := by
    intro start width c hc
    exact h c (List.mem_of_mem_drop (List.mem_of_mem_take hc))
  have hlast : uuidDigits ((hex.drop 20).take 12) = some ((hex.drop 20).take 12) := by
    have hempty := uuidDigits_append_hex (hpart 20 12) []
    rw [List.append_nil] at hempty
    rw [hempty]
    simp [uuidDigits]
  have hfirst := hpart 0 8
  rw [List.drop_zero] at hfirst
  unfold groupUuid
  simp only [List.append_assoc]
  rw [uuidDigits_append_hex hfirst, uuidDigits_append_dash, uuidDigits_append_hex (hpart 8 4),
    uuidDigits_append_dash, uuidDigits_append_hex (hpart 12 4), uuidDigits_append_dash,
    uuidDigits_append_hex (hpart 16 4), uuidDigits_append_dash, hlast]
  simp only [Option.map_some, Option.some.injEq]
  exact append_groups hlength

theorem isCanonicalUuid_canonicalize {value : List UInt8} (h : canonicalizeUuid value ≠ [])
    : IsCanonicalUuid (canonicalizeUuid value) := by
  refine ⟨h, ?_⟩
  unfold canonicalizeUuid at h
  cases hdigits : uuidDigits value with
  | none =>
    rw [hdigits] at h
    contradiction
  | some hex =>
    rw [hdigits] at h
    have hlength : hex.length = 32 := by
      by_contra hne
      exact h (if_pos hne)
    have hvalue : canonicalizeUuid value = groupUuid hex := by
      unfold canonicalizeUuid
      rw [hdigits]
      exact if_neg (not_not.mpr hlength)
    rw [hvalue]
    unfold canonicalizeUuid
    rw [uuidDigits_groupUuid (isLowerHex_of_uuidDigits hdigits) hlength]
    exact if_neg (not_not.mpr hlength)

theorem canonicalizeUuid_canonicalize (value : List UInt8)
    : canonicalizeUuid (canonicalizeUuid value) = canonicalizeUuid value := by
  by_cases h : canonicalizeUuid value = []
  . rw [h]
    rfl
  . exact (isCanonicalUuid_canonicalize h).canonical

end Peraviz.Mvrxchange
