import Peraviz.Gdtf.Fixture
import Peraviz.Numerals.Basic

/-!
This module contains the identities of GDTF attribute names: the exact gobo names, the official
patterns with their indexes and the custom names. A name is official when a pattern spells it, and
the import fails on the names with a numeral that no `int` holds.
-/

namespace Peraviz.Gdtf

open CheckedInt Numerals Peraviz.Runtime

inductive StandardException where
  | outOfRange

/-- `std::stoi` on a text of digits. -/
def stoi (digits : List Char) : Except StandardException Int32 :=
  (narrow (decimal digits)).elim (.error .outOfRange) .ok

structure ParsedGoboSemantic where
  kind : GoboSemanticKind := .listed .none
  scope : GoboControlledScope := .listed .none
  wheelNumber : Int32 := 0
  normalizedName : String := ""
  recognized : Bool := false
  scalarEvaluable : Bool := false

structure GoboDefinition where
  kind : GoboSemanticName
  scope : GoboScopeName
  canonicalSuffix : String
  supported : Bool

def goboDefinitions : List (String × GoboDefinition) :=
  [("", ⟨.selection, .selection, "", true⟩),
   ("selectspin", ⟨.selectSpin, .selectionAndSelectedGobo, "SelectSpin", true⟩),
   ("selectshake", ⟨.selectShake, .selectionAndSelectedGobo, "SelectShake", true⟩),
   ("selecteffects", ⟨.selectEffects, .selectionAndSelectedGobo, "SelectEffects", false⟩),
   ("wheelindex", ⟨.wheelIndex, .completeWheel, "WheelIndex", true⟩),
   ("wheelspin", ⟨.wheelSpin, .completeWheel, "WheelSpin", true⟩),
   ("wheelshake", ⟨.wheelShake, .completeWheel, "WheelShake", true⟩),
   ("wheelrandom", ⟨.wheelRandom, .completeWheel, "WheelRandom", false⟩),
   ("wheelaudio", ⟨.wheelAudio, .completeWheel, "WheelAudio", false⟩),
   ("pos", ⟨.pos, .selectedGobo, "Pos", true⟩),
   ("posrotate", ⟨.posRotate, .selectedGobo, "PosRotate", true⟩),
   ("posshake", ⟨.posShake, .selectedGobo, "PosShake", true⟩)]

def lowerToken (text : List Char) : List Char :=
  (trimChars text).map Char.toLower

/-- A wheel number that is out of range is caught here. -/
def parseGoboSemantic (attributeName : String) : ParsedGoboSemantic :=
  let lower := lowerToken attributeName.toList
  if "gobo".toList.isPrefixOf lower = false then {}
  else
    let digits := (lower.drop 4).takeWhile Char.isDigit
    let suffix := String.ofList ((lower.drop 4).dropWhile Char.isDigit)
    if digits = [] then {}
    else
      match stoi digits with
      | .error _ => {}
      | .ok wheelNumber =>
        if wheelNumber ≤ 0 then {}
        else
          match goboDefinitions.lookup suffix with
          | none => {}
          | some definition =>
            { kind := .listed definition.kind
              scope := .listed definition.scope
              wheelNumber
              normalizedName := "Gobo" ++ toString wheelNumber ++ definition.canonicalSuffix
              recognized := true
              scalarEvaluable := definition.supported }

structure AttributePattern where
  family : String
  canonicalPattern : String
  wildcardCount : Nat
deriving DecidableEq

def officialAttributePatterns : List AttributePattern :=
  [⟨"Dimmer", "Dimmer", 0⟩, ⟨"Pan", "Pan", 0⟩, ⟨"Tilt", "Tilt", 0⟩, ⟨"Zoom", "Zoom", 0⟩,
   ⟨"Cyan", "Cyan", 0⟩, ⟨"Magenta", "Magenta", 0⟩, ⟨"Yellow", "Yellow", 0⟩,
   ⟨"Strobe", "Strobe", 0⟩, ⟨"Gobo", "Gobo(n)", 1⟩, ⟨"AnimationWheel", "AnimationWheel(n)", 1⟩,
   ⟨"Color", "Color(n)", 1⟩, ⟨"Prism", "Prism(n)", 1⟩, ⟨"Blade", "Blade(n)A", 1⟩,
   ⟨"Blade", "Blade(n)B", 1⟩, ⟨"VideoEffect", "VideoEffect(n)Parameter(n)", 2⟩]

/-- The number where the text begins with one, and what follows it. -/
def readNumber (text : List Char) : Except StandardException (Option (Int32 × List Char)) :=
  if text.takeWhile Char.isDigit = [] then .ok none
  else
    match stoi (text.takeWhile Char.isDigit) with
    | .error e => .error e
    | .ok value => .ok (some (value, text.dropWhile Char.isDigit))

/-- Goes on behind a number with what follows it, where there is one. -/
def withNumber (text : List Char)
    (next : Int32 → List Char → Except StandardException (Option (List Int32)))
    : Except StandardException (Option (List Int32)) :=
  match readNumber text with
  | .error e => .error e
  | .ok none => .ok none
  | .ok (some found) => next found.1 found.2

/-- What a pattern has behind its first number. -/
def matchSuffix (pattern : AttributePattern) (primary : Int32) (text : List Char)
    : Except StandardException (Option (List Int32)) :=
  if pattern.canonicalPattern = "Blade(n)A" then
    .ok (if text = ['A'] then some [primary] else none)
  else if pattern.canonicalPattern = "Blade(n)B" then
    .ok (if text = ['B'] then some [primary] else none)
  else if pattern.canonicalPattern = "VideoEffect(n)Parameter(n)" then
    if text.take 9 ≠ "Parameter".toList then .ok none
    else
      withNumber (text.drop 9) (fun secondary rest =>
        .ok (if rest = [] then some [primary, secondary] else none))
  else .ok (if text = [] then some [primary] else none)

def matchOfficialPattern (name : List Char) (pattern : AttributePattern)
    : Except StandardException (Option (List Int32)) :=
  if pattern.family.toList.isPrefixOf name = false then .ok none
  else
    let rest := name.drop pattern.family.toList.length
    if pattern.wildcardCount = 0 then .ok (if rest = [] then some [] else none)
    else withNumber rest (matchSuffix pattern)

def firstOfficialPattern (name : List Char)
    : List AttributePattern → Except StandardException (Option (AttributePattern × List Int32))
  | [] => .ok none
  | pattern :: patterns =>
    match matchOfficialPattern name pattern with
    | .error e => .error e
    | .ok (some indexes) => .ok (some (pattern, indexes))
    | .ok none => firstOfficialPattern name patterns

structure NormalizedAttribute extends AttributeIdentity where
  primaryIndex : Int32 := 0
  wildcardIndexes : List Int32 := []
  secondaryIndex : Int32 := 0
  knownOfficial : Bool := false
  custom : Bool := false
  goboScope : GoboControlledScope := .listed .none
  normalizedName : String := ""

def normalizeAttributeIdentity (id : Int32) (attributeName : String)
    : Except StandardException NormalizedAttribute :=
  let gobo := parseGoboSemantic attributeName
  if gobo.recognized then
    .ok
      { id, name := attributeName
        canonicalFamily := "Gobo"
        primaryIndex := gobo.wheelNumber
        wildcardIndexes := [gobo.wheelNumber]
        knownOfficial := true
        goboKind := gobo.kind
        goboScope := gobo.scope
        normalizedName := gobo.normalizedName }
  else
    match firstOfficialPattern attributeName.toList officialAttributePatterns with
    | .error e => .error e
    | .ok (some found) =>
      .ok
        { id, name := attributeName
          canonicalFamily := found.1.family
          wildcardIndexes := found.2
          primaryIndex := found.2.headD 0
          secondaryIndex := found.2.tail.headD 0
          knownOfficial := true }
    | .ok none => .ok { id, name := attributeName, canonicalFamily := attributeName, custom := true }

end Peraviz.Gdtf
