import Mathlib.Algebra.Order.Ring.Rat
import Peraviz.Dmx.Binding.Types
import Peraviz.Gdtf.Xml
import Peraviz.Intervals.Basic

/-!
This module contains what the gobo and the gobo rotation functions have in common: the DMX range of
a function, the starts and ends that its ChannelSets declare, and the closing of each set in front
of the next one.
-/

namespace Peraviz.Dmx

open Intervals Peraviz.Gdtf

/-! ### Texts -/

/-- `std::string::find`. -/
def findText (text piece : String) : Option Nat :=
  text.toList.tails.findIdx? (fun rest => piece.toList.isPrefixOf rest)

def hasText (text piece : String) : Bool :=
  (findText text piece).isSome

/-- The number in front of a resolution and the number of bytes behind the `/`. -/
def splitResolution (value : List Char) : List Char × Nat :=
  let valuePart := value.takeWhile (fun c => c ≠ '/')
  match value.dropWhile (fun c => c ≠ '/') with
  | [] => (value, 1)
  | _ :: resolution =>
    match strtol (trimChars resolution) with
    | some parsed =>
      (trimChars valuePart, if 0 < parsed then (clamp parsed 1 4).toNat else 1)
    | none => (trimChars valuePart, 1)

/-- A DMX value at 8 bits, `-1` where there is none. -/
def parseDmxValue8bit (rawValue : Option String) : Int :=
  match rawValue with
  | none => -1
  | some raw =>
    let value := trimChars raw.toList
    if value = [] then -1
    else
      let split := splitResolution value
      match strtol split.1 with
      | none => -1
      | some parsed =>
        if parsed < 0 then -1
        else if split.2 ≤ 1 then clamp parsed 0 255
        else if split.2 = 2 then clamp parsed 0 65535 / 256
        else if split.2 = 3 then clamp parsed 0 16777215 / 65536
        else clamp parsed 0 4294967295 / 16777216

/-- An attribute under its first spelling, and under the other one where that gives no value. -/
def dmxAttribute (node : XMLElement) (name spelling : String) : Int :=
  let value := parseDmxValue8bit (node.attributeText name)
  if value < 0 then parseDmxValue8bit (node.attributeText spelling) else value

/-- `QueryFloatAttribute` under both spellings. The numbers of the library are read by `floatText`,
nothing is assumed of it. -/
def floatAttribute (floatText : String → Option ℚ) (node : XMLElement) (name spelling : String)
    : Option ℚ :=
  ((node.attributeText name).bind floatText).or ((node.attributeText spelling).bind floatText)

/-- Both physical values of an element. -/
def physicalRange (floatText : String → Option ℚ) (node : XMLElement) : Option (ℚ × ℚ) :=
  match floatAttribute floatText node "PhysicalFrom" "physicalfrom",
    floatAttribute floatText node "PhysicalTo" "physicalto" with
  | some physicalFrom, some physicalTo => some (physicalFrom, physicalTo)
  | _, _ => none

/-! ### Physical values -/

def isNamedStop (rangeName : String) : Bool :=
  hasText (lowerAscii rangeName) "no rotation" || hasText (lowerAscii rangeName) "stop"

/-- `-1` for a counterclockwise rotation, `1` for a clockwise one. -/
def directionSign (lowerName : String) : Int :=
  if ["ccw", "counterclockwise", "counter clockwise", "anticlockwise", "anti clockwise"].any
      (hasText lowerName) then -1
  else if ["cw", "clockwise"].any (hasText lowerName) then 1
  else 0

def inferRotationPhysicalFromName (rangeName : String) : Option (ℚ × ℚ) :=
  let lowerName := lowerAscii rangeName
  if lowerName = "" then none
  else if isNamedStop rangeName then some (0, 0)
  else if directionSign lowerName = 0 then none
  else
    let minSpeed : ℚ := 20 * directionSign lowerName
    let maxSpeed : ℚ := 540 * directionSign lowerName
    match findText lowerName "fast", findText lowerName "slow" with
    | some fastPos, some slowPos =>
      if fastPos < slowPos then some (maxSpeed, minSpeed) else some (minSpeed, maxSpeed)
    | some _, none => some (maxSpeed, maxSpeed)
    | none, some _ => some (minSpeed, minSpeed)
    | none, none => some (minSpeed, maxSpeed)

def isStopRange (physical : ℚ × ℚ) : Bool :=
  (-1 / 10000 < physical.1 && physical.1 < 1 / 10000) &&
    (-1 / 10000 < physical.2 && physical.2 < 1 / 10000)

/-! ### The range of a function -/

/-- A range inside of 0..255. -/
structure Window where
  dmxFrom : Int
  dmxTo : Int
  nonneg : 0 ≤ dmxFrom
  ordered : dmxFrom ≤ dmxTo
  bounded : dmxTo ≤ 255

/-- The clamped range of the arguments. -/
def windowOf (dmxFrom dmxTo : Int) : Window where
  dmxFrom := clamp dmxFrom 0 255
  dmxTo := clamp dmxTo (clamp dmxFrom 0 255) 255
  nonneg := le_clamp (by decide)
  ordered := le_clamp (clamp_le (by decide))
  bounded := clamp_le (clamp_le (by decide))

/-- A range that is inside of 0..255 stays as it is. -/
theorem windowOf_of_inside {dmxFrom dmxTo : Int} (h : 0 ≤ dmxFrom ∧ dmxFrom ≤ dmxTo ∧ dmxTo ≤ 255)
    : (windowOf dmxFrom dmxTo).dmxFrom = dmxFrom ∧ (windowOf dmxFrom dmxTo).dmxTo = dmxTo := by
  have hfrom : clamp dmxFrom 0 255 = dmxFrom := clamp_of_bounds (by omega)
  refine ⟨hfrom, ?_⟩
  change clamp dmxTo (clamp dmxFrom 0 255) 255 = dmxTo
  rw [hfrom]
  exact clamp_of_bounds (by omega)

/-- The part of the physical range of a function that belongs to a part of its DMX range. -/
def interpolatePhysical (window : Window) (functionPhysical : ℚ × ℚ) (dmxFrom dmxTo : Int)
    : ℚ × ℚ :=
  let fnRange : ℚ := window.dmxTo - window.dmxFrom
  if 0 < fnRange then
    let tFrom := clamp ((dmxFrom - window.dmxFrom) / fnRange) 0 1
    let tTo := clamp ((dmxTo - window.dmxFrom) / fnRange) 0 1
    (functionPhysical.1 + tFrom * (functionPhysical.2 - functionPhysical.1),
      functionPhysical.1 + tTo * (functionPhysical.2 - functionPhysical.1))
  else functionPhysical

/-- A value from the start of the function on is absolute, one below it is relative to it. -/
def resolveChannelSetDmx (window : Window) (rawValue : Int) : Int :=
  if window.dmxFrom ≤ rawValue ∧ rawValue ≤ 255 then
    clamp rawValue window.dmxFrom window.dmxTo
  else clamp (window.dmxFrom + max 0 rawValue) window.dmxFrom window.dmxTo

/-! ### ChannelSets -/

/-- A set with its DMX range. The start that it declares, which the source drops, is kept. -/
structure ChannelSetRow (α : Type) where
  dmxFrom : Int
  dmxTo : Int
  declaredFrom : Int
  set : α
  deriving DecidableEq

def channelSets (channelFunction : XMLElement) : List XMLElement :=
  collectDirectChildrenByName channelFunction "channelset"

/-- The start that a set declares, 0 where it declares none. -/
def declaredFrom (channelSet : XMLElement) : Int :=
  let rawDmxFrom := dmxAttribute channelSet "DMXFrom" "dmxfrom"
  if rawDmxFrom < 0 then 0 else rawDmxFrom

/-- The end that a set declares, `-1` where it declares none. -/
def declaredTo (channelSet : XMLElement) : Int :=
  dmxAttribute channelSet "DMXTo" "dmxto"

section

variable {α : Type} (window : Window)

def rowOf (channelSet : XMLElement) (set : α) : ChannelSetRow α where
  dmxFrom := resolveChannelSetDmx window (declaredFrom channelSet)
  dmxTo :=
    if declaredTo channelSet < 0 then -1 else resolveChannelSetDmx window (declaredTo channelSet)
  declaredFrom := declaredFrom channelSet
  set := set

/-- The end of a row in front of the row `next`. -/
def closedTo (row : ChannelSetRow α) (next : Option (ChannelSetRow α)) : Int :=
  if row.dmxTo < 0 then
    match next with
    | some next => max row.dmxFrom (next.dmxFrom - 1)
    | none => window.dmxTo
  else row.dmxTo

def closeRow (row : ChannelSetRow α) (next : Option (ChannelSetRow α)) : ChannelSetRow α :=
  let first := clamp row.dmxFrom window.dmxFrom window.dmxTo
  let last := clamp (closedTo window row next) window.dmxFrom window.dmxTo
  { row with
    dmxFrom := if last < first then last else first
    dmxTo := if last < first then first else last }

/-- The loop over the sorted rows. -/
def closeRows : List (ChannelSetRow α) → List (ChannelSetRow α)
  | [] => []
  | row :: rest => closeRow window row rest.head? :: closeRows rest

def sortRows (rows : List (ChannelSetRow α)) : List (ChannelSetRow α) :=
  rows.mergeSort (fun a b => a.dmxFrom ≤ b.dmxFrom)

end

end Peraviz.Dmx
