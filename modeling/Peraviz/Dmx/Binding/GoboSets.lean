import Peraviz.Dmx.Binding.ChannelSets

/-!
This module contains how the ChannelSets of a gobo function and of a gobo rotation function are
consumed: the slot and the behavior of each set, its physical values, and the ranges that are
appended to the wheel.
-/

namespace Peraviz.Dmx

open Peraviz.Gdtf

structure GoboWheelDefinition where
  declaredSlotOrder : List Int32 := []
  declaredSlots : List Int32 := []
  slotImages : List (Int32 × String) := []
  deriving DecidableEq

structure GoboWheelCatalog where
  wheels : String → Option GoboWheelDefinition

/-! ### Slots and behaviors -/

def parseGoboRangeBehavior (channelSetName : String) : FixtureGoboRangeBehavior :=
  let lowerName := lowerAscii channelSetName
  if hasText lowerName "shake" then .shake
  else if ["posrotate", "wheelspin", "spin", "rotation", "rotate"].any (hasText lowerName) then
    .rotation
  else if ["index", "pos"].any (hasText lowerName) then .index
  else .fixed

def isSelectShakeFunction (functionName functionAttribute : String) : Bool :=
  hasText (lowerAscii functionName) "selectshake" ||
    hasText (lowerAscii functionAttribute) "selectshake"

def parsePositiveInt (raw : Option String) : Int32 :=
  match raw with
  | none => -1
  | some raw =>
    match strtol ((trimChars raw.toList).takeWhile Char.isDigit) with
    | none => -1
    | some parsed => if parsed ≤ 0 then -1 else Int32.ofInt parsed

def normalizeGoboSlotIndex (slotIndex : Int32) (knownSlots knownSlotOrder : List Int32) : Int32 :=
  if slotIndex ≤ 0 then -1
  else if knownSlots.contains slotIndex then slotIndex
  else
    match knownSlotOrder[(slotIndex.toInt - 1).toNat % knownSlotOrder.length]? with
    | none => -1
    | some wrappedSlot => if knownSlots.contains wrappedSlot then wrappedSlot else -1

structure GoboSet where
  slotIndex : Int32
  behavior : FixtureGoboRangeBehavior
  name : String
  physical : Option (ℚ × ℚ)
  deriving DecidableEq

section

variable (floatText : String → Option ℚ)

/-- The amplitude of the first sub physical unit that has one. -/
def parseAmplitudeFromAttributeDefinition (attributeDefinition : XMLElement) : Option (ℚ × ℚ) :=
  attributeDefinition.children.findSome? (fun child =>
    if lowerAscii child.name ≠ "subphysicalunit" then none
    else if lowerAscii (readAttr child "Type" "type") ≠ "amplitude" then none
    else
      (physicalRange floatText child).map (fun raw =>
        if lowerAscii (readAttr child "PhysicalUnit" "physicalunit") = "percent" then
          (max 0 raw.1 * (1 / 100) * 360, max 0 raw.2 * (1 / 100) * 360)
        else (max 0 raw.1, max 0 raw.2)))

/-- The amplitude that the definition of the attribute of a function gives, `root` is the root
element of the document. -/
def resolveShakeAttributeAmplitudeDegrees (root channelFunction : XMLElement)
    : Option (ℚ × ℚ) :=
  let attributeName := readAttr channelFunction "Attribute" "attribute"
  if attributeName = "" then none
  else
    ((collectElementsByName "attribute" root).find? (fun attributeDefinition =>
      readAttr attributeDefinition "Name" "name" = attributeName)).bind
        (parseAmplitudeFromAttributeDefinition floatText)

def goboSetSlot (definition : GoboWheelDefinition) (lastSlotIndex : Int32)
    (channelSet : XMLElement) : Int32 :=
  let slotIndex := parsePositiveInt (channelSet.attributeText "WheelSlotIndex")
  let slotIndex :=
    if slotIndex ≤ 0 then parsePositiveInt (channelSet.attributeText "wheelslotindex")
    else slotIndex
  normalizeGoboSlotIndex (if slotIndex ≤ 0 then lastSlotIndex else slotIndex)
    definition.declaredSlots definition.declaredSlotOrder

def goboSetBehavior (channelFunction : XMLElement) (channelSetName : String)
    : FixtureGoboRangeBehavior :=
  let functionName := readAttr channelFunction "Name" "name"
  let behavior := parseGoboRangeBehavior channelSetName
  if isSelectShakeFunction functionName (readAttr channelFunction "Attribute" "attribute") then
    .shake
  else if behavior = .fixed then parseGoboRangeBehavior functionName
  else behavior

/-- The loop over the ChannelSets. One without a slot takes the last one, and is left out where
that is none. -/
def gatherGoboSets (window : Window) (channelFunction : XMLElement)
    (definition : GoboWheelDefinition) (lastSlotIndex : Int32)
    : List XMLElement → List (ChannelSetRow GoboSet)
  | [] => []
  | channelSet :: rest =>
    let slotIndex := goboSetSlot definition lastSlotIndex channelSet
    if slotIndex ≤ 0 then gatherGoboSets window channelFunction definition lastSlotIndex rest
    else
      let name := readAttr channelSet "Name" "name"
      rowOf window channelSet {
        slotIndex, behavior := goboSetBehavior channelFunction name, name
        physical := physicalRange floatText channelSet }
      :: gatherGoboSets window channelFunction definition slotIndex rest

/-- The physical values of a set that rotates or shakes. -/
def goboRowPhysical (window : Window) (functionPhysical : Option (ℚ × ℚ))
    (row : ChannelSetRow GoboSet) : Option (ℚ × ℚ) :=
  match row.set.physical with
  | some physical => some physical
  | none =>
    if isNamedStop row.set.name then some (0, 0)
    else
      match functionPhysical with
      | some physical => some (interpolatePhysical window physical row.dmxFrom row.dmxTo)
      | none => inferRotationPhysicalFromName row.set.name

def goboRangeOf (mode : Window) (row : ChannelSetRow GoboSet) : FixtureGoboRange where
  dmxFrom := row.dmxFrom
  dmxTo := row.dmxTo
  modeFrom8bit := mode.dmxFrom
  modeTo8bit := mode.dmxTo
  slotIndex := row.set.slotIndex
  behavior := row.set.behavior

def goboShakeRangeOf (mode : Window) (amplitude : Option (ℚ × ℚ)) (row : ChannelSetRow GoboSet)
    (physical : ℚ × ℚ) : FixtureGoboShakeRange where
  dmxFrom := row.dmxFrom
  dmxTo := row.dmxTo
  modeFrom8bit := mode.dmxFrom
  modeTo8bit := mode.dmxTo
  physicalFrom := physical.1
  physicalTo := physical.2
  hasExplicitAmplitude := amplitude.isSome
  amplitudeFromDegrees := (amplitude.getD (0, 0)).1
  amplitudeToDegrees := (amplitude.getD (0, 0)).2
  slotIndex := row.set.slotIndex
  controlType := .sameChannelSelect

def rotationRangeOf {α : Type} (mode : Window) (isRotationChannelRange : Bool)
    (row : ChannelSetRow α) (physical : ℚ × ℚ) : FixtureGoboRotationRange where
  dmxFrom := row.dmxFrom
  dmxTo := row.dmxTo
  modeFrom8bit := mode.dmxFrom
  modeTo8bit := mode.dmxTo
  physicalFrom := physical.1
  physicalTo := physical.2
  isStopRange := isStopRange physical
  isRotationChannelRange := isRotationChannelRange

/-- What a closed row adds to the wheel. -/
def pushGoboRow (window mode : Window) (functionPhysical amplitude : Option (ℚ × ℚ))
    (wheel : FixtureGoboWheelOffset) (row : ChannelSetRow GoboSet) : FixtureGoboWheelOffset :=
  let ranged := { wheel with ranges := wheel.ranges ++ [goboRangeOf mode row] }
  match row.set.behavior, goboRowPhysical window functionPhysical row with
  | .index, _ => { ranged with supportsIndex := true }
  | .shake, some physical =>
    { ranged with
      supportsShake := true
      shakeRanges := ranged.shakeRanges ++ [goboShakeRangeOf mode amplitude row physical] }
  | .rotation, some physical =>
    { ranged with
      supportsRotation := true
      supportsSpinRotation := true
      rotationRanges := ranged.rotationRanges ++ [rotationRangeOf mode false row physical] }
  | _, _ => ranged

def lastSlotOf (wheel : FixtureGoboWheelOffset) : Int32 :=
  match wheel.ranges.getLast? with
  | some range => range.slotIndex
  | none => -1

def goboRows (window : Window) (channelFunction : XMLElement) (definition : GoboWheelDefinition)
    (wheel : FixtureGoboWheelOffset) : List (ChannelSetRow GoboSet) :=
  closeRows window (sortRows (gatherGoboSets floatText window channelFunction definition
    (lastSlotOf wheel) (channelSets channelFunction)))

def linkedWheel (channelFunction : XMLElement) (wheelCatalog : GoboWheelCatalog)
    : Option GoboWheelDefinition :=
  let wheelName := lowerAscii (readAttr channelFunction "Wheel" "wheel")
  if wheelName = "" then none else wheelCatalog.wheels wheelName

def knownImages (definition : GoboWheelDefinition) : List FixtureGoboSlot :=
  (definition.slotImages.filter (fun image => 0 < image.1 && image.2 ≠ "")).map
    (fun image => ⟨image.1, image.2⟩)

def consumeGoboChannelSets (root channelFunction : XMLElement) (wheelCatalog : GoboWheelCatalog)
    (outWheel : FixtureGoboWheelOffset)
    (functionDmxFrom functionDmxTo modeWindowFrom modeWindowTo : Int) : FixtureGoboWheelOffset :=
  match linkedWheel channelFunction wheelCatalog with
  | none => outWheel
  | some definition =>
    let window := windowOf functionDmxFrom functionDmxTo
    let named := {
      outWheel with
      wheelName := lowerAscii (readAttr channelFunction "Wheel" "wheel")
      slots := outWheel.slots ++ knownImages definition }
    (goboRows floatText window channelFunction definition outWheel).foldl
      (pushGoboRow window (windowOf modeWindowFrom modeWindowTo)
        (physicalRange floatText channelFunction)
        (resolveShakeAttributeAmplitudeDegrees floatText root channelFunction)) named

/-! ### Rotation functions -/

structure RotationSet where
  physical : Option (ℚ × ℚ)
  name : String
  deriving DecidableEq

def rotationSetOf (channelSet : XMLElement) : RotationSet where
  physical := physicalRange floatText channelSet
  name := (patchAttribute channelSet "Name" "name").getD ""

def gatherRotationSets (window : Window) (channelFunction : XMLElement)
    : List (ChannelSetRow RotationSet) :=
  (channelSets channelFunction).map (fun channelSet =>
    rowOf window channelSet (rotationSetOf floatText channelSet))

/-- The physical values of a set of a rotation channel. -/
def rotationRowPhysical (window : Window) (functionPhysical : Option (ℚ × ℚ))
    (row : ChannelSetRow RotationSet) : Option (ℚ × ℚ) :=
  match row.set.physical with
  | some physical => some physical
  | none =>
    match functionPhysical with
    | some physical =>
      if isNamedStop row.set.name then some (0, 0)
      else some (interpolatePhysical window physical row.dmxFrom row.dmxTo)
    | none => inferRotationPhysicalFromName row.set.name

/-- The row of a rotation function without sets, if it has physical values. -/
def wholeRow (window : Window) (functionPhysical : Option (ℚ × ℚ))
    : List (ChannelSetRow RotationSet) :=
  match functionPhysical with
  | none => []
  | some physical =>
    [{ dmxFrom := window.dmxFrom, dmxTo := window.dmxTo, declaredFrom := window.dmxFrom
       set := { physical := some physical, name := "" } }]

/-- The rows from which ranges are made: those with physical values. -/
def rotationRows (window : Window) (channelFunction : XMLElement)
    : List (ChannelSetRow RotationSet) :=
  let functionPhysical := physicalRange floatText channelFunction
  let parsedRanges := gatherRotationSets floatText window channelFunction
  if parsedRanges.isEmpty then wholeRow window functionPhysical
  else
    (closeRows window (sortRows parsedRanges)).filter (fun row =>
      (rotationRowPhysical window functionPhysical row).isSome)

def consumeGoboRotationChannelSets (channelFunction : XMLElement)
    (outRanges : List FixtureGoboRotationRange)
    (functionDmxFrom functionDmxTo modeWindowFrom modeWindowTo : Int)
    : List FixtureGoboRotationRange :=
  let window := windowOf functionDmxFrom functionDmxTo
  outRanges ++ (rotationRows floatText window channelFunction).filterMap (fun row =>
    (rotationRowPhysical window (physicalRange floatText channelFunction) row).map
      (rotationRangeOf (windowOf modeWindowFrom modeWindowTo) true row))

end

end Peraviz.Dmx
