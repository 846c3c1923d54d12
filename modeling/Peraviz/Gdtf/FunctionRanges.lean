import Peraviz.Gdtf.FixtureType
import Peraviz.Gdtf.Offsets
import Peraviz.Gdtf.WheelSets

/-!
This module contains the loop over the ChannelFunctions of a LogicalChannel: they are sorted by
their starts, each takes its end from its neighbour, and the end of the function in front decides
which of them are compiled.
-/

namespace Peraviz.Gdtf

open CheckedInt Intervals Peraviz.Runtime

mutual

/-- The ChannelFunctions below an element, without those inside of another one. -/
def collectLogicalChannelFunctions : XMLElement → List XMLElement
  | .node handle name attributes children =>
    if lowerAscii name = "channelfunction" then [.node handle name attributes children]
    else functionsOfChildren children

def functionsOfChildren : List XMLElement → List XMLElement
  | [] => []
  | child :: children => collectLogicalChannelFunctions child ++ functionsOfChildren children

end

/-- What `shutter_attribute` recognizes. -/
def isShutterAttribute (name : String) : Bool :=
  if "Shutter".toList.isPrefixOf name.toList then
    match fromChars ((name.toList.drop 7).takeWhile Char.isDigit) with
    | some index => 1 ≤ index
    | none => false
  else "Strobe".toList.isPrefixOf name.toList

def maxForSourceCount (sourceCount : Nat) : UInt32 :=
  (List.range (min sourceCount 4)).foldl (fun maxValue _ => (maxValue <<< 8) ||| 0xff) 0

/-- `resolve_wheel_link` as it is stored, an unknown wheel is no wheel. -/
def resolveWheelLink (wheels : List ParsedWheel) (wheelName : String) : Option ParsedWheel :=
  if wheelName = "" then none else wheels.find? (fun wheel => wheel.name = wheelName)

/-- A LogicalChannel of a DMXChannel whose byte declarations were validated. The numbers of
`read_float_attr` and `std::from_chars` are parameters. -/
structure LogicalChannel where
  node : XMLElement
  nodeName : String
  sourceCount : Nat
  hasBytes : 1 ≤ sourceCount
  fitsRuntime : sourceCount ≤ 4
  wheels : List ParsedWheel
  floatAttribute : XMLElement → String → String → Option ℚ
  doubleText : List Char → Option ℚ

structure FunctionLoop where
  previousTo : Option UInt32 := none
  functionNodeNames : List String := []
  compiled : List FunctionRecord := []
  diagnostics : List RuntimeDiagnostic := []

def modeMasterLink (fn : XMLElement) : String := readAttr fn "ModeMaster" "modemaster"

/-- What the loop reports of a function. -/
def functionWarning (code message attributeName : String) : RuntimeDiagnostic where
  code := code
  severity := "warning"
  message := message
  subject := attributeName

namespace LogicalChannel

variable (channel : LogicalChannel)

def logicalAttribute : String := readAttr channel.node "Attribute" "attribute"

def functions : List XMLElement := collectLogicalChannelFunctions channel.node

def declaredNumber (fn : XMLElement) : Nat :=
  channel.functions.findIdx (fun other => other.handle = fn.handle) + 1

def attributeNameOf (fn : XMLElement) : String :=
  let attributeName := readAttr fn "Attribute" "attribute"
  if attributeName = "" then channel.logicalAttribute else attributeName

def shutterFunctions : Bool :=
  channel.functions.any (fun fn => isShutterAttribute (channel.attributeNameOf fn))

def startOf (fn : XMLElement) : UInt32 :=
  (parseDmxValue (readAttr fn "DMXFrom" "dmxfrom") channel.sourceCount).getD 0

def sortsBefore (lhs rhs : XMLElement) : Bool :=
  channel.startOf lhs < channel.startOf rhs
    || (channel.shutterFunctions && channel.startOf lhs = channel.startOf rhs
      && channel.declaredNumber lhs < channel.declaredNumber rhs)

/-- The functions as `std::sort` may leave them: it says nothing of the order of equal ones. -/
structure Sorted where
  functions : List XMLElement
  perm : functions.Perm channel.functions
  ordered : functions.Pairwise (fun a b => channel.sortsBefore b a = false)

def endOf (fn : XMLElement) (next : Option XMLElement) : UInt32 :=
  let start (fn : XMLElement) :=
    parseDmxValue (readAttr fn "DMXFrom" "dmxfrom") channel.sourceCount
  match parseDmxValue (readAttr fn "DMXTo" "dmxto") channel.sourceCount with
  | some dmxTo => dmxTo
  | none =>
    match next.bind start with
    | some nextFrom => if 0 < nextFrom then nextFrom - 1 else maxForSourceCount channel.sourceCount
    | none => maxForSourceCount channel.sourceCount

def functionNameOf (fn : XMLElement) : String :=
  let name := readAttr fn "Name" "name"
  if name = "" then channel.attributeNameOf fn ++ " " ++ toString (channel.declaredNumber fn)
  else name

/-- The physical range with what is reported of it. -/
def physicalOf (fn : XMLElement) : ℚ × ℚ × List RuntimeDiagnostic :=
  let attributeName := channel.attributeNameOf fn
  if isShutterAttribute attributeName then
    let physicalFrom := shutterPhysical channel.doubleText fn "PhysicalFrom" 0
    let physicalTo := shutterPhysical channel.doubleText fn "PhysicalTo" 1
    (physicalFrom.1, physicalTo.1,
      if physicalFrom.2 && physicalTo.2 then [] else
        [functionWarning "PVZ-SHUTTER-PHYSICAL-INVALID"
          ("Supplied shutter physical value is malformed or nonfinite; "
            ++ "standard defaults apply only to omitted fields.") attributeName])
  else
    let missing := functionWarning "PVZ-GDTF-PHYSICAL-MISSING"
      "ChannelFunction is missing PhysicalFrom/PhysicalTo." attributeName
    match channel.floatAttribute fn "PhysicalFrom" "physicalfrom" with
    | none => (0, 1, [missing])
    | some physicalFrom =>
      match channel.floatAttribute fn "PhysicalTo" "physicalto" with
      | none => (physicalFrom, 1, [missing])
      | some physicalTo => (physicalFrom, physicalTo, [])

/-- The record of a function, with what its wheel reports. -/
def recordOf (fn : XMLElement) (range : UInt32 × UInt32)
    : FunctionRecord × List RuntimeDiagnostic :=
  let attributeName := channel.attributeNameOf fn
  let physical := channel.physicalOf fn
  let wheelLink := readAttr fn "Wheel" "wheel"
  let wheel := resolveWheelLink channel.wheels wheelLink
  let wheelId := match wheel with | some wheel => if 0 < wheel.id then wheel.id else 0 | none => 0
  let sets := if wheelId = 0 then ([], []) else
    WheelFunction.parseWheelChannelSets {
      sourceCount := channel.sourceCount, dmxFrom := range.1, dmxTo := range.2
      physicalFrom := physical.1, physicalTo := physical.2.1, wheel
      floatAttribute := channel.floatAttribute } fn
  let conditional := modeMasterLink fn ≠ ""
  let unknown := if wheelLink ≠ "" ∧ wheel.isNone then
    [functionWarning "PVZ-GDTF-WHEEL-LINK-MISSING" "ChannelFunction references an unknown Wheel."
      (attributeName ++ " wheel=" ++ wheelLink)] else []
  ({ attributeName, functionName := channel.functionNameOf fn
     logicalAttribute := channel.logicalAttribute, dmxFrom := range.1, dmxTo := range.2
     physicalFrom := physical.1, physicalTo := physical.2.1, wheelId
     modeMasterLink := modeMasterLink fn
     modeFromSource := if conditional then readAttr fn "ModeFrom" "modefrom" else ""
     modeToSource := if conditional then readAttr fn "ModeTo" "modeto" else ""
     wheelChannelSets := sets.1 }, unknown ++ sets.2)

/-- The checks in front of `previous_to = dmx_to`: the range, or what is reported. -/
def admitted (functions : List XMLElement) (x : FunctionLoop) (fn : XMLElement)
    (next : Option XMLElement) : Except (List RuntimeDiagnostic) (UInt32 × UInt32) :=
  let attributeName := channel.attributeNameOf fn
  if attributeName = "" then .error []
  else
    let range :=
      if isShutterAttribute attributeName then
        shutterFunctionRange fn functions channel.sourceCount
      else some (channel.startOf fn, channel.endOf fn next)
    match range with
    | none => .error [functionWarning "PVZ-SHUTTER-RANGE-INVALID"
        "Invalid supplied shutter range; no default-range binding is inferred." attributeName]
    | some range =>
      if range.2 < range.1 then
        .error [functionWarning "PVZ-GDTF-DMX-RANGE-INVALID"
          "ChannelFunction DMXTo is smaller than DMXFrom." attributeName]
      else if x.previousTo.any (fun previousTo => range.1 ≤ previousTo) ∧ modeMasterLink fn = "" then
        .error [functionWarning "PVZ-GDTF-DMX-RANGE-OVERLAP"
          "Overlapping ChannelFunction ranges are not compiled for the verified DPT runtime slice."
          attributeName]
      else .ok range

def duplicateFunction (fn : XMLElement) : RuntimeDiagnostic where
  code := "PVZ-GDTF-CHANNELFUNCTION-NODE-DUPLICATE"
  severity := "error"
  message := "ChannelFunction node name is not unique inside its LogicalChannel."
  subject := channel.nodeName ++ "." ++ channel.logicalAttribute ++ "."
    ++ channel.functionNameOf fn

/-- The rest of a round for a function that was let in. -/
def enter (x : FunctionLoop) (fn : XMLElement) (range : UInt32 × UInt32) : FunctionLoop :=
  let functionName := channel.functionNameOf fn
  let reported := x.diagnostics ++ (channel.physicalOf fn).2.2
  if functionName ∈ x.functionNodeNames then
    { x with
      previousTo := some range.2
      diagnostics := reported ++ [channel.duplicateFunction fn] }
  else
    let record := channel.recordOf fn range
    { previousTo := some range.2
      functionNodeNames := functionName :: x.functionNodeNames
      compiled := x.compiled ++ [record.1]
      diagnostics := reported ++ record.2 }

def compileFunction (functions : List XMLElement) (x : FunctionLoop)
    (entry : XMLElement × Option XMLElement) : FunctionLoop :=
  match channel.admitted functions x entry.1 entry.2 with
  | .error reported => { x with diagnostics := x.diagnostics ++ reported }
  | .ok range => channel.enter x entry.1 range

/-- The state behind the functions `done`. -/
def loopAfter (functions : List XMLElement) (done : List (XMLElement × Option XMLElement))
    : FunctionLoop :=
  done.foldl (channel.compileFunction functions) {}

def compileFunctions (sorted : channel.Sorted) : FunctionLoop :=
  channel.loopAfter sorted.functions (withNext sorted.functions)

/-- The values that a compiled function holds, both ends among them. -/
def HoldsValue (record : FunctionRecord) (value : UInt32) : Prop :=
  record.dmxFrom ≤ value ∧ value ≤ record.dmxTo

/-- No value is held by two compiled functions that no ModeMaster switches. -/
def PlainDisjoint (compiled : List FunctionRecord) : Prop :=
  compiled.Pairwise (fun a b => a.modeMasterLink = "" → b.modeMasterLink = "" →
    ∀ value, ¬(HoldsValue a value ∧ HoldsValue b value))

/-- Behind the functions `before`, the function of `master` is let in because of its ModeMaster and
ends in front of the end of `wide`. -/
def Shortens (functions : List XMLElement) (before : List (XMLElement × Option XMLElement))
    (master : XMLElement × Option XMLElement) (wide : FunctionRecord) : Prop :=
  wide ∈ (channel.loopAfter functions before).compiled ∧ modeMasterLink master.1 ≠ ""
    ∧ ∃ range, channel.admitted functions (channel.loopAfter functions before) master.1 master.2
        = .ok range ∧ range.2 < wide.dmxTo

/-- A ModeMaster function ends inside of a compiled function without one, and a later function
without a ModeMaster and with a name of its own is let in though it starts in the rest. -/
def RestTaken (functions : List XMLElement) : Prop :=
  ∃ before master between entry behind wide range,
    withNext functions = before ++ master :: between ++ entry :: behind
      ∧ channel.Shortens functions before master wide ∧ wide.modeMasterLink = ""
      ∧ channel.admitted functions (channel.loopAfter functions (before ++ master :: between))
          entry.1 entry.2 = .ok range
      ∧ modeMasterLink entry.1 = "" ∧ range.1 ≤ wide.dmxTo
      ∧ channel.functionNameOf entry.1
          ∉ (channel.loopAfter functions (before ++ master :: between)).functionNodeNames

section

variable {channel} {functions : List XMLElement} {x : FunctionLoop} {fn : XMLElement}
  {next : Option XMLElement} {range : UInt32 × UInt32}

theorem parseDmxValue_sourceCount (raw : String)
    : parseDmxValue raw channel.sourceCount
        = parseAndConvertGdtfDmxValue raw (UInt8.ofNat channel.sourceCount) := by
  have hlow := channel.hasBytes
  have hhigh := channel.fitsRuntime
  unfold parseDmxValue
  rw [show max 1 (min channel.sourceCount 4) = channel.sourceCount by omega]

theorem parse_trimAscii (raw : String) (targetBytes : UInt8)
    : parseAndConvertGdtfDmxValue (trimAscii raw) targetBytes
        = parseAndConvertGdtfDmxValue raw targetBytes := by
  unfold parseAndConvertGdtfDmxValue parseGdtfDmxValue trimAscii
  rw [String.toList_ofList, trimChars_trimChars]

theorem default_start {sourceCount : Nat} (hlow : 1 ≤ sourceCount) (hhigh : sourceCount ≤ 4)
    : parseAndConvertGdtfDmxValue "0/1" (UInt8.ofNat sourceCount) = some 0 := by
  have : sourceCount = 1 ∨ sourceCount = 2 ∨ sourceCount = 3 ∨ sourceCount = 4 := by omega
  rcases this with rfl | rfl | rfl | rfl
  . decide +kernel
  . decide +kernel
  . decide +kernel
  . decide +kernel

-- the two spellings of the default agree: a missing start sorts as zero, and is `0/1` for a shutter
theorem startOf_of_shutterStart {start : UInt32}
    (h : shutterStart fn channel.sourceCount = some start)
    : channel.startOf fn = start := by
  unfold startOf
  rw [parseDmxValue_sourceCount]
  unfold shutterStart at h
  unfold readAttr
  cases hraw : patchAttribute fn "DMXFrom" "dmxfrom" with
  | none =>
    rw [hraw, Option.getD_none, default_start channel.hasBytes channel.fitsRuntime] at h
    rw [← Option.some.inj h]
    rfl
  | some raw =>
    rw [hraw, Option.getD_some] at h
    dsimp only
    rw [parse_trimAscii, h, Option.getD_some]

theorem admitted_ok (h : channel.admitted functions x fn next = .ok range)
    : range.1 = channel.startOf fn ∧ range.1 ≤ range.2
        ∧ (modeMasterLink fn = "" → ∀ previousTo, x.previousTo = some previousTo →
          previousTo < range.1) := by
  unfold admitted at h
  dsimp only at h
  split at h
  . cases h
  . split at h
    . cases h
    . next found hfound =>
      split at h
      . cases h
      . next hvalid =>
        split at h
        . cases h
        . next hoverlap =>
          cases h
          refine ⟨?_, UInt32.not_lt.mp hvalid, ?_⟩
          . split at hfound
            . rw [startOf_of_shutterStart (shutterFunctionRange_ends hfound).1]
            . rw [← Option.some.inj hfound]
          . intro hplain previousTo hprevious
            apply UInt32.not_le.mp
            intro hle
            apply hoverlap
            rw [hprevious]
            exact ⟨decide_eq_true hle, hplain⟩

theorem startOf_le {a b : XMLElement} (h : channel.sortsBefore b a = false)
    : channel.startOf a ≤ channel.startOf b := by
  unfold sortsBefore at h
  rw [Bool.or_eq_false_iff] at h
  exact UInt32.not_lt.mp (of_decide_eq_false h.1)

theorem previousTo_enter : (channel.enter x fn range).previousTo = some range.2 := by
  unfold enter
  dsimp only
  split
  . rfl
  . rfl

theorem compiled_enter
    : (channel.enter x fn range).compiled
        = if channel.functionNameOf fn ∈ x.functionNodeNames then x.compiled
          else x.compiled ++ [(channel.recordOf fn range).1] := by
  unfold enter
  dsimp only
  split
  . rfl
  . rfl

theorem loopAfter_concat (done : List (XMLElement × Option XMLElement))
    (entry : XMLElement × Option XMLElement)
    : channel.loopAfter functions (done ++ [entry])
        = channel.compileFunction functions (channel.loopAfter functions done) entry := by
  unfold loopAfter
  rw [List.foldl_append]
  rfl

theorem compileFunction_of_admitted {entry : XMLElement × Option XMLElement}
    (h : channel.admitted functions x entry.1 entry.2 = .ok range)
    : channel.compileFunction functions x entry = channel.enter x entry.1 range := by
  unfold compileFunction
  rw [h]

/-- What a round does to the state: nothing that a later round reads, or it lets the function
in. -/
theorem compileFunction_cases (x : FunctionLoop) (entry : XMLElement × Option XMLElement)
    : (∃ reported, channel.compileFunction functions x entry
          = { x with diagnostics := x.diagnostics ++ reported })
        ∨ ∃ range, channel.admitted functions x entry.1 entry.2 = .ok range
          ∧ channel.compileFunction functions x entry = channel.enter x entry.1 range := by
  cases hadmitted : channel.admitted functions x entry.1 entry.2 with
  | error reported =>
    left
    refine ⟨reported, ?_⟩
    unfold compileFunction
    rw [hadmitted]
  | ok range =>
    right
    exact ⟨range, rfl, compileFunction_of_admitted hadmitted⟩

theorem compiled_concat_prefix (done : List (XMLElement × Option XMLElement))
    (entry : XMLElement × Option XMLElement)
    : (channel.loopAfter functions done).compiled
        <+: (channel.loopAfter functions (done ++ [entry])).compiled := by
  rw [loopAfter_concat]
  cases @compileFunction_cases channel functions (channel.loopAfter functions done) entry with
  | inl hrefused =>
    obtain ⟨reported, heq⟩ := hrefused
    simp only [heq]
    apply List.prefix_rfl
  | inr hadmitted =>
    obtain ⟨range, _, heq⟩ := hadmitted
    rw [heq, compiled_enter]
    split
    . apply List.prefix_rfl
    . apply List.prefix_append

theorem compiled_grows (done rest : List (XMLElement × Option XMLElement))
    : (channel.loopAfter functions done).compiled
        <+: (channel.loopAfter functions (done ++ rest)).compiled := by
  induction rest using List.reverseRecOn with
  | nil =>
    simp only [List.append_nil]
    apply List.prefix_rfl
  | append_singleton rest entry ih =>
    rw [← List.append_assoc]
    apply List.IsPrefix.trans ih
    apply compiled_concat_prefix

theorem compiled_source {done : List (XMLElement × Option XMLElement)} {record : FunctionRecord}
    (h : record ∈ (channel.loopAfter functions done).compiled)
    : record.dmxFrom ≤ record.dmxTo
        ∧ ∃ entry ∈ done, record.dmxFrom = channel.startOf entry.1 := by
  induction done using List.reverseRecOn with
  | nil => cases h
  | append_singleton done entry ih =>
    have hold (hmem : record ∈ (channel.loopAfter functions done).compiled)
        : record.dmxFrom ≤ record.dmxTo
          ∧ ∃ other ∈ done ++ [entry], record.dmxFrom = channel.startOf other.1 := by
      obtain ⟨hle, other, hother, hstart⟩ := ih hmem
      exact ⟨hle, other, List.mem_append_left _ hother, hstart⟩
    rw [loopAfter_concat] at h
    cases @compileFunction_cases channel functions (channel.loopAfter functions done) entry with
    | inl hrefused =>
      obtain ⟨reported, heq⟩ := hrefused
      rw [heq] at h
      exact hold h
    | inr hadmitted =>
      obtain ⟨range, hrange, heq⟩ := hadmitted
      rw [heq, compiled_enter] at h
      split at h
      . exact hold h
      . cases List.mem_append.mp h with
        | inl hmem => exact hold hmem
        | inr hnew =>
          obtain ⟨hstart, hle, _⟩ := admitted_ok hrange
          rw [List.mem_singleton.mp hnew]
          refine ⟨hle, entry, List.mem_append_right _ (List.mem_singleton.mpr rfl), hstart⟩

-- A function in front is covered by `previous_to` until a ModeMaster function shortens it: a
-- function without a ModeMaster is let in only behind `previous_to`, so it can only raise it.
theorem covered_or_shortened {done : List (XMLElement × Option XMLElement)}
    {wide : FunctionRecord} (h : wide ∈ (channel.loopAfter functions done).compiled)
    : (∃ previousTo, (channel.loopAfter functions done).previousTo = some previousTo
          ∧ wide.dmxTo ≤ previousTo)
        ∨ ∃ before master between, done = before ++ master :: between
          ∧ channel.Shortens functions before master wide := by
  induction done using List.reverseRecOn with
  | nil => cases h
  | append_singleton done entry ih =>
    have hlater (hmem : ∃ before master between, done = before ++ master :: between
          ∧ channel.Shortens functions before master wide)
        : ∃ before master between, done ++ [entry] = before ++ master :: between
          ∧ channel.Shortens functions before master wide := by
      obtain ⟨before, master, between, hdone, hshortens⟩ := hmem
      refine ⟨before, master, between ++ [entry], ?_, hshortens⟩
      rw [hdone, List.append_assoc, List.cons_append]
    rw [loopAfter_concat] at h ⊢
    cases @compileFunction_cases channel functions (channel.loopAfter functions done) entry with
    | inl hrefused =>
      obtain ⟨reported, heq⟩ := hrefused
      rw [heq] at h ⊢
      cases ih h with
      | inl hcovered => exact Or.inl hcovered
      | inr hshortened => exact Or.inr (hlater hshortened)
    | inr hadmitted =>
      obtain ⟨range, hrange, heq⟩ := hadmitted
      obtain ⟨_, hvalid, hbehind⟩ := admitted_ok hrange
      rw [heq] at h ⊢
      rw [previousTo_enter]
      by_cases hreaches : wide.dmxTo ≤ range.2
      . exact Or.inl ⟨range.2, rfl, hreaches⟩
      . right
        -- the new function ends below `wide`, so `wide` is not the new function
        have hmem : wide ∈ (channel.loopAfter functions done).compiled := by
          rw [compiled_enter] at h
          split at h
          . exact h
          . cases List.mem_append.mp h with
            | inl hold => exact hold
            | inr hnew =>
              rw [List.mem_singleton.mp hnew] at hreaches
              exact absurd (UInt32.le_refl _) hreaches
        cases ih hmem with
        | inr hshortened => exact hlater hshortened
        | inl hcovered =>
          obtain ⟨previousTo, hprevious, hcovers⟩ := hcovered
          refine ⟨done, entry, [], rfl, hmem, ?_, range, hrange, UInt32.not_le.mp hreaches⟩
          intro hplain
          have hlt := hbehind hplain previousTo hprevious
          apply hreaches
          apply UInt32.le_trans hcovers
          exact UInt32.le_trans (UInt32.le_of_lt hlt) hvalid

theorem disjoint_of_not_restTaken (h : ¬channel.RestTaken functions)
    {done behind : List (XMLElement × Option XMLElement)}
    (hdone : withNext functions = done ++ behind)
    : PlainDisjoint (channel.loopAfter functions done).compiled := by
  induction done using List.reverseRecOn generalizing behind with
  | nil => exact List.Pairwise.nil
  | append_singleton done entry ih =>
    have hsplit : withNext functions = done ++ entry :: behind := by
      rw [hdone, List.append_assoc, List.singleton_append]
    have hdisjoint := ih hsplit
    rw [loopAfter_concat]
    cases @compileFunction_cases channel functions (channel.loopAfter functions done) entry with
    | inl hrefused =>
      obtain ⟨reported, heq⟩ := hrefused
      rw [heq]
      exact hdisjoint
    | inr hadmitted =>
      obtain ⟨range, hrange, heq⟩ := hadmitted
      rw [heq, compiled_enter]
      split
      . exact hdisjoint
      . next hname =>
        unfold PlainDisjoint
        rw [List.pairwise_append]
        refine ⟨hdisjoint, List.pairwise_singleton .., ?_⟩
        intro wide hwide record hrecord hwidePlain hplain value hvalue
        rw [List.mem_singleton.mp hrecord] at hplain hvalue
        have hfrom : range.1 ≤ wide.dmxTo := UInt32.le_trans hvalue.2.1 hvalue.1.2
        cases covered_or_shortened hwide with
        | inl hcovered =>
          obtain ⟨previousTo, hprevious, hcovers⟩ := hcovered
          have hlt := (admitted_ok hrange).2.2 hplain previousTo hprevious
          exact UInt32.not_lt.mpr (UInt32.le_trans hfrom hcovers) hlt
        | inr hshortened =>
          obtain ⟨before, master, between, rfl, hshortens⟩ := hshortened
          exact h ⟨before, master, between, entry, behind, wide, range, hsplit, hshortens,
            hwidePlain, hrange, hplain, hfrom, hname⟩

end

section

variable {channel}

theorem startOf_le_of_split (sorted : channel.Sorted)
    {done behind : List (XMLElement × Option XMLElement)}
    {entry : XMLElement × Option XMLElement}
    (h : withNext sorted.functions = done ++ entry :: behind)
    : ∀ other ∈ done, channel.startOf other.1 ≤ channel.startOf entry.1 := by
  have hfunctions := congrArg (List.map Prod.fst) h
  rw [map_fst_withNext, List.map_append, List.map_cons] at hfunctions
  have hordered := sorted.ordered
  rw [hfunctions, List.pairwise_append] at hordered
  intro other hother
  apply startOf_le
  exact hordered.2.2 other.1 (List.mem_map_of_mem hother) entry.1 (List.mem_cons_self ..)

theorem not_disjoint_of_restTaken (sorted : channel.Sorted)
    (h : channel.RestTaken sorted.functions)
    : ¬PlainDisjoint (channel.compileFunctions sorted).compiled := by
  obtain ⟨before, master, between, entry, behind, wide, range, hsplit, hshortens, hwidePlain,
    hrange, hplain, hfrom, hname⟩ := h
  obtain ⟨hstart, hvalid, _⟩ := admitted_ok hrange
  have hwide := (compiled_grows before (master :: between)).subset hshortens.1
  obtain ⟨_, source, hsource, hwideStart⟩ := compiled_source hwide
  have hordered := startOf_le_of_split sorted hsplit source hsource
  rw [← hwideStart, ← hstart] at hordered
  intro hdisjoint
  have hgrows : (channel.loopAfter sorted.functions
      (before ++ master :: between ++ [entry])).compiled
        <+: (channel.compileFunctions sorted).compiled := by
    have hdone : withNext sorted.functions
        = before ++ master :: between ++ [entry] ++ behind := by
      rw [hsplit, List.append_assoc _ [entry], List.singleton_append]
    rw [compileFunctions, hdone]
    apply compiled_grows
  have hboth := hdisjoint.sublist hgrows.sublist
  rw [loopAfter_concat, compileFunction_of_admitted hrange, compiled_enter, if_neg hname, List.pairwise_append] at hboth
  have hapart := hboth.2.2 wide hwide _ (List.mem_singleton.mpr rfl) hwidePlain hplain
  -- the first value of the later function is held by both
  apply hapart range.1
  exact ⟨⟨hordered, hfrom⟩, ⟨UInt32.le_refl _, hvalid⟩⟩

end

theorem disjoint_of_no_modeMaster (channel : LogicalChannel) (sorted : channel.Sorted)
    (h : ∀ fn ∈ channel.functions, modeMasterLink fn = "")
    : PlainDisjoint (channel.compileFunctions sorted).compiled := by
  refine disjoint_of_not_restTaken ?_ (List.append_nil _).symm
  intro hrest
  obtain ⟨before, master, between, entry, behind, wide, _, hsplit, hshortens, _⟩ := hrest
  apply hshortens.2.1
  apply h
  apply sorted.perm.subset
  have hfunctions := congrArg (List.map Prod.fst) hsplit
  rw [map_fst_withNext] at hfunctions
  rw [hfunctions]
  simp

def dimmerWithStrobeMode : LogicalChannel where
  node := .node 1 "LogicalChannel" [("Attribute", "Dimmer")] [
    .node 2 "ChannelFunction" [("Name", "A"), ("DMXFrom", "0/1"), ("DMXTo", "200/1")] [],
    .node 3 "ChannelFunction" [("Name", "B"), ("DMXFrom", "50/1"), ("DMXTo", "60/1"),
      ("ModeMaster", "Base_Mode")] [],
    .node 4 "ChannelFunction" [("Name", "C"), ("DMXFrom", "100/1")] []]
  nodeName := "Fixture_Dimmer"
  sourceCount := 1
  hasBytes := by decide
  fitsRuntime := by decide
  wheels := []
  floatAttribute := fun _ _ _ => some 0
  doubleText := fun _ => none

def dimmerWithStrobeMode.sorted : dimmerWithStrobeMode.Sorted where
  functions := dimmerWithStrobeMode.functions
  perm := List.Perm.refl _
  ordered := by decide +kernel

end LogicalChannel
end Peraviz.Gdtf
