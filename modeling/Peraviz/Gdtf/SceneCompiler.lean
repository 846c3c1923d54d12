import Mathlib.Data.List.Infix
import Peraviz.Gdtf.PatchAddresses

/-!
This module contains the part of the scene compiler that makes source programs: each fixture patch
of a scene is checked, its fixture type is compiled once and validated against the patch, and its
channel programs become source programs for properties, colors, wheels, gobos, shutters and the
masters that only activate others.
-/

namespace Peraviz.Gdtf

open CheckedInt Peraviz.Runtime

structure ShutterAttribute where
  wave : ShutterWave := .listed .unsupported
  index : Int32 := 1
  recognized : Bool := false

/-- The classification of attribute names. Nothing is assumed of it. -/
structure AttributeSemantics where
  semanticForAttribute : AttributeIdentity → CompiledSemantic
  classifyWheelMode : String → CompiledWheelMode
  shutterAttribute : String → ShutterAttribute

structure SourceProgram extends CompiledDmxSourceProgram where
  parserProgramId : Int32 := 0
  dmxChannelId : Int32 := 0

structure Compilation where
  fixtures : List CompiledFixtureInstance := []
  sourcePrograms : List SourceProgram := []
  nextProgramId : Int32 := 1
  fixtureTypeCache : List (String × CompiledGdtfFixtureType) := []
  diagnostics : List CompiledRuntimeDiagnostic := []

def fnvStep (hash : UInt64) (value : UInt8) : UInt64 :=
  (hash ^^^ value.toUInt64) * 1099511628211

def stableId (fixtureUuid label : String) : Int32 :=
  let key := fixtureUuid ++ ":" ++ label
  let hash := key.toUTF8.data.foldl fnvStep 1469598103934665603
  Int32.ofNat ((hash % 2000000000) + 1).toNat

def isSupportedColorSemantic (semantic : CompiledSemantic) : Bool :=
  [.colorAddRed, .colorAddGreen, .colorAddBlue, .colorAddWhite, .colorAddAmber, .colorAddLime,
    .colorSubCyan, .colorSubMagenta, .colorSubYellow, .cieX, .cieY, .cieBrightness, .cto, .ctb,
    .ctc, .tint].any (fun name => semantic = .listed name)

section

variable (semantics : AttributeSemantics) (patch : FixturePatch)
variable (fixture : CompiledGdtfFixtureType) (artnetUniverse : Int32)

/-- Appends `source` with the bytes of `program` under the next id; with `keepEmpty` also when it
has no bytes. -/
def appendSource (program : ChannelProgram) (source : SourceProgram) (keepEmpty : Bool)
    (x : Compilation) : Option Compilation := do
  let sources ← makeSources patch artnetUniverse program
  let source := { source with
    programId := x.nextProgramId, sources, dmxFrom := program.dmxFrom, dmxTo := program.dmxTo
    parserProgramId := program.id, dmxChannelId := program.dmxChannelId
    activation := program.modeMaster }
  let x := { x with nextProgramId := x.nextProgramId + 1 }
  if sources = [] ∧ keepEmpty = false then return x
  return { x with sourcePrograms := x.sourcePrograms ++ [source] }

def withPhysical (program : ChannelProgram) (semantic : CompiledSemantic) : SourceProgram :=
  { semantic, physicalFrom := program.physicalFrom, physicalTo := program.physicalTo }

def applyPhysicalFallback (semantic : CompiledSemantic) (source : SourceProgram)
    : SourceProgram :=
  if source.physicalFrom ≠ 0 ∨ source.physicalTo ≠ 1 ∨ semantic = .listed .dimmer then source
  else if semantic = .listed .pan then { source with physicalFrom := -270, physicalTo := 270 }
  else if semantic = .listed .tilt then { source with physicalFrom := -135, physicalTo := 135 }
  else if semantic = .listed .zoom then { source with physicalFrom := 8, physicalTo := 40 }
  else source

def findAttribute (attributeId : Int32) : Option AttributeIdentity :=
  fixture.attributes.find? (fun identity => identity.id = attributeId)

def findGeometry (geometryId : Int32) : Option GeometryInstance :=
  fixture.geometries.find? (fun geometry => geometry.id = geometryId)

/-- The maps over the ids of a fixture keep the last entry of an id. -/
def attributeById (attributeId : Int32) : Option AttributeIdentity :=
  fixture.attributes.reverse.find? (fun identity => identity.id = attributeId)

def geometryById (geometryId : Int32) : Option GeometryInstance :=
  fixture.geometries.reverse.find? (fun geometry => geometry.id = geometryId)

def appendProperty (x : Compilation) (component : ComponentBinding) : Option Compilation :=
  let programs := fixture.channelPrograms.filter (fun program =>
    program.componentId = component.componentId)
  match findAttribute fixture component.attributeId,
      findGeometry fixture component.geometryInstanceId with
  | some identity, some _ =>
    let semantic := semantics.semanticForAttribute identity
    if semantic = .listed .unknown ∨ isSupportedColorSemantic semantic = true then some x
    else
      programs.foldlM (fun x program =>
        appendSource patch artnetUniverse program
          (applyPhysicalFallback semantic (withPhysical program semantic)) false x) x
  | _, _ => some x

def appendColorTarget (x : Compilation) (program : ChannelProgram) : Option Compilation :=
  match attributeById fixture program.attributeId,
      geometryById fixture program.geometryInstanceId with
  | some identity, some _ =>
    let semantic := semantics.semanticForAttribute identity
    if isSupportedColorSemantic semantic = true then
      appendSource patch artnetUniverse program (withPhysical program semantic) false x
    else some x
  | _, _ => some x

def appendColorTargets (x : Compilation) : Option Compilation :=
  fixture.channelPrograms.foldlM (appendColorTarget semantics patch fixture artnetUniverse) x

def retainUnsupportedColorSource (x : Compilation) (program : ChannelProgram)
    : Option Compilation :=
  appendSource patch artnetUniverse program (withPhysical program (.listed .unknown)) true x

def appendWheelTarget (x : Compilation) (program : ChannelProgram) : Option Compilation :=
  let lowerAttribute := (lowerAscii program.attributeName).toList
  let wheelSource := withPhysical program (.listed .unknown)
  if "coloreffects".toList <+: lowerAttribute then
    retainUnsupportedColorSource patch artnetUniverse x program
  else if program.wheelId ≤ 0 then some x
  else
    match attributeById fixture program.attributeId,
        geometryById fixture program.geometryInstanceId with
    | some identity, some _ =>
      let wheelMode := semantics.classifyWheelMode program.attributeName
      if identity.goboKind = .listed .selection then
        if program.wheelChannelSets.isEmpty then some x
        else appendSource patch artnetUniverse program {} false x
      else if identity.goboKind ≠ .listed .none then
        appendSource patch artnetUniverse program wheelSource false x
      else if wheelMode = .listed .select ∧ program.wheelChannelSets.isEmpty = true then some x
      else if identity.canonicalFamily ≠ "Color" ∧ ¬ "color".toList <:+: lowerAttribute then
        some x
      -- only a wheel with slots has a palette
      else if fixture.wheels.any (fun wheel =>
          wheel.id = program.wheelId ∧ wheel.slotCount ≠ 0) = true then
        appendSource patch artnetUniverse program wheelSource false x
      else some x
    | _, _ => some x

def appendWheelTargets (x : Compilation) : Option Compilation :=
  fixture.channelPrograms.foldlM (appendWheelTarget semantics patch fixture artnetUniverse) x

def shutterRandom (wave : ShutterWave) : Bool :=
  [.randomStrobe, .randomPulse, .randomOpen, .randomClose].any (fun name => wave = .listed name)

def shutterPeriodic (wave : ShutterWave) : Bool :=
  [.strobe, .pulse, .pulseOpen, .pulseClose].any (fun name => wave = .listed name) ||
    shutterRandom wave

/-- The number of mode functions of a frequency, each takes an id of its own. -/
def shutterModeIds (program : ChannelProgram) (wave : ShutterWave) : Int32 :=
  if wave ≠ .listed .frequency then 0
  else
    let function : Bool := program.modeMaster.targetKind = .listed .channelFunction
    Int32.ofNat (fixture.channelPrograms.countP (fun master =>
      let mastered : Bool :=
        if function then master.id = program.modeMaster.masterProgramId
        else master.dmxChannelId = program.modeMaster.masterChannelId
      let declared := (semantics.shutterAttribute master.attributeName).wave
      let fromValue := max program.modeMaster.fromValue master.dmxFrom
      let toValue := min program.modeMaster.toValue master.dmxTo
      mastered && "StrobeMode".toList.isPrefixOf master.attributeName.toList &&
        (shutterPeriodic declared || declared = .listed .unsupported) &&
        (function || fromValue ≤ toValue) && master.id ≠ 0))

def appendShutterTarget (x : Compilation) (program : ChannelProgram) : Option Compilation := do
  let semantic := semantics.shutterAttribute program.attributeName
  if semantic.recognized = false then return x
  if "StrobeMode".toList <+: program.attributeName.toList ∧ semantic.wave ≠ .listed .mode then
    return x
  match geometryById fixture program.geometryInstanceId with
  | none => return x
  | some _ =>
    let x ← appendSource patch artnetUniverse program (withPhysical program (.listed .unknown))
      true x
    return { x with
      nextProgramId := x.nextProgramId + shutterModeIds semantics fixture program semantic.wave }

def appendShutterTargets (x : Compilation) : Option Compilation :=
  fixture.channelPrograms.foldlM (appendShutterTarget semantics patch fixture artnetUniverse) x

def findChannelProgram (parserProgramId : Int32) : Option ChannelProgram :=
  fixture.channelPrograms.find? (fun program => program.id = parserProgramId)

def neededMaster (compiledParserIds : List Int32) (activation : ModeMasterCondition)
    : Option ChannelProgram :=
  if activation.targetKind = .listed .none ∨ activation.targetKind = .listed .invalid ∨
      activation.masterProgramId ≤ 0 ∨ activation.masterProgramId ∈ compiledParserIds then none
  else findChannelProgram fixture activation.masterProgramId

/-- One pass over the programs of a fixture, with the parser ids that have a program. -/
def appendMastersOnce (x : List Int32 × Compilation) (activations : List ModeMasterCondition)
    : Option (List Int32 × Compilation) :=
  activations.foldlM (fun (compiledParserIds, x) activation =>
    match neededMaster fixture compiledParserIds activation with
    | none => some (compiledParserIds, x)
    | some master => do
      let appended ← appendSource patch artnetUniverse master
        (withPhysical master (.listed .unknown)) false x
      if appended.sourcePrograms.length = x.sourcePrograms.length then
        return (compiledParserIds, appended)
      return (compiledParserIds ++ [master.id], appended)) x

/-- Passes until one adds nothing. Each of them but the last adds the id of a program of the
fixture, so there are at most `rounds`, one more than it has programs. -/
def appendMasters (sourceProgramStart : Nat) (rounds : Nat) (x : List Int32 × Compilation)
    : Option Compilation :=
  match rounds with
  | 0 => some x.2
  | rounds + 1 => do
    let activations := (x.2.sourcePrograms.drop sourceProgramStart).map (fun program =>
      program.activation)
    let next ← appendMastersOnce patch fixture artnetUniverse x activations
    if next.1.length = x.1.length then return next.2
    appendMasters sourceProgramStart rounds next

def appendActivationMasterSources (sourceProgramStart : Nat) (x : Compilation)
    : Option Compilation :=
  let compiledParserIds := ((x.sourcePrograms.drop sourceProgramStart).map
    SourceProgram.parserProgramId).filter (fun id => 0 < id)
  appendMasters patch fixture artnetUniverse sourceProgramStart
    (fixture.channelPrograms.length + 1) (compiledParserIds, x)

def finalizeActivation (programs : List SourceProgram) (program : SourceProgram)
    : SourceProgram :=
  let activation := program.activation
  if activation.targetKind = .listed .none ∨ activation.targetKind = .listed .invalid then program
  else
    match programs.find? (fun other => 0 < other.parserProgramId ∧
        other.parserProgramId = activation.masterProgramId) with
    | none => { program with activation := { activation with valid := false } }
    | some master =>
      { program with activation := { activation with masterProgramId := master.programId } }

def finalizeFixtureActivations (sourceProgramStart : Nat) (x : Compilation) : Compilation :=
  let programs := x.sourcePrograms.drop sourceProgramStart
  { x with
    sourcePrograms := x.sourcePrograms.take sourceProgramStart ++
      programs.map (finalizeActivation programs) }

def compileFixture (fixtureId : Int32) (x : Compilation) : Option Compilation := do
  let startAddress ← startAddress patch
  let compiled : CompiledFixtureInstance :=
    { fixtureId, fixtureUuid := patch.fixtureUuid, universeId := artnetUniverse, startAddress }
  let x := { x with fixtures := x.fixtures ++ [compiled] }
  let sourceProgramStart := x.sourcePrograms.length
  let x ← fixture.components.foldlM (appendProperty semantics patch fixture artnetUniverse) x
  let x ← appendColorTargets semantics patch fixture artnetUniverse x
  let x ← appendWheelTargets semantics patch fixture artnetUniverse x
  let x ← appendShutterTargets semantics patch fixture artnetUniverse x
  let x ← appendActivationMasterSources patch fixture artnetUniverse sourceProgramStart x
  return finalizeFixtureActivations sourceProgramStart x

end

def fixtureTypeCacheKey (patch : FixturePatch) : String :=
  patch.gdtfPath ++ "\n" ++ lowerAscii (trimAscii patch.dmxMode)

/-- The fixture type of a patch, compiled for the first patch with its key. -/
def fixtureTypeOf (reader : GdtfReader) (patch : FixturePatch) (x : Compilation)
    : Option (CompiledGdtfFixtureType × Compilation) :=
  let cacheKey := fixtureTypeCacheKey patch
  match x.fixtureTypeCache.lookup cacheKey with
  | some fixture => some (fixture, x)
  | none => do
    let fixture ← compileGdtfFixtureType reader patch.gdtfPath patch.dmxMode
    return (fixture, { x with fixtureTypeCache := x.fixtureTypeCache ++ [(cacheKey, fixture)] })

def Compilation.report (x : Compilation) (code severity message subject : String)
    : Compilation :=
  { x with diagnostics := x.diagnostics ++ [⟨code, severity, message, subject⟩] }

def isIncomplete (patch : FixturePatch) : Bool :=
  patch.fixtureUuid = "" || (patch.addresses = [] &&
      (patch.mvrUniverse ≤ 0 || patch.mvrAddress ≤ 0 || 512 < patch.mvrAddress)) ||
    patch.dmxMode = "" || patch.gdtfPath = ""

def compilePatch (reader : GdtfReader) (semantics : AttributeSemantics) (universeOffset : Int32)
    (x : Compilation) (patch : FixturePatch) : Option Compilation := do
  if patch.dmxImportError ≠ "" then
    return x.report "PVZ-MVR-DMX-PATCH-UNSUPPORTED" "error" patch.dmxImportError patch.fixtureUuid
  if isIncomplete patch = true then
    return x.report "PVZ-GDTF-FIXTURE-SKIPPED" "warning"
      "Fixture patch is missing UUID, mode, GDTF path, universe, or address." patch.fixtureUuid
  let base ← baseUniverse patch
  let fixtureId := stableId patch.fixtureUuid "fixture"
  let (fixture, x) ← fixtureTypeOf reader patch x
  let x := fixture.diagnostics.foldl (fun x diagnostic =>
    x.report diagnostic.code diagnostic.severity diagnostic.message
      (patch.fixtureUuid ++ " mode=" ++ patch.dmxMode ++ " " ++ diagnostic.subject)) x
  if fixture.dmxPatchSupported = false then return x
  let addressIssue ← validateResolvedAddresses patch fixture universeOffset
  if addressIssue ≠ "" then
    return x.report "PVZ-GDTF-DMX-PATCH-UNSUPPORTED" "error" addressIssue patch.fixtureUuid
  let artnetUniverse ← narrow (base.toInt + universeOffset.toInt)
  compileFixture semantics patch fixture artnetUniverse fixtureId x

/-- `none` is an integer overflow or a front of an empty list. -/
def compileRuntimeScene (reader : GdtfReader) (semantics : AttributeSemantics)
    (fixturePatches : List FixturePatch) (universeOffset : Int32) : Option Compilation :=
  fixturePatches.foldlM (compilePatch reader semantics universeOffset) {}

end Peraviz.Gdtf
