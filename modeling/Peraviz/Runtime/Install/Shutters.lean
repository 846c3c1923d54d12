import Mathlib.Data.List.Lex
import Peraviz.Runtime.Domains.Shutters
import Peraviz.Runtime.Domains.Wheels

/-!
This module contains what every part of an installation reads of the source programs: the installed
programs, the universe that a set of sources lies in and the masters an activation depends on. It
also contains the installation of the shutters. Layers with the same control signature share one
authority, which is evaluated through the bindings of the first of these layers.
-/

namespace Peraviz.Runtime

def duplicateProgram (programId : Int32) : CompiledRuntimeDiagnostic where
  code := "PVZ-RUNTIME-DUPLICATE-PROGRAM"
  severity := "error"
  message := "Compiled source program ID is invalid or duplicated."
  subject := toString programId

def program? (programs : List CompiledDmxSourceProgram) (programId : Int32)
    : Option CompiledDmxSourceProgram :=
  programs.find? (fun program => program.programId == programId)

/-- The bytes of a program from the most to the least significant one. -/
def sortSources (program : CompiledDmxSourceProgram) : CompiledDmxSourceProgram :=
  { program with
    sources := program.sources.insertionSort (fun a b => a.byteOrder ≤ b.byteOrder) }

def installProgram
    (installed : List CompiledDmxSourceProgram × List CompiledRuntimeDiagnostic)
    (program : CompiledDmxSourceProgram)
    : List CompiledDmxSourceProgram × List CompiledRuntimeDiagnostic :=
  if program.programId ≤ 0 ∨ (program? installed.1 program.programId).isSome then
    (installed.1, installed.2 ++ [duplicateProgram program.programId])
  else
    (installed.1 ++ [sortSources program], installed.2)

def installPrograms (programs : List CompiledDmxSourceProgram)
    : List CompiledDmxSourceProgram × List CompiledRuntimeDiagnostic :=
  programs.foldl installProgram ([], [])

/-- The universe of the sources seen so far, negative as long as none is known. -/
structure UniverseCheck where
  universeId : Int32 := -1
  valid : Bool := true
  deriving DecidableEq

namespace UniverseCheck

def add (check : UniverseCheck) (source : CompiledDmxByteSource) : UniverseCheck :=
  let universeId := if check.universeId < 0 then source.universeId else check.universeId
  ⟨universeId, check.valid && source.universeId == universeId⟩

def addAll (check : UniverseCheck) (sources : List CompiledDmxByteSource) : UniverseCheck :=
  sources.foldl add check

/-- The universe, if there is one and every source lies in it. -/
def universe? (check : UniverseCheck) : Option Int32 :=
  if check.valid && 0 ≤ check.universeId then some check.universeId else none

end UniverseCheck

/-- The program whose function a program is active in, none is `0`. -/
def nextMaster (program : CompiledDmxSourceProgram) : Int32 :=
  if program.activation.targetKind = .listed .none then 0 else program.activation.masterProgramId

/--
Follows `next` from a program until it ends, repeats or leaves the installed programs. Answers the
programs on the way and the identifier it has stopped at.
-/
def dependencyWalk (programs : List CompiledDmxSourceProgram)
    (next : CompiledDmxSourceProgram → Int32) (visited : List Int32) (programId : Int32)
    : List Int32 × Int32 :=
  if programId ≤ 0 ∨ programId ∈ visited then
    (visited, programId)
  else
    match hfind : program? programs programId with
    | none => (visited, programId)
    | some program => dependencyWalk programs next (visited ++ [programId]) (next program)
termination_by (programs.filter (fun program => program.programId ∉ visited)).length
decreasing_by
  rename_i hnew
  have hmem := List.mem_of_find?_eq_some hfind
  have hid : program.programId = programId := by simpa using List.find?_some hfind
  have hsplit : programs.filter (fun program => program.programId ∉ visited ++ [programId])
      = (programs.filter (fun program => program.programId ∉ visited)).filter
          (fun program => program.programId ≠ programId) := by
    rw [List.filter_filter]
    apply List.filter_congr
    intro x _
    grind
  rw [hsplit]
  apply List.length_filter_lt_length_iff_exists.mpr
  exact ⟨program, by grind, by simp [hid]⟩

end Peraviz.Runtime

namespace Peraviz.Runtime

/-- The elements of a list in the order of their first occurrence. -/
def firstOccurrences {α : Type} [DecidableEq α] (l : List α) : List α :=
  l.foldl (fun seen x => if x ∈ seen then seen else seen ++ [x]) []

/-- Encodes a target and an index under it, the key of a layer. -/
def layerKey (target index : Int32) : Int := target.toInt * 2 ^ 32 + index.toUInt32.toNat

def CompiledShutterBinding.layer (binding : CompiledShutterBinding) : Int :=
  layerKey binding.beamTargetId binding.shutterIndex

def shutterControlSignature (p : Platform) (b : CompiledShutterBinding) : List Int :=
  [b.sourceProgramId.toInt, b.shutterIndex.toInt, b.wave.toUnderlying.toInt, b.status.toInt,
    b.dmxFrom.toNat, b.dmxTo.toNat, p.doubleBits b.duration, p.doubleBits b.duty,
    p.doubleBits b.offset, p.doubleBits b.physicalFrom, p.doubleBits b.physicalTo,
    b.fixtureId.toInt, b.modeFrom.toNat, b.modeTo.toNat, b.activationFunctionId.toInt]

def shutterMix (value : UInt64) : UInt64 :=
  let value := value + 0x9e3779b97f4a7c15
  let value := (value ^^^ (value >>> 30)) * 0xbf58476d1ce4e5b9
  let value := (value ^^^ (value >>> 27)) * 0x94d049bb133111eb
  value ^^^ (value >>> 31)

/-- The signatures of the bindings of one layer, in order. -/
def layerSignatures (p : Platform) (bindings : List CompiledShutterBinding) (layer : Int)
    : List (List Int) :=
  ((bindings.filter (fun b => b.layer == layer)).map (shutterControlSignature p)).insertionSort
    (fun a b => a ≤ b)

/-- The distinct signature lists of the scene, an authority is a position among them. -/
def internedSignatures (p : Platform) (bindings : List CompiledShutterBinding)
    : List (List (List Int)) :=
  sortUnique (bindings.map (fun b => layerSignatures p bindings b.layer))

theorem mem_internedSignatures {p : Platform} {bindings : List CompiledShutterBinding}
    {key : List (List Int)}
    : key ∈ internedSignatures p bindings
      ↔ ∃ b ∈ bindings, layerSignatures p bindings b.layer = key := by
  rw [internedSignatures, mem_sortUnique, List.mem_map]

theorem internedSignatures_nodup (p : Platform) (bindings : List CompiledShutterBinding)
    : (internedSignatures p bindings).Nodup := by
  exact List.nodup_dedup _

def shutterAuthority (p : Platform) (bindings : List CompiledShutterBinding) (layer : Int)
    : Int32 :=
  Int32.ofNat ((internedSignatures p bindings).idxOf (layerSignatures p bindings layer) + 1)

def mixAll (seed : UInt64) (values : List UInt64) : UInt64 :=
  values.foldl (fun seed value => shutterMix (seed ^^^ value)) seed

/-- The scalars of a record are seeded with the precision in which they are packed. -/
def transportField (p : Platform) (entry : Int × Nat) : UInt64 :=
  UInt64.ofInt (if 6 ≤ entry.2 ∧ entry.2 ≤ 10 then
    p.doubleBits (p.toFloat (p.ofDoubleBits entry.1)) else entry.1)

def programSeeds (program : CompiledDmxSourceProgram) : List UInt64 :=
  program.sources.flatMap (fun byte =>
      [byte.universeId, byte.address, byte.byteOrder].map (fun value => value.toUInt32.toUInt64))
    ++ [program.dmxFrom, program.dmxTo, program.activation.targetKind.toUnderlying.toUInt32,
      program.activation.fromValue, program.activation.toValue].map UInt32.toUInt64

/-- Of two programs with one identifier the later one counts here. -/
def shutterSeed (p : Platform) (programs : List CompiledDmxSourceProgram)
    (signatures : List (List Int)) : UInt32 :=
  let fields := signatures.flatMap (fun record => record.zipIdx.map (transportField p))
  let chains := signatures.flatMap (fun record =>
    (dependencyWalk programs.reverse nextMaster [] (Int32.ofInt (record.headD 0))).1.flatMap
      (fun id => (program? programs.reverse id).elim [] programSeeds))
  let seed := mixAll (mixAll 0x53485554544552 fields) chains
  (seed ^^^ (seed >>> 32)).toUInt32

structure ShutterEntry where
  binding : CompiledShutterBinding
  authority : Int32
  dependencyProgramIds : List Int32
  universe? : Option Int32
  deriving DecidableEq

/-- The universe that a binding is evaluated in, if its dependencies resolve within one. -/
def shutterUniverse (programs : List CompiledDmxSourceProgram) (binding : CompiledShutterBinding)
    (walk : List Int32 × Int32) : Option Int32 :=
  let dependencies := walk.1.filterMap (program? programs)
  if 0 < binding.fixtureId ∧ 0 < binding.beamTargetId ∧ 0 < binding.shutterIndex ∧ walk.2 ≤ 0
      ∧ dependencies.all (fun program => !program.sources.isEmpty) then
    (UniverseCheck.addAll {} (dependencies.flatMap CompiledDmxSourceProgram.sources)).universe?
  else
    none

def shutterEntry (p : Platform) (programs : List CompiledDmxSourceProgram)
    (bindings : List CompiledShutterBinding) (binding : CompiledShutterBinding) : ShutterEntry :=
  let walk := dependencyWalk programs nextMaster [] binding.sourceProgramId
  {
    binding := binding
    authority := shutterAuthority p bindings binding.layer
    dependencyProgramIds := walk.1
    universe? := shutterUniverse programs binding walk
  }

def shutterEntries (p : Platform) (programs : List CompiledDmxSourceProgram)
    (bindings : List CompiledShutterBinding) : List ShutterEntry :=
  bindings.map (shutterEntry p programs bindings)

/-- A layer with one invalid binding, or with bindings of two universes, stays open. -/
def layerInvalid (entries : List ShutterEntry) (layer : Int) : Bool :=
  let members := entries.filter (fun entry => entry.binding.layer == layer)
  members.any (fun entry => entry.universe?.isNone
    || entry.universe? != (members.head?.bind ShutterEntry.universe?))

def validEntries (entries : List ShutterEntry) : List ShutterEntry :=
  entries.filter (fun entry => !layerInvalid entries entry.binding.layer)

def activationUnresolved (fixtureId : Int32) : CompiledRuntimeDiagnostic where
  code := "PVZ-SHUTTER-ACTIVATION-UNRESOLVED"
  severity := "warning"
  message := "Shutter parameters/ModeMaster must resolve within one universe; unresolved layers stay open."
  subject := toString fixtureId

def shutterDiagnostics (entries : List ShutterEntry) : List CompiledRuntimeDiagnostic :=
  (firstOccurrences ((entries.filter (fun entry =>
    layerInvalid entries entry.binding.layer)).map (fun entry => entry.binding.fixtureId))).map
      activationUnresolved

def ofAuthority (entries : List ShutterEntry) (authority : Int32) : List ShutterEntry :=
  (validEntries entries).filter (fun entry => entry.authority == authority)

/-- The entries of the first layer of each authority, these are evaluated. -/
def representativeEntries (entries : List ShutterEntry) : List ShutterEntry :=
  (validEntries entries).filter (fun entry =>
    (ofAuthority entries entry.authority).head?.any (fun first =>
      first.binding.layer == entry.binding.layer))

/-- The state that an authority starts in, its members are the targets of all its layers. -/
def authorityState (p : Platform) (scene : CompiledRuntimeScene) (entries : List ShutterEntry)
    (authority : Int32) : ShutterAuthorityState :=
  let members := ofAuthority entries authority
  match members.head? with
  | none => {}
  | some first => {
      fixtureId := first.binding.fixtureId
      index := first.binding.shutterIndex
      seed := shutterSeed p scene.sourcePrograms
        (layerSignatures p scene.shutterBindings first.binding.layer)
      targets := (firstOccurrences (members.map (fun entry =>
        (entry.binding.layer, entry.binding.beamTargetId)))).map Prod.snd
    }

end Peraviz.Runtime
