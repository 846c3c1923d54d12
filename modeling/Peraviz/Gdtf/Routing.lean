import Peraviz.Gdtf.Fixture
import Mathlib.Data.List.Dedup

/-!
This module contains the two passes over the addresses of a GDTF mode: the validation of the byte
declarations of its channels and the expansion of its channel programs along the geometry
references of the mode, with the break and the offset of each reference applied.
-/

namespace Peraviz.Gdtf

open CheckedInt Peraviz.Runtime

structure DmxGeometryRoute where
  name : String
  path : String
  context : String
  reference : Option XMLElement
  referenceDepth : Nat

def checkOffsets (seen : List Int32) : List (List Char) → Option (List Int32)
  | [] => some seen
  | piece :: pieces =>
    match patchNumber piece 1 with
    | some value => if 512 < value ∨ value ∈ seen then none else checkOffsets (value :: seen) pieces
    | none => none

def channelIssue (channel : XMLElement) : Option String :=
  match patchAttribute channel "Offset" "offset" with
  | none => none
  | some raw =>
    if trimAscii raw = "None" then none
    else
      match checkOffsets [] (raw.toList.splitOn ',') with
      | none => some "Invalid ordered DMXChannel Offset declaration."
      | some seen =>
        if 4 < seen.length then some "DMXChannel source widths above 32 bits are unsupported."
        else
          match patchAttribute channel "DMXBreak" "dmxbreak" with
          | none => none
          | some sourceBreak =>
            if sourceBreak ≠ "Overwrite" ∧ patchNumber sourceBreak.toList 1 = none then
              some "Invalid DMXChannel DMXBreak declaration."
            else none

def validateChannelAddresses (mode : XMLElement) : Option String :=
  (collectElementsByName "dmxchannel" mode).findSome? channelIssue

theorem mem_of_lookup_eq_some {β : Type} {key : String} {l : List (String × β)} {b : β}
    (h : l.lookup key = some b)
    : (key, b) ∈ l := by
  induction l with
  | nil => simp at h
  | cons entry l ih =>
    obtain ⟨key', b'⟩ := entry
    rw [List.lookup_cons] at h
    split at h
    next heq =>
      rw [eq_of_beq heq, Option.some.inj h]
      simp
    next => exact List.mem_cons_of_mem _ (ih h)

def topLevelGeometries (root : XMLElement) : Except String (List (String × XMLElement)) :=
  ((collectElementsByName "geometries" root).flatMap XMLElement.children).foldlM
    (fun roots node =>
      match patchAttribute node "Name" "name" with
      | none => .ok roots
      | some name =>
        if (roots.lookup name).isSome then .error "Ambiguous top-level geometry name."
        else .ok (roots ++ [(name, node)]))
    []

def appendGeometryPath (parentPath instanceName : String) : String :=
  if parentPath = "" then instanceName
  else if instanceName = "" then parentPath
  else parentPath ++ "/" ++ instanceName

structure VisitState where
  issue : Option String := none
  paths : List String := []
  definitions : List (String × XMLElement) := []
  routes : List DmxGeometryRoute := []

mutual

def handlesOf : XMLElement → List Nat
  | .node handle _ _ children => handle :: handlesOfAll children

def handlesOfAll : List XMLElement → List Nat
  | [] => []
  | child :: children => handlesOf child ++ handlesOfAll children

end

theorem free_lt {handles stack : List Nat} {handle : Nat} (hmem : handle ∈ handles)
    (hstack : handle ∉ stack)
    : (handles.filter (· ∉ handle :: stack)).length < (handles.filter (· ∉ stack)).length := by
  have hsub : handles.filter (· ∉ handle :: stack)
      = (handles.filter (· ∉ stack)).filter (· ≠ handle) := by
    rw [List.filter_filter]
    apply List.filter_congr
    simp
  rw [hsub]
  apply List.length_filter_lt_length_iff_exists.mpr
  exact ⟨handle, by simp [hmem, hstack], by simp⟩

section

variable (roots : List (String × XMLElement)) (handles : List Nat)

mutual

/-- One call of the visitor, `stack` holds the elements that the calls around it are at. Every
element is one of `handles`, the elements of the document, so that the calls end. -/
def visit (stack : List Nat) (s : VisitState) (node : XMLElement) (parent context : String)
    (reference : Option XMLElement) (depth : Nat) : VisitState :=
  match s.issue, patchAttribute node "Name" "name" with
  | some _, _ => s
  | none, none => s
  | none, some name =>
    -- PinPatch and other children that are no geometries have no name
    if trimAscii name = "" then s
    else if node.handle ∈ stack then { s with issue := some "Cyclic geometry reference." }
    else if node.handle ∈ handles then
      let path := appendGeometryPath parent name
      if lowerAscii node.name = "geometryreference" then
        match roots.lookup ((patchAttribute node "Geometry" "geometry").getD "") with
        | none => { s with issue := some "Unresolved top-level GeometryReference target." }
        | some found => visit (node.handle :: stack) s found path path (some node) (depth + 1)
      else if name = "" ∨ path ∈ s.paths then
        { s with issue := some "Ambiguous expanded geometry identity." }
      else
        let s := { s with paths := path :: s.paths }
        match s.definitions.lookup name with
        | some known =>
          if known.handle ≠ node.handle then
            { s with issue := some "Ambiguous source geometry name." }
          else
            let routes := s.routes ++ [⟨name, path, context, reference, depth⟩]
            visitChildren (node.handle :: stack) { s with routes } node.children path context
              reference depth
        | none =>
          let definitions := s.definitions ++ [(name, node)]
          let routes := s.routes ++ [⟨name, path, context, reference, depth⟩]
          visitChildren (node.handle :: stack) { s with definitions, routes } node.children path
            context reference depth
    else s
termination_by ((handles.filter (· ∉ stack)).length, 0)
decreasing_by
  all_goals
    apply Prod.Lex.left
    apply free_lt <;> assumption

def visitChildren (stack : List Nat) (s : VisitState) (children : List XMLElement)
    (parent context : String) (reference : Option XMLElement) (depth : Nat) : VisitState :=
  match children with
  | [] => s
  | child :: children =>
    visitChildren stack (visit stack s child parent context reference depth) children parent context
      reference depth
termination_by ((handles.filter (· ∉ stack)).length, children.length + 1)
decreasing_by
  all_goals
    apply Prod.Lex.right
    simp

end

end

structure RouteInstance where
  originalId : Int32
  context : String

structure Expansion where
  fixture : CompiledGdtfFixtureType
  instances : List RouteInstance := []
  geometryIds : List (String × Int32) := []
  componentIds : List (String × Int32) := []
  channelIds : List (String × Int32) := []

section

variable (original : CompiledGdtfFixtureType) (routes : List DmxGeometryRoute)

/-- The vectors of a fixture are read at ids that the importer gave out as position + 1. -/
def geometryOf (program : ChannelProgram) : GeometryInstance :=
  original.geometries.getD (program.geometryInstanceId - 1).toNatClampNeg default

/-- The breaks of the channels that a reference places, with 0 for an Overwrite. -/
def referencedBreaks (reference : XMLElement) : List Int32 :=
  routes.flatMap (fun route =>
    match route.reference with
    | some placed =>
      if placed.handle = reference.handle then
        (original.channelPrograms.filter (fun program =>
          (geometryOf original program).name = route.name)).map ChannelProgram.dmxBreak
      else []
    | none => [])

def numberedBreaks (reference : XMLElement) : List Int32 :=
  ((referencedBreaks original routes reference).filter (· ≠ 0)).dedup.mergeSort (· ≤ ·)

def overwrittenCount (reference : XMLElement) : Nat :=
  if 0 ∈ referencedBreaks original routes reference then 1 else 0

def adjustByte (offset byte : Int32) : Checked String Int32 := do
  let step ← ExceptT.lift (subChecked offset 1)
  let byte ← ExceptT.lift (addChecked byte step)
  if 512 < byte then throw "Reference-adjusted Offset exceeds its break."
  return byte

def breakTarget (entry : XMLElement) : Except String Int32 :=
  match patchAttribute entry "DMXBreak" "dmxbreak" with
  | none => .ok 1
  | some raw =>
    match patchNumber raw.toList 1 with
    | some target =>
      if 255 < target then .error "Invalid GeometryReference Break/DMXOffset." else .ok target
    | none => .error "Invalid GeometryReference Break/DMXOffset."

def breakOffset (entry : XMLElement) : Except String Int32 :=
  let text :=
    match patchAttribute entry "DMXOffset" "dmxoffset" with
    | some raw => trimChars raw.toList
    | none => "1".toList
  let text := if ['1', '.'] <+: text then text.drop 2 else text
  match patchNumber text 1 with
  | some offset =>
    if 512 < offset then .error "Invalid GeometryReference Break/DMXOffset." else .ok offset
  | none => .error "Invalid GeometryReference Break/DMXOffset."

def referenceEntry (program : ChannelProgram) (reference : XMLElement)
    : Checked String XMLElement := do
  let children := collectDirectChildrenByName reference "break"
  let breaks := numberedBreaks original routes reference
  if children.length ≠ breaks.length + overwrittenCount original routes reference then
    throw "GeometryReference Break children do not match referenced channel breaks."
  -- an index outside of the children is undefined
  let index := if 0 < program.dmxBreak then breaks.idxOf program.dmxBreak else breaks.length
  ExceptT.lift children[index]?

/-- Numbered breaks keep their identity, only an Overwrite adopts the break of the reference. -/
def placedBreak (program : ChannelProgram) (target : Int32) : Int32 :=
  if program.dmxBreak = 0 then target else program.dmxBreak

def adjustProgram (program : ChannelProgram) (route : DmxGeometryRoute)
    : Checked String ChannelProgram := do
  if 1 < route.referenceDepth then
    throw "Nested GeometryReference addressing remains unsupported."
  match route.reference with
  | some reference =>
    let entry ← referenceEntry original routes program reference
    let target ← ExceptT.mk (some (breakTarget entry))
    let offset ← ExceptT.mk (some (breakOffset entry))
    if program.dmxBreak ≠ 0 ∧ target ≠ program.dmxBreak then
      throw "Numbered reference Break must identify its corresponding source break."
    let dmxOffsetsOneBased ← program.dmxOffsetsOneBased.mapM (adjustByte offset)
    return { program with dmxOffsetsOneBased, dmxBreak := placedBreak program target }
  | none =>
    if program.dmxBreak = 0 then throw "Overwrite requires a GeometryReference context."
    return program

def nextId {α : Type} (entries : List α) : Int32 :=
  Int32.ofNat (entries.length + 1)

namespace Expansion

def geometryId (x : Expansion) (program : ChannelProgram) (route : DmxGeometryRoute)
    : Int32 × Expansion :=
  match x.geometryIds.lookup route.path with
  | some gid => (gid, x)
  | none =>
    let gid := nextId x.fixture.geometries
    let placed := { geometryOf original program with id := gid, path := route.path }
    (gid, { x with
      geometryIds := x.geometryIds ++ [(route.path, gid)]
      fixture := { x.fixture with geometries := x.fixture.geometries ++ [placed] } })

def componentId (x : Expansion) (program : ChannelProgram) (route : DmxGeometryRoute)
    (gid : Int32) : Int32 × Expansion :=
  let key := route.path ++ ":" ++ toString program.componentId
  match x.componentIds.lookup key with
  | some cid => (cid, x)
  | none =>
    let cid := nextId x.fixture.components
    let component := original.components.getD (program.componentId - 1).toNatClampNeg default
    let placed := { component with
      componentId := cid, geometryInstanceId := gid, renderTargetId := cid }
    (cid, { x with
      componentIds := x.componentIds ++ [(key, cid)]
      fixture := { x.fixture with components := x.fixture.components ++ [placed] } })

def channelId (x : Expansion) (program copy : ChannelProgram) (route : DmxGeometryRoute)
    : Int32 × Expansion :=
  let key := route.context ++ ":" ++ toString program.dmxChannelId
  match x.channelIds.lookup key with
  | some channel => (channel, x)
  | none =>
    let channel := nextId x.fixture.dmxChannels
    let source := original.dmxChannels.getD (program.dmxChannelId - 1).toNatClampNeg default
    let placed := { source with
      id := channel, sourceProgramId := 0, dmxOffsetsOneBased := copy.dmxOffsetsOneBased }
    (channel, { x with
      channelIds := x.channelIds ++ [(key, channel)]
      fixture := { x.fixture with dmxChannels := x.fixture.dmxChannels ++ [placed] } })

/-- The first program of a channel becomes the one that the channel is read through. -/
def claimChannel (channels : List ParsedDmxChannel) (channel programId : Int32)
    : List ParsedDmxChannel :=
  channels.modify (channel - 1).toNatClampNeg (fun source =>
    if source.sourceProgramId = 0 then { source with sourceProgramId := programId } else source)

def place (x : Expansion) (program copy : ChannelProgram) (route : DmxGeometryRoute)
    : Expansion :=
  let (gid, x) := x.geometryId original program route
  let (cid, x) := x.componentId original program route gid
  let (channel, x) := x.channelId original program copy route
  let id := nextId x.fixture.channelPrograms
  let copy := { copy with
    geometryInstanceId := gid, componentId := cid, dmxChannelId := channel, id }
  { x with
    fixture := { x.fixture with
      channelPrograms := x.fixture.channelPrograms ++ [copy]
      dmxChannels := claimChannel x.fixture.dmxChannels channel id }
    instances := x.instances ++ [⟨program.id, route.context⟩] }

end Expansion

def expandProgram (x : Expansion) (program : ChannelProgram) : Checked String Expansion := do
  let matching := routes.filter (fun route => route.name = (geometryOf original program).name)
  let x ← matching.foldlM (fun x route => do
    let copy ← adjustProgram original routes program route
    return x.place original program copy route) x
  if matching.isEmpty then
    throw "DMXChannel geometry is missing from the selected expanded tree."
  return x

end

/-- The instance that a mode master is read at: one of the same context, else of the tree around
all references; the last one counts. -/
def masterInstance (instances : List RouteInstance) (masterId : Int32) (context : String)
    : Option Nat :=
  let last (wanted : String) : Option Nat :=
    (List.range instances.length).reverse.find? (fun j =>
      match instances[j]? with
      | some other => other.originalId = masterId ∧ other.context = wanted
      | none => false)
  (last context).or (last "")

def redirectMaster (x : Expansion) (i : Nat) (program : ChannelProgram)
    : Except String ChannelProgram :=
  let condition := program.modeMaster
  if condition.targetKind = .listed .none ∨ condition.valid = false then .ok program
  else
    let context := (x.instances[i]?.map RouteInstance.context).getD ""
    match masterInstance x.instances condition.masterProgramId context with
    | none => .error "ModeMaster cannot be resolved within the same instance or a common ancestor."
    | some target =>
      let master := x.fixture.channelPrograms.getD target {}
      let targetId :=
        if condition.targetKind = .listed .dmxChannel then master.dmxChannelId else master.id
      .ok { program with
        modeMaster := { condition with
          masterProgramId := master.id, masterChannelId := master.dmxChannelId, targetId } }

def redirectMasters (x : Expansion) : Except String (List ChannelProgram) :=
  x.fixture.channelPrograms.zipIdx.mapM (fun entry => redirectMaster x entry.2 entry.1)

def expandInstanceDmxRoutes (fixture : CompiledGdtfFixtureType) (root mode : XMLElement)
    : Checked String CompiledGdtfFixtureType := do
  let roots ← ExceptT.mk (some (topLevelGeometries root))
  match roots.lookup ((patchAttribute mode "Geometry" "geometry").getD "") with
  | none =>
    if roots ≠ [] then throw "Selected mode geometry cannot be resolved."
    if fixture.channelPrograms.any (fun program => program.dmxBreak < 1) = true then
      throw "Overwrite requires a GeometryReference context."
    return fixture
  | some origin =>
    let visited := visit roots (handlesOf root) [] {} origin "" "" none 0
    match visited.issue with
    | some issue => throw issue
    | none =>
      let start : Expansion := { fixture := { fixture with
        channelPrograms := [], components := [], geometries := [], dmxChannels := [] } }
      let x ← fixture.channelPrograms.foldlM (expandProgram fixture visited.routes) start
      let channelPrograms ← ExceptT.mk (some (redirectMasters x))
      return { x.fixture with channelPrograms }

end Peraviz.Gdtf
