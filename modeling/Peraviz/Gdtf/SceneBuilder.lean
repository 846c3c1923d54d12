import Peraviz.Gdtf.FixtureType

/-!
This module contains the construction of the geometry nodes of a fixture: the walk of the scene
importer over the geometries of a GDTF description. The transforms, the photometry and the model
files of a node are not part of it.
-/

namespace Peraviz.Gdtf

open Peraviz.Runtime

def holdsText (text part : String) : Bool :=
  text.toList.tails.any (fun rest => part.toList.isPrefixOf rest)

def looksLikeAxis (tagName name : String) : Bool :=
  holdsText (lowerAscii tagName) "axis" ||
    ["pan", "tilt", "yoke", "head"].any (holdsText (lowerAscii name))

def looksLikeLensGeometry (tagName name : String) (parentIsLens : Bool) : Bool :=
  parentIsLens || lowerAscii tagName == "beam" ||
    ["lens", "optic", "glass"].any (holdsText (lowerAscii name))

def looksLikeEmitter (tagName name : String) (isLensGeometry : Bool) : Bool :=
  ["beam", "laser"].any (holdsText (lowerAscii tagName)) ||
    holdsText (lowerAscii name) "emitter" || isLensGeometry

def supportedGeometryTags : List String :=
  ["geometry", "axis", "beam", "geometryreference", "laser", "wiringobject", "inventory",
    "structure", "support", "magnet", "display", "mediaserverlayer", "mediaservercamera",
    "mediaservermaster"]

def isSupportedGeometryTag (tagName : String) : Bool :=
  supportedGeometryTags.contains (lowerAscii tagName) ||
    "filter".toList.isPrefixOf (lowerAscii tagName).toList

def safeName (e : XMLElement) (fallback : String) : String :=
  (patchAttribute e "Name" "name").getD fallback

def makeFixtureGeometryKey (fixtureUuid canonicalPath : String) : String :=
  if fixtureUuid = "" then canonicalPath
  else if canonicalPath = "" then fixtureUuid
  else fixtureUuid ++ "/" ++ canonicalPath

structure GdtfBuildRequest where
  gdtfArchivePath : String
  gdtfMode : String
  fixtureNodeId : String

structure SceneNode where
  nodeId : String
  parentId : String
  name : String
  gdtfGeometryKey : String
  gdtfGeometryPath : String
  gdtfSource : String
  gdtfFixtureType : String
  gdtfFixtureUuid : String
  gdtfModelName : String
  isAxis : Bool
  isLens : Bool
  isEmitter : Bool
  isBeam : Bool
  isModelLodCandidate : Bool

structure GdtfGeometryBuildResult where
  nodes : List SceneNode := []
  error : String := ""

/-- A later element of the same name takes the place of an earlier one. -/
def geometryByName (geometries : XMLElement) : List (String × XMLElement) :=
  geometries.children.foldl (fun table geometry =>
    let geometryName := safeName geometry "geometry"
    if geometryName = "" then table else (geometryName, geometry) :: table) []

section

variable (request : GdtfBuildRequest) (fixtureType : XMLElement)
  (table : List (String × XMLElement))

def makeGeometryNode (geometry : XMLElement) (localCounter : Nat) (geometryParentId : String)
    (overrideModel : Option String) (parentIsLens : Bool) (geometryPath : String) : SceneNode :=
  let geometryTag := geometry.name
  let geometryName := safeName geometry "geometry"
  let isLens := looksLikeLensGeometry geometryTag geometryName parentIsLens
  { nodeId := request.fixtureNodeId ++ "/" ++ geometryName ++ "#" ++ toString localCounter
    parentId := geometryParentId
    name := geometryName
    gdtfGeometryKey := makeFixtureGeometryKey request.fixtureNodeId geometryPath
    gdtfGeometryPath := geometryPath
    gdtfSource := request.gdtfArchivePath
    gdtfFixtureType := safeName fixtureType "FixtureType"
    gdtfFixtureUuid := request.fixtureNodeId
    gdtfModelName := (overrideModel.or (patchAttribute geometry "Model" "model")).getD ""
    isAxis := looksLikeAxis geometryTag geometryName
    isLens
    isEmitter := looksLikeEmitter geometryTag geometryName isLens
    isBeam := lowerAscii geometryTag == "beam"
    isModelLodCandidate := lowerAscii geometryTag == "geometry" || lowerAscii geometryTag == "axis" }

/-- `none` is a recursion that is deeper than `fuel`. The counter of the local ids is the number
of nodes so far. -/
def appendGeometry (fuel : Nat) (nodes : List SceneNode) (geometry : XMLElement)
    (geometryParentId : String) (overrideModel : Option String) (parentIsLens : Bool)
    (parentGeometryPath : String) : Option (List SceneNode) :=
  match fuel with
  | 0 => none
  | fuel + 1 =>
    if lowerAscii geometry.name = "geometryreference" then
      match (patchAttribute geometry "Geometry" "geometry").bind (table.lookup ·) with
      | none => some nodes
      | some referenced =>
        let referenceModel := patchAttribute geometry "Model" "model"
        let referencePath :=
          appendGeometryPath parentGeometryPath (safeName geometry "geometry_reference")
        appendGeometry fuel nodes referenced geometryParentId (referenceModel.or overrideModel)
          parentIsLens referencePath
    else
      let geometryPath := appendGeometryPath parentGeometryPath (safeName geometry "geometry")
      let node := makeGeometryNode request fixtureType geometry nodes.length geometryParentId
        overrideModel parentIsLens geometryPath
      geometry.children.foldlM (fun nodes child =>
        if isSupportedGeometryTag child.name then
          appendGeometry fuel nodes child node.nodeId none node.isLens geometryPath
        else some nodes) (nodes ++ [node])

end

def firstNamed (elements : List XMLElement) (name : String) : Option XMLElement :=
  elements.find? (fun e => e.name = name)

def documentFixtureType (document : List XMLElement) : Option XMLElement :=
  ((firstNamed document "GDTF").bind (fun gdtf => firstNamed gdtf.children "FixtureType")).or
    (firstNamed document "FixtureType")

def dmxModesOf (fixtureType : XMLElement) : List XMLElement :=
  match firstNamed fixtureType.children "DMXModes" with
  | none => []
  | some dmxModes => dmxModes.children.filter (fun mode => mode.name = "DMXMode")

/-- Whether a mode was found, and the geometry of the first one that has a geometry. -/
def rootGeometryName (gdtfMode : String) (selectedModeFound : Bool)
    : List XMLElement → Bool × String
  | [] => (selectedModeFound, "")
  | mode :: modes =>
    let modeName := patchAttribute mode "Name" "name"
    if gdtfMode ≠ "" ∧ modeName.isSome ∧ modeName ≠ some gdtfMode then
      rootGeometryName gdtfMode selectedModeFound modes
    else
      match patchAttribute mode "Geometry" "geometry" with
      | some geometry => (true, geometry)
      | none => rootGeometryName gdtfMode true modes

def buildFixtureGeometryNodes (fuel : Nat) (document : List XMLElement)
    (request : GdtfBuildRequest) (parentId : String) : Option GdtfGeometryBuildResult := do
  match documentFixtureType document with
  | none => return { error := "missing_gdtf_fixture_type" }
  | some fixtureType =>
    let (selectedModeFound, rootName) :=
      rootGeometryName request.gdtfMode (request.gdtfMode = "") (dmxModesOf fixtureType)
    if selectedModeFound = false then return { error := "missing_selected_dmx_mode" }
    match firstNamed fixtureType.children "Geometries" with
    | none => return { error := "missing_gdtf_geometries" }
    | some geometries =>
      match geometries.children.find? (fun geometry =>
          rootName = "" ∨ safeName geometry "geometry" = rootName) with
      | none => return { error := "missing_gdtf_root_geometry" }
      | some rootGeometry =>
        let nodes ← appendGeometry request fixtureType (geometryByName geometries) fuel []
          rootGeometry parentId none false ""
        return { nodes }

end Peraviz.Gdtf
