import Peraviz.Gdtf.AssetCache
import Peraviz.Gdtf.SceneBuilder

/-!
This module contains the geometry nodes of a fixture with all that the scene importer reads for
them: the local transforms, the photometry of the beams and the model files. The arithmetic is that
of any type of numbers.
-/

namespace Peraviz.Gdtf

open Peraviz.Runtime

structure Vec3 (F : Type) where
  x : F
  y : F
  z : F

structure Matrix (F : Type) where
  u : Vec3 F
  v : Vec3 F
  w : Vec3 F
  o : Vec3 F

/-- `text` is the text inside of an element. -/
structure XMLDocument where
  elements : List XMLElement
  text : XMLElement → Option String

/--
What the importer takes from the parser of the XML library, from the number parsing of the standard
library and from the conversion of transforms, which is floating point arithmetic. `floats` are the
numbers that a text stream gives until it fails.
-/
structure Libraries (F T : Type) where
  parse : List UInt8 → Option XMLDocument
  strtof : String → Option F
  floats : String → List F
  toGodotTransform : Matrix F → T

/-- An archive file as it is at one revision and size, `cacheDir` is the session directory that is
leased for its content. -/
structure ArchiveContent where
  archive : ZipArchive
  cacheDir : String

structure FixtureBuildRequest extends GdtfBuildRequest where
  fixtureName : String
  modelDetail : GdtfModelDetail := .default

section

variable {F T : Type} [OfScientific F]

structure GeometryNode (F T : Type) [OfScientific F] extends SceneNode where
  localTransform : T
  nodeType : String := "fixture_geometry"
  nodeClass : String := "fixture_geometry"
  isFixture : Bool := true
  assetKind : String := ""
  assetPath : String := ""
  assetReference : String := ""
  assetArchivePath : String := ""
  modelQuality : String := ""
  assetError : String := ""
  modelDimensions : Vec3 F := ⟨0.0, 0.0, 0.0⟩
  primitiveType : String := ""
  primitiveSizeX : F := 0.1
  primitiveSizeY : F := 0.1
  primitiveSizeZ : F := 0.1
  hasLuminousFlux : Bool := false
  luminousFlux : F := 10000.0
  hasColorTemperature : Bool := false
  colorTemperature : F := 6000.0
  hasBeamAngle : Bool := false
  beamAngle : F := 25.0
  hasFieldAngle : Bool := false
  fieldAngle : F := 25.0
  hasBeamRadius : Bool := false
  beamRadius : F := 0.05
  hasBeamType : Bool := false
  beamType : String := "Wash"
  hasThrowRatio : Bool := false
  throwRatio : F := 1.0
  hasRectangleRatio : Bool := false
  rectangleRatio : F := 1.7777
  hasDominantWavelength : Bool := false
  dominantWavelength : F := 0.0

structure GeometryBuildResult (F T : Type) [OfScientific F] where
  nodes : List (GeometryNode F T) := []
  cachePath : String := ""
  error : String := ""

structure GdtfModelVisual (F : Type) where
  file : String
  primitiveType : String
  sizeX : F
  sizeY : F
  sizeZ : F

def inferAssetKindFromPath (assetPath : String) : String :=
  if assetPath = "" then "none"
  else
    let extension := pathExtensionLower assetPath
    if extension = ".3ds" then "mesh"
    else if [".glb", ".gltf", ".obj", ".dae", ".fbx", ".stl"].contains extension then "scene"
    else "none"

namespace MatrixUtils

variable [Add F] [Mul F]

def identity : Matrix F :=
  { u := ⟨1.0, 0.0, 0.0⟩, v := ⟨0.0, 1.0, 0.0⟩, w := ⟨0.0, 0.0, 1.0⟩, o := ⟨0.0, 0.0, 0.0⟩ }

def rotate (a : Matrix F) (b : Vec3 F) : Vec3 F :=
  { x := a.u.x * b.x + a.v.x * b.y + a.w.x * b.z
    y := a.u.y * b.x + a.v.y * b.y + a.w.y * b.z
    z := a.u.z * b.x + a.v.z * b.y + a.w.z * b.z }

def multiply (a b : Matrix F) : Matrix F :=
  let origin := rotate a b.o
  { u := rotate a b.u
    v := rotate a b.v
    w := rotate a b.w
    o := ⟨origin.x + a.o.x, origin.y + a.o.y, origin.z + a.o.z⟩ }

/-- A text with another count of numbers leaves the matrix as it is. -/
def parseMatrix (libraries : Libraries F T) (text : String) (matrix : Matrix F) : Matrix F :=
  let cleaned := text.map (fun c => if c = '{' ∨ c = '}' ∨ c = ',' then ' ' else c)
  match libraries.floats cleaned with
  | [a0, a1, a2, a3, b0, b1, b2, b3, c0, c1, c2, c3, _, _, _, _] =>
    { u := ⟨a0, b0, c0⟩, v := ⟨a1, b1, c1⟩, w := ⟨a2, b2, c2⟩, o := ⟨a3, b3, c3⟩ }
  | [a0, a1, a2, b0, b1, b2, c0, c1, c2, d0, d1, d2] =>
    { u := ⟨a0, a1, a2⟩, v := ⟨b0, b1, b2⟩, w := ⟨c0, c1, c2⟩, o := ⟨d0, d1, d2⟩ }
  | _ => matrix

end MatrixUtils

section

variable (libraries : Libraries F T)

def parseFloatAttr (e : XMLElement) (name altName : String) : Option F :=
  (patchAttribute e name altName).bind libraries.strtof

/-- A later model takes the place of an earlier one whose name differs in case only. -/
def modelVisualByName (fixtureType : XMLElement) : List (String × GdtfModelVisual F) :=
  match firstNamed fixtureType.children "Models" with
  | none => []
  | some models =>
    models.children.foldl (fun table model =>
      match patchAttribute model "Name" "name" with
      | none => table
      | some name =>
        (lowerAscii name,
          { file := (patchAttribute model "File" "file").getD ""
            primitiveType := (patchAttribute model "PrimitiveType" "primitivetype").getD ""
            sizeX := (parseFloatAttr libraries model "Length" "length").getD 0.0
            sizeY := (parseFloatAttr libraries model "Width" "width").getD 0.0
            sizeZ := (parseFloatAttr libraries model "Height" "height").getD 0.0 }) :: table) []

def emitterWavelengthByName (fixtureType : XMLElement) : List (String × F) :=
  let emitters := (firstNamed fixtureType.children "PhysicalDescriptions").bind
    (fun physicalDescriptions => firstNamed physicalDescriptions.children "Emitters")
  match emitters with
  | none => []
  | some emitters =>
    (emitters.children.filter (fun emitter => emitter.name = "Emitter")).foldl (fun table emitter =>
      match patchAttribute emitter "Name" "name",
          parseFloatAttr libraries emitter "DominantWaveLength" "dominantwavelength" with
      | some name, some wavelength => (name, wavelength) :: table
      | _, _ => table) []

def withPhotometry (wavelengths : List (String × F)) (geometry : XMLElement)
    (node : GeometryNode F T) : GeometryNode F T :=
  if lowerAscii geometry.name = "beam" then
    let read := parseFloatAttr libraries geometry
    let beamType := patchAttribute geometry "BeamType" "beamtype"
    let wavelength :=
      (patchAttribute geometry "EmitterSpectrum" "emitterspectrum").bind (wavelengths.lookup ·)
    { node with
      hasLuminousFlux := (read "LuminousFlux" "luminousflux").isSome
      luminousFlux := (read "LuminousFlux" "luminousflux").getD node.luminousFlux
      hasColorTemperature := (read "ColorTemperature" "colortemperature").isSome
      colorTemperature := (read "ColorTemperature" "colortemperature").getD node.colorTemperature
      hasBeamAngle := (read "BeamAngle" "beamangle").isSome
      beamAngle := (read "BeamAngle" "beamangle").getD node.beamAngle
      hasFieldAngle := (read "FieldAngle" "fieldangle").isSome
      fieldAngle := (read "FieldAngle" "fieldangle").getD node.fieldAngle
      hasBeamRadius := (read "BeamRadius" "beamradius").isSome
      beamRadius := (read "BeamRadius" "beamradius").getD node.beamRadius
      hasBeamType := beamType.isSome
      beamType := beamType.getD node.beamType
      hasThrowRatio := (read "ThrowRatio" "throwratio").isSome
      throwRatio := (read "ThrowRatio" "throwratio").getD node.throwRatio
      hasRectangleRatio := (read "RectangleRatio" "rectangleratio").isSome
      rectangleRatio := (read "RectangleRatio" "rectangleratio").getD node.rectangleRatio
      hasDominantWavelength := wavelength.isSome
      dominantWavelength := wavelength.getD node.dominantWavelength }
  else node

end

def withModelFile (cache : ZipAssetCache) (detail : GdtfModelDetail) (file : String)
    (node : GeometryNode F T) : ZipAssetCache × GeometryNode F T :=
  if file = "" then (cache, node)
  else
    let extraction := cache.ensureGdtfModelExtracted file detail
    (extraction.1,
      { node with
        assetReference := file
        assetPath := extraction.2
        assetArchivePath := extraction.1.modelEntry
        modelQuality := extraction.1.modelQuality
        assetError := if extraction.2 = "" then extraction.1.lastError else node.assetError })

def withAssetKind (node : GeometryNode F T) : GeometryNode F T :=
  let assetKind := inferAssetKindFromPath node.assetPath
  { node with
    assetKind :=
      if assetKind = "none" ∧ node.primitiveType ≠ "" ∧ lowerAscii node.primitiveType ≠ "undefined"
      then "primitive" else assetKind }

section

variable [LT F] [DecidableLT F]

def withModel (visuals : List (String × GdtfModelVisual F)) (cache : ZipAssetCache)
    (detail : GdtfModelDetail) (modelName : Option String) (node : GeometryNode F T)
    : ZipAssetCache × GeometryNode F T :=
  match modelName with
  | none => (cache, node)
  | some modelName =>
    match visuals.lookup (lowerAscii modelName) with
    | none => (cache, { node with assetError := "missing_model_definition" })
    | some visual =>
      let orDefault (size : F) : F := if (0.0 : F) < size then size else 0.1
      let extraction := withModelFile cache detail visual.file node
      (extraction.1,
        { extraction.2 with
          primitiveType := visual.primitiveType
          modelDimensions := ⟨visual.sizeX, visual.sizeY, visual.sizeZ⟩
          primitiveSizeX := orDefault visual.sizeX
          primitiveSizeY := orDefault visual.sizeY
          primitiveSizeZ := orDefault visual.sizeZ })

end

variable [Add F] [Mul F]

def convertTranslationMToMm (matrix : Matrix F) : Matrix F :=
  { matrix with o := ⟨matrix.o.x * 1000.0, matrix.o.y * 1000.0, matrix.o.z * 1000.0⟩ }

def parseLocalMatrix (libraries : Libraries F T) (document : XMLDocument) (e : XMLElement)
    : Matrix F :=
  let parsed (text : String) : Matrix F :=
    convertTranslationMToMm (MatrixUtils.parseMatrix libraries text MatrixUtils.identity)
  match (patchAttribute e "Position" "position").or (patchAttribute e "Matrix" "matrix") with
  | some text => parsed text
  | none =>
    match ((firstNamed e.children "Matrix").or (firstNamed e.children "matrix")).bind
        document.text with
    | some text => parsed text
    | none => MatrixUtils.identity

/-- What the expansion of one fixture reads and does not change. -/
structure GeometryExpansion (F T : Type) where
  libraries : Libraries F T
  document : XMLDocument
  request : FixtureBuildRequest
  fixtureType : XMLElement
  geometries : List (String × XMLElement)
  visuals : List (String × GdtfModelVisual F)
  wavelengths : List (String × F)

structure ExpansionState (F T : Type) [OfScientific F] where
  nodes : List (GeometryNode F T) := []
  cache : ZipAssetCache

namespace GeometryExpansion

variable [LT F] [DecidableLT F] (x : GeometryExpansion F T)

def localMatrix (geometry : XMLElement) (prependLocal : Option (Matrix F)) : Matrix F :=
  let parsed := parseLocalMatrix x.libraries x.document geometry
  match prependLocal with
  | some prepend => MatrixUtils.multiply prepend parsed
  | none => parsed

def makeNode (geometry : XMLElement) (state : ExpansionState F T) (geometryParentId : String)
    (matrix : Matrix F) (overrideModel : Option String) (parentIsLens : Bool)
    (geometryPath : String) : ZipAssetCache × GeometryNode F T :=
  let base := makeGeometryNode x.request.toGdtfBuildRequest x.fixtureType geometry
    state.nodes.length geometryParentId overrideModel parentIsLens geometryPath
  let node : GeometryNode F T :=
    { toSceneNode := base, localTransform := x.libraries.toGodotTransform matrix }
  let modelled := withModel x.visuals state.cache x.request.modelDetail
    (overrideModel.or (patchAttribute geometry "Model" "model"))
    (withPhotometry x.libraries x.wavelengths geometry node)
  (modelled.1, withAssetKind modelled.2)

/-- `none` is a recursion that is deeper than `fuel`. The world transform goes down the recursion
and into no node. -/
def appendGeometry (fuel : Nat) (state : ExpansionState F T) (geometry : XMLElement)
    (geometryParentId : String) (geometryParentWorld : Matrix F) (overrideModel : Option String)
    (prependLocal : Option (Matrix F)) (parentIsLens : Bool) (parentGeometryPath : String)
    : Option (ExpansionState F T) :=
  match fuel with
  | 0 => none
  | fuel + 1 =>
    let matrix := x.localMatrix geometry prependLocal
    let world := MatrixUtils.multiply geometryParentWorld matrix
    if lowerAscii geometry.name = "geometryreference" then
      match (patchAttribute geometry "Geometry" "geometry").bind (x.geometries.lookup ·) with
      | none => some state
      | some referenced =>
        let referenceModel := patchAttribute geometry "Model" "model"
        let referencePath :=
          appendGeometryPath parentGeometryPath (safeName geometry "geometry_reference")
        appendGeometry fuel state referenced geometryParentId geometryParentWorld
          (referenceModel.or overrideModel) (some matrix) parentIsLens referencePath
    else
      let geometryPath := appendGeometryPath parentGeometryPath (safeName geometry "geometry")
      let made := x.makeNode geometry state geometryParentId matrix overrideModel parentIsLens
        geometryPath
      geometry.children.foldlM (fun state child =>
        if isSupportedGeometryTag child.name then
          appendGeometry fuel state child made.2.nodeId world none none made.2.isLens geometryPath
        else some state) { nodes := state.nodes ++ [made.2], cache := made.1 }

section

variable (libraries : Libraries F T)

/-- The second component is the count of the extracted files, which an expansion that is not
reached leaves at zero. -/
def expandDocument (fuel : Nat) (document : XMLDocument) (cache : ZipAssetCache)
    (request : FixtureBuildRequest) (parentId : String) (parentWorld : Matrix F)
    : Option (GeometryBuildResult F T × Nat) := do
  let failed (error : String) : GeometryBuildResult F T × Nat :=
    ({ cachePath := cache.cacheDir, error }, 0)
  match documentFixtureType document.elements with
  | none => return failed "missing_gdtf_fixture_type"
  | some fixtureType =>
    let (selectedModeFound, rootName) :=
      rootGeometryName request.gdtfMode (request.gdtfMode = "") (dmxModesOf fixtureType)
    if selectedModeFound = false then return failed "missing_selected_dmx_mode"
    match firstNamed fixtureType.children "Geometries" with
    | none => return failed "missing_gdtf_geometries"
    | some geometries =>
      match geometries.children.find? (fun geometry =>
          rootName = "" ∨ safeName geometry "geometry" = rootName) with
      | none => return failed "missing_gdtf_root_geometry"
      | some rootGeometry =>
        let x : GeometryExpansion F T :=
          { libraries, document, request, fixtureType
            geometries := geometryByName geometries
            visuals := modelVisualByName libraries fixtureType
            wavelengths := emitterWavelengthByName libraries fixtureType }
        let state ← x.appendGeometry fuel { cache } rootGeometry parentId parentWorld none none
          false ""
        return ({ nodes := state.nodes, cachePath := cache.cacheDir },
          state.cache.extracted.length)

def expandArchive (fuel : Nat) (content : ArchiveContent) (request : FixtureBuildRequest)
    (parentId : String) (parentWorld : Matrix F) : Option (GeometryBuildResult F T × Nat) :=
  let failed (error : String) : GeometryBuildResult F T × Nat :=
    ({ cachePath := content.cacheDir, error }, 0)
  let description := (ZipAssetCache.ofArchive content.archive
    content.cacheDir).ensureArchiveFileExtracted "description.xml"
  if description.2 = "" then some (failed description.1.lastError)
  else
    match description.1.readExtracted description.2 with
    | none => some (failed "description_open_failed")
    | some xml =>
      match libraries.parse xml with
      | none => some (failed "invalid_gdtf_xml")
      | some document => expandDocument libraries fuel document description.1 request parentId
          parentWorld

def buildFixtureGeometryNodes (fuel : Nat) (content : ArchiveContent)
    (request : FixtureBuildRequest) (parentId : String) (parentWorld : Matrix F)
    (extractedAssetCount : Nat) : Option (GeometryBuildResult F T × Nat) :=
  (expandArchive libraries fuel content request parentId parentWorld).map (fun built =>
    (built.1, extractedAssetCount + built.2))

end

end GeometryExpansion

end

end Peraviz.Gdtf
