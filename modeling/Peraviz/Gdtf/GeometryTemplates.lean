import Peraviz.Gdtf.GeometryIds

/-!
This module contains the templates of the scene importer. A template is expanded once, for no
fixture, and is bound to a fixture by its texts: the nodes are those of an expansion for this
fixture.
-/

namespace Peraviz.Gdtf

structure TemplateKey where
  gdtfArchivePath : String
  gdtfMode : String
  revision : Int
  size : Nat
  modelDetail : GdtfModelDetail
deriving DecidableEq

/-- A call of `instantiate`, with the revision and the size that the archive file has then. -/
structure Instantiation where
  request : FixtureBuildRequest
  parentId : String
  revision : Int
  size : Nat

def Instantiation.key (call : Instantiation) : TemplateKey where
  gdtfArchivePath := call.request.gdtfArchivePath
  gdtfMode := call.request.gdtfMode
  revision := call.revision
  size := call.size
  modelDetail := call.request.modelDetail

/-- The request of a template, which names no fixture. -/
def FixtureBuildRequest.definition (request : FixtureBuildRequest) : FixtureBuildRequest where
  gdtfArchivePath := request.gdtfArchivePath
  gdtfMode := request.gdtfMode
  fixtureNodeId := ""
  fixtureName := ""
  modelDetail := request.modelDetail

def boundParentId (fixtureNodeId parentId templateParentId : String) : String :=
  if templateParentId = "" then parentId else fixtureNodeId ++ templateParentId

section

variable {F T : Type} [OfScientific F]

structure FixtureGeometryTemplates (F T : Type) [OfScientific F] where
  templates : List (TemplateKey × GeometryBuildResult F T) := []
  hits : Nat := 0

def bindNode (fixtureNodeId parentId : String) (node : GeometryNode F T) : GeometryNode F T :=
  { node with
    nodeId := fixtureNodeId ++ node.nodeId
    parentId := boundParentId fixtureNodeId parentId node.parentId
    gdtfFixtureUuid := fixtureNodeId
    gdtfGeometryKey := makeFixtureGeometryKey fixtureNodeId node.gdtfGeometryPath }

def bindResult (fixtureNodeId parentId : String) (result : GeometryBuildResult F T)
    : GeometryBuildResult F T :=
  { result with nodes := result.nodes.map (bindNode fixtureNodeId parentId) }

section

variable [Add F] [Mul F] [LT F] [DecidableLT F] (libraries : Libraries F T)
  (content : String → Int → Nat → ArchiveContent) (fuel : Nat)

namespace FixtureGeometryTemplates

def instantiate (x : FixtureGeometryTemplates F T) (call : Instantiation)
    (extractedAssetCount : Nat)
    : Option (FixtureGeometryTemplates F T × GeometryBuildResult F T × Nat) :=
  let bound := bindResult call.request.fixtureNodeId call.parentId
  match x.templates.lookup call.key with
  | some template => some ({ x with hits := x.hits + 1 }, bound template, extractedAssetCount)
  | none => do
    let built ← GeometryExpansion.buildFixtureGeometryNodes libraries fuel
      (content call.request.gdtfArchivePath call.revision call.size) call.request.definition ""
      MatrixUtils.identity extractedAssetCount
    return ({ x with templates := (call.key, built.1) :: x.templates }, bound built.1, built.2)

/-- Instantiations one after the other, as one setup makes them. -/
def instantiateAll (x : FixtureGeometryTemplates F T) (extractedAssetCount : Nat)
    (calls : List Instantiation) : Option (FixtureGeometryTemplates F T × Nat) :=
  calls.foldlM (fun state call => do
    let out ← instantiate libraries content fuel state.1 call state.2
    return (out.1, out.2.2)) (x, extractedAssetCount)

end FixtureGeometryTemplates

end

/-! ### What the names of the fixture do to the nodes -/

section

variable {fixtureNodeId parentId : String}

theorem withPhotometry_bindNode {libraries : Libraries F T} {wavelengths : List (String × F)}
    {geometry : XMLElement} {node : GeometryNode F T}
    : withPhotometry libraries wavelengths geometry (bindNode fixtureNodeId parentId node)
        = bindNode fixtureNodeId parentId (withPhotometry libraries wavelengths geometry node) := by
  unfold withPhotometry
  split
  . rfl
  . rfl

theorem withModelFile_bindNode {cache : ZipAssetCache} {detail : GdtfModelDetail} {file : String}
    {node : GeometryNode F T}
    : withModelFile cache detail file (bindNode fixtureNodeId parentId node)
        = Prod.map id (bindNode fixtureNodeId parentId) (withModelFile cache detail file node) := by
  unfold withModelFile
  split
  . rfl
  . rfl

theorem withModel_bindNode [LT F] [DecidableLT F] {visuals : List (String × GdtfModelVisual F)}
    {cache : ZipAssetCache} {detail : GdtfModelDetail} {modelName : Option String}
    {node : GeometryNode F T}
    : withModel visuals cache detail modelName (bindNode fixtureNodeId parentId node)
        = Prod.map id (bindNode fixtureNodeId parentId)
          (withModel visuals cache detail modelName node) := by
  unfold withModel
  split
  . rfl
  . split
    . rfl
    . rw [withModelFile_bindNode]
      rfl

end

section

variable {request : FixtureBuildRequest} {parentId : String}

/-- The node of a request before the photometry and the model are read. -/
def bareNode (request : FixtureBuildRequest) (fixtureType geometry : XMLElement)
    (localCounter : Nat) (geometryParentId : String) (overrideModel : Option String)
    (parentIsLens : Bool) (geometryPath : String) (localTransform : T) : GeometryNode F T :=
  { toSceneNode := makeGeometryNode request.toGdtfBuildRequest fixtureType geometry localCounter
      geometryParentId overrideModel parentIsLens geometryPath
    localTransform }

theorem bareNode_eq_bindNode {fixtureType geometry : XMLElement} {localCounter : Nat}
    {geometryParentId : String} {overrideModel : Option String} {parentIsLens : Bool}
    {geometryPath : String} {localTransform : T}
    : (bareNode request fixtureType geometry localCounter
        (boundParentId request.fixtureNodeId parentId geometryParentId) overrideModel parentIsLens
        geometryPath localTransform : GeometryNode F T)
        = bindNode request.fixtureNodeId parentId (bareNode request.definition fixtureType geometry
          localCounter geometryParentId overrideModel parentIsLens geometryPath localTransform) := by
  simp only [bareNode, bindNode, makeGeometryNode, FixtureBuildRequest.definition,
    String.empty_append, String.append_assoc]

end

def bindState (fixtureNodeId parentId : String) (state : ExpansionState F T)
    : ExpansionState F T :=
  { state with nodes := state.nodes.map (bindNode fixtureNodeId parentId) }

section

variable [LT F] [DecidableLT F]

namespace GeometryExpansion

variable {x : GeometryExpansion F T}

/-- The expansion that a template is made by. -/
def template (x : GeometryExpansion F T) : GeometryExpansion F T :=
  { x with request := x.request.definition }

theorem makeNode_eq_bindNode {parentId : String} {geometry : XMLElement}
    {state : ExpansionState F T} {geometryParentId : String} {matrix : Matrix F}
    {overrideModel : Option String} {parentIsLens : Bool} {geometryPath : String}
    : x.makeNode geometry (bindState x.request.fixtureNodeId parentId state)
        (boundParentId x.request.fixtureNodeId parentId geometryParentId) matrix overrideModel
        parentIsLens geometryPath
        = Prod.map id (bindNode x.request.fixtureNodeId parentId)
          (x.template.makeNode geometry state geometryParentId matrix overrideModel parentIsLens
            geometryPath) := by
  have hbare := @bareNode_eq_bindNode F T _ x.request parentId x.fixtureType geometry
    state.nodes.length geometryParentId overrideModel parentIsLens geometryPath
    (x.libraries.toGodotTransform matrix)
  simp only [bareNode] at hbare
  simp only [makeNode, bindState, List.length_map, hbare, withPhotometry_bindNode,
    withModel_bindNode]
  rfl

-- A node of a template has a text for an id, so that its children do not look like roots.
theorem boundParentId_makeNode {fixtureNodeId parentId : String} {geometry : XMLElement}
    {state : ExpansionState F T} {geometryParentId : String} {matrix : Matrix F}
    {overrideModel : Option String} {parentIsLens : Bool} {geometryPath : String}
    : boundParentId fixtureNodeId parentId (x.makeNode geometry state geometryParentId matrix
        overrideModel parentIsLens geometryPath).2.nodeId
        = fixtureNodeId ++ (x.makeNode geometry state geometryParentId matrix overrideModel
          parentIsLens geometryPath).2.nodeId := by
  rw [boundParentId, if_neg]
  rw [makeNode_toSceneNode]
  intro hempty
  have hlength := congrArg String.length hempty
  simp [makeGeometryNode] at hlength

variable [Add F] [Mul F]

theorem appendGeometry_eq_bindState {fuel : Nat} {parentId : String} {geometry : XMLElement}
    {state : ExpansionState F T} {geometryParentId : String} {world world' : Matrix F}
    {overrideModel : Option String} {prependLocal : Option (Matrix F)} {parentIsLens : Bool}
    {path : String}
    : x.appendGeometry fuel (bindState x.request.fixtureNodeId parentId state) geometry
        (boundParentId x.request.fixtureNodeId parentId geometryParentId) world overrideModel
        prependLocal parentIsLens path
        = (x.template.appendGeometry fuel state geometry geometryParentId world' overrideModel
          prependLocal parentIsLens path).map (bindState x.request.fixtureNodeId parentId) := by
  induction fuel generalizing geometry state geometryParentId world world' overrideModel
    prependLocal parentIsLens path with
  | zero => rfl
  | succ fuel ih =>
    have hgeometries : x.template.geometries = x.geometries := rfl
    have hmatrix : x.template.localMatrix = x.localMatrix := rfl
    rw [appendGeometry, appendGeometry, hgeometries, hmatrix]
    split
    next htag =>
      cases (patchAttribute geometry "Geometry" "geometry").bind (x.geometries.lookup ·) with
      | none => rfl
      | some referenced => exact ih
    next htag =>
      dsimp only
      rw [makeNode_eq_bindNode]
      have hparent := @boundParentId_makeNode F T _ _ _ x.template x.request.fixtureNodeId parentId
        geometry state geometryParentId (x.localMatrix geometry prependLocal) overrideModel
        parentIsLens (appendGeometryPath path (safeName geometry "geometry"))
      generalize x.template.makeNode geometry state geometryParentId
        (x.localMatrix geometry prependLocal) overrideModel parentIsLens _ = made at hparent ⊢
      have hstate : { nodes := (bindState x.request.fixtureNodeId parentId state).nodes
            ++ [bindNode x.request.fixtureNodeId parentId made.2], cache := made.1 }
          = bindState x.request.fixtureNodeId parentId
            { nodes := state.nodes ++ [made.2], cache := made.1 } := by
        simp [bindState]
      rw [Prod.map_fst, Prod.map_snd, id, hstate]
      apply OptionFold.foldlM_map
      intro state child
      split
      next hsupported =>
        have hnodeId : (bindNode x.request.fixtureNodeId parentId made.2).nodeId
            = boundParentId x.request.fixtureNodeId parentId made.2.nodeId := hparent.symm
        rw [hnodeId]
        exact ih
      next hsupported => rfl

section

variable {libraries : Libraries F T} {fuel : Nat} {content : ArchiveContent}
  {request : FixtureBuildRequest} {parentId : String} {world world' : Matrix F}

theorem expandDocument_eq_bindResult {document : XMLDocument} {cache : ZipAssetCache}
    : expandDocument libraries fuel document cache request parentId world
        = (expandDocument libraries fuel document cache request.definition "" world').map
          (Prod.map (bindResult request.fixtureNodeId parentId) id) := by
  have hmode : request.definition.gdtfMode = request.gdtfMode := rfl
  rw [expandDocument, expandDocument, hmode]
  cases documentFixtureType document.elements with
  | none => rfl
  | some fixtureType =>
    dsimp only
    generalize rootGeometryName request.gdtfMode _ (dmxModesOf fixtureType) = found
    cases found.1 with
    | false => rfl
    | true =>
      cases firstNamed fixtureType.children "Geometries" with
      | none => rfl
      | some geometries =>
        dsimp only
        generalize geometries.children.find? _ = rootGeometry
        cases rootGeometry with
        | none => rfl
        | some rootGeometry =>
          have hwalk := @appendGeometry_eq_bindState F T _ _ _
            { libraries, document, request, fixtureType
              geometries := geometryByName geometries
              visuals := modelVisualByName libraries fixtureType
              wavelengths := emitterWavelengthByName libraries fixtureType }
            _ _ fuel parentId rootGeometry { cache } "" world world' none none false ""
          simp only [bindState, List.map_nil, boundParentId, if_true, template] at hwalk
          simp only [Bool.true_eq_false, if_false, hwalk, Option.bind_eq_bind, Option.map_bind,
            Option.bind_map]
          rfl

theorem expandArchive_eq_bindResult
    : expandArchive libraries fuel content request parentId world
        = (expandArchive libraries fuel content request.definition "" world').map
          (Prod.map (bindResult request.fixtureNodeId parentId) id) := by
  unfold expandArchive
  dsimp only
  generalize (ZipAssetCache.ofArchive content.archive content.cacheDir).ensureArchiveFileExtracted
    "description.xml" = description
  split
  . rfl
  . split
    . rfl
    . split
      . rfl
      . exact expandDocument_eq_bindResult

theorem buildFixtureGeometryNodes_fst {count : Nat}
    : (buildFixtureGeometryNodes libraries fuel content request parentId world count).map Prod.fst
        = (expandArchive libraries fuel content request parentId world).map Prod.fst := by
  rw [buildFixtureGeometryNodes, Option.map_map]
  rfl

theorem buildFixtureGeometryNodes_eq_bindResult {count count' : Nat}
    : (buildFixtureGeometryNodes libraries fuel content request parentId world count).map Prod.fst
        = ((buildFixtureGeometryNodes libraries fuel content request.definition "" world'
          count').map Prod.fst).map (bindResult request.fixtureNodeId parentId) := by
  rw [buildFixtureGeometryNodes_fst, buildFixtureGeometryNodes_fst,
    @expandArchive_eq_bindResult F T _ _ _ _ _ libraries fuel content request parentId world world',
    Option.map_map, Option.map_map]
  rfl

end

end GeometryExpansion

/-! ### The templates of a setup -/

namespace FixtureGeometryTemplates

section

variable [Add F] [Mul F] {libraries : Libraries F T}
  {content : String → Int → Nat → ArchiveContent} {fuel : Nat} {x : FixtureGeometryTemplates F T}

theorem definition_eq_of_key {call call' : Instantiation} (h : call.key = call'.key)
    : call.request.definition = call'.request.definition ∧ call.revision = call'.revision
        ∧ call.size = call'.size := by
  simp only [Instantiation.key, TemplateKey.mk.injEq] at h
  obtain ⟨hpath, hmode, hrevision, hsize, hdetail⟩ := h
  refine ⟨?_, hrevision, hsize⟩
  rw [FixtureBuildRequest.definition, FixtureBuildRequest.definition, hpath, hmode, hdetail]

/-- What the expansion of the definition of a call answers. -/
def definitionOf (libraries : Libraries F T) (content : String → Int → Nat → ArchiveContent)
    (fuel : Nat) (call : Instantiation) : Option (GeometryBuildResult F T) :=
  (GeometryExpansion.buildFixtureGeometryNodes libraries fuel
    (content call.request.gdtfArchivePath call.revision call.size) call.request.definition ""
    MatrixUtils.identity 0).map Prod.fst

/-- A stored template is what the expansion answers for every call with its key. -/
def Valid (libraries : Libraries F T) (content : String → Int → Nat → ArchiveContent) (fuel : Nat)
    (x : FixtureGeometryTemplates F T) : Prop :=
  ∀ call template, x.templates.lookup call.key = some template →
    definitionOf libraries content fuel call = some template

theorem valid_empty : Valid libraries content fuel ({} : FixtureGeometryTemplates F T) := by
  intro call template h
  cases h

theorem definitionOf_congr {call call' : Instantiation} (h : call.key = call'.key)
    : definitionOf libraries content fuel call = definitionOf libraries content fuel call' := by
  obtain ⟨hdefinition, hrevision, hsize⟩ := definition_eq_of_key h
  have hpath : call.request.gdtfArchivePath = call'.request.gdtfArchivePath :=
    congrArg TemplateKey.gdtfArchivePath h
  rw [definitionOf, definitionOf, hdefinition, hrevision, hsize, hpath]

theorem definitionOf_eq {call : Instantiation} {count : Nat}
    : (GeometryExpansion.buildFixtureGeometryNodes libraries fuel
        (content call.request.gdtfArchivePath call.revision call.size) call.request.definition ""
        MatrixUtils.identity count).map Prod.fst = definitionOf libraries content fuel call := by
  rw [definitionOf, GeometryExpansion.buildFixtureGeometryNodes_fst,
    GeometryExpansion.buildFixtureGeometryNodes_fst]

-- One call answers the bound definition and leaves the templates valid.
theorem Valid.instantiate (hx : Valid libraries content fuel x) (call : Instantiation)
    (count : Nat)
    : (x.instantiate libraries content fuel call count).map (fun out => out.2.1)
        = (definitionOf libraries content fuel call).map
          (bindResult call.request.fixtureNodeId call.parentId) ∧
      ∀ out, x.instantiate libraries content fuel call count = some out →
        Valid libraries content fuel out.1 := by
  rw [FixtureGeometryTemplates.instantiate]
  split
  next template hfound =>
    constructor
    . rw [hx call template hfound]
      rfl
    . intro out hout
      cases hout
      exact hx
  next hmissing =>
    have hbuilt := @definitionOf_eq F T _ _ _ _ _ libraries content fuel call count
    cases hexpanded : GeometryExpansion.buildFixtureGeometryNodes libraries fuel
        (content call.request.gdtfArchivePath call.revision call.size) call.request.definition ""
        MatrixUtils.identity count with
    | none =>
      rw [hexpanded] at hbuilt
      rw [← hbuilt]
      simp
    | some built =>
      rw [hexpanded] at hbuilt
      rw [← hbuilt]
      constructor
      . rfl
      . intro out hout
        cases hout
        intro call' template hlookup
        rw [List.lookup_cons] at hlookup
        split at hlookup
        next hkey =>
          cases hlookup
          rw [definitionOf_congr (eq_of_beq hkey)]
          exact hbuilt.symm
        next => exact hx call' template hlookup

theorem Valid.instantiateAll (hx : Valid libraries content fuel x) {count : Nat}
    {calls : List Instantiation} {after : FixtureGeometryTemplates F T × Nat}
    (h : x.instantiateAll libraries content fuel count calls = some after)
    : Valid libraries content fuel after.1 := by
  apply OptionFold.invariant (I := fun state => Valid libraries content fuel state.1) hx _ h
  intro state next hstate call _ hnext
  obtain ⟨out, hout, hnext⟩ := Option.bind_eq_some_iff.mp hnext
  cases hnext
  exact (hstate.instantiate call state.2).2 out hout

theorem instantiate_refines_build (libraries : Libraries F T)
    (content : String → Int → Nat → ArchiveContent) (fuel start : Nat)
    (earlier : List Instantiation) (x : FixtureGeometryTemplates F T) (count : Nat)
    (hearlier : FixtureGeometryTemplates.instantiateAll libraries content fuel {} start earlier
      = some (x, count))
    (call : Instantiation) (world : Matrix F) (count' : Nat)
    : (x.instantiate libraries content fuel call count).map (fun out => out.2.1)
        = (GeometryExpansion.buildFixtureGeometryNodes libraries fuel
          (content call.request.gdtfArchivePath call.revision call.size) call.request
          call.parentId world count').map Prod.fst ∧
      ∀ out, x.instantiate libraries content fuel call count = some out →
        (out.2.1.nodes.map (fun node => node.nodeId)).Nodup ∧
        ∀ before node after, out.2.1.nodes = before ++ node :: after →
          node.parentId = call.parentId ∨
            ∃ earlier ∈ before, earlier.nodeId = node.parentId := by
  have hx : Valid libraries content fuel x := valid_empty.instantiateAll hearlier
  have heq : (x.instantiate libraries content fuel call count).map (fun out => out.2.1)
      = (GeometryExpansion.buildFixtureGeometryNodes libraries fuel
        (content call.request.gdtfArchivePath call.revision call.size) call.request
        call.parentId world count').map Prod.fst := by
    rw [(hx.instantiate call count).1, definitionOf]
    exact GeometryExpansion.buildFixtureGeometryNodes_eq_bindResult.symm
  refine ⟨heq, ?_⟩
  intro out hout
  rw [hout] at heq
  obtain ⟨built, hbuilt, hresult⟩ := Option.map_eq_some_iff.mp heq.symm
  have hplaced := GeometryExpansion.buildFixtureGeometryNodes_placed hbuilt
  rw [hresult] at hplaced
  exact ⟨hplaced.nodup, fun before node after hnodes => hplaced.parent hnodes⟩

end

/-- A base that holds two references to one module. -/
def twoCellDocument : XMLDocument where
  elements :=
    let cell (handle : Nat) (name : String) := XMLElement.node handle "GeometryReference"
      [("Name", name), ("Geometry", "Module")] []
    let base := XMLElement.node 4 "Geometry" [("Name", "Base")] [cell 5 "Left", cell 6 "Right"]
    let cells := XMLElement.node 7 "Geometry" [("Name", "Module")] []
    [.node 0 "GDTF" [] [.node 1 "FixtureType" [("Name", "Bar")]
      [.node 2 "DMXModes" [] [.node 3 "DMXMode" [("Name", "Full"), ("Geometry", "Base")] []],
       .node 8 "Geometries" [] [base, cells]]]]
  text _ := none

def twoCellLibraries : Libraries Float32 Unit where
  parse _ := some twoCellDocument
  strtof _ := none
  floats _ := []
  toGodotTransform _ := ()

def twoCellContent (_ : String) (_ : Int) (_ : Nat) : ArchiveContent where
  archive := { isOpen := true, entries := [{ name := "description.xml", data := some [] }] }
  cacheDir := "session/bar"

def twoCellCall (fixtureNodeId : String) : Instantiation where
  request :=
    { gdtfArchivePath := "bar.gdtf", gdtfMode := "Full", fixtureNodeId, fixtureName := "Bar" }
  parentId := fixtureNodeId
  revision := 0
  size := 1

theorem instantiate_refines_build_twoCells
    : ∃ x count, FixtureGeometryTemplates.instantiateAll twoCellLibraries twoCellContent 3 {} 0
        [twoCellCall "first"] = some (x, count) ∧
      (x.instantiate twoCellLibraries twoCellContent 3 (twoCellCall "second") count).map
        (fun out => out.2.1.nodes.map (fun node => (node.nodeId, node.parentId)))
        = some [("second/Base#0", "second"), ("second/Module#1", "second/Base#0"),
          ("second/Module#2", "second/Base#0")] := by
  have hsome : (FixtureGeometryTemplates.instantiateAll twoCellLibraries twoCellContent 3 {} 0
      [twoCellCall "first"]).isSome = true := by
    decide +kernel
  obtain ⟨state, hstate⟩ := Option.isSome_iff_exists.mp hsome
  have heq := (instantiate_refines_build twoCellLibraries twoCellContent 3 0 _ state.1 state.2
    hstate (twoCellCall "second") MatrixUtils.identity 0).1
  refine ⟨state.1, state.2, hstate, ?_⟩
  have hids := congrArg (Option.map (fun result =>
    result.nodes.map (fun node => (node.nodeId, node.parentId)))) heq
  rw [Option.map_map, Option.map_map] at hids
  refine Eq.trans hids ?_
  decide +kernel

end FixtureGeometryTemplates

end

end

end Peraviz.Gdtf
