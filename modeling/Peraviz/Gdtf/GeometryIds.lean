import Peraviz.Checked.OptionFold
import Peraviz.Gdtf.GeometryNodes
import Peraviz.KeyedIndex.Basic

/-!
This module contains the ids and the parents of the geometry nodes of a fixture, and the relation of
an expansion to the walk that makes the nodes without their transforms and models.
-/

namespace Peraviz.Gdtf

section

variable {F T : Type} [OfScientific F]

/-- Nodes in the order in which an expansion makes them: the ids are numbered through, and a node
lies under the parent of all or under an earlier node. -/
inductive Placed (fixtureNodeId parentId : String) : List (GeometryNode F T) → Prop
  | nil : Placed fixtureNodeId parentId []
  | push {nodes : List (GeometryNode F T)} {node : GeometryNode F T}
      (h : Placed fixtureNodeId parentId nodes)
      (hid : node.nodeId = fixtureNodeId ++ "/" ++ node.name ++ "#" ++ toString nodes.length)
      (hparent : node.parentId = parentId ∨ ∃ earlier ∈ nodes, earlier.nodeId = node.parentId)
      : Placed fixtureNodeId parentId (nodes ++ [node])

namespace Placed

variable {fixtureNodeId parentId : String} {nodes : List (GeometryNode F T)}

theorem numbered (h : Placed fixtureNodeId parentId nodes) {node : GeometryNode F T}
    (hnode : node ∈ nodes)
    : ∃ text k, k < nodes.length ∧ node.nodeId = text ++ "#" ++ toString k := by
  induction h with
  | nil => cases hnode
  | @push nodes last _ hid _ ih =>
    rw [List.length_append]
    cases List.mem_append.mp hnode with
    | inl hnode =>
      obtain ⟨text, k, hk, heq⟩ := ih hnode
      exact ⟨text, k, Nat.lt_add_right _ hk, heq⟩
    | inr hlast =>
      rw [List.mem_singleton.mp hlast]
      exact ⟨_, nodes.length, Nat.lt_succ_self _, hid⟩

theorem nodup (h : Placed fixtureNodeId parentId nodes)
    : (nodes.map (fun node => node.nodeId)).Nodup := by
  induction h with
  | nil => exact List.nodup_nil
  | @push nodes last hplaced hid _ ih =>
    rw [List.map_append, List.map_singleton, List.nodup_append]
    refine ⟨ih, List.nodup_singleton _, ?_⟩
    intro id hmem id' hlast heq
    obtain ⟨node, hnode, hnodeId⟩ := List.mem_map.mp hmem
    obtain ⟨text, k, hk, hnumber⟩ := hplaced.numbered hnode
    rw [List.mem_singleton.mp hlast, ← hnodeId, hnumber, hid] at heq
    have hinj := (@KeyedIndex.numberedText_inj '#' _ _ (by decide) _ _).mp heq
    omega

theorem parent (h : Placed fixtureNodeId parentId nodes) {before after : List (GeometryNode F T)}
    {node : GeometryNode F T} (hnodes : nodes = before ++ node :: after)
    : node.parentId = parentId ∨ ∃ earlier ∈ before, earlier.nodeId = node.parentId := by
  induction h generalizing after with
  | nil => simp at hnodes
  | @push nodes last _ _ hparent ih =>
    cases List.eq_nil_or_concat after with
    | inl hafter =>
      rw [hafter] at hnodes
      obtain ⟨hbefore, hlast⟩ := List.append_inj' hnodes rfl
      cases hlast
      rw [← hbefore]
      exact hparent
    | inr hafter =>
      obtain ⟨init, last', hafter⟩ := hafter
      rw [hafter, List.concat_eq_append, ← List.cons_append, ← List.append_assoc] at hnodes
      exact ih (List.append_inj' hnodes rfl).1

end Placed

theorem withPhotometry_toSceneNode {libraries : Libraries F T} {wavelengths : List (String × F)}
    {geometry : XMLElement} {node : GeometryNode F T}
    : (withPhotometry libraries wavelengths geometry node).toSceneNode = node.toSceneNode := by
  unfold withPhotometry
  split
  . rfl
  . rfl

theorem withModelFile_toSceneNode {cache : ZipAssetCache} {detail : GdtfModelDetail} {file : String}
    {node : GeometryNode F T}
    : (withModelFile cache detail file node).2.toSceneNode = node.toSceneNode := by
  unfold withModelFile
  split
  . rfl
  . rfl

variable [LT F] [DecidableLT F]

theorem withModel_toSceneNode {visuals : List (String × GdtfModelVisual F)}
    {cache : ZipAssetCache} {detail : GdtfModelDetail} {modelName : Option String}
    {node : GeometryNode F T}
    : (withModel visuals cache detail modelName node).2.toSceneNode = node.toSceneNode := by
  unfold withModel
  split
  . rfl
  . split
    . rfl
    . exact withModelFile_toSceneNode

namespace GeometryExpansion

variable {x : GeometryExpansion F T}

theorem makeNode_toSceneNode {geometry : XMLElement} {state : ExpansionState F T}
    {geometryParentId : String} {matrix : Matrix F} {overrideModel : Option String}
    {parentIsLens : Bool} {geometryPath : String}
    : (x.makeNode geometry state geometryParentId matrix overrideModel parentIsLens
        geometryPath).2.toSceneNode
        = makeGeometryNode x.request.toGdtfBuildRequest x.fixtureType geometry state.nodes.length
          geometryParentId overrideModel parentIsLens geometryPath :=
  withModel_toSceneNode.trans withPhotometry_toSceneNode

theorem makeNode_placed {parentId : String} {geometry : XMLElement} {state : ExpansionState F T}
    {geometryParentId : String} {matrix : Matrix F} {overrideModel : Option String}
    {parentIsLens : Bool} {geometryPath : String}
    (hplaced : Placed x.request.fixtureNodeId parentId state.nodes)
    (hparent : geometryParentId = parentId ∨
      ∃ earlier ∈ state.nodes, earlier.nodeId = geometryParentId)
    : Placed x.request.fixtureNodeId parentId (state.nodes ++ [(x.makeNode geometry state
        geometryParentId matrix overrideModel parentIsLens geometryPath).2]) := by
  apply hplaced.push
  . rw [makeNode_toSceneNode]
    rfl
  . rw [makeNode_toSceneNode]
    exact hparent

variable [Add F] [Mul F]

theorem appendGeometry_placed {fuel : Nat} {parentId : String} {geometry : XMLElement}
    {state after : ExpansionState F T} {geometryParentId : String} {world : Matrix F}
    {overrideModel : Option String} {prependLocal : Option (Matrix F)} {parentIsLens : Bool}
    {path : String} (hplaced : Placed x.request.fixtureNodeId parentId state.nodes)
    (hparent : geometryParentId = parentId ∨
      ∃ earlier ∈ state.nodes, earlier.nodeId = geometryParentId)
    (h : x.appendGeometry fuel state geometry geometryParentId world overrideModel prependLocal
      parentIsLens path = some after)
    : Placed x.request.fixtureNodeId parentId after.nodes ∧ state.nodes <+: after.nodes := by
  induction fuel generalizing geometry state after geometryParentId world overrideModel prependLocal
    parentIsLens path with
  | zero => cases h
  | succ fuel ih =>
    rw [appendGeometry] at h
    split at h
    next htag =>
      split at h
      next =>
        cases h
        exact ⟨hplaced, List.prefix_refl _⟩
      next => exact ih hplaced hparent h
    next htag =>
      have hpushed := @makeNode_placed F T _ _ _ x parentId geometry state geometryParentId
        (x.localMatrix geometry prependLocal) overrideModel parentIsLens
        (appendGeometryPath path (safeName geometry "geometry")) hplaced hparent
      dsimp only at h
      generalize x.makeNode geometry state geometryParentId _ overrideModel parentIsLens _ = made
        at h hpushed
      -- The new node stays, so that the nodes of its children find it.
      have hafter := OptionFold.invariant
        (I := fun next => Placed x.request.fixtureNodeId parentId next.nodes ∧
          state.nodes ++ [made.2] <+: next.nodes)
        ⟨hpushed, List.prefix_refl _⟩ ?_ h
      . exact ⟨hafter.1, (List.prefix_append _ _).trans hafter.2⟩
      . intro between next hbetween child _ hnext
        split at hnext
        next =>
          have hmade : made.2 ∈ between.nodes := hbetween.2.subset (by simp)
          obtain ⟨hplaced, hgrows⟩ := ih hbetween.1 (.inr ⟨made.2, hmade, rfl⟩) hnext
          exact ⟨hplaced, hbetween.2.trans hgrows⟩
        next =>
          cases hnext
          exact hbetween

theorem appendGeometry_toSceneNode {fuel : Nat} {geometry : XMLElement}
    {state : ExpansionState F T} {geometryParentId : String} {world : Matrix F}
    {overrideModel : Option String} {prependLocal : Option (Matrix F)} {parentIsLens : Bool}
    {path : String}
    : Gdtf.appendGeometry x.request.toGdtfBuildRequest x.fixtureType x.geometries fuel
        (state.nodes.map GeometryNode.toSceneNode) geometry geometryParentId overrideModel
        parentIsLens path
        = (x.appendGeometry fuel state geometry geometryParentId world overrideModel prependLocal
          parentIsLens path).map (fun after => after.nodes.map GeometryNode.toSceneNode) := by
  induction fuel generalizing geometry state geometryParentId world overrideModel prependLocal
    parentIsLens path with
  | zero => rfl
  | succ fuel ih =>
    rw [appendGeometry, Gdtf.appendGeometry]
    split
    next htag =>
      cases (patchAttribute geometry "Geometry" "geometry").bind (x.geometries.lookup ·) with
      | none => rfl
      | some referenced => exact ih
    next htag =>
      dsimp only
      have hnode := @makeNode_toSceneNode F T _ _ _ x geometry state geometryParentId
        (x.localMatrix geometry prependLocal) overrideModel parentIsLens
        (appendGeometryPath path (safeName geometry "geometry"))
      generalize x.makeNode geometry state geometryParentId (x.localMatrix geometry prependLocal)
        overrideModel parentIsLens _ = made at hnode ⊢
      rw [List.length_map, ← hnode]
      have hnodes : state.nodes.map GeometryNode.toSceneNode ++ [made.2.toSceneNode]
          = (state.nodes ++ [made.2]).map GeometryNode.toSceneNode := by
        simp
      rw [hnodes]
      apply @OptionFold.foldlM_map _ _ _ _ _
        (fun after : ExpansionState F T => after.nodes.map GeometryNode.toSceneNode) _ _
        { nodes := state.nodes ++ [made.2], cache := made.1 }
      intro between child
      split
      next => exact ih
      next => rfl

section

variable {libraries : Libraries F T} {fuel : Nat} {content : ArchiveContent}
  {request : FixtureBuildRequest} {parentId : String} {world : Matrix F}
  {out : GeometryBuildResult F T × Nat}

theorem expandDocument_placed {document : XMLDocument} {cache : ZipAssetCache}
    (h : expandDocument libraries fuel document cache request parentId world = some out)
    : Placed request.fixtureNodeId parentId out.1.nodes := by
  rw [expandDocument] at h
  dsimp only at h
  split at h
  next =>
    cases h
    exact .nil
  next fixtureType _ =>
    generalize rootGeometryName request.gdtfMode _ (dmxModesOf fixtureType) = found at h
    cases hfound : found.1 with
    | false =>
      rw [hfound] at h
      cases h
      exact .nil
    | true =>
      rw [hfound, if_neg (by decide)] at h
      split at h
      next =>
        cases h
        exact .nil
      next =>
        split at h
        next =>
          cases h
          exact .nil
        next =>
          obtain ⟨state, hstate, h⟩ := Option.bind_eq_some_iff.mp h
          cases h
          exact (appendGeometry_placed .nil (.inl rfl) hstate).1

-- The walk without transforms and models makes the same nodes, as far as it has their fields.
theorem expandDocument_toSceneNode {document : XMLDocument} {cache : ZipAssetCache}
    : Gdtf.buildFixtureGeometryNodes fuel document.elements request.toGdtfBuildRequest parentId
        = (expandDocument libraries fuel document cache request parentId world).map (fun out =>
          { nodes := out.1.nodes.map GeometryNode.toSceneNode, error := out.1.error }) := by
  rw [expandDocument, Gdtf.buildFixtureGeometryNodes]
  cases documentFixtureType document.elements with
  | none => rfl
  | some fixtureType =>
    dsimp only
    generalize rootGeometryName request.gdtfMode _ (dmxModesOf fixtureType) = found
    cases found.1 with
    | false => rfl
    | true =>
      cases firstNamed fixtureType.children "Geometries" with
      | none => rfl
      | some geometries =>
        dsimp only
        generalize geometries.children.find? _ = rootGeometry
        cases rootGeometry with
        | none => rfl
        | some rootGeometry =>
          have hwalk := @appendGeometry_toSceneNode F T _ _ _
            { libraries, document, request, fixtureType
              geometries := geometryByName geometries
              visuals := modelVisualByName libraries fixtureType
              wavelengths := emitterWavelengthByName libraries fixtureType }
            _ _ fuel rootGeometry { cache } parentId world none none false ""
          simp only [List.map_nil] at hwalk
          simp only [Bool.true_eq_false, if_false, hwalk, Option.bind_eq_bind, Option.map_bind,
            Option.bind_map]
          rfl

theorem buildFixtureGeometryNodes_placed {count : Nat}
    (h : buildFixtureGeometryNodes libraries fuel content request parentId world count = some out)
    : Placed request.fixtureNodeId parentId out.1.nodes := by
  obtain ⟨built, hbuilt, h⟩ := Option.map_eq_some_iff.mp h
  cases h
  unfold expandArchive at hbuilt
  dsimp only at hbuilt
  split at hbuilt
  next =>
    cases hbuilt
    exact .nil
  next =>
    split at hbuilt
    next =>
      cases hbuilt
      exact .nil
    next =>
      split at hbuilt
      next =>
        cases hbuilt
        exact .nil
      next =>
        have hplaced := expandDocument_placed hbuilt
        exact hplaced

end

end GeometryExpansion

end

end Peraviz.Gdtf
