import Peraviz.Chain.Basic
import Peraviz.Checked.OptionFold
import Peraviz.Gdtf.GeometryWalk

/-!
This module contains the termination of the geometry expansion of the scene importer. The walk
follows children and references and keeps no record of where it came from, so it ends on the
descriptions without a cycle and on no others.
-/

namespace Peraviz.Gdtf

open Peraviz.Runtime

/-- The walk goes on with `next` after `geometry`. -/
def Leads (table : List (String × XMLElement)) (geometry next : XMLElement) : Prop :=
  if lowerAscii geometry.name = "geometryreference" then
    (patchAttribute geometry "Geometry" "geometry").bind (table.lookup ·) = some next
  else
    next ∈ geometry.children ∧ isSupportedGeometryTag next.name = true

/-- The geometries that references find and the geometry of the selected mode, where the importer
gets as far as to expand it. -/
def selectedGeometry (document : List XMLElement) (gdtfMode : String)
    : Option (List (String × XMLElement) × XMLElement) := do
  let fixtureType ← documentFixtureType document
  let (selectedModeFound, rootName) :=
    rootGeometryName gdtfMode (gdtfMode = "") (dmxModesOf fixtureType)
  if selectedModeFound = false then none
  else
    let geometries ← firstNamed fixtureType.children "Geometries"
    let rootGeometry ← geometries.children.find? (fun geometry =>
      rootName = "" ∨ safeName geometry "geometry" = rootName)
    return (geometryByName geometries, rootGeometry)

theorem leads_of_reference {table : List (String × XMLElement)} {geometry next : XMLElement}
    (htag : lowerAscii geometry.name = "geometryreference")
    : Leads table geometry next ↔
        (patchAttribute geometry "Geometry" "geometry").bind (table.lookup ·) = some next := by
  rw [Leads, if_pos htag]

theorem leads_of_geometry {table : List (String × XMLElement)} {geometry next : XMLElement}
    (htag : lowerAscii geometry.name ≠ "geometryreference")
    : Leads table geometry next ↔
        next ∈ geometry.children ∧ isSupportedGeometryTag next.name = true := by
  rw [Leads, if_neg htag]

section

variable (request : GdtfBuildRequest) (fixtureType : XMLElement)
  (table : List (String × XMLElement))

-- The recursion has the depth of the relation, whatever it carries along.
theorem appendGeometry_isSome_iff {fuel : Nat} {nodes : List SceneNode} {geometry : XMLElement}
    {parentId : String} {overrideModel : Option String} {parentIsLens : Bool} {path : String}
    : (appendGeometry request fixtureType table fuel nodes geometry parentId overrideModel
        parentIsLens path).isSome ↔ Chain.Descends (Leads table) fuel geometry := by
  induction fuel generalizing nodes geometry parentId overrideModel parentIsLens path with
  | zero => simp [appendGeometry, Chain.Descends]
  | succ fuel ih =>
    rw [appendGeometry, Chain.Descends]
    split
    next htag =>
      simp only [leads_of_reference htag]
      split
      next hnone => simp [hnone]
      next referenced hfound => simp [hfound, ih]
    next htag =>
      simp only [leads_of_geometry htag]
      rw [OptionFold.isSome_iff (p := fun child =>
        isSupportedGeometryTag child.name = true → Chain.Descends (Leads table) fuel child)]
      . simp
      . intro nodes child
        split
        next hsupported => simp [hsupported, ih]
        next hsupported => simp [hsupported]

end

theorem buildFixtureGeometryNodes_isSome_iff {fuel : Nat} {document : List XMLElement}
    {request : GdtfBuildRequest} {parentId : String}
    : (buildFixtureGeometryNodes fuel document request parentId).isSome ↔
        ∀ selected, selectedGeometry document request.gdtfMode = some selected →
          Chain.Descends (Leads selected.1) fuel selected.2 := by
  rw [buildFixtureGeometryNodes, selectedGeometry]
  cases documentFixtureType document with
  | none => simp
  | some fixtureType =>
    simp only [Option.pure_def, Option.bind_eq_bind, Option.bind_some]
    generalize rootGeometryName request.gdtfMode _ (dmxModesOf fixtureType) = found
    cases found.1 with
    | false => simp
    | true =>
      cases firstNamed fixtureType.children "Geometries" with
      | none => simp
      | some geometries =>
        simp only [Option.bind_some]
        generalize geometries.children.find? _ = rootGeometry
        cases rootGeometry with
        | none => simp
        | some rootGeometry =>
          have hdepth := @appendGeometry_isSome_iff request fixtureType (geometryByName geometries)
            fuel [] rootGeometry parentId none false ""
          cases hexpanded : appendGeometry request fixtureType (geometryByName geometries) fuel []
              rootGeometry parentId none false "" with
          | none => simp [hexpanded, ← hdepth]
          | some nodes => simp [hexpanded, ← hdepth]

theorem elementsOf_step {e : XMLElement}
    : ∀ d ∈ elementsOf e, ∀ child ∈ d.children, child ∈ elementsOf e := by
  apply elementsOf.induct
    (fun e => ∀ d ∈ elementsOf e, ∀ child ∈ d.children, child ∈ elementsOf e)
    (fun es => ∀ d ∈ elementsOfAll es, ∀ child ∈ d.children, child ∈ elementsOfAll es)
  case case1 =>
    intro handle name attributes children ih d hd child hchild
    rw [elementsOf, List.mem_cons] at hd ⊢
    right
    cases hd with
    | inl heq =>
      rw [heq] at hchild
      exact mem_elementsOfAll.mpr ⟨child, hchild, mem_elementsOf_self⟩
    | inr hd => exact ih d hd child hchild
  case case2 => simp [elementsOfAll]
  case case3 =>
    intro e es ih ihrest d hd child hchild
    rw [elementsOfAll, List.mem_append] at hd ⊢
    exact hd.imp (fun hd => ih d hd child hchild) (fun hd => ihrest d hd child hchild)

/-- The elements that a walk from `root` can come to. -/
def walkedElements (table : List (String × XMLElement)) (root : XMLElement) : List XMLElement :=
  elementsOfAll (root :: table.map Prod.snd)

theorem walkedElements_step {table : List (String × XMLElement)} {root geometry next : XMLElement}
    (hgeometry : geometry ∈ walkedElements table root) (hnext : Leads table geometry next)
    : next ∈ walkedElements table root := by
  by_cases htag : lowerAscii geometry.name = "geometryreference"
  . rw [leads_of_reference htag] at hnext
    obtain ⟨name, _, hlookup⟩ := Option.bind_eq_some_iff.mp hnext
    apply mem_elementsOfAll.mpr
    refine ⟨next, List.mem_cons_of_mem root ?_, mem_elementsOf_self⟩
    exact List.mem_map_of_mem (mem_of_lookup_eq_some hlookup)
  . rw [leads_of_geometry htag] at hnext
    obtain ⟨top, htop, hgeometry⟩ := mem_elementsOfAll.mp hgeometry
    exact mem_elementsOfAll.mpr ⟨top, htop, elementsOf_step geometry hgeometry next hnext.1⟩

theorem walkedElements_of_reaches {table : List (String × XMLElement)} {root geometry : XMLElement}
    (h : Relation.ReflTransGen (Leads table) root geometry)
    : geometry ∈ walkedElements table root := by
  induction h with
  | refl => exact mem_elementsOfAll.mpr ⟨root, List.mem_cons_self, mem_elementsOf_self⟩
  | tail _ hnext ih => exact walkedElements_step ih hnext

theorem buildFixtureGeometryNodes_terminates_iff (document : List XMLElement)
    (request : GdtfBuildRequest) (parentId : String)
    : (∃ fuel, (buildFixtureGeometryNodes fuel document request parentId).isSome) ↔
        ∀ selected, selectedGeometry document request.gdtfMode = some selected →
          ∀ geometry, Relation.ReflTransGen (Leads selected.1) selected.2 geometry →
            ¬ Relation.TransGen (Leads selected.1) geometry geometry := by
  simp only [buildFixtureGeometryNodes_isSome_iff]
  cases selectedGeometry document request.gdtfMode with
  | none => simp
  | some selected =>
    simp only [Option.some.injEq, forall_eq']
    exact Chain.exists_descends_iff (fun geometry => walkedElements_of_reaches)

def selfReference : XMLElement :=
  .node 6 "GeometryReference" [("Name", "Again"), ("Geometry", "Base")] []

def selfReferenceBase : XMLElement :=
  .node 5 "Geometry" [("Name", "Base")] [selfReference]

/-- A mode whose geometry holds a reference to this geometry. -/
def selfReferenceDocument : List XMLElement :=
  let mode := XMLElement.node 3 "DMXMode" [("Name", "Basic"), ("Geometry", "Base")] []
  let geometries := XMLElement.node 4 "Geometries" [] [selfReferenceBase]
  [.node 0 "GDTF" [] [.node 1 "FixtureType" [("Name", "Loop")] [.node 2 "DMXModes" [] [mode],
    geometries]]]

theorem selfReferenceDocument_not_expanded
    : ¬ ∃ fuel, (buildFixtureGeometryNodes fuel selfReferenceDocument
        ⟨"loop.gdtf", "Basic", "fixture"⟩ "layer").isSome := by
  intro hexpanded
  obtain ⟨fuel, hexpanded⟩ := hexpanded
  have hselected : selectedGeometry selfReferenceDocument "Basic"
      = some ([("Base", selfReferenceBase)], selfReferenceBase) := by
    rfl
  have hdescends := buildFixtureGeometryNodes_isSome_iff.mp hexpanded _ hselected
  have hchild : Leads [("Base", selfReferenceBase)] selfReferenceBase selfReference := by
    apply (leads_of_geometry (by decide +kernel)).mpr
    exact ⟨List.mem_singleton_self _, by decide +kernel⟩
  have hback : Leads [("Base", selfReferenceBase)] selfReference selfReferenceBase := by
    apply (leads_of_reference (by decide +kernel)).mpr
    rfl
  exact hdescends.not_transGen (.tail (.single hchild) hback)

end Peraviz.Gdtf
