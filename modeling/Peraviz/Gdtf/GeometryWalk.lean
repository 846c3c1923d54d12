import Peraviz.Gdtf.SceneBuilder

/-!
This module contains the relation between the two walks over the geometries of a description: the
one of the DMX routing and the one of the scene importer. The routes of a tree are a relation of
their own, which the routing computes and which the importer follows as far as it reads the tree.
-/

namespace Peraviz.Gdtf

open Peraviz.Runtime

def isNamed (e : XMLElement) : Bool :=
  match patchAttribute e "Name" "name" with
  | some name => trimAscii name ≠ ""
  | none => false

theorem patchAttribute_of_named {e : XMLElement} (h : isNamed e = true)
    : ∃ name, patchAttribute e "Name" "name" = some name ∧ trimAscii name ≠ "" := by
  rw [isNamed] at h
  split at h
  next name hname => exact ⟨name, hname, of_decide_eq_true h⟩
  next => contradiction

theorem isNamed_eq_true {e : XMLElement} {name : String}
    (hname : patchAttribute e "Name" "name" = some name) (htrim : trimAscii name ≠ "")
    : isNamed e = true := by
  rw [isNamed, hname]
  simp [htrim]

theorem ne_empty_of_trimAscii {text : String} (h : trimAscii text ≠ "") : text ≠ "" := by
  intro hempty
  rw [hempty] at h
  exact h (by decide)

mutual

def elementsOf : XMLElement → List XMLElement
  | .node handle name attributes children =>
    .node handle name attributes children :: elementsOfAll children

def elementsOfAll : List XMLElement → List XMLElement
  | [] => []
  | child :: children => elementsOf child ++ elementsOfAll children

end

mutual

/-- The elements that the importer reads of a geometry, the children of a GeometryReference are not
geometries. -/
def importedElements : XMLElement → List XMLElement
  | .node handle name attributes children =>
    .node handle name attributes children ::
      if lowerAscii name = "geometryreference" then [] else importedOfAll children

def importedOfAll : List XMLElement → List XMLElement
  | [] => []
  | child :: children =>
    (if isSupportedGeometryTag child.name then importedElements child else []) ++
      importedOfAll children

end

mutual

/-- The elements of a geometry that the importer leaves out by their tag, with all that is inside
of them. -/
def skippedElements : XMLElement → List XMLElement
  | .node _ name _ children =>
    if lowerAscii name = "geometryreference" then [] else skippedOfAll children

def skippedOfAll : List XMLElement → List XMLElement
  | [] => []
  | child :: children =>
    (if isSupportedGeometryTag child.name then skippedElements child else elementsOf child) ++
      skippedOfAll children

end

/-- The routes of a list of elements of the tree, children and targets of references included. -/
inductive Routes (roots : List (String × XMLElement))
    : List XMLElement → String → String → Option XMLElement → Nat → List DmxGeometryRoute → Prop
  | nil {parent context : String} {reference : Option XMLElement} {depth : Nat}
    : Routes roots [] parent context reference depth []
  | unnamed {node : XMLElement} {rest : List XMLElement} {parent context : String}
      {reference : Option XMLElement} {depth : Nat} {routes : List DmxGeometryRoute}
      (hunnamed : isNamed node = false)
      (hrest : Routes roots rest parent context reference depth routes)
    : Routes roots (node :: rest) parent context reference depth routes
  | reference {node found : XMLElement} {rest : List XMLElement} {name parent context : String}
      {reference : Option XMLElement} {depth : Nat} {inside routes : List DmxGeometryRoute}
      (hname : patchAttribute node "Name" "name" = some name) (hnamed : isNamed node = true)
      (htag : lowerAscii node.name = "geometryreference")
      (hfound : roots.lookup ((patchAttribute node "Geometry" "geometry").getD "") = some found)
      (hinside : Routes roots [found] (appendGeometryPath parent name)
        (appendGeometryPath parent name) (some node) (depth + 1) inside)
      (hrest : Routes roots rest parent context reference depth routes)
    : Routes roots (node :: rest) parent context reference depth (inside ++ routes)
  | geometry {node : XMLElement} {rest : List XMLElement} {name parent context : String}
      {reference : Option XMLElement} {depth : Nat} {inside routes : List DmxGeometryRoute}
      (hname : patchAttribute node "Name" "name" = some name) (hnamed : isNamed node = true)
      (htag : lowerAscii node.name ≠ "geometryreference")
      (hinside : Routes roots node.children (appendGeometryPath parent name) context reference
        depth inside)
      (hrest : Routes roots rest parent context reference depth routes)
    : Routes roots (node :: rest) parent context reference depth
        (⟨name, appendGeometryPath parent name, context, reference, depth⟩ :: inside ++ routes)

theorem Routes.append {roots : List (String × XMLElement)} {nodes rest : List XMLElement}
    {parent context : String} {reference : Option XMLElement} {depth : Nat}
    {inside routes : List DmxGeometryRoute}
    (h : Routes roots nodes parent context reference depth inside)
    (hrest : Routes roots rest parent context reference depth routes)
    : Routes roots (nodes ++ rest) parent context reference depth (inside ++ routes) := by
  induction h with
  | nil => exact hrest
  | unnamed hunnamed _ ih => exact .unnamed hunnamed (ih hrest)
  | reference hname hnamed htag hfound hinside _ _ ih =>
    rw [List.append_assoc]
    exact .reference hname hnamed htag hfound hinside (ih hrest)
  | geometry hname hnamed htag hinside _ _ ih =>
    rw [List.append_assoc]
    exact .geometry hname hnamed htag hinside (ih hrest)

/-- What the visitor has done when it stands in `t` after `s`: it found no issue and added
`routes`, whose paths are all new. -/
structure VisitState.Extends (s t : VisitState) (routes : List DmxGeometryRoute) : Prop where
  issue : s.issue = none
  routes_eq : t.routes = s.routes ++ routes
  paths_eq : t.paths = (routes.map DmxGeometryRoute.path).reverse ++ s.paths
  nodup : s.paths.Nodup → t.paths.Nodup

theorem VisitState.Extends.refl {s : VisitState} (h : s.issue = none) : s.Extends s [] :=
  ⟨h, by simp, by simp, id⟩

theorem VisitState.Extends.trans {s t u : VisitState} {inside routes : List DmxGeometryRoute}
    (h : s.Extends t inside) (hrest : t.Extends u routes) : s.Extends u (inside ++ routes) where
  issue := h.issue
  routes_eq := by rw [hrest.routes_eq, h.routes_eq, List.append_assoc]
  paths_eq := by rw [hrest.paths_eq, h.paths_eq]; simp
  nodup hs := hrest.nodup (h.nodup hs)

theorem extends_enter {s : VisitState} {route : DmxGeometryRoute}
    {definitions : List (String × XMLElement)} {path : String} (hissue : s.issue = none)
    (hpath : path ∉ s.paths) (hroute : route.path = path)
    : s.Extends { issue := s.issue, paths := path :: s.paths, definitions := definitions,
                  routes := s.routes ++ [route] } [route] where
  issue := hissue
  routes_eq := rfl
  paths_eq := by simp [hroute]
  nodup hs := List.nodup_cons.mpr ⟨hpath, hs⟩

def Handled (handles : List Nat) (e : XMLElement) : Prop :=
  ∀ d ∈ elementsOf e, d.handle ∈ handles

theorem Handled.self {handles : List Nat} {e : XMLElement} (h : Handled handles e)
    : e.handle ∈ handles := by
  apply h
  cases e
  rw [elementsOf]
  exact List.mem_cons_self

theorem mem_elementsOfAll {nodes : List XMLElement} {d : XMLElement}
    : d ∈ elementsOfAll nodes ↔ ∃ node ∈ nodes, d ∈ elementsOf node := by
  induction nodes with
  | nil => simp [elementsOfAll]
  | cons node nodes ih => simp [elementsOfAll, ih]

theorem elementsOf_child {e child d : XMLElement} (hchild : child ∈ e.children)
    (hd : d ∈ elementsOf child) : d ∈ elementsOf e := by
  cases e
  rw [elementsOf]
  exact List.mem_cons_of_mem _ (mem_elementsOfAll.mpr ⟨child, hchild, hd⟩)

theorem Handled.child {handles : List Nat} {e child : XMLElement} (h : Handled handles e)
    (hchild : child ∈ e.children) : Handled handles child :=
  fun d hd => h d (elementsOf_child hchild hd)

theorem visit_routes {roots : List (String × XMLElement)} {handles : List Nat}
    (hroots : ∀ entry ∈ roots, Handled handles entry.2) (stack : List Nat) (s : VisitState)
    (node : XMLElement) (parent context : String) (reference : Option XMLElement) (depth : Nat)
    : Handled handles node →
      (visit roots handles stack s node parent context reference depth).issue = none →
        ∃ routes, Routes roots [node] parent context reference depth routes ∧
          s.Extends (visit roots handles stack s node parent context reference depth) routes := by
  apply visit.induct roots handles
    (fun stack s node parent context reference depth => Handled handles node →
      (visit roots handles stack s node parent context reference depth).issue = none →
        ∃ routes, Routes roots [node] parent context reference depth routes ∧
          s.Extends (visit roots handles stack s node parent context reference depth) routes)
    (fun stack s nodes parent context reference depth => (∀ node ∈ nodes, Handled handles node) →
      (visitChildren roots handles stack s nodes parent context reference depth).issue = none →
        ∃ routes, Routes roots nodes parent context reference depth routes ∧
          s.Extends (visitChildren roots handles stack s nodes parent context reference depth)
            routes)
  case case1 =>
    intro stack s node parent context reference depth issue hissue _ hresult
    rw [visit, hissue] at hresult
    dsimp only at hresult
    rw [hissue] at hresult
    cases hresult
  case case2 =>
    intro stack s node parent context reference depth hname hissue _ _
    rw [visit, hissue, hname]
    exact ⟨[], .unnamed (by rw [isNamed, hname]) .nil, .refl hissue⟩
  case case3 =>
    intro stack s node parent context reference depth name hname hissue htrim _ _
    rw [visit, hissue, hname]
    dsimp only
    rw [if_pos htrim]
    exact ⟨[], .unnamed (by rw [isNamed, hname]; simp [htrim]) .nil, .refl hissue⟩
  case case4 =>
    intro stack s node parent context reference depth name hname hissue htrim hstack _ hresult
    rw [visit, hissue, hname] at hresult
    simp only [htrim, hstack, if_true, if_false] at hresult
    cases hresult
  case case5 =>
    intro stack s node parent context reference depth name hname hissue htrim hstack hhandle htag
      hfound _ hresult
    rw [visit, hissue, hname] at hresult
    simp only [htrim, hstack, hhandle, htag, hfound, if_true, if_false] at hresult
    cases hresult
  case case6 =>
    intro stack s node parent context reference depth name hname hissue htrim hstack hhandle path
      htag found hfound ih _ hresult
    have hvisit : visit roots handles stack s node parent context reference depth
        = visit roots handles (node.handle :: stack) s found path path (some node) (depth + 1) := by
      rw [visit, hissue, hname]
      simp only [htrim, hstack, hhandle, htag, hfound, if_true, if_false]
      rfl
    rw [hvisit] at hresult ⊢
    obtain ⟨inside, hinside, hextends⟩ := ih (hroots _ (mem_of_lookup_eq_some hfound)) hresult
    refine ⟨inside, ?_, hextends⟩
    rw [← List.append_nil inside]
    exact .reference hname (isNamed_eq_true hname htrim) htag hfound hinside .nil
  case case7 =>
    intro stack s node parent context reference depth name hname hissue htrim hstack hhandle path
      htag hpath _ hresult
    rw [visit, hissue, hname] at hresult
    simp only [htrim, hstack, hhandle, htag, hpath, path, if_true, if_false] at hresult
    cases hresult
  case case8 =>
    intro stack s node parent context reference depth name hname hissue htrim hstack hhandle path
      htag hpath s' known hknown hhandles _ hresult
    rw [visit, hissue, hname] at hresult
    simp only [htrim, hstack, hhandle, htag, if_true, if_false] at hresult
    simp only [path, s'] at hpath hknown
    simp only [hpath, hknown, if_false] at hresult
    rw [if_pos hhandles] at hresult
    cases hresult
  case case9 =>
    intro stack s node parent context reference depth name hname hissue htrim hstack hhandle path
      htag hpath s' known hknown hhandles routes ih hinside hresult
    have hvisit : visit roots handles stack s node parent context reference depth
        = visitChildren roots handles (node.handle :: stack)
          { issue := s'.issue, paths := s'.paths, definitions := s'.definitions, routes }
          node.children path context reference depth := by
      rw [visit, hissue, hname]
      simp only [htrim, hstack, hhandle, htag, if_true, if_false]
      simp only [path, s'] at hpath hknown
      simp only [hpath, hknown, if_false]
      rw [if_neg hhandles]
    rw [hvisit] at hresult ⊢
    obtain ⟨inside, hroutes, hextends⟩ := ih (fun child hchild => hinside.child hchild) hresult
    have henter := @extends_enter s ⟨name, path, context, reference, depth⟩ s'.definitions path hissue
      (fun hmem => hpath (.inr hmem)) rfl
    refine ⟨_, ?_, henter.trans hextends⟩
    have hroute := Routes.geometry hname (isNamed_eq_true hname htrim) htag hroutes .nil
    rw [List.append_nil] at hroute
    exact hroute
  case case10 =>
    intro stack s node parent context reference depth name hname hissue htrim hstack hhandle path
      htag hpath s' hknown definitions routes ih hinside hresult
    have hvisit : visit roots handles stack s node parent context reference depth
        = visitChildren roots handles (node.handle :: stack)
          { issue := s'.issue, paths := s'.paths, definitions, routes }
          node.children path context reference depth := by
      rw [visit, hissue, hname]
      simp only [htrim, hstack, hhandle, htag, if_true, if_false]
      simp only [path, s'] at hpath hknown
      simp only [hpath, hknown, if_false]
      simp only [routes, definitions, s', path]
    rw [hvisit] at hresult ⊢
    obtain ⟨inside, hroutes, hextends⟩ := ih (fun child hchild => hinside.child hchild) hresult
    have henter := @extends_enter s ⟨name, path, context, reference, depth⟩ definitions path hissue
      (fun hmem => hpath (.inr hmem)) rfl
    refine ⟨_, ?_, henter.trans hextends⟩
    have hroute := Routes.geometry hname (isNamed_eq_true hname htrim) htag hroutes .nil
    rw [List.append_nil] at hroute
    exact hroute
  case case11 =>
    intro stack s node parent context reference depth name hname hissue htrim hstack hhandle
      hinside _
    exact absurd hinside.self hhandle
  case case12 =>
    intro stack s parent context reference depth _ hresult
    rw [visitChildren] at hresult ⊢
    exact ⟨[], .nil, .refl hresult⟩
  case case13 =>
    intro stack s parent context reference depth child children ih ihrest hinside hresult
    rw [visitChildren] at hresult ⊢
    obtain ⟨routes, hroutes, hextends⟩ :=
      ihrest (fun node hnode => hinside node (by simp [hnode])) hresult
    obtain ⟨inside, hchild, hentered⟩ := ih (hinside child (by simp)) hextends.issue
    exact ⟨inside ++ routes, hchild.append hroutes, hentered.trans hextends⟩

/-- What is left out by its tag leads to no other geometry and is addressed by no channel. -/
def Hidden (addressed : List String) (e : XMLElement) : Prop :=
  lowerAscii e.name ≠ "geometryreference" ∧ safeName e "" ∉ addressed

structure Readable (addressed : List String) (e : XMLElement) : Prop where
  named : ∀ d ∈ importedElements e, isNamed d = true
  skipped : ∀ d ∈ skippedElements e, Hidden addressed d

theorem mem_importedOfAll {nodes : List XMLElement} {d : XMLElement}
    : d ∈ importedOfAll nodes ↔
        ∃ node ∈ nodes, isSupportedGeometryTag node.name = true ∧ d ∈ importedElements node := by
  induction nodes with
  | nil => simp [importedOfAll]
  | cons node nodes ih =>
    rw [importedOfAll, List.mem_append, ih]
    by_cases htag : isSupportedGeometryTag node.name = true <;> simp [htag]

theorem mem_skippedOfAll {nodes : List XMLElement} {d : XMLElement}
    : d ∈ skippedOfAll nodes ↔
        ∃ node ∈ nodes,
          (isSupportedGeometryTag node.name = true ∧ d ∈ skippedElements node) ∨
            (isSupportedGeometryTag node.name = false ∧ d ∈ elementsOf node) := by
  induction nodes with
  | nil => simp [skippedOfAll]
  | cons node nodes ih =>
    rw [skippedOfAll, List.mem_append, ih]
    cases htag : isSupportedGeometryTag node.name <;> simp [htag]

section

variable {addressed : List String} {e inner : XMLElement}

theorem mem_elementsOf_self : e ∈ elementsOf e := by
  cases e
  rw [elementsOf]
  exact List.mem_cons_self

theorem Readable.self (h : Readable addressed e) : isNamed e = true := by
  apply h.named
  cases e
  rw [importedElements]
  exact List.mem_cons_self

theorem Readable.child (h : Readable addressed e)
    (htag : lowerAscii e.name ≠ "geometryreference") (hchild : inner ∈ e.children)
    (hsupported : isSupportedGeometryTag inner.name = true)
    : Readable addressed inner := by
  cases e with
  | node handle name attributes children =>
    simp only [XMLElement.name] at htag
    constructor
    . intro d hd
      apply h.named
      rw [importedElements, if_neg htag]
      exact List.mem_cons_of_mem _ (mem_importedOfAll.mpr ⟨inner, hchild, hsupported, hd⟩)
    . intro d hd
      apply h.skipped
      rw [skippedElements, if_neg htag]
      exact mem_skippedOfAll.mpr ⟨inner, hchild, .inl ⟨hsupported, hd⟩⟩

theorem Readable.hidden (h : Readable addressed e)
    (htag : lowerAscii e.name ≠ "geometryreference") (hchild : inner ∈ e.children)
    (hsupported : isSupportedGeometryTag inner.name = false)
    : ∀ d ∈ elementsOf inner, Hidden addressed d := by
  intro d hd
  apply h.skipped
  cases e with
  | node handle name attributes children =>
    simp only [XMLElement.name] at htag
    rw [skippedElements, if_neg htag]
    exact mem_skippedOfAll.mpr ⟨inner, hchild, .inr ⟨hsupported, hd⟩⟩

end

theorem Routes.name_ne {roots : List (String × XMLElement)} {nodes : List XMLElement}
    {parent context : String} {reference : Option XMLElement} {depth : Nat}
    {routes : List DmxGeometryRoute}
    (h : Routes roots nodes parent context reference depth routes)
    : ∀ route ∈ routes, route.name ≠ "" := by
  induction h with
  | nil => simp
  | unnamed _ _ ih => exact ih
  | reference _ _ _ _ _ _ ih ihrest =>
    intro route hroute
    exact (List.mem_append.mp hroute).elim (ih route) (ihrest route)
  | geometry hname hnamed _ _ _ ih ihrest =>
    obtain ⟨_, hname', htrim⟩ := patchAttribute_of_named hnamed
    rw [hname] at hname'
    cases hname'
    intro route hroute
    simp only [List.cons_append, List.mem_cons, List.mem_append] at hroute
    rcases hroute with rfl | hroute | hroute
    . exact ne_empty_of_trimAscii htrim
    . exact ih route hroute
    . exact ihrest route hroute

theorem Routes.hidden {roots : List (String × XMLElement)} {nodes : List XMLElement}
    {parent context : String} {reference : Option XMLElement} {depth : Nat}
    {routes : List DmxGeometryRoute} {addressed : List String}
    (h : Routes roots nodes parent context reference depth routes)
    (hhidden : ∀ node ∈ nodes, ∀ d ∈ elementsOf node, Hidden addressed d)
    : ∀ route ∈ routes, route.name ∉ addressed := by
  induction h with
  | nil => simp
  | unnamed _ _ ih => exact ih (fun node hnode => hhidden node (List.mem_cons_of_mem _ hnode))
  | reference _ _ htag => exact absurd htag (hhidden _ List.mem_cons_self _ mem_elementsOf_self).1
  | @geometry node rest name _ _ _ _ inside routes hname _ htag _ _ ih ihrest =>
    have hinside : ∀ route ∈ inside, route.name ∉ addressed := by
      apply ih
      intro child hchild d hd
      exact hhidden node List.mem_cons_self d (elementsOf_child hchild hd)
    have hrest := ihrest (fun node hnode => hhidden node (List.mem_cons_of_mem _ hnode))
    have hself := (hhidden node List.mem_cons_self node mem_elementsOf_self).2
    rw [safeName, hname] at hself
    intro route hroute
    simp only [List.cons_append, List.mem_cons, List.mem_append] at hroute
    rcases hroute with rfl | hroute | hroute
    . exact hself
    . exact hinside route hroute
    . exact hrest route hroute

section

variable (request : GdtfBuildRequest) (fixtureType : XMLElement)
  (table : List (String × XMLElement))

theorem appendGeometry_succ {fuel : Nat} {nodes after : List SceneNode} {geometry : XMLElement}
    {parentId : String} {overrideModel : Option String} {parentIsLens : Bool} {path : String}
    (h : appendGeometry request fixtureType table fuel nodes geometry parentId overrideModel
      parentIsLens path = some after)
    : appendGeometry request fixtureType table (fuel + 1) nodes geometry parentId overrideModel
        parentIsLens path = some after := by
  induction fuel generalizing nodes after geometry parentId overrideModel parentIsLens path with
  | zero =>
    rw [appendGeometry] at h
    contradiction
  | succ fuel ih =>
    rw [appendGeometry] at h ⊢
    split at h
    next htag =>
      rw [if_pos htag]
      split at h
      next => exact h
      next => exact ih h
    next htag =>
      rw [if_neg htag]
      dsimp only at h ⊢
      generalize makeGeometryNode request fixtureType geometry nodes.length parentId overrideModel
        parentIsLens _ = node at h ⊢
      generalize nodes ++ [node] = between at h ⊢
      generalize geometry.children = children at h ⊢
      induction children generalizing between with
      | nil => exact h
      | cons child children ihchildren =>
        rw [List.foldlM_cons] at h ⊢
        obtain ⟨next, hnext, h⟩ := Option.bind_eq_some_iff.mp h
        apply Option.bind_eq_some_iff.mpr
        refine ⟨next, ?_, ihchildren next h⟩
        split at hnext
        next htag => rw [if_pos htag]; exact ih hnext
        next htag => rw [if_neg htag]; exact hnext

theorem appendGeometry_le {fuel more : Nat} {nodes after : List SceneNode} {geometry : XMLElement}
    {parentId : String} {overrideModel : Option String} {parentIsLens : Bool} {path : String}
    (hmore : fuel ≤ more)
    (h : appendGeometry request fixtureType table fuel nodes geometry parentId overrideModel
      parentIsLens path = some after)
    : appendGeometry request fixtureType table more nodes geometry parentId overrideModel
        parentIsLens path = some after := by
  induction hmore with
  | refl => exact h
  | step _ ih => exact appendGeometry_succ request fixtureType table ih

/-- From some depth of the recursion on the importer reads the elements to the end and makes one
node for each of `paths`, in this order. -/
def Imports (nodes : List XMLElement) (parentPath : String) (paths : List String) : Prop :=
  ∃ fuel, ∀ more, fuel ≤ more → ∀ before parentId overrideModel parentIsLens, ∃ after,
    nodes.foldlM (fun before node => appendGeometry request fixtureType table more before node
        parentId overrideModel parentIsLens parentPath) before = some after ∧
      after.map SceneNode.gdtfGeometryPath
        = before.map SceneNode.gdtfGeometryPath ++ paths

namespace Imports

variable {request} {fixtureType} {table} {node : XMLElement} {rest : List XMLElement}
  {parentPath : String} {inside paths : List String}

theorem nil : Imports request fixtureType table [] parentPath [] :=
  ⟨0, fun _ _ before _ _ _ => ⟨before, rfl, by simp⟩⟩

theorem cons (hnode : Imports request fixtureType table [node] parentPath inside)
    (hrest : Imports request fixtureType table rest parentPath paths)
    : Imports request fixtureType table (node :: rest) parentPath (inside ++ paths) := by
  obtain ⟨fuel, hnode⟩ := hnode
  obtain ⟨fuel', hrest⟩ := hrest
  refine ⟨max fuel fuel', ?_⟩
  intro more hmore before parentId overrideModel parentIsLens
  obtain ⟨between, hbetween, hinside⟩ :=
    hnode more (by omega) before parentId overrideModel parentIsLens
  obtain ⟨after, hafter, hpaths⟩ :=
    hrest more (by omega) between parentId overrideModel parentIsLens
  refine ⟨after, ?_, ?_⟩
  . rw [← List.singleton_append, List.foldlM_append, hbetween]
    exact hafter
  . rw [hpaths, hinside, List.append_assoc]

theorem reference {found : XMLElement} {name : String}
    (hname : patchAttribute node "Name" "name" = some name)
    (htag : lowerAscii node.name = "geometryreference")
    (hfound : (patchAttribute node "Geometry" "geometry").bind (table.lookup ·) = some found)
    (h : Imports request fixtureType table [found] (appendGeometryPath parentPath name) paths)
    : Imports request fixtureType table [node] parentPath paths := by
  obtain ⟨fuel, h⟩ := h
  refine ⟨fuel + 1, ?_⟩
  intro more hmore before parentId overrideModel parentIsLens
  cases more with
  | zero => omega
  | succ more =>
    obtain ⟨after, hafter, hpaths⟩ := h more (by omega) before parentId
      ((patchAttribute node "Model" "model").or overrideModel) parentIsLens
    refine ⟨after, ?_, hpaths⟩
    simp only [List.foldlM_cons, List.foldlM_nil, bind_pure] at hafter ⊢
    rw [appendGeometry, if_pos htag, hfound]
    dsimp only
    rw [safeName, hname]
    exact hafter

theorem geometry {name : String} (hname : patchAttribute node "Name" "name" = some name)
    (htag : lowerAscii node.name ≠ "geometryreference")
    (h : Imports request fixtureType table
      (node.children.filter (fun child => isSupportedGeometryTag child.name))
      (appendGeometryPath parentPath name) paths)
    : Imports request fixtureType table [node] parentPath
        (appendGeometryPath parentPath name :: paths) := by
  obtain ⟨fuel, h⟩ := h
  refine ⟨fuel + 1, ?_⟩
  intro more hmore before parentId overrideModel parentIsLens
  cases more with
  | zero => omega
  | succ more =>
    have hpath : appendGeometryPath parentPath (safeName node "geometry")
        = appendGeometryPath parentPath name := by
      rw [safeName, hname]
      rfl
    generalize hmade : makeGeometryNode request fixtureType node before.length parentId
      overrideModel parentIsLens (appendGeometryPath parentPath name) = made
    obtain ⟨after, hafter, hpaths⟩ := h more (by omega) (before ++ [made]) made.nodeId none
      made.isLens
    refine ⟨after, ?_, ?_⟩
    . simp only [List.foldlM_cons, List.foldlM_nil, bind_pure]
      rw [appendGeometry, if_neg htag]
      dsimp only
      rw [hpath, hmade, ← hafter, List.foldlM_filter]
      rfl
    . rw [hpaths, ← hmade]
      simp [makeGeometryNode]

end Imports

-- The importer follows the routes: its nodes have the paths of routes, and it leaves out no route
-- that a channel addresses.
theorem Routes.imports {roots : List (String × XMLElement)} {addressed : List String}
    (htable : ∀ name found, roots.lookup name = some found →
      name ≠ "" ∧ table.lookup name = some found ∧ Readable addressed found)
    {nodes : List XMLElement} {parent context : String} {reference : Option XMLElement}
    {depth : Nat} {routes : List DmxGeometryRoute}
    (h : Routes roots nodes parent context reference depth routes)
    : ∀ read : XMLElement → Bool, (∀ node ∈ nodes, read node = true → Readable addressed node) →
      (∀ node ∈ nodes, read node = false → ∀ d ∈ elementsOf node, Hidden addressed d) →
        ∃ paths, Imports request fixtureType table (nodes.filter read) parent paths ∧
          paths.Sublist (routes.map DmxGeometryRoute.path) ∧
          ∀ route ∈ routes, route.path ∈ paths ∨ route.name ∉ addressed := by
  induction h with
  | nil =>
    intro read _ _
    exact ⟨[], .nil, List.Sublist.refl _, by simp⟩
  | @unnamed node rest _ _ _ _ _ hunnamed _ ih =>
    intro read hread hhidden
    have hskip : read node = false := by
      rw [Bool.eq_false_iff]
      intro hnode
      rw [(hread node List.mem_cons_self hnode).self] at hunnamed
      contradiction
    rw [List.filter_cons_of_neg (by simp [hskip])]
    apply ih
    . exact fun node hnode => hread node (List.mem_cons_of_mem _ hnode)
    . exact fun node hnode => hhidden node (List.mem_cons_of_mem _ hnode)
  | @reference node found rest name parent _ _ _ inside routes hname _ htag hfound _ _ ih ihrest =>
    intro read hread hhidden
    obtain ⟨paths, hpaths, hsub, hcover⟩ := ihrest read
      (fun node hnode => hread node (List.mem_cons_of_mem _ hnode))
      (fun node hnode => hhidden node (List.mem_cons_of_mem _ hnode))
    cases hnode : read node with
    | false =>
      exact absurd htag (hhidden node List.mem_cons_self hnode node mem_elementsOf_self).1
    | true =>
      obtain ⟨hne, hlookup, hreadable⟩ := htable _ _ hfound
      obtain ⟨ins, hins, hinssub, hinscover⟩ := ih (fun _ => true)
        (by simpa using hreadable) (by simp)
      have hbind : (patchAttribute node "Geometry" "geometry").bind (table.lookup ·)
          = some found := by
        cases htarget : patchAttribute node "Geometry" "geometry" with
        | none => rw [htarget] at hne; exact absurd rfl hne
        | some target => rw [htarget] at hlookup; exact hlookup
      refine ⟨ins ++ paths, ?_, ?_, ?_⟩
      . rw [List.filter_cons_of_pos hnode]
        exact (Imports.reference hname htag hbind (by simpa using hins)).cons hpaths
      . rw [List.map_append]
        exact hinssub.append hsub
      . intro route hroute
        rw [List.mem_append] at hroute ⊢
        cases hroute with
        | inl hroute => exact (hinscover route hroute).imp .inl id
        | inr hroute => exact (hcover route hroute).imp .inr id
  | @geometry node rest name parent _ _ _ inside routes hname hnamed htag hinside hroutes ih ihrest =>
    intro read hread hhidden
    obtain ⟨paths, hpaths, hsub, hcover⟩ := ihrest read
      (fun node hnode => hread node (List.mem_cons_of_mem _ hnode))
      (fun node hnode => hhidden node (List.mem_cons_of_mem _ hnode))
    cases hnode : read node with
    | false =>
      have hnone := (Routes.geometry hname hnamed htag hinside .nil).hidden
        (by simpa using hhidden node List.mem_cons_self hnode)
      refine ⟨paths, ?_, ?_, ?_⟩
      . rw [List.filter_cons_of_neg (by simp [hnode])]
        exact hpaths
      . rw [List.cons_append, List.map_cons, List.map_append]
        exact (hsub.trans (List.sublist_append_right _ _)).cons _
      . intro route hroute
        rw [List.mem_append] at hroute
        cases hroute with
        | inl hroute => exact .inr (hnone route (by simpa using hroute))
        | inr hroute => exact hcover route hroute
    | true =>
      have hreadable := hread node List.mem_cons_self hnode
      obtain ⟨ins, hins, hinssub, hinscover⟩ := ih (fun child => isSupportedGeometryTag child.name)
        (fun child hchild hsupported => hreadable.child htag hchild hsupported)
        (fun child hchild hsupported => hreadable.hidden htag hchild hsupported)
      refine ⟨(appendGeometryPath parent name :: ins) ++ paths, ?_, ?_, ?_⟩
      . rw [List.filter_cons_of_pos hnode]
        exact (Imports.geometry hname htag hins).cons hpaths
      . rw [List.map_append, List.map_cons]
        exact (hinssub.cons_cons _).append hsub
      . intro route hroute
        simp only [List.cons_append, List.mem_cons, List.mem_append] at hroute ⊢
        rcases hroute with rfl | hroute | hroute
        . exact .inl (.inl rfl)
        . exact (hinscover route hroute).imp (fun hmem => .inr (.inl hmem)) id
        . exact (hcover route hroute).imp (fun hmem => .inr (.inr hmem)) id

end

end Peraviz.Gdtf
