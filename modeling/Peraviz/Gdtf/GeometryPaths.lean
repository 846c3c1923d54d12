import Peraviz.Gdtf.GeometryWalk
import Peraviz.Gdtf.Legal

/-!
This module contains the agreement of the two walks over the geometries of a description: every
geometry that a channel program of the compiled mode addresses is one node of the imported scene.
-/

namespace Peraviz.Gdtf

open CheckedInt Peraviz.Runtime

/-- The id of a geometry instance is its position + 1. -/
def StandsFor (geometries : List GeometryInstance) (id : Int32) (path : String) : Prop :=
  ∃ k geometry, id = Int32.ofNat (k + 1) ∧ geometries[k]? = some geometry ∧ geometry.path = path

theorem StandsFor.append {geometries : List GeometryInstance} {id : Int32} {path : String}
    (h : StandsFor geometries id path) (more : List GeometryInstance)
    : StandsFor (geometries ++ more) id path := by
  obtain ⟨k, geometry, hid, hget, hpath⟩ := h
  refine ⟨k, geometry, hid, ?_, hpath⟩
  rw [List.getElem?_append_left]
  . exact hget
  . exact (List.getElem?_eq_some_iff.mp hget).1

theorem standsFor_concat (geometries : List GeometryInstance) (geometry : GeometryInstance)
    : StandsFor (geometries ++ [geometry]) (nextId geometries) geometry.path :=
  ⟨geometries.length, geometry, rfl, by simp, rfl⟩

theorem path_of_standsFor {fixture : CompiledGdtfFixtureType} {program : ChannelProgram}
    {path : String} (h : StandsFor fixture.geometries program.geometryInstanceId path)
    (hsize : fixture.geometries.length < 2147483648)
    : (geometryOf fixture program).path = path := by
  obtain ⟨k, geometry, hid, hget, hpath⟩ := h
  have hk := (List.getElem?_eq_some_iff.mp hget).1
  have hindex : (Int32.ofNat (k + 1) - 1).toNatClampNeg = k := by
    have hsub : Int32.ofNat (k + 1) - 1 = Int32.ofNat k := by
      rw [Int32.ofNat_add]
      apply Int32.add_sub_cancel
    rw [hsub, Int32.toNatClampNeg_ofNat_of_lt (by omega)]
  rw [geometryOf, hid, hindex, List.getD_eq_getElem?_getD, hget]
  exact hpath

/-- Every program of an expansion stands at a route to a geometry with one of the names. -/
structure Expansion.Placed (routes : List DmxGeometryRoute) (names : List String) (x : Expansion)
    : Prop where
  ids : ∀ entry ∈ x.geometryIds, StandsFor x.fixture.geometries entry.2 entry.1
  programs : ∀ program ∈ x.fixture.channelPrograms, ∃ route ∈ routes,
    route.name ∈ names ∧ StandsFor x.fixture.geometries program.geometryInstanceId route.path

section

variable (original : CompiledGdtfFixtureType) (program copy : ChannelProgram)
  (route : DmxGeometryRoute)

@[simp]
theorem Expansion.geometries_componentId (x : Expansion) (gid : Int32)
    : (x.componentId original program route gid).2.fixture.geometries
        = x.fixture.geometries := by
  simp only [Expansion.componentId]
  split <;> rfl

@[simp]
theorem Expansion.geometryIds_componentId (x : Expansion) (gid : Int32)
    : (x.componentId original program route gid).2.geometryIds = x.geometryIds := by
  simp only [Expansion.componentId]
  split <;> rfl

@[simp]
theorem Expansion.geometries_channelId (x : Expansion)
    : (x.channelId original program copy route).2.fixture.geometries = x.fixture.geometries := by
  simp only [Expansion.channelId]
  split <;> rfl

@[simp]
theorem Expansion.geometryIds_channelId (x : Expansion)
    : (x.channelId original program copy route).2.geometryIds = x.geometryIds := by
  simp only [Expansion.channelId]
  split <;> rfl

theorem Expansion.Placed.geometryId {routes : List DmxGeometryRoute} {names : List String}
    {x : Expansion} (h : x.Placed routes names)
    : (x.geometryId original program route).2.Placed routes names ∧
        StandsFor (x.geometryId original program route).2.fixture.geometries
          (x.geometryId original program route).1 route.path := by
  rw [Expansion.geometryId]
  split
  next gid hgid => exact ⟨h, h.ids _ (mem_of_lookup_eq_some hgid)⟩
  next =>
    have hnew := standsFor_concat x.fixture.geometries
      { geometryOf original program with id := nextId x.fixture.geometries, path := route.path }
    refine ⟨⟨?_, ?_⟩, hnew⟩
    . intro entry hentry
      rw [List.mem_append, List.mem_singleton] at hentry
      cases hentry with
      | inl hentry => exact (h.ids entry hentry).append _
      | inr hentry =>
        rw [hentry]
        exact hnew
    . intro placed hplaced
      obtain ⟨other, hother, hname, hstands⟩ := h.programs placed hplaced
      exact ⟨other, hother, hname, hstands.append _⟩

theorem Expansion.Placed.place {routes : List DmxGeometryRoute} {names : List String}
    {x : Expansion} (h : x.Placed routes names) (hroute : route ∈ routes)
    (hname : route.name ∈ names)
    : (x.place original program copy route).Placed routes names := by
  obtain ⟨hplaced, hstands⟩ := h.geometryId original program route
  constructor
  . intro entry hentry
    simp only [Expansion.place, Expansion.geometryIds_channelId,
      Expansion.geometryIds_componentId] at hentry
    simp only [Expansion.place, Expansion.geometries_channelId, Expansion.geometries_componentId]
    exact hplaced.ids entry hentry
  . intro placed hmem
    simp only [Expansion.place, Expansion.channelPrograms_channelId,
      Expansion.channelPrograms_componentId, List.mem_append, List.mem_singleton] at hmem
    simp only [Expansion.place, Expansion.geometries_channelId, Expansion.geometries_componentId]
    cases hmem with
    | inl hmem => exact hplaced.programs placed hmem
    | inr hmem =>
      rw [hmem]
      exact ⟨route, hroute, hname, hstands⟩

theorem yields_expandProgram {routes : List DmxGeometryRoute} {names : List String}
    {x : Expansion} (h : x.Placed routes names)
    (hname : (geometryOf original program).name ∈ names)
    : Yields (expandProgram original routes x program) (Expansion.Placed routes names) := by
  refine Yields.bind (P := Expansion.Placed routes names) ?_ ?_
  . refine Yields.foldlM h ?_
    intro x hx route hroute
    simp only [List.mem_filter, decide_eq_true_eq] at hroute
    refine Yields.bind Yields.any ?_
    intro copy _
    exact Yields.pure (hx.place original program copy route hroute.1 (hroute.2 ▸ hname))
  . intro x hx
    split
    next => exact Yields.throw_bind
    next => exact Yields.pure hx

end

theorem geometryInstanceId_redirectMaster {x : Expansion} {i : Nat}
    {program redirected : ChannelProgram} (h : redirectMaster x i program = .ok redirected)
    : redirected.geometryInstanceId = program.geometryInstanceId := by
  simp only [redirectMaster] at h
  split at h
  next =>
    cases h
    rfl
  next =>
    split at h
    next => contradiction
    next =>
      cases h
      rfl

def originOf (roots : List (String × XMLElement)) (mode : XMLElement) : Option XMLElement :=
  roots.lookup ((patchAttribute mode "Geometry" "geometry").getD "")

/-- What a successful expansion along a geometry tree has found. -/
structure Expanded (root mode : XMLElement) (names : List String)
    (expanded : CompiledGdtfFixtureType) (roots : List (String × XMLElement)) (origin : XMLElement)
    : Prop where
  roots_eq : topLevelGeometries root = .ok roots
  origin_eq : originOf roots mode = some origin
  issue : (visit roots (handlesOf root) [] {} origin "" "" none 0).issue = none
  programs : ∀ program ∈ expanded.channelPrograms,
    ∃ route ∈ (visit roots (handlesOf root) [] {} origin "" "" none 0).routes,
      route.name ∈ names ∧ StandsFor expanded.geometries program.geometryInstanceId route.path

theorem yields_expandInstanceDmxRoutes {fixture : CompiledGdtfFixtureType} {root mode : XMLElement}
    {names : List String} (htree : topLevelGeometries root ≠ .ok [])
    (hnames : ∀ program, (geometryOf fixture program).name ∈ names)
    : Yields (expandInstanceDmxRoutes fixture root mode) (fun expanded =>
        ∃ roots origin, Expanded root mode names expanded roots origin) := by
  refine Yields.bind (Yields.ofExcept (P := fun roots => topLevelGeometries root = .ok roots)
    (fun _ => id)) ?_
  intro roots hroots
  split
  next =>
    have hne : roots ≠ [] := by
      intro hempty
      rw [hempty] at hroots
      exact htree hroots
    rw [if_pos hne]
    exact Yields.throw_bind
  next origin horigin =>
    dsimp only
    split
    next => exact Yields.throw
    next hissue =>
      refine Yields.bind (P := Expansion.Placed
        (visit roots (handlesOf root) [] {} origin "" "" none 0).routes names) ?_ ?_
      . refine Yields.foldlM ?_ ?_
        . exact ⟨by simp, by simp⟩
        . intro x hx program _
          exact yields_expandProgram fixture program hx (hnames program)
      . intro x hx
        refine Yields.bind (Yields.ofExcept (P := fun redirected => redirectMasters x
          = .ok redirected) (fun _ => id)) ?_
        intro channelPrograms hredirect
        refine Yields.pure ⟨roots, origin, hroots, horigin, hissue, ?_⟩
        intro redirected hredirected
        obtain ⟨entry, hentry, heq⟩ := mem_of_mapM_ok hredirect redirected hredirected
        rw [geometryInstanceId_redirectMaster heq]
        exact hx.programs _ (List.fst_mem_of_mem_zipIdx hentry)

/-- The geometry that the programs of a channel stand at. -/
def addressedGeometry (channel : XMLElement) : String :=
  let geometryName := readAttr channel "Geometry" "geometry"
  if geometryName = "" then "Fixture" else geometryName

def addressedGeometries (mode : XMLElement) : List String :=
  (collectModeDmxChannels true mode).map addressedGeometry

def FixtureBuilder.Addresses (names : List String) (x : FixtureBuilder) : Prop :=
  ∀ geometry ∈ x.fixture.geometries, geometry.name ∈ names

theorem geometries_appendFunction (reader : GdtfReader) (channel : XMLElement)
    (offsets : List Int32) (parsed : ParsedDmxChannel) (geometryId : Int32) (x : FixtureBuilder)
    (record : FunctionRecord)
    : (appendFunction reader channel offsets parsed geometryId x record).fixture.geometries
        = x.fixture.geometries := by
  simp only [appendFunction, FixtureBuilder.componentIdFor, FixtureBuilder.attributeIdFor]
  split <;> split <;> rfl

theorem geometries_foldl_appendFunction (reader : GdtfReader) (channel : XMLElement)
    (offsets : List Int32) (parsed : ParsedDmxChannel) (geometryId : Int32)
    (records : List FunctionRecord) (x : FixtureBuilder)
    : (records.foldl (appendFunction reader channel offsets parsed geometryId) x).fixture.geometries
        = x.fixture.geometries := by
  induction records generalizing x with
  | nil => rfl
  | cons record records ih => rw [List.foldl_cons, ih, geometries_appendFunction]

theorem FixtureBuilder.Addresses.geometryIdFor {names : List String} {x : FixtureBuilder}
    (h : x.Addresses names) {channel : XMLElement} (hname : addressedGeometry channel ∈ names)
    (path : String)
    : (x.geometryIdFor (readAttr channel "Geometry" "geometry") path).2.Addresses names := by
  simp only [FixtureBuilder.geometryIdFor]
  split
  next => exact h
  next =>
    intro geometry hgeometry
    simp only [List.mem_append, List.mem_singleton] at hgeometry
    cases hgeometry with
    | inl hgeometry => exact h geometry hgeometry
    | inr hgeometry =>
      rw [hgeometry]
      exact hname

theorem FixtureBuilder.Addresses.appendChannel {names : List String} {reader : GdtfReader}
    {root channel : XMLElement} {x y : FixtureBuilder} (h : x.Addresses names)
    (hname : addressedGeometry channel ∈ names)
    (hy : appendChannel reader root x channel = some y)
    : y.Addresses names := by
  rw [Gdtf.appendChannel] at hy
  obtain ⟨offsets, _, hy⟩ := Option.bind_eq_some_iff.mp hy
  split at hy
  next =>
    cases hy
    exact h
  next =>
    dsimp only at hy
    split at hy
    next =>
      cases hy
      exact h
    next =>
      split at hy
      next =>
        cases hy
        exact h
      next =>
        cases hy
        intro geometry hgeometry
        rw [geometries_foldl_appendFunction] at hgeometry
        refine Addresses.geometryIdFor ?_ hname _ geometry hgeometry
        exact h

theorem addresses_foldlM {names : List String} {reader : GdtfReader} {root : XMLElement}
    {channels : List XMLElement} {x y : FixtureBuilder} (h : x.Addresses names)
    (hnames : ∀ channel ∈ channels, addressedGeometry channel ∈ names)
    (hy : channels.foldlM (appendChannel reader root) x = some y)
    : y.Addresses names := by
  induction channels generalizing x with
  | nil =>
    cases hy
    exact h
  | cons channel channels ih =>
    rw [List.foldlM_cons] at hy
    obtain ⟨z, hz, hy⟩ := Option.bind_eq_some_iff.mp hy
    apply ih (h.appendChannel (hnames channel List.mem_cons_self) hz) _ hy
    exact fun channel hchannel => hnames channel (List.mem_cons_of_mem _ hchannel)

-- A mode that compiles: every program stands at a geometry that a channel of the mode names.
theorem expanded_of_compiled {reader : GdtfReader} {gdtfPath dmxModeName : String}
    {root mode : XMLElement} {fixture : CompiledGdtfFixtureType}
    (hdescription : reader.description gdtfPath = some root)
    (hmode : findMode root dmxModeName = some mode)
    (hcompile : compileGdtfFixtureType reader gdtfPath dmxModeName = some fixture)
    (hsupported : fixture.dmxPatchSupported = true) (htree : topLevelGeometries root ≠ .ok [])
    : ∃ roots origin, Expanded root mode ("" :: addressedGeometries mode) fixture roots origin := by
  rw [compileGdtfFixtureType, hdescription] at hcompile
  dsimp only at hcompile
  rw [hmode] at hcompile
  dsimp only at hcompile
  split at hcompile
  next =>
    cases hcompile
    contradiction
  next =>
    obtain ⟨built, hbuilt, hcompile⟩ := Option.bind_eq_some_iff.mp hcompile
    have haddresses : built.Addresses (addressedGeometries mode) := by
      apply addresses_foldlM _ _ hbuilt
      . intro geometry hgeometry
        simp at hgeometry
      . intro channel hchannel
        exact List.mem_map_of_mem hchannel
    have hnames : ∀ program, (geometryOf (resolveModeMasters reader built.fixture) program).name
        ∈ "" :: addressedGeometries mode := by
      intro program
      rw [geometryOf, List.getD_eq_getElem?_getD]
      cases hget : (resolveModeMasters reader built.fixture).geometries[
          (program.geometryInstanceId - 1).toNatClampNeg]? with
      | none => exact List.mem_cons_self
      | some geometry =>
        apply List.mem_cons_of_mem
        exact haddresses geometry (List.mem_of_getElem? hget)
    obtain ⟨result, hresult, hcompile⟩ := Option.bind_eq_some_iff.mp hcompile
    cases result with
    | error issue =>
      cases hcompile
      contradiction
    | ok expanded =>
      cases hcompile
      exact yields_expandInstanceDmxRoutes htree hnames _ hresult

def namedEntry (geometry : XMLElement) : String × XMLElement :=
  (safeName geometry "geometry", geometry)

theorem safeName_of_named {e : XMLElement} {name : String}
    (hname : patchAttribute e "Name" "name" = some name) (fallback : String)
    : safeName e fallback = name := by
  rw [safeName, hname]
  rfl

theorem safeName_ne_empty {e : XMLElement} (h : isNamed e = true) (fallback : String)
    : safeName e fallback ≠ "" := by
  obtain ⟨name, hname, htrim⟩ := patchAttribute_of_named h
  rw [safeName_of_named hname]
  exact ne_empty_of_trimAscii htrim

-- The roots of the routing are the named geometries, in the order of the container.
theorem topLevel_foldlM {geometries : List XMLElement} {acc roots : List (String × XMLElement)}
    (hnamed : ∀ geometry ∈ geometries, isNamed geometry = true)
    (h : geometries.foldlM (fun roots node =>
      match patchAttribute node "Name" "name" with
      | none => .ok roots
      | some name =>
        if (roots.lookup name).isSome then .error "Ambiguous top-level geometry name."
        else .ok (roots ++ [(name, node)])) acc = Except.ok roots)
    : roots = acc ++ geometries.map namedEntry ∧
        ((acc.map Prod.fst).Nodup → (roots.map Prod.fst).Nodup) := by
  induction geometries generalizing acc with
  | nil =>
    cases h
    simp
  | cons geometry geometries ih =>
    obtain ⟨name, hname, _⟩ := patchAttribute_of_named (hnamed geometry List.mem_cons_self)
    rw [List.foldlM_cons, hname] at h
    dsimp only at h
    split at h
    next => cases h
    next hnew =>
      have hstep := ih (fun other hother => hnamed other (List.mem_cons_of_mem _ hother)) h
      constructor
      . rw [hstep.1, List.map_cons, namedEntry, safeName_of_named hname, List.append_assoc]
        rfl
      . intro hnodup
        apply hstep.2
        rw [List.map_append, List.map_singleton]
        apply hnodup.append (List.nodup_singleton name)
        simp only [List.lookup_isSome_iff, not_exists, not_and] at hnew
        simp only [List.disjoint_singleton, List.mem_map, not_exists, not_and]
        intro entry hentry heq
        exact hnew entry hentry (by simp [heq])

theorem topLevelGeometries_eq {root geometries : XMLElement} {roots : List (String × XMLElement)}
    (hcontainer : collectElementsByName "geometries" root = [geometries])
    (hnamed : ∀ geometry ∈ geometries.children, isNamed geometry = true)
    (h : topLevelGeometries root = .ok roots)
    : roots = geometries.children.map namedEntry ∧ (roots.map Prod.fst).Nodup := by
  rw [topLevelGeometries, hcontainer, List.flatMap_singleton] at h
  obtain ⟨hroots, hnodup⟩ := topLevel_foldlM hnamed h
  exact ⟨by simpa using hroots, hnodup (by simp)⟩

theorem geometryByName_eq {geometries : XMLElement}
    (hnamed : ∀ geometry ∈ geometries.children, isNamed geometry = true)
    : geometryByName geometries = (geometries.children.map namedEntry).reverse := by
  have hfold : ∀ (l : List XMLElement) (acc : List (String × XMLElement)),
      (∀ geometry ∈ l, isNamed geometry = true) →
        l.foldl (fun table geometry =>
          let geometryName := safeName geometry "geometry"
          if geometryName = "" then table else (geometryName, geometry) :: table) acc
        = (l.map namedEntry).reverse ++ acc := by
    intro l
    induction l with
    | nil => simp
    | cons geometry l ih =>
      intro acc h
      rw [List.foldl_cons]
      dsimp only
      rw [if_neg (safeName_ne_empty (h geometry List.mem_cons_self) _)]
      rw [ih _ (fun other hother => h other (List.mem_cons_of_mem _ hother))]
      simp [namedEntry]
  rw [geometryByName, hfold _ _ hnamed, List.append_nil]

theorem lookup_of_mem {entries : List (String × XMLElement)} {name : String} {e : XMLElement}
    (hnodup : (entries.map Prod.fst).Nodup) (hmem : (name, e) ∈ entries)
    : entries.lookup name = some e := by
  induction entries with
  | nil => simp at hmem
  | cons entry entries ih =>
    obtain ⟨key, value⟩ := entry
    rw [List.map_cons, List.nodup_cons] at hnodup
    rw [List.lookup_cons]
    cases List.mem_cons.mp hmem with
    | inl heq =>
      cases heq
      simp
    | inr hmem =>
      have hne : name ≠ key := by
        intro heq
        apply hnodup.1
        exact List.mem_map.mpr ⟨(name, e), hmem, heq⟩
      rw [beq_false_of_ne hne]
      exact ih hnodup.2 hmem

theorem find?_of_lookup {geometries : List XMLElement} {name : String} {e : XMLElement}
    (h : (geometries.map namedEntry).lookup name = some e)
    : geometries.find? (fun geometry => safeName geometry "geometry" = name) = some e := by
  induction geometries with
  | nil => simp at h
  | cons geometry geometries ih =>
    rw [List.map_cons, namedEntry, List.lookup_cons] at h
    rw [List.find?_cons]
    split at h
    next heq => simpa [eq_of_beq heq] using h
    next hne =>
      have hname : safeName geometry "geometry" ≠ name := by
        intro heq
        rw [heq] at hne
        simp at hne
      simpa [hname] using ih h

mutual

theorem elementsOf_collect {wanted : String} {found d : XMLElement}
    : ∀ {e : XMLElement}, found ∈ collectElementsByName wanted e → d ∈ elementsOf found →
      d ∈ elementsOf e
  | .node handle name attributes children, h, hd => by
    rw [collectElementsByName, List.mem_append] at h
    cases h with
    | inl h =>
      split at h
      next =>
        rw [List.mem_singleton] at h
        rw [← h]
        exact hd
      next => simp at h
    | inr h =>
      rw [elementsOf]
      exact List.mem_cons_of_mem _ (elementsOfAll_collect h hd)

theorem elementsOfAll_collect {wanted : String} {found d : XMLElement}
    : ∀ {children : List XMLElement}, found ∈ collectFromChildren wanted children →
      d ∈ elementsOf found → d ∈ elementsOfAll children
  | [], h, _ => by simp [collectFromChildren] at h
  | child :: children, h, hd => by
    rw [collectFromChildren, List.mem_append] at h
    rw [elementsOfAll, List.mem_append]
    cases h with
    | inl h => exact .inr (elementsOfAll_collect h hd)
    | inr h => exact .inl (elementsOf_collect h hd)

end

mutual

theorem handle_mem_handlesOf {d : XMLElement}
    : ∀ {e : XMLElement}, d ∈ elementsOf e → d.handle ∈ handlesOf e
  | .node handle name attributes children, h => by
    rw [elementsOf, List.mem_cons] at h
    rw [handlesOf, List.mem_cons]
    cases h with
    | inl h =>
      rw [h]
      exact .inl rfl
    | inr h => exact .inr (handle_mem_handlesOfAll h)

theorem handle_mem_handlesOfAll {d : XMLElement}
    : ∀ {children : List XMLElement}, d ∈ elementsOfAll children → d.handle ∈ handlesOfAll children
  | [], h => by simp [elementsOfAll] at h
  | child :: children, h => by
    rw [elementsOfAll, List.mem_append] at h
    rw [handlesOfAll, List.mem_append]
    cases h with
    | inl h => exact .inl (handle_mem_handlesOf h)
    | inr h => exact .inr (handle_mem_handlesOfAll h)

end

theorem inside_container {root geometries : XMLElement}
    (hcontainer : collectElementsByName "geometries" root = [geometries])
    : ∀ geometry ∈ geometries.children, Handled (handlesOf root) geometry := by
  intro geometry hgeometry d hd
  apply handle_mem_handlesOf
  have hfound : geometries ∈ collectElementsByName "geometries" root := by
    rw [hcontainer]
    exact List.mem_singleton_self _
  exact elementsOf_collect hfound (elementsOf_child hgeometry hd)

/-- The modes of a fixture type in which the importer comes to the mode of a name: it has exactly
that name, and no other mode has it or has none. -/
structure Selects (modes : List XMLElement) (gdtfMode : String) (mode : XMLElement) : Prop where
  requested : gdtfMode ≠ ""
  listed : mode ∈ modes
  named : patchAttribute mode "Name" "name" = some gdtfMode
  alone : ∀ other ∈ modes,
    patchAttribute other "Name" "name" = none ∨ patchAttribute other "Name" "name" = some gdtfMode →
      other = mode

theorem rootGeometryName_of_selects {modes : List XMLElement} {gdtfMode geometry : String}
    {mode : XMLElement} (h : Selects modes gdtfMode mode)
    (hgeometry : patchAttribute mode "Geometry" "geometry" = some geometry)
    : rootGeometryName gdtfMode false modes = (true, geometry) := by
  obtain ⟨hrequested, hlisted, hnamed, halone⟩ := h
  induction modes with
  | nil => simp at hlisted
  | cons other modes ih =>
    rw [rootGeometryName]
    split
    next hskipped =>
      have hne : mode ≠ other := by
        intro heq
        rw [← heq] at hskipped
        exact hskipped.2.2 hnamed
      apply ih
      . exact List.mem_of_ne_of_mem hne hlisted
      . exact fun another hanother => halone another (List.mem_cons_of_mem _ hanother)
    next htaken =>
      have hother : other = mode := by
        apply halone other List.mem_cons_self
        cases hname : patchAttribute other "Name" "name" with
        | none => exact .inl rfl
        | some name =>
          right
          simpa [hrequested, hname] using htaken
      rw [hother, hgeometry]

/-- The description as the standard lays it out: the importer finds the fixture type and its modes
and geometries where it looks for them, the document has no other geometries, and the geometries
have names. What the importer does not read by its tag is no way to an addressed geometry. -/
structure Conforms (document : List XMLElement) (root : XMLElement) (gdtfMode : String)
    (mode : XMLElement) (fixtureType geometries : XMLElement) : Prop where
  head : document.head? = some root
  found : documentFixtureType document = some fixtureType
  listed : firstNamed fixtureType.children "Geometries" = some geometries
  container : collectElementsByName "geometries" root = [geometries]
  readable : ∀ geometry ∈ geometries.children, Readable (addressedGeometries mode) geometry
  selects : Selects (dmxModesOf fixtureType) gdtfMode mode

theorem Conforms.named {document : List XMLElement} {root mode fixtureType geometries : XMLElement}
    {gdtfMode : String} (h : Conforms document root gdtfMode mode fixtureType geometries)
    : ∀ geometry ∈ geometries.children, isNamed geometry = true :=
  fun geometry hgeometry => (h.readable geometry hgeometry).self

theorem Conforms.table {document : List XMLElement} {root mode fixtureType geometries : XMLElement}
    {gdtfMode : String} {roots : List (String × XMLElement)}
    (h : Conforms document root gdtfMode mode fixtureType geometries)
    (hroots : topLevelGeometries root = .ok roots) {name : String} {found : XMLElement}
    (hfound : roots.lookup name = some found)
    : name ≠ "" ∧ (geometryByName geometries).lookup name = some found ∧
        Readable (addressedGeometries mode) found := by
  obtain ⟨rfl, hnodup⟩ := topLevelGeometries_eq h.container h.named hroots
  have hmem := mem_of_lookup_eq_some hfound
  obtain ⟨geometry, hgeometry, heq⟩ := List.mem_map.mp hmem
  cases heq
  refine ⟨safeName_ne_empty (h.named _ hgeometry) _, ?_, h.readable _ hgeometry⟩
  rw [geometryByName_eq h.named]
  apply lookup_of_mem
  . rw [List.map_reverse]
    exact List.nodup_reverse.mpr hnodup
  . exact List.mem_reverse.mpr hmem

theorem Conforms.routes {document : List XMLElement} {root mode fixtureType geometries : XMLElement}
    {gdtfMode : String} (h : Conforms document root gdtfMode mode fixtureType geometries)
    {names : List String} {fixture : CompiledGdtfFixtureType} {roots : List (String × XMLElement)}
    {origin : XMLElement} (hexpanded : Expanded root mode names fixture roots origin)
    : ∃ routes, Routes roots [origin] "" "" none 0 routes ∧
        (VisitState.Extends {} (visit roots (handlesOf root) [] {} origin "" "" none 0) routes) := by
  obtain ⟨rfl, _⟩ := topLevelGeometries_eq h.container h.named hexpanded.roots_eq
  have hinside : ∀ entry ∈ geometries.children.map namedEntry,
      Handled (handlesOf root) entry.2 := by
    intro entry hentry
    obtain ⟨geometry, hgeometry, rfl⟩ := List.mem_map.mp hentry
    exact inside_container h.container geometry hgeometry
  apply visit_routes hinside
  . exact hinside _ (mem_of_lookup_eq_some hexpanded.origin_eq)
  . exact hexpanded.issue

/-- A description with one mode that addresses one lamp, in the ways of writing it that matter to
the importer. -/
structure LampLayout where
  container : String
  tag : String
  lamp : String
  strays : List XMLElement

namespace LampLayout

def base (layout : LampLayout) : XMLElement :=
  .node 3 "Geometry" [("Name", "Base")]
    (.node 8 layout.tag [("Name", layout.lamp)] [] :: layout.strays)

def mode (layout : LampLayout) : XMLElement :=
  .node 5 "DMXMode" [("Name", "Standard"), ("Geometry", "Base")] [
    .node 6 "DMXChannel" [("Offset", "1"), ("Geometry", layout.lamp)] [
      .node 7 "LogicalChannel" [("Attribute", "Dimmer")] []]]

def geometries (layout : LampLayout) : XMLElement :=
  .node 2 layout.container [] [layout.base]

def fixtureType (layout : LampLayout) : XMLElement :=
  .node 1 "FixtureType" [] [layout.geometries, .node 4 "DMXModes" [] [layout.mode]]

def description (layout : LampLayout) : XMLElement :=
  .node 0 "GDTF" [] [layout.fixtureType]

end LampLayout

def plainLamp : LampLayout := ⟨"Geometries", "Beam", "Lamp", []⟩

def besideUnnamed : LampLayout := ⟨"Geometries", "Beam", "geometry", [.node 9 "Beam" [] []]⟩

def underOtherTag : LampLayout := ⟨"Geometries", "Emitter", "Lamp", []⟩

def inLowerCase : LampLayout := ⟨"geometries", "Beam", "Lamp", []⟩

def lampLayouts : List LampLayout := [plainLamp, besideUnnamed, underOtherTag, inLowerCase]

def lampReader (layout : LampLayout) : GdtfReader where
  description _ := some layout.description
  wheels _ := []
  functions _ _ _ := [{ attributeName := "Dimmer" }]
  normalizeAttributeIdentity id name := { id, name }
  resolveModeMaster _ _ program := program.modeMaster

theorem lower_tags
    : ["GDTF", "FixtureType", "Geometries", "geometries", "Geometry", "DMXModes", "DMXMode",
        "DMXChannel", "LogicalChannel", "Beam", "Emitter", "Standard", "standard"].map lowerAscii
      = ["gdtf", "fixturetype", "geometries", "geometries", "geometry", "dmxmodes", "dmxmode",
        "dmxchannel", "logicalchannel", "beam", "emitter", "standard", "standard"] := by
  decide +kernel

theorem trim_names
    : ["Base", "Lamp", "geometry", "Standard", "standard"].map trimAscii
      = ["Base", "Lamp", "geometry", "Standard", "standard"] := by
  decide +kernel

theorem collect_lampLayouts
    : ∀ layout ∈ lampLayouts,
        collectElementsByName "dmxmode" layout.description = [layout.mode] ∧
          collectElementsByName "geometries" layout.description = [layout.geometries] := by
  have htags := lower_tags
  simp only [List.map_cons, List.map_nil, List.cons.injEq, and_true] at htags
  simp [lampLayouts, plainLamp, besideUnnamed, underOtherTag, inLowerCase, collectElementsByName,
    collectFromChildren, LampLayout.description, LampLayout.fixtureType, LampLayout.geometries,
    LampLayout.base, LampLayout.mode, htags]

theorem findMode_lampLayouts
    : ∀ layout ∈ lampLayouts, ∀ requested ∈ ["Standard", "standard"],
        findMode layout.description requested = some layout.mode := by
  have hnames := trim_names
  have htags := lower_tags
  simp only [List.map_cons, List.map_nil, List.cons.injEq, and_true] at hnames htags
  intro layout hlayout requested hrequested
  rw [findMode, (collect_lampLayouts layout hlayout).1]
  simp only [List.mem_cons, List.not_mem_nil, or_false] at hrequested
  rcases hrequested with rfl | rfl <;>
    simp [readAttr, LampLayout.mode, patchAttribute, XMLElement.attributeText,
      XMLElement.attributes, hnames, htags]

theorem topLevel_lampLayouts
    : ∀ layout ∈ lampLayouts, topLevelGeometries layout.description = .ok [("Base", layout.base)] := by
  intro layout hlayout
  rw [topLevelGeometries, (collect_lampLayouts layout hlayout).2]
  rfl

theorem visit_lampLayouts
    : ∀ layout ∈ lampLayouts,
        (visit [("Base", layout.base)] (handlesOf layout.description) [] {} layout.base "" "" none
            0).issue = none ∧
          (visit [("Base", layout.base)] (handlesOf layout.description) [] {} layout.base "" ""
            none 0).routes
              = [⟨"Base", "Base", "", none, 0⟩,
                ⟨layout.lamp, "Base/" ++ layout.lamp, "", none, 0⟩] := by
  have hnames := trim_names
  have htags := lower_tags
  simp only [List.map_cons, List.map_nil, List.cons.injEq, and_true] at hnames htags
  intro layout hlayout
  have hhandles : 3 ∈ handlesOf layout.description ∧ 8 ∈ handlesOf layout.description := by
    simp [LampLayout.description, LampLayout.fixtureType, LampLayout.geometries, LampLayout.base,
      handlesOf, handlesOfAll]
  generalize handlesOf layout.description = handles at hhandles ⊢
  simp only [lampLayouts, List.mem_cons, List.not_mem_nil, or_false] at hlayout
  rcases hlayout with rfl | rfl | rfl | rfl <;>
  . simp [visit, visitChildren, plainLamp, besideUnnamed, underOtherTag, inLowerCase,
      LampLayout.base, patchAttribute, XMLElement.attributeText, XMLElement.attributes,
      XMLElement.handle, XMLElement.name, XMLElement.children, hnames, htags, hhandles,
      appendGeometryPath]
    exact ⟨rfl, rfl⟩

theorem expandInstanceDmxRoutes_eq {root mode origin : XMLElement}
    {roots : List (String × XMLElement)} {routes : List DmxGeometryRoute}
    (hroots : topLevelGeometries root = .ok roots) (horigin : originOf roots mode = some origin)
    (hissue : (visit roots (handlesOf root) [] {} origin "" "" none 0).issue = none)
    (hroutes : (visit roots (handlesOf root) [] {} origin "" "" none 0).routes = routes)
    (fixture : CompiledGdtfFixtureType)
    : expandInstanceDmxRoutes fixture root mode = (do
        let start : Expansion := { fixture := { fixture with
          channelPrograms := [], components := [], geometries := [], dmxChannels := [] } }
        let x ← fixture.channelPrograms.foldlM (expandProgram fixture routes) start
        let channelPrograms ← ExceptT.mk (some (redirectMasters x))
        return { x.fixture with channelPrograms }) := by
  rw [originOf] at horigin
  rw [expandInstanceDmxRoutes, hroots]
  have hread : (ExceptT.mk (some (.ok roots)) : Checked String (List (String × XMLElement)))
      = pure roots := rfl
  rw [hread, pure_bind, horigin]
  dsimp only
  rw [hissue, hroutes]

-- The compiler finds the lamp in each of the layouts, by both spellings of the mode.
theorem compile_lampLayouts
    : ∀ layout ∈ lampLayouts, ∀ requested ∈ ["Standard", "standard"], ∃ fixture,
        compileGdtfFixtureType (lampReader layout) "lamp.gdtf" requested = some fixture ∧
        fixture.dmxPatchSupported = true ∧ fixture.geometries.length = 1 ∧
        fixture.channelPrograms.map (fun program => (geometryOf fixture program).path)
          = ["Base/" ++ layout.lamp] := by
  intro layout hlayout requested hrequested
  obtain ⟨hissue, hroutes⟩ := visit_lampLayouts layout hlayout
  have horigin : originOf [("Base", layout.base)] layout.mode = some layout.base := rfl
  have hcompile :
      (compileGdtfFixtureType (lampReader layout) "lamp.gdtf" requested).map
        (fun fixture => (fixture.dmxPatchSupported, fixture.geometries.length,
          fixture.channelPrograms.map (fun program => (geometryOf fixture program).path)))
      = some (true, 1, ["Base/" ++ layout.lamp]) := by
    rw [compileGdtfFixtureType]
    simp only [lampReader]
    rw [findMode_lampLayouts layout hlayout requested hrequested]
    simp only [expandInstanceDmxRoutes_eq (topLevel_lampLayouts layout hlayout) horigin hissue
      hroutes]
    clear hissue hroutes horigin
    simp only [List.mem_cons, List.not_mem_nil, or_false, lampLayouts] at hrequested hlayout
    rcases hlayout with rfl | rfl | rfl | rfl <;> rcases hrequested with rfl | rfl <;>
      decide +kernel
  obtain ⟨fixture, hfixture, hfields⟩ := Option.map_eq_some_iff.mp hcompile
  simp only [Prod.mk.injEq] at hfields
  exact ⟨fixture, hfixture, hfields⟩

theorem documentFixtureType_lamp (layout : LampLayout)
    : documentFixtureType [layout.description] = some layout.fixtureType := by
  simp [documentFixtureType, firstNamed, LampLayout.description, LampLayout.fixtureType,
    XMLElement.name, XMLElement.children]

theorem dmxModesOf_lamp (layout : LampLayout) (h : layout.container = "Geometries")
    : dmxModesOf layout.fixtureType = [layout.mode] := by
  simp [dmxModesOf, firstNamed, LampLayout.fixtureType, LampLayout.geometries, LampLayout.mode,
    XMLElement.name, XMLElement.children, h]

theorem conforms_plainLamp
    : Conforms [plainLamp.description] plainLamp.description "Standard" plainLamp.mode
        plainLamp.fixtureType plainLamp.geometries where
  head := rfl
  found := documentFixtureType_lamp plainLamp
  listed := by
    simp [firstNamed, plainLamp, LampLayout.fixtureType, LampLayout.geometries, XMLElement.name,
      XMLElement.children]
  container := (collect_lampLayouts plainLamp (by simp [lampLayouts])).2
  readable := by
    have hnames := trim_names
    have htags := lower_tags
    have hbeam : isSupportedGeometryTag "Beam" = true := by decide +kernel
    simp only [List.map_cons, List.map_nil, List.cons.injEq, and_true] at hnames htags
    intro geometry hgeometry
    rw [List.mem_singleton.mp hgeometry]
    constructor
    . simp [importedElements, importedOfAll, plainLamp, LampLayout.base, isNamed, patchAttribute,
        XMLElement.attributeText, XMLElement.attributes, XMLElement.name, hnames, htags, hbeam]
    . simp [skippedElements, skippedOfAll, plainLamp, LampLayout.base, XMLElement.name, htags,
        hbeam]
  selects := by
    rw [dmxModesOf_lamp plainLamp rfl]
    refine ⟨by decide, List.mem_singleton_self _, rfl, ?_⟩
    intro other hother _
    exact List.mem_singleton.mp hother

/-- What the importer makes of a layout: its error and the paths of its nodes. -/
def importLamp (layout : LampLayout) (requested : String) : Option (String × List String) :=
  (buildFixtureGeometryNodes 3 [layout.description] ⟨"lamp.gdtf", requested, "fixture"⟩
    "scene").map (fun result => (result.error, result.nodes.map SceneNode.gdtfGeometryPath))

end Peraviz.Gdtf
