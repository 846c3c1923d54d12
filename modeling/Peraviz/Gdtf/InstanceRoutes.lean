import Mathlib.Algebra.Group.Nat.Defs
import Peraviz.Gdtf.GeometryPaths
import Peraviz.KeyedIndex.Basic

/-!
This module contains what the expansion along geometry references makes of the programs of a mode:
one copy for every route to the geometry of a program, with the address of the reference, the
channels of its context and the masters of its context.
-/

namespace Peraviz.Gdtf

open CheckedInt KeyedIndex Peraviz.Runtime

/-- The routes of a mode, none where the mode has no geometry to start at. -/
def routesOf (root mode : XMLElement) : List DmxGeometryRoute :=
  match topLevelGeometries root with
  | .error _ => []
  | .ok roots =>
    match originOf roots mode with
    | none => []
    | some origin => (visit roots (handlesOf root) [] {} origin "" "" none 0).routes

section

variable (original : CompiledGdtfFixtureType) (routes : List DmxGeometryRoute)

def routePairs : List (ChannelProgram × DmxGeometryRoute) :=
  original.channelPrograms.flatMap (fun program =>
    (routes.filter (fun route => route.name = (geometryOf original program).name)).map
      (fun route => (program, route)))

/-- What the Break element of a reference says for a program. -/
def BreakSays (program : ChannelProgram) (reference : XMLElement) (target offset : Int32) : Prop :=
  ∃ entry, (referenceEntry original routes program reference).run = some (.ok entry)
    ∧ breakTarget entry = .ok target ∧ breakOffset entry = .ok offset

/-- The DMXOffset of a route for a program, one where the route has no reference. -/
def RouteOffset (program : ChannelProgram) (route : DmxGeometryRoute) (offset : Int32) : Prop :=
  match route.reference with
  | none => offset = 1
  | some reference => ∃ target, BreakSays original routes program reference target offset

/-- A copy has the addresses of its route and is its program besides. -/
structure Copies (pair : ChannelProgram × DmxGeometryRoute) (copy : ChannelProgram) : Prop where
  offsets : ∃ offset, RouteOffset original routes pair.1 pair.2 offset ∧
    List.Forall₂ (fun byte placed : Int32 => placed.toInt = byte.toInt + offset.toInt - 1
      ∧ placed.toInt ≤ 512) pair.1.dmxOffsetsOneBased copy.dmxOffsetsOneBased
  numbered : pair.1.dmxBreak ≠ 0 → copy.dmxBreak = pair.1.dmxBreak
  overwrite : pair.1.dmxBreak = 0 → ∃ reference offset, pair.2.reference = some reference
    ∧ BreakSays original routes pair.1 reference copy.dmxBreak offset
  rest : copy = { pair.1 with
    id := copy.id, dmxOffsetsOneBased := copy.dmxOffsetsOneBased, dmxBreak := copy.dmxBreak
    geometryInstanceId := copy.geometryInstanceId, componentId := copy.componentId
    dmxChannelId := copy.dmxChannelId, modeMaster := copy.modeMaster }

end

/-- A program of the result with the pair that it is the copy of. -/
abbrev PlacedCopy := (ChannelProgram × DmxGeometryRoute) × ChannelProgram

/-- `master` is the copy of the master that the program of `entry` names: one in the context of
`entry`, or one outside of all references where that context has none. -/
def IsMasterOf (copies : List PlacedCopy) (entry master : PlacedCopy) : Prop :=
  master ∈ copies ∧ master.1.1.id = entry.1.1.modeMaster.masterProgramId
    ∧ (master.1.2.context = entry.1.2.context ∨ master.1.2.context = ""
      ∧ ∀ other ∈ copies, other.1.1.id = entry.1.1.modeMaster.masterProgramId →
        other.1.2.context ≠ entry.1.2.context)

/-- The condition of a program that is read at `master`. -/
def linkedTo (condition : ModeMasterCondition) (master : ChannelProgram) : ModeMasterCondition :=
  { condition with
    masterProgramId := master.id, masterChannelId := master.dmxChannelId
    targetId := if condition.targetKind = .listed .dmxChannel then master.dmxChannelId
      else master.id }

/-- The result has one copy for each pair of a program and a matching route. -/
structure Routed (original : CompiledGdtfFixtureType) (routes : List DmxGeometryRoute)
    (result : CompiledGdtfFixtureType) : Prop where
  copies : List.Forall₂ (Copies original routes) (routePairs original routes)
    result.channelPrograms
  ids : result.channelPrograms.map ChannelProgram.id
    = (List.range result.channelPrograms.length).map (fun i => Int32.ofNat (i + 1))
  channels : result.dmxChannels.length < 2 ^ 32 →
    ∀ a ∈ (routePairs original routes).zip result.channelPrograms,
      ∀ b ∈ (routePairs original routes).zip result.channelPrograms,
        a.2.dmxChannelId = b.2.dmxChannelId
          ↔ a.1.1.dmxChannelId = b.1.1.dmxChannelId ∧ a.1.2.context = b.1.2.context
  masters : ∀ entry ∈ (routePairs original routes).zip result.channelPrograms,
    entry.1.1.modeMaster.targetKind ≠ .listed .none → entry.1.1.modeMaster.valid = true →
      ∃ master, IsMasterOf ((routePairs original routes).zip result.channelPrograms) entry master
        ∧ entry.2.modeMaster = linkedTo entry.1.1.modeMaster master.2
  unlinked : ∀ entry ∈ (routePairs original routes).zip result.channelPrograms,
    entry.1.1.modeMaster.targetKind = .listed .none ∨ entry.1.1.modeMaster.valid = false →
      entry.2.modeMaster = entry.1.1.modeMaster

/-! ### The copies -/

section

variable {original : CompiledGdtfFixtureType} {routes : List DmxGeometryRoute}

theorem yields_lift {ε α : Type} {P : α → Prop} {x : Option α} (h : ∀ a, x = some a → P a)
    : Yields (ExceptT.lift x : Checked ε α) P := by
  intro a ha
  cases x with
  | none => cases ha
  | some b =>
    cases ha
    exact h a rfl

theorem yields_adjustByte (offset byte : Int32)
    : Yields (adjustByte offset byte) (fun placed =>
        placed.toInt = byte.toInt + offset.toInt - 1 ∧ placed.toInt ≤ 512) := by
  unfold adjustByte
  refine Yields.bind (yields_lift (fun step hstep => subChecked_eq_some hstep)) ?_
  intro step hstep
  refine Yields.bind (yields_lift (fun sum hsum => addChecked_eq_some hsum)) ?_
  intro sum hsum
  split
  . exact Yields.throw_bind
  . next hle =>
    have hle := Int32.le_iff_toInt_le.mp (Int32.not_lt.mp hle)
    have hone : (1 : Int32).toInt = 1 := rfl
    have hlimit : (512 : Int32).toInt = 512 := rfl
    refine Yields.pure ?_
    omega

theorem yields_mapM {ε α β : Type} {R : α → β → Prop} {f : α → Checked ε β} {l : List α}
    (h : ∀ a, Yields (f a) (R a))
    : Yields (l.mapM f) (List.Forall₂ R l) := by
  induction l with
  | nil => exact Yields.pure List.Forall₂.nil
  | cons a l ih =>
    rw [List.mapM_cons]
    refine Yields.bind (h a) ?_
    intro b hb
    refine Yields.bind ih ?_
    intro bs hbs
    exact Yields.pure (List.Forall₂.cons hb hbs)

theorem yields_adjustProgram {program : ChannelProgram} {route : DmxGeometryRoute}
    (hlegal : program.Legal)
    : Yields (adjustProgram original routes program route) (fun copy =>
        Copies original routes (program, route) copy ∧ copy.modeMaster = program.modeMaster) := by
  rw [adjustProgram]
  split
  . exact Yields.throw_bind
  . split
    . next reference hreference =>
      refine Yields.bind (P := fun entry =>
        (referenceEntry original routes program reference).run = some (.ok entry))
        (fun _ => id) ?_
      intro entry hentry
      refine Yields.bind (Yields.ofExcept (P := fun target => breakTarget entry = .ok target)
        (fun _ => id)) ?_
      intro target htarget
      refine Yields.bind (Yields.ofExcept (P := fun offset => breakOffset entry = .ok offset)
        (fun _ => id)) ?_
      intro offset hoffset
      have hsays : BreakSays original routes program reference target offset :=
        ⟨entry, hentry, htarget, hoffset⟩
      split
      . exact Yields.throw_bind
      . next htargets =>
        refine Yields.bind (yields_mapM (yields_adjustByte offset)) ?_
        intro placed hplaced
        refine Yields.pure ⟨⟨⟨offset, ?_, hplaced⟩, ?_, ?_, rfl⟩, rfl⟩
        . unfold RouteOffset
          rw [hreference]
          exact ⟨target, hsays⟩
        . intro hnumbered
          exact if_neg hnumbered
        . intro hoverwrite
          refine ⟨reference, offset, hreference, ?_⟩
          change BreakSays original routes program reference (placedBreak program target) offset
          rw [placedBreak, if_pos hoverwrite]
          exact hsays
    . next hreference =>
      split
      . exact Yields.throw_bind
      . next hbreak =>
        refine Yields.pure ⟨⟨⟨1, ?_, ?_⟩, fun _ => rfl, fun h => absurd h hbreak, rfl⟩, rfl⟩
        . unfold RouteOffset
          rw [hreference]
        . rw [List.forall₂_same]
          intro byte hbyte
          have := hlegal.offsets byte hbyte
          have hone : (1 : Int32).toInt = 1 := rfl
          exact ⟨by omega, this.2⟩

/-! ### The ids -/

def channelKey (pair : ChannelProgram × DmxGeometryRoute) : String :=
  pair.2.context ++ ":" ++ toString pair.1.dmxChannelId

theorem channelKey_inj {pair pair' : ChannelProgram × DmxGeometryRoute}
    : channelKey pair = channelKey pair'
        ↔ pair.1.dmxChannelId = pair'.1.dmxChannelId ∧ pair.2.context = pair'.2.context := by
  have hseparator : ":" = ':'.toString := rfl
  unfold channelKey
  rw [hseparator, numberedText_int32_inj (by decide) (by decide)]
  exact and_comm

def idAt (position : Nat) : Int32 := Int32.ofNat (position + 1)

/-- The expansion holds one copy for each of the pairs, in a channel that stands for the program's
own channel and the context. -/
structure Expansion.Represents (original : CompiledGdtfFixtureType)
    (routes : List DmxGeometryRoute) (x : Expansion)
    (pairs : List (ChannelProgram × DmxGeometryRoute)) : Prop where
  copies : List.Forall₂ (fun pair copy => Copies original routes pair copy
    ∧ copy.modeMaster = pair.1.modeMaster
    ∧ x.channelIds.lookup (channelKey pair) = some copy.dmxChannelId)
      pairs x.fixture.channelPrograms
  ids : x.fixture.channelPrograms.map ChannelProgram.id
    = (List.range x.fixture.channelPrograms.length).map idAt
  instances : x.instances = pairs.map (fun pair => ⟨pair.1.id, pair.2.context⟩)
  numbered : Numbered idAt x.channelIds
  channels : x.fixture.dmxChannels.length = x.channelIds.length

variable {x : Expansion}

/-- What the ids of a copy leave alone. -/
structure Expansion.SameChannels (x y : Expansion) : Prop where
  channelPrograms : y.fixture.channelPrograms = x.fixture.channelPrograms
  dmxChannels : y.fixture.dmxChannels = x.fixture.dmxChannels
  channelIds : y.channelIds = x.channelIds
  instances : y.instances = x.instances

theorem Expansion.sameChannels_geometryId (program : ChannelProgram) (route : DmxGeometryRoute)
    : x.SameChannels (x.geometryId original program route).2 := by
  rw [Expansion.geometryId]
  split
  . exact ⟨rfl, rfl, rfl, rfl⟩
  . exact ⟨rfl, rfl, rfl, rfl⟩

theorem Expansion.sameChannels_componentId (program : ChannelProgram) (route : DmxGeometryRoute)
    (gid : Int32)
    : x.SameChannels (x.componentId original program route gid).2 := by
  simp only [Expansion.componentId]
  split
  . exact ⟨rfl, rfl, rfl, rfl⟩
  . exact ⟨rfl, rfl, rfl, rfl⟩

/-- The channel of a pair is looked up under its key from then on. -/
structure Expansion.Channelled (x : Expansion) (pair : ChannelProgram × DmxGeometryRoute)
    (id : Int32) (y : Expansion) : Prop where
  channelPrograms : y.fixture.channelPrograms = x.fixture.channelPrograms
  instances : y.instances = x.instances
  here : y.channelIds.lookup (channelKey pair) = some id
  kept : ∀ key id, x.channelIds.lookup key = some id → y.channelIds.lookup key = some id
  numbered : Numbered idAt y.channelIds
  channels : y.fixture.dmxChannels.length = y.channelIds.length

theorem Expansion.channelled_channelId (hnumbered : Numbered idAt x.channelIds)
    (hchannels : x.fixture.dmxChannels.length = x.channelIds.length) (program copy : ChannelProgram)
    (route : DmxGeometryRoute)
    : x.Channelled (program, route) (x.channelId original program copy route).1
        (x.channelId original program copy route).2 := by
  rw [Expansion.channelId]
  dsimp only
  split
  . next id hid => exact ⟨rfl, rfl, hid, fun _ _ h => h, hnumbered, hchannels⟩
  . next hnew =>
    have hid : nextId x.fixture.dmxChannels = idAt x.channelIds.length := by
      rw [nextId, hchannels]
      rfl
    have hkey : route.context ++ ":" ++ toString program.dmxChannelId
        = channelKey (program, route) := rfl
    rw [hkey] at hnew
    refine ⟨rfl, rfl, ?_, ?_, ?_, ?_⟩
    . change List.lookup _ (x.channelIds ++ [(channelKey (program, route), _)]) = _
      rw [List.lookup_append, hnew, Option.none_or, List.lookup_cons_self]
    . intro key id h
      rw [List.lookup_append, h, Option.some_or]
    . rw [hid]
      exact hnumbered.concat hnew
    . simp only [List.length_append, List.length_singleton, hchannels]

theorem Expansion.Represents.place {pairs : List (ChannelProgram × DmxGeometryRoute)}
    (h : x.Represents original routes pairs) {program copy : ChannelProgram}
    {route : DmxGeometryRoute} (hcopy : Copies original routes (program, route) copy)
    (hmaster : copy.modeMaster = program.modeMaster)
    : (x.place original program copy route).Represents original routes
        (pairs ++ [(program, route)]) := by
  unfold Expansion.place
  dsimp only
  generalize hgid : x.geometryId original program route = placed
  have hgeometry := @sameChannels_geometryId original x program route
  rw [hgid] at hgeometry
  generalize hcid : placed.2.componentId original program route placed.1 = bound
  have hcomponent := @sameChannels_componentId original placed.2 program route placed.1
  rw [hcid] at hcomponent
  have hchannelled : bound.2.Channelled (program, route) _ _ :=
    @channelled_channelId original bound.2
      (by rw [hcomponent.channelIds, hgeometry.channelIds]; exact h.numbered)
      (by rw [hcomponent.dmxChannels, hgeometry.dmxChannels, hcomponent.channelIds,
            hgeometry.channelIds]; exact h.channels) program copy route
  generalize bound.2.channelId original program copy route = numbered at hchannelled ⊢
  have hprograms : numbered.2.fixture.channelPrograms = x.fixture.channelPrograms := by
    rw [hchannelled.channelPrograms, hcomponent.channelPrograms, hgeometry.channelPrograms]
  constructor
  . dsimp only
    rw [hprograms]
    apply List.rel_append
    . apply h.copies.imp
      intro pair old hold
      refine ⟨hold.1, hold.2.1, ?_⟩
      apply hchannelled.kept
      rw [hcomponent.channelIds, hgeometry.channelIds]
      exact hold.2.2
    . refine List.Forall₂.cons ⟨⟨hcopy.offsets, hcopy.numbered, hcopy.overwrite, ?_⟩, hmaster,
        hchannelled.here⟩ List.Forall₂.nil
      have hrest := hcopy.rest
      rw [hrest]
  . dsimp only
    rw [hprograms, List.map_append, h.ids, List.length_append, List.length_singleton,
      List.range_succ, List.map_append]
    rfl
  . dsimp only
    rw [hchannelled.instances, hcomponent.instances, hgeometry.instances, h.instances,
      List.map_append]
    rfl
  . exact hchannelled.numbered
  . dsimp only
    rw [Expansion.claimChannel, List.length_modify]
    exact hchannelled.channels

theorem yields_foldlM_growing {ε α β γ : Type} {I : List γ → β → Prop} {f : α → List γ}
    {step : β → α → Checked ε β} {l : List α} {b : β} {made : List γ} (hb : I made b)
    (hstep : ∀ made b, I made b → ∀ a ∈ l, Yields (step b a) (I (made ++ f a)))
    : Yields (l.foldlM step b) (I (made ++ l.flatMap f)) := by
  induction l generalizing b made with
  | nil =>
    rw [List.flatMap_nil, List.append_nil]
    exact Yields.pure hb
  | cons a l ih =>
    rw [List.foldlM_cons, List.flatMap_cons, ← List.append_assoc]
    refine Yields.bind (hstep made b hb a (List.mem_cons_self ..)) ?_
    intro b' hb'
    apply ih hb'
    intro made b hb a ha
    exact hstep made b hb a (List.mem_cons_of_mem _ ha)

theorem yields_expandProgram_represents {pairs : List (ChannelProgram × DmxGeometryRoute)}
    (h : x.Represents original routes pairs) {program : ChannelProgram} (hlegal : program.Legal)
    : Yields (expandProgram original routes x program) (fun y =>
        y.Represents original routes (pairs
          ++ (routes.filter (fun route => route.name = (geometryOf original program).name)).map
            (fun route => (program, route)))) := by
  rw [expandProgram, List.map_eq_flatMap]
  refine Yields.bind (yields_foldlM_growing
    (I := fun pairs (y : Expansion) => y.Represents original routes pairs)
    (f := fun route => [(program, route)]) h ?_) ?_
  . intro pairs y hy route _
    refine Yields.bind (yields_adjustProgram hlegal) ?_
    intro copy hcopy
    exact Yields.pure (hy.place hcopy.1 hcopy.2)
  . intro y hy
    split
    . exact Yields.throw_bind
    . exact Yields.pure hy

/-! ### The masters -/

theorem mapM_ok_getElem? {ε α β : Type} {f : α → Except ε β} {l : List α} {r : List β}
    (h : l.mapM f = .ok r)
    : r.length = l.length ∧ ∀ (i : Nat) a, l[i]? = some a → ∃ b, r[i]? = some b ∧ f a = .ok b := by
  induction l generalizing r with
  | nil =>
    cases h
    refine ⟨rfl, ?_⟩
    intro i a ha
    cases ha
  | cons a l ih =>
    rw [List.mapM_cons] at h
    cases hf : f a with
    | error e =>
      rw [hf] at h
      cases h
    | ok b =>
      cases hl : l.mapM f with
      | error e =>
        rw [hf, hl] at h
        cases h
      | ok bs =>
        rw [hf, hl] at h
        cases h
        obtain ⟨hlength, hentries⟩ := ih hl
        refine ⟨by rw [List.length_cons, List.length_cons, hlength], ?_⟩
        intro i c hc
        cases i with
        | zero =>
          cases hc
          exact ⟨b, rfl, hf⟩
        | succ i => exact hentries i c hc

theorem masterInstance_eq_some {instances : List RouteInstance} {masterId : Int32}
    {context : String} {target : Nat} (h : masterInstance instances masterId context = some target)
    : ∃ found, instances[target]? = some found ∧ found.originalId = masterId
        ∧ (found.context = context ∨ found.context = ""
          ∧ ∀ other ∈ instances, other.originalId = masterId → other.context ≠ context) := by
  unfold masterInstance at h
  dsimp only at h
  rw [Option.or_eq_some_iff] at h
  cases h with
  | inl hhere =>
    have hsays := List.find?_some hhere
    split at hsays
    next found hget =>
      have hfound := of_decide_eq_true hsays
      exact ⟨found, hget, hfound.1, Or.inl hfound.2⟩
    next => cases hsays
  | inr hroot =>
    obtain ⟨hnone, hroot⟩ := hroot
    have hsays := List.find?_some hroot
    split at hsays
    next found hget =>
      have hfound := of_decide_eq_true hsays
      refine ⟨found, hget, hfound.1, Or.inr ⟨hfound.2, ?_⟩⟩
      intro other hother hmaster heq
      obtain ⟨j, hj⟩ := List.mem_iff_getElem?.mp hother
      have hlt := (List.getElem?_eq_some_iff.mp hj).1
      have hno := List.find?_eq_none.mp hnone j (by simpa using hlt)
      rw [hj] at hno
      exact hno (decide_eq_true ⟨hmaster, heq⟩)
    next => cases hsays

/-- What the redirection of a program changes. -/
structure Redirected (x : Expansion) (i : Nat) (program redirected : ChannelProgram) : Prop where
  rest : redirected = { program with modeMaster := redirected.modeMaster }
  unlinked : program.modeMaster.targetKind = .listed .none ∨ program.modeMaster.valid = false →
    redirected.modeMaster = program.modeMaster
  linked : program.modeMaster.targetKind ≠ .listed .none → program.modeMaster.valid = true →
    ∃ target, masterInstance x.instances program.modeMaster.masterProgramId
        ((x.instances[i]?.map RouteInstance.context).getD "") = some target
      ∧ redirected.modeMaster
        = linkedTo program.modeMaster (x.fixture.channelPrograms.getD target {})

theorem redirected_of_redirectMaster {i : Nat} {program redirected : ChannelProgram}
    (h : redirectMaster x i program = .ok redirected)
    : Redirected x i program redirected := by
  unfold redirectMaster at h
  dsimp only at h
  split at h
  . next hunlinked =>
    cases h
    refine ⟨rfl, fun _ => rfl, ?_⟩
    intro hkind hvalid
    cases hunlinked with
    | inl hnone => exact absurd hnone hkind
    | inr hinvalid =>
      rw [hvalid] at hinvalid
      cases hinvalid
  . next hlinked =>
    split at h
    . cases h
    . next target htarget =>
      cases h
      exact ⟨rfl, fun hunlinked => absurd hunlinked hlinked, fun _ _ => ⟨target, htarget, rfl⟩⟩

section

variable {pairs : List (ChannelProgram × DmxGeometryRoute)} {result : List ChannelProgram}

-- A program of the result with its pair: both stand at the place of the copy that was redirected.
theorem Expansion.Represents.entry (h : x.Represents original routes pairs)
    (hredirect : redirectMasters x = .ok result) {entry : PlacedCopy}
    (hentry : entry ∈ pairs.zip result)
    : ∃ i copy, pairs[i]? = some entry.1 ∧ result[i]? = some entry.2
        ∧ x.fixture.channelPrograms[i]? = some copy ∧ Redirected x i copy entry.2
        ∧ Copies original routes entry.1 copy ∧ copy.modeMaster = entry.1.1.modeMaster
        ∧ x.channelIds.lookup (channelKey entry.1) = some copy.dmxChannelId := by
  obtain ⟨hlength, hentries⟩ := mapM_ok_getElem? hredirect
  obtain ⟨i, hi⟩ := List.mem_iff_getElem?.mp hentry
  rw [List.getElem?_zip_eq_some] at hi
  obtain ⟨hpair, hresult⟩ := hi
  have hlt := (List.getElem?_eq_some_iff.mp hresult).1
  rw [hlength, List.length_zipIdx] at hlt
  have hcopy := List.getElem?_eq_getElem hlt
  obtain ⟨redirected, hget, hok⟩ := hentries i (x.fixture.channelPrograms[i], i) (by
    rw [List.getElem?_zipIdx, hcopy, Option.map_some, Nat.zero_add])
  rw [hresult] at hget
  cases hget
  have hzip : (entry.1, x.fixture.channelPrograms[i]) ∈ pairs.zip x.fixture.channelPrograms := by
    rw [List.mem_iff_getElem?]
    exact ⟨i, by rw [List.getElem?_zip_eq_some]; exact ⟨hpair, hcopy⟩⟩
  exact ⟨i, _, hpair, hresult, hcopy, redirected_of_redirectMaster hok,
    (List.forall₂_iff_zip.mp h.copies).2 hzip⟩

theorem Expansion.Represents.length_result (h : x.Represents original routes pairs)
    (hredirect : redirectMasters x = .ok result)
    : pairs.length = result.length ∧ result.length = x.fixture.channelPrograms.length := by
  have hlength := (mapM_ok_getElem? hredirect).1
  rw [List.length_zipIdx] at hlength
  exact ⟨h.copies.length_eq.trans hlength.symm, hlength⟩

theorem Copies.redirected {pair : ChannelProgram × DmxGeometryRoute} {i : Nat}
    {copy redirected : ChannelProgram} (h : Copies original routes pair copy)
    (hredirected : Redirected x i copy redirected)
    : Copies original routes pair redirected := by
  rw [hredirected.rest]
  refine ⟨h.offsets, h.numbered, h.overwrite, ?_⟩
  have hrest := h.rest
  rw [hrest]

theorem Expansion.Represents.ids_result (h : x.Represents original routes pairs)
    (hredirect : redirectMasters x = .ok result)
    : result.map ChannelProgram.id = (List.range result.length).map idAt := by
  obtain ⟨_, hlength⟩ := h.length_result hredirect
  rw [hlength, ← h.ids]
  apply List.ext_getElem?
  intro i
  rw [List.getElem?_map, List.getElem?_map]
  cases hcopy : x.fixture.channelPrograms[i]? with
  | none =>
    rw [List.getElem?_eq_none_iff] at hcopy
    rw [List.getElem?_eq_none (by omega)]
  | some copy =>
    obtain ⟨redirected, hget, hok⟩ := (mapM_ok_getElem? hredirect).2 i (copy, i) (by
      rw [List.getElem?_zipIdx, hcopy, Option.map_some, Nat.zero_add])
    rw [hget, (redirected_of_redirectMaster hok).rest]
    rfl

-- the instance of a pair stands at the place of its copy
theorem Expansion.Represents.instance_eq (h : x.Represents original routes pairs) {i : Nat}
    {found : RouteInstance} (hfound : x.instances[i]? = some found)
    : ∃ pair, pairs[i]? = some pair ∧ found = ⟨pair.1.id, pair.2.context⟩ := by
  rw [h.instances, List.getElem?_map] at hfound
  cases hpair : pairs[i]? with
  | none =>
    rw [hpair] at hfound
    cases hfound
  | some pair =>
    rw [hpair] at hfound
    exact ⟨pair, rfl, (Option.some.inj hfound).symm⟩

theorem Expansion.Represents.master (h : x.Represents original routes pairs)
    (hredirect : redirectMasters x = .ok result) {entry : PlacedCopy}
    (hentry : entry ∈ pairs.zip result)
    (hkind : entry.1.1.modeMaster.targetKind ≠ .listed .none)
    (hvalid : entry.1.1.modeMaster.valid = true)
    : ∃ master, IsMasterOf (pairs.zip result) entry master
        ∧ entry.2.modeMaster = linkedTo entry.1.1.modeMaster master.2 := by
  obtain ⟨i, copy, hpair, _, _, hredirected, _, hmaster, _⟩ := h.entry hredirect hentry
  rw [← hmaster] at hkind hvalid ⊢
  obtain ⟨target, htarget, hlinked⟩ := hredirected.linked hkind hvalid
  have hcontext : (x.instances[i]?.map RouteInstance.context).getD "" = entry.1.2.context := by
    rw [h.instances, List.getElem?_map, hpair]
    rfl
  rw [hcontext] at htarget
  obtain ⟨found, hfound, hid, hwhere⟩ := masterInstance_eq_some htarget
  obtain ⟨pair, htargetPair, rfl⟩ := h.instance_eq hfound
  obtain ⟨hpairs, hlength⟩ := h.length_result hredirect
  have hlt := (List.getElem?_eq_some_iff.mp htargetPair).1
  have hprogram := List.getElem?_eq_getElem (show target < x.fixture.channelPrograms.length by omega)
  obtain ⟨redirected, hget, hok⟩ := (mapM_ok_getElem? hredirect).2 target _ (by
    rw [List.getElem?_zipIdx, hprogram, Option.map_some, Nat.zero_add])
  have hmem : (pair, redirected) ∈ pairs.zip result := by
    rw [List.mem_iff_getElem?]
    exact ⟨target, by rw [List.getElem?_zip_eq_some]; exact ⟨htargetPair, hget⟩⟩
  refine ⟨(pair, redirected), ⟨hmem, ?_, ?_⟩, ?_⟩
  . rw [← hmaster]
    exact hid
  . cases hwhere with
    | inl hsame => exact Or.inl hsame
    | inr hroot =>
      refine Or.inr ⟨hroot.1, ?_⟩
      intro other hother hotherId
      obtain ⟨j, _, hotherPair, _⟩ := h.entry hredirect hother
      apply hroot.2 ⟨other.1.1.id, other.1.2.context⟩
      . rw [h.instances]
        exact List.mem_map_of_mem (List.mem_of_getElem? hotherPair)
      . rw [hmaster]
        exact hotherId
  . rw [hlinked, List.getD_eq_getElem?_getD, hprogram, Option.getD_some,
      (redirected_of_redirectMaster hok).rest]
    rfl

theorem Expansion.Represents.routed (h : x.Represents original routes (routePairs original routes))
    (hredirect : redirectMasters x = .ok result)
    : Routed original routes { x.fixture with channelPrograms := result } := by
  constructor
  . rw [List.forall₂_iff_zip]
    refine ⟨(h.length_result hredirect).1, ?_⟩
    intro pair redirected hmem
    obtain ⟨i, copy, _, _, _, hredirected, hcopies, _⟩ := h.entry hredirect hmem
    exact hcopies.redirected hredirected
  . exact h.ids_result hredirect
  . intro hsize a ha b hb
    obtain ⟨_, copy, _, _, _, hredirected, _, _, hlookup⟩ := h.entry hredirect ha
    obtain ⟨_, copy', _, _, _, hredirected', _, _, hlookup'⟩ := h.entry hredirect hb
    rw [hredirected.rest, hredirected'.rest, ← channelKey_inj]
    apply h.numbered.lookup_eq_iff _ hlookup hlookup'
    intro i hi j hj
    rw [← h.channels] at hi hj
    have hsize : x.fixture.dmxChannels.length < 2 ^ 32 := hsize
    intro hsame
    apply Nat.succ.inj
    apply ofNat_injOn _ _ hsame
    . omega
    . omega
  . intro entry hentry hkind hvalid
    exact h.master hredirect hentry hkind hvalid
  . intro entry hentry hunlinked
    obtain ⟨_, copy, _, _, _, hredirected, _, hmaster, _⟩ := h.entry hredirect hentry
    rw [← hmaster] at hunlinked ⊢
    exact hredirected.unlinked hunlinked

end

end

/-- Along a geometry tree a successful expansion has routed every program; where the description has
no geometry at all, it leaves the programs as they are. -/
theorem expandInstanceDmxRoutes_routed (fixture : CompiledGdtfFixtureType) (root mode : XMLElement)
    (h : fixture.Legal)
    : Ensures (expandInstanceDmxRoutes fixture root mode) (fun result =>
        (topLevelGeometries root = .ok [] → result = fixture)
          ∧ (topLevelGeometries root ≠ .ok [] →
            Routed fixture (routesOf root mode) result)) := by
  refine Yields.ensures ?_ (ensures_expandInstanceDmxRoutes h root mode)
  refine Yields.bind (Yields.ofExcept (P := fun roots => topLevelGeometries root = .ok roots)
    (fun _ => id)) ?_
  intro roots hroots
  split
  . by_cases hempty : roots = []
    . rw [if_neg (not_not.mpr hempty)]
      split
      . exact Yields.throw_bind
      . refine Yields.pure ⟨fun _ => rfl, ?_⟩
        intro htree
        rw [hempty] at hroots
        exact absurd hroots htree
    . rw [if_pos hempty]
      exact Yields.throw_bind
  . next origin horigin =>
    dsimp only
    split
    . exact Yields.throw
    . next hissue =>
      have hroutes : routesOf root mode
          = (visit roots (handlesOf root) [] {} origin "" "" none 0).routes := by
        unfold routesOf originOf
        rw [hroots]
        dsimp only
        rw [horigin]
      rw [← hroutes]
      refine Yields.bind (yields_foldlM_growing
        (I := fun pairs (x : Expansion) => x.Represents fixture (routesOf root mode) pairs)
        (f := fun program => ((routesOf root mode).filter (fun route =>
          route.name = (geometryOf fixture program).name)).map (fun route => (program, route)))
        ⟨List.Forall₂.nil, rfl, rfl, Numbered.nil, rfl⟩ ?_) ?_
      . intro pairs x hx program hprogram
        exact yields_expandProgram_represents hx (h program hprogram)
      . intro x hx
        refine Yields.bind (Yields.ofExcept (P := fun redirected => redirectMasters x
          = .ok redirected) (fun _ => id)) ?_
        intro redirected hredirect
        refine Yields.pure ⟨?_, ?_⟩
        . intro hnone
          rw [hroots] at hnone
          cases hnone
          cases horigin
        . intro _
          exact hx.routed hredirect

/-! ### Two heads on a base, and a fixture without a geometry tree -/

def twoHeads : XMLElement :=
  .node 1 "GDTF" [] [.node 2 "Geometries" [] [
    .node 3 "Geometry" [("Name", "Base")] [
      .node 4 "GeometryReference" [("Name", "Left"), ("Geometry", "Head")] [
        .node 5 "Break" [("DMXBreak", "1"), ("DMXOffset", "1")] []],
      .node 6 "GeometryReference" [("Name", "Right"), ("Geometry", "Head")] [
        .node 7 "Break" [("DMXBreak", "1"), ("DMXOffset", "11")] []]],
    .node 8 "Geometry" [("Name", "Head")] []]]

def baseMode : XMLElement := .node 9 "DMXMode" [("Name", "Basic"), ("Geometry", "Base")] []

def headDimmer : CompiledGdtfFixtureType where
  channelPrograms := [{
    id := 1, dmxOffsetsOneBased := [1], geometryInstanceId := 1, componentId := 1, dmxChannelId := 1
    attributeName := "Dimmer", functionName := "Dimmer 1" }]
  geometries := [{ id := 1, name := "Head", path := "Head" }]
  components := [{ componentId := 1, geometryInstanceId := 1 }]
  dmxChannels := [{ id := 1, nodeName := "Head_Dimmer", dmxOffsetsOneBased := [1] }]

theorem legal_headDimmer : headDimmer.Legal := by
  intro program hprogram
  rw [List.mem_singleton.mp hprogram]
  constructor
  . intro offset hoffset
    rw [List.mem_singleton.mp hoffset]
    unfold IsOffset
    decide
  . decide

theorem expandInstanceDmxRoutes_routed_twoHeads
    : Ensures (expandInstanceDmxRoutes headDimmer twoHeads baseMode)
        (Routed headDimmer (routesOf twoHeads baseMode)) := by
  have htree : topLevelGeometries twoHeads ≠ .ok [] := by
    intro h
    have hsome : (match topLevelGeometries twoHeads with
      | .ok roots => roots.length | .error _ => 0) = 2 := by decide +kernel
    rw [h] at hsome
    cases hsome
  apply Ensures.mono (expandInstanceDmxRoutes_routed headDimmer twoHeads baseMode legal_headDimmer)
  intro result hresult
  exact hresult.2 htree

def noGeometries : XMLElement := .node 1 "GDTF" [] []

/-- Without a geometry tree the expansion succeeds and keeps a program that no route matches. -/
theorem headDimmer_not_routed
    : headDimmer.Legal
        ∧ (expandInstanceDmxRoutes headDimmer noGeometries baseMode).run = some (.ok headDimmer)
        ∧ ¬Routed headDimmer (routesOf noGeometries baseMode) headDimmer := by
  have hroots : topLevelGeometries noGeometries = .ok [] := by
    have hname : lowerAscii "GDTF" ≠ "geometries" := by decide +kernel
    simp [topLevelGeometries, noGeometries, collectElementsByName, collectFromChildren, hname]
    rfl
  refine ⟨legal_headDimmer, ?_, ?_⟩
  . rw [expandInstanceDmxRoutes, hroots]
    rfl
  . intro h
    have hlength := h.copies.length_eq
    unfold routesOf at hlength
    rw [hroots] at hlength
    cases hlength

end Peraviz.Gdtf
