import Peraviz.Runtime.Evaluation.Workspace
import Peraviz.Runtime.Plan.Impl

/-!
This module contains the correctness of the construction of an evaluation plan: it ends on every
graph of masters, and the compact tables that it leaves behind are those of the plan whose
consumers list what they depend on.
-/

namespace Peraviz.Runtime

theorem sortUnique_ascending (l : List Nat) : (sortUnique l).Pairwise (fun a b => a < b) := by
  unfold sortUnique
  have hsorted : (l.insertionSort (fun a b => a ≤ b)).Pairwise (fun a b => a ≤ b) :=
    List.pairwise_insertionSort _ _
  have hnodup := List.nodup_dedup (l.insertionSort (fun a b => a ≤ b))
  apply ((hsorted.sublist (List.dedup_sublist _)).and hnodup).imp
  intro a b hab
  exact lt_of_le_of_ne hab.1 hab.2

theorem filter_range_ascending (n : Nat) (p : Nat → Bool)
    : ((List.range n).filter p).Pairwise (fun a b => a < b) :=
  List.pairwise_lt_range.filter p

theorem planMaster_lt {programs : List CompiledDmxSourceProgram} {a b : Nat}
    (h : planMaster programs a = some b) : b < programs.length := by
  unfold planMaster at h
  split at h
  . cases h
  . split at h
    . cases h
    . exact (List.findIdx?_eq_some_iff_findIdx_eq.mp h).1

/-! ### The check for cyclic masters -/

theorem countP_visit_lt {nodes : List Nat} {state : Nat → VisitState} {cursor : Nat}
    (hmem : cursor ∈ nodes) (hstate : state cursor = .unvisited)
    : nodes.countP (fun a => Function.update state cursor .onPath a = .unvisited)
        < nodes.countP (fun a => state a = .unvisited) := by
  rw [List.countP_eq_length_filter, List.countP_eq_length_filter]
  have hsub : nodes.filter (fun a => Function.update state cursor .onPath a = .unvisited)
      = (nodes.filter (fun a => state a = .unvisited)).filter (fun a => a ≠ cursor) := by
    rw [List.filter_filter]
    apply List.filter_congr
    intro a _
    by_cases ha : a = cursor <;> simp [ha]
  rw [hsub]
  apply List.length_filter_lt_length_iff_exists.mpr
  exact ⟨cursor, by simp [hmem, hstate], by simp⟩

theorem exists_visitPath {programs : List CompiledDmxSourceProgram} {fuel : Nat}
    {state : Nat → VisitState} {path : List Nat} {cursor : Option Nat}
    (hcursor : ∀ c, cursor = some c → c < programs.length)
    (hfuel : (List.range programs.length).countP (fun a => state a = .unvisited) ≤ fuel)
    : ∃ result, visitPath (planMaster programs) fuel state path cursor = some result := by
  induction fuel generalizing state path cursor with
  | zero =>
    cases cursor with
    | none => exact ⟨_, rfl⟩
    | some c =>
      simp only [visitPath]
      split
      . next hstate =>
        exfalso
        have := countP_visit_lt (List.mem_range.mpr (hcursor c rfl)) hstate
        omega
      . exact ⟨_, rfl⟩
  | succ fuel ih =>
    cases cursor with
    | none => exact ⟨_, rfl⟩
    | some c =>
      simp only [visitPath]
      split
      . next hstate =>
        apply ih
        . intro b hb
          exact planMaster_lt hb
        . have := countP_visit_lt (List.mem_range.mpr (hcursor c rfl)) hstate
          omega
      . exact ⟨_, rfl⟩

theorem exists_visitSources {programs : List CompiledDmxSourceProgram} {fuel : Nat}
    (hfuel : programs.length ≤ fuel) {sources : List Nat}
    (hsources : ∀ source ∈ sources, source < programs.length)
    (visited : (Nat → VisitState) × List CompiledRuntimeDiagnostic)
    : ∃ result, sources.foldlM (visitSource programs fuel) visited = some result := by
  induction sources generalizing visited with
  | nil => exact ⟨visited, rfl⟩
  | cons source sources ih =>
    obtain ⟨result, hresult⟩ := @exists_visitPath programs fuel visited.1 [] (some source)
      (by simpa using hsources source List.mem_cons_self)
      (le_trans List.countP_le_length (by simpa using hfuel))
    obtain ⟨next, hnext⟩ : ∃ next, visitSource programs fuel visited source = some next := by
      simp [visitSource, hresult]
    obtain ⟨last, hlast⟩ := ih (fun s hs => hsources s (List.mem_cons_of_mem _ hs)) next
    exact ⟨last, by simp [List.foldlM_cons, hnext, hlast]⟩

namespace CompiledEvaluationPlan

theorem exists_install {programs : List CompiledDmxSourceProgram} {fuel : Nat}
    (hfuel : programs.length ≤ fuel)
    : ∃ diagnostics, install fuel programs
        = some ({ sources := sourceNodes programs, offsets := offsetEntries programs }, diagnostics)
    := by
  obtain ⟨result, hresult⟩ := @exists_visitSources programs fuel hfuel
    (List.range programs.length) (by simp)
    (fun _ => .unvisited, InstalledTables.missingMasters programs)
  exact ⟨result.2, by simp [install, hresult]⟩

/-! ### The consumers -/

/-- Whether `m` is one of the sources that an own source of a consumer makes it depend on. -/
def DependsBy (programs : List CompiledDmxSourceProgram) (activationDependencies : Bool)
    (source m : Nat) : Prop :=
  source < programs.length
    ∧ (m = source ∨ activationDependencies = true ∧ Chain.Reaches (planMaster programs) source m)

def DependsOn (programs : List CompiledDmxSourceProgram) (request : ConsumerRequest) (m : Nat)
    : Prop :=
  ∃ source ∈ request.sources, DependsBy programs request.activationDependencies source m

/-- What every step of the construction after `install` leaves as it is. -/
structure Shaped (programs : List CompiledDmxSourceProgram) (plan : CompiledEvaluationPlan)
    : Prop where
  length : plan.sources.length = programs.length
  master : plan.master = planMaster programs
  offsets : plan.offsets = offsetEntries programs
  workspace : plan.workspace = {}
  slotBound : ∀ source slot, plan.activationSlot source = some slot → slot < plan.activationCount
  slotInjective : ∀ a b slot, plan.activationSlot a = some slot →
    plan.activationSlot b = some slot → a = b

theorem Shaped.assignSlot {programs : List CompiledDmxSourceProgram}
    {plan : CompiledEvaluationPlan} (h : Shaped programs plan) (source : Nat)
    : Shaped programs (plan.assignSlot source)
      ∧ (plan.assignSlot source).consumers = plan.consumers
      ∧ (plan.assignSlot source).buildingConsumers = plan.buildingConsumers := by
  unfold CompiledEvaluationPlan.assignSlot
  split
  . exact ⟨h, rfl, rfl⟩
  . next node hnode =>
    split
    . exact ⟨h, rfl, rfl⟩
    . next hslot =>
      have hlt : source < plan.sources.length := (List.getElem?_eq_some_iff.mp hnode).1
      have hget (x : Nat) : (plan.sources.set source
          { node with activationSlot := some plan.activationCount })[x]?
          = if x = source then some { node with activationSlot := some plan.activationCount }
            else plan.sources[x]? := by
        rw [List.getElem?_set]
        grind
      have hmaster := h.master
      have hbound := h.slotBound
      have hinjective := h.slotInjective
      refine ⟨⟨?_, ?_, h.offsets, h.workspace, ?_, ?_⟩, rfl, rfl⟩
      . simpa using h.length
      . rw [← hmaster]
        funext x
        unfold CompiledEvaluationPlan.master
        rw [hget x]
        grind
      all_goals
        simp only [CompiledEvaluationPlan.activationSlot, hget] at hbound hinjective ⊢
        grind

theorem mem_pushConsumers {consumer x source : Nat} {building : Nat → List Nat} {path : List Nat}
    : x ∈ path.foldl (pushConsumer consumer) building source ↔
      x ∈ building source ∨ x = consumer ∧ source ∈ path := by
  induction path generalizing building with
  | nil => simp
  | cons cursor path ih =>
    rw [List.foldl_cons, ih, pushConsumer, Function.update_apply]
    grind

theorem exists_dependencies {programs : List CompiledDmxSourceProgram}
    {plan : CompiledEvaluationPlan} (h : Shaped programs plan) {fuel : Nat}
    (hfuel : programs.length ≤ fuel) (activationDependencies : Bool) (source : Nat)
    : ∃ path, plan.dependencies fuel activationDependencies source = some path
      ∧ ∀ m, m ∈ path ↔ DependsBy programs activationDependencies source m := by
  unfold dependencies DependsBy
  rw [h.length, h.master]
  split
  . next hle => exact ⟨[], rfl, by simp; omega⟩
  . next hlt =>
    split
    . next hact =>
      obtain ⟨path, hpath⟩ := @Chain.exists_walk _ _ (planMaster programs)
        (List.range programs.length) (fun a _ b hb => List.mem_range.mpr (planMaster_lt hb)) fuel []
        (some source) (by simp) (by simp) (by simp; omega) (by simpa using hfuel)
      refine ⟨path, hpath, ?_⟩
      intro m
      rw [Chain.mem_walk hpath]
      constructor
      . intro hm
        exact ⟨by omega, Or.inr ⟨hact, hm⟩⟩
      . intro hm
        rcases hm.2 with heq | hm
        . rw [heq]
          exact Chain.Reaches.refl source
        . exact hm.2
    . next hact =>
      refine ⟨[source], rfl, ?_⟩
      intro m
      simp only [List.mem_singleton, hact]
      simp
      omega

theorem exists_addSource {programs : List CompiledDmxSourceProgram}
    {plan : CompiledEvaluationPlan} (h : Shaped programs plan) {fuel : Nat}
    (hfuel : programs.length ≤ fuel) (consumer : Nat) (activationDependencies : Bool) (source : Nat)
    : ∃ plan', addSource fuel consumer activationDependencies plan source = some plan'
      ∧ Shaped programs plan' ∧ plan'.consumers = plan.consumers
      ∧ ∀ m x, x ∈ plan'.buildingConsumers m ↔ x ∈ plan.buildingConsumers m
        ∨ x = consumer ∧ DependsBy programs activationDependencies source m := by
  generalize hnext : (if activationDependencies then plan.assignSlot source else plan) = next
  have hshaped : Shaped programs next ∧ next.consumers = plan.consumers
      ∧ next.buildingConsumers = plan.buildingConsumers := by
    rw [← hnext]
    split
    . exact h.assignSlot source
    . exact ⟨h, rfl, rfl⟩
  obtain ⟨hshape, hconsumers, hbuilding⟩ := hshaped
  obtain ⟨path, hpath, hmem⟩ := exists_dependencies hshape hfuel activationDependencies source
  refine ⟨{ next with
      buildingConsumers := path.foldl (pushConsumer consumer) next.buildingConsumers },
    by simp [addSource, hnext, hpath], ?_, hconsumers, ?_⟩
  . exact ⟨hshape.length, hshape.master, hshape.offsets, hshape.workspace, hshape.slotBound,
      hshape.slotInjective⟩
  . intro m x
    simp only [mem_pushConsumers, hmem, hbuilding]

theorem exists_addSources {programs : List CompiledDmxSourceProgram} {fuel : Nat}
    (hfuel : programs.length ≤ fuel) (consumer : Nat) (activationDependencies : Bool)
    {sources : List Nat} {plan : CompiledEvaluationPlan} (h : Shaped programs plan)
    : ∃ plan', sources.foldlM (addSource fuel consumer activationDependencies) plan = some plan'
      ∧ Shaped programs plan' ∧ plan'.consumers = plan.consumers
      ∧ ∀ m x, x ∈ plan'.buildingConsumers m ↔ x ∈ plan.buildingConsumers m
        ∨ x = consumer ∧ ∃ source ∈ sources, DependsBy programs activationDependencies source m
    := by
  induction sources generalizing plan with
  | nil => exact ⟨plan, rfl, h, rfl, by simp⟩
  | cons source sources ih =>
    obtain ⟨next, hnext, hshape, hconsumers, hbuilding⟩ :=
      exists_addSource h hfuel consumer activationDependencies source
    obtain ⟨last, hlast, hshape', hconsumers', hbuilding'⟩ := ih hshape
    refine ⟨last, by simp [List.foldlM_cons, hnext, hlast], hshape', ?_, ?_⟩
    . rw [hconsumers', hconsumers]
    . intro m x
      rw [hbuilding', hbuilding]
      simp only [List.mem_cons, exists_eq_or_imp]
      tauto

/-- The invariant of the loop over the consumers, `requests` are those that are added. -/
structure Building (programs : List CompiledDmxSourceProgram) (requests : List ConsumerRequest)
    (plan : CompiledEvaluationPlan) : Prop where
  shaped : Shaped programs plan
  consumers : plan.consumers = requests
  building : ∀ m c, c ∈ plan.buildingConsumers m ↔
    ∃ request, requests[c]? = some request ∧ DependsOn programs request m

theorem Building.addConsumer {programs : List CompiledDmxSourceProgram}
    {requests : List ConsumerRequest} {plan : CompiledEvaluationPlan}
    (h : Building programs requests plan) {fuel : Nat} (hfuel : programs.length ≤ fuel)
    (request : ConsumerRequest)
    : ∃ plan', plan.addConsumer fuel request = some plan'
      ∧ Building programs (requests ++ [request]) plan' := by
  have hshaped : Shaped programs { plan with consumers := plan.consumers ++ [request] } :=
    ⟨h.shaped.length, h.shaped.master, h.shaped.offsets, h.shaped.workspace, h.shaped.slotBound,
      h.shaped.slotInjective⟩
  obtain ⟨plan', hplan, hshape, hconsumers, hbuilding⟩ := @exists_addSources programs fuel hfuel
    plan.consumers.length request.activationDependencies request.sources _ hshaped
  refine ⟨plan', hplan, hshape, ?_, ?_⟩
  . rw [hconsumers, ← h.consumers]
  . intro m c
    rw [hbuilding, h.building, h.consumers]
    unfold DependsOn
    constructor
    . intro hc
      rcases hc with ⟨r, hr, hm⟩ | ⟨hc, hm⟩
      . exact ⟨r, List.getElem?_append_left (List.getElem?_eq_some_iff.mp hr).1 ▸ hr, hm⟩
      . exact ⟨request, by simp [hc], hm⟩
    . intro ⟨r, hr, hm⟩
      rw [List.getElem?_append] at hr
      split at hr
      . exact Or.inl ⟨r, hr, hm⟩
      . right
        have hc := (List.getElem?_eq_some_iff.mp hr).1
        have hr' := (List.mem_of_getElem? hr)
        rw [List.mem_singleton] at hr'
        refine ⟨?_, hr' ▸ hm⟩
        simp only [List.length_singleton] at hc
        omega

theorem Building.addConsumers {programs : List CompiledDmxSourceProgram} {fuel : Nat}
    (hfuel : programs.length ≤ fuel) {done rest : List ConsumerRequest}
    {plan : CompiledEvaluationPlan} (h : Building programs done plan)
    : ∃ plan', rest.foldlM (CompiledEvaluationPlan.addConsumer fuel) plan = some plan'
      ∧ Building programs (done ++ rest) plan' := by
  induction rest generalizing done plan with
  | nil => exact ⟨plan, rfl, by simpa using h⟩
  | cons request rest ih =>
    obtain ⟨next, hnext, hbuilding⟩ := h.addConsumer hfuel request
    obtain ⟨last, hlast, hbuilding'⟩ := ih hbuilding
    exact ⟨last, by simp [List.foldlM_cons, hnext, hlast], by simpa using hbuilding'⟩

theorem getElem?_sourceNodes (programs : List CompiledDmxSourceProgram) (source : Nat)
    : (sourceNodes programs)[source]? = programs[source]?.map (fun program =>
        { program := program, master := planMaster programs source }) := by
  simp [sourceNodes, List.getElem?_zipIdx]
  rfl

theorem building_installed (programs : List CompiledDmxSourceProgram)
    : Building programs [] { sources := sourceNodes programs, offsets := offsetEntries programs }
    := by
  generalize hoffsets : offsetEntries programs = offsets
  have hslot (x : Nat) : (sourceNodes programs)[x]?.bind EvaluationSourceNode.activationSlot = none
      := by
    rw [getElem?_sourceNodes]
    cases programs[x]? <;> rfl
  refine ⟨⟨by simp [sourceNodes], ?_, hoffsets.symm, rfl, ?_, ?_⟩, rfl, by simp⟩
  . funext x
    simp only [master, getElem?_sourceNodes]
    cases h : programs[x]? with
    | none => simp [planMaster, h]
    | some program => simp
  . intro x slot hx
    simp [activationSlot, hslot] at hx
  . intro a b slot ha
    simp [activationSlot, hslot] at ha

end CompiledEvaluationPlan

/-! ### The plan that the tables stand for -/

theorem activationPath_of_walk {programs : List CompiledDmxSourceProgram} {fuel : Nat}
    {path result : List Nat} {cursor : Nat} (hcursor : cursor < programs.length)
    (h : Chain.walk (planMaster programs) fuel path (some cursor) = some result)
    : activationPath programs fuel path cursor = result := by
  induction fuel generalizing path cursor with
  | zero =>
    simp only [Chain.walk] at h
    split at h
    . simpa [activationPath] using h
    . cases h
  | succ fuel ih =>
    simp only [Chain.walk] at h
    simp only [activationPath]
    split at h
    . next hmem => simpa [hmem] using h
    . next hmem =>
      rw [if_neg (by simp [hmem]; omega)]
      cases hmaster : planMaster programs cursor with
      | none => simpa [hmaster, Chain.walk] using h
      | some master =>
        rw [hmaster] at h
        exact ih (planMaster_lt hmaster) h

theorem mem_activationReach {programs : List CompiledDmxSourceProgram} {source m : Nat}
    : m ∈ activationReach programs source ↔
      source < programs.length ∧ Chain.Reaches (planMaster programs) source m := by
  by_cases hsource : source < programs.length
  . obtain ⟨path, hpath⟩ := @Chain.exists_walk _ _ (planMaster programs)
      (List.range programs.length) (fun a _ b hb => List.mem_range.mpr (planMaster_lt hb))
      (programs.length + 1) [] (some source) (by simp) (by simp) (by simpa using hsource) (by simp)
    rw [activationReach, activationPath_of_walk hsource hpath, Chain.mem_walk hpath]
    simp [hsource]
  . have hreach : activationReach programs source = [] := by
      rw [activationReach, activationPath, if_pos (Or.inr (by omega))]
    simp [hreach, hsource]

/-- A consumer with the sources that it depends on. -/
def ConsumerRequest.consumer (programs : List CompiledDmxSourceProgram) (request : ConsumerRequest)
    : EvaluationConsumer where
  domain := request.domain
  index := request.index
  target := request.target
  reaches :=
    if request.activationDependencies then request.sources.flatMap (activationReach programs)
    else request.sources

def EvaluationPlan.ofRequests (programs : List CompiledDmxSourceProgram)
    (requests : List ConsumerRequest) : EvaluationPlan where
  programs := programs
  consumers := requests.map (ConsumerRequest.consumer programs)

namespace CompiledEvaluationPlan

theorem mem_reaches {programs : List CompiledDmxSourceProgram} {request : ConsumerRequest} {m : Nat}
    (hm : m < programs.length)
    : m ∈ (request.consumer programs).reaches ↔ DependsOn programs request m := by
  unfold ConsumerRequest.consumer DependsOn DependsBy
  split
  . next hact =>
    simp only [List.mem_flatMap, mem_activationReach, hact, true_and]
    constructor
    . intro ⟨source, hsource, hlt, hreach⟩
      exact ⟨source, hsource, hlt, Or.inr hreach⟩
    . intro ⟨source, hsource, hlt, hreach⟩
      refine ⟨source, hsource, hlt, ?_⟩
      rcases hreach with heq | hreach
      . rw [heq]
        exact Chain.Reaches.refl source
      . exact hreach
  . next hact =>
    simp only [hact]
    constructor
    . intro hmem
      exact ⟨m, hmem, hm, Or.inl rfl⟩
    . intro ⟨source, hsource, _, hreach⟩
      rcases hreach with heq | hreach
      . rw [heq]
        exact hsource
      . cases hreach.1

theorem mem_consumersOf {programs : List CompiledDmxSourceProgram}
    {requests : List ConsumerRequest} {m c : Nat} (hm : m < programs.length)
    : c ∈ (EvaluationPlan.ofRequests programs requests).consumersOf m ↔
      ∃ request, requests[c]? = some request ∧ DependsOn programs request m := by
  unfold EvaluationPlan.consumersOf EvaluationPlan.consumer EvaluationPlan.ofRequests
  simp only [List.mem_filter, List.mem_range, List.length_map, decide_eq_true_eq]
  constructor
  . intro ⟨hc, hmem⟩
    rw [List.getD_eq_getElem?_getD, List.getElem?_map, List.getElem?_eq_getElem hc] at hmem
    exact ⟨requests[c], List.getElem?_eq_getElem hc, (mem_reaches hm).mp hmem⟩
  . intro ⟨request, hrequest, hdepends⟩
    refine ⟨(List.getElem?_eq_some_iff.mp hrequest).1, ?_⟩
    rw [List.getD_eq_getElem?_getD, List.getElem?_map, hrequest]
    exact (mem_reaches hm).mpr hdepends

theorem mem_sourcesByOffset {programs : List CompiledDmxSourceProgram} {offset source : Nat}
    : source ∈ sourcesByOffset programs offset ↔ ∃ program, programs[source]? = some program
      ∧ ∃ byte ∈ program.sources, byte.address = Int32.ofNat offset := by
  unfold sourcesByOffset
  rw [mem_sortUnique, List.mem_flatMap]
  constructor
  . intro ⟨⟨program, index⟩, hmem, hsource⟩
    rw [List.mem_zipIdx_iff_getElem?] at hmem
    simp only [List.mem_map, List.mem_filter, beq_iff_eq] at hsource
    obtain ⟨byte, ⟨hbyte, haddress⟩, rfl⟩ := hsource
    exact ⟨program, hmem, byte, hbyte, haddress⟩
  . intro ⟨program, hprogram, byte, hbyte, haddress⟩
    refine ⟨(program, source), List.mem_zipIdx_iff_getElem?.mpr hprogram, ?_⟩
    apply List.mem_map.mpr
    exact ⟨byte, by simp [hbyte, haddress], rfl⟩

theorem toNat_ofNat_of_lt {k : Nat} (hk : k < 512) : (Int32.ofNat k).toInt.toNat = k := by
  rw [Int32.toInt_ofNat_of_lt (by omega)]
  rfl

theorem ofNat_toNat {offset : Int32} (h0 : 0 ≤ offset) (h512 : offset < 512)
    : Int32.ofNat offset.toInt.toNat = offset ∧ offset.toInt.toNat < 512 := by
  have hnonneg : 0 ≤ offset.toInt := Int32.le_iff_toInt_le.mp h0
  have hlt : offset.toInt < 512 := Int32.lt_iff_toInt_lt.mp h512
  refine ⟨?_, by omega⟩
  apply Int32.toInt_inj.mp
  rw [Int32.toInt_ofNat_of_lt (by omega), Int.toNat_of_nonneg hnonneg]

theorem offsetEntryAt_of_nil {programs : List CompiledDmxSourceProgram} {k : Nat}
    (h : sourcesByOffset programs k = []) : offsetEntryAt programs k = none := by
  unfold offsetEntryAt
  rw [h]

theorem offsetEntryAt_of_ne_nil {programs : List CompiledDmxSourceProgram} {k : Nat}
    (h : sourcesByOffset programs k ≠ [])
    : offsetEntryAt programs k = some ⟨Int32.ofNat k, sourcesByOffset programs k⟩ := by
  unfold offsetEntryAt
  cases hsources : sourcesByOffset programs k with
  | nil => exact absurd hsources h
  | cons a l => rfl

-- The search for the first entry not before an offset meets the entry of the offset or none.
theorem sourcesAt_of_inside {programs : List CompiledDmxSourceProgram}
    {plan : CompiledEvaluationPlan} (h : plan.offsets = offsetEntries programs) {offset : Int32}
    (h0 : 0 ≤ offset) (h512 : offset < 512)
    : plan.sourcesAt offset = sourcesByOffset programs offset.toInt.toNat := by
  obtain ⟨hofNat, hlt⟩ := ofNat_toNat h0 h512
  have hle (k : Nat) (hk : k < 512) : (offset ≤ Int32.ofNat k) ↔ offset.toInt.toNat ≤ k := by
    have h : 0 ≤ offset.toInt := Int32.le_iff_toInt_le.mp h0
    rw [Int32.le_iff_toInt_le, Int32.toInt_ofNat_of_lt (by omega)]
    omega
  generalize hn : offset.toInt.toNat = n at hofNat hlt hle
  -- an entry of the offset itself is the first one that is not before it
  have hown : sourcesByOffset programs n ≠ [] →
      (offsetEntryAt programs n).any (fun entry => offset ≤ entry.offset) = true := by
    intro hne
    rw [offsetEntryAt_of_ne_nil hne]
    simp [hle n hlt]
  unfold CompiledEvaluationPlan.sourcesAt
  rw [if_neg (by simp [Int32.not_lt, Int32.not_le, h0, h512]), h, offsetEntries,
    List.find?_filterMap]
  generalize hfind : List.find? _ (List.range 512) = found
  cases found with
  | none =>
    have hnone := List.find?_eq_none.mp hfind n (List.mem_range.mpr hlt)
    by_contra hne
    exact hnone (hown (Ne.symm hne))
  | some k =>
    obtain ⟨hp, hk, hbefore⟩ := List.find?_range_eq_some.mp hfind
    rw [List.mem_range] at hk
    by_cases hnil : sourcesByOffset programs k = []
    . rw [offsetEntryAt_of_nil hnil] at hp
      cases hp
    . rw [offsetEntryAt_of_ne_nil hnil] at hp
      have hnk : n ≤ k := by simpa [hle k hk] using hp
      simp only [Option.bind_some, offsetEntryAt_of_ne_nil hnil]
      cases Nat.eq_or_lt_of_le hnk with
      | inl heq => rw [← heq, hofNat, if_pos rfl]
      | inr hafter =>
        rw [if_neg]
        . by_contra hne
          have hskip := hbefore n hafter
          rw [hown (Ne.symm hne)] at hskip
          cases hskip
        . intro h
          have := toNat_ofNat_of_lt hk
          rw [h, hn] at this
          omega

-- The ascending lists of the tables are those of the plan that they stand for.
theorem sourcesAt_offsetEntries (programs : List CompiledDmxSourceProgram)
    (requests : List ConsumerRequest) {plan : CompiledEvaluationPlan}
    (h : plan.offsets = offsetEntries programs) (offset : Int32)
    : plan.sourcesAt offset = (EvaluationPlan.ofRequests programs requests).sourcesAt offset := by
  by_cases hin : 0 ≤ offset ∧ offset < 512
  . rw [sourcesAt_of_inside h hin.1 hin.2, EvaluationPlan.sourcesAt, if_pos hin]
    have hofNat := (ofNat_toNat hin.1 hin.2).1
    apply List.Pairwise.eq_of_mem_iff (sortUnique_ascending _) (filter_range_ascending _ _)
    intro source
    change source ∈ sourcesByOffset programs offset.toInt.toNat ↔ _
    rw [mem_sourcesByOffset, hofNat]
    simp only [EvaluationPlan.ofRequests, List.mem_filter, List.mem_range,
      EvaluationPlan.readsOffset, EvaluationPlan.program, List.any_eq_true, beq_iff_eq]
    constructor
    . intro ⟨program, hprogram, byte, hbyte⟩
      have hlt := (List.getElem?_eq_some_iff.mp hprogram).1
      rw [List.getD_eq_getElem?_getD, hprogram]
      exact ⟨hlt, byte, hbyte⟩
    . intro ⟨hlt, byte, hbyte⟩
      rw [List.getD_eq_getElem?_getD, List.getElem?_eq_getElem hlt] at hbyte
      exact ⟨_, List.getElem?_eq_getElem hlt, byte, hbyte⟩
  . rw [CompiledEvaluationPlan.sourcesAt, EvaluationPlan.sourcesAt, if_neg hin, if_pos]
    rw [not_and_or, Int32.not_le, Int32.not_lt] at hin
    exact hin

end CompiledEvaluationPlan

end Peraviz.Runtime
