import Peraviz.Gdtf.ModeMaster.Activation

/-!
This module contains the agreement of the evaluators: both overloads of
`evaluateGoboSourceActivation` in the runtime and `isChannelFunctionActive` in the importer compute
the activation, at the bound they have.
-/

namespace Peraviz.Gdtf

open Peraviz.Runtime Chain

/-! ### The overload over borrowed definitions -/

/-- Borrowed definitions, `pointers` point into what is installed. -/
structure GoboSourceDefinitions where
  installed : List CompiledDmxSourceProgram
  pointers : List (Fin installed.length)

namespace GoboSourceDefinitions

def sourcePointer (definitions : GoboSourceDefinitions) (pointer : Fin definitions.installed.length)
    : CompiledDmxSourceProgram :=
  definitions.installed.get pointer

def programs (definitions : GoboSourceDefinitions) : List CompiledDmxSourceProgram :=
  definitions.pointers.map definitions.sourcePointer

def findProgram (definitions : GoboSourceDefinitions) (id : Int32)
    : Option (Fin definitions.installed.length) :=
  definitions.pointers.find? (fun pointer => (definitions.sourcePointer pointer).programId == id)

end GoboSourceDefinitions

def findValue (values : List GoboSourceValue) (id : Int32) : Option GoboSourceValue :=
  values.find? (fun value => value.sourceProgramId == id)

/-- `activation_is_active` over borrowed definitions. -/
def definitionIsActive (definitions : GoboSourceDefinitions) (values : List GoboSourceValue)
    : Nat → Fin definitions.installed.length → Bool
  | 0, _ => false
  | fuel + 1, pointer =>
    let program := definitions.sourcePointer pointer
    match findValue values program.programId with
    | none => false
    | some ownValue =>
      if !inRange ownValue.rawValue program.dmxFrom program.dmxTo then
        false
      else if !program.activation.valid || program.activation.targetKind = .listed .invalid then
        false
      else if program.activation.targetKind = .listed .none then
        true
      else
        match definitions.findProgram program.activation.masterProgramId with
        | none => false
        | some master =>
          match findValue values (definitions.sourcePointer master).programId with
          | none => false
          | some masterValue =>
            if !inRange masterValue.rawValue program.activation.fromValue
                program.activation.toValue then
              false
            else if program.activation.targetKind = .listed .channelFunction then
              definitionIsActive definitions values fuel master
            else
              true

/-- The value that the overload writes through `raw_value` when the source is active. -/
def evaluateBorrowedActivation (sourceProgramId : Int32) (definitions : GoboSourceDefinitions)
    (values : List GoboSourceValue) : Option UInt32 :=
  match definitions.findProgram sourceProgramId with
  | none => none
  | some pointer =>
    match findValue values (definitions.sourcePointer pointer).programId with
    | none => none
    | some value =>
      if definitionIsActive definitions values (definitions.pointers.length + 1) pointer then
        some value.rawValue
      else
        none

/-! ### The rules of the implementations -/

/-- What a condition asks when a ChannelFunction link names the function `functionId`. -/
def masterOf (c : ModeMasterCondition) (functionId : Int32) : Master :=
  if c.targetKind = .listed .none then .none
  else if c.targetKind = .listed .channelFunction then .function functionId
  else .channel c.masterProgramId

def isValid (c : ModeMasterCondition) : Bool := c.valid && c.targetKind ≠ .listed .invalid

def ruleOf (id : Int32) (dmxFrom dmxTo : UInt32) (c : ModeMasterCondition) (functionId : Int32)
    : ActivationRule where
  id := id
  dmxFrom := dmxFrom
  dmxTo := dmxTo
  valid := isValid c
  master := masterOf c functionId
  masterFrom := c.fromValue
  masterTo := c.toValue

def programRule (program : CompiledDmxSourceProgram) : ActivationRule :=
  ruleOf program.programId program.dmxFrom program.dmxTo program.activation
    program.activation.masterProgramId

def functionRule (f : ChannelFunctionActivation) : ActivationRule :=
  ruleOf f.functionId f.dmxFrom f.dmxTo f.modeMaster f.modeMaster.targetId

/-- Source programs with their values say the same as rules with an assignment of values. -/
structure ProgramsMatch (rules : List ActivationRule) (value : Int32 → Option UInt32)
    (programs : List CompiledDmxSourceProgram) (values : List GoboSourceValue) : Prop where
  same : programs.map programRule = rules
  assigned : ∀ program ∈ programs,
    (findValue values program.programId).map GoboSourceValue.rawValue = value program.programId

/-- ChannelFunctions with the values of their sources do. -/
structure FunctionsMatch (rules : List ActivationRule) (value : Int32 → Option UInt32)
    (functions : List ChannelFunctionActivation) (sourceValues : List UInt32) : Prop where
  same : functions.map functionRule = rules
  assigned : ∀ f ∈ functions, sourceValue sourceValues f.sourceId = value f.functionId

/-! ### The evaluators -/

section Evaluators

universe u

variable {α : Type u}

def evaluateCondition (c : ModeMasterCondition) (own : Option UInt32) (dmxFrom dmxTo : UInt32)
    (master : Option α) (valueOf : α → Option UInt32) (deeper : α → Bool) : Bool :=
  match own with
  | none => false
  | some own =>
    if !inRange own dmxFrom dmxTo then
      false
    else if !c.valid || c.targetKind = .listed .invalid then
      false
    else if c.targetKind = .listed .none then
      true
    else
      match master with
      | none => false
      | some master =>
        match valueOf master with
        | none => false
        | some masterValue =>
          if !inRange masterValue c.fromValue c.toValue then
            false
          else if c.targetKind = .listed .channelFunction then
            deeper master
          else
            true

/-- An evaluator looks its functions up by their ids and reads the values that are assigned. -/
structure Reads (rules : List ActivationRule) (value : Int32 → Option UInt32) (nodes : List α)
    (rule : α → ActivationRule) (find : Int32 → Option α) (valueOf : α → Option UInt32)
    : Prop where
  same : nodes.map rule = rules
  finds : ∀ id, find id = nodes.find? (fun a => (rule a).id == id)
  assigned : ∀ a ∈ nodes, valueOf a = value (rule a).id

variable {rules : List ActivationRule} {value : Int32 → Option UInt32} {nodes : List α}
  {rule : α → ActivationRule} {find : Int32 → Option α} {valueOf : α → Option UInt32}

theorem Reads.find_map (h : Reads rules value nodes rule find valueOf) (id : Int32)
    : (find id).map rule = findRule rules id := by
  rw [h.finds, findRule, ← h.same, List.find?_map]
  rfl

theorem Reads.mem (h : Reads rules value nodes rule find valueOf) {id : Int32} {a : α}
    (ha : find id = some a) : a ∈ nodes := by
  rw [h.finds] at ha
  exact List.mem_of_find?_eq_some ha

theorem evaluateCondition_own {c : ModeMasterCondition} {own : Option UInt32}
    {dmxFrom dmxTo : UInt32} {master : Option α} {deeper : α → Bool}
    (h : ¬ (holdsWithin own dmxFrom dmxTo && isValid c) = true)
    : evaluateCondition c own dmxFrom dmxTo master valueOf deeper = false := by
  cases own with
  | none => rfl
  | some own =>
    unfold evaluateCondition
    dsimp only
    split
    next => rfl
    next hrange =>
      split
      next => rfl
      next hvalid =>
        exfalso
        apply h
        simp only [holdsWithin, isValid, Option.any_some]
        simp at hrange hvalid
        simp [hrange, hvalid]

theorem evaluateCondition_valid {c : ModeMasterCondition} {own : Option UInt32}
    {dmxFrom dmxTo : UInt32} {master : Option α} {deeper : α → Bool}
    (h : (holdsWithin own dmxFrom dmxTo && isValid c) = true)
    : evaluateCondition c own dmxFrom dmxTo master valueOf deeper =
      if c.targetKind = .listed .none then true
      else master.any (fun master => holdsWithin (valueOf master) c.fromValue c.toValue
        && (c.targetKind ≠ .listed .channelFunction || deeper master)) := by
  cases own with
  | none => cases h
  | some own =>
    simp only [holdsWithin, isValid, Option.any_some, Bool.and_eq_true, decide_eq_true_eq] at h
    unfold evaluateCondition
    dsimp only
    rw [h.1, h.2.1]
    simp only [Bool.not_true, Bool.false_eq_true, if_false, Bool.false_or, decide_eq_true_eq]
    rw [if_neg h.2.2]
    split
    next => rfl
    next hmaster =>
      cases master with
      | none => rfl
      | some master =>
        dsimp only [Option.any_some]
        cases valueOf master with
        | none => rfl
        | some raw =>
          dsimp only [holdsWithin, Option.any_some]
          cases inRange raw c.fromValue c.toValue with
          | false => rfl
          | true =>
            simp only [Bool.not_true, Bool.false_eq_true, if_false, Bool.true_and]
            split
            next hfunction => simp [hfunction]
            next hchannel => simp [hchannel]

theorem Reads.askMaster_eq (h : Reads rules value nodes rule find valueOf) (r : ActivationRule)
    (id : Int32)
    : askMaster rules value r id = ((find id).filter (fun master =>
        holdsWithin (valueOf master) r.masterFrom r.masterTo)).map rule := by
  unfold askMaster
  rw [← h.find_map]
  cases hfind : find id with
  | none => rfl
  | some master =>
    rw [Option.map_some, Option.filter_some, Option.filter_some, h.assigned master (h.mem hfind)]
    split
    . rfl
    . rfl

theorem Reads.follows (h : Reads rules value nodes rule find valueOf) {eval : Nat → α → Bool}
    {bound : Nat} {a : α} (ha : a ∈ nodes) {id functionId : Int32} {dmxFrom dmxTo : UInt32}
    {c : ModeMasterCondition} (hrule : rule a = ruleOf id dmxFrom dmxTo c functionId)
    (hround : eval (bound + 1) a = evaluateCondition c (valueOf a) dmxFrom dmxTo
      (find (if c.targetKind = .listed .channelFunction then functionId else c.masterProgramId))
      valueOf (eval bound))
    : Follows (ruleVerdict rules value) rule nodes eval bound a := by
  have hown : value (ruleOf id dmxFrom dmxTo c functionId).id = valueOf a := by
    rw [← hrule]
    exact (h.assigned a ha).symm
  unfold Follows
  rw [hrule, hround]
  by_cases hholds : (holdsWithin (valueOf a) dmxFrom dmxTo && isValid c) = true
  . have hownHolds : OwnHolds value (ruleOf id dmxFrom dmxTo c functionId) := by
      have hboth := hholds
      rw [Bool.and_eq_true, ← hown] at hboth
      exact ⟨hboth.1, hboth.2⟩
    rw [ruleVerdict_eq hownHolds, evaluateCondition_valid hholds]
    dsimp only [ruleOf]
    unfold masterOf
    by_cases hnone : c.targetKind = .listed .none
    . rw [if_pos hnone, if_pos hnone]
    . rw [if_neg hnone, if_neg hnone]
      by_cases hfunction : c.targetKind = .listed .channelFunction
      . rw [if_pos hfunction, if_pos hfunction]
        dsimp only
        rw [h.askMaster_eq]
        cases hfind : find functionId with
        | none => rfl
        | some master =>
          rw [Option.filter_some]
          dsimp only [Option.any_some]
          cases holdsWithin (valueOf master) c.fromValue c.toValue with
          | false => rfl
          | true =>
            refine ⟨master, h.mem hfind, rfl, ?_⟩
            simp [hfunction]
      . rw [if_neg hfunction, if_neg hfunction]
        dsimp only
        rw [h.askMaster_eq]
        cases hfind : find c.masterProgramId with
        | none => rfl
        | some master =>
          rw [Option.filter_some]
          dsimp only [Option.any_some]
          cases holdsWithin (valueOf master) c.fromValue c.toValue with
          | false => rfl
          | true => simp [hfunction]
  . have hrefuse : ruleVerdict rules value (ruleOf id dmxFrom dmxTo c functionId) = .refuse := by
      by_contra hne
      have hownHolds := ruleVerdict_own hne
      apply hholds
      rw [Bool.and_eq_true, ← hown]
      exact ⟨hownHolds.own, hownHolds.valid⟩
    rw [hrefuse, evaluateCondition_own hholds]

-- An evaluator with a bound of one more than there are functions computes the activation.
theorem Reads.eval_iff (h : Reads rules value nodes rule find valueOf)
    (hids : (rules.map ActivationRule.id).Nodup) {eval : Nat → α → Bool}
    (hzero : ∀ a, eval 0 a = false)
    (hfollows : ∀ bound, ∀ a ∈ nodes, Follows (ruleVerdict rules value) rule nodes eval bound a)
    {bound : Nat} (hbound : nodes.length ≤ bound) {a : α} (ha : a ∈ nodes)
    : eval bound a = true ↔ Active rules value (rule a) := by
  have hmem : rule a ∈ rules := by
    rw [← h.same]
    exact List.mem_map_of_mem ha
  have hlength : rules.length ≤ bound := by
    rw [← h.same, List.length_map]
    exact hbound
  rw [eval_eq_acceptsWithin hzero hfollows bound ha, ← accepts_iff_active hids]
  apply acceptsWithin_iff _ hmem hlength
  intro r _ master hask
  exact ((ruleVerdict_ask_iff hids).mp hask).2.2.known

theorem Reads.evaluate_iff (h : Reads rules value nodes rule find valueOf)
    (hids : (rules.map ActivationRule.id).Nodup) {eval : Nat → α → Bool}
    (hzero : ∀ a, eval 0 a = false)
    (hfollows : ∀ bound, ∀ a ∈ nodes, Follows (ruleVerdict rules value) rule nodes eval bound a)
    (id : Int32)
    : (find id).any (eval (nodes.length + 1)) = true ↔ IsActive rules value id := by
  have hrule := h.find_map id
  constructor
  . intro hany
    cases hfind : find id with
    | none =>
      rw [hfind] at hany
      cases hany
    | some a =>
      rw [hfind] at hany hrule
      obtain ⟨hmem, hid⟩ := (findRule_iff hids).mp hrule.symm
      have hactive := (h.eval_iff hids hzero hfollows (Nat.le_succ _) (h.mem hfind)).mp hany
      exact ⟨rule a, hmem, hid, hactive⟩
  . rintro ⟨r, hmem, hid, hactive⟩
    rw [(findRule_iff hids).mpr ⟨hmem, hid⟩] at hrule
    cases hfind : find id with
    | none =>
      rw [hfind] at hrule
      cases hrule
    | some a =>
      rw [hfind] at hrule
      rw [← Option.some.inj hrule] at hactive
      exact (h.eval_iff hids hzero hfollows (Nat.le_succ _) (h.mem hfind)).mpr hactive

end Evaluators

/-! ### The implementations -/

section Implementations

variable {rules : List ActivationRule} {value : Int32 → Option UInt32}

section Programs

variable {programs : List CompiledDmxSourceProgram} {values : List GoboSourceValue}

theorem activationIsActive_succ (bound : Nat) (program : CompiledDmxSourceProgram)
    : activationIsActive programs values (bound + 1) program
        = evaluateCondition program.activation
          ((findValue values program.programId).map GoboSourceValue.rawValue)
          program.dmxFrom program.dmxTo
          (programs.find? (fun master => master.programId == program.activation.masterProgramId))
          (fun master => (findValue values master.programId).map GoboSourceValue.rawValue)
          (activationIsActive programs values bound) := by
  unfold activationIsActive evaluateCondition findValue
  cases values.find? (fun value => value.sourceProgramId == program.programId) with
  | none => rfl
  | some own =>
    dsimp only [Option.map_some]
    cases programs.find? (fun master =>
        master.programId == program.activation.masterProgramId) with
    | none => rfl
    | some master =>
      dsimp only
      cases values.find? (fun value => value.sourceProgramId == master.programId) with
      | none => rfl
      | some masterValue => rfl

theorem ProgramsMatch.reads (h : ProgramsMatch rules value programs values)
    : Reads rules value programs programRule
        (fun id => programs.find? (fun program => program.programId == id))
        (fun program => (findValue values program.programId).map GoboSourceValue.rawValue) where
  same := h.same
  finds := fun _ => rfl
  assigned := h.assigned

theorem ProgramsMatch.follows (h : ProgramsMatch rules value programs values) (bound : Nat)
    {program : CompiledDmxSourceProgram} (hprogram : program ∈ programs)
    : Follows (ruleVerdict rules value) programRule programs (activationIsActive programs values)
        bound program := by
  apply @Reads.follows _ _ _ _ _ _ _ h.reads _ _ _ hprogram _ _ _ _ _ rfl
  rw [ite_self]
  exact activationIsActive_succ bound program

end Programs

section Definitions

variable {definitions : GoboSourceDefinitions} {values : List GoboSourceValue}

theorem definitionIsActive_succ (bound : Nat) (pointer : Fin definitions.installed.length)
    : definitionIsActive definitions values (bound + 1) pointer
        = evaluateCondition (definitions.sourcePointer pointer).activation
          ((findValue values (definitions.sourcePointer pointer).programId).map
            GoboSourceValue.rawValue)
          (definitions.sourcePointer pointer).dmxFrom (definitions.sourcePointer pointer).dmxTo
          (definitions.findProgram (definitions.sourcePointer pointer).activation.masterProgramId)
          (fun master => (findValue values (definitions.sourcePointer master).programId).map
            GoboSourceValue.rawValue)
          (definitionIsActive definitions values bound) := by
  unfold definitionIsActive evaluateCondition
  dsimp only
  cases findValue values (definitions.sourcePointer pointer).programId with
  | none => rfl
  | some own =>
    dsimp only [Option.map_some]
    cases definitions.findProgram
        (definitions.sourcePointer pointer).activation.masterProgramId with
    | none => rfl
    | some master =>
      dsimp only
      cases findValue values (definitions.sourcePointer master).programId with
      | none => rfl
      | some masterValue => rfl

theorem ProgramsMatch.reads_definitions
    (h : ProgramsMatch rules value definitions.programs values)
    : Reads rules value definitions.pointers
        (fun pointer => programRule (definitions.sourcePointer pointer))
        definitions.findProgram
        (fun pointer => (findValue values (definitions.sourcePointer pointer).programId).map
          GoboSourceValue.rawValue) where
  same := by
    rw [← h.same, GoboSourceDefinitions.programs, List.map_map]
    rfl
  finds := fun _ => rfl
  assigned := fun pointer hpointer =>
    h.assigned (definitions.sourcePointer pointer) (List.mem_map_of_mem hpointer)

theorem ProgramsMatch.follows_definitions
    (h : ProgramsMatch rules value definitions.programs values) (bound : Nat)
    {pointer : Fin definitions.installed.length} (hpointer : pointer ∈ definitions.pointers)
    : Follows (ruleVerdict rules value) (fun p => programRule (definitions.sourcePointer p))
        definitions.pointers (definitionIsActive definitions values) bound pointer := by
  apply @Reads.follows _ _ _ _ _ _ _ h.reads_definitions _ _ _ hpointer _ _ _ _ _ rfl
  rw [ite_self]
  exact definitionIsActive_succ bound pointer

theorem evaluateBorrowedActivation_isSome (id : Int32) (definitions : GoboSourceDefinitions)
    (values : List GoboSourceValue)
    : (evaluateBorrowedActivation id definitions values).isSome
        = (definitions.findProgram id).any
          (definitionIsActive definitions values (definitions.pointers.length + 1)) := by
  unfold evaluateBorrowedActivation
  cases definitions.findProgram id with
  | none => rfl
  | some pointer =>
    dsimp only [Option.any_some]
    cases hvalue : findValue values (definitions.sourcePointer pointer).programId with
    | none =>
      rw [definitionIsActive_succ, hvalue]
      rfl
    | some own =>
      dsimp only
      cases definitionIsActive definitions values (definitions.pointers.length + 1) pointer with
      | false => rfl
      | true => rfl

end Definitions

section Functions

variable {functions : List ChannelFunctionActivation} {sourceValues : List UInt32}

theorem functionIsActive_succ (bound : Nat) (f : ChannelFunctionActivation)
    : functionIsActive functions sourceValues (bound + 1) f
        = evaluateCondition f.modeMaster (sourceValue sourceValues f.sourceId) f.dmxFrom f.dmxTo
          (findFunction functions
            (if f.modeMaster.targetKind = .listed .channelFunction then f.modeMaster.targetId
              else f.modeMaster.masterProgramId))
          (fun master => sourceValue sourceValues master.sourceId)
          (functionIsActive functions sourceValues bound) := by
  rw [functionIsActive]
  unfold evaluateCondition
  cases sourceValue sourceValues f.sourceId with
  | none => rfl
  | some own =>
    dsimp only
    cases findFunction functions
        (if f.modeMaster.targetKind = .listed .channelFunction then f.modeMaster.targetId
          else f.modeMaster.masterProgramId) with
    | none => rfl
    | some master =>
      cases hvalue : sourceValue sourceValues master.sourceId with
      | none => simp only [hvalue]
      | some masterValue => simp only [hvalue]

theorem FunctionsMatch.reads (h : FunctionsMatch rules value functions sourceValues)
    : Reads rules value functions functionRule (findFunction functions)
        (fun f => sourceValue sourceValues f.sourceId) where
  same := h.same
  finds := fun _ => rfl
  assigned := h.assigned

theorem FunctionsMatch.follows (h : FunctionsMatch rules value functions sourceValues) (bound : Nat)
    {f : ChannelFunctionActivation} (hf : f ∈ functions)
    : Follows (ruleVerdict rules value) functionRule functions
        (functionIsActive functions sourceValues) bound f :=
  @Reads.follows _ _ _ _ _ _ _ h.reads _ _ _ hf _ _ _ _ _ rfl (functionIsActive_succ bound f)

end Functions

/--
The three evaluators answer whether a function is active. Their bounds do not cut a chain off, a
larger one changes nothing, and a function whose masters lead into a cycle is not active.
-/
theorem activation_agrees (hids : (rules.map ActivationRule.id).Nodup)
    {definitions : GoboSourceDefinitions} {programs : List CompiledDmxSourceProgram}
    (hdefinitions : definitions.programs = programs) {values : List GoboSourceValue}
    (hprograms : ProgramsMatch rules value programs values)
    {functions : List ChannelFunctionActivation} {sourceValues : List UInt32}
    (hfunctions : FunctionsMatch rules value functions sourceValues)
    : (∀ id,
        (evaluateGoboSourceActivation id programs values = true ↔ IsActive rules value id)
          ∧ ((evaluateBorrowedActivation id definitions values).isSome = true
            ↔ IsActive rules value id)
          ∧ (isChannelFunctionActive id functions sourceValues = true ↔ IsActive rules value id))
      ∧ (∀ bound > rules.length,
        (∀ program ∈ programs, activationIsActive programs values bound program
            = activationIsActive programs values (programs.length + 1) program)
          ∧ (∀ pointer ∈ definitions.pointers, definitionIsActive definitions values bound pointer
            = definitionIsActive definitions values (definitions.pointers.length + 1) pointer)
          ∧ ∀ f ∈ functions, functionIsActive functions sourceValues bound f
            = functionIsActive functions sourceValues (functions.length + 1) f)
      ∧ ∀ r ∈ rules, (∃ s, Relation.ReflTransGen (FunctionLink rules) r s
          ∧ Relation.TransGen (FunctionLink rules) s s) → ¬ IsActive rules value r.id := by
  subst hdefinitions
  have hreads := hprograms.reads
  have hdefinitionReads := hprograms.reads_definitions
  have hfunctionReads := hfunctions.reads
  have hprogramsLength : definitions.programs.length = rules.length := by
    rw [← hprograms.same, List.length_map]
  have hpointersLength : definitions.pointers.length = rules.length := by
    rw [← hprogramsLength, GoboSourceDefinitions.programs, List.length_map]
  have hfunctionsLength : functions.length = rules.length := by
    rw [← hfunctions.same, List.length_map]
  refine ⟨?_, ?_, ?_⟩
  . intro id
    refine ⟨?_, ?_, ?_⟩
    . rw [← hreads.evaluate_iff hids (fun _ => rfl) (fun bound _ hp => hprograms.follows bound hp)]
      unfold evaluateGoboSourceActivation
      cases definitions.programs.find? (fun program => program.programId == id) with
      | none => rfl
      | some program => rfl
    . rw [evaluateBorrowedActivation_isSome, hdefinitionReads.evaluate_iff hids (fun _ => rfl)
        (fun bound _ hp => hprograms.follows_definitions bound hp)]
    . rw [← hfunctionReads.evaluate_iff hids (fun _ => rfl)
        (fun bound _ hf => hfunctions.follows bound hf)]
      unfold isChannelFunctionActive
      cases findFunction functions id with
      | none => rfl
      | some f => rfl
  . intro bound hbound
    refine ⟨?_, ?_, ?_⟩
    . intro program hprogram
      have heval := fun n (hn : definitions.programs.length ≤ n) => hreads.eval_iff hids
        (fun _ => rfl) (fun bound _ hp => hprograms.follows bound hp) hn hprogram
      rw [Bool.eq_iff_iff, heval bound (by omega), heval _ (Nat.le_succ _)]
    . intro pointer hpointer
      have heval := fun n (hn : definitions.pointers.length ≤ n) => hdefinitionReads.eval_iff hids
        (fun _ => rfl) (fun bound _ hp => hprograms.follows_definitions bound hp) hn hpointer
      rw [Bool.eq_iff_iff, heval bound (by omega), heval _ (Nat.le_succ _)]
    . intro f hf
      have heval := fun n (hn : functions.length ≤ n) => hfunctionReads.eval_iff hids
        (fun _ => rfl) (fun bound _ hf => hfunctions.follows bound hf) hn hf
      rw [Bool.eq_iff_iff, heval bound (by omega), heval _ (Nat.le_succ _)]
  . rintro r hr ⟨s, hreach, hcycle⟩ ⟨found, hfound, hid, hactive⟩
    rw [List.inj_on_of_nodup_map hids hfound hr hid] at hactive
    exact not_active_of_cycle hids hreach hcycle hactive

end Implementations

/-- A function that is active while its master, a function as well, is in a range. -/
def cascadeCondition : ModeMasterCondition where
  targetKind := .listed .channelFunction
  targetId := 1
  masterProgramId := 1
  fromValue := 10
  toValue := 20

def cascadePrograms : List CompiledDmxSourceProgram :=
  [{ programId := 1, dmxTo := 100 }, { programId := 2, activation := cascadeCondition }]

def cascadeDefinitions : GoboSourceDefinitions where
  installed := cascadePrograms
  pointers := [⟨0, by decide⟩, ⟨1, by decide⟩]

def cascadeValues : List GoboSourceValue := [⟨1, 15⟩, ⟨2, 50⟩]

def cascadeFunctions : List ChannelFunctionActivation :=
  [{ functionId := 1, sourceId := 0, dmxTo := 100 },
    { functionId := 2, sourceId := 1, modeMaster := cascadeCondition }]

def cascadeValue (id : Int32) : Option UInt32 :=
  (findValue cascadeValues id).map GoboSourceValue.rawValue

theorem activation_agrees_cascade
    : IsActive (cascadePrograms.map programRule) cascadeValue 2
        ∧ (evaluateBorrowedActivation 2 cascadeDefinitions cascadeValues).isSome = true
        ∧ isChannelFunctionActive 2 cascadeFunctions [15, 50] = true := by
  have hprograms : ProgramsMatch (cascadePrograms.map programRule) cascadeValue cascadePrograms
      cascadeValues := ⟨rfl, fun _ _ => rfl⟩
  have hfunctions : FunctionsMatch (cascadePrograms.map programRule) cascadeValue cascadeFunctions
      [15, 50] := ⟨by decide, by decide⟩
  obtain ⟨hall, _⟩ := @activation_agrees _ _ (by decide) cascadeDefinitions
    cascadePrograms rfl _ hprograms _ _ hfunctions
  have hactive : IsActive (cascadePrograms.map programRule) cascadeValue 2 :=
    (hall 2).1.mp (by decide)
  exact ⟨hactive, (hall 2).2.1.mpr hactive, (hall 2).2.2.mpr hactive⟩

end Peraviz.Gdtf
