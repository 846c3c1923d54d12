import Peraviz.Runtime.Evaluation.Impl

/-!
This module contains the ModeMaster links between the ChannelFunctions of a mode: the check of their
graph and the evaluation of what is active.
-/

namespace Peraviz.Gdtf

open Peraviz.Runtime

structure ChannelFunctionActivation where
  functionId : Int32 := 0
  sourceId : Int32 := 0
  dmxFrom : UInt32 := 0
  dmxTo : UInt32 := 255
  modeMaster : ModeMasterCondition := {}
  deriving DecidableEq

/-- What a visit has left at a function: nothing, that it is on the way, that it is done. -/
inductive VisitMark where
  | unvisited
  | visiting
  | visited
  deriving DecidableEq

namespace ChannelFunctionActivation

def unresolved (f : ChannelFunctionActivation) : String :=
  "PVZ-GDTF-MODEMASTER-UNRESOLVED:function=" ++ toString f.functionId.toInt

def cyclic (f : ChannelFunctionActivation) : String :=
  "PVZ-GDTF-MODEMASTER-CYCLE:function=" ++ toString f.functionId.toInt

end ChannelFunctionActivation

/-- The map from ids to indices, a later function replaces an earlier one. -/
def indexOf (functions : List ChannelFunctionActivation) (id : Int32) : Option Nat :=
  (List.range functions.length).foldl (fun found index =>
      match functions[index]? with
      | some f => if f.functionId = id then some index else found
      | none => found)
    none

/-- What a function asks its ModeMaster, when it has one that can be asked. -/
def conditionOf (functions : List ChannelFunctionActivation) (f : ChannelFunctionActivation)
    : Except String (Option Nat) :=
  if f.modeMaster.targetKind = .listed .invalid ∨ f.modeMaster.valid = false then
    .error f.unresolved
  else if f.modeMaster.targetKind = .listed .channelFunction then
    match indexOf functions f.modeMaster.targetId with
    | none => .error f.unresolved
    | some target => .ok (some target)
  else
    .ok none

-- A visit goes on from a function only after it has marked it, so that fewer are unvisited.
def visitFunction (functions : List ChannelFunctionActivation) (state : List VisitMark) (index : Nat)
    : Except String (List VisitMark) :=
  match functions[index]? with
  | none => .ok state
  | some f =>
    if state[index]? = some .visiting then
      .error f.cyclic
    else if _hmark : state[index]? = some .unvisited then
      match conditionOf functions f with
      | .error diagnostic => .error diagnostic
      | .ok none => .ok ((state.set index .visiting).set index .visited)
      | .ok (some target) =>
        match visitFunction functions (state.set index .visiting) target with
        | .error diagnostic => .error diagnostic
        | .ok left => .ok (left.set index .visited)
    else
      .ok state
termination_by state.count .unvisited
decreasing_by
  obtain ⟨hlt, heq⟩ := List.getElem?_eq_some_iff.mp _hmark
  rw [List.count_set hlt, heq]
  have hpos : 0 < state.count .unvisited := List.count_pos_iff.mpr (heq ▸ List.getElem_mem hlt)
  simp only [beq_self_eq_true, if_true]
  rw [if_neg (by decide)]
  omega

/-- The diagnostic of the first function that does not resolve or leads into a cycle. -/
def validateModeMasterGraph (functions : List ChannelFunctionActivation) : Except String Unit := do
  let _ ← (List.range functions.length).foldlM (visitFunction functions)
    (List.replicate functions.length .unvisited)
  return ()

/-! ### Activation -/

def sourceValue (sourceValues : List UInt32) (sourceId : Int32) : Option UInt32 :=
  if 0 ≤ sourceId then sourceValues[sourceId.toInt.toNat]? else none

def findFunction (functions : List ChannelFunctionActivation) (id : Int32)
    : Option ChannelFunctionActivation :=
  functions.find? (fun f => f.functionId == id)

/-- The depth bound of the source counts up to the number of functions, the fuel counts down. -/
def functionIsActive (functions : List ChannelFunctionActivation) (sourceValues : List UInt32)
    : Nat → ChannelFunctionActivation → Bool
  | 0, _ => false
  | fuel + 1, f =>
    match sourceValue sourceValues f.sourceId with
    | none => false
    | some own =>
      if !inRange own f.dmxFrom f.dmxTo then
        false
      else if !f.modeMaster.valid || f.modeMaster.targetKind = .listed .invalid then
        false
      else if f.modeMaster.targetKind = .listed .none then
        true
      else
        match findFunction functions
            (if f.modeMaster.targetKind = .listed .channelFunction then f.modeMaster.targetId
              else f.modeMaster.masterProgramId) with
        | none => false
        | some master =>
          match sourceValue sourceValues master.sourceId with
          | none => false
          | some masterValue =>
            if !inRange masterValue f.modeMaster.fromValue f.modeMaster.toValue then
              false
            else if f.modeMaster.targetKind = .listed .channelFunction then
              functionIsActive functions sourceValues fuel master
            else
              true

def isChannelFunctionActive (functionId : Int32) (functions : List ChannelFunctionActivation)
    (sourceValues : List UInt32) : Bool :=
  match findFunction functions functionId with
  | none => false
  | some f => functionIsActive functions sourceValues (functions.length + 1) f

end Peraviz.Gdtf
