import Peraviz.Chain.Verdict
import Peraviz.Gdtf.ModeMaster.Impl

/-!
This module contains what it means that a function is active under its ModeMaster, and that the
evaluators of the runtime and of the importer agree with it.
-/

namespace Peraviz.Gdtf

open Peraviz.Runtime Chain

/-! ### The meaning of an activation -/

/-- What the condition of a function looks at besides the function itself. -/
inductive Master where
  | none
  | channel (id : Int32)
  | function (id : Int32)
  deriving DecidableEq

/-- What the evaluators read of a function, `valid` is its condition's. -/
structure ActivationRule where
  id : Int32
  dmxFrom : UInt32
  dmxTo : UInt32
  valid : Bool
  master : Master
  masterFrom : UInt32
  masterTo : UInt32
  deriving DecidableEq

/-- There is a value and it is in an inclusive range. -/
def holdsWithin (raw : Option UInt32) (low high : UInt32) : Bool :=
  raw.any (fun raw => inRange raw low high)

section Meaning

variable (rules : List ActivationRule) (value : Int32 → Option UInt32)

/-- The function's own value is in its range and its condition is valid. -/
structure OwnHolds (r : ActivationRule) : Prop where
  own : holdsWithin (value r.id) r.dmxFrom r.dmxTo = true
  valid : r.valid = true

/-- The value of the master is in the range of the condition. -/
structure MasterHolds (r master : ActivationRule) : Prop where
  known : master ∈ rules
  value : holdsWithin (value master.id) r.masterFrom r.masterTo = true

inductive Active : ActivationRule → Prop where
  | free {r : ActivationRule} (hown : OwnHolds value r) (hmaster : r.master = .none) : Active r
  | channel {r master : ActivationRule} (hown : OwnHolds value r)
      (hmaster : r.master = .channel master.id) (hholds : MasterHolds rules value r master)
      : Active r
  | function {r master : ActivationRule} (hown : OwnHolds value r)
      (hmaster : r.master = .function master.id) (hholds : MasterHolds rules value r master)
      (hactive : Active master) : Active r

def IsActive (id : Int32) : Prop := ∃ r ∈ rules, r.id = id ∧ Active rules value r

def FunctionLink (r master : ActivationRule) : Prop :=
  master ∈ rules ∧ r.master = .function master.id

/-! ### One evaluation of a function -/

def findRule (id : Int32) : Option ActivationRule := rules.find? (fun r => r.id == id)

/-- The master with an id when its value is in the range of the condition. -/
def askMaster (r : ActivationRule) (id : Int32) : Option ActivationRule :=
  (findRule rules id).filter (fun master =>
    holdsWithin (value master.id) r.masterFrom r.masterTo)

/-- The evaluation of one function, a ChannelFunction master is asked for itself. -/
def ruleVerdict (r : ActivationRule) : Verdict ActivationRule :=
  if holdsWithin (value r.id) r.dmxFrom r.dmxTo && r.valid then
    match r.master with
    | .none => .accept
    | .channel id =>
      match askMaster rules value r id with
      | none => .refuse
      | some _ => .accept
    | .function id =>
      match askMaster rules value r id with
      | none => .refuse
      | some master => .ask master
  else
    .refuse

end Meaning

section Verdicts

variable {rules : List ActivationRule} {value : Int32 → Option UInt32}

theorem findRule_iff (hids : (rules.map ActivationRule.id).Nodup) {id : Int32} {r : ActivationRule}
    : findRule rules id = some r ↔ r ∈ rules ∧ r.id = id := by
  unfold findRule
  constructor
  . intro h
    exact ⟨List.mem_of_find?_eq_some h, by simpa using List.find?_some h⟩
  . rintro ⟨hmem, hid⟩
    cases hfind : rules.find? (fun r => r.id == id) with
    | none =>
      have hnone := List.find?_eq_none.mp hfind r hmem
      simp [hid] at hnone
    | some found =>
      have hfound : found.id = id := by simpa using List.find?_some hfind
      rw [List.inj_on_of_nodup_map hids (List.mem_of_find?_eq_some hfind) hmem
        (hfound.trans hid.symm)]

theorem askMaster_iff (hids : (rules.map ActivationRule.id).Nodup) {r master : ActivationRule}
    {id : Int32}
    : askMaster rules value r id = some master
        ↔ id = master.id ∧ MasterHolds rules value r master := by
  unfold askMaster
  rw [Option.filter_eq_some_iff, findRule_iff hids]
  constructor
  . rintro ⟨⟨hmem, hid⟩, hvalue⟩
    exact ⟨hid.symm, hmem, hvalue⟩
  . rintro ⟨hid, hmem, hvalue⟩
    exact ⟨⟨hmem, hid.symm⟩, hvalue⟩

theorem ruleVerdict_own {r : ActivationRule} (h : ruleVerdict rules value r ≠ .refuse)
    : OwnHolds value r := by
  unfold ruleVerdict at h
  split at h
  next hown =>
    rw [Bool.and_eq_true] at hown
    exact ⟨hown.1, hown.2⟩
  next => exact absurd rfl h

theorem ruleVerdict_eq {r : ActivationRule} (hown : OwnHolds value r)
    : ruleVerdict rules value r =
      match r.master with
      | .none => .accept
      | .channel id =>
        match askMaster rules value r id with
        | none => .refuse
        | some _ => .accept
      | .function id =>
        match askMaster rules value r id with
        | none => .refuse
        | some master => .ask master := by
  unfold ruleVerdict
  rw [hown.own, hown.valid]
  rfl

theorem ruleVerdict_accept_iff (hids : (rules.map ActivationRule.id).Nodup) {r : ActivationRule}
    : ruleVerdict rules value r = .accept
        ↔ OwnHolds value r ∧ (r.master = .none
          ∨ ∃ master, r.master = .channel master.id ∧ MasterHolds rules value r master) := by
  constructor
  . intro h
    have hown : OwnHolds value r := by
      apply @ruleVerdict_own rules
      rw [h]
      intro hrefuse
      cases hrefuse
    refine ⟨hown, ?_⟩
    rw [ruleVerdict_eq hown] at h
    cases hmaster : r.master with
    | none => exact Or.inl rfl
    | channel id =>
      rw [hmaster] at h
      dsimp only at h
      cases hask : askMaster rules value r id with
      | none =>
        rw [hask] at h
        cases h
      | some master =>
        obtain ⟨hid, hholds⟩ := (askMaster_iff hids).mp hask
        rw [hid]
        exact Or.inr ⟨master, rfl, hholds⟩
    | function id =>
      rw [hmaster] at h
      dsimp only at h
      cases hask : askMaster rules value r id with
      | none =>
        rw [hask] at h
        cases h
      | some master =>
        rw [hask] at h
        cases h
  . rintro ⟨hown, hcases⟩
    rw [ruleVerdict_eq hown]
    cases hcases with
    | inl hfree => rw [hfree]
    | inr hchannel =>
      obtain ⟨master, hmaster, hholds⟩ := hchannel
      rw [hmaster]
      dsimp only
      rw [(askMaster_iff hids).mpr ⟨rfl, hholds⟩]

theorem ruleVerdict_ask_iff (hids : (rules.map ActivationRule.id).Nodup)
    {r master : ActivationRule}
    : ruleVerdict rules value r = .ask master
        ↔ OwnHolds value r ∧ r.master = .function master.id ∧ MasterHolds rules value r master := by
  constructor
  . intro h
    have hown : OwnHolds value r := by
      apply @ruleVerdict_own rules
      rw [h]
      intro hrefuse
      cases hrefuse
    refine ⟨hown, ?_⟩
    rw [ruleVerdict_eq hown] at h
    cases hcase : r.master with
    | none =>
      rw [hcase] at h
      cases h
    | channel id =>
      rw [hcase] at h
      dsimp only at h
      split at h
      . cases h
      . cases h
    | function id =>
      rw [hcase] at h
      dsimp only at h
      cases hask : askMaster rules value r id with
      | none =>
        rw [hask] at h
        cases h
      | some found =>
        rw [hask] at h
        cases h
        obtain ⟨hid, hholds⟩ := (askMaster_iff hids).mp hask
        exact ⟨congrArg Master.function hid, hholds⟩
  . rintro ⟨hown, hmaster, hholds⟩
    rw [ruleVerdict_eq hown, hmaster]
    dsimp only
    rw [(askMaster_iff hids).mpr ⟨rfl, hholds⟩]

theorem accepts_iff_active (hids : (rules.map ActivationRule.id).Nodup) {r : ActivationRule}
    : Accepts (ruleVerdict rules value) r ↔ Active rules value r := by
  constructor
  . intro h
    induction h with
    | accept hstep =>
      obtain ⟨hown, hcases⟩ := (ruleVerdict_accept_iff hids).mp hstep
      cases hcases with
      | inl hfree => exact Active.free hown hfree
      | inr hchannel =>
        obtain ⟨master, hmaster, hholds⟩ := hchannel
        exact Active.channel hown hmaster hholds
    | ask hstep _ ih =>
      obtain ⟨hown, hmaster, hholds⟩ := (ruleVerdict_ask_iff hids).mp hstep
      exact Active.function hown hmaster hholds ih
  . intro h
    induction h with
    | free hown hmaster =>
      exact Accepts.accept ((ruleVerdict_accept_iff hids).mpr ⟨hown, Or.inl hmaster⟩)
    | channel hown hmaster hholds =>
      exact Accepts.accept ((ruleVerdict_accept_iff hids).mpr
        ⟨hown, Or.inr ⟨_, hmaster, hholds⟩⟩)
    | function hown hmaster hholds _ ih =>
      exact Accepts.ask ((ruleVerdict_ask_iff hids).mpr ⟨hown, hmaster, hholds⟩) ih

theorem Active.reaches (hids : (rules.map ActivationRule.id).Nodup) {r s : ActivationRule}
    (h : Active rules value r) (hreach : Relation.ReflTransGen (FunctionLink rules) r s)
    : Active rules value s := by
  induction hreach with
  | refl => exact h
  | tail _ hlink ih =>
    obtain ⟨hmem, hfunction⟩ := hlink
    cases ih with
    | free _ hmaster =>
      rw [hfunction] at hmaster
      cases hmaster
    | channel _ hmaster _ =>
      rw [hfunction] at hmaster
      cases hmaster
    | function _ hmaster hholds hactive =>
      rw [hfunction] at hmaster
      rw [List.inj_on_of_nodup_map hids hmem hholds.known (Master.function.inj hmaster)]
      exact hactive

theorem not_active_of_cycle (hids : (rules.map ActivationRule.id).Nodup) {r s : ActivationRule}
    (hreach : Relation.ReflTransGen (FunctionLink rules) r s)
    (hcycle : Relation.TransGen (FunctionLink rules) s s) : ¬ Active rules value r := by
  intro hactive
  have hs := hactive.reaches hids hreach
  -- On an active chain the links are the questions of the evaluation.
  have hloop : ∀ t, Relation.TransGen (FunctionLink rules) s t →
      Relation.TransGen (Asks (ruleVerdict rules value)) s t := by
    intro t hway
    have hask : ∀ a b, Active rules value a → FunctionLink rules a b →
        Asks (ruleVerdict rules value) a b := by
      intro a b ha hlink
      obtain ⟨hmem, hfunction⟩ := hlink
      cases ha with
      | free _ hmaster =>
        rw [hfunction] at hmaster
        cases hmaster
      | channel _ hmaster _ =>
        rw [hfunction] at hmaster
        cases hmaster
      | function hown hmaster hholds _ =>
        rw [hfunction] at hmaster
        have heq := List.inj_on_of_nodup_map hids hmem hholds.known (Master.function.inj hmaster)
        rw [← heq] at hholds
        exact (ruleVerdict_ask_iff hids).mpr ⟨hown, hfunction, hholds⟩
    induction hway with
    | single hlink => exact Relation.TransGen.single (hask _ _ hs hlink)
    | tail hway hlink ih => exact ih.tail (hask _ _ (hs.reaches hids hway.to_reflTransGen) hlink)
  exact ((accepts_iff_active hids).mpr hs).not_loop (hloop s hcycle)

end Verdicts

end Peraviz.Gdtf
