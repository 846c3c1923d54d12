import Peraviz.KeyedLog.Basic
import Peraviz.Presentation.AsyncPipeline.Custody

/-!
This module contains the way of a DMX frame: submitted by the producer, copied into a bank, and
handed to the core by the coordinator or, when the session ends, by the main thread.
-/

namespace Peraviz.Presentation
namespace AsyncPipeline

open KeyedLog

variable {γ σ : Type} {core : Core γ σ}

def submittedBy : Event × Output σ → Option (Int × List UInt8)
  | (_, .submitted frame) => frame
  | _ => none

def handedBy : Event × Output σ → Option (Int × List UInt8)
  | (_, .handed universeId data) => some (universeId, data)
  | _ => none

/-- The frames that `submit` accepted along a trace, oldest first. -/
def submissions (trace : List (Event × Output σ)) : List (Int × List UInt8) :=
  trace.filterMap submittedBy

/-- The frames that the core received along a trace, oldest first. -/
def handed (trace : List (Event × Output σ)) : List (Int × List UInt8) :=
  trace.filterMap handedBy

/-- The sequence of the last frame of a universe, `1` for the frame it was held with. -/
def sequenceOf (universeId : Int) (log : List (Int × List UInt8)) : UInt64 :=
  UInt64.ofNat ((upTo universeId log).length + 1)

/-- What the producer keeps of a universe after the submissions of a log. -/
def valueAfter (log : List (Int × List UInt8)) (held : Int × List UInt8) : InputValue where
  id := held.1
  sequence := sequenceOf held.1 log
  data := (valuesOf held.1 log).getLast?.getD held.2

theorem sequenceOf_append_of_nil {universeId : Int} (log : List (Int × List UInt8))
    {rest : List (Int × List UInt8)} (h : valuesOf universeId rest = [])
    : sequenceOf universeId (log ++ rest) = sequenceOf universeId log := by
  rw [sequenceOf, upTo_append_of_nil log h, sequenceOf]

-- As long as the sequences do not wrap around, a new frame has a new sequence.
theorem sequenceOf_append_ne {universeId : Int} (log : List (Int × List UInt8))
    {rest : List (Int × List UInt8)} (hbound : (log ++ rest).length < 2 ^ 64)
    (h : valuesOf universeId rest ≠ [])
    : sequenceOf universeId (log ++ rest) ≠ sequenceOf universeId log := by
  have hlow := length_upTo_le universeId log
  have hhigh := length_upTo_le universeId (log ++ rest)
  have hlt := length_lt_upTo log h
  intro heq
  unfold sequenceOf at heq
  have hmod := congrArg UInt64.toNat heq
  simp only [UInt64.toNat_ofNat'] at hmod
  omega

theorem getLast?_of_sequenceOf_ne {held : Int × List UInt8} {before log : List (Int × List UInt8)}
    (hbefore : before <+: log) (hnew : sequenceOf held.1 log ≠ sequenceOf held.1 before)
    : (valuesOf held.1 log).getLast? = some (valueAfter log held).data := by
  obtain ⟨rest, rfl⟩ := hbefore
  have hvalues : valuesOf held.1 rest ≠ [] := fun hnil => hnew (sequenceOf_append_of_nil _ hnil)
  have hne : valuesOf held.1 (before ++ rest) ≠ [] := by
    rw [valuesOf_append]
    exact List.append_ne_nil_of_right_ne_nil _ hvalues
  simp only [valueAfter, List.getLast?_eq_some_getLast hne, Option.getD_some]

theorem index_eq_of_id {helds : List (Int × List UInt8)} (hnodup : (helds.map Prod.fst).Nodup)
    {index other : Nat} {held held' : Int × List UInt8} (hheld : helds[index]? = some held)
    (hheld' : helds[other]? = some held') (hid : held.1 = held'.1)
    : index = other := by
  obtain ⟨hlt, rfl⟩ := List.getElem?_eq_some_iff.mp hheld
  obtain ⟨hlt', rfl⟩ := List.getElem?_eq_some_iff.mp hheld'
  have helem : helds[index] = helds[other] := List.inj_on_of_nodup_map hnodup
    (List.getElem_mem hlt) (List.getElem_mem hlt') hid
  exact (hnodup.of_map Prod.fst).getElem_inj_iff.mp helem

theorem valueAfter_concat_of_ne {held frame : Int × List UInt8} (h : frame.1 ≠ held.1)
    (log : List (Int × List UInt8))
    : valueAfter (log ++ [frame]) held = valueAfter log held := by
  have hnil : valuesOf held.1 [frame] = [] := valuesOf_of_ne h frame.2
  simp [valueAfter, sequenceOf_append_of_nil log hnil, hnil]

theorem valueAfter_concat_self (held : Int × List UInt8) (data : List UInt8)
    (log : List (Int × List UInt8))
    : valueAfter (log ++ [(held.1, data)]) held
        = ⟨held.1, UInt64.ofNat (log.length + 1) + 1, data⟩ := by
  simp [valueAfter, sequenceOf]

theorem set_valueAfter {helds : List (Int × List UInt8)} (hnodup : (helds.map Prod.fst).Nodup)
    {log : List (Int × List UInt8)} {universeId : Int} {index : Nat}
    (hindex : (helds.map (valueAfter log)).findIdx? (·.id == universeId) = some index)
    (data : List UInt8)
    : (helds.map (valueAfter log)).set index ⟨universeId, UInt64.ofNat (log.length + 1) + 1, data⟩
        = helds.map (valueAfter (log ++ [(universeId, data)])) := by
  obtain ⟨hlt, hid, _⟩ := List.findIdx?_eq_some_iff_getElem.mp hindex
  rw [List.length_map] at hlt
  simp only [List.getElem_map, valueAfter, beq_iff_eq] at hid
  apply List.ext_getElem?
  intro other
  simp only [List.getElem?_set, List.length_map, List.getElem?_map]
  by_cases heq : index = other
  . rw [if_pos heq, ← heq, if_pos hlt, List.getElem?_eq_getElem hlt, Option.map_some, ← hid,
      valueAfter_concat_self]
  . rw [if_neg heq]
    by_cases hother : other < helds.length
    . have hne : universeId ≠ helds[other].1 := by
        intro hsame
        apply heq
        exact index_eq_of_id hnodup (List.getElem?_eq_getElem hlt) (List.getElem?_eq_getElem hother)
          (hid.trans hsame)
      rw [List.getElem?_eq_getElem hother, Option.map_some, Option.map_some,
        valueAfter_concat_of_ne hne]
    . rw [List.getElem?_eq_none (by omega), Option.map_none, Option.map_none]

namespace Main

/-- The bank that is filled and not in the mailbox yet. -/
def filled : Main → List (Fin 3)
  | exchanging bank => [bank]
  | _ => []

end Main

namespace State

variable {s s' : State γ σ} {event : Event} {out : Output σ} {past : List (Event × Output σ)} {c : γ}
  {taken : Int → List (Int × List UInt8)} {copied : Fin 3 → List (Int × List UInt8)}

/-- The banks on their way to the core, the oldest first. -/
def pending (s : State γ σ) : List (Fin 3) :=
  if s.coordinator = .exited then
    []
  else
    s.coordinator.inputBanks ++ s.queuedInput.toList ++ s.main.filled

theorem pending_of_exited (h : s.coordinator = .exited) : s.pending = [] := if_pos h

theorem pending_of_awake (h : s.coordinator ≠ .exited)
    : s.pending = s.coordinator.inputBanks ++ s.queuedInput.toList ++ s.main.filled := if_neg h

/-- The main thread has handed the last frame of the universe to the core. -/
def Restored (s : State γ σ) (index : Nat) : Prop :=
  s.retired = true ∨ ∃ next, s.main = .restoring next ∧ index < next

/--
The frames of a bank are those after a part of the submissions, `copied`, and the core knows of each
universe the frames of such a part, `taken`.
-/
structure Delivers (core : Core γ σ) (c : γ) (taken : Int → List (Int × List UInt8))
    (copied : Fin 3 → List (Int × List UInt8)) (past : List (Event × Output σ)) (s : State γ σ)
    : Prop where
  schema : s.schema = core.schemaGeneration c
  latest : s.latest = (core.heldUniverses c).map (valueAfter (submissions past))
  sequence : s.producerSequence = UInt64.ofNat ((submissions past).length + 1)
  known : ∀ frame ∈ submissions past, frame.1 ∈ (core.heldUniverses c).map Prod.fst ∧ frame.2 ≠ []
  length : s.consumedSequences.length = (core.heldUniverses c).length
  consumed : ∀ index held, (core.heldUniverses c)[index]? = some held → ¬s.Restored index →
    s.consumedSequences.getD index 1 = sequenceOf held.1 (taken held.1)
  below : ∀ universeId, taken universeId <+: submissions past
  sublist : ∀ universeId,
    (valuesOf universeId (handed past)).Sublist (valuesOf universeId (taken universeId))
  last : ∀ universeId,
    (valuesOf universeId (handed past)).getLast? = (valuesOf universeId (taken universeId)).getLast?
  frames : ∀ bank ∈ s.pending,
    (s.inputs bank).frames = (core.heldUniverses c).map (valueAfter (copied bank))
  between : ∀ bank ∈ s.pending,
    copied bank <+: submissions past ∧ ∀ universeId, taken universeId <+: copied bank
  order : s.pending.Pairwise (fun older newer => copied older <+: copied newer)
  restored : (submissions past).length < 2 ^ 64 → ∀ next, s.main = .restoring next →
    ∀ index held, (core.heldUniverses c)[index]? = some held → index < next →
      valuesOf held.1 (taken held.1) = valuesOf held.1 (submissions past)
  retired : (submissions past).length < 2 ^ 64 → s.retired = true →
    core.schemaGeneration s.core = s.schema →
    ∀ universeId, valuesOf universeId (taken universeId) = valuesOf universeId (submissions past)

/-- A step that has nothing to do with the delivery of frames. -/
structure Calm (s s' : State γ σ) : Prop where
  schema : s'.schema = s.schema
  latest : s'.latest = s.latest
  sequence : s'.producerSequence = s.producerSequence
  consumed : s'.consumedSequences = s.consumedSequences
  pending : s'.pending.Sublist s.pending
  frames : ∀ bank, (s'.inputs bank).frames = (s.inputs bank).frames
  retired : s'.retired = s.retired
  core : s.retired = true → s'.core = s.core
  restoring : ∀ next, s'.main = .restoring next → s.main = .restoring next ∨ next = 0
  kept : ∀ next, s.main = .restoring next → s'.main = .restoring next

theorem submissions_concat_of_none (past : List (Event × Output σ)) (event : Event)
    (h : submittedBy (event, out) = none)
    : submissions (past ++ [(event, out)]) = submissions past := by
  simp [submissions, h]

theorem handed_concat_of_none (past : List (Event × Output σ)) (event : Event)
    (h : handedBy (event, out) = none)
    : handed (past ++ [(event, out)]) = handed past := by
  simp [handed, h]

theorem Delivers.calm (h : Delivers core c taken copied past s) (event : Event)
    (hsubmitted : submittedBy (event, out) = none) (hhanded : handedBy (event, out) = none)
    (hcalm : s.Calm s')
    : Delivers core c taken copied (past ++ [(event, out)]) s' := by
  have hsubmissions := submissions_concat_of_none past event hsubmitted
  have hhandeds := handed_concat_of_none past event hhanded
  have hsub : ∀ bank ∈ s'.pending, bank ∈ s.pending := fun _ hmem => hcalm.pending.subset hmem
  constructor
  case schema => rw [hcalm.schema, h.schema]
  case latest => rw [hcalm.latest, h.latest, hsubmissions]
  case sequence => rw [hcalm.sequence, h.sequence, hsubmissions]
  case known => rw [hsubmissions]; exact h.known
  case length => rw [hcalm.consumed]; exact h.length
  case consumed =>
    intro index held hheld hrestored
    rw [hcalm.consumed]
    apply h.consumed index held hheld
    intro hrestored'
    apply hrestored
    cases hrestored' with
    | inl hretired => exact Or.inl (hcalm.retired.trans hretired)
    | inr hrestoring =>
      obtain ⟨next, hmain, hlt⟩ := hrestoring
      exact Or.inr ⟨next, hcalm.kept next hmain, hlt⟩
  case below => rw [hsubmissions]; exact h.below
  case sublist => rw [hhandeds]; exact h.sublist
  case last => rw [hhandeds]; exact h.last
  case frames =>
    intro bank hmem
    rw [hcalm.frames]
    exact h.frames bank (hsub bank hmem)
  case between =>
    rw [hsubmissions]
    exact fun bank hmem => h.between bank (hsub bank hmem)
  case order => exact h.order.sublist hcalm.pending
  case restored =>
    rw [hsubmissions]
    intro hbound next hmain index held hheld hlt
    cases hcalm.restoring next hmain with
    | inl hmain => exact h.restored hbound next hmain index held hheld hlt
    | inr hzero => omega
  case retired =>
    rw [hsubmissions]
    intro hbound hretired hschema
    rw [hcalm.retired] at hretired
    rw [hcalm.core hretired, hcalm.schema] at hschema
    exact h.retired hbound hretired hschema

theorem Delivers.accept (h : Delivers core c taken copied past s) (event : Event)
    {universeId : Int} {data : List UInt8} {index : Nat} (hmain : s.main = .idle)
    (hretired : s.retired = false) (hdata : data ≠ [])
    (hindex : s.latest.findIdx? (·.id == universeId) = some index)
    : Delivers core c taken copied (past ++ [(event, .submitted (some (universeId, data)))])
        (s.accept index universeId data) := by
  have hsubmissions : submissions (past ++ [(event, .submitted (some (universeId, data)))])
      = submissions past ++ [(universeId, data)] := by
    simp [submissions, submittedBy]
  have hhanded : handed (past ++ [(event, .submitted (some (universeId, data)))]) = handed past :=
    handed_concat_of_none past event rfl
  have hlonger : submissions past <+: submissions past ++ [(universeId, data)] :=
    List.prefix_append _ _
  rw [h.latest] at hindex
  constructor
  case schema => exact h.schema
  case latest =>
    rw [hsubmissions, ← set_valueAfter (core.nodup_heldUniverses c) hindex data, ← h.latest,
      ← h.sequence]
    rfl
  case sequence =>
    rw [hsubmissions, List.length_append, List.length_singleton]
    simp only [State.accept, h.sequence]
    exact (UInt64.ofNat_add _ _).symm
  case known =>
    rw [hsubmissions]
    intro frame hmem
    cases List.mem_append.mp hmem with
    | inl hmem => exact h.known frame hmem
    | inr hmem =>
      rw [List.mem_singleton.mp hmem]
      refine ⟨?_, hdata⟩
      obtain ⟨hlt, hid, _⟩ := List.findIdx?_eq_some_iff_getElem.mp hindex
      rw [List.length_map] at hlt
      simp only [List.getElem_map, valueAfter, beq_iff_eq] at hid
      rw [← hid]
      exact List.mem_map.mpr ⟨_, List.getElem_mem hlt, rfl⟩
  case length => exact h.length
  case consumed => exact h.consumed
  case below => rw [hsubmissions]; exact fun universeId => (h.below universeId).trans hlonger
  case sublist => rw [hhanded]; exact h.sublist
  case last => rw [hhanded]; exact h.last
  case frames => exact h.frames
  case between =>
    rw [hsubmissions]
    intro bank hmem
    have hbetween := h.between bank hmem
    exact ⟨hbetween.1.trans hlonger, hbetween.2⟩
  case order => exact h.order
  case restored =>
    intro _ next hrestoring
    rw [State.accept, hmain] at hrestoring
    contradiction
  case retired =>
    intro _ hret
    rw [State.accept, hretired] at hret
    contradiction

theorem Delivers.hand (h : Delivers core c taken copied past s) (event : Event) {index : Nat}
    {held : Int × List UInt8} {log : List (Int × List UInt8)}
    (hheld : (core.heldUniverses c)[index]? = some held) (hbelow : taken held.1 <+: log)
    (hlog : log <+: submissions past)
    (hnew : sequenceOf held.1 log ≠ sequenceOf held.1 (taken held.1))
    (hbetween : ∀ bank ∈ s.pending, log <+: copied bank)
    (hschema : s'.schema = s.schema) (hlatest : s'.latest = s.latest)
    (hsequence : s'.producerSequence = s.producerSequence)
    (hlength : s'.consumedSequences.length = s.consumedSequences.length)
    (hconsumed : ∀ other, ¬s'.Restored other → ¬s.Restored other
      ∧ s'.consumedSequences.getD other 1
        = if other = index then sequenceOf held.1 log else s.consumedSequences.getD other 1)
    (hpending : s'.pending = s.pending)
    (hframes : s'.inputs = s.inputs) (hretired : s'.retired = false)
    (hrestoring : ∀ next, s'.main = .restoring next →
      log = submissions past ∧ next = index + 1 ∧ s.main = .restoring index)
    : Delivers core c (Function.update taken held.1 log) copied
        (past ++ [(event, .handed held.1 (valueAfter log held).data)]) s' := by
  have hsubmissions : submissions
      (past ++ [(event, (.handed held.1 (valueAfter log held).data : Output σ))])
      = submissions past := submissions_concat_of_none past event rfl
  have hhanded : handed (past ++ [(event, (.handed held.1 (valueAfter log held).data : Output σ))])
      = handed past ++ [(held.1, (valueAfter log held).data)] := by
    simp [handed, handedBy]
  have hlast := getLast?_of_sequenceOf_ne hbelow hnew
  constructor
  case schema => rw [hschema, h.schema]
  case latest => rw [hlatest, h.latest, hsubmissions]
  case sequence => rw [hsequence, h.sequence, hsubmissions]
  case known => rw [hsubmissions]; exact h.known
  case length => rw [hlength, h.length]
  case consumed =>
    intro other held' hheld' hrestored
    obtain ⟨hrestored, hvalue⟩ := hconsumed other hrestored
    rw [hvalue]
    by_cases heq : other = index
    . rw [if_pos heq]
      rw [heq, hheld] at hheld'
      cases hheld'
      rw [Function.update_self]
    . rw [if_neg heq, h.consumed other held' hheld' hrestored]
      have hne : held'.1 ≠ held.1 := by
        intro hsame
        exact heq (index_eq_of_id (core.nodup_heldUniverses c) hheld' hheld hsame)
      rw [Function.update_of_ne hne]
  case below =>
    rw [hsubmissions]
    intro universeId
    by_cases heq : universeId = held.1
    . rw [heq, Function.update_self]
      exact hlog
    . rw [Function.update_of_ne heq]
      exact h.below universeId
  case sublist =>
    rw [hhanded]
    intro universeId
    rw [valuesOf_append]
    by_cases heq : universeId = held.1
    . rw [heq, Function.update_self, valuesOf_self]
      obtain ⟨rest, hrest⟩ := hbelow
      rw [← hrest] at hlast hnew ⊢
      apply sublist_concat_getLast (h.sublist held.1) _ hlast
      exact fun hnil => hnew (sequenceOf_append_of_nil _ hnil)
    . rw [Function.update_of_ne heq, valuesOf_of_ne (Ne.symm heq), List.append_nil]
      exact h.sublist universeId
  case last =>
    rw [hhanded]
    intro universeId
    rw [valuesOf_append]
    by_cases heq : universeId = held.1
    . rw [heq, Function.update_self, valuesOf_self, hlast, List.getLast?_concat]
    . rw [Function.update_of_ne heq, valuesOf_of_ne (Ne.symm heq), List.append_nil]
      exact h.last universeId
  case frames =>
    rw [hpending, hframes]
    exact h.frames
  case between =>
    rw [hpending, hsubmissions]
    intro bank hmem
    refine ⟨(h.between bank hmem).1, ?_⟩
    intro universeId
    by_cases heq : universeId = held.1
    . rw [heq, Function.update_self]
      exact hbetween bank hmem
    . rw [Function.update_of_ne heq]
      exact (h.between bank hmem).2 universeId
  case order =>
    rw [hpending]
    exact h.order
  case restored =>
    rw [hsubmissions]
    intro hbound next hmain other held' hheld' hlt
    obtain ⟨rfl, rfl, hbefore⟩ := hrestoring next hmain
    by_cases heq : held'.1 = held.1
    . rw [heq, Function.update_self]
    . rw [Function.update_of_ne heq]
      apply h.restored hbound index hbefore other held' hheld'
      have hne : other ≠ index := by
        intro hsame
        rw [hsame, hheld] at hheld'
        cases hheld'
        exact heq rfl
      omega
  case retired =>
    intro _ hret
    rw [hretired] at hret
    contradiction

theorem getElem?_valueAfter {helds log : List (Int × List UInt8)} {index : Nat} {frame : InputValue}
    (h : (helds.map (valueAfter log))[index]? = some frame)
    : ∃ held, helds[index]? = some held ∧ frame = valueAfter log held := by
  rw [List.getElem?_map, Option.map_eq_some_iff] at h
  obtain ⟨held, hheld, hframe⟩ := h
  exact ⟨held, hheld, hframe.symm⟩

theorem Delivers.deliverHand (h : Delivers core c taken copied past s) (hjoined : s.Joined)
    (event : Event) {bank : Fin 3} {index : Nat} {frame : InputValue}
    (hpc : s.coordinator = .delivering bank index)
    (hframe : (s.inputs bank).frames[index]? = some frame)
    (hnew : frame.sequence ≠ s.consumedSequences.getD index 1)
    : ∃ taken', Delivers core c taken' copied
        (past ++ [(event, .handed frame.id frame.data)])
        { s.moveTo (.delivering bank (index + 1)) with
          core := core.submitUniverseFrame s.core frame.id frame.data
          consumedSequences := s.consumedSequences.set index frame.sequence
        } := by
  have hawake : s.coordinator ≠ .exited := by simp [hpc]
  have hretired := hjoined.not_retired_of_awake hawake
  have hmain : ∀ next, s.main ≠ .restoring next := fun next h => hawake (hjoined.exited next h)
  have hpending : s.pending = bank :: (s.queuedInput.toList ++ s.main.filled) := by
    simp [pending_of_awake hawake, hpc, Coordinator.inputBanks]
  have hmem : bank ∈ s.pending := by simp [hpending]
  rw [h.frames bank hmem] at hframe
  obtain ⟨held, hheld, rfl⟩ := getElem?_valueAfter hframe
  have hrestored : ¬s.Restored index := by
    intro hrestored
    cases hrestored with
    | inl hret =>
      rw [hretired] at hret
      contradiction
    | inr hrestoring =>
      obtain ⟨next, hnext, _⟩ := hrestoring
      exact hmain next hnext
  rw [h.consumed index held hheld hrestored] at hnew
  have hlt : index < s.consumedSequences.length := by
    rw [h.length]
    exact (List.getElem?_eq_some_iff.mp hheld).1
  refine ⟨_, h.hand event hheld ((h.between bank hmem).2 held.1) (h.between bank hmem).1 hnew
    ?_ rfl rfl rfl ?_ ?_ ?_ rfl hretired ?_⟩
  . have horder := h.order
    rw [hpending, List.pairwise_cons] at horder
    intro other hother
    rw [hpending] at hother
    cases List.mem_cons.mp hother with
    | inl heq => rw [heq]
    | inr hother => exact horder.1 other hother
  . exact List.length_set
  . intro other hother
    refine ⟨hother, ?_⟩
    by_cases heq : other = index
    . rw [if_pos heq, heq]
      simp [List.getD_eq_getElem?_getD, hlt, valueAfter]
    . rw [if_neg heq]
      simp [List.getD_eq_getElem?_getD, List.getElem?_set_ne (Ne.symm heq)]
  . simp [pending, moveTo, hpc, Coordinator.inputBanks]
  . intro next hrestoring
    exact absurd hrestoring (hmain next)

theorem Delivers.restoreHand (h : Delivers core c taken copied past s) (hjoined : s.Joined)
    (event : Event) {index : Nat} {frame : InputValue} (hmain : s.main = .restoring index)
    (hframe : s.latest[index]? = some frame)
    (hnew : frame.sequence ≠ s.consumedSequences.getD index 1)
    : ∃ taken', Delivers core c taken' copied
        (past ++ [(event, .handed frame.id frame.data)])
        { s with
          core := core.submitUniverseFrame s.core frame.id frame.data
          main := .restoring (index + 1)
        } := by
  have hexited := hjoined.exited index hmain
  have hretired := hjoined.not_retired_of_busy hmain (by simp)
  have hpending := pending_of_exited hexited
  rw [h.latest] at hframe
  obtain ⟨held, hheld, rfl⟩ := getElem?_valueAfter hframe
  have hrestored : ¬s.Restored index := by
    simp [Restored, hretired, hmain]
  rw [h.consumed index held hheld hrestored] at hnew
  refine ⟨_, h.hand event hheld (h.below held.1) (List.prefix_refl _) hnew ?_ rfl rfl rfl rfl ?_ ?_
    rfl hretired ?_⟩
  . rw [hpending]
    simp
  . intro other hother
    simp only [Restored, hretired, Bool.false_eq_true, false_or, Main.restoring.injEq,
      exists_eq_left', hmain] at hother ⊢
    refine ⟨by omega, ?_⟩
    rw [if_neg (by omega)]
  . rw [hpending]
    exact pending_of_exited hexited
  . intro next hnext
    cases hnext
    exact ⟨rfl, rfl, hmain⟩

theorem Calm.refl (s : State γ σ) : s.Calm s where
  schema := rfl
  latest := rfl
  sequence := rfl
  consumed := rfl
  pending := List.Sublist.refl _
  frames _ := rfl
  retired := rfl
  core _ := rfl
  restoring _ h := Or.inl h
  kept _ h := h

-- What the core has already is the last frame, as long as the sequences do not wrap around.
theorem Delivers.restoreSkip (h : Delivers core c taken copied past s) (hjoined : s.Joined)
    (event : Event) {index : Nat} {frame : InputValue} (hmain : s.main = .restoring index)
    (hframe : s.latest[index]? = some frame)
    (hold : frame.data = [] ∨ frame.sequence = s.consumedSequences.getD index 1)
    : Delivers core c taken copied (past ++ [(event, .quiet)])
        { s with main := .restoring (index + 1) } := by
  have hexited := hjoined.exited index hmain
  have hretired := hjoined.not_retired_of_busy hmain (by simp)
  have hsubmissions : submissions (past ++ [(event, (.quiet : Output σ))]) = submissions past :=
    submissions_concat_of_none past event rfl
  have hnote : Delivers core c taken copied (past ++ [(event, .quiet)]) s :=
    h.calm event rfl rfl (Calm.refl s)
  have hpending : pending { s with main := .restoring (index + 1) } = [] :=
    pending_of_exited hexited
  have hskipped : (submissions past).length < 2 ^ 64 → ∀ held,
      (core.heldUniverses c)[index]? = some held →
      valuesOf held.1 (taken held.1) = valuesOf held.1 (submissions past) := by
    intro hbound held hheld
    have hrestored : ¬s.Restored index := by
      simp [Restored, hretired, hmain]
    rw [h.latest, List.getElem?_map, hheld] at hframe
    cases hframe
    rw [h.consumed index held hheld hrestored] at hold
    obtain ⟨rest, hrest⟩ := h.below held.1
    by_cases hnil : valuesOf held.1 rest = []
    . rw [← hrest, valuesOf_append, hnil, List.append_nil]
    . exfalso
      rw [← hrest] at hbound hold
      have hne := sequenceOf_append_ne (taken held.1) hbound hnil
      cases hold with
      | inl hdata =>
        have hlast := getLast?_of_sequenceOf_ne (List.prefix_append _ _) hne
        rw [hdata] at hlast
        have hmem := List.mem_of_getLast? hlast
        simp only [valuesOf, List.mem_map, List.mem_filter] at hmem
        obtain ⟨entry, hentry, hempty⟩ := hmem
        rw [hrest] at hentry
        exact (h.known entry hentry.1).2 hempty
      | inr hsame => exact hne hsame
  exact { hnote with
    consumed := by
      intro other held hheld hrestored
      apply h.consumed other held hheld
      simp only [Restored, hretired, Bool.false_eq_true, false_or, Main.restoring.injEq,
        exists_eq_left', hmain] at hrestored ⊢
      omega
    frames := by simp [hpending]
    between := by simp [hpending]
    order := by simp [hpending]
    restored := by
      rw [hsubmissions]
      intro hbound next hnext other held hheld hlt
      cases hnext
      by_cases heq : other = index
      . rw [heq] at hheld
        exact hskipped hbound held hheld
      . exact h.restored hbound index hmain other held hheld (by omega)
  }

theorem Delivers.retire (h : Delivers core c taken copied past s) (event : Event)
    (hexited : s.coordinator = .exited)
    (hall : (submissions past).length < 2 ^ 64 → core.schemaGeneration s.core = s.schema →
      ∀ universeId, valuesOf universeId (taken universeId) = valuesOf universeId (submissions past))
    : Delivers core c taken copied (past ++ [(event, .quiet)]) s.retire := by
  have hsubmissions : submissions (past ++ [(event, (.quiet : Output σ))]) = submissions past :=
    submissions_concat_of_none past event rfl
  have hnote : Delivers core c taken copied (past ++ [(event, .quiet)]) s :=
    h.calm event rfl rfl (Calm.refl s)
  have hpending : s.retire.pending = [] := pending_of_exited hexited
  exact { hnote with
    consumed := fun _ _ _ hrestored => absurd (Or.inl rfl) hrestored
    frames := by simp [hpending]
    between := by simp [hpending]
    order := by simp [hpending]
    restored := by simp [State.retire]
    retired := by
      rw [hsubmissions]
      exact fun hbound _ => hall hbound
  }

theorem Delivers.restoreDone (h : Delivers core c taken copied past s) {index : Nat}
    (hmain : s.main = .restoring index) (hframe : s.latest[index]? = none)
    (hbound : (submissions past).length < 2 ^ 64) (universeId : Int)
    : valuesOf universeId (taken universeId) = valuesOf universeId (submissions past) := by
  rw [h.latest, List.getElem?_eq_none_iff, List.length_map] at hframe
  by_cases hknown : universeId ∈ (core.heldUniverses c).map Prod.fst
  . obtain ⟨held, hmem, rfl⟩ := List.mem_map.mp hknown
    obtain ⟨other, hlt, hother⟩ := List.getElem_of_mem hmem
    exact h.restored hbound index hmain other held (List.getElem?_eq_some_iff.mpr ⟨hlt, hother⟩)
      (by omega)
  . have hnil : valuesOf universeId (submissions past) = [] := by
      apply valuesOf_eq_nil
      intro hmem
      obtain ⟨entry, hentry, rfl⟩ := List.mem_map.mp hmem
      exact hknown (h.known entry hentry).1
    obtain ⟨rest, hrest⟩ := h.below universeId
    rw [← hrest, valuesOf_append, List.append_eq_nil_iff] at hnil
    rw [← hrest, valuesOf_append, hnil.1, hnil.2]
    rfl

theorem Delivers.fill (h : Delivers core c taken copied past s)
    (hheld : s.coordinator ≠ .exited → s.InputsHeld) (event : Event) {bank : Fin 3} (hmain : s.main = .filling bank)
    : Delivers core c taken (Function.update copied bank (submissions past))
        (past ++ [(event, .quiet)]) (s.fill bank) := by
  have hsubmissions : submissions (past ++ [(event, (.quiet : Output σ))]) = submissions past :=
    submissions_concat_of_none past event rfl
  have hnote : Delivers core c taken copied (past ++ [(event, .quiet)]) s :=
    h.calm event rfl rfl (Calm.refl s)
  have hfill : (s.fill bank).inputs = Function.update s.inputs bank
      ⟨.queued, s.latest, s.producerGeneration + 1⟩ := rfl
  have hother : ∀ other ∈ s.pending, other ≠ bank := by
    intro other hmem heq
    unfold pending at hmem
    split at hmem
    . contradiction
    . next hawake =>
      have hnodup := (hheld hawake).nodup
      simp only [heldInputs, hmain, Main.inputBanks, List.cons_append, List.nil_append,
        List.nodup_cons, List.mem_append] at hnodup
      apply hnodup.1
      simp only [hmain, Main.filled, List.append_nil, List.mem_append] at hmem
      rw [← heq]
      exact hmem.symm
  have hpending : (s.fill bank).pending.Sublist (s.pending ++ [bank]) := by
    by_cases hexited : s.coordinator = .exited
    . rw [pending_of_exited (show (s.fill bank).coordinator = .exited from hexited)]
      exact List.nil_sublist _
    . rw [pending_of_awake (show (s.fill bank).coordinator ≠ .exited from hexited),
        pending_of_awake hexited]
      simp [State.fill, hmain, Main.filled]
  exact { hnote with
    consumed := by
      intro index held hindex hrestored
      apply h.consumed index held hindex
      intro hrestored'
      apply hrestored
      cases hrestored' with
      | inl hretired => exact Or.inl hretired
      | inr hrestoring =>
        obtain ⟨next, hnext, _⟩ := hrestoring
        rw [hmain] at hnext
        contradiction
    frames := by
      intro other hmem
      rw [hfill]
      cases List.mem_append.mp (hpending.subset hmem) with
      | inl hmem =>
        rw [Function.update_of_ne (hother other hmem), Function.update_of_ne (hother other hmem)]
        exact h.frames other hmem
      | inr hmem =>
        rw [List.mem_singleton.mp hmem, Function.update_self, Function.update_self]
        exact h.latest
    between := by
      intro other hmem
      rw [hsubmissions]
      cases List.mem_append.mp (hpending.subset hmem) with
      | inl hmem =>
        rw [Function.update_of_ne (hother other hmem)]
        exact h.between other hmem
      | inr hmem =>
        rw [List.mem_singleton.mp hmem, Function.update_self]
        exact ⟨List.prefix_refl _, h.below⟩
    order := by
      apply List.Pairwise.sublist hpending
      rw [List.pairwise_append]
      refine ⟨?_, List.pairwise_singleton _ _, ?_⟩
      . apply h.order.imp_of_mem
        intro older newer holder hnewer hle
        rw [Function.update_of_ne (hother older holder),
          Function.update_of_ne (hother newer hnewer)]
        exact hle
      . intro older holder newer hnewer
        rw [List.mem_singleton.mp hnewer, Function.update_self,
          Function.update_of_ne (hother older holder)]
        exact (h.between older holder).1
    restored := by simp [State.fill]
  }

@[simp]
theorem frames_setInput (s : State γ σ) (bank : Fin 3) (status : Status) (other : Fin 3)
    : ((s.setInput bank status).inputs other).frames = (s.inputs other).frames := by
  simp only [setInput]
  by_cases heq : other = bank
  . rw [heq, Function.update_self]
  . rw [Function.update_of_ne heq]

/-- The parts of the state that only `submit`, `stop` and the coordinator's deliveries change. -/
structure SameInput (s s' : State γ σ) : Prop where
  schema : s'.schema = s.schema
  latest : s'.latest = s.latest
  sequence : s'.producerSequence = s.producerSequence
  consumed : s'.consumedSequences = s.consumedSequences
  retired : s'.retired = s.retired
  frames : ∀ bank, (s'.inputs bank).frames = (s.inputs bank).frames

theorem Calm.main (h : s.SameInput s') (hcoordinator : s'.coordinator = s.coordinator)
    (hcore : s'.core = s.core)
    (hbanks : (s'.queuedInput.toList ++ s'.main.filled).Sublist
      (s.queuedInput.toList ++ s.main.filled))
    (hbefore : ∀ next, s.main ≠ .restoring next)
    (hafter : ∀ next, s'.main = .restoring next → next = 0)
    : s.Calm s' where
  schema := h.schema
  latest := h.latest
  sequence := h.sequence
  consumed := h.consumed
  pending := by
    by_cases hexited : s.coordinator = .exited
    . rw [pending_of_exited (hcoordinator.trans hexited)]
      exact List.nil_sublist _
    . rw [pending_of_awake hexited, pending_of_awake (by rwa [hcoordinator]), hcoordinator,
        List.append_assoc, List.append_assoc]
      exact (List.Sublist.refl _).append hbanks
  frames := h.frames
  retired := h.retired
  core _ := hcore
  restoring next hnext := Or.inr (hafter next hnext)
  kept next hnext := absurd hnext (hbefore next)

theorem Calm.coordinator (h : s.SameInput s') (hjoined : s.Joined)
    (hawake : s.coordinator ≠ .exited) (hmain : s'.main = s.main)
    (hbanks : (s'.coordinator.inputBanks ++ s'.queuedInput.toList).Sublist
      (s.coordinator.inputBanks ++ s.queuedInput.toList))
    : s.Calm s' where
  schema := h.schema
  latest := h.latest
  sequence := h.sequence
  consumed := h.consumed
  pending := by
    by_cases hexited : s'.coordinator = .exited
    . rw [pending_of_exited hexited]
      exact List.nil_sublist _
    . rw [pending_of_awake hexited, pending_of_awake hawake, hmain]
      exact hbanks.append (List.Sublist.refl _)
  frames := h.frames
  retired := h.retired
  core hretired := absurd (hjoined.retired hretired).1 hawake
  restoring next hnext := Or.inl (hmain.symm.trans hnext)
  kept next hnext := hmain.trans hnext

theorem Delivers.step (h : Delivers core c taken copied past s)
    (hheld : s.coordinator ≠ .exited → s.InputsHeld) (hjoined : s.Joined) (event : Event)
    (hstep : Step core s s' out)
    : ∃ taken' copied', Delivers core c taken' copied' (past ++ [(event, out)]) s' := by
  have hsame : ∀ {out : Output σ} {s' : State γ σ}, submittedBy (event, out) = none →
      handedBy (event, out) = none → s.Calm s' →
      ∃ taken' copied', Delivers core c taken' copied' (past ++ [(event, out)]) s' :=
    fun hsubmitted hhanded hcalm => ⟨taken, copied, h.calm event hsubmitted hhanded hcalm⟩
  cases hstep with
  | quiet _ hout =>
    obtain rfl | rfl | rfl := hout
    . exact hsame rfl rfl (Calm.refl s)
    . exact hsame rfl rfl (Calm.refl s)
    . exact hsame rfl rfl (Calm.refl s)
  | accept universeId data index hmain hactive hdata hindex =>
    exact ⟨taken, copied, h.accept event hmain (hjoined.not_retired_of_active hactive) hdata hindex⟩
  | beginScan hmain =>
    refine hsame rfl rfl (.main ⟨rfl, rfl, rfl, rfl, rfl, fun _ => rfl⟩ rfl rfl ?_ ?_ ?_)
    . simp [Main.filled]
    . simp [hmain]
    . simp
  | scanNext bank next hmain =>
    refine hsame rfl rfl (.main ⟨rfl, rfl, rfl, rfl, rfl, fun _ => rfl⟩ rfl rfl ?_ ?_ ?_)
    . simp [Main.filled]
    . simp [hmain]
    . simp
  | scanFull bank hmain =>
    refine hsame rfl rfl (.main ⟨rfl, rfl, rfl, rfl, rfl, fun _ => rfl⟩ rfl rfl ?_ ?_ ?_)
    . simp [Main.filled]
    . simp [hmain]
    . simp
  | scanTake bank hmain =>
    refine hsame rfl rfl (.main ⟨rfl, rfl, rfl, rfl, rfl, frames_setInput s bank _⟩ rfl rfl
      ?_ ?_ ?_)
    . simp [setInput, Main.filled]
    . simp [hmain]
    . simp
  | fill bank hmain => exact ⟨taken, _, h.fill hheld event hmain⟩
  | exchangeNew bank hmain hqueued =>
    refine hsame rfl rfl (.main ⟨rfl, rfl, rfl, rfl, rfl, fun _ => rfl⟩ rfl rfl ?_ ?_ ?_)
    . simp [hmain, hqueued, Main.filled]
    . simp [hmain]
    . simp
  | exchangeOld bank old hmain hqueued =>
    refine hsame rfl rfl (.main ⟨rfl, rfl, rfl, rfl, rfl, fun _ => rfl⟩ rfl rfl ?_ ?_ ?_)
    . simp [hmain, hqueued, Main.filled]
    . simp [hmain]
    . simp
  | freeInput bank old hmain =>
    refine hsame rfl rfl (.main ⟨rfl, rfl, rfl, rfl, rfl, frames_setInput s old _⟩ rfl rfl
      ?_ ?_ ?_)
    . simp [setInput, Main.filled]
    . simp [hmain]
    . simp
  | beginAcquire hmain =>
    refine hsame rfl rfl (.main ⟨rfl, rfl, rfl, rfl, rfl, fun _ => rfl⟩ rfl rfl ?_ ?_ ?_)
    . simp [Main.filled]
    . simp [hmain]
    . simp
  | acquireNone hmain =>
    refine hsame rfl rfl (.main ⟨rfl, rfl, rfl, rfl, rfl, fun _ => rfl⟩ rfl rfl ?_ ?_ ?_)
    . simp [Main.filled]
    . simp [hmain]
    . simp
  | acquireTake bank hmain =>
    refine hsame rfl rfl (.main ⟨rfl, rfl, rfl, rfl, rfl, fun _ => rfl⟩ rfl rfl ?_ ?_ ?_)
    . simp [Main.filled]
    . simp [hmain]
    . simp
  | lease bank hmain =>
    refine hsame rfl rfl (.main ⟨rfl, rfl, rfl, rfl, rfl, fun _ => rfl⟩ rfl rfl ?_ ?_ ?_)
    . simp [State.lease, setOutput, Main.filled]
    . simp [hmain]
    . simp [State.lease]
  | release bank hmain =>
    refine hsame rfl rfl (.main ⟨rfl, rfl, rfl, rfl, rfl, fun _ => rfl⟩ rfl rfl ?_ ?_ ?_)
    . simp [setOutput]
    . simp [hmain]
    . simp [setOutput, hmain]
  | stop hmain =>
    refine hsame rfl rfl (.main ⟨rfl, rfl, rfl, rfl, rfl, fun _ => rfl⟩ rfl rfl ?_ ?_ ?_)
    . simp [Main.filled]
    . simp [hmain]
    . simp
  | joinRestore hmain =>
    refine hsame rfl rfl (.main ⟨rfl, rfl, rfl, rfl, rfl, fun _ => rfl⟩ rfl rfl ?_ ?_ ?_)
    . simp [Main.filled]
    . simp [hmain]
    . simp
  | joinRetire hmain hexited hschema =>
    refine ⟨taken, copied, h.retire event hexited ?_⟩
    exact fun _ hsame => absurd hsame hschema
  | restoreHand index frame hmain hframe hdata hnew =>
    obtain ⟨taken', h'⟩ := h.restoreHand hjoined event hmain hframe hnew
    exact ⟨taken', copied, h'⟩
  | restoreSkip index frame hmain hframe hold =>
    exact ⟨taken, copied, h.restoreSkip hjoined event hmain hframe hold⟩
  | restoreDone index hmain hframe =>
    refine ⟨taken, copied, h.retire event (hjoined.exited index hmain) ?_⟩
    exact fun hbound _ => h.restoreDone hmain hframe hbound
  | move pc initialBatch hmoves =>
    refine hsame rfl rfl (.coordinator ⟨rfl, rfl, rfl, rfl, rfl, fun _ => rfl⟩ hjoined
      hmoves.awake rfl ?_)
    simp [moveTo, hmoves.inputs]
  | takeQueued bank hpc hqueued =>
    refine hsame rfl rfl (.coordinator ⟨rfl, rfl, rfl, rfl, rfl, fun _ => rfl⟩ hjoined
      (by simp [hpc]) rfl ?_)
    simp [moveTo, hpc, hqueued, Coordinator.inputBanks]
  | beginReading bank hpc =>
    refine hsame rfl rfl (.coordinator ⟨rfl, rfl, rfl, rfl, rfl, frames_setInput s bank _⟩ hjoined
      (by simp [hpc]) rfl ?_)
    simp [State.beginReading, setInput, moveTo, hpc, Coordinator.inputBanks]
  | deliverHand bank index frame hpc hframe hdata hnew =>
    obtain ⟨taken', h'⟩ := h.deliverHand hjoined event hpc hframe hnew
    exact ⟨taken', copied, h'⟩
  | deliverDone bank index hpc =>
    refine hsame rfl rfl (.coordinator ⟨rfl, rfl, rfl, rfl, rfl, frames_setInput s bank _⟩ hjoined
      (by simp [hpc]) rfl ?_)
    simp [setInput, moveTo, hpc, Coordinator.inputBanks]
  | claimTake bank hpc =>
    refine hsame rfl rfl (.coordinator ⟨rfl, rfl, rfl, rfl, rfl, fun _ => rfl⟩ hjoined
      (by simp [hpc]) rfl ?_)
    simp [setOutput, moveTo, hpc, Coordinator.inputBanks]
  | completeFail bank hpc =>
    refine hsame rfl rfl (.coordinator ⟨rfl, rfl, rfl, rfl, rfl, fun _ => rfl⟩ hjoined
      (by simp [hpc]) rfl ?_)
    simp [moveTo, hpc, Coordinator.inputBanks]
  | complete bank c content hpc =>
    refine hsame rfl rfl (.coordinator ⟨rfl, rfl, rfl, rfl, rfl, fun _ => rfl⟩ hjoined
      (by simp [hpc]) rfl ?_)
    simp [moveTo, hpc, Coordinator.inputBanks]
  | publish bank hpc =>
    refine hsame rfl rfl (.coordinator ⟨rfl, rfl, rfl, rfl, rfl, fun _ => rfl⟩ hjoined
      (by simp [hpc]) rfl ?_)
    simp [moveTo, hpc, Coordinator.inputBanks]

theorem delivers_init (core : Core γ σ) (c : γ)
    : Delivers core c (fun _ => []) (fun _ => []) [] (init core c) where
  schema := rfl
  latest := rfl
  sequence := rfl
  known := by simp [submissions]
  length := List.length_replicate
  consumed index held hheld _ := by
    have hlt := (List.getElem?_eq_some_iff.mp hheld).1
    simp [init, List.getD_eq_getElem?_getD, hlt, sequenceOf]
  below _ := List.nil_prefix
  sublist _ := List.Sublist.refl _
  last _ := rfl
  frames := by simp [pending, init, Coordinator.inputBanks, Main.filled]
  between := by simp [pending, init, Coordinator.inputBanks, Main.filled]
  order := by simp [pending, init, Coordinator.inputBanks, Main.filled]
  restored := by simp [init]
  retired := by simp [init]

end State

open State in
theorem delivers_run (core : Core γ σ) (c : γ) (events : List Event)
    : ∃ taken copied, Delivers core c taken copied
        ((machine core c).trace (machine core c).init events)
        ((machine core c).run (machine core c).init events) := by
  have h := Machine.trace_induction (machine core c)
    (fun past s => (∃ taken copied, Delivers core c taken copied past s) ∧ s.InputsHeld ∧ s.Joined)
    ?_ ?_ events
  . exact h.1
  . exact ⟨⟨_, _, delivers_init core c⟩, inputsHeld_init core c, joined_init core c⟩
  . intro past s event h
    obtain ⟨⟨taken, copied, hdelivers⟩, hheld, hjoined⟩ := h
    have hstep := step_cases core s event
    have hnext := hdelivers.step (fun _ => hheld) hjoined event hstep
    exact ⟨hnext, hheld.step hstep, hjoined.step hstep⟩

end AsyncPipeline
end Peraviz.Presentation
