import Peraviz.Coupling.Basic
import Peraviz.Runtime.Domains.Colors
import Peraviz.Runtime.Domains.Gobos
import Peraviz.Runtime.Domains.Properties
import Peraviz.Runtime.Domains.Shutters

/-!
This module contains rules about the phases of an update: what every single change of a domain
preserves, the phase answers, whatever the cache of the sources holds.
-/

namespace Peraviz.Runtime

/-- Whatever the state, the program answers a `Q`. -/
abbrev Answers {α : Type} (Q : α → Prop) (x : EvalM α) : Prop := Keeps (fun _ => True) Q x

theorem Answers.of {α : Type} {Q : α → Prop} {x : EvalM α} (h : Answers Q x) (s : EvaluationState)
    : Q (x s).1 := (h s trivial).1

theorem answers_any {α : Type} (x : EvalM α) : Answers (fun _ => True) x :=
  fun _ _ => ⟨trivial, trivial⟩

/-! ### Shutters -/

-- The update of an authority leaves its parameters, or replaces them and puts them out.
theorem answers_evaluateShutters {ctx : SourceContext} {layout : ShutterLayout} {now : ℚ}
    {I : ShutterHeld × SectionedVisualFrame → Prop} {held : ShutterHeld}
    {frame : SectionedVisualFrame} {keys : List Int}
    (hskip : ∀ key ∈ keys, ∀ (held : ShutterHeld) (frame : SectionedVisualFrame)
      (unsupportedFixtures : Int32 → Bool) (diagnosed : Bool), I (held, frame)
      → I (⟨Function.update held.authorities (Int32.ofInt key)
          { held.authorities (Int32.ofInt key) with diagnosed := diagnosed }, unsupportedFixtures⟩,
        frame))
    (hupdate : ∀ key ∈ keys, ∀ (held : ShutterHeld) (frame : SectionedVisualFrame)
      (unsupportedFixtures : Int32 → Bool) (diagnosed : Bool) (next parameters : ShutterParameters),
      I (held, frame)
      → updateShutter (held.authorities (Int32.ofInt key)).parameters next now = some parameters
      → I (⟨Function.update held.authorities (Int32.ofInt key)
            { held.authorities (Int32.ofInt key) with
              diagnosed := diagnosed
              parameters := parameters }, unsupportedFixtures⟩,
          (shutterRows ctx.platform (held.authorities (Int32.ofInt key)) parameters now
            (Int32.ofInt key)).foldl appendShutterRow frame))
    (h : I (held, frame)) : Answers I (ctx.evaluateShutters layout now held frame keys) := by
  apply Keeps.foldlM h
  intro key hkey update hI
  obtain ⟨held, frame⟩ := update
  apply (answers_any _).bind
  intro scan _
  apply (answers_any _).bind
  intro unsupportedFixtures _
  dsimp only
  split
  . apply Keeps.pure
    exact hskip key hkey held frame unsupportedFixtures _ hI
  next parameters hparameters =>
    apply Keeps.pure
    exact hupdate key hkey held frame unsupportedFixtures _ _ parameters hI hparameters

/-! ### Properties -/

theorem answers_updateProperties {ctx : SourceContext} {tables : FixtureTables}
    {properties : List CompiledPropertyProgram} {held : PropertyHeld} {indices : List Nat}
    {I : PropertyUpdate → Prop}
    (hmerge : ∀ program ∈ properties, ∀ update evaluated, I update
      → I (mergeProperty ctx.platform tables update program evaluated))
    (h : I { held := held })
    : Answers I (ctx.updateProperties tables properties held indices) := by
  apply Keeps.foldlM h
  intro index _ update hI
  unfold SourceContext.updateProperty
  split
  . exact Keeps.pure hI
  next program hprogram =>
    apply (answers_any _).bind
    intro evaluated _
    apply Keeps.pure
    exact hmerge program (List.mem_of_getElem? hprogram) update evaluated hI

/-! ### Wheels -/

def WheelLayout.Controls (layout : WheelLayout) (physicalKey : Int)
    (binding : CompiledWheelTargetBinding) : Prop :=
  ∃ index ∈ layout.indicesByPhysicalKey physicalKey, ∃ wheel, layout.bindings[index]? = some wheel
    ∧ wheel.binding = binding

theorem answers_scanWheel {ctx : SourceContext} {layout : WheelLayout} {physicalKey : Int}
    {active : Option (CompiledWheelTargetBinding × EvaluatedSourceValue)} {index : Nat}
    (hindex : index ∈ layout.indicesByPhysicalKey physicalKey)
    (hactive : ∀ found, active = some found → layout.Controls physicalKey found.1)
    : Answers (fun active => ∀ found, active = some found → layout.Controls physicalKey found.1)
        (ctx.scanWheel layout.bindings active index) := by
  unfold SourceContext.scanWheel
  split
  . exact Keeps.pure hactive
  next candidate hcandidate =>
    apply (answers_any _).bind
    intro evaluated _
    dsimp only
    split
    . exact Keeps.pure hactive
    . split
      . apply (answers_any _).bind
        intro _ _
        exact Keeps.pure hactive
      . apply Keeps.pure
        rintro found hfound
        cases hfound
        exact ⟨index, hindex, candidate, hcandidate, rfl⟩

theorem answers_scanWheels {ctx : SourceContext} {layout : WheelLayout} {physicalKey : Int}
    : Answers (fun active => ∀ found, active = some found → layout.Controls physicalKey found.1)
        ((layout.indicesByPhysicalKey physicalKey).foldlM (ctx.scanWheel layout.bindings) none) := by
  apply Keeps.foldlM
  . simp
  . intro index hindex active hactive
    exact answers_scanWheel hindex hactive

theorem answers_updateWheels {ctx : SourceContext} {layout : WheelLayout}
    {palettes : Int32 → Option CompiledWheelPalette} {states : Int → WheelTargetState}
    {dirtyWheels : OrderedDirtyIndices} {I : WheelUpdate → Prop}
    (hclear : ∀ update physicalKey, I update → I (update.clear physicalKey))
    (hmerge : ∀ update physicalKey binding next, layout.Controls physicalKey binding → I update
      → I (update.merge physicalKey binding next))
    (h : I { states := states })
    : Answers I (ctx.updateWheels layout palettes states dirtyWheels) := by
  apply Keeps.foldlM h
  intro physicalKey _ update hI
  apply answers_scanWheels.bind
  intro active hactive
  split
  . apply Keeps.pure
    exact hclear update physicalKey hI
  next binding evaluated =>
    split
    . exact Keeps.pure hI
    . apply (answers_any _).bind
      intro resolution _
      split
      . exact Keeps.pure hI
      next next =>
        apply Keeps.pure
        exact hmerge update physicalKey binding next (hactive _ rfl) hI

/-! ### The kinds of the pending rows -/

theorem List.foldl_keeps {α β : Type} {I : β → Prop} {step : β → α → β} {l : List α} {b : β}
    (hstep : ∀ a ∈ l, ∀ b, I b → I (step b a)) (h : I b) : I (l.foldl step b) := by
  induction l generalizing b with
  | nil => exact h
  | cons a l ih =>
    apply ih (fun a' ha' => hstep a' (List.mem_cons_of_mem a ha'))
    exact hstep a List.mem_cons_self b h

theorem forall_mem_concat {α : Type} {P : α → Prop} {l : List α} {a : α} (h : ∀ b ∈ l, P b)
    (ha : P a) : ∀ b ∈ l ++ [a], P b := by
  intro b hb
  rcases List.mem_append.mp hb with hb | hb
  . exact h b hb
  . rw [List.mem_singleton.mp hb]
    exact ha

theorem answers_rows_updateProperties {ctx : SourceContext} {tables : FixtureTables}
    {properties : List CompiledPropertyProgram} {held : PropertyHeld} {indices : List Nat}
    : Answers (fun update => ∀ row ∈ update.rows, row.wheelRow = false)
        (ctx.updateProperties tables properties held indices) := by
  apply answers_updateProperties
  . intro program _ update evaluated hrows
    unfold mergeProperty mergeBeamProperty mergePendingTransform
    dsimp only
    split
    . exact hrows
    . split
      . dsimp only
        split
        . exact forall_mem_concat hrows rfl
        . exact hrows
      . exact hrows
  . simp

theorem rows_composeColors {p : Platform} {layout : ColorLayout} {layers : WheelLayers}
    {prepared : Option PreparedSlots} {base : Int32 → CookedEmitterColor}
    {wheelStates : Int → WheelTargetState} {held : Int32 → CookedEmitterColor}
    {dirtyTargets : List Int32}
    : ∀ row ∈ (composeColors p layout layers prepared base wheelStates held dirtyTargets).2,
        row.wheelRow = false := by
  unfold composeColors
  apply List.foldl_keeps (I := fun update : (Int32 → CookedEmitterColor) × List PendingRow =>
    ∀ row ∈ update.2, row.wheelRow = false)
  . intro target _ update hrows
    unfold mergeColor
    dsimp only
    split
    . exact forall_mem_concat hrows rfl
    . exact hrows
  . simp

theorem rows_mergeTransforms {p : Platform} {tables : FixtureTables} {pending : PendingTransforms}
    {held : PropertyHeld}
    : ∀ row ∈ (mergeTransforms p tables pending held).2, row.wheelRow = false := by
  unfold mergeTransforms
  apply List.foldl_keeps (I := fun update : PropertyHeld × List PendingRow =>
    ∀ row ∈ update.2, row.wheelRow = false)
  . intro fixture _ update hrows
    unfold mergeTransform
    dsimp only
    split
    . exact forall_mem_concat hrows rfl
    . exact hrows
  . simp

end Peraviz.Runtime
