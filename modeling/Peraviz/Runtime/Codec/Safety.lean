import Peraviz.Runtime.Codec.Lemmas

/-!
This module contains the decoder as it runs on the two arrays: a state with a cursor in place of
the integers that are left, and runs that have no step where the source would read beyond an
array. Every piece of the decoder has such a run on every payload, and a payload that is accepted
is accepted neither shortened nor extended.
-/

namespace Peraviz.Runtime
namespace Codec

variable {fmt : FloatFormat} {α β : Type}

/-- The decoder of the source over the arrays `integers` and `floats`. -/
structure RawDecoder where
  cursor : Nat := 0
  valid : Bool := true
  diagnostic : String := ""
  scene : CompiledRuntimeScene := {}

namespace RawDecoder

variable (integers : List Int32) (floats : List ℚ)

def fail (r : RawDecoder) (message : String) : RawDecoder :=
  if r.valid then { r with valid := false, diagnostic := message } else r

def read (r : RawDecoder) : Option (Int32 × RawDecoder) :=
  if integers.length ≤ r.cursor then
    some (0, r.fail
      "PVZ-PACKED-SCENE-TRUNCATED: integer payload ended before the declared records.")
  else do
    let value ← integers[r.cursor]?
    return (value, { r with cursor := r.cursor + 1 })

-- `integers.size() - cursor` is a difference of `size_t`, it must not wrap around
def require (count : Nat) (r : RawDecoder) : Option (Bool × RawDecoder) :=
  if integers.length < r.cursor then
    none
  else if !r.valid || decide (integers.length - r.cursor < count) then
    some (false,
      r.fail "PVZ-PACKED-SCENE-TRUNCATED: declared record exceeds the integer payload.")
  else
    some (true, r)

def validCount (count : Int32) (r : RawDecoder) : Bool × RawDecoder :=
  if count < 0 ∨ (integers.length : Int) < count.toInt then
    (false, r.fail "PVZ-PACKED-SCENE-COUNT: record count is invalid.")
  else
    (true, r)

def readFloatAt (index : Int32) (fallback : ℚ) : Option ℚ :=
  if 0 ≤ index ∧ index.toInt < floats.length then
    floats[index.toInt.toNat]?
  else
    some fallback

def checkTrailing (r : RawDecoder) : RawDecoder :=
  if r.valid && r.cursor != integers.length then
    r.fail "PVZ-PACKED-SCENE-TRAILING: decoder cursor did not land at the payload boundary."
  else
    r

/-- What the decoder of the model has left at the cursor. -/
def toDecoder (r : RawDecoder) : Decoder where
  size := integers.length
  rest := integers.drop r.cursor
  floats := floats
  valid := r.valid
  diagnostic := r.diagnostic
  scene := r.scene

theorem toDecoder_fail (r : RawDecoder) (message : String)
    : (r.fail message).toDecoder integers floats
        = (r.toDecoder integers floats).fail message := by
  unfold fail Decoder.fail
  cases hvalid : r.valid <;> simp [toDecoder, hvalid]

theorem cursor_fail (r : RawDecoder) (message : String) : (r.fail message).cursor = r.cursor := by
  unfold fail
  split <;> rfl

end RawDecoder

/-- The runs of pieces of the decoder over the two arrays. -/
inductive Runs (integers : List Int32) (floats : List ℚ)
    : {α : Type} → DecodeM α → RawDecoder → Option α → RawDecoder → Prop where
  | pure {α : Type} (a : α) (r : RawDecoder) : Runs integers floats (pure a) r (some a) r
  | done {α : Type} (r : RawDecoder) : Runs integers floats (done (α := α)) r none r
  | read {r r' : RawDecoder} {value : Int32} (h : r.read integers = some (value, r'))
    : Runs integers floats read r (some value) r'
  | require {r r' : RawDecoder} {count : Nat} {enough : Bool}
    (h : r.require integers count = some (enough, r'))
    : Runs integers floats (require count) r (some enough) r'
  | validCount (count : Int32) (r : RawDecoder)
    : Runs integers floats (validCount count) r (some (r.validCount integers count).1)
        (r.validCount integers count).2
  | readFloatAt {r : RawDecoder} {index : Int32} {fallback value : ℚ}
    (h : RawDecoder.readFloatAt floats index fallback = some value)
    : Runs integers floats (readFloatAt index fallback) r (some value) r
  | push (update : CompiledRuntimeScene → CompiledRuntimeScene) (r : RawDecoder)
    : Runs integers floats (push update) r (some ()) { r with scene := update r.scene }
  | checkTrailing (r : RawDecoder)
    : Runs integers floats checkTrailing r (some ()) (r.checkTrailing integers)
  | bind {α β : Type} {x : DecodeM α} {f : α → DecodeM β} {r r' r'' : RawDecoder} {a : α}
    {b : Option β} (hx : Runs integers floats x r (some a) r')
    (hf : Runs integers floats (f a) r' b r'') : Runs integers floats (x >>= f) r b r''
  | bindDone {α β : Type} {x : DecodeM α} {f : α → DecodeM β} {r r' : RawDecoder}
    (hx : Runs integers floats x r none r') : Runs integers floats (x >>= f) r none r'

/-- The runs of `decode_compiled_runtime_scene`. -/
inductive RunsDecode (fmt : FloatFormat) (integers : List Int32) (floats : List ℚ)
    : CompiledRuntimeSceneDecodeResult → Prop where
  | short {version : Int32} {r : RawDecoder}
    (h : Runs integers floats decodeVersion {} (some (false, version)) r)
    : RunsDecode fmt integers floats { diagnostic := r.diagnostic }
  | version {version : Int32} {r : RawDecoder}
    (h : Runs integers floats decodeVersion {} (some (true, version)) r)
    (hversion : version < 1 ∨ kCompiledRuntimeSceneContractVersion < version)
    : RunsDecode fmt integers floats {
        diagnostic := "PVZ-PACKED-SCENE-VERSION: unsupported compiled runtime scene version."
      }
  | body {version : Int32} {r r' : RawDecoder} {result : Option Unit}
    (h : Runs integers floats decodeVersion {} (some (true, version)) r)
    (hversion : ¬(version < 1 ∨ kCompiledRuntimeSceneContractVersion < version))
    (hbody : Runs integers floats (decodeBody fmt version) r result r')
    : RunsDecode fmt integers floats {
        scene := r'.scene
        consumedIntegers := r'.cursor
        valid := r'.valid
        diagnostic := r'.diagnostic
      }

def Decoder.extend (d : Decoder) (more : List Int32) : Decoder :=
  { d with size := d.size + more.length, rest := d.rest ++ more }

/-- The pieces that are built from the operations of the source's `Decoder`. -/
inductive Piece : {α : Type} → DecodeM α → Prop where
  | pure {α : Type} (a : α) : Piece (pure a)
  | read : Piece read
  | readFloatAt (index : Int32) (fallback : ℚ) : Piece (readFloatAt index fallback)
  | push (update : CompiledRuntimeScene → CompiledRuntimeScene) : Piece (push update)
  | require (count : Nat) : Piece (require count)
  | orRequire (count : Nat) : Piece (orDone (require count))
  | orValidCount (count : Int32) : Piece (orDone (validCount count))
  | bind {α β : Type} {x : DecodeM α} {f : α → DecodeM β} (hx : Piece x) (hf : ∀ a, Piece (f a))
    : Piece (x >>= f)

/-- A run that ends where the piece ends, with the cursor inside the array. -/
structure Safe (integers : List Int32) (floats : List ℚ) (x : DecodeM α) (r : RawDecoder)
    (a : Option α) (r' : RawDecoder) : Prop where
  runs : Runs integers floats x r a r'
  inside : r'.cursor ≤ integers.length
  agrees : x (r.toDecoder integers floats) = (a, r'.toDecoder integers floats)

section Safe

variable {integers : List Int32} (floats : List ℚ) {r : RawDecoder}

theorem RawDecoder.read_spec (hr : r.cursor ≤ integers.length)
    : ∃ value r', r.read integers = some (value, r') ∧ r'.cursor ≤ integers.length
        ∧ Codec.read (r.toDecoder integers floats)
          = (some value, r'.toDecoder integers floats) := by
  unfold RawDecoder.read Codec.read
  split
  next hend =>
    refine ⟨_, _, rfl, ?_, ?_⟩
    . rw [RawDecoder.cursor_fail]
      exact hr
    . have hrest : (r.toDecoder integers floats).rest = [] := List.drop_eq_nil_of_le hend
      rw [hrest, RawDecoder.toDecoder_fail]
  next hend =>
    have hlt : r.cursor < integers.length := by omega
    have hrest : (r.toDecoder integers floats).rest
        = integers[r.cursor] :: integers.drop (r.cursor + 1) := List.drop_eq_getElem_cons hlt
    refine ⟨integers[r.cursor], { r with cursor := r.cursor + 1 }, ?_, hlt, ?_⟩
    . rw [List.getElem?_eq_getElem hlt]
      rfl
    . rw [hrest]
      rfl

theorem RawDecoder.require_spec (count : Nat) (hr : r.cursor ≤ integers.length)
    : ∃ enough r', r.require integers count = some (enough, r') ∧ r'.cursor ≤ integers.length
        ∧ Codec.require count (r.toDecoder integers floats)
          = (some enough, r'.toDecoder integers floats) := by
  have hrest : (r.toDecoder integers floats).rest.length = integers.length - r.cursor :=
    List.length_drop
  have hvalid : (r.toDecoder integers floats).valid = r.valid := rfl
  unfold RawDecoder.require Codec.require
  rw [if_neg (by omega), hrest, hvalid]
  split
  . refine ⟨_, _, rfl, ?_, ?_⟩
    . rw [RawDecoder.cursor_fail]
      exact hr
    . rw [RawDecoder.toDecoder_fail]
  . exact ⟨_, _, rfl, hr, rfl⟩

theorem RawDecoder.cursor_validCount (count : Int32)
    : (r.validCount integers count).2.cursor = r.cursor := by
  unfold RawDecoder.validCount
  split
  . apply RawDecoder.cursor_fail
  . rfl

theorem RawDecoder.validCount_spec (count : Int32)
    : Codec.validCount count (r.toDecoder integers floats)
        = (some (r.validCount integers count).1,
          (r.validCount integers count).2.toDecoder integers floats) := by
  have hsize : (r.toDecoder integers floats).size = integers.length := rfl
  unfold RawDecoder.validCount Codec.validCount
  rw [hsize]
  split
  . rw [RawDecoder.toDecoder_fail]
  . rfl

theorem RawDecoder.readFloatAt_spec (index : Int32) (fallback : ℚ)
    : RawDecoder.readFloatAt floats index fallback = some (floatAt floats index fallback) := by
  unfold RawDecoder.readFloatAt floatAt
  split
  next h =>
    have hlt : index.toInt.toNat < floats.length := by
      have := Int32.le_iff_toInt_le.mp h.1
      simp only [Int32.toInt_zero] at this
      omega
    rw [List.getD_eq_getElem?_getD, List.getElem?_eq_getElem hlt, Option.getD_some]
  next => rfl

theorem RawDecoder.cursor_checkTrailing
    : (r.checkTrailing integers).cursor = r.cursor := by
  unfold RawDecoder.checkTrailing
  split
  . apply RawDecoder.cursor_fail
  . rfl

theorem RawDecoder.checkTrailing_spec (hr : r.cursor ≤ integers.length)
    : Codec.checkTrailing (r.toDecoder integers floats)
        = (some (), (r.checkTrailing integers).toDecoder integers floats) := by
  have hempty : (r.toDecoder integers floats).rest.isEmpty = (r.cursor == integers.length) := by
    rw [Bool.eq_iff_iff]
    simp only [RawDecoder.toDecoder, List.isEmpty_iff, List.drop_eq_nil_iff, beq_iff_eq]
    omega
  have hvalid : (r.toDecoder integers floats).valid = r.valid := rfl
  unfold RawDecoder.checkTrailing Codec.checkTrailing
  rw [hempty, hvalid]
  change (if (r.valid && r.cursor != integers.length) = true then _ else _) = _
  split
  . rw [RawDecoder.toDecoder_fail]
  . rfl

theorem Safe.bind {x : DecodeM α} {f : α → DecodeM β} {a : Option α} {r' : RawDecoder}
    (hx : Safe integers floats x r a r')
    (hf : ∀ a r', r'.cursor ≤ integers.length
      → ∃ b r'', Safe integers floats (f a) r' b r'')
    : ∃ b r'', Safe integers floats (x >>= f) r b r'' := by
  cases a with
  | none =>
    refine ⟨none, r', .bindDone hx.runs, hx.inside, ?_⟩
    rw [bind_apply, hx.agrees]
  | some a =>
    obtain ⟨b, r'', h⟩ := hf a r' hx.inside
    refine ⟨b, r'', .bind hx.runs h.runs, h.inside, ?_⟩
    rw [bind_apply, hx.agrees]
    exact h.agrees

theorem safe_require (count : Nat) (hr : r.cursor ≤ integers.length)
    : ∃ a r', Safe integers floats (require count) r a r' := by
  obtain ⟨enough, r', hraw, hinside, hagrees⟩ := RawDecoder.require_spec floats count hr
  exact ⟨some enough, r', .require hraw, hinside, hagrees⟩

theorem safe_validCount (count : Int32) (hr : r.cursor ≤ integers.length)
    : ∃ a r', Safe integers floats (validCount count) r a r' := by
  refine ⟨_, _, .validCount count r, ?_, RawDecoder.validCount_spec floats count⟩
  rw [RawDecoder.cursor_validCount]
  exact hr

theorem safe_orDone {condition : DecodeM Bool}
    (h : ∃ a r', Safe integers floats condition r a r')
    : ∃ a r', Safe integers floats (orDone condition) r a r' := by
  obtain ⟨a, r', h⟩ := h
  apply h.bind floats
  intro enough r' hr'
  cases enough with
  | true => exact ⟨_, _, .pure () r', hr', rfl⟩
  | false => exact ⟨_, _, .done r', hr', rfl⟩

theorem Piece.safe {x : DecodeM α} (hx : Piece x) (hr : r.cursor ≤ integers.length)
    : ∃ a r', Safe integers floats x r a r' := by
  induction hx generalizing r with
  | pure a => exact ⟨_, _, .pure a r, hr, rfl⟩
  | read =>
    obtain ⟨value, r', hraw, hinside, hagrees⟩ := RawDecoder.read_spec floats hr
    exact ⟨some value, r', .read hraw, hinside, hagrees⟩
  | readFloatAt index fallback =>
    exact ⟨_, r, .readFloatAt (RawDecoder.readFloatAt_spec floats index fallback), hr, rfl⟩
  | push update => exact ⟨_, _, .push update r, hr, rfl⟩
  | require count => exact safe_require floats count hr
  | orRequire count => exact safe_orDone floats (safe_require floats count hr)
  | orValidCount count => exact safe_orDone floats (safe_validCount floats count hr)
  | bind _ _ ihx ihf =>
    obtain ⟨a, r', h⟩ := ihx hr
    exact h.bind floats (fun a r' hr' => ihf a hr')

end Safe

/-- A piece that is valid at its end does the same when the payload goes on. -/
structure Robust (x : DecodeM α) : Prop where
  valid {d : Decoder} (h : (x d).2.valid = true) : d.valid = true
  goesOn {d : Decoder} (h : (x d).2.valid = true) : (x d).1.isSome = true
  extend {d : Decoder} (h : (x d).2.valid = true) (more : List Int32)
    : x (d.extend more) = ((x d).1, (x d).2.extend more)

theorem Decoder.valid_fail (d : Decoder) (message : String) : (d.fail message).valid = false := by
  unfold Decoder.fail
  split
  . rfl
  next h => simpa using h

theorem robust_read : Robust read := by
  have hrest : ∀ d, (Codec.read d).2.valid = true → ∃ value rest, d.rest = value :: rest := by
    intro d h
    unfold Codec.read at h
    split at h
    . simp [Decoder.valid_fail] at h
    next value rest hrest => exact ⟨value, rest, hrest⟩
  constructor
  . intro d h
    obtain ⟨value, rest, hrest⟩ := hrest d h
    unfold Codec.read at h
    rw [hrest] at h
    exact h
  . intro d h
    obtain ⟨value, rest, hrest⟩ := hrest d h
    unfold Codec.read
    rw [hrest]
    rfl
  . intro d h more
    obtain ⟨value, rest, hrest⟩ := hrest d h
    unfold Codec.read Decoder.extend
    simp only [hrest, List.cons_append]

theorem require_of_valid {d : Decoder} {count : Nat} (h : (require count d).2.valid = true)
    : d.valid = true ∧ count ≤ d.rest.length ∧ require count d = (some true, d) := by
  unfold Codec.require at h ⊢
  split at h
  . simp [Decoder.valid_fail] at h
  next hcondition =>
    rw [if_neg hcondition]
    simp only [Bool.or_eq_true, Bool.not_eq_true', decide_eq_true_eq, not_or] at hcondition
    refine ⟨h, ?_, rfl⟩
    omega

theorem require_extend {d : Decoder} {count : Nat} (h : (require count d).2.valid = true)
    (more : List Int32)
    : require count (d.extend more) = (some true, d.extend more) := by
  obtain ⟨hvalid, hcount, _⟩ := require_of_valid h
  unfold Codec.require
  rw [if_neg]
  simp only [Decoder.extend, hvalid, List.length_append, Bool.not_true, Bool.false_or,
    decide_eq_true_eq]
  omega

theorem validCount_of_valid {d : Decoder} {count : Int32}
    (h : (validCount count d).2.valid = true)
    : d.valid = true ∧ 0 ≤ count ∧ count.toInt ≤ d.size
        ∧ validCount count d = (some true, d) := by
  unfold Codec.validCount at h ⊢
  split at h
  . simp [Decoder.valid_fail] at h
  next hcondition =>
    rw [if_neg hcondition]
    rw [Int32.lt_iff_toInt_lt] at hcondition
    rw [Int32.le_iff_toInt_le]
    refine ⟨h, ?_, ?_, rfl⟩ <;> omega

theorem validCount_extend {d : Decoder} {count : Int32}
    (h : (validCount count d).2.valid = true) (more : List Int32)
    : validCount count (d.extend more) = (some true, d.extend more) := by
  obtain ⟨_, hcount, hsize, _⟩ := validCount_of_valid h
  rw [Int32.le_iff_toInt_le] at hcount
  unfold Codec.validCount
  rw [if_neg]
  rw [Int32.lt_iff_toInt_lt]
  simp only [Decoder.extend, Int32.toInt_zero] at hcount ⊢
  omega

theorem robust_require (count : Nat) : Robust (require count) where
  valid h := (require_of_valid h).1
  goesOn h := by rw [(require_of_valid h).2.2]; rfl
  extend h more := by rw [require_extend h, (require_of_valid h).2.2]

theorem robust_validCount (count : Int32) : Robust (validCount count) where
  valid h := (validCount_of_valid h).1
  goesOn h := by rw [(validCount_of_valid h).2.2.2]; rfl
  extend h more := by rw [validCount_extend h, (validCount_of_valid h).2.2.2]

theorem Robust.bind {x : DecodeM α} {f : α → DecodeM β} (hx : Robust x) (hf : ∀ a, Robust (f a))
    : Robust (x >>= f) := by
  have hsteps : ∀ d, ((x >>= f) d).2.valid = true
      → ∃ a, (x d).1 = some a ∧ (x d).2.valid = true ∧ (x >>= f) d = f a (x d).2 := by
    intro d h
    have hbind := bind_apply x f d
    cases hresult : x d with
    | mk result d' =>
      rw [hresult] at hbind
      cases result with
      | none =>
        rw [hbind] at h
        have hsome := hx.goesOn (d := d) (by rw [hresult]; exact h)
        rw [hresult] at hsome
        simp at hsome
      | some a =>
        refine ⟨a, rfl, ?_, hbind⟩
        rw [hbind] at h
        exact (hf a).valid h
  constructor
  . intro d h
    obtain ⟨a, _, hvalid, _⟩ := hsteps d h
    exact hx.valid hvalid
  . intro d h
    obtain ⟨a, _, _, hbind⟩ := hsteps d h
    rw [hbind] at h ⊢
    exact (hf a).goesOn h
  . intro d h more
    obtain ⟨a, hresult, hvalid, hbind⟩ := hsteps d h
    rw [hbind] at h ⊢
    rw [bind_apply, hx.extend hvalid, hresult]
    exact (hf a).extend h more

-- the piece that is left out is `done`, it goes on nowhere and stays valid
theorem robust_orDone {condition : DecodeM Bool} (hcondition : Robust condition)
    (htrue : ∀ d, (condition d).2.valid = true → (condition d).1 = some true)
    : Robust (orDone condition) := by
  have hsteps : ∀ d, (orDone condition d).2.valid = true
      → (condition d).2.valid = true ∧ orDone condition d = (some (), (condition d).2) := by
    intro d h
    unfold orDone at h ⊢
    rw [bind_apply] at h ⊢
    cases hresult : condition d with
    | mk result d' =>
      rw [hresult] at h
      have hd' : d'.valid = true := by
        cases result with
        | none => exact h
        | some enough => cases enough <;> exact h
      have := htrue d (by rw [hresult]; exact hd')
      rw [hresult] at this
      dsimp only at this
      subst this
      exact ⟨hd', rfl⟩
  constructor
  . intro d h
    exact hcondition.valid (hsteps d h).1
  . intro d h
    rw [(hsteps d h).2]
    rfl
  . intro d h more
    obtain ⟨hvalid, hrun⟩ := hsteps d h
    have htrue := htrue d hvalid
    rw [hrun]
    unfold orDone
    rw [bind_apply, hcondition.extend hvalid, htrue]
    rfl

theorem Piece.robust {x : DecodeM α} (hx : Piece x) : Robust x := by
  induction hx with
  | pure a => exact ⟨fun h => h, fun _ => rfl, fun _ _ => rfl⟩
  | read => exact robust_read
  | readFloatAt index fallback => exact ⟨fun h => h, fun _ => rfl, fun _ _ => rfl⟩
  | push update => exact ⟨fun h => h, fun _ => rfl, fun _ _ => rfl⟩
  | require count => exact robust_require count
  | orRequire count =>
    apply robust_orDone (robust_require count)
    intro d h
    rw [(require_of_valid h).2.2]
  | orValidCount count =>
    apply robust_orDone (robust_validCount count)
    intro d h
    rw [(validCount_of_valid h).2.2.2]
  | bind _ _ ihx ihf => exact ihx.bind ihf

theorem piece_readFloat (fallback : ℚ) : Piece (readFloat fallback) :=
  .bind .read (fun index => .readFloatAt index fallback)

theorem piece_readUInt32 : Piece readUInt32 := .bind .read (fun _ => .pure _)

theorem piece_readUInt8 : Piece readUInt8 := .bind .read (fun _ => .pure _)

theorem piece_readBool : Piece readBool := .bind .read (fun _ => .pure _)

theorem Piece.ite {p : Prop} [Decidable p] {x y : DecodeM α} (hx : Piece x) (hy : Piece y)
    : Piece (if p then x else y) := by
  split
  . exact hx
  . exact hy

theorem Piece.records {record : DecodeM Unit} (hrecord : Piece record) (fixed count : Nat)
    : Piece (records fixed record count) := by
  induction count with
  | zero => exact .pure _
  | succ n ih =>
    refine .bind (.require fixed) (fun enough => ?_)
    cases enough with
    | true => exact .bind hrecord (fun _ => ih)
    | false => exact .pure _

theorem Piece.entries {entry : DecodeM α} (hentry : Piece entry) (count : Nat)
    : Piece (entries entry count) := by
  induction count with
  | zero => exact .pure _
  | succ n ih => exact .bind hentry (fun _ => .bind ih (fun _ => .pure _))

theorem Piece.nested {entry : DecodeM α} (hentry : Piece entry) (count : Int32) (stride : Nat)
    : Piece (nested count stride entry) :=
  .bind (.orValidCount count) (fun _ => .bind (.orRequire _) (fun _ => hentry.entries _))

theorem piece_headerCounts (version since : Int32) (count : Nat)
    : Piece (headerCounts version since count) := by
  apply Piece.ite
  . exact .bind (.orRequire count) (fun _ => Piece.read.entries count)
  . exact .pure _

theorem piece_validCounts (counts : List Int32) : Piece (validCounts counts) := by
  induction counts with
  | nil => exact .pure _
  | cons count counts ih => exact .bind (.orValidCount count) (fun _ => ih)

theorem piece_decodeFixture : Piece decodeFixture := by
  iterate 4 refine .bind .read (fun _ => ?_)
  iterate 2 refine .bind (piece_readFloat _) (fun _ => ?_)
  exact .push _

theorem piece_decodeByteSource : Piece decodeByteSource := by
  iterate 3 refine .bind .read (fun _ => ?_)
  exact .pure _

theorem piece_decodeActivation (version : Int32) : Piece (decodeActivation version) := by
  apply Piece.ite
  . refine .bind piece_readUInt8 (fun _ => ?_)
    refine .bind .read (fun _ => ?_)
    iterate 2 refine .bind piece_readUInt32 (fun _ => ?_)
    refine .bind piece_readBool (fun _ => ?_)
    iterate 2 refine .bind .read (fun _ => ?_)
    exact .pure _
  . exact .bind .read (fun _ => .pure _)

theorem piece_decodeSourceProgram (version : Int32) : Piece (decodeSourceProgram version) := by
  iterate 3 refine .bind .read (fun _ => ?_)
  iterate 2 refine .bind piece_readUInt32 (fun _ => ?_)
  iterate 2 refine .bind (piece_readFloat _) (fun _ => ?_)
  refine .bind (piece_decodeActivation version) (fun _ => ?_)
  refine .bind (piece_decodeByteSource.nested _ 3) (fun _ => ?_)
  exact .push _

theorem piece_decodeContributor : Piece decodeContributor := by
  refine .bind .read (fun _ => ?_)
  refine .bind (piece_readFloat _) (fun _ => ?_)
  refine .bind .read (fun _ => ?_)
  exact .pure _

theorem piece_decodeProperty : Piece decodeProperty := by
  iterate 6 refine .bind .read (fun _ => ?_)
  refine .bind (piece_decodeContributor.nested _ 3) (fun _ => ?_)
  exact .push _

theorem piece_decodeColorInput (version : Int32) : Piece (decodeColorInput version) := by
  iterate 2 refine .bind .read (fun _ => ?_)
  refine .bind (piece_readFloat _) (fun _ => ?_)
  refine .bind piece_readBool (fun _ => ?_)
  apply Piece.ite
  . iterate 2 refine .bind .read (fun _ => ?_)
    exact .pure _
  . exact .pure _

theorem piece_decodeColorTarget (version : Int32) : Piece (decodeColorTarget version) := by
  iterate 4 refine .bind .read (fun _ => ?_)
  refine .bind piece_readBool (fun _ => ?_)
  refine .bind .read (fun _ => ?_)
  refine .bind ((piece_decodeColorInput version).nested _ _) (fun _ => ?_)
  exact .push _

theorem piece_decodePaletteSlot : Piece (decodePaletteSlot fmt) := by
  refine .bind .read (fun _ => ?_)
  iterate 7 refine .bind (piece_readFloat _) (fun _ => ?_)
  refine .bind piece_readBool (fun _ => ?_)
  exact .pure _

theorem piece_decodeWheelPalette : Piece (decodeWheelPalette fmt) := by
  iterate 2 refine .bind .read (fun _ => ?_)
  refine .bind (piece_readFloat _) (fun _ => ?_)
  refine .bind .read (fun _ => ?_)
  refine .bind (piece_decodePaletteSlot.nested _ 9) (fun _ => ?_)
  exact .push _

theorem piece_decodeChannelSet : Piece decodeChannelSet := by
  iterate 2 refine .bind piece_readUInt32 (fun _ => ?_)
  refine .bind .read (fun _ => ?_)
  exact .pure _

theorem piece_decodeWheelBinding : Piece (decodeWheelBinding fmt) := by
  iterate 6 refine .bind .read (fun _ => ?_)
  refine .bind piece_readBool (fun _ => ?_)
  refine .bind (piece_readFloat _) (fun _ => ?_)
  refine .bind .read (fun _ => ?_)
  refine .bind (piece_decodeChannelSet.nested _ 3) (fun _ => ?_)
  exact .push _

theorem piece_decodeGoboAsset : Piece decodeGoboAsset := by
  iterate 3 refine .bind .read (fun _ => ?_)
  iterate 2 refine .bind piece_readBool (fun _ => ?_)
  exact .push _

theorem piece_decodeGoboBinding : Piece decodeGoboBinding := by
  iterate 8 refine .bind .read (fun _ => ?_)
  refine .bind (piece_decodeChannelSet.nested _ 3) (fun _ => ?_)
  exact .push _

theorem piece_decodeGoboMotion : Piece decodeGoboMotion := by
  iterate 6 refine .bind .read (fun _ => ?_)
  iterate 2 refine .bind piece_readUInt8 (fun _ => ?_)
  iterate 2 refine .bind (piece_readFloat _) (fun _ => ?_)
  iterate 2 refine .bind piece_readBool (fun _ => ?_)
  refine .bind .read (fun _ => ?_)
  exact .push _

theorem piece_decodeShutterMode (version : Int32) : Piece (decodeShutterMode version) := by
  apply Piece.ite
  . iterate 2 refine .bind piece_readUInt32 (fun _ => ?_)
    exact .bind .read (fun _ => .pure _)
  . exact .pure _

theorem piece_decodeShutter (version : Int32) : Piece (decodeShutter version) := by
  iterate 6 refine .bind .read (fun _ => ?_)
  iterate 2 refine .bind piece_readUInt32 (fun _ => ?_)
  iterate 5 refine .bind (piece_readFloat _) (fun _ => ?_)
  refine .bind (piece_decodeShutterMode version) (fun _ => ?_)
  exact .push _

theorem piece_decodeTables (fmt : FloatFormat) (version : Int32) : Piece (decodeTables fmt version) := by
  refine .bind (Piece.read.entries 4) (fun _ => ?_)
  iterate 4 refine .bind (piece_headerCounts version _ _) (fun _ => ?_)
  refine .bind (.orRequire 1) (fun _ => ?_)
  refine .bind .read (fun _ => ?_)
  refine .bind (piece_validCounts _) (fun _ => ?_)
  refine .bind (piece_decodeFixture.records _ _) (fun _ => ?_)
  refine .bind ((piece_decodeSourceProgram version).records _ _) (fun _ => ?_)
  refine .bind (piece_decodeProperty.records _ _) (fun _ => ?_)
  refine .bind ((piece_decodeColorTarget version).records _ _) (fun _ => ?_)
  refine .bind (piece_decodeWheelPalette.records _ _) (fun _ => ?_)
  refine .bind (piece_decodeWheelBinding.records _ _) (fun _ => ?_)
  refine .bind (piece_decodeGoboAsset.records _ _) (fun _ => ?_)
  refine .bind (piece_decodeGoboBinding.records _ _) (fun _ => ?_)
  refine .bind (piece_decodeGoboMotion.records _ _) (fun _ => ?_)
  exact (piece_decodeShutter version).records _ _

theorem piece_decodeVersion : Piece decodeVersion :=
  .bind (.require 6) (fun _ => .bind .read (fun _ => .pure _))

def Decoder.start (integers : List Int32) (floats : List ℚ) : Decoder where
  size := integers.length
  rest := integers
  floats := floats

theorem Decoder.extend_start (integers more : List Int32) (floats : List ℚ)
    : (Decoder.start integers floats).extend more = Decoder.start (integers ++ more) floats := by
  simp [Decoder.start, Decoder.extend]

theorem safe_decodeBody {integers : List Int32} {r : RawDecoder} (fmt : FloatFormat)
    (floats : List ℚ) (version : Int32) (hr : r.cursor ≤ integers.length)
    : ∃ a r', Safe integers floats (decodeBody fmt version) r a r' := by
  obtain ⟨a, r₁, hpush⟩ := (Piece.push _).safe floats hr
  apply hpush.bind floats
  intro _ r₁ hr₁
  obtain ⟨a, r₂, htables⟩ := (piece_decodeTables fmt version).safe floats hr₁
  apply htables.bind floats
  intro _ r₂ hr₂
  refine ⟨some (), _, .checkTrailing r₂, ?_, RawDecoder.checkTrailing_spec floats hr₂⟩
  rw [RawDecoder.cursor_checkTrailing]
  exact hr₂

theorem isSome_require (count : Nat) (d : Decoder) : (require count d).1.isSome = true := by
  unfold Codec.require
  split <;> rfl

theorem isSome_read (d : Decoder) : (Codec.read d).1.isSome = true := by
  unfold Codec.read
  split <;> rfl

theorem isSome_decodeVersion (d : Decoder) : (decodeVersion d).1.isSome = true := by
  unfold decodeVersion
  have hrequire := isSome_require 6 d
  rw [bind_apply]
  split
  next enough d₁ _ =>
    have hread := isSome_read d₁
    rw [bind_apply]
    split
    . rfl
    next h =>
      rw [h] at hread
      contradiction
  next h =>
    rw [h] at hrequire
    contradiction

theorem decodeCompiledRuntimeScene_eq (integers : List Int32) (floats : List ℚ)
    : decodeCompiledRuntimeScene fmt integers floats
        = match decodeVersion (Decoder.start integers floats) with
          | (some (true, version), d) =>
            if version < 1 ∨ kCompiledRuntimeSceneContractVersion < version then
              { diagnostic :=
                  "PVZ-PACKED-SCENE-VERSION: unsupported compiled runtime scene version." }
            else
              {
                scene := (decodeBody fmt version d).2.scene
                consumedIntegers := (decodeBody fmt version d).2.size
                  - (decodeBody fmt version d).2.rest.length
                valid := (decodeBody fmt version d).2.valid
                diagnostic := (decodeBody fmt version d).2.diagnostic
              }
          | (_, d) => { diagnostic := d.diagnostic } := rfl

theorem runsDecode (fmt : FloatFormat) (integers : List Int32) (floats : List ℚ)
    : RunsDecode fmt integers floats (decodeCompiledRuntimeScene fmt integers floats)
        ∧ (decodeCompiledRuntimeScene fmt integers floats).consumedIntegers
          ≤ integers.length := by
  obtain ⟨a, r, hversion⟩ := piece_decodeVersion.safe floats (r := {})
    (Nat.zero_le integers.length)
  have hstart : decodeVersion (Decoder.start integers floats)
      = (a, r.toDecoder integers floats) := hversion.agrees
  have hsome := isSome_decodeVersion (Decoder.start integers floats)
  rw [hstart] at hsome
  obtain ⟨⟨enough, version⟩, rfl⟩ := Option.isSome_iff_exists.mp hsome
  rw [decodeCompiledRuntimeScene_eq, hstart]
  cases enough with
  | false => exact ⟨.short hversion.runs, Nat.zero_le _⟩
  | true =>
    dsimp only
    split
    next hreject => exact ⟨.version hversion.runs hreject, Nat.zero_le _⟩
    next haccept =>
      obtain ⟨result, r', hbody⟩ := safe_decodeBody fmt floats version
        hversion.inside
      have hcursor : integers.length - (integers.drop r'.cursor).length = r'.cursor := by
        have := hbody.inside
        rw [List.length_drop]
        omega
      rw [hbody.agrees]
      dsimp only [RawDecoder.toDecoder]
      rw [hcursor]
      exact ⟨.body hversion.runs haccept hbody.runs, hbody.inside⟩

-- What an accepted payload consists of: a version the decoder knows, and the tables.
theorem accepts_iff {integers : List Int32} {floats : List ℚ}
    : (decodeCompiledRuntimeScene fmt integers floats).valid = true
        ↔ ∃ version d,
          decodeVersion (Decoder.start integers floats) = (some (true, version), d)
            ∧ ¬(version < 1 ∨ kCompiledRuntimeSceneContractVersion < version)
            ∧ (decodeBody fmt version d).2.valid = true := by
  rw [decodeCompiledRuntimeScene_eq]
  constructor
  . intro h
    split at h
    next version d hversion =>
      split at h
      . simp at h
      next haccept => exact ⟨version, d, hversion, haccept, h⟩
    . simp at h
  . intro ⟨version, d, hversion, haccept, hbody⟩
    rw [hversion]
    dsimp only
    rw [if_neg haccept]
    exact hbody

theorem checkTrailing_of_valid {d : Decoder} (h : (checkTrailing d).2.valid = true)
    : d.valid = true ∧ d.rest = [] := by
  unfold checkTrailing at h
  split at h
  . simp [Decoder.valid_fail] at h
  next hcondition =>
    simp only [Bool.and_eq_true, Bool.not_eq_true', not_and, Bool.not_eq_false,
      List.isEmpty_iff] at hcondition
    exact ⟨h, hcondition h⟩

def decodeScene (fmt : FloatFormat) (version : Int32) : DecodeM Unit := do
  push fun scene => { scene with contractVersion := version }
  decodeTables fmt version

theorem robust_decodeScene (version : Int32) : Robust (decodeScene fmt version) :=
  (Piece.bind (.push _) (fun _ => piece_decodeTables fmt version)).robust

theorem decodeBody_eq (version : Int32)
    : decodeBody fmt version = decodeScene fmt version >>= fun _ => checkTrailing :=
  (bind_bind _ _ _).symm

theorem checkTrailing_eq {d : Decoder} (hrest : d.rest = []) : checkTrailing d = (some (), d) := by
  unfold checkTrailing
  rw [if_neg]
  simp [hrest]

theorem decodeBody_of_valid {version : Int32} {d : Decoder}
    (h : (decodeBody fmt version d).2.valid = true)
    : (decodeScene fmt version d).2.valid = true ∧ (decodeScene fmt version d).2.rest = []
        ∧ decodeBody fmt version d = (some (), (decodeScene fmt version d).2) := by
  have hrobust : Robust (decodeScene fmt version) := robust_decodeScene version
  have hbind := bind_apply (decodeScene fmt version) (fun _ => checkTrailing) d
  rw [decodeBody_eq] at h ⊢
  cases hscene : decodeScene fmt version d with
  | mk result d' =>
    rw [hscene] at hbind
    cases result with
    | none =>
      rw [hbind] at h
      have hgoes := hrobust.goesOn (d := d) (by rw [hscene]; exact h)
      rw [hscene] at hgoes
      contradiction
    | some =>
      rw [hbind] at h ⊢
      obtain ⟨hvalid, hrest⟩ := checkTrailing_of_valid h
      exact ⟨hvalid, hrest, checkTrailing_eq hrest⟩

theorem decodeBody_extend {version : Int32} {d : Decoder} {more : List Int32}
    (h : (decodeBody fmt version d).2.valid = true) (hmore : more ≠ [])
    : (decodeBody fmt version (d.extend more)).2.valid = false := by
  have hrobust : Robust (decodeScene fmt version) := robust_decodeScene version
  obtain ⟨hvalid, hrest, _⟩ := decodeBody_of_valid h
  rw [Bool.eq_false_iff]
  intro hextended
  -- the tables end where they ended before, in front of what was added
  have hend := (decodeBody_of_valid hextended).2.1
  rw [hrobust.extend hvalid] at hend
  simp only [Decoder.extend, hrest, List.nil_append] at hend
  exact hmore hend

theorem rejects_extension {integers more : List Int32} {floats : List ℚ}
    (h : (decodeCompiledRuntimeScene fmt integers floats).valid = true) (hmore : more ≠ [])
    : (decodeCompiledRuntimeScene fmt (integers ++ more) floats).valid = false := by
  obtain ⟨version, d, hversion, haccept, hbody⟩ := accepts_iff.mp h
  have hstart : (decodeVersion (Decoder.start integers floats)).2.valid = true := by
    rw [hversion]
    have hrobust : Robust (decodeScene fmt version) := robust_decodeScene version
    exact hrobust.valid (decodeBody_of_valid hbody).1
  rw [decodeCompiledRuntimeScene_eq, ← Decoder.extend_start,
    piece_decodeVersion.robust.extend hstart, hversion]
  dsimp only
  rw [if_neg haccept]
  exact decodeBody_extend hbody hmore

theorem consumedIntegers_of_valid {integers : List Int32} {floats : List ℚ}
    (h : (decodeCompiledRuntimeScene fmt integers floats).valid = true)
    : (decodeCompiledRuntimeScene fmt integers floats).consumedIntegers = integers.length := by
  obtain ⟨version, d, hversion, haccept, hbody⟩ := accepts_iff.mp h
  obtain ⟨_, r, hsafe⟩ := piece_decodeVersion.safe floats (r := {})
    (Nat.zero_le integers.length)
  have hstart : decodeVersion (Decoder.start integers floats)
      = (_, r.toDecoder integers floats) := hsafe.agrees
  obtain rfl : d = r.toDecoder integers floats := by
    rw [hversion] at hstart
    exact (Prod.ext_iff.mp hstart).2
  obtain ⟨_, r', hend⟩ := safe_decodeBody fmt floats version hsafe.inside
  obtain ⟨_, hrest, hscene⟩ := decodeBody_of_valid hbody
  have hsize : (decodeScene fmt version (r.toDecoder integers floats)).2.size
      = integers.length := by
    have hagrees := hend.agrees
    rw [hscene] at hagrees
    rw [(Prod.ext_iff.mp hagrees).2]
    rfl
  rw [decodeCompiledRuntimeScene_eq, hversion]
  dsimp only
  rw [if_neg haccept, hscene, hrest, hsize]
  rfl

/-- The decoder is safe on every payload and its payloads are prefix-free. -/
theorem decode_hostile (fmt : FloatFormat) (integers : List Int32) (floats : List ℚ)
    : RunsDecode fmt integers floats (decodeCompiledRuntimeScene fmt integers floats)
        ∧ (decodeCompiledRuntimeScene fmt integers floats).consumedIntegers ≤ integers.length
        ∧ ((decodeCompiledRuntimeScene fmt integers floats).valid = true
          → (decodeCompiledRuntimeScene fmt integers floats).consumedIntegers = integers.length
            ∧ ∀ other, other ≠ integers → other <+: integers ∨ integers <+: other
              → (decodeCompiledRuntimeScene fmt other floats).valid = false) := by
  refine ⟨(runsDecode fmt integers floats).1, (runsDecode fmt integers floats).2, ?_⟩
  intro hvalid
  refine ⟨consumedIntegers_of_valid hvalid, ?_⟩
  intro other hne hearlier
  rcases hearlier with ⟨more, rfl⟩ | ⟨more, rfl⟩
  . rw [Bool.eq_false_iff]
    intro hother
    have hmore : more ≠ [] := by
      rintro rfl
      simp at hne
    rw [rejects_extension hother hmore] at hvalid
    contradiction
  . apply rejects_extension hvalid
    rintro rfl
    simp at hne

theorem decode_hostile_version1
    : (decodeCompiledRuntimeScene ⟨id, fun _ => rfl⟩ [1, 0, 0, 0, 0, 0] []).consumedIntegers = 6
        ∧ (decodeCompiledRuntimeScene ⟨id, fun _ => rfl⟩ [1, 0, 0, 0, 0] []).valid = false := by
  have hvalid : (decodeCompiledRuntimeScene ⟨id, fun _ => rfl⟩ [1, 0, 0, 0, 0, 0] []).valid = true :=
    by decide +kernel
  obtain ⟨hconsumed, hother⟩ := (decode_hostile _ _ _).2.2 hvalid
  refine ⟨hconsumed, hother _ (by decide) (.inl ⟨[0], ?_⟩)⟩
  rfl

end Codec
end Peraviz.Runtime
