import Peraviz.Runtime.Codec.Impl

/-!
This module contains rules about pieces of the decoder that stand in front of cells the encoder
wrote: what they return and that they stand behind the cells afterwards.
-/

namespace Peraviz.Runtime
namespace Codec

variable {fmt : FloatFormat} {α β : Type}

def cellFloats (fmt : FloatFormat) : List Cell → List ℚ
  | [] => []
  | .int _ :: cells => cellFloats fmt cells
  | .float value :: cells => fmt.toFloat value :: cellFloats fmt cells

/-- The integers of cells that are written when `n` floats are packed already. -/
def cellIntegers (n : Nat) : List Cell → List Int32
  | [] => []
  | .int value :: cells => value :: cellIntegers n cells
  | .float _ :: cells => Int32.ofNat n :: cellIntegers (n + 1) cells

theorem insert_eq (fmt : FloatFormat) (out : PackedCompiledRuntimeScene) (cells : List Cell)
    : insert fmt out cells
        = ⟨out.integers ++ cellIntegers out.floats.length cells,
            out.floats ++ cellFloats fmt cells⟩ := by
  induction cells generalizing out with
  | nil => simp [insert, cellIntegers, cellFloats]
  | cons cell cells ih =>
    unfold insert at ih ⊢
    rw [List.foldl_cons, ih]
    cases cell <;> simp [pushCell, cellIntegers, cellFloats]

@[simp]
theorem length_cellIntegers (n : Nat) (cells : List Cell)
    : (cellIntegers n cells).length = cells.length := by
  induction cells generalizing n with
  | nil => rfl
  | cons cell cells ih => cases cell <;> simp [cellIntegers, ih]

/-- The decoder stands in front of `cells` and of nothing else. -/
structure Ahead (fmt : FloatFormat) (d : Decoder) (cells : List Cell) : Prop where
  valid : d.valid = true
  enough : d.rest.length ≤ d.size
  bound : d.floats.length < 2 ^ 31
  split : ∃ before, d.floats = before ++ cellFloats fmt cells
    ∧ d.rest = cellIntegers before.length cells

theorem Ahead.length_rest {d : Decoder} {cells : List Cell} (h : Ahead fmt d cells)
    : d.rest.length = cells.length := by
  obtain ⟨before, _, hrest⟩ := h.split
  rw [hrest, length_cellIntegers]

/-- In front of `cells`, the piece returns `a` and does `update` to the scene. -/
def Decodes (fmt : FloatFormat) (x : DecodeM α) (cells : List Cell) (a : α)
    (update : CompiledRuntimeScene → CompiledRuntimeScene) : Prop :=
  ∀ d tail, Ahead fmt d (cells ++ tail) → ∃ d', x d = (some a, d') ∧ Ahead fmt d' tail
    ∧ d'.size = d.size ∧ d'.scene = update d.scene ∧ d'.diagnostic = d.diagnostic

theorem bind_apply (x : DecodeM α) (f : α → DecodeM β) (d : Decoder)
    : (x >>= f) d = match x d with
        | (some a, d) => f a d
        | (none, d) => (none, d) := rfl

theorem bind_bind {γ : Type} (x : DecodeM α) (f : α → DecodeM β) (g : β → DecodeM γ)
    : x >>= f >>= g = x >>= fun a => f a >>= g := by
  funext d
  simp only [bind_apply]
  obtain ⟨a, d'⟩ := x d
  cases a <;> rfl

theorem Decodes.congr {x : DecodeM α} {cells : List Cell} {a b : α}
    {update update' : CompiledRuntimeScene → CompiledRuntimeScene}
    (h : Decodes fmt x cells a update) (ha : a = b) (hupdate : ∀ scene, update scene = update' scene)
    : Decodes fmt x cells b update' := by
  obtain rfl : update = update' := funext hupdate
  rw [← ha]
  exact h

theorem Decodes.pure (a : α) : Decodes fmt (pure a) [] a id :=
  fun d _ h => ⟨d, rfl, h, rfl, rfl, rfl⟩

theorem Decodes.push (update : CompiledRuntimeScene → CompiledRuntimeScene)
    : Decodes fmt (push update) [] () update := by
  intro d tail h
  exact ⟨_, rfl, ⟨h.valid, h.enough, h.bound, h.split⟩, rfl, rfl, rfl⟩

theorem Decodes.bind {x : DecodeM α} {f : α → DecodeM β} {front back : List Cell} {a : α} {b : β}
    {update update' : CompiledRuntimeScene → CompiledRuntimeScene}
    (hx : Decodes fmt x front a update) (hf : Decodes fmt (f a) back b update')
    : Decodes fmt (x >>= f) (front ++ back) b (update' ∘ update) := by
  intro d tail h
  rw [List.append_assoc] at h
  obtain ⟨d', hx, h', hsize, hscene, hdiag⟩ := hx d _ h
  obtain ⟨d'', hf, h'', hsize', hscene', hdiag'⟩ := hf d' _ h'
  refine ⟨d'', ?_, h'', by rw [hsize', hsize], ?_, by rw [hdiag', hdiag]⟩
  . rw [bind_apply, hx, ← hf]
  . rw [hscene', hscene]
    rfl

theorem Decodes.id_bind {x : DecodeM α} {f : α → DecodeM β} {front back : List Cell} {a : α}
    {b : β} {update : CompiledRuntimeScene → CompiledRuntimeScene}
    (hx : Decodes fmt x front a id) (hf : Decodes fmt (f a) back b update)
    : Decodes fmt (x >>= f) (front ++ back) b update := hx.bind hf

theorem Decodes.read (value : Int32) : Decodes fmt read [.int value] value id := by
  intro d tail h
  obtain ⟨before, hfloats, hrest⟩ := h.split
  have henough := h.enough
  simp only [List.singleton_append, cellFloats, cellIntegers] at hfloats hrest
  refine ⟨{ d with rest := cellIntegers before.length tail }, ?_, ?_, rfl, rfl, rfl⟩
  . unfold Codec.read
    rw [hrest]
  . refine ⟨h.valid, ?_, h.bound, before, hfloats, rfl⟩
    rw [hrest, List.length_cons] at henough
    dsimp only
    omega

theorem floatAt_ofNat (floats : List ℚ) {n : Nat} (hn : n < floats.length)
    (hbound : floats.length < 2 ^ 31) (fallback : ℚ)
    : floatAt floats (Int32.ofNat n) fallback = floats.getD n fallback := by
  have hint : (Int32.ofNat n).toInt = n := Int32.toInt_ofNat_of_lt (by omega)
  unfold floatAt
  rw [if_pos, hint]
  . rfl
  . rw [Int32.le_iff_toInt_le, hint]
    constructor
    . simp
    . omega

theorem Decodes.readFloat (value fallback : ℚ)
    : Decodes fmt (readFloat fallback) [.float value] (fmt.toFloat value) id := by
  intro d tail h
  obtain ⟨before, hfloats, hrest⟩ := h.split
  have henough := h.enough
  simp only [List.singleton_append, cellFloats, cellIntegers] at hfloats hrest
  refine ⟨{ d with rest := cellIntegers (before.length + 1) tail }, ?_, ?_, rfl, rfl, rfl⟩
  . have hread : Codec.read d = (some (Int32.ofNat before.length),
        { d with rest := cellIntegers (before.length + 1) tail }) := by
      unfold Codec.read
      rw [hrest]
    unfold Codec.readFloat
    rw [bind_apply, hread]
    dsimp only [readFloatAt]
    rw [floatAt_ofNat _ _ h.bound, hfloats]
    . simp
    . simp [hfloats]
  . refine ⟨h.valid, ?_, h.bound, before ++ [fmt.toFloat value], ?_, ?_⟩
    . rw [hrest, List.length_cons] at henough
      dsimp only
      simp only [length_cellIntegers] at henough ⊢
      omega
    . simp [hfloats]
    . simp

theorem Decodes.map {x : DecodeM α} {cells : List Cell} {a : α}
    {update : CompiledRuntimeScene → CompiledRuntimeScene} (hx : Decodes fmt x cells a update)
    (f : α → β)
    : Decodes fmt (x >>= fun a => Pure.pure (f a)) cells (f a) update := by
  have hbind : Decodes fmt (x >>= fun a => Pure.pure (f a)) (cells ++ []) (f a) (id ∘ update) :=
    hx.bind (Decodes.pure _)
  rw [List.append_nil] at hbind
  exact hbind

theorem Decodes.bind_push {x : DecodeM α} {cells : List Cell} {a : α}
    (hx : Decodes fmt x cells a id) (update : α → CompiledRuntimeScene → CompiledRuntimeScene)
    : Decodes fmt (x >>= fun a => Codec.push (update a)) cells () (update a) := by
  have hbind : Decodes fmt (x >>= fun a => Codec.push (update a)) (cells ++ []) ()
      (update a ∘ id) := hx.bind (Decodes.push _)
  rw [List.append_nil] at hbind
  exact hbind

theorem Decodes.read_bind {f : Int32 → DecodeM β} {cells : List Cell} {b : β}
    {update : CompiledRuntimeScene → CompiledRuntimeScene} {value : Int32}
    (hf : Decodes fmt (f value) cells b update)
    : Decodes fmt (Codec.read >>= f) (.int value :: cells) b update :=
  (Decodes.read value).id_bind hf

theorem Decodes.readFloat_bind {f : ℚ → DecodeM β} {cells : List Cell} {b : β}
    {update : CompiledRuntimeScene → CompiledRuntimeScene} {value fallback : ℚ}
    (hf : Decodes fmt (f (fmt.toFloat value)) cells b update)
    : Decodes fmt (Codec.readFloat fallback >>= f) (.float value :: cells) b update :=
  (Decodes.readFloat value fallback).id_bind hf

theorem Decodes.readUInt32_bind {f : UInt32 → DecodeM β} {cells : List Cell} {b : β}
    {update : CompiledRuntimeScene → CompiledRuntimeScene} {value : UInt32}
    (hf : Decodes fmt (f value) cells b update)
    : Decodes fmt (readUInt32 >>= f) (ofUInt32 value :: cells) b update :=
  ((Decodes.read value.toInt32).map Int32.toUInt32).bind hf

theorem Decodes.readUInt8_bind {f : UInt8 → DecodeM β} {cells : List Cell} {b : β}
    {update : CompiledRuntimeScene → CompiledRuntimeScene} {value : UInt8}
    (hf : Decodes fmt (f value) cells b update)
    : Decodes fmt (readUInt8 >>= f) (ofUInt8 value :: cells) b update := by
  have hread : Decodes fmt readUInt8 [ofUInt8 value] value id := by
    apply ((Decodes.read value.toUInt32.toInt32).map (fun i => i.toUInt32.toUInt8)).congr
    . exact UInt8.toUInt8_toUInt32 value
    . intro scene
      rfl
  exact hread.bind hf

theorem Decodes.readBool_bind {f : Bool → DecodeM β} {cells : List Cell} {b : β}
    {update : CompiledRuntimeScene → CompiledRuntimeScene} {value : Bool}
    (hf : Decodes fmt (f value) cells b update)
    : Decodes fmt (readBool >>= f) (ofBool value :: cells) b update := by
  have hread : Decodes fmt readBool [ofBool value] value id := by
    apply ((Decodes.read (if value then 1 else 0)).map (· != 0)).congr
    . cases value <;> rfl
    . intro scene
      rfl
  exact hread.bind hf

theorem orDone_bind_of_true {condition : DecodeM Bool} {d : Decoder}
    (h : condition d = (some true, d)) (f : Unit → DecodeM β)
    : (orDone condition >>= f) d = f () d := by
  unfold orDone
  rw [bind_apply, bind_apply, h]
  rfl

theorem Ahead.require {d : Decoder} {cells : List Cell} (h : Ahead fmt d cells) {count : Nat}
    (hcount : count ≤ cells.length)
    : require count d = (some true, d) := by
  have hrest := h.length_rest
  have hvalid := h.valid
  unfold Codec.require
  rw [if_neg]
  simp only [hvalid, Bool.not_true, Bool.false_or, decide_eq_true_eq]
  omega

theorem Ahead.validCount {d : Decoder} {cells : List Cell} (h : Ahead fmt d cells) {count : Nat}
    (hcount : count ≤ cells.length) (hbound : count < 2 ^ 31)
    : validCount (Int32.ofNat count) d = (some true, d) := by
  have hrest := h.length_rest
  have henough := h.enough
  have hint : (Int32.ofNat count).toInt = count := Int32.toInt_ofNat_of_lt hbound
  unfold Codec.validCount
  rw [if_neg]
  rw [Int32.lt_iff_toInt_lt, hint]
  simp only [Int32.toInt_zero]
  omega

theorem Ahead.require_bind {f : Bool → DecodeM β} {cells : List Cell} {count : Nat}
    {d : Decoder} (h : Ahead fmt d cells) (hcount : count ≤ cells.length)
    : (Codec.require count >>= f) d = f true d := by
  rw [bind_apply, h.require hcount]

theorem Decodes.orDone_require_bind {f : Unit → DecodeM β} {cells : List Cell} {b : β}
    {update : CompiledRuntimeScene → CompiledRuntimeScene} {count : Nat}
    (hcount : count ≤ cells.length) (hf : Decodes fmt (f ()) cells b update)
    : Decodes fmt (orDone (require count) >>= f) cells b update := by
  intro d tail h
  rw [orDone_bind_of_true (h.require _)]
  . exact hf d tail h
  . rw [List.length_append]
    omega

theorem Decodes.orDone_validCount_bind {f : Unit → DecodeM β} {cells : List Cell} {b : β}
    {update : CompiledRuntimeScene → CompiledRuntimeScene} {count : Nat}
    (hbound : count < 2 ^ 31) (hcount : count ≤ cells.length)
    (hf : Decodes fmt (f ()) cells b update)
    : Decodes fmt (orDone (validCount (Int32.ofNat count)) >>= f) cells b update := by
  intro d tail h
  rw [orDone_bind_of_true (h.validCount _ hbound)]
  . exact hf d tail h
  . rw [List.length_append]
    omega

theorem Decodes.entries {entry : DecodeM α} {γ : Type} {cellsOf : γ → List Cell} {value : γ → α}
    (hentry : ∀ v, Decodes fmt entry (cellsOf v) (value v) id) (l : List γ)
    : Decodes fmt (entries entry l.length) (l.flatMap cellsOf) (l.map value) id := by
  induction l with
  | nil => exact Decodes.pure _
  | cons v l ih =>
    have hcons : Decodes fmt
        (entry >>= fun v => Codec.entries entry l.length >>= fun vs => Pure.pure (v :: vs))
        (cellsOf v ++ l.flatMap cellsOf) (value v :: l.map value) (id ∘ id) :=
      (hentry v).bind (ih.map (value v :: ·))
    exact hcons

theorem length_flatMap_of_stride {γ : Type} {cellsOf : γ → List Cell} {stride : Nat}
    (hstride : ∀ v, (cellsOf v).length = stride) (l : List γ)
    : (l.flatMap cellsOf).length = l.length * stride := by
  induction l with
  | nil => simp
  | cons v l ih =>
    rw [List.flatMap_cons, List.length_append, hstride, ih, List.length_cons, Nat.succ_mul]
    omega

theorem toNatClampNeg_ofNat {n : Nat} (h : n < 2 ^ 31) : (Int32.ofNat n).toNatClampNeg = n := by
  unfold Int32.toNatClampNeg
  rw [Int32.toInt_ofNat_of_lt h]
  rfl

theorem Decodes.nested {entry : DecodeM α} {γ : Type} {cellsOf : γ → List Cell} {value : γ → α}
    (stride : Nat) (hentry : ∀ v, Decodes fmt entry (cellsOf v) (value v) id)
    (hstride : ∀ v, (cellsOf v).length = stride) (hpos : 0 < stride) {l : List γ}
    (hbound : l.length < 2 ^ 31)
    : Decodes fmt (nested (Int32.ofNat l.length) stride entry) (l.flatMap cellsOf) (l.map value)
        id := by
  have hlength := length_flatMap_of_stride hstride l
  unfold Codec.nested
  rw [toNatClampNeg_ofNat hbound]
  apply Decodes.orDone_validCount_bind hbound
  . rw [hlength]
    exact Nat.le_mul_of_pos_right _ hpos
  . apply Decodes.orDone_require_bind
    . rw [hlength]
    . exact Decodes.entries hentry l

theorem Decodes.records {record : DecodeM Unit} {γ : Type} {cellsOf : γ → List Cell}
    {update : γ → CompiledRuntimeScene → CompiledRuntimeScene} {fixed : Nat} {l : List γ}
    (hrecord : ∀ v ∈ l, Decodes fmt record (cellsOf v) () (update v))
    (hfixed : ∀ v, fixed ≤ (cellsOf v).length)
    : Decodes fmt (records fixed record l.length) (l.flatMap cellsOf) ()
        (fun scene => l.foldl (fun scene v => update v scene) scene) := by
  induction l with
  | nil => exact Decodes.pure _
  | cons v l ih =>
    intro d tail h
    rw [List.flatMap_cons] at h
    have hrequire : Codec.require fixed d = (some true, d) := by
      apply h.require
      have := hfixed v
      simp only [List.length_append]
      omega
    have hloop : Decodes fmt (record >>= fun _ => Codec.records fixed record l.length)
        (cellsOf v ++ l.flatMap cellsOf) () (_ ∘ update v) :=
      (hrecord v List.mem_cons_self).bind
        (ih (fun w hw => hrecord w (List.mem_cons_of_mem _ hw)))
    obtain ⟨d', hrun, h'⟩ := hloop d tail h
    refine ⟨d', ?_, h'⟩
    rw [List.length_cons, Codec.records, bind_apply, hrequire, ← hrun]
    rfl

theorem foldl_put {γ δ σ : Type} {put : List δ → σ → σ} (hnil : ∀ s, put [] s = s)
    (happ : ∀ l l' s, put l' (put l s) = put (l ++ l') s) (value : γ → δ) (l : List γ) (s : σ)
    : l.foldl (fun s v => put [value v] s) s = put (l.map value) s := by
  induction l generalizing s with
  | nil => exact (hnil s).symm
  | cons v l ih =>
    rw [List.foldl_cons, ih, happ]
    rfl

theorem Decodes.table {record : DecodeM Unit} {γ δ : Type} {cellsOf : γ → List Cell}
    {value : γ → δ} {fixed : Nat} {l : List γ}
    (put : List δ → CompiledRuntimeScene → CompiledRuntimeScene) (hnil : ∀ s, put [] s = s)
    (happ : ∀ l l' s, put l' (put l s) = put (l ++ l') s)
    (hrecord : ∀ v ∈ l, Decodes fmt record (cellsOf v) () (put [value v]))
    (hfixed : ∀ v, fixed ≤ (cellsOf v).length)
    : Decodes fmt (Codec.records fixed record l.length) (l.flatMap cellsOf) ()
        (put (l.map value)) := by
  apply (Decodes.records hrecord hfixed).congr rfl
  intro scene
  exact foldl_put hnil happ value l scene

theorem Decodes.counts (values : List Int32)
    : Decodes fmt (Codec.entries Codec.read values.length) (values.map .int) values id := by
  have h : Decodes fmt (Codec.entries Codec.read values.length)
      (values.flatMap (fun value => [Cell.int value])) (values.map id) id :=
    Decodes.entries Decodes.read values
  simpa [List.map_eq_flatMap] using h

theorem Decodes.headerCounts {version since : Int32} (hsince : since ≤ version)
    (values : List Int32)
    : Decodes fmt (headerCounts version since values.length) (values.map .int) values id := by
  unfold Codec.headerCounts
  rw [if_pos hsince]
  apply Decodes.orDone_require_bind
  . simp
  . exact Decodes.counts values

theorem Decodes.validCounts_bind {f : Unit → DecodeM β} {cells : List Cell} {b : β}
    {update : CompiledRuntimeScene → CompiledRuntimeScene} {counts : List Nat}
    (hcounts : ∀ n ∈ counts, n < 2 ^ 31 ∧ n ≤ cells.length)
    (hf : Decodes fmt (f ()) cells b update)
    : Decodes fmt (validCounts (counts.map Int32.ofNat) >>= f) cells b update := by
  induction counts with
  | nil => exact (Decodes.pure ()).id_bind hf
  | cons n counts ih =>
    have hn := hcounts n List.mem_cons_self
    have hcons : Decodes fmt (orDone (validCount (Int32.ofNat n))
        >>= fun _ => validCounts (counts.map Int32.ofNat) >>= f) cells b update :=
      Decodes.orDone_validCount_bind hn.1 hn.2
        (ih (fun m hm => hcounts m (List.mem_cons_of_mem _ hm)))
    rw [← bind_bind] at hcons
    exact hcons

end Codec
end Peraviz.Runtime
