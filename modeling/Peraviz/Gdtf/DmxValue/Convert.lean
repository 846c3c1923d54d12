import Mathlib.Algebra.Group.Nat.Defs
import Mathlib.Tactic.Ring
import Peraviz.Gdtf.Xml

/-!
This module contains the DMX values of a GDTF description: their text, a number with the count of
its bytes, and their conversion to another count of bytes. The laws of the conversion are stated
about the same computation on natural numbers, where nothing can overflow.
-/

namespace Peraviz.Gdtf

inductive DmxValueConversion where
  | mirror
  | shift
  deriving DecidableEq, Repr

structure ParsedDmxValue where
  value : UInt32 := 0
  byteCount : UInt8 := 1
  conversion : DmxValueConversion := .mirror
  deriving DecidableEq, Repr

def byteMax (bytes : UInt8) : UInt32 :=
  if bytes = 0 ∨ 4 < bytes then 0
  else if bytes = 4 then 0xffffffff
  else (1 <<< (bytes.toUInt32 * 8)) - 1

/-! ### Numbers of the C library -/

/-- The characters of a `std::string` that a C function sees. -/
def cString (cs : List Char) : List Char := cs.takeWhile (· ≠ '\x00')

/-- `ULONG_MAX` and `ULLONG_MAX` where a `long` has 64 bits. -/
def ulongMax : Nat := 2 ^ 64 - 1

/--
`std::strtoul` and `std::strtoull` in base ten: the number and the characters behind it, `none` where
there is no digit. A number after a minus is negated in the unsigned type.
-/
def strtoul (cs : List Char) : Option (Nat × List Char) :=
  let magnitude (negative : Bool) (rest : List Char) : Option (Nat × List Char) :=
    let digits := rest.takeWhile Char.isDigit
    let n := decimal digits
    if digits = [] then none
    else if ulongMax < n then some (ulongMax, rest.dropWhile Char.isDigit)
    else some (if negative then (2 ^ 64 - n) % 2 ^ 64 else n, rest.dropWhile Char.isDigit)
  match (cString cs).dropWhile isSpace with
  | '-' :: rest => magnitude true rest
  | '+' :: rest => magnitude false rest
  | rest => magnitude false rest

def wholeNumber (cs : List Char) : Option Nat :=
  match strtoul cs with
  | some (n, []) => some n
  | _ => none

/-! ### DMX values -/

/-- The text in front of the first slash and the resolution behind it. -/
def splitResolution (text : List Char) : List Char × List Char :=
  if '/' ∈ text then
    (text.takeWhile (· ≠ '/'), (text.dropWhile (· ≠ '/')).tail)
  else
    (text, ['1'])

/-- The conversion that a resolution asks for, with the text of its byte count. -/
def splitConversion (resolution : List Char) : DmxValueConversion × List Char :=
  match resolution.getLast? with
  | some 's' => (.shift, resolution.dropLast)
  | some 'S' => (.shift, resolution.dropLast)
  | _ => (.mirror, resolution)

def parseGdtfDmxValue (raw : String) : Option ParsedDmxValue :=
  let text := trimChars raw.toList
  let (valueText, resolution) := splitResolution text
  let (conversion, countText) := splitConversion resolution
  if text = [] ∨ resolution = [] then
    none
  else
    match wholeNumber countText with
    | none => none
    | some bytes =>
      if bytes < 1 ∨ 4 < bytes then
        none
      else
        match wholeNumber valueText with
        | none => none
        | some value =>
          if (byteMax (UInt8.ofNat bytes)).toNat < value then
            none
          else
            some ⟨UInt32.ofNat value, UInt8.ofNat bytes, conversion⟩

/-- The loop of the mirroring, each round adds a byte or more. -/
def mirrorBytes (value : ParsedDmxValue) (targetBytes : UInt8) : Nat → UInt32 → UInt8 → UInt32
  | 0, converted, _ => converted
  | fuel + 1, converted, filled =>
    if filled < targetBytes then
      let take := min value.byteCount (targetBytes - filled)
      mirrorBytes value targetBytes fuel
        ((converted <<< (take.toUInt32 * 8))
          ||| (value.value >>> ((value.byteCount - take).toUInt32 * 8)))
        (filled + take)
    else
      converted

def convertGdtfDmxValue (value : ParsedDmxValue) (targetBytes : UInt8) : Option UInt32 :=
  if value.byteCount = 0 ∨ 4 < value.byteCount ∨ targetBytes = 0 ∨ 4 < targetBytes then
    none
  else if value.byteCount = targetBytes then
    some value.value
  else if targetBytes < value.byteCount then
    some (value.value >>> ((value.byteCount - targetBytes).toUInt32 * 8))
  else if value.conversion = .shift then
    some (value.value <<< ((targetBytes - value.byteCount).toUInt32 * 8))
  else
    some (mirrorBytes value targetBytes targetBytes.toNat value.value value.byteCount)

def parseAndConvertGdtfDmxValue (raw : String) (targetBytes : UInt8) : Option UInt32 :=
  (parseGdtfDmxValue raw).bind (fun parsed => convertGdtfDmxValue parsed targetBytes)

end Peraviz.Gdtf

/-! ### The laws of the conversion -/

namespace Peraviz.Gdtf

/-! ### The conversion without a width -/

/-- The loop of `mirrorBytes` on natural numbers. -/
def mirrorBytesExact (value bytes target : Nat) : Nat → Nat → Nat → Nat
  | 0, converted, _ => converted
  | fuel + 1, converted, filled =>
    if filled < target then
      let take := min bytes (target - filled)
      mirrorBytesExact value bytes target fuel
        (converted * 256 ^ take + value / 256 ^ (bytes - take)) (filled + take)
    else
      converted

def convertExact (value bytes target : Nat) (conversion : DmxValueConversion) : Nat :=
  if target ≤ bytes then
    value / 256 ^ (bytes - target)
  else if conversion = .shift then
    value * 256 ^ (target - bytes)
  else
    mirrorBytesExact value bytes target target value bytes

section Exact

variable {value bytes target : Nat}

theorem leading_lt (hvalue : value < 256 ^ bytes) {take : Nat} (htake : take ≤ bytes)
    : value / 256 ^ (bytes - take) < 256 ^ take := by
  apply Nat.div_lt_of_lt_mul
  rw [← Nat.pow_add, Nat.sub_add_cancel htake]
  exact hvalue

theorem leading_max {take : Nat} (htake : take ≤ bytes)
    : (256 ^ bytes - 1) / 256 ^ (bytes - take) = 256 ^ take - 1 := by
  have hpos : 0 < 256 ^ (bytes - take) := Nat.pow_pos (by omega)
  have hsplit : 256 ^ bytes = 256 ^ take * 256 ^ (bytes - take) := by
    rw [← Nat.pow_add, Nat.add_sub_cancel' htake]
  have htop : 256 ^ bytes - 1
      = (256 ^ (bytes - take) - 1) + (256 ^ take - 1) * 256 ^ (bytes - take) := by
    have hone : 1 ≤ 256 ^ take := Nat.one_le_pow _ _ (by omega)
    have hle : 1 * 256 ^ (bytes - take) ≤ 256 ^ take * 256 ^ (bytes - take) :=
      Nat.mul_le_mul_right _ hone
    rw [hsplit, Nat.sub_mul]
    omega
  rw [htop, Nat.add_mul_div_right _ _ hpos, Nat.div_eq_of_lt (by omega), Nat.zero_add]

-- One round keeps the bytes that are there and adds the leading ones of the value.
theorem filled_lt (hvalue : value < 256 ^ bytes) {converted filled take : Nat}
    (hconverted : converted < 256 ^ filled) (htake : take ≤ bytes)
    : converted * 256 ^ take + value / 256 ^ (bytes - take) < 256 ^ (filled + take) := by
  have hleading := leading_lt hvalue htake
  have hmul : (converted + 1) * 256 ^ take ≤ 256 ^ filled * 256 ^ take :=
    Nat.mul_le_mul_right _ hconverted
  rw [Nat.pow_add]
  rw [Nat.add_mul] at hmul
  omega

theorem mirrorBytesExact_lt (hvalue : value < 256 ^ bytes) {fuel converted filled : Nat}
    (hconverted : converted < 256 ^ filled) (hfilled : filled ≤ target)
    : mirrorBytesExact value bytes target fuel converted filled < 256 ^ target := by
  induction fuel generalizing converted filled with
  | zero => exact Nat.lt_of_lt_of_le hconverted (Nat.pow_le_pow_right (by omega) hfilled)
  | succ fuel ih =>
    rw [mirrorBytesExact]
    split
    . apply ih
      . apply filled_lt hvalue hconverted
        omega
      . omega
    . exact Nat.lt_of_lt_of_le hconverted (Nat.pow_le_pow_right (by omega) hfilled)

theorem mirrorBytesExact_div (hbytes : 0 < bytes) (hvalue : value < 256 ^ bytes)
    {fuel converted filled : Nat} (hfilled : filled ≤ target) (hfuel : target ≤ filled + fuel)
    : mirrorBytesExact value bytes target fuel converted filled / 256 ^ (target - filled)
        = converted := by
  induction fuel generalizing converted filled with
  | zero =>
    have hdone : target - filled = 0 := by omega
    rw [mirrorBytesExact, hdone, Nat.pow_zero, Nat.div_one]
  | succ fuel ih =>
    rw [mirrorBytesExact]
    split
    next hlt =>
      dsimp only
      generalize htake : min bytes (target - filled) = take
      have hsplit : target - filled = (target - (filled + take)) + take := by omega
      rw [hsplit, Nat.pow_add, ← Nat.div_div_eq_div_mul, ih (by omega) (by omega)]
      have hleading := @leading_lt value bytes hvalue take (by omega)
      rw [Nat.add_comm, Nat.add_mul_div_right _ _ (Nat.pow_pos (by omega)),
        Nat.div_eq_of_lt hleading, Nat.zero_add]
    next hge =>
      have hdone : target - filled = 0 := by omega
      rw [hdone, Nat.pow_zero, Nat.div_one]

theorem mirrorBytesExact_zero (fuel filled : Nat)
    : mirrorBytesExact 0 bytes target fuel 0 filled = 0 := by
  induction fuel generalizing filled with
  | zero => rfl
  | succ fuel ih =>
    rw [mirrorBytesExact]
    split
    . dsimp only
      rw [Nat.zero_mul, Nat.zero_div, Nat.add_zero]
      apply ih
    . rfl

theorem mirrorBytesExact_max (hbytes : 0 < bytes) {fuel filled : Nat} (hfilled : filled ≤ target)
    (hfuel : target ≤ filled + fuel)
    : mirrorBytesExact (256 ^ bytes - 1) bytes target fuel (256 ^ filled - 1) filled
        = 256 ^ target - 1 := by
  induction fuel generalizing filled with
  | zero =>
    have hdone : filled = target := by omega
    rw [mirrorBytesExact, hdone]
  | succ fuel ih =>
    rw [mirrorBytesExact]
    split
    next hlt =>
      dsimp only
      generalize htake : min bytes (target - filled) = take
      rw [leading_max (by omega)]
      have hone : 1 ≤ 256 ^ take := Nat.one_le_pow _ _ (by omega)
      have hone' : 1 ≤ 256 ^ filled := Nat.one_le_pow _ _ (by omega)
      have hnext : (256 ^ filled - 1) * 256 ^ take + (256 ^ take - 1) = 256 ^ (filled + take) - 1 := by
        have hle : 1 * 256 ^ take ≤ 256 ^ filled * 256 ^ take := Nat.mul_le_mul_right _ hone'
        rw [Nat.sub_mul, Nat.pow_add]
        omega
      rw [hnext]
      apply ih
      . omega
      . omega
    next hge =>
      have hdone : filled = target := by omega
      rw [hdone]

variable {conversion : DmxValueConversion}

theorem convertExact_lt (hvalue : value < 256 ^ bytes)
    : convertExact value bytes target conversion < 256 ^ target := by
  unfold convertExact
  split
  next hle => exact leading_lt hvalue hle
  next hlt =>
    split
    . have hsplit : 256 ^ target = 256 ^ bytes * 256 ^ (target - bytes) := by
        rw [← Nat.pow_add, Nat.add_sub_cancel' (by omega)]
      rw [hsplit]
      exact Nat.mul_lt_mul_of_pos_right hvalue (Nat.pow_pos (by omega))
    . apply mirrorBytesExact_lt hvalue hvalue
      omega

theorem convertExact_div (hbytes : 0 < bytes) (hvalue : value < 256 ^ bytes)
    (hwiden : bytes ≤ target)
    : convertExact value bytes target conversion / 256 ^ (target - bytes) = value := by
  unfold convertExact
  split
  next hle =>
    have hsame : target = bytes := by omega
    rw [hsame, Nat.sub_self, Nat.pow_zero, Nat.div_one, Nat.div_one]
  next hlt =>
    split
    . apply Nat.mul_div_cancel
      exact Nat.pow_pos (by omega)
    . apply mirrorBytesExact_div hbytes hvalue
      . omega
      . omega

theorem convertExact_lt_of_lt {value' : Nat} (hbytes : 0 < bytes) (hvalue' : value' < 256 ^ bytes)
    (hlt : value < value') (hwiden : bytes ≤ target)
    : convertExact value bytes target conversion < convertExact value' bytes target conversion := by
  have hdiv := @convertExact_div value bytes target conversion hbytes (by omega) hwiden
  have hdiv' := @convertExact_div value' bytes target conversion hbytes hvalue' hwiden
  by_contra hge
  have hle := @Nat.div_le_div_right _ _ (256 ^ (target - bytes)) (Nat.le_of_not_lt hge)
  omega

theorem convertExact_le_of_le {value' : Nat} (hbytes : 0 < bytes) (hvalue' : value' < 256 ^ bytes)
    (hle : value ≤ value')
    : convertExact value bytes target conversion ≤ convertExact value' bytes target conversion := by
  cases Nat.lt_or_eq_of_le hle with
  | inr heq => rw [heq]
  | inl hlt =>
    cases Nat.lt_or_ge bytes target with
    | inl hwiden =>
      apply Nat.le_of_lt
      apply convertExact_lt_of_lt hbytes hvalue' hlt
      omega
    | inr hnarrow =>
      unfold convertExact
      rw [if_pos hnarrow, if_pos hnarrow]
      exact Nat.div_le_div_right hle

theorem convertExact_zero : convertExact 0 bytes target conversion = 0 := by
  unfold convertExact
  split
  . exact Nat.zero_div _
  . split
    . exact Nat.zero_mul _
    . apply mirrorBytesExact_zero

theorem convertExact_max (hbytes : 0 < bytes)
    : convertExact (256 ^ bytes - 1) bytes target .mirror = 256 ^ target - 1 := by
  unfold convertExact
  split
  next hle => exact leading_max hle
  next hlt =>
    rw [if_neg (by decide)]
    apply mirrorBytesExact_max hbytes
    . omega
    . omega

end Exact

/-! ### The conversion of the code -/

theorem toNat_byteMax {bytes : UInt8} (hpos : 1 ≤ bytes) (hmax : bytes ≤ 4)
    : (byteMax bytes).toNat = 256 ^ bytes.toNat - 1 := by
  have hcases : bytes = 1 ∨ bytes = 2 ∨ bytes = 3 ∨ bytes = 4 := by
    rw [UInt8.le_iff_toNat_le] at hpos hmax
    simp only [← UInt8.toNat_inj]
    have hone : (1 : UInt8).toNat = 1 := rfl
    have hfour : (4 : UInt8).toNat = 4 := rfl
    have htwo : (2 : UInt8).toNat = 2 := rfl
    have hthree : (3 : UInt8).toNat = 3 := rfl
    omega
  rcases hcases with rfl | rfl | rfl | rfl
  . rfl
  . rfl
  . rfl
  . rfl

theorem toNat_shift_amount {bytes : UInt8} (h : bytes.toNat < 4)
    : (bytes.toUInt32 * 8).toNat % 32 = bytes.toNat * 8 := by
  have height : (8 : UInt32).toNat = 8 := rfl
  rw [UInt32.toNat_mul, UInt8.toNat_toUInt32, height]
  omega

-- The bytes that are shifted out are lost, those that are shifted in are zero.
theorem toNat_shiftLeft_bytes {value : UInt32} {bytes : UInt8} (hbytes : bytes.toNat < 4)
    (hfits : value.toNat * 256 ^ bytes.toNat < 2 ^ 32)
    : (value <<< (bytes.toUInt32 * 8)).toNat = value.toNat * 256 ^ bytes.toNat := by
  have hpow : 2 ^ (bytes.toNat * 8) = 256 ^ bytes.toNat := by
    rw [Nat.mul_comm, Nat.pow_mul]
  rw [UInt32.toNat_shiftLeft, toNat_shift_amount hbytes, Nat.shiftLeft_eq, hpow,
    Nat.mod_eq_of_lt hfits]

theorem toNat_shiftRight_bytes {value : UInt32} {bytes : UInt8} (hbytes : bytes.toNat < 4)
    : (value >>> (bytes.toUInt32 * 8)).toNat = value.toNat / 256 ^ bytes.toNat := by
  have hpow : 2 ^ (bytes.toNat * 8) = 256 ^ bytes.toNat := by
    rw [Nat.mul_comm, Nat.pow_mul]
  rw [UInt32.toNat_shiftRight, toNat_shift_amount hbytes, Nat.shiftRight_eq_div_pow, hpow]

theorem toNat_min_uint8 (a b : UInt8) : (min a b).toNat = min a.toNat b.toNat := by
  change (if a ≤ b then a else b).toNat = _
  split
  next h =>
    rw [UInt8.le_iff_toNat_le] at h
    omega
  next h =>
    rw [UInt8.le_iff_toNat_le] at h
    omega

/-- A value of one to four bytes and the count of the bytes that it is converted to. -/
structure ParsedDmxValue.Converts (value : ParsedDmxValue) (targetBytes : UInt8) : Prop where
  pos : 0 < value.byteCount.toNat
  bytes : value.byteCount.toNat ≤ 4
  lt : value.value.toNat < 256 ^ value.byteCount.toNat
  targetPos : 0 < targetBytes.toNat
  target : targetBytes.toNat ≤ 4

section Code

variable {value : ParsedDmxValue} {targetBytes : UInt8}

theorem pow_le_uint32 {bytes : Nat} (h : bytes ≤ 4) : 256 ^ bytes ≤ 2 ^ 32 := by
  have hle : 256 ^ bytes ≤ 256 ^ 4 := Nat.pow_le_pow_right (by omega) h
  omega

-- At least one byte is there already, so no shift is further than three bytes.
theorem toNat_mirrorBytes (h : value.Converts targetBytes) {fuel : Nat} {converted : UInt32}
    {filled : UInt8} (hconverted : converted.toNat < 256 ^ filled.toNat)
    (hfilled : filled.toNat ≤ targetBytes.toNat) (hpos : 0 < filled.toNat)
    : (mirrorBytes value targetBytes fuel converted filled).toNat
        = mirrorBytesExact value.value.toNat value.byteCount.toNat targetBytes.toNat fuel
          converted.toNat filled.toNat := by
  induction fuel generalizing converted filled with
  | zero => rfl
  | succ fuel ih =>
    rw [mirrorBytes, mirrorBytesExact]
    have hbytes := h.bytes
    have htarget := h.target
    have hcount := h.pos
    simp only [UInt8.lt_iff_toNat_lt]
    split
    next hlt =>
      have hrest : (targetBytes - filled).toNat = targetBytes.toNat - filled.toNat :=
        UInt8.toNat_sub_of_le _ _ (UInt8.le_iff_toNat_le.mpr hfilled)
      have htake := toNat_min_uint8 value.byteCount (targetBytes - filled)
      rw [hrest] at htake
      generalize min value.byteCount (targetBytes - filled) = take at htake ⊢
      rw [← htake]
      have hleft : (value.byteCount - take).toNat = value.byteCount.toNat - take.toNat := by
        apply UInt8.toNat_sub_of_le
        rw [UInt8.le_iff_toNat_le]
        omega
      have hnext : (filled + take).toNat = filled.toNat + take.toNat := by
        rw [UInt8.toNat_add]
        omega
      have hround := @filled_lt _ _ h.lt _ _ take.toNat hconverted (by omega)
      have hwidth := @pow_le_uint32 (filled.toNat + take.toNat) (by omega)
      have hfits : converted.toNat * 256 ^ take.toNat < 2 ^ 32 :=
        Nat.lt_of_le_of_lt (Nat.le_add_right _ _) (Nat.lt_of_lt_of_le hround hwidth)
      have hshift := @toNat_shiftLeft_bytes converted take (by omega) hfits
      have hleading := @toNat_shiftRight_bytes value.value (value.byteCount - take) (by omega)
      have hlow := @leading_lt _ _ h.lt take.toNat (by omega)
      have hor : ((converted <<< (take.toUInt32 * 8))
          ||| (value.value >>> ((value.byteCount - take).toUInt32 * 8))).toNat
            = converted.toNat * 256 ^ take.toNat
              + value.value.toNat / 256 ^ (value.byteCount.toNat - take.toNat) := by
        have hpow : 256 ^ take.toNat = 2 ^ (8 * take.toNat) := by rw [Nat.pow_mul]
        rw [UInt32.toNat_or, hshift, hleading, hleft, hpow, ← Nat.shiftLeft_eq]
        rw [hpow] at hlow
        exact (Nat.shiftLeft_add_eq_or_of_lt hlow _).symm
      rw [ih, hor, hnext]
      . rw [hor, hnext]
        exact hround
      . omega
      . omega
    next hge => rfl

theorem convertGdtfDmxValue_eq (h : value.Converts targetBytes)
    : ∃ out, convertGdtfDmxValue value targetBytes = some out
        ∧ out.toNat = convertExact value.value.toNat value.byteCount.toNat targetBytes.toNat
          value.conversion := by
  have hpos := h.pos
  have hbytes := h.bytes
  have htargetPos := h.targetPos
  have htarget := h.target
  have hfour : (4 : UInt8).toNat = 4 := rfl
  have hzero : (0 : UInt8).toNat = 0 := rfl
  have hvalid : ¬ (value.byteCount = 0 ∨ 4 < value.byteCount ∨ targetBytes = 0
      ∨ 4 < targetBytes) := by
    simp only [← UInt8.toNat_inj, UInt8.lt_iff_toNat_lt]
    omega
  unfold convertGdtfDmxValue convertExact
  rw [if_neg hvalid]
  split
  next hsame =>
    refine ⟨_, rfl, ?_⟩
    rw [hsame, if_pos (Nat.le_refl _), Nat.sub_self, Nat.pow_zero, Nat.div_one]
  next hne =>
    have hne' : value.byteCount.toNat ≠ targetBytes.toNat := fun heq =>
      hne (UInt8.toNat_inj.mp heq)
    split
    next hnarrow =>
      rw [UInt8.lt_iff_toNat_lt] at hnarrow
      have hcount : (value.byteCount - targetBytes).toNat
          = value.byteCount.toNat - targetBytes.toNat := by
        apply UInt8.toNat_sub_of_le
        rw [UInt8.le_iff_toNat_le]
        omega
      refine ⟨_, rfl, ?_⟩
      rw [if_pos (show targetBytes.toNat ≤ value.byteCount.toNat by omega),
        toNat_shiftRight_bytes (by omega), hcount]
    next hwiden =>
      rw [UInt8.lt_iff_toNat_lt] at hwiden
      rw [if_neg (show ¬ targetBytes.toNat ≤ value.byteCount.toNat by omega)]
      split
      next hshift =>
        have hcount : (targetBytes - value.byteCount).toNat
            = targetBytes.toNat - value.byteCount.toNat := by
          apply UInt8.toNat_sub_of_le
          rw [UInt8.le_iff_toNat_le]
          omega
        have hfits : value.value.toNat * 256 ^ (targetBytes.toNat - value.byteCount.toNat)
            < 2 ^ 32 := by
          have hexact := @convertExact_lt value.value.toNat value.byteCount.toNat
            targetBytes.toNat .shift h.lt
          unfold convertExact at hexact
          rw [if_neg (by omega), if_pos rfl] at hexact
          exact Nat.lt_of_lt_of_le hexact (pow_le_uint32 htarget)
        refine ⟨_, rfl, ?_⟩
        rw [toNat_shiftLeft_bytes (by omega) (by rw [hcount]; exact hfits), hcount]
      next hmirror =>
        refine ⟨_, rfl, ?_⟩
        apply toNat_mirrorBytes h h.lt
        . omega
        . exact hpos

end Code

/-! ### The laws -/

theorem converts_of_le {bytes targetBytes : UInt8} (hbytes : 1 ≤ bytes ∧ bytes ≤ 4)
    (htarget : 1 ≤ targetBytes ∧ targetBytes ≤ 4) {value : UInt32} (hvalue : value ≤ byteMax bytes)
    (conversion : DmxValueConversion)
    : ParsedDmxValue.Converts ⟨value, bytes, conversion⟩ targetBytes := by
  have hmax := toNat_byteMax hbytes.1 hbytes.2
  have hpos : 0 < 256 ^ bytes.toNat := Nat.pow_pos (by omega)
  rw [UInt32.le_iff_toNat_le, hmax] at hvalue
  simp only [UInt8.le_iff_toNat_le] at hbytes htarget
  have hone : (1 : UInt8).toNat = 1 := rfl
  have hfour : (4 : UInt8).toNat = 4 := rfl
  constructor
  . dsimp only
    omega
  . dsimp only
    omega
  . dsimp only
    omega
  . omega
  . omega

section Laws

variable {bytes targetBytes : UInt8} {value value' out out' : UInt32}
  {conversion : DmxValueConversion}

theorem convertGdtfDmxValue_spec (hbytes : 1 ≤ bytes ∧ bytes ≤ 4)
    (htarget : 1 ≤ targetBytes ∧ targetBytes ≤ 4) (hvalue : value ≤ byteMax bytes)
    : ∃ out, convertGdtfDmxValue ⟨value, bytes, conversion⟩ targetBytes = some out
        ∧ out ≤ byteMax targetBytes
        ∧ out.toNat = convertExact value.toNat bytes.toNat targetBytes.toNat conversion := by
  have hconverts := converts_of_le hbytes htarget hvalue conversion
  obtain ⟨out, hout, hexact⟩ := convertGdtfDmxValue_eq hconverts
  refine ⟨out, hout, ?_, hexact⟩
  have hlt := @convertExact_lt _ _ targetBytes.toNat conversion hconverts.lt
  rw [UInt32.le_iff_toNat_le, toNat_byteMax htarget.1 htarget.2, hexact]
  dsimp only at hlt ⊢
  omega

theorem toNat_convertGdtfDmxValue (hbytes : 1 ≤ bytes ∧ bytes ≤ 4)
    (htarget : 1 ≤ targetBytes ∧ targetBytes ≤ 4) (hvalue : value ≤ byteMax bytes)
    (hout : convertGdtfDmxValue ⟨value, bytes, conversion⟩ targetBytes = some out)
    : out.toNat = convertExact value.toNat bytes.toNat targetBytes.toNat conversion := by
  obtain ⟨found, hfound, _, hexact⟩ :=
    @convertGdtfDmxValue_spec bytes targetBytes value conversion hbytes htarget hvalue
  rw [hout] at hfound
  rw [Option.some.inj hfound]
  exact hexact

theorem convertGdtfDmxValue_mono (hbytes : 1 ≤ bytes ∧ bytes ≤ 4)
    (htarget : 1 ≤ targetBytes ∧ targetBytes ≤ 4) (hle : value ≤ value')
    (hvalue' : value' ≤ byteMax bytes)
    (hout : convertGdtfDmxValue ⟨value, bytes, conversion⟩ targetBytes = some out)
    (hout' : convertGdtfDmxValue ⟨value', bytes, conversion⟩ targetBytes = some out')
    : out ≤ out' ∧ (bytes < targetBytes → value < value' → out < out') := by
  have hvalue : value ≤ byteMax bytes := by
    rw [UInt32.le_iff_toNat_le] at hle hvalue' ⊢
    omega
  have hconverts := converts_of_le hbytes htarget hvalue' conversion
  have hexact := toNat_convertGdtfDmxValue hbytes htarget hvalue hout
  have hexact' := toNat_convertGdtfDmxValue hbytes htarget hvalue' hout'
  rw [UInt32.le_iff_toNat_le] at hle
  constructor
  . rw [UInt32.le_iff_toNat_le, hexact, hexact']
    exact convertExact_le_of_le hconverts.pos hconverts.lt hle
  . intro hwiden hlt
    rw [UInt8.lt_iff_toNat_lt] at hwiden
    rw [UInt32.lt_iff_toNat_lt] at hlt
    rw [UInt32.lt_iff_toNat_lt, hexact, hexact']
    exact convertExact_lt_of_lt hconverts.pos hconverts.lt hlt (Nat.le_of_lt hwiden)

theorem convertGdtfDmxValue_back (hbytes : 1 ≤ bytes ∧ bytes ≤ 4)
    (htarget : 1 ≤ targetBytes ∧ targetBytes ≤ 4) (hvalue : value ≤ byteMax bytes)
    (hwiden : bytes ≤ targetBytes) (back : DmxValueConversion)
    : (convertGdtfDmxValue ⟨value, bytes, conversion⟩ targetBytes).bind (fun out =>
        convertGdtfDmxValue ⟨out, targetBytes, back⟩ bytes) = some value := by
  obtain ⟨out, hout, hmax, hexact⟩ :=
    @convertGdtfDmxValue_spec bytes targetBytes value conversion hbytes htarget hvalue
  obtain ⟨found, hfound, _, hback⟩ :=
    @convertGdtfDmxValue_spec targetBytes bytes out back htarget hbytes hmax
  have hconverts := converts_of_le hbytes htarget hvalue conversion
  rw [UInt8.le_iff_toNat_le] at hwiden
  rw [hout, Option.bind_some, hfound]
  apply congrArg some
  apply UInt32.toNat_inj.mp
  rw [hback, hexact]
  have hdiv := @convertExact_div _ _ _ conversion hconverts.pos hconverts.lt hwiden
  rw [convertExact, if_pos hwiden]
  exact hdiv

/--
The conversion between all counts of bytes: it stays in the range of the target, is monotone, is
undone by the way back, mirrors the ends onto the ends, and is what it is without a width, so that
nothing of it overflows.
-/
theorem convertGdtfDmxValue_laws (hbytes : 1 ≤ bytes ∧ bytes ≤ 4)
    (htarget : 1 ≤ targetBytes ∧ targetBytes ≤ 4) (conversion : DmxValueConversion)
    : (∀ value ≤ byteMax bytes, ∃ out,
          convertGdtfDmxValue ⟨value, bytes, conversion⟩ targetBytes = some out
            ∧ out ≤ byteMax targetBytes
            ∧ out.toNat = convertExact value.toNat bytes.toNat targetBytes.toNat conversion)
        ∧ (∀ value value' out out', value ≤ value' → value' ≤ byteMax bytes
          → convertGdtfDmxValue ⟨value, bytes, conversion⟩ targetBytes = some out
          → convertGdtfDmxValue ⟨value', bytes, conversion⟩ targetBytes = some out'
          → out ≤ out' ∧ (bytes < targetBytes → value < value' → out < out'))
        ∧ (bytes ≤ targetBytes → ∀ value ≤ byteMax bytes, ∀ back,
          (convertGdtfDmxValue ⟨value, bytes, conversion⟩ targetBytes).bind (fun out =>
            convertGdtfDmxValue ⟨out, targetBytes, back⟩ bytes) = some value)
        ∧ (conversion = .mirror →
          convertGdtfDmxValue ⟨0, bytes, conversion⟩ targetBytes = some 0
            ∧ convertGdtfDmxValue ⟨byteMax bytes, bytes, conversion⟩ targetBytes
              = some (byteMax targetBytes)) := by
  refine ⟨?_, ?_, ?_, ?_⟩
  . intro value hvalue
    exact convertGdtfDmxValue_spec hbytes htarget hvalue
  . intro value value' out out' hle hvalue' hout hout'
    exact convertGdtfDmxValue_mono hbytes htarget hle hvalue' hout hout'
  . intro hwiden value hvalue back
    exact convertGdtfDmxValue_back hbytes htarget hvalue hwiden back
  . intro hmirror
    subst hmirror
    have hzero : (0 : UInt32) ≤ byteMax bytes := by
      rw [UInt32.le_iff_toNat_le]
      apply Nat.zero_le
    have hmax : byteMax bytes ≤ byteMax bytes := by
      rw [UInt32.le_iff_toNat_le]
    have hpos := (converts_of_le hbytes htarget hzero .mirror).pos
    obtain ⟨low, hlow, _, hlowExact⟩ :=
      @convertGdtfDmxValue_spec bytes targetBytes 0 .mirror hbytes htarget hzero
    obtain ⟨high, hhigh, _, hhighExact⟩ :=
      @convertGdtfDmxValue_spec bytes targetBytes _ .mirror hbytes htarget hmax
    rw [hlow, hhigh]
    constructor
    . apply congrArg some
      apply UInt32.toNat_inj.mp
      rw [hlowExact]
      exact convertExact_zero
    . apply congrArg some
      apply UInt32.toNat_inj.mp
      rw [hhighExact, toNat_byteMax hbytes.1 hbytes.2, toNat_byteMax htarget.1 htarget.2]
      exact convertExact_max hpos

end Laws

theorem convertGdtfDmxValue_laws_widening
    : (convertGdtfDmxValue ⟨0x1234, 2, .mirror⟩ 3).bind (fun out =>
          convertGdtfDmxValue ⟨out, 3, .shift⟩ 2) = some 0x1234
        ∧ convertGdtfDmxValue ⟨0x1234, 2, .mirror⟩ 3 = some 0x123412 :=
  ⟨(@convertGdtfDmxValue_laws 2 3 (by decide) (by decide) .mirror).2.2.1 (by decide) 0x1234
    (by decide) .shift, by decide⟩

end Peraviz.Gdtf
