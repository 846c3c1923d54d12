import Mathlib.Data.Nat.Bitwise
import Mathlib.Tactic.Ring

/-!
This module contains numbers as bytes, the most significant byte first, and the shifts and
disjunctions that write and read such bytes at the word types.
-/

namespace BigEndian

def write : Nat → Nat → List UInt8
  | 0, _ => []
  | width + 1, n => UInt8.ofNat (n / 256 ^ width) :: write width n

def readFrom (value : Nat) (bytes : List UInt8) : Nat :=
  bytes.foldl (fun value byte => value * 256 + byte.toNat) value

def read (bytes : List UInt8) : Nat :=
  readFrom 0 bytes

@[simp]
theorem length_write (width n : Nat) : (write width n).length = width := by
  induction width with
  | zero => rfl
  | succ width ih => rw [write, List.length_cons, ih]

theorem readFrom_write (width n value : Nat)
    : readFrom value (write width n) = value * 256 ^ width + n % 256 ^ width := by
  induction width generalizing value with
  | zero => simp [write, readFrom, Nat.mod_one]
  | succ width ih =>
    have hstep : readFrom value (write (width + 1) n)
        = readFrom (value * 256 + n / 256 ^ width % 256) (write width n) := by
      simp [write, readFrom]
    have hdigit : n % 256 ^ (width + 1)
        = n % 256 ^ width + 256 ^ width * (n / 256 ^ width % 256) := by
      rw [Nat.pow_succ, Nat.mod_mul]
    rw [hstep, ih, hdigit, Nat.pow_succ]
    ring

theorem read_write {width n : Nat} (h : n < 256 ^ width) : read (write width n) = n := by
  rw [read, readFrom_write, Nat.mod_eq_of_lt h]
  omega

theorem readFrom_lt {bytes : List UInt8} {value width : Nat} (h : value < 256 ^ width)
    : readFrom value bytes < 256 ^ (width + bytes.length) := by
  induction bytes generalizing value width with
  | nil => exact h
  | cons byte bytes ih =>
    have hbyte := byte.toNat_lt
    have hnext : value * 256 + byte.toNat < 256 ^ (width + 1) := by
      rw [Nat.pow_succ]
      omega
    have := ih hnext
    rw [List.length_cons]
    rwa [Nat.add_right_comm] at this

theorem read_lt (bytes : List UInt8) : read bytes < 256 ^ bytes.length := by
  have := @readFrom_lt bytes 0 0 (by omega)
  rwa [Nat.zero_add] at this

theorem or_eq_add {a b i : Nat} (h : b < 2 ^ i) : a * 2 ^ i ||| b = a * 2 ^ i + b := by
  rw [← Nat.shiftLeft_eq, Nat.shiftLeft_add_eq_or_of_lt h]

/-! ### Words -/

theorem and_255 (n : Nat) : n &&& 255 = n % 256 :=
  Nat.and_two_pow_sub_one_eq_mod n 8

theorem toUInt8_of_uint16 (value shift : UInt16) (h : shift.toNat < 16)
    : (value >>> shift &&& 0xff).toUInt8 = UInt8.ofNat (value.toNat / 2 ^ shift.toNat) := by
  apply UInt8.toNat_inj.mp
  have hlow : (0xff : UInt16).toNat = 255 := rfl
  rw [UInt16.toNat_toUInt8, UInt16.toNat_and, UInt16.toNat_shiftRight, hlow, and_255,
    Nat.mod_eq_of_lt h, Nat.shiftRight_eq_div_pow, UInt8.toNat_ofNat', Nat.mod_mod]

theorem toUInt8_of_uint32 (value shift : UInt32) (h : shift.toNat < 32)
    : (value >>> shift &&& 0xff).toUInt8 = UInt8.ofNat (value.toNat / 2 ^ shift.toNat) := by
  apply UInt8.toNat_inj.mp
  have hlow : (0xff : UInt32).toNat = 255 := rfl
  rw [UInt32.toNat_toUInt8, UInt32.toNat_and, UInt32.toNat_shiftRight, hlow, and_255,
    Nat.mod_eq_of_lt h, Nat.shiftRight_eq_div_pow, UInt8.toNat_ofNat', Nat.mod_mod]

theorem toUInt8_of_uint64 (value shift : UInt64) (h : shift.toNat < 64)
    : (value >>> shift &&& 0xff).toUInt8 = UInt8.ofNat (value.toNat / 2 ^ shift.toNat) := by
  apply UInt8.toNat_inj.mp
  have hlow : (0xff : UInt64).toNat = 255 := rfl
  rw [UInt64.toNat_toUInt8, UInt64.toNat_and, UInt64.toNat_shiftRight, hlow, and_255,
    Nat.mod_eq_of_lt h, Nat.shiftRight_eq_div_pow, UInt8.toNat_ofNat', Nat.mod_mod]

theorem toNat_shiftLeft_toUInt32 (byte : UInt8) (shift : UInt32) (h : shift.toNat ≤ 24)
    : (byte.toUInt32 <<< shift).toNat = byte.toNat * 2 ^ shift.toNat := by
  have hbyte := byte.toNat_lt
  have hpow : 2 ^ shift.toNat ≤ 2 ^ 24 := Nat.pow_le_pow_right (by omega) h
  have hmul : byte.toNat * 2 ^ shift.toNat ≤ 255 * 2 ^ 24 := Nat.mul_le_mul (by omega) hpow
  have hshift : shift.toNat % 32 = shift.toNat := Nat.mod_eq_of_lt (by omega)
  rw [UInt32.toNat_shiftLeft, UInt8.toNat_toUInt32, hshift, Nat.shiftLeft_eq]
  apply Nat.mod_eq_of_lt
  omega

theorem or_toUInt32 (a b c d : UInt8)
    : (a.toUInt32 <<< 24) ||| (b.toUInt32 <<< 16) ||| (c.toUInt32 <<< 8) ||| d.toUInt32
        = UInt32.ofNat (read [a, b, c, d]) := by
  have ha := a.toNat_lt
  have hb := b.toNat_lt
  have hc := c.toNat_lt
  have hd := d.toNat_lt
  apply UInt32.toNat_inj.mp
  rw [UInt32.toNat_or, UInt32.toNat_or, UInt32.toNat_or,
    toNat_shiftLeft_toUInt32 a 24 (by decide), toNat_shiftLeft_toUInt32 b 16 (by decide),
    toNat_shiftLeft_toUInt32 c 8 (by decide), UInt8.toNat_toUInt32, UInt32.toNat_ofNat']
  have h24 : (24 : UInt32).toNat = 24 := rfl
  have h16 : (16 : UInt32).toNat = 16 := rfl
  have h8 : (8 : UInt32).toNat = 8 := rfl
  rw [h24, h16, h8]
  -- each disjunction is with a number below the shift, so it adds
  have hab : a.toNat * 2 ^ 24 ||| b.toNat * 2 ^ 16 = (a.toNat * 256 + b.toNat) * 2 ^ 16 := by
    rw [or_eq_add (by omega)]
    ring
  have habc : (a.toNat * 256 + b.toNat) * 2 ^ 16 ||| c.toNat * 2 ^ 8
      = ((a.toNat * 256 + b.toNat) * 256 + c.toNat) * 2 ^ 8 := by
    rw [or_eq_add (by omega)]
    ring
  rw [hab, habc, or_eq_add (by omega)]
  simp only [read, readFrom, List.foldl_cons, List.foldl_nil]
  omega

theorem shiftIn (value : Nat) (byte : UInt8)
    : (UInt64.ofNat value <<< 8) ||| byte.toUInt64 = UInt64.ofNat (value * 256 + byte.toNat) := by
  have hbyte := byte.toNat_lt
  have hmul : value % 2 ^ 64 * 2 ^ 8 % 2 ^ 64 = value % 2 ^ 56 * 2 ^ 8 := by omega
  have h8 : (8 : UInt64).toNat % 64 = 8 := rfl
  apply UInt64.toNat_inj.mp
  rw [UInt64.toNat_or, UInt64.toNat_shiftLeft, h8, UInt8.toNat_toUInt64, UInt64.toNat_ofNat',
    UInt64.toNat_ofNat', Nat.shiftLeft_eq, hmul, or_eq_add hbyte]
  omega

end BigEndian
