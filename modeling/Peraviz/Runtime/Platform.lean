import Mathlib.Algebra.Order.Group.Unbundled.Abs
import Mathlib.Data.Rat.Floor
import Peraviz.Runtime.Codec.Impl

namespace Peraviz.Runtime

/--
What the runtime takes from its platform: the narrowing to `float`, the functions of the C library,
the representation of a `double`, and the order in which a hash map of integer keys is traversed
when the keys were inserted in the given order.
-/
structure Platform extends FloatFormat where
  pow : ℚ → ℚ → ℚ
  log : ℚ → ℚ
  doubleBits : ℚ → Int
  ofDoubleBits : Int → ℚ
  hashOrder : List Int → List Int
  hashOrder_perm : ∀ keys, (hashOrder keys).Perm keys

/-- Exact scalars, and hash maps in the order of insertion. -/
def exactPlatform : Platform where
  toFloat := id
  toFloat_toFloat := Eq.refl
  pow := fun x _ => x
  log := id
  doubleBits := Rat.num
  ofDoubleBits bits := bits
  hashOrder := id
  hashOrder_perm := List.Perm.refl

def clamp (value low high : ℚ) : ℚ :=
  if value < low then low else if high < value then high else value

/-- `std::fmod`, the remainder has the sign of the dividend. -/
def fmod (x y : ℚ) : ℚ :=
  let quotient := x / y
  x - y * (if 0 ≤ quotient then quotient.floor else quotient.ceil)

def nearlyEqual (a b epsilon : ℚ) : Bool := |a - b| ≤ epsilon

def kDefaultEpsilon : ℚ := 1 / 10000
def kAngleEpsilon : ℚ := 1 / 100

@[simp]
theorem nearlyEqual_self (a epsilon : ℚ) (h : 0 ≤ epsilon) : nearlyEqual a a epsilon = true := by
  simp [nearlyEqual, h]

end Peraviz.Runtime
