/-!
The double nearest to an exact fraction. Of two doubles at the same distance the one with the
even significand is taken.
-/

namespace Whereto.Decimal

/-- A quotient rounded to the nearest integer, a half to the even neighbour. -/
def roundDiv (n d : Nat) : Nat :=
  let t := n / d
  let r := n % d
  if 2 * r < d then t else if d < 2 * r then t + 1 else t + t % 2

/-- A fraction divided by `2 ^ q`, as numerator and denominator. -/
def scaled (n d : Nat) (q : Int) : Nat × Nat :=
  (n * Nat.pow 2 (-q).toNat, d * Nat.pow 2 q.toNat)

/-- The unit in the last place of a double near `n / d`, as a power of two. -/
def unitExponent (n d : Nat) : Int :=
  let q := max ((n.log2 : Int) - d.log2 - 53) (-1074)
  let s := scaled n d q
  if s.1 / s.2 < Nat.pow 2 53 then q else q + 1

/-- The bit pattern of positive infinity, one above the largest finite double. -/
def infinityBits : Nat := 0x7FF0000000000000

/-- The bits of the double nearest to `n / d`. -/
def nearestBits (n d : Nat) : Nat :=
  let q := unitExponent n d
  let s := scaled n d q
  min infinityBits (roundDiv s.1 s.2 + (q + 1074).toNat * Nat.pow 2 52)

/-- The double nearest to `m * 10 ^ e`. Exponents far outside the range of doubles are answered
without building the power. -/
def nearest (m : Nat) (e : Int) : Float :=
  let digits : Int := (Nat.toDigits 10 m).length
  if m = 0 ∨ digits + e < -400 then 0.0
  else if 400 < digits + e then Float.ofBits infinityBits.toUInt64
  else Float.ofBits (nearestBits (m * Nat.pow 10 e.toNat) (Nat.pow 10 (-e).toNat)).toUInt64

end Whereto.Decimal
