/-!
The fewest decimal digits that read back as a given positive double, and of those the nearest to
it. The double is `m * 2 ^ q`; what reads back as it is the interval between the midpoints to its
neighbours, whose ends belong to it exactly when `m` is even.
-/

namespace Whereto.Decimal

/-- Which of two equally near decimals is taken. -/
inductive Tie where
  | up
  | toEven
  deriving DecidableEq

/-- The number `digits * 10 ^ exponent`. -/
structure Digits where
  digits : Nat
  exponent : Int

/-- An exact fraction with the ends of the interval that reads back as it. -/
structure Interval where
  value : Nat
  low : Nat
  high : Nat
  unit : Nat
  closed : Bool

/-- The interval of the double `m * 2 ^ q`. Below a power of two the lower neighbour is nearer. -/
def Interval.ofDouble (m : Nat) (q : Int) : Interval :=
  let down := if m = Nat.pow 2 52 ∧ -1074 < q then 1 else 2
  let scale := Nat.pow 2 (q - 2).toNat
  ⟨4 * m * scale, (4 * m - down) * scale, (4 * m + 2) * scale, Nat.pow 2 (2 - q).toNat,
    m % 2 == 0⟩

/-- The interval divided by `10 ^ e`. -/
def Interval.shift (i : Interval) (e : Int) : Interval :=
  let up := Nat.pow 10 (-e).toNat
  ⟨i.value * up, i.low * up, i.high * up, i.unit * Nat.pow 10 e.toNat, i.closed⟩

def digitCount (n : Nat) : Nat := (Nat.toDigits 10 n).length

/-- The power of ten of the leading digit. -/
def Interval.magnitude (i : Interval) : Int :=
  if i.unit ≤ i.value then digitCount (i.value / i.unit) - 1
  else
    let j := digitCount i.unit - digitCount i.value
    if i.unit ≤ i.value * Nat.pow 10 j then -j else -(j + 1)

/-- Of the two integers around the value, the one in the interval that is nearer. -/
def Interval.point? (i : Interval) (tie : Tie) : Option Nat :=
  let below := i.value / i.unit
  let inLow := if i.closed then i.low ≤ below * i.unit else i.low < below * i.unit
  let inHigh :=
    if i.closed then (below + 1) * i.unit ≤ i.high else (below + 1) * i.unit < i.high
  let r := i.value % i.unit
  if inLow ∧ inHigh then
    if 2 * r < i.unit then some below
    else if i.unit < 2 * r then some (below + 1)
    else match tie with
      | .up => some (below + 1)
      | .toEven => some (below + below % 2)
  else if inLow then some below
  else if inHigh then some (below + 1)
  else none

/-- Trailing zeros moved into the exponent. -/
def Digits.stripped (d : Digits) : Digits :=
  let zeros := ((Nat.toDigits 10 d.digits).reverse.takeWhile (· == '0')).length
  if d.digits = 0 then d else ⟨d.digits / Nat.pow 10 zeros, d.exponent + zeros⟩

/-- The shortest decimal for the positive double `m * 2 ^ q`: seventeen digits always suffice. -/
def shortest (tie : Tie) (m : Nat) (q : Int) : Digits :=
  let i := Interval.ofDouble m q
  let top := i.magnitude
  let found := (List.range 17).findSome? fun (k : Nat) =>
    let e := top - (k : Int)
    ((i.shift e).point? tie).map fun n => (⟨n, e⟩ : Digits)
  (found.getD ⟨m, q⟩).stripped

end Whereto.Decimal
