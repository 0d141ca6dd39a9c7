import Whereto.Decimal.Nearest
import Whereto.Decimal.Read
import Whereto.Json.Doc

/-!
The value of a written number. An integer that fits sixty-four bits is exact. Any other number is
a double: its leading digits are collected as long as they fit sixty-four bits, and the result is
scaled by one table entry after the other, so it may differ from the nearest double in the last
place.
-/

namespace Whereto.Json

open Decimal (digitValue digitsValue)

inductive Number where
  | natural (n : Nat)
  | negative (n : Nat)
  | double (x : Float)

def wordLimit : Nat := Nat.pow 2 64

/-- Appends digits to a significand until one no longer fits, which starts the rest. -/
def collect (s : Nat) : List Char → Nat × List Char
  | [] => (s, [])
  | c :: cs =>
    if wordLimit ≤ s * 10 + digitValue c then (s, c :: cs) else collect (s * 10 + digitValue c) cs

/-- The double nearest to a power of ten. -/
def powerOfTen (k : Nat) : Float := Decimal.nearest 1 k

/-- A double scaled by a power of ten; a result beyond the finite range is malformed. -/
def scale (x : Float) (e : Int) : Except Fault Float :=
  if e.natAbs ≤ 308 then
    if 0 ≤ e then
      let y := x * powerOfTen e.natAbs
      if y.isInf then .error .malformed else .ok y
    else .ok (x / powerOfTen e.natAbs)
  else if x == 0.0 then .ok x
  else if 0 ≤ e then .error .malformed
  else scale (x / powerOfTen 308) (e + 308)
termination_by e.natAbs
decreasing_by omega

def signed (negative : Bool) (x : Float) : Float := if negative then -x else x

/-- The largest exponent that is counted. -/
def exponentLimit : Nat := Nat.pow 2 31 - 1

/-- A significand with the exponent that its digits gave it and the one that was written. -/
def scaledBy (s : Nat) (shift : Int) : Option (Bool × List Char) → Except Fault Float
  | none => scale s.toUInt64.toFloat shift
  | some (negative, ds) =>
    let e := digitsValue ds
    if exponentLimit < e then
      if s = 0 ∨ negative then .ok 0.0 else .error .malformed
    else
      let total := if negative then shift - e else shift + e
      scale s.toUInt64.toFloat (max (-(exponentLimit + 1)) (min exponentLimit total))

/-- The value of a complete number. -/
def Numeral.amount (n : Numeral) : Except Fault Number :=
  let (s, rest) := collect 0 n.whole
  match n.fraction, n.exponent, rest with
  | none, none, [] =>
    if !n.negative then .ok (.natural s)
    else if 0 < s ∧ s ≤ Nat.pow 2 63 then .ok (.negative s)
    else .ok (.double (-s.toUInt64.toFloat))
  | fraction, exponent, _ =>
    let ds := fraction.getD []
    let (t, unused) := collect s ds
    let shift : Int := (rest.length : Int) - (ds.length - unused.length : Nat)
    (scaledBy t shift exponent).map fun x => .double (signed n.negative x)

def Numeral.read (n : Numeral) : Except Fault Number :=
  match n.cut with
  | some f => .error f
  | none => n.amount

def Number.toFloat : Number → Float
  | .natural n => n.toUInt64.toFloat
  | .negative n => -n.toUInt64.toFloat
  | .double x => x

end Whereto.Json
