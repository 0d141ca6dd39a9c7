import Whereto.Decimal.Shortest

/-!
Doubles as text. The digits are the shortest that read back; a style says how they are laid out.
-/

namespace Whereto.Decimal

/-- How the digits of a double are laid out. -/
structure Style where
  /-- Which of two equally near shortest decimals is written. -/
  tie : Tie
  /-- Whether an integer keeps `.0`. -/
  keepPoint : Bool
  /-- The exponents of the leading digit that are written without an exponent part; every one of
  them if there is no bound. -/
  positional : Option (Int × Int)

/-- Sign, significand and power of two of a finite double. -/
structure Parts where
  negative : Bool
  significand : Nat
  exponent : Int

def Parts.ofFloat (x : Float) : Parts :=
  let bits := x.toBits.toNat
  let biased : Nat := bits / Nat.pow 2 52 % Nat.pow 2 11
  let fraction := bits % Nat.pow 2 52
  if biased = 0 then ⟨Nat.pow 2 63 ≤ bits, fraction, -1074⟩
  else ⟨Nat.pow 2 63 ≤ bits, fraction + Nat.pow 2 52, (biased : Int) - 1075⟩

def isNegative (x : Float) : Bool := Nat.pow 2 63 ≤ x.toBits.toNat

def digitChars (n : Nat) : List Char := Nat.toDigits 10 n

def zeros (n : Nat) : List Char := List.replicate n '0'

/-- Digits with the point in its place. -/
def positionalText (keepPoint : Bool) (d : Digits) : List Char :=
  let ds := digitChars d.digits
  let point : Int := ds.length + d.exponent
  if 0 ≤ d.exponent then
    ds ++ zeros d.exponent.toNat ++ (if keepPoint then ['.', '0'] else [])
  else if 0 < point then ds.take point.toNat ++ '.' :: ds.drop point.toNat
  else '0' :: '.' :: zeros (-point).toNat ++ ds

/-- One digit before the point, then the power of ten. -/
def exponentText (d : Digits) : List Char :=
  let ds := digitChars d.digits
  let power : Int := ds.length + d.exponent - 1
  let head := match ds with
    | [c] => [c]
    | c :: cs => c :: '.' :: cs
    | [] => []
  let sign := if power < 0 then ['-'] else []
  head ++ 'e' :: sign ++ digitChars power.natAbs

/-- The text of a positive finite decimal. -/
def Style.lay (s : Style) (d : Digits) : List Char :=
  let power : Int := (digitChars d.digits).length + d.exponent - 1
  match s.positional with
  | none => positionalText s.keepPoint d
  | some (low, high) =>
    if low ≤ power ∧ power < high then positionalText s.keepPoint d else exponentText d

def Style.render (s : Style) (x : Float) : String :=
  if x.isNaN then "NaN"
  else
    let sign := if isNegative x then "-" else ""
    if x.isInf then sign ++ "inf"
    else
      let p := Parts.ofFloat x
      if p.significand = 0 then sign ++ (if s.keepPoint then "0.0" else "0")
      else sign ++ String.ofList (s.lay (shortest s.tie p.significand p.exponent))

end Whereto.Decimal
