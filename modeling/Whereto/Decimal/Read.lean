import Whereto.Decimal.Nearest

/-!
Decimal text as a double: an optional sign, then digits with an optional point and an optional
exponent, or one of the words for infinity and not-a-number in any case.
-/

namespace Whereto.Decimal

def isDigit (c : Char) : Bool := '0' ≤ c && c ≤ '9'

def digitValue (c : Char) : Nat := c.toNat - '0'.toNat

/-- The number written by decimal digits, highest first. -/
def digitsValue (ds : List Char) : Nat := ds.foldl (fun n c => 10 * n + digitValue c) 0

/-- A sign and what follows it; without a sign the number is not negative. -/
def readSign : List Char → Bool × List Char
  | '-' :: cs => (true, cs)
  | '+' :: cs => (false, cs)
  | cs => (false, cs)

/-- The exponent part, which has to reach the end of the text. -/
def readExponent? : List Char → Option Int
  | [] => some 0
  | c :: cs =>
    if c = 'e' ∨ c = 'E' then
      let (negative, ds) := readSign cs
      if ds.isEmpty || !ds.all isDigit then none
      else some (if negative then -(digitsValue ds : Int) else digitsValue ds)
    else none

/-- Digits, a point and an exponent. -/
def readMagnitude? (cs : List Char) : Option Float :=
  let whole := cs.takeWhile isDigit
  let rest := cs.dropWhile isDigit
  let (fraction, tail) := match rest with
    | '.' :: more => (more.takeWhile isDigit, more.dropWhile isDigit)
    | _ => ([], rest)
  if whole.isEmpty && fraction.isEmpty then none
  else
    (readExponent? tail).map fun e =>
      nearest (digitsValue (whole ++ fraction)) (e - fraction.length)

def asciiLower (c : Char) : Char :=
  if 'A' ≤ c ∧ c ≤ 'Z' then Char.ofNat (c.toNat + 32) else c

def readWord? (cs : List Char) : Option Float :=
  let word := String.ofList (cs.map asciiLower)
  if word = "inf" ∨ word = "infinity" then some (Float.ofBits infinityBits.toUInt64)
  else if word = "nan" then some (0.0 / 0.0)
  else none

def read? (s : String) : Option Float :=
  let (negative, cs) := readSign s.toList
  let magnitude := (readMagnitude? cs).orElse fun _ => readWord? cs
  magnitude.map fun x => if negative then -x else x

end Whereto.Decimal
