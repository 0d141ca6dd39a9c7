/-!
Dates of the Gregorian calendar, extended to years before it and before the year one.
-/

namespace Whereto

def isLeapYear (y : Int) : Bool := y % 4 == 0 && (y % 100 != 0 || y % 400 == 0)

/-- The number of days in a month; there are none in a month that does not exist. -/
def monthDays (y : Int) (m : Nat) : Nat :=
  match m with
  | 1 => 31
  | 2 => if isLeapYear y then 29 else 28
  | 3 => 31
  | 4 => 30
  | 5 => 31
  | 6 => 30
  | 7 => 31
  | 8 => 31
  | 9 => 30
  | 10 => 31
  | 11 => 30
  | 12 => 31
  | _ => 0

def firstYear : Int := -262143
def lastYear : Int := 262142

/-- A date that the calendar has. -/
structure Date where
  year : Int
  month : Nat
  day : Nat
  year_mem : firstYear ≤ year ∧ year ≤ lastYear
  day_mem : 1 ≤ day ∧ day ≤ monthDays year month
  deriving DecidableEq

namespace Date

def of? (year : Int) (month day : Nat) : Option Date :=
  if h : firstYear ≤ year ∧ year ≤ lastYear then
    if h' : 1 ≤ day ∧ day ≤ monthDays year month then some ⟨year, month, day, h, h'⟩ else none
  else none

/-- The digits of a number, with zeros before them up to a width. -/
def padded (width n : Nat) : List Char :=
  let ds := Nat.toDigits 10 n
  List.replicate (width - ds.length) '0' ++ ds

/-- A year has at least four digits; outside the years 0 to 9999 it has a sign. -/
def yearChars (y : Int) : List Char :=
  if y < 0 then '-' :: padded 4 y.natAbs
  else if 9999 < y then '+' :: padded 4 y.natAbs
  else padded 4 y.natAbs

def chars (d : Date) : List Char :=
  yearChars d.year ++ '-' :: padded 2 d.month ++ '-' :: padded 2 d.day

/-- Year, month and day, joined by hyphens. -/
def text (d : Date) : String := String.ofList d.chars

end Date

end Whereto
