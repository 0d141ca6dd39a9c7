import Whereto.Plan.Date
import Whereto.Telemetry.Recorder

/-!
Moments from the clock, which counts nanoseconds since the beginning of 1970.
-/

namespace Whereto

/-- Year, month and day of a day counted from the first of January 1970. Years are counted from
March, so that the leap day is the last of its year. -/
def civilDay (days : Nat) : Nat × Nat × Nat :=
  let z := days + 719468
  let era := z / 146097
  let dayOfEra := z % 146097
  let yearOfEra :=
    (dayOfEra - dayOfEra / 1460 + dayOfEra / 36524 - dayOfEra / 146096) / 365
  let dayOfYear := dayOfEra - (365 * yearOfEra + yearOfEra / 4 - yearOfEra / 100)
  let part := (5 * dayOfYear + 2) / 153
  let month := if part < 10 then part + 3 else part - 9
  let year := yearOfEra + era * 400 + (if month ≤ 2 then 1 else 0)
  (year, month, dayOfYear - (153 * part + 2) / 5 + 1)

/-- The part of a second in groups of three digits, as many as it needs. -/
def fractionText (nanos : Nat) : List Char :=
  if nanos = 0 then []
  else if nanos % 1000000 = 0 then '.' :: Date.padded 3 (nanos / 1000000)
  else if nanos % 1000 = 0 then '.' :: Date.padded 6 (nanos / 1000)
  else '.' :: Date.padded 9 nanos

/-- The moment at which the clock stands. -/
def Moment.ofClock (nanoseconds : Nat) : Moment :=
  let seconds := nanoseconds / 1000000000
  let nanos := nanoseconds % 1000000000
  let (year, month, day) := civilDay (seconds / 86400)
  let two := Date.padded 2
  let hour := two (seconds / 3600 % 24)
  let minute := two (seconds / 60 % 60)
  let second := two (seconds % 60)
  let date := Date.padded 4 year ++ '-' :: two month ++ '-' :: two day
  ⟨String.ofList (date ++ 'T' :: hour ++ ':' :: minute ++ ':' :: second ++ fractionText nanos ++
      ['Z']),
    String.ofList (Date.padded 4 year ++ two month ++ two day ++ hour ++ minute ++ second ++
      Date.padded 3 (nanos / 1000000))⟩

end Whereto
