import Whereto.Place.Destination
import Whereto.Plan.Date

/-!
Requests for travel plans, and the query they are sent as.
-/

namespace Whereto

/-- How expensive the places of a plan may be. -/
inductive PriceLevel where
  | free
  | inexpensive
  | moderate
  | expensive
  | veryExpensive
  | surpriseMe
  deriving DecidableEq, Repr

namespace PriceLevel

def default : PriceLevel := moderate

def all : List PriceLevel := [free, inexpensive, moderate, expensive, veryExpensive, surpriseMe]

/-- The levels that a level stands for, as they are sent. -/
def param : PriceLevel → String
  | free => "0"
  | inexpensive => "1"
  | moderate => "2"
  | expensive => "3"
  | veryExpensive => "4"
  | surpriseMe => "0,1,2,3,4"

/-- The level with a parameter; white space around it does not count. -/
def ofParam? (text : String) : Option PriceLevel :=
  all.find? fun level => level.param = Text.trim text

end PriceLevel

structure PlanRequest where
  destination : Destination
  date : Date
  price : PriceLevel
  nearby : Bool
  deriving DecidableEq

namespace PlanRequest

def flag (b : Bool) : String := if b then "true" else "false"

/-- The parameters of the request, in the order they are sent. -/
def queryPairs (r : PlanRequest) : List (String × String) :=
  [("location", r.destination.location), ("date", r.date.text), ("price", r.price.param),
    ("nearby", flag r.nearby), ("precise", flag r.destination.precise), ("json_only", "true")]

end PlanRequest

end Whereto
