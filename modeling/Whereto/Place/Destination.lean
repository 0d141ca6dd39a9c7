import Whereto.Place.Position
import Whereto.Text.Letter
import Whereto.Text.Pieces

/-!
Destinations that a plan can be requested for. A typed destination has to look like a city and
its country, with a region between them or without; a position of the device is taken as it is.
-/

namespace Whereto

/-- The characters of a place name. -/
def isNameChar (c : Char) : Bool := c = ' ' || Text.isLetter c

def isName (cs : List Char) : Bool := !cs.isEmpty && cs.all isNameChar

/-- A name after a comma and a space. -/
def isFurtherName : List Char → Bool
  | ' ' :: cs => isName cs
  | _ => false

/-- Whether a text is two or three names, joined by a comma and a space. -/
def isCityText (text : String) : Bool :=
  match Text.cut ',' text.toList with
  | [first, second] => isName first && isFurtherName second
  | [first, second, third] => isName first && isFurtherName second && isFurtherName third
  | _ => false

structure Destination where
  location : String
  precise : Bool
  deriving DecidableEq, Repr

namespace Destination

/-- What is said to someone who typed a destination that cannot be used. -/
def pickFromList : String :=
  "Please select a destination from the dropdown suggestions instead of typing it freely."

def isValid (text : String) (precise : Bool) : Bool := precise || isCityText text

def resolve? (text : String) (precise : Bool) : Option Destination :=
  if isValid text precise then some ⟨text, precise⟩ else none

def ofCoordinates (c : Coordinates) : Destination := ⟨c.text, true⟩

end Destination

end Whereto
