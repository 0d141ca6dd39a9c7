import Whereto.Place.Destination
import Whereto.Place.Suggestion

/-!
The position of the device, as far as it is known. One lookup is made at a time; a lookup that
fails or is given up leaves the position found before it.
-/

namespace Whereto

inductive LocatingFault where
  | unsupported
  | denied
  | unavailable (reason : String)
  | timeout
  deriving DecidableEq, Repr

namespace LocatingFault

def message : LocatingFault → String
  | unsupported => "Geolocation is not supported on this device"
  | denied => "Location permission was denied"
  | unavailable reason => "Location is unavailable: " ++ reason
  | timeout => "Timed out while acquiring location"

end LocatingFault

/-- How a position is asked for. -/
structure PositionOptions where
  timeoutMs : Nat
  highAccuracy : Bool
  deriving DecidableEq, Repr

/-- A position with its address. -/
structure Located where
  position : Coordinates
  address : String

structure Locator where
  latitude : Option Float
  longitude : Option Float
  address : Option String
  loading : Bool
  error : Option LocatingFault
  locating : Bool

namespace Locator

def idle : Locator := ⟨none, none, none, false, none, false⟩

/-- The label of the button that starts a lookup. -/
def label (l : Locator) : String := if l.locating then "Locating..." else "Use My Location"

def begin (l : Locator) : Locator := { l with loading := true, error := none, locating := true }

def found (l : Locator) (x : Located) : Locator :=
  { l with
    latitude := some x.position.latitude
    longitude := some x.position.longitude
    address := some x.address
    loading := false
    error := none
    locating := false }

def fail (l : Locator) (e : LocatingFault) : Locator :=
  { l with loading := false, error := some e, locating := false }

def giveUp (l : Locator) : Locator := { l with loading := false, locating := false }

def position? (l : Locator) : Option Coordinates :=
  match l.latitude, l.longitude with
  | some latitude, some longitude => some ⟨latitude, longitude⟩
  | _, _ => none

/-- The position that is known, with its address or else its coordinates as a text. -/
def located (l : Locator) : Option Located :=
  l.position?.map fun x => ⟨x, l.address.getD x.text⟩

def suggestion? (l : Locator) : Option Suggestion :=
  l.located.map fun x => ⟨x.address, x.position.text, .geolocation⟩

def destination? (l : Locator) : Option Destination := l.position?.map .ofCoordinates

end Locator

end Whereto
