import Whereto.Decimal.Style
import Whereto.Json.Decode
import Whereto.Json.Value
import Whereto.Place.City

/-!
Positions on the globe, and the addresses found for them.
-/

namespace Whereto

/-- Coordinates are written in full, without exponent and without `.0`. -/
def coordinateStyle : Decimal.Style := ⟨.up, false, none⟩

structure Coordinates where
  latitude : Float
  longitude : Float

namespace Coordinates

open Json.Decoder (float)
open Json.RecordDecoder (field)

/-- Longitude and latitude, in this order. -/
def text (c : Coordinates) : String :=
  Text.joined [coordinateStyle.render c.longitude, coordinateStyle.render c.latitude]

def record : Json.RecordDecoder Coordinates :=
  (fun longitude latitude => Coordinates.mk latitude longitude) <$> field ["longitude"] float
    <*> field ["latitude"] float

def decoder : Json.Decoder Coordinates := record.decoder

def toValue (c : Coordinates) : Json.Value :=
  .object [("longitude", .double c.longitude), ("latitude", .double c.latitude)]

end Coordinates

/-- What is known of the address of a position. -/
structure Address where
  city : Option String
  area : Option String
  country : Option String
  deriving DecidableEq, Repr

namespace Address

open Json.Decoder (string optional)
open Json.RecordDecoder (fieldOr)

/-- The region is sent under two names; an area that is not blank wins over the region. -/
def merge (city area region country : Option String) : Address :=
  ⟨city, (Text.nonBlank? area).or region, country⟩

def record : Json.RecordDecoder Address :=
  merge <$> fieldOr ["city"] (optional string) none
    <*> fieldOr ["admin_area_level_one"] (optional string) none
    <*> fieldOr ["region"] (optional string) none <*> fieldOr ["country"] (optional string) none

def decoder : Json.Decoder Address := record.decoder

def toValue (a : Address) : Json.Value :=
  .object [("city", .text? a.city), ("admin_area_level_one", .text? a.area),
    ("country", .text? a.country)]

/-- The text of an address, if it has a city. -/
def text? (a : Address) : Option String :=
  (Text.nonBlank? a.city).map fun city =>
    match Text.nonBlank? a.country with
    | some country => (CityToken.of (Text.trim city) a.area (Text.trim country)).text
    | none => Text.trim city

/-- The address of a position, or its coordinates if nothing better is known. -/
def describe (c : Coordinates) (found : Option Address) : String :=
  (found.bind text?).getD c.text

end Address

end Whereto
