import Whereto.Json.Decode
import Whereto.Json.Value
import Whereto.Text.Blank
import Whereto.Text.Pieces

/-!
Names of cities. A city is named by its city, region and country; an address given as a list of
components is shortened to the first two and the last.
-/

namespace Whereto

/-- The first two and the last of the parts, or all of them if there are no more than three. -/
def keyParts : List String → List String
  | first :: second :: third :: rest => [first, second, (third :: rest).getLastD third]
  | parts => parts

/-- The name of the place whose address has these components. Blank components do not count. -/
def componentsText (components : List String) : String :=
  Text.joined (keyParts ((components.map Text.trim).filter (!·.isEmpty)))

/-- A city under its canonical name. -/
structure CityToken where
  city : String
  region : Option String
  country : String
  deriving DecidableEq, Repr

namespace CityToken

open Json.Decoder (string)
open Json.RecordDecoder (field field?)

/-- The token of a city; a blank region is left out. -/
def of (city : String) (region : Option String) (country : String) : CityToken :=
  ⟨city, Text.nonBlank? region, country⟩

def parts (t : CityToken) : List String := t.city :: (t.region.toList ++ [t.country])

def text (t : CityToken) : String := Text.joined t.parts

def record : Json.RecordDecoder CityToken :=
  CityToken.mk <$> field ["city"] string <*> field? ["region"] string
    <*> field ["country"] string

def decoder : Json.Decoder CityToken := record.decoder

def toValue (t : CityToken) : Json.Value :=
  .object [("city", .string t.city), ("region", .text? t.region), ("country", .string t.country)]

end CityToken

/-- An entry of the city directory. -/
structure CityRecord where
  city : String
  region : Option String
  country : String
  deriving DecidableEq, Repr

namespace CityRecord

open Json.Decoder (string optional)
open Json.RecordDecoder (field fieldOr)

/-- The region is sent under two names; a region that is not blank wins over the area. -/
def merge (city : String) (region area : Option String) (country : String) : CityRecord :=
  ⟨city, (Text.nonBlank? region).or area, country⟩

def record : Json.RecordDecoder CityRecord :=
  merge <$> field ["city"] string <*> fieldOr ["region"] (optional string) none
    <*> fieldOr ["admin_area_level_one"] (optional string) none <*> field ["country"] string

def decoder : Json.Decoder CityRecord := record.decoder

def toValue (r : CityRecord) : Json.Value :=
  .object [("city", .string r.city), ("region", .text? r.region), ("country", .string r.country)]

def token (r : CityRecord) : CityToken := CityToken.of r.city r.region r.country

end CityRecord

end Whereto
