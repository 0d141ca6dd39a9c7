import Whereto.Json.Decode
import Whereto.Json.Value

/-!
The details of one plan. Its fields are sent under names in two spellings.
-/

namespace Whereto

open Json.Decoder (string bool float list pair)
open Json.RecordDecoder (field fieldOr)

structure PlaceDetail where
  id : String
  name : String
  url : String
  address : String
  photoUrl : String
  summary : String
  deriving DecidableEq, Repr

namespace PlaceDetail

def record : Json.RecordDecoder PlaceDetail :=
  PlaceDetail.mk <$> field ["id", "ID"] string <*> field ["name", "Name"] string
    <*> fieldOr ["url", "URL"] string ""
    <*> fieldOr ["formatted_address", "FormattedAddress"] string ""
    <*> fieldOr ["photo_url", "PhotoURL"] string "" <*> fieldOr ["summary", "Summary"] string ""

def decoder : Json.Decoder PlaceDetail := record.decoder

def toValue (p : PlaceDetail) : Json.Value :=
  .object [("id", .string p.id), ("name", .string p.name), ("url", .string p.url),
    ("formatted_address", .string p.address), ("photo_url", .string p.photoUrl),
    ("summary", .string p.summary)]

end PlaceDetail

structure TripDetail where
  planId : String
  latLongs : List (Float × Float)
  categories : List String
  places : List PlaceDetail
  shown : List Bool
  destination : String
  date : String
  score : Float
  scoreOld : Float

namespace TripDetail

def record : Json.RecordDecoder TripDetail :=
  TripDetail.mk <$> field ["original_plan_id", "OriginalPlanID"] string
    <*> fieldOr ["lat_longs", "LatLongs"] (list (pair float)) []
    <*> fieldOr ["place_categories", "PlaceCategories"] (list string) []
    <*> fieldOr ["place_details", "PlaceDetails"] (list PlaceDetail.decoder) []
    <*> fieldOr ["shown_active", "ShownActive"] (list bool) []
    <*> fieldOr ["travel_destination", "TravelDestination"] string ""
    <*> fieldOr ["travel_date", "TravelDate"] string ""
    <*> fieldOr ["score", "Score"] float 0.0 <*> fieldOr ["score_old", "ScoreOld"] float 0.0

def decoder : Json.Decoder TripDetail := record.decoder

def toValue (t : TripDetail) : Json.Value :=
  .object [("original_plan_id", .string t.planId),
    ("lat_longs", .array (t.latLongs.map fun p => .array [.double p.1, .double p.2])),
    ("place_categories", .strings t.categories),
    ("place_details", .array (t.places.map PlaceDetail.toValue)),
    ("shown_active", .array (t.shown.map .bool)), ("travel_destination", .string t.destination),
    ("travel_date", .string t.date), ("score", .double t.score),
    ("score_old", .double t.scoreOld)]

end TripDetail

end Whereto
