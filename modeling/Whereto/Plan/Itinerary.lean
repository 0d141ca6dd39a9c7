import Whereto.Json.Decode
import Whereto.Json.Value

/-!
Answers to plan requests: travel plans with the places to visit and when.
-/

namespace Whereto

open Json.Decoder (string bool optional list uint16 uint32)
open Json.RecordDecoder (field fieldOr)

/-- A place with the hours of a visit. -/
structure Visit where
  id : String
  placeName : String
  category : String
  startTime : UInt32
  endTime : UInt32
  address : String
  url : String
  iconClass : String
  deriving DecidableEq, Repr

namespace Visit

def record : Json.RecordDecoder Visit :=
  Visit.mk <$> field ["id"] string <*> field ["place_name"] string
    <*> fieldOr ["category"] string "" <*> field ["start_time"] uint32
    <*> field ["end_time"] uint32 <*> fieldOr ["address"] string ""
    <*> fieldOr ["url"] string "" <*> fieldOr ["place_icon_css_class"] string ""

def decoder : Json.Decoder Visit := record.decoder

def toValue (v : Visit) : Json.Value :=
  .object [("id", .string v.id), ("place_name", .string v.placeName),
    ("category", .string v.category), ("start_time", .int v.startTime.toNat),
    ("end_time", .int v.endTime.toNat), ("address", .string v.address), ("url", .string v.url),
    ("place_icon_css_class", .string v.iconClass)]

end Visit

structure TravelPlan where
  id : String
  places : List Visit
  saved : Bool
  planningSpec : String
  deriving DecidableEq, Repr

namespace TravelPlan

def record : Json.RecordDecoder TravelPlan :=
  TravelPlan.mk <$> field ["id"] string <*> fieldOr ["places"] (list Visit.decoder) []
    <*> fieldOr ["saved"] bool false <*> fieldOr ["planning_spec"] string ""

def decoder : Json.Decoder TravelPlan := record.decoder

def toValue (p : TravelPlan) : Json.Value :=
  .object [("id", .string p.id), ("places", .array (p.places.map Visit.toValue)),
    ("saved", .bool p.saved), ("planning_spec", .string p.planningSpec)]

end TravelPlan

/-- The answer to a plan request. -/
structure PlanAnswer where
  destination : String
  plans : List TravelPlan
  detailUrls : List String
  error : Option String
  status : UInt16
  deriving DecidableEq, Repr

namespace PlanAnswer

def record : Json.RecordDecoder PlanAnswer :=
  PlanAnswer.mk <$> fieldOr ["travel_destination"] string ""
    <*> fieldOr ["travel_plans"] (list TravelPlan.decoder) []
    <*> fieldOr ["trip_details_url"] (list string) []
    <*> fieldOr ["error"] (optional string) none <*> fieldOr ["status_code"] uint16 0

def decoder : Json.Decoder PlanAnswer := record.decoder

def toValue (a : PlanAnswer) : Json.Value :=
  .object [("travel_destination", .string a.destination),
    ("travel_plans", .array (a.plans.map TravelPlan.toValue)),
    ("trip_details_url", .strings a.detailUrls), ("error", .text? a.error),
    ("status_code", .int a.status.toNat)]

end PlanAnswer

end Whereto
