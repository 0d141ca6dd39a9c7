import Whereto.Http.Network
import Whereto.Plan.Itinerary
import Whereto.Plan.Request
import Whereto.Plan.Trip
import Whereto.Settings.Basic

/-!
The backend: the city directory, the addresses of positions, and travel plans. Its addresses are
the base URL with segments added.
-/

namespace Whereto

structure Backend where
  base : String

namespace Backend

open Json.RecordDecoder (field?)

variable {m : Type → Type} [Monad m]

def version : String := "0.1.0"

/-- The name under which the backend is asked. -/
def agent : String := "destination-resolver/" ++ version

def withoutSlashes (s : String) : String :=
  String.ofList (s.toList.reverse.dropWhile (· = '/')).reverse

/-- The backend at the base URL of the settings. -/
def of (s : Settings) : Backend := ⟨withoutSlashes s.apiBase⟩

/-- The address of something below the base URL. -/
def endpoint (b : Backend) (segments : List String) : Except ConfigFault Url :=
  match Url.read b.base with
  | .error f => .error (.badBase f)
  | .ok u =>
    match u.extend? segments with
    | some url => .ok url
    | none => .error .opaqueBase

/-- The request for something below the base URL. -/
def request (b : Backend) (segments : List String) (query : List (String × String)) :
    Except ConfigFault Request :=
  (b.endpoint segments).map fun url => ⟨url.withQuery query, some agent⟩

def ask {α : Type} (b : Backend) (net : Network m) (segments : List String)
    (query : List (String × String)) (d : Json.Decoder α) : m (Except Failure α) :=
  match b.request segments query with
  | .error f => return .error (.config f)
  | .ok r => return (← net.fetch r d).mapError .http

/-- Results in their envelope; there may be none. -/
def envelope {α : Type} (d : Json.Decoder α) : Json.Decoder (Option α) :=
  (field? ["results", "Results"] d).decoder

/-- The cities with a name. -/
def cities (b : Backend) (net : Network m) (term : String) :
    m (Except Failure (List CityRecord)) := do
  let found ← b.ask net ["cities"] [("term", term)] (envelope (.list CityRecord.decoder))
  return found.map (·.getD [])

/-- A coordinate in a query. -/
def degreesText (x : Float) : String := Json.numberStyle.render x

/-- The address of a position. -/
def address (b : Backend) (net : Network m) (c : Coordinates) : m (Except Failure Address) := do
  let found ← b.ask net ["reverse-geocoding"]
    [("lat", degreesText c.latitude), ("lng", degreesText c.longitude)]
    (envelope Address.decoder)
  match found with
  | .error e => return .error e
  | .ok (some a) => return .ok a
  | .ok none => return .error (.config .noAddress)

def plans (b : Backend) (net : Network m) (r : PlanRequest) : m (Except Failure PlanAnswer) :=
  b.ask net ["plans"] r.queryPairs PlanAnswer.decoder

/-- The path of the details of a plan, below the base URL. -/
def detailPath (id : String) : List String := ["plans", id]

def detailQuery (date : Option String) : List (String × String) :=
  ("json_only", "true") :: (date.map fun d => ("date", d)).toList

def planDetails (b : Backend) (net : Network m) (id : String) (date : Option String) :
    m (Except Failure TripDetail) :=
  b.ask net (detailPath id) (detailQuery date) TripDetail.decoder

end Backend

end Whereto
