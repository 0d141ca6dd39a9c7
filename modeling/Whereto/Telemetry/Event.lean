import Whereto.Digest.QueryHash
import Whereto.Json.Value
import Whereto.Picker.Note
import Whereto.Text.Pieces

/-!
Events as they are logged: one line of JSON each. Queries are logged by their hash.
-/

namespace Whereto

structure Event where
  name : String
  timestamp : String
  payload : Json.Value

namespace Event

def toValue (e : Event) : Json.Value :=
  .object [("name", .string e.name), ("timestamp", .string e.timestamp), ("payload", e.payload)]

def line (e : Event) : String := e.toValue.render

end Event

namespace Note

def eventName : Note → String
  | resolved _ _ _ => "suggestions_resolved"
  | discarded _ _ _ => "suggestions_discarded"
  | locatingFailed _ => "geolocation_failed"
  | rejected _ => "destination_rejected"

def sourceName : Option Source → String
  | some s => s.name
  | none => "none"

/-- The number of pieces between commas. -/
def segments (text : String) : Nat := (Text.cut ',' text.toList).length

def payload : Note → Json.Value
  | resolved query source count =>
    .sorted [("query_hash", .string (Digest.queryHash query)), ("query_len", .int query.length),
      ("source", .string (sourceName source)), ("count", .int count)]
  | discarded query generation latest =>
    .sorted [("query_hash", .string (Digest.queryHash query)), ("generation", .int generation),
      ("latest", .int latest)]
  | locatingFailed reason => .sorted [("reason", .string reason)]
  | rejected text =>
    .sorted [("query_hash", .string (Digest.queryHash text)), ("segments", .int (segments text))]

def toEvent (timestamp : String) (n : Note) : Event := ⟨n.eventName, timestamp, n.payload⟩

end Note

end Whereto
