import Whereto.Json.Decode
import Whereto.Json.Value

/-!
Suggestions: the entries of the list below the destination field.
-/

namespace Whereto

/-- Where a suggestion comes from: the places service, the city directory, or the position of
the device. -/
inductive Source where
  | primary
  | fallback
  | geolocation
  deriving DecidableEq, Repr

/-- An entry of the list. The label is shown; the value goes into the field when the entry is
picked. -/
structure Suggestion where
  label : String
  value : String
  source : Source
  deriving DecidableEq, Repr

namespace Source

def name : Source → String
  | primary => "primary"
  | fallback => "fallback"
  | geolocation => "geolocation"

def ofName? (name : String) : Option Source :=
  [primary, fallback, geolocation].find? fun s => s.name = name

def decoder : Json.Decoder Source := Json.Decoder.choice ofName?

def toValue (s : Source) : Json.Value := .string s.name

end Source

namespace Suggestion

open Json.Decoder (string)
open Json.RecordDecoder (field)

def record : Json.RecordDecoder Suggestion :=
  Suggestion.mk <$> field ["label"] string <*> field ["value"] string
    <*> field ["source"] Source.decoder

def decoder : Json.Decoder Suggestion := record.decoder

def toValue (s : Suggestion) : Json.Value :=
  .object [("label", .string s.label), ("value", .string s.value), ("source", s.source.toValue)]

end Suggestion

end Whereto
