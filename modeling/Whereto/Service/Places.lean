import Whereto.Http.Network
import Whereto.Picker.Job
import Whereto.Settings.Basic

/-!
The places service, which predicts the city that is being typed. It is asked with a key, and it
says `OK` when it has something to offer.
-/

namespace Whereto

/-- The places service at its endpoint. -/
structure Places where
  endpoint : String
  key : String

namespace Places

open Json.Decoder (string list optional)
open Json.RecordDecoder (field fieldOr)

variable {m : Type → Type} [Monad m]

/-- Only cities are asked for. -/
def types : String := "(cities)"

def okStatus : String := "OK"

def term : Json.Decoder String := (field ["value"] string).decoder

def prediction : Json.Decoder Prediction :=
  (Prediction.mk <$> field ["description"] string <*> fieldOr ["terms"] (list term) []).decoder

/-- The predictions of an answer with a status. -/
def offered (status : String) (ps : List Prediction) (_message : Option String) :
    List Prediction :=
  if status = okStatus then ps else []

def decoder : Json.Decoder (List Prediction) :=
  (offered <$> field ["status"] string <*> fieldOr ["predictions"] (list prediction) []
    <*> fieldOr ["error_message"] (optional string) none).decoder

/-- The predictor that the settings allow. -/
def load (s : Settings) : Except Failure Places :=
  match s.placesKey with
  | some key => .ok ⟨s.placesEndpoint, key⟩
  | none => .error (.config .missingKey)

def query (p : Places) (input : String) : List (String × String) :=
  [("input", input), ("types", types), ("key", p.key)]

def predict (p : Places) (net : Network m) (input : String) :
    m (Except Failure (List Prediction)) :=
  match Url.read p.endpoint with
  | .error _ => return .error (.http .builder)
  | .ok url => return (← net.fetch ⟨url.withQuery (p.query input), none⟩ decoder).mapError .http

end Places

end Whereto
