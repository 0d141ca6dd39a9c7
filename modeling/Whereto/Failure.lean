import Whereto.Json.Doc
import Whereto.Telemetry.Recorder
import Whereto.Url.Fault

/-!
The ways in which an operation can fail.
-/

namespace Whereto

/-- What is wrong with the settings, or with an answer that they led to. -/
inductive ConfigFault where
  | missingKey
  | badBase (fault : Url.Fault)
  | opaqueBase
  | noAddress
  | other (text : String)
  deriving DecidableEq, Repr

/-- Why a request over the network gave no result. -/
inductive HttpFault where
  | status (code : Nat)
  | decode
  | builder
  | transport
  deriving DecidableEq, Repr

inductive Failure where
  | unpicked
  | config (fault : ConfigFault)
  | store (fault : StoreFault)
  | json (fault : Json.Fault)
  | http (fault : HttpFault)
  deriving DecidableEq, Repr

def ConfigFault.message : ConfigFault → String
  | missingKey => "GOOGLE_PLACES_API_KEY is not configured"
  | badBase fault => "invalid API base URL: " ++ fault.message
  | opaqueBase => "invalid API base URL"
  | noAddress => "reverse geocoding returned no result"
  | other text => text

end Whereto
