import Whereto.Failure
import Whereto.Picker.Field
import Whereto.Picker.Locator
import Whereto.Picker.Note

/-!
Work that takes time. A job asks one question at a time and goes on when it is answered; what it
waits for is its stage.
-/

namespace Whereto

/-- A prediction of the places service: what is shown, and the components of the address. -/
structure Prediction where
  description : String
  components : List String
  deriving DecidableEq, Repr

/-- A prediction without a named place is of no use. -/
def Prediction.suggestion? (p : Prediction) : Option Suggestion :=
  let value := componentsText p.components
  if value.isEmpty then none else some ⟨p.description, value, .primary⟩

def CityRecord.suggestion (r : CityRecord) : Suggestion :=
  ⟨r.token.text, r.token.text, .fallback⟩

/-- What a caller can start and wait for. -/
inductive Call where
  | complete (ticket : Ticket)
  | handle (query : String)
  | lookup (query : String)
  | predict (query : String)
  | fallback (query : String)
  | ensureReady
  | locate
  | useLocation
  deriving DecidableEq, Repr

/-- What becomes of the suggestions that a lookup finds. Only a prediction has no fallback. -/
inductive Purpose where
  | display (ticket : Ticket)
  | offer
  | predictOnly
  deriving DecidableEq, Repr

/-- What a job that nobody waits for is to do: load the predictor for whoever needs it later, or
look up what a ticket asks for. -/
inductive Errand where
  | load
  | complete (ticket : Ticket)
  deriving DecidableEq, Repr

/-- What a job waits for. A job with an errand is spawned before it begins. -/
inductive Stage where
  | spawned (errand : Errand)
  | loading
  | queued
  | predicting (query : String) (purpose : Purpose)
  | searching (purpose : Purpose)
  | positioning (fill : Bool)
  | describing (position : Coordinates) (fill : Bool)

/-- What a job asks of the world: to load a predictor, or to ask the one that a load gave for
predictions; for the cities with a name; for the position of the device, and for its address. -/
inductive Question where
  | load
  | predict (client : Nat) (input : String)
  | cities (term : String)
  | position (options : PositionOptions)
  | address (position : Coordinates)

inductive Reply where
  | loaded (result : Except Failure Unit)
  | predictions (result : Except Failure (List Prediction))
  | cities (result : Except Failure (List CityRecord))
  | position (result : Except LocatingFault Coordinates)
  | address (result : Except Failure Address)

/-- What a finished job answers to its caller. -/
inductive Answer where
  | nothing
  | applied (shown : Bool)
  | offered (suggestions : List Suggestion)
  | ready (failure : Option Failure)
  | picked (suggestion : Option Suggestion)
  deriving DecidableEq, Repr

end Whereto
