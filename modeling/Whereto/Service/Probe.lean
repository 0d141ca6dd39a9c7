import Whereto.Service.Services

/-!
The probe: looks up what its arguments say, or locates the device, and prints what it found and
whether that can be used as a destination.
-/

namespace Whereto

namespace Probe

variable {m : Type → Type} [Monad m]

/-- What the probe prints, and the code it ends with. -/
structure Report where
  code : Nat
  output : String
  errors : String
  deriving DecidableEq, Repr

def locateFlag : String := "--locate"

def usage : String := "usage: destination-probe <text> | destination-probe --locate"

def startFailure : String := "failed to initialize destination services"

/-- The text of a failure and its causes. -/
def errorText (message : String) (cause : Option String) : String :=
  "Error: " ++ message ++ "\n" ++
    ((cause.map fun c => "\nCaused by:\n    " ++ c ++ "\n").getD "")

def failed (message : String) (cause : Option String) : Report :=
  ⟨1, "", errorText message cause⟩

def suggestionLine (s : Suggestion) : String :=
  s.source.name ++ "\t" ++ s.value ++ "\t" ++ s.label ++ "\n"

def locatedLine (s : Suggestion) : String := s.value ++ "\t" ++ s.label ++ "\n"

def flagText (b : Bool) : String := if b then "true" else "false"

def destinationLine : Option Destination → String
  | some d => "destination: " ++ d.location ++ " (precise: " ++ flagText d.precise ++ ")\n"
  | none => "destination: " ++ Destination.pickFromList ++ "\n"

/-- The arguments as one query. -/
def query (args : List String) : String := " ".intercalate args

/-- Prints the destination and stores what was recorded. -/
def finish (s : Services) (net : Network m) (moment : Nat → Moment) (output : String) :
    m (Services × Report) := do
  let (s, destination) ← s.submit net moment
  return (s.shutdown moment, ⟨0, output ++ destinationLine destination, ""⟩)

def locate (s : Services) (net : Network m) (moment : Nat → Moment) : m (Services × Report) := do
  let (s, answer) ← s.call net moment .useLocation
  match answer with
  | some (.picked (some found)) => finish s net moment (locatedLine found)
  | _ =>
    let reason := s.picker.locator.error.map (·.message)
    return (s, failed (reason.getD "no position available") none)

def lookup (s : Services) (net : Network m) (moment : Nat → Moment) (text : String) :
    m (Services × Report) := do
  let (s, _) ← s.search net moment text
  let lines := s.picker.field.suggestions.map suggestionLine
  let s ← s.act net moment (.selectIndex 0)
  finish s net moment (String.join lines)

/-- Runs the probe; without arguments it does not start the services. -/
def run (settings : Settings) (net : Network m) (moment : Nat → Moment)
    (archive : Except StoreFault Archive) (args : List String) :
    m (Option Services × Report) := do
  match args with
  | [] => return (none, failed usage none)
  | first :: _ =>
    match archive with
    | .error f => return (none, failed startFailure (some f.message))
    | .ok archive =>
      let s ← Services.start settings net moment archive true
      let (s, report) ← if first = locateFlag then locate s net moment
        else lookup s net moment (query args)
      return (some s, report)

end Probe

end Whereto
