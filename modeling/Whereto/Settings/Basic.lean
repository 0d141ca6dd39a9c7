import Whereto.Decimal.Read
import Whereto.Json.Value
import Whereto.Picker.Machine
import Whereto.Settings.EnvFile
import Whereto.Telemetry.Recorder

/-!
The settings, read from the environment. A variable that cannot be read counts as not set. The
public profile leaves out the key of the places service and the position of the device; it says
only whether they are there.
-/

namespace Whereto

structure Settings where
  apiBase : String
  placesEndpoint : String
  placesKey : Option String
  debounceMs : Nat
  minChars : Nat
  position : PositionOptions
  httpTimeoutSecs : Nat
  devicePosition : Option Coordinates
  dataDir : String
  recorder : RecorderOptions

namespace Settings

def defaultApiBase : String := "http://localhost:10000/v1"

def defaultPlacesEndpoint : String :=
  "https://maps.googleapis.com/maps/api/place/autocomplete/json"

def defaultMaxBytes : Nat := 5242880
def defaultMaxFiles : Nat := 5

/-- The directory for events below the one for temporary files. -/
def defaultDirName : String := "destination-resolver"

def flag (env : Environment) (name : String) (default : Bool) : Bool :=
  match env.get? name with
  | some text => ["1", "true", "TRUE", "True"].contains (Text.trim text)
  | none => default

/-- Digits, perhaps with a plus sign before them, of a number below `2 ^ 64`. -/
def natural? (text : String) : Option Nat :=
  let ds := match text.toList with
    | '+' :: ds => ds
    | ds => ds
  if ds.isEmpty || !ds.all Decimal.isDigit then none
  else
    let n := Decimal.digitsValue ds
    if n < Nat.pow 2 64 then some n else none

def natural (env : Environment) (name : String) (default : Nat) : Nat :=
  ((env.get? name).bind natural?).getD default

/-- The value of a variable that is not blank. -/
def filled? (env : Environment) (name : String) : Option String :=
  Text.nonBlank? (env.get? name)

def degrees? (env : Environment) (name : String) : Option Float :=
  ((env.get? name).bind fun text => Decimal.read? (Text.trim text)).filter (·.isFinite)

def devicePosition? (env : Environment) : Option Coordinates :=
  match degrees? env "DEVICE_LATITUDE", degrees? env "DEVICE_LONGITUDE" with
  | some latitude, some longitude => some ⟨latitude, longitude⟩
  | _, _ => none

/-- A name below a directory. -/
def below (dir name : String) : String :=
  if dir.isEmpty then name
  else if dir.toList.getLast? = some '/' then dir ++ name
  else dir ++ "/" ++ name

def dirFor (env : Environment) : String :=
  (env.get? "DATA_DIR").getD (below ((env.get? "TMPDIR").getD "/tmp") defaultDirName)

def ofEnvironment (env : Environment) : Settings where
  apiBase := (filled? env "API_BASE_URL").getD defaultApiBase
  placesEndpoint := (filled? env "PLACES_AUTOCOMPLETE_ENDPOINT").getD defaultPlacesEndpoint
  placesKey := filled? env "GOOGLE_PLACES_API_KEY"
  debounceMs := natural env "SUGGESTION_DEBOUNCE_MS" 300
  minChars := max (natural env "SUGGESTION_MIN_CHARS" 2) 1
  position := ⟨natural env "GEOLOCATION_TIMEOUT_MS" 10000,
    flag env "GEOLOCATION_HIGH_ACCURACY" true⟩
  httpTimeoutSecs := max (natural env "HTTP_TIMEOUT_SECS" 10) 1
  devicePosition := devicePosition? env
  dataDir := dirFor env
  recorder := ⟨flag env "TELEMETRY_ENABLED" true, max (natural env "TELEMETRY_BATCH_SIZE" 25) 1,
    ⟨natural env "TELEMETRY_BUFFER_MAX_BYTES" defaultMaxBytes,
      max (natural env "TELEMETRY_BUFFER_MAX_FILES" defaultMaxFiles) 1⟩⟩

/-- The settings of an environment and of a file that adds to it. -/
def read (env : Environment) (file : Option String) : Settings :=
  ofEnvironment ((file.map (EnvFile.load env)).getD env)

def picker (s : Settings) : PickerOptions := ⟨s.minChars, s.position⟩

/-- What may be shown of the settings. -/
structure Profile where
  apiBase : String
  placesEndpoint : String
  debounceMs : Nat
  minChars : Nat
  position : PositionOptions
  httpTimeoutSecs : Nat
  hasDevicePosition : Bool
  dataDir : String
  telemetryEnabled : Bool
  telemetryBatch : Nat
  hasPlacesKey : Bool
  deriving DecidableEq, Repr

def profile (s : Settings) : Profile where
  apiBase := s.apiBase
  placesEndpoint := s.placesEndpoint
  debounceMs := s.debounceMs
  minChars := s.minChars
  position := s.position
  httpTimeoutSecs := s.httpTimeoutSecs
  hasDevicePosition := s.devicePosition.isSome
  dataDir := s.dataDir
  telemetryEnabled := s.recorder.enabled
  telemetryBatch := s.recorder.batch
  hasPlacesKey := s.placesKey.isSome

def Profile.toValue (p : Profile) : Json.Value :=
  .object [("api_base_url", .string p.apiBase),
    ("places_autocomplete_endpoint", .string p.placesEndpoint),
    ("debounce_ms", .int p.debounceMs), ("min_query_chars", .int p.minChars),
    ("geolocation_timeout_ms", .int p.position.timeoutMs),
    ("geolocation_high_accuracy", .bool p.position.highAccuracy),
    ("http_timeout_secs", .int p.httpTimeoutSecs),
    ("has_device_position", .bool p.hasDevicePosition), ("data_dir", .string p.dataDir),
    ("telemetry_enabled_by_default", .bool p.telemetryEnabled),
    ("telemetry_batch_size", .int p.telemetryBatch),
    ("has_google_places_key", .bool p.hasPlacesKey)]

end Settings

end Whereto
