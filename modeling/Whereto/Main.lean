import Std.Async.DNS
import Std.Async.TCP
import Std.Time.DateTime.Timestamp
import Whereto.Http.Wire
import Whereto.Service.Probe
import Whereto.Telemetry.Clock

/-!
The command line of the probe. Here the environment, the data directory, the clock and the
network are those of the machine; all that is done with them is done elsewhere. Connections are
not encrypted, so a request for an encrypted one fails as if nobody answered.
-/

namespace Whereto.CommandLine

/-- The variables that the settings are read from. -/
def names : List String :=
  ["API_BASE_URL", "PLACES_AUTOCOMPLETE_ENDPOINT", "GOOGLE_PLACES_API_KEY",
    "SUGGESTION_DEBOUNCE_MS", "SUGGESTION_MIN_CHARS", "GEOLOCATION_TIMEOUT_MS",
    "GEOLOCATION_HIGH_ACCURACY", "HTTP_TIMEOUT_SECS", "DEVICE_LATITUDE", "DEVICE_LONGITUDE",
    "DATA_DIR", "TMPDIR", "TELEMETRY_ENABLED", "TELEMETRY_BATCH_SIZE",
    "TELEMETRY_BUFFER_MAX_BYTES", "TELEMETRY_BUFFER_MAX_FILES"]

/-- The words of a file, which may be names of variables. -/
def words (text : String) : List String :=
  (text.toList.splitBy fun a b => EnvFile.inName a = EnvFile.inName b).map String.ofList

def environment (file : Option String) : IO Environment := do
  let mut env : Environment := []
  for name in names ++ words (file.getD "") do
    if let some value ← IO.getEnv name then
      env := env.setIfUnset name value
  return env

/-- The file `.env` of the working directory or of the nearest directory above it. -/
def envFile? : IO (Option String) := do
  let mut dir := some (← IO.currentDir)
  for _ in [0:64] do
    match dir with
    | none => return none
    | some d =>
      let path := d / ".env"
      if ← path.pathExists then
        return (← IO.FS.readFile path)
      dir := d.parent
  return none

/-- The files with events in a directory, which is made if need be. -/
def openArchive (dir : String) : IO (Except StoreFault Archive) := do
  let path := (← IO.currentDir) / dir
  if (← path.pathExists) && !(← path.isDir) then
    return .error .exists
  try
    IO.FS.createDirAll path
  catch _ =>
    return .error .notDirectory
  if ← (path / Archive.bufferName).isDir then
    return .error .isDirectory
  let mut archive : Archive := []
  for entry in ← path.readDir do
    if entry.fileName = Archive.bufferName || Archive.isAside entry.fileName then
      let found : Entry ← if ← entry.path.isDir then pure .directory
        else pure (.file (← IO.FS.readFile entry.path))
      archive := Keyed.put entry.fileName found archive
  return .ok archive

/-- Writes what is new in the second archive, and removes what is gone. -/
def saveArchive (dir : String) (old new : Archive) : IO Unit := do
  let path := (← IO.currentDir) / dir
  for (name, entry) in new do
    if Keyed.get? name old ≠ some entry then
      IO.FS.writeFile (path / name) entry.content
  for (name, _) in old do
    if (Keyed.get? name new).isNone then
      IO.FS.removeFile (path / name)

/-- The moments that follow the present one. -/
def moments : IO (Nat → Moment) := do
  let now ← Std.Time.Timestamp.now
  let nanoseconds := now.toNanosecondsSinceUnixEpoch.val.toNat
  return fun n => Moment.ofClock (nanoseconds + n * 1000000)

/-- The socket address of a host and a port. -/
def socketAddress (host : Std.Net.IPAddr) (port : Nat) : Std.Net.SocketAddress :=
  match host with
  | .v4 addr => .v4 ⟨addr, port.toUInt16⟩
  | .v6 addr => .v6 ⟨addr, port.toUInt16⟩

/-- All that is received until the connection is closed; no more than the fuel allows pieces. -/
def receive (socket : Std.Async.TCP.Socket.Client) :
    Nat → ByteArray → Std.Async.Async ByteArray
  | 0, bytes => return bytes
  | fuel + 1, bytes => do
    match ← socket.recv? 65536 with
    | some piece => receive socket fuel (bytes ++ piece)
    | none => return bytes

def exchange (r : Request) : Std.Async.Async (Option Response) := do
  let hosts ← Std.Async.DNS.getAddrInfo r.hostName ""
  match hosts[0]? with
  | none => return none
  | some host =>
    let socket ← Std.Async.TCP.Socket.Client.mk
    socket.connect (socketAddress host r.port)
    socket.send r.wireText.toUTF8
    let bytes ← receive socket 65536 ByteArray.empty
    return Response.ofBytes? bytes.toList

/-- The network of the machine. -/
def network : Network IO := fun r => do
  if r.url.scheme ≠ "http" then return none
  try
    (exchange r).block
  catch _ =>
    return none

def run (args : List String) : IO UInt32 := do
  let file ← envFile?
  let settings := Settings.read (← environment file) file
  let opened ← if args.isEmpty then pure (.ok []) else openArchive settings.dataDir
  let (services, report) ← Probe.run settings network (← moments) opened args
  if let some s := services then
    if let some new := s.recorder.archive then
      saveArchive settings.dataDir (opened.toOption.getD []) new
  IO.print report.output
  IO.eprint report.errors
  return report.code.toUInt32

end Whereto.CommandLine

/-- Runs the probe on the arguments. -/
def main (args : List String) : IO UInt32 := Whereto.CommandLine.run args
