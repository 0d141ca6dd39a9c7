import Whereto.Telemetry.Archive
import Whereto.Telemetry.Event

/-!
The recorder of events. Events wait in a queue until there is a batch of them, which is then
stored as a whole; if it cannot be stored they go on waiting. Without its directory the recorder
cannot store anything.
-/

namespace Whereto

/-- The time of an operation, as events show it and as the names of files show it. -/
structure Moment where
  timestamp : String
  stamp : String
  deriving DecidableEq, Repr

/-- Why nothing could be stored. -/
inductive StoreFault where
  | missing
  | exists
  | notDirectory
  | isDirectory
  | longName
  | brokenName
  deriving DecidableEq, Repr

namespace StoreFault

def message : StoreFault → String
  | missing => "No such file or directory (os error 2)"
  | .exists => "File exists (os error 17)"
  | notDirectory => "Not a directory (os error 20)"
  | isDirectory => "Is a directory (os error 21)"
  | longName => "File name too long (os error 36)"
  | brokenName => "file name contained an unexpected NUL byte"

end StoreFault

structure RecorderOptions where
  enabled : Bool
  batch : Nat
  limits : Limits
  deriving DecidableEq, Repr

namespace RecorderOptions

/-- A batch has at least one event. -/
def batchSize (o : RecorderOptions) : Nat := max o.batch 1

end RecorderOptions

/-- A recorder with its queue and its directory, if that exists. -/
structure Recorder where
  options : RecorderOptions
  enabled : Bool
  queue : List Event
  archive : Option Archive

namespace Recorder

/-- A recorder on a directory, in which it opens the buffer file. -/
def start (options : RecorderOptions) (archive : Archive) : Recorder :=
  ⟨options, options.enabled, [], some archive.opened⟩

def depth (r : Recorder) : Nat := r.queue.length

def setEnabled (r : Recorder) (on : Bool) : Recorder := { r with enabled := on }

/-- Stores the events of the queue. -/
def flush (r : Recorder) (stamp : String) : Recorder × Option StoreFault :=
  if r.queue.isEmpty then (r, none)
  else
    match r.archive with
    | none => (r, some .missing)
    | some a =>
      let stored := a.store r.options.limits stamp (r.queue.map Event.line)
      ({ r with queue := [], archive := some stored }, none)

/-- Takes an event if the recorder is enabled, and stores the queue once it holds a batch. -/
def record (r : Recorder) (stamp : String) (e : Event) : Recorder × Option StoreFault :=
  if r.enabled then
    let queued := { r with queue := r.queue ++ [e] }
    if r.options.batchSize ≤ queued.depth then queued.flush stamp else (queued, none)
  else (r, none)

/-- Records a note; that it could not be stored is no concern of whoever made it. -/
def note (r : Recorder) (at' : Moment) (n : Note) : Recorder :=
  (r.record at'.stamp (n.toEvent at'.timestamp)).1

/-- The directory is removed with all its files. -/
def removeDirectory (r : Recorder) : Recorder := { r with archive := none }

/-- The directory is made anew if it is gone. -/
def makeDirectory (r : Recorder) : Recorder := { r with archive := some (r.archive.getD []) }

/-- Somebody else writes a file into the directory. -/
def plant (r : Recorder) (name content : String) : Recorder :=
  { r with archive := r.archive.map (·.plant name content) }

end Recorder

end Whereto
