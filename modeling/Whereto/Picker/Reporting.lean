import Whereto.Picker.Session
import Whereto.Telemetry.Recorder

/-!
Pickers that report. What is worth noting is told to the telemetry where it happens, if there is
any: a lookup that is shown or comes too late, a position that cannot be found, a text that is
refused. That an event could not be stored is logged, and whoever made it goes on all the same.
-/

namespace Whereto

/-- A recorder in use: the moments at which it records one event after the other, how many of them
are used up, and the events that it could not store when they came. -/
structure Telemetry where
  recorder : Recorder
  moment : Nat → Moment
  used : Nat
  warnings : List (String × StoreFault)

namespace Telemetry

def tell (x : Telemetry) (n : Note) : Telemetry :=
  let moment := x.moment x.used
  let e := n.toEvent moment.timestamp
  match x.recorder.record moment.stamp e with
  | (r, none) => { x with recorder := r, used := x.used + 1 }
  | (r, some fault) =>
    { x with recorder := r, used := x.used + 1, warnings := x.warnings ++ [(e.name, fault)] }

def setEnabled (x : Telemetry) (on : Bool) : Telemetry :=
  { x with recorder := x.recorder.setEnabled on }

end Telemetry

/-- A picker and the telemetry that it reports to, if there is any. -/
structure Reporting where
  picker : Picker
  telemetry : Option Telemetry

namespace Reporting

open Picker (Input Output)

/-- A picker that reports, after an input, with what came out. -/
abbrev Step := Reporting × List Output

/-- A step of the picker with nothing to report. -/
def silent (r : Reporting) (f : Picker → Picker.Step) : Step :=
  let (p, out) := f r.picker
  ({ r with picker := p }, out)

def tell (r : Reporting) (n : Note) : Reporting :=
  match r.telemetry with
  | some x => { r with telemetry := some (x.tell n) }
  | none => r

/-! Looking up suggestions. -/

/-- Shows suggestions, unless they came too late. -/
def apply (r : Reporting) (t : Ticket) (ss : List Suggestion) : Reporting × Bool :=
  if t.generation = r.picker.field.generation then
    let shown := { r with picker := { r.picker with field := r.picker.field.display ss } }
    if r.picker.isShort t.query then (shown, true)
    else (shown.tell (.resolved t.query (ss.head?.map (·.source)) ss.length), true)
  else (r.tell (.discarded t.query t.generation r.picker.field.generation), false)

/-- Ends a lookup. -/
def conclude (r : Reporting) (job : Nat) (purpose : Purpose) (ss : List Suggestion) : Step :=
  match purpose with
  | .display t =>
    let (r, shown) := r.apply t ss
    r.silent (·.done job (.applied shown))
  | .offer => r.silent (·.done job (.offered ss))
  | .predictOnly => r.silent (·.done job (.offered ss))

def complete (r : Reporting) (job : Nat) (t : Ticket) : Step :=
  if r.picker.isShort t.query then r.conclude job (.display t) []
  else r.silent (·.lookup job t.query (.display t))

/-! Locating the device. -/

/-- Ends a lookup of the position. -/
def settle (r : Reporting) (job : Nat) (fill : Bool) : Step :=
  if fill then
    match r.picker.locator.error with
    | some e => (r.tell (.locatingFailed e.message)).silent (·.done job (.picked none))
    | none => r.silent (·.settle job fill)
  else r.silent (·.settle job fill)

def locate (r : Reporting) (job : Nat) (fill : Bool) : Step :=
  if r.picker.locator.locating then r.settle job fill else r.silent (·.locate job fill)

def locatingFailed (r : Reporting) (job : Nat) (fill : Bool) (e : LocatingFault) : Step :=
  { r with picker := { r.picker with locator := r.picker.locator.fail e } }.settle job fill

/-! Inputs. -/

def start (r : Reporting) (call : Call) : Step :=
  let job := r.picker.nextJob
  let q := { r with picker := { r.picker with nextJob := job + 1 } }
  let (q, out) := match call with
    | .complete t => q.complete job t
    | .handle query =>
      let (t, field) := q.picker.field.issue query
      { q with picker := { q.picker with field := field } }.complete job t
    | .lookup query => q.silent (·.lookup job query .offer)
    | .predict query => q.silent (·.lookup job query .predictOnly)
    | .fallback query => q.silent (·.search job query .offer)
    | .ensureReady => q.silent (·.ensureReady job)
    | .locate => q.locate job false
    | .useLocation => q.locate job true
  (q, .started job :: out)

/-- A spawned job begins. -/
def begin (r : Reporting) (job : Nat) : Step :=
  match r.picker.stage? job with
  | some (.spawned (.complete t)) => r.complete job t
  | _ => r.silent (·.begin job)

/-- An answer to a job. -/
def reply (r : Reporting) (job : Nat) (a : Reply) : Step :=
  match r.picker.stage? job, a with
  | some (.predicting query purpose), .predictions result =>
    let ss := Picker.usable result
    if ss.isEmpty then r.silent (·.fallBack job query purpose) else r.conclude job purpose ss
  | some (.searching purpose), .cities result =>
    r.conclude job purpose (Picker.directoryEntries result)
  | some (.positioning fill), .position (.error e) => r.locatingFailed job fill e
  | some (.describing c fill), .address result =>
    let found := r.picker.locator.found ⟨c, Address.describe c result.toOption⟩
    { r with picker := { r.picker with locator := found } }.settle job fill
  | _, _ => r.silent (·.reply job a)

/-- The time for finding the position is over. -/
def expire (r : Reporting) (job : Nat) : Step :=
  match r.picker.stage? job with
  | some (.positioning fill) => r.locatingFailed job fill .timeout
  | _ => (r, [])

def submit (r : Reporting) : Step :=
  match r.picker.field.submit? with
  | some d => (r, [.submitted (some d)])
  | none => (r.tell (.rejected (Text.trim r.picker.field.text)), [.submitted none])

def step (r : Reporting) : Input → Step
  | .submit => r.submit
  | .start call => r.start call
  | .begin job => r.begin job
  | .reply job a => r.reply job a
  | .expire job => r.expire job
  | i => r.silent (·.step i)

end Reporting

/-- A session whose picker reports. -/
structure Monitored where
  session : Session
  telemetry : Option Telemetry

namespace Monitored

open Picker (Input Output)

def picker (m : Monitored) : Picker := m.session.picker

def input (m : Monitored) (i : Input) : Monitored × List Output :=
  let (r, out) := Reporting.step ⟨m.picker, m.telemetry⟩ i
  (⟨{ m.session with picker := r.picker }, r.telemetry⟩, out)

/-- Something that the session does with nothing to report. -/
def silent (m : Monitored) (f : Session → Session × List Output) : Monitored × List Output :=
  let (s, out) := f m.session
  ({ m with session := s }, out)

end Monitored

end Whereto
