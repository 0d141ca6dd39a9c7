import Whereto.Picker.Rehearsal
import Whereto.Service.Backend
import Whereto.Service.Places

/-!
All services together: one backend, one predictor and one locator, shared by every field that is
filled with their help, and one recorder for all that is noted.
-/

namespace Whereto

structure Services where
  settings : Settings
  timeline : Timeline
  recorder : Recorder
  /-- How many moments were used up. -/
  moments : Nat

namespace Services

variable {m : Type → Type} [Monad m]

/-- How questions are answered: at once, by the services over the network. -/
def world (s : Settings) (net : Network m) : Timeline.World m
  | .load => return some (0, .loaded ((Places.load s).map fun _ => ()))
  | .predict _ input => do
    match Places.load s with
    | .error e => return some (0, .predictions (.error e))
    | .ok places => return some (0, .predictions (← places.predict net input))
  | .cities term => return some (0, .cities (← (Backend.of s).cities net term))
  | .position _ =>
    match s.devicePosition with
    | some c => return some (0, .position (.ok c))
    | none => return some (0, .position (.error .unsupported))
  | .address c => return some (0, .address (← (Backend.of s).address net c))

def picker (s : Services) : Picker := s.timeline.picker

def backend (s : Services) : Backend := Backend.of s.settings

/-- Goes on with a timeline that has reported, and takes what it reported to off it. -/
def resume (s : Services) (t : Timeline) : Services :=
  match t.telemetry with
  | some x => ⟨s.settings, t.attach none, x.recorder, x.used⟩
  | none => { s with timeline := t.attach none }

/-- Does something with the timeline, which reports to the recorder meanwhile. -/
def run {α : Type} (s : Services) (moment : Nat → Moment) (f : Timeline → m (Timeline × α)) :
    m (Services × α) := do
  let (t, a) ← f (s.timeline.attach (some ⟨s.recorder, moment, s.moments, []⟩))
  return (s.resume t, a)

def startEvent (s : Settings) (timestamp : String) : Event :=
  ⟨"resolver_start", timestamp, .sorted [("version", .string Backend.version),
    ("has_places_key", .bool s.placesKey.isSome)]⟩

/-- Starts the services on a directory. `warm` says whether the predictor is loaded right away. -/
def start (s : Settings) (net : Network m) (moment : Nat → Moment) (archive : Archive)
    (warm : Bool) : m Services := do
  let t := Timeline.new (.bare (Picker.new s.picker .unloaded))
  let t ← if warm then t.act (world s net) .warmUp else pure t
  let recorder := Recorder.start s.recorder archive
  let (recorder, _) := recorder.record (moment 0).stamp (startEvent s (moment 0).timestamp)
  return ⟨s, t, recorder, 1⟩

def act (s : Services) (net : Network m) (moment : Nat → Moment) (i : Picker.Input) :
    m Services := do
  let (s, ()) ← s.run moment fun t => return (← t.act (world s.settings net) i, ())
  return s

def call (s : Services) (net : Network m) (moment : Nat → Moment) (c : Call) :
    m (Services × Option Answer) :=
  s.run moment (Timeline.call (world s.settings net) · c)

/-- Types a text and looks it up. -/
def search (s : Services) (net : Network m) (moment : Nat → Moment) (text : String) :
    m (Services × Bool) :=
  s.run moment (Timeline.search (world s.settings net) · text)

/-- The field if it can be used, and a note if it cannot. -/
def submit (s : Services) (net : Network m) (moment : Nat → Moment) :
    m (Services × Option Destination) :=
  s.run moment (Timeline.submit (world s.settings net))

/-- Goes on with an empty field. -/
def renew (s : Services) : Services := { s with timeline := s.timeline.renew }

/-- Types texts one after the other without a pause into an empty field, and waits until they
are looked up. -/
def session (s : Services) (net : Network m) (moment : Nat → Moment) (texts : List String) :
    m Services := do
  let (s, ()) ← s.run moment fun t =>
    return (← t.typeAll (world s.settings net) s.settings.debounceMs texts, ())
  return s

/-- Stores what the recorder holds. -/
def shutdown (s : Services) (moment : Nat → Moment) : Services :=
  { s with recorder := (s.recorder.flush (moment s.moments).stamp).1, moments := s.moments + 1 }

end Services

end Whereto
