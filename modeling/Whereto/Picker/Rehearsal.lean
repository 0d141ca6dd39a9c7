import Whereto.Picker.Timeline

/-!
Rehearsals: a timeline whose world follows a script. For each kind of question the script has a
list of replies; they are given one after the other, and the last of them over and over.
-/

namespace Whereto

/-- A reply and the milliseconds it takes; without them it never comes. -/
structure Cue (α : Type) where
  delay : Option Nat
  value : α

/-- Replies by the text that was asked about. -/
structure CueTable (α : Type) where
  rows : List (String × List (Cue α))

inductive PositionScript where
  | unsupported
  | fixed (position : Coordinates)
  | scripted (cues : List (Cue (Except LocatingFault Coordinates)))

structure Script where
  loads : List (Cue (Except Failure Unit))
  predictions : CueTable (Except Failure (List Prediction))
  cities : CueTable (Except Failure (List CityRecord))
  position : PositionScript
  addresses : List (Cue (Except Failure Address))

namespace Cue

variable {α : Type}

def now (a : α) : Cue α := ⟨some 0, a⟩

/-- The cue that comes next, if there is any, and those after it. -/
def next? : List (Cue α) → Option (Cue α) × List (Cue α)
  | [] => (none, [])
  | [c] => (some c, [c])
  | c :: cs => (some c, cs)

def reply (c : Cue α) (f : α → Reply) : Option (Nat × Reply) :=
  c.delay.map fun d => (d, f c.value)

end Cue

namespace CueTable

variable {α : Type}

/-- The row for any text that has none of its own. -/
def anyText : String := "*"

/-- The row for a text. -/
def rowFor? (t : CueTable α) (text : String) : Option String :=
  [text, anyText].find? fun key => t.rows.any (·.1 = key)

def next? (t : CueTable α) (text : String) : Option (Cue α) × CueTable α :=
  match t.rowFor? text with
  | none => (none, t)
  | some key =>
    match t.rows.lookup key with
    | none => (none, t)
    | some cues =>
      let (c, rest) := Cue.next? cues
      (c, ⟨t.rows.map fun row => if row.1 = key then (key, rest) else row⟩)

end CueTable

namespace Script

/-- A reply where the script has none: success, and nothing found. -/
def answer (q : Question) : StateM Script (Option (Nat × Reply)) := do
  let s ← get
  match q with
  | .load =>
    let (c, rest) := Cue.next? s.loads
    set { s with loads := rest }
    return (c.getD (.now (.ok ()))).reply .loaded
  | .predict _ input =>
    let (c, rest) := s.predictions.next? input
    set { s with predictions := rest }
    return (c.getD (.now (.ok []))).reply .predictions
  | .cities term =>
    let (c, rest) := s.cities.next? term
    set { s with cities := rest }
    return (c.getD (.now (.ok []))).reply .cities
  | .position _ =>
    match s.position with
    | .unsupported => return some (0, .position (.error .unsupported))
    | .fixed p => return some (0, .position (.ok p))
    | .scripted cues =>
      let (c, rest) := Cue.next? cues
      set { s with position := .scripted rest }
      return (c.getD (.now (.ok ⟨0.0, 0.0⟩))).reply .position
  | .address _ =>
    let (c, rest) := Cue.next? s.addresses
    set { s with addresses := rest }
    return (c.getD (.now (.ok ⟨none, none, none⟩))).reply .address

end Script

/-- A timeline, the script of its world, and the recorder that its notes go to. -/
structure Rehearsal where
  timeline : Timeline
  script : Script
  recorder : Option Recorder
  moments : Nat

/-- What is done in one step of a rehearsal. -/
inductive Act where
  | input (i : Picker.Input)
  | typeText (text : String)
  | endTyping
  | wait (ms : Nat)
  | call (c : Call)
  | spawn (c : Call)
  | enable (on : Bool)

/-- What a step gave: what came out, and what the call that it waited for answered. -/
structure Outcome where
  trace : List (Nat × Picker.Output)
  answer : Option Answer
  job : Option Nat

/-- What is done in one step, and what it gives. -/
def Timeline.play {m : Type → Type} [Monad m] (world : Timeline.World m) (t : Timeline) :
    Act → m (Timeline × Outcome)
  | .input i => do
    let (trace, t) := (← t.act world i).collect
    return (t, ⟨trace, none, none⟩)
  | .typeText text => do
    let (trace, t) := (← t.typeText world text).collect
    return (t, ⟨trace, none, none⟩)
  | .endTyping => return (t.endTyping, ⟨[], none, none⟩)
  | .wait ms => do
    let (trace, t) := (← t.wait world ms).collect
    return (t, ⟨trace, none, none⟩)
  | .call c => do
    let (t, answer) ← t.call world c
    let (trace, t) := t.collect
    return (t, ⟨trace, answer, none⟩)
  | .spawn c => do
    let (t, job) ← t.spawn world c
    let (trace, t) := t.collect
    return (t, ⟨trace, none, some job⟩)
  | .enable on => return (t.attach (t.telemetry.map (·.setEnabled on)), ⟨[], none, none⟩)

/-- A step in which the timeline reports to the recorder, if there is one. -/
def Rehearsal.perform (moment : Nat → Moment) (r : Rehearsal) (a : Act) : Rehearsal × Outcome :=
  let telemetry := r.recorder.map fun recorder => ⟨recorder, moment, r.moments, []⟩
  let ((t, outcome), script) := ((r.timeline.attach telemetry).play Script.answer a).run r.script
  (⟨t.attach none, script, t.telemetry.map (·.recorder),
    (t.telemetry.map (·.used)).getD r.moments⟩, outcome)

end Whereto
